import EmbeddedClient.Wire.Streams
import EmbeddedClient.Support.Message
import EmbeddedClient.Wire.Cell
import EmbeddedClient.Beacons.Dated

/-!
# The submessage of the APs

The APs of a request go out as lists of one field each, packed into strings. Frequencies
and ages that are all the same are replaced by one number. A reader that follows the field
types of the message description gets the same list from both forms.
-/

namespace EmbeddedClient

open Varint Runs

/-- An AP as the server reads it. -/
structure ApReport where
  mac : Vector UInt8 6
  freq : ℤ
  rssi : ℤ
  age : ℤ
  deriving DecidableEq, Repr

structure ApsReport where
  connected : Option ℤ
  aps : List ApReport
  deriving DecidableEq, Repr

/-- The address with these six bytes, the most significant one first. -/
def macOfInt (value : ℕ) : Vector UInt8 6 :=
  Vector.ofFn fun i => UInt8.ofNat (value / 256 ^ (5 - i.val))

def readUint32 (value : ℕ) : ℤ := (value % 2 ^ 32 : ℕ)

def readInt32 (value : ℕ) : ℤ := (value : ℤ).bmod (2 ^ 32)

/-- A list that is given as one number plus one for all of `n` elements, or packed. -/
def readOptimized (fields : List Field) (n tag1 tag2 : ℕ) (read : ℕ → ℤ) : Option (List ℤ) :=
  match plusOne (intValue tag1 fields % 2 ^ 32) with
  | some value => some (List.replicate n value)
  | none => (readPacked (bytesValue tag2 fields)).map (List.map read)

/-- The reader of `Aps`, with the field types of `Aps_FIELDLIST`; the lists are of one length. -/
def decodeAps (input : List UInt8) : Option ApsReport := do
  let fields ← readMessage input
  let macs ← readPacked (bytesValue 4 fields)
  let freqs ← readOptimized fields macs.length 2 5 readInt32
  let negRssis ← readPacked (bytesValue 6 fields)
  let ages ← readOptimized fields macs.length 3 7 readUint32
  if freqs.length = macs.length ∧ negRssis.length = macs.length ∧ ages.length = macs.length then
    return {
      connected := plusOne (intValue 1 fields % 2 ^ 32)
      aps := (macs.zip (freqs.zip (negRssis.zip ages))).map fun ap =>
        ⟨macOfInt ap.1, ap.2.1, -readUint32 ap.2.2.1, ap.2.2.2⟩ }
  else none

def Beacon.apReport (b : Beacon) : ApReport :=
  ⟨b.ap.mac, b.ap.freq.toNat, b.h.rssi.toInt, b.h.age.toNat⟩

/-- What a request holds of the APs. -/
def SkyRctx.apsReport (r : SkyRctx) : ApsReport where
  connected := (r.aps.findIdx? fun b => b.h.connected).map fun i : ℕ => (i : ℤ)
  aps := r.aps.map Beacon.apReport

/-- An AP that has passed the checks of `add_beacon`, of its fields and of its time. -/
structure Beacon.AcceptedAp (b : Beacon) : Prop where
  isApType : b.isApType = true
  accepted : b.Accepted
  age : ∃ requestTime timestamp, beaconAge requestTime timestamp = .ok b.h.age

def packedField (number : ℕ) (values : List ℤ) : Field :=
  .bytes number (values.flatMap pbEncodeVarint)

def connectedFields (aps : List Beacon) : List Field :=
  match aps.findIdx? fun b => b.h.connected with
  | some i => [.int 1 (i + 1)]
  | none => []

def optimizedField (common : Bool) (tag1 tag2 : ℕ) (values : List ℤ) : Field :=
  if common then .int tag1 (word (values.headD 0 + 1)) else packedField tag2 values

/-- The fields of a list of APs, with the form of the frequencies and of the ages. -/
def apFields (commonFreq commonAge : Bool) (aps : List Beacon) : List Field :=
  connectedFields aps ++
  [packedField 4 (aps.map fun b => macToInt b.ap.mac),
    optimizedField commonFreq 2 5 (aps.map fun b => (b.ap.freq.toNat : ℤ)),
    packedField 6 (aps.map fun b => -b.h.rssi.toInt),
    optimizedField commonAge 3 7 (aps.map fun b => (b.h.age.toNat : ℤ))]

def AllSame (values : List ℤ) : Prop := ∀ value ∈ values, value = values.headD 0

instance (values : List ℤ) : Decidable (AllSame values) :=
  inferInstanceAs (Decidable (∀ value ∈ values, value = values.headD 0))

/-- The form that `encode_optimized_repeated_field` chooses. -/
def sendsCommon (values : List ℤ) : Bool := 1 < values.length ∧ AllSame values

theorem pbEncodeVarint_natCast {n : ℕ} (small : n < 2 ^ 64) :
    pbEncodeVarint n = Varint.encode n := by
  unfold pbEncodeVarint
  congr 1
  omega

theorem length_pbEncodeVarint_le (value : ℤ) : (pbEncodeVarint value).length ≤ 10 :=
  length_encode_le (k := 9) (by omega)

theorem length_packed_le (values : List ℤ) :
    (values.flatMap pbEncodeVarint).length ≤ 10 * values.length := by
  induction values with
  | nil => simp
  | cons value values ih =>
    have first := length_pbEncodeVarint_le value
    rw [List.flatMap_cons, List.length_append, List.length_cons]
    omega

/-- The slots of a context hold its APs. -/
structure SkyRctx.HoldsAps (r : SkyRctx) : Prop where
  slots : r.beacon.length = TOTAL_BEACONS + 1
  numAp_le : r.numAp ≤ TOTAL_BEACONS + 1

variable {r : SkyRctx}

theorem SkyRctx.HoldsAps.length_aps (holds : r.HoldsAps) : r.aps.length = r.numAp := by
  rw [SkyRctx.aps, List.length_take, holds.slots, Nat.min_eq_left holds.numAp_le]

theorem SkyRctx.HoldsAps.map_slot {α : Type*} (holds : r.HoldsAps) (f : Beacon → α) :
    (List.range r.numAp).map (fun i : ℕ => f (r.slot i)) = r.aps.map f := by
  apply List.ext_getElem (by simp [holds.length_aps])
  intro i below _
  rw [List.length_map, List.length_range] at below
  have inside : i < r.beacon.length := by
    rw [holds.slots]
    exact below.trans_le holds.numAp_le
  simp [SkyRctx.slot, SkyRctx.aps, inside]

theorem encodeRepeatedIntField_eq (holds : r.HoldsAps) (tag : ℕ) (f : Beacon → ℤ) :
    encodeRepeatedIntField tag r.numAp (fun i => f (r.slot i)) =
      (packedField tag (r.aps.map f)).encode := by
  have data : (List.range r.numAp).flatMap (fun i : ℕ => pbEncodeVarint (f (r.slot i))) =
      (r.aps.map f).flatMap pbEncodeVarint := by
    rw [← holds.map_slot f, List.flatMap_map]
  have length := length_packed_le (r.aps.map f)
  rw [List.length_map, holds.length_aps] at length
  have few : r.numAp ≤ 29 := holds.numAp_le
  have small : ((r.aps.map f).flatMap pbEncodeVarint).length < 2 ^ 64 := by omega
  unfold encodeRepeatedIntField
  dsimp only
  rw [data, pbEncodeVarint_natCast small]
  rfl

theorem encodeConnectedApField_eq (holds : r.HoldsAps) :
    encodeConnectedApField 1 r.aps = (connectedFields r.aps).flatMap Field.encode := by
  unfold encodeConnectedApField connectedFields
  cases found : r.aps.findIdx? fun b => b.h.connected with
  | none => rfl
  | some i =>
    have below := (List.findIdx?_eq_some_iff_getElem.1 found).1
    have length := holds.length_aps
    have few : r.numAp ≤ 29 := holds.numAp_le
    have small : i + 1 < 2 ^ 64 := by omega
    have value : pbEncodeVarint (i + 1) = Varint.encode (i + 1) := by
      exact_mod_cast pbEncodeVarint_natCast small
    dsimp only
    rw [value]
    simp [Field.encode, pbEncodeTag]

theorem encodeOptimizedRepeatedField_eq (holds : r.HoldsAps) (nonempty : 0 < r.numAp)
    (tag1 tag2 : ℕ) (f : Beacon → ℤ) :
    encodeOptimizedRepeatedField r.numAp tag1 tag2 (fun i => f (r.slot i)) =
      (optimizedField (sendsCommon (r.aps.map f)) tag1 tag2 (r.aps.map f)).encode := by
  have values := holds.map_slot f
  have first : (r.aps.map f).headD 0 = f (r.slot (0 : ℕ)) := by
    obtain ⟨n, count⟩ := Nat.exists_eq_succ_of_ne_zero nonempty.ne'
    rw [← values, count, List.range_succ_eq_map]
    rfl
  have same : sendsCommon (r.aps.map f) = decide (1 < r.numAp ∧
      (List.range r.numAp).all (fun i : ℕ => f (r.slot i) = f (r.slot (0 : ℕ))) = true) := by
    apply decide_eq_decide.2
    unfold AllSame
    rw [first, ← values]
    simp
  have repeated := encodeRepeatedIntField_eq holds tag2 f
  unfold encodeOptimizedRepeatedField optimizedField
  rw [same, first, repeated]
  simp only [decide_eq_true_eq]
  split_ifs
  · rfl
  · rfl

/-- The bytes of the APs are fields of one of the two forms. -/
theorem encodeApFields_eq (holds : r.HoldsAps) (nonempty : 0 < r.numAp) :
    encodeApFields r =
      (apFields (sendsCommon (r.aps.map fun b => (b.ap.freq.toNat : ℤ)))
        (sendsCommon (r.aps.map fun b => (b.h.age.toNat : ℤ))) r.aps).flatMap Field.encode := by
  have macs := encodeRepeatedIntField_eq holds 4 fun b => macToInt b.ap.mac
  have rssis := encodeRepeatedIntField_eq holds 6 fun b => -b.h.rssi.toInt
  have freqs := encodeOptimizedRepeatedField_eq holds nonempty 2 5 fun b => (b.ap.freq.toNat : ℤ)
  have ages := encodeOptimizedRepeatedField_eq holds nonempty 3 7 fun b => (b.h.age.toNat : ℤ)
  unfold encodeApFields apFields
  rw [encodeConnectedApField_eq holds, macs, rssis, freqs, ages]
  simp only [List.flatMap_append, List.flatMap_cons, List.flatMap_nil, List.append_nil,
    List.append_assoc]

theorem readPacked_packed (values : List ℤ) :
    readPacked (values.flatMap pbEncodeVarint) = some (values.map word) := by
  rw [← readPacked_flatMap, List.flatMap_map]
  rfl

theorem intValue_apFields (commonFreq commonAge : Bool) (aps : List Beacon) :
    intValue 1 (apFields commonFreq commonAge aps) =
        ((aps.findIdx? fun b => b.h.connected).map (· + 1)).getD 0 ∧
      intValue 2 (apFields commonFreq commonAge aps) =
        (if commonFreq then word ((aps.map fun b => (b.ap.freq.toNat : ℤ)).headD 0 + 1) else 0) ∧
      intValue 3 (apFields commonFreq commonAge aps) =
        if commonAge then word ((aps.map fun b => (b.h.age.toNat : ℤ)).headD 0 + 1) else 0 := by
  unfold intValue apFields connectedFields optimizedField packedField
  cases aps.findIdx? fun b => b.h.connected <;> cases commonFreq <;> cases commonAge <;>
    exact ⟨rfl, rfl, rfl⟩

theorem bytesValue_apFields (commonFreq commonAge : Bool) (aps : List Beacon) :
    bytesValue 4 (apFields commonFreq commonAge aps) =
        (aps.map fun b => macToInt b.ap.mac).flatMap pbEncodeVarint ∧
      bytesValue 5 (apFields commonFreq commonAge aps) =
        (if commonFreq then []
          else (aps.map fun b => (b.ap.freq.toNat : ℤ)).flatMap pbEncodeVarint) ∧
      bytesValue 6 (apFields commonFreq commonAge aps) =
        (aps.map fun b => -b.h.rssi.toInt).flatMap pbEncodeVarint ∧
      bytesValue 7 (apFields commonFreq commonAge aps) =
        if commonAge then []
          else (aps.map fun b => (b.h.age.toNat : ℤ)).flatMap pbEncodeVarint := by
  unfold bytesValue apFields connectedFields optimizedField packedField
  cases aps.findIdx? fun b => b.h.connected <;> cases commonFreq <;> cases commonAge <;>
    simp

theorem plusOne_word {value : ℤ} (nonneg : 0 ≤ value) (small : value < 2 ^ 32 - 1) :
    plusOne (word (value + 1) % 2 ^ 32) = some value := by
  unfold plusOne word
  rw [if_neg (by omega), Option.some.injEq]
  omega

theorem readOptimized_eq (read : ℕ → ℤ) {fields : List Field} {tag1 tag2 : ℕ} {values : List ℤ}
    {common : Bool} (shared : common = true → AllSame values) (nonempty : values ≠ [])
    (small : ∀ value ∈ values, 0 ≤ value ∧ value < 2 ^ 32 - 1)
    (reads : ∀ value ∈ values, read (word value) = value)
    (ints : intValue tag1 fields = if common then word (values.headD 0 + 1) else 0)
    (bytes : bytesValue tag2 fields = if common then [] else values.flatMap pbEncodeVarint) :
    readOptimized fields values.length tag1 tag2 read = some values := by
  unfold readOptimized
  rw [ints, bytes]
  cases common with
  | true =>
    have first : values.headD 0 ∈ values := by
      cases values with
      | nil => exact absurd rfl nonempty
      | cons value values => exact .head _
    have range := small _ first
    simp only [if_true]
    rw [plusOne_word range.1 range.2, Option.some.injEq]
    exact (List.eq_replicate_of_mem (shared rfl)).symm
  | false =>
    have zero : plusOne (0 % 2 ^ 32) = none := rfl
    simp only [Bool.false_eq_true, if_false]
    rw [zero, readPacked_packed, Option.map_some, List.map_map, Option.some.injEq]
    conv_rhs => rw [← List.map_id values]
    exact List.map_congr_left fun value member => reads value member

theorem toList_mac (mac : Vector UInt8 6) :
    mac.toList = [mac.get 0, mac.get 1, mac.get 2, mac.get 3, mac.get 4, mac.get 5] := by
  apply List.ext_getElem (by simp)
  intro i below _
  rw [Vector.length_toList] at below
  interval_cases i <;> simp [Vector.get]

theorem macOfInt_macToInt (mac : Vector UInt8 6) : macOfInt (word (macToInt mac)) = mac := by
  have b0 := (mac.get 0).toNat_lt
  have b1 := (mac.get 1).toNat_lt
  have b2 := (mac.get 2).toNat_lt
  have b3 := (mac.get 3).toNat_lt
  have b4 := (mac.get 4).toNat_lt
  have b5 := (mac.get 5).toNat_lt
  have value : word (macToInt mac) =
      (((((mac.get 0).toNat * 256 + (mac.get 1).toNat) * 256 + (mac.get 2).toNat) * 256 +
        (mac.get 3).toNat) * 256 + (mac.get 4).toNat) * 256 + (mac.get 5).toNat := by
    rw [word, macToInt, toList_mac]
    simp only [List.foldl]
    omega
  apply Vector.ext
  intro i below
  rw [macOfInt, Vector.getElem_ofFn, value]
  apply UInt8.toNat_inj.1
  have entry : mac[i] = mac.get ⟨i, below⟩ := rfl
  rw [UInt8.toNat_ofNat', entry]
  dsimp only
  interval_cases i <;>
    simp only [Nat.reduceSub, Nat.reducePow, Fin.zero_eta, Fin.mk_one, Fin.reduceFinMk] <;> omega

theorem Beacon.AcceptedAp.range {b : Beacon} (good : b.AcceptedAp) :
    b.ap.freq.toNat ≤ 6000 ∧ b.h.rssi.toInt ≤ -1 ∧ b.h.age.toNat < 2 ^ 32 - 1 := by
  have type : b.h.type = .ap := by simpa [Beacon.isApType] using good.isApType
  have magic := good.accepted.magic
  have left : (b.clampRssi (-127) (-10)).clampFreq = b := by
    have checked := good.accepted
    unfold Beacon.Accepted validateBeacon at checked
    rw [if_neg (by simp [magic]), type] at checked
    exact congrArg Prod.snd checked
  refine ⟨?_, ?_, ?_⟩
  · rw [← left]
    unfold Beacon.clampFreq
    split_ifs with outside
    · exact Nat.zero_le _
    · have above := (not_or.1 outside).2
      rw [UInt32.not_lt, UInt32.le_iff_toNat_le] at above
      exact above
  · rw [← left, Beacon.clampFreq_h]
    exact Beacon.rssi_clampRssi_le _ _ _ (by decide)
  · obtain ⟨requestTime, timestamp, age⟩ := good.age
    have time := requestTime.toNat_lt
    unfold beaconAge at age
    split_ifs at age with old unknown fits
    · rw [← Except.ok.inj age]
      decide
    · have recent : TIMESTAMP_2019_03_01 ≤ timestamp := by
        by_contra early
        exact old ⟨fun zero => unknown (.inr zero), by omega⟩
      simp only [TIMESTAMP_2019_03_01] at recent
      rw [← Except.ok.inj age, UInt32.ofInt, UInt32.toNat_ofNat']
      omega

theorem SkyRctx.WellFormed.acceptedAps (good : r.WellFormed) (dated : Dated r.live) :
    r.HoldsAps ∧ ∀ b ∈ r.aps, b.AcceptedAp := by
  have represented := good.represented
  have fits := represented.numAp_le.trans represented.numBeacons_le
  have listed := good.listed
  have prefixed : r.aps = r.live.take r.numAp := by
    rw [SkyRctx.live, List.take_take, Nat.min_eq_left represented.numAp_le, SkyRctx.aps]
  refine ⟨⟨represented.slots, fits⟩, ?_⟩
  intro b member
  rw [prefixed] at member
  have live := List.mem_of_mem_take member
  exact ⟨listed.inOrder.aps b member, listed.inOrder.accepted b live, dated b live⟩

/-- Every list of APs that a run within capacity makes is one of accepted APs. -/
theorem World.run_acceptedAps (env : Env) (cacheSize : ℕ) (calls : List Call)
    (capacity : Along (World.step env) World.withinCapacity (World.start cacheSize) calls)
    (id : ℕ) (member : ((World.start cacheSize).run env calls).ctx id = some r) :
    r.HoldsAps ∧ ∀ b ∈ r.aps, b.AcceptedAp := by
  have dated := World.run_dated env (World.start_dated cacheSize) capacity
  exact (dated.wellFormed.ctx id r member).acceptedAps (dated.ctx id r member)

/-- Every choice of the two forms is read as the same list, if one number is sent only for
fields that are all the same. -/
theorem decodeAps_apFields {aps : List Beacon} (nonempty : aps ≠ []) (few : aps.length < 2 ^ 32 - 1)
    (accepted : ∀ b ∈ aps, b.AcceptedAp) {commonFreq commonAge : Bool}
    (freqs : commonFreq = true → AllSame (aps.map fun b => (b.ap.freq.toNat : ℤ)))
    (ages : commonAge = true → AllSame (aps.map fun b => (b.h.age.toNat : ℤ))) :
    decodeAps ((apFields commonFreq commonAge aps).flatMap Field.encode) =
      some ⟨(aps.findIdx? fun b => b.h.connected).map fun i : ℕ => (i : ℤ),
        aps.map Beacon.apReport⟩ := by
  obtain ⟨int1, int2, int3⟩ := intValue_apFields commonFreq commonAge aps
  obtain ⟨bytes4, bytes5, bytes6, bytes7⟩ := bytesValue_apFields commonFreq commonAge aps
  have range (b : Beacon) (member : b ∈ aps) := (accepted b member).range
  have readFreqs : readOptimized (apFields commonFreq commonAge aps) aps.length 2 5 readInt32 =
      some (aps.map fun b => (b.ap.freq.toNat : ℤ)) := by
    have read := readOptimized_eq readInt32 freqs (by simpa using nonempty) ?_ ?_ int2 bytes5
    · rwa [List.length_map] at read
    all_goals
      intro value member
      obtain ⟨b, source, rfl⟩ := List.mem_map.1 member
      have small := (range b source).1
    · omega
    · unfold readInt32 word
      rw [Int.bmod_eq_of_le] <;> omega
  have readAges : readOptimized (apFields commonFreq commonAge aps) aps.length 3 7 readUint32 =
      some (aps.map fun b => (b.h.age.toNat : ℤ)) := by
    have read := readOptimized_eq readUint32 ages (by simpa using nonempty) ?_ ?_ int3 bytes7
    · rwa [List.length_map] at read
    all_goals
      intro value member
      obtain ⟨b, source, rfl⟩ := List.mem_map.1 member
      have small := (range b source).2.2
    · omega
    · unfold readUint32 word
      omega
  have connected : plusOne (intValue 1 (apFields commonFreq commonAge aps) % 2 ^ 32) =
      (aps.findIdx? fun b => b.h.connected).map fun i : ℕ => (i : ℤ) := by
    rw [int1]
    cases found : aps.findIdx? fun b => b.h.connected with
    | none => rfl
    | some i =>
      have below := (List.findIdx?_eq_some_iff_getElem.1 found).1
      simp only [Option.map_some, Option.getD_some]
      unfold plusOne
      rw [if_neg (by omega), Option.some.injEq]
      omega
  have reports : ((aps.map fun b => word (macToInt b.ap.mac)).zip
      ((aps.map fun b => (b.ap.freq.toNat : ℤ)).zip
        ((aps.map fun b => word (-b.h.rssi.toInt)).zip (aps.map fun b => (b.h.age.toNat : ℤ))))).map
      (fun ap => (⟨macOfInt ap.1, ap.2.1, -readUint32 ap.2.2.1, ap.2.2.2⟩ : ApReport)) =
      aps.map Beacon.apReport := by
    rw [List.zip_map', List.zip_map', List.zip_map', List.map_map]
    apply List.map_congr_left
    intro b member
    have rssi := (range b member).2.1
    have low := b.h.rssi.le_toInt
    simp only [Function.comp, Beacon.apReport, macOfInt_macToInt, ApReport.mk.injEq,
      true_and, and_true]
    unfold readUint32 word
    omega
  unfold decodeAps
  rw [readMessage_flatMap]
  simp only [Option.bind_eq_bind, Option.bind_some, bytes4, bytes6, readPacked_packed, List.map_map,
    List.length_map, readFreqs, readAges, Function.comp_def]
  rw [if_pos ⟨trivial, trivial, trivial⟩, connected, reports]
  rfl

open PbOstream

theorem SkyRctx.HoldsAps.find_slot (holds : r.HoldsAps) (p : Beacon → Bool) :
    (List.range r.numAp).find? (fun i : ℕ => p (r.slot i)) = r.aps.findIdx? p := by
  have values := holds.map_slot id
  rw [List.map_id] at values
  simp only [id] at values
  rw [← values]
  cases found : ((List.range r.numAp).map fun i : ℕ => r.slot i).findIdx? p with
  | none =>
    rw [List.findIdx?_eq_none_iff] at found
    rw [List.find?_eq_none]
    intro i member
    simpa using found (r.slot i) (List.mem_map_of_mem member)
  | some i =>
    obtain ⟨below, here, before⟩ := List.findIdx?_eq_some_iff_getElem.1 found
    rw [List.length_map, List.length_range] at below
    rw [List.find?_range_eq_some]
    refine ⟨by simpa using here, List.mem_range.2 below, ?_⟩
    intro j less
    simpa using before j less

theorem writes_connectedApField (holds : r.HoldsAps) (tag : ℕ) :
    Writes (fun stream => stream.encodeConnectedApField r.numAp tag fun i => (r.slot i).h.connected)
      (encodeConnectedApField tag r.aps) := by
  have place := holds.find_slot fun b => b.h.connected
  unfold PbOstream.encodeConnectedApField encodeConnectedApField
  rw [place]
  cases r.aps.findIdx? fun b => b.h.connected with
  | none => exact fun stream => (write_nil stream).symm
  | some i => exact (writes_tag PB_WT_VARINT tag).bind (writes_varint _)

theorem writes_apFields (holds : r.HoldsAps) : Writes (PbOstream.encodeApFields r)
    (encodeApFields r) := by
  have fields := (writes_connectedApField holds 1).bind
    ((writes_repeatedIntField 4 r.numAp (fun i => macToInt (r.slot i).ap.mac) none).bind
      ((writes_optimizedRepeatedField r.numAp 2 5 fun i => (r.slot i).ap.freq.toNat).bind
        ((writes_repeatedIntField 6 r.numAp (fun i => (r.slot i).h.rssi.toInt)
          (some fun value => -value)).bind
          (writes_optimizedRepeatedField r.numAp 3 7 fun i => (r.slot i).h.age.toNat))))
  simp only [← List.append_assoc] at fields
  exact fields

def Varint.Field.Small : Field → Prop
  | int number value => number < 2 ^ 32 ∧ value < 2 ^ 64
  | bytes number data => number < 2 ^ 32 ∧ data.length ≤ 290

theorem Varint.Field.Small.length_encode {field : Field} (small : field.Small) :
    field.encode.length ≤ 310 := by
  cases field with
  | int number value =>
    have first : (Varint.encode (key number 0)).length ≤ 10 :=
      length_encode_le (k := 9) (by have := small.1; simp only [key]; omega)
    have second : (Varint.encode value).length ≤ 10 :=
      length_encode_le (k := 9) (by have := small.2; omega)
    rw [Field.encode, List.length_append]
    omega
  | bytes number data =>
    have bound := small.2
    have first : (Varint.encode (key number 2)).length ≤ 10 :=
      length_encode_le (k := 9) (by have := small.1; simp only [key]; omega)
    have second : (Varint.encode data.length).length ≤ 10 := length_encode_le (k := 9) (by omega)
    rw [Field.encode, List.length_append, List.length_append]
    omega

theorem small_packedField {number : ℕ} (small : number < 2 ^ 32) {values : List ℤ}
    (few : values.length ≤ 29) : (packedField number values).Small :=
  ⟨small, (length_packed_le values).trans (by omega)⟩

theorem small_optimizedField {tag1 tag2 : ℕ} (small1 : tag1 < 2 ^ 32) (small2 : tag2 < 2 ^ 32)
    {values : List ℤ} (few : values.length ≤ 29) (common : Bool) :
    (optimizedField common tag1 tag2 values).Small := by
  cases common with
  | true =>
    refine ⟨small1, ?_⟩
    unfold word
    omega
  | false => exact small_packedField small2 few

theorem small_apFields (commonFreq commonAge : Bool) {aps : List Beacon} (few : aps.length ≤ 29) :
    ∀ field ∈ apFields commonFreq commonAge aps, field.Small := by
  have count {α : Type} (f : Beacon → α) : (aps.map f).length ≤ 29 := by rwa [List.length_map]
  intro field member
  rcases List.mem_append.1 member with connected | rest
  · unfold connectedFields at connected
    cases found : aps.findIdx? fun b => b.h.connected with
    | none => simp [found] at connected
    | some i =>
      have below := (List.findIdx?_eq_some_iff_getElem.1 found).1
      simp only [found, List.mem_singleton] at connected
      rw [connected]
      exact ⟨by decide, by omega⟩
  · simp only [List.mem_cons, List.not_mem_nil, or_false] at rest
    rcases rest with rfl | rfl | rfl | rfl
    · exact small_packedField (by decide) (count _)
    · exact small_optimizedField (by decide) (by decide) (count _) _
    · exact small_packedField (by decide) (count _)
    · exact small_optimizedField (by decide) (by decide) (count _) _

theorem length_apFields (commonFreq commonAge : Bool) {aps : List Beacon} (few : aps.length ≤ 29) :
    ((apFields commonFreq commonAge aps).flatMap Field.encode).length < 2 ^ 64 := by
  have small := small_apFields commonFreq commonAge few
  have fields : (apFields commonFreq commonAge aps).length ≤ 5 := by
    unfold apFields connectedFields
    cases aps.findIdx? fun b => b.h.connected <;> simp
  have total (fields : List Field) (small : ∀ field ∈ fields, field.Small) :
      (fields.flatMap Field.encode).length ≤ 310 * fields.length := by
    induction fields with
    | nil => simp
    | cons field fields ih =>
      have first := (small field (.head _)).length_encode
      have rest := ih fun field member => small field (.tail _ member)
      rw [List.flatMap_cons, List.length_append, List.length_cons]
      omega
  have bound := total _ small
  omega

@[simp] def RQ_APS_TAG : ℕ := 3

/-- For every list of accepted APs: the submessage goes out as a string field with its length
in front, its content is fields of one of the two forms, and it is read as the APs of the
request, whichever forms are chosen for the frequencies and the ages. -/
theorem aps_roundTrip (holds : r.HoldsAps) (nonempty : 0 < r.numAp)
    (accepted : ∀ b ∈ r.aps, b.AcceptedAp) :
    (∀ stream : PbOstream, stream.encodeSubmessage RQ_APS_TAG (PbOstream.encodeApFields r) =
        stream.write (Field.bytes RQ_APS_TAG (encodeApFields r)).encode) ∧
      (∃ commonFreq commonAge,
        encodeApFields r = (apFields commonFreq commonAge r.aps).flatMap Field.encode) ∧
      decodeAps (encodeApFields r) = some r.apsReport ∧
      ∀ commonFreq commonAge : Bool,
        (commonFreq = true → AllSame (r.aps.map fun b => (b.ap.freq.toNat : ℤ))) →
        (commonAge = true → AllSame (r.aps.map fun b => (b.h.age.toNat : ℤ))) →
        decodeAps ((apFields commonFreq commonAge r.aps).flatMap Field.encode) =
          some r.apsReport := by
  have bytes := encodeApFields_eq holds nonempty
  have count := holds.length_aps
  have few : r.numAp ≤ 29 := holds.numAp_le
  have some : r.aps ≠ [] := List.ne_nil_of_length_pos (by omega)
  have chosen (values : List ℤ) (common : sendsCommon values = true) : AllSame values :=
    (of_decide_eq_true common).2
  refine ⟨?_, ⟨_, _, bytes⟩, ?_, ?_⟩
  · intro stream
    have small : (encodeApFields r).length < 2 ^ 64 := by
      rw [bytes]
      exact length_apFields _ _ (by omega)
    have written := writes_submessage RQ_APS_TAG (writes_apFields holds) stream
    rw [pbEncodeVarint_natCast small, ← List.append_assoc] at written
    exact written
  · rw [bytes]
    exact decodeAps_apFields some (by omega) accepted (chosen _) (chosen _)
  · intro commonFreq commonAge freqs ages
    exact decodeAps_apFields some (by omega) accepted freqs ages

/-- The two APs of a run, of one frequency and one age, the connected one second. -/
theorem sampleCalls_roundTrip : ∃ r : SkyRctx,
    ((World.start 1).run bareEnv sampleCalls).ctx 0 = some r ∧
      r.aps.map Beacon.apReport =
        [⟨#v[2, 0, 0, 0, 0, 9], 2412, -50, 0⟩, ⟨#v[2, 0, 0, 0, 0, 1], 2412, -60, 0⟩] ∧
      decodeAps (encodeApFields r) = some r.apsReport := by
  have content : (((World.start 1).run bareEnv sampleCalls).ctx 0).map
      (fun r => (r.numAp, r.aps.map Beacon.apReport)) = some (2,
        [⟨#v[2, 0, 0, 0, 0, 9], 2412, -50, 0⟩, ⟨#v[2, 0, 0, 0, 0, 1], 2412, -60, 0⟩]) := by
    decide +kernel
  obtain ⟨r, member, eq⟩ := Option.map_eq_some_iff.1 content
  have numAp : r.numAp = 2 := congrArg Prod.fst eq
  have accepted := World.run_acceptedAps bareEnv 1 sampleCalls (by decide +kernel) 0 member
  exact ⟨r, member, congrArg Prod.snd eq, (aps_roundTrip accepted.1 (by omega) accepted.2).2.2.1⟩

end EmbeddedClient
