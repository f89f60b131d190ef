import EmbeddedClient.Wire.Gnss
import EmbeddedClient.Wire.Vaps

/-!
# The body of a request

The fields of a request, with the APs, the position, the cells and the virtual groups as
their callbacks write them. A server that follows the field lists reads back what the
session and the context hold, and of a registration request the registration alone.
-/

namespace EmbeddedClient

open Varint

/-- The body of a request as the server reads it. -/
structure RqReport where
  deviceId : List UInt8
  timestamp : ℕ
  aps : Option ApsReport
  gnss : Option GnssReport
  cells : List CellReport
  vaps : List (List UInt8)
  cacheHits : ℕ
  tokenId : ℤ
  sku : List UInt8
  cc : ℤ
  maxDlAppData : ℤ
  ulAppData : List UInt8
  deriving DecidableEq

/-- The reader of `Rq`, with the field types of `Rq_FIELDLIST`. -/
def decodeRq (input : List UInt8) : Option RqReport := do
  let fields ← readMessage input
  let aps ← (strings 3 fields).mapM decodeAps
  let gnss ← (strings 9 fields).mapM decodeGnss
  let cells ← (strings 10 fields).mapM decodeCell
  let vaps ← readStrings (stringValue 11 fields)
  let tbr ← readMessage (stringValue 18 fields)
  return {
    deviceId := stringValue 1 fields
    timestamp := intValue 2 fields % 2 ^ 64
    aps := aps.getLast?
    gnss := gnss.getLast?
    cells := cells
    vaps := vaps
    cacheHits := intValue 12 fields % 2 ^ 32
    tokenId := readInt32 (intValue 17 fields)
    sku := stringValue 3 tbr
    cc := readInt32 (intValue 4 tbr)
    maxDlAppData := readInt32 (intValue 19 fields)
    ulAppData := stringValue 20 fields }

theorem mapM_eq_some_map_iff {α β : Type*} {f : α → Option β} {g : α → β} {l : List α} :
    l.mapM f = some (l.map g) ↔ ∀ a ∈ l, f a = some (g a) := by
  induction l with
  | nil => simp
  | cons a l ih =>
    rw [List.mapM_cons, List.map_cons, List.forall_mem_cons, ← ih]
    cases first : f a with
    | none => simp
    | some b =>
      cases rest : l.mapM f with
      | none => simp
      | some bs => simp

def cellField (cell : Beacon) : Field := .bytes 10 (encodeCellField cell)

/-- The virtual groups: the parent and its patch bytes, a string a group. -/
def SkyRctx.vapGroups (r : SkyRctx) : List (List UInt8) :=
  (r.aps.filter fun b => b.vapLength ≠ 0).map fun b =>
    (b.ap.vg.toList.drop 1).take b.vapLength.toNat

def vapField (groups : List (List UInt8)) : Field := .bytes 11 (groups.flatMap encodeString)

def Rq.fields (rq : Rq) (cells : List Beacon) (vaps : Option (List (List UInt8))) : List Field :=
  Field.ofBytes 1 rq.deviceId ++ staticInt 2 rq.timestamp ++ Field.ofBytes 3 rq.aps ++
    gnssFields rq.gnss ++
  cells.map cellField ++ vaps.toList.map vapField ++
  (staticInt 12 rq.cacheHits.toNat ++ staticInt 17 rq.tokenId.toInt32.toInt ++
    Field.ofBytes 18 (writeMessage (tbrRegistrationFields rq.tbrSku rq.tbrCc)) ++
    staticInt 19 rq.maxDlAppData ++ Field.ofBytes 20 rq.ulAppData)

theorem Rq.encode_eq {rq : Rq} {cells : List Beacon} {vaps : Option (List (List UInt8))}
    (cellBytes : rq.cells = writeMessage (cells.map cellField))
    (vapBytes : rq.vaps = writeMessage (vaps.toList.map vapField)) :
    rq.encode = writeMessage (rq.fields cells vaps) := by
  unfold Rq.encode Rq.fields
  rw [cellBytes, vapBytes]
  simp only [writeMessage_append, List.append_assoc]

theorem length_pbEncodeTag_le {wireType tag : ℕ} (small : tag < 2 ^ 32) (type : wireType < 8) :
    (pbEncodeTag wireType tag).length ≤ 10 :=
  length_encode_le (k := 9) (by simp only [key]; omega)

theorem length_encodeCellFieldElement_le {tag : ℕ} (small : tag < 2 ^ 32) (val unknown : ℤ) :
    (encodeCellFieldElement tag val unknown).length ≤ 20 := by
  have first := @length_pbEncodeTag_le PB_WT_VARINT tag small (by decide)
  have second := length_pbEncodeVarint_le (val + 1)
  unfold encodeCellFieldElement
  split_ifs
  · rw [List.length_append]
    omega
  · exact Nat.zero_le _

theorem length_encodeCellField_le (cell : Beacon) : (encodeCellField cell).length ≤ 220 := by
  have tag {tag : ℕ} (small : tag < 2 ^ 32) :=
    @length_pbEncodeTag_le PB_WT_VARINT tag small (by decide)
  have type := length_pbEncodeVarint_le (mapCellType cell)
  have connected := length_pbEncodeVarint_le (getCellConnectedFlag cell).toNat
  have rssi := length_pbEncodeVarint_le (-getCellRssi cell)
  have age := length_pbEncodeVarint_le (getCellAge cell)
  have tags := And.intro (@tag 1 (by decide)) (And.intro (@tag 8 (by decide))
    (And.intro (@tag 9 (by decide)) (@tag 10 (by decide))))
  have element (tag : ℕ) (small : tag < 2 ^ 32) (val unknown : ℤ) :=
    length_encodeCellFieldElement_le small val unknown
  have id1 := element 2 (by decide) (getCellId1 cell) SKY_UNKNOWN_ID1.toNat
  have id2 := element 3 (by decide) (getCellId2 cell) SKY_UNKNOWN_ID2.toNat
  have id3 := element 4 (by decide) (getCellId3 cell) SKY_UNKNOWN_ID3.toInt
  have id4 := element 5 (by decide) (getCellId4 cell) SKY_UNKNOWN_ID4.toInt
  have id5 := element 6 (by decide) (getCellId5 cell) SKY_UNKNOWN_ID5.toInt
  have id6 := element 7 (by decide) (getCellId6 cell) SKY_UNKNOWN_ID6.toInt
  have ta := element 11 (by decide) (getCellTa cell) SKY_UNKNOWN_TA.toInt
  unfold encodeCellField
  simp only [List.length_append]
  omega

section Context

variable {s : SkySctx} {r : SkyRctx}

theorem map_getCell_range (good : r.Represented) :
    (List.range (r.numBeacons - r.numAp)).map (getCell r) = r.live.drop r.numAp := by
  have slots := good.slots
  have total := good.numBeacons_le
  have order := good.numAp_le
  apply List.ext_getElem
  · simp [SkyRctx.live]
    omega
  · intro i below _
    rw [List.length_map, List.length_range] at below
    have inside : r.numAp + i < r.beacon.length := by omega
    have natural : (0 : ℤ) ≤ (r.numAp : ℤ) + i := by omega
    have place : ((r.numAp : ℤ) + i).toNat = r.numAp + i := by omega
    simp [getCell, SkyRctx.slot, SkyRctx.live, natural, place, inside]

theorem SkyRctx.Represented.isCellType (good : r.Represented) :
    ∀ b ∈ r.live.drop r.numAp, b.isCellType = true := by
  intro b member
  rw [← map_getCell_range good] at member
  obtain ⟨i, inside, rfl⟩ := List.mem_map.1 member
  have below := List.mem_range.1 inside
  exact good.cells (r.numAp + i) (by omega) (by omega)

theorem map_getCell (good : r.Represented) :
    (List.range (getNumCells r)).map (getCell r) = r.live.drop r.numAp := by
  have places := map_getCell_range good
  have length := congrArg List.length places
  rw [List.length_map, List.length_range] at length
  have count : getNumCells r = r.numBeacons - r.numAp := by
    rw [length]
    exact List.countP_eq_length.2 good.isCellType
  rw [count, places]

theorem encodeCellFields_eq (good : r.Represented) :
    encodeCellFields r = writeMessage ((r.live.drop r.numAp).map cellField) := by
  have one (cell : Beacon) :
      pbEncodeTag PB_WT_STRING 10 ++ pbEncodeVarint (encodeCellField cell).length ++
      encodeCellField cell = (cellField cell).encode := by
    have length := length_encodeCellField_le cell
    rw [pbEncodeVarint_natCast (by omega)]
    rfl
  rw [← map_getCell good, writeMessage, List.flatMap_map, List.flatMap_map]
  unfold encodeCellFields
  simp only [one]

theorem vapData_eq (b : Beacon) :
    b.vapData = encodeString ((b.ap.vg.toList.drop 1).take b.vapLength.toNat) := by
  have length : ((b.ap.vg.toList.drop 1).take b.vapLength.toNat).length ≤ 5 := by simp
  unfold Beacon.vapData pbEncodeString
  rw [pbEncodeVarint_natCast (by omega)]
  rfl

theorem length_vapGroups_le (r : SkyRctx) :
    (r.vapGroups.flatMap encodeString).length ≤ r.aps.length * 15 := by
  have groups : r.vapGroups.length ≤ r.aps.length := by
    rw [SkyRctx.vapGroups, List.length_map]
    exact List.length_filter_le _ _
  have each : ∀ data ∈ r.vapGroups, (encodeString data).length ≤ 15 := by
    intro data member
    obtain ⟨b, -, rfl⟩ := List.mem_map.1 member
    have content : ((b.ap.vg.toList.drop 1).take b.vapLength.toNat).length ≤ 5 := by simp
    have prefixed :
        (Varint.encode ((b.ap.vg.toList.drop 1).take b.vapLength.toNat).length).length ≤ 10 :=
      length_encode_le (k := 9) (by omega)
    rw [encodeString, List.length_append]
    omega
  have total := length_flatMap_le each
  omega

theorem encodeVapData_vapField (holds : r.HoldsAps) :
    encodeVapData 11 (getNumVaps r) (getVapData r) = writeMessage [vapField r.vapGroups] := by
  have groups : ((r.aps.filter fun b => b.vapLength ≠ 0).map Beacon.vapData).flatten =
      r.vapGroups.flatMap encodeString := by
    rw [SkyRctx.vapGroups, List.flatMap_map, List.flatMap_def]
    congr 2
    funext b
    exact vapData_eq b
  have length := length_vapGroups_le r
  have count := holds.length_aps
  have few : r.numAp ≤ 29 := holds.numAp_le
  have written := encodeVapData_eq r 11
  dsimp only at written
  rw [groups, pbEncodeVarint_natCast (by omega)] at written
  rw [written, writeMessage, List.flatMap_singleton, vapField, Field.encode]
  rfl

/-- The request is not one for registration. -/
def SkySctx.locates (s : SkySctx) : Bool := !s.isTbrEnabled || s.tokenId ≠ TBR_TOKEN_UNKNOWN

def sentCells (s : SkySctx) (r : SkyRctx) : List Beacon :=
  if s.locates then r.live.drop r.numAp else []

def sentVaps (s : SkySctx) (r : SkyRctx) : Option (List (List UInt8)) :=
  if s.locates then some r.vapGroups else none

/-- The body of a request, for a location and for a registration. -/
theorem buildRq_eq (s : SkySctx) (r : SkyRctx) :
    buildRq s r =
      { deviceId := s.deviceId
        timestamp := r.header.time.toNat
        aps := if s.locates ∧ r.numAp ≠ 0 then encodeApFields r else []
        gnss := if s.locates ∧ r.gnss.present then some r.gnss else none
        cells := if s.locates ∧ getNumCells r ≠ 0 then encodeCellFields r else []
        vaps := if s.locates then encodeVapData 11 (getNumVaps r) (getVapData r) else []
        cacheHits := s.cacheHits
        tokenId := if s.isTbrEnabled then s.tokenId else 0
        tbrSku := if s.locates then [] else skuChars s.sku
        tbrCc := if s.locates then 0 else s.cc
        maxDlAppData := if s.isTbrEnabled ∧ s.locates then SKY_MAX_DL_APP_DATA else 0
        ulAppData := if s.locates then s.ulAppData else [] } := by
  unfold buildRq rqCallback SkySctx.locates
  cases tbr : s.isTbrEnabled with
  | false => simp
  | true => by_cases token : s.tokenId = TBR_TOKEN_UNKNOWN <;> simp_all

theorem encode_buildRq (good : r.Represented) (holds : r.HoldsAps) :
    (buildRq s r).encode = writeMessage ((buildRq s r).fields (sentCells s r) (sentVaps s r)) := by
  have all := map_getCell good
  rw [buildRq_eq]
  apply Rq.encode_eq
  · dsimp only [sentCells]
    cases locates : s.locates with
    | false => simp
    | true =>
      by_cases none : getNumCells r = 0
      · rw [none] at all
        simp [none, ← all]
      · simp [none, encodeCellFields_eq good]
  · dsimp only [sentVaps]
    cases locates : s.locates with
    | false => simp
    | true => simpa using encodeVapData_vapField holds

end Context

section Fields

variable (number : ℕ) (position : Option Gnss)

@[simp] theorem ints_staticInt (tag : ℕ) (value : ℤ) :
    ints number (staticInt tag value) = if tag = number then given (word value) else [] :=
  ints_ofInt number tag (word value)

@[simp] theorem strings_staticInt (tag : ℕ) (value : ℤ) :
    strings number (staticInt tag value) = [] :=
  strings_ofInt number tag (word value)

@[simp] theorem ints_gnssFields : ints number (gnssFields position) = [] := by
  cases position <;> rfl

@[simp] theorem strings_gnssFields : strings number (gnssFields position) =
    if 9 = number then position.toList.map encodeGnssFields else [] := by
  cases position <;> simp [gnssFields]

@[simp] theorem ints_cellFields (cells : List Beacon) : ints number (cells.map cellField) = [] :=
  ints_map_bytes number 10 cells encodeCellField

@[simp] theorem strings_cellFields (cells : List Beacon) :
    strings number (cells.map cellField) = if 10 = number then cells.map encodeCellField else [] :=
  strings_map_bytes number 10 cells encodeCellField

@[simp] theorem ints_vapFields (vaps : List (List (List UInt8))) :
    ints number (vaps.map vapField) = [] :=
  ints_map_bytes number 11 vaps (List.flatMap encodeString)

@[simp] theorem strings_vapFields (vaps : List (List (List UInt8))) :
    strings number (vaps.map vapField) =
      if 11 = number then vaps.map (List.flatMap encodeString) else [] :=
  strings_map_bytes number 11 vaps (List.flatMap encodeString)

end Fields

theorem tbrRegistration_read (sku : List UInt8) (cc : UInt16) :
    stringValue 3 (tbrRegistrationFields sku cc) = sku ∧
      readInt32 (intValue 4 (tbrRegistrationFields sku cc)) = cc.toNat := by
  have small := cc.toNat_lt
  constructor
  · simp [stringValue, tbrRegistrationFields]
  · simp only [intValue_eq, tbrRegistrationFields, ints_append, ints_ofBytes,
      ints_staticInt, if_true, List.nil_append, getLast?_given]
    exact readInt32_word (by omega) (by omega)

section Body

variable (rq : Rq) (cells : List Beacon) (vaps : Option (List (List UInt8))) (number : ℕ)

theorem strings_fields : strings number (rq.fields cells vaps) =
    (if 1 = number then givenString rq.deviceId else []) ++
    (if 3 = number then givenString rq.aps else []) ++
    (if 9 = number then rq.gnss.toList.map encodeGnssFields else []) ++
    (if 10 = number then cells.map encodeCellField else []) ++
    (if 11 = number then vaps.toList.map (List.flatMap encodeString) else []) ++
    (if 18 = number then givenString (writeMessage (tbrRegistrationFields rq.tbrSku rq.tbrCc))
      else []) ++
    (if 20 = number then givenString rq.ulAppData else []) := by
  simp only [Rq.fields, strings_append, strings_ofBytes, strings_staticInt, strings_gnssFields,
    strings_cellFields, strings_vapFields, List.nil_append, List.append_assoc]

theorem ints_fields : ints number (rq.fields cells vaps) =
    (if 2 = number then given (word rq.timestamp) else []) ++
    (if 12 = number then given (word rq.cacheHits.toNat) else []) ++
    (if 17 = number then given (word rq.tokenId.toInt32.toInt) else []) ++
    (if 19 = number then given (word rq.maxDlAppData) else []) := by
  simp only [Rq.fields, ints_append, ints_ofBytes, ints_staticInt, ints_gnssFields, ints_cellFields,
    ints_vapFields, List.nil_append, List.append_nil, List.append_assoc]

end Body

/-- Reading a body field by field: only the submessages of the beacons may fail. -/
theorem decodeRq_fields {rq : Rq} {cells : List Beacon} {vaps : Option (List (List UInt8))}
    {aps : Option ApsReport} {gnss : Option GnssReport}
    (readAps : (givenString rq.aps).mapM decodeAps = some aps.toList)
    (readGnss : (rq.gnss.toList.map encodeGnssFields).mapM decodeGnss = some gnss.toList)
    (time : rq.timestamp < 2 ^ 64) (dl : rq.maxDlAppData < 2 ^ 31) :
    decodeRq (writeMessage (rq.fields cells vaps)) =
      ((cells.map encodeCellField).mapM decodeCell).map fun cells =>
        { deviceId := rq.deviceId
          timestamp := rq.timestamp
          aps := aps
          gnss := gnss
          cells := cells
          vaps := vaps.getD []
          cacheHits := rq.cacheHits.toNat
          tokenId := rq.tokenId.toInt32.toInt
          sku := rq.tbrSku
          cc := rq.tbrCc.toNat
          maxDlAppData := rq.maxDlAppData
          ulAppData := rq.ulAppData } := by
  have groups : readStrings (stringValue 11 (rq.fields cells vaps)) = some (vaps.getD []) := by
    rw [stringValue, strings_fields]
    cases vaps with
    | none => rfl
    | some groups => simpa using readStrings_flatMap groups
  have timestamp : intValue 2 (rq.fields cells vaps) % 2 ^ 64 = rq.timestamp := by
    rw [intValue_eq, ints_fields]
    simp [word]
    omega
  have hits : intValue 12 (rq.fields cells vaps) % 2 ^ 32 = rq.cacheHits.toNat := by
    have small := rq.cacheHits.toNat_lt
    rw [intValue_eq, ints_fields]
    simp [word]
    omega
  have token : readInt32 (intValue 17 (rq.fields cells vaps)) = rq.tokenId.toInt32.toInt := by
    rw [intValue_eq, ints_fields]
    simpa using readInt32_word (Int32.le_toInt _) (Int32.toInt_lt _)
  have maxDl : readInt32 (intValue 19 (rq.fields cells vaps)) = rq.maxDlAppData := by
    rw [intValue_eq, ints_fields]
    simpa using readInt32_word (by omega) (by omega)
  have device : stringValue 1 (rq.fields cells vaps) = rq.deviceId := by
    simp [stringValue, strings_fields]
  have tbr : stringValue 18 (rq.fields cells vaps) =
      writeMessage (tbrRegistrationFields rq.tbrSku rq.tbrCc) := by
        simp [stringValue, strings_fields]
  have uplink : stringValue 20 (rq.fields cells vaps) = rq.ulAppData := by
    simp [stringValue, strings_fields]
  have aps3 : strings 3 (rq.fields cells vaps) = givenString rq.aps := by simp [strings_fields]
  have gnss9 : strings 9 (rq.fields cells vaps) = rq.gnss.toList.map encodeGnssFields := by
    simp [strings_fields]
  have cells10 : strings 10 (rq.fields cells vaps) = cells.map encodeCellField := by
    simp [strings_fields]
  have last {α : Type} (o : Option α) : o.toList.getLast? = o := by cases o <;> rfl
  obtain ⟨sku, cc⟩ := tbrRegistration_read rq.tbrSku rq.tbrCc
  unfold decodeRq
  rw [readMessage_writeMessage]
  simp only [Option.bind_eq_bind, Option.bind_some, aps3, gnss9, cells10, readAps, readGnss,
    groups, tbr, readMessage_writeMessage, device, timestamp, hits, token, maxDl, uplink,
    sku, cc, last]
  cases (cells.map encodeCellField).mapM decodeCell <;> rfl

variable {s : SkySctx} {r : SkyRctx}

/-- What the session and the context hold of the fields that are sent. -/
def rqReport (s : SkySctx) (r : SkyRctx) : RqReport where
  deviceId := s.deviceId
  timestamp := r.header.time.toNat
  aps := if s.locates ∧ r.numAp ≠ 0 then some r.apsReport else none
  gnss := if s.locates ∧ r.gnss.present then some r.gnss.gnssReport else none
  cells := (sentCells s r).map Beacon.cellReport
  vaps := if s.locates then r.vapGroups else []
  cacheHits := s.cacheHits.toNat
  tokenId := if s.isTbrEnabled then s.tokenId.toInt32.toInt else 0
  sku := if s.locates then [] else skuChars s.sku
  cc := if s.locates then 0 else s.cc.toNat
  maxDlAppData := if s.isTbrEnabled ∧ s.locates then SKY_MAX_DL_APP_DATA else 0
  ulAppData := if s.locates then s.ulAppData else []

/-- A context whose beacons and position a server can read. -/
structure SkyRctx.Readable (r : SkyRctx) : Prop where
  represented : r.Represented
  holds : r.HoldsAps
  aps : ∀ b ∈ r.aps, b.AcceptedAp
  accepted : ∀ b ∈ r.live, b.Accepted
  position : r.gnss.present = true → r.gnss.Encodable

theorem SkyRctx.Readable.sentCells (good : r.Readable) {b : Beacon} (sent : b ∈ sentCells s r) :
    b.isCellType = true ∧ b.Accepted := by
  unfold EmbeddedClient.sentCells at sent
  split_ifs at sent
  · exact ⟨good.represented.isCellType b sent, good.accepted b (List.mem_of_mem_drop sent)⟩
  · exact absurd sent List.not_mem_nil

theorem encodeApFields_ne_nil (holds : r.HoldsAps) (some : r.numAp ≠ 0) :
    encodeApFields r ≠ [] := by
  rw [encodeApFields_eq holds (Nat.pos_of_ne_zero some)]
  intro empty
  have last :=
    List.flatMap_eq_nil_iff.1 empty (packedField 4 (r.aps.map fun b => macToInt b.ap.mac))
    (by simp [apFields])
  exact Field.encode_ne_nil _ last

theorem Beacon.Accepted.decodeCell_iff {b : Beacon} (accepted : b.Accepted)
    (cell : b.isCellType = true) :
    decodeCell (encodeCellField b) = some b.cellReport ↔ b.identifiersFit := by
  unfold Beacon.Accepted at accepted
  have read := decodeCell_accepted_iff b cell (by rw [accepted])
  rwa [accepted] at read

/-- The body is read back as the session and the context hold it exactly when no cell that is sent
has an identifier below the unknown marker. -/
theorem decodeRq_buildRq_iff (good : r.Readable) :
    decodeRq (buildRq s r).encode = some (rqReport s r) ↔
      ∀ b ∈ sentCells s r, b.identifiersFit := by
  have aps : (givenString (buildRq s r).aps).mapM decodeAps = some (rqReport s r).aps.toList := by
    rw [buildRq_eq, rqReport]
    dsimp only
    split_ifs with sent
    · have read := (aps_roundTrip good.holds (Nat.pos_of_ne_zero sent.2) good.aps).2.2.1
      simp [givenString, encodeApFields_ne_nil good.holds sent.2, read]
    · rfl
  have gnss : ((buildRq s r).gnss.toList.map encodeGnssFields).mapM decodeGnss =
      some (rqReport s r).gnss.toList := by
    rw [buildRq_eq, rqReport]
    dsimp only
    split_ifs with sent
    · simp [decodeGnss_encodeGnssFields (good.position sent.2)]
    · rfl
  have cells : ((sentCells s r).map encodeCellField).mapM decodeCell =
      some ((sentCells s r).map Beacon.cellReport) ↔ ∀ b ∈ sentCells s r, b.identifiersFit := by
    rw [List.mapM_map, mapM_eq_some_map_iff]
    apply forall₂_congr
    intro b sent
    obtain ⟨cell, accepted⟩ := good.sentCells sent
    rw [Function.comp_apply, accepted.decodeCell_iff cell]
  have time : (buildRq s r).timestamp < 2 ^ 64 := by
    have small := r.header.time.toNat_lt
    rw [buildRq_eq]
    dsimp only
    omega
  have dl : (buildRq s r).maxDlAppData < 2 ^ 31 := by
    rw [buildRq_eq]
    dsimp only
    split_ifs <;> decide
  have vaps : (sentVaps s r).getD [] = (rqReport s r).vaps := by
    unfold sentVaps rqReport
    dsimp only
    split_ifs <;> rfl
  have token : (buildRq s r).tokenId.toInt32.toInt = (rqReport s r).tokenId := by
    rw [buildRq_eq]
    unfold rqReport
    dsimp only
    split_ifs <;> rfl
  have cc : ((buildRq s r).tbrCc.toNat : ℤ) = (rqReport s r).cc := by
    rw [buildRq_eq]
    unfold rqReport
    dsimp only
    split_ifs <;> rfl
  have rest : (buildRq s r).deviceId = (rqReport s r).deviceId ∧
      (buildRq s r).timestamp = (rqReport s r).timestamp ∧
      (buildRq s r).cacheHits.toNat = (rqReport s r).cacheHits ∧
      (buildRq s r).tbrSku = (rqReport s r).sku ∧
      ((buildRq s r).maxDlAppData : ℤ) = (rqReport s r).maxDlAppData ∧
      (buildRq s r).ulAppData = (rqReport s r).ulAppData := by
    rw [buildRq_eq]
    unfold rqReport
    refine ⟨rfl, rfl, rfl, rfl, ?_, rfl⟩
    dsimp only
    split_ifs <;> rfl
  obtain ⟨device, timestamp, hits, sku, maxDl, uplink⟩ := rest
  rw [encode_buildRq good.represented good.holds, decodeRq_fields aps gnss time dl, ← cells]
  simp only [vaps, token, cc, device, timestamp, hits, sku, maxDl, uplink]
  constructor
  · intro read
    obtain ⟨reports, found, eq⟩ := Option.map_eq_some_iff.1 read
    rw [found, Option.some.injEq]
    exact congrArg RqReport.cells eq
  · intro found
    rw [found]
    rfl

end EmbeddedClient
