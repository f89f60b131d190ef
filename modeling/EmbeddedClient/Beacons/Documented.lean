import EmbeddedClient.Beacons.Atomic

/-!
# The documented ranges of a cell

The comments of the functions that add a cell give a range for each argument, and
say which ones may be unknown. `validate_beacon` misses some lower bounds and some
fields, has other upper bounds for the channels and for one physical cell identity,
and sees one argument after it has been narrowed.
-/

namespace EmbeddedClient

/-- The arguments of the functions that add a cell, without signal strength and connection. -/
inductive CellArgs
  | lte (tac : Int32) (eCellid : Int64) (mcc mnc : UInt16) (pci : Int16) (earfcn ta : Int32)
  | gsm (lac : Int32) (ci : Int64) (mcc mnc : UInt16) (bsic : Int16) (arfcn ta : Int32)
  | umts (lac : Int32) (ucid : Int64) (mcc mnc : UInt16) (psc uarfcn : Int16)
  | cdma (sid : UInt32) (nid : Int32) (bsid : Int64)
  | nbIot (mcc mnc : UInt16) (eCellid : Int64) (tac : Int32) (ncid : Int16) (earfcn : Int32)
  | nr (mcc mnc : UInt16) (nci : Int64) (tac : Int32) (pci : Int16) (nrarfcn ta : Int32)

namespace CellArgs

def call (rssi : Int16) (isConnected : Bool) : CellArgs → AddCall
  | lte tac eCellid mcc mnc pci earfcn ta => .lte tac eCellid mcc mnc pci earfcn ta rssi isConnected
  | gsm lac ci mcc mnc bsic arfcn ta => .gsm lac ci mcc mnc bsic arfcn ta rssi isConnected
  | umts lac ucid mcc mnc psc uarfcn => .umts lac ucid mcc mnc psc uarfcn rssi isConnected
  | cdma sid nid bsid => .cdma sid nid bsid rssi isConnected
  | nbIot mcc mnc eCellid tac ncid earfcn => .nbIot mcc mnc eCellid tac ncid earfcn rssi isConnected
  | nr mcc mnc nci tac pci nrarfcn ta => .nr mcc mnc nci tac pci nrarfcn ta rssi isConnected

end CellArgs

def InRange (lo hi x : ℤ) : Prop := lo ≤ x ∧ x ≤ hi

instance (lo hi x : ℤ) : Decidable (InRange lo hi x) := inferInstanceAs (Decidable (_ ∧ _))

/-- `lo..hi`, or -1 if unknown. -/
def OptionalIn (lo hi x : ℤ) : Prop := x = -1 ∨ InRange lo hi x

instance (lo hi x : ℤ) : Decidable (OptionalIn lo hi x) := inferInstanceAs (Decidable (_ ∨ _))

/-- Mobile country and network code and a cell identity up to `hi`, all known and in
range or all unknown. -/
def PrimaryIn (hi : ℤ) (mcc mnc : UInt16) (id : Int64) : Prop :=
  (InRange 200 799 mcc.toNat ∧ InRange 0 999 mnc.toNat ∧ InRange 0 hi id.toInt) ∨
    (mcc = SKY_UNKNOWN_ID1 ∧ mnc = SKY_UNKNOWN_ID2 ∧ id = SKY_UNKNOWN_ID4)

instance (hi : ℤ) (mcc mnc : UInt16) (id : Int64) : Decidable (PrimaryIn hi mcc mnc id) :=
  inferInstanceAs (Decidable (_ ∨ _))

namespace CellArgs

/-- What the comment of the function allows. A GSM location area has no unknown marker
of its own, so it belongs to the primary identifiers. -/
def Documented : CellArgs → Prop
  | lte tac eCellid mcc mnc pci earfcn ta =>
    PrimaryIn 268435455 mcc mnc eCellid ∧ OptionalIn 1 65535 tac.toInt ∧
      OptionalIn 0 503 pci.toInt ∧ OptionalIn 0 45589 earfcn.toInt ∧ OptionalIn 0 7690 ta.toInt
  | gsm lac ci mcc mnc bsic arfcn ta =>
    ((InRange 200 799 mcc.toNat ∧ InRange 0 999 mnc.toNat ∧ InRange 1 65535 lac.toInt ∧
        InRange 0 65535 ci.toInt) ∨
      (mcc = SKY_UNKNOWN_ID1 ∧ mnc = SKY_UNKNOWN_ID2 ∧ lac = SKY_UNKNOWN_ID3 ∧
        ci = SKY_UNKNOWN_ID4)) ∧
      OptionalIn 0 63 bsic.toInt ∧ OptionalIn 1 1023 arfcn.toInt ∧ OptionalIn 0 63 ta.toInt
  | umts lac ucid mcc mnc psc uarfcn =>
    PrimaryIn 268435455 mcc mnc ucid ∧ OptionalIn 1 65535 lac.toInt ∧
      OptionalIn 0 511 psc.toInt ∧ OptionalIn 412 10833 uarfcn.toInt
  | cdma sid nid bsid =>
    InRange 0 32767 sid.toNat ∧ InRange 0 65535 nid.toInt ∧ InRange 0 65535 bsid.toInt
  | nbIot mcc mnc eCellid tac ncid earfcn =>
    PrimaryIn 268435455 mcc mnc eCellid ∧ OptionalIn 1 65535 tac.toInt ∧
      OptionalIn 0 503 ncid.toInt ∧ OptionalIn 0 45589 earfcn.toInt
  | nr mcc mnc nci tac pci nrarfcn ta =>
    PrimaryIn 68719476735 mcc mnc nci ∧ OptionalIn 1 65535 tac.toInt ∧
      OptionalIn 0 1007 pci.toInt ∧ OptionalIn 0 3279165 nrarfcn.toInt ∧ OptionalIn 0 3846 ta.toInt

/-- The documented signal strengths; the comment for CDMA gives none, and
`validate_beacon` takes these. -/
def signalRange : CellArgs → ℤ × ℤ
  | lte .. => (-140, -40)
  | gsm .. => (-128, -32)
  | umts .. => (-120, -20)
  | cdma .. => (-140, -49)
  | nbIot .. => (-156, -44)
  | nr .. => (-140, -40)

/-- The arguments that `validate_beacon` judges other than the comment does. -/
def Misjudged : CellArgs → Prop
  | lte tac eCellid mcc mnc pci earfcn ta =>
    PrimaryIn 268435455 mcc mnc eCellid ∧ OptionalIn 1 65535 tac.toInt ∧
      OptionalIn 0 7690 ta.toInt ∧
      pci.toInt ≤ 503 ∧ earfcn.toInt ≤ 262143 ∧
      (pci.toInt < -1 ∨ earfcn.toInt < -1 ∨ 45589 < earfcn.toInt)
  | gsm lac ci mcc mnc bsic arfcn ta =>
    InRange 200 799 mcc.toNat ∧ InRange 0 999 mnc.toNat ∧ lac ≠ SKY_UNKNOWN_ID3 ∧
      ci ≠ SKY_UNKNOWN_ID4 ∧ OptionalIn 0 63 bsic.toInt ∧ OptionalIn 1 1023 arfcn.toInt ∧
      OptionalIn 0 63 ta.toInt ∧ ¬ (InRange 1 65535 lac.toInt ∧ InRange 0 65535 ci.toInt)
  | umts lac ucid mcc mnc psc uarfcn =>
    PrimaryIn 268435455 mcc mnc ucid ∧ psc.toInt ≤ 511 ∧ (uarfcn.toInt = -1 ∨ 412 ≤ uarfcn.toInt) ∧
      (¬ OptionalIn 1 65535 lac.toInt ∨ psc.toInt < -1 ∨ 10833 < uarfcn.toInt)
  | cdma sid nid bsid =>
    InRange 0 65535 nid.toInt ∧ InRange 0 65535 bsid.toInt ∧ 32767 < sid.toNat ∧
      sid.toNat % 65536 ≤ 32767
  | nbIot mcc mnc eCellid tac ncid earfcn =>
    PrimaryIn 268435455 mcc mnc eCellid ∧ OptionalIn 1 65535 tac.toInt ∧
      OptionalIn 0 503 ncid.toInt ∧ InRange 45590 262143 earfcn.toInt
  | nr mcc mnc nci tac pci nrarfcn ta =>
    PrimaryIn 68719476735 mcc mnc nci ∧ OptionalIn 0 3279165 nrarfcn.toInt ∧
      OptionalIn 0 3846 ta.toInt ∧
      ((¬ OptionalIn 1 65535 tac.toInt ∧ OptionalIn 0 107 pci.toInt) ∨
        (OptionalIn 1 65535 tac.toInt ∧ InRange 108 1007 pci.toInt))

end CellArgs

theorem int16_eq_unknown_iff (x : Int16) : x = -1 ↔ x.toInt = -1 := Int16.toInt_inj.symm

theorem int32_eq_unknown_iff (x : Int32) : x = -1 ↔ x.toInt = -1 := Int32.toInt_inj.symm

theorem int64_eq_unknown_iff (x : Int64) : x = -1 ↔ x.toInt = -1 := Int64.toInt_inj.symm

theorem uint16_eq_unknown_iff (x : UInt16) : x = 65535 ↔ x.toNat = 65535 := UInt16.toNat_inj.symm

namespace Cell

variable {c : Cell} {lo hi : ℤ}

theorem id3Outside_eq_false_iff : c.id3Outside lo hi = false ↔ OptionalIn lo hi c.id3.toInt := by
  simp [id3Outside, OptionalIn, InRange, int32_eq_unknown_iff]
  omega

theorem id5Outside_eq_false_iff : c.id5Outside lo hi = false ↔ OptionalIn lo hi c.id5.toInt := by
  simp [id5Outside, OptionalIn, InRange, int16_eq_unknown_iff]
  omega

theorem freqOutside_eq_false_iff : c.freqOutside lo hi = false ↔ OptionalIn lo hi c.freq.toInt := by
  simp [freqOutside, OptionalIn, InRange, int32_eq_unknown_iff]
  omega

theorem taOutside_eq_false_iff : c.taOutside lo hi = false ↔ OptionalIn lo hi c.ta.toInt := by
  simp [taOutside, OptionalIn, InRange, int32_eq_unknown_iff]
  omega

theorem id5Above_eq_false_iff (known : -1 ≤ hi) : c.id5Above hi = false ↔ c.id5.toInt ≤ hi := by
  simp [id5Above, int16_eq_unknown_iff]
  omega

theorem freqAbove_eq_false_iff (known : -1 ≤ hi) : c.freqAbove hi = false ↔ c.freq.toInt ≤ hi := by
  simp [freqAbove, int32_eq_unknown_iff]
  omega

theorem primary_iff (known : 0 ≤ hi) :
    (c.primaryIdsPartial = false ∧ c.mccOutside = false ∧ c.mncOutside = false ∧
        c.id4Outside 0 hi = false) ↔ PrimaryIn hi c.id1 c.id2 c.id4 := by
  simp [primaryIdsPartial, mccOutside, mncOutside, id4Outside, PrimaryIn, InRange,
    int64_eq_unknown_iff, uint16_eq_unknown_iff]
  omega

theorem lteInRange_iff : c.lteInRange = true ↔
    PrimaryIn 268435455 c.id1 c.id2 c.id4 ∧ OptionalIn 1 65535 c.id3.toInt ∧ c.id5.toInt ≤ 503 ∧
      c.freq.toInt ≤ 262143 ∧ OptionalIn 0 7690 c.ta.toInt := by
  rw [← primary_iff (by decide), ← id3Outside_eq_false_iff, ← id5Above_eq_false_iff (by decide),
    ← freqAbove_eq_false_iff (by decide), ← taOutside_eq_false_iff]
  simp only [lteInRange, Bool.and_eq_true, Bool.not_eq_true', Bool.or_eq_false_iff]
  tauto

theorem nbiotInRange_iff : c.nbiotInRange = true ↔
    PrimaryIn 268435455 c.id1 c.id2 c.id4 ∧ OptionalIn 1 65535 c.id3.toInt ∧
      OptionalIn 0 503 c.id5.toInt ∧ OptionalIn 0 262143 c.freq.toInt := by
  rw [← primary_iff (by decide), ← id3Outside_eq_false_iff, ← id5Outside_eq_false_iff,
    ← freqOutside_eq_false_iff]
  simp only [nbiotInRange, Bool.and_eq_true, Bool.not_eq_true', Bool.or_eq_false_iff]
  tauto

theorem umtsInRange_iff : c.umtsInRange = true ↔
    PrimaryIn 268435455 c.id1 c.id2 c.id4 ∧ c.id5.toInt ≤ 511 ∧
      OptionalIn 412 262143 c.freq.toInt := by
  rw [← primary_iff (by decide), ← id5Above_eq_false_iff (by decide), ← freqOutside_eq_false_iff]
  simp only [umtsInRange, Bool.and_eq_true, Bool.not_eq_true', Bool.or_eq_false_iff]
  tauto

theorem nrInRange_iff : c.nrInRange = true ↔
    PrimaryIn 68719476735 c.id1 c.id2 c.id4 ∧ OptionalIn 0 107 c.id5.toInt ∧
      OptionalIn 0 3279165 c.freq.toInt ∧ OptionalIn 0 3846 c.ta.toInt := by
  rw [← primary_iff (by decide), ← id5Outside_eq_false_iff, ← freqOutside_eq_false_iff,
    ← taOutside_eq_false_iff]
  simp only [nrInRange, Bool.and_eq_true, Bool.not_eq_true', Bool.or_eq_false_iff]
  tauto

theorem cdmaInRange_iff : c.cdmaInRange = true ↔
    c.id2.toNat ≤ 32767 ∧ InRange 0 65535 c.id3.toInt ∧ InRange 0 65535 c.id4.toInt := by
  simp [cdmaInRange, InRange, int32_eq_unknown_iff, int64_eq_unknown_iff, uint16_eq_unknown_iff]
  omega

/-- A GSM cell: the location area counts as a primary identifier, and neither it nor the
cell identity has a bound. -/
theorem gsmInRange_iff : c.gsmInRange = true ↔
    ((InRange 200 799 c.id1.toNat ∧ InRange 0 999 c.id2.toNat ∧ c.id3 ≠ SKY_UNKNOWN_ID3 ∧
        c.id4 ≠ SKY_UNKNOWN_ID4) ∨
      (c.id1 = SKY_UNKNOWN_ID1 ∧ c.id2 = SKY_UNKNOWN_ID2 ∧ c.id3 = SKY_UNKNOWN_ID3 ∧
        c.id4 = SKY_UNKNOWN_ID4)) ∧
      OptionalIn 0 63 c.id5.toInt ∧ OptionalIn 1 1023 c.freq.toInt ∧
        OptionalIn 0 63 c.ta.toInt := by
  rw [← id5Outside_eq_false_iff, ← freqOutside_eq_false_iff, ← taOutside_eq_false_iff]
  unfold gsmInRange
  generalize c.id5Outside 0 63 = code
  generalize c.freqOutside 1 1023 = channel
  generalize c.taOutside 0 63 = advance
  simp [mccOutside, mncOutside, InRange, int32_eq_unknown_iff, int64_eq_unknown_iff,
    uint16_eq_unknown_iff]
  by_cases others : code = false ∧ channel = false ∧ advance = false
  · simp only [others, and_true]
    omega
  · tauto

end Cell

namespace CellArgs

variable {args : CellArgs} {rssi : Int16} {isConnected : Bool}

def check : CellArgs → Cell → Bool
  | lte .. => Cell.lteInRange
  | gsm .. => Cell.gsmInRange
  | umts .. => Cell.umtsInRange
  | cdma .. => Cell.cdmaInRange
  | nbIot .. => Cell.nbiotInRange
  | nr .. => Cell.nrInRange

theorem validateBeacon_call (args : CellArgs) (rssi : Int16) (isConnected : Bool) :
    validateBeacon (args.call rssi isConnected).beacon =
      validateCell args.signalRange.1 args.signalRange.2 args.check
        (args.call rssi isConnected).beacon := by
  cases args <;> rfl

theorem accepted_iff (args : CellArgs) (rssi : Int16) (isConnected : Bool) :
    (validateBeacon (args.call rssi isConnected).beacon).1 = true ↔
      args.check (args.call rssi isConnected).beacon.cell = true := by
  rw [validateBeacon_call]
  unfold validateCell
  split_ifs with within <;> simp [within]

theorem check_iff_documented_iff (args : CellArgs) (rssi : Int16) (isConnected : Bool) :
    (args.check (args.call rssi isConnected).beacon.cell = true ↔ args.Documented) ↔
      ¬ args.Misjudged := by
  cases args with
  | lte tac eCellid mcc mnc pci earfcn ta =>
    unfold check Documented Misjudged
    rw [Cell.lteInRange_iff]
    simp only [call, AddCall.beacon, AddCall.lteBeacon]
    generalize PrimaryIn 268435455 mcc mnc eCellid = primary
    generalize OptionalIn 1 65535 tac.toInt = area
    generalize OptionalIn 0 7690 ta.toInt = advance
    unfold OptionalIn InRange
    by_cases others : primary ∧ area ∧ advance
    · simp only [others, true_and, and_true]
      omega
    · tauto
  | gsm lac ci mcc mnc bsic arfcn ta =>
    unfold check Documented Misjudged
    rw [Cell.gsmInRange_iff]
    simp only [call, AddCall.beacon, AddCall.gsmBeacon]
    generalize OptionalIn 0 63 bsic.toInt = code
    generalize OptionalIn 1 1023 arfcn.toInt = channel
    generalize OptionalIn 0 63 ta.toInt = advance
    generalize InRange 200 799 mcc.toNat = country
    generalize InRange 0 999 mnc.toNat = network
    simp only [SKY_UNKNOWN_ID1, SKY_UNKNOWN_ID2, SKY_UNKNOWN_ID3, SKY_UNKNOWN_ID4, ne_eq, InRange,
      int32_eq_unknown_iff, int64_eq_unknown_iff, uint16_eq_unknown_iff]
    by_cases others : code ∧ channel ∧ advance
    · simp only [others, true_and, and_true]
      by_cases known : country ∧ network
      · simp only [known, true_and]
        omega
      · simp only [← and_assoc, known, false_and, not_false_eq_true]
    · tauto
  | umts lac ucid mcc mnc psc uarfcn =>
    have narrow : uarfcn.toInt32.toInt = uarfcn.toInt := Int16.toInt_toInt32 uarfcn
    have upper := Int16.toInt_lt uarfcn
    unfold check Documented Misjudged
    rw [Cell.umtsInRange_iff]
    simp only [call, AddCall.beacon, AddCall.umtsBeacon, narrow]
    generalize PrimaryIn 268435455 mcc mnc ucid = primary
    by_cases others : primary
    · simp only [others, true_and, OptionalIn, InRange]
      omega
    · simp only [others, false_and, not_false_eq_true]
  | cdma sid nid bsid =>
    unfold check Documented Misjudged
    rw [Cell.cdmaInRange_iff]
    simp only [call, AddCall.beacon, AddCall.cdmaBeacon, UInt32.toNat_toUInt16]
    generalize InRange 0 65535 nid.toInt = network
    generalize InRange 0 65535 bsid.toInt = station
    by_cases others : network ∧ station
    · simp only [others, true_and, and_true, InRange]
      omega
    · tauto
  | nbIot mcc mnc eCellid tac ncid earfcn =>
    unfold check Documented Misjudged
    rw [Cell.nbiotInRange_iff]
    simp only [call, AddCall.beacon, AddCall.nbIotBeacon]
    generalize PrimaryIn 268435455 mcc mnc eCellid = primary
    generalize OptionalIn 1 65535 tac.toInt = area
    generalize OptionalIn 0 503 ncid.toInt = code
    by_cases others : primary ∧ area ∧ code
    · simp only [others, true_and, OptionalIn, InRange]
      omega
    · tauto
  | nr mcc mnc nci tac pci nrarfcn ta =>
    unfold check Documented Misjudged
    rw [Cell.nrInRange_iff]
    simp only [call, AddCall.beacon, AddCall.nrBeacon]
    generalize PrimaryIn 68719476735 mcc mnc nci = primary
    generalize OptionalIn 0 3279165 nrarfcn.toInt = channel
    generalize OptionalIn 0 3846 ta.toInt = advance
    by_cases others : primary ∧ channel ∧ advance
    · simp only [others, true_and, and_true, OptionalIn, InRange]
      omega
    · tauto

def keptSignal (rssi : Int16) (args : CellArgs) : Int16 :=
  if InRange args.signalRange.1 args.signalRange.2 rssi.toInt then rssi else -1

theorem preparedBeacon_rssi (s : SkySctx) (age : UInt32)
    (accepted : (validateBeacon (args.call rssi isConnected).beacon).1 = true) :
    (preparedBeacon s (args.call rssi isConnected).beacon age).h.rssi = args.keptSignal rssi := by
  have within := (accepted_iff args rssi isConnected).1 accepted
  have signal : (args.call rssi isConnected).beacon.h.rssi = rssi := by cases args <;> rfl
  have notAp : (args.call rssi isConnected).beacon.isApType = false := by cases args <;> rfl
  have type := (validateBeacon_header (args.call rssi isConnected).beacon).2.1
  have stays : (validateBeacon (args.call rssi isConnected).beacon).2.isApType = false := by
    rw [Beacon.isApType, type]
    exact notAp
  unfold preparedBeacon
  rw [if_neg (fun ap => by rw [← Bool.not_eq_true] at stays; exact stays ap)]
  show (validateBeacon (args.call rssi isConnected).beacon).2.h.rssi = _
  rw [validateBeacon_call, validateCell, if_pos within, Beacon.normalizeNmr_rssi]
  have range : InRange args.signalRange.1 args.signalRange.2 rssi.toInt ↔
      ¬ (args.signalRange.2 < rssi.toInt ∨ rssi.toInt < args.signalRange.1) := by
    unfold InRange
    omega
  unfold Beacon.clampRssi keptSignal
  rw [signal]
  by_cases outside : args.signalRange.2 < rssi.toInt ∨ rssi.toInt < args.signalRange.1
  · rw [if_pos outside, if_neg (range.not.2 (not_not.2 outside))]
  · rw [if_neg outside, if_pos (range.2 outside), signal]

end CellArgs

/-- The call succeeds exactly for what the comment allows, and what it adds to the list
has the signal strength as given, or -1 if it is out of range. -/
def CellArgs.Agrees (s : SkySctx) (r : SkyRctx) (errno : SkyErrno) (rssi : Int16)
    (isConnected : Bool) (timestamp : ℤ) (args : CellArgs) : Prop :=
  let added := skyAddBeacon s r errno (args.call rssi isConnected) timestamp
  (added.status = .success ↔ args.Documented) ∧
    ∀ c ∈ added.rctx.live, c.unranked ∈ r.live.map Beacon.unranked ∨ c.h.rssi = args.keptSignal rssi

variable {s : SkySctx} {r : SkyRctx}

/-- Which calls agree with their comments. -/
theorem cellArgs_agree_iff (errno : SkyErrno) (rssi : Int16) (isConnected : Bool)
    {timestamp : ℤ} {age : UInt32} (opened : s.openFlag = true)
    (plugins : s.plugins = skyRegisterPlugins) (listed : r.Listed)
    (valid : (validateRequestCtx r).1 = true) (aged : beaconAge r.header.time timestamp = .ok age)
    (args : CellArgs) :
    args.Agrees s r errno rssi isConnected timestamp ↔ ¬ args.Misjudged := by
  rw [← args.check_iff_documented_iff rssi isConnected, ← args.accepted_iff rssi isConnected]
  unfold CellArgs.Agrees skyAddBeacon
  dsimp only
  by_cases accepted : (validateBeacon (args.call rssi isConnected).beacon).1 = true
  · have accepts : AcceptsBeacon s r (args.call rssi isConnected).beacon timestamp age :=
      ⟨valid, opened, accepted, aged⟩
    obtain ⟨status, l', n', shows, effect⟩ :=
      addBeacon_effect listed (fun _ => plugins) errno accepts
    have signal : ∀ c ∈ (addBeacon s r errno (args.call rssi isConnected).beacon
        timestamp).rctx.live, c.unranked ∈ r.live.map Beacon.unranked ∨
          c.h.rssi = args.keptSignal rssi := by
      intro c member
      have listedNow : c.unranked ∈ l' := by
        rw [← shows.list]
        exact List.mem_map_of_mem member
      rcases effect.mem _ listedNow with new | old
      · right
        rw [← CellArgs.preparedBeacon_rssi s age accepted]
        exact congrArg (fun b => b.h.rssi) new
      · exact .inl old
    simp only [status, accepted, true_iff, and_iff_left_iff_imp]
    exact fun _ => signal
  · rcases addBeacon_cases s r errno (args.call rssi isConnected).beacon timestamp with
      ⟨e, -, -, -, result⟩ | ⟨age', accepts, -⟩
    · rw [result, validateRequestCtx_snd listed.inOrder.accepted]
      simp only [accepted, reduceCtorEq, false_iff, and_iff_left_iff_imp]
      exact fun _ c member => .inl (List.mem_map_of_mem member)
    · exact absurd accepts.2.2.1 accepted

instance : DecidablePred CellArgs.Documented
  | .lte .. | .umts .. | .cdma .. | .nbIot .. | .nr .. => inferInstanceAs (Decidable (_ ∧ _))
  | .gsm .. => inferInstanceAs (Decidable ((_ ∨ _) ∧ _))

instance : DecidablePred CellArgs.Misjudged
  | .lte .. | .gsm .. | .umts .. | .cdma .. | .nbIot .. | .nr .. =>
    inferInstanceAs (Decidable (_ ∧ _))

def emptyRequest : SkyRctx := SkyRctx.initialized openedSession 1600000000

theorem emptyRequest_listed : emptyRequest.Listed := by
  refine ⟨by decide +kernel, by decide +kernel, by decide +kernel, by decide +kernel, ?_, ?_⟩
  · decide +kernel
  · decide +kernel

/-- An LTE cell with a weak signal. -/
theorem weakCell_agrees : (CellArgs.lte 1000 100000 310 10 5 2000 0).Agrees openedSession
    emptyRequest .none (-150) true 1600000000 :=
  (cellArgs_agree_iff .none (-150) true (by decide +kernel) (by decide +kernel)
    emptyRequest_listed (by decide +kernel)
    (show beaconAge emptyRequest.header.time 1600000000 = .ok 0 by decide +kernel) _).2 (by decide)

/-- An NR cell with a physical identity of 500 is refused, and an LTE cell with a
negative one and a CDMA cell with a system identifier of 17 bits are taken. -/
theorem misjudgedCells_disagree :
    ¬ (CellArgs.nr 310 10 1000 20 500 2000 0).Agrees openedSession emptyRequest .none (-60) true
        1600000000 ∧
      ¬ (CellArgs.lte 1000 100000 310 10 (-2) 2000 0).Agrees openedSession emptyRequest .none
        (-60) true 1600000000 ∧
      ¬ (CellArgs.cdma 65537 5 7).Agrees openedSession emptyRequest .none (-60) true
        1600000000 := by
  refine ⟨?_, ?_, ?_⟩
  · exact fun agrees => absurd agrees.1 (by decide +kernel)
  · exact fun agrees => absurd agrees.1 (by decide +kernel)
  · exact fun agrees => absurd agrees.1 (by decide +kernel)

end EmbeddedClient
