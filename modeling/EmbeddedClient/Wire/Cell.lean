import EmbeddedClient.Model.Libel
import EmbeddedClient.Beacons.Validate

/-!
# The cell submessage

The bytes of `encode_cell_field` are a stream of varint fields. A reader that
follows the field types of the message description gives back what the getters
report, unless an identifier is below the unknown marker `-1`: the addition of
one then leaves a negative number, of which the reader sees the low bits.
-/

namespace EmbeddedClient

open Varint

/-- A cell as the server reads it: an identifier that is absent is unknown. -/
structure CellReport where
  type : SkyBeaconType
  id1 : Option ℤ
  id2 : Option ℤ
  id3 : Option ℤ
  id4 : Option ℤ
  id5 : Option ℤ
  freq : Option ℤ
  connected : Bool
  rssi : ℤ
  age : ℤ
  ta : Option ℤ
  deriving DecidableEq, Repr

/-- A `plus_1` field: zero or absent is unknown. -/
def plusOne (value : ℕ) : Option ℤ := if value = 0 then none else some (value - 1)

def cellTypeOf : ℕ → SkyBeaconType
  | 8 => .nr
  | 5 => .lte
  | 7 => .umts
  | 6 => .nbiot
  | 3 => .cdma
  | 4 => .gsm
  | _ => .max

/-- The reader of `Cell`, with the field types of `Cell_FIELDLIST`. -/
def decodeCell (bytes : List UInt8) : Option CellReport :=
  (decodeMessage bytes).map fun fields =>
    let uint32 (number : ℕ) : ℕ := lastValue number fields % 2 ^ 32
    let uint64 (number : ℕ) : ℕ := lastValue number fields % 2 ^ 64
    { type := cellTypeOf (uint32 1)
      id1 := plusOne (uint32 2)
      id2 := plusOne (uint32 3)
      id3 := plusOne (uint32 4)
      id4 := plusOne (uint64 5)
      id5 := plusOne (uint32 6)
      freq := plusOne (uint32 7)
      connected := lastValue 8 fields ≠ 0
      rssi := -(uint32 9 : ℤ)
      age := uint32 10
      ta := plusOne (uint32 11) }

def known (value unknown : ℤ) : Option ℤ := if value ≠ unknown then some value else none

/-- What the getters report about a cell. -/
def Beacon.cellReport (b : Beacon) : CellReport where
  type := b.h.type
  id1 := known (getCellId1 b) SKY_UNKNOWN_ID1.toNat
  id2 := known (getCellId2 b) SKY_UNKNOWN_ID2.toNat
  id3 := known (getCellId3 b) SKY_UNKNOWN_ID3.toInt
  id4 := known (getCellId4 b) SKY_UNKNOWN_ID4.toInt
  id5 := known (getCellId5 b) SKY_UNKNOWN_ID5.toInt
  freq := known (getCellId6 b) SKY_UNKNOWN_ID6.toInt
  connected := getCellConnectedFlag b
  rssi := getCellRssi b
  age := getCellAge b
  ta := known (getCellTa b) SKY_UNKNOWN_TA.toInt

def word (value : ℤ) : ℕ := (value % 2 ^ 64).toNat

/-- The field `encode_cell_field_element` writes, if it writes one. -/
def elementFields (tag : ℕ) (val unknown : ℤ) : List (ℕ × ℕ) :=
  if val ≠ unknown then [(tag, word (val + 1))] else []

def cellFields (cell : Beacon) : List (ℕ × ℕ) :=
  [(1, word (mapCellType cell))] ++
  elementFields 2 (getCellId1 cell) SKY_UNKNOWN_ID1.toNat ++
  elementFields 3 (getCellId2 cell) SKY_UNKNOWN_ID2.toNat ++
  elementFields 4 (getCellId3 cell) SKY_UNKNOWN_ID3.toInt ++
  elementFields 5 (getCellId4 cell) SKY_UNKNOWN_ID4.toInt ++
  elementFields 6 (getCellId5 cell) SKY_UNKNOWN_ID5.toInt ++
  elementFields 7 (getCellId6 cell) SKY_UNKNOWN_ID6.toInt ++
  [(8, word (getCellConnectedFlag cell).toNat), (9, word (-getCellRssi cell)),
    (10, word (getCellAge cell))] ++
  elementFields 11 (getCellTa cell) SKY_UNKNOWN_TA.toInt

theorem pbEncodeTag_append_varint (tag : ℕ) (value : ℤ) :
    pbEncodeTag PB_WT_VARINT tag ++ pbEncodeVarint value = encodeField (tag, word value) := rfl

theorem encodeCellFieldElement_eq (tag : ℕ) (val unknown : ℤ) :
    encodeCellFieldElement tag val unknown =
      (elementFields tag val unknown).flatMap encodeField := by
  unfold encodeCellFieldElement elementFields
  split_ifs <;> simp [encodeField, pbEncodeTag, pbEncodeVarint, word]

theorem encodeCellField_eq (cell : Beacon) :
    encodeCellField cell = (cellFields cell).flatMap encodeField := by
  simp only [encodeCellField, cellFields, List.flatMap_append, encodeCellFieldElement_eq,
    List.flatMap_cons, List.flatMap_nil, List.append_nil, ← pbEncodeTag_append_varint,
    List.append_assoc]

theorem filter_elementFields (number tag : ℕ) (val unknown : ℤ) :
    ((elementFields tag val unknown).filter fun field => field.1 = number) =
      if tag = number then elementFields tag val unknown else [] := by
  unfold elementFields
  split_ifs <;> simp_all

def elementValue (val unknown : ℤ) : ℕ := if val ≠ unknown then word (val + 1) else 0

theorem getLast?_elementFields (tag : ℕ) (val unknown : ℤ) :
    (((elementFields tag val unknown).getLast?).map Prod.snd).getD 0 =
      elementValue val unknown := by
  unfold elementFields elementValue
  split_ifs <;> simp

theorem lastValue_cellFields (cell : Beacon) :
    lastValue 1 (cellFields cell) = word (mapCellType cell) ∧
    lastValue 2 (cellFields cell) = elementValue (getCellId1 cell) SKY_UNKNOWN_ID1.toNat ∧
    lastValue 3 (cellFields cell) = elementValue (getCellId2 cell) SKY_UNKNOWN_ID2.toNat ∧
    lastValue 4 (cellFields cell) = elementValue (getCellId3 cell) SKY_UNKNOWN_ID3.toInt ∧
    lastValue 5 (cellFields cell) = elementValue (getCellId4 cell) SKY_UNKNOWN_ID4.toInt ∧
    lastValue 6 (cellFields cell) = elementValue (getCellId5 cell) SKY_UNKNOWN_ID5.toInt ∧
    lastValue 7 (cellFields cell) = elementValue (getCellId6 cell) SKY_UNKNOWN_ID6.toInt ∧
    lastValue 8 (cellFields cell) = word (getCellConnectedFlag cell).toNat ∧
    lastValue 9 (cellFields cell) = word (-getCellRssi cell) ∧
    lastValue 10 (cellFields cell) = word (getCellAge cell) ∧
    lastValue 11 (cellFields cell) = elementValue (getCellTa cell) SKY_UNKNOWN_TA.toInt := by
  unfold lastValue cellFields
  simp only [List.filter_append, filter_elementFields, List.filter_cons, List.filter_nil]
  norm_num [getLast?_elementFields]

theorem decodeCell_encodeCellField (cell : Beacon) :
    decodeCell (encodeCellField cell) = some
      { type := cellTypeOf (word (mapCellType cell) % 2 ^ 32)
        id1 := plusOne (elementValue (getCellId1 cell) SKY_UNKNOWN_ID1.toNat % 2 ^ 32)
        id2 := plusOne (elementValue (getCellId2 cell) SKY_UNKNOWN_ID2.toNat % 2 ^ 32)
        id3 := plusOne (elementValue (getCellId3 cell) SKY_UNKNOWN_ID3.toInt % 2 ^ 32)
        id4 := plusOne (elementValue (getCellId4 cell) SKY_UNKNOWN_ID4.toInt % 2 ^ 64)
        id5 := plusOne (elementValue (getCellId5 cell) SKY_UNKNOWN_ID5.toInt % 2 ^ 32)
        freq := plusOne (elementValue (getCellId6 cell) SKY_UNKNOWN_ID6.toInt % 2 ^ 32)
        connected := word (getCellConnectedFlag cell).toNat ≠ 0
        rssi := -((word (-getCellRssi cell) % 2 ^ 32 : ℕ) : ℤ)
        age := (word (getCellAge cell) % 2 ^ 32 : ℕ)
        ta := plusOne (elementValue (getCellTa cell) SKY_UNKNOWN_TA.toInt % 2 ^ 32) } := by
  obtain ⟨type, id1, id2, id3, id4, id5, freq, connected, rssi, age, ta⟩ :=
    lastValue_cellFields cell
  simp only [decodeCell, encodeCellField_eq, decodeMessage_flatMap, Option.map_some, type, id1,
    id2, id3, id4, id5, freq, connected, rssi, age, ta]

/-- A 32-bit `plus_1` field gives a value back exactly when it is not below `-1`. -/
theorem plusOne_uint32 {value unknown : ℤ} (lower : -2 ^ 31 ≤ value) (upper : value < 2 ^ 31)
    (marker : unknown = -1 ∨ 0 ≤ value) :
    plusOne (elementValue value unknown % 2 ^ 32) = known value unknown ↔ -1 ≤ value := by
  unfold plusOne elementValue known word
  split_ifs <;> simp only [Option.some.injEq, true_iff, false_iff] <;> omega

theorem plusOne_uint64 {value unknown : ℤ} (lower : -2 ^ 63 ≤ value) (upper : value < 2 ^ 63)
    (marker : unknown = -1 ∨ 0 ≤ value) :
    plusOne (elementValue value unknown % 2 ^ 64) = known value unknown ↔ -1 ≤ value := by
  unfold plusOne elementValue known word
  split_ifs <;> simp only [Option.some.injEq, true_iff, false_iff] <;> omega

/-- The cell reports no identifier below the unknown marker. -/
def Beacon.identifiersFit (b : Beacon) : Prop :=
  -1 ≤ getCellId3 b ∧ -1 ≤ getCellId4 b ∧ -1 ≤ getCellId5 b ∧ -1 ≤ getCellId6 b

instance (b : Beacon) : Decidable b.identifiersFit := inferInstanceAs (Decidable (_ ∧ _))

theorem cellTypeOf_mapCellType (b : Beacon) (cell : b.isCellType = true) :
    cellTypeOf (word (mapCellType b) % 2 ^ 32) = b.h.type := by
  unfold mapCellType
  cases type : b.h.type with
  | other k =>
    have above : ¬ 10 + k ≤ 8 := by omega
    simp [Beacon.isCellType, type, SkyBeaconType.code, above] at cell
  | zero | ap | ble | max => simp [Beacon.isCellType, type, SkyBeaconType.code] at cell
  | nr | lte | umts | nbiot | cdma | gsm => decide

/-- A getter of an optional identifier stays between any bounds that hold of the
marker, of zero and of the field. -/
theorem getCellField_mem {unknown value lo hi : ℤ} (b : Beacon)
    (marker : lo ≤ unknown ∧ unknown < hi) (zero : lo ≤ 0 ∧ 0 < hi)
    (field : lo ≤ value ∧ value < hi) :
    lo ≤ getCellField unknown value b ∧ getCellField unknown value b < hi := by
  unfold getCellField
  cases b.h.type <;> assumption

theorem plusOne_id1 (b : Beacon) :
    plusOne (elementValue (getCellId1 b) SKY_UNKNOWN_ID1.toNat % 2 ^ 32) =
      known (getCellId1 b) SKY_UNKNOWN_ID1.toNat := by
  have field := b.cell.id1.toNat_lt
  have bounds : 0 ≤ getCellId1 b ∧ getCellId1 b < 2 ^ 16 :=
    getCellField_mem b (by decide) (by decide) ⟨by omega, by omega⟩
  exact (plusOne_uint32 (by omega) (by omega) (.inr bounds.1)).2 (by omega)

theorem plusOne_id2 (b : Beacon) :
    plusOne (elementValue (getCellId2 b) SKY_UNKNOWN_ID2.toNat % 2 ^ 32) =
      known (getCellId2 b) SKY_UNKNOWN_ID2.toNat := by
  have field := b.cell.id2.toNat_lt
  have bounds : 0 ≤ getCellId2 b ∧ getCellId2 b < 2 ^ 16 := by
    unfold getCellId2
    omega
  exact (plusOne_uint32 (by omega) (by omega) (.inr bounds.1)).2 (by omega)

theorem plusOne_id3 (b : Beacon) :
    plusOne (elementValue (getCellId3 b) SKY_UNKNOWN_ID3.toInt % 2 ^ 32) =
      known (getCellId3 b) SKY_UNKNOWN_ID3.toInt ↔ -1 ≤ getCellId3 b :=
  plusOne_uint32 (Int32.le_toInt _) (Int32.toInt_lt _) (.inl rfl)

theorem plusOne_id4 (b : Beacon) :
    plusOne (elementValue (getCellId4 b) SKY_UNKNOWN_ID4.toInt % 2 ^ 64) =
      known (getCellId4 b) SKY_UNKNOWN_ID4.toInt ↔ -1 ≤ getCellId4 b :=
  plusOne_uint64 (Int64.le_toInt _) (Int64.toInt_lt _) (.inl rfl)

theorem plusOne_id5 (b : Beacon) :
    plusOne (elementValue (getCellId5 b) SKY_UNKNOWN_ID5.toInt % 2 ^ 32) =
      known (getCellId5 b) SKY_UNKNOWN_ID5.toInt ↔ -1 ≤ getCellId5 b := by
  have bounds : -2 ^ 15 ≤ getCellId5 b ∧ getCellId5 b < 2 ^ 15 :=
    getCellField_mem b (by decide) (by decide) ⟨Int16.le_toInt _, Int16.toInt_lt _⟩
  exact plusOne_uint32 (by omega) (by omega) (.inl rfl)

theorem plusOne_id6 (b : Beacon) :
    plusOne (elementValue (getCellId6 b) SKY_UNKNOWN_ID6.toInt % 2 ^ 32) =
      known (getCellId6 b) SKY_UNKNOWN_ID6.toInt ↔ -1 ≤ getCellId6 b := by
  have bounds : -2 ^ 31 ≤ getCellId6 b ∧ getCellId6 b < 2 ^ 31 :=
    getCellField_mem b (by decide) (by decide) ⟨Int32.le_toInt _, Int32.toInt_lt _⟩
  exact plusOne_uint32 bounds.1 bounds.2 (.inl rfl)

theorem plusOne_ta (b : Beacon) (fits : -1 ≤ getCellTa b) :
    plusOne (elementValue (getCellTa b) SKY_UNKNOWN_TA.toInt % 2 ^ 32) =
      known (getCellTa b) SKY_UNKNOWN_TA.toInt := by
  have upper : getCellTa b < 2 ^ 31 := by
    unfold getCellTa
    split
    all_goals exact Int32.toInt_lt _
  exact (plusOne_uint32 (by omega) upper (.inl rfl)).2 fits

/-- A cell with a negative signal strength and a timing advance that fits comes
back as it was reported exactly when its identifiers fit. -/
theorem decodeCell_eq_some_iff (b : Beacon) (cell : b.isCellType = true)
    (rssi : b.h.rssi.toInt ≤ 0) (ta : -1 ≤ getCellTa b) :
    decodeCell (encodeCellField b) = some b.cellReport ↔ b.identifiersFit := by
  have connected : decide (word (getCellConnectedFlag b).toNat ≠ 0) = getCellConnectedFlag b := by
    cases getCellConnectedFlag b <;> decide
  have strength : -((word (-getCellRssi b) % 2 ^ 32 : ℕ) : ℤ) = getCellRssi b := by
    have lower := b.h.rssi.le_toInt
    unfold word getCellRssi
    omega
  have age : ((word (getCellAge b) % 2 ^ 32 : ℕ) : ℤ) = getCellAge b := by
    have upper := b.h.age.toNat_lt
    unfold word getCellAge
    omega
  rw [decodeCell_encodeCellField, Beacon.cellReport, cellTypeOf_mapCellType b cell,
    plusOne_id1, plusOne_id2, plusOne_ta b ta, connected, strength, age]
  simp only [Option.some.injEq, CellReport.mk.injEq, plusOne_id3, plusOne_id4, plusOne_id5,
    plusOne_id6, true_and, and_true]
  rfl

theorem ta_of_taOutside (c : Cell) (hi : ℤ) (inside : c.taOutside 0 hi = false) :
    -1 ≤ c.ta.toInt := by
  by_cases unknown : c.ta = -1
  · rw [unknown]
    decide
  · simp [Cell.taOutside, unknown] at inside
    omega

theorem getCellTa_inRange (b : Beacon) (rule : CellRule) (hrule : cellRule b.h.type = some rule)
    (within : rule.inRange b.cell = true) : -1 ≤ getCellTa b := by
  unfold getCellTa
  cases type : b.h.type with
  | lte | gsm | nr =>
    simp only [type, cellRule, Option.some.injEq] at hrule
    subst hrule
    simp only [Cell.lteInRange, Cell.gsmInRange, Cell.nrInRange, Bool.and_eq_true,
      Bool.not_eq_true', Bool.or_eq_false_iff] at within
    exact ta_of_taOutside b.cell _ within.2.2
  | _ => exact (by decide : -1 ≤ SKY_UNKNOWN_TA.toInt)

theorem getCellTa_normalizeNmr (b : Beacon) (fits : -1 ≤ getCellTa b) :
    -1 ≤ getCellTa b.normalizeNmr := by
  unfold Beacon.normalizeNmr
  split_ifs
  · unfold getCellTa
    simp only
    split <;> decide
  · exact fits

/-- Every accepted cell is read back by the server as the getters report it,
exactly when no identifier is below the unknown marker. -/
theorem decodeCell_accepted_iff (b : Beacon) (cell : b.isCellType = true)
    (accepted : (validateBeacon b).1 = true) :
    decodeCell (encodeCellField (validateBeacon b).2) = some (validateBeacon b).2.cellReport ↔
      (validateBeacon b).2.identifiersFit := by
  obtain ⟨rule, hrule, within, left⟩ := validateBeacon_cell b cell accepted
  rw [left]
  apply decodeCell_eq_some_iff _
  · simpa [Beacon.isCellType] using cell
  · have := Beacon.rssi_clampRssi_le b rule.lo rule.hi rule.negative
    simp only [Beacon.normalizeNmr_rssi]
    omega
  · refine getCellTa_normalizeNmr _ (getCellTa_inRange _ rule ?_ ?_)
    · simpa using hrule
    · simpa using within

def lteWithPci (pci : Int16) : Beacon := (AddCall.lte 1 1 310 410 pci 1 (-1) (-90) false).beacon

theorem decodeCell_accepted_pci_five :
    decodeCell (encodeCellField (validateBeacon (lteWithPci 5)).2) =
      some (validateBeacon (lteWithPci 5)).2.cellReport :=
  (decodeCell_accepted_iff (lteWithPci 5) (by decide) (by decide)).2 (by decide)

/-- The physical cell id `-2` passes the bounds and does not survive the wire. -/
theorem decodeCell_pci_minus_two :
    (lteWithPci (-2)).isCellType = true ∧ (validateBeacon (lteWithPci (-2))).1 = true ∧
      decodeCell (encodeCellField (validateBeacon (lteWithPci (-2))).2) ≠
        some (validateBeacon (lteWithPci (-2))).2.cellReport := by
  refine ⟨by decide, by decide, ?_⟩
  rw [decodeCell_encodeCellField]
  decide

end EmbeddedClient
