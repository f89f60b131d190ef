import EmbeddedClient.Beacons.Scan

/-!
# When two beacons are the same

With the two plugins registered, `sky_plugin_equal` is a partial equivalence: it
relates APs with one address, and cells of one type with the same identifiers.
-/

namespace EmbeddedClient

theorem memcmp_eq_zero_iff {as bs : List UInt8} (length : as.length = bs.length) :
    memcmp as bs = 0 ↔ as = bs := by
  induction as generalizing bs with
  | nil => cases bs <;> simp_all [memcmp]
  | cons a as ih =>
    cases bs with
    | nil => simp at length
    | cons b bs =>
      unfold memcmp
      split_ifs with same
      · rw [ih (by simpa using length), same, List.cons.injEq]
        simp
      · have differ : a.toNat ≠ b.toNat := fun h => same (UInt8.toNat_inj.1 h)
        simp only [List.cons.injEq, same, false_and, iff_false]
        omega

theorem compareMac_eq_zero_iff (a b : Beacon) : compareMac a b = 0 ↔ a.ap.mac = b.ap.mac := by
  rw [compareMac, memcmp_eq_zero_iff (by simp), Vector.toList_inj, eq_comm]

/-- `sky_plugin_equal` reports the two beacons equal. -/
def SameBeacon (a b : Beacon) : Prop := skyPluginEqual skyRegisterPlugins a b = some true

instance (a b : Beacon) : Decidable (SameBeacon a b) := inferInstanceAs (Decidable (_ = _))

theorem sameBeacon_congr {a b a' b' : Beacon} (left : a.scan = a'.scan) (right : b.scan = b'.scan) :
    SameBeacon a b ↔ SameBeacon a' b' := by
  unfold SameBeacon
  rw [skyPluginEqual_congr _ left right]

theorem sameBeacon_unranked (a b : Beacon) : SameBeacon a.unranked b ↔ SameBeacon a b :=
  sameBeacon_congr a.scan_unranked rfl

theorem isApType_iff (b : Beacon) : b.isApType = true ↔ b.h.type = .ap := by
  simp [Beacon.isApType]

theorem isCellType_of_isApType {b : Beacon} (ap : b.isApType = true) : b.isCellType = false := by
  rw [isApType_iff] at ap
  simp [Beacon.isCellType, ap, SkyBeaconType.code]

theorem isApType_of_isCellType {b : Beacon} (cell : b.isCellType = true) : b.isApType = false := by
  by_contra ap
  rw [isCellType_of_isApType (by simpa using ap)] at cell
  contradiction

theorem equivalent_type {a b : Beacon} (same : CellPlugin.equivalent a b = true) :
    a.h.type ≠ .ap ∧ a.h.type ≠ .ble := by
  constructor <;> intro type <;> simp [CellPlugin.equivalent, type] at same

theorem sameBeacon_iff (a b : Beacon) :
    SameBeacon a b ↔
      (a.h.type = .ap ∧ b.h.type = .ap ∧ a.ap.mac = b.ap.mac) ∨
        (a.h.type = b.h.type ∧ CellPlugin.equivalent a b = true) := by
  unfold SameBeacon skyPluginEqual skyRegisterPlugins
  by_cases aps : a.h.type = .ap ∧ b.h.type = .ap
  · have noCell : ¬ CellPlugin.equivalent a b = true := fun h => (equivalent_type h).1 aps.1
    simp [SkyPluginTable.equal, ApPlugin.equal, Beacon.isApType, aps.1, aps.2, noCell,
      compareMac_eq_zero_iff]
  · have noAp : ApPlugin.equal a b = none := by
      unfold ApPlugin.equal
      apply if_pos
      rw [← isApType_iff, ← isApType_iff] at aps
      cases ha : a.isApType <;> cases hb : b.isApType <;> simp_all
    have left : ¬ (a.h.type = .ap ∧ b.h.type = .ap ∧ a.ap.mac = b.ap.mac) :=
      fun h => aps ⟨h.1, h.2.1⟩
    simp only [List.findSome?_cons, List.findSome?_nil, SkyPluginTable.equal, noAp, left, false_or]
    simp only [CellPlugin.equal]
    split_ifs with other
    · simp only [false_iff, not_and]
      intro type same
      have := equivalent_type same
      rw [← type] at other
      simp_all
    · simp only [not_or, not_not] at other
      simp [other.1]

theorem equivalent_symm {a b : Beacon} (type : a.h.type = b.h.type)
    (same : CellPlugin.equivalent a b = true) : CellPlugin.equivalent b a = true := by
  unfold CellPlugin.equivalent at same ⊢
  rw [← type]
  cases h : a.h.type <;> simp only [h] at same ⊢ <;> simp at same ⊢ <;> grind

theorem equivalent_trans {a b c : Beacon} (type : a.h.type = b.h.type)
    (same : CellPlugin.equivalent a b = true) (same' : CellPlugin.equivalent b c = true) :
    CellPlugin.equivalent a c = true := by
  unfold CellPlugin.equivalent at same same' ⊢
  rw [← type] at same'
  cases h : a.h.type <;> simp only [h] at same same' ⊢ <;> simp at same same' ⊢ <;> grind

theorem SameBeacon.symm {a b : Beacon} (same : SameBeacon a b) : SameBeacon b a := by
  rw [sameBeacon_iff] at same ⊢
  obtain ⟨ha, hb, mac⟩ | ⟨type, same⟩ := same
  · exact .inl ⟨hb, ha, mac.symm⟩
  · exact .inr ⟨type.symm, equivalent_symm type same⟩

theorem SameBeacon.trans {a b c : Beacon} (ab : SameBeacon a b) (bc : SameBeacon b c) :
    SameBeacon a c := by
  rw [sameBeacon_iff] at ab bc ⊢
  obtain ⟨ha, hb, mac⟩ | ⟨type, same⟩ := ab <;> obtain ⟨hb', hc, mac'⟩ | ⟨type', same'⟩ := bc
  · exact .inl ⟨ha, hc, mac.trans mac'⟩
  · exact absurd hb (equivalent_type same').1
  · exact absurd (type.trans hb') (equivalent_type same).1
  · exact .inr ⟨type.trans type', equivalent_trans type same same'⟩

/-- The type, the address, and the cell without its timing advance. -/
def Beacon.identity (b : Beacon) : SkyBeaconType × Vector UInt8 6 × Cell :=
  (b.h.type, b.ap.mac, { b.cell with ta := 0 })

@[simp] theorem Beacon.scan_identity (b : Beacon) : b.scan.identity = b.identity := rfl

theorem sameBeacon_of_identity {a a' : Beacon} (same : a.identity = a'.identity) (c : Beacon) :
    SameBeacon a c ↔ SameBeacon a' c := by
  simp only [Beacon.identity, Prod.mk.injEq, Cell.mk.injEq] at same
  obtain ⟨type, mac, id1, id2, id3, id4, id5, freq, -⟩ := same
  rw [sameBeacon_iff, sameBeacon_iff]
  unfold CellPlugin.equivalent
  rw [type, mac, id1, id2, id3, id4, id5, freq]

@[simp] theorem Beacon.identity_clampRssi (b : Beacon) (lo hi : ℤ) :
    (b.clampRssi lo hi).identity = b.identity := by
  simp [Beacon.identity]

@[simp] theorem Beacon.identity_normalizeNmr (b : Beacon) :
    b.normalizeNmr.identity = b.identity := by
  unfold Beacon.normalizeNmr
  split_ifs <;> rfl

@[simp] theorem Beacon.identity_clampFreq (b : Beacon) : b.clampFreq.identity = b.identity := by
  unfold Beacon.clampFreq
  split_ifs <;> rfl

theorem validateBeacon_identity (b : Beacon) : (validateBeacon b).2.identity = b.identity := by
  rw [validateBeacon_eq]
  split_ifs
  · rfl
  · simp [validateAp]
  · cases cellRule b.h.type with
    | none => rfl
    | some rule =>
      simp only [validateCell]
      split_ifs <;> simp

theorem SameBeacon.isApType_eq {a b : Beacon} (same : SameBeacon a b) :
    a.isApType = b.isApType := by
  have type : a.h.type = b.h.type := by
    rw [sameBeacon_iff] at same
    obtain ⟨ha, hb, -⟩ | ⟨type, -⟩ := same
    · rw [ha, hb]
    · exact type
  simp [Beacon.isApType, type]

/-- A neighbour cell of the one technology whose cells are never equal without
their primary identifiers. -/
def Beacon.isGsmNmr (b : Beacon) : Bool := b.h.type = .gsm && b.isCellNmr

theorem sameBeacon_self_iff {b : Beacon} (accepted : b.Accepted) (cell : b.isCellType = true) :
    SameBeacon b b ↔ b.isGsmNmr = false := by
  have valid : (validateBeacon b).1 = true := by rw [accepted]
  obtain ⟨rule, isRule, within, -⟩ := validateBeacon_cell b cell valid
  have noAp : b.h.type ≠ .ap := by
    intro ap
    simp [ap, cellRule] at isRule
  have byCell : SameBeacon b b ↔ CellPlugin.equivalent b b = true := by
    rw [sameBeacon_iff]
    simp [noAp]
  rw [byCell]
  unfold Beacon.isGsmNmr Beacon.isCellNmr
  rw [cell]
  cases type : b.h.type with
  | cdma =>
    rw [type] at isRule
    simp only [cellRule, Option.some.injEq] at isRule
    subst isRule
    simp [Cell.cdmaInRange] at within
    simp [CellPlugin.equivalent, type]
    grind
  | gsm =>
    rw [type] at isRule
    simp only [cellRule, Option.some.injEq] at isRule
    subst isRule
    simp [Cell.gsmInRange] at within
    simp [CellPlugin.equivalent, type]
    grind
  | lte => simp [CellPlugin.equivalent, type]
  | nbiot => simp [CellPlugin.equivalent, type]
  | umts => simp [CellPlugin.equivalent, type]
  | nr => simp [CellPlugin.equivalent, type]
  | _ => simp [type, cellRule] at isRule

/-- A valid beacon is equal to itself, unless it is a GSM neighbour cell. -/
theorem Beacon.Accepted.sameBeacon_self_iff {b : Beacon} (accepted : b.Accepted) :
    SameBeacon b b ↔ b.isGsmNmr = false := by
  rcases accepted.isApType_or_isCellType with ap | cell
  · rw [isApType_iff] at ap
    refine iff_of_true ((sameBeacon_iff b b).2 (.inl ⟨ap, ap, rfl⟩)) ?_
    simp [Beacon.isGsmNmr, ap]
  · exact EmbeddedClient.sameBeacon_self_iff accepted cell

/-- `copy` is the beacon with another age, signal strength, connected flag, timing advance or
priority. -/
def Beacon.CopyOf (copy b : Beacon) : Prop :=
  copy = { b with
    h := { b.h with age := copy.h.age, rssi := copy.h.rssi, connected := copy.h.connected,
                    priority := copy.h.priority }
    cell := { b.cell with ta := copy.cell.ta } }

theorem Beacon.CopyOf.identity {copy b : Beacon} (isCopy : copy.CopyOf b) :
    copy.identity = b.identity := by
  rw [isCopy]
  rfl

theorem sameBeacon_copy_iff {copy b : Beacon} (isCopy : copy.CopyOf b) :
    (SameBeacon b copy ∧ SameBeacon copy b) ↔ SameBeacon b b := by
  rw [sameBeacon_of_identity isCopy.identity]
  constructor
  · intro both
    exact both.2
  · intro self
    exact ⟨((sameBeacon_of_identity isCopy.identity b).2 self).symm, self⟩

def Comparable (b c : Beacon) : Prop := (skyPluginEqual skyRegisterPlugins b c).isSome = true

/-- Beacons of one type can be compared, Bluetooth beacons apart. -/
theorem comparable_iff (b c : Beacon) :
    Comparable b c ↔ b.h.type = c.h.type ∧ b.h.type ≠ .ble := by
  unfold Comparable skyPluginEqual skyRegisterPlugins
  simp only [List.findSome?_cons, List.findSome?_nil, SkyPluginTable.equal]
  by_cases aps : b.h.type = .ap ∧ c.h.type = .ap
  · simp [ApPlugin.equal, Beacon.isApType, aps.1, aps.2]
  · have noAp : ApPlugin.equal b c = none := by
      unfold ApPlugin.equal
      rw [not_and_or] at aps
      apply if_pos
      rcases aps with left | right
      · simp [Beacon.isApType, left]
      · simp [Beacon.isApType, right]
    rw [noAp]
    unfold CellPlugin.equal
    split_ifs with other
    · simp only [Option.isSome_none, Bool.false_eq_true, false_iff, not_and, not_not]
      intro type
      grind
    · simp only [not_or, not_not] at other
      simp [other.1, other.2.2.2.2]

def SameClass (a b : Beacon) : Prop :=
  (a.isApType = true ∧ b.isApType = true) ∨
    (a.isCellType = true ∧ b.isCellType = true ∧ a.h.type = b.h.type)

theorem Beacon.Accepted.sameClass_iff {a b : Beacon} (accepted : a.Accepted) :
    SameClass a b ↔ a.h.type = b.h.type := by
  constructor
  · intro same
    rcases same with ⟨apA, apB⟩ | ⟨-, -, type⟩
    · rw [isApType_iff] at apA apB
      rw [apA, apB]
    · exact type
  · intro type
    rcases accepted.isApType_or_isCellType with apA | cellA
    · refine .inl ⟨apA, ?_⟩
      rwa [isApType_iff, ← type, ← isApType_iff]
    · refine .inr ⟨cellA, ?_, type⟩
      rwa [Beacon.isCellType, ← type]

theorem Beacon.Accepted.type_ne_ble {b : Beacon} (accepted : b.Accepted) : b.h.type ≠ .ble := by
  intro ble
  rcases accepted.isApType_or_isCellType with ap | cell
  · simp [Beacon.isApType, ble] at ap
  · simp [Beacon.isCellType, ble, SkyBeaconType.code] at cell

/-- What an equality of beacons promises of three beacons. -/
structure EqualityLaws (a b c : Beacon) : Prop where
  refl : ∀ copy : Beacon, copy.CopyOf a → SameBeacon a copy ∧ SameBeacon copy a
  symm : SameBeacon a b → SameBeacon b a
  trans : SameBeacon a b → SameBeacon b c → SameBeacon a c
  succeeds : Comparable a b ↔ SameClass a b

/-- The laws hold of all accepted beacons but for one: a GSM neighbour cell is not equal to
its copies. -/
theorem equalityLaws_iff {a : Beacon} (accepted : a.Accepted) (b c : Beacon) :
    EqualityLaws a b c ↔ a.isGsmNmr = false := by
  rw [← accepted.sameBeacon_self_iff]
  constructor
  · intro laws
    exact (laws.refl a rfl).1
  · intro self
    constructor
    · intro copy isCopy
      exact (sameBeacon_copy_iff isCopy).2 self
    · exact SameBeacon.symm
    · exact SameBeacon.trans
    · rw [comparable_iff, accepted.sameClass_iff]
      exact and_iff_left accepted.type_ne_ble

/-- Three LTE cells, of which the second is a neighbour cell. -/
theorem lteCells_equalityLaws :
    EqualityLaws (AddCall.lte 1000 100000 310 10 5 2000 0 (-100) true).beacon
      (AddCall.lteNeighbor 5 2000 (-100)).beacon
      (AddCall.lte 1000 100000 310 10 5 2000 3 (-90) false).beacon :=
  (equalityLaws_iff (by decide) _ _).2 rfl

/-- A GSM neighbour cell. -/
theorem gsmNeighbour_not_equalityLaws :
    (AddCall.gsmNeighbor 5 100 (-90)).beacon.Accepted ∧
      ¬ EqualityLaws (AddCall.gsmNeighbor 5 100 (-90)).beacon
        (AddCall.gsmNeighbor 5 100 (-90)).beacon
        (AddCall.gsmNeighbor 5 100 (-90)).beacon := by
  have accepted : (AddCall.gsmNeighbor 5 100 (-90)).beacon.Accepted := by decide
  refine ⟨accepted, ?_⟩
  intro laws
  have isCopy : (AddCall.gsmNeighbor 5 100 (-90)).beacon.CopyOf
    (AddCall.gsmNeighbor 5 100 (-90)).beacon := rfl
  have self := (laws.refl _ isCopy).1
  exact absurd self (by decide)

end EmbeddedClient
