import EmbeddedClient.Model.Utilities

/-!
# Validation of a beacon

`validate_beacon` rewrites some fields while it checks. What it leaves behind
when it accepts a beacon is a fixed point: it is accepted again and not changed
again. The six cell branches are one rule with its own bounds.
-/

namespace EmbeddedClient

namespace Beacon

variable (b : Beacon) (lo hi : ℤ)

@[simp] theorem clampRssi_cell : (b.clampRssi lo hi).cell = b.cell := by
  unfold clampRssi; split_ifs <;> rfl

@[simp] theorem clampRssi_ap : (b.clampRssi lo hi).ap = b.ap := by
  unfold clampRssi; split_ifs <;> rfl

@[simp] theorem clampRssi_magic : (b.clampRssi lo hi).h.magic = b.h.magic := by
  unfold clampRssi; split_ifs <;> rfl

@[simp] theorem clampRssi_type : (b.clampRssi lo hi).h.type = b.h.type := by
  unfold clampRssi; split_ifs <;> rfl

@[simp] theorem clampRssi_age : (b.clampRssi lo hi).h.age = b.h.age := by
  unfold clampRssi; split_ifs <;> rfl

@[simp] theorem clampRssi_isCellNmr : (b.clampRssi lo hi).isCellNmr = b.isCellNmr := by
  simp only [isCellNmr, isCellType, clampRssi_type, clampRssi_cell]

@[simp] theorem clampRssi_clampRssi : (b.clampRssi lo hi).clampRssi lo hi = b.clampRssi lo hi := by
  unfold clampRssi
  split_ifs <;> rfl

theorem rssi_clampRssi_le (negative : hi ≤ -1) : (b.clampRssi lo hi).h.rssi.toInt ≤ -1 := by
  unfold clampRssi
  split_ifs with outside
  · exact (by decide : (-1 : Int16).toInt ≤ -1)
  · have := not_or.1 outside
    omega

@[simp] theorem normalizeNmr_magic : b.normalizeNmr.h.magic = b.h.magic := by
  unfold normalizeNmr; split_ifs <;> rfl

@[simp] theorem normalizeNmr_type : b.normalizeNmr.h.type = b.h.type := by
  unfold normalizeNmr; split_ifs <;> rfl

@[simp] theorem normalizeNmr_age : b.normalizeNmr.h.age = b.h.age := by
  unfold normalizeNmr; split_ifs <;> rfl

@[simp] theorem normalizeNmr_rssi : b.normalizeNmr.h.rssi = b.h.rssi := by
  unfold normalizeNmr; split_ifs <;> rfl

@[simp] theorem normalizeNmr_normalizeNmr : b.normalizeNmr.normalizeNmr = b.normalizeNmr := by
  unfold normalizeNmr
  split_ifs <;> simp_all [isCellNmr, isCellType]

@[simp] theorem clampFreq_h : b.clampFreq.h = b.h := by
  unfold clampFreq; split_ifs <;> rfl

@[simp] theorem clampFreq_mac : b.clampFreq.ap.mac = b.ap.mac := by
  unfold clampFreq; split_ifs <;> rfl

@[simp] theorem clampFreq_clampFreq : b.clampFreq.clampFreq = b.clampFreq := by
  unfold clampFreq
  split_ifs <;> rfl

theorem clampRssi_clampFreq :
    b.clampFreq.clampRssi lo hi = (b.clampRssi lo hi).clampFreq := by
  unfold clampFreq
  rw [clampRssi_ap]
  split_ifs
  · unfold clampRssi
    split_ifs <;> simp
  · rfl

theorem clampRssi_normalizeNmr :
    b.normalizeNmr.clampRssi lo hi = (b.clampRssi lo hi).normalizeNmr := by
  unfold normalizeNmr
  rw [clampRssi_isCellNmr]
  split_ifs
  · unfold clampRssi
    split_ifs <;> rfl
  · rfl

end Beacon

/-- The bounds of one cell branch. Clearing the timing advance keeps a cell in range. -/
structure CellRule where
  lo : ℤ
  hi : ℤ
  inRange : Cell → Bool
  negative : hi ≤ -1
  stable : ∀ c, inRange c = true → inRange { c with ta := SKY_UNKNOWN_TA } = true

namespace CellRule

variable (rule : CellRule) (b : Beacon)

theorem inRange_normalizeNmr (within : rule.inRange b.cell = true) :
    rule.inRange b.normalizeNmr.cell = true := by
  unfold Beacon.normalizeNmr
  split_ifs
  · exact rule.stable b.cell within
  · exact within

theorem validateCell_idempotent
    (accepted : (validateCell rule.lo rule.hi rule.inRange b).1 = true) :
    validateCell rule.lo rule.hi rule.inRange (validateCell rule.lo rule.hi rule.inRange b).2 =
      (true, (validateCell rule.lo rule.hi rule.inRange b).2) := by
  have within : rule.inRange b.cell = true := by
    by_contra outside
    simp [validateCell, outside] at accepted
  have left : (validateCell rule.lo rule.hi rule.inRange b).2 =
      (b.clampRssi rule.lo rule.hi).normalizeNmr := by simp [validateCell, within]
  have again := rule.inRange_normalizeNmr (b.clampRssi rule.lo rule.hi) (by simpa using within)
  rw [left, validateCell, if_pos again, Beacon.clampRssi_normalizeNmr]
  simp

end CellRule

def cellRule : SkyBeaconType → Option CellRule
  | .lte => some ⟨-140, -40, Cell.lteInRange, by decide, by
      simp +contextual [Cell.lteInRange, Cell.primaryIdsPartial, Cell.mccOutside, Cell.mncOutside,
        Cell.id3Outside, Cell.id4Outside, Cell.id5Above, Cell.freqAbove, Cell.taOutside]⟩
  | .nbiot => some ⟨-156, -44, Cell.nbiotInRange, by decide, fun _ h => h⟩
  | .gsm => some ⟨-128, -32, Cell.gsmInRange, by decide, by
      simp +contextual [Cell.gsmInRange, Cell.mccOutside, Cell.mncOutside, Cell.id5Outside,
        Cell.freqOutside, Cell.taOutside]⟩
  | .umts => some ⟨-120, -20, Cell.umtsInRange, by decide, fun _ h => h⟩
  | .cdma => some ⟨-140, -49, Cell.cdmaInRange, by decide, fun _ h => h⟩
  | .nr => some ⟨-140, -40, Cell.nrInRange, by decide, by
      simp +contextual [Cell.nrInRange, Cell.primaryIdsPartial, Cell.mccOutside, Cell.mncOutside,
        Cell.id4Outside, Cell.id5Outside, Cell.freqOutside, Cell.taOutside]⟩
  | _ => none

theorem cellRule_isSome_iff (b : Beacon) : (cellRule b.h.type).isSome = b.isCellType := by
  unfold Beacon.isCellType
  cases type : b.h.type with
  | other k =>
    have above : ¬ 10 + k ≤ 8 := by omega
    simp [cellRule, SkyBeaconType.code, above]
  | _ => rfl

/-- `validate_beacon` by the class of the beacon. -/
theorem validateBeacon_eq (b : Beacon) :
    validateBeacon b =
      if b.h.magic ≠ BEACON_MAGIC then (false, b)
      else if b.h.type = .ap then validateAp b
      else match cellRule b.h.type with
        | some rule => validateCell rule.lo rule.hi rule.inRange b
        | none => (false, b) := by
  unfold validateBeacon
  split_ifs with magic ap
  · rfl
  · simp [ap]
  · cases type : b.h.type <;> simp_all [cellRule]

theorem validateAp_idempotent (b : Beacon) :
    validateAp (validateAp b).2 = ((validateAp b).1, (validateAp b).2) := by
  simp [validateAp, Beacon.clampRssi_clampFreq]

theorem validateBeacon_header (b : Beacon) :
    (validateBeacon b).2.h.magic = b.h.magic ∧ (validateBeacon b).2.h.type = b.h.type ∧
      (validateBeacon b).2.h.age = b.h.age := by
  rw [validateBeacon_eq]
  split_ifs with magic ap
  · exact ⟨rfl, rfl, rfl⟩
  · simp [validateAp]
  · cases cellRule b.h.type with
    | none => exact ⟨rfl, rfl, rfl⟩
    | some rule =>
      simp only [validateCell]
      split_ifs <;> simp

theorem validateBeacon_idempotent (b : Beacon) (accepted : (validateBeacon b).1 = true) :
    validateBeacon (validateBeacon b).2 = (true, (validateBeacon b).2) := by
  obtain ⟨magic, type, -⟩ := validateBeacon_header b
  rw [validateBeacon_eq (validateBeacon b).2, magic, type]
  rw [validateBeacon_eq] at accepted ⊢
  split_ifs at accepted ⊢ with hmagic ap
  · rw [validateAp_idempotent, accepted]
  · cases rule : cellRule b.h.type with
    | none => simp [rule] at accepted
    | some rule' =>
      simp only [rule] at accepted ⊢
      exact rule'.validateCell_idempotent b accepted

/-- An accepted cell passes the range check of its type and is left clamped and
normalised. -/
theorem validateBeacon_cell (b : Beacon) (cell : b.isCellType = true)
    (accepted : (validateBeacon b).1 = true) :
    ∃ rule, cellRule b.h.type = some rule ∧ rule.inRange b.cell = true ∧
      (validateBeacon b).2 = (b.clampRssi rule.lo rule.hi).normalizeNmr := by
  obtain ⟨rule, hrule⟩ := Option.isSome_iff_exists.1 ((cellRule_isSome_iff b).trans cell)
  have notAp : b.h.type ≠ .ap := by
    intro ap
    simp [ap, cellRule] at hrule
  rw [validateBeacon_eq] at accepted ⊢
  split_ifs at accepted ⊢
  simp only [hrule, validateCell] at accepted ⊢
  split_ifs at accepted ⊢ with within
  exact ⟨rule, rfl, within, rfl⟩

end EmbeddedClient
