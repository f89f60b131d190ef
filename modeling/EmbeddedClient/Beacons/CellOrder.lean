import EmbeddedClient.Beacons.Atomic
import EmbeddedClient.Support.Ranking

/-!
# The order of cells

Cells are ordered by priority, age, type and signal strength. `compare` computes differences in
the types of C, and the difference of two ages is an unsigned one that is read as an `int`: it has
the right sign if the ages are less than 2^31 seconds apart.
-/

namespace EmbeddedClient

open Binary32 (FloatVal)
open Ranking

/-- The priority of a cell: connected counts 512, fully qualified counts 256. -/
def cellPriority (b : Beacon) : ℤ :=
  (if b.h.connected then 512 else 0) + (if b.isCellNmr then 0 else 256)

/-- What cells are ordered by: higher priority, lower age, lower type, stronger signal. -/
def cellKey (b : Beacon) : ℤ ×ₗ ℤ ×ₗ ℤ ×ₗ ℤ :=
  toLex (-cellPriority b, toLex ((b.h.age.toNat : ℤ), toLex ((b.h.type.code : ℤ), -b.rssi)))

theorem cellKey_unranked (b : Beacon) : cellKey b.unranked = cellKey b := rfl

def Beacon.Priced (b : Beacon) : Prop :=
  b.h.priority = .fin 0 ∨ b.h.priority = CellPlugin.getPriority b

/-- The age is one that a signed difference can compare. -/
def Beacon.Young (b : Beacon) : Prop := b.h.age.toNat < 2 ^ 31

def NearAges (a b : Beacon) : Prop :=
  -2 ^ 31 ≤ (b.h.age.toNat : ℤ) - a.h.age.toNat ∧ (b.h.age.toNat : ℤ) - a.h.age.toNat < 2 ^ 31

/-- If the order of two cells depends on their ages, these are near. -/
def AgesCompare (a b : Beacon) : Prop := cellPriority a = cellPriority b → NearAges a b

theorem SkyBeaconType.code_injective : Function.Injective SkyBeaconType.code := by
  intro t u same
  cases t <;> cases u <;> simp only [code] at same <;> first | rfl | omega | (congr 1; omega)

theorem AgesCompare.congr {a b a' b' : Beacon} (ages : AgesCompare a b) (left : a.scan = a'.scan)
    (right : b.scan = b'.scan) : AgesCompare a' b' := by
  have scans : AgesCompare a.scan b.scan := ages
  rw [left, right] at scans
  exact scans

theorem Beacon.Young.agesCompare {a b : Beacon} (youngA : a.Young) (youngB : b.Young) :
    AgesCompare a b := by
  intro _
  unfold Beacon.Young at youngA youngB
  constructor <;> omega

namespace CellPlugin

theorem getPriority_eq (b : Beacon) : getPriority b = .fin (cellPriority b) := by
  unfold getPriority cellPriority
  split_ifs <;> norm_num

theorem priority_withPriority {b : Beacon} (priced : b.Priced) :
    (withPriority b).h.priority = .fin (cellPriority b) := by
  rw [← getPriority_eq]
  unfold withPriority
  split_ifs with zero
  · rfl
  · rcases priced with unset | set
    · simp [unset, FloatVal.eq] at zero
    · exact set

theorem priced_withPriority {b : Beacon} (priced : b.Priced) : (withPriority b).Priced := by
  right
  have connected : (withPriority b).h.connected = b.h.connected := by
    unfold withPriority
    split_ifs <;> rfl
  have nmr : (withPriority b).isCellNmr = b.isCellNmr := by
    rw [← Beacon.scan_isCellNmr, scan_withPriority, Beacon.scan_isCellNmr]
  rw [priority_withPriority priced, getPriority_eq]
  unfold cellPriority
  rw [connected, nmr]

theorem cellPriority_mem (b : Beacon) : cellPriority b ∈ [(0 : ℤ), 256, 512, 768] := by
  unfold cellPriority
  split_ifs <;> decide

theorem comparePriority_exact : ∀ p ∈ [(0 : ℤ), 256, 512, 768], ∀ q ∈ [(0 : ℤ), 256, 512, 768],
    (FloatVal.sub Binary32.round (.fin p) (.fin q)).toInt 0 = p - q := by
  decide +kernel

theorem compareAge_cases (a b : Beacon) :
    (NearAges a b ∧ compareAge a b = (b.h.age.toNat : ℤ) - a.h.age.toNat) ∨
      (2 ^ 31 ≤ (b.h.age.toNat : ℤ) - a.h.age.toNat ∧ compareAge a b < 0) ∨
      ((b.h.age.toNat : ℤ) - a.h.age.toNat < -2 ^ 31 ∧ 0 < compareAge a b) := by
  have word : compareAge a b = (b.h.age - a.h.age).toBitVec.toInt := rfl
  have boundA := a.h.age.toNat_lt
  have boundB := b.h.age.toNat_lt
  unfold NearAges
  rw [word, BitVec.toInt_eq_toNat_bmod, UInt32.toNat_toBitVec, UInt32.toNat_sub, Int.bmod_def]
  omega

def cellDiff (a b : Beacon) : ℤ :=
  if cellPriority a ≠ cellPriority b then cellPriority a - cellPriority b
  else if a.h.age ≠ b.h.age then compareAge a b
  else if a.h.type ≠ b.h.type then compareType a b
  else compareRssi a b

theorem compare_eq {a b : Beacon} (cellA : a.isCellType = true) (cellB : b.isCellType = true)
    (pricedA : a.Priced) (pricedB : b.Priced) :
    compare a b = some (cellDiff a b, withPriority a, withPriority b) := by
  have priorityA := priority_withPriority pricedA
  have priorityB := priority_withPriority pricedB
  have exact := comparePriority_exact _ (cellPriority_mem a) _ (cellPriority_mem b)
  have age (c : Beacon) : (withPriority c).h.age = c.h.age := by
    unfold withPriority
    split_ifs <;> rfl
  have type (c : Beacon) : (withPriority c).h.type = c.h.type := by
    unfold withPriority
    split_ifs <;> rfl
  have rssi (c : Beacon) : (withPriority c).rssi = c.rssi := by
    rw [← Beacon.scan_rssi, scan_withPriority, Beacon.scan_rssi]
  have differ : (!(withPriority a).h.priority.eq (withPriority b).h.priority) = true ↔
      cellPriority a ≠ cellPriority b := by
    rw [priorityA, priorityB]
    simp [FloatVal.eq]
  unfold compare cellDiff
  rw [if_neg (by simp [cellA, cellB])]
  dsimp only
  rw [comparePriority, priorityA, priorityB, exact, compareType, compareRssi, compareAge,
    age, age, type, type, rssi, rssi]
  rw [priorityA, priorityB] at differ
  simp only [differ]
  rfl

def SignAgrees (a b : Beacon) : Prop :=
  (0 < cellDiff a b ↔ cellKey a < cellKey b) ∧ (cellDiff a b < 0 ↔ cellKey b < cellKey a)

theorem signAgrees_iff (a b : Beacon) : SignAgrees a b ↔ AgesCompare a b := by
  have ageEq : a.h.age = b.h.age ↔ a.h.age.toNat = b.h.age.toNat := UInt32.toNat_inj.symm
  have typeEq : a.h.type = b.h.type ↔ a.h.type.code = b.h.type.code :=
    (SkyBeaconType.code_injective.eq_iff).symm
  have age := compareAge_cases a b
  unfold SignAgrees AgesCompare cellDiff cellKey compareType compareRssi
  simp only [Prod.Lex.toLex_lt_toLex, ne_eq, ageEq, typeEq]
  unfold NearAges at *
  split_ifs <;> omega

theorem signAgrees_le {a b : Beacon} (agrees : SignAgrees a b) :
    0 ≤ cellDiff a b ↔ cellKey a ≤ cellKey b := by
  rw [← not_lt, ← not_lt, agrees.2]

end CellPlugin

theorem isBeaconFirst_cells {a b : Beacon} (cellA : a.isCellType = true)
    (cellB : b.isCellType = true) (pricedA : a.Priced) (pricedB : b.Priced)
    (ages : AgesCompare a b) :
    (0 < (isBeaconFirst skyRegisterPlugins a b).1 ↔ cellKey a ≤ cellKey b) ∧
      (isBeaconFirst skyRegisterPlugins a b).2 =
        (CellPlugin.withPriority a, CellPlugin.withPriority b) := by
  have compared := CellPlugin.compare_eq cellA cellB pricedA pricedB
  have order := CellPlugin.signAgrees_le ((CellPlugin.signAgrees_iff a b).2 ages)
  have noAp : ApPlugin.compare a b = none := by
    unfold ApPlugin.compare
    rw [isApType_of_isCellType cellA]
    rfl
  have dispatched : skyPluginCompare skyRegisterPlugins a b =
      some (CellPlugin.cellDiff a b, CellPlugin.withPriority a, CellPlugin.withPriority b) := by
    unfold skyPluginCompare skyRegisterPlugins
    simp only [List.findSome?_cons, SkyPluginTable.compare, noAp, Option.map_none, compared]
  unfold isBeaconFirst
  rw [dispatched]
  refine ⟨?_, rfl⟩
  rw [← order]
  dsimp only
  split_ifs <;> omega

/-- Among cells, the place of a new one is that of an ordered insertion. -/
theorem findPosition_cells {b : Beacon} {cells : List Beacon} (cell : b.isCellType = true)
    (isCell : ∀ c ∈ cells, c.isCellType = true) (priced : b.Priced)
    (allPriced : ∀ c ∈ cells, c.Priced) (ages : ∀ c ∈ cells, AgesCompare b c) :
    let pos := findPosition skyRegisterPlugins b cells
    (pos.beacons.insertIdx pos.index pos.beacon).map Beacon.unranked =
        insertByKey cellKey b.unranked (cells.map Beacon.unranked) ∧
      ∀ c ∈ pos.beacons.insertIdx pos.index pos.beacon, c.Priced := by
  induction cells generalizing b with
  | nil =>
    refine ⟨rfl, ?_⟩
    intro c member
    rw [List.mem_singleton.1 member]
    exact priced
  | cons c cells ih =>
    have here : c ∈ c :: cells := List.mem_cons_self
    have rest {p : Beacon → Prop} (all : ∀ d ∈ c :: cells, p d) : ∀ d ∈ cells, p d :=
      fun d member => all d (List.mem_cons_of_mem c member)
    obtain ⟨order, left⟩ := isBeaconFirst_cells cell (isCell c here) priced (allPriced c here)
      (ages c here)
    rw [← cellKey_unranked b, ← cellKey_unranked c] at order
    have pricedB := CellPlugin.priced_withPriority priced
    have pricedC := CellPlugin.priced_withPriority (allPriced c here)
    have sameB := CellPlugin.unranked_withPriority b
    have sameC := CellPlugin.unranked_withPriority c
    unfold findPosition
    dsimp only
    rw [left]
    by_cases first : 0 < (isBeaconFirst skyRegisterPlugins b c).1
    · rw [if_pos first, List.map_cons, insertByKey_of_le cellKey (order.1 first)]
      constructor
      · simp [sameB, sameC]
      · intro d member
        rcases List.mem_cons.1 member with rfl | member
        · exact pricedB
        · rcases List.mem_cons.1 member with rfl | member
          · exact pricedC
          · exact rest allPriced d member
    · have scan := Beacon.scan_of_unranked sameB
      have cell' : (CellPlugin.withPriority b).isCellType = true := by
        rwa [← Beacon.unranked_isCellType, sameB, Beacon.unranked_isCellType]
      have ages' : ∀ d ∈ c :: cells, AgesCompare (CellPlugin.withPriority b) d := by
        intro d member
        exact (ages d member).congr scan.symm rfl
      obtain ⟨list, all⟩ := ih cell' (rest isCell) pricedB (rest allPriced) (rest ages')
      rw [if_neg first, List.map_cons, insertByKey_of_lt cellKey (not_le.1 (order.not.1 first))]
      constructor
      · rw [List.insertIdx_succ_cons, List.map_cons, sameC, list, sameB]
      · intro d member
        rw [List.insertIdx_succ_cons] at member
        rcases List.mem_cons.1 member with rfl | member
        · exact pricedC
        · exact all d member

end EmbeddedClient
