import EmbeddedClient.Beacons.Dated
import EmbeddedClient.Beacons.Stream

/-!
# Cells stay sorted

The comparison of the cell plugin is an order on cells, and the insertion keeps them sorted by it,
as long as cells of equal priority are less than 2^31 seconds apart.
-/

namespace EmbeddedClient

open Ranking

variable {r : SkyRctx} {b : Beacon}

def SkyRctx.CellsSorted (r : SkyRctx) : Prop := r.cells.Pairwise fun a b => cellKey a ≤ cellKey b

theorem removeBeacon_cells_cell (listed : r.Listed) {i : ℕ} (behind : r.numAp ≤ i)
    (range : i < r.numBeacons) :
    (removeBeacon r i).2.cells = r.cells.eraseIdx (i - r.numAp) := by
  have full := listed.full
  obtain ⟨live, numAp⟩ := removeBeacon_live range
  rw [if_neg (by rw [listed.slot_isApType_iff range]; omega)] at numAp
  have length : (r.live.take r.numAp).length = r.numAp := List.length_take_of_le (by omega)
  have split : r.live = r.live.take r.numAp ++ r.cells := (List.take_append_drop ..).symm
  rw [SkyRctx.cells, live, numAp]
  conv_lhs => rw [split, List.eraseIdx_append_of_length_le (by omega), length]
  exact List.drop_left' length

theorem cellsSorted_iff_unranked : r.CellsSorted ↔
    (r.cells.map Beacon.unranked).Pairwise fun a b => cellKey a ≤ cellKey b := by
  rw [List.pairwise_map]
  rfl

theorem placeBeacon_cellsSorted (listed : r.Listed) (cell : b.isCellType = true) (priced : b.Priced)
    (allPriced : ∀ c ∈ r.cells, c.Priced) (ages : ∀ c ∈ r.cells, AgesCompare b c)
    (sorted : r.CellsSorted) (errno : SkyErrno) :
    (placeBeacon skyRegisterPlugins r errno b).rctx.CellsSorted := by
  have list := (findPosition_cells cell listed.inOrder.cells priced allPriced ages).1
  rw [← SkyRctx.cells, ← placeBeacon_cells_cell listed.inOrder cell errno] at list
  rw [cellsSorted_iff_unranked] at sorted ⊢
  rw [list]
  exact pairwise_insertByKey sorted _

theorem insertBeacon_cellsSorted (listed : r.Listed) (cell : b.isCellType = true)
    (priced : b.Priced) (allPriced : ∀ c ∈ r.cells, c.Priced)
    (ages : ∀ c ∈ r.cells, AgesCompare b c) (sorted : r.CellsSorted) (errno : SkyErrno) :
    (insertBeacon skyRegisterPlugins r errno b).rctx.CellsSorted := by
  have branch :=
    insertBeacon_branch r errno (show (b.isApType || b.isCellType) = true by simp [cell])
  generalize insertBeacon skyRegisterPlugins r errno b = added at branch
  cases branch with
  | rejected => exact sorted
  | absent errno' => exact placeBeacon_cellsSorted listed cell priced allPriced ages sorted errno'
  | better errno' i range same =>
    have behind : r.numAp ≤ i := by
      by_contra front
      have ap := (listed.inOrder.isApType_iff range).2 (not_le.1 front)
      rw [← same.isApType_eq, isApType_of_isCellType cell] at ap
      contradiction
    rw [listed.full] at range
    have cells := removeBeacon_cells_cell listed behind range
    have sublist : (removeBeacon r i).2.cells.Sublist r.cells := by
      rw [cells]
      exact List.eraseIdx_sublist ..
    exact placeBeacon_cellsSorted (removeBeacon_listed listed range) cell priced
      (fun c member => allPriced c (sublist.subset member))
        (fun c member => ages c (sublist.subset member))
      (sorted.sublist sublist) errno'

namespace CellPlugin

def Prefers (a b : Beacon) : Prop := ∃ diff a' b', compare a b = some (diff, a', b') ∧ 0 < diff

/-- On these cells `compare` is the lexicographic order by priority, age, type and signal
strength, in exact integers, and the insertion keeps them sorted. -/
structure ConsistentOrder (l : List Beacon) : Prop where
  sign : ∀ a ∈ l, ∀ b ∈ l, ∃ diff a' b', compare a b = some (diff, a', b') ∧
    (0 < diff ↔ cellKey a < cellKey b) ∧ (diff < 0 ↔ cellKey b < cellKey a)
  antisymm : ∀ a ∈ l, ∀ b ∈ l, Prefers a b → ¬ Prefers b a
  trans : ∀ a ∈ l, ∀ b ∈ l, ∀ c ∈ l, Prefers a b → Prefers b c → Prefers a c
  sorted : ∀ b ∈ l, ∀ r : SkyRctx, r.Listed → (∀ c ∈ r.cells, c ∈ l) → r.CellsSorted →
    ∀ errno, (insertBeacon skyRegisterPlugins r errno b).rctx.CellsSorted

/-- An accepted cell with the priority that insertions leave. -/
structure AcceptedCell (b : Beacon) : Prop where
  accepted : b.Accepted
  cell : b.isCellType = true
  priced : b.Priced

/-- The comparison is consistent exactly if cells of equal priority have ages that a signed
difference can compare. -/
theorem consistentOrder_iff {l : List Beacon} (cells : ∀ c ∈ l, AcceptedCell c) :
    ConsistentOrder l ↔ ∀ a ∈ l, ∀ b ∈ l, AgesCompare a b := by
  have compared {a b : Beacon} (memberA : a ∈ l) (memberB : b ∈ l) :=
    compare_eq (cells a memberA).cell (cells b memberB).cell (cells a memberA).priced
      (cells b memberB).priced
  constructor
  · intro consistent a memberA b memberB
    obtain ⟨diff, a', b', eq, signs⟩ := consistent.sign a memberA b memberB
    rw [compared memberA memberB, Option.some_inj, Prod.mk.injEq] at eq
    rw [← eq.1] at signs
    exact (signAgrees_iff a b).1 signs
  · intro ages
    have agrees {a b : Beacon} (memberA : a ∈ l) (memberB : b ∈ l) : SignAgrees a b :=
      (signAgrees_iff a b).2 (ages a memberA b memberB)
    have prefers {a b : Beacon} (memberA : a ∈ l) (memberB : b ∈ l) : Prefers a b ↔
      cellKey a < cellKey b := by
      rw [← (agrees memberA memberB).1]
      constructor
      · rintro ⟨diff, a', b', eq, positive⟩
        rw [compared memberA memberB, Option.some_inj, Prod.mk.injEq] at eq
        rwa [eq.1]
      · intro positive
        exact ⟨_, _, _, compared memberA memberB, positive⟩
    constructor
    · intro a memberA b memberB
      exact ⟨_, _, _, compared memberA memberB, agrees memberA memberB⟩
    · intro a memberA b memberB
      rw [prefers memberA memberB, prefers memberB memberA]
      exact lt_asymm
    · intro a memberA b memberB c memberC
      rw [prefers memberA memberB, prefers memberB memberC, prefers memberA memberC]
      exact lt_trans
    · intro b member r listed inside sorted errno
      exact insertBeacon_cellsSorted listed (cells b member).cell (cells b member).priced
        (fun c memberC => (cells c (inside c memberC)).priced)
        (fun c memberC => ages b member c (inside c memberC)) sorted errno

instance (b : Beacon) : Decidable (AcceptedCell b) :=
  decidable_of_iff (b.Accepted ∧ b.isCellType = true ∧
      (b.h.priority = .fin 0 ∨ b.h.priority = getPriority b))
    ⟨fun h => ⟨h.1, h.2.1, h.2.2⟩, fun h => ⟨h.accepted, h.cell, h.priced⟩⟩

instance (a b : Beacon) : Decidable (AgesCompare a b) := inferInstanceAs (Decidable (_ → _ ∧ _))

def agedCell (cellid : Int64) (age : UInt32) : Beacon :=
  preparedBeacon openedSession (AddCall.lte 1000 cellid 310 10 5 2000 0 (-90) true).beacon age

def freshCells : List Beacon := [agedCell 100000 0, agedCell 100001 60, agedCell 100002 30]

theorem freshCells_consistentOrder : ConsistentOrder freshCells :=
  (consistentOrder_iff (by decide +kernel)).2 (by decide +kernel)

/-- A cell of the last second before 2106-02-07 06:28:16 and one of March 1st 2019. -/
def oldCells : List Beacon := [agedCell 100000 0, agedCell 100001 2743568895]

/-- The old cell is preferred. -/
theorem oldCells_not_consistentOrder :
    (∀ c ∈ oldCells, AcceptedCell c) ∧ Dated oldCells ∧ ¬ ConsistentOrder oldCells := by
  refine ⟨by decide +kernel, ?_, ?_⟩
  · intro c member
    rcases List.mem_cons.1 member with rfl | member
    · exact ⟨4294967295, 4294967295, by decide +kernel⟩
    · rw [List.mem_singleton.1 member]
      exact ⟨4294967295, 1551398400, by decide +kernel⟩
  · intro consistent
    obtain ⟨diff, a', b', compared, positive, -⟩ :=
      consistent.sign (agedCell 100000 0) (.head _) (agedCell 100001 2743568895) (.tail _ (.head _))
    have value : (compare (agedCell 100000 0) (agedCell 100001 2743568895)).map Prod.fst =
        some (-1551398401) := by decide +kernel
    have better : cellKey (agedCell 100000 0) < cellKey (agedCell 100001 2743568895) := by
      decide +kernel
    rw [compared, Option.map_some, Option.some_inj] at value
    have sign := positive.2 better
    omega

end CellPlugin
end EmbeddedClient
