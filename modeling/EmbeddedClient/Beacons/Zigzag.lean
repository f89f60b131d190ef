import EmbeddedClient.Beacons.Priorities

/-!
# The order of `set_priorities`

The loop of `set_priorities` jumps from one end of the APs to the other and back, each jump
shorter by one than the jump before. It visits every AP exactly once.
-/

namespace EmbeddedClient

open Binary32

namespace ApPlugin

/-- The values of `j` in the turns of the `for` loop of `set_priorities` over `n` APs. -/
def turns (n : ℕ) : (jump : ℕ) → (j upDown : ℤ) → List ℤ
  | 0, _, _ => []
  | jump + 1, j, upDown =>
    if 0 ≤ j ∧ j < n then j :: turns n jump (j + upDown * jump) (-upDown) else []

/-- What the loop carries from turn to turn. -/
structure PriorityScan where
  rctx : SkyRctx
  idxOfWorst : ℕ
  priorityOfWorst : FloatVal

def PriorityScan.turn (s : SkySctx) (weakOnly : Bool) (scan : PriorityScan) (j : ℤ) :
    PriorityScan :=
  let priority := getPriority scan.rctx j.toNat
  let r := setPriority scan.rctx j.toNat priority
  if ((weakOnly && belowRssiThreshold s (r.slot j)) || priority.le scan.priorityOfWorst) &&
      (!priority.eq scan.priorityOfWorst || compareMac (r.slot j) (r.slot scan.idxOfWorst) < 0) then
    ⟨r, j.toNat, priority⟩
  else ⟨r, scan.idxOfWorst, scan.priorityOfWorst⟩

variable (s : SkySctx) {r : SkyRctx}

theorem PriorityScan.turn_rctx (weakOnly : Bool) (scan : PriorityScan) (j : ℤ) :
    (scan.turn s weakOnly j).rctx = setPriority scan.rctx j.toNat
      (getPriority scan.rctx j.toNat) := by
  unfold turn
  dsimp only
  split_ifs <;> rfl

/-- The loop of `set_priorities` is its body over its turns. -/
theorem setPrioritiesLoop_eq_foldl (weakOnly : Bool) (jump : ℕ) (j upDown : ℤ)
    (scan : PriorityScan) :
    setPrioritiesLoop s weakOnly jump j upDown scan.rctx scan.idxOfWorst scan.priorityOfWorst =
      (((turns scan.rctx.numAp jump j upDown).foldl (PriorityScan.turn s weakOnly) scan).rctx,
        ((turns scan.rctx.numAp jump j upDown).foldl
          (PriorityScan.turn s weakOnly) scan).idxOfWorst) := by
  induction jump generalizing j upDown scan with
  | zero => rfl
  | succ jump ih =>
    unfold setPrioritiesLoop turns
    split_ifs with range
    · have numAp : (scan.turn s weakOnly j).rctx.numAp = scan.rctx.numAp := by
        rw [PriorityScan.turn_rctx]
        rfl
      have next := ih (j + upDown * jump) (-upDown) (scan.turn s weakOnly j)
      rw [numAp] at next
      rw [List.foldl_cons, ← next]
      unfold PriorityScan.turn
      dsimp only
      split_ifs <;> rfl
    · rfl

theorem turns_eq_visits {n lo len : ℕ} (inside : lo + len ≤ n) :
    turns n len lo 1 = (visits lo len).map fun i : ℕ => (i : ℤ) := by
  fun_induction visits lo len with
  | case1 lo => rfl
  | case2 lo =>
    unfold turns
    rw [if_pos (by omega)]
    rfl
  | case3 lo len ih =>
    have far : (lo : ℤ) + 1 * (len + 1 : ℕ) = (lo + len + 1 : ℕ) := by push_cast; ring
    have back : ((lo + len + 1 : ℕ) : ℤ) + -1 * (len : ℕ) = (lo + 1 : ℕ) := by push_cast; ring
    unfold turns
    rw [if_pos (by omega), far]
    unfold turns
    rw [if_pos (by omega), back, neg_neg, ih (by omega)]
    rfl

theorem visits_perm (lo len : ℕ) : (visits lo len).Perm (List.range' lo len) := by
  fun_induction visits lo len with
  | case1 lo => exact List.Perm.refl _
  | case2 lo => exact List.Perm.refl _
  | case3 lo len ih =>
    have ends : List.range' lo (len + 2) = lo :: (List.range' (lo + 1) len ++ [lo + len + 1]) := by
      rw [List.range'_succ, List.range'_concat, Nat.one_mul, Nat.add_right_comm]
    rw [ends]
    apply List.Perm.cons
    exact (List.Perm.cons _ ih).trans (List.perm_append_singleton _ _).symm

theorem getElem?_visits {lo len k : ℕ} (inside : k < len) :
    (visits lo len)[k]? = some (if k % 2 = 0 then lo + k / 2 else lo + len - 1 - k / 2) := by
  fun_induction visits lo len generalizing k with
  | case1 lo => omega
  | case2 lo =>
    obtain rfl : k = 0 := by omega
    rfl
  | case3 lo len ih =>
    rcases k with - | - | k
    · rfl
    · rfl
    · have half : (k + 1 + 1) / 2 = k / 2 + 1 := by omega
      have parity : (k + 1 + 1) % 2 = k % 2 := by omega
      rw [List.getElem?_cons_succ, List.getElem?_cons_succ, ih (by omega), half, parity]
      congr 1
      split_ifs <;> omega

theorem getPriority_congr {r' : SkyRctx} (same : SameUnranked r r') (i : ℕ) :
    getPriority r' i = getPriority r i := getPriorityIn_congr round same i

theorem slot_setPriority (r : SkyRctx) (j : ℕ) (p : FloatVal) {i : ℕ}
    (inside : i < r.beacon.length) :
    ((setPriority r j p).slot (i : ℕ)).h.priority =
      if i = j then p else (r.slot (i : ℕ)).h.priority := by
  have entry : r.beacon[i]? = some r.beacon[i] := List.getElem?_eq_getElem inside
  unfold setPriority SkyRctx.slot
  simp only [Nat.cast_nonneg, if_true, Int.toNat_natCast, List.getD_eq_getElem?_getD,
    List.getElem?_modify, entry]
  split_ifs with same other
  · rfl
  · exact absurd same.symm other
  · rename_i differ
    exact absurd differ.symm same
  · rfl

theorem slot_foldl_turn (weakOnly : Bool) {i : ℕ} (inside : i < r.beacon.length) (order : List ℕ)
    {scan : PriorityScan} (same : SameUnranked r scan.rctx) :
    (((order.map fun j : ℕ => (j : ℤ)).foldl (PriorityScan.turn s weakOnly) scan).rctx.slot
      (i : ℕ)).h.priority =
      if i ∈ order then getPriority r i else (scan.rctx.slot (i : ℕ)).h.priority := by
  induction order generalizing scan with
  | nil => rfl
  | cons j order ih =>
    have turned := scan.turn_rctx s weakOnly j
    rw [Int.toNat_natCast, getPriority_congr same] at turned
    have same' : SameUnranked r (scan.turn s weakOnly j).rctx := by
      rw [turned]
      exact sameUnranked_setPriority same j _
    have length : scan.rctx.beacon.length = r.beacon.length := by
      have := congrArg List.length same.beacon
      rwa [List.length_map, List.length_map] at this
    rw [List.map_cons, List.foldl_cons, ih same', turned, slot_setPriority _ _ _ (by rwa [length])]
    by_cases later : i ∈ order
    · rw [if_pos later, if_pos (.tail _ later)]
    · rw [if_neg later]
      by_cases now : i = j
      · rw [if_pos now, if_pos (by rw [now]; exact .head _), now]
      · rw [if_neg now, if_neg (by simp [now, later])]

/-- The loop of `set_priorities` over `n` APs takes `n` turns, visits each of the APs
`0, n - 1, 1, n - 2, ...` once and leaves each with its priority. -/
theorem setPriorities_visits (s : SkySctx) (r : SkyRctx) (array : r.numAp ≤ r.beacon.length) :
    let order := turns r.numAp r.numAp 0 1
    let final := order.foldl (PriorityScan.turn s (weakOnly s r)) ⟨r, r.numAp / 2, .fin 0xffff⟩
    setPriorities s r = (final.rctx, final.idxOfWorst) ∧ order.length = r.numAp ∧
      order.Perm ((List.range r.numAp).map fun i : ℕ => (i : ℤ)) ∧
      (∀ k < r.numAp, order[k]? =
        some (((if k % 2 = 0 then k / 2 else r.numAp - 1 - k / 2 : ℕ)) : ℤ)) ∧
      ∀ i < r.numAp, ((setPriorities s r).1.slot (i : ℕ)).h.priority = getPriority r i := by
  dsimp only
  have whole := @turns_eq_visits r.numAp 0 r.numAp (by omega)
  have loop := setPrioritiesLoop_eq_foldl s (weakOnly s r) r.numAp 0 1 ⟨r, r.numAp / 2, .fin 0xffff⟩
  have perm := visits_perm 0 r.numAp
  rw [Nat.cast_zero] at whole
  rw [← List.range_eq_range'] at perm
  refine ⟨loop, ?_, ?_, ?_, ?_⟩
  · rw [whole, List.length_map, perm.length_eq, List.length_range]
  · rw [whole]
    exact perm.map _
  · intro k inside
    rw [whole, List.getElem?_map, getElem?_visits inside]
    simp only [Option.map_some, Nat.zero_add]
  · intro i inside
    have result : (setPriorities s r).1 = _ := congrArg Prod.fst loop
    have fresh := @slot_foldl_turn s r (weakOnly s r) i (inside.trans_le array) (visits 0 r.numAp)
      ⟨r, r.numAp / 2, .fin 0xffff⟩ ⟨rfl, rfl⟩
    rw [result]
    dsimp only
    rw [whole, fresh, if_pos (mem_visits.2 (by omega))]

theorem crowdedAps_visits : turns 4 4 0 1 = [0, 3, 1, 2] ∧
    ((setPriorities openedSession crowdedAps).1.slot (3 : ℕ)).h.priority =
      getPriority crowdedAps 3 :=
  ⟨by decide, (setPriorities_visits openedSession crowdedAps (by decide +kernel)).2.2.2.2 3
    (by decide +kernel)⟩

end ApPlugin
end EmbeddedClient
