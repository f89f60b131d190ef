import Mathlib.Tactic

/-!
# Dealing out in rounds

Members with given capacities are dealt one piece each round, in order, until they are full. After
`v` rounds a member has as much as fits, up to `v`; in the middle of a round those in front have
one more.
-/

namespace Dealing

variable {lens : List ℕ} {v w k j : ℕ}

def dealt (lens : List ℕ) (v : ℕ) : ℕ := (lens.map (min · v)).sum

/-- The shares in round `v`, when the first `k` members have had their turn. -/
def shares (lens : List ℕ) (v k : ℕ) : List ℕ :=
  (lens.take k).map (min · (v + 1)) ++ (lens.drop k).map (min · v)

/-- Nobody has more than fits, and who is not full has at most one piece less than another, and no
less than those behind. -/
structure Fair (lens shares : List ℕ) : Prop where
  length : shares.length = lens.length
  fits : ∀ j, shares.getD j 0 ≤ lens.getD j 0
  near : ∀ j k, shares.getD j 0 < lens.getD j 0 → shares.getD k 0 ≤ shares.getD j 0 + 1
  first : ∀ j k, j < k → shares.getD j 0 < lens.getD j 0 → shares.getD k 0 ≤ shares.getD j 0

theorem dealt_zero (lens : List ℕ) : dealt lens 0 = 0 := by
  simp [dealt]

theorem dealt_succ (lens : List ℕ) (v : ℕ) :
    dealt lens (v + 1) = dealt lens v + lens.countP (v < ·) := by
  unfold dealt
  induction lens with
  | nil => rfl
  | cons len lens ih =>
    rw [List.map_cons, List.sum_cons, List.map_cons, List.sum_cons, List.countP_cons, ih]
    by_cases more : v < len
    · rw [if_pos (by simpa using more)]
      omega
    · rw [if_neg (by simpa using more)]
      omega

theorem dealt_mono (lens : List ℕ) (le : v ≤ w) : dealt lens v ≤ dealt lens w := by
  induction w, le using Nat.le_induction with
  | base => exact le_rfl
  | succ w _ ih =>
    rw [dealt_succ]
    omega

theorem dealt_eq_sum (full : ∀ len ∈ lens, len ≤ v) : dealt lens v = lens.sum := by
  have same : lens.map (min · v) = lens.map id :=
    List.map_congr_left fun len member => Nat.min_eq_left (full len member)
  rw [dealt, same, List.map_id]

theorem dealt_le_sum (lens : List ℕ) (v : ℕ) : dealt lens v ≤ lens.sum := by
  unfold dealt
  induction lens with
  | nil => exact le_rfl
  | cons len lens ih =>
    rw [List.map_cons, List.sum_cons, List.sum_cons]
    omega

@[simp] theorem length_shares (lens : List ℕ) (v k : ℕ) :
    (shares lens v k).length = lens.length := by
  simp only [shares, List.length_append, List.length_map, List.length_take, List.length_drop]
  omega

theorem shares_zero (lens : List ℕ) (v : ℕ) : shares lens v 0 = lens.map (min · v) := by
  simp [shares]

theorem shares_cons_zero (len : ℕ) (lens : List ℕ) (v : ℕ) :
    shares (len :: lens) v 0 = min len v :: shares lens v 0 := by
  simp [shares]

theorem shares_cons_succ (len : ℕ) (lens : List ℕ) (v k : ℕ) :
    shares (len :: lens) v (k + 1) = min len (v + 1) :: shares lens v k := by
  simp [shares]

theorem sum_shares (lens : List ℕ) (v k : ℕ) :
    (shares lens v k).sum = dealt lens v + (lens.take k).countP (v < ·) := by
  have front := dealt_succ (lens.take k) v
  have all : dealt lens v = dealt (lens.take k) v + dealt (lens.drop k) v := by
    unfold dealt
    rw [← List.sum_append, ← List.map_append, List.take_append_drop]
  have parts : (shares lens v k).sum = dealt (lens.take k) (v + 1) + dealt (lens.drop k) v :=
    List.sum_append
  omega

theorem sum_shares_le (lens : List ℕ) (v k : ℕ) : (shares lens v k).sum ≤ lens.sum := by
  have front := dealt_le_sum (lens.take k) (v + 1)
  have back := dealt_le_sum (lens.drop k) v
  have parts : (shares lens v k).sum = dealt (lens.take k) (v + 1) + dealt (lens.drop k) v :=
    List.sum_append
  have all := List.sum_take_add_sum_drop lens k
  omega

theorem getD_shares (lens : List ℕ) (v k j : ℕ) :
    (shares lens v k).getD j 0 = min (lens.getD j 0) (if j < k then v + 1 else v) := by
  induction lens generalizing j k with
  | nil => simp [shares]
  | cons len lens ih =>
    cases k with
    | zero =>
      cases j with
      | zero => simp [shares]
      | succ j =>
        rw [shares_zero, List.map_cons, List.getD_cons_succ, ← shares_zero, ih, List.getD_cons_succ,
          if_neg (Nat.not_lt_zero j), if_neg (Nat.not_lt_zero (j + 1))]
    | succ k =>
      rw [shares_cons_succ]
      cases j with
      | zero => simp
      | succ j =>
        rw [List.getD_cons_succ, ih, List.getD_cons_succ]
        simp only [Nat.add_lt_add_iff_right]

/-- Dealing is fair at any time. -/
theorem fair_shares (lens : List ℕ) (v k : ℕ) : Fair lens (shares lens v k) where
  length := length_shares lens v k
  fits := fun j => by
    rw [getD_shares]
    exact Nat.min_le_left _ _
  near := fun i j notFull => by
    rw [getD_shares] at notFull
    rw [getD_shares, getD_shares]
    split_ifs at notFull ⊢ <;> omega
  first := fun i j order notFull => by
    rw [getD_shares] at notFull
    rw [getD_shares, getD_shares]
    split_ifs at notFull ⊢ <;> omega

end Dealing
