import Mathlib.Data.Multiset.Count
import Mathlib.Logic.Function.Basic
import Mathlib.Tactic.SplitIfs
import Mathlib.Tactic.Push

/-!
# Patches on a shared copy

A family of values is written down as one value and, for each further member, one position with
the entry it has there. Each member is the first value with its own patch. Applying the patches one
after the other to a single copy gives other values: a member shows the patches before it too.
-/

namespace Patches

variable {ι α : Type*} [DecidableEq ι] (f : ι → α) (idx : ℕ → ι) (val : ℕ → α)

/-- Member `n` on the shared copy: the patches of all members up to `n`. -/
def shared : ℕ → ι → α
  | 0 => f
  | n + 1 => Function.update (shared n) (idx n) (val n)

def own : ℕ → ι → α
  | 0 => f
  | n + 1 => Function.update f (idx n) (val n)

/-- Among the first `n` patches, one at another position than a later one is without effect, unless
the position is patched again before that. -/
def Independent (n : ℕ) : Prop :=
  ∀ v < n, ∀ u < v, idx u ≠ idx v → (∀ t < v, u < t → idx t ≠ idx u) → val u = f (idx u)

variable {f idx val}

theorem shared_succ_self (n : ℕ) : shared f idx val (n + 1) (idx n) = val n :=
  Function.update_self ..

theorem own_succ_self (n : ℕ) : own f idx val (n + 1) (idx n) = val n := Function.update_self ..

theorem own_succ_of_ne {n : ℕ} {j : ι} (other : j ≠ idx n) : own f idx val (n + 1) j = f j :=
  Function.update_of_ne other ..

theorem shared_of_last {j : ι} {u n : ℕ} (before : u < n) (patched : idx u = j)
    (last : ∀ t < n, u < t → idx t ≠ j) : shared f idx val n j = val u := by
  induction n with
  | zero => exact absurd before (Nat.not_lt_zero u)
  | succ n ih =>
    by_cases same : u = n
    · subst same
      rw [← patched]
      exact shared_succ_self u
    · have other : j ≠ idx n := fun eq => last n (Nat.lt_succ_self n) (by omega) eq.symm
      rw [shared, Function.update_of_ne other]
      exact ih (by omega) fun t inside after => last t (by omega) after

theorem exists_last_of_ne {j : ι} {n : ℕ} (differs : shared f idx val n j ≠ f j) :
    ∃ u < n, idx u = j ∧ (∀ t < n, u < t → idx t ≠ j) ∧ val u ≠ f j := by
  induction n with
  | zero => exact absurd rfl differs
  | succ n ih =>
    by_cases same : idx n = j
    · subst same
      rw [shared_succ_self] at differs
      exact ⟨n, Nat.lt_succ_self n, rfl, fun t inside after => by omega, differs⟩
    · rw [shared, Function.update_of_ne (Ne.symm same)] at differs
      obtain ⟨u, before, patched, last, effect⟩ := ih differs
      refine ⟨u, by omega, patched, ?_, effect⟩
      intro t inside after
      by_cases newest : t = n
      · rwa [newest]
      · exact last t (by omega) after

/-- All members come out right on the shared copy exactly if the patches are independent. -/
theorem shared_eq_own_iff (n : ℕ) :
    (∀ x ≤ n, shared f idx val x = own f idx val x) ↔ Independent f idx val n := by
  constructor
  · intro same v range u before other last
    have entry := congrFun (same (v + 1) (by omega)) (idx u)
    rw [own_succ_of_ne other, shared, Function.update_of_ne other,
      shared_of_last before rfl last] at entry
    exact entry
  · intro independent x range
    cases x with
    | zero => rfl
    | succ v =>
      funext j
      by_cases same : j = idx v
      · rw [same, shared_succ_self, own_succ_self]
      · rw [own_succ_of_ne same, shared, Function.update_of_ne same]
        by_contra differs
        obtain ⟨u, before, patched, last, effect⟩ := exists_last_of_ne differs
        rw [← patched] at same last effect
        exact effect (independent v (by omega) u before same last)

/-- A member with another entry than the first value at its position comes out right if the shared
copy differs from the first value in one position at most. -/
theorem shared_eq_own_of_near {v : ℕ} (changed : val v ≠ f (idx v))
    (near : ∃ j, ∀ i ≠ j, shared f idx val (v + 1) i = f i) :
    shared f idx val (v + 1) = own f idx val (v + 1) := by
  obtain ⟨j, rest⟩ := near
  have position : j = idx v := by
    by_contra other
    have entry := rest (idx v) (Ne.symm other)
    rw [shared_succ_self] at entry
    exact changed entry
  funext i
  by_cases same : i = idx v
  · rw [same, shared_succ_self, own_succ_self]
  · rw [own_succ_of_ne same]
    exact rest i (by rwa [position])

theorem own_near (f : ι → α) (idx : ℕ → ι) (val : ℕ → α) (x : ℕ) :
    own f idx val x = f ∨ ∃ j, ∀ i ≠ j, own f idx val x i = f i := by
  cases x with
  | zero => exact .inl rfl
  | succ v => exact .inr ⟨idx v, fun i other => own_succ_of_ne other⟩

theorem of_countP_eq {β : Type*} {p q : β → Bool} {l : List β}
    (imp : ∀ x ∈ l, p x = true → q x = true) (count : l.countP p = l.countP q) :
    ∀ x ∈ l, q x = true → p x = true := by
  induction l with
  | nil => exact fun _ member => absurd member List.not_mem_nil
  | cons a l ih =>
    have rest := fun x member => imp x (List.mem_cons_of_mem a member)
    have le := List.countP_mono_left rest
    have head := imp a (.head l)
    rw [List.countP_cons, List.countP_cons] at count
    have both : p a = q a ∧ l.countP p = l.countP q := by
      by_cases left : p a = true
      · rw [if_pos left, if_pos (head left)] at count
        exact ⟨left.trans (head left).symm, by omega⟩
      · by_cases right : q a = true
        · rw [if_neg left, if_pos right] at count
          omega
        · rw [if_neg left, if_neg right] at count
          rw [Bool.not_eq_true] at left right
          exact ⟨left.trans right.symm, by omega⟩
    intro x member
    rcases List.mem_cons.1 member with rfl | later
    · rw [both.1]
      exact id
    · exact ih rest both.2 x later

/-- If each value is as frequent among the members on the shared copy as among the members
themselves, then every member comes out right. -/
theorem shared_eq_own_of_perm {n : ℕ}
    (perm : ((List.range (n + 1)).map (shared f idx val)).Perm
      ((List.range (n + 1)).map (own f idx val))) :
    ∀ x ≤ n, shared f idx val x = own f idx val x := by
  classical
  -- No member on the shared copy is far from the first value.
  have near (x : ℕ) (range : x ≤ n) :
      shared f idx val x = f ∨ ∃ j, ∀ i ≠ j, shared f idx val x i = f i := by
    have member : shared f idx val x ∈ (List.range (n + 1)).map (own f idx val) :=
      perm.subset (List.mem_map_of_mem (List.mem_range.2 (by omega)))
    obtain ⟨y, -, eq⟩ := List.mem_map.1 member
    rw [← eq]
    exact own_near f idx val y
  -- So a wrong one should have been the first value, and the first value is missing.
  have wrong (x : ℕ) (range : x ≤ n) (differs : shared f idx val x ≠ own f idx val x) :
      own f idx val x = f ∧ shared f idx val x ≠ f := by
    cases x with
    | zero => exact absurd rfl differs
    | succ v =>
      have unchanged : val v = f (idx v) := by
        by_contra changed
        refine differs (shared_eq_own_of_near changed ?_)
        rcases near (v + 1) range with same | near
        · exact ⟨idx v, fun i _ => congrFun same i⟩
        · exact near
      have plain : own f idx val (v + 1) = f := by
        rw [own, unchanged, Function.update_eq_self]
      exact ⟨plain, fun same => differs (same.trans plain.symm)⟩
  have right_of_first (x : ℕ) (range : x ≤ n) (first : shared f idx val x = f) :
      own f idx val x = f := by
    by_contra other
    have differs : shared f idx val x ≠ own f idx val x := by
      rw [first]
      exact Ne.symm other
    exact other (wrong x range differs).1
  have count := perm.countP_eq (fun m => decide (m = f))
  rw [List.countP_map, List.countP_map] at count
  intro x range
  by_contra differs
  obtain ⟨plain, other⟩ := wrong x range differs
  have first := of_countP_eq (fun y member first => by
    simp only [Function.comp_apply, decide_eq_true_eq] at first ⊢
    exact right_of_first y (by have := List.mem_range.1 member; omega) first) count x
    (List.mem_range.2 (by omega)) (by simpa using plain)
  exact other (by simpa using first)

end Patches
