import Mathlib.Data.List.Perm.Subperm
import Mathlib.Tactic

/-!
# Choosing elements that are apart

A relation says which elements are close to each other. Elements are taken one by one, but
none that is close to one taken before. What is taken is a largest choice of elements that
are apart, in the sense that none can be added, and every such choice is what some order of
the elements leads to. So the number taken depends on the order unless all these choices are
of one size.
-/

namespace EmbeddedClient.Apart

variable {α : Type*} (close : α → α → Bool)

/-- Take the elements of a list, but none that is close to one taken before. -/
def choose (taken : List α) : List α → List α
  | [] => taken
  | a :: as => if taken.any (close · a) then choose taken as else choose (taken ++ [a]) as

/-- The elements of `m` are elements of `l` and apart, and every element of `l` is close to one
of them. -/
structure IsMaximal (l m : List α) : Prop where
  subset : m ⊆ l
  apart : m.Pairwise fun a b => close a b = false
  covers : ∀ a ∈ l, ∃ b ∈ m, close b a = true

/-- All maximal choices are of one size. -/
def WellCovered (l : List α) : Prop :=
  ∀ m m', IsMaximal close l m → IsMaximal close l m' → m.length = m'.length

variable {close} {taken : List α}

theorem choose_of_close {a : α} (near : ∃ b ∈ taken, close b a = true) (as : List α) :
    choose close taken (a :: as) = choose close taken as := by
  rw [choose, if_pos (List.any_eq_true.2 near)]

theorem choose_of_apart {a : α} (apart : ∀ b ∈ taken, close b a = false) (as : List α) :
    choose close taken (a :: as) = choose close (taken ++ [a]) as := by
  rw [choose, if_neg]
  simpa using apart

theorem close_or_apart (close : α → α → Bool) (taken : List α) (a : α) :
    (∃ b ∈ taken, close b a = true) ∨ ∀ b ∈ taken, close b a = false := by
  by_cases near : ∃ b ∈ taken, close b a = true
  · exact .inl near
  · exact .inr (by simpa using near)

theorem choose_append (as bs : List α) :
    choose close taken (as ++ bs) = choose close (choose close taken as) bs := by
  induction as generalizing taken with
  | nil => rfl
  | cons a as ih =>
    rcases close_or_apart close taken a with near | apart
    · rw [List.cons_append, choose_of_close near, choose_of_close near, ih]
    · rw [List.cons_append, choose_of_apart apart, choose_of_apart apart, ih]

theorem mem_choose_of_mem {b : α} (before : b ∈ taken) (as : List α) :
    b ∈ choose close taken as := by
  induction as generalizing taken with
  | nil => exact before
  | cons a as ih =>
    rcases close_or_apart close taken a with near | apart
    · rw [choose_of_close near]
      exact ih before
    · rw [choose_of_apart apart]
      exact ih (List.mem_append_left _ before)

theorem mem_of_mem_choose {b : α} (as : List α) (chosen : b ∈ choose close taken as) :
    b ∈ taken ∨ b ∈ as := by
  induction as generalizing taken with
  | nil => exact .inl chosen
  | cons a as ih =>
    rcases close_or_apart close taken a with near | apart
    · rw [choose_of_close near] at chosen
      exact (ih chosen).imp_right (.tail _)
    · rw [choose_of_apart apart] at chosen
      rcases ih chosen with new | later
      · rcases List.mem_append.1 new with before | last
        · exact .inl before
        · exact .inr (List.mem_singleton.1 last ▸ .head _)
      · exact .inr (.tail _ later)

theorem choose_pairwise (as : List α) (apart : taken.Pairwise fun a b => close a b = false) :
    (choose close taken as).Pairwise fun a b => close a b = false := by
  induction as generalizing taken with
  | nil => exact apart
  | cons a as ih =>
    rcases close_or_apart close taken a with near | far
    · rw [choose_of_close near]
      exact ih apart
    · rw [choose_of_apart far]
      refine ih (List.pairwise_append.2 ⟨apart, List.pairwise_singleton _ _, ?_⟩)
      intro b member c last
      rw [List.mem_singleton.1 last]
      exact far b member

theorem choose_covers (refl : ∀ a, close a a = true) (as : List α) :
    ∀ a ∈ as, ∃ b ∈ choose close taken as, close b a = true := by
  induction as generalizing taken with
  | nil => simp
  | cons c as ih =>
    intro a member
    rcases close_or_apart close taken c with near | apart
    · rw [choose_of_close near]
      rcases List.mem_cons.1 member with rfl | later
      · obtain ⟨b, before, closeB⟩ := near
        exact ⟨b, mem_choose_of_mem before as, closeB⟩
      · exact ih a later
    · rw [choose_of_apart apart]
      rcases List.mem_cons.1 member with rfl | later
      · exact ⟨a, mem_choose_of_mem (by simp) as, refl a⟩
      · exact ih a later

theorem isMaximal_choose (refl : ∀ a, close a a = true) (l : List α) :
    IsMaximal close l (choose close [] l) where
  subset := fun _ chosen => (mem_of_mem_choose l chosen).resolve_left List.not_mem_nil
  apart := choose_pairwise l .nil
  covers := choose_covers refl l

theorem IsMaximal.of_perm {l l' m : List α} (maximal : IsMaximal close l m) (perm : l.Perm l') :
    IsMaximal close l' m where
  subset := fun _ member => perm.subset (maximal.subset member)
  apart := maximal.apart
  covers := fun a member => maximal.covers a (perm.symm.subset member)

theorem choose_pairwise_eq (m : List α)
    (apart : (taken ++ m).Pairwise fun a b => close a b = false) :
    choose close taken m = taken ++ m := by
  induction m generalizing taken with
  | nil => simp [choose]
  | cons a m ih =>
    have far : ∀ b ∈ taken, close b a = false := fun b before =>
      (List.pairwise_append.1 apart).2.2 b before a (.head _)
    rw [choose_of_apart far, ih (by rwa [List.append_assoc]), List.append_assoc]
    rfl

theorem choose_covered_eq (as : List α) (covered : ∀ a ∈ as, ∃ b ∈ taken, close b a = true) :
    choose close taken as = taken := by
  induction as with
  | nil => rfl
  | cons a as ih =>
    rw [choose_of_close (covered a (.head _)), ih fun b later => covered b (.tail _ later)]

theorem exists_append_perm {l m : List α} (nodup : m.Nodup) (subset : m ⊆ l) :
    ∃ rest, (m ++ rest).Perm l := by
  obtain ⟨front, permFront, sub⟩ := List.subperm_of_subset nodup subset
  obtain ⟨rest, perm⟩ := sub.exists_perm_append
  exact ⟨rest, (permFront.symm.append_right rest).trans perm.symm⟩

/-- Every maximal choice is what some order of the elements leads to. -/
theorem IsMaximal.exists_perm {l m : List α} (refl : ∀ a, close a a = true)
    (maximal : IsMaximal close l m) : ∃ l', l'.Perm l ∧ choose close [] l' = m := by
  have nodup : m.Nodup := by
    apply maximal.apart.imp
    intro a b far same
    rw [same, refl] at far
    contradiction
  obtain ⟨rest, order⟩ := exists_append_perm nodup maximal.subset
  refine ⟨m ++ rest, order, ?_⟩
  rw [choose_append, choose_pairwise_eq m (by simpa using maximal.apart), List.nil_append]
  apply choose_covered_eq rest
  intro a member
  exact maximal.covers a (order.subset (List.mem_append_right _ member))

/-- The number of elements taken is the same for all orders exactly if all maximal choices are
of one size. -/
theorem length_choose_perm_iff (refl : ∀ a, close a a = true) (l : List α) :
    (∀ l', l'.Perm l → (choose close [] l').length = (choose close [] l).length) ↔
      WellCovered close l := by
  constructor
  · intro same m m' maximal maximal'
    obtain ⟨order, perm, rfl⟩ := maximal.exists_perm refl
    obtain ⟨order', perm', rfl⟩ := maximal'.exists_perm refl
    rw [same order perm, same order' perm']
  · intro covered l' perm
    exact covered _ _ ((isMaximal_choose refl l').of_perm perm) (isMaximal_choose refl l)

end EmbeddedClient.Apart
