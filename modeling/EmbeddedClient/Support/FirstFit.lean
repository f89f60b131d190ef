import EmbeddedClient.Support.Apart

/-!
# First-fit matching

The elements of one list take partners from another, each the first one left that it is close
to. On two orders of one list everybody finds a partner, whatever the orders, exactly if being
close is transitive on the list: otherwise somebody can lose all partners to neighbours.
-/

namespace EmbeddedClient.FirstFit

variable {α : Type*} (close : α → α → Bool)

def count : List α → List α → ℕ
  | [], _ => 0
  | a :: as, free =>
    if free.any (close a) then 1 + count as (free.eraseP (close a)) else count as free

/-- Being close is transitive on the elements of a list. -/
def TransOn (l : List α) : Prop :=
  ∀ a ∈ l, ∀ b ∈ l, ∀ c ∈ l, close a b = true → close b c = true → close a c = true

instance (l : List α) : Decidable (TransOn close l) :=
  inferInstanceAs (Decidable (∀ a ∈ l, ∀ b ∈ l, ∀ c ∈ l, _ → _ → _))

variable {close} {a : α} {as free : List α}

theorem count_of_close (near : ∃ b ∈ free, close a b = true) :
    count close (a :: as) free = 1 + count close as (free.eraseP (close a)) := by
  rw [count, if_pos (List.any_eq_true.2 near)]

theorem count_of_apart (apart : ∀ b ∈ free, close a b = false) :
    count close (a :: as) free = count close as free := by
  rw [count, if_neg]
  simpa using apart

theorem count_head {b : α} (near : close a b = true) :
    count close (a :: as) (b :: free) = 1 + count close as free := by
  rw [count_of_close ⟨b, .head _, near⟩, List.eraseP_cons_of_pos near]

/-- If for every element the other list has at least as many partners as there are elements
with the same partners, everybody finds one. -/
theorem count_eq_length (refl : ∀ a, close a a = true) (symm : ∀ a b, close a b = close b a)
    {l : List α} (trans : TransOn close l) (inside : as ⊆ l) (insideFree : free ⊆ l)
    (enough : ∀ a ∈ as, as.countP (close a) ≤ free.countP (close a)) :
    count close as free = as.length := by
  induction as generalizing free with
  | nil => rfl
  | cons a as ih =>
    have some : 0 < free.countP (close a) := by
      have needed := enough a (.head _)
      rw [List.countP_cons_of_pos (refl a)] at needed
      omega
    obtain ⟨b, member, near⟩ := List.countP_pos_iff.1 some
    rw [count_of_close ⟨b, member, near⟩]
    obtain ⟨taken, front, back, -, close', split, rest⟩ := List.exists_of_eraseP member near
    have insideTaken : taken ∈ l := insideFree (by simp [split])
    have left : count close as (free.eraseP (close a)) = as.length := by
      refine ih (fun c later => inside (.tail _ later))
        (fun c later => insideFree (List.eraseP_subset later)) ?_
      intro c later
      have needed := enough c (.tail _ later)
      have whole : free.countP (close c) =
          (free.eraseP (close a)).countP (close c) + if close c taken = true then 1 else 0 := by
        rw [rest, split, List.countP_append, List.countP_append, List.countP_cons]
        omega
      rw [List.countP_cons] at needed
      by_cases shared : close c taken = true
      · have back : close taken a = true := by rwa [symm]
        have same :=
          trans c (inside (.tail _ later)) taken insideTaken a (inside (.head _)) shared back
        rw [if_pos same] at needed
        rw [if_pos shared] at whole
        omega
      · rw [if_neg shared] at whole
        omega
    rw [left, List.length_cons, Nat.add_comm]

theorem count_append (refl : ∀ a, close a a = true) (same as free : List α) :
    count close (same ++ as) (same ++ free) = same.length + count close as free := by
  induction same with
  | nil => simp
  | cons a same ih =>
    rw [List.cons_append, List.cons_append, count_head (refl a), ih, List.length_cons]
    omega

/-- The elements `b` and `c` can leave `a` without a partner. -/
theorem count_displaced {b c : α} (refl : ∀ a, close a a = true) (ab : close b a = true)
    (bc : close c b = true) (ac : close a c = false) (rest : List α) :
    count close (b :: c :: (rest ++ [a])) (a :: b :: (rest ++ [c])) = 2 + rest.length := by
  have last : count close [a] [c] = 0 := by
    rw [count_of_apart (by simpa using ac)]
    rfl
  rw [count_head ab, count_head bc, count_append refl, last]
  omega

/-- Any two orders of a list are matched completely exactly if closeness is transitive on it. -/
theorem count_perm_iff (refl : ∀ a, close a a = true) (symm : ∀ a b, close a b = close b a)
    (l : List α) :
    (∀ as free, as.Perm l → free.Perm l → count close as free = l.length) ↔ TransOn close l := by
  constructor
  · intro complete a inA b inB c inC ab bc
    by_contra apart
    have ac : close a c = false := by simpa using apart
    have distinct : [a, b, c].Nodup := by
      have neAB : a ≠ b := by
        intro same
        rw [same, bc] at ac
        contradiction
      have neBC : b ≠ c := by
        intro same
        rw [← same, ab] at ac
        contradiction
      have neAC : a ≠ c := by
        intro same
        rw [← same, refl] at ac
        contradiction
      simp [neAB, neBC, neAC]
    have subset : [a, b, c] ⊆ l := by simp [inA, inB, inC]
    obtain ⟨rest, perm⟩ := Apart.exists_append_perm distinct subset
    have asked : (b :: c :: (rest ++ [a])).Perm l := by
      refine List.Perm.trans ?_ perm
      apply ((List.perm_append_singleton a rest).cons c |>.cons b).trans
      exact (List.Perm.cons b (List.Perm.swap a c rest)).trans (List.Perm.swap a b (c :: rest))
    have offered : (a :: b :: (rest ++ [c])).Perm l := by
      refine List.Perm.trans ?_ perm
      exact ((List.perm_append_singleton c rest).cons b).cons a
    have displaced := count_displaced refl (by rwa [symm]) (by rwa [symm]) ac rest
    rw [complete _ _ asked offered, ← perm.length_eq] at displaced
    simp at displaced
    omega
  · intro trans as free perm permFree
    rw [← perm.length_eq]
    apply count_eq_length refl symm trans perm.subset permFree.subset
    intro a _
    rw [perm.countP_eq, permFree.countP_eq]

end EmbeddedClient.FirstFit
