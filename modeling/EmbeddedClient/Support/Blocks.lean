import Mathlib.Data.List.TakeWhile
import Mathlib.Tactic

/-!
# The first block of a list

A scan that looks for elements with a property and ends at the first one without it, once it has
found one, sees one block of them. These are all of them exactly if they stand together.
-/

namespace EmbeddedClient.Blocks

variable {α : Type*} (p : α → Bool)

def firstBlock (l : List α) : List α := (l.dropWhile fun a => !p a).takeWhile p

/-- No element without the property stands between two that have it. -/
def Together (l : List α) : Prop :=
  ∀ x y z, [x, y, z].Sublist l → p x = true → p z = true → p y = true

variable {p} {a : α} {l : List α}

theorem firstBlock_cons_of_neg (other : p a = false) : firstBlock p (a :: l) = firstBlock p l := by
  unfold firstBlock
  rw [List.dropWhile_cons_of_pos (by simp [other])]

theorem firstBlock_cons_of_pos (has : p a = true) : firstBlock p (a :: l) = a :: l.takeWhile p := by
  unfold firstBlock
  rw [List.dropWhile_cons_of_neg (by simp [has]), List.takeWhile_cons_of_pos has]

theorem together_cons_of_neg (other : p a = false) : Together p (a :: l) ↔ Together p l := by
  constructor
  · intro together x y z inside
    exact together x y z (inside.cons a)
  · intro together x y z inside first last
    cases inside with
    | cons _ rest => exact together x y z rest first last
    | cons_cons _ rest =>
      rw [other] at first
      contradiction

theorem has_of_front {as bs : List α} (all : ∀ a ∈ as, p a = true)
    (none : ∀ b ∈ bs, p b = false) {y z : α} (pair : [y, z].Sublist (as ++ bs))
    (last : p z = true) : p y = true := by
  obtain ⟨front, back, split, frontInside, backInside⟩ := List.sublist_append_iff.1 pair
  cases front with
  | nil =>
    have member : z ∈ back := by
      rw [List.nil_append] at split
      simp [← split]
    have not := none z (backInside.subset member)
    rw [last] at not
    contradiction
  | cons c cs =>
    have same : y = c := (List.cons.inj split).1
    rw [same]
    exact all c (frontInside.subset (List.mem_cons_self ..))

theorem together_append_of_all {as bs : List α} (all : ∀ a ∈ as, p a = true)
    (none : ∀ b ∈ bs, p b = false) :
    Together p (as ++ bs) :=
  fun x y z inside _ last =>
    has_of_front all none ((List.sublist_cons_self x [y, z]).trans inside) last

theorem together_append_of_none {as bs : List α} (none : ∀ a ∈ as, p a = false) :
    Together p (as ++ bs) ↔ Together p bs := by
  induction as with
  | nil => rfl
  | cons a as ih =>
    rw [List.cons_append, together_cons_of_neg (none a (.head _))]
    exact ih fun a member => none a (.tail _ member)

theorem together_cons_of_pos (has : p a = true) :
    Together p (a :: l) ↔ ∀ b ∈ l.dropWhile p, p b = false := by
  constructor
  · intro together b member
    cases rest : l.dropWhile p with
    | nil => simp [rest] at member
    | cons d ds =>
      -- the first element that is dropped stands between `a` and the others
      have other : p d = false := by
        have ne : l.dropWhile p ≠ [] := by simp [rest]
        have head := List.head_dropWhile_not p ne
        simpa [rest] using head
      have inside : (d :: ds).Sublist l := rest ▸ List.dropWhile_sublist p
      rw [rest] at member
      rcases List.mem_cons.1 member with rfl | behind
      · exact other
      · have pair : [d, b].Sublist l := ((List.singleton_sublist.2 behind).cons_cons d).trans inside
        by_contra hasB
        have between := together a d b (pair.cons_cons a) has (by simpa using hasB)
        rw [other] at between
        contradiction
  · intro dropped
    have front : ∀ b ∈ a :: l.takeWhile p, p b = true := by
      intro b member
      rcases List.mem_cons.1 member with rfl | inside
      · exact has
      · exact List.mem_takeWhile_imp inside
    have together := together_append_of_all front dropped
    rwa [List.cons_append, List.takeWhile_append_dropWhile] at together

theorem length_takeWhile_eq_countP_iff :
    (l.takeWhile p).length = l.countP p ↔ ∀ b ∈ l.dropWhile p, p b = false := by
  have front : (l.takeWhile p).countP p = (l.takeWhile p).length :=
    List.countP_eq_length.2 fun b member => List.mem_takeWhile_imp member
  have split : l.countP p = (l.takeWhile p).countP p + (l.dropWhile p).countP p := by
    rw [← List.countP_append, List.takeWhile_append_dropWhile]
  rw [split, front, left_eq_add, List.countP_eq_zero]
  simp

/-- The first block holds all elements with the property exactly if they stand together. -/
theorem length_firstBlock_eq_countP_iff : (firstBlock p l).length = l.countP p ↔ Together p l := by
  induction l with
  | nil => simp [firstBlock, Together]
  | cons a l ih =>
    cases has : p a with
    | false =>
      rw [firstBlock_cons_of_neg has, together_cons_of_neg has, List.countP_cons_of_neg
        (by simp [has]), ih]
    | true =>
      rw [firstBlock_cons_of_pos has, together_cons_of_pos has, List.countP_cons_of_pos has,
        List.length_cons, Nat.add_right_cancel_iff, length_takeWhile_eq_countP_iff]

instance (p : α → Bool) (l : List α) : Decidable (Together p l) :=
  decidable_of_iff _ length_firstBlock_eq_countP_iff

theorem sublist_of_sorted {κ : Type*} [LinearOrder κ] {key : α → κ}
    (sorted : l.Pairwise fun a b => key a ≤ key b) {as : List α}
    (ascending : as.Pairwise fun a b => key a < key b) (inside : ∀ a ∈ as, a ∈ l) :
    as.Sublist l := by
  induction l generalizing as with
  | nil =>
    cases as with
    | nil => exact .refl []
    | cons a as => exact absurd (inside a (.head _)) List.not_mem_nil
  | cons b l ih =>
    obtain ⟨least, sortedRest⟩ := List.pairwise_cons.1 sorted
    cases as with
    | nil => exact List.nil_sublist _
    | cons a as =>
      obtain ⟨less, ascendingRest⟩ := List.pairwise_cons.1 ascending
      -- the later elements have greater keys, so they are not the first of the list
      have behind : ∀ c ∈ as, c ∈ l := by
        intro c member
        rcases List.mem_cons.1 (inside c (.tail _ member)) with rfl | rest
        · rcases List.mem_cons.1 (inside a (.head _)) with rfl | first
          · exact absurd (less a member) (lt_irrefl _)
          · exact absurd (less c member) (not_lt.2 (least a first))
        · exact rest
      rcases List.mem_cons.1 (inside a (.head _)) with rfl | first
      · exact (ih sortedRest ascendingRest behind).cons_cons a
      · apply (ih sortedRest ascending _).cons b
        intro c member
        rcases List.mem_cons.1 member with rfl | rest
        · exact first
        · exact behind c rest

/-- In a sorted list where elements of one key agree on the property, no element without it has a
key between those of two that have it. -/
theorem together_iff_of_sorted {κ : Type*} [LinearOrder κ] {key : α → κ}
    (sorted : l.Pairwise fun a b => key a ≤ key b)
    (agree : ∀ a ∈ l, ∀ b ∈ l, key a = key b → p a = p b) :
    Together p l ↔ ∀ x ∈ l, ∀ y ∈ l, ∀ z ∈ l, key x ≤ key y → key y ≤ key z → p x = true →
      p z = true →
      p y = true := by
  constructor
  · intro together x memberX y memberY z memberZ below above first last
    rcases below.eq_or_lt with same | less
    · rw [← agree x memberX y memberY same]
      exact first
    · rcases above.eq_or_lt with same | more
      · rw [agree y memberY z memberZ same]
        exact last
      · have ascending : [x, y, z].Pairwise fun a b => key a < key b := by
          simp [less, more, less.trans more]
        apply together x y z (sublist_of_sorted sorted ascending _) first last
        simp [memberX, memberY, memberZ]
  · intro between x y z inside first last
    have order := sorted.sublist inside
    simp only [List.pairwise_cons, List.mem_cons] at order
    exact between x (inside.subset (by simp)) y (inside.subset (by simp)) z
      (inside.subset (by simp))
      (order.1 y (.inl rfl)) (order.2.1 z (.inl rfl)) first last

end EmbeddedClient.Blocks
