import Mathlib.Tactic

/-!
# The first maximum of a list of offers

A scan over a list keeps the first of the greatest values it is offered, with its
place and a label, if that value is above the one it starts from. Places that make
no offer are passed over.
-/

namespace EmbeddedClient.FirstMax

variable {R T : Type*}

structure Best (R T : Type*) where
  value : R
  place : ℤ
  label : T

variable [LinearOrder R]

def Best.offer (b : Best R T) (place : ℤ) : Option (R × T) → Best R T
  | none => b
  | some (value, label) => if b.value < value then ⟨value, place, label⟩ else b

/-- Take the offers of a list whose first place is given. -/
def Best.scan (b : Best R T) : ℤ → List (Option (R × T)) → Best R T
  | _, [] => b
  | place, o :: os => (b.offer place o).scan (place + 1) os

structure IsFirstMax (offers : List (Option (R × T))) (k : ℕ) (value : R) (label : T) : Prop where
  offered : offers[k]? = some (some (value, label))
  greatest : ∀ j v l, offers[j]? = some (some (v, l)) → v ≤ value ∧ (j < k → v < value)

variable {offers : List (Option (R × T))} {k : ℕ} {value : R} {label : T}

theorem getElem?_cons_cases {α : Type*} {a x : α} {as : List α} {j : ℕ}
    (found : (a :: as)[j]? = some x) :
    (j = 0 ∧ a = x) ∨ ∃ i, j = i + 1 ∧ as[i]? = some x := by
  cases j with
  | zero => exact .inl ⟨rfl, by simpa using found⟩
  | succ i => exact .inr ⟨i, rfl, by simpa using found⟩

theorem IsFirstMax.cons (max : IsFirstMax offers k value label) {first : Option (R × T)}
    (less : ∀ v l, first = some (v, l) → v < value) :
    IsFirstMax (first :: offers) (k + 1) value label where
  offered := by simpa using max.offered
  greatest := by
    intro j v l found
    rcases getElem?_cons_cases found with ⟨rfl, eq⟩ | ⟨i, rfl, rest⟩
    · exact ⟨(less v l eq).le, fun _ => less v l eq⟩
    · obtain ⟨le, lt⟩ := max.greatest i v l rest
      exact ⟨le, fun before => lt (by omega)⟩

theorem IsFirstMax.head (rest : ∀ v l, some (v, l) ∈ offers → v ≤ value) :
    IsFirstMax (some (value, label) :: offers) 0 value label where
  offered := rfl
  greatest := by
    intro j v l found
    rcases getElem?_cons_cases found with ⟨rfl, eq⟩ | ⟨i, rfl, later⟩
    · cases eq
      exact ⟨le_rfl, fun before => absurd before (by omega)⟩
    · exact ⟨rest v l (List.mem_of_getElem? later), fun before => absurd before (by omega)⟩

theorem Best.offer_cases (b : Best R T) (place : ℤ) (o : Option (R × T)) :
    (b.offer place o = b ∧ ∀ v l, o = some (v, l) → v ≤ b.value) ∨
      ∃ v l, o = some (v, l) ∧ b.offer place o = ⟨v, place, l⟩ ∧ b.value < v := by
  cases o with
  | none => exact .inl ⟨rfl, fun _ _ offered => by cases offered⟩
  | some offer =>
    obtain ⟨v₀, l₀⟩ := offer
    by_cases taken : b.value < v₀
    · exact .inr ⟨v₀, l₀, rfl, if_pos taken, taken⟩
    · refine .inl ⟨if_neg taken, fun v l offered => ?_⟩
      cases offered
      exact not_lt.1 taken

/-- A scan ends with what it started from, if nothing offered is better, or with the
first maximum. -/
theorem Best.scan_cases (b : Best R T) (place : ℤ) (offers : List (Option (R × T))) :
    (b.scan place offers = b ∧ ∀ v l, some (v, l) ∈ offers → v ≤ b.value) ∨
      ∃ k value label, b.scan place offers = ⟨value, place + (k : ℕ), label⟩ ∧ b.value < value ∧
        IsFirstMax offers k value label := by
  induction offers generalizing b place with
  | nil =>
    left
    constructor
    · rfl
    · intro v l member
      cases member
  | cons o os ih =>
    have shift (k : ℕ) : place + 1 + (k : ℤ) = place + ((k + 1 : ℕ) : ℤ) := by
      push_cast
      ring
    unfold Best.scan
    rcases b.offer_cases place o with ⟨kept, least⟩ | ⟨v₀, l₀, rfl, first, taken⟩
    · rw [kept]
      rcases ih b (place + 1) with ⟨same, less⟩ | ⟨k, value, label, eq, better, max⟩
      · left
        constructor
        · exact same
        · intro v l member
          rcases List.mem_cons.1 member with head | rest
          · exact least v l head.symm
          · exact less v l rest
      · right
        refine ⟨k + 1, value, label, ?_, better, max.cons ?_⟩
        · rw [← shift]
          exact eq
        · intro v l head
          exact (least v l head).trans_lt better
    · rw [first]
      rcases ih ⟨v₀, place, l₀⟩ (place + 1) with ⟨same, less⟩ | ⟨k, value, label, eq, better, max⟩
      · right
        refine ⟨0, v₀, l₀, ?_, taken, .head less⟩
        rw [same]
        simp
      · right
        refine ⟨k + 1, value, label, ?_, taken.trans better, max.cons ?_⟩
        · rw [← shift]
          exact eq
        · intro v l head
          cases head
          exact better

end EmbeddedClient.FirstMax
