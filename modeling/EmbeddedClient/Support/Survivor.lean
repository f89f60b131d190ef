import Mathlib.Tactic

/-!
# The survivor of a sequence

Elements arrive one by one, and one of them is held. A younger element replaces it, and so does an
element of its age that is marked, or that is marked as it is and has a higher value. Among the
youngest the last marked one is held in the end, and without a marked one an element of the
highest value.
-/

namespace EmbeddedClient.Survivor

structure Criteria (α κ ν : Type*) where
  age : α → κ
  marked : α → Bool
  value : α → ν

variable {α κ ν : Type*} [LinearOrder κ] [LinearOrder ν] (c : Criteria α κ ν)

def Replaces (a held : α) : Prop :=
  c.age a < c.age held ∨ (c.age a = c.age held ∧ c.marked a = true) ∨
    (c.age a = c.age held ∧ c.marked a = c.marked held ∧ c.value held < c.value a)

instance (a held : α) : Decidable (Replaces c a held) := inferInstanceAs (Decidable (_ ∨ _))

/-- `none` means that nothing is held yet. -/
def keep (held : Option α) (a : α) : Option α :=
  match held with
  | none => some a
  | some b => if Replaces c a b then some a else some b

def survivor (as : List α) : Option α := as.foldl (keep c) none

def youngest (as : List α) : List α := as.filter fun a => as.all fun b => c.age a ≤ c.age b

/-- The marked ones among the youngest elements. -/
def contenders (as : List α) : List α := (youngest c as).filter c.marked

/-- What the element held after a sequence is. -/
structure IsSurvivor (as : List α) (d : α) : Prop where
  member : d ∈ as
  le : ∀ b ∈ as, c.age d ≤ c.age b
  last : c.marked d = true →
    ((as.filter fun b => c.age b = c.age d).filter c.marked).getLast? = some d
  highest : c.marked d = false → ∀ b ∈ as, c.age b = c.age d →
    c.marked b = false ∧ c.value b ≤ c.value d

variable {c} {as : List α} {a b d : α}

theorem survivor_append_singleton : survivor c (as ++ [a]) = keep c (survivor c as) a := by
  rw [survivor, List.foldl_append]
  rfl

theorem survivor_isSome_iff : (survivor c as).isSome = true ↔ as ≠ [] := by
  induction as using List.reverseRecOn with
  | nil => simp [survivor]
  | append_singleton as a ih =>
    rw [survivor_append_singleton]
    cases survivor c as with
    | none => simp [keep]
    | some b =>
      unfold keep
      dsimp only
      split_ifs <;> simp

theorem IsSurvivor.singleton (c : Criteria α κ ν) (a : α) : IsSurvivor c [a] a := by
  refine ⟨.head _, by simp, by simp +contextual, ?_⟩
  intro unmarked b member _
  rw [List.mem_singleton.1 member]
  exact ⟨unmarked, le_rfl⟩

theorem IsSurvivor.replaced (held : IsSurvivor c as d) (replaces : Replaces c a d) :
    IsSurvivor c (as ++ [a]) a := by
  have notOlder : c.age a ≤ c.age d := by
    rcases replaces with younger | ⟨age, -⟩ | ⟨age, -, -⟩
    · exact younger.le
    · exact age.le
    · exact age.le
  constructor
  · simp
  · intro b member
    rcases List.mem_append.1 member with old | new
    · exact notOlder.trans (held.le b old)
    · rw [List.mem_singleton.1 new]
  · intro marked
    rw [List.filter_append, List.filter_append]
    have single : (([a].filter fun b => c.age b = c.age a).filter c.marked) = [a] := by
      simp [marked]
    rw [single, List.getLast?_concat]
  · intro unmarked b member age
    rcases List.mem_append.1 member with old | new
    · rcases replaces with younger | ⟨-, marked⟩ | ⟨same, marks, higher⟩
      · exact absurd (held.le b old) (not_le.2 (age ▸ younger))
      · rw [unmarked] at marked
        contradiction
      · have rest := held.highest (marks ▸ unmarked) b old (age.trans same)
        exact ⟨rest.1, rest.2.trans higher.le⟩
    · rw [List.mem_singleton.1 new]
      exact ⟨unmarked, le_rfl⟩

theorem IsSurvivor.stays (held : IsSurvivor c as d) (stays : ¬ Replaces c a d) :
    IsSurvivor c (as ++ [a]) d := by
  obtain ⟨notYounger, rest⟩ := not_or.1 stays
  obtain ⟨notMarked, notHigher⟩ := not_or.1 rest
  constructor
  · exact List.mem_append_left _ held.member
  · intro b member
    rcases List.mem_append.1 member with old | new
    · exact held.le b old
    · rw [List.mem_singleton.1 new]
      exact not_lt.1 notYounger
  · intro marked
    rw [List.filter_append, List.filter_append]
    have gone : (([a].filter fun b => c.age b = c.age d).filter c.marked) = [] := by
      rw [List.filter_filter, List.filter_eq_nil_iff]
      intro b member
      rw [List.mem_singleton.1 member]
      simp only [Bool.and_eq_true, decide_eq_true_eq, not_and]
      exact fun markedA age => notMarked ⟨age, markedA⟩
    rw [gone, List.append_nil]
    exact held.last marked
  · intro unmarked b member age
    rcases List.mem_append.1 member with old | new
    · exact held.highest unmarked b old age
    · rw [List.mem_singleton.1 new] at age ⊢
      have unmarkedA : c.marked a = false := by
        rw [← Bool.not_eq_true]
        exact fun marked => notMarked ⟨age, marked⟩
      refine ⟨unmarkedA, not_lt.1 fun higher => notHigher ⟨age, ?_, higher⟩⟩
      rw [unmarked, unmarkedA]

theorem isSurvivor (survives : survivor c as = some d) : IsSurvivor c as d := by
  induction as using List.reverseRecOn generalizing d with
  | nil => contradiction
  | append_singleton as a ih =>
    rw [survivor_append_singleton] at survives
    cases held : survivor c as with
    | none =>
      have empty : as = [] := by
        by_contra full
        have present := (survivor_isSome_iff (c := c)).2 full
        rw [held] at present
        contradiction
      rw [held] at survives
      rw [empty, ← Option.some.inj survives]
      exact .singleton c a
    | some b =>
      rw [held] at survives
      unfold keep at survives
      dsimp only at survives
      split_ifs at survives with replaces
      · rw [← Option.some.inj survives]
        exact (ih held).replaced replaces
      · rw [← Option.some.inj survives]
        exact (ih held).stays replaces

namespace IsSurvivor

theorem youngest_eq (held : IsSurvivor c as d) :
    youngest c as = as.filter fun b => c.age b = c.age d := by
  apply List.filter_congr
  intro b member
  rw [Bool.eq_iff_iff, List.all_eq_true, decide_eq_true_eq]
  simp only [decide_eq_true_eq]
  constructor
  · intro least
    exact le_antisymm (least d held.member) (held.le b member)
  · intro age e inside
    rw [age]
    exact held.le e inside

theorem mem_youngest_iff (held : IsSurvivor c as d) :
    b ∈ youngest c as ↔ b ∈ as ∧ c.age b = c.age d := by
  rw [held.youngest_eq, List.mem_filter, decide_eq_true_eq]

theorem getLast?_contenders (held : IsSurvivor c as d) (marked : c.marked d = true) :
    (contenders c as).getLast? = some d := by
  rw [contenders, held.youngest_eq]
  exact held.last marked

theorem contenders_eq_nil (held : IsSurvivor c as d) (unmarked : c.marked d = false) :
    contenders c as = [] := by
  apply List.filter_eq_nil_iff.2
  intro b member
  obtain ⟨inside, age⟩ := held.mem_youngest_iff.1 member
  rw [(held.highest unmarked b inside age).1]
  decide

end IsSurvivor

end EmbeddedClient.Survivor
