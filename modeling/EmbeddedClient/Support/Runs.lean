import Mathlib.Tactic

/-!
# Runs of a deterministic system

A system is given by what each action does to a state. A condition on runs is
stated step by step with `Along`, and an invariant that the steps meeting the
condition preserve holds in the states of every such run.
-/

namespace EmbeddedClient.Runs

variable {State Action : Type*} (step : State → Action → State)

def run (start : State) (actions : List Action) : State := actions.foldl step start

@[simp] theorem run_nil (start : State) : run step start [] = start := rfl

@[simp] theorem run_cons (start : State) (a : Action) (as : List Action) :
    run step start (a :: as) = run step (step start a) as := rfl

/-- Every step of the run meets the condition on its state and its action. -/
def Along (condition : State → Action → Prop) : State → List Action → Prop
  | _, [] => True
  | s, a :: as => condition s a ∧ Along condition (step s a) as

variable {step}
variable {condition consequence : State → Action → Prop} {invariant : State → Prop}
variable {start : State} {actions : List Action}

@[simp] theorem along_nil : Along step condition start [] := trivial

@[simp] theorem along_cons {a : Action} {as : List Action} :
    Along step condition start (a :: as) ↔
      condition start a ∧ Along step condition (step start a) as := Iff.rfl

instance decidableAlong [∀ s a, Decidable (condition s a)] :
    ∀ start actions, Decidable (Along step condition start actions)
  | _, [] => inferInstanceAs (Decidable True)
  | s, a :: as =>
    have := decidableAlong (step s a) as
    inferInstanceAs (Decidable (condition s a ∧ Along step condition (step s a) as))

theorem along_append {before after : List Action} :
    Along step condition start (before ++ after) ↔
      Along step condition start before ∧
        Along step condition (run step start before) after := by
  induction before generalizing start with
  | nil => simp
  | cons a as ih => simp [ih, and_assoc]

/-- Invariant rule: the steps that meet the condition preserve the invariant. -/
theorem run_invariant (preserved : ∀ s a, invariant s → condition s a → invariant (step s a))
    (initial : invariant start) (along : Along step condition start actions) :
    invariant (run step start actions) := by
  induction actions generalizing start with
  | nil => exact initial
  | cons a as ih => exact ih (preserved start a initial along.1) along.2

/-- Under an invariant, what holds at each step that meets the condition holds
along the whole run. -/
theorem along_mono (preserved : ∀ s a, invariant s → condition s a → invariant (step s a))
    (initial : invariant start) (along : Along step condition start actions)
    (implies : ∀ s a, invariant s → condition s a → consequence s a) :
    Along step consequence start actions := by
  induction actions generalizing start with
  | nil => trivial
  | cons a as ih =>
    exact ⟨implies start a initial along.1, ih (preserved start a initial along.1) along.2⟩

/-- When the steps that meet the condition are exactly those that preserve the
invariant, it holds in every state of a run exactly if every step meets the condition. -/
theorem forall_run_take_iff
    (exact : ∀ s a, invariant s → (invariant (step s a) ↔ condition s a))
    (initial : invariant start) :
    (∀ k, invariant (run step start (actions.take k))) ↔ Along step condition start actions := by
  induction actions generalizing start with
  | nil => simp [initial]
  | cons a as ih =>
    rw [along_cons]
    constructor
    · intro every
      have first : invariant (step start a) := every 1
      exact ⟨(exact start a initial).1 first, (ih first).1 fun k => every (k + 1)⟩
    · rintro ⟨fits, along⟩ k
      have first := (exact start a initial).2 fits
      cases k with
      | zero => exact initial
      | succ k => exact (ih first).2 along k

theorem along_and {other : State → Action → Prop} :
    Along step (fun s a => condition s a ∧ other s a) start actions ↔
      Along step condition start actions ∧ Along step other start actions := by
  induction actions generalizing start with
  | nil => simp
  | cons a as ih =>
    simp only [along_cons, ih]
    constructor
    · rintro ⟨⟨first, second⟩, rest, others⟩
      exact ⟨⟨first, rest⟩, second, others⟩
    · rintro ⟨⟨first, rest⟩, second, others⟩
      exact ⟨⟨first, second⟩, rest, others⟩

theorem along_of_forall {holds : Action → Prop} (all : ∀ a ∈ actions, holds a) :
    Along step (fun _ a => holds a) start actions := by
  induction actions generalizing start with
  | nil => trivial
  | cons a as ih => exact ⟨all a (.head _), ih fun b member => all b (.tail _ member)⟩

theorem along_true : Along step (fun _ _ => True) start actions := by
  induction actions generalizing start with
  | nil => trivial
  | cons a as ih => exact ⟨trivial, ih⟩

/-- Conditions that agree under an invariant hold along the same runs, among those whose
steps meet a further condition. -/
theorem along_congr_given {given : State → Action → Prop}
    (preserved : ∀ s a, invariant s → given s a → consequence s a → invariant (step s a))
    (initial : invariant start) (along : Along step given start actions)
    (agree : ∀ s a, invariant s → given s a → (condition s a ↔ consequence s a)) :
    Along step condition start actions ↔ Along step consequence start actions := by
  induction actions generalizing start with
  | nil => exact Iff.rfl
  | cons a as ih =>
    have first := agree start a initial along.1
    rw [along_cons, along_cons, first]
    refine and_congr_right fun meets => ?_
    exact ih (preserved start a initial along.1 meets) along.2

theorem along_congr (preserved : ∀ s a, invariant s → invariant (step s a))
    (initial : invariant start) (agree : ∀ s a, invariant s → (condition s a ↔ consequence s a)) :
    Along step condition start actions ↔ Along step consequence start actions :=
  along_congr_given (fun s a holds _ _ => preserved s a holds) initial along_true
    fun s a holds _ => agree s a holds

theorem run_append (before after : List Action) :
    run step start (before ++ after) = run step (run step start before) after :=
  List.foldl_append

/-- Origin rule: what holds at the end of a run and not at its start was brought about by
one of its actions, and has held since. -/
theorem exists_origin {holds : State → Prop} (fresh : ¬ holds start)
    (reached : holds (run step start actions)) :
    ∃ before a after, actions = before ++ a :: after ∧ ¬ holds (run step start before) ∧
      holds (step (run step start before) a) ∧
      Along step (fun s b => holds s ∧ holds (step s b))
        (step (run step start before) a) after := by
  induction actions using List.reverseRecOn with
  | nil => exact absurd reached fresh
  | append_singleton as a ih =>
    have last : run step start (as ++ [a]) = step (run step start as) a := run_append as [a]
    rw [last] at reached
    by_cases earlier : holds (run step start as)
    · obtain ⟨before, b, after, split, missing, made, since⟩ := ih earlier
      have ends : run step (step (run step start before) b) after = run step start as := by
        rw [split, run_append, run_cons]
      refine ⟨before, b, after ++ [a], ?_, missing, made, along_append.2 ⟨since, ?_⟩⟩
      · rw [split, List.append_assoc, List.cons_append]
      · rw [ends]
        exact ⟨⟨earlier, reached⟩, trivial⟩
    · exact ⟨as, a, [], rfl, earlier, reached, trivial⟩

/-- Relation rule: what relates the states around each step that meets the condition relates
the ends of a run. -/
theorem run_related {related : State → State → Prop} (refl : ∀ s, related s s)
    (trans : ∀ s t u, related s t → related t u → related s u)
    (steps : ∀ s a, condition s a → related s (step s a))
    (along : Along step condition start actions) :
    related start (run step start actions) :=
  run_invariant (fun s a before meets => trans start s _ before (steps s a meets))
    (refl start) along

/-- The actions of two lists in some common order. -/
inductive Interleaving : List Action → List Action → List Action → Prop
  | nil : Interleaving [] [] []
  | left {as bs cs : List Action} (a : Action) (rest : Interleaving as bs cs) :
      Interleaving (a :: as) bs (a :: cs)
  | right {as bs cs : List Action} (b : Action) (rest : Interleaving as bs cs) :
      Interleaving as (b :: bs) (b :: cs)

namespace Interleaving

variable {as bs cs : List Action} {a a' b b' : Action}

theorem of_nil_left (order : Interleaving [] bs cs) : cs = bs := by
  generalize nil : ([] : List Action) = as at order
  induction order with
  | nil => rfl
  | left => cases nil
  | right b rest ih => rw [ih nil]

theorem of_nil_right (order : Interleaving as [] cs) : cs = as := by
  generalize nil : ([] : List Action) = bs at order
  induction order with
  | nil => rfl
  | left a rest ih => rw [ih nil]
  | right => cases nil

theorem two_two (order : Interleaving [a, a'] [b, b'] cs) :
    cs = [a, a', b, b'] ∨ cs = [b, b', a, a'] ∨ cs = [a, b, a', b'] ∨ cs = [a, b, b', a'] ∨
      cs = [b, a, a', b'] ∨ cs = [b, a, b', a'] := by
  cases order with
  | left _ rest =>
    cases rest with
    | left _ rest =>
      rw [rest.of_nil_left]
      exact .inl rfl
    | right _ rest =>
      cases rest with
      | left _ rest =>
        rw [rest.of_nil_left]
        exact .inr (.inr (.inl rfl))
      | right _ rest =>
        rw [rest.of_nil_right]
        exact .inr (.inr (.inr (.inl rfl)))
  | right _ rest =>
    cases rest with
    | right _ rest =>
      rw [rest.of_nil_right]
      exact .inr (.inl rfl)
    | left _ rest =>
      cases rest with
      | left _ rest =>
        rw [rest.of_nil_left]
        exact .inr (.inr (.inr (.inr (.inl rfl))))
      | right _ rest =>
        rw [rest.of_nil_right]
        exact .inr (.inr (.inr (.inr (.inr rfl))))

end Interleaving

section Projection

variable {State' : Type*} {step' : State' → Action → State'} {proj : State' → State}
variable {start' : State'}

theorem run_proj (commutes : ∀ t a, proj (step' t a) = step (proj t) a) :
    proj (run step' start' actions) = run step (proj start') actions := by
  induction actions generalizing start' with
  | nil => rfl
  | cons a as ih => rw [run_cons, run_cons, ih, commutes]

theorem along_proj (commutes : ∀ t a, proj (step' t a) = step (proj t) a) :
    Along step' (fun t a => condition (proj t) a) start' actions ↔
      Along step condition (proj start') actions := by
  induction actions generalizing start' with
  | nil => rfl
  | cons a as ih => rw [along_cons, along_cons, ih, commutes]

end Projection

end EmbeddedClient.Runs
