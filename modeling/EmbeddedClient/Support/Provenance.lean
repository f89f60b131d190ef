import EmbeddedClient.Support.Runs

/-!
# Where items come from

A system holds items in places. An action puts new items into places, and lets a place take over the
items of others. When every action accounts for what the places hold after it, an item that is in a
place at the end of a run was put into the first place of a chain that ends there.
-/

namespace EmbeddedClient.Provenance

open Runs

variable {State Action Place Item : Type*}

/-- What an action puts into a place, and whose items a place has after it. -/
structure Flow (Place Item : Type*) where
  puts : Place → Item → Prop
  takes : Place → Place → Prop

def Flow.Explains (f : Flow Place Item) (before after : Place → Item → Prop) : Prop :=
  ∀ p x, after p x → f.puts p x ∨ ∃ q, f.takes p q ∧ before q x

variable (step : State → Action → State) (flow : State → Action → Flow Place Item)

/-- The items of the first place get to the last one along the actions. -/
def Carried : State → List Action → Place → Place → Prop
  | _, [], p, q => p = q
  | s, a :: as, p, q => ∃ next, (flow s a).takes next p ∧ Carried (step s a) as next q

/-- Every action accounts for its effect on what the places hold. -/
def Explained (holds : State → Place → Item → Prop) (s : State) (a : Action) : Prop :=
  (flow s a).Explains (holds s) (holds (step s a))

variable {step flow} {holds : State → Place → Item → Prop} {start : State} {actions : List Action}
variable {p q : Place} {x : Item}

theorem carried_or_put (explained : Along step (Explained step flow holds) start actions)
    (held : holds (run step start actions) q x) :
    (∃ p, holds start p x ∧ Carried step flow start actions p q) ∨
      ∃ before a after p, actions = before ++ a :: after ∧
        (flow (run step start before) a).puts p x ∧
        Carried step flow (step (run step start before) a) after p q := by
  induction actions generalizing start with
  | nil => exact .inl ⟨q, held, rfl⟩
  | cons a as ih =>
    rcases ih explained.2 held with
      ⟨next, here, carried⟩ | ⟨before, b, after, p, split, puts, carried⟩
    · rcases explained.1 next x here with puts | ⟨p, takes, earlier⟩
      · exact .inr ⟨[], a, as, next, rfl, puts, carried⟩
      · exact .inl ⟨p, earlier, next, takes, carried⟩
    · exact .inr ⟨a :: before, b, after, p, by rw [split, List.cons_append], puts, carried⟩

/-- Provenance rule: every item at the end of a run was put somewhere by an action of the run, and
has been carried from there. -/
theorem exists_put (empty : ∀ p x, ¬ holds start p x)
    (explained : Along step (Explained step flow holds) start actions)
    (held : holds (run step start actions) q x) :
    ∃ before a after p, actions = before ++ a :: after ∧ (flow (run step start before) a).puts p x ∧
      Carried step flow (step (run step start before) a) after p q := by
  rcases carried_or_put explained held with ⟨p, initial, -⟩ | put
  · exact absurd initial (empty p x)
  · exact put

theorem Carried.stays (own : Along step (fun s a => ∀ p, (flow s a).takes q p →
    p = q) start actions)
    (carried : Carried step flow start actions p q) :
    p = q ∧ Along step (fun s a => (flow s a).takes q q) start actions := by
  induction actions generalizing start p with
  | nil => exact ⟨carried, trivial⟩
  | cons a as ih =>
    obtain ⟨next, takes, rest⟩ := carried
    obtain ⟨here, kept⟩ := ih own.2 rest
    subst here
    have same := own.1 p takes
    subst same
    exact ⟨rfl, takes, kept⟩

end EmbeddedClient.Provenance
