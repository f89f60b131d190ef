import Mathlib.Tactic

/-!
# A loop that tries again

A round ends the loop with a result, or leaves a state to try again from. When the rounds lower a
potential, except some that fill it up, the loop tries again only so often between two of these.
-/

namespace EmbeddedClient.Retry

/-- How a round ends. -/
inductive Outcome (State Result : Type*)
  | done (result : Result)
  | again (state : State)

variable {State Input Result : Type*} (round : State → Input → Outcome State Result)

def Outcome.state : Outcome State Result → Option State
  | done _ => none
  | again s => some s

/-- The loop, with the inputs of the rounds it may take. -/
def loop : State → List Input → Outcome State Result
  | s, [] => .again s
  | s, i :: is =>
    match round s i with
    | .done result => .done result
    | .again s' => loop s' is

def count (fills : State → State → Bool) : State → List Input → ℕ
  | _, [] => 0
  | s, i :: is =>
    match round s i with
    | .done _ => 0
    | .again s' => (fills s s').toNat + count fills s' is

variable {round} {s s' : State} {i : Input} {is : List Input} {result : Result}

theorem loop_cons_done (ends : round s i = .done result) :
    loop round s (i :: is) = .done result := by
  simp only [loop, ends]

theorem loop_cons_again (goesOn : round s i = .again s') :
    loop round s (i :: is) = loop round s' is := by
  simp only [loop, goesOn]

end EmbeddedClient.Retry
