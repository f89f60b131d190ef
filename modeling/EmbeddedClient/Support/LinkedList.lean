import Mathlib.Logic.Function.Basic
import Mathlib.Tactic

/-!
# Linked lists in memory

A memory gives each node the pointer to the next one. The nodes that are visited from a pointer on
until a null pointer form a list without repetitions. Appending a node writes two pointers.
-/

namespace EmbeddedClient.LinkedList

variable {α : Type*} (next : α → Option α)

/-- From the pointer on, the nodes of the list are visited, and then the null pointer is met. -/
inductive Chain : Option α → List α → Prop
  | nil : Chain none []
  | cons {p l} : Chain (next p) l → Chain (some p) (p :: l)

variable {next} {next' : α → Option α} {q : Option α} {p : α} {l : List α}

namespace Chain

theorem unique {l' : List α} (chain : Chain next q l) (chain' : Chain next q l') : l = l' := by
  induction chain generalizing l' with
  | nil =>
    cases chain'
    rfl
  | cons _ ih =>
    cases chain' with
    | cons rest => rw [ih rest]

theorem suffix (chain : Chain next q l) (member : p ∈ l) :
    ∃ l', Chain next (some p) l' ∧ l'.IsSuffix l := by
  induction chain with
  | nil => exact absurd member List.not_mem_nil
  | @cons p' l rest ih =>
    rcases List.mem_cons.1 member with rfl | inside
    · exact ⟨p :: l, .cons rest, List.suffix_refl _⟩
    · obtain ⟨l', from_p, ends⟩ := ih inside
      exact ⟨l', from_p, ends.trans (List.suffix_cons p' l)⟩

/-- A chain visits no node twice: what is visited from a node on is determined by it. -/
theorem nodup (chain : Chain next q l) : l.Nodup := by
  induction chain with
  | nil => exact .nil
  | @cons p l rest ih =>
    refine List.nodup_cons.2 ⟨fun again => ?_, ih⟩
    obtain ⟨l', from_p, ends⟩ := rest.suffix again
    have same := from_p.unique (.cons rest)
    have length := ends.length_le
    rw [same, List.length_cons] at length
    omega

theorem eq_none_iff (chain : Chain next q l) : q = none ↔ l = [] := by
  cases chain with
  | nil => exact iff_of_true rfl rfl
  | cons rest => exact iff_of_false (Option.some_ne_none _) (List.cons_ne_nil _ _)

variable [DecidableEq α]

/-- Append a node: the last one points to it, and it to nothing. -/
theorem append (chain : Chain next q l) (nonempty : l ≠ []) {new : α} (fresh : new ∉ l) :
    Chain (Function.update (Function.update next (l.getLast nonempty) (some new)) new none) q
      (l ++ [new]) := by
  have distinct := chain.nodup
  induction chain with
  | nil => exact absurd rfl nonempty
  | @cons p l rest ih =>
    have other : p ≠ new := fun same => fresh (same ▸ .head _)
    apply Chain.cons
    rw [Function.update_of_ne other]
    cases l with
    | nil =>
      rw [List.getLast_singleton, Function.update_self]
      apply Chain.cons
      rw [Function.update_self]
      exact .nil
    | cons p' l =>
      have notLast : p ≠ (p' :: l).getLast (List.cons_ne_nil p' l) := fun same =>
        (List.nodup_cons.1 distinct).1 (same ▸ List.getLast_mem _)
      rw [List.getLast_cons (List.cons_ne_nil p' l), Function.update_of_ne notLast]
      exact ih (List.cons_ne_nil p' l) (fun member => fresh (.tail _ member)) distinct.of_cons

end Chain

theorem chain_singleton [DecidableEq α] (next : α → Option α) (p : α) :
    Chain (Function.update next p none) (some p) [p] := by
  apply Chain.cons
  rw [Function.update_self]
  exact .nil

end EmbeddedClient.LinkedList
