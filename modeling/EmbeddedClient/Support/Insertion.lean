import Mathlib.Data.List.Sort
import Mathlib.Tactic

/-!
# Insertion by a comparison that favours the newcomer

Elements are inserted one by one, each in front of the first element that it goes before. The
result does not depend on the order of arrival if going before is comparing keys, and it does
depend on it if two elements go before each other.
-/

namespace EmbeddedClient.Insertion

variable {α κ : Type*} [LinearOrder κ] (first : α → α → Prop) [DecidableRel first]

def insertAll (as : List α) : List α := as.foldl (fun l a => l.orderedInsert first a) []

variable {first} {as : List α} {key : α → κ}

theorem insertAll_append_singleton (as : List α) (a : α) :
    insertAll first (as ++ [a]) = (insertAll first as).orderedInsert first a := by
  rw [insertAll, List.foldl_append]
  rfl

theorem insertAll_perm (as : List α) : (insertAll first as).Perm as := by
  induction as using List.reverseRecOn with
  | nil => exact .refl _
  | append_singleton as a ih =>
    rw [insertAll_append_singleton]
    exact (List.perm_orderedInsert ..).trans
      ((ih.cons a).trans (List.perm_append_singleton ..).symm)

theorem orderedInsert_congr {r : α → α → Prop} [DecidableRel r] {a : α} {l : List α}
    (same : ∀ b ∈ l, first a b ↔ r a b) : l.orderedInsert first a = l.orderedInsert r a := by
  induction l with
  | nil => rfl
  | cons b l ih =>
    have rest := ih fun c member => same c (.tail _ member)
    rw [List.orderedInsert_cons, List.orderedInsert_cons, rest]
    exact if_congr (same b (.head _)) rfl rfl

theorem insertAll_sorted (keys : as.Pairwise fun b a => first a b ↔ key a ≤ key b) :
    (insertAll first as).Pairwise fun a b => key a ≤ key b := by
  have : IsTrans α fun a b => key a ≤ key b := ⟨fun _ _ _ => le_trans⟩
  have : Std.Total fun a b => key a ≤ key b := ⟨fun a b => le_total (key a) (key b)⟩
  induction as using List.reverseRecOn with
  | nil => exact .nil
  | append_singleton as a ih =>
    obtain ⟨front, -, last⟩ := List.pairwise_append.1 keys
    have same : ∀ b ∈ insertAll first as, first a b ↔ key a ≤ key b := fun b member =>
      last b ((insertAll_perm as).mem_iff.1 member) a (.head _)
    have inserted : (insertAll first as).orderedInsert first a =
        (insertAll first as).orderedInsert (fun a b => key a ≤ key b) a := orderedInsert_congr same
    rw [insertAll_append_singleton, inserted]
    exact List.Pairwise.orderedInsert a _ (ih front)

/-- The order of arrival makes no difference where the comparison is one of distinct keys. -/
theorem insertAll_eq_of_perm {bs : List α}
    (keys : ∀ a ∈ as, ∀ b ∈ as, a ≠ b → (first a b ↔ key a ≤ key b))
    (injective : ∀ a ∈ as, ∀ b ∈ as, key a = key b → a = b) (distinct : as.Nodup)
    (perm : bs.Perm as) :
    insertAll first bs = insertAll first as := by
  have sorted {cs : List α} (perm : cs.Perm as) :
      (insertAll first cs).Pairwise fun a b => key a ≤ key b := by
    apply insertAll_sorted
    have nodup : cs.Pairwise fun b a => b ≠ a := perm.nodup_iff.2 distinct
    refine List.Pairwise.imp_of_mem ?_ nodup
    intro b a memberB memberA differ
    exact keys a (perm.mem_iff.1 memberA) b (perm.mem_iff.1 memberB) differ.symm
  have inside {cs : List α} (perm : cs.Perm as) {a : α}
      (member : a ∈ insertAll first cs) : a ∈ as :=
    perm.mem_iff.1 ((insertAll_perm cs).mem_iff.1 member)
  refine List.Perm.eq_of_pairwise ?_ (sorted perm) (sorted (.refl as)) ?_
  · intro a b memberA memberB le ge
    exact injective a (inside perm memberA) b (inside (.refl as) memberB) (le_antisymm le ge)
  · exact (insertAll_perm bs).trans (perm.trans (insertAll_perm as).symm)

variable [DecidableEq α]

theorem idxOf_orderedInsert_lt {a b : α} {l : List α} (goes : first a b) (member : b ∈ l)
    (fresh : a ∉ l) :
    (l.orderedInsert first a).idxOf a < (l.orderedInsert first a).idxOf b := by
  have differ : a ≠ b := fun same => fresh (same ▸ member)
  induction l with
  | nil => simp at member
  | cons c l ih =>
    rw [List.orderedInsert_cons]
    split_ifs with before
    · rw [List.idxOf_cons_self, List.idxOf_cons_ne _ differ]
      omega
    · have notB : c ≠ b := fun same => before (same ▸ goes)
      have notA : c ≠ a := fun same => fresh (same ▸ .head _)
      have later : b ∈ l := (List.mem_cons.1 member).resolve_left notB.symm
      rw [List.idxOf_cons_ne _ notA, List.idxOf_cons_ne _ notB]
      have rest := ih later fun inside => fresh (.tail _ inside)
      omega

/-- Two elements that go before each other end in the order of arrival, the last one first. -/
theorem insertAll_ne_of_mutual {a b : α} (goesA : first a b) (goesB : first b a)
    (distinct : (as ++ [a, b]).Nodup) :
    insertAll first (as ++ [a, b]) ≠ insertAll first (as ++ [b, a]) := by
  have last {a b : α} (goes : first a b) (distinct : (as ++ [b, a]).Nodup) :
      (insertAll first (as ++ [b, a])).idxOf a < (insertAll first (as ++ [b, a])).idxOf b := by
    have split : as ++ [b, a] = (as ++ [b]) ++ [a] := by simp
    have apart := List.nodup_append.1 (split ▸ distinct)
    rw [split, insertAll_append_singleton]
    apply idxOf_orderedInsert_lt goes
    · exact (insertAll_perm _).mem_iff.2 (by simp)
    · intro member
      exact apart.2.2 a ((insertAll_perm _).mem_iff.1 member) a (.head _) rfl
  have swapped : (as ++ [b, a]).Nodup :=
    ((List.Perm.swap b a []).append_left as).nodup_iff.1 distinct
  intro same
  have lt := last goesA swapped
  have gt := last goesB distinct
  rw [same] at gt
  omega

theorem exists_perm_append_pair {a b : α} (memberA : a ∈ as) (memberB : b ∈ as) (differ : a ≠ b) :
    ∃ rest, (rest ++ [a, b]).Perm as := by
  have inside : b ∈ as.erase a := (List.mem_erase_of_ne differ.symm).2 memberB
  refine ⟨(as.erase a).erase b, ?_⟩
  apply List.perm_append_comm.trans
  exact ((List.perm_cons_erase inside).symm.cons a).trans (List.perm_cons_erase memberA).symm

end EmbeddedClient.Insertion
