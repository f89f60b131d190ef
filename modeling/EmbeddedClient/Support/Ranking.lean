import Mathlib.Data.List.Sort
import Mathlib.Tactic

/-!
# Keeping the best

Elements arrive one by one. Each is inserted into an ordered list, in front of the
first element whose key is not smaller, and the list is cut off after `k` elements.
What is kept are the first `k` of all that arrived, ordered by key and, among equal
keys, latest first.
-/

namespace EmbeddedClient.Ranking

variable {α κ : Type*} [LinearOrder κ] (key : α → κ)

/-- Insert `a` in front of the first element whose key is not smaller. -/
def insertByKey (a : α) (l : List α) : List α := l.orderedInsert (fun x y => key x ≤ key y) a

/-- The elements of `as`, each with its place in it, smallest key first and, among equal
keys, latest first. -/
structure IsRanking (as : List α) (ranked : List (α × ℕ)) : Prop where
  perm : ranked.Perm as.zipIdx
  sorted : ranked.Pairwise fun x y => key x.1 < key y.1 ∨ (key x.1 = key y.1 ∧ y.2 < x.2)

variable {key}

theorem isRanking_nil : IsRanking key [] [] := ⟨.refl _, .nil⟩

theorem insertByKey_of_le (key : α → κ) {a b : α} (le : key a ≤ key b) (l : List α) :
    insertByKey key a (b :: l) = a :: b :: l := List.orderedInsert_cons_of_le _ l le

theorem insertByKey_of_lt (key : α → κ) {a b : α} (lt : key b < key a) (l : List α) :
    insertByKey key a (b :: l) = b :: insertByKey key a l :=
  List.orderedInsert_of_not_le _ l (not_le.2 lt)

theorem length_insertByKey (a : α) (l : List α) : (insertByKey key a l).length = l.length + 1 :=
  List.orderedInsert_length ..

theorem mem_insertByKey {a b : α} {l : List α} : b ∈ insertByKey key a l ↔ b = a ∨ b ∈ l :=
  List.mem_orderedInsert _

theorem take_insertByKey_take (k : ℕ) (a : α) (l : List α) :
    (insertByKey key a (l.take k)).take k = (insertByKey key a l).take k := by
  induction l generalizing k with
  | nil => simp
  | cons b l ih =>
    cases k with
    | zero => rfl
    | succ k =>
      rw [List.take_succ_cons]
      rcases le_or_gt (key a) (key b) with first | later
      · rw [insertByKey_of_le key first, insertByKey_of_le key first, List.take_succ_cons,
          List.take_succ_cons]
        cases k with
        | zero => rfl
        | succ k => simp [List.take_take]
      · rw [insertByKey_of_lt key later, insertByKey_of_lt key later, List.take_succ_cons,
          List.take_succ_cons, ih]

theorem map_fst_insertByKey (x : α × ℕ) (ranked : List (α × ℕ)) :
    (insertByKey (fun y : α × ℕ => key y.1) x ranked).map Prod.fst =
      insertByKey key x.1 (ranked.map Prod.fst) :=
  List.map_orderedInsert _ _ Prod.fst ranked x (fun _ _ => Iff.rfl) fun _ _ => Iff.rfl

/-- A new element goes in front of what it ties with. -/
theorem IsRanking.insert {as : List α} {ranked : List (α × ℕ)} (ranking : IsRanking key as ranked)
    (a : α) :
    IsRanking key (as ++ [a])
    (Ranking.insertByKey (fun y : α × ℕ => key y.1) (a, as.length) ranked) := by
  constructor
  · apply (List.perm_orderedInsert _ _ _).trans
    rw [List.zipIdx_append]
    simpa using (ranking.perm.cons (a, as.length)).trans (List.perm_append_singleton _ _).symm
  · have earlier : ∀ y ∈ ranked, y.2 < as.length := by
      intro y member
      have place := List.snd_lt_of_mem_zipIdx (ranking.perm.mem_iff.1 member)
      simpa using place
    have sorted := ranking.sorted
    clear ranking
    induction ranked with
    | nil => simp [insertByKey]
    | cons y ranked ih =>
      obtain ⟨first, rest⟩ := List.pairwise_cons.1 sorted
      rcases le_or_gt (key a) (key y.1) with before | behind
      · rw [insertByKey_of_le (fun y : α × ℕ => key y.1) before]
        refine List.pairwise_cons.2 ⟨?_, sorted⟩
        have ahead : ∀ z ∈ y :: ranked, key a ≤ key z.1 := by
          intro z member
          rcases List.mem_cons.1 member with rfl | member
          · exact before
          · rcases first z member with less | ⟨equal, -⟩
            · exact before.trans less.le
            · exact before.trans equal.le
        intro z member
        exact (ahead z member).lt_or_eq.imp_right fun equal => ⟨equal, earlier z member⟩
      · rw [insertByKey_of_lt (fun y : α × ℕ => key y.1) behind]
        refine List.pairwise_cons.2
          ⟨?_, ih (fun z member => earlier z (List.mem_cons_of_mem _ member)) rest⟩
        intro z member
        rcases mem_insertByKey.1 member with rfl | member
        · exact .inl behind
        · exact first z member

theorem pairwise_insertByKey {l : List α}
    (sorted : l.Pairwise fun a b => key a ≤ key b) (a : α) :
    (insertByKey key a l).Pairwise fun a b => key a ≤ key b := by
  have : IsTrans α fun x y => key x ≤ key y := ⟨fun _ _ _ => le_trans⟩
  have : Std.Total fun x y => key x ≤ key y := ⟨fun x y => le_total (key x) (key y)⟩
  exact List.Pairwise.orderedInsert a l sorted

theorem IsRanking.mem_iff {as : List α} {ranked : List (α × ℕ)} (ranking : IsRanking key as ranked)
    (a : α) : a ∈ ranked.map Prod.fst ↔ a ∈ as := by
  have perm := ranking.perm.map Prod.fst
  rw [List.zipIdx_map_fst] at perm
  exact perm.mem_iff

theorem take_insertByKey_kept (k : ℕ) (a : α) (ranked : List (α × ℕ)) (n : ℕ) :
    (insertByKey key a ((ranked.map Prod.fst).take k)).take k =
      ((insertByKey (fun y : α × ℕ => key y.1) (a, n) ranked).map Prod.fst).take k := by
  rw [take_insertByKey_take, map_fst_insertByKey]

theorem IsRanking.take_le_drop {as : List α} {ranked : List (α × ℕ)}
    (ranking : IsRanking key as ranked) (k : ℕ) {a b : α} (front : a ∈ (ranked.map Prod.fst).take k)
    (behind : b ∈ (ranked.map Prod.fst).drop k) : key a ≤ key b := by
  rw [← List.map_take] at front
  rw [← List.map_drop] at behind
  obtain ⟨x, memberX, rfl⟩ := List.mem_map.1 front
  obtain ⟨y, memberY, rfl⟩ := List.mem_map.1 behind
  have sorted := ranking.sorted
  rw [← List.take_append_drop k ranked] at sorted
  rcases (List.pairwise_append.1 sorted).2.2 x memberX y memberY with less | ⟨equal, -⟩
  · exact less.le
  · exact equal.le

end EmbeddedClient.Ranking
