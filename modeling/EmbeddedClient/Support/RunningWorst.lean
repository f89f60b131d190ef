import Mathlib.Tactic

/-!
# A running worst that restarts

A scan keeps the worst element seen so far: the one of least priority and, among these, of the
greatest tie value. Some elements are weak, and a weak element takes the place of the worst one
even if its priority is higher. So the scan starts again at each weak element, and it ends with
the lowest weak element only if nothing that is visited later or just before gets in its way.
-/

namespace EmbeddedClient.RunningWorst

structure Criteria (α κ μ : Type*) where
  priority : α → κ
  tie : α → μ
  weak : α → Bool

/-- The worst element so far, with its priority. -/
structure Worst (α κ : Type*) where
  place : α
  priority : κ

variable {α κ μ : Type*} [LinearOrder κ] [LinearOrder μ] (c : Criteria α κ μ)

def Replaces (a : α) (w : Worst α κ) : Prop :=
  (c.weak a = true ∨ c.priority a ≤ w.priority) ∧
    (c.priority a ≠ w.priority ∨ c.tie w.place < c.tie a)

instance (a : α) (w : Worst α κ) : Decidable (Replaces c a w) :=
  inferInstanceAs (Decidable (_ ∧ _))

def visit (w : Worst α κ) (a : α) : Worst α κ := if Replaces c a w then ⟨a, c.priority a⟩ else w

def scan (w : Worst α κ) (as : List α) : Worst α κ := as.foldl (visit c) w

/-- The order in which the scan looks for the worst element. -/
def key (a : α) : κ ×ₗ μᵒᵈ := toLex (c.priority a, OrderDual.toDual (c.tie a))

structure IsLowest (p : α → Prop) (as : List α) (a : α) : Prop where
  member : a ∈ as
  meets : p a
  least : ∀ b ∈ as, p b → key c a ≤ key c b

/-- An element of the priority of `m` comes before, with a tie value that is not smaller, and
nothing between restores a higher priority or lowers it. -/
def Shadowed (before : List α) (m : α) : Prop :=
  ∃ xs a ys, before = xs ++ a :: ys ∧ c.priority a = c.priority m ∧ c.tie m ≤ c.tie a ∧
    ∀ b ∈ ys, c.priority m ≤ c.priority b ∧ (c.weak b = true → c.priority b = c.priority m)

/-- The scan takes `m` and keeps it. -/
def Kept (as : List α) (m : α) : Prop :=
  ∃ before after, as = before ++ m :: after ∧ ¬ Shadowed c before m ∧
    ∀ b ∈ after, ¬ Replaces c b ⟨m, c.priority m⟩

variable {c} {w : Worst α κ} {as bs : List α} {a b : α}

theorem exists_last {p : α → Bool} {l : List α} (some : ∃ a ∈ l, p a = true) :
    ∃ before k after, l = before ++ k :: after ∧ p k = true ∧ ∀ a ∈ after, p a = false := by
  induction l with
  | nil => simp at some
  | cons a l ih =>
    by_cases later : ∃ b ∈ l, p b = true
    · obtain ⟨before, k, after, split, holds, none⟩ := ih later
      exact ⟨a :: before, k, after, by rw [split]; rfl, holds, none⟩
    · have none : ∀ b ∈ l, p b = false := fun b member => by
        rw [← Bool.not_eq_true]
        exact fun holds => later ⟨b, member, holds⟩
      obtain ⟨b, member, holds⟩ := some
      rcases List.mem_cons.1 member with rfl | inside
      · exact ⟨[], b, l, rfl, holds, none⟩
      · exact absurd ⟨b, inside, holds⟩ later

theorem scan_append : scan c w (as ++ bs) = scan c (scan c w as) bs := List.foldl_append

theorem scan_cons : scan c w (a :: as) = scan c (visit c w a) as := rfl

theorem scan_eq_of_not_replaces (none : ∀ b ∈ as, ¬ Replaces c b w) : scan c w as = w := by
  induction as with
  | nil => rfl
  | cons b as ih =>
    have kept : visit c w b = w := if_neg (none b (.head _))
    rw [scan_cons, kept]
    exact ih fun d later => none d (.tail _ later)

theorem scan_cases (w : Worst α κ) (as : List α) :
    (scan c w as = w ∧ ∀ b ∈ as, ¬ Replaces c b w) ∨
      ∃ before a after, as = before ++ a :: after ∧ Replaces c a (scan c w before) ∧
        scan c w as = ⟨a, c.priority a⟩ ∧ ∀ b ∈ after, ¬ Replaces c b ⟨a, c.priority a⟩ := by
  induction as generalizing w with
  | nil => exact .inl ⟨rfl, by simp⟩
  | cons a as ih =>
    rcases ih (visit c w a) with ⟨kept, none⟩ | ⟨before, b, after, split, replaces, held, none⟩
    · by_cases replaces : Replaces c a w
      · have taken : visit c w a = ⟨a, c.priority a⟩ := if_pos replaces
        rw [taken] at kept none
        refine .inr ⟨[], a, as, rfl, replaces, ?_, none⟩
        rw [scan_cons, taken, kept]
      · have same : visit c w a = w := if_neg replaces
        rw [same] at kept none
        refine .inl ⟨by rw [scan_cons, same, kept], ?_⟩
        intro b member
        rcases List.mem_cons.1 member with rfl | later
        · exact replaces
        · exact none b later
    · exact .inr ⟨a :: before, b, after, by rw [split]; rfl, replaces, held, none⟩

theorem visit_weak (weak : c.weak a = true) :
    (visit c w a).priority = c.priority a ∧ c.tie a ≤ c.tie (visit c w a).place := by
  unfold visit
  split_ifs with replaces
  · exact ⟨rfl, le_rfl⟩
  · have same : c.priority a = w.priority ∧ c.tie a ≤ c.tie w.place := by
      by_contra other
      refine replaces ⟨.inl weak, ?_⟩
      rw [not_and_or, not_le] at other
      exact other
    exact ⟨same.1.symm, same.2⟩

theorem visit_le (le : c.priority a ≤ w.priority) :
    (visit c w a).priority = c.priority a ∧ c.tie a ≤ c.tie (visit c w a).place := by
  unfold visit
  split_ifs with replaces
  · exact ⟨rfl, le_rfl⟩
  · have same : c.priority a = w.priority ∧ c.tie a ≤ c.tie w.place := by
      by_contra other
      refine replaces ⟨.inr le, ?_⟩
      rw [not_and_or, not_le] at other
      exact other
    exact ⟨same.1.symm, same.2⟩

theorem visit_lt (strong : c.weak a = false) (lt : w.priority < c.priority a) :
    visit c w a = w := by
  apply if_neg
  rintro ⟨weak | le, -⟩
  · rw [strong] at weak
    contradiction
  · exact absurd le lt.not_ge

/-- Without weak elements the scan ends below a bound if it starts there or sees an element
below it. -/
theorem scan_lt_iff (strong : ∀ a ∈ as, c.weak a = false) (bound : κ) :
    (scan c w as).priority < bound ↔ w.priority < bound ∨ ∃ a ∈ as, c.priority a < bound := by
  induction as generalizing w with
  | nil => simp [scan]
  | cons a as ih =>
    have rest := @ih (visit c w a) fun b later => strong b (.tail _ later)
    rw [scan_cons, rest]
    rcases le_or_gt (c.priority a) w.priority with le | lt
    · rw [(visit_le le).1]
      have from_start : w.priority < bound → c.priority a < bound := le.trans_lt
      simp only [List.mem_cons, exists_eq_or_imp]
      tauto
    · rw [visit_lt (strong a (.head _)) lt]
      have from_start : c.priority a < bound → w.priority < bound := lt.trans
      simp only [List.mem_cons, exists_eq_or_imp]
      tauto

theorem replaces_iff_of_strong (strong : c.weak a = false) :
    Replaces c a w ↔ key c a < toLex (w.priority, OrderDual.toDual (c.tie w.place)) := by
  unfold Replaces key
  rw [Prod.Lex.toLex_lt_toLex, OrderDual.toDual_lt_toDual, strong]
  constructor
  · rintro ⟨impossible | le, differ⟩
    · contradiction
    · rcases le.lt_or_eq with lt | eq
      · exact .inl lt
      · exact .inr ⟨eq, differ.resolve_left (not_not.2 eq)⟩
  · rintro (lt | ⟨eq, tie⟩)
    · exact ⟨.inr lt.le, .inl lt.ne⟩
    · exact ⟨.inr eq.le, .inr tie⟩

theorem scan_le (strong : ∀ a ∈ as, c.weak a = false) :
    toLex ((scan c w as).priority, OrderDual.toDual (c.tie (scan c w as).place)) ≤
        toLex (w.priority, OrderDual.toDual (c.tie w.place)) ∧
      ∀ a ∈ as, toLex ((scan c w as).priority, OrderDual.toDual (c.tie (scan c w as).place)) ≤
        key c a := by
  induction as generalizing w with
  | nil => exact ⟨le_rfl, by simp⟩
  | cons a as ih =>
    have rest := @ih (visit c w a) fun b later => strong b (.tail _ later)
    have first : toLex ((visit c w a).priority, OrderDual.toDual (c.tie (visit c w a).place)) ≤
          toLex (w.priority, OrderDual.toDual (c.tie w.place)) ∧
        toLex ((visit c w a).priority, OrderDual.toDual (c.tie (visit c w a).place)) ≤ key c a := by
      have less := @replaces_iff_of_strong _ _ _ _ _ c w a (strong a (.head _))
      unfold visit
      split_ifs with replaces
      · exact ⟨(less.1 replaces).le, le_rfl⟩
      · exact ⟨le_rfl, not_lt.1 fun lt => replaces (less.2 lt)⟩
    rw [scan_cons]
    refine ⟨rest.1.trans first.1, ?_⟩
    intro b member
    rcases List.mem_cons.1 member with rfl | later
    · exact rest.1.trans first.2
    · exact rest.2 b later

theorem scan_mem (start : ∀ a ∈ as, c.priority a < w.priority) (nonempty : as ≠ []) :
    ∃ a ∈ as, scan c w as = ⟨a, c.priority a⟩ := by
  rcases @scan_cases _ _ _ _ _ c w as with ⟨-, none⟩ | ⟨before, a, after, split, -, held, -⟩
  · obtain ⟨a, member⟩ := List.exists_mem_of_ne_nil as nonempty
    have below : c.priority a < w.priority := start a member
    have replaced : Replaces c a w := ⟨.inr below.le, .inl below.ne⟩
    exact (none a member replaced).elim
  · exact ⟨a, by simp [split], held⟩

/-- Without weak elements the scan ends with the lowest element. -/
theorem scan_isLowest (start : ∀ a ∈ as, c.priority a < w.priority) (nonempty : as ≠ [])
    (strong : ∀ a ∈ as, c.weak a = false) : IsLowest c (fun _ => True) as (scan c w as).place := by
  obtain ⟨a, member, held⟩ := scan_mem start nonempty
  have least := (@scan_le _ _ _ _ _ c w as strong).2
  rw [held] at least ⊢
  exact ⟨member, trivial, fun b inside _ => least b inside⟩

/-- Every element that is not weak is the first one or follows a weak one. -/
def Alternates (before : List α) : Prop :=
  ∀ xs a ys, before = xs ++ a :: ys → c.weak a = false → xs = [] ∨ ∃ front k, xs = front ++ [k] ∧
    c.weak k = true

theorem scan_of_shadowed {m : α} (start : ∀ a ∈ as, c.priority a < w.priority)
    (lowest : ∀ k ∈ as, c.weak k = true → c.priority m ≤ c.priority k)
    (alternates : Alternates (c := c) as) (shadowed : Shadowed c as m) :
    (scan c w as).priority = c.priority m ∧ c.tie m ≤ c.tie (scan c w as).place := by
  obtain ⟨xs, a, ys, split, same, tie, between⟩ := shadowed
  have reached : (visit c (scan c w xs) a).priority = c.priority m ∧
      c.tie m ≤ c.tie (visit c (scan c w xs) a).place := by
    rw [← same]
    cases weak : c.weak a with
    | true => exact ⟨(visit_weak weak).1, tie.trans (visit_weak weak).2⟩
    | false =>
      have above : c.priority a ≤ (scan c w xs).priority := by
        rcases alternates xs a ys split weak with first | ⟨front, k, last, weakK⟩
        · rw [first]
          exact (start a (by simp [split])).le
        · rw [last, scan_append, same]
          show _ ≤ (visit c _ k).priority
          rw [(visit_weak weakK).1]
          exact lowest k (by simp [split, last]) weakK
      exact ⟨(visit_le above).1, tie.trans (visit_le above).2⟩
  have stays (ys : List α) (w : Worst α κ)
      (held : w.priority = c.priority m ∧ c.tie m ≤ c.tie w.place)
      (between : ∀ b ∈ ys, c.priority m ≤ c.priority b ∧
        (c.weak b = true → c.priority b = c.priority m)) :
      (scan c w ys).priority = c.priority m ∧ c.tie m ≤ c.tie (scan c w ys).place := by
    induction ys generalizing w with
    | nil => exact held
    | cons b ys ih =>
      refine ih _ ?_ fun d later => between d (.tail _ later)
      obtain ⟨le, weakSame⟩ := between b (.head _)
      unfold visit
      split_ifs with replaces
      · have equal : c.priority b = c.priority m := by
          rcases replaces.1 with weak | below
          · exact weakSame weak
          · rw [held.1] at below
            exact le_antisymm below le
        refine ⟨equal, ?_⟩
        rcases replaces.2 with differ | higher
        · rw [held.1] at differ
          exact absurd equal differ
        · exact held.2.trans higher.le
      · exact held
  rw [split, scan_append, scan_cons]
  exact stays ys _ reached between

/-- The scan ends with the lowest weak element exactly if it takes it and keeps it. -/
theorem scan_eq_iff_kept {m : α} (lowest : IsLowest c (fun a => c.weak a = true) as m)
    (start : ∀ a ∈ as, c.priority a < w.priority)
    (alternates : ∀ before after, as = before ++ m :: after → Alternates (c := c) before) :
    scan c w as = ⟨m, c.priority m⟩ ↔ Kept c as m := by
  have least (k : α) (member : k ∈ as) (weak : c.weak k = true) : c.priority m ≤ c.priority k := by
    rcases Prod.Lex.toLex_le_toLex.1 (lowest.least k member weak) with lt | ⟨eq, -⟩
    · exact lt.le
    · exact eq.le
  constructor
  · intro held
    rcases @scan_cases _ _ _ _ _ c w as with
      ⟨-, none⟩ | ⟨before, a, after, split, replaces, held', none⟩
    · have replaced : Replaces c m w := ⟨.inl lowest.meets, .inl (start m lowest.member).ne⟩
      exact (none m lowest.member replaced).elim
    · have same : a = m := by
        rw [held'] at held
        exact congrArg Worst.place held
      subst same
      refine ⟨before, after, split, ?_, none⟩
      intro shadowed
      have inside : ∀ k ∈ before, k ∈ as := fun k member => by simp [split, member]
      have state := scan_of_shadowed (fun k member => start k (inside k member))
        (fun k member => least k (inside k member)) (alternates before after split) shadowed
      rcases replaces.2 with differ | higher
      · exact differ state.1.symm
      · exact absurd state.2 higher.not_ge
  · rintro ⟨before, after, split, notShadowed, none⟩
    have replaces : Replaces c m (scan c w before) := by
      by_contra passed
      have state :
          c.priority m = (scan c w before).priority ∧ c.tie m ≤ c.tie (scan c w before).place := by
        by_contra other
        rw [not_and_or, not_le] at other
        exact passed ⟨.inl lowest.meets, other⟩
      rcases @scan_cases _ _ _ _ _ c w before with ⟨kept, -⟩ | ⟨xs, a, ys, splitB, -, held, later⟩
      · rw [kept] at state
        exact absurd state.1 (start m lowest.member).ne
      · rw [held] at state
        refine notShadowed ⟨xs, a, ys, splitB, state.1.symm, state.2, ?_⟩
        intro b member
        have passedB := later b member
        unfold Replaces at passedB
        rw [not_and_or, not_or, not_or, not_not] at passedB
        rw [state.1]
        rcases passedB with ⟨strong, above⟩ | ⟨equal, -⟩
        · exact ⟨(not_le.1 above).le, fun weak => absurd weak strong⟩
        · exact ⟨equal.ge, fun _ => equal⟩
    have taken : visit c (scan c w before) m = ⟨m, c.priority m⟩ := if_pos replaces
    rw [split, scan_append, scan_cons, taken]
    exact scan_eq_of_not_replaces none

end EmbeddedClient.RunningWorst
