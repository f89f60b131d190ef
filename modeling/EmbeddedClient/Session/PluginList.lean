import EmbeddedClient.Session.Dispatch
import EmbeddedClient.Support.LinkedList

/-!
# The plugin list stays a list

From an empty root on, every call of `sky_plugin_add` leaves a finite list without repetitions,
whatever the tables held before. The dispatch loops walk it to its end, as the model's dispatch over
a list of plugins does.
-/

namespace EmbeddedClient

open LinkedList

variable {α : Type*}

def PluginMemory.next (m : PluginMemory α) (p : α) : Option α := (m.table p).next

/-- The chain from the root on has these tables, and they are not corrupt. -/
structure PluginMemory.Lists (m : PluginMemory α) (l : List α) : Prop where
  chain : Chain m.next m.root l
  magic : ∀ p ∈ l, (m.table p).magic = SKY_MAGIC

/-- A call with a table that is not corrupt, and with the root. -/
def PluginMemory.accepts (m : PluginMemory α) (args : PluginAdd α) : Bool :=
  args.root && args.table.any fun t => (m.table t).magic = SKY_MAGIC

/-- The tables of the calls that succeeded. -/
def succeeded (calls : List (PluginAdd α)) (statuses : List SkyStatus) : List α :=
  (calls.zip statuses).filterMap fun call => if call.2 = .success then call.1.table else none

section Dispatch

variable {σ : Type*} {m : PluginMemory α} {q : Option α} {l : List α}

/-- A dispatch loop ends, and it calls the entry points of the list. -/
theorem dispatch_eq (chain : Chain m.next q l) (entry : α → Option (σ → SkyStatus × σ)) {fuel : ℕ}
    (enough : l.length < fuel) (s : σ) :
    dispatch entry m fuel q s = some (dispatchList entry l s) := by
  induction chain generalizing fuel s with
  | nil =>
    cases fuel with
    | zero => simp at enough
    | succ fuel => rfl
  | @cons p l rest ih =>
    cases fuel with
    | zero => simp at enough
    | succ fuel =>
      have behind (s : σ) := @ih fuel (by simpa using enough) s
      unfold dispatch dispatchList
      dsimp only
      split_ifs
      · rfl
      · exact behind _

end Dispatch

theorem PluginMemory.accepts_iff (m : PluginMemory α) (args : PluginAdd α) :
    m.accepts args = true ↔ args.root = true ∧ ∃ t, args.table = some t ∧ (m.table t).magic =
      SKY_MAGIC := by
  unfold PluginMemory.accepts
  cases args.table <;> simp [-SKY_MAGIC]

theorem PluginMemory.accepts_congr {m m' : PluginMemory α}
    (same : ∀ p, (m'.table p).magic = (m.table p).magic) (args : PluginAdd α) :
    m'.accepts args = m.accepts args := by
  rw [Bool.eq_iff_iff, PluginMemory.accepts_iff, PluginMemory.accepts_iff]
  simp only [same]

theorem memory_of_returned {m m' : PluginMemory α} {status status' : SkyStatus}
    (returned : some (status, m) = some (status', m')) : m' = m := by
  rw [Option.some_inj, Prod.mk.injEq] at returned
  exact returned.2.symm

section Add

variable [DecidableEq α] {m m' : PluginMemory α} {t : α} {q : Option α} {l : List α} {fuel : ℕ}

theorem PluginMemory.setNext_table (m : PluginMemory α) (p : α) (q : Option α) :
    (m.setNext p q).table = Function.update m.table p ⟨q, (m.table p).magic⟩ := rfl

theorem PluginMemory.setNext_next (m : PluginMemory α) (p : α) (q : Option α) :
    (m.setNext p q).next = Function.update m.next p q := by
  funext p'
  unfold PluginMemory.next
  rw [PluginMemory.setNext_table]
  by_cases same : p' = p
  · rw [same, Function.update_self, Function.update_self]
  · rw [Function.update_of_ne same, Function.update_of_ne same]

theorem PluginMemory.setNext_magic (m : PluginMemory α) (p : α) (q : Option α) (p' : α) :
    ((m.setNext p q).table p').magic = (m.table p').magic := by
  rw [PluginMemory.setNext_table]
  by_cases same : p' = p
  · rw [same, Function.update_self]
  · rw [Function.update_of_ne same]

theorem skyPluginAddLoop_of_mem (chain : Chain m.next q l)
    (magic : ∀ p ∈ l, (m.table p).magic = SKY_MAGIC) (member : t ∈ l) (enough : l.length ≤ fuel) :
    skyPluginAddLoop m t fuel q = some (.success, m) := by
  induction chain generalizing fuel with
  | nil => exact absurd member List.not_mem_nil
  | @cons p l rest ih =>
    cases fuel with
    | zero => simp at enough
    | succ fuel =>
      unfold skyPluginAddLoop
      rw [if_neg (by simp [magic p (.head _)])]
      by_cases same : p = t
      · rw [if_pos same]
      · have inside : t ∈ l := (List.mem_cons.1 member).resolve_left (Ne.symm same)
        have more : (m.table p).next ≠ none := fun null =>
          List.ne_nil_of_mem inside (rest.eq_none_iff.1 null)
        rw [if_neg same, if_neg more]
        exact ih (fun p' inside => magic p' (.tail _ inside)) inside (by simpa using enough)

theorem skyPluginAddLoop_of_fresh (chain : Chain m.next q l)
    (magic : ∀ p ∈ l, (m.table p).magic = SKY_MAGIC) (nonempty : l ≠ []) (fresh : t ∉ l)
    (enough : l.length ≤ fuel) :
    skyPluginAddLoop m t fuel q =
      some (.success, (m.setNext (l.getLast nonempty) (some t)).setNext t none) := by
  induction chain generalizing fuel with
  | nil => exact absurd rfl nonempty
  | @cons p l rest ih =>
    cases fuel with
    | zero => simp at enough
    | succ fuel =>
      have other : p ≠ t := fun same => fresh (same ▸ .head _)
      unfold skyPluginAddLoop
      rw [if_neg (by simp [magic p (.head _)]), if_neg other]
      have last : (m.table p).next = none ↔ l = [] := rest.eq_none_iff
      cases l with
      | nil =>
        rw [if_pos (last.2 rfl)]
        rfl
      | cons p' l =>
        rw [if_neg (fun null => List.cons_ne_nil p' l (last.1 null)), List.getLast_cons
          (List.cons_ne_nil p' l)]
        exact ih (fun p inside => magic p (.tail _ inside)) (List.cons_ne_nil p' l)
          (fun member => fresh (.tail _ member)) (by simpa using enough)

theorem skyPluginAddLoop_error (failed : skyPluginAddLoop m t fuel q = some (.error, m')) :
    m' = m := by
  induction fuel generalizing q with
  | zero => cases failed
  | succ fuel ih =>
    cases q with
    | none => exact memory_of_returned failed
    | some p =>
      unfold skyPluginAddLoop at failed
      split_ifs at failed
      · exact memory_of_returned failed
      · simp at failed
      · simp at failed
      · exact ih failed

theorem skyPluginAdd_error {args : PluginAdd α}
    (failed : skyPluginAdd fuel m args = some (.error, m')) :
    m' = m := by
  unfold skyPluginAdd at failed
  cases table : args.table with
  | none =>
    rw [table] at failed
    exact memory_of_returned failed
  | some t =>
    rw [table] at failed
    dsimp only at failed
    split_ifs at failed
    · exact memory_of_returned failed
    · simp at failed
    · exact skyPluginAddLoop_error failed

theorem skyPluginAdd_rejected {args : PluginAdd α} (rejected : m.accepts args = false) :
    skyPluginAdd fuel m args = some (.error, m) := by
  unfold skyPluginAdd
  cases table : args.table with
  | none => rfl
  | some t =>
    have bad : (m.table t).magic ≠ SKY_MAGIC ∨ args.root = false := by
      by_contra good
      rw [not_or, not_not, Bool.not_eq_false] at good
      rw [(m.accepts_iff args).2 ⟨good.2, t, table, good.1⟩] at rejected
      contradiction
    exact if_pos bad

/-- An accepted call with a table of the list changes nothing, and one with another table appends
it. -/
theorem skyPluginAdd_accepted (lists : m.Lists l) (args : PluginAdd α) (root : args.root = true)
    (table : args.table = some t) (magic : (m.table t).magic = SKY_MAGIC)
    (enough : l.length ≤ fuel) :
    (t ∈ l ∧ skyPluginAdd fuel m args = some (.success, m)) ∨
      (t ∉ l ∧ ∃ m', skyPluginAdd fuel m args = some (.success, m') ∧ m'.Lists (l ++ [t]) ∧
        ∀ p, (m'.table p).magic = (m.table p).magic) := by
  have started : skyPluginAdd fuel m args = if m.root = none then
      some (.success, { m with root := some t }.setNext t none)
        else skyPluginAddLoop m t fuel m.root := by
    unfold skyPluginAdd
    rw [table]
    exact if_neg (by simp [magic, root])
  by_cases member : t ∈ l
  · left
    have more : m.root ≠ none :=
      fun null => List.ne_nil_of_mem member (lists.chain.eq_none_iff.1 null)
    refine ⟨member, ?_⟩
    rw [started, if_neg more]
    exact skyPluginAddLoop_of_mem lists.chain lists.magic member enough
  · right
    refine ⟨member, ?_⟩
    have corrupt : ∀ p ∈ l ++ [t], (m.table p).magic = SKY_MAGIC := by
      intro p inside
      rcases List.mem_append.1 inside with old | new
      · exact lists.magic p old
      · rw [List.mem_singleton.1 new]
        exact magic
    cases l with
    | nil =>
      have null : m.root = none := lists.chain.eq_none_iff.2 rfl
      refine ⟨_, started.trans (if_pos null), ⟨?_, fun p inside => ?_⟩, fun p => ?_⟩
      · rw [PluginMemory.setNext_next]
        exact chain_singleton m.next t
      · rw [PluginMemory.setNext_magic]
        exact corrupt p inside
      · exact PluginMemory.setNext_magic ..
    | cons first l =>
      have more : m.root ≠ none :=
        fun null => List.cons_ne_nil first l (lists.chain.eq_none_iff.1 null)
      have appended :=
        skyPluginAddLoop_of_fresh lists.chain lists.magic (List.cons_ne_nil first l) member enough
      refine ⟨_, started.trans ((if_neg more).trans appended), ⟨?_, fun p inside => ?_⟩,
        fun p => ?_⟩
      · rw [PluginMemory.setNext_next, PluginMemory.setNext_next]
        exact lists.chain.append (List.cons_ne_nil first l) member
      · rw [PluginMemory.setNext_magic, PluginMemory.setNext_magic]
        exact corrupt p inside
      · rw [PluginMemory.setNext_magic, PluginMemory.setNext_magic]

/-- The finite list that the calls have made, in the order in which its tables were first added. -/
structure PluginMemory.KeepsList (m : PluginMemory α) (l : List α) : Prop where
  chain : Chain m.next m.root l
  acyclic : l.Nodup
  repeated : ∀ t ∈ l, ∀ fuel, l.length ≤ fuel → skyPluginAdd fuel m ⟨true, some t⟩ = some
    (.success, m)
  rejected : ∀ args fuel m', skyPluginAdd fuel m args = some (.error, m') → m' = m
  dispatches : ∀ (σ : Type) (entry : α → Option (σ → SkyStatus × σ)) (s : σ) (fuel : ℕ),
    l.length < fuel →
    dispatch entry m fuel m.root s = some (dispatchList entry l s)

theorem PluginMemory.Lists.keepsList (lists : m.Lists l) : m.KeepsList l where
  chain := lists.chain
  acyclic := lists.chain.nodup
  repeated := fun t member fuel enough => by
    rcases skyPluginAdd_accepted lists ⟨true, some t⟩ rfl rfl (lists.magic t member) enough with
      ⟨-, same⟩ | ⟨fresh, -⟩
    · exact same
    · exact absurd member fresh
  rejected := fun _ _ _ => skyPluginAdd_error
  dispatches := fun _ entry s _ enough => dispatch_eq lists.chain entry enough s

theorem eraseDups_concat (as : List α) (t : α) :
    (as ++ [t]).eraseDups = if t ∈ as then as.eraseDups else as.eraseDups ++ [t] := by
  rw [List.eraseDups_append]
  split_ifs with member
  · simp [List.removeAll, member]
  · simp [List.removeAll, member, List.eraseDups_cons]

theorem addAll_lists {before : List α} (lists : m.Lists before.eraseDups)
    {calls : List (PluginAdd α)} (enough : before.eraseDups.length + calls.length ≤ fuel) :
    ∃ statuses m', m.addAll fuel calls = some (statuses, m') ∧
      statuses = calls.map (fun args => if m.accepts args then .success else .error) ∧
      m'.Lists (before ++ succeeded calls statuses).eraseDups := by
  induction calls generalizing m before with
  | nil => exact ⟨[], m, rfl, rfl, by simpa [succeeded] using lists⟩
  | cons args calls ih =>
    rw [List.length_cons] at enough
    cases accepted : m.accepts args with
    | false =>
      obtain ⟨statuses, m', returned, statusOf, kept⟩ := ih lists (by omega)
      refine ⟨.error :: statuses, m', ?_, ?_, kept⟩
      · rw [PluginMemory.addAll, skyPluginAdd_rejected accepted, Option.bind_some, returned]
        rfl
      · rw [List.map_cons, accepted, statusOf]
        rfl
    | true =>
      obtain ⟨root, t, table, magic⟩ := (m.accepts_iff args).1 accepted
      -- the memory after the call lists the tables before it and that of the call
      have added : ∃ m₁, skyPluginAdd fuel m args = some (.success, m₁) ∧
          m₁.Lists (before ++ [t]).eraseDups ∧ ∀ p, (m₁.table p).magic = (m.table p).magic := by
        rw [eraseDups_concat]
        rcases skyPluginAdd_accepted lists args root table magic
            (show before.eraseDups.length ≤ fuel by omega) with
          ⟨member, same⟩ | ⟨fresh, m₁, appended, listed, magics⟩
        · rw [if_pos (List.mem_eraseDups.1 member)]
          exact ⟨m, same, lists, fun _ => rfl⟩
        · rw [if_neg (fun member => fresh (List.mem_eraseDups.2 member))]
          exact ⟨m₁, appended, listed, magics⟩
      obtain ⟨m₁, first, listed, magics⟩ := added
      have length : (before ++ [t]).eraseDups.length ≤ before.eraseDups.length + 1 := by
        rw [eraseDups_concat]
        split_ifs
        · omega
        · simp
      obtain ⟨statuses, m', returned, statusOf, kept⟩ := ih listed (by omega)
      refine ⟨.success :: statuses, m', ?_, ?_, ?_⟩
      · rw [PluginMemory.addAll, first, Option.bind_some, returned]
        rfl
      · rw [List.map_cons, accepted, statusOf, if_pos rfl]
        simp only [PluginMemory.accepts_congr magics]
      · have tables :
            succeeded (args :: calls) (.success :: statuses) = t :: succeeded calls statuses := by
          simp [succeeded, table]
        rwa [tables, ← List.singleton_append, ← List.append_assoc]

/-- The calls of `sky_plugin_add` on an empty root make a list of the tables that were added. -/
theorem addAll_keepsList (m : PluginMemory α) (empty : m.root = none)
    (calls : List (PluginAdd α)) (fuel : ℕ) (enough : calls.length ≤ fuel) :
    ∃ statuses m', m.addAll fuel calls = some (statuses, m') ∧
      statuses = calls.map (fun args => if m.accepts args then .success else .error) ∧
      m'.KeepsList (succeeded calls statuses).eraseDups := by
  have start : m.Lists ([] : List α).eraseDups := by
    constructor
    · rw [empty]
      exact .nil
    · exact fun p member => absurd member List.not_mem_nil
  obtain ⟨statuses, m', returned, statusOf, lists⟩ := addAll_lists start (by simpa using enough)
  exact ⟨statuses, m', returned, statusOf, lists.keepsList⟩

/-- Two tables that point to each other, a corrupt one, and further ones that all point to the
first. -/
def staleTables : PluginMemory ℕ where
  root := none
  table := fun p => ⟨some (1 - p), if p = 2 then 0 else SKY_MAGIC⟩

/-- Tables are added again, `NULL` and the corrupt one are rejected, and so is a call without the
root. -/
def repeatedAdds : List (PluginAdd ℕ) :=
  [⟨true, some 0⟩, ⟨true, some 2⟩, ⟨true, some 1⟩, ⟨true, some 1⟩, ⟨true, none⟩, ⟨true, some 0⟩,
    ⟨false, some 4⟩, ⟨true, some 3⟩]

theorem staleTables_keepsList :
    ∃ statuses m', staleTables.addAll 8 repeatedAdds = some (statuses, m') ∧
      m'.KeepsList [0, 1, 3] := by
  obtain ⟨statuses, m', returned, statusOf, keeps⟩ :=
    addAll_keepsList staleTables rfl repeatedAdds 8 (by decide)
  have tables : (succeeded repeatedAdds statuses).eraseDups = [0, 1, 3] := by
    rw [statusOf]
    decide
  exact ⟨statuses, m', returned, tables ▸ keeps⟩

/-- `sky_register_plugins` on an empty root makes the list of the model, whatever the tables pointed
to. -/
theorem skyRegisterPluginsAt_lists (empty : m.root = none) {address : SkyPluginTable → α}
    (distinct : address .cellPluginBasic ≠ address .apPluginBasic)
    (magic : ∀ p, (m.table (address p)).magic = SKY_MAGIC) (enough : 1 ≤ fuel) :
    ∃ m', skyRegisterPluginsAt fuel m address = some (.success, m') ∧
      m'.Lists (skyRegisterPlugins.map address) := by
  have start : m.Lists [] := by
    constructor
    · rw [empty]
      exact .nil
    · exact fun p member => absurd member List.not_mem_nil
  have second : address .cellPluginBasic ∉ [address .apPluginBasic] := by simpa using distinct
  rcases skyPluginAdd_accepted start ⟨true, some (address .apPluginBasic)⟩ rfl rfl (magic _)
    (Nat.zero_le fuel) with
    ⟨member, -⟩ | ⟨-, m₁, first, listed, magics⟩
  · exact absurd member List.not_mem_nil
  · rcases skyPluginAdd_accepted listed ⟨true, some (address .cellPluginBasic)⟩ rfl rfl
      ((magics _).trans (magic _)) enough with ⟨member, -⟩ | ⟨-, m₂, added, listed₂, -⟩
    · exact absurd member second
    · refine ⟨m₂, ?_, listed₂⟩
      rw [skyRegisterPluginsAt, first, Option.bind_some, if_pos rfl, added]

end Add

section Registered

variable {σ : Type*} {m : PluginMemory α}

theorem dispatch_registered {address : SkyPluginTable → α}
    (lists : m.Lists (skyRegisterPlugins.map address)) (entry : α → Option (σ → SkyStatus × σ))
    {fuel : ℕ} (enough : 2 < fuel) (s : σ) :
    dispatch entry m fuel m.root s =
      some (dispatchList (fun p => entry (address p)) skyRegisterPlugins s) := by
  rw [dispatch_eq lists.chain entry (by exact enough), dispatchList_map]

end Registered

end EmbeddedClient
