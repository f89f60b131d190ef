import EmbeddedClient.Session.Restore

/-!
# Opening that fails

`sky_open` invalidates, clears and sets up the buffer between its checks of the arguments. A call
that fails at a late check leaves what the writes before it have done. The check for a missing
buffer returns only if it logs.
-/

namespace EmbeddedClient

/-- A call that fails leaves the buffer as it was, and a missing buffer is refused. -/
def FailsCleanly (logf : Bool) (args : OpenArgs) : Option SkySctx → Prop
  | none => skyOpenBuffer logf args none = some (.badParameters, none)
  | some s => ∀ e s', skyOpenBuffer logf args (some s) = some (e, s') → e ≠ .none → s' = some s

namespace OpenArgs

def Complete (args : OpenArgs) : Prop :=
  args.gettime.isSome = true ∧ args.deviceId.isSome = true ∧ args.aesKey.isSome = true

/-- The call clears a saved session: it gives a partner, and other credentials. -/
def Replaces (args : OpenArgs) (s : SkySctx) : Prop :=
  args.partnerId ≠ 0 ∧ args.sameCredentials s = false

/-- The call cannot fail after a write, on a buffer that may be missing. -/
def Spares (args : OpenArgs) (logf : Bool) : Option SkySctx → Prop
  | none => logf = true ∧ SKY_LOG_LEVEL_ERROR ≤ args.minLevel
  | some s =>
    s.openFlag = true ∨ args.Complete ∨ (args.aesKey = none ∧ args.comparesKey s = true) ∨
      (¬ args.Replaces s ∧ (args.gettime = none ∨ s.config.defaults = s.config)) ∨
      (args.Replaces s ∧ ∃ now ∈ args.gettime, s = configDefaults
        (SkySctx.initialized s.cacheSize now))

instance (args : OpenArgs) (s : SkySctx) : Decidable (args.Replaces s) :=
  inferInstanceAs (Decidable (_ ∧ _))

end OpenArgs

variable {s : SkySctx} {args : OpenArgs} {logf : Bool}

def leftBy (s : SkySctx) (args : OpenArgs) : SkySctx :=
  match args.gettime with
  | none => if args.Replaces s then { s with header := { s.header with magic := 0 } } else s
  | some now => openedOn s args now

theorem openedOn_of_replaces (replaces : args.Replaces s) (now : ℤ) :
    openedOn s args now = configDefaults (SkySctx.initialized s.cacheSize now) := by
  rw [openedOn, if_pos (show _ ∧ _ from replaces)]

theorem openedOn_of_keeps (keeps : ¬ args.Replaces s) (now : ℤ) :
    openedOn s args now = configDefaults s := by
  rw [openedOn, if_neg (show ¬ (_ ∧ _) from keeps)]

theorem skyOpen_incomplete (valid : validateSessionCtx s = true) (closed : s.openFlag = false)
    (incomplete : ¬ args.Complete) : skyOpen s args = (.badParameters, leftBy s args) := by
  have magic := magic_of_validateSessionCtx valid
  unfold skyOpen leftBy
  rw [checkRestored_valid valid closed]
  cases time : args.gettime with
  | none => rfl
  | some now =>
    have base : configDefaults (if (if args.partnerId ≠ 0 ∧ args.sameCredentials s = false then
          { s with header := { s.header with magic := 0 } } else s).header.magic = 0 then
          SkySctx.initialized (if args.partnerId ≠ 0 ∧ args.sameCredentials s = false then
            { s with header := { s.header with magic := 0 } } else s).cacheSize now
        else if args.partnerId ≠ 0 ∧ args.sameCredentials s = false then
          { s with header := { s.header with magic := 0 } } else s) = openedOn s args now := by
      unfold openedOn
      by_cases replaces : args.partnerId ≠ 0 ∧ args.sameCredentials s = false
      · rw [if_pos replaces, if_pos replaces, if_pos rfl]
        rfl
      · rw [if_neg replaces, if_neg replaces, if_neg magic]
    dsimp only
    rw [base]
    cases id : args.deviceId with
    | none => rfl
    | some deviceId =>
      cases key : args.aesKey with
      | none => rfl
      | some aesKey =>
        exact absurd ⟨by rw [time]; rfl, by rw [id]; rfl, by rw [key]; rfl⟩ incomplete

theorem leftBy_eq_iff (magic : s.header.magic ≠ 0) :
    leftBy s args = s ↔
      (¬ args.Replaces s ∧ (args.gettime = none ∨ s.config.defaults = s.config)) ∨
        (args.Replaces s ∧ ∃ now ∈ args.gettime, s = configDefaults
          (SkySctx.initialized s.cacheSize now)) := by
  unfold leftBy
  by_cases replaces : args.Replaces s
  · cases time : args.gettime with
    | none =>
      dsimp only
      rw [if_pos replaces]
      simp only [replaces, not_true, false_and, Option.not_mem_none, exists_false, and_false,
        or_false, iff_false]
      intro same
      exact magic (congrArg (fun s => s.header.magic) same).symm
    | some now =>
      dsimp only
      rw [openedOn_of_replaces replaces]
      simp [replaces, eq_comm]
  · cases time : args.gettime with
    | none =>
      dsimp only
      rw [if_neg replaces]
      simp [replaces]
    | some now =>
      have config : configDefaults s = s ↔ s.config.defaults = s.config := by
        constructor
        · intro same
          exact congrArg SkySctx.config same
        · intro same
          rw [configDefaults, same]
      dsimp only
      rw [openedOn_of_keeps replaces, config]
      simp [replaces]

theorem skyOpen_complete (valid : validateSessionCtx s = true) (closed : s.openFlag = false)
    (complete : args.Complete) : (skyOpen s args).1 = .none := by
  obtain ⟨now, time⟩ := Option.isSome_iff_exists.1 complete.1
  obtain ⟨deviceId, id⟩ := Option.isSome_iff_exists.1 complete.2.1
  obtain ⟨aesKey, key⟩ := Option.isSome_iff_exists.1 complete.2.2
  unfold skyOpen
  rw [checkRestored_valid valid closed, time, id, key]

theorem skyOpenBuffer_some {e : SkyErrno} {s' : Option SkySctx}
    (result : skyOpenBuffer logf args (some s) = some (e, s')) :
    e = (skyOpen s args).1 ∧ s' = some (skyOpen s args).2 := by
  rw [skyOpenBuffer] at result
  split_ifs at result
  rw [Option.some.injEq, Prod.mk.injEq] at result
  exact ⟨result.1.symm, result.2.symm⟩

theorem skyOpen_opened (valid : validateSessionCtx s = true) (opened : s.openFlag = true) :
    skyOpen s args = (.alreadyOpen, s) := by
  unfold skyOpen checkRestored
  rw [if_neg (magic_of_validateSessionCtx valid), valid, opened]
  rfl

/-- `sky_open` fails cleanly, on a valid session buffer or a missing one, exactly if it spares the
buffer: there is one and the session is still open, the arguments are complete, or what is written
before the failure was there already. -/
theorem failsCleanly_iff (logf : Bool) (args : OpenArgs) (sctx : Option SkySctx)
    (valid : ∀ s ∈ sctx, validateSessionCtx s = true) :
    FailsCleanly logf args sctx ↔ args.Spares logf sctx := by
  cases sctx with
  | none =>
    unfold FailsCleanly OpenArgs.Spares skyOpenBuffer
    by_cases logged : logf = true ∧ SKY_LOG_LEVEL_ERROR ≤ args.minLevel
    · simp [logged]
    · simp [logged]
  | some s =>
    have valid := valid s rfl
    by_cases opened : s.openFlag = true
    · apply iff_of_true
      · intro e s' result _
        rw [(skyOpenBuffer_some result).2, skyOpen_opened valid opened]
      · exact .inl opened
    by_cases complete : args.Complete
    · apply iff_of_true
      · intro e s' result failed
        have done := skyOpen_complete valid (by simpa using opened) complete
        exact absurd ((skyOpenBuffer_some result).1.trans done) failed
      · exact .inr (.inl complete)
    by_cases unread : args.aesKey = none ∧ args.comparesKey s = true
    · apply iff_of_true
      · intro e s' result
        simp [skyOpenBuffer, unread] at result
      · exact .inr (.inr (.inl unread))
    have failed := skyOpen_incomplete valid (by simpa using opened) complete
    have result :
        skyOpenBuffer logf args (some s) = some (.badParameters, some (leftBy s args)) := by
      rw [skyOpenBuffer, if_neg (by simpa [and_comm] using unread), failed]
    rw [FailsCleanly, OpenArgs.Spares, or_iff_right opened, or_iff_right complete,
      or_iff_right unread, ← leftBy_eq_iff (magic_of_validateSessionCtx valid), result]
    constructor
    · intro keeps
      exact Option.some.inj (keeps _ _ rfl (by decide))
    · intro same e s' eq _
      rw [Option.some.injEq, Prod.mk.injEq] at eq
      rw [← eq.2, same]

def anonymousOpen : OpenArgs := { openWith [97, 98, 99] with deviceId := none }

def timelessOpen : OpenArgs := { openWith [97, 98, 99] with partnerId := 2, gettime := none }

theorem anonymousOpen_failsCleanly :
    FailsCleanly true anonymousOpen (some (configDefaults savedSession)) :=
  (failsCleanly_iff true anonymousOpen (some (configDefaults savedSession))
    (fun s member => by
      cases member
      decide +kernel)).2
    (.inr (.inr (.inr (.inl ⟨by decide +kernel, .inr (by decide +kernel)⟩))))

/-- The call without a time callback fails, and the next one with the old credentials finds no
token. Without a logger a missing buffer is read. -/
theorem timelessOpen_not_failsCleanly :
    validateSessionCtx savedSession = true ∧ savedSession.openFlag = false ∧
      (skyOpen savedSession timelessOpen).1 = .badParameters ∧
      (skyOpen savedSession (openWith [97, 98, 99])).2.tokenId = 7 ∧
      (skyOpen (skyOpen savedSession timelessOpen).2 (openWith [97, 98, 99])).2.tokenId =
        TBR_TOKEN_UNKNOWN ∧
      ¬ FailsCleanly true timelessOpen (some savedSession) ∧
      ¬ FailsCleanly false (openWith []) none := by
  refine ⟨by decide +kernel, rfl, by decide +kernel, by decide +kernel,
    by decide +kernel, ?_, nofun⟩
  intro keeps
  have same : some (skyOpen savedSession timelessOpen).2 = some savedSession :=
    keeps .badParameters _ (by decide +kernel) nofun
  have magic : (skyOpen savedSession timelessOpen).2.header.magic ≠ savedSession.header.magic := by
    decide +kernel
  exact magic (congrArg (fun s => s.header.magic) (Option.some.inj same))

end EmbeddedClient
