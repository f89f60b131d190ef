import EmbeddedClient.Session.Decode
import EmbeddedClient.Session.Restore

/-!
# Backoff over whole runs

A failed registration moves the backoff of the session one step up its ladder,
and a token or a location takes it back to the bottom. While a period of the
ladder lasts, counted from the last response, no request is started and none
that was started too early is encoded. A session in backoff stays valid, so
that closing and opening it again does not shorten the period.
-/

namespace EmbeddedClient

open Runs

def backoffSteps : List (SkyErrno × SkyErrno) :=
  [(.none, .authRetry), (.authRetry, .authRetry8H), (.authRetry8H, .authRetry16H),
    (.authRetry16H, .authRetry1D), (.authRetry1D, .authRetry1D)]

def SkyErrno.OnLadder (e : SkyErrno) : Prop :=
  e ∈ [SkyErrno.none, .authRetry, .authRetry8H, .authRetry16H, .authRetry1D]

/-- The values that forbid requests for a period. -/
def SkyErrno.IsPeriod (e : SkyErrno) : Prop :=
  e ∈ [SkyErrno.authRetry8H, .authRetry16H, .authRetry1D]

def SkyErrno.IsAuthRetry (e : SkyErrno) : Prop :=
  e ∈ [SkyErrno.authRetry, .authRetry8H, .authRetry16H, .authRetry1D]

instance (e : SkyErrno) : Decidable e.OnLadder := inferInstanceAs (Decidable (_ ∈ _))

instance (e : SkyErrno) : Decidable e.IsPeriod := inferInstanceAs (Decidable (_ ∈ _))

instance (e : SkyErrno) : Decidable e.IsAuthRetry := inferInstanceAs (Decidable (_ ∈ _))

theorem SkyErrno.nextBackoff_isAuthRetry (e : SkyErrno) : e.nextBackoff.IsAuthRetry := by
  cases e <;> decide

theorem SkyErrno.OnLadder.step {e : SkyErrno} (ladder : e.OnLadder) :
    (e, e.nextBackoff) ∈ backoffSteps := by
  revert ladder
  cases e <;> decide

theorem SkyErrno.IsAuthRetry.onLadder {e : SkyErrno} (retry : e.IsAuthRetry) : e.OnLadder :=
  List.mem_cons_of_mem _ retry

theorem SkyErrno.IsPeriod.ne_none {e : SkyErrno} (period : e.IsPeriod) : e ≠ .none := by
  revert period
  cases e <;> decide

theorem backoffViolation_of_isPeriod {s : SkySctx} (period : s.backoff.IsPeriod) {now : ℤ}
    (early : now < s.header.time.toNat + s.backoff.backoffPeriod) :
    backoffViolation s now = true := by
  have cases : s.backoff = .authRetry8H ∨ s.backoff = .authRetry16H ∨ s.backoff = .authRetry1D := by
    simpa [SkyErrno.IsPeriod] using period
  unfold backoffViolation
  rcases cases with eq | eq | eq
  all_goals
    simp only [eq, decide_eq_true_eq] at early ⊢
    omega

theorem skyNewRequest_denied {s : SkySctx} {now : ℤ}
    (violation : backoffViolation s (startTime now) = true) (rbufsize : UInt32)
    (ulAppData : List UInt8) : (skyNewRequest rbufsize s ulAppData now).rctx = none := by
  unfold skyNewRequest
  rw [if_pos violation]
  split_ifs <;> rfl

theorem skyEncodeRequest_denied {s : SkySctx} {r : SkyRctx}
    (violation : backoffViolation s r.header.time.toNat = true) (codec : Codec)
    (buf : Option (List UInt8)) (random : List UInt8) :
    (skyEncodeRequest codec s r buf random).errno ≠ .none := by
  unfold skyEncodeRequest
  dsimp only
  rw [(sameRequest_validateRequestCtx r).header, if_pos violation]
  split_ifs
  · intro eq
    cases eq
  · intro eq
    cases eq

/-- The response ended in a failed registration of a request without a token. -/
def DecodeResult.AuthFailed (d : DecodeResult) : Prop :=
  d.rctx.authState = .unregistered ∧ d.errno.IsAuthRetry

def DecodeResult.Resets (r : SkyRctx) (d : DecodeResult) : Prop :=
  d.errno = .none ∨ (r.authState = .unregistered ∧ d.rctx.authState = .registered)

inductive ReportOutcome (s : SkySctx) (r : SkyRctx) (status : LocStatus) : SkyErrno → SkySctx → Prop
  | success (cacheline : List SkyCacheline) (located : status = .success) :
      ReportOutcome s r status .none { s with backoff := .none, cacheline := cacheline }
  | disabled (denied : status = .authError) (auth : r.authState = .disabled) :
      ReportOutcome s r status .auth s
  | registered (denied : status = .authError) (auth : r.authState = .registered) :
      ReportOutcome s r status .authRetry { s with backoff := .none }
  | unregistered (denied : status = .authError) (auth : r.authState = .unregistered) :
      ReportOutcome s r status s.backoff.nextBackoff { s with backoff := s.backoff.nextBackoff }
  | failed (errno : SkyErrno) (notDenied : status ≠ .authError)
      (error : errno ∈ [SkyErrno.auth, .locationUnknown, .serverError]) :
      ReportOutcome s r status errno s

theorem reportLocation_outcome (s : SkySctx) (r : SkyRctx) (loc : SkyLocation) (now : ℤ) :
    ReportOutcome s r loc.locationStatus (reportLocation s r loc now).errno
      (reportLocation s r loc now).sctx := by
  unfold reportLocation
  cases status : loc.locationStatus with
  | success =>
    dsimp only
    obtain ⟨cacheline, eq⟩ := skyPluginAddToCache_sctx s.plugins { s with backoff := .none } r
      { loc with time := now }
    rw [status] at eq
    rw [eq]
    exact .success cacheline rfl
  | authError =>
    cases auth : r.authState with
    | disabled => exact .disabled rfl auth
    | registered => exact .registered rfl auth
    | unregistered => exact .unregistered rfl auth
  | badPartnerIdError => exact .failed .auth (by decide) (by decide)
  | decodeError => exact .failed .auth (by decide) (by decide)
  | unableToLocate => exact .failed .locationUnknown (by decide) (by decide)
  | unspecifiedError => exact .failed .serverError (by decide) (by decide)
  | apiServerError => exact .failed .serverError (by decide) (by decide)
  | other code =>
    have notDenied : LocStatus.other code ≠ .authError := by
      intro eq
      cases eq
    exact .failed .serverError notDenied (by decide)

theorem SkyErrno.turnedAway_not_retry {e : SkyErrno} (turned : e.turnedAway) :
    e ≠ .none ∧ ¬ e.IsAuthRetry := by
  rcases turned with rfl | rfl | rfl <;> decide

theorem ReportOutcome.answered {s s' : SkySctx} {r : SkyRctx} {status : LocStatus}
    {errno : SkyErrno} (outcome : ReportOutcome s r status errno s') : ¬ errno.unanswered := by
  cases outcome with
  | success cacheline located => decide
  | disabled denied auth => decide
  | registered denied auth => decide
  | unregistered denied auth =>
    generalize s.backoff = backoff
    cases backoff <;> decide
  | failed errno notDenied error =>
    revert error
    cases errno <;> decide

/-- The effect of one response on the backoff. -/
def DecodeResult.MovesBackoff (s : SkySctx) (r : SkyRctx) (d : DecodeResult) : Prop :=
  (d.AuthFailed → d.sctx.backoff = s.backoff.nextBackoff) ∧
    (d.Resets r → d.sctx.backoff = .none) ∧
    (¬ d.AuthFailed → ¬ d.Resets r → d.sctx.backoff = s.backoff)

theorem reportLocation_movesBackoff {s s'' : SkySctx} {r r' : SkyRctx} {loc : SkyLocation}
    (now : ℤ) (backoff : s''.backoff = s.backoff)
    (granted : loc.locationStatus = .authError → r'.authState = .registered →
      r.authState = .unregistered)
    (located : loc.locationStatus = .success → r'.authState ≠ .unregistered)
    (kept : loc.locationStatus ≠ .authError → r'.authState = r.authState) :
    (reportLocation s'' r' loc now).MovesBackoff s r := by
  have outcome := reportLocation_outcome s'' r' loc now
  have rctx := reportLocation_rctx s'' r' loc now
  unfold DecodeResult.MovesBackoff DecodeResult.AuthFailed DecodeResult.Resets
  rw [rctx]
  generalize (reportLocation s'' r' loc now).errno = errno at outcome ⊢
  generalize (reportLocation s'' r' loc now).sctx = sctx at outcome ⊢
  cases outcome with
  | success cacheline success =>
    have auth := located success
    refine ⟨fun failed => absurd failed.1 auth, fun _ => rfl, fun _ reset => ?_⟩
    exact absurd (.inl rfl) reset
  | disabled denied auth =>
    refine ⟨fun failed => ?_, fun reset => ?_, fun _ _ => backoff⟩
    · rw [auth] at failed
      exact absurd failed.1 (by decide)
    · rw [auth] at reset
      rcases reset with none | granted
      · exact absurd none (by decide)
      · exact absurd granted.2 (by decide)
  | registered denied auth =>
    refine ⟨fun failed => ?_, fun _ => rfl, fun _ reset => ?_⟩
    · rw [auth] at failed
      exact absurd failed.1 (by decide)
    · exact absurd (.inr ⟨granted denied auth, auth⟩) reset
  | unregistered denied auth =>
    refine ⟨fun _ => by rw [backoff], fun reset => ?_, fun failed => ?_⟩
    · rcases reset with none | granted
      · have retry := s''.backoff.nextBackoff_isAuthRetry
        rw [none] at retry
        exact absurd retry (by decide)
      · rw [auth] at granted
        exact absurd granted.2 (by decide)
    · exact absurd ⟨auth, s''.backoff.nextBackoff_isAuthRetry⟩ failed
  | failed errno notDenied error =>
    have plain : errno ≠ .none ∧ ¬ errno.IsAuthRetry := by
      revert error
      cases errno <;> decide
    refine ⟨fun failed => absurd failed.2 plain.2, fun reset => ?_, fun _ _ => backoff⟩
    rcases reset with none | granted
    · exact absurd none plain.1
    · rw [kept notDenied, granted.1] at granted
      exact absurd granted.2 (by decide)

theorem skyDecodeResponse_turnedAway {bits : ℕ} {s : SkySctx} {r : SkyRctx} {loc : SkyLocation}
    {resp : Response} {now later : ℤ}
    (turned : (skyDecodeResponse bits s r loc resp now later).errno.turnedAway) :
    (skyDecodeResponse bits s r loc resp now later).sctx = s := by
  have outcome := skyDecodeResponse_outcome bits s r loc resp now later
  generalize skyDecodeResponse bits s r loc resp now later = d at outcome turned ⊢
  cases outcome with
  | rejected errno loc _ => rfl
  | undecoded loc valid ctx => exact absurd turned (by decide : ¬ SkyErrno.decodeError.turnedAway)
  | decoded s' s'' r' loc status rs cacheHits valid ctx same auth =>
    exact absurd (.inl turned) (reportLocation_outcome _ r' loc later).answered

theorem skyDecodeResponse_movesBackoff (bits : ℕ) (s : SkySctx) (r : SkyRctx) (loc : SkyLocation)
    (resp : Response) (now later : ℤ) :
    (skyDecodeResponse bits s r loc resp now later).MovesBackoff s r := by
  have same := sameRequest_validateRequestCtx r
  have outcome := skyDecodeResponse_outcome bits s r loc resp now later
  generalize skyDecodeResponse bits s r loc resp now later = d at outcome ⊢
  have unread (errno : SkyErrno) (s' : SkySctx) (loc : SkyLocation) (notNone : errno ≠ .none)
      (notRetry : ¬ errno.IsAuthRetry) (backoff : s'.backoff = s.backoff) :
      DecodeResult.MovesBackoff s r ⟨errno, s', (validateRequestCtx r).2, loc⟩ := by
    refine ⟨fun failed => absurd failed.2 notRetry, fun reset => ?_, fun _ _ => backoff⟩
    rcases reset with none | granted
    · exact absurd none notNone
    · have : SkyTbrState.unregistered = .registered := by
        rw [← granted.1, ← same.authState, granted.2]
      exact absurd this (by decide)
  cases outcome with
  | rejected errno loc turned =>
    exact unread errno s loc (SkyErrno.turnedAway_not_retry turned).1
      (SkyErrno.turnedAway_not_retry turned).2 rfl
  | undecoded loc valid ctx =>
    exact unread .decodeError (s.stamp now) loc (by decide) (by decide) rfl
  | decoded s' s'' r' loc status rs cacheHits valid ctx sameCache auth =>
    have backoff := sameCache.session.backoff
    cases auth with
    | refused auth token =>
      refine reportLocation_movesBackoff later backoff ?_ ?_ ?_
      · intro _ registered
        rw [auth] at registered
        exact absurd registered (by decide)
      · intro success
        cases success
      · intro denied
        exact absurd rfl denied
    | granted auth token =>
      refine reportLocation_movesBackoff later backoff ?_ ?_ ?_
      · intro _ _
        rw [← same.authState, auth]
      · intro success
        cases success
      · intro denied
        exact absurd rfl denied
    | revoked auth denied =>
      refine reportLocation_movesBackoff later backoff ?_ ?_ ?_
      · intro _ registered
        cases registered
      · intro success
        cases success
      · intro denied
        exact absurd rfl denied
    | disabled auth denied =>
      refine reportLocation_movesBackoff later backoff ?_ ?_ ?_
      · intro denied
        cases denied
      · intro success
        cases success
      · intro _
        exact same.authState
    | located auth answered =>
      have state := (applyLocation_rctx s' (validateRequestCtx r).2 (.start status) rs).2
      have kept : (applyLocation s' (validateRequestCtx r).2 (.start status) rs).2.locationStatus =
          status := rfl
      refine reportLocation_movesBackoff later backoff ?_ ?_ ?_
      · intro denied
        exact absurd (kept.symm.trans denied) answered
      · intro _ unregistered
        exact auth (state.symm.trans unregistered)
      · intro _
        exact state.trans same.authState

end EmbeddedClient
