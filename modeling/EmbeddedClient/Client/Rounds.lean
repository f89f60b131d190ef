import EmbeddedClient.Model.Client
import EmbeddedClient.Session.Restart
import EmbeddedClient.Wire.Exchange

/-!
# How often the sample client tries again

A round goes on when its response asks for another. Unless it has brought a token, it has moved the
backoff of the session one step up; and once the backoff is a period, the next round is denied,
since the request keeps the time it was started at. So tokens bound the number of rounds, whatever
a server sends.
-/

namespace EmbeddedClient

open Retry (Outcome loop count)

variable {env : Env} {d : Decoders} {p p' : Progress} {round : Round}

theorem SkyErrno.retries_iff (e : SkyErrno) : e.retries = true ↔ e.IsAuthRetry := by
  cases e <;> decide

structure DecodeResult.Retries (d : DecodeResult) (s : SkySctx) (r : SkyRctx) (now : ℤ) : Prop where
  time : d.sctx.header.time = timeWord now
  header : d.rctx.header = r.header
  state : (d.rctx.authState = .unregistered ∧ d.sctx.backoff = s.backoff.nextBackoff) ∨
    (r.authState = .unregistered ∧ d.rctx.authState = .registered ∧ d.sctx.backoff = .none)

theorem skyDecodeResponse_retries {bits : ℕ} {s : SkySctx} {r : SkyRctx} {loc : SkyLocation}
    {resp : Response} {now later : ℤ}
    (asks : (skyDecodeResponse bits s r loc resp now later).errno.IsAuthRetry) :
    (skyDecodeResponse bits s r loc resp now later).Retries s r now := by
  have same := sameRequest_validateRequestCtx r
  obtain ⟨failed, reset, -⟩ := skyDecodeResponse_movesBackoff bits s r loc resp now later
  have outcome := skyDecodeResponse_outcome bits s r loc resp now later
  generalize skyDecodeResponse bits s r loc resp now later = d at asks failed reset outcome ⊢
  cases outcome with
  | rejected errno loc turned => exact absurd asks (SkyErrno.turnedAway_not_retry turned).2
  | undecoded loc valid ctx => exact absurd asks (by decide : ¬ SkyErrno.decodeError.IsAuthRetry)
  | decoded s' s'' r' loc status rs cacheHits valid ctx sameCache auth =>
    have reported := reportLocation_outcome { s'' with cacheHits := cacheHits } r' loc later
    have context := reportLocation_rctx { s'' with cacheHits := cacheHits } r' loc later
    have stamped := reportLocation_header { s'' with cacheHits := cacheHits } r' loc later
    have header : s''.header = (s.stamp now).header ∧ r'.header = r.header := by
      rw [← sameCache.session.header, ← same.header]
      cases auth with
      | located =>
        exact ⟨rfl, (applyLocation_rctx s' (validateRequestCtx r).2 (.start status) rs).1.header⟩
      | _ => exact ⟨rfl, rfl⟩
    rw [DecodeResult.AuthFailed, context] at failed
    rw [DecodeResult.Resets, context] at reset
    refine ⟨?_, ?_, ?_⟩
    · rw [stamped, header.1]
      rfl
    · rw [context, header.2]
    · rw [context]
      generalize (reportLocation { s'' with cacheHits := cacheHits } r' loc later).errno = errno
        at reported asks failed reset
      generalize (reportLocation { s'' with cacheHits := cacheHits } r' loc later).sctx = sctx
        at reported failed reset ⊢
      cases reported with
      | success => exact absurd asks (by decide)
      | disabled => exact absurd asks (by decide)
      | registered denied registered =>
        have unregistered : r.authState = .unregistered := by
          rw [← same.authState]
          cases auth with
          | refused auth => exact auth
          | granted auth => exact auth
          | revoked => cases registered
          | disabled => cases denied
          | located auth answered => exact absurd denied answered
        exact .inr ⟨unregistered, registered, rfl⟩
      | unregistered denied unregistered => exact .inl ⟨unregistered, failed ⟨unregistered, asks⟩⟩
      | failed errno notDenied error =>
        have plain : ¬ errno.IsAuthRetry := by
          revert error
          cases errno <;> decide
        exact absurd asks plain

theorem locateRound_denied (violation : backoffViolation p.sctx p.rctx.header.time.toNat = true) :
    ∃ p', locateRound env d p round = .done (false, p') := by
  obtain ⟨sameSession, sameRequest⟩ := same_skySizeofRequestBuf env.codec p.sctx p.rctx round.sizing
  rw [← backoffViolation_congr sameSession, ← sameRequest.header] at violation
  have denied := skyEncodeRequest_denied violation env.codec
  unfold locateRound
  dsimp only
  cases (skySizeofRequestBuf env.codec p.sctx p.rctx round.sizing).size.bind (malloc round.request)
    with
  | none => exact ⟨_, rfl⟩
  | some request => exact ⟨_, if_pos (denied (some request) round.random)⟩

theorem locateRound_again (goesOn : locateRound env d p round = .again p') :
    ∃ s r resp, SameSession p.sctx s ∧ SameRequest p.rctx r ∧
      (skyDecodeResponse env.cipherBits s r p.loc resp round.now round.later).errno.IsAuthRetry ∧
      p' = ⟨(skyDecodeResponse env.cipherBits s r p.loc resp round.now round.later).sctx,
        (skyDecodeResponse env.cipherBits s r p.loc resp round.now round.later).rctx,
        (skyDecodeResponse env.cipherBits s r p.loc resp round.now round.later).loc⟩ := by
  obtain ⟨sameSession, sameRequest⟩ := same_skySizeofRequestBuf env.codec p.sctx p.rctx round.sizing
  unfold locateRound at goesOn
  generalize skySizeofRequestBuf env.codec p.sctx p.rctx round.sizing = sized
    at goesOn sameSession sameRequest
  dsimp only at goesOn
  cases size : sized.size.bind (malloc round.request) with
  | none =>
    rw [size] at goesOn
    cases goesOn
  | some request =>
    have context :=
      skyEncodeRequest_rctx env.codec sized.sctx sized.rctx (some request) round.random
    have validated := sameRequest_validateRequestCtx sized.rctx
    rw [size] at goesOn
    dsimp only at goesOn
    split_ifs at goesOn
    cases received : (skyEncodeRequest env.codec sized.sctx sized.rctx
      (some request) round.random).buf.bind
        fun request => (malloc round.response maximumResponseSize).bind
          (sendRequest round.receive request) with
    | none =>
      rw [received] at goesOn
      cases goesOn
    | some response =>
      rw [received, context] at goesOn
      dsimp only at goesOn
      refine ⟨sized.sctx, (validateRequestCtx sized.rctx).2,
        .ofBuffer d env.cipherBits sized.sctx.aesKey response, sameSession,
        sameRequest.trans validated, ?_⟩
      unfold DecodeResult.outcome at goesOn
      dsimp only at goesOn
      split_ifs at goesOn with located asks
      exact ⟨(SkyErrno.retries_iff _).1 asks, (Outcome.again.inj goesOn).symm⟩

/-- A round in which the context was registered. -/
def Progress.granted (p p' : Progress) : Bool :=
  p.rctx.authState = .unregistered && p'.rctx.authState = .registered

/-- The response comes, by the clock, less than eight hours before the request was started, or
later. -/
def Round.Timely (started : UInt32) (round : Round) : Prop :=
  started.toNat < (timeWord round.now).toNat + 8 * 3600

instance (started : UInt32) (round : Round) : Decidable (round.Timely started) :=
  inferInstanceAs (Decidable (_ < _))

theorem backoffViolation_of_timely (period : p.sctx.backoff.IsPeriod) {started : UInt32}
    (stamped : p.sctx.header.time = timeWord round.now) (timely : round.Timely started) :
    backoffViolation p.sctx started.toNat = true := by
  apply backoffViolation_of_isPeriod period
  have least : 8 * 3600 ≤ p.sctx.backoff.backoffPeriod := by
    revert period
    cases p.sctx.backoff <;> decide
  unfold Round.Timely at timely
  rw [stamped]
  omega

structure Progress.GoesOn (p : Progress) (round : Round) (p' : Progress) : Prop where
  allowed : backoffViolation p.sctx p.rctx.header.time.toNat = false
  time : p'.sctx.header.time = timeWord round.now
  header : p'.rctx.header = p.rctx.header
  state : (p'.rctx.authState = .unregistered ∧ p'.sctx.backoff = p.sctx.backoff.nextBackoff) ∨
    (p.granted p' = true ∧ p'.sctx.backoff = .none)

theorem locateRound_goesOn (goesOn : locateRound env d p round = .again p') :
    p.GoesOn round p' := by
  have allowed : backoffViolation p.sctx p.rctx.header.time.toNat = false := by
    by_contra violation
    obtain ⟨failed, denied⟩ := @locateRound_denied env d p round (by simpa using violation)
    rw [denied] at goesOn
    cases goesOn
  obtain ⟨s, r, resp, sameSession, sameRequest, asks, rfl⟩ := locateRound_again goesOn
  obtain ⟨time, header, state⟩ := skyDecodeResponse_retries asks
  refine ⟨allowed, time, header.trans sameRequest.header, ?_⟩
  rw [sameSession.backoff, sameRequest.authState] at state
  rcases state with failed | ⟨unregistered, registered, backoff⟩
  · exact .inl failed
  · exact .inr ⟨by simp [Progress.granted, unregistered, registered], backoff⟩

end EmbeddedClient
