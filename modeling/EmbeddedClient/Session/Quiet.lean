import EmbeddedClient.Beacons.Invariant
import EmbeddedClient.Session.Backoff

/-!
# Quiet periods

A response that leaves the session at a step of the backoff with a period stamps
the session. Until a response changes the backoff, every later state is stamped
at that time or later and stays valid, so that opening the session again under
its credentials does not clear it, and requests are refused until the period is
over.
-/

namespace EmbeddedClient

open Runs

/-- The session with its credentials, its backoff and its cachelines up to their
times. -/
structure SameAccount (s s' : SkySctx) : Prop where
  header : s'.header = s.header
  backoff : s'.backoff = s.backoff
  numCachelines : s'.numCachelines = s.numCachelines
  lines : s'.cacheline.map SkyCacheline.untimed = s.cacheline.map SkyCacheline.untimed

theorem SameSession.sameAccount {s s' : SkySctx} (same : SameSession s s') : SameAccount s s' :=
  ⟨same.header, same.backoff, same.numCachelines, same.lines⟩

theorem SkySctx.all_lines (s : SkySctx) :
    s.lines.all validateCacheline =
      ((s.cacheline.map SkyCacheline.untimed).take s.numCachelines.toNat).all
        validateCacheline := by
  rw [SkySctx.lines, ← List.map_take, List.all_map]
  rfl

namespace SameAccount

variable {s s' s'' : SkySctx}

theorem trans (first : SameAccount s s') (second : SameAccount s' s'') : SameAccount s s'' where
  header := second.header.trans first.header
  backoff := second.backoff.trans first.backoff
  numCachelines := second.numCachelines.trans first.numCachelines
  lines := second.lines.trans first.lines

theorem cacheSize (same : SameAccount s s') : s'.cacheSize = s.cacheSize := by
  have length := congrArg List.length same.lines
  rw [List.length_map, List.length_map] at length
  exact length

theorem validateSessionCtx (same : SameAccount s s') :
    EmbeddedClient.validateSessionCtx s' = EmbeddedClient.validateSessionCtx s := by
  unfold EmbeddedClient.validateSessionCtx
  rw [same.header, same.cacheSize, s'.all_lines, s.all_lines, same.lines, same.numCachelines]

end SameAccount

theorem validateSessionCtx_stamp {s : SkySctx} (now : ℤ) (valid : validateSessionCtx s = true) :
    validateSessionCtx (s.stamp now) = true := by
  unfold validateSessionCtx at valid ⊢
  simp only [Bool.and_eq_true, decide_eq_true_eq] at valid ⊢
  obtain ⟨⟨⟨magic, -⟩, size⟩, lines⟩ := valid
  exact ⟨⟨⟨magic, rfl⟩, size⟩, lines⟩

/-- The session is valid, at a step of the backoff that was reached at `t` or later. -/
structure SkySctx.Quiet (t : ℤ) (backoff : SkyErrno) (s : SkySctx) : Prop where
  valid : validateSessionCtx s = true
  backoff : s.backoff = backoff
  since : t ≤ s.header.time.toNat

variable {t : ℤ} {b : SkyErrno} {s s' : SkySctx}

theorem SkySctx.Quiet.same (quiet : s.Quiet t b) (same : SameAccount s s') : s'.Quiet t b where
  valid := same.validateSessionCtx.trans quiet.valid
  backoff := same.backoff.trans quiet.backoff
  since := by
    rw [same.header]
    exact quiet.since

theorem toNat_timeWord {now : ℤ} (nonneg : 0 ≤ now) (small : now < 2 ^ 32) :
    ((timeWord now).toNat : ℤ) = now := by
  unfold timeWord UInt32.ofInt
  rw [UInt32.toNat_ofNat']
  omega

theorem reportLocation_sameAccount (s : SkySctx) (r : SkyRctx) (loc : SkyLocation) (now : ℤ)
    (backoff : (reportLocation s r loc now).sctx.backoff ≠ .none) :
    SameAccount { s with backoff := (reportLocation s r loc now).sctx.backoff }
      (reportLocation s r loc now).sctx := by
  have outcome := reportLocation_outcome s r loc now
  generalize (reportLocation s r loc now).sctx = after at outcome backoff ⊢
  generalize (reportLocation s r loc now).errno = errno at outcome
  cases outcome with
  | success cacheline located => exact absurd rfl backoff
  | disabled denied auth => exact ⟨rfl, rfl, rfl, rfl⟩
  | registered denied auth => exact ⟨rfl, rfl, rfl, rfl⟩
  | unregistered denied auth => exact ⟨rfl, rfl, rfl, rfl⟩
  | failed errno notDenied error => exact ⟨rfl, rfl, rfl, rfl⟩

/-- A response that is read and leaves the session in backoff stamps the session
and keeps it valid. -/
theorem skyDecodeResponse_quiet {bits : ℕ} {r : SkyRctx} {loc : SkyLocation} {resp : Response}
    {now later : ℤ} {d : DecodeResult} (decoded : d = skyDecodeResponse bits s r loc resp now later)
    (read : ¬ d.errno.turnedAway) (backoff : d.sctx.backoff ≠ .none) (nonneg : 0 ≤ now)
    (small : now < 2 ^ 32) : d.sctx.Quiet now d.sctx.backoff := by
  have outcome := skyDecodeResponse_outcome bits s r loc resp now later
  have stamped : now ≤ (s.stamp now).header.time.toNat := (toNat_timeWord nonneg small).ge
  rw [← decoded] at outcome
  cases outcome with
  | rejected errno loc turned => exact absurd turned read
  | undecoded loc valid ctx => exact ⟨validateSessionCtx_stamp now valid, rfl, stamped⟩
  | decoded s' s'' r' loc status rs cacheHits valid ctx sameCache auth =>
    have same := sameCache.session
    have reported :=
      reportLocation_sameAccount { s'' with cacheHits := cacheHits } r' loc later backoff
    have accepted : s''.header = s'.header ∧ s''.numCachelines = s'.numCachelines ∧
        s''.cacheline = s'.cacheline := by
      cases auth <;> exact ⟨rfl, rfl, rfl⟩
    refine SkySctx.Quiet.same ?_ reported
    have stamp :
        SameAccount (s.stamp now) { s'' with cacheHits := cacheHits, backoff := s.backoff } :=
      ⟨accepted.1.trans same.header, rfl, accepted.2.1.trans same.numCachelines, by
        rw [accepted.2.2]
        exact same.lines⟩
    constructor
    · exact stamp.validateSessionCtx.trans (validateSessionCtx_stamp now valid)
    · rfl
    · rw [← stamp.header] at stamped
      exact stamped

theorem sameAccount_configDefaults (s : SkySctx) : SameAccount s (configDefaults s) :=
  ⟨rfl, rfl, rfl, rfl⟩

theorem sameAccount_installArgs (s : SkySctx) (args : OpenArgs) (deviceId : List UInt8)
    (aesKey : Vector UInt8 16) : SameAccount s (installArgs s args deviceId aesKey) := by
  unfold installArgs
  split_ifs <;> exact ⟨rfl, rfl, rfl, rfl⟩

/-- Opening a valid session under its credentials does not clear it. -/
theorem sameAccount_skyOpen {args : OpenArgs} (valid : validateSessionCtx s = true)
    (same : args.credentialsOf s) : SameAccount s (skyOpen s args).2 := by
  obtain ⟨sku, partner, key⟩ := same
  have sameCredentials : args.sameCredentials s = true :=
    (sameCredentials_iff args s).2 ⟨by rw [sku], partner, key⟩
  have kept : SameAccount s s := ⟨rfl, rfl, rfl, rfl⟩
  unfold skyOpen
  cases opened : s.openFlag with
  | true =>
    have still : checkRestored s args = none := by
      simp [checkRestored, magic_of_validateSessionCtx valid, valid, opened]
    rw [still]
    exact kept
  | false =>
    rw [checkRestored_valid valid opened, if_neg (by simp [sameCredentials])]
    dsimp only
    cases args.gettime with
    | none => exact kept
    | some now =>
      dsimp only
      rw [if_neg (magic_of_validateSessionCtx valid)]
      have defaults := sameAccount_configDefaults s
      cases args.deviceId with
      | none => exact defaults
      | some deviceId =>
        rw [key]
        exact defaults.trans (sameAccount_installArgs _ args deviceId s.aesKey)

def Call.times : Call → List ℤ
  | .openSession args => args.gettime.toList
  | .newRequest _ _ _ now => [now]
  | .onCtx _ (.decodeResponse _ _ now later) => [now, later]
  | _ => []

/-- A clock that is set and does not run backwards. -/
structure IsClock (times : List ℤ) : Prop where
  ordered : times.Pairwise (· ≤ ·)
  set : ∀ t ∈ times, TIMESTAMP_2019_03_01 ≤ t ∧ t < 2 ^ 32

variable (env : Env)

/-- What a response may do to the backoff: one step up after a failed registration,
back to the bottom with a token or a location, and nothing else. -/
def World.movesBackoff (w : World) : Call → Prop
  | .onCtx id (.decodeResponse resp loc now later) => ∀ r ∈ w.ctx id,
      let d := skyDecodeResponse env.cipherBits w.sctx r loc resp now later
      (d.AuthFailed → (w.sctx.backoff, d.sctx.backoff) ∈ backoffSteps) ∧
        (d.Resets r → d.sctx.backoff = .none) ∧
        (¬ d.AuthFailed → ¬ d.Resets r → d.sctx.backoff = w.sctx.backoff)
  | _ => True

/-- The call decodes a response at time `t` and leaves the session at a step of the
backoff with a period. -/
def World.backsOff (w : World) (call : Call) (t : ℤ) (backoff : SkyErrno) : Prop :=
  backoff.IsPeriod ∧ ∃ id resp loc later, call = .onCtx id (.decodeResponse resp loc t later) ∧
    ∃ r ∈ w.ctx id, let d := skyDecodeResponse env.cipherBits w.sctx r loc resp t later
      ¬ d.errno.turnedAway ∧ d.sctx.backoff = backoff

/-- A call that does not end the backoff: the session is opened under its own
credentials, and a response leaves the backoff alone. -/
def World.staysInBackoff (w : World) : Call → Prop
  | .openSession args => args.credentialsOf w.sctx
  | .onCtx id (.decodeResponse resp loc now later) =>
    (w.step env (.onCtx id (.decodeResponse resp loc now later))).sctx.backoff = w.sctx.backoff
  | _ => True

/-- Before the deadline no request is started, and no request started before it is
encoded. -/
def World.refusesUntil (deadline : ℤ) (w : World) : Call → Prop
  | .newRequest _ rbufsize ulAppData now =>
    now < deadline → (skyNewRequest rbufsize w.sctx ulAppData now).rctx = none
  | .onCtx id (.encodeRequest buf random) => ∀ r ∈ w.ctx id,
      (r.header.time.toNat : ℤ) < deadline →
        (skyEncodeRequest env.codec w.sctx r buf random).errno ≠ .none
  | _ => True

/-- The session after a call: it is opened, a response is decoded, or its account
is kept. -/
theorem World.step_sctx_cases (w : World) (call : Call) :
    (∃ args, call = .openSession args) ∨
      (∃ id resp loc now later, call = .onCtx id (.decodeResponse resp loc now later) ∧
        ∃ r ∈ w.ctx id, (w.step env call).sctx =
          (skyDecodeResponse env.cipherBits w.sctx r loc resp now later).sctx) ∨
      SameAccount w.sctx (w.step env call).sctx := by
  cases call with
  | openSession args => exact .inl ⟨args, rfl⟩
  | close =>
    refine .inr (.inr ?_)
    unfold World.step skyClose
    dsimp only
    split_ifs <;> exact ⟨rfl, rfl, rfl, rfl⟩
  | newRequest id rbufsize ulAppData now =>
    have same := (skyNewRequest_sctx rbufsize w.sctx ulAppData now).sameAccount
    refine .inr (.inr ?_)
    unfold World.step
    dsimp only
    split_ifs
    · exact same
    · exact same
  | onCtx id call =>
    cases member : w.ctx id with
    | none =>
      rw [World.step_onCtx_none call member]
      exact .inr (.inr ⟨rfl, rfl, rfl, rfl⟩)
    | some r =>
      rw [World.step_onCtx_some call member]
      by_cases decode : ∃ resp loc now later, call = .decodeResponse resp loc now later
      · obtain ⟨resp, loc, now, later, rfl⟩ := decode
        exact .inr (.inl ⟨id, resp, loc, now, later, rfl, r, member, rfl⟩)
      · have same := CtxCall.apply_same env w.sctx r call fun resp loc now later eq =>
          decode ⟨resp, loc, now, later, eq⟩
        exact .inr (.inr same.1.sameAccount)

theorem skyOpen_onLadder (args : OpenArgs) (ladder : s.backoff.OnLadder) :
    (skyOpen s args).2.backoff.OnLadder := by
  have installed (base : SkySctx) (deviceId : List UInt8) (aesKey : Vector UInt8 16) :
      (installArgs base args deviceId aesKey).backoff = base.backoff :=
    (sameAccount_installArgs base args deviceId aesKey).backoff
  rcases skyOpen_cases s args with ⟨magic, -, opened⟩ | ⟨base, start, opened⟩
  · rw [opened]
    exact ladder
  · have onBase : (configDefaults base).backoff.OnLadder := by
      rcases start with ⟨rfl, -⟩ | ⟨now, rfl⟩
      · exact ladder
      · exact (by decide : SkyErrno.none.OnLadder)
    rcases opened with opened | ⟨deviceId, aesKey, opened⟩
    · rw [opened]
      exact onBase
    · rw [opened, installed]
      exact onBase

theorem DecodeResult.MovesBackoff.onLadder {r : SkyRctx} {d : DecodeResult}
    (moves : d.MovesBackoff s r) (ladder : s.backoff.OnLadder) : d.sctx.backoff.OnLadder := by
  by_cases failed : d.AuthFailed
  · rw [moves.1 failed]
    exact s.backoff.nextBackoff_isAuthRetry.onLadder
  · by_cases reset : d.Resets r
    · rw [moves.2.1 reset]
      decide
    · rw [moves.2.2 failed reset]
      exact ladder

theorem World.step_onLadder (w : World) (call : Call) (ladder : w.sctx.backoff.OnLadder) :
    (w.step env call).sctx.backoff.OnLadder := by
  rcases w.step_sctx_cases env call with
    ⟨args, rfl⟩ | ⟨id, resp, loc, now, later, -, r, -, eq⟩ | same
  · exact skyOpen_onLadder args ladder
  · rw [eq]
    exact (skyDecodeResponse_movesBackoff env.cipherBits w.sctx r loc resp now later).onLadder
      ladder
  · rw [same.backoff]
    exact ladder

theorem World.movesBackoff_of_onLadder (w : World) (call : Call)
    (ladder : w.sctx.backoff.OnLadder) : w.movesBackoff env call := by
  unfold World.movesBackoff
  split
  · intro r member
    have moves := skyDecodeResponse_movesBackoff env.cipherBits w.sctx r
    refine ⟨fun failed => ?_, (moves _ _ _ _).2.1, (moves _ _ _ _).2.2⟩
    rw [(moves _ _ _ _).1 failed]
    exact ladder.step
  · trivial

variable {env} {w : World} {call : Call}

theorem World.step_quiet (quiet : w.sctx.Quiet t b) (period : b.IsPeriod)
    (clock : ∀ now ∈ call.times, t ≤ now ∧ 0 ≤ now ∧ now < 2 ^ 32)
    (stays : w.staysInBackoff env call) : (w.step env call).sctx.Quiet t b := by
  rcases w.step_sctx_cases env call with
    ⟨args, rfl⟩ | ⟨id, resp, loc, now, later, rfl, r, -, eq⟩ | same
  · exact quiet.same (sameAccount_skyOpen quiet.valid stays)
  · have backoff : (w.step env (.onCtx id (.decodeResponse resp loc now later))).sctx.backoff = b :=
      Eq.trans stays quiet.backoff
    rw [eq] at backoff ⊢
    by_cases turned :
        (skyDecodeResponse env.cipherBits w.sctx r loc resp now later).errno.turnedAway
    · rw [skyDecodeResponse_turnedAway turned]
      exact quiet
    · obtain ⟨later, nonneg, small⟩ := clock now (.head _)
      have read := skyDecodeResponse_quiet rfl turned (by rw [backoff]; exact period.ne_none)
        nonneg small
      exact ⟨read.valid, backoff, later.trans read.since⟩
  · exact quiet.same same

theorem SkySctx.Quiet.backoffViolation (quiet : s.Quiet t b) (period : b.IsPeriod) {now : ℤ}
    (early : now < t + b.backoffPeriod) : backoffViolation s now = true := by
  have since := quiet.since
  apply backoffViolation_of_isPeriod
  · rwa [quiet.backoff]
  · rw [quiet.backoff]
    omega

theorem World.refusesUntil_of_quiet (quiet : w.sctx.Quiet t b) (period : b.IsPeriod)
    (clock : ∀ now ∈ call.times, TIMESTAMP_2019_03_01 ≤ now) :
    w.refusesUntil env (t + b.backoffPeriod) call := by
  unfold World.refusesUntil
  split
  · intro early
    rename_i rbufsize ulAppData now
    have started : startTime now = now := by
      have set := clock now (.head _)
      rw [startTime, if_neg (by omega)]
    rw [← started] at early
    exact skyNewRequest_denied (quiet.backoffViolation period early) rbufsize ulAppData
  · intro r member early
    exact skyEncodeRequest_denied (quiet.backoffViolation period early) env.codec _ _
  · trivial

variable (env)

/-- The backoff is enforced over every run: a response moves it along the ladder
only, and after a response at time `t` that reaches a step with a period, requests
are refused until the period since `t` is over or a response changes the backoff. -/
theorem backoff_enforced (cacheSize : ℕ) (calls : List Call) :
    Along (World.step env) (World.movesBackoff env) (World.start cacheSize) calls ∧
      ∀ before call after t b, calls = before ++ call :: after →
        IsClock (calls.flatMap Call.times) →
        ((World.start cacheSize).run env before).backsOff env call t b →
        Along (World.step env) (World.staysInBackoff env)
          (((World.start cacheSize).run env before).step env call) after →
        Along (World.step env) (World.refusesUntil env (t + b.backoffPeriod))
          (((World.start cacheSize).run env before).step env call) after := by
  constructor
  · have preserved (w : World) (call : Call) (ladder : w.sctx.backoff.OnLadder) (_ : True) :
        (w.step env call).sctx.backoff.OnLadder := w.step_onLadder env call ladder
    have start : (World.start cacheSize).sctx.backoff.OnLadder :=
      (by decide : SkyErrno.none.OnLadder)
    apply along_mono preserved start along_true
    intro w call ladder _
    exact w.movesBackoff_of_onLadder env call ladder
  · intro before call after t b split clock backsOff stays
    obtain ⟨period, id, resp, loc, later, rfl, r, member, read, backoff⟩ := backsOff
    have nonneg : (0 : ℤ) ≤ TIMESTAMP_2019_03_01 := by decide
    -- the clock of the rest of the run is at `t` or later
    have rest : ∀ call ∈ after, ∀ now ∈ call.times,
        t ≤ now ∧ TIMESTAMP_2019_03_01 ≤ now ∧ now < 2 ^ 32 := by
      intro call member now read
      have inAfter : now ∈ after.flatMap Call.times := List.mem_flatMap.2 ⟨call, member, read⟩
      have ordered := clock.ordered
      rw [split, List.flatMap_append, List.flatMap_cons] at ordered
      have tail := (List.pairwise_append.1 (List.pairwise_append.1 ordered).2.1).2.2
      refine ⟨tail t (.head _) now inAfter, clock.set now ?_⟩
      rw [split]
      simp [inAfter]
    have start := clock.set t (by rw [split]; simp [Call.times])
    have quiet : ((((World.start cacheSize).run env before)).step env
        (.onCtx id (.decodeResponse resp loc t later))).sctx.Quiet t b := by
      rw [World.step_onCtx_some _ member]
      have first := skyDecodeResponse_quiet rfl read (by rw [backoff]; exact period.ne_none)
        (nonneg.trans start.1) start.2
      rwa [backoff] at first
    have preserved (w : World) (call : Call) (quiet : w.sctx.Quiet t b)
        (condition : w.staysInBackoff env call ∧ ∀ now ∈ call.times,
          t ≤ now ∧ TIMESTAMP_2019_03_01 ≤ now ∧ now < 2 ^ 32) :
        (w.step env call).sctx.Quiet t b := by
      refine World.step_quiet quiet period ?_ condition.1
      intro now read
      obtain ⟨later, set, small⟩ := condition.2 now read
      exact ⟨later, nonneg.trans set, small⟩
    apply along_mono preserved quiet (along_and.2 ⟨stays, along_of_forall rest⟩)
    intro w call quiet condition
    exact World.refusesUntil_of_quiet quiet period fun now read => (condition.2 now read).2.1

def refusal : Response where
  bufLen := 14
  hdrSize := 13
  header := some ⟨0, 0, .authError⟩
  cryptoInfo := none
  rs := none

def tbrOpen (now : ℤ) : OpenArgs :=
  ⟨some [1, 2, 3, 4, 5, 6], 1, some (Vector.replicate 16 0), some [97, 98, 99], 0, 0, some now⟩

def refusedOnce : List Call :=
  [.openSession (tbrOpen 1600000000), .newRequest 0 sizeofSkyRctx [] 1600000000,
    .onCtx 0 (.decodeResponse refusal SkyLocation.zero 1600000010 1600000010)]

def retries : List Call :=
  [.close, .openSession (tbrOpen 1600000030), .newRequest 1 sizeofSkyRctx [] 1600000040,
    .onCtx 0 (.encodeRequest (some (List.replicate 64 0)) [])]

/-- After a second refusal the retries are turned down for eight hours. -/
theorem retries_refused :
    Along (World.step bareEnv) (World.refusesUntil bareEnv (1600000020 + 8 * 3600))
      (((World.start 1).run bareEnv refusedOnce).step bareEnv
        (.onCtx 0 (.decodeResponse refusal SkyLocation.zero 1600000020 1600000020))) retries := by
  have decoded : (((World.start 1).run bareEnv refusedOnce).ctx 0).map (fun r =>
      let d := skyDecodeResponse bareEnv.cipherBits ((World.start 1).run bareEnv refusedOnce).sctx r
        SkyLocation.zero refusal 1600000020 1600000020
      (d.errno, d.sctx.backoff)) = some (.authRetry8H, .authRetry8H) := by decide +kernel
  obtain ⟨r, member, eq⟩ := Option.map_eq_some_iff.1 decoded
  obtain ⟨errno, backoff⟩ := Prod.mk.inj eq
  apply (backoff_enforced bareEnv 1 _).2 refusedOnce _ retries 1600000020 .authRetry8H rfl
  · constructor
    · decide
    · decide
  · refine ⟨by decide, 0, refusal, SkyLocation.zero, 1600000020, rfl, r, member, ?_, backoff⟩
    rw [errno]
    decide
  · refine ⟨trivial, ⟨?_, ?_, ?_⟩, trivial, trivial, trivial⟩
    · decide +kernel
    · decide +kernel
    · decide +kernel

end EmbeddedClient
