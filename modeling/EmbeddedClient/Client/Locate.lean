import EmbeddedClient.Client.Serving

/-!
# Locating a device

Against a server with a token, a `locate` of the sample client ends with a location: at once if the
session needs no token or has the right one, after a registration if it has none, and after a
refusal and a registration if it has another.
-/

namespace EmbeddedClient

open Runs

theorem toInt_toInt32_inj (n m : UInt32) : n.toInt32.toInt = m.toInt32.toInt ↔ n = m := by
  constructor
  · intro same
    have words := congrArg Int32.toUInt32 (Int32.toInt.inj same)
    simpa using words
  · rintro rfl
    rfl

theorem SkySctx.skuChars_ne_nil {s : SkySctx} : skuChars s.sku ≠ [] ↔ s.isTbrEnabled = true := by
  have first : s.sku.toList = s.sku[0] :: s.sku.toList.tail := by
    have some : 0 < s.sku.toList.length := by simp
    rw [← List.cons_head_tail (List.ne_nil_of_length_pos some)]
    simp [List.head_eq_getElem]
  rw [skuChars, first, List.takeWhile_cons, SkySctx.isTbrEnabled]
  by_cases zero : s.sku[0] = 0 <;> simp [zero]

theorem rqReport_unregistered {s : SkySctx} (auth : s.authState = .unregistered) (r : SkyRctx) :
    (rqReport s r).sku ≠ [] := by
  unfold SkySctx.authState at auth
  split_ifs at auth with disabled unknown
  have enabled : s.isTbrEnabled = true := by simpa using disabled
  have registers : s.locates = false := by simp [SkySctx.locates, enabled, unknown]
  simpa [rqReport, registers] using SkySctx.skuChars_ne_nil.2 enabled

theorem rqReport_located {s : SkySctx} (auth : s.authState ≠ .unregistered) (r : SkyRctx) :
    (rqReport s r).sku = [] ∧
      (s.authState = .disabled → (rqReport s r).tokenId = 0) ∧
      (s.authState = .registered → (rqReport s r).tokenId = s.tokenId.toInt32.toInt ∧
        s.tokenId ≠ TBR_TOKEN_UNKNOWN) := by
  unfold SkySctx.authState at auth ⊢
  split_ifs at auth ⊢ with disabled unknown
  · have plain : s.isTbrEnabled = false := by simpa using disabled
    simp [rqReport, SkySctx.locates, plain]
  · exact absurd rfl auth
  · have enabled : s.isTbrEnabled = true := by simpa using disabled
    have locates : s.locates = true := by rw [SkySctx.locates, decide_eq_true unknown, Bool.or_true]
    refine ⟨if_pos locates, fun absent => absurd absent (by decide),
      fun _ => ⟨if_pos enabled, unknown⟩⟩

section Sending

variable {env : Env} {d : Decoders} {keys : ℤ → Vector UInt8 16}
  {answer : RequestReport → LocStatus × List UInt8}
variable {cacheSize id : ℕ} {w : World} {r : SkyRctx} {round : Round} {token : UInt32}
  {location : RequestReport → Rs}

/-- What an answer to a request with or without a token leaves to the next round. -/
structure DecodeResult.Continues (d : DecodeResult) (s : SkySctx) (r : SkyRctx)
    (state : SkyTbrState) : Prop where
  rctx : d.rctx = { r with authState := state }
  sctx : SameCache s { d.sctx with header := s.header, tokenId := s.tokenId, backoff := s.backoff }
  auth : d.sctx.authState = state
  allowed : d.errno = .authRetry ∧ (d.sctx.backoff = .none ∨ d.sctx.backoff = .authRetry)

theorem SkySctx.authState_token {s s' : SkySctx} (enabled : s.authState ≠ .disabled)
    (sku : s'.sku = s.sku) :
    s'.authState = if s'.tokenId = TBR_TOKEN_UNKNOWN then .unregistered else .registered := by
  unfold SkySctx.authState SkySctx.isTbrEnabled at enabled ⊢
  rw [sku]
  split_ifs at enabled ⊢ with disabled
  all_goals first | rfl | exact absurd rfl enabled

theorem continues_of {s : SkySctx} {r : SkyRctx} (enabled : s.authState ≠ .disabled) (rs : Rs)
    (now : ℤ) (token : UInt32) (cacheHits : UInt8) {backoff : SkyErrno}
    (quiet : backoff = .none ∨ backoff = .authRetry) (loc : SkyLocation) :
    DecodeResult.Continues ⟨.authRetry, { applyConfig (s.stamp now) rs with
        tokenId := token, cacheHits := cacheHits, backoff := backoff },
      { r with authState := if token = TBR_TOKEN_UNKNOWN then .unregistered else .registered },
      loc⟩ s r
      (if token = TBR_TOKEN_UNKNOWN then .unregistered else .registered) := by
  obtain ⟨same, cacheline⟩ := sameCache_applyConfig (s.stamp now) rs
  refine ⟨rfl, ⟨?_, cacheline⟩, SkySctx.authState_token enabled same.sku, rfl, quiet⟩
  exact ⟨rfl, same.openFlag, same.plugins, rfl, same.sku, rfl, same.partnerId, same.aesKey,
    same.numCachelines, same.lines⟩

/-- The next round of a context. -/
theorem World.Ready.next {resp : Response} {loc : SkyLocation} {now later : ℤ} {state : SkyTbrState}
    (ready : w.Ready env cacheSize id r) (serves : w.Serves env d keys)
    (goesOn : (skyDecodeResponse env.cipherBits w.sctx r loc resp now later).Continues
      w.sctx r state) :
    ∃ u : World, u.sctx = (skyDecodeResponse env.cipherBits w.sctx r loc resp now later).sctx ∧
      u.Ready env cacheSize id { r with authState := state } ∧ u.Serves env d keys ∧
      Carries w.sctx r u.sctx { r with authState := state } := by
  have own := ready.sends r.content (.own r w.sctx)
  have capacity : w.withinCapacity (.onCtx id (.decodeResponse resp loc now later)) := by
    intro r' member
    rw [ready.member] at member
    rw [← Option.some.inj member]
    exact own.numBeacons
  have stepped : w.step env (.onCtx id (.decodeResponse resp loc now later)) = _ :=
    World.step_onCtx_some _ ready.member
  have setup := sameSetup_skyDecodeResponse env.cipherBits w.sctx r loc resp now later
  obtain ⟨rctx, sctx, auth, -, backoff⟩ := goesOn
  have offered (c : Content) (offers : SkyRctx.Offers { r with authState := state }
      (skyDecodeResponse env.cipherBits w.sctx r loc resp now later).sctx c) : r.Offers w.sctx c :=
    offers.congr sctx.cacheline (.own ..) fun found => ⟨found, rfl⟩
  refine ⟨w.step env (.onCtx id (.decodeResponse resp loc now later)),
    by rw [stepped]; rfl, ?_, ?_, ?_⟩
  · constructor
    · exact ready.reached.step capacity trivial
    · rw [stepped]
      exact (Function.update_self ..).trans (congrArg some rctx)
    · rw [stepped]
      exact sctx.session.openFlag.trans ready.isOpen
    · rw [stepped]
      exact fun c offers => ready.sends c (offered c offers)
    · rw [stepped]
      show backoffViolation (skyDecodeResponse env.cipherBits w.sctx r loc resp now later).sctx _ =
        false
      unfold backoffViolation
      rcases backoff with backoff | backoff <;> rw [backoff]
    · rw [stepped]
      exact auth.symm
  · rw [stepped]
    exact serves.congr ⟨sctx.session.partnerId, sctx.session.aesKey⟩
  · rw [stepped]
    exact ⟨offered, setup, rfl⟩

/-- A round of a context that has no token brings it one. -/
theorem World.Ready.granted (ready : w.Ready env cacheSize id r) (serves : w.Serves env d keys)
    (served : round.Served env d keys answer) (server : Authenticates d answer token location)
    (auth : r.authState = .unregistered) (loc : SkyLocation) :
    ∃ (u : World) (r' : SkyRctx) (loc' : SkyLocation),
      locateRound env d ⟨w.sctx, r, loc⟩ round = .again ⟨u.sctx, r', loc'⟩ ∧
      u.Ready env cacheSize id r' ∧ u.Serves env d keys ∧ r'.authState = .registered ∧
        u.sctx.tokenId = token ∧
      Carries w.sctx r u.sctx r' := by
  obtain ⟨-, -, -, prepared, next, carried⟩ := ready.sized round
  obtain ⟨session, request⟩ := same_prepareRequest w.sctx r
  have unregistered : (prepareRequest w.sctx r).2.authState = .unregistered :=
    request.authState.trans auth
  have kind := rqReport_unregistered (next.auth.symm.trans unregistered) (prepareRequest w.sctx r).2
  obtain ⟨rs, understood, granted⟩ := server.registers
    (requestReport (w.sizedFor env id round).sctx (prepareRequest w.sctx r).2) kind
  obtain ⟨resp, s', r', loc', cacheHits, outcome, decoded, ends⟩ :=
    ready.answered serves served server loc understood
  obtain ⟨reported, result⟩ :=
    outcome.granted_of unregistered (granted ▸ server.good) cacheHits round.later
  rw [result] at decoded
  have goesOn := continues_of (r := (prepareRequest w.sctx r).2)
      (s := (w.sizedFor env id round).sctx)
    (by rw [← next.auth, unregistered]; decide) rs round.now rs.tokenId cacheHits
      (.inl rfl) reported
  rw [granted, if_neg server.good] at goesOn
  rw [granted] at decoded
  obtain ⟨u, sctx, ready', serves', carries⟩ :=
    next.next (serves.sizedFor ready round) (decoded ▸ goesOn)
  refine ⟨u, _, reported, ?_, ready', serves', rfl, ?_, carried.trans carries⟩
  · rw [ends, sctx, decoded]
    rfl
  · rw [sctx, decoded]

/-- A round of a context with another token takes the token away, and moves the backoff on. -/
theorem World.Ready.revoked (ready : w.Ready env cacheSize id r) (serves : w.Serves env d keys)
    (served : round.Served env d keys answer) (server : Authenticates d answer token location)
    (auth : r.authState = .registered) (stale : w.sctx.tokenId ≠ token) (loc : SkyLocation) :
    let u := w.sizedFor env id round
    let p := (prepareRequest w.sctx r).2
    ∃ resp rs cacheHits loc', skyDecodeResponse env.cipherBits u.sctx p loc resp round.now
      round.later =
      ⟨w.sctx.backoff.nextBackoff, { applyConfig (u.sctx.stamp round.now) rs with
          tokenId := TBR_TOKEN_UNKNOWN, cacheHits := cacheHits,
            backoff := w.sctx.backoff.nextBackoff },
        { p with authState := .unregistered }, loc'⟩ ∧
      locateRound env d ⟨w.sctx, r, loc⟩ round =
        (skyDecodeResponse env.cipherBits u.sctx p loc resp round.now round.later).outcome := by
  intro u p
  obtain ⟨-, -, -, prepared, next, -⟩ := ready.sized round
  obtain ⟨session, request⟩ := same_prepareRequest w.sctx r
  have registered : p.authState = .registered := request.authState.trans auth
  have state := next.auth.symm.trans registered
  obtain ⟨noSku, -, given⟩ := rqReport_located (by rw [state]; decide) p
  obtain ⟨sent, known⟩ := given state
  have sameToken : u.sctx.tokenId = w.sctx.tokenId := by rw [prepared, session.tokenId]
  have zero := toInt_toInt32_inj u.sctx.tokenId TBR_TOKEN_UNKNOWN
  obtain ⟨denied, rs, understood⟩ := server.refuses (requestReport u.sctx p) noSku
    (sent.trans_ne (zero.not.2 known))
      (sent.trans_ne (by rwa [ne_eq, toInt_toInt32_inj, sameToken]))
  obtain ⟨resp, s', r', loc', cacheHits, outcome, decoded, ends⟩ :=
    ready.answered serves served server loc understood
  obtain ⟨reported, result⟩ := outcome.revoked_of registered denied cacheHits round.later
  have backoff : (applyConfig (u.sctx.stamp round.now) rs).backoff = w.sctx.backoff := by
    rw [(sameCache_applyConfig (u.sctx.stamp round.now) rs).session.backoff]
    show u.sctx.backoff = w.sctx.backoff
    rw [prepared, session.backoff]
  rw [result, backoff] at decoded
  exact ⟨resp, rs, cacheHits, reported, decoded, ends⟩

theorem World.Ready.refused (ready : w.Ready env cacheSize id r) (serves : w.Serves env d keys)
    (served : round.Served env d keys answer) (server : Authenticates d answer token location)
    (auth : r.authState = .registered) (stale : w.sctx.tokenId ≠ token)
    (quiet : w.sctx.backoff = .none) (loc : SkyLocation) :
    ∃ (u : World) (r' : SkyRctx) (loc' : SkyLocation),
      locateRound env d ⟨w.sctx, r, loc⟩ round = .again ⟨u.sctx, r', loc'⟩ ∧
      u.Ready env cacheSize id r' ∧ u.Serves env d keys ∧ r'.authState = .unregistered ∧
      Carries w.sctx r u.sctx r' := by
  obtain ⟨-, -, -, -, next, carried⟩ := ready.sized round
  obtain ⟨resp, rs, cacheHits, reported, decoded, ends⟩ :=
    ready.revoked serves served server auth stale loc
  have enabled : (w.sizedFor env id round).sctx.authState ≠ .disabled := by
    rw [← next.auth, (same_prepareRequest w.sctx r).2.authState, auth]
    decide
  have goesOn :=
    continues_of (r := (prepareRequest w.sctx r).2) enabled rs round.now TBR_TOKEN_UNKNOWN cacheHits
    (.inr rfl) reported
  rw [if_pos rfl] at goesOn
  rw [quiet] at decoded
  obtain ⟨u, sctx, ready', serves', carries⟩ :=
    next.next (serves.sizedFor ready round) (decoded ▸ goesOn)
  refine ⟨u, _, reported, ?_, ready', serves', rfl, carried.trans carries⟩
  rw [ends, sctx, decoded]
  rfl

/-- A round of a context that needs no token, or has the right one, ends with a location. -/
theorem World.Ready.located (ready : w.Ready env cacheSize id r) (serves : w.Serves env d keys)
    (served : round.Served env d keys answer) (server : Authenticates d answer token location)
    (auth : r.authState ≠ .unregistered) (good : r.authState = .registered → w.sctx.tokenId = token)
    (loc : SkyLocation) :
    ∃ p s v, locateRound env d ⟨w.sctx, r, loc⟩ round = .done (true, p) ∧ Carries w.sctx r s v ∧
      p.loc = (location (requestReport s v)).location round.later ∧
        p.sctx.tokenId = w.sctx.tokenId := by
  obtain ⟨-, -, -, prepared, next, carried⟩ := ready.sized round
  obtain ⟨session, request⟩ := same_prepareRequest w.sctx r
  have state := next.auth.symm.trans request.authState
  have sameToken : (w.sizedFor env id round).sctx.tokenId = w.sctx.tokenId := by
    rw [prepared, session.tokenId]
  obtain ⟨noSku, plain, given⟩ := rqReport_located (by rwa [state]) (prepareRequest w.sctx r).2
  have token : (rqReport (w.sizedFor env id round).sctx (prepareRequest w.sctx r).2).tokenId = 0 ∨
      (rqReport (w.sizedFor env id round).sctx (prepareRequest w.sctx r).2).tokenId =
        token.toInt32.toInt := by
    cases kind : r.authState with
    | disabled => exact .inl (plain (state.trans kind))
    | unregistered => exact absurd kind auth
    | registered => exact .inr ((given (state.trans kind)).1.trans (by rw [sameToken, good kind]))
  obtain ⟨success, understood⟩ := server.locates
    (requestReport (w.sizedFor env id round).sctx (prepareRequest w.sctx r).2) noSku token
  obtain ⟨resp, s', r', loc', cacheHits, outcome, decoded, ends⟩ :=
    ready.answered serves served server loc understood
  obtain ⟨errno, place, kept⟩ :=
    outcome.located_of (by rwa [request.authState]) success cacheHits round.later
  rw [← decoded] at errno place kept
  refine ⟨_, _, _, ends.trans (if_pos errno), carried, place, kept.trans ?_⟩
  exact (sameCache_applyConfig ((w.sizedFor env id round).sctx.stamp round.now)
    _).session.tokenId.trans sameToken

/-- The loop ends with the location that the server has for something the context offers, and with
this token. -/
def Progress.Located (env : Env) (d : Decoders) (location : RequestReport → Rs) (p : Progress)
    (rounds : List Round) (token : UInt32) : Prop :=
  ∃ q s v, ∃ round ∈ rounds, retryAfterAuth env d p rounds = .done (true, q) ∧
    Carries p.sctx p.rctx s v ∧
    q.loc = (location (requestReport s v)).location round.later ∧ q.sctx.tokenId = token

variable {rounds : List Round}

theorem Progress.Located.again {p p' : Progress} (goesOn : locateRound env d p round = .again p')
    (carries : Carries p.sctx p.rctx p'.sctx p'.rctx)
    (located : p'.Located env d location rounds token) :
    p.Located env d location (round :: rounds) token := by
  obtain ⟨q, s, v, last, member, ends, given, place, kept⟩ := located
  refine ⟨q, s, v, last, .tail _ member, ?_, carries.trans given, place, kept⟩
  rw [← ends]
  exact Retry.loop_cons_again goesOn

/-- A context that needs no token or has the right one takes one round. -/
theorem World.Ready.located_one (ready : w.Ready env cacheSize id r) (serves : w.Serves env d keys)
    (served : round.Served env d keys answer) (server : Authenticates d answer token location)
    (auth : r.authState ≠ .unregistered) (good : r.authState = .registered → w.sctx.tokenId = token)
    (loc : SkyLocation) :
    Progress.Located env d location ⟨w.sctx, r, loc⟩ (round :: rounds) w.sctx.tokenId := by
  obtain ⟨p, s, v, ends, carried, place, kept⟩ := ready.located serves served server auth good loc
  exact ⟨p, s, v, round, .head _, Retry.loop_cons_done ends, carried, place, kept⟩

theorem World.Ready.located_two {next : Round} (ready : w.Ready env cacheSize id r)
    (serves : w.Serves env d keys) (served : round.Served env d keys answer)
    (servedNext : next.Served env d keys answer) (server : Authenticates d answer token location)
    (auth : r.authState = .unregistered) (loc : SkyLocation) :
    Progress.Located env d location ⟨w.sctx, r, loc⟩ (round :: next :: rounds) token := by
  obtain ⟨u, r', loc', goesOn, ready', serves', registered, granted, carried⟩ :=
    ready.granted serves served server auth loc
  have located :
      Progress.Located env d location ⟨u.sctx, r', loc'⟩ (next :: rounds) u.sctx.tokenId :=
    ready'.located_one serves' servedNext server (by rw [registered]; decide)
      (fun _ => granted) loc'
  rw [granted] at located
  exact located.again goesOn carried

theorem World.Ready.located_three {next last : Round} (ready : w.Ready env cacheSize id r)
    (serves : w.Serves env d keys) (served : ∀ i ∈ [round, next, last], i.Served env d keys answer)
    (server : Authenticates d answer token location) (auth : r.authState = .registered)
    (stale : w.sctx.tokenId ≠ token) (quiet : w.sctx.backoff = .none) (loc : SkyLocation) :
    Progress.Located env d location ⟨w.sctx, r, loc⟩ (round :: next :: last :: rounds) token := by
  obtain ⟨u, r', loc', goesOn, ready', serves', unregistered, carried⟩ :=
    ready.refused serves (served round (by simp)) server auth stale quiet loc
  have located :
      Progress.Located env d location ⟨u.sctx, r', loc'⟩ (next :: last :: rounds) token :=
    ready'.located_two serves' (served next (by simp))
      (served last (by simp)) server unregistered loc'
  exact located.again goesOn carried

/-- In backoff a context with another token takes two, and fails. -/
theorem World.Ready.fails {next : Round} (ready : w.Ready env cacheSize id r)
    (serves : w.Serves env d keys) (served : round.Served env d keys answer)
    (server : Authenticates d answer token location) (auth : r.authState = .registered)
    (stale : w.sctx.tokenId ≠ token) (backoff : w.sctx.backoff ≠ .none)
    (timely : round.Timely r.header.time) (loc : SkyLocation) :
    ∃ q, retryAfterAuth env d ⟨w.sctx, r, loc⟩ (round :: next :: rounds) = .done (false, q) := by
  obtain ⟨resp, rs, cacheHits, reported, decoded, ends⟩ :=
    ready.revoked serves served server auth stale loc
  have period : w.sctx.backoff.nextBackoff.IsPeriod := by
    revert backoff
    cases w.sctx.backoff <;> decide
  have goesOn : ∃ p', locateRound env d ⟨w.sctx, r, loc⟩ round = .again p' ∧
    p'.sctx.backoff.IsPeriod := by
    rw [ends, decoded]
    have asks := (SkyErrno.retries_iff _).2 (SkyErrno.nextBackoff_isAuthRetry w.sctx.backoff)
    exact ⟨⟨_, _, reported⟩, (if_neg period.ne_none).trans (if_pos asks), period⟩
  obtain ⟨p', goesOn, period'⟩ := goesOn
  have kept := locateRound_goesOn goesOn
  obtain ⟨q, denied⟩ := @locateRound_denied env d p' next (by
    rw [kept.header]
    exact backoffViolation_of_timely period' kept.time timely)
  exact ⟨q, (Retry.loop_cons_again goesOn).trans (Retry.loop_cons_done denied)⟩

/-- The calls of `locate` before its first round. -/
def LocateArgs.calls (args : LocateArgs) (id : ℕ) (loc : SkyLocation) : List Call :=
  .newRequest id args.rbufsize args.ulAppData args.start ::
    (args.fill ++ [CtxCall.searchCache loc]).map (.onCtx id)

theorem LocateArgs.fill_building (args : LocateArgs) (before : SkyLocation) :
    ∀ call ∈ args.fill ++ [CtxCall.searchCache before], ∀ resp loc now later,
      call ≠ .decodeResponse resp loc now later := by
  intro call member resp loc now later same
  subst same
  simp [LocateArgs.fill] at member

theorem World.run_onCtx (env : Env) (member : w.ctx id = some r) (calls : List CtxCall)
    (building : ∀ call ∈ calls, ∀ resp loc now later, call ≠ .decodeResponse resp loc now later) :
    let filled := calls.foldl (fun ctx call => call.apply env ctx.1 ctx.2) (w.sctx, r)
    let u := w.run env (calls.map (.onCtx id))
    u.sctx = filled.1 ∧ u.ctx id = some filled.2 ∧ SameSession w.sctx filled.1 ∧
      SameRequest r filled.2 := by
  induction calls generalizing w r with
  | nil => exact ⟨rfl, member, .refl w.sctx, .refl r⟩
  | cons call calls ih =>
    obtain ⟨session, request⟩ := CtxCall.apply_same env w.sctx r call (building call (.head _))
    have stepped : w.step env (.onCtx id call) = _ := World.step_onCtx_some call member
    have found : (w.step env (.onCtx id call)).ctx id = some (call.apply env w.sctx r).2 := by
      rw [stepped]
      exact Function.update_self ..
    have rest := ih found fun next later => building next (.tail _ later)
    have first : (w.step env (.onCtx id call)).sctx = (call.apply env w.sctx r).1 := by rw [stepped]
    dsimp only at rest ⊢
    rw [first] at rest
    obtain ⟨sctx, ctx, session', request'⟩ := rest
    exact ⟨sctx, ctx, session.trans session', request.trans request'⟩

theorem World.locate_filled (env : Env) (d : Decoders) {args : LocateArgs}
    (size : args.rbufsize = sizeofSkyRctx) (isOpen : w.sctx.openFlag = true)
    (allowed : backoffViolation w.sctx (startTime args.start) = false) (id : ℕ) (loc : SkyLocation)
    (rounds : List Round) :
    let u := w.run env (args.calls id loc)
    ∃ r' loc', u.ctx id = some r' ∧ SameSession w.sctx u.sctx ∧
      SameRequest (SkyRctx.initialized w.sctx args.start) r' ∧
      SampleClient.locate env d w.sctx args loc rounds =
        some (retryAfterAuth env d ⟨u.sctx, r', loc'⟩ rounds) := by
  have started := (skyNewRequest_started_iff args.rbufsize w.sctx args.ulAppData args.start).2
    ⟨size, isOpen, allowed⟩
  have session := skyNewRequest_sctx args.rbufsize w.sctx args.ulAppData args.start
  have context : (skyNewRequest args.rbufsize w.sctx args.ulAppData args.start).rctx =
      some (SkyRctx.initialized w.sctx args.start) := by
    simp [skyNewRequest, size, isOpen, allowed]
  have first : w.step env (.newRequest id args.rbufsize args.ulAppData args.start) =
      ⟨(skyNewRequest args.rbufsize w.sctx args.ulAppData args.start).sctx,
        Function.update w.ctx id (some (SkyRctx.initialized w.sctx args.start))⟩ := by
    simp only [World.step, started, context, true_or, if_true]
  have whole : w.run env (args.calls id loc) =
      (World.mk (skyNewRequest args.rbufsize w.sctx args.ulAppData args.start).sctx
        (Function.update w.ctx id (some (SkyRctx.initialized w.sctx args.start)))).run env
          ((args.fill ++ [CtxCall.searchCache loc]).map (.onCtx id)) := by
    rw [← first]
    rfl
  have member : (World.mk (skyNewRequest args.rbufsize w.sctx args.ulAppData args.start).sctx
      (Function.update w.ctx id (some (SkyRctx.initialized w.sctx args.start)))).ctx id =
        some (SkyRctx.initialized w.sctx args.start) := Function.update_self ..
  obtain ⟨sctx, ctx, kept, request⟩ := World.run_onCtx env member _ (args.fill_building loc)
  rw [← whole] at sctx ctx
  dsimp only
  let filled := args.fill.foldl (fun ctx call => call.apply env ctx.1 ctx.2)
    ((skyNewRequest args.rbufsize w.sctx args.ulAppData args.start).sctx,
      SkyRctx.initialized w.sctx args.start)
  refine ⟨_, (skySearchCache env.distance filled.1 filled.2 loc).loc, ctx,
    sctx ▸ session.trans kept, request, ?_⟩
  rw [SampleClient.locate, context, Option.map_some, sctx, List.foldl_append]
  rfl

theorem World.ready_of_calls {args : LocateArgs} {loc : SkyLocation} {r' : SkyRctx}
    (reached : w.Reached env cacheSize) (isOpen : w.sctx.openFlag = true)
    (clock : TIMESTAMP_2019_03_01 ≤ args.start) (word : args.start < 2 ^ 32)
    (allowed : backoffViolation w.sctx args.start = false)
    (inside : Along (World.step env) (fun w call => w.withinCapacity call ∧ w.UplinkFits call) w
      (args.calls id loc)) (member : (w.run env (args.calls id loc)).ctx id = some r')
    (session : SameSession w.sctx (w.run env (args.calls id loc)).sctx)
    (request : SameRequest (SkyRctx.initialized w.sctx args.start) r')
    (sends : ∀ c, r'.Offers (w.run env (args.calls id loc)).sctx c → c.Sendable) :
    (w.run env (args.calls id loc)).Ready env cacheSize id r' := by
  have nonneg : 0 ≤ args.start := le_trans (by decide) clock
  have time : (r'.header.time.toNat : ℤ) = args.start := by
    rw [request.header]
    exact toNat_timeWord nonneg word
  constructor
  · exact reached.run inside
  · exact member
  · exact session.openFlag.trans isOpen
  · exact sends
  · rw [backoffViolation_congr session, time]
    exact allowed
  · rw [request.authState]
    unfold SkySctx.authState SkySctx.isTbrEnabled
    rw [session.sku, session.tokenId]
    rfl

/-- **A server that is asked for a location gives one within three rounds**: whatever run led to the
session, a `locate` that starts between March 2019 and 2^32 seconds and offers only what can be sent
ends with the location that the server has for the scan, or on a cache hit for that of the line, and
with the token of the server if it has to have one. Only a session in backoff whose token the server
does not know fails, when the responses are timely. -/
theorem locate_located (env : Env) (d : Decoders) (keys : ℤ → Vector UInt8 16)
    (answer : RequestReport → LocStatus × List UInt8) (token : UInt32)
    (location : RequestReport → Rs) (server : Authenticates d answer token location) (cacheSize : ℕ)
    (w : World) (reached : w.Reached env cacheSize) (isOpen : w.sctx.openFlag = true)
    (serves : w.Serves env d keys) (args : LocateArgs) (size : args.rbufsize = sizeofSkyRctx)
    (clock : TIMESTAMP_2019_03_01 ≤ args.start) (word : args.start < 2 ^ 32)
    (allowed : backoffViolation w.sctx args.start = false) (id : ℕ) (loc : SkyLocation)
    (inside : Along (World.step env) (fun w call => w.withinCapacity call ∧ w.UplinkFits call) w
      (args.calls id loc)) (sends : ∀ r ∈ (w.run env (args.calls id loc)).ctx id, ∀ c,
      r.Offers (w.run env (args.calls id loc)).sctx c →
      c.Sendable)
    (rounds : List Round) (served : ∀ round ∈ rounds, round.Served env d keys answer)
    (enough : 3 ≤ rounds.length) :
    (¬ (w.sctx.authState = .registered ∧ w.sctx.tokenId ≠ token ∧ w.sctx.backoff ≠ .none) →
      ∃ q, ∃ r ∈ (w.run env (args.calls id loc)).ctx id, ∃ s v, ∃ round ∈ rounds,
        SampleClient.locate env d w.sctx args loc rounds = some (.done (true, q)) ∧
          Carries (w.run env (args.calls id loc)).sctx r s v ∧
          q.loc = (location (requestReport s v)).location round.later ∧
          (w.sctx.authState ≠ .disabled → q.sctx.tokenId = token)) ∧
      (w.sctx.authState = .registered ∧ w.sctx.tokenId ≠ token ∧ w.sctx.backoff ≠ .none →
        (∀ round ∈ rounds, round.Timely (timeWord args.start)) →
        ∃ q, SampleClient.locate env d w.sctx args loc rounds = some (.done (false, q))) := by
  have started : startTime args.start = args.start := if_neg (by omega)
  obtain ⟨r, loc', member, session, request, begins⟩ :=
    World.locate_filled env d size isOpen (by rwa [started]) id loc rounds
  have ready := World.ready_of_calls reached isOpen clock word allowed inside member session request
    (sends r member)
  have auth : r.authState = w.sctx.authState := request.authState
  have serves' := serves.congr session.sameCredentials
  rw [begins]
  generalize w.run env (args.calls id loc) = u at member session ready serves' ⊢
  obtain ⟨first, next, last, rest, rfl⟩ : ∃ first next last rest, rounds = first :: next ::
    last :: rest := by
    match rounds, enough with
    | first :: next :: last :: rest, _ => exact ⟨first, next, last, rest, rfl⟩
  rw [← auth, ← session.tokenId, ← session.backoff]
  constructor
  · intro possible
    have located :
        ∃ t, Progress.Located env d location ⟨u.sctx, r, loc'⟩ (first :: next :: last :: rest) t ∧
        (r.authState ≠ .disabled → t = token) := by
      by_cases unregistered : r.authState = .unregistered
      · exact ⟨token, ready.located_two serves' (served first (by simp))
          (served next (by simp)) server unregistered loc',
          fun _ => rfl⟩
      · by_cases stale : r.authState = .registered ∧ u.sctx.tokenId ≠ token
        · have quiet : u.sctx.backoff = .none := by
            by_contra backoff
            exact possible ⟨stale.1, stale.2, backoff⟩
          have all : ∀ i ∈ [first, next, last], i.Served env d keys answer :=
            fun i one => served i (by simp at one ⊢; tauto)
          exact ⟨token, ready.located_three serves' all server stale.1 stale.2 quiet loc',
            fun _ => rfl⟩
        · have good : r.authState = .registered → u.sctx.tokenId = token := by
            intro registered
            by_contra other
            exact stale ⟨registered, other⟩
          refine ⟨_, ready.located_one serves' (served first (by simp)) server unregistered good
            loc', fun enabled => ?_⟩
          cases state : r.authState with
          | disabled => exact absurd state enabled
          | unregistered => exact absurd state unregistered
          | registered => exact good state
    obtain ⟨t, ⟨q, s, v, round, one, ends, carried, place, kept⟩, same⟩ := located
    exact ⟨q, r, member, s, v, round, one, congrArg some ends, carried, place,
      fun enabled => kept.trans (same enabled)⟩
  · rintro ⟨registered, stale, backoff⟩ timely
    have time : r.header.time = timeWord args.start := by
      rw [request.header]
      rfl
    obtain ⟨q, ends⟩ := @World.Ready.fails env d keys answer cacheSize id u r first token location
      (last :: rest) next ready
      serves' (served first (by simp)) server registered stale backoff
        (time ▸ timely first (by simp)) loc'
    exact ⟨q, congrArg some ends⟩

end Sending

theorem Content.sendable_iff (c : Content) :
    c.Sendable ↔ (c.numBeacons ≠ 0 ∨ c.gnss.present = true) ∧
    c.numBeacons ≤ TOTAL_BEACONS ∧ c.numAp ≤ MAX_AP_BEACONS + 1 ∧
      (∀ b ∈ c.live, b.isCellType = true → b.identifiersFit) ∧
        (c.gnss.present = true → c.gnss.Encodable) :=
  ⟨fun ⟨content, numBeacons, numAp, cells, position⟩ => ⟨content, numBeacons, numAp,
    cells, position⟩,
    fun ⟨content, numBeacons, numAp, cells, position⟩ => ⟨content, numBeacons, numAp,
      cells, position⟩⟩

instance (c : Content) : Decidable c.Sendable := decidable_of_iff' _ c.sendable_iff

/-- The texts of three requests and their replies with what AES-128 makes of them in CBC mode, under
a key of zeros and one vector each. -/
def tokenTexts : List (List UInt8 × List UInt8 × List UInt8) :=
  [(List.replicate 16 1,
    [10, 6, 1, 2, 3, 4, 5, 6, 16, 228, 160, 248, 250, 5, 26, 23, 34, 12, 137, 128, 128, 128, 128,
      64, 129, 128, 128, 128, 128, 64, 16, 237, 18, 50, 2, 50, 80, 24, 1, 90, 0, 136, 1, 7,
      152, 1, 100, 0],
    [89, 60, 140, 83, 217, 71, 136, 153, 68, 118, 212, 166, 36, 124, 5, 81, 129, 207, 90, 91, 33,
      90, 187, 244, 104, 249, 4, 102, 225, 217, 126, 9, 236, 80, 214, 181, 121, 49, 128, 154, 175,
      138, 217, 220, 12, 187, 105, 215]),
   (List.replicate 16 2,
    [10, 6, 1, 2, 3, 4, 5, 6, 16, 228, 160, 248, 250, 5, 146, 1, 5, 26, 3, 97, 98, 99, 0, 0, 0, 0,
      0, 0, 0, 0, 0, 0],
    [52, 215, 194, 60, 119, 90, 202, 112, 49, 79, 164, 221, 251, 69, 69, 221, 150, 230, 164, 138,
      181, 242, 175, 254, 180, 209, 37, 214, 74, 210, 31, 205]),
   (List.replicate 16 3,
    [10, 6, 1, 2, 3, 4, 5, 6, 16, 228, 160, 248, 250, 5, 26, 23, 34, 12, 137, 128, 128, 128, 128,
      64, 129, 128, 128, 128, 128, 64, 16, 237, 18, 50, 2, 50, 80, 24, 1, 90, 0, 136, 1, 9,
      152, 1, 100, 0],
    [37, 239, 86, 7, 129, 144, 238, 98, 166, 243, 96, 56, 119, 193, 163, 33, 120, 178, 53, 116, 80,
      49, 163, 124, 149, 196, 99, 89, 179, 56, 142, 244, 165, 188, 83, 196, 152, 99, 85, 181, 212,
      22, 22, 74, 47, 73, 79, 150]),
   (List.replicate 16 4, [56, 0, 0, 0, 0, 0, 0, 0, 0, 0, 0, 0, 0, 0, 0, 0],
    [180, 132, 67, 119, 176, 228, 125, 33, 244, 93, 152, 39, 127, 218, 76, 57]),
   (List.replicate 16 5, [56, 9, 0, 0, 0, 0, 0, 0, 0, 0, 0, 0, 0, 0, 0, 0],
    [147, 188, 78, 241, 54, 46, 246, 80, 209, 162, 182, 92, 120, 60, 137, 220]),
   (List.replicate 16 6, replyBody ++ List.replicate 7 0, replyCipher)]

def tokenEnv : Env := { bareEnv with codec := Codec.nanopb (textsAes tokenTexts) }

/-- A device that got the token 7, from a server whose token is 9 by now. -/
def oldTokenCalls : List Call :=
  [.openSession (tbrOpen 1600000000), .newRequest 0 sizeofSkyRctx [] 1600000000,
    .onCtx 0 (.decodeResponse (answer .authError 7) SkyLocation.zero 1600000001 1600000001)]

def tokenAnswer (request : RequestReport) : LocStatus × List UInt8 :=
  if request.rq.sku ≠ [] then (.authError, [56, 9])
  else if request.rq.tokenId = 0 ∨ request.rq.tokenId = 9 then (.success, replyBody)
  else (.authError, [56, 0])

def tokenRs (body : List UInt8) : Option Rs :=
  if body = replyBody then some replyRs
  else if body = [56, 9] then some { Rs.initDefault with tokenId := 9 }
  else if body = [56, 0] then some Rs.initDefault
  else none

def tokenDecoders : Decoders := .nanopb tokenRs (textsAes tokenTexts)

theorem tokenAnswer_authenticates : Authenticates tokenDecoders tokenAnswer 9 fun _ => replyRs where
  good := by decide
  known := by
    intro request code
    unfold tokenAnswer
    split_ifs <;> simp
  nonempty := by
    intro request
    unfold tokenAnswer
    split_ifs <;> simp [replyBody]
  short := by
    intro request
    unfold tokenAnswer
    split_ifs <;> simp [replyBody]
  registers := by
    intro request registration
    refine ⟨{ Rs.initDefault with tokenId := 9 }, ?_, rfl⟩
    rw [tokenAnswer, if_pos registration]
    decide +kernel
  refuses := by
    intro request plain some other
    have unknown : ¬ (request.rq.tokenId = 0 ∨ request.rq.tokenId = 9) := not_or.2 ⟨some, other⟩
    rw [tokenAnswer, if_neg (not_not.2 plain), if_neg unknown]
    exact ⟨rfl, Rs.initDefault, by decide +kernel⟩
  locates := by
    intro request plain known
    have known' : request.rq.tokenId = 0 ∨ request.rq.tokenId = 9 := known
    rw [tokenAnswer, if_neg (not_not.2 plain), if_pos known']
    exact ⟨rfl, by decide +kernel⟩

def tokenRound (vector reply : UInt8) (now : ℤ) : Round where
  sizing := List.replicate 16 vector
  request := some []
  random := List.replicate 16 vector
  response := some []
  receive :=
    fun input => (serve (textsAes tokenTexts) (textsAes tokenTexts) (fun _ => Vector.replicate 16 0)
    (List.replicate 16 reply) tokenAnswer input).getD []
  now := now
  later := now

def tokenRounds : List Round :=
  [tokenRound 1 4 1600000101, tokenRound 2 5 1600000102, tokenRound 3 6 1600000103]

def oldTokenWorld : World := (World.start 1).run tokenEnv oldTokenCalls

def tokenScan : LocateArgs where
  rbufsize := sizeofSkyRctx
  ulAppData := []
  start := 1600000100
  beacons := [(apCall 1 (-80), 1600000100), (apCall 9 (-50), 1600000100)]
  gnss := none

theorem tokenScan_located : ∃ q, ∃ round ∈ tokenRounds,
    SampleClient.locate tokenEnv tokenDecoders oldTokenWorld.sctx tokenScan SkyLocation.zero
        tokenRounds = some (.done (true, q)) ∧
      q.loc = replyRs.location round.later ∧ q.sctx.tokenId = 9 := by
  have reached : oldTokenWorld.Reached tokenEnv 1 :=
    ⟨_, _, by decide +kernel, by decide +kernel, rfl⟩
  have facts : (oldTokenWorld.run tokenEnv (tokenScan.calls 1 SkyLocation.zero)).ctx 1
      |>.all fun r => !r.isCacheHit && decide r.content.Sendable := by decide +kernel
  have sends : ∀ r ∈ (oldTokenWorld.run tokenEnv (tokenScan.calls 1 SkyLocation.zero)).ctx 1,
      ∀ c, r.Offers (oldTokenWorld.run tokenEnv (tokenScan.calls 1 SkyLocation.zero)).sctx c →
        c.Sendable := by
    intro r member c offers
    rw [Option.mem_def.1 member] at facts
    simp only [Option.all_some, Bool.and_eq_true, Bool.not_eq_true', decide_eq_true_eq] at facts
    rcases offers with rfl | ⟨hit, -⟩
    · exact facts.2
    · exact absurd (hit.symm.trans facts.1) (by decide)
  have serves : oldTokenWorld.Serves tokenEnv tokenDecoders fun _ => Vector.replicate 16 0 :=
    ⟨Codec.nanopb_writesFields _, textsAes_decryptedBy (by decide +kernel),
      Decoders.nanopb_readsFields _ _, by decide, by decide +kernel⟩
  have served : ∀ round ∈ tokenRounds,
      round.Served tokenEnv tokenDecoders (fun _ => Vector.replicate 16 0) tokenAnswer := by
    intro round member
    have shape : ∃ vector reply now, round = tokenRound vector reply now := by
      simp only [tokenRounds, List.mem_cons, List.not_mem_nil, or_false] at member
      rcases member with rfl | rfl | rfl <;> exact ⟨_, _, _, rfl⟩
    obtain ⟨vector, reply, now, rfl⟩ := shape
    exact ⟨rfl, rfl, List.length_replicate .., List.length_replicate .., List.replicate 16 reply,
      List.length_replicate .., fun _ => rfl⟩
  have located :=
    (locate_located tokenEnv tokenDecoders (fun _ => Vector.replicate 16 0) tokenAnswer 9
      (fun _ => replyRs)
    tokenAnswer_authenticates 1 oldTokenWorld reached (by decide +kernel) serves tokenScan rfl
    (by decide) (by decide) (by decide +kernel) 1 SkyLocation.zero
    (by decide +kernel) sends tokenRounds served (by decide)).1
      (by decide +kernel)
  obtain ⟨q, r, -, s, v, round, member, ends, -, place, token⟩ := located
  exact ⟨q, round, member, ends, place, token (by decide +kernel)⟩

end EmbeddedClient
