import EmbeddedClient.Session.Quiet

/-!
# Requests and their responses

The encoder decides from the token of the session whether a request is a
registration, the decoder decides from the registration state of the context how
its response is read. The state of the library is extended by the request that
each context waits for an answer to. The two sides agree over a run as long as
every request is encoded while the context and the session agree.
-/

namespace EmbeddedClient

open Runs

inductive RequestKind
  | registration
  | location
  deriving DecidableEq, Repr

/-- A registration has neither a token nor beacons. -/
def Rq.kind (rq : Rq) : RequestKind :=
  if rq.tokenId = TBR_TOKEN_UNKNOWN ∧ rq.aps = [] ∧ rq.cells = [] ∧ rq.vaps = [] ∧
      rq.gnss.isNone then .registration
  else .location

/-- The kind of response that `deserialize_response` reads for a context. -/
def SkyRctx.expects (r : SkyRctx) : RequestKind :=
  if r.authState = .unregistered then .registration else .location

theorem encodeVapData_ne_nil (tag numElems : ℕ) (getter : ℕ → List UInt8) :
    encodeVapData tag numElems getter ≠ [] := by
  unfold encodeVapData pbEncodeTag
  dsimp only
  intro eq
  rw [List.append_assoc, List.append_eq_nil_iff] at eq
  exact Varint.encode_ne_nil _ eq.1

/-- The encoder registers when the session has a SKU and no token. -/
theorem buildRq_kind (s : SkySctx) (r : SkyRctx) :
    (buildRq s r).kind = .registration ↔
      s.isTbrEnabled = true ∧ s.tokenId = TBR_TOKEN_UNKNOWN := by
  cases tbr : s.isTbrEnabled with
  | false =>
    have vaps : (buildRq s r).vaps = encodeVapData 11 (getNumVaps r) (getVapData r) := by
      simp [buildRq, rqCallback, tbr]
    simp [Rq.kind, vaps, encodeVapData_ne_nil]
  | true =>
    by_cases token : s.tokenId = TBR_TOKEN_UNKNOWN
    · simp [Rq.kind, buildRq, rqCallback, tbr, token]
    · have sent : (buildRq s r).tokenId = s.tokenId := by
        simp only [buildRq, rqCallback, tbr, if_true, if_neg token]
        split_ifs <;> rfl
      have kind : (buildRq s r).kind = .location := by
        rw [Rq.kind, if_neg]
        intro registration
        exact token (sent.symm.trans registration.1)
      rw [kind]
      exact iff_of_false (by decide) fun registration => token registration.2

theorem expects_eq_iff (r : SkyRctx) :
    r.expects = .registration ↔ r.authState = .unregistered := by
  unfold SkyRctx.expects
  split_ifs with unregistered
  · simp [unregistered]
  · simp [unregistered]

theorem skyDecodeResponse_registration {bits : ℕ} {s : SkySctx} {r : SkyRctx} {loc : SkyLocation}
    {resp : Response} {now later : ℤ} (auth : r.authState = .unregistered) :
    (skyDecodeResponse bits s r loc resp now later).errno ≠ .none ∧
      (skyDecodeResponse bits s r loc resp now later).sctx.cacheline = s.cacheline := by
  have outcome := skyDecodeResponse_outcome bits s r loc resp now later
  have state := (sameRequest_validateRequestCtx r).authState.trans auth
  generalize skyDecodeResponse bits s r loc resp now later = d at outcome ⊢
  cases outcome with
  | rejected errno loc turned => exact ⟨(SkyErrno.turnedAway_not_retry turned).1, rfl⟩
  | undecoded loc valid ctx => exact ⟨(by decide : SkyErrno.decodeError ≠ .none), rfl⟩
  | decoded s' s'' r' loc status rs cacheHits valid ctx sameCache accepted =>
    have denied : loc.locationStatus = .authError ∧ s''.cacheline = s.cacheline := by
      cases accepted with
      | refused => exact ⟨rfl, sameCache.cacheline⟩
      | granted => exact ⟨rfl, sameCache.cacheline⟩
      | revoked registered =>
        rw [state] at registered
        exact absurd registered (by decide)
      | disabled disabled =>
        rw [state] at disabled
        exact absurd disabled (by decide)
      | located notUnregistered => exact absurd state notUnregistered
    have reported := reportLocation_outcome { s'' with cacheHits := cacheHits } r' loc later
    rw [denied.1] at reported
    generalize (reportLocation { s'' with cacheHits := cacheHits } r' loc later).errno = errno
      at reported ⊢
    generalize (reportLocation { s'' with cacheHits := cacheHits } r' loc later).sctx = after
      at reported ⊢
    cases reported with
    | success cacheline located => exact absurd located (by decide)
    | disabled => exact ⟨by decide, denied.2⟩
    | registered => exact ⟨by decide, denied.2⟩
    | unregistered =>
      refine ⟨?_, denied.2⟩
      intro none
      have retry := s''.backoff.nextBackoff_isAuthRetry
      rw [none] at retry
      exact absurd retry (by decide)
    | failed errno notDenied => exact absurd rfl notDenied

/-- The library and, for each context, the request that waits for its response. -/
structure Transactions where
  world : World
  pending : ℕ → Option Rq

def Transactions.start (cacheSize : ℕ) : Transactions := ⟨World.start cacheSize, fun _ => none⟩

variable (env : Env)

/-- The requests that wait after a call: an encoded request waits until a response
is understood or the context is set up again. -/
def Transactions.pendingAfter (t : Transactions) : Call → ℕ → Option Rq
  | .newRequest id rbufsize ulAppData now =>
    let result := skyNewRequest rbufsize t.world.sctx ulAppData now
    if result.errno = none ∨ result.errno = some .serviceDenied then
      Function.update t.pending id none
    else t.pending
  | .onCtx id (.encodeRequest buf random) =>
    match t.world.ctx id with
    | none => t.pending
    | some r =>
      if (skyEncodeRequest env.codec t.world.sctx r buf random).errno = .none then
        Function.update t.pending id (some (buildRq t.world.sctx (validateRequestCtx r).2))
      else t.pending
  | .onCtx id (.decodeResponse resp loc now later) =>
    match t.world.ctx id with
    | none => t.pending
    | some r =>
      if (skyDecodeResponse env.cipherBits t.world.sctx r loc resp now later).errno.unanswered then
        t.pending
      else Function.update t.pending id none
  | _ => t.pending

def Transactions.step (t : Transactions) (call : Call) : Transactions :=
  ⟨t.world.step env call, t.pendingAfter env call⟩

/-- A response that is understood is read as the response to the request that waits
for it, and a registration neither reports nor stores a location. -/
def Transactions.agrees (t : Transactions) : Call → Prop
  | .onCtx id (.decodeResponse resp loc now later) => ∀ r ∈ t.world.ctx id, ∀ rq ∈ t.pending id,
      let d := skyDecodeResponse env.cipherBits t.world.sctx r loc resp now later
      ¬ d.errno.unanswered → r.expects = rq.kind ∧
        (rq.kind = .registration → d.errno ≠ .none ∧ d.sctx.cacheline = t.world.sctx.cacheline)
  | _ => True

/-- A request is encoded while the registration state of its context is that of the
session. -/
def Transactions.inStep (t : Transactions) : Call → Prop
  | .onCtx id (.encodeRequest _ _) => ∀ r ∈ t.world.ctx id,
      (r.authState = .unregistered ↔
        t.world.sctx.isTbrEnabled = true ∧ t.world.sctx.tokenId = TBR_TOKEN_UNKNOWN)
  | _ => True

instance (t : Transactions) : ∀ call : Call, Decidable (t.inStep call)
  | .onCtx id (.encodeRequest ..) => inferInstanceAs (Decidable (∀ r ∈ t.world.ctx id,
      (r.authState = .unregistered ↔
        t.world.sctx.isTbrEnabled = true ∧ t.world.sctx.tokenId = TBR_TOKEN_UNKNOWN)))
  | .onCtx _ (.addBeacon ..) | .onCtx _ (.addGnss _) | .onCtx _ (.searchCache _)
  | .onCtx _ .ignoreCacheHit | .onCtx _ (.sizeofRequestBuf _) | .onCtx _ (.decodeResponse ..)
  | .onCtx _ (.setOption ..) | .openSession _ | .close | .newRequest .. => isTrue trivial

/-- Every waiting request is of the kind that its context expects a response to. -/
def Transactions.Matched (t : Transactions) : Prop :=
  ∀ id rq, t.pending id = some rq → ∃ r, t.world.ctx id = some r ∧ r.expects = rq.kind

theorem RequestKind.eq_of_iff {k k' : RequestKind} (same : k = .registration ↔ k' = .registration) :
    k = k' := by
  revert same
  cases k <;> cases k' <;> simp

theorem SameRequest.expects {r r' : SkyRctx} (same : SameRequest r r') :
    r'.expects = r.expects := by
  unfold SkyRctx.expects
  rw [same.authState]

theorem skyDecodeResponse_unanswered {bits : ℕ} {s : SkySctx} {r : SkyRctx} {loc : SkyLocation}
    {resp : Response} {now later : ℤ}
    (unanswered : (skyDecodeResponse bits s r loc resp now later).errno.unanswered) :
    SameRequest r (skyDecodeResponse bits s r loc resp now later).rctx := by
  have outcome := skyDecodeResponse_outcome bits s r loc resp now later
  generalize skyDecodeResponse bits s r loc resp now later = d at outcome unanswered ⊢
  cases outcome with
  | rejected errno loc turned => exact sameRequest_validateRequestCtx r
  | undecoded loc valid ctx => exact sameRequest_validateRequestCtx r
  | decoded s' s'' r' loc status rs cacheHits valid ctx same auth =>
    have read := (reportLocation_outcome { s'' with cacheHits := cacheHits } r' loc later).answered
    exact absurd unanswered read

variable {env} {t : Transactions}

theorem Transactions.Matched.update (matched : t.Matched) {world : World} (id : ℕ)
    (other : ∀ i ≠ id, world.ctx i = t.world.ctx i) {pending : Option Rq}
    (here : ∀ rq, pending = some rq → ∃ r, world.ctx id = some r ∧ r.expects = rq.kind) :
    Transactions.Matched ⟨world, Function.update t.pending id pending⟩ := by
  intro i rq waits
  by_cases same : i = id
  · subst same
    simp only [Function.update_self] at waits
    exact here rq waits
  · simp only [Function.update_of_ne same] at waits
    obtain ⟨r, member, expects⟩ := matched i rq waits
    exact ⟨r, (other i same).trans member, expects⟩

theorem Transactions.Matched.keep (matched : t.Matched) {r r' : SkyRctx} {id : ℕ} {sctx : SkySctx}
    (member : t.world.ctx id = some r) (same : SameRequest r r') :
    Transactions.Matched ⟨⟨sctx, Function.update t.world.ctx id (some r')⟩, t.pending⟩ := by
  intro i rq waits
  obtain ⟨c, memberC, expects⟩ := matched i rq waits
  by_cases here : i = id
  · subst here
    rw [member] at memberC
    cases memberC
    exact ⟨r', Function.update_self .., same.expects.trans expects⟩
  · exact ⟨c, (Function.update_of_ne here ..).trans memberC, expects⟩

variable (env)

theorem Transactions.step_onCtx_none (t : Transactions) {id : ℕ} (call : CtxCall)
    (member : t.world.ctx id = none) : t.step env (.onCtx id call) = t := by
  have pending : t.pendingAfter env (.onCtx id call) = t.pending := by
    cases call <;> simp only [Transactions.pendingAfter, member]
  unfold Transactions.step
  rw [pending, World.step_onCtx_none call member]

theorem Transactions.step_matched (t : Transactions) (call : Call) (matched : t.Matched)
    (inStep : t.inStep call) : (t.step env call).Matched := by
  cases call with
  | openSession args => exact matched
  | close => exact matched
  | newRequest id rbufsize ulAppData now =>
    unfold Transactions.step Transactions.pendingAfter World.step
    dsimp only
    split_ifs
    · apply matched.update id (fun i differ => Function.update_of_ne differ ..)
      intro rq waits
      cases waits
    · exact matched
  | onCtx id call =>
    cases member : t.world.ctx id with
    | none =>
      rw [t.step_onCtx_none env call member]
      exact matched
    | some r =>
      have others (r' : SkyRctx) (i : ℕ) (differ : i ≠ id) :
          Function.update t.world.ctx id (some r') i = t.world.ctx i :=
        Function.update_of_ne differ ..
      unfold Transactions.step
      rw [World.step_onCtx_some call member]
      by_cases decode : ∃ resp loc now later, call = .decodeResponse resp loc now later
      · obtain ⟨resp, loc, now, later, rfl⟩ := decode
        simp only [Transactions.pendingAfter, member]
        split_ifs with unanswered
        · exact matched.keep member (skyDecodeResponse_unanswered unanswered)
        · apply matched.update id (others _)
          intro rq waits
          cases waits
      · have same := (CtxCall.apply_same env t.world.sctx r call fun resp loc now later eq =>
          decode ⟨resp, loc, now, later, eq⟩).2
        cases call with
        | encodeRequest buf random =>
          simp only [Transactions.pendingAfter, member]
          split_ifs with encoded
          · apply matched.update id (others _)
            rintro rq ⟨⟩
            refine ⟨_, Function.update_self .., ?_⟩
            rw [same.expects]
            apply RequestKind.eq_of_iff
            rw [expects_eq_iff, buildRq_kind]
            exact inStep r member
          · exact matched.keep member same
        | decodeResponse resp loc now later => exact absurd ⟨resp, loc, now, later, rfl⟩ decode
        | _ => exact matched.keep member same

theorem Transactions.agrees_of_matched (t : Transactions) (call : Call) (matched : t.Matched) :
    t.agrees env call := by
  unfold Transactions.agrees
  split
  · intro r member rq waits d _
    obtain ⟨c, memberC, expects⟩ := matched _ rq waits
    have same : c = r := Option.some.inj (memberC.symm.trans member)
    subst same
    refine ⟨expects, ?_⟩
    intro registration
    exact skyDecodeResponse_registration ((expects_eq_iff c).1 (expects.trans registration))
  · trivial

/-- Over every run in which requests are encoded in step with the session, for any
number of contexts, responses are read as responses to the requests they answer. -/
theorem responses_agree (cacheSize : ℕ) (calls : List Call)
    (inStep : Along (Transactions.step env) Transactions.inStep
      (Transactions.start cacheSize) calls) :
    Along (Transactions.step env) (Transactions.agrees env)
    (Transactions.start cacheSize) calls := by
  have preserved (t : Transactions) (call : Call) (matched : t.Matched) (inStep : t.inStep call) :
      (t.step env call).Matched := t.step_matched env call matched inStep
  have start : (Transactions.start cacheSize).Matched := by
    intro id rq waits
    cases waits
  apply along_mono preserved start inStep
  intro t call matched _
  exact t.agrees_of_matched env call matched

/-- A response that carries a token in one cipher block, with a padding of 14 bytes. Its header has
three fields, or two where the status is zero. -/
def answer (status : LocStatus) (tokenId : UInt32) : Response where
  bufLen := if status = .success then 41 else 43
  hdrSize := if status = .success then 4 else 6
  header := some ⟨20, 16, status⟩
  cryptoInfo := some ⟨List.replicate 16 9, 14⟩
  rs := some { Rs.initDefault with tokenId := tokenId }

def startCalls (id : ℕ) (now : ℤ) : List Call :=
  [.newRequest id sizeofSkyRctx [] now,
    .onCtx id (.addBeacon (apCall 1 (-50)) now)]

def sendCalls (id : ℕ) : List Call :=
  [.onCtx id (.sizeofRequestBuf (List.replicate 16 0)),
    .onCtx id (.encodeRequest (some (List.replicate 64 0)) (List.replicate 16 0))]

/-- A registration that is granted, then a location request. -/
def registerCalls : List Call :=
  .openSession (tbrOpen 1600000000) :: startCalls 0 1600000000 ++ sendCalls 0 ++
    [.onCtx 0 (.decodeResponse (answer .authError 7) SkyLocation.zero 1600000001 1600000001)] ++
    startCalls 0 1600000002 ++ sendCalls 0

theorem registerCalls_agree :
    Along (Transactions.step bareEnv) (Transactions.agrees bareEnv) (Transactions.start 1)
      (registerCalls ++
        [.onCtx 0
          (.decodeResponse (answer .success 7) SkyLocation.zero 1600000003 1600000003)]) := by
  apply responses_agree
  decide +kernel

/-- With a second context set up before the response to the first one withdraws the
token, and encoded after it. -/
def revokedCalls : List Call :=
  registerCalls ++ startCalls 1 1600000003 ++
    [.onCtx 0 (.decodeResponse (answer .authError 0) SkyLocation.zero 1600000004 1600000004)] ++
    sendCalls 1

/-- The second context has sent a registration, and the response to it is stored as a
location. -/
theorem revokedCalls_disagree :
    ¬ Along (Transactions.step bareEnv) (Transactions.agrees bareEnv) (Transactions.start 1)
      (revokedCalls ++
        [.onCtx 1
          (.decodeResponse (answer .success 8) SkyLocation.zero 1600000005 1600000005)]) := by
  intro agrees
  have last := (along_append.1 agrees).2.1
  have decoded : ((run (Transactions.step bareEnv) (Transactions.start 1) revokedCalls).world.ctx
      1).map (fun r => (skyDecodeResponse bareEnv.cipherBits
        (run (Transactions.step bareEnv) (Transactions.start 1) revokedCalls).world.sctx r
        SkyLocation.zero (answer .success 8) 1600000005 1600000005).errno) = some .none := by
    decide +kernel
  have waiting : ((run (Transactions.step bareEnv) (Transactions.start 1) revokedCalls).pending
      1).map Rq.kind = some .registration := by decide +kernel
  obtain ⟨r, member, errno⟩ := Option.map_eq_some_iff.1 decoded
  obtain ⟨rq, waits, kind⟩ := Option.map_eq_some_iff.1 waiting
  have answered : ¬ SkyErrno.unanswered .none := by decide
  rw [← errno] at answered
  exact ((last r member rq waits answered).2 kind).1 errno

end EmbeddedClient
