import EmbeddedClient.Session.Transactions

/-!
# Where the token of a request comes from

A token enters the session with a response to a context that was not registered. It leaves
the session when a response to a registered context denies it, or when the session is set up
anew. Opening for a partner keeps it only if partner and key are the ones it was granted to.
-/

namespace EmbeddedClient

open Runs

/-- A call that opens the session names its partner, so that `sky_open` compares the
credentials. -/
def Call.NamesPartner : Call → Prop
  | .openSession args => args.partnerId ≠ 0
  | _ => True

instance : DecidablePred Call.NamesPartner
  | .openSession args => inferInstanceAs (Decidable (args.partnerId ≠ 0))
  | .close | .newRequest .. | .onCtx .. => isTrue trivial

structure SkySctx.Carried (s s' : SkySctx) : Prop where
  partnerId : s'.partnerId = s.partnerId
  aesKey : s'.aesKey = s.aesKey
  tokenId : s'.tokenId = s.tokenId
  cacheline : s'.cacheline = s.cacheline

structure SkySctx.Renewed (s : SkySctx) : Prop where
  tokenId : s.tokenId = TBR_TOKEN_UNKNOWN
  cacheline : ∀ cl ∈ s.cacheline, cl.time = CACHE_EMPTY

variable {s s' : SkySctx} {args : OpenArgs}

theorem SkySctx.Carried.refl (s : SkySctx) : s.Carried s := ⟨rfl, rfl, rfl, rfl⟩

theorem renewed_initialized (cacheSize : ℕ) (now : ℤ) :
    (SkySctx.initialized cacheSize now).Renewed where
  tokenId := rfl
  cacheline := by
    intro cl member
    rw [List.eq_of_mem_replicate member]
    rfl

def SkySctx.setUp (base : SkySctx) (now : ℤ) : SkySctx :=
  configDefaults (if base.header.magic = 0 then SkySctx.initialized base.cacheSize now else base)

theorem skyOpen_of_checkRestored {base : SkySctx} (checked : checkRestored s args = some base) :
    (skyOpen s args).2 = base ∨
      ∃ now, (skyOpen s args).2 = base.setUp now ∨ ∃ deviceId aesKey, args.aesKey = some aesKey ∧
        (skyOpen s args).2 = installArgs (base.setUp now) args deviceId aesKey := by
  unfold skyOpen
  rw [checked]
  cases args.gettime with
  | none => exact .inl rfl
  | some now =>
    refine .inr ⟨now, ?_⟩
    cases device : args.deviceId with
    | none => exact .inl rfl
    | some deviceId =>
      cases key : args.aesKey with
      | none => exact .inl rfl
      | some aesKey => exact .inr ⟨deviceId, aesKey, rfl, rfl⟩

theorem installArgs_keeps (s : SkySctx) (args : OpenArgs) (deviceId : List UInt8)
    (aesKey : Vector UInt8 16) :
    (installArgs s args deviceId aesKey).partnerId = args.partnerId ∧
      (installArgs s args deviceId aesKey).aesKey = aesKey ∧
      (installArgs s args deviceId aesKey).tokenId = s.tokenId ∧
      (installArgs s args deviceId aesKey).cacheline = s.cacheline := by
  unfold installArgs
  dsimp only
  split_ifs <;> exact ⟨rfl, rfl, rfl, rfl⟩

theorem skyOpen_of_unmarked {base : SkySctx} (checked : checkRestored s args = some base)
    (carried : s.Carried base) (unmarked : base.header.magic = 0) :
    s.Carried (skyOpen s args).2 ∨ (skyOpen s args).2.Renewed := by
  rcases skyOpen_of_checkRestored checked with opened | ⟨now, opened⟩
  · rw [opened]
    exact .inl carried
  · right
    have fresh := renewed_initialized base.cacheSize now
    rw [SkySctx.setUp, if_pos unmarked] at opened
    rcases opened with opened | ⟨deviceId, aesKey, -, opened⟩
    · rw [opened]
      exact ⟨fresh.tokenId, fresh.cacheline⟩
    · obtain ⟨-, -, tokenId, cacheline⟩ := installArgs_keeps
        (configDefaults (SkySctx.initialized base.cacheSize now)) args deviceId aesKey
      rw [opened]
      refine ⟨tokenId.trans fresh.tokenId, ?_⟩
      rw [cacheline]
      exact fresh.cacheline

/-- Opening for a partner carries the session over, or sets it up anew. -/
theorem skyOpen_carried_or_renewed (s : SkySctx) (named : args.partnerId ≠ 0) :
    s.Carried (skyOpen s args).2 ∨ (skyOpen s args).2.Renewed := by
  have cleared : s.Carried { s with header := { s.header with magic := 0 } } := ⟨rfl, rfl, rfl, rfl⟩
  by_cases blank : s.header.magic = 0
  · have checked : checkRestored s args = some s := if_pos blank
    exact skyOpen_of_unmarked checked (.refl s) blank
  · by_cases valid : validateSessionCtx s = true
    · by_cases opened : s.openFlag = true
      · have checked : checkRestored s args = none := by
          unfold checkRestored
          rw [if_neg blank, if_neg (by simp [valid]), if_pos opened]
        unfold skyOpen
        rw [checked]
        exact .inl (.refl s)
      · by_cases same : args.sameCredentials s = true
        · have checked : checkRestored s args = some s := by
            unfold checkRestored
            rw [if_neg blank, if_neg (by simp [valid]), if_neg opened, if_neg (by simp [same])]
          simp only [OpenArgs.sameCredentials, Bool.and_eq_true, decide_eq_true_eq] at same
          obtain ⟨⟨-, partner⟩, key⟩ := same
          left
          rcases skyOpen_of_checkRestored checked with kept | ⟨now, kept⟩
          · rw [kept]
            exact .refl s
          · rw [SkySctx.setUp, if_neg blank] at kept
            rcases kept with kept | ⟨deviceId, aesKey, given, kept⟩
            · rw [kept]
              exact ⟨rfl, rfl, rfl, rfl⟩
            · obtain ⟨partnerId, installed, tokenId, cacheline⟩ :=
                installArgs_keeps (configDefaults s) args deviceId aesKey
              have stored : aesKey = s.aesKey := by
                rw [given] at key
                exact Option.some.inj key
              rw [kept]
              exact ⟨partnerId.trans partner, installed.trans stored, tokenId, cacheline⟩
        · have checked :
              checkRestored s args = some { s with header := { s.header with magic := 0 } } := by
            unfold checkRestored
            rw [if_neg blank, if_neg (by simp [valid]), if_neg opened,
              if_pos ⟨named, by simpa using same⟩]
          exact skyOpen_of_unmarked checked cleared rfl
    · have checked :
          checkRestored s args = some { s with header := { s.header with magic := 0 } } := by
        unfold checkRestored
        rw [if_neg blank, if_pos (by simpa using valid)]
      exact skyOpen_of_unmarked checked cleared rfl

def SkySctx.SameCredentials (s s' : SkySctx) : Prop :=
  s'.partnerId = s.partnerId ∧ s'.aesKey = s.aesKey

theorem reportLocation_account (s : SkySctx) (r : SkyRctx) (loc : SkyLocation) (now : ℤ) :
    s.SameCredentials (reportLocation s r loc now).sctx ∧
      (reportLocation s r loc now).sctx.tokenId = s.tokenId := by
  unfold reportLocation
  cases loc.locationStatus with
  | success =>
    obtain ⟨cacheline, stored⟩ := skyPluginAddToCache_sctx s.plugins { s with backoff := .none } r
      { loc with time := now, locationStatus := .success }
    dsimp only
    rw [stored]
    exact ⟨⟨rfl, rfl⟩, rfl⟩
  | authError => cases r.authState <;> exact ⟨⟨rfl, rfl⟩, rfl⟩
  | _ => exact ⟨⟨rfl, rfl⟩, rfl⟩

theorem skyDecodeResponse_sameCredentials (bits : ℕ) (s : SkySctx) (r : SkyRctx) (loc : SkyLocation)
    (resp : Response) (now later : ℤ) :
    s.SameCredentials (skyDecodeResponse bits s r loc resp now later).sctx := by
  have outcome := skyDecodeResponse_outcome bits s r loc resp now later
  generalize skyDecodeResponse bits s r loc resp now later = decoded at outcome ⊢
  cases outcome with
  | rejected => exact ⟨rfl, rfl⟩
  | undecoded => exact ⟨rfl, rfl⟩
  | decoded s' s'' r' loc status rs cacheHits valid ctx same auth =>
    have kept : s''.partnerId = s'.partnerId ∧ s''.aesKey = s'.aesKey := by
      cases auth <;> exact ⟨rfl, rfl⟩
    obtain ⟨partnerId, aesKey⟩ :=
      (reportLocation_account { s'' with cacheHits := cacheHits } r' loc later).1
    exact ⟨partnerId.trans (kept.1.trans same.session.partnerId),
      aesKey.trans (kept.2.trans same.session.aesKey)⟩

/-- A response grants a token to a context that is not registered. -/
structure Response.Grants (resp : Response) (r : SkyRctx) (token : UInt32) : Prop where
  auth : r.authState = .unregistered
  body : ∃ rs, resp.rs = some rs ∧ rs.tokenId = token

theorem applyAuthState_token (s : SkySctx) (r : SkyRctx) (loc : SkyLocation)
    (status : LocStatus) (rs : Rs) :
    (applyAuthState s r loc status rs).1.tokenId = s.tokenId ∨
      (applyAuthState s r loc status rs).1.tokenId = TBR_TOKEN_UNKNOWN ∨
      r.authState = .unregistered ∧ (applyAuthState s r loc status rs).1.tokenId = rs.tokenId := by
  have outcome := applyAuthState_outcome s r loc status rs
  generalize applyAuthState s r loc status rs = result at outcome ⊢
  cases outcome with
  | granted auth token => exact .inr (.inr ⟨auth, rfl⟩)
  | revoked auth denied => exact .inr (.inl rfl)
  | _ => exact .inl rfl

theorem deserializeResponse_token (bits : ℕ) (s : SkySctx) (r : SkyRctx) (loc : SkyLocation)
    (resp : Response) :
    let token := (deserializeResponse bits s r loc resp).sctx.tokenId
    token = s.tokenId ∨ token = TBR_TOKEN_UNKNOWN ∨ resp.Grants r token := by
  intro token
  unfold token deserializeResponse
  dsimp only
  split_ifs
  · exact .inl rfl
  · exact .inl rfl
  · exact .inl rfl
  · cases resp.header with
    | none => exact .inl rfl
    | some header =>
      dsimp only
      split_ifs
      · rcases applyAuthState_token s r (SkyLocation.start header.status) header.status
          Rs.initDefault with
          kept | cleared | ⟨-, default⟩
        · exact .inl kept
        · exact .inr (.inl cleared)
        · exact .inr (.inl default)
      · exact .inl rfl
      · cases resp.cryptoInfo with
        | none => exact .inl rfl
        | some info =>
          cases body : resp.rs with
          | none => exact .inl rfl
          | some rs =>
            have config := (sameCache_applyConfig s rs).session.tokenId
            rcases applyAuthState_token (applyConfig s rs) r
              (SkyLocation.start header.status) header.status rs with
              kept | cleared | ⟨auth, granted⟩
            · exact .inl (kept.trans config)
            · exact .inr (.inl cleared)
            · exact .inr (.inr ⟨auth, rs, body, granted.symm⟩)

theorem skyDecodeResponse_token (bits : ℕ) (s : SkySctx) (r : SkyRctx) (loc : SkyLocation)
    (resp : Response) (now later : ℤ) :
    let token := (skyDecodeResponse bits s r loc resp now later).sctx.tokenId
    token = s.tokenId ∨ token = TBR_TOKEN_UNKNOWN ∨ resp.Grants r token := by
  have auth := (sameRequest_validateRequestCtx r).authState
  have read := deserializeResponse_token bits (s.stamp now) (validateRequestCtx r).2 loc resp
  have stamped : (s.stamp now).tokenId = s.tokenId := rfl
  rw [SkySctx.stamp] at read stamped
  unfold skyDecodeResponse
  dsimp only
  split_ifs
  · exact .inl rfl
  · exact .inl rfl
  · exact .inl rfl
  · dsimp only at read ⊢
    rcases read with kept | cleared | ⟨unregistered, body⟩
    · exact .inl (kept.trans stamped)
    · exact .inr (.inl cleared)
    · exact .inr (.inr ⟨auth ▸ unregistered, body⟩)
  all_goals
    rw [(reportLocation_account _ _ _ _).2]
    dsimp only at read ⊢
    rcases read with kept | cleared | ⟨unregistered, body⟩
    · exact .inl (kept.trans stamped)
    · exact .inr (.inl cleared)
    · exact .inr (.inr ⟨auth ▸ unregistered, body⟩)

theorem SkySctx.SameCredentials.refl (s : SkySctx) : s.SameCredentials s := ⟨rfl, rfl⟩

theorem SkySctx.SameCredentials.trans {s s' s'' : SkySctx} (first : s.SameCredentials s')
    (second : s'.SameCredentials s'') : s.SameCredentials s'' :=
  ⟨second.1.trans first.1, second.2.trans first.2⟩

theorem SameSession.sameCredentials (same : SameSession s s') : s.SameCredentials s' :=
  ⟨same.partnerId, same.aesKey⟩

theorem SkySctx.Carried.sameCredentials (carried : s.Carried s') : s.SameCredentials s' :=
  ⟨carried.partnerId, carried.aesKey⟩

variable (env : Env)

def World.Grants (w : World) (call : Call) (token : UInt32) : Prop :=
  ∃ id resp loc now later, call = .onCtx id (.decodeResponse resp loc now later) ∧
    ∃ r ∈ w.ctx id, resp.Grants r token

variable {env} {w : World}

/-- A call that opens no session keeps the credentials, and the token unless it is granted
or cleared. -/
theorem World.step_token_of_not_open (call : Call) (notOpen : ∀ args, call ≠ .openSession args) :
    w.sctx.SameCredentials (w.step env call).sctx ∧
      ((w.step env call).sctx.tokenId = w.sctx.tokenId ∨
        (w.step env call).sctx.tokenId = TBR_TOKEN_UNKNOWN ∨
        w.Grants call (w.step env call).sctx.tokenId) := by
  cases call with
  | openSession args => exact absurd rfl (notOpen args)
  | close =>
    unfold World.step skyClose
    split_ifs <;> exact ⟨⟨rfl, rfl⟩, .inl rfl⟩
  | newRequest id rbufsize ulAppData now =>
    have same := skyNewRequest_sctx rbufsize w.sctx ulAppData now
    rw [World.step_newRequest_sctx]
    exact ⟨same.sameCredentials, .inl same.tokenId⟩
  | onCtx id call =>
    cases member : w.ctx id with
    | none =>
      rw [World.step_onCtx_none call member]
      exact ⟨.refl _, .inl rfl⟩
    | some r =>
      rw [World.step_onCtx_some call member]
      by_cases decode : ∃ resp loc now later, call = .decodeResponse resp loc now later
      · obtain ⟨resp, loc, now, later, rfl⟩ := decode
        refine ⟨skyDecodeResponse_sameCredentials env.cipherBits w.sctx r loc resp now later, ?_⟩
        rcases skyDecodeResponse_token env.cipherBits w.sctx r loc resp now later with
          kept | cleared | grants
        · exact .inl kept
        · exact .inr (.inl cleared)
        · exact .inr (.inr ⟨id, resp, loc, now, later, rfl, r, member, grants⟩)
      · have same := CtxCall.apply_same env w.sctx r call fun resp loc now later eq =>
          decode ⟨resp, loc, now, later, eq⟩
        exact ⟨same.1.sameCredentials, .inl same.1.tokenId⟩

/-- A token that the session holds after a call was held under the same credentials before,
or is granted by the call. -/
theorem World.step_token {call : Call} (named : call.NamesPartner)
    (known : (w.step env call).sctx.tokenId ≠ TBR_TOKEN_UNKNOWN) :
    w.sctx.SameCredentials (w.step env call).sctx ∧
      ((w.step env call).sctx.tokenId = w.sctx.tokenId ∨
        w.Grants call (w.step env call).sctx.tokenId) := by
  by_cases opens : ∃ args, call = .openSession args
  · obtain ⟨args, rfl⟩ := opens
    rcases skyOpen_carried_or_renewed w.sctx named with carried | renewed
    · exact ⟨carried.sameCredentials, .inl carried.tokenId⟩
    · exact absurd renewed.tokenId known
  · obtain ⟨same, kept | cleared | grants⟩ :=
      @World.step_token_of_not_open env w call fun args eq =>
      opens ⟨args, eq⟩
    · exact ⟨same, .inl kept⟩
    · exact absurd cleared known
    · exact ⟨same, .inr grants⟩

theorem rqCallback_tokenId (s : SkySctx) (r : SkyRctx) (rq : Rq) :
    (rqCallback s r rq).tokenId = rq.tokenId := by
  unfold rqCallback
  split_ifs <;> rfl

theorem buildRq_tokenId (s : SkySctx) (r : SkyRctx) (sent : (buildRq s r).tokenId ≠ 0) :
    (buildRq s r).tokenId = s.tokenId ∧ s.tokenId ≠ TBR_TOKEN_UNKNOWN := by
  unfold buildRq at sent ⊢
  rw [rqCallback_tokenId] at sent ⊢
  dsimp only at sent ⊢
  split_ifs at sent ⊢ with enabled unknown
  · exact absurd rfl sent
  · exact ⟨rfl, unknown⟩
  · exact absurd rfl sent

/-- The token has been in the session, under the same credentials, since a response of the run
granted it. -/
structure TokenOrigin (env : Env) (start : World) (calls : List Call) (token : UInt32)
    (before : List Call) (call : Call) (after : List Call) : Prop where
  split : calls = before ++ call :: after
  grants : (start.run env before).Grants call token
  since : Along (World.step env) (fun w _ => w.sctx.tokenId = token)
    ((start.run env before).step env call) after
  credentials : (start.run env before).sctx.SameCredentials (start.run env calls).sctx

/-- **Origin of a token**: whatever the calls and the responses of a run that opens the session
for a partner every time, the token that a request carries was granted by a response to a
context that was not registered, to the same partner and key, and has been in the session
since. -/
theorem token_origin (env : Env) (cacheSize : ℕ) (calls : List Call)
    (named : ∀ call ∈ calls, call.NamesPartner) (r : SkyRctx)
    (sent : (buildRq ((World.start cacheSize).run env calls).sctx r).tokenId ≠ 0) :
    ∃ before call after, TokenOrigin env (World.start cacheSize) calls
      (buildRq ((World.start cacheSize).run env calls).sctx r).tokenId before call after := by
  obtain ⟨token, known⟩ := buildRq_tokenId _ r sent
  rw [token]
  generalize held : ((World.start cacheSize).run env calls).sctx.tokenId = t at known
  have fresh : ¬ (World.start cacheSize).sctx.tokenId = t := fun zero => known zero.symm
  obtain ⟨before, call, after, split, missing, made, since⟩ :=
    @exists_origin _ _ (World.step env) _ calls (fun w => w.sctx.tokenId = t) fresh held
  have step {w : World} {c : Call} (names : c.NamesPartner)
      (after : (w.step env c).sctx.tokenId = t) :=
    @World.step_token env w c names (by rw [after]; exact known)
  have names : ∀ c ∈ before ++ call :: after, c.NamesPartner := split ▸ named
  obtain ⟨first, kept | grants⟩ := step (names call (by simp)) made
  · exact absurd (kept.symm.trans made) missing
  · rw [made] at grants
    refine ⟨before, call, after, split, grants, ?_, ?_⟩
    · exact (along_and.1 since).1
    · have later :=
        @run_related _ _ (World.step env) _ _ after (fun w w' => w.sctx.SameCredentials w'.sctx)
        (fun w => .refl w.sctx) (fun _ _ _ => .trans) (fun _ _ both => (step both.2 both.1.2).1)
        (along_and.2 ⟨since, along_of_forall fun c member => names c (by simp [member])⟩)
      rw [World.run, World.run, split, run_append, run_cons]
      exact first.trans later

/-- The token of the location request after a registration. -/
theorem registerCalls_tokenOrigin :
    ∃ r, ((World.start 1).run bareEnv registerCalls).ctx 0 = some r ∧
      ∃ before call after, TokenOrigin bareEnv (World.start 1) registerCalls
        (buildRq ((World.start 1).run bareEnv registerCalls).sctx r).tokenId before call after := by
  have facts : (((World.start 1).run bareEnv registerCalls).ctx 0).map (fun r =>
      (buildRq ((World.start 1).run bareEnv registerCalls).sctx r).tokenId) = some 7 := by
      decide +kernel
  obtain ⟨r, member, token⟩ := Option.map_eq_some_iff.1 facts
  refine ⟨r, member, token_origin bareEnv 1 registerCalls (by decide) r ?_⟩
  rw [token]
  decide

end EmbeddedClient
