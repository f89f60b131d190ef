import EmbeddedClient.Cache.Hit
import EmbeddedClient.Session.Backoff

/-!
# The number of cache hits

A request reports how many cache hits came before it. The number counts sizings of
requests that hit and is cleared by a miss; a request that turns into a miss otherwise
reports what is left of earlier hits.
-/

namespace EmbeddedClient

open Runs

/-- What a call does to the number of cache hits. -/
inductive HitCount
  | counted
  | cleared
  | kept
  deriving DecidableEq

def HitCount.apply (n : UInt8) : HitCount → UInt8
  | counted => n + 1
  | cleared => 0
  | kept => n

def SkySctx.renewedBy (s : SkySctx) (args : OpenArgs) : Bool :=
  match checkRestored s args, args.gettime with
  | some restored, some _ => restored.header.magic = 0
  | _, _ => false

variable (env : Env)

/-- A search that misses, the sizing of the 128th hit in a row and a response to a miss
clear the number; the sizing of any other hit is counted. -/
def CtxCall.hitCount (s : SkySctx) (r : SkyRctx) : CtxCall → HitCount
  | searchCache _ =>
    let ctx := validateRequestCtx r
    if ctx.1 && !(EmbeddedClient.searchCache env.distance s ctx.2).2.isCacheHit then
      .cleared else .kept
  | sizeofRequestBuf _ =>
    if (validateRequestCtx r).1 && r.isCacheHit then
      if s.cacheHits < 127 then .counted else .cleared
    else .kept
  | decodeResponse resp loc now later =>
    let d := skyDecodeResponse env.cipherBits s r loc resp now later
    if ¬ d.errno.unanswered ∧ r.isCacheMiss = true then .cleared else .kept
  | _ => .kept

def World.hitCount (w : World) : Call → HitCount
  | .openSession args => if w.sctx.renewedBy args then .cleared else .kept
  | .onCtx id call =>
    match w.ctx id with
    | none => .kept
    | some r => call.hitCount env w.sctx r
  | _ => .kept

theorem validateRequestCtx_isCacheHit (r : SkyRctx) :
    (validateRequestCtx r).2.isCacheHit = r.isCacheHit := by
  obtain ⟨bs, eq⟩ := validateRequestCtx_rest r
  rw [eq]
  rfl

theorem skyOpen_cacheHits (s : SkySctx) (args : OpenArgs) :
    (skyOpen s args).2.cacheHits = if s.renewedBy args then 0 else s.cacheHits := by
  have restored : ∀ s' ∈ checkRestored s args, s'.cacheHits = s.cacheHits := by
    unfold checkRestored
    split_ifs <;> simp
  have installed (s : SkySctx) (deviceId : List UInt8) (aesKey : Vector UInt8 16) :
      (installArgs s args deviceId aesKey).cacheHits = s.cacheHits := by
    unfold installArgs
    dsimp only
    split_ifs <;> rfl
  have defaults (s : SkySctx) : (configDefaults s).cacheHits = s.cacheHits := rfl
  unfold skyOpen SkySctx.renewedBy
  cases check : checkRestored s args with
  | none => simp
  | some s' =>
    have same := restored s' check
    cases args.gettime with
    | none => simpa using same
    | some now =>
      have started :
          (configDefaults (if s'.header.magic = 0 then SkySctx.initialized s'.cacheSize now
          else s')).cacheHits = if s'.header.magic = 0 then 0 else s.cacheHits := by
        rw [defaults]
        split_ifs
        · rfl
        · exact same
      dsimp only
      cases args.deviceId with
      | none => simpa using started
      | some deviceId =>
        cases args.aesKey with
        | none => simpa using started
        | some aesKey => simpa [installed] using started

theorem searchCache_cacheHits (distance : Distance) (s : SkySctx) (r : SkyRctx) :
    (searchCache distance s r).1.cacheHits = s.cacheHits := by
  have one (p : SkyPluginTable) (s : SkySctx) (r : SkyRctx) :
      (p.cacheMatch distance s r).2.1.cacheHits = s.cacheHits := by
    rw [cacheMatch_sctx]
    rfl
  have all : (skyPluginMatchCache distance s.plugins s r).2.1.cacheHits = s.cacheHits := by
    apply skyPluginMatchCache_induction (fun s' _ => s'.cacheHits = s.cacheHits) _ s.plugins rfl
    exact fun p s' r' same => (one p s' r').trans same
  unfold searchCache
  dsimp only
  split_ifs
  · rfl
  · split <;> exact all

theorem skySearchCache_cacheHits (s : SkySctx) (r : SkyRctx) (loc : SkyLocation) :
    (skySearchCache env.distance s r loc).sctx.cacheHits =
      ((CtxCall.searchCache loc).hitCount env s r).apply s.cacheHits := by
  have kept := searchCache_cacheHits env.distance s (validateRequestCtx r).2
  unfold skySearchCache CtxCall.hitCount
  dsimp only
  by_cases valid : (validateRequestCtx r).1 = true
  · rw [if_neg (by simp [valid])]
    by_cases hit : (searchCache env.distance s (validateRequestCtx r).2).2.isCacheHit = true
    · rw [if_pos hit, if_neg (by simp [hit])]
      exact kept
    · rw [if_neg hit, if_pos (by simp [valid, hit])]
      rfl
  · rw [if_pos (by simpa using valid), if_neg (by simp [valid])]
    rfl

theorem skySizeofRequestBuf_cacheHits (s : SkySctx) (r : SkyRctx) (random : List UInt8) :
    (skySizeofRequestBuf env.codec s r random).sctx.cacheHits =
      ((CtxCall.sizeofRequestBuf random).hitCount env s r).apply s.cacheHits := by
  have marked : (s.markConfigDue (validateRequestCtx r).2).cacheHits = s.cacheHits := by
    unfold SkySctx.markConfigDue
    split_ifs <;> rfl
  have prepared : (prepareRequest s (validateRequestCtx r).2).1.cacheHits =
      if r.isCacheHit then if s.cacheHits < 127 then s.cacheHits + 1 else 0 else s.cacheHits := by
    unfold prepareRequest
    dsimp only
    rw [validateRequestCtx_isCacheHit, marked]
    split_ifs
    · rfl
    · rfl
    · exact marked
  unfold skySizeofRequestBuf CtxCall.hitCount
  dsimp only
  by_cases valid : (validateRequestCtx r).1 = true
  · rw [if_neg (by simp [valid]), valid, Bool.true_and]
    split_ifs at prepared ⊢ <;> exact prepared
  · rw [if_pos (by simpa using valid), if_neg (by simp [valid])]
    rfl

theorem deserializeResponse_cacheHits (bits : ℕ) (s : SkySctx) (r : SkyRctx) (loc : SkyLocation)
    (resp : Response) :
    (deserializeResponse bits s r loc resp).sctx.cacheHits = s.cacheHits ∧
      (deserializeResponse bits s r loc resp).rctx.hit = r.hit := by
  have finished (s' : SkySctx) (loc : SkyLocation) (status : LocStatus) (rs : Rs)
      (ranges : List ByteRange)
      (same : s'.cacheHits = s.cacheHits) :
      (finishResponse s' r loc status rs ranges).sctx.cacheHits = s.cacheHits ∧
        (finishResponse s' r loc status rs ranges).rctx.hit = r.hit := by
    have outcome := applyAuthState_outcome s' r loc status rs
    unfold finishResponse
    generalize applyAuthState s' r loc status rs = result at outcome ⊢
    cases outcome with
    | refused => exact ⟨same, rfl⟩
    | granted => exact ⟨same, rfl⟩
    | revoked => exact ⟨same, rfl⟩
    | disabled => exact ⟨same, rfl⟩
    | located => exact ⟨same, (applyLocation_rctx s' r loc rs).1.hit⟩
  have configured (rs : Rs) : (applyConfig s rs).cacheHits = s.cacheHits := by
    unfold applyConfig
    dsimp only
    split_ifs <;> rfl
  unfold deserializeResponse
  dsimp only
  split_ifs
  · exact ⟨rfl, rfl⟩
  · exact ⟨rfl, rfl⟩
  · exact ⟨rfl, rfl⟩
  · cases resp.header with
    | none => exact ⟨rfl, rfl⟩
    | some header =>
      dsimp only
      split_ifs
      · exact finished s _ _ _ _ rfl
      · exact ⟨rfl, rfl⟩
      · cases resp.cryptoInfo with
        | none => exact ⟨rfl, rfl⟩
        | some info =>
          cases resp.rs with
          | none => exact ⟨rfl, rfl⟩
          | some rs => exact finished _ _ _ _ _ (configured rs)

theorem reportLocation_cacheHits (s : SkySctx) (r : SkyRctx) (loc : SkyLocation) (now : ℤ) :
    (reportLocation s r loc now).sctx.cacheHits = s.cacheHits := by
  have stored (plugins : List SkyPluginTable) (s : SkySctx) (loc : SkyLocation) :
      (skyPluginAddToCache plugins s r loc).2.cacheHits = s.cacheHits := by
    obtain ⟨cacheline, stored⟩ := skyPluginAddToCache_sctx plugins s r loc
    rw [stored]
  unfold reportLocation
  cases loc.locationStatus with
  | success => exact stored _ _ _
  | authError => cases r.authState <;> rfl
  | _ => rfl

theorem skyDecodeResponse_cacheHits (s : SkySctx) (r : SkyRctx) (resp : Response)
    (loc : SkyLocation) (now later : ℤ) :
    (skyDecodeResponse env.cipherBits s r loc resp now later).sctx.cacheHits =
      ((CtxCall.decodeResponse resp loc now later).hitCount env s r).apply s.cacheHits := by
  have hit : (validateRequestCtx r).2.hit = r.hit := by
    obtain ⟨bs, eq⟩ := validateRequestCtx_rest r
    rw [eq]
  have unread (d : DecodeResult) (unanswered : d.errno.unanswered)
      (same : d.sctx.cacheHits = s.cacheHits) :
      d.sctx.cacheHits = HitCount.apply s.cacheHits
        (if ¬ d.errno.unanswered ∧ r.isCacheMiss = true then .cleared else .kept) := by
    rw [if_neg fun both => both.1 unanswered]
    exact same
  have read := deserializeResponse_cacheHits env.cipherBits (s.stamp now)
      (validateRequestCtx r).2 loc resp
  unfold CtxCall.hitCount
  dsimp only
  unfold skyDecodeResponse
  dsimp only
  by_cases valid : (validateRequestCtx r).1 = true
  · rw [if_neg (by simp [valid])]
    by_cases length : resp.bufLen = 0
    · rw [if_pos length]
      exact unread _ (.inl (.inr (.inl rfl))) rfl
    · rw [if_neg length]
      by_cases session : validateSessionCtx s = true
      · rw [if_neg (by simp [session])]
        have stamped : (s.stamp now).cacheHits = s.cacheHits := rfl
        rw [stamped, hit] at read
        rw [SkySctx.stamp] at read
        generalize deserializeResponse env.cipherBits _ (validateRequestCtx r).2 loc resp = d
          at read ⊢
        by_cases ok : d.ok = true
        · have miss : d.rctx.isCacheMiss = r.isCacheMiss := by
            rw [SkyRctx.isCacheMiss, SkyRctx.isCacheMiss, read.2]
          rw [if_neg (by simp [ok]), miss, reportLocation_cacheHits]
          have answered (s : SkySctx) := (reportLocation_outcome s d.rctx d.loc later).answered
          by_cases missed : r.isCacheMiss = true
          · rw [if_pos missed, if_pos ⟨answered _, missed⟩]
            rfl
          · rw [if_neg missed, if_neg fun both => missed both.2]
            exact read.1
        · rw [if_pos (by simpa using ok)]
          exact unread _ (.inr rfl) read.1
      · rw [if_pos (by simpa using session)]
        exact unread _ (.inl (.inr (.inr rfl))) rfl
  · rw [if_pos (by simpa using valid)]
    exact unread _ (.inl (.inl rfl)) rfl

theorem CtxCall.apply_cacheHits (s : SkySctx) (r : SkyRctx) (call : CtxCall) :
    (call.apply env s r).1.cacheHits = (call.hitCount env s r).apply s.cacheHits := by
  cases call with
  | searchCache loc => exact skySearchCache_cacheHits env s r loc
  | sizeofRequestBuf random => exact skySizeofRequestBuf_cacheHits env s r random
  | decodeResponse resp loc now later =>
    exact skyDecodeResponse_cacheHits env s r resp loc now later
  | setOption name value =>
    have set (rejected : Bool) (set : UInt32 → SkyConfig) :
        (setConfig s value rejected set).2.cacheHits = s.cacheHits := by
      unfold setConfig
      split_ifs <;> rfl
    cases name with
    | cacheMatchThreshold => rfl
    | loggingLevel => rfl
    | other => rfl
    | _ => exact set _ _
  | _ => rfl

/-- What a call does to the number of cache hits. -/
theorem World.step_cacheHits (w : World) (call : Call) :
    (w.step env call).sctx.cacheHits = (w.hitCount env call).apply w.sctx.cacheHits := by
  cases call with
  | openSession args =>
    have opened := skyOpen_cacheHits w.sctx args
    have count : w.hitCount env (.openSession args) = if w.sctx.renewedBy args then .cleared
      else .kept := rfl
    rw [count]
    split_ifs at opened ⊢ <;> exact opened
  | close =>
    unfold World.step skyClose
    split_ifs <;> rfl
  | newRequest id rbufsize ulAppData now =>
    unfold World.step skyNewRequest
    dsimp only
    split_ifs <;> rfl
  | onCtx id call =>
    cases member : w.ctx id with
    | none =>
      have count : w.hitCount env (.onCtx id call) = .kept := by
        unfold World.hitCount
        simp only [member]
      rw [World.step_onCtx_none call member, count]
      rfl
    | some r =>
      have count : w.hitCount env (.onCtx id call) = call.hitCount env w.sctx r := by
        unfold World.hitCount
        simp only [member]
      rw [World.step_onCtx_some call member, count]
      exact call.apply_cacheHits env w.sctx r

theorem World.hitCount_counted {w : World} {call : Call}
    (counted : w.hitCount env call = .counted) :
    w.sctx.cacheHits < 127 := by
  unfold World.hitCount at counted
  cases call with
  | openSession args =>
    dsimp only at counted
    split_ifs at counted
  | close => cases counted
  | newRequest id rbufsize ulAppData now => cases counted
  | onCtx id call =>
    dsimp only at counted
    cases member : w.ctx id with
    | none => simp [member] at counted
    | some r =>
      rw [member] at counted
      dsimp only at counted
      unfold CtxCall.hitCount at counted
      cases call with
      | sizeofRequestBuf random =>
        dsimp only at counted
        split_ifs at counted with hit few
        exact few
      | searchCache loc =>
        dsimp only at counted
        split_ifs at counted
      | decodeResponse resp loc now later =>
        dsimp only at counted
        split_ifs at counted
      | _ => cases counted

/-- A request that is encoded for a context without a cache hit carries no cache hits. -/
def World.reportsMisses (w : World) : Call → Prop
  | .onCtx id (.encodeRequest buf random) => ∀ r ∈ w.ctx id,
      let e := skyEncodeRequest env.codec w.sctx r buf random
      e.errno = .none → e.rctx.isCacheHit = false → (buildRq w.sctx e.rctx).cacheHits = 0
  | _ => True

/-- The library, and whether a hit has been counted since the number was cleared. -/
structure HitTally where
  world : World
  outstanding : Bool

namespace HitTally

def start (cacheSize : ℕ) : HitTally := ⟨World.start cacheSize, false⟩

def step (t : HitTally) (call : Call) : HitTally where
  world := t.world.step env call
  outstanding :=
    match t.world.hitCount env call with
    | .counted => true
    | .cleared => false
    | .kept => t.outstanding

/-- A request that is encoded for a context without a cache hit comes after the number
has been cleared of the hits before it. -/
def Settled (t : HitTally) : Call → Prop
  | .onCtx id (.encodeRequest buf random) => ∀ r ∈ t.world.ctx id,
      (skyEncodeRequest env.codec t.world.sctx r buf random).errno = .none →
        r.isCacheHit = false → t.outstanding = false
  | _ => True

/-- The number is at most 127, and zero unless hits are outstanding. -/
structure Agrees (t : HitTally) : Prop where
  limit : t.world.sctx.cacheHits ≤ 127
  zero : t.world.sctx.cacheHits = 0 ↔ t.outstanding = false

theorem agrees_start (cacheSize : ℕ) : (start cacheSize).Agrees := by
  have zero : (start cacheSize).world.sctx.cacheHits = 0 := rfl
  refine ⟨?_, ?_⟩
  · rw [zero]
    decide
  · rw [zero]
    exact ⟨fun _ => rfl, fun _ => rfl⟩

variable {t : HitTally}

theorem Agrees.step (agrees : t.Agrees) (call : Call) : (t.step env call).Agrees := by
  have hits := t.world.step_cacheHits env call
  have below : t.world.hitCount env call = .counted → t.world.sctx.cacheHits < 127 :=
    World.hitCount_counted env
  obtain ⟨limit, zero⟩ := agrees
  unfold HitTally.step
  generalize t.world.hitCount env call = count at hits below ⊢
  cases count with
  | counted =>
    have few := below rfl
    have next :
        (t.world.step env call).sctx.cacheHits.toNat = t.world.sctx.cacheHits.toNat + 1 := by
      rw [hits, HitCount.apply, UInt8.toNat_add]
      rw [UInt8.lt_iff_toNat_lt] at few
      exact Nat.mod_eq_of_lt (by simp only [UInt8.reduceToNat] at few ⊢; omega)
    refine ⟨?_, ?_⟩
    · rw [UInt8.le_iff_toNat_le, next]
      exact UInt8.lt_iff_toNat_lt.1 few
    · refine iff_of_false ?_ Bool.true_eq_false.mp
      intro none
      rw [none] at next
      simp at next
  | cleared =>
    rw [HitCount.apply] at hits
    refine ⟨?_, ?_⟩
    · rw [hits]
      decide
    · rw [hits]
      exact ⟨fun _ => rfl, fun _ => rfl⟩
  | kept =>
    rw [HitCount.apply] at hits
    refine ⟨?_, ?_⟩
    · rwa [hits]
    · rwa [hits]

theorem Agrees.reports_iff (agrees : t.Agrees) (call : Call) :
    t.world.reportsMisses env call ↔ t.Settled env call := by
  cases call with
  | onCtx id call =>
    cases call with
    | encodeRequest buf random =>
      unfold World.reportsMisses Settled
      refine forall₂_congr fun r member => ?_
      have carried (r : SkyRctx) : (buildRq t.world.sctx r).cacheHits = t.world.sctx.cacheHits := by
        unfold buildRq rqCallback
        dsimp only
        split_ifs <;> rfl
      dsimp only
      rw [carried, agrees.zero, skyEncodeRequest_rctx, validateRequestCtx_isCacheHit]
    | _ => exact Iff.rfl
  | _ => exact Iff.rfl

end HitTally

/-- In every run from a zeroed session buffer: the number of cache hits never exceeds 127
and is reported as zero for every miss, exactly if no request of a miss is encoded while
counted hits are outstanding. -/
theorem reportsMisses_iff (cacheSize : ℕ) (calls : List Call) :
    (Along (World.step env) (World.reportsMisses env) (World.start cacheSize) calls ∧
        ∀ k, ((World.start cacheSize).run env (calls.take k)).sctx.cacheHits ≤ 127) ↔
      Along (HitTally.step env) (HitTally.Settled env) (HitTally.start cacheSize) calls := by
  have commutes (t : HitTally) (call : Call) : (t.step env call).world = t.world.step env call :=
    rfl
  have preserved (t : HitTally) (call : Call) (agrees : t.Agrees) : (t.step env call).Agrees :=
    agrees.step env call
  have initial := HitTally.agrees_start cacheSize
  have limit (k : ℕ) : ((World.start cacheSize).run env (calls.take k)).sctx.cacheHits ≤ 127 := by
    have agrees : (run (HitTally.step env) (HitTally.start cacheSize) (calls.take k)).Agrees :=
      run_invariant (fun t call agrees (_ : True) => preserved t call agrees) initial along_true
    have same : (run (HitTally.step env) (HitTally.start cacheSize) (calls.take k)).world =
        (World.start cacheSize).run env (calls.take k) := run_proj commutes
    rw [← same]
    exact agrees.limit
  have reports :
      Along (World.step env) (World.reportsMisses env) (HitTally.start cacheSize).world calls ↔
      Along (HitTally.step env) (fun t => t.world.reportsMisses env)
        (HitTally.start cacheSize) calls :=
    (along_proj commutes).symm
  rw [and_iff_left limit]
  apply reports.trans
  exact along_congr preserved initial fun t call agrees => agrees.reports_iff env call

instance (w : World) : ∀ call : Call, Decidable (w.reportsMisses env call)
  | .onCtx id (.encodeRequest buf random) => inferInstanceAs (Decidable (∀ r ∈ w.ctx id,
      (skyEncodeRequest env.codec w.sctx r buf random).errno = .none →
        (skyEncodeRequest env.codec w.sctx r buf random).rctx.isCacheHit = false →
          (buildRq w.sctx (skyEncodeRequest env.codec w.sctx r buf random).rctx).cacheHits = 0))
  | .onCtx _ (.addBeacon ..) | .onCtx _ (.addGnss _) | .onCtx _ (.searchCache _)
  | .onCtx _ .ignoreCacheHit | .onCtx _ (.sizeofRequestBuf _) | .onCtx _ (.decodeResponse ..)
  | .onCtx _ (.setOption ..) | .openSession _ | .close | .newRequest .. => isTrue trivial

def ignoredHitCalls : List Call :=
  revisitCalls ++
    [.onCtx 0 (.searchCache SkyLocation.zero), .onCtx 0 (.sizeofRequestBuf []),
      .newRequest 0 sizeofSkyRctx [] 1600000020, .onCtx 0 (.addBeacon (apCall 1 (-50)) 1600000020),
      .onCtx 0 (.searchCache SkyLocation.zero), .onCtx 0 .ignoreCacheHit,
      .onCtx 0 (.sizeofRequestBuf []), .onCtx 0 (.encodeRequest (some (List.replicate 64 0)) [])]

/-- The ignored hit is encoded with the number of the hit before. -/
theorem ignoredHitCalls_not_reportsMisses :
    ¬ (Along (World.step bareEnv) (World.reportsMisses bareEnv) (World.start 1) ignoredHitCalls ∧
      ∀ k, ((World.start 1).run bareEnv (ignoredHitCalls.take k)).sctx.cacheHits ≤ 127) := by
  intro both
  have reports : ¬ Along (World.step bareEnv) (World.reportsMisses bareEnv) (World.start 1)
      ignoredHitCalls := by decide +kernel
  exact reports both.1

end EmbeddedClient
