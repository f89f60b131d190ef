import EmbeddedClient.Beacons.Capacity
import EmbeddedClient.Cache.Indexes
import EmbeddedClient.Model.Copies

/-!
# Lengths and indexes of the contexts

The contexts keep the lengths of their byte buffers and indexes of cachelines, and the
code that uses them compares none of them with the size of a buffer. All of them are
written within bounds but one: `sky_new_request` takes over the uplink data of the
application whatever its length.
-/

namespace EmbeddedClient

open Runs

/-- The limits of `config.h`, whenever the configuration was last requested. -/
def SkyConfig.IsDefault (c : SkyConfig) : Prop :=
  { c with lastConfigTime := CONFIG_UPDATE_DUE } = SkyConfig.zero.defaults

/-- The lengths and indexes of a request context are within the buffers they are about. -/
structure SkyRctx.WithinBuffers (cacheSize : ℕ) (r : SkyRctx) :
    Prop extends r.Indexed cacheSize where
  dlAppDataLen : r.dlAppDataLen ≤ SKY_MAX_DL_APP_DATA

/-- The lengths and indexes of a world are within the buffers they are about. -/
structure World.WithinBuffers (cacheSize : ℕ) (w : World) : Prop where
  idLen : w.sctx.deviceId.length ≤ MAX_DEVICE_ID
  ulAppDataLen : w.sctx.ulAppData.length ≤ SKY_MAX_UL_APP_DATA
  numCachelines : w.sctx.numCachelines = cacheSize
  lines : ∀ cl ∈ w.sctx.cacheline, cl.numAp ≤ cl.numBeacons ∧ cl.numBeacons ≤ TOTAL_BEACONS
  ctx : ∀ id r, w.ctx id = some r → r.WithinBuffers cacheSize

/-- Every copy of the call and every beacon it stores stays within its destination. -/
def World.CopiesInside (env : Env) (w : World) (call : Call) : Prop :=
  (∀ copy ∈ w.copies env call, copy.inside) ∧ w.withinCapacity call

/-- The uplink data of a request that `sky_new_request` starts fits into its buffer. -/
def World.UplinkFits (w : World) : Call → Prop
  | .newRequest _ rbufsize ulAppData now =>
    rbufsize = sizeofSkyRctx → w.sctx.openFlag = true →
      backoffViolation w.sctx (startTime now) = false → ulAppData.length ≤ SKY_MAX_UL_APP_DATA
  | _ => True

/-- The sessions differ in what the calls on a request context write, and have as many
cachelines. -/
structure SameSetup (s s' : SkySctx) : Prop where
  rest : s' = { s with
    header := s'.header, minLevel := s'.minLevel, tokenId := s'.tokenId, backoff := s'.backoff,
    cacheline := s'.cacheline, config := s'.config, cacheHits := s'.cacheHits }
  cacheSize : s'.cacheSize = s.cacheSize

namespace SameSetup

variable {s s' s'' : SkySctx}

theorem refl (s : SkySctx) : SameSetup s s := ⟨rfl, rfl⟩

theorem trans (first : SameSetup s s') (second : SameSetup s' s'') : SameSetup s s'' where
  rest := by rw [second.rest, first.rest]
  cacheSize := second.cacheSize.trans first.cacheSize

theorem deviceId (same : SameSetup s s') : s'.deviceId = s.deviceId := by rw [same.rest]

theorem ulAppData (same : SameSetup s s') : s'.ulAppData = s.ulAppData := by rw [same.rest]

theorem numCachelines (same : SameSetup s s') : s'.numCachelines = s.numCachelines := by
  rw [same.rest]

end SameSetup

theorem SameSession.cacheSize {s s' : SkySctx} (same : SameSession s s') :
    s'.cacheSize = s.cacheSize := by
  have length := congrArg List.length same.lines
  rw [List.length_map, List.length_map] at length
  exact length

variable {s s' : SkySctx} {r r' : SkyRctx}

theorem sameSetup_cacheMatch (p : SkyPluginTable) (distance : Distance) (s : SkySctx)
    (r : SkyRctx) :
    SameSetup s (p.cacheMatch distance s r).2.1 := by
  refine ⟨?_, (same_cacheMatch p distance s r).1.cacheSize⟩
  rw [cacheMatch_sctx]
  rfl

theorem sameSetup_skyPluginMatchCache (distance : Distance) (plugins : List SkyPluginTable)
    (s : SkySctx) (r : SkyRctx) : SameSetup s (skyPluginMatchCache distance plugins s r).2.1 := by
  apply skyPluginMatchCache_induction (fun s' _ => SameSetup s s') _ plugins (.refl s)
  exact fun p s' r' same => same.trans (sameSetup_cacheMatch p distance s' r')

theorem sameSetup_skySearchCache (distance : Distance) (s : SkySctx) (r : SkyRctx)
    (loc : SkyLocation) : SameSetup s (skySearchCache distance s r loc).sctx := by
  have searched : SameSetup s (searchCache distance s (validateRequestCtx r).2).1 := by
    unfold searchCache
    dsimp only
    split_ifs
    · exact .refl s
    · split <;> exact sameSetup_skyPluginMatchCache ..
  unfold skySearchCache
  dsimp only
  split_ifs
  · exact .refl s
  · exact searched
  · exact searched.trans ⟨rfl, rfl⟩

theorem sameSetup_prepareRequest (s : SkySctx) (r : SkyRctx) :
    SameSetup s (prepareRequest s r).1 := by
  have marked : SameSetup s (s.markConfigDue r) := by
    unfold SkySctx.markConfigDue
    split_ifs <;> exact ⟨rfl, rfl⟩
  unfold prepareRequest
  dsimp only
  split_ifs
  · exact marked.trans ⟨rfl, rfl⟩
  · exact marked.trans ⟨rfl, rfl⟩
  · exact marked

theorem sameSetup_skySizeofRequestBuf (codec : Codec) (s : SkySctx) (r : SkyRctx)
    (random : List UInt8) : SameSetup s (skySizeofRequestBuf codec s r random).sctx := by
  have prepared := sameSetup_prepareRequest s (validateRequestCtx r).2
  unfold skySizeofRequestBuf
  dsimp only
  split_ifs
  · exact .refl s
  · exact prepared
  · exact prepared

theorem sameSetup_skyPluginAddToCache (plugins : List SkyPluginTable) (s : SkySctx) (r : SkyRctx)
    (loc : SkyLocation) : SameSetup s (skyPluginAddToCache plugins s r loc).2 := by
  have one (s : SkySctx) : SameSetup s (ApPlugin.toCache s r loc).2 := by
    unfold ApPlugin.toCache
    dsimp only
    generalize (if r.saveTo < 0 then findOldest s r else r.saveTo.toNat) = i
    split_ifs
    · exact .refl s
    · exact ⟨rfl, List.length_modify ..⟩
    · exact ⟨rfl, List.length_modify ..⟩
  apply skyPluginAddToCache_induction (SameSetup s) _ plugins (.refl s)
  exact fun s' same => same.trans (one s')

theorem sameSetup_reportLocation (s : SkySctx) (r : SkyRctx) (loc : SkyLocation) (now : ℤ) :
    SameSetup s (reportLocation s r loc now).sctx := by
  have backoff (backoff : SkyErrno) : SameSetup s { s with backoff := backoff } := ⟨rfl, rfl⟩
  unfold reportLocation
  cases loc.locationStatus with
  | success => exact (backoff .none).trans (sameSetup_skyPluginAddToCache ..)
  | authError => cases r.authState <;> first | exact .refl s | exact backoff _
  | _ => exact .refl s

theorem sameSetup_deserializeResponse (bits : ℕ) (s : SkySctx) (r : SkyRctx) (loc : SkyLocation)
    (resp : Response) : SameSetup s (deserializeResponse bits s r loc resp).sctx := by
  have finished (s' : SkySctx) (loc : SkyLocation) (status : LocStatus) (rs : Rs)
      (ranges : List ByteRange) (same : SameSetup s s') :
      SameSetup s (finishResponse s' r loc status rs ranges).sctx := by
    have outcome := applyAuthState_outcome s' r loc status rs
    unfold finishResponse
    generalize applyAuthState s' r loc status rs = result at outcome ⊢
    cases outcome with
    | refused => exact same
    | granted => exact same.trans ⟨rfl, rfl⟩
    | revoked => exact same.trans ⟨rfl, rfl⟩
    | disabled => exact same
    | located => exact same
  have configured (rs : Rs) : SameSetup s (applyConfig s rs) := by
    unfold applyConfig
    dsimp only
    split_ifs <;> exact ⟨rfl, rfl⟩
  unfold deserializeResponse
  dsimp only
  split_ifs
  · exact .refl s
  · exact .refl s
  · exact .refl s
  · cases resp.header with
    | none => exact .refl s
    | some header =>
      dsimp only
      split_ifs
      · exact finished s _ _ _ _ (.refl s)
      · exact .refl s
      · cases resp.cryptoInfo with
        | none => exact .refl s
        | some info =>
          cases resp.rs with
          | none => exact .refl s
          | some rs => exact finished _ _ _ _ _ (configured rs)

theorem sameSetup_skyDecodeResponse (bits : ℕ) (s : SkySctx) (r : SkyRctx) (loc : SkyLocation)
    (resp : Response) (now later : ℤ) :
    SameSetup s (skyDecodeResponse bits s r loc resp now later).sctx := by
  have stamped : SameSetup s (s.stamp now) := ⟨rfl, rfl⟩
  have read := stamped.trans
    (sameSetup_deserializeResponse bits (s.stamp now) (validateRequestCtx r).2 loc resp)
  rw [SkySctx.stamp] at read
  unfold skyDecodeResponse
  dsimp only
  generalize deserializeResponse bits _ (validateRequestCtx r).2 loc resp = d at read ⊢
  have reset : SameSetup s { d.sctx with cacheHits := 0 } := read.trans ⟨rfl, rfl⟩
  split_ifs
  · exact .refl s
  · exact .refl s
  · exact .refl s
  · exact read
  · exact reset.trans (sameSetup_reportLocation ..)
  · exact read.trans (sameSetup_reportLocation ..)

theorem sameSetup_setConfig (s : SkySctx) (value : Int32) (rejected : Bool)
    (set : UInt32 → SkyConfig) : SameSetup s (setConfig s value rejected set).2 := by
  unfold setConfig
  split_ifs
  · exact .refl s
  · exact ⟨rfl, rfl⟩

theorem CtxCall.apply_sameSetup (env : Env) (s : SkySctx) (r : SkyRctx) (call : CtxCall) :
    SameSetup s (call.apply env s r).1 := by
  cases call with
  | searchCache loc => exact sameSetup_skySearchCache env.distance s r loc
  | sizeofRequestBuf random => exact sameSetup_skySizeofRequestBuf env.codec s r random
  | decodeResponse resp loc now later =>
    exact sameSetup_skyDecodeResponse env.cipherBits s r loc resp now later
  | setOption name value =>
    cases name with
    | loggingLevel => exact ⟨rfl, rfl⟩
    | cacheMatchThreshold => exact .refl s
    | other => exact .refl s
    | _ => exact sameSetup_setConfig ..
  | _ => exact .refl s

variable {n : ℕ}

theorem SkyRctx.WithinBuffers.onlyList (within : r.WithinBuffers n) (only : OnlyList r r') :
    r'.WithinBuffers n := by
  rw [only.rest]
  exact ⟨⟨within.getFrom, within.saveTo⟩, within.dlAppDataLen⟩

theorem SkyRctx.WithinBuffers.skySizeofRequestBuf (within : r.WithinBuffers n) (codec : Codec)
    (s : SkySctx) (random : List UInt8) :
    (skySizeofRequestBuf codec s r random).rctx.WithinBuffers n := by
  have valid := within.onlyList (onlyList_validateRequestCtx r)
  have prepared : (prepareRequest s (validateRequestCtx r).2).2.WithinBuffers n := by
    rcases prepareRequest_cases s (validateRequestCtx r).2 with ⟨-, -, eq⟩ | ⟨-, -, eq⟩ | ⟨-, eq⟩
    · rw [eq]
      exact ⟨⟨valid.getFrom, valid.saveTo⟩, valid.dlAppDataLen⟩
    · rw [eq]
      exact ⟨⟨lineIndex_none n, valid.saveTo⟩, valid.dlAppDataLen⟩
    · rw [eq]
      exact valid.onlyList (sameScan_selectVap s _).onlyList
  unfold EmbeddedClient.skySizeofRequestBuf
  dsimp only
  split_ifs
  · exact valid
  · exact prepared
  · exact prepared

theorem applyLocation_dlAppDataLen (s : SkySctx) (r : SkyRctx) (loc : SkyLocation) (rs : Rs) :
    (applyLocation s r loc rs).1.dlAppDataLen ≤ SKY_MAX_DL_APP_DATA ∧
      (applyLocation s r loc rs).2.dlAppDataLen ≤ SKY_MAX_DL_APP_DATA := by
  have cut : (rs.dlAppData.take SKY_MAX_DL_APP_DATA).length ≤ SKY_MAX_DL_APP_DATA :=
    List.length_take_le _ _
  unfold applyLocation
  dsimp only
  constructor
  · rw [(sameScan_applyUsedInfoToAp s _ rs.usedAps).rest]
    exact cut
  · exact cut

theorem SkyRctx.WithinBuffers.applyLocation (within : r.WithinBuffers n) (s : SkySctx)
    (loc : SkyLocation) (rs : Rs) : (applyLocation s r loc rs).1.WithinBuffers n := by
  have kept := (applyLocation_rctx s r loc rs).1
  refine ⟨⟨?_, ?_⟩, (applyLocation_dlAppDataLen s r loc rs).1⟩
  · rw [kept.getFrom]
    exact within.getFrom
  · rw [kept.saveTo]
    exact within.saveTo

theorem SkyRctx.WithinBuffers.skyDecodeResponse (within : r.WithinBuffers n) (bits : ℕ)
    (s : SkySctx) (loc : SkyLocation) (resp : Response) (now later : ℤ) :
    (skyDecodeResponse bits s r loc resp now later).rctx.WithinBuffers n := by
  have valid := within.onlyList (onlyList_validateRequestCtx r)
  have outcome := skyDecodeResponse_outcome bits s r loc resp now later
  generalize EmbeddedClient.skyDecodeResponse bits s r loc resp now later = d at outcome ⊢
  cases outcome with
  | rejected errno loc turned => exact valid
  | undecoded loc valid' ctx => exact valid
  | decoded s' s'' r' loc status rs cacheHits valid' ctx same auth =>
    rw [reportLocation_rctx]
    cases auth with
    | refused => exact valid
    | granted => exact ⟨⟨valid.getFrom, valid.saveTo⟩, valid.dlAppDataLen⟩
    | revoked => exact ⟨⟨valid.getFrom, valid.saveTo⟩, valid.dlAppDataLen⟩
    | disabled => exact valid
    | located => exact valid.applyLocation s' (.start status) rs

theorem CtxCall.apply_withinBuffers (env : Env) (within : r.WithinBuffers n)
    (lines : s.numCachelines = n) (call : CtxCall) :
    (call.apply env s r).2.WithinBuffers n := by
  have valid := within.onlyList (onlyList_validateRequestCtx r)
  cases call with
  | addBeacon call timestamp =>
    exact within.onlyList (onlyList_addBeacon s r .none call.beacon timestamp)
  | addGnss args =>
    simp only [CtxCall.apply]
    unfold skyAddGnss
    cases gnssAge r.header.time args.timestamp with
    | none => exact within
    | some age =>
      have aged : SkyRctx.WithinBuffers n { r with gnss := { r.gnss with age := age } } :=
        ⟨⟨within.getFrom, within.saveTo⟩, within.dlAppDataLen⟩
      have checked := aged.onlyList (onlyList_validateRequestCtx _)
      dsimp only
      split_ifs
      · exact aged
      · exact aged
      · exact checked
      · exact ⟨⟨checked.getFrom, checked.saveTo⟩, checked.dlAppDataLen⟩
  | searchCache loc =>
    have used : s.numCachelines.toNat = n := by omega
    refine ⟨skySearchCache_indexed env.distance used within.toIndexed loc, ?_⟩
    obtain ⟨hit, getFrom, saveTo, found⟩ := searchCache_rctx env.distance s (validateRequestCtx r).2
    simp only [CtxCall.apply]
    unfold skySearchCache
    dsimp only
    rw [found]
    split_ifs <;> exact valid.dlAppDataLen
  | ignoreCacheHit =>
    simp only [CtxCall.apply]
    unfold skyIgnoreCacheHit
    dsimp only
    split_ifs
    · exact valid
    · exact ⟨⟨valid.getFrom, valid.saveTo⟩, valid.dlAppDataLen⟩
    · exact valid
  | sizeofRequestBuf random => exact within.skySizeofRequestBuf env.codec s random
  | encodeRequest buf random =>
    simp only [CtxCall.apply, skyEncodeRequest_rctx]
    exact valid
  | decodeResponse resp loc now later =>
    exact within.skyDecodeResponse env.cipherBits s loc resp now later
  | setOption name value => exact within

theorem SkyRctx.WithinBuffers.initialized (s : SkySctx) (now : ℤ) :
    (SkyRctx.initialized s now).WithinBuffers n :=
  ⟨⟨lineIndex_none n, lineIndex_none n⟩, Nat.zero_le _⟩

theorem skyOpenCopies_inside (s : SkySctx) (args : OpenArgs) :
    ∀ copy ∈ skyOpenCopies s args, copy.inside := by
  unfold skyOpenCopies
  split_ifs <;> simp [MemCopy.inside]

theorem skyNewRequest_started_iff (rbufsize : UInt32) (s : SkySctx)
    (ulAppData : List UInt8) (now : ℤ) :
    (skyNewRequest rbufsize s ulAppData now).errno = none ↔
      rbufsize = sizeofSkyRctx ∧ s.openFlag = true ∧
        backoffViolation s (startTime now) = false := by
  unfold skyNewRequest
  split_ifs with size closed denied
  · simp [size]
  · simp_all
  · simp [denied]
  · simp_all

theorem skyNewRequestCopies_inside_iff (w : World) (id : ℕ) (rbufsize : UInt32)
    (ulAppData : List UInt8) (now : ℤ) :
    (∀ copy ∈ skyNewRequestCopies rbufsize w.sctx ulAppData now, copy.inside) ↔
      w.UplinkFits (.newRequest id rbufsize ulAppData now) := by
  have started := skyNewRequest_started_iff rbufsize w.sctx ulAppData now
  unfold skyNewRequestCopies World.UplinkFits
  split_ifs with new
  · simp [MemCopy.inside, started.1 new]
  · constructor
    · intro _ size opened quiet
      exact absurd (started.2 ⟨size, opened, quiet⟩) new
    · simp

theorem serializeRequestCopies_inside (idLen : s.deviceId.length ≤ MAX_DEVICE_ID)
    (ulAppDataLen : s.ulAppData.length ≤ SKY_MAX_UL_APP_DATA) :
    ∀ copy ∈ serializeRequestCopies s, copy.inside := by
  unfold serializeRequestCopies
  dsimp only
  split_ifs
  · simpa [MemCopy.inside] using idLen
  · simpa [MemCopy.inside] using ⟨ulAppDataLen, idLen⟩
  · simpa [MemCopy.inside] using ⟨ulAppDataLen, idLen⟩

theorem deserializeResponseCopies_inside (bits : ℕ) (s : SkySctx) (r : SkyRctx) (loc : SkyLocation)
    (resp : Response) :
    ∀ copy ∈ deserializeResponseCopies (deserializeResponse bits s r loc resp), copy.inside := by
  have bounded : (deserializeResponse bits s r loc resp).ok = true →
      (deserializeResponse bits s r loc resp).loc.dlAppDataLen ≤ SKY_MAX_DL_APP_DATA := by
    rcases deserializeResponse_cases bits s r loc resp with
      ⟨loc', ranges, eq⟩ | ⟨s', status, rs, ranges, -, eq⟩
    · rw [eq]
      simp
    · intro _
      have outcome := applyAuthState_outcome s' r (.start status) status rs
      rw [eq, finishResponse]
      generalize applyAuthState s' r (.start status) status rs = result at outcome ⊢
      cases outcome with
      | located => exact (applyLocation_dlAppDataLen s' r (.start status) rs).2
      | _ => exact Nat.zero_le _
  unfold deserializeResponseCopies
  split_ifs with stored
  · rw [Bool.and_eq_true] at stored
    simpa [MemCopy.inside] using bounded stored.1
  · simp

theorem CtxCall.copies_inside (env : Env) (idLen : s.deviceId.length ≤ MAX_DEVICE_ID)
    (ulAppDataLen : s.ulAppData.length ≤ SKY_MAX_UL_APP_DATA) (r : SkyRctx) (call : CtxCall) :
    ∀ copy ∈ call.copies env s r, copy.inside := by
  have request := serializeRequestCopies_inside idLen ulAppDataLen
  cases call with
  | addBeacon call timestamp => cases call <;> simp [CtxCall.copies, MemCopy.inside]
  | sizeofRequestBuf random =>
    unfold CtxCall.copies
    split_ifs
    · exact request
    · simp
  | encodeRequest buf random =>
    unfold CtxCall.copies
    dsimp only
    split_ifs
    · exact request
    · simp
  | decodeResponse resp loc now later =>
    unfold CtxCall.copies
    dsimp only
    split_ifs
    · exact deserializeResponseCopies_inside _ _ _ _ _
    · simp
  | _ => simp [CtxCall.copies]

/-- The lengths and indexes of a world are within the buffers, with as many cachelines in
use as there are. -/
structure World.Sized (cacheSize : ℕ) (w : World) : Prop where
  idLen : w.sctx.deviceId.length ≤ MAX_DEVICE_ID
  ulAppDataLen : w.sctx.ulAppData.length ≤ SKY_MAX_UL_APP_DATA
  numCachelines : w.sctx.numCachelines = cacheSize
  size : w.sctx.cacheSize = cacheSize
  ctx : ∀ id r, w.ctx id = some r → r.WithinBuffers cacheSize

structure World.Buffered (cacheSize : ℕ) (w : World) : Prop where
  sized : w.Sized cacheSize
  bounded : w.Bounded
  config : w.sctx.config.IsDefault

theorem SkyConfig.IsDefault.catches {c : SkyConfig} (default : c.IsDefault) (numAp numBeacons : ℕ) :
    c.Catches numAp numBeacons := by
  have aps : c.maxApBeacons = 20 := (congrArg SkyConfig.maxApBeacons default :)
  have total : c.totalBeacons = 28 := (congrArg SkyConfig.totalBeacons default :)
  refine c.catches_of_le ?_ ?_ ?_ numAp numBeacons
  · rw [aps]
    decide
  · rw [aps, total]
    decide
  · rw [total]
    decide

theorem SkyCacheline.WellFormed.counts {cl : SkyCacheline} (good : cl.WellFormed) :
    cl.numAp ≤ cl.numBeacons ∧ cl.numBeacons ≤ TOTAL_BEACONS := by
  obtain ⟨slots, l, live, numAp, numBeacons⟩ := good
  have total := l.length_all
  have length := congrArg List.length live
  rw [SkyCacheline.live, List.length_take, slots] at length
  omega

theorem skyOpen_buffers (args : OpenArgs) (idLen : s.deviceId.length ≤ MAX_DEVICE_ID)
    (whole : s.numCachelines = s.cacheSize) :
    (skyOpen s args).2.deviceId.length ≤ MAX_DEVICE_ID ∧
      (skyOpen s args).2.numCachelines = s.cacheSize ∧
      (skyOpen s args).2.cacheSize = s.cacheSize ∧
      ((skyOpen s args).2.ulAppData = s.ulAppData ∨ (skyOpen s args).2.ulAppData = []) := by
  rcases skyOpen_cases s args with ⟨magic, -, eq⟩ | ⟨base, isBase, eq⟩
  · rw [eq]
    exact ⟨idLen, whole, rfl, .inl rfl⟩
  · have kept : base.deviceId.length ≤ MAX_DEVICE_ID ∧ base.numCachelines = s.cacheSize ∧
        base.cacheSize = s.cacheSize ∧ (base.ulAppData = s.ulAppData ∨ base.ulAppData = []) := by
      rcases isBase with ⟨rfl, -⟩ | ⟨now, rfl⟩
      · exact ⟨idLen, whole, rfl, .inl rfl⟩
      · exact ⟨Nat.zero_le _, rfl, List.length_replicate, .inr rfl⟩
    rcases eq with eq | ⟨deviceId, aesKey, eq⟩
    · rw [eq]
      exact kept
    · have cut : (deviceId.take MAX_DEVICE_ID).length ≤ MAX_DEVICE_ID := List.length_take_le _ _
      rw [eq]
      unfold installArgs
      dsimp only
      split_ifs <;> exact ⟨cut, kept.2⟩

theorem skyNewRequest_buffers (rbufsize : UInt32) (s : SkySctx) (ulAppData : List UInt8) (now : ℤ) :
    (skyNewRequest rbufsize s ulAppData now).sctx.deviceId = s.deviceId ∧
      ((skyNewRequest rbufsize s ulAppData now).sctx.ulAppData = s.ulAppData ∨
        (skyNewRequest rbufsize s ulAppData now).errno = none ∧
          (skyNewRequest rbufsize s ulAppData now).sctx.ulAppData = ulAppData) := by
  unfold skyNewRequest
  split_ifs
  · exact ⟨rfl, .inl rfl⟩
  · exact ⟨rfl, .inl rfl⟩
  · exact ⟨rfl, .inl rfl⟩
  · exact ⟨rfl, .inr ⟨rfl, rfl⟩⟩

namespace World.Sized

variable {env : Env} {w : World}

theorem openSession (sized : w.Sized n) (args : OpenArgs) :
    (w.step env (.openSession args)).Sized n := by
  have whole : w.sctx.numCachelines = w.sctx.cacheSize := by
    rw [sized.numCachelines, sized.size]
  obtain ⟨idLen, numCachelines, size, ulAppData⟩ := skyOpen_buffers args sized.idLen whole
  rw [sized.size] at numCachelines size
  refine ⟨idLen, ?_, numCachelines, size, sized.ctx⟩
  rcases ulAppData with same | cleared
  · exact (congrArg List.length same).trans_le sized.ulAppDataLen
  · exact (congrArg List.length cleared).trans_le (Nat.zero_le _)

theorem close (sized : w.Sized n) : (w.step env .close).Sized n := by
  unfold World.step skyClose
  dsimp only
  split_ifs
  · exact sized
  · exact ⟨sized.idLen, sized.ulAppDataLen, sized.numCachelines, sized.size, sized.ctx⟩

theorem newRequest {id : ℕ} {rbufsize : UInt32} {ulAppData : List UInt8} {now : ℤ}
    (sized : w.Sized n) (fits : w.UplinkFits (.newRequest id rbufsize ulAppData now)) :
    (w.step env (.newRequest id rbufsize ulAppData now)).Sized n := by
  have started := skyNewRequest_started_iff rbufsize w.sctx ulAppData now
  have same := skyNewRequest_sctx rbufsize w.sctx ulAppData now
  obtain ⟨deviceId, uplink⟩ := skyNewRequest_buffers rbufsize w.sctx ulAppData now
  have ctx := @World.step_newRequest_ctx w id env _ rbufsize ulAppData now sized.ctx fun _ =>
    .initialized w.sctx now
  have ulAppDataLen : (skyNewRequest rbufsize w.sctx ulAppData now).sctx.ulAppData.length ≤
      SKY_MAX_UL_APP_DATA := by
    rcases uplink with kept | ⟨new, taken⟩
    · exact (congrArg List.length kept).trans_le sized.ulAppDataLen
    · obtain ⟨rbufsize, opened, quiet⟩ := started.1 new
      rw [taken]
      exact fits rbufsize opened quiet
  rw [← @World.step_newRequest_sctx w id env] at ulAppDataLen deviceId same
  exact ⟨(congrArg List.length deviceId).trans_le sized.idLen, ulAppDataLen,
    same.numCachelines.trans sized.numCachelines, same.cacheSize.trans sized.size, ctx⟩

theorem onCtx (sized : w.Sized n) (id : ℕ) (call : CtxCall) :
    (w.step env (.onCtx id call)).Sized n := by
  cases member : w.ctx id with
  | none =>
    rw [World.step_onCtx_none call member]
    exact sized
  | some r =>
    have kept := CtxCall.apply_sameSetup env w.sctx r call
    have within := CtxCall.apply_withinBuffers env (sized.ctx id r member) sized.numCachelines call
    have ctx := World.step_onCtx_ctx member sized.ctx within
    rw [World.step_onCtx_some call member] at ctx ⊢
    refine ⟨?_, ?_, kept.numCachelines.trans sized.numCachelines,
      kept.cacheSize.trans sized.size, ctx⟩
    · exact (congrArg List.length kept.deviceId).trans_le sized.idLen
    · exact (congrArg List.length kept.ulAppData).trans_le sized.ulAppDataLen

theorem step (sized : w.Sized n) (call : Call) (fits : w.UplinkFits call) :
    (w.step env call).Sized n := by
  cases call with
  | openSession args => exact sized.openSession args
  | close => exact sized.close
  | newRequest id rbufsize ulAppData now => exact sized.newRequest fits
  | onCtx id call => exact sized.onCtx id call

/-- The copies of a call are inside exactly if the uplink data it takes over fits. -/
theorem copies_inside_iff (env : Env) (sized : w.Sized n) (call : Call) :
    (∀ copy ∈ w.copies env call, copy.inside) ↔ w.UplinkFits call := by
  cases call with
  | openSession args =>
    exact iff_of_true (skyOpenCopies_inside w.sctx args) trivial
  | close => exact iff_of_true (by simp [World.copies]) trivial
  | newRequest id rbufsize ulAppData now =>
    exact skyNewRequestCopies_inside_iff w id rbufsize ulAppData now
  | onCtx id call =>
    refine iff_of_true ?_ trivial
    cases member : w.ctx id with
    | none => simp [World.copies, member]
    | some r =>
      simp only [World.copies, member, Option.elim_some]
      exact CtxCall.copies_inside env sized.idLen sized.ulAppDataLen r call

end World.Sized

namespace World.Buffered

variable {env : Env} {w : World}

theorem withinBuffers (buffered : w.Buffered n) : w.WithinBuffers n where
  idLen := buffered.sized.idLen
  ulAppDataLen := buffered.sized.ulAppDataLen
  numCachelines := buffered.sized.numCachelines
  lines := fun cl member => (buffered.bounded.wellFormed.sctx.lines cl member).counts
  ctx := buffered.sized.ctx

theorem step_bounded (buffered : w.Buffered n) (call : Call) :
    (w.step env call).Bounded ∧ w.withinCapacity call := by
  apply World.step_bounded env buffered.bounded call
  unfold World.caught
  split
  · exact fun r _ => .inr (buffered.config.catches _ _)
  · trivial

theorem step (buffered : w.Buffered n) (call : Call) (fits : w.UplinkFits call)
    (config : (w.step env call).sctx.config.IsDefault) : (w.step env call).Buffered n :=
  ⟨buffered.sized.step call fits, (buffered.step_bounded call).1, config⟩

/-- One call keeps everything within the buffers exactly if the uplink data fits. -/
theorem step_iff (buffered : w.Buffered n) (call : Call)
    (config : (w.step env call).sctx.config.IsDefault) :
    w.CopiesInside env call ∧ (w.step env call).WithinBuffers n ↔ w.UplinkFits call := by
  have copies := buffered.sized.copies_inside_iff env call
  constructor
  · intro inside
    exact copies.1 inside.1.1
  · intro fits
    exact ⟨⟨copies.2 fits, (@step_bounded _ env _ buffered call).2⟩,
      (buffered.step call fits config).withinBuffers⟩

end World.Buffered

variable (env : Env)

theorem World.start_buffered {args : OpenArgs}
    (opened : (skyOpen (SkySctx.zeroed n) args).1 = .none) :
    ((World.start n).step env (.openSession args)).Buffered n := by
  have bounded := (World.step_bounded env (World.start_bounded n) (.openSession args) trivial).1
  obtain ⟨now, deviceId, aesKey, eq⟩ := skyOpen_zeroed opened
  have cut : (deviceId.take MAX_DEVICE_ID).length ≤ MAX_DEVICE_ID := List.length_take_le _ _
  have size : (SkySctx.initialized n now).cacheSize = n := List.length_replicate
  refine ⟨⟨?_, ?_, ?_, ?_, fun _ _ member => by simp [World.step, World.start] at member⟩,
    bounded, ?_⟩
  all_goals
    simp only [World.step, World.start]
    rw [eq]
    unfold installArgs
    dsimp only
    split_ifs
  all_goals first | exact cut | exact Nat.zero_le _ | rfl | exact size

instance (c : SkyConfig) : Decidable c.IsDefault := inferInstanceAs (Decidable (_ = _))

instance (w : World) : ∀ call : Call, Decidable (w.UplinkFits call)
  | .newRequest _ rbufsize ulAppData now => inferInstanceAs (Decidable
      (rbufsize = sizeofSkyRctx → w.sctx.openFlag = true →
        backoffViolation w.sctx (startTime now) = false → ulAppData.length ≤ SKY_MAX_UL_APP_DATA))
  | .openSession _ | .close | .onCtx .. => isTrue trivial

end EmbeddedClient
