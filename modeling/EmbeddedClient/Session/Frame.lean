import EmbeddedClient.Beacons.Frame
import EmbeddedClient.Model.Run
import EmbeddedClient.Session.Dispatch

/-!
# What the calls leave alone

Only decoding a response changes the header of the session, its token, its
backoff and the registration state of a request; only opening changes the
credentials. Every other call keeps them.
-/

namespace EmbeddedClient

structure SameRequest (r r' : SkyRctx) : Prop where
  header : r'.header = r.header
  authState : r'.authState = r.authState

def SkyCacheline.untimed (cl : SkyCacheline) : SkyCacheline := { cl with time := CACHE_EMPTY }

/-- The same session up to the times of its cachelines, its configuration and
uplink data. -/
structure SameSession (s s' : SkySctx) : Prop where
  header : s'.header = s.header
  openFlag : s'.openFlag = s.openFlag
  plugins : s'.plugins = s.plugins
  tokenId : s'.tokenId = s.tokenId
  sku : s'.sku = s.sku
  backoff : s'.backoff = s.backoff
  partnerId : s'.partnerId = s.partnerId
  aesKey : s'.aesKey = s.aesKey
  numCachelines : s'.numCachelines = s.numCachelines
  lines : s'.cacheline.map SkyCacheline.untimed = s.cacheline.map SkyCacheline.untimed

namespace SameRequest

variable {r r' r'' : SkyRctx}

theorem refl (r : SkyRctx) : SameRequest r r := ⟨rfl, rfl⟩

theorem trans (first : SameRequest r r') (second : SameRequest r' r'') : SameRequest r r'' :=
  ⟨second.header.trans first.header, second.authState.trans first.authState⟩

end SameRequest

theorem SameScan.sameRequest {r r' : SkyRctx} (same : SameScan r r') : SameRequest r r' :=
  ⟨same.header, by rw [same.rest]⟩

structure OnlyList (r r' : SkyRctx) : Prop where
  rest : r' = { r with beacon := r'.beacon, numBeacons := r'.numBeacons, numAp := r'.numAp }

namespace OnlyList

variable {r r' r'' : SkyRctx}

theorem refl (r : SkyRctx) : OnlyList r r := ⟨rfl⟩

theorem trans (first : OnlyList r r') (second : OnlyList r' r'') : OnlyList r r'' where
  rest := by rw [second.rest, first.rest]

theorem sameRequest (only : OnlyList r r') : SameRequest r r' := by
  constructor
  · rw [only.rest]
  · rw [only.rest]

end OnlyList

theorem SameScan.onlyList {r r' : SkyRctx} (same : SameScan r r') : OnlyList r r' where
  rest := by rw [same.rest]

namespace SameSession

variable {s s' s'' : SkySctx}

theorem update (s : SkySctx) (c : SkyConfig) (hits : UInt8) (level : Int32)
    (data : List UInt8) : SameSession s
      { s with config := c, cacheHits := hits, minLevel := level, ulAppData := data } :=
  ⟨rfl, rfl, rfl, rfl, rfl, rfl, rfl, rfl, rfl, rfl⟩

theorem refl (s : SkySctx) : SameSession s s := update s _ _ _ _

theorem trans (first : SameSession s s') (second : SameSession s' s'') : SameSession s s'' where
  header := second.header.trans first.header
  openFlag := second.openFlag.trans first.openFlag
  plugins := second.plugins.trans first.plugins
  tokenId := second.tokenId.trans first.tokenId
  sku := second.sku.trans first.sku
  backoff := second.backoff.trans first.backoff
  partnerId := second.partnerId.trans first.partnerId
  aesKey := second.aesKey.trans first.aesKey
  numCachelines := second.numCachelines.trans first.numCachelines
  lines := second.lines.trans first.lines

end SameSession

theorem checkRestored_cases (s : SkySctx) (args : OpenArgs) :
    checkRestored s args = none ∨ checkRestored s args = some s ∨
      checkRestored s args = some { s with header := { s.header with magic := 0 } } := by
  unfold checkRestored
  split_ifs
  · exact .inr (.inl rfl)
  · exact .inr (.inr rfl)
  · exact .inl rfl
  · exact .inr (.inr rfl)
  · exact .inr (.inl rfl)

/-- `sky_open` leaves the session with its magic number at most, or takes over
the arguments into the session or into a cleared one, as far as it gets. -/
theorem skyOpen_cases (s : SkySctx) (args : OpenArgs) :
    (∃ magic, (magic = s.header.magic ∨ magic = 0) ∧
      (skyOpen s args).2 = { s with header := { s.header with magic := magic } }) ∨
      ∃ base, (base = s ∧ s.header.magic ≠ 0 ∨ ∃ now, base = SkySctx.initialized s.cacheSize now) ∧
        ((skyOpen s args).2 = configDefaults base ∨
          ∃ deviceId aesKey,
            (skyOpen s args).2 = installArgs (configDefaults base) args deviceId aesKey) := by
  unfold skyOpen
  obtain check | check | check := checkRestored_cases s args
  · rw [check]
    exact .inl ⟨s.header.magic, .inl rfl, rfl⟩
  · rw [check]
    cases args.gettime with
    | none => exact .inl ⟨s.header.magic, .inl rfl, rfl⟩
    | some now =>
      refine .inr ⟨if s.header.magic = 0 then SkySctx.initialized s.cacheSize now else s, ?_, ?_⟩
      · split_ifs with blank
        · exact .inr ⟨now, rfl⟩
        · exact .inl ⟨rfl, blank⟩
      · cases args.deviceId <;> cases args.aesKey <;> simp
  · rw [check]
    cases args.gettime with
    | none => exact .inl ⟨0, .inr rfl, rfl⟩
    | some now =>
      refine .inr ⟨SkySctx.initialized s.cacheSize now, .inr ⟨now, rfl⟩, ?_⟩
      cases args.deviceId <;> cases args.aesKey <;> simp [SkySctx.cacheSize]

theorem skyOpen_zeroed {n : ℕ} {args : OpenArgs}
    (opened : (skyOpen (SkySctx.zeroed n) args).1 = .none) :
    ∃ now deviceId aesKey, (skyOpen (SkySctx.zeroed n) args).2 =
      installArgs (configDefaults (SkySctx.initialized n now)) args deviceId aesKey := by
  have blank : checkRestored (SkySctx.zeroed n) args = some (SkySctx.zeroed n) := if_pos rfl
  have magic : (SkySctx.zeroed n).header.magic = 0 := rfl
  have size : (SkySctx.zeroed n).cacheSize = n := List.length_replicate
  unfold skyOpen at opened ⊢
  rw [blank] at opened ⊢
  cases now : args.gettime with
  | none => simp [now] at opened
  | some t =>
    cases device : args.deviceId with
    | none => simp [now, device] at opened
    | some deviceId =>
      cases key : args.aesKey with
      | none => simp [now, device, key] at opened
      | some aesKey =>
        refine ⟨t, deviceId, aesKey, ?_⟩
        dsimp only
        rw [if_pos magic, size]

@[simp] theorem SkyCacheline.untimed_renew (c : SkyConfig) (now : ℤ) (cl : SkyCacheline) :
    (cl.renew c now).untimed = cl.untimed := by
  unfold SkyCacheline.renew
  dsimp only
  split_ifs <;> rfl

theorem skyNewRequest_sctx (rbufsize : UInt32) (s : SkySctx) (ulAppData : List UInt8) (now : ℤ) :
    SameSession s (skyNewRequest rbufsize s ulAppData now).sctx := by
  have untimed : SkyCacheline.untimed ∘ SkyCacheline.renew s.config (startTime now) =
      SkyCacheline.untimed := by
    funext cl
    simp
  unfold skyNewRequest
  split_ifs
  · exact .refl s
  · exact .refl s
  · exact .refl s
  · exact ⟨rfl, rfl, rfl, rfl, rfl, rfl, rfl, rfl, rfl, by simp [untimed]⟩

theorem skyNewRequest_config (rbufsize : UInt32) (s : SkySctx) (ulAppData : List UInt8) (now : ℤ) :
    (skyNewRequest rbufsize s ulAppData now).sctx.config = s.config := by
  unfold skyNewRequest
  split_ifs <;> rfl

theorem validateRequestCtx_rest (r : SkyRctx) :
    ∃ bs, (validateRequestCtx r).2 = { r with beacon := bs } := by
  unfold validateRequestCtx
  split_ifs
  · exact ⟨r.beacon, rfl⟩
  · exact ⟨r.beacon, rfl⟩
  · exact ⟨_, rfl⟩
  · exact ⟨r.beacon, rfl⟩

theorem onlyList_validateRequestCtx (r : SkyRctx) : OnlyList r (validateRequestCtx r).2 := by
  obtain ⟨bs, eq⟩ := validateRequestCtx_rest r
  rw [eq]
  exact ⟨rfl⟩

theorem sameRequest_validateRequestCtx (r : SkyRctx) : SameRequest r (validateRequestCtx r).2 :=
  (onlyList_validateRequestCtx r).sameRequest

theorem onlyList_removeBeacon (r : SkyRctx) (index : ℕ) :
    OnlyList r (removeBeacon r index).2 := by
  unfold removeBeacon
  split_ifs <;> exact ⟨rfl⟩

theorem onlyList_insertBeacon (plugins : List SkyPluginTable) (r : SkyRctx)
    (errno : SkyErrno) (b : Beacon) :
    OnlyList r (insertBeacon plugins r errno b).rctx := by
  unfold insertBeacon
  dsimp only
  split_ifs
  · split
    · exact .refl r
    · exact (onlyList_removeBeacon r _).trans ⟨rfl⟩
    · exact ⟨rfl⟩
  · exact .refl r

theorem onlyList_apRemoveWorst (s : SkySctx) (r : SkyRctx) :
    OnlyList r (ApPlugin.removeWorst s r).2 := by
  have priorities := (ApPlugin.sameScan_setPriorities s r).onlyList
  have virtual (r : SkyRctx) : OnlyList r (ApPlugin.removeVirtualAp s r).2 := by
    unfold ApPlugin.removeVirtualAp
    split_ifs
    · exact .refl r
    · exact .refl r
    · split
      · exact onlyList_removeBeacon r _
      · exact .refl r
  have oldest (r : SkyRctx) : OnlyList r (ApPlugin.removeOldestAp r).2 := by
    unfold ApPlugin.removeOldestAp
    dsimp only
    split
    · split_ifs
      · exact onlyList_removeBeacon r _
      · exact .refl r
    · exact .refl r
  unfold ApPlugin.removeWorst
  dsimp only
  split_ifs
  · exact priorities
  · exact priorities.trans (virtual _)
  · exact priorities.trans ((virtual _).trans (oldest _))
  · exact priorities.trans ((virtual _).trans ((oldest _).trans (onlyList_removeBeacon _ _)))

theorem onlyList_cellRemoveWorst (s : SkySctx) (r : SkyRctx) :
    OnlyList r (CellPlugin.removeWorst s r).2 := by
  unfold CellPlugin.removeWorst
  split_ifs
  · exact .refl r
  · exact onlyList_removeBeacon r _
  · exact .refl r

theorem onlyList_skyPluginRemoveWorst (s : SkySctx) (plugins : List SkyPluginTable)
    (r : SkyRctx) : OnlyList r (skyPluginRemoveWorst s plugins r).2 := by
  apply skyPluginRemoveWorst_induction (OnlyList r) _ plugins (.refl r)
  intro p r' same
  cases p with
  | apPluginBasic => exact same.trans (onlyList_apRemoveWorst s r')
  | cellPluginBasic => exact same.trans (onlyList_cellRemoveWorst s r')

theorem onlyList_filterBeacons (s : SkySctx) (added : AddResult) :
    OnlyList added.rctx (filterBeacons s added).rctx := by
  have removed := onlyList_skyPluginRemoveWorst s s.plugins added.rctx
  unfold filterBeacons
  dsimp only
  split_ifs
  · exact .refl _
  · split <;> exact removed

theorem onlyList_addBeacon (s : SkySctx) (r : SkyRctx) (errno : SkyErrno)
    (b : Beacon) (timestamp : ℤ) :
    OnlyList r (addBeacon s r errno b timestamp).rctx := by
  have valid := onlyList_validateRequestCtx r
  have finish (added : AddResult) (inserted : OnlyList r added.rctx) :
      OnlyList r (if added.status = .error then added
        else if added.rctx.numBeacons = r.numBeacons then added
          else filterBeacons s added).rctx := by
    split_ifs
    · exact inserted
    · exact inserted
    · exact inserted.trans (onlyList_filterBeacons s added)
  unfold addBeacon
  dsimp only
  by_cases checked : (!(validateRequestCtx r).1) = true ∨ (!s.openFlag) = true ∨
      (!(validateBeacon b).1) = true
  · split_ifs <;> first | exact valid | simp_all
  · simp only [not_or] at checked
    rw [if_neg checked.1, if_neg checked.2.1, if_neg checked.2.2]
    cases beaconAge r.header.time timestamp with
    | error e => exact valid
    | ok age => exact finish _ (valid.trans (onlyList_insertBeacon ..))

theorem sameRequest_addBeacon (s : SkySctx) (r : SkyRctx) (errno : SkyErrno)
    (b : Beacon) (timestamp : ℤ) :
    SameRequest r (addBeacon s r errno b timestamp).rctx :=
  (onlyList_addBeacon s r errno b timestamp).sameRequest

theorem sameRequest_skyAddGnss (r : SkyRctx) (args : GnssArgs) :
    SameRequest r (skyAddGnss r args).2 := by
  unfold skyAddGnss
  cases gnssAge r.header.time args.timestamp with
  | none => exact .refl r
  | some age =>
    have valid := sameRequest_validateRequestCtx { r with gnss := { r.gnss with age := age } }
    dsimp only
    split_ifs
    · exact ⟨rfl, rfl⟩
    · exact ⟨rfl, rfl⟩
    · exact ⟨valid.header, valid.authState⟩
    · exact ⟨valid.header, valid.authState⟩

@[simp] theorem SkyCacheline.untimed_expire (limit : ℕ) (now : UInt32) (cl : SkyCacheline) :
    (cl.expire limit now).untimed = cl.untimed := by
  unfold SkyCacheline.expire
  split_ifs <;> rfl

theorem sameSession_expire (s : SkySctx) (r : SkyRctx) : SameSession s (s.expire r) where
  header := rfl
  openFlag := rfl
  plugins := rfl
  tokenId := rfl
  sku := rfl
  backoff := rfl
  partnerId := rfl
  aesKey := rfl
  numCachelines := rfl
  lines := by
    have untimed : SkyCacheline.untimed ∘ SkyCacheline.expire s.config.ageLimit r.header.time =
        SkyCacheline.untimed := by
      funext cl
      simp
    simp only [SkySctx.expire, SkySctx.mapLines, List.map_append, List.map_map, untimed]
    rw [← List.map_append, SkySctx.lines, List.take_append_drop]

theorem same_cacheMatch (p : SkyPluginTable) (distance : Distance) (s : SkySctx) (r : SkyRctx) :
    SameSession s (p.cacheMatch distance s r).2.1 ∧
      SameRequest r (p.cacheMatch distance s r).2.2 := by
  obtain ⟨hit, getFrom, saveTo, searched⟩ := cacheMatch_rctx p distance s r
  rw [cacheMatch_sctx, searched]
  exact ⟨sameSession_expire s r, rfl, rfl⟩

theorem same_skyPluginMatchCache (distance : Distance) (plugins : List SkyPluginTable)
    (s : SkySctx) (r : SkyRctx) :
    SameSession s (skyPluginMatchCache distance plugins s r).2.1 ∧
      SameRequest r (skyPluginMatchCache distance plugins s r).2.2 := by
  apply skyPluginMatchCache_induction (fun s' r' => SameSession s s' ∧ SameRequest r r') _ plugins
    ⟨.refl s, .refl r⟩
  intro p s' r' same
  have searched := same_cacheMatch p distance s' r'
  exact ⟨same.1.trans searched.1, same.2.trans searched.2⟩

theorem same_searchCache (distance : Distance) (s : SkySctx) (r : SkyRctx) :
    SameSession s (searchCache distance s r).1 ∧ SameRequest r (searchCache distance s r).2 := by
  have matched := same_skyPluginMatchCache distance s.plugins s r
  unfold searchCache
  dsimp only
  split_ifs
  · exact ⟨.refl s, rfl, rfl⟩
  · split
    · exact matched
    · exact ⟨matched.1, matched.2.header, matched.2.authState⟩

theorem same_skySearchCache (distance : Distance) (s : SkySctx) (r : SkyRctx)
    (loc : SkyLocation) :
    SameSession s (skySearchCache distance s r loc).sctx ∧
      SameRequest r (skySearchCache distance s r loc).rctx := by
  have valid := sameRequest_validateRequestCtx r
  have searched := same_searchCache distance s (validateRequestCtx r).2
  unfold skySearchCache
  dsimp only
  split_ifs
  · exact ⟨.refl s, valid⟩
  · exact ⟨searched.1, valid.trans searched.2⟩
  · have same := valid.trans searched.2
    exact ⟨searched.1.trans (.update _ _ _ _ _), same.header, same.authState⟩

theorem sameRequest_skyIgnoreCacheHit (r : SkyRctx) : SameRequest r (skyIgnoreCacheHit r).2 := by
  have valid := sameRequest_validateRequestCtx r
  unfold skyIgnoreCacheHit
  dsimp only
  split_ifs
  · exact valid
  · exact ⟨valid.header, valid.authState⟩
  · exact valid

theorem sameSession_markConfigDue (s : SkySctx) (r : SkyRctx) :
    SameSession s (s.markConfigDue r) := by
  unfold SkySctx.markConfigDue
  split_ifs <;> exact .update _ _ _ _ _

theorem same_prepareRequest (s : SkySctx) (r : SkyRctx) :
    SameSession s (prepareRequest s r).1 ∧ SameRequest r (prepareRequest s r).2 := by
  have marked := sameSession_markConfigDue s r
  have counted (cacheHits : UInt8) :
      SameSession s { s.markConfigDue r with cacheHits := cacheHits } :=
    marked.trans (.update _ _ _ _ _)
  unfold prepareRequest
  dsimp only
  split_ifs
  · exact ⟨counted _, rfl, rfl⟩
  · exact ⟨counted _, rfl, rfl⟩
  · exact ⟨marked, (sameScan_selectVap _ r).sameRequest⟩

/-- What sizing does to the context: it takes over a cacheline, gives up on it, or
chooses the virtual groups. -/
theorem prepareRequest_cases (s : SkySctx) (r : SkyRctx) :
    (r.isCacheHit = true ∧ s.cacheHits < 127 ∧
        (prepareRequest s r).2 = r.populate (s.line r.getFrom)) ∨
      (r.isCacheHit = true ∧ ¬ s.cacheHits < 127 ∧
        (prepareRequest s r).2 = { r with getFrom := -1 }) ∨
      (r.isCacheHit = false ∧ (prepareRequest s r).2 = selectVap s r) := by
  have hits : (s.markConfigDue r).cacheHits = s.cacheHits := by
    unfold SkySctx.markConfigDue; split_ifs <;> rfl
  have line : (s.markConfigDue r).line r.getFrom = s.line r.getFrom := by
    unfold SkySctx.markConfigDue; split_ifs <;> rfl
  have vap : selectVap (s.markConfigDue r) r = selectVap s r := by
    unfold SkySctx.markConfigDue; split_ifs <;> rfl
  unfold prepareRequest
  dsimp only
  rw [hits, line, vap]
  split_ifs with hit few
  · exact .inl ⟨hit, few, rfl⟩
  · exact .inr (.inl ⟨hit, few, rfl⟩)
  · exact .inr (.inr ⟨by simpa using hit, rfl⟩)

theorem same_skySizeofRequestBuf (codec : Codec) (s : SkySctx) (r : SkyRctx)
    (random : List UInt8) :
    SameSession s (skySizeofRequestBuf codec s r random).sctx ∧
      SameRequest r (skySizeofRequestBuf codec s r random).rctx := by
  have valid := sameRequest_validateRequestCtx r
  have prepared := same_prepareRequest s (validateRequestCtx r).2
  unfold skySizeofRequestBuf
  dsimp only
  split_ifs
  · exact ⟨.refl s, valid⟩
  · exact ⟨prepared.1, valid.trans prepared.2⟩
  · exact ⟨prepared.1, valid.trans prepared.2⟩

theorem skyEncodeRequest_rctx (codec : Codec) (s : SkySctx) (r : SkyRctx)
    (buf : Option (List UInt8)) (random : List UInt8) :
    (skyEncodeRequest codec s r buf random).rctx = (validateRequestCtx r).2 := by
  unfold skyEncodeRequest
  dsimp only
  split_ifs
  · rfl
  · rfl
  · rfl
  · cases buf with
    | none => rfl
    | some buf =>
      dsimp only
      split_ifs <;> rfl

theorem sameSession_setConfig (s : SkySctx) (value : Int32) (rejected : Bool)
    (set : UInt32 → SkyConfig) : SameSession s (setConfig s value rejected set).2 := by
  unfold setConfig
  split_ifs <;> exact .update _ _ _ _ _

theorem sameSession_skySetOption (s : SkySctx) (name : SkyConfigName) (value : Int32) :
    SameSession s (skySetOption s name value).2 := by
  cases name with
  | loggingLevel => exact .update _ _ _ _ _
  | cacheMatchThreshold => exact .refl s
  | other => exact .refl s
  | _ => exact sameSession_setConfig ..

/-- Every call on a context but decoding a response keeps the session and the request. -/
theorem CtxCall.apply_same (env : Env) (s : SkySctx) (r : SkyRctx) (call : CtxCall)
    (notDecode : ∀ resp loc now later, call ≠ .decodeResponse resp loc now later) :
    SameSession s (call.apply env s r).1 ∧ SameRequest r (call.apply env s r).2 := by
  cases call with
  | addBeacon call timestamp =>
    exact ⟨.refl s, sameRequest_addBeacon s r .none call.beacon timestamp⟩
  | addGnss args => exact ⟨.refl s, sameRequest_skyAddGnss r args⟩
  | searchCache loc => exact same_skySearchCache env.distance s r loc
  | ignoreCacheHit => exact ⟨.refl s, sameRequest_skyIgnoreCacheHit r⟩
  | sizeofRequestBuf random => exact same_skySizeofRequestBuf env.codec s r random
  | encodeRequest buf random =>
    refine ⟨.refl s, ?_⟩
    simp only [CtxCall.apply, skyEncodeRequest_rctx]
    exact sameRequest_validateRequestCtx r
  | decodeResponse resp loc now later => exact absurd rfl (notDecode resp loc now later)
  | setOption name value => exact ⟨sameSession_skySetOption s name value, .refl r⟩

end EmbeddedClient
