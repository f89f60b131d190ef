import EmbeddedClient.Session.Buffers
import EmbeddedClient.Session.Quiet

/-!
# Closing a session and opening it again

The calls of a run within capacity keep an opened session in a state that the check of a saved
session accepts. So closing the session and opening it with the arguments it was opened with
brings every field back, except for options that were set to zero, which get their defaults.
-/

namespace EmbeddedClient

open Runs

/-- What the check of a saved session looks at, in all lines. -/
structure SkySctx.Saved (s : SkySctx) : Prop where
  magic : s.header.magic = SKY_MAGIC
  crc32 : s.header.crc32 = s.header.checksum
  size : s.header.size = sizeofSkySctx s.cacheSize
  lines : ∀ cl ∈ s.cacheline, validateCacheline cl = true

/-- The session is blank or can be saved, and it can be if it is open. -/
structure SkySctx.Lasting (s : SkySctx) : Prop where
  saved : s.header.magic = 0 ∨ s.Saved
  opened : s.openFlag = true → s.Saved ∧ s.randBytes = true
  sku : skuField (skuChars s.sku) = s.sku

variable {s s' : SkySctx} {r : SkyRctx} {args : OpenArgs}

theorem SkySctx.Saved.valid (saved : s.Saved) : validateSessionCtx s = true := by
  unfold validateSessionCtx
  simp only [saved.magic, saved.crc32, saved.size, decide_true, Bool.true_and, List.all_eq_true]
  intro cl member
  exact saved.lines cl (List.mem_of_mem_take member)

theorem SkySctx.Lasting.saved_of_valid (lasting : s.Lasting)
    (valid : validateSessionCtx s = true) : s.Saved :=
  lasting.saved.resolve_left (magic_of_validateSessionCtx valid)

theorem validateCacheline_of_untimed {cl cl' : SkyCacheline} (same : cl'.untimed = cl.untimed)
    (good : validateCacheline cl = true) : validateCacheline cl' = true := by
  have numBeacons : cl'.numBeacons = cl.numBeacons := (congrArg SkyCacheline.numBeacons same :)
  have beacon : cl'.beacon = cl.beacon := (congrArg SkyCacheline.beacon same :)
  unfold validateCacheline at good ⊢
  rwa [numBeacons, beacon]

theorem SkySctx.Saved.same (same : SameAccount s s') (saved : s.Saved) : s'.Saved where
  magic := by rw [same.header, saved.magic]
  crc32 := by rw [same.header, saved.crc32]
  size := by rw [same.header, same.cacheSize, saved.size]
  lines := by
    intro cl member
    have mapped : cl.untimed ∈ s.cacheline.map SkyCacheline.untimed := by
      rw [← same.lines]
      exact List.mem_map_of_mem member
    obtain ⟨old, inOld, eq⟩ := List.mem_map.1 mapped
    exact validateCacheline_of_untimed eq.symm (saved.lines old inOld)

theorem saved_initialized (cacheSize : ℕ) (now : ℤ) :
    (SkySctx.initialized cacheSize now).Saved where
  magic := rfl
  crc32 := rfl
  size := by
    have size : (SkySctx.initialized cacheSize now).cacheSize = cacheSize := List.length_replicate
    rw [size]
    rfl
  lines := by
    have line : validateCacheline SkyCacheline.cleared = true := by decide
    intro cl member
    rwa [List.eq_of_mem_replicate member]

theorem skuField_skuChars_skuField (text : List UInt8) (short : text.length ≤ 32)
    (nonzero : ∀ c ∈ text, c ≠ 0) : skuField (skuChars (skuField text)) = skuField text := by
  rw [skuChars_skuField text short nonzero]

theorem installArgs_lasting {base : SkySctx} (saved : base.Saved)
    (sku : skuField (skuChars base.sku) = base.sku) (deviceId : List UInt8)
    (aesKey : Vector UInt8 16) : (installArgs base args deviceId aesKey).Lasting := by
  have kept := saved.same (sameAccount_installArgs base args deviceId aesKey)
  have installed : (installArgs base args deviceId aesKey).randBytes = true ∧
      skuField (skuChars (installArgs base args deviceId aesKey).sku) =
        (installArgs base args deviceId aesKey).sku := by
    unfold installArgs
    dsimp only
    split_ifs
    · exact ⟨rfl, skuField_skuChars_skuField _ args.skuText_length_le fun c =>
        args.ne_zero_of_mem_skuText⟩
    · exact ⟨rfl, sku⟩
  exact ⟨.inr kept, fun _ => ⟨kept, installed.1⟩, installed.2⟩

theorem SkySctx.Lasting.skyOpen (lasting : s.Lasting) (args : OpenArgs) :
    (skyOpen s args).2.Lasting := by
  by_cases opened : s.openFlag = true
  · have saved := (lasting.opened opened).1
    have still : EmbeddedClient.skyOpen s args = (.alreadyOpen, s) := by
      unfold EmbeddedClient.skyOpen checkRestored
      rw [if_neg (magic_of_validateSessionCtx saved.valid), if_neg (by simp [saved.valid]),
        if_pos opened]
    rw [still]
    exact lasting
  · rcases skyOpen_cases s args with ⟨magic, kept, eq⟩ | ⟨base, start, eq⟩
    · rw [eq]
      refine ⟨?_, fun still => absurd still opened, lasting.sku⟩
      rcases kept with rfl | rfl
      · exact lasting.saved
      · exact .inl rfl
    · have onBase : base.Saved ∧ skuField (skuChars base.sku) = base.sku ∧
        base.openFlag = false := by
        rcases start with ⟨rfl, magic⟩ | ⟨now, rfl⟩
        · exact ⟨lasting.saved.resolve_left magic, lasting.sku, by simpa using opened⟩
        · refine ⟨saved_initialized _ now, ?_, rfl⟩
          have blank : skuField [] = Vector.replicate 33 0 := by decide
          rw [skuChars_initialized]
          exact blank
      obtain ⟨saved, sku, closed⟩ := onBase
      have defaults : (configDefaults base).Saved := saved.same (sameAccount_configDefaults base)
      rcases eq with eq | ⟨deviceId, aesKey, eq⟩
      · rw [eq]
        refine ⟨.inr defaults, fun still => ?_, sku⟩
        have flag : base.openFlag = true := still
        rw [closed] at flag
        cases flag
      · rw [eq]
        exact installArgs_lasting defaults sku deviceId aesKey

def SkyCacheline.Sound (cl : SkyCacheline) : Prop := cl.WellFormed ∧ validateCacheline cl = true

theorem SkyRctx.WellFormed.keepsSound (good : r.WellFormed) (fits : r.numBeacons ≤ TOTAL_BEACONS) :
    KeptInCache r SkyCacheline.Sound where
  untimed :=
    fun _ _ same sound => ⟨sound.1.of_untimed same, validateCacheline_of_untimed same sound.2⟩
  filled := by
    intro cl cl' sound numBeacons numAp beacon
    refine ⟨(good.keptInCache fits).filled cl cl' sound.1 numBeacons numAp beacon, ?_⟩
    have valid := sound.2
    unfold validateCacheline at valid ⊢
    simp only [Bool.and_eq_true, decide_eq_true_eq, List.all_eq_true] at valid ⊢
    refine ⟨numBeacons.trans_le fits, fun b member => ?_⟩
    have whole : cl.beacon.take TOTAL_BEACONS = cl.beacon := by
      rw [← sound.1.1, List.take_length]
    rw [beacon] at member
    rcases List.mem_append.1 (List.mem_of_mem_take member) with live | old
    · have slot : b ∈ r.beacon.take TOTAL_BEACONS := List.take_subset_take_left _ fits live
      exact good.1.usable b slot
    · exact valid.2 b (by rw [whole]; exact List.mem_of_mem_drop old)

theorem reportLocation_header (s : SkySctx) (r : SkyRctx) (loc : SkyLocation) (now : ℤ) :
    (reportLocation s r loc now).sctx.header = s.header := by
  unfold reportLocation
  cases loc.locationStatus with
  | success =>
    obtain ⟨cacheline, stored⟩ := skyPluginAddToCache_sctx s.plugins { s with backoff := .none } r
      { loc with time := now, locationStatus := .success }
    dsimp only
    rw [stored]
  | authError => cases r.authState <;> rfl
  | _ => rfl

theorem reportLocation_saved (saved : s.Saved) (wellFormed : ∀ cl ∈ s.cacheline, cl.WellFormed)
    (good : r.WellFormed) (fits : r.numBeacons ≤ TOTAL_BEACONS) (loc : SkyLocation) (now : ℤ) :
    (reportLocation s r loc now).sctx.Saved := by
  have sound := lines_reportLocation (good.keepsSound fits)
    (fun cl member => ⟨wellFormed cl member, saved.lines cl member⟩) loc now
  have setup := sameSetup_reportLocation s r loc now
  have header := reportLocation_header s r loc now
  exact ⟨by rw [header, saved.magic], by rw [header, saved.crc32],
    by rw [header, setup.cacheSize, saved.size], fun cl member => (sound cl member).2⟩

theorem SkySctx.Saved.stamp (saved : s.Saved) (now : ℤ) : (s.stamp now).Saved where
  magic := saved.magic
  crc32 := rfl
  size := saved.size
  lines := saved.lines

theorem skyDecodeResponse_saved (bits : ℕ) (lasting : s.Lasting) (wellFormed : s.WellFormed)
    (good : r.WellFormed) (fits : r.numBeacons ≤ TOTAL_BEACONS) (loc : SkyLocation)
    (resp : Response) (now later : ℤ) :
    (skyDecodeResponse bits s r loc resp now later).sctx = s ∨
      (skyDecodeResponse bits s r loc resp now later).sctx.Saved := by
  have checked := good.validateRequestCtx
  have outcome := skyDecodeResponse_outcome bits s r loc resp now later
  generalize skyDecodeResponse bits s r loc resp now later = d at outcome ⊢
  cases outcome with
  | rejected => exact .inl rfl
  | undecoded loc valid ctx => exact .inr ((lasting.saved_of_valid valid).stamp now)
  | decoded s' s'' r' loc status rs cacheHits valid ctx same auth =>
    right
    have stamped := (lasting.saved_of_valid valid).stamp now
    have read : s'.Saved := stamped.same same.session.sameAccount
    rw [checked] at auth
    have kept : SameAccount { s' with backoff := s''.backoff } { s'' with
      cacheHits := cacheHits } := by
      cases auth <;> exact ⟨rfl, rfl, rfl, rfl⟩
    have saved : SkySctx.Saved { s'' with cacheHits := cacheHits } :=
      SkySctx.Saved.same kept ⟨read.magic, read.crc32, read.size, read.lines⟩
    have lines : s''.cacheline = s.cacheline := by
      have unchanged : s''.cacheline = s'.cacheline := by cases auth <;> rfl
      exact unchanged.trans same.cacheline
    have context : r'.WellFormed ∧ r'.numBeacons ≤ TOTAL_BEACONS := by
      cases auth with
      | refused => exact ⟨good, fits⟩
      | granted => exact ⟨good.congr rfl rfl rfl, fits⟩
      | revoked => exact ⟨good.congr rfl rfl rfl, fits⟩
      | disabled => exact ⟨good, fits⟩
      | located =>
        have list := (applyLocation_rctx s' r (SkyLocation.start status) rs).1
        exact ⟨good.sameList list, list.numBeacons.trans_le fits⟩
    apply reportLocation_saved saved _ context.1 context.2
    intro cl member
    exact wellFormed.lines cl (lines ▸ member)

variable {env : Env} {w : World}

theorem SkySctx.Lasting.same (lasting : s.Lasting) (same : SameAccount s s')
    (openFlag : s'.openFlag = s.openFlag) (randBytes : s'.randBytes = s.randBytes)
    (sku : s'.sku = s.sku) : s'.Lasting where
  saved := by
    rw [same.header]
    exact lasting.saved.imp_right fun saved => saved.same same
  opened := by
    intro opened
    rw [openFlag] at opened
    obtain ⟨saved, random⟩ := lasting.opened opened
    exact ⟨saved.same same, randBytes.trans random⟩
  sku := by
    rw [sku]
    exact lasting.sku

theorem CtxCall.apply_lasting {id : ℕ} (lasting : w.sctx.Lasting) (good : w.WellFormed)
    (member : w.ctx id = some r) (call : CtxCall) (capacity : w.withinCapacity (.onCtx id call)) :
    (call.apply env w.sctx r).1.Lasting := by
  have setup := CtxCall.apply_sameSetup env w.sctx r call
  have openFlag : (call.apply env w.sctx r).1.openFlag = w.sctx.openFlag := by rw [setup.rest]
  have randBytes : (call.apply env w.sctx r).1.randBytes = w.sctx.randBytes := by rw [setup.rest]
  have sku : (call.apply env w.sctx r).1.sku = w.sctx.sku := by rw [setup.rest]
  by_cases decode : ∃ resp loc now later, call = .decodeResponse resp loc now later
  · obtain ⟨resp, loc, now, later, rfl⟩ := decode
    rcases skyDecodeResponse_saved env.cipherBits lasting good.sctx (good.ctx id r member)
      (capacity r member) loc resp now later with same | saved
    · simp only [CtxCall.apply, same]
      exact lasting
    · refine ⟨.inr saved, fun opened => ⟨saved, ?_⟩, ?_⟩
      · rw [randBytes]
        exact (lasting.opened (openFlag ▸ opened)).2
      · rw [sku]
        exact lasting.sku
  · have same := CtxCall.apply_same env w.sctx r call fun resp loc now later eq =>
      decode ⟨resp, loc, now, later, eq⟩
    exact lasting.same same.1.sameAccount openFlag randBytes sku

theorem World.step_lasting (lasting : w.sctx.Lasting) (good : w.WellFormed) (call : Call)
    (capacity : w.withinCapacity call) : (w.step env call).sctx.Lasting := by
  cases call with
  | openSession args => exact lasting.skyOpen args
  | close =>
    unfold World.step skyClose
    dsimp only
    split_ifs
    · exact lasting
    · refine ⟨lasting.saved.imp_right fun saved => ⟨saved.magic, saved.crc32, saved.size,
        saved.lines⟩, ?_, lasting.sku⟩
      intro opened
      cases opened
  | newRequest id rbufsize ulAppData now =>
    have same := skyNewRequest_sctx rbufsize w.sctx ulAppData now
    have randBytes : (skyNewRequest rbufsize w.sctx ulAppData now).sctx.randBytes =
      w.sctx.randBytes := by
      unfold skyNewRequest
      split_ifs <;> rfl
    rw [World.step_newRequest_sctx]
    exact lasting.same same.sameAccount same.openFlag randBytes same.sku
  | onCtx id call =>
    cases member : w.ctx id with
    | none =>
      rw [World.step_onCtx_none call member]
      exact lasting
    | some r =>
      rw [World.step_onCtx_some call member]
      exact CtxCall.apply_lasting lasting good member call capacity

theorem World.start_lasting (cacheSize : ℕ) : (World.start cacheSize).sctx.Lasting := by
  refine ⟨.inl rfl, fun opened => ?_, ?_⟩
  · cases opened
  · have blank : skuField (skuChars (Vector.replicate 33 0)) = Vector.replicate 33 0 := by decide
    exact blank

variable (env) in
/-- In every state of a run within capacity the session is blank or can be saved. -/
theorem World.run_lasting {cacheSize : ℕ} {calls : List Call}
    (capacity : Along (World.step env) World.withinCapacity (World.start cacheSize) calls) :
    ((World.start cacheSize).run env calls).sctx.Lasting := by
  have start : (World.start cacheSize).WellFormed ∧ (World.start cacheSize).sctx.Lasting :=
    ⟨(World.start_bounded cacheSize).wellFormed, World.start_lasting cacheSize⟩
  refine (@run_invariant _ _ (World.step env) _ (fun w => w.WellFormed ∧
    w.sctx.Lasting) _ calls ?_ start capacity).2
  rintro w call ⟨good, lasting⟩ fits
  exact ⟨World.step_wellFormed env good call fits, World.step_lasting lasting good call fits⟩

/-- The arguments say about the session what it holds. -/
structure OpenArgs.Describes (args : OpenArgs) (s : SkySctx) : Prop where
  deviceId : ∃ deviceId, args.deviceId = some deviceId ∧ deviceId.take MAX_DEVICE_ID = s.deviceId
  credentials : args.credentialsOf s
  cc : args.skuText ≠ [] → args.cc.toUInt16 = s.cc
  minLevel : args.minLevel = s.minLevel
  clock : args.gettime.isSome

def restartCalls (args : OpenArgs) : List Call := [.close, .openSession args]

/-- The options that have a default. -/
def SkyConfig.options (c : SkyConfig) : List UInt32 :=
  [c.totalBeacons, c.maxApBeacons, c.cacheMatchUsedThreshold, c.cacheMatchAllThreshold,
    c.cacheAgeThreshold, c.cacheBeaconThreshold, c.cacheNegRssiThreshold, c.maxVapPerAp,
    c.maxVapPerRq]

theorem orDefault_eq_iff {value : UInt32} {default : ℕ} (set : UInt32.ofNat default ≠ 0) :
    orDefault value default = value ↔ value ≠ 0 := by
  unfold orDefault
  split_ifs with zero
  · rw [zero]
    simpa using set
  · simpa using zero

theorem SkyConfig.defaults_eq_iff (c : SkyConfig) :
    c.defaults = c ↔ ∀ value ∈ c.options, value ≠ 0 := by
  cases c
  simp (disch := decide) only [SkyConfig.defaults, SkyConfig.options, SkyConfig.mk.injEq, true_and,
    orDefault_eq_iff, List.forall_mem_cons, List.not_mem_nil, IsEmpty.forall_iff,
    implies_true, and_true]
  tauto

theorem installArgs_of_describes (describes : args.Describes s) {deviceId : List UInt8}
    {aesKey : Vector UInt8 16} (device : args.deviceId = some deviceId)
    (key : args.aesKey = some aesKey) (opened : s.openFlag = true) (random : s.randBytes = true)
    (plugins : s.plugins = skyRegisterPlugins) (sku : skuField (skuChars s.sku) = s.sku) :
    installArgs (configDefaults { s with openFlag := false }) args deviceId aesKey =
      configDefaults s := by
  obtain ⟨id, given, stored⟩ := describes.deviceId
  obtain ⟨text, partner, sameKey⟩ := describes.credentials
  have sameId : deviceId.take MAX_DEVICE_ID = s.deviceId := by
    rw [device, Option.some.injEq] at given
    rw [given, stored]
  have storedKey : aesKey = s.aesKey := by
    rw [key, Option.some.injEq] at sameKey
    exact sameKey
  have storedSku : skuField args.skuText = s.sku := by rw [text, sku]
  have level := describes.minLevel
  have cc := describes.cc
  have restored : configDefaults s = { configDefaults s with
      deviceId := s.deviceId, partnerId := s.partnerId, aesKey := s.aesKey, minLevel := s.minLevel
      randBytes := true, plugins := skyRegisterPlugins, openFlag := true } := by
    cases s
    dsimp only at opened random plugins
    subst opened random plugins
    rfl
  unfold installArgs
  dsimp only
  rw [restored, sameId, storedKey, partner, level, storedSku]
  split_ifs with some_
  · rw [cc (by simpa using some_)]
    rfl
  · rfl

theorem skyOpen_skyClose (lasting : s.Lasting) (opened : s.openFlag = true)
    (plugins : s.plugins = skyRegisterPlugins) (describes : args.Describes s) :
    skyClose s = (.none, { s with openFlag := false }) ∧
      skyOpen (skyClose s).2 args = (.none, configDefaults s) := by
  obtain ⟨saved, random⟩ := lasting.opened opened
  have closed : skyClose s = (.none, { s with openFlag := false }) := by
    unfold skyClose
    rw [if_neg (by simp [opened])]
  refine ⟨closed, ?_⟩
  have valid : validateSessionCtx { s with openFlag := false } = true := saved.valid
  obtain ⟨text, partner, key⟩ := describes.credentials
  have same : args.sameCredentials { s with openFlag := false } = true :=
    (sameCredentials_iff args _).2 ⟨by rw [text], partner, key⟩
  obtain ⟨now, clock⟩ := Option.isSome_iff_exists.1 describes.clock
  obtain ⟨id, device, -⟩ := describes.deviceId
  rw [closed]
  unfold skyOpen
  rw [checkRestored_valid valid rfl, if_neg (by simp [same]), clock, device, key]
  dsimp only
  rw [if_neg (magic_of_validateSessionCtx valid)]
  rw [installArgs_of_describes describes device key opened random plugins lasting.sku]

/-- **Restarts are transparent**: at every point of every run within capacity at which the
session is open, closing it and opening it with the arguments that describe it succeeds and
changes nothing, in the session or any context, but options that are zero, which get their
defaults; so it changes nothing at all exactly if no option is zero. -/
theorem restart_transparent (env : Env) (cacheSize : ℕ) (calls : List Call)
    (capacity : Along (World.step env) World.withinCapacity (World.start cacheSize) calls)
    (opened : ((World.start cacheSize).run env calls).sctx.openFlag = true) (args : OpenArgs)
    (describes : args.Describes ((World.start cacheSize).run env calls).sctx) :
    let w := (World.start cacheSize).run env calls
    (skyClose w.sctx).1 = .none ∧ (skyOpen (skyClose w.sctx).2 args).1 = .none ∧
      w.run env (restartCalls args) = { w with sctx := configDefaults w.sctx } ∧
      (w.run env (restartCalls args) = w ↔ ∀ value ∈ w.sctx.config.options, value ≠ 0) := by
  intro w
  have good : w.WellFormed :=
    World.run_wellFormed env (World.start_bounded cacheSize).wellFormed capacity
  obtain ⟨closed, reopened⟩ :=
    skyOpen_skyClose (World.run_lasting env capacity) opened (good.sctx.plugins opened) describes
  have restarted : w.run env (restartCalls args) = { w with sctx := configDefaults w.sctx } := by
    show ({ w with sctx := (skyOpen (skyClose w.sctx).2 args).2 } : World) = _
    rw [reopened]
  refine ⟨?_, ?_, restarted, ?_⟩
  · rw [closed]
  · rw [reopened]
  · rw [restarted, ← SkyConfig.defaults_eq_iff]
    constructor
    · intro same
      exact congrArg (fun u : World => u.sctx.config) same
    · intro same
      have session : configDefaults w.sctx = w.sctx := by
        unfold configDefaults
        rw [same]
      rw [session]

/-- A restart between two requests. -/
theorem sampleCalls_restart_transparent :
    let w := (World.start 1).run bareEnv sampleCalls
    (skyClose w.sctx).1 = .none ∧ (skyOpen (skyClose w.sctx).2 bareOpen).1 = .none ∧
      w.run bareEnv (restartCalls bareOpen) = { w with sctx := configDefaults w.sctx } ∧
      (w.run bareEnv (restartCalls bareOpen) = w ↔ ∀ value ∈ w.sctx.config.options, value ≠ 0) :=
  restart_transparent bareEnv 1 sampleCalls (by decide +kernel) (by decide +kernel) bareOpen
    { deviceId := ⟨_, rfl, by decide +kernel⟩
      credentials := ⟨by decide +kernel, by decide +kernel, by decide +kernel⟩
      cc := by decide +kernel
      minLevel := by decide +kernel
      clock := rfl }

end EmbeddedClient
