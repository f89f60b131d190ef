import EmbeddedClient.Beacons.Dated

/-!
# The list of every run

A run whose lists outgrow their arrays still keeps every list in order, with the counters that
go with it. So validation leaves every context of every run as it is.
-/

namespace EmbeddedClient

open Runs

structure SkyCacheline.Listed (cl : SkyCacheline) : Prop where
  full : cl.live.length = cl.numBeacons
  inOrder : InOrder cl.live cl.numAp

structure SkySctx.Listed (s : SkySctx) : Prop where
  plugins : s.openFlag = true → s.plugins = skyRegisterPlugins
  lines : ∀ cl ∈ s.cacheline, cl.Listed

structure World.Listed (w : World) : Prop where
  sctx : w.sctx.Listed
  ctx : ∀ id r, w.ctx id = some r → r.Listed

variable {s s' : SkySctx} {r r' : SkyRctx}

theorem InOrder.nil : InOrder [] 0 where
  numAp_le := le_rfl
  aps := fun _ member => absurd member List.not_mem_nil
  cells := fun _ member => absurd member List.not_mem_nil
  distinct := .nil
  accepted := fun _ member => absurd member List.not_mem_nil

namespace SkyRctx.Listed

theorem validateRequestCtx (listed : r.Listed) : (validateRequestCtx r).2 = r :=
  validateRequestCtx_snd listed.inOrder.accepted

theorem initialized (s : SkySctx) (now : ℤ) : (SkyRctx.initialized s now).Listed :=
  ⟨rfl, .nil⟩

theorem congr (listed : r.Listed) (beacon : r'.beacon = r.beacon) (numAp : r'.numAp = r.numAp)
    (numBeacons : r'.numBeacons = r.numBeacons) : r'.Listed := by
  have live : r'.live = r.live := by rw [SkyRctx.live, SkyRctx.live, beacon, numBeacons]
  constructor
  · rw [live, numBeacons]
    exact listed.full
  · rw [live, numAp]
    exact listed.inOrder

theorem of_scan (listed : r.Listed) (beacon : r'.beacon.map Beacon.scan = r.beacon.map Beacon.scan)
    (numAp : r'.numAp = r.numAp) (numBeacons : r'.numBeacons = r.numBeacons) : r'.Listed := by
  have live : r'.live.map Beacon.scan = r.live.map Beacon.scan := by
    rw [SkyRctx.live, SkyRctx.live, List.map_take, List.map_take, beacon, numBeacons]
  have length : r'.live.length = r.live.length := by simpa using congrArg List.length live
  constructor
  · rw [length, numBeacons]
    exact listed.full
  · rw [numAp]
    exact listed.inOrder.of_scan live.symm

theorem populate (r : SkyRctx) {cl : SkyCacheline} (listed : cl.Listed) :
    (r.populate cl).Listed := by
  have live : (r.populate cl).live = cl.live := by
    simp [SkyRctx.live, SkyRctx.populate, ← listed.full]
  constructor
  · rw [live]
    exact listed.full
  · rw [live]
    exact listed.inOrder

end SkyRctx.Listed

theorem addBeacon_listed (listed : r.Listed)
    (plugins : s.openFlag = true → s.plugins = skyRegisterPlugins) (errno : SkyErrno) (b : Beacon)
    (timestamp : ℤ) : (addBeacon s r errno b timestamp).rctx.Listed := by
  rcases addBeacon_cases s r errno b timestamp with ⟨e, -, -, -, result⟩ | ⟨age, accepts, -⟩
  · rw [result]
    dsimp only
    rwa [listed.validateRequestCtx]
  · obtain ⟨-, l', n', shows, effect⟩ := addBeacon_effect listed plugins errno accepts
    have accepted := (preparedBeacon_spec s age accepts.2.2.1).1
    have ordered : InOrder (r.live.map Beacon.unranked) r.numAp :=
      listed.inOrder.of_unranked (by simp)
    exact shows.toListed (effect.inOrder ordered (accepted.congr (Beacon.scan_unranked _).symm))

theorem SkyCacheline.Listed.cleared : SkyCacheline.cleared.Listed := ⟨rfl, .nil⟩

theorem SkyCacheline.Listed.of_untimed {cl cl' : SkyCacheline} (same : cl'.untimed = cl.untimed)
    (listed : cl.Listed) : cl'.Listed := by
  obtain ⟨live, numBeacons, numAp⟩ := SkyCacheline.live_of_untimed same
  constructor
  · rw [live, numBeacons]
    exact listed.full
  · rw [live, numAp]
    exact listed.inOrder

theorem SkyRctx.Listed.keptInCache (listed : r.Listed) : KeptInCache r SkyCacheline.Listed where
  untimed := fun _ _ => .of_untimed
  filled := fun cl cl' _ numBeacons numAp beacon => by
    have live := SkyCacheline.live_of_filled listed.full numBeacons beacon
    constructor
    · rw [live, numBeacons]
      exact listed.full
    · rw [live, numAp]
      exact listed.inOrder

namespace SkySctx.Listed

theorem of_sameSession (same : SameSession s s') (listed : s.Listed) : s'.Listed where
  plugins := registered_of_sameSession same listed.plugins
  lines := lines_of_sameSession same (fun _ _ => .of_untimed) listed.lines

theorem skyOpen (listed : s.Listed) (args : OpenArgs) : (skyOpen s args).2.Listed where
  plugins := registered_skyOpen listed.plugins args
  lines := lines_skyOpen .cleared listed.lines args

theorem skyClose (listed : s.Listed) : (skyClose s).2.Listed where
  plugins := registered_skyClose listed.plugins
  lines := lines_skyClose listed.lines

theorem line (listed : s.Listed) (i : ℤ) : (s.line i).Listed :=
  line_of_lines .cleared listed.lines i

theorem reportLocation (listed : s.Listed) (listedR : r.Listed) (loc : SkyLocation) (now : ℤ) :
    (reportLocation s r loc now).sctx.Listed where
  plugins := registered_reportLocation listed.plugins loc now
  lines := lines_reportLocation listedR.keptInCache listed.lines loc now

end SkySctx.Listed

theorem skyDecodeResponse_listed (bits : ℕ) (listed : s.Listed) (listedR : r.Listed)
    (loc : SkyLocation) (resp : Response) (now later : ℤ) :
    (skyDecodeResponse bits s r loc resp now later).sctx.Listed ∧
      (skyDecodeResponse bits s r loc resp now later).rctx.Listed := by
  have checked := listedR.validateRequestCtx
  have stamped : (s.stamp now).Listed := ⟨listed.plugins, listed.lines⟩
  have outcome := skyDecodeResponse_outcome bits s r loc resp now later
  generalize skyDecodeResponse bits s r loc resp now later = d at outcome ⊢
  cases outcome with
  | rejected errno loc turned => exact ⟨listed, by rwa [checked]⟩
  | undecoded loc valid ctx => exact ⟨stamped, by rwa [checked]⟩
  | decoded s' s'' r' loc status rs cacheHits valid ctx same auth =>
    have listedS' := stamped.of_sameSession same.session
    rw [checked] at auth
    have outcome : (SkySctx.Listed { s'' with cacheHits := cacheHits }) ∧ r'.Listed := by
      cases auth with
      | refused => exact ⟨⟨listedS'.plugins, listedS'.lines⟩, listedR⟩
      | granted => exact ⟨⟨listedS'.plugins, listedS'.lines⟩, listedR.congr rfl rfl rfl⟩
      | revoked => exact ⟨⟨listedS'.plugins, listedS'.lines⟩, listedR.congr rfl rfl rfl⟩
      | disabled => exact ⟨⟨listedS'.plugins, listedS'.lines⟩, listedR⟩
      | located =>
        have same := (applyLocation_rctx s' r (SkyLocation.start status) rs).1
        exact ⟨⟨listedS'.plugins, listedS'.lines⟩,
          listedR.of_scan same.beacon same.numAp same.numBeacons⟩
    rw [reportLocation_rctx]
    exact ⟨outcome.1.reportLocation outcome.2 loc later, outcome.2⟩

theorem prepareRequest_listed (listed : s.Listed) (listedR : r.Listed) :
    (prepareRequest s r).2.Listed := by
  rcases prepareRequest_cases s r with ⟨-, -, eq⟩ | ⟨-, -, eq⟩ | ⟨-, eq⟩
  · rw [eq]
    exact .populate r (listed.line r.getFrom)
  · rw [eq]
    exact listedR.congr rfl rfl rfl
  · have same := sameScan_selectVap s r
    rw [eq]
    exact listedR.of_scan same.beacon same.numAp same.numBeacons

variable (env : Env)

theorem CtxCall.apply_listed {w : World} {id : ℕ} (listed : w.Listed) (member : w.ctx id = some r)
    (call : CtxCall) :
    (call.apply env w.sctx r).1.Listed ∧ (call.apply env w.sctx r).2.Listed := by
  have listedR := listed.ctx id r member
  have checked := listedR.validateRequestCtx
  have session (same : SameSession w.sctx (call.apply env w.sctx r).1) :=
    listed.sctx.of_sameSession same
  cases call with
  | addBeacon call timestamp =>
    exact ⟨listed.sctx, addBeacon_listed listedR listed.sctx.plugins .none call.beacon timestamp⟩
  | addGnss args =>
    obtain ⟨gnss, added⟩ := skyAddGnss_of_checked checked args
    refine ⟨listed.sctx, ?_⟩
    simp only [CtxCall.apply, added]
    exact listedR.congr rfl rfl rfl
  | searchCache loc =>
    obtain ⟨hit, getFrom, saveTo, found⟩ :=
      skySearchCache_of_checked checked env.distance w.sctx loc
    refine ⟨session (same_skySearchCache env.distance w.sctx r loc).1, ?_⟩
    simp only [CtxCall.apply, found]
    exact listedR.congr rfl rfl rfl
  | ignoreCacheHit =>
    obtain ⟨hit, ignored⟩ := skyIgnoreCacheHit_of_checked checked
    refine ⟨listed.sctx, ?_⟩
    simp only [CtxCall.apply, ignored]
    exact listedR.congr rfl rfl rfl
  | sizeofRequestBuf random =>
    refine ⟨session (same_skySizeofRequestBuf env.codec w.sctx r random).1, ?_⟩
    have prepared := prepareRequest_listed listed.sctx listedR
    simp only [CtxCall.apply, skySizeofRequestBuf, checked]
    split_ifs
    · exact listedR
    · exact prepared
    · exact prepared
  | encodeRequest buf random =>
    refine ⟨listed.sctx, ?_⟩
    simp only [CtxCall.apply, skyEncodeRequest_rctx, checked]
    exact listedR
  | decodeResponse resp loc now later =>
    exact skyDecodeResponse_listed env.cipherBits listed.sctx listedR loc resp now later
  | setOption name value => exact ⟨session (sameSession_skySetOption w.sctx name value), listedR⟩

theorem World.step_listed {w : World} (listed : w.Listed) (call : Call) :
    (w.step env call).Listed := by
  cases call with
  | openSession args => exact ⟨listed.sctx.skyOpen args, listed.ctx⟩
  | close => exact ⟨listed.sctx.skyClose, listed.ctx⟩
  | newRequest id rbufsize ulAppData now =>
    have session := listed.sctx.of_sameSession (skyNewRequest_sctx rbufsize w.sctx ulAppData now)
    constructor
    · rwa [World.step_newRequest_sctx]
    · exact World.step_newRequest_ctx listed.ctx fun _ => .initialized w.sctx now
  | onCtx id call =>
    cases member : w.ctx id with
    | none => rwa [World.step_onCtx_none call member]
    | some r =>
      have applied := CtxCall.apply_listed env listed member call
      constructor
      · rw [World.step_onCtx_some call member]
        exact applied.1
      · exact World.step_onCtx_ctx member listed.ctx applied.2

theorem World.start_listed (cacheSize : ℕ) : (World.start cacheSize).Listed where
  sctx := by
    constructor
    · intro opened
      simp [World.start, SkySctx.zeroed, SkySctx.initialized] at opened
    · intro cl member
      rw [List.eq_of_mem_replicate member]
      exact ⟨rfl, .nil⟩
  ctx := fun _ _ found => by simp [World.start] at found

/-- Every state of every run keeps its lists in order. -/
theorem World.run_listed {w : World} (listed : w.Listed) (calls : List Call) :
    (w.run env calls).Listed :=
  run_invariant (fun _ call kept _ => World.step_listed env kept call) listed
    along_true

/-- What `validate_request_ctx` checks apart from the beacons in use. -/
structure SkyRctx.RestOk (r : SkyRctx) : Prop where
  numBeacons : r.numBeacons ≤ TOTAL_BEACONS + 1
  numAp : r.numAp ≤ MAX_AP_BEACONS + 1
  isSealed : r.Sealed
  unused : ∀ b ∈ (r.beacon.take TOTAL_BEACONS).drop r.numBeacons, b.SlotOk

/-- Validation accepts the beacons in use again and leaves them alone: whether it accepts the
context is up to the rest. -/
structure SkyRctx.Revalidates (r : SkyRctx) : Prop where
  beacons : ∀ b ∈ r.live, validateBeacon b = (true, b)
  unaltered : (EmbeddedClient.validateRequestCtx r).2 = r
  verdict : (EmbeddedClient.validateRequestCtx r).1 = true ↔ r.RestOk

theorem validateSlots_fst_iff {live : ℕ} {bs : List Beacon}
    (accepted : ∀ b ∈ bs.take live, b.Accepted) :
    (validateSlots live bs).1 = true ↔ ∀ b ∈ bs.drop live, b.SlotOk := by
  constructor
  · intro valid b member
    have usable := (validateSlots_snd live bs valid).2
    rw [validateSlots_accepted live bs accepted] at usable
    exact usable b (List.mem_of_mem_drop member)
  · intro unused
    apply validateSlots_fst live bs accepted
    intro b member
    rw [← List.take_append_drop live bs, List.mem_append] at member
    rcases member with used | behind
    · exact (accepted b used).slotOk
    · exact unused b behind

theorem SkyRctx.Listed.revalidates (listed : r.Listed) : r.Revalidates where
  beacons := listed.inOrder.accepted
  unaltered := listed.validateRequestCtx
  verdict := by
    have accepted : ∀ b ∈ (r.beacon.take TOTAL_BEACONS).take r.numBeacons, b.Accepted := by
      intro b member
      rw [List.take_take, Nat.min_comm, ← List.take_take] at member
      exact listed.inOrder.accepted b (List.mem_of_mem_take member)
    unfold EmbeddedClient.validateRequestCtx
    split_ifs with manyBeacons manyAps header
    · exact iff_of_false id fun rest => absurd rest.numBeacons (not_le.2 manyBeacons)
    · exact iff_of_false id fun rest => absurd rest.numAp (not_le.2 manyAps)
    · dsimp only
      rw [validateSlots_fst_iff accepted]
      exact ⟨fun unused => ⟨not_lt.1 manyBeacons, not_lt.1 manyAps, header, unused⟩,
        fun rest => rest.unused⟩
    · exact iff_of_false id fun rest => header rest.isSealed

/-- What `validate_beacon` accepts, it accepts again as it left it, and so the validations of a
whole run neither turn a stored beacon away nor change it. -/
theorem validation_idempotent :
    (∀ b, (validateBeacon b).1 = true →
      validateBeacon (validateBeacon b).2 = (true, (validateBeacon b).2)) ∧
      ∀ (env : Env) (cacheSize : ℕ) (calls : List Call) (id : ℕ) (r : SkyRctx),
        ((World.start cacheSize).run env calls).ctx id = some r → r.Revalidates := by
  constructor
  · exact validateBeacon_idempotent
  · intro env cacheSize calls id r member
    have listed := World.run_listed env (World.start_listed cacheSize) calls
    exact (listed.ctx id r member).revalidates

end EmbeddedClient
