import EmbeddedClient.Beacons.Add
import EmbeddedClient.Session.Lines

/-!
# The beacon list over whole runs

Every context that a run of the library makes holds a beacon list, and so does
every cacheline, as long as no list outgrows its array. Each call is shown to
keep this, and the run rule carries it to every state.
-/

namespace EmbeddedClient

open Runs

structure SkyCacheline.Holds (cl : SkyCacheline) (l : BeaconList) : Prop where
  live : cl.live = l.all
  numAp : cl.numAp = l.aps.length
  numBeacons : cl.numBeacons = l.all.length

/-- A context with all its slots that holds a beacon list. -/
def SkyRctx.WellFormed (r : SkyRctx) : Prop := r.Slots ∧ ∃ l, r.Holds l

def SkyCacheline.WellFormed (cl : SkyCacheline) : Prop :=
  cl.beacon.length = TOTAL_BEACONS ∧ ∃ l, cl.Holds l

structure SkySctx.WellFormed (s : SkySctx) : Prop where
  plugins : s.openFlag = true → s.plugins = skyRegisterPlugins
  lines : ∀ cl ∈ s.cacheline, cl.WellFormed

/-- What the calls keep of a world. -/
structure World.WellFormed (w : World) : Prop where
  sctx : w.sctx.WellFormed
  ctx : ∀ id r, w.ctx id = some r → r.WellFormed

theorem SkyCacheline.WellFormed.of_empty {cl : SkyCacheline}
    (slots : cl.beacon.length = TOTAL_BEACONS) (beacons : cl.numBeacons = 0) (aps : cl.numAp = 0) :
    cl.WellFormed :=
  ⟨slots, BeaconList.nil, by simp [SkyCacheline.live, beacons]; rfl, aps, beacons⟩

theorem SkyCacheline.WellFormed.cleared : SkyCacheline.cleared.WellFormed :=
  .of_empty (by simp [SkyCacheline.cleared]) rfl rfl

theorem SkyCacheline.WellFormed.of_untimed {cl cl' : SkyCacheline} (same : cl'.untimed = cl.untimed)
    (good : cl.WellFormed) : cl'.WellFormed := by
  obtain ⟨slots, l, live, numAp, numBeacons⟩ := good
  obtain ⟨eqLive, eqBeacons, eqAp⟩ := SkyCacheline.live_of_untimed same
  have eqBeacon : cl'.untimed.beacon = cl.untimed.beacon := congrArg SkyCacheline.beacon same
  exact ⟨(congrArg List.length eqBeacon).trans slots, l, eqLive.trans live, eqAp.trans numAp,
    eqBeacons.trans numBeacons⟩

namespace SkySctx.WellFormed

variable {s s' : SkySctx}

theorem of_sameSession (same : SameSession s s') (good : s.WellFormed) : s'.WellFormed where
  plugins := registered_of_sameSession same good.plugins
  lines := lines_of_sameSession same (fun _ _ => .of_untimed) good.lines

theorem skyOpen (good : s.WellFormed) (args : OpenArgs) : (skyOpen s args).2.WellFormed where
  plugins := registered_skyOpen good.plugins args
  lines := lines_skyOpen .cleared good.lines args

theorem skyClose (good : s.WellFormed) : (skyClose s).2.WellFormed where
  plugins := registered_skyClose good.plugins
  lines := lines_skyClose good.lines

end SkySctx.WellFormed

namespace SkyRctx.WellFormed

variable {r r' : SkyRctx}

theorem initialized (s : SkySctx) (now : ℤ) : (SkyRctx.initialized s now).WellFormed := by
  refine ⟨⟨by simp [SkyRctx.initialized], fun b member => ?_⟩, BeaconList.nil, rfl, rfl, rfl⟩
  rw [SkyRctx.initialized, List.take_left' (by simp)] at member
  rw [List.eq_of_mem_replicate member]
  decide

theorem sameList (good : r.WellFormed) (same : SameList r r') : r'.WellFormed := by
  obtain ⟨slots, l, holds⟩ := good
  obtain ⟨l', holds', -⟩ := same.holds holds
  exact ⟨(ArrayTo.of_map_scan same.beacon).keeps slots (Nat.zero_le _), l', holds'⟩

theorem validateRequestCtx (good : r.WellFormed) : (validateRequestCtx r).2 = r := by
  obtain ⟨-, l, holds⟩ := good
  exact validateRequestCtx_snd holds.accepted

theorem congr (good : r.WellFormed) (beacon : r'.beacon = r.beacon) (numAp : r'.numAp = r.numAp)
    (numBeacons : r'.numBeacons = r.numBeacons) : r'.WellFormed := by
  obtain ⟨slots, l, holds⟩ := good
  refine ⟨slots.congr beacon, l, ?_, by rw [numAp, holds.numAp],
    by rw [numBeacons, holds.numBeacons]⟩
  rw [← holds.live, SkyRctx.live, SkyRctx.live, beacon, numBeacons]

end SkyRctx.WellFormed

theorem searchCache_rctx (distance : Distance) (s : SkySctx) (r : SkyRctx) :
    ∃ hit getFrom saveTo, (searchCache distance s r).2 =
      { r with hit := hit, getFrom := getFrom, saveTo := saveTo } := by
  obtain ⟨hit, getFrom, saveTo, matched⟩ := skyPluginMatchCache_rctx distance s.plugins s r
  unfold searchCache
  dsimp only
  split_ifs
  · exact ⟨_, _, _, rfl⟩
  · split
    · exact ⟨hit, getFrom, saveTo, matched⟩
    · exact ⟨_, _, _, by rw [matched]⟩

section Checked

variable {r : SkyRctx}

theorem skySearchCache_of_checked (checked : (validateRequestCtx r).2 = r) (distance : Distance)
    (s : SkySctx) (loc : SkyLocation) :
    ∃ hit getFrom saveTo, (skySearchCache distance s r loc).rctx =
      { r with hit := hit, getFrom := getFrom, saveTo := saveTo } := by
  obtain ⟨hit, getFrom, saveTo, found⟩ := searchCache_rctx distance s r
  unfold skySearchCache
  dsimp only
  rw [checked]
  split_ifs
  · exact ⟨_, _, _, rfl⟩
  · exact ⟨_, _, _, found⟩
  · exact ⟨_, _, _, by rw [found]⟩

theorem skyIgnoreCacheHit_of_checked (checked : (validateRequestCtx r).2 = r) :
    ∃ hit, (skyIgnoreCacheHit r).2 = { r with hit := hit } := by
  unfold skyIgnoreCacheHit
  dsimp only
  rw [checked]
  split_ifs <;> exact ⟨_, rfl⟩

theorem validateRequestCtx_gnss (checked : (validateRequestCtx r).2 = r) (gnss : Gnss) :
    (validateRequestCtx { r with gnss := gnss }).2 = { r with gnss := gnss } := by
  have slots (bs : List Beacon) (same : ({ r with beacon := bs } : SkyRctx) = r) :
      ({ r with gnss := gnss, beacon := bs } : SkyRctx) = { r with gnss := gnss } := by
    rw [← congrArg SkyRctx.beacon same]
  unfold validateRequestCtx at checked ⊢
  split_ifs at checked ⊢
  · rfl
  · rfl
  · exact slots _ checked
  · rfl

theorem skyAddGnss_of_checked (checked : (validateRequestCtx r).2 = r) (args : GnssArgs) :
    ∃ gnss, (skyAddGnss r args).2 = { r with gnss := gnss } := by
  unfold skyAddGnss
  cases gnssAge r.header.time args.timestamp with
  | none => exact ⟨r.gnss, rfl⟩
  | some age =>
    dsimp only
    rw [validateRequestCtx_gnss checked]
    split_ifs <;> exact ⟨_, rfl⟩

end Checked

namespace SkyRctx.WellFormed

variable {s : SkySctx} {r : SkyRctx}

theorem skySearchCache_rctx (good : r.WellFormed) (distance : Distance) (s : SkySctx)
    (loc : SkyLocation) : ∃ hit getFrom saveTo, (skySearchCache distance s r loc).rctx =
      { r with hit := hit, getFrom := getFrom, saveTo := saveTo } :=
  skySearchCache_of_checked good.validateRequestCtx distance s loc

theorem skyIgnoreCacheHit_rctx (good : r.WellFormed) :
    ∃ hit, (skyIgnoreCacheHit r).2 = { r with hit := hit } :=
  skyIgnoreCacheHit_of_checked good.validateRequestCtx

theorem skyAddGnss_rctx (good : r.WellFormed) (args : GnssArgs) :
    ∃ gnss, (skyAddGnss r args).2 = { r with gnss := gnss } :=
  skyAddGnss_of_checked good.validateRequestCtx args

theorem populate (good : r.WellFormed) {cl : SkyCacheline} (goodLine : cl.WellFormed) :
    (r.populate cl).WellFormed := by
  obtain ⟨slots, -⟩ := good
  obtain ⟨slotsLine, l, live, numAp, numBeacons⟩ := goodLine
  have length : cl.live.length = cl.numBeacons := by rw [live, numBeacons]
  refine ⟨?_, l, ?_, numAp, numBeacons⟩
  · have short : cl.live.length ≤ TOTAL_BEACONS := by
      rw [← slotsLine, SkyCacheline.live]
      exact List.length_take_le' _ _
    have stored := ArrayTo.setLive r cl.live (by rw [live]; exact l.accepted) r.numAp
    apply (stored.keeps slots (by omega)).congr
    simp only [SkyRctx.populate, SkyRctx.setLive, length]
  · simp [SkyRctx.live, SkyRctx.populate, ← length, live]

theorem line (lines : ∀ cl ∈ s.cacheline, cl.WellFormed) (i : ℤ) : (s.line i).WellFormed :=
  line_of_lines .cleared lines i

theorem sameScan {r' : SkyRctx} (good : r.WellFormed) (same : SameScan r r') : r'.WellFormed := by
  obtain ⟨slots, l, holds⟩ := good
  obtain ⟨l', holds', -⟩ := holds.sameScan same
  exact ⟨(ArrayTo.sameScan same).keeps slots (Nat.zero_le _), l', holds'⟩

theorem prepareRequest (good : r.WellFormed) (goodS : s.WellFormed) :
    (prepareRequest s r).2.WellFormed := by
  obtain ⟨-, -, eq⟩ | ⟨-, -, eq⟩ | ⟨-, eq⟩ := prepareRequest_cases s r
  · rw [eq]
    exact good.populate (line goodS.lines _)
  · rw [eq]
    exact good.congr rfl rfl rfl
  · rw [eq]
    exact good.sameScan (sameScan_selectVap s r)

end SkyRctx.WellFormed

variable {s : SkySctx} {r : SkyRctx}

theorem SkyRctx.WellFormed.keptInCache (good : r.WellFormed) (fits : r.numBeacons ≤ TOTAL_BEACONS) :
    KeptInCache r SkyCacheline.WellFormed where
  untimed := fun _ _ => .of_untimed
  filled := fun cl cl' goodLine numBeacons numAp beacon => by
    obtain ⟨-, l, holds⟩ := good
    have length : r.live.length = r.numBeacons := by rw [holds.live, holds.numBeacons]
    have live := SkyCacheline.live_of_filled length numBeacons beacon
    have slots := goodLine.1
    refine ⟨?_, l, live.trans holds.live, numAp.trans holds.numAp,
      numBeacons.trans holds.numBeacons⟩
    rw [beacon, List.length_append, List.length_drop, slots, length]
    omega

theorem SkySctx.WellFormed.reportLocation (good : s.WellFormed) (goodR : r.WellFormed)
    (fits : r.numBeacons ≤ TOTAL_BEACONS) (loc : SkyLocation) (now : ℤ) :
    (reportLocation s r loc now).sctx.WellFormed where
  plugins := registered_reportLocation good.plugins loc now
  lines := lines_reportLocation (goodR.keptInCache fits) good.lines loc now

theorem wellFormed_skyDecodeResponse (bits : ℕ) (good : s.WellFormed) (goodR : r.WellFormed)
    (fits : r.numBeacons ≤ TOTAL_BEACONS) (loc : SkyLocation) (resp : Response) (now later : ℤ) :
    (skyDecodeResponse bits s r loc resp now later).sctx.WellFormed ∧
      (skyDecodeResponse bits s r loc resp now later).rctx.WellFormed := by
  have checked := goodR.validateRequestCtx
  have stamped : (s.stamp now).WellFormed := ⟨good.plugins, good.lines⟩
  have outcome := skyDecodeResponse_outcome bits s r loc resp now later
  generalize skyDecodeResponse bits s r loc resp now later = d at outcome ⊢
  cases outcome with
  | rejected errno loc turned => exact ⟨good, by rwa [checked]⟩
  | undecoded loc valid ctx => exact ⟨stamped, by rwa [checked]⟩
  | decoded s' s'' r' loc status rs cacheHits valid ctx same auth =>
    have goodS' := stamped.of_sameSession same.session
    rw [checked] at auth
    have outcome : (SkySctx.WellFormed { s'' with cacheHits := cacheHits }) ∧ r'.WellFormed ∧
        r'.numBeacons ≤ TOTAL_BEACONS := by
      cases auth with
      | refused => exact ⟨⟨goodS'.plugins, goodS'.lines⟩, goodR, fits⟩
      | granted => exact ⟨⟨goodS'.plugins, goodS'.lines⟩, goodR.congr rfl rfl rfl, fits⟩
      | revoked => exact ⟨⟨goodS'.plugins, goodS'.lines⟩, goodR.congr rfl rfl rfl, fits⟩
      | disabled => exact ⟨⟨goodS'.plugins, goodS'.lines⟩, goodR, fits⟩
      | located =>
        have same := (applyLocation_rctx s' r (SkyLocation.start status) rs).1
        exact ⟨⟨goodS'.plugins, goodS'.lines⟩, goodR.sameList same, same.numBeacons.trans_le fits⟩
    rw [reportLocation_rctx]
    exact ⟨outcome.1.reportLocation outcome.2.1 outcome.2.2 loc later, outcome.2.1⟩

variable (env : Env)

/-- The call writes no beacon past the end of an array: what `sky_add_*_beacon`
stores stays in the context, and the list that may be cached fits into a line. -/
def World.withinCapacity (w : World) : Call → Prop
  | .onCtx id (.addBeacon call timestamp) => ∀ r ∈ w.ctx id,
      ∀ top ∈ (skyAddBeacon w.sctx r .none call timestamp).top, top ≤ TOTAL_BEACONS
  | .onCtx id (.decodeResponse ..) => ∀ r ∈ w.ctx id, r.numBeacons ≤ TOTAL_BEACONS
  | _ => True

theorem wellFormed_addBeacon (good : s.WellFormed) (goodR : r.WellFormed)
    (call : AddCall) (timestamp : ℤ)
    (capacity : ∀ top ∈ (skyAddBeacon s r .none call timestamp).top, top ≤ TOTAL_BEACONS) :
    (skyAddBeacon s r .none call timestamp).rctx.WellFormed := by
  obtain ⟨slots, l, holds⟩ := goodR
  unfold skyAddBeacon at capacity ⊢
  cases addBeacon_outcome holds good.plugins .none call.beacon timestamp with
  | unchanged rctx top =>
    rw [rctx]
    exact ⟨slots, l, holds⟩
  | replaced l' same holds' aps all top array =>
    exact ⟨array.keeps slots (Nat.zero_le _), l', holds'⟩
  | stored r' l' fresh holds' aps all top array filter =>
    have bound := capacity l.all.length top
    have slots' : r'.Slots := array.keeps slots (by omega)
    cases filter with
    | kept few cells rctx => rw [rctx]; exact ⟨slots', l', holds'⟩
    | apRemoved l'' many holds'' aps' all' array' =>
      exact ⟨array'.keeps slots' (Nat.zero_le _), l'', holds''⟩
    | cellRemoved l'' few many holds'' aps' all' array' =>
      exact ⟨array'.keeps slots' (Nat.zero_le _), l'', holds''⟩

theorem CtxCall.apply_wellFormed {w : World} {id : ℕ} (good : w.WellFormed)
    (goodR : r.WellFormed) (member : w.ctx id = some r) (call : CtxCall)
    (capacity : w.withinCapacity (.onCtx id call)) :
    (call.apply env w.sctx r).1.WellFormed ∧ (call.apply env w.sctx r).2.WellFormed := by
  have session (same : SameSession w.sctx (call.apply env w.sctx r).1) :=
    good.sctx.of_sameSession same
  cases call with
  | addBeacon call timestamp =>
    exact ⟨good.sctx, wellFormed_addBeacon good.sctx goodR call timestamp
      (capacity r member)⟩
  | addGnss args =>
    obtain ⟨gnss, added⟩ := goodR.skyAddGnss_rctx args
    refine ⟨good.sctx, ?_⟩
    simp only [CtxCall.apply, added]
    exact goodR.congr rfl rfl rfl
  | searchCache loc =>
    obtain ⟨hit, getFrom, saveTo, found⟩ := goodR.skySearchCache_rctx env.distance w.sctx loc
    refine ⟨session (same_skySearchCache env.distance w.sctx r loc).1, ?_⟩
    simp only [CtxCall.apply, found]
    exact goodR.congr rfl rfl rfl
  | ignoreCacheHit =>
    obtain ⟨hit, ignored⟩ := goodR.skyIgnoreCacheHit_rctx
    refine ⟨good.sctx, ?_⟩
    simp only [CtxCall.apply, ignored]
    exact goodR.congr rfl rfl rfl
  | sizeofRequestBuf random =>
    refine ⟨session (same_skySizeofRequestBuf env.codec w.sctx r random).1, ?_⟩
    have prepared := goodR.prepareRequest good.sctx
    simp only [CtxCall.apply, skySizeofRequestBuf, goodR.validateRequestCtx]
    split_ifs
    · exact goodR
    · exact prepared
    · exact prepared
  | encodeRequest buf random =>
    refine ⟨good.sctx, ?_⟩
    simp only [CtxCall.apply, skyEncodeRequest_rctx, goodR.validateRequestCtx]
    exact goodR
  | decodeResponse resp loc now later =>
    exact wellFormed_skyDecodeResponse env.cipherBits good.sctx goodR (capacity r member) loc resp
      now later
  | setOption name value => exact ⟨session (sameSession_skySetOption w.sctx name value), goodR⟩

theorem World.step_wellFormed {w : World} (good : w.WellFormed) (call : Call)
    (capacity : w.withinCapacity call) : (w.step env call).WellFormed := by
  cases call with
  | openSession args => exact ⟨good.sctx.skyOpen args, good.ctx⟩
  | close => exact ⟨good.sctx.skyClose, good.ctx⟩
  | newRequest id rbufsize ulAppData now =>
    have session := good.sctx.of_sameSession (skyNewRequest_sctx rbufsize w.sctx ulAppData now)
    constructor
    · rwa [World.step_newRequest_sctx]
    · exact World.step_newRequest_ctx good.ctx fun _ => .initialized w.sctx now
  | onCtx id call =>
    cases member : w.ctx id with
    | none => rwa [World.step_onCtx_none call member]
    | some r =>
      have applied := CtxCall.apply_wellFormed env good (good.ctx id r member) member call capacity
      constructor
      · rw [World.step_onCtx_some call member]
        exact applied.1
      · exact World.step_onCtx_ctx member good.ctx applied.2

/-- Every state of a run within capacity is well formed. -/
theorem World.run_wellFormed {w : World} (good : w.WellFormed) {calls : List Call}
    (capacity : Along (World.step env) World.withinCapacity w calls) :
    (w.run env calls).WellFormed :=
  run_invariant (fun _ call h => World.step_wellFormed env h call) good capacity

end EmbeddedClient
