import EmbeddedClient.Beacons.Context
import EmbeddedClient.Beacons.Invariant

/-!
# The capacity of the request

The arrays hold `MAX_AP_BEACONS` APs and `TOTAL_BEACONS` beacons. What keeps a
list within them is the filter of `add_beacon`, whose bounds come from the
configuration: `max_ap_beacons` and the unsigned difference of the two limits. A
configuration whose filter lets a list pass that is too long is accepted by the
option and override checks, and then the arrays overflow.
-/

namespace EmbeddedClient

open Runs

/-- The filter of `add_beacon` removes an AP from a list with these counters if
the APs are too many, and a beacon if the list is too long. -/
def SkyConfig.Catches (c : SkyConfig) (numAp numBeacons : ℕ) : Prop :=
  (MAX_AP_BEACONS < numAp → c.maxApBeacons.toNat < numAp) ∧
    (TOTAL_BEACONS < numBeacons →
      c.maxApBeacons.toNat < numAp ∨ c.maxCells < numBeacons - numAp)

/-- Limits that fit the arrays and each other catch every list. -/
theorem SkyConfig.catches_of_le (c : SkyConfig) (aps : c.maxApBeacons.toNat ≤ MAX_AP_BEACONS)
    (order : c.maxApBeacons ≤ c.totalBeacons) (total : c.totalBeacons.toNat ≤ TOTAL_BEACONS)
    (numAp numBeacons : ℕ) : c.Catches numAp numBeacons := by
  have cells : c.maxCells = c.totalBeacons.toNat - c.maxApBeacons.toNat :=
    UInt32.toNat_sub_of_le _ _ order
  simp only [SkyConfig.Catches, cells]
  rw [UInt32.le_iff_toNat_le] at order
  omega

/-- Counters within the arrays, and a context that `validate_request_ctx` accepts. -/
structure SkyRctx.InBounds (r : SkyRctx) : Prop where
  numAp : r.numAp ≤ MAX_AP_BEACONS
  numBeacons : r.numBeacons ≤ TOTAL_BEACONS
  valid : (validateRequestCtx r).1 = true

/-- A beacon that the call adds to a list is one the filter catches if it is one
too many. A beacon equal to a stored one does not make the list longer. -/
def World.caught (w : World) : Call → Prop
  | .onCtx id (.addBeacon call _) => ∀ r ∈ w.ctx id,
      (∃ c ∈ r.live, skyPluginEqual skyRegisterPlugins call.beacon c = some true) ∨
        w.sctx.config.Catches (r.numAp + call.beacon.isApType.toNat) (r.numBeacons + 1)
  | _ => True

structure SkyRctx.Bounded (r : SkyRctx) : Prop where
  isSealed : r.Sealed
  numAp : r.numAp ≤ MAX_AP_BEACONS
  numBeacons : r.numBeacons ≤ TOTAL_BEACONS

def SkySctx.LinesFit (s : SkySctx) : Prop := ∀ cl ∈ s.cacheline, cl.numAp ≤ MAX_AP_BEACONS

structure World.Bounded (w : World) : Prop where
  wellFormed : w.WellFormed
  lines : w.sctx.LinesFit
  ctx : ∀ id r, w.ctx id = some r → r.Bounded

theorem SkyRctx.Bounded.inBounds {r : SkyRctx} (bounded : r.Bounded) (good : r.WellFormed) :
    r.InBounds := by
  refine ⟨bounded.numAp, bounded.numBeacons, ?_⟩
  have manyBeacons : ¬ TOTAL_BEACONS + 1 < r.numBeacons := by
    have := bounded.numBeacons
    omega
  have manyAps : ¬ MAX_AP_BEACONS + 1 < r.numAp := by
    have := bounded.numAp
    omega
  have header := bounded.isSealed
  unfold SkyRctx.Sealed at header
  obtain ⟨slots, l, holds⟩ := good
  rw [validateRequestCtx, if_neg manyBeacons, if_neg manyAps, if_pos header]
  refine validateSlots_fst _ _ (fun b member => ?_) slots.usable
  rw [List.take_take, Nat.min_comm, ← List.take_take] at member
  exact holds.accepted b (List.mem_of_mem_take member)

variable {s : SkySctx} {r r' : SkyRctx}

theorem SkyRctx.Bounded.congr (bounded : r.Bounded) (same : SameRequest r r')
    (numAp : r'.numAp = r.numAp) (numBeacons : r'.numBeacons = r.numBeacons) : r'.Bounded where
  isSealed := by
    unfold SkyRctx.Sealed
    rw [same.header]
    exact bounded.isSealed
  numAp := numAp ▸ bounded.numAp
  numBeacons := numBeacons ▸ bounded.numBeacons

theorem addBeacon_bounded (good : s.WellFormed) (goodR : r.WellFormed)
    (bounded : r.Bounded) (call : AddCall) (timestamp : ℤ)
    (caught : (∃ c ∈ r.live, skyPluginEqual skyRegisterPlugins call.beacon c = some true) ∨
      s.config.Catches (r.numAp + call.beacon.isApType.toNat) (r.numBeacons + 1)) :
    (skyAddBeacon s r .none call timestamp).rctx.Bounded ∧
      ∀ top ∈ (skyAddBeacon s r .none call timestamp).top, top ≤ TOTAL_BEACONS := by
  obtain ⟨slots, l, holds⟩ := goodR
  have same := sameRequest_addBeacon s r .none call.beacon timestamp
  have outcome := addBeacon_outcome holds good.plugins .none call.beacon timestamp
  unfold skyAddBeacon
  generalize addBeacon s r .none call.beacon timestamp = added at same outcome
  have numAp := holds.numAp
  have numBeacons := holds.numBeacons
  have boundAp := bounded.numAp
  have boundBeacons := bounded.numBeacons
  cases outcome with
  | unchanged rctx top =>
    rw [rctx, top]
    exact ⟨bounded, by simp⟩
  | replaced l' equal holds' aps all top array =>
    have numAp' := holds'.numAp
    have numBeacons' := holds'.numBeacons
    refine ⟨bounded.congr same (by omega) (by omega), fun i stored => ?_⟩
    rw [top, Option.mem_some_iff] at stored
    omega
  | stored r' l' fresh holds' aps all top array filter =>
    have split := l'.length_all
    have notSame : ¬ ∃ c ∈ r.live, skyPluginEqual skyRegisterPlugins call.beacon c = some true := by
      rintro ⟨c, member, equal⟩
      rw [holds.live] at member
      exact fresh c member equal
    obtain ⟨catchesAps, catchesBeacons⟩ := caught.resolve_left notSame
    constructor
    · have sealed : added.rctx.Sealed := by
        unfold SkyRctx.Sealed
        rw [same.header]
        exact bounded.isSealed
      cases filter with
      | kept few cells rctx =>
        have numAp' := holds'.numAp
        have numBeacons' := holds'.numBeacons
        rw [← rctx] at numAp' numBeacons'
        exact ⟨sealed, by omega, by omega⟩
      | apRemoved l'' many holds'' aps' all' array' =>
        have numAp' := holds''.numAp
        have numBeacons' := holds''.numBeacons
        have : call.beacon.isApType.toNat ≤ 1 := Bool.toNat_le _
        exact ⟨sealed, by omega, by omega⟩
      | cellRemoved l'' few many holds'' aps' all' array' =>
        have numAp' := holds''.numAp
        have numBeacons' := holds''.numBeacons
        exact ⟨sealed, by omega, by omega⟩
    · intro i stored
      rw [top, Option.mem_some_iff] at stored
      omega

theorem SkyCacheline.numAp_of_untimed {cl cl' : SkyCacheline} (same : cl'.untimed = cl.untimed)
    (fits : cl.numAp ≤ MAX_AP_BEACONS) : cl'.numAp ≤ MAX_AP_BEACONS :=
  (SkyCacheline.live_of_untimed same).2.2.trans_le fits

theorem keptInCache_of_numAp (count : r.numAp ≤ MAX_AP_BEACONS) :
    KeptInCache r fun cl => cl.numAp ≤ MAX_AP_BEACONS where
  untimed := fun _ _ => SkyCacheline.numAp_of_untimed
  filled := fun _ _ _ _ numAp _ => numAp.trans_le count

theorem SkySctx.LinesFit.of_sameSession {s' : SkySctx} (fit : s.LinesFit)
    (same : SameSession s s') : s'.LinesFit :=
  lines_of_sameSession same (fun _ _ => SkyCacheline.numAp_of_untimed) fit

theorem SkySctx.LinesFit.reportLocation (fit : s.LinesFit) (count : r.numAp ≤ MAX_AP_BEACONS)
    (loc : SkyLocation) (now : ℤ) : (reportLocation s r loc now).sctx.LinesFit :=
  lines_reportLocation (keptInCache_of_numAp count) fit loc now

theorem skyDecodeResponse_bounded (bits : ℕ) (fit : s.LinesFit) (goodR : r.WellFormed)
    (bounded : r.Bounded) (loc : SkyLocation) (resp : Response) (now later : ℤ) :
    (skyDecodeResponse bits s r loc resp now later).sctx.LinesFit ∧
      (skyDecodeResponse bits s r loc resp now later).rctx.Bounded := by
  have checked := goodR.validateRequestCtx
  have outcome := skyDecodeResponse_outcome bits s r loc resp now later
  generalize skyDecodeResponse bits s r loc resp now later = d at outcome ⊢
  cases outcome with
  | rejected errno loc turned => exact ⟨fit, by rwa [checked]⟩
  | undecoded loc valid ctx => exact ⟨fit, by rwa [checked]⟩
  | decoded s' s'' r' loc status rs cacheHits valid ctx same auth =>
    have fit' : s'.LinesFit := by
      intro cl member
      rw [same.cacheline] at member
      exact fit cl member
    rw [checked] at auth
    have outcome : s''.LinesFit ∧ r'.Bounded := by
      cases auth with
      | refused => exact ⟨fit', bounded⟩
      | granted => exact ⟨fit', bounded.isSealed, bounded.numAp, bounded.numBeacons⟩
      | revoked => exact ⟨fit', bounded.isSealed, bounded.numAp, bounded.numBeacons⟩
      | disabled => exact ⟨fit', bounded⟩
      | located =>
        have same := applyLocation_rctx s' r (SkyLocation.start status) rs
        exact ⟨fit', bounded.congr ⟨same.1.header, same.2⟩ same.1.numAp same.1.numBeacons⟩
    rw [reportLocation_rctx]
    exact ⟨SkySctx.LinesFit.reportLocation (s := { s'' with cacheHits := cacheHits }) outcome.1
      outcome.2.numAp loc later, outcome.2⟩

theorem line_bounds (fit : s.LinesFit) (good : s.WellFormed) (i : ℤ) :
    (s.line i).numAp ≤ MAX_AP_BEACONS ∧ (s.line i).numBeacons ≤ TOTAL_BEACONS := by
  constructor
  · exact line_of_lines (Nat.zero_le _) fit i
  · obtain ⟨slots, l, holds⟩ := SkyRctx.WellFormed.line good.lines i
    have length := congrArg List.length holds.live
    rw [← holds.numBeacons, SkyCacheline.live, List.length_take, slots] at length
    omega

theorem prepareRequest_bounded (bounded : r.Bounded) (fit : s.LinesFit) (good : s.WellFormed) :
    (prepareRequest s r).2.Bounded := by
  obtain ⟨-, -, eq⟩ | ⟨-, -, eq⟩ | ⟨-, eq⟩ := prepareRequest_cases s r
  · have line := line_bounds fit good r.getFrom
    rw [eq]
    exact ⟨bounded.isSealed, line.1, line.2⟩
  · rw [eq]
    exact bounded.congr ⟨rfl, rfl⟩ rfl rfl
  · have same := sameScan_selectVap s r
    rw [eq]
    exact bounded.congr same.sameRequest same.numAp same.numBeacons

variable (env : Env)

theorem CtxCall.apply_bounded {w : World} {id : ℕ} (bounded : w.Bounded)
    (member : w.ctx id = some r) (call : CtxCall) (caught : w.caught (.onCtx id call)) :
    (call.apply env w.sctx r).1.LinesFit ∧ (call.apply env w.sctx r).2.Bounded ∧
      w.withinCapacity (.onCtx id call) := by
  have good := bounded.wellFormed
  have goodR := good.ctx id r member
  have boundR := bounded.ctx id r member
  have lines (same : SameSession w.sctx (call.apply env w.sctx r).1) :
      (call.apply env w.sctx r).1.LinesFit := SkySctx.LinesFit.of_sameSession bounded.lines same
  cases call with
  | addBeacon call timestamp =>
    have added := addBeacon_bounded good.sctx goodR boundR call timestamp
      (caught r member)
    refine ⟨bounded.lines, added.1, fun r' member' => ?_⟩
    obtain rfl := Option.some.inj (member.symm.trans member')
    exact added.2
  | addGnss args =>
    obtain ⟨gnss, added⟩ := goodR.skyAddGnss_rctx args
    refine ⟨bounded.lines, ?_, trivial⟩
    simp only [CtxCall.apply, added]
    exact boundR.congr ⟨rfl, rfl⟩ rfl rfl
  | searchCache loc =>
    obtain ⟨hit, getFrom, saveTo, found⟩ := goodR.skySearchCache_rctx env.distance w.sctx loc
    refine ⟨lines (same_skySearchCache env.distance w.sctx r loc).1, ?_, trivial⟩
    simp only [CtxCall.apply, found]
    exact boundR.congr ⟨rfl, rfl⟩ rfl rfl
  | ignoreCacheHit =>
    obtain ⟨hit, ignored⟩ := goodR.skyIgnoreCacheHit_rctx
    refine ⟨bounded.lines, ?_, trivial⟩
    simp only [CtxCall.apply, ignored]
    exact boundR.congr ⟨rfl, rfl⟩ rfl rfl
  | sizeofRequestBuf random =>
    refine ⟨lines (same_skySizeofRequestBuf env.codec w.sctx r random).1, ?_, trivial⟩
    have prepared := prepareRequest_bounded boundR bounded.lines good.sctx
    simp only [CtxCall.apply, skySizeofRequestBuf, goodR.validateRequestCtx]
    split_ifs
    · exact boundR
    · exact prepared
    · exact prepared
  | encodeRequest buf random =>
    refine ⟨bounded.lines, ?_, trivial⟩
    simp only [CtxCall.apply, skyEncodeRequest_rctx, goodR.validateRequestCtx]
    exact boundR
  | decodeResponse resp loc now later =>
    have decoded := skyDecodeResponse_bounded env.cipherBits bounded.lines goodR boundR loc resp
      now later
    refine ⟨decoded.1, decoded.2, fun r' member' => ?_⟩
    obtain rfl := Option.some.inj (member.symm.trans member')
    exact boundR.numBeacons
  | setOption name value =>
    exact ⟨lines (sameSession_skySetOption w.sctx name value), boundR, trivial⟩

theorem SkySctx.LinesFit.skyOpen (fit : s.LinesFit) (args : OpenArgs) :
    (skyOpen s args).2.LinesFit :=
  lines_skyOpen (Nat.zero_le _) fit args

theorem SkyRctx.Bounded.initialized (s : SkySctx) (now : ℤ) :
    (SkyRctx.initialized s now).Bounded :=
  ⟨⟨rfl, rfl⟩, Nat.zero_le _, Nat.zero_le _⟩

theorem World.step_bounded {w : World} (bounded : w.Bounded) (call : Call)
    (caught : w.caught call) : (w.step env call).Bounded ∧ w.withinCapacity call := by
  cases call with
  | openSession args =>
    exact ⟨⟨World.step_wellFormed env bounded.wellFormed (.openSession args) trivial,
      SkySctx.LinesFit.skyOpen bounded.lines args, bounded.ctx⟩, trivial⟩
  | close =>
    exact ⟨⟨World.step_wellFormed env bounded.wellFormed .close trivial,
      lines_skyClose bounded.lines, bounded.ctx⟩, trivial⟩
  | newRequest id rbufsize ulAppData now =>
    have session := SkySctx.LinesFit.of_sameSession bounded.lines
      (skyNewRequest_sctx rbufsize w.sctx ulAppData now)
    refine ⟨⟨World.step_wellFormed env bounded.wellFormed
      (.newRequest id rbufsize ulAppData now) trivial,
      ?_, ?_⟩, trivial⟩
    · rwa [World.step_newRequest_sctx]
    · exact World.step_newRequest_ctx bounded.ctx fun _ => .initialized w.sctx now
  | onCtx id call =>
    cases member : w.ctx id with
    | none =>
      rw [World.step_onCtx_none call member]
      exact ⟨bounded, by cases call <;> simp [World.withinCapacity, member]⟩
    | some r =>
      have applied := CtxCall.apply_bounded env bounded member call caught
      refine ⟨⟨World.step_wellFormed env bounded.wellFormed (.onCtx id call) applied.2.2, ?_, ?_⟩,
        applied.2.2⟩
      · rw [World.step_onCtx_some call member]
        exact applied.1
      · exact World.step_onCtx_ctx member bounded.ctx applied.2.1

theorem World.start_bounded (cacheSize : ℕ) : (World.start cacheSize).Bounded := by
  refine ⟨⟨⟨fun opened => by simp [World.start, SkySctx.zeroed, SkySctx.initialized] at opened,
    fun cl member => ?_⟩, fun _ _ found => by simp [World.start] at found⟩, fun cl member => ?_,
    fun _ _ found => by simp [World.start] at found⟩
  · rw [List.eq_of_mem_replicate member]
    exact .of_empty (by simp) rfl rfl
  · rw [List.eq_of_mem_replicate member]
    exact Nat.zero_le _

/-- In every run whose added beacons are caught by the filter, every context is
within bounds after every call, and no call stores past the last slot. -/
theorem inBounds_of_caught (cacheSize : ℕ) (calls : List Call)
    (caught : Along (World.step env) World.caught (World.start cacheSize) calls) :
    (∀ id r, ((World.start cacheSize).run env calls).ctx id = some r → r.InBounds) ∧
      Along (World.step env) World.withinCapacity (World.start cacheSize) calls := by
  have preserved (w : World) (call : Call) (bounded : w.Bounded) (caught : w.caught call) :
      (w.step env call).Bounded := (World.step_bounded env bounded call caught).1
  refine ⟨fun id r member => ?_, ?_⟩
  · have bounded : ((World.start cacheSize).run env calls).Bounded :=
      run_invariant preserved (World.start_bounded cacheSize) caught
    exact (bounded.ctx id r member).inBounds (bounded.wellFormed.ctx id r member)
  · exact along_mono preserved (World.start_bounded cacheSize) caught fun w call bounded caught =>
      (World.step_bounded env bounded call caught).2

instance (c : SkyConfig) (numAp numBeacons : ℕ) : Decidable (c.Catches numAp numBeacons) :=
  inferInstanceAs (Decidable (_ ∧ _))

instance (w : World) : ∀ call : Call, Decidable (w.caught call)
  | .onCtx id (.addBeacon call _) => inferInstanceAs (Decidable (∀ r ∈ w.ctx id,
      (∃ c ∈ r.live, skyPluginEqual skyRegisterPlugins call.beacon c = some true) ∨
        w.sctx.config.Catches (r.numAp + call.beacon.isApType.toNat) (r.numBeacons + 1)))
  | .onCtx _ (.decodeResponse ..) | .onCtx _ (.addGnss _) | .onCtx _ (.searchCache _)
  | .onCtx _ .ignoreCacheHit | .onCtx _ (.sizeofRequestBuf _) | .onCtx _ (.encodeRequest ..)
  | .onCtx _ (.setOption ..) | .openSession _ | .close | .newRequest .. => isTrue trivial

def fullCalls : List Call :=
  [.openSession bareOpen, .newRequest 0 sizeofSkyRctx [] 1600000000] ++
    ((List.range 21).map fun i =>
      .onCtx 0 (.addBeacon (apCall (UInt8.ofNat i) (-50)) 1600000000)) ++
    (List.range 9).map fun i =>
      .onCtx 0 (.addBeacon (.lte 1000 (Int64.ofNat (100000 + i)) 310 10 5 2000 0 (-100) false)
        1600000000)

theorem fullCalls_inBounds :
    ((((World.start 1).run bareEnv fullCalls).ctx 0).map fun r => (r.numAp, r.numBeacons)) =
        some (MAX_AP_BEACONS, TOTAL_BEACONS) ∧
      (∀ id r, ((World.start 1).run bareEnv fullCalls).ctx id = some r → r.InBounds) ∧
      Along (World.step bareEnv) World.withinCapacity (World.start 1) fullCalls :=
  ⟨by decide +kernel, inBounds_of_caught bareEnv 1 fullCalls (by decide +kernel)⟩

/-- A request after `sky_set_option` has accepted a negative limit of APs, with
`n` different APs added to it. -/
def crowdedCalls (n : ℕ) : List Call :=
  [.openSession bareOpen, .newRequest 0 sizeofSkyRctx [] 1600000000,
    .onCtx 0 (.setOption .maxApBeacons (-1))] ++
  (List.range n).map fun i =>
    .onCtx 0 (.addBeacon (apCall (UInt8.ofNat i) (-50)) 1600000000)

/-- The limit of APs is compared as an unsigned number, so 21 APs stay in the list. -/
theorem crowdedCalls_overflow :
    ∃ r, ((World.start 1).run bareEnv (crowdedCalls 21)).ctx 0 = some r ∧
      ¬ r.numAp ≤ MAX_AP_BEACONS := by
  have count : (((World.start 1).run bareEnv (crowdedCalls 21)).ctx 0).map SkyRctx.numAp =
      some 21 := by decide +kernel
  obtain ⟨r, member, eq⟩ := Option.map_eq_some_iff.1 count
  exact ⟨r, member, by rw [eq]; decide⟩

end EmbeddedClient
