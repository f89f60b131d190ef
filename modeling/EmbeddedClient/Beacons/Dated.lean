import EmbeddedClient.Beacons.Atomic
import EmbeddedClient.Beacons.Capacity

/-!
# The ages of a list

Every beacon of a context or of a cacheline has once been added by `add_beacon`, so its age
is one that `add_beacon` computes. Comparing, ranking, evicting and caching leave it alone.
-/

namespace EmbeddedClient

open Runs

/-- The ages of the beacons are ages that `add_beacon` computes. -/
def Dated (bs : List Beacon) : Prop :=
  ∀ b ∈ bs, ∃ requestTime timestamp, beaconAge requestTime timestamp = .ok b.h.age

def SkySctx.Dated (s : SkySctx) : Prop := ∀ cl ∈ s.cacheline, EmbeddedClient.Dated cl.live

structure World.Dated (w : World) : Prop where
  wellFormed : w.WellFormed
  sctx : w.sctx.Dated
  ctx : ∀ id r, w.ctx id = some r → EmbeddedClient.Dated r.live

variable {s s' : SkySctx} {r r' : SkyRctx} {b : Beacon}

theorem Dated.nil : Dated [] := fun _ member => absurd member List.not_mem_nil

theorem Dated.of_map_scan {bs cs : List Beacon} (dated : Dated cs)
    (same : bs.map Beacon.scan = cs.map Beacon.scan) : Dated bs := by
  refine BeaconList.forall_of_map_scan ?_ same dated
  intro a b eq aged
  have age : a.scan.h.age = b.scan.h.age := by rw [eq]
  have same : a.h.age = b.h.age := age
  rwa [← same]

theorem preparedBeacon_age (s : SkySctx) (b : Beacon) (age : UInt32) :
    (preparedBeacon s b age).h.age = age := by
  unfold preparedBeacon
  dsimp only
  split_ifs with ap
  · exact congrArg (fun b : Beacon => b.h.age) (beaconInCache_scan ..)
  · rfl

theorem SkyRctx.WellFormed.listed (good : r.WellFormed) : r.Listed := by
  obtain ⟨-, l, holds⟩ := good
  have count := l.length_all
  constructor
  · rw [holds.live, holds.numBeacons]
  · rw [holds.live, holds.numAp]
    constructor
    · omega
    · rw [BeaconList.all, List.take_left' rfl]
      exact l.isApType
    · rw [BeaconList.all, List.drop_left' rfl]
      exact l.isCellType
    · exact l.distinct
    · exact l.accepted

theorem addBeacon_dated (listed : r.Listed)
    (plugins : s.openFlag = true → s.plugins = skyRegisterPlugins) (errno : SkyErrno) (b : Beacon)
    (timestamp : ℤ) (dated : Dated r.live) :
    Dated (addBeacon s r errno b timestamp).rctx.live := by
  rcases addBeacon_cases s r errno b timestamp with ⟨e, -, -, -, result⟩ | ⟨age, accepts, -⟩
  · rw [result]
    dsimp only
    rwa [validateRequestCtx_snd listed.inOrder.accepted]
  · obtain ⟨-, l', n', shows, effect⟩ := addBeacon_effect listed plugins errno accepts
    intro d member
    have shown : d.unranked ∈ l' := by
      rw [← shows.list]
      exact List.mem_map_of_mem member
    rcases effect.mem _ shown with new | old
    · have same : d.h.age = age :=
        (congrArg (fun b : Beacon => b.h.age) new).trans (preparedBeacon_age s b age)
      exact ⟨_, _, by rw [same, accepts.2.2.2]⟩
    · obtain ⟨c, memberC, eq⟩ := List.mem_map.1 old
      have age : c.unranked.h.age = d.unranked.h.age := by rw [eq]
      have same : c.h.age = d.h.age := age
      rw [← same]
      exact dated c memberC

theorem SkyCacheline.live_cleared : SkyCacheline.cleared.live = [] := rfl

theorem SkyCacheline.dated_of_untimed {cl cl' : SkyCacheline} (same : cl'.untimed = cl.untimed)
    (dated : EmbeddedClient.Dated cl.live) : EmbeddedClient.Dated cl'.live := by
  rw [(SkyCacheline.live_of_untimed same).1]
  exact dated

theorem SkySctx.Dated.of_sameSession (same : SameSession s s') (dated : s.Dated) : s'.Dated :=
  lines_of_sameSession same (fun _ _ => SkyCacheline.dated_of_untimed) dated

theorem SkySctx.Dated.skyOpen (dated : s.Dated) (args : OpenArgs) :
    (EmbeddedClient.skyOpen s args).2.Dated :=
  lines_skyOpen Dated.nil dated args

theorem SkySctx.Dated.line (dated : s.Dated) (i : ℤ) : EmbeddedClient.Dated (s.line i).live :=
  line_of_lines (by rw [SkyCacheline.live_cleared]; exact .nil) dated i

/-- The lines of `lines'` hold the list of the request or what a line held before. -/
def LinesFrom (r : SkyRctx) (lines lines' : List SkyCacheline) : Prop :=
  ∀ cl' ∈ lines', cl'.live = r.live ∨ ∃ cl ∈ lines, cl.live = cl'.live

theorem LinesFrom.refl (r : SkyRctx) (lines : List SkyCacheline) : LinesFrom r lines lines :=
  fun cl member => .inr ⟨cl, member, rfl⟩

theorem keptInCache_linesFrom (full : r.live.length = r.numBeacons) (lines : List SkyCacheline) :
    KeptInCache r fun cl' => cl'.live = r.live ∨ ∃ cl ∈ lines, cl.live = cl'.live where
  untimed := fun cl cl' same => by
    rw [(SkyCacheline.live_of_untimed same).1]
    exact id
  filled :=
    fun _ _ _ numBeacons _ beacon => .inl (SkyCacheline.live_of_filled full numBeacons beacon)

theorem linesFrom_reportLocation (full : r.live.length = r.numBeacons) (s : SkySctx)
    (loc : SkyLocation) (now : ℤ) :
    LinesFrom r s.cacheline (reportLocation s r loc now).sctx.cacheline :=
  lines_reportLocation (keptInCache_linesFrom full s.cacheline) (LinesFrom.refl r _) loc now

theorem skyDecodeResponse_dated (bits : ℕ) (goodR : r.WellFormed) (dated : s.Dated)
    (datedR : Dated r.live) (loc : SkyLocation) (resp : Response) (now later : ℤ) :
    (skyDecodeResponse bits s r loc resp now later).sctx.Dated ∧
      Dated (skyDecodeResponse bits s r loc resp now later).rctx.live := by
  have checked := goodR.validateRequestCtx
  have full := goodR.listed.full
  have outcome := skyDecodeResponse_outcome bits s r loc resp now later
  generalize skyDecodeResponse bits s r loc resp now later = d at outcome ⊢
  cases outcome with
  | rejected errno loc turned => exact ⟨dated, by rwa [checked]⟩
  | undecoded loc valid ctx => exact ⟨dated, by rwa [checked]⟩
  | decoded s' s'' r' loc status rs cacheHits valid ctx same auth =>
    have dated' : s'.Dated := dated.of_sameSession (s := s.stamp now) same.session
    rw [checked] at auth
    have outcome : s''.Dated ∧ Dated r'.live ∧ r'.live.length = r'.numBeacons := by
      cases auth with
      | refused => exact ⟨dated', datedR, full⟩
      | granted => exact ⟨dated', datedR, full⟩
      | revoked => exact ⟨dated', datedR, full⟩
      | disabled => exact ⟨dated', datedR, full⟩
      | located =>
        have same := (applyLocation_rctx s' r (SkyLocation.start status) rs).1
        have live := same.live
        have length : (applyLocation s' r (.start status) rs).1.live.length = r.live.length := by
          simpa using congrArg List.length live
        exact ⟨dated', datedR.of_map_scan live, length.trans (full.trans same.numBeacons.symm)⟩
    rw [reportLocation_rctx]
    refine ⟨?_, outcome.2.1⟩
    intro cl' member
    rcases linesFrom_reportLocation outcome.2.2 _ loc later cl' member with stored | ⟨cl, old, kept⟩
    · rw [stored]
      exact outcome.2.1
    · rw [← kept]
      exact outcome.1 cl old

theorem prepareRequest_dated (datedR : Dated r.live) (dated : s.Dated) (good : s.WellFormed) :
    Dated (prepareRequest s r).2.live := by
  rcases prepareRequest_cases s r with ⟨-, -, eq⟩ | ⟨-, -, eq⟩ | ⟨-, eq⟩
  · have full : (s.line r.getFrom).live.length = (s.line r.getFrom).numBeacons := by
      obtain ⟨-, l, live, -, numBeacons⟩ := SkyRctx.WellFormed.line good.lines r.getFrom
      rw [live, numBeacons]
    rw [eq]
    simpa [SkyRctx.live, SkyRctx.populate, ← full] using dated.line r.getFrom
  · rw [eq]
    exact datedR
  · rw [eq]
    exact datedR.of_map_scan (sameScan_selectVap s r).live

variable (env : Env)

theorem CtxCall.apply_dated {w : World} {id : ℕ} (dated : w.Dated) (member : w.ctx id = some r)
    (call : CtxCall) :
    (call.apply env w.sctx r).1.Dated ∧ EmbeddedClient.Dated (call.apply env w.sctx r).2.live := by
  have good := dated.wellFormed
  have goodR := good.ctx id r member
  have datedR := dated.ctx id r member
  have checked := goodR.validateRequestCtx
  have session (same : SameSession w.sctx (call.apply env w.sctx r).1) :=
    dated.sctx.of_sameSession same
  cases call with
  | addBeacon call timestamp =>
    exact ⟨dated.sctx, addBeacon_dated goodR.listed good.sctx.plugins .none call.beacon
      timestamp datedR⟩
  | addGnss args =>
    obtain ⟨gnss, added⟩ := goodR.skyAddGnss_rctx args
    refine ⟨dated.sctx, ?_⟩
    simp only [CtxCall.apply, added]
    exact datedR
  | searchCache loc =>
    obtain ⟨hit, getFrom, saveTo, found⟩ := goodR.skySearchCache_rctx env.distance w.sctx loc
    refine ⟨session (same_skySearchCache env.distance w.sctx r loc).1, ?_⟩
    simp only [CtxCall.apply, found]
    exact datedR
  | ignoreCacheHit =>
    obtain ⟨hit, ignored⟩ := goodR.skyIgnoreCacheHit_rctx
    refine ⟨dated.sctx, ?_⟩
    simp only [CtxCall.apply, ignored]
    exact datedR
  | sizeofRequestBuf random =>
    refine ⟨session (same_skySizeofRequestBuf env.codec w.sctx r random).1, ?_⟩
    have prepared := prepareRequest_dated datedR dated.sctx good.sctx
    simp only [CtxCall.apply, skySizeofRequestBuf, checked]
    split_ifs
    · exact datedR
    · exact prepared
    · exact prepared
  | encodeRequest buf random =>
    refine ⟨dated.sctx, ?_⟩
    simp only [CtxCall.apply, skyEncodeRequest_rctx, checked]
    exact datedR
  | decodeResponse resp loc now later =>
    exact skyDecodeResponse_dated env.cipherBits goodR dated.sctx datedR loc resp now later
  | setOption name value => exact ⟨session (sameSession_skySetOption w.sctx name value), datedR⟩

theorem World.step_dated {w : World} (dated : w.Dated) (call : Call)
    (capacity : w.withinCapacity call) : (w.step env call).Dated := by
  have good := World.step_wellFormed env dated.wellFormed call capacity
  cases call with
  | openSession args => exact ⟨good, dated.sctx.skyOpen args, dated.ctx⟩
  | close =>
    exact ⟨good, lines_skyClose dated.sctx, dated.ctx⟩
  | newRequest id rbufsize ulAppData now =>
    have session := dated.sctx.of_sameSession (skyNewRequest_sctx rbufsize w.sctx ulAppData now)
    refine ⟨good, ?_, ?_⟩
    · rwa [World.step_newRequest_sctx]
    · exact @World.step_newRequest_ctx _ _ env
        (fun r => EmbeddedClient.Dated r.live) _ _ _ dated.ctx
        fun _ => .nil
  | onCtx id call =>
    cases member : w.ctx id with
    | none => rwa [World.step_onCtx_none call member]
    | some r =>
      have applied := CtxCall.apply_dated env dated member call
      refine ⟨good, ?_, ?_⟩
      · rw [World.step_onCtx_some call member]
        exact applied.1
      · exact @World.step_onCtx_ctx _ _ _ env (fun r => EmbeddedClient.Dated r.live) _ member
          dated.ctx applied.2

theorem World.start_dated (cacheSize : ℕ) : (World.start cacheSize).Dated where
  wellFormed := (World.start_bounded cacheSize).wellFormed
  sctx := by
    intro cl member
    rw [List.eq_of_mem_replicate member]
    exact .nil
  ctx := fun _ _ found => by simp [World.start] at found

/-- Every state of a run within capacity holds ages that `add_beacon` computes. -/
theorem World.run_dated {w : World} (dated : w.Dated) {calls : List Call}
    (capacity : Along (World.step env) World.withinCapacity w calls) : (w.run env calls).Dated :=
  run_invariant (fun _ call kept => World.step_dated env kept call) dated capacity

end EmbeddedClient
