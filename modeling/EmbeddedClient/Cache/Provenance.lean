import EmbeddedClient.Beacons.Adds
import EmbeddedClient.Beacons.Dated
import EmbeddedClient.Cache.Origin
import EmbeddedClient.Support.Provenance

/-!
# Where a beacon comes from

A beacon that is added goes to the list of its context. From there it gets to the cacheline that a
response to the context fills, and from a cacheline to a context that takes it over on a hit. There
is no other way, so every beacon of a request was scanned, and by the application that made the
request unless the request took over a cacheline.
-/

namespace EmbeddedClient

open Runs Provenance

inductive Place
  | ctx (id : ℕ)
  | line (i : ℕ)

def SkyRctx.scans (r : SkyRctx) : List Beacon := r.live.map Beacon.scan

def SkyCacheline.scans (cl : SkyCacheline) : List Beacon := cl.live.map Beacon.scan

/-- The beacons of a place, without their scratch fields. -/
def World.holds (w : World) : Place → Beacon → Prop
  | .ctx id, b => ∃ r ∈ w.ctx id, b ∈ r.scans
  | .line i, b => ∃ cl ∈ w.sctx.cacheline[i]?, b ∈ cl.scans

/-- The call adds this beacon to a context. -/
def World.Scans (w : World) (call : Call) (id : ℕ) (b : Beacon) : Prop :=
  ∃ r ∈ w.ctx id, ∃ a : Add, call = .onCtx id (.addBeacon a.call a.timestamp) ∧
    a.Inserted w.sctx r ∧
    b = (a.stored w.sctx r.header.time).scan

/-- The call starts a request on a context. -/
def World.Starts (w : World) (call : Call) (id : ℕ) : Prop :=
  ∃ rbufsize ulAppData now, call = .newRequest id rbufsize ulAppData now ∧
    (skyNewRequest rbufsize w.sctx ulAppData now).errno = none

/-- The call lets a context take over a cacheline. -/
def World.Restores (w : World) (call : Call) (id i : ℕ) : Prop :=
  ∃ random, call = .onCtx id (.sizeofRequestBuf random) ∧
    ∃ r ∈ w.ctx id, (validateRequestCtx r).1 = true ∧
    r.isCacheHit = true ∧ w.sctx.cacheHits < 127 ∧ r.getFrom = i

def World.Caches (env : Env) (w : World) (call : Call) (id i : ℕ) : Prop :=
  ∃ resp loc now later, call = .onCtx id (.decodeResponse resp loc now later) ∧ ∃ r ∈ w.ctx id,
    let d := skyDecodeResponse env.cipherBits w.sctx r loc resp now later
    d.errno = .none ∧ ∃ old : SkyCacheline, d.sctx.cacheline[i]? = some (old.store d.rctx d.loc)

/-- What a call adds to the places, and from where they are filled. -/
def World.flow (env : Env) (w : World) (call : Call) : Flow Place Beacon where
  puts p b := ∃ id, p = .ctx id ∧ w.Scans call id b
  takes
    | .ctx id, q => (∃ i, w.Restores call id i ∧ q = .line i) ∨
        (¬ w.Starts call id ∧ (∀ i, ¬ w.Restores call id i) ∧ q = .ctx id)
    | .line i, q => (∃ id, w.Caches env call id i ∧ q = .ctx id) ∨
        ((∀ id, ¬ w.Caches env call id i) ∧ q = .line i)

variable {env : Env} {w : World} {call : Call} {id i : ℕ} {s s' : SkySctx} {r r' : SkyRctx}
  {b : Beacon}

theorem SkyCacheline.scans_of_untimed {cl cl' : SkyCacheline} (same : cl'.untimed = cl.untimed) :
    cl'.scans = cl.scans := by
  rw [scans, scans, (SkyCacheline.live_of_untimed same).1]

theorem SkyCacheline.scans_store {cl : SkyCacheline} (full : r.live.length = r.numBeacons)
    (loc : SkyLocation) :
    (cl.store r loc).scans = r.scans :=
  congrArg (List.map Beacon.scan) (SkyCacheline.live_of_filled full rfl rfl)

theorem SameList.scans (same : SameList r r') : r'.scans = r.scans := by
  rw [SkyRctx.scans, SkyRctx.scans, SkyRctx.live, SkyRctx.live, List.map_take, List.map_take,
    same.beacon, same.numBeacons]

def SkySctx.KeepsLine (s : SkySctx) (cl' : SkyCacheline) (i : ℕ) : Prop :=
  ∃ cl, s.cacheline[i]? = some cl ∧ cl'.untimed = cl.untimed

theorem SkySctx.KeepsLine.of_untimed {cl' : SkyCacheline}
    (same : s'.cacheline.map SkyCacheline.untimed = s.cacheline.map SkyCacheline.untimed)
    (line : s'.cacheline[i]? = some cl') : s.KeepsLine cl' i := by
  have untimed : (s.cacheline.map SkyCacheline.untimed)[i]? = some cl'.untimed := by
    rw [← same, List.getElem?_map, line, Option.map_some]
  rw [List.getElem?_map, Option.map_eq_some_iff] at untimed
  obtain ⟨cl, old, eq⟩ := untimed
  exact ⟨cl, old, eq.symm⟩

theorem line_toCache {loc : SkyLocation} (located : loc.locationStatus = .success)
    {cl' : SkyCacheline} (line : (ApPlugin.toCache s r loc).2.cacheline[i]? = some cl') :
    s.cacheline[i]? = some cl' ∨ ∃ old : SkyCacheline, cl' = old.store r loc := by
  by_cases recent : TIMESTAMP_2019_03_01 < loc.time
  · rw [toCache_located located recent, List.getElem?_modify, Option.map_eq_map,
      Option.map_eq_some_iff] at line
    obtain ⟨old, before, stored⟩ := line
    split_ifs at stored
    · exact .inr ⟨old, stored.symm⟩
    · rw [← stored]
      exact .inl before
  · have unchanged : (ApPlugin.toCache s r loc).2 = s := by
      unfold ApPlugin.toCache
      rw [if_pos (by omega)]
    rw [unchanged] at line
    exact .inl line

theorem line_reportLocation {loc : SkyLocation} {now : ℤ} {cl' : SkyCacheline}
    (line : (reportLocation s r loc now).sctx.cacheline[i]? = some cl') :
    s.cacheline[i]? = some cl' ∨ (reportLocation s r loc now).errno = .none ∧
      ∃ old : SkyCacheline, cl' = old.store r (reportLocation s r loc now).loc := by
  unfold reportLocation at line ⊢
  cases status : loc.locationStatus with
  | success =>
    rw [status] at line
    dsimp only at line ⊢
    let stored : SkyLocation := { loc with time := now, locationStatus := .success }
    have added : ∀ cl',
        (skyPluginAddToCache s.plugins { s with backoff := .none } r stored).2.cacheline[i]? =
          some cl' →
        s.cacheline[i]? = some cl' ∨ ∃ old : SkyCacheline, cl' = old.store r stored := by
      apply skyPluginAddToCache_induction
        (fun s' => ∀ cl', s'.cacheline[i]? = some cl' →
          s.cacheline[i]? = some cl' ∨ ∃ old : SkyCacheline, cl' = old.store r stored)
      · exact fun s' kept cl' line => (line_toCache rfl line).elim (kept cl') .inr
      · exact fun cl' line => .inl line
    exact (added cl' line).imp_right fun new => ⟨rfl, new⟩
  | authError =>
    rw [status] at line
    cases auth : r.authState <;> rw [auth] at line <;> exact .inl line
  | _ =>
    rw [status] at line
    exact .inl line

theorem line_skyDecodeResponse {bits : ℕ} {loc : SkyLocation} {resp : Response} {now later : ℤ}
    {cl' : SkyCacheline}
    (line : (skyDecodeResponse bits s r loc resp now later).sctx.cacheline[i]? = some cl') :
    s.cacheline[i]? = some cl' ∨
      let d := skyDecodeResponse bits s r loc resp now later
      d.errno = .none ∧ ∃ old : SkyCacheline, cl' = old.store d.rctx d.loc := by
  have outcome := skyDecodeResponse_outcome bits s r loc resp now later
  generalize skyDecodeResponse bits s r loc resp now later = decoded at line outcome ⊢
  cases outcome with
  | rejected => exact .inl line
  | undecoded => exact .inl line
  | decoded s' s'' r' loc status rs cacheHits valid ctx same auth =>
    have kept : s''.cacheline = s'.cacheline := by cases auth <;> rfl
    rcases line_reportLocation line with old | ⟨answered, before, new⟩
    · left
      dsimp only at old
      rwa [kept, same.cacheline] at old
    · refine .inr ⟨answered, before, ?_⟩
      rw [reportLocation_rctx]
      exact new

theorem sameList_skyDecodeResponse (checked : (validateRequestCtx r).2 = r) (bits : ℕ)
    (loc : SkyLocation) (resp : Response) (now later : ℤ) :
    SameList r (skyDecodeResponse bits s r loc resp now later).rctx := by
  have outcome := skyDecodeResponse_outcome bits s r loc resp now later
  generalize skyDecodeResponse bits s r loc resp now later = decoded at outcome ⊢
  cases outcome with
  | rejected => rw [checked]; exact .refl r
  | undecoded => rw [checked]; exact .refl r
  | decoded s' s'' r' loc status rs cacheHits valid ctx same auth =>
    rw [checked] at auth
    rw [reportLocation_rctx]
    cases auth with
    | located => exact (applyLocation_rctx s' r (.start status) rs).1
    | _ => exact ⟨rfl, rfl, rfl, rfl, rfl, rfl, rfl, rfl⟩

/-- Opening the session keeps the lines, or leaves none with a beacon. -/
theorem line_skyOpen {args : OpenArgs} {cl' : SkyCacheline}
    (line : (skyOpen s args).2.cacheline[i]? = some cl') :
    s.cacheline[i]? = some cl' ∨ cl' = SkyCacheline.cleared := by
  rcases skyOpen_cases s args with ⟨magic, -, eq⟩ | ⟨base, isBase, eq⟩
  · rw [eq] at line
    exact .inl line
  · have same : (skyOpen s args).2.cacheline = base.cacheline := by
      rcases eq with eq | ⟨deviceId, aesKey, eq⟩
      · rw [eq]
        rfl
      · rw [eq]
        unfold installArgs
        split_ifs <;> rfl
    rw [same] at line
    rcases isBase with ⟨rfl, -⟩ | ⟨now, rfl⟩
    · exact .inl line
    · exact .inr (List.eq_of_mem_replicate (List.mem_of_getElem? line))

theorem SkyRctx.scans_congr (beacon : r'.beacon = r.beacon)
    (numBeacons : r'.numBeacons = r.numBeacons) :
    r'.scans = r.scans := by
  rw [scans, scans, live, live, beacon, numBeacons]

theorem mem_scans_add (listed : r.Listed)
    (plugins : s.openFlag = true → s.plugins = skyRegisterPlugins) (a : Add)
    (member : b ∈ (a.step s r).scans) :
    b ∈ r.scans ∨ a.Inserted s r ∧ b = (a.stored s r.header.time).scan := by
  unfold Add.step skyAddBeacon at member
  rcases addBeacon_cases s r .none a.call.beacon a.timestamp with
    ⟨e, -, -, -, result⟩ | ⟨age, accepts, -⟩
  · rw [result] at member
    dsimp only at member
    rw [validateRequestCtx_snd listed.inOrder.accepted] at member
    exact .inl member
  · obtain ⟨-, l', n', shows, effect⟩ := addBeacon_effect listed plugins .none accepts
    obtain ⟨d, live, rfl⟩ := List.mem_map.1 member
    have shown : d.unranked ∈ l' := by
      rw [← shows.list]
      exact List.mem_map_of_mem live
    rcases effect.mem _ shown with new | old
    · right
      rw [Add.stored_eq accepts]
      exact ⟨⟨age, accepts⟩, Beacon.scan_of_unranked new⟩
    · obtain ⟨c, before, same⟩ := List.mem_map.1 old
      rw [← Beacon.scan_of_unranked same]
      exact .inl (List.mem_map_of_mem before)

theorem mem_scans_populate {cl : SkyCacheline} (good : cl.WellFormed) :
    (r.populate cl).scans = cl.scans := by
  obtain ⟨-, l, live, -, numBeacons⟩ := good
  have full : cl.live.length = cl.numBeacons := by rw [live, numBeacons]
  simp [SkyRctx.scans, SkyCacheline.scans, SkyRctx.live, SkyRctx.populate, ← full]

theorem SkySctx.mem_line {k : ℤ} (member : b ∈ (s.line k).scans) :
    ∃ i : ℕ, k = i ∧ ∃ cl ∈ s.cacheline[i]?, b ∈ cl.scans := by
  unfold SkySctx.line at member
  split_ifs at member with nonneg
  · refine ⟨k.toNat, (Int.toNat_of_nonneg nonneg).symm, ?_⟩
    rw [List.getD_eq_getElem?_getD] at member
    cases line : s.cacheline[k.toNat]? with
    | none =>
      rw [line] at member
      exact absurd member List.not_mem_nil
    | some cl =>
      rw [line] at member
      exact ⟨cl, rfl, member⟩
  · exact absurd member List.not_mem_nil

/-- A beacon that a call leaves in its context was added by the call, taken over from a cacheline,
or there before. -/
theorem mem_scans_apply (dated : w.Dated) (member : w.ctx id = some r) (c : CtxCall)
    (held : b ∈ (c.apply env w.sctx r).2.scans) :
    w.Scans (.onCtx id c) id b ∨ (∃ i, w.Restores (.onCtx id c) id i ∧ w.holds (.line i) b) ∨
      ((∀ i, ¬ w.Restores (.onCtx id c) id i) ∧ b ∈ r.scans) := by
  have good := dated.wellFormed
  have goodR := good.ctx id r member
  have checked := goodR.validateRequestCtx
  have stays (plain : ∀ random, c ≠ .sizeofRequestBuf random)
      (same : (c.apply env w.sctx r).2.scans = r.scans) :
      (∀ i, ¬ w.Restores (.onCtx id c) id i) ∧ b ∈ r.scans := by
    refine ⟨fun i ⟨random, eq, _⟩ => ?_, same ▸ held⟩
    cases eq
    exact plain random rfl
  cases c with
  | addBeacon call timestamp =>
    rcases mem_scans_add goodR.listed good.sctx.plugins ⟨call, timestamp⟩ held with
      old | ⟨inserted, new⟩
    · refine .inr (.inr ⟨fun i ⟨random, eq, _⟩ => ?_, old⟩)
      cases eq
    · exact .inl ⟨r, member, ⟨call, timestamp⟩, rfl, inserted, new⟩
  | addGnss args =>
    obtain ⟨gnss, added⟩ := goodR.skyAddGnss_rctx args
    refine .inr (.inr (stays (by simp) ?_))
    simp only [CtxCall.apply, added]
    exact SkyRctx.scans_congr rfl rfl
  | searchCache loc =>
    obtain ⟨hit, getFrom, saveTo, found⟩ := goodR.skySearchCache_rctx env.distance w.sctx loc
    refine .inr (.inr (stays (by simp) ?_))
    simp only [CtxCall.apply, found]
    exact SkyRctx.scans_congr rfl rfl
  | ignoreCacheHit =>
    obtain ⟨hit, ignored⟩ := goodR.skyIgnoreCacheHit_rctx
    refine .inr (.inr (stays (by simp) ?_))
    simp only [CtxCall.apply, ignored]
    exact SkyRctx.scans_congr rfl rfl
  | sizeofRequestBuf random =>
    right
    have gone {i : ℕ} (takes : w.Restores (.onCtx id (.sizeofRequestBuf random)) id i) :
        (validateRequestCtx r).1 = true ∧ r.isCacheHit = true ∧ w.sctx.cacheHits < 127 := by
      obtain ⟨_, -, r', member', valid, hit, few, -⟩ := takes
      rw [member] at member'
      cases member'
      exact ⟨valid, hit, few⟩
    by_cases valid : (validateRequestCtx r).1 = true
    · have sized :
          (skySizeofRequestBuf env.codec w.sctx r random).rctx = (prepareRequest w.sctx r).2 := by
        simp only [skySizeofRequestBuf, checked]
        rw [if_neg (by simpa using valid)]
        split_ifs <;> rfl
      simp only [CtxCall.apply, sized] at held
      rcases prepareRequest_cases w.sctx r with ⟨hit, few, eq⟩ | ⟨hit, many, eq⟩ | ⟨miss, eq⟩
      · rw [eq, mem_scans_populate (SkyRctx.WellFormed.line good.sctx.lines r.getFrom)] at held
        obtain ⟨i, place, line⟩ := SkySctx.mem_line held
        exact .inl ⟨i, ⟨random, rfl, r, member, valid, hit, few, place⟩, line⟩
      · rw [eq] at held
        exact .inr ⟨fun i takes => many (gone takes).2.2, held⟩
      · rw [eq, SkyRctx.scans, (sameScan_selectVap w.sctx r).live] at held
        refine .inr ⟨fun i takes => ?_, held⟩
        rw [(gone takes).2.1] at miss
        cases miss
    · refine .inr ⟨fun i takes => valid (gone takes).1, ?_⟩
      simp only [CtxCall.apply, skySizeofRequestBuf, checked] at held
      rwa [if_pos (by simpa using valid)] at held
  | encodeRequest buf random =>
    refine .inr (.inr (stays (by simp) ?_))
    simp only [CtxCall.apply, skyEncodeRequest_rctx, checked]
  | decodeResponse resp loc now later =>
    exact .inr (.inr (stays (by simp)
      (sameList_skyDecodeResponse checked env.cipherBits loc resp now later).scans))
  | setOption name value => exact .inr (.inr (stays (by simp) rfl))

theorem World.step_line (call : Call) (kept : ∀ id, ¬ w.Caches env call id i)
    (held : (w.step env call).holds (.line i) b) : w.holds (.line i) b := by
  obtain ⟨cl', line, member⟩ := held
  have line : (w.step env call).sctx.cacheline[i]? = some cl' := line
  have untimed (same : SameSession w.sctx (w.step env call).sctx) : w.holds (.line i) b := by
    obtain ⟨cl, old, eq⟩ := SkySctx.KeepsLine.of_untimed same.lines line
    exact ⟨cl, old, SkyCacheline.scans_of_untimed eq ▸ member⟩
  cases call with
  | openSession args =>
    rcases line_skyOpen line with old | rfl
    · exact ⟨cl', old, member⟩
    · exact absurd member List.not_mem_nil
  | close =>
    have same : (skyClose w.sctx).2.cacheline = w.sctx.cacheline := by
      unfold skyClose
      split_ifs <;> rfl
    have old : w.sctx.cacheline[i]? = some cl' := same ▸ line
    exact ⟨cl', old, member⟩
  | newRequest id rbufsize ulAppData now =>
    apply untimed
    rw [World.step_newRequest_sctx]
    exact skyNewRequest_sctx rbufsize w.sctx ulAppData now
  | onCtx id c =>
    cases found : w.ctx id with
    | none =>
      rw [World.step_onCtx_none c found] at line
      exact ⟨cl', line, member⟩
    | some r =>
      rw [World.step_onCtx_some c found] at line untimed
      by_cases decode : ∃ resp loc now later, c = .decodeResponse resp loc now later
      · obtain ⟨resp, loc, now, later, rfl⟩ := decode
        rcases line_skyDecodeResponse line with old | ⟨answered, old, new⟩
        · exact ⟨cl', old, member⟩
        · exact absurd ⟨resp, loc, now, later, rfl, r, found, answered, old, new ▸ line⟩ (kept id)
      · exact untimed (CtxCall.apply_same env w.sctx r c fun resp loc now later eq =>
          decode ⟨resp, loc, now, later, eq⟩).1

theorem World.step_caches (dated : w.Dated) (caches : w.Caches env call id i)
    (held : (w.step env call).holds (.line i) b) : w.holds (.ctx id) b := by
  obtain ⟨resp, loc, now, later, rfl, r, found, -, old, stored⟩ := caches
  obtain ⟨cl', line, member⟩ := held
  have found : w.ctx id = some r := found
  have line : (w.step env (.onCtx id (.decodeResponse resp loc now later))).sctx.cacheline[i]? =
    some cl' := line
  rw [World.step_onCtx_some _ found] at line
  have goodR := dated.wellFormed.ctx id r found
  have same := sameList_skyDecodeResponse goodR.validateRequestCtx env.cipherBits loc resp now later
    (s := w.sctx)
  have full : (skyDecodeResponse env.cipherBits w.sctx r loc resp now later).rctx.live.length =
      (skyDecodeResponse env.cipherBits w.sctx r loc resp now later).rctx.numBeacons := by
    have lengths := congrArg List.length same.live
    rw [List.length_map, List.length_map, goodR.listed.full] at lengths
    rw [same.numBeacons, lengths]
  have eq : some (old.store _ _) = some cl' := stored.symm.trans line
  rw [← Option.some.inj eq, SkyCacheline.scans_store full, same.scans] at member
  exact ⟨r, found, member⟩

/-- A beacon that a context has after a call got there by it, or it was there and the call starts no
request on the context. -/
theorem World.step_ctx (dated : w.Dated) (call : Call)
    (held : (w.step env call).holds (.ctx id) b) :
    w.Scans call id b ∨ (∃ i, w.Restores call id i ∧ w.holds (.line i) b) ∨
      (¬ w.Starts call id ∧ (∀ i, ¬ w.Restores call id i) ∧ w.holds (.ctx id) b) := by
  obtain ⟨r', found', member⟩ := held
  have found' : (w.step env call).ctx id = some r' := found'
  have other (starts : ¬ w.Starts call id) (restores : ∀ i, ¬ w.Restores call id i)
      (same : w.ctx id = some r') :
      ¬ w.Starts call id ∧ (∀ i, ¬ w.Restores call id i) ∧ w.holds (.ctx id) b :=
    ⟨starts, restores, r', same, member⟩
  cases call with
  | openSession args =>
    refine .inr (.inr (other ?_ ?_ found'))
    · rintro ⟨_, _, _, eq, -⟩
      cases eq
    · rintro i ⟨_, eq, -⟩
      cases eq
  | close =>
    refine .inr (.inr (other ?_ ?_ found'))
    · rintro ⟨_, _, _, eq, -⟩
      cases eq
    · rintro i ⟨_, eq, -⟩
      cases eq
  | newRequest id' rbufsize ulAppData now =>
    have restores : ∀ i, ¬ w.Restores (.newRequest id' rbufsize ulAppData now) id i := by
      rintro i ⟨_, eq, -⟩
      cases eq
    unfold World.step at found'
    dsimp only at found'
    split_ifs at found' with writes
    · by_cases same : id = id'
      · subst same
        have started := (Function.update_self id _ w.ctx).symm.trans found'
        rw [eq_initialized started] at member
        exact absurd member List.not_mem_nil
      · have before := (Function.update_of_ne same _ w.ctx).symm.trans found'
        refine .inr (.inr (other ?_ restores before))
        rintro ⟨_, _, _, eq, -⟩
        cases eq
        exact same rfl
    · refine .inr (.inr (other ?_ restores found'))
      rintro ⟨_, _, _, eq, started⟩
      cases eq
      exact writes (.inl started)
  | onCtx id' c =>
    have starts : ¬ w.Starts (.onCtx id' c) id := by
      rintro ⟨_, _, _, eq, -⟩
      cases eq
    cases found : w.ctx id' with
    | none =>
      rw [World.step_onCtx_none c found] at found'
      refine .inr (.inr (other starts ?_ found'))
      rintro i ⟨_, eq, r, member', -⟩
      cases eq
      rw [found] at member'
      cases member'
    | some r =>
      rw [World.step_onCtx_some c found] at found'
      by_cases same : id = id'
      · subst same
        have applied := (Function.update_self id _ w.ctx).symm.trans found'
        rw [← Option.some.inj applied] at member
        rcases mem_scans_apply dated found c member with scans | restored | ⟨restores, before⟩
        · exact .inl scans
        · exact .inr (.inl restored)
        · exact .inr (.inr ⟨starts, restores, r, found, before⟩)
      · have before := (Function.update_of_ne same _ w.ctx).symm.trans found'
        refine .inr (.inr (other starts ?_ before))
        rintro i ⟨_, eq, -⟩
        cases eq
        exact same rfl

/-- The flow of a call accounts for all beacons that are held after it. -/
theorem World.explained (dated : w.Dated) (call : Call) : Explained (World.step env)
    (World.flow env) World.holds w call := by
  intro p b held
  cases p with
  | ctx id =>
    rcases World.step_ctx dated call held with
      scans | ⟨i, restores, before⟩ | ⟨starts, restores, before⟩
    · exact .inl ⟨id, rfl, scans⟩
    · exact .inr ⟨.line i, .inl ⟨i, restores, rfl⟩, before⟩
    · exact .inr ⟨.ctx id, .inr ⟨starts, restores, rfl⟩, before⟩
  | line i =>
    right
    by_cases caches : ∃ id, w.Caches env call id i
    · obtain ⟨id, caches⟩ := caches
      exact ⟨.ctx id, .inl ⟨id, caches, rfl⟩, World.step_caches dated caches held⟩
    · rw [not_exists] at caches
      exact ⟨.line i, .inr ⟨caches, rfl⟩, World.step_line call caches held⟩

theorem World.start_holds (cacheSize : ℕ) (p : Place) (b : Beacon) :
    ¬ (World.start cacheSize).holds p b := by
  cases p with
  | ctx id =>
    rintro ⟨r, none, -⟩
    cases none
  | line i =>
    rintro ⟨cl, line, member⟩
    rw [List.eq_of_mem_replicate (List.mem_of_getElem? (Option.mem_def.1 line))] at member
    exact absurd member List.not_mem_nil

/-- **Origin of a beacon**: whatever the calls and the responses of a run, a beacon of a request or
of a cacheline was added by a call of the run that accepted it, and has got there through the lists
of requests and cachelines that calls filled from each other. Unless the request has taken over a
cacheline since, the call was one on its own context, and the request has not been started again. -/
theorem beacon_origin (env : Env) (cacheSize : ℕ) (calls : List Call)
    (capacity : Along (World.step env) World.withinCapacity (World.start cacheSize) calls)
    (p : Place) (b : Beacon) (held : ((World.start cacheSize).run env calls).holds p b) :
    ∃ before call after id, calls = before ++ call :: after ∧
      ((World.start cacheSize).run env before).Scans call id b ∧
      Carried (World.step env) (World.flow env)
        (((World.start cacheSize).run env before).step env call) after (.ctx id) p ∧
      ∀ own, p = .ctx own →
        Along (World.step env) (fun w c => ∀ i, ¬ w.Restores c own i)
          (((World.start cacheSize).run env before).step env call) after →
        id = own ∧ Along (World.step env) (fun w c => ¬ w.Starts c own)
          (((World.start cacheSize).run env before).step env call) after := by
  have explained : Along (World.step env) (Explained (World.step env) (World.flow env) World.holds)
    (World.start cacheSize)
      calls :=
    @along_mono _ _ _ World.withinCapacity _ World.Dated _ _ (fun _ c dated fits =>
      World.step_dated env dated c fits)
      (World.start_dated cacheSize) capacity fun _ c dated _ => World.explained dated c
  obtain ⟨before, call, after, q, split, ⟨id, rfl, scans⟩, carried⟩ :=
    exists_put (World.start_holds cacheSize) explained held
  refine ⟨before, call, after, id, split, scans, carried, ?_⟩
  rintro own rfl alone
  have single :
      Along (World.step env) (fun w c => ∀ q, (w.flow env c).takes (.ctx own) q → q = .ctx own)
      (((World.start cacheSize).run env before).step env call) after := by
    refine @along_mono _ _ _ _ _ (fun _ => True) _ _ (fun _ _ _ _ => trivial) trivial alone ?_
    rintro w c - none q (⟨i, restores, -⟩ | ⟨-, -, same⟩)
    · exact absurd restores (none i)
    · exact same
  obtain ⟨same, kept⟩ := carried.stays single
  refine ⟨Place.ctx.inj same, @along_mono _ _ _ _ _ (fun _ => True) _ _ (fun _ _ _ _ => trivial)
    trivial kept ?_⟩
  rintro w c - (⟨i, -, other⟩ | ⟨starts, -, -⟩)
  · cases other
  · exact starts

/-- Two requests scan the same AP, with different strengths, and the second one takes over the
cacheline of the first. -/
def takenOverCalls : List Call :=
  [.openSession bareOpen, .newRequest 0 sizeofSkyRctx [] 1600000000,
    .onCtx 0 (.addBeacon (apCall 1 (-50)) 1600000000),
    .onCtx 0 (.decodeResponse ⟨7, 6, some ⟨0, 0, .success⟩, none, none⟩ SkyLocation.zero 1600000001
      1600000001),
    .newRequest 1 sizeofSkyRctx [] 1600000010, .onCtx 1 (.addBeacon (apCall 1 (-80)) 1600000010),
    .onCtx 1 (.searchCache SkyLocation.zero), .onCtx 1 (.sizeofRequestBuf [])]

theorem takenOverCalls_origin :
    ∃ b, ((World.start 1).run bareEnv takenOverCalls).holds (.ctx 1) b ∧ b.h.rssi = -50 ∧
      ∃ before call after id, takenOverCalls = before ++ call :: after ∧
        ((World.start 1).run bareEnv before).Scans call id b ∧
        Carried (World.step bareEnv) (World.flow bareEnv)
          (((World.start 1).run bareEnv before).step bareEnv call) after
          (.ctx id) (.ctx 1) := by
  have facts : (((World.start 1).run bareEnv takenOverCalls).ctx 1).map
    (fun r => r.scans.map fun b => b.h.rssi) =
      some [-50] := by decide +kernel
  obtain ⟨r, member, scans⟩ := Option.map_eq_some_iff.1 facts
  obtain ⟨b, here, rssi⟩ := List.mem_map.1 (scans ▸ List.mem_singleton_self (-50))
  have held : ((World.start 1).run bareEnv takenOverCalls).holds (.ctx 1) b := ⟨r, member, here⟩
  obtain ⟨before, call, after, id, split, added, carried, -⟩ :=
    beacon_origin bareEnv 1 takenOverCalls (by decide +kernel) (.ctx 1) b held
  exact ⟨b, held, rssi, before, call, after, id, split, added, carried⟩

end EmbeddedClient
