import EmbeddedClient.Cache.Identical
import EmbeddedClient.Session.Quiet

/-!
# A located list is found again

A response that locates the device stores the list of the request in a cacheline.
The next request clears lines by the configuration and by age, and its search
compares the ratio strictly with a threshold: a list is found again unless one of
these turns its line away.
-/

namespace EmbeddedClient

open FirstMax

theorem Binary32.round_nonpos {x : ℚ} (nonpos : x ≤ 0) : Binary32.round x ≤ 0 := by
  have error := (abs_le.1 (Binary32.abs_round_sub_le x)).2
  rw [abs_of_nonpos nonpos] at error
  linarith

theorem passes_one_iff (t : ℤ) : Passes 1 t ↔ t < 100 := by
  have hundred : Binary32.round (1 * 100) = 100 := by
    rw [one_mul]
    exact_mod_cast Binary32.round_natCast (n := 100) (by decide)
  unfold Passes
  rw [hundred]
  constructor
  · intro less
    by_contra large
    have mono := Binary32.round_mono (x := 100) (y := t) (by norm_num)
        (by exact_mod_cast not_lt.1 large)
    rw [← one_mul (100 : ℚ), hundred] at mono
    exact absurd less mono.not_gt
  · intro less
    rcases le_or_gt t 0 with nonpos | pos
    · have rounded := Binary32.round_nonpos (x := t) (by exact_mod_cast nonpos)
      linarith
    · have small : Binary32.round ((99 : ℕ) : ℚ) = (99 : ℕ) := Binary32.round_natCast (by decide)
      have mono := Binary32.round_mono (x := t) (y := (99 : ℕ)) (by exact_mod_cast pos.le)
        (by exact_mod_cast Int.le_sub_one_of_lt less)
      rw [small] at mono
      push_cast at mono
      linarith

variable {distance : Distance} {s : SkySctx} {r r' : SkyRctx} {cl : SkyCacheline}

def lineScore (s : SkySctx) (r : SkyRctx) (cl : SkyCacheline) : ℚ × ℤ :=
  if r.numAp ≠ 0 then ApPlugin.score s r cl else CellPlugin.score s r cl

theorem offered_iff :
    Offered distance s r ↔ ∃ cl ∈ s.lines, cl.Eligible distance s r ∧
      0 < (lineScore s r cl).1 ∧ Passes (lineScore s r cl).1 (lineScore s r cl).2 := by
  have offer : offers distance s r =
      s.lines.map fun cl => if cl.Eligible distance s r then some (lineScore s r cl) else none := by
    unfold offers lineScore
    split_ifs <;> rfl
  unfold Offered
  rw [offer]
  constructor
  · rintro ⟨value, threshold, offered, pos, passes⟩
    obtain ⟨cl, member, eq⟩ := List.mem_map.1 offered
    split_ifs at eq with eligible
    rw [Option.some.injEq] at eq
    refine ⟨cl, member, eligible, ?_, ?_⟩
    · rw [eq]
      exact pos
    · rw [eq]
      exact passes
  · rintro ⟨cl, member, eligible, pos, passes⟩
    exact ⟨_, _, List.mem_map.2 ⟨cl, member, if_pos eligible⟩, pos, passes⟩

/-- The threshold that a full ratio is compared with lets it pass: few APs, where it
is 99, or a configured threshold below 100. -/
def SkyConfig.FullMatchPasses (c : SkyConfig) (r : SkyRctx) : Prop :=
  (r.numAp ≠ 0 ∧ ApPlugin.countUniqVg r ≤ c.cacheBeaconThreshold.toNat) ∨
    c.cacheMatchAllThreshold.toInt32.toInt < 100

/-- A line with the beacons of the request is good enough unless the threshold or a
GSM neighbour cell stands against it. -/
theorem lineScore_passes_iff (plugins : s.plugins = skyRegisterPlugins) (same : cl.Repeats r)
    (filled : cl.time ≠ CACHE_EMPTY) :
    (0 < (lineScore s r cl).1 ∧ Passes (lineScore s r cl).1 (lineScore s r cl).2) ↔
      s.config.FullMatchPasses r ∧ (r.numAp = 0 → ∀ b ∈ r.live, b.isGsmNmr = false) := by
  unfold lineScore SkyConfig.FullMatchPasses
  by_cases aps : r.numAp ≠ 0
  · rw [if_pos aps, same.score aps]
    simp only [zero_lt_one, true_and, passes_one_iff, aps, IsEmpty.forall_iff, and_true]
    unfold ApPlugin.threshold
    split_ifs with few
    · simp [few, aps]
    · simp [few]
  · rw [not_not] at aps
    have cells := same.countCachedCells_eq_iff filled
    rw [aps, List.drop_zero] at cells
    rw [if_neg (by simp [aps])]
    unfold CellPlugin.score
    rw [plugins, aps]
    by_cases all : CellPlugin.countCachedCells skyRegisterPlugins r cl = numCells r.numBeacons 0
    · have noGsm := cells.1 all
      simp only [if_pos all, zero_lt_one, true_and, passes_one_iff, ne_eq, not_true, false_and,
        false_or, forall_const]
      exact ⟨fun passes => ⟨passes, noGsm⟩, fun ⟨passes, _⟩ => passes⟩
    · simp only [if_neg all, lt_irrefl, false_and, false_iff, not_and, forall_const]
      intro _ noGsm
      exact all (cells.2 noGsm)

theorem findOldestLoop_lt {n : ℕ} (i : ℕ) (oldest : ℤ) (oldestc : ℕ) (lines : List SkyCacheline)
    (before : oldestc < n) (range : i + lines.length ≤ n) :
    findOldestLoop i oldest oldestc lines < n := by
  induction lines generalizing i oldest oldestc with
  | nil => exact before
  | cons cl cls ih =>
    rw [List.length_cons] at range
    unfold findOldestLoop
    split_ifs
    · omega
    · exact ih (i + 1) cl.time i (by omega) (by omega)
    · exact ih (i + 1) oldest oldestc before (by omega)

theorem findOldest_lt (s : SkySctx) (r : SkyRctx) (lines : s.cacheline ≠ []) :
    findOldest s r < s.cacheline.length := by
  have pos := List.length_pos_of_ne_nil lines
  unfold findOldest
  split_ifs
  · exact pos
  · exact findOldestLoop_lt 0 _ 0 s.cacheline pos (by omega)

def SkyCacheline.store (r : SkyRctx) (loc : SkyLocation) (cl : SkyCacheline) : SkyCacheline :=
  { numBeacons := r.numBeacons, numAp := r.numAp, time := loc.time, gnss := r.gnss, loc := loc,
    beacon := r.live ++ cl.beacon.drop r.numBeacons }

/-- The session has stored the list of the request at time `t`. -/
structure SkySctx.Stored (s : SkySctx) (r : SkyRctx) (t : ℤ) (stored : SkySctx) : Prop where
  openFlag : stored.openFlag = s.openFlag
  plugins : stored.plugins = s.plugins
  numCachelines : stored.numCachelines = s.numCachelines
  backoff : stored.backoff = .none
  cacheline : ∃ (i : ℕ) (r' : SkyRctx) (loc : SkyLocation), i < s.cacheline.length ∧
    SameList r r' ∧ loc.time = t ∧
    stored.cacheline = s.cacheline.modify i (SkyCacheline.store r' loc)

def SkySctx.storePlace (s : SkySctx) (r : SkyRctx) : ℕ :=
  if r.saveTo < 0 then findOldest s r else r.saveTo.toNat

theorem storePlace_lt (lines : s.cacheline ≠ []) (place : r.saveTo < s.cacheline.length) :
    s.storePlace r < s.cacheline.length := by
  unfold SkySctx.storePlace
  split_ifs
  · exact findOldest_lt s r lines
  · omega

theorem skyPluginAddToCache_located (loc : SkyLocation) (located : loc.locationStatus = .success)
    (recent : TIMESTAMP_2019_03_01 < loc.time) (s : SkySctx) (r : SkyRctx) :
    (skyPluginAddToCache skyRegisterPlugins s r loc).2 =
      { s with cacheline := s.cacheline.modify (s.storePlace r) (SkyCacheline.store r loc) } := by
  have stored : ApPlugin.toCache s r loc = (.success,
      { s with cacheline := s.cacheline.modify (s.storePlace r) (SkyCacheline.store r loc) }) := by
    unfold ApPlugin.toCache
    rw [if_neg (by omega)]
    dsimp only
    rw [if_neg (not_not.2 located)]
    rfl
  rw [skyRegisterPlugins, skyPluginAddToCache, stored]

theorem reportLocation_located {loc : SkyLocation} {now : ℤ}
    (answered : (reportLocation s r loc now).errno = .none) :
    loc.locationStatus = .success ∧ (reportLocation s r loc now).sctx =
      (skyPluginAddToCache s.plugins { s with backoff := .none } r { loc with time := now }).2 := by
  unfold reportLocation at answered ⊢
  cases status : loc.locationStatus with
  | success => exact ⟨rfl, rfl⟩
  | authError =>
    rw [status] at answered
    cases auth : r.authState <;> rw [auth] at answered
    · cases answered
    · cases backoff : s.backoff <;> simp [backoff, SkyErrno.nextBackoff] at answered
    · cases answered
  | _ =>
    rw [status] at answered
    cases answered

theorem storePlace_congr {s' : SkySctx} {r' : SkyRctx} (lines : s'.cacheline = s.cacheline)
    (header : r'.header = r.header) (saveTo : r'.saveTo = r.saveTo) :
    s'.storePlace r' = s.storePlace r := by
  unfold SkySctx.storePlace findOldest SkySctx.cacheSize
  rw [lines, header, saveTo]

/-- A response that locates the device is recorded in the line of the request. -/
structure SkySctx.Records (s : SkySctx) (r : SkyRctx) (d : DecodeResult) : Prop where
  openFlag : d.sctx.openFlag = s.openFlag
  plugins : d.sctx.plugins = s.plugins
  numCachelines : d.sctx.numCachelines = s.numCachelines
  backoff : d.sctx.backoff = .none
  list : SameList (validateRequestCtx r).2 d.rctx
  cacheline : d.sctx.cacheline =
    s.cacheline.modify (s.storePlace r) (SkyCacheline.store d.rctx d.loc)

theorem reportLocation_records {loc : SkyLocation} {t : ℤ}
    (plugins : s.plugins = skyRegisterPlugins) (recent : TIMESTAMP_2019_03_01 < t)
    (answered : (reportLocation s r loc t).errno = .none) :
    let d := reportLocation s r loc t
    d.sctx.openFlag = s.openFlag ∧ d.sctx.plugins = s.plugins ∧
      d.sctx.numCachelines = s.numCachelines ∧ d.sctx.backoff = .none ∧ d.rctx = r ∧
      d.loc = { loc with time := t } ∧
      d.sctx.cacheline = s.cacheline.modify (s.storePlace r) (SkyCacheline.store r d.loc) := by
  intro d
  obtain ⟨located, sctx⟩ := reportLocation_located answered
  have reported : d.loc = { loc with time := t } := by
    unfold d reportLocation
    rw [located]
  have written (u : SkySctx) : (skyPluginAddToCache s.plugins u r { loc with time := t }).2 =
      { u with
        cacheline := u.cacheline.modify (u.storePlace r)
          (SkyCacheline.store r { loc with time := t }) } := by
    rw [plugins]
    exact skyPluginAddToCache_located { loc with time := t } located recent u r
  rw [written] at sctx
  refine ⟨(congrArg SkySctx.openFlag sctx :), (congrArg SkySctx.plugins sctx :),
    (congrArg SkySctx.numCachelines sctx :), (congrArg SkySctx.backoff sctx :),
    reportLocation_rctx s r loc t, reported, ?_⟩
  rw [reported]
  exact (congrArg SkySctx.cacheline sctx :)

theorem skyDecodeResponse_records {bits : ℕ} {loc : SkyLocation} {resp : Response} {now t : ℤ}
    (plugins : s.plugins = skyRegisterPlugins) (recent : TIMESTAMP_2019_03_01 < t)
    (answered : (skyDecodeResponse bits s r loc resp now t).errno = .none) :
    s.Records r (skyDecodeResponse bits s r loc resp now t) ∧
      (skyDecodeResponse bits s r loc resp now t).loc.time = t := by
  have outcome := skyDecodeResponse_outcome bits s r loc resp now t
  generalize skyDecodeResponse bits s r loc resp now t = decoded at answered outcome ⊢
  cases outcome with
  | rejected errno loc turned =>
    rcases turned with eq | eq | eq <;> rw [eq] at answered <;> cases answered
  | undecoded loc valid ctx => cases answered
  | decoded s' s'' r' loc status rs cacheHits valid ctx same auth =>
    have located := (reportLocation_located answered).1
    have unchanged : s'' = s' ∧ SameList (validateRequestCtx r).2 r' := by
      cases auth with
      | refused auth token => cases located
      | granted auth token => cases located
      | revoked auth denied => cases located
      | disabled auth denied => cases located
      | located auth answered' =>
        exact ⟨rfl, (applyLocation_rctx s' _ (.start status) rs).1⟩
    obtain ⟨rfl, list⟩ := unchanged
    have registered : SkySctx.plugins { s'' with cacheHits := cacheHits } = skyRegisterPlugins :=
      same.session.plugins.trans plugins
    obtain ⟨openFlag, plugins', numCachelines, backoff, rctx, reported, cacheline⟩ :=
      reportLocation_records registered recent answered
    have place : SkySctx.storePlace { s'' with cacheHits := cacheHits } r' = s.storePlace r := by
      obtain ⟨bs, rest⟩ := validateRequestCtx_rest r
      apply storePlace_congr same.cacheline
      · rw [list.header, rest]
      · rw [list.saveTo, rest]
    refine ⟨⟨openFlag.trans same.session.openFlag, plugins'.trans same.session.plugins,
      numCachelines.trans same.session.numCachelines, backoff, ?_, ?_⟩, ?_⟩
    · rwa [rctx]
    · rw [cacheline, place, rctx]
      exact congrArg (List.modify · _ _) same.cacheline
    · rw [reported]

theorem skyDecodeResponse_stored {bits : ℕ} {loc : SkyLocation} {resp : Response} {now t : ℤ}
    (plugins : s.plugins = skyRegisterPlugins) (lines : s.cacheline ≠ [])
    (place : r.saveTo < s.cacheline.length) (recent : TIMESTAMP_2019_03_01 < t)
    (answered : (skyDecodeResponse bits s r loc resp now t).errno = .none) :
    s.Stored (validateRequestCtx r).2 t (skyDecodeResponse bits s r loc resp now t).sctx := by
  obtain ⟨records, time⟩ := skyDecodeResponse_records plugins recent answered
  exact ⟨records.openFlag, records.plugins, records.numCachelines, records.backoff, _, _, _,
    storePlace_lt lines place, records.list, time, records.cacheline⟩

/-- A line with these counters, stored `age` seconds ago, survives the clearing at the
start of a request. -/
structure SkyConfig.Keeps (c : SkyConfig) (r : SkyRctx) (age : ℤ) : Prop where
  aps : r.numAp ≤ c.maxApBeacons.toNat
  beacons : r.numBeacons ≤ c.totalBeacons.toNat
  recent : age ≤ c.ageLimit

section Renew

variable {c : SkyConfig} {loc : SkyLocation} {now : ℤ}

theorem SkyCacheline.renew_store (keeps : c.Keeps r (now - loc.time))
    (recent : TIMESTAMP_2019_03_01 < loc.time) (order : loc.time ≤ now) :
    (cl.store r loc).renew c now = cl.store r loc := by
  have clock : now ≠ TIME_UNAVAILABLE := by
    simp only [TIMESTAMP_2019_03_01, TIME_UNAVAILABLE] at recent ⊢
    omega
  have fits : ¬ (c.maxApBeacons.toNat < (cl.store r loc).numAp ∨
      c.totalBeacons.toNat < (cl.store r loc).numBeacons) :=
    not_or.2 ⟨not_lt.2 keeps.aps, not_lt.2 keeps.beacons⟩
  unfold SkyCacheline.renew
  dsimp only
  rw [if_neg fits, if_neg (fun late => clock late.2), if_neg
    (fun old => not_lt.2 keeps.recent old.2)]

theorem SkyCacheline.renew_store_time (lost : ¬ c.Keeps r (now - loc.time)) :
    ((cl.store r loc).renew c now).time = CACHE_EMPTY := by
  unfold SkyCacheline.renew
  dsimp only
  by_cases fits : c.maxApBeacons.toNat < (cl.store r loc).numAp ∨
      c.totalBeacons.toNat < (cl.store r loc).numBeacons
  · rw [if_pos fits]
    split_ifs <;> rfl
  · rw [if_neg fits]
    obtain ⟨aps, beacons⟩ := not_or.1 fits
    split_ifs with unknown old
    · rfl
    · rfl
    · by_contra filled
      refine lost ⟨not_lt.1 aps, not_lt.1 beacons, ?_⟩
      by_contra late
      exact old ⟨filled, not_le.1 late⟩

theorem SkyCacheline.renew_cleared (c : SkyConfig) (now : ℤ) :
    (SkyCacheline.cleared.renew c now).time = CACHE_EMPTY := by
  unfold SkyCacheline.renew
  dsimp only
  split_ifs <;> rfl

theorem skyNewRequest_lines {stored : SkySctx} (opened : stored.openFlag = true)
    (backoff : stored.backoff = .none) (recent : TIMESTAMP_2019_03_01 ≤ now)
    (ulAppData : List UInt8) :
    (skyNewRequest sizeofSkyRctx stored ulAppData now).sctx =
      { stored with
        cacheline := stored.cacheline.map (SkyCacheline.renew stored.config now)
        ulAppData := ulAppData } := by
  have start : startTime now = now := if_neg (by omega)
  have allowed : backoffViolation stored (startTime now) = false := by
    unfold backoffViolation
    rw [backoff]
  unfold skyNewRequest
  rw [if_neg (by simp), if_neg (by simp [opened]), allowed, start]
  rfl

end Renew

/-- A later request that repeats the list of `r` and has no position. -/
structure SkyRctx.Revisits (r' r : SkyRctx) (now : ℤ) : Prop where
  valid : (validateRequestCtx r').1 = true
  time : (r'.header.time.toNat : ℤ) = now
  numAp : r'.numAp = r.numAp
  numBeacons : r'.numBeacons = r.numBeacons
  live : r'.live.map Beacon.scan = r.live.map Beacon.scan
  gnss : r'.gnss.present = false

/-- With configuration `c`, whatever else the cache holds: when a response stores the
list of `r` at time `t`, a request at time `now` with the same list is a cache hit. -/
def RoundTrips (distance : Distance) (bits : ℕ) (c : SkyConfig) (r : SkyRctx) (t now : ℤ) : Prop :=
  ∀ (s : SkySctx) (loc : SkyLocation) (resp : Response) (clock : ℤ) (ulAppData : List UInt8)
    (r' : SkyRctx) (loc' : SkyLocation),
    s.openFlag = true → s.plugins = skyRegisterPlugins → s.cacheline ≠ [] →
    s.numCachelines = s.cacheline.length → r.saveTo < s.cacheline.length →
    (skyDecodeResponse bits s r loc resp clock t).errno = .none →
    (skyDecodeResponse bits s r loc resp clock t).sctx.config = c →
    r'.Revisits r now →
    (skySearchCache distance
      (skyNewRequest sizeofSkyRctx (skyDecodeResponse bits s r loc resp clock t).sctx
        ulAppData now).sctx
      r' loc').cacheHit = some true

/-- The condition for a round trip: the line survives until the next request, a full
match passes the threshold, and a list without APs has no GSM neighbour cell. -/
structure SkyConfig.Finds (c : SkyConfig) (r : SkyRctx) (age : ℤ) : Prop extends c.Keeps r age where
  passes : c.FullMatchPasses r
  cells : r.numAp = 0 → ∀ b ∈ r.live, b.isGsmNmr = false

section Revisit

variable {r₁ : SkyRctx} {loc : SkyLocation} {now : ℤ}

theorem SkyRctx.Revisits.accepted (again : r'.Revisits r now) (good : r.WellFormed) :
    ∀ b ∈ r'.live, b.Accepted := by
  obtain ⟨-, l, holds⟩ := good
  refine BeaconList.forall_of_map_scan (fun same accepted => accepted.congr same) again.live ?_
  rw [holds.live]
  exact l.accepted

theorem SkyRctx.Revisits.repeats (again : r'.Revisits r now) (good : r.WellFormed)
    (same : SameList r r₁) : (cl.store r₁ loc).Repeats r' := by
  have accepted := again.accepted good
  obtain ⟨-, l, holds⟩ := good
  have full : r.live.length = r.numBeacons := by rw [holds.live, holds.numBeacons]
  have length : r₁.live.length = r₁.numBeacons := by
    have scans := congrArg List.length same.live
    rw [List.length_map, List.length_map] at scans
    rw [scans, full, same.numBeacons]
  have live : (cl.store r₁ loc).live = r₁.live := by
    show (r₁.live ++ cl.beacon.drop r₁.numBeacons).take r₁.numBeacons = r₁.live
    rw [← length, List.take_left]
  constructor
  · rw [again.numAp]
    exact same.numAp
  · rw [again.numBeacons]
    exact same.numBeacons
  · rw [live, same.live, again.live]
  · have scans := congrArg List.length again.live
    rw [List.length_map, List.length_map] at scans
    rw [scans, full, again.numBeacons]
  · rw [again.numAp, again.numBeacons]
    exact holds.numAp_le
  · exact (validateRequestCtx_bound again.valid).1
  · exact accepted
  · have scans : (r'.live.drop r'.numAp).map Beacon.scan = l.cells.map Beacon.scan := by
      rw [again.numAp, List.map_drop, again.live, ← List.map_drop, holds.live, holds.numAp,
        BeaconList.all, List.drop_left]
    refine BeaconList.forall_of_map_scan (fun {a b} eq cell => ?_) scans l.isCellType
    rw [← Beacon.scan_isCellType, ← eq, Beacon.scan_isCellType] at *
    exact cell

theorem SkyRctx.Revisits.passes_iff (again : r'.Revisits r now) (good : r.WellFormed)
    (c : SkyConfig) :
    (c.FullMatchPasses r' ∧ (r'.numAp = 0 → ∀ b ∈ r'.live, b.isGsmNmr = false)) ↔
      c.FullMatchPasses r ∧ (r.numAp = 0 → ∀ b ∈ r.live, b.isGsmNmr = false) := by
  have order : r.numAp ≤ r.numBeacons := by
    obtain ⟨-, l, holds⟩ := good
    exact holds.numAp_le
  have byScan (bs : List Beacon) :
      bs.map (fun b => b.ap.mac) = (bs.map Beacon.scan).map fun b => b.ap.mac := by
    rw [List.map_map]
    rfl
  have apsOf (r₂ : SkyRctx) (le : r₂.numAp ≤ r₂.numBeacons) : r₂.aps = r₂.live.take r₂.numAp := by
    rw [SkyRctx.aps, SkyRctx.live, List.take_take, Nat.min_eq_left le]
  have macs : r'.aps.map (fun b => b.ap.mac) = r.aps.map fun b => b.ap.mac := by
    rw [byScan r'.aps, byScan r.aps, apsOf r order,
      apsOf r' (by rw [again.numAp, again.numBeacons]; exact order),
      List.map_take (f := Beacon.scan), List.map_take (f := Beacon.scan), again.live, again.numAp]
  have groups : ApPlugin.countUniqVg r' = ApPlugin.countUniqVg r :=
    ApPlugin.countUniq_congr rfl macs
  have gsm {a b : Beacon} (same : a.scan = b.scan)
      (no : a.isGsmNmr = false) : b.isGsmNmr = false := by
    have eq : a.scan.isGsmNmr = b.scan.isGsmNmr := by rw [same]
    exact eq.symm.trans no
  unfold SkyConfig.FullMatchPasses
  rw [groups, again.numAp]
  refine and_congr Iff.rfl (forall_congr' fun _ => ⟨fun none => ?_, fun none => ?_⟩)
  · exact BeaconList.forall_of_map_scan gsm again.live.symm none
  · exact BeaconList.forall_of_map_scan gsm again.live none

theorem SkyRctx.Revisits.offers_iff {c : SkyConfig} {s : SkySctx} (again : r'.Revisits r now)
    (good : r.WellFormed) (same : SameList r r₁) (plugins : s.plugins = skyRegisterPlugins)
    (config : s.config = c) (recent : TIMESTAMP_2019_03_01 < loc.time) (order : loc.time ≤ now) :
    (((cl.store r₁ loc).renew c now).Eligible distance s r' ∧
        0 < (lineScore s r' ((cl.store r₁ loc).renew c now)).1 ∧
        Passes (lineScore s r' ((cl.store r₁ loc).renew c now)).1
          (lineScore s r' ((cl.store r₁ loc).renew c now)).2) ↔
      c.Finds r (now - loc.time) := by
  have keepsR : c.Keeps r₁ (now - loc.time) ↔ c.Keeps r (now - loc.time) := by
    constructor
    · rintro ⟨aps, beacons, age⟩
      exact ⟨by rwa [same.numAp] at aps, by rwa [same.numBeacons] at beacons, age⟩
    · rintro ⟨aps, beacons, age⟩
      exact ⟨by rwa [same.numAp], by rwa [same.numBeacons], age⟩
  by_cases keeps : c.Keeps r (now - loc.time)
  · have repeats : (cl.store r₁ loc).Repeats r' := again.repeats good same
    have filled : (cl.store r₁ loc).time ≠ CACHE_EMPTY := by
      show loc.time ≠ 0
      simp only [TIMESTAMP_2019_03_01] at recent
      omega
    have eligible : (cl.store r₁ loc).Eligible distance s r' := by
      refine ⟨filled, ?_, ?_, ?_⟩
      · rw [again.time, config]
        exact keeps.recent
      · rw [plugins]
        exact repeats.servingCell
      · unfold cachedGnssWorse
        rw [again.gnss]
        rfl
    rw [SkyCacheline.renew_store (keepsR.2 keeps) recent order,
      lineScore_passes_iff plugins repeats filled, config, again.passes_iff good c]
    constructor
    · rintro ⟨-, passes, cells⟩
      exact ⟨keeps, passes, cells⟩
    · intro finds
      exact ⟨eligible, finds.passes, finds.cells⟩
  · apply iff_of_false
    · rintro ⟨eligible, -⟩
      exact eligible.filled (SkyCacheline.renew_store_time (mt keepsR.1 keeps))
    · intro finds
      exact keeps finds.toKeeps

end Revisit

theorem numCells_ne_zero {n k : ℕ} (order : k ≤ n) (small : n ≤ TOTAL_BEACONS + 1) (some_ : n ≠ 0) :
    k ≠ 0 ∨ numCells n k ≠ 0 := by
  unfold numCells
  simp only [TOTAL_BEACONS] at small
  omega

section Search

variable {c : SkyConfig} {now t : ℤ} {loc loc' : SkyLocation}

theorem SkyRctx.Revisits.report {s : SkySctx} (again : r'.Revisits r now) (good : r.WellFormed)
    (beacons : r.numBeacons ≠ 0) (recent : TIMESTAMP_2019_03_01 ≤ now)
    (plugins : s.plugins = skyRegisterPlugins) (filled : ¬ s.numCachelines < 1) :
    (Offered distance s r' → (skySearchCache distance s r' loc').cacheHit = some true) ∧
      (¬ Offered distance s r' → r'.hit = false →
        (skySearchCache distance s r' loc').cacheHit = some false) := by
  have ctx : (validateRequestCtx r').2 = r' := validateRequestCtx_snd (again.accepted good)
  have some_ : r'.numAp ≠ 0 ∨ numCells r'.numBeacons r'.numAp ≠ 0 := by
    have small := (validateRequestCtx_bound again.valid).1
    obtain ⟨-, l, holds⟩ := good
    rw [again.numBeacons] at small
    rw [again.numAp, again.numBeacons]
    exact numCells_ne_zero holds.numAp_le small beacons
  have hit :=
    searchCache_isCacheHit distance plugins (by rw [again.time]; exact recent) filled some_
  rw [skySearchCache_cacheHit again.valid, ctx]
  constructor
  · intro offered
    rw [hit.1 offered]
  · intro none miss
    rw [hit.2 none miss]

theorem roundTrips_of_finds {bits : ℕ} (good : r.WellFormed) (beacons : r.numBeacons ≠ 0)
    (recent : TIMESTAMP_2019_03_01 < t) (order : t ≤ now) (finds : c.Finds r (now - t)) :
    RoundTrips distance bits c r t now := by
  intro s loc resp clock ulAppData r' loc' opened plugins lines all place answered config again
  have stored := skyDecodeResponse_stored plugins lines place recent answered
  rw [good.validateRequestCtx] at stored
  generalize (skyDecodeResponse bits s r loc resp clock t).sctx = after at stored config ⊢
  obtain ⟨i, r₁, loc₁, range, same, time, cacheline⟩ := stored.cacheline
  rw [skyNewRequest_lines (by rw [stored.openFlag, opened]) stored.backoff (by omega), config]
  have member : ((s.cacheline[i].store r₁ loc₁).renew c now) ∈
      after.cacheline.map (SkyCacheline.renew c now) := by
    apply List.mem_map_of_mem
    rw [cacheline]
    apply List.mem_of_getElem? (i := i)
    rw [List.getElem?_modify_eq, List.getElem?_eq_getElem range]
    rfl
  have inLines : ((s.cacheline[i].store r₁ loc₁).renew c now) ∈ SkySctx.lines
      { after with
        cacheline := after.cacheline.map (SkyCacheline.renew c now), ulAppData := ulAppData } := by
    unfold SkySctx.lines
    dsimp only
    rw [stored.numCachelines, all, Int.toNat_natCast, List.take_of_length_le]
    · exact member
    · rw [List.length_map, cacheline, List.length_modify]
  refine (again.report good beacons (by omega) ?_ ?_).1 ?_
  · exact stored.plugins.trans plugins
  · show ¬ after.numCachelines < 1
    have pos := List.length_pos_of_ne_nil lines
    rw [stored.numCachelines, all]
    omega
  · refine offered_iff.2 ⟨_, inLines, ?_⟩
    refine (again.offers_iff good same ?_ rfl ?_ ?_).2 ?_
    · exact stored.plugins.trans plugins
    · rw [time]
      exact recent
    · rw [time]
      exact order
    · rw [time]
      exact finds

def SkySctx.clearedWith (c : SkyConfig) (cacheSize : ℕ) : SkySctx :=
  { SkySctx.initialized cacheSize 0 with
    config := c, openFlag := true, plugins := skyRegisterPlugins }

theorem validateSessionCtx_clearedWith (c : SkyConfig) (cacheSize : ℕ) :
    validateSessionCtx (SkySctx.clearedWith c cacheSize) = true := by
  have line : validateCacheline SkyCacheline.cleared = true := by decide
  have lines : (SkySctx.clearedWith c cacheSize).lines.all validateCacheline = true := by
    rw [List.all_eq_true]
    intro cl member
    have inCache : cl ∈ List.replicate cacheSize SkyCacheline.cleared := List.mem_of_mem_take member
    rw [List.eq_of_mem_replicate inCache]
    exact line
  have size : (SkySctx.clearedWith c cacheSize).cacheSize = cacheSize := List.length_replicate
  unfold validateSessionCtx
  rw [lines, size]
  simp [SkySctx.clearedWith, SkySctx.initialized, SkyHeader.seal, SkyHeader.checksum]

def Response.located : Response := ⟨7, 6, some ⟨0, 0, .success⟩, none, none⟩

theorem skyDecodeResponse_located {bits : ℕ} {s : SkySctx} {clock : ℤ} (good : r.WellFormed)
    (valid : (validateRequestCtx r).1 = true) (session : validateSessionCtx s = true)
    (auth : r.authState ≠ .unregistered) :
    (skyDecodeResponse bits s r loc .located clock t).errno = .none ∧
      (skyDecodeResponse bits s r loc .located clock t).sctx.config = s.config := by
  have ctx : validateRequestCtx r = (true, r) := Prod.ext valid good.validateRequestCtx
  have finished : deserializeResponse bits (s.stamp clock) r loc .located =
      finishResponse (s.stamp clock) r (.start .success) .success Rs.initDefault
        [Response.located.headerRange] := rfl
  have located : applyAuthState (s.stamp clock) r (.start .success) .success Rs.initDefault =
      (s.stamp clock, applyLocation (s.stamp clock) r (.start .success) Rs.initDefault) := by
    unfold applyAuthState
    cases state : r.authState with
    | unregistered => exact absurd state auth
    | registered => rfl
    | disabled => rfl
  have decoded : skyDecodeResponse bits s r loc .located clock t =
      reportLocation
        (if r.isCacheMiss then { s.stamp clock with cacheHits := 0 } else s.stamp clock)
        (applyLocation (s.stamp clock) r (.start .success) Rs.initDefault).1
        (applyLocation (s.stamp clock) r (.start .success) Rs.initDefault).2 t := by
    have miss : (applyLocation (s.stamp clock) r (.start .success) Rs.initDefault).1.isCacheMiss =
        r.isCacheMiss := by
      unfold SkyRctx.isCacheMiss
      rw [(applyLocation_rctx (s.stamp clock) r (.start .success) Rs.initDefault).1.hit]
    have whole : Response.located.bufLen ≠ 0 := by decide
    unfold skyDecodeResponse
    rw [ctx]
    dsimp only
    rw [if_neg (by decide), if_neg whole, if_neg (by simp [session])]
    unfold finishResponse at finished
    rw [located] at finished
    unfold SkySctx.stamp at finished miss ⊢
    rw [finished]
    dsimp only
    rw [if_neg (by decide), miss]
  rw [decoded]
  constructor
  · rfl
  · rcases skyPluginAddToCache_sctx
      (if r.isCacheMiss then { s.stamp clock with cacheHits := 0 } else s.stamp clock).plugins
      { (if r.isCacheMiss then { s.stamp clock with cacheHits := 0 } else s.stamp clock) with
        backoff := .none }
      (applyLocation (s.stamp clock) r (.start .success) Rs.initDefault).1
      { (applyLocation (s.stamp clock) r (.start .success) Rs.initDefault).2 with time := t } with
      ⟨cacheline, added⟩
    show (skyPluginAddToCache _ _ _ _).2.config = s.config
    rw [added]
    dsimp only
    split_ifs <;> rfl

def SkyRctx.revisit (r : SkyRctx) (now : ℤ) : SkyRctx :=
  { r with
    header := SkyHeader.seal ⟨SKY_MAGIC, sizeofSkyRctx, timeWord now, 0⟩
    gnss := { Gnss.zero with lat := .nan }
    hit := false }

theorem revisits_revisit (good : r.WellFormed) (valid : (validateRequestCtx r).1 = true)
    (nonneg : 0 ≤ now) (small : now < 2 ^ 32) : (r.revisit now).Revisits r now := by
  have checked : r.Valid := by
    have left := SkyRctx.Valid.of_validateRequestCtx valid
    rwa [good.validateRequestCtx] at left
  have fresh : (r.revisit now).Valid :=
    ⟨⟨rfl, rfl⟩, checked.numBeacons, checked.numAp, checked.accepted, checked.usable⟩
  constructor
  · rw [fresh.validateRequestCtx]
  · show ((timeWord now).toNat : ℤ) = now
    exact toNat_timeWord nonneg small
  · rfl
  · rfl
  · rfl
  · rfl

theorem SkyRctx.Revisits.not_offered {next : SkySctx} {r₁ : SkyRctx} {n i : ℕ}
    (again : r'.Revisits r now) (good : r.WellFormed) (same : SameList r r₁)
    (plugins : next.plugins = skyRegisterPlugins)
    (cacheline : next.cacheline = ((List.replicate n SkyCacheline.cleared).modify i
      (SkyCacheline.store r₁ loc)).map (SkyCacheline.renew next.config now))
    (recent : TIMESTAMP_2019_03_01 < loc.time) (order : loc.time ≤ now)
    (lost : ¬ next.config.Finds r (now - loc.time)) : ¬ Offered distance next r' := by
  intro offered
  obtain ⟨cl, member, eligible, enough⟩ := offered_iff.1 offered
  have inCache : cl ∈ next.cacheline := List.mem_of_mem_take member
  rw [cacheline] at inCache
  obtain ⟨old, inOld, rfl⟩ := List.mem_map.1 inCache
  obtain ⟨j, rangeJ, rfl⟩ := List.getElem_of_mem inOld
  rw [List.getElem_modify, List.getElem_replicate] at eligible enough
  split_ifs at eligible enough with at_i
  · exact lost ((again.offers_iff good same plugins rfl recent order).1 ⟨eligible, enough⟩)
  · exact eligible.filled (SkyCacheline.renew_cleared next.config now)

/-- A round trip in a cache without other lists needs the condition. -/
theorem finds_of_roundTrips {bits : ℕ} (good : r.WellFormed)
    (valid : (validateRequestCtx r).1 = true) (located : r.authState ≠ .unregistered)
    (beacons : r.numBeacons ≠ 0) (recent : TIMESTAMP_2019_03_01 < t) (order : t ≤ now)
    (small : now < 2 ^ 32) (trips : RoundTrips distance bits c r t now) : c.Finds r (now - t) := by
  have after2019 : (0 : ℤ) ≤ TIMESTAMP_2019_03_01 := by decide
  let s := SkySctx.clearedWith c (r.saveTo.toNat + 1)
  have length : s.cacheline.length = r.saveTo.toNat + 1 := List.length_replicate
  have plugins : s.plugins = skyRegisterPlugins := rfl
  have lines : s.cacheline ≠ [] := List.ne_nil_of_length_pos (by omega)
  have all : s.numCachelines = s.cacheline.length := by
    rw [length]
    rfl
  have place : r.saveTo < s.cacheline.length := by omega
  have decoded : (skyDecodeResponse bits s r SkyLocation.zero .located 0 t).errno = .none ∧
      (skyDecodeResponse bits s r SkyLocation.zero .located 0 t).sctx.config = c :=
    skyDecodeResponse_located good valid
      (validateSessionCtx_clearedWith c (r.saveTo.toNat + 1)) located
  obtain ⟨answered, config⟩ := decoded
  have again : (r.revisit now).Revisits r now := revisits_revisit good valid (by omega) small
  have hit := trips s SkyLocation.zero .located 0 []
      (r.revisit now) SkyLocation.zero rfl plugins lines
    all place answered config again
  have stored := skyDecodeResponse_stored plugins lines place recent answered
  rw [good.validateRequestCtx] at stored
  generalize (skyDecodeResponse bits s r SkyLocation.zero .located 0 t).sctx = after
    at stored config hit
  rw [skyNewRequest_lines (by rw [stored.openFlag]; rfl) stored.backoff (by omega)] at hit
  generalize next_eq : ({ after with
      cacheline := after.cacheline.map (SkyCacheline.renew after.config now)
      ulAppData := [] } : SkySctx) = next at hit
  have registered : next.plugins = skyRegisterPlugins := by
    rw [← next_eq]
    exact stored.plugins.trans plugins
  have filled : ¬ next.numCachelines < 1 := by
    rw [← next_eq]
    show ¬ after.numCachelines < 1
    rw [stored.numCachelines, all, length]
    omega
  have configured : next.config = c := by
    rw [← next_eq]
    exact config
  obtain ⟨i, r₁, loc₁, range, same, time, cacheline⟩ := stored.cacheline
  by_contra lost
  have lines_eq : next.cacheline =
      ((List.replicate (r.saveTo.toNat + 1) SkyCacheline.cleared).modify i
        (SkyCacheline.store r₁ loc₁)).map (SkyCacheline.renew next.config now) := by
    rw [configured, ← next_eq, ← config]
    exact congrArg _ cacheline
  have none : ¬ Offered distance next (r.revisit now) := by
    apply again.not_offered good same registered lines_eq (by omega) (by omega)
    rw [configured, time]
    exact lost
  rw [(again.report good beacons (by omega) registered filled).2 none rfl] at hit
  exact absurd hit (by decide)

/-- For a list that holds a beacon and whose request can be located: whatever else the
cache holds, the list stored at time `t` is found at time `now`, exactly under the
condition. -/
theorem roundTrips_iff {bits : ℕ} (good : r.WellFormed)
    (valid : (validateRequestCtx r).1 = true) (located : r.authState ≠ .unregistered)
    (beacons : r.numBeacons ≠ 0) (recent : TIMESTAMP_2019_03_01 < t) (order : t ≤ now)
    (small : now < 2 ^ 32) :
    RoundTrips distance bits c r t now ↔ c.Finds r (now - t) := by
  constructor
  · exact finds_of_roundTrips good valid located beacons recent order small
  · exact roundTrips_of_finds good beacons recent order

end Search

def locateCalls : List Call := revisitCalls.take 3

theorem locateCalls_roundTrips :
    ∃ r, ((World.start 1).run bareEnv locateCalls).ctx 0 = some r ∧
      RoundTrips bareEnv.distance bareEnv.cipherBits SkyConfig.zero.defaults r 1600000001
        1600000010 := by
  have facts : (((World.start 1).run bareEnv locateCalls).ctx 0).map (fun r =>
      ((validateRequestCtx r).1, r.numAp, r.numBeacons, r.authState)) =
      some (true, 1, 1, .disabled) := by decide +kernel
  obtain ⟨r, member, eq⟩ := Option.map_eq_some_iff.1 facts
  simp only [Prod.mk.injEq] at eq
  obtain ⟨valid, aps, beacons, auth⟩ := eq
  have capacity : Runs.Along (World.step bareEnv) World.withinCapacity (World.start 1)
      locateCalls := by decide +kernel
  have good : r.WellFormed :=
    (World.run_wellFormed bareEnv (World.start_bounded 1).wellFormed capacity).ctx 0 r member
  refine ⟨r, member, (roundTrips_iff good valid ?_ (by omega) (by decide) (by decide)
    (by decide)).2 ⟨⟨?_, ?_, by decide⟩, .inr (by decide), ?_⟩⟩
  · rw [auth]
    decide
  · rw [aps]
    decide
  · rw [beacons]
    decide
  · intro none
    omega

def gsmNeighborCalls : List Call :=
  [.openSession bareOpen, .newRequest 0 sizeofSkyRctx [] 1600000000,
    .onCtx 0 (.addBeacon (.gsmNeighbor 5 20 (-80)) 1600000000)]

/-- Under the default configuration its list is stored and not found again. -/
theorem gsmNeighborCalls_not_roundTrips :
    ∃ r, ((World.start 1).run bareEnv gsmNeighborCalls).ctx 0 = some r ∧
      (validateRequestCtx r).1 = true ∧ r.numBeacons = 1 ∧ r.gnss.present = false ∧
      ¬ RoundTrips bareEnv.distance bareEnv.cipherBits
        ((World.start 1).run bareEnv gsmNeighborCalls).sctx.config r 1600000001 1600000010 := by
  have facts : (((World.start 1).run bareEnv gsmNeighborCalls).ctx 0).map (fun r =>
      ((validateRequestCtx r).1, r.numBeacons, r.gnss.present, r.saveTo)) =
      some (true, 1, false, -1) := by decide +kernel
  have search : (((World.start 1).run bareEnv gsmNeighborCalls).ctx 0).map (fun r =>
      let s := ((World.start 1).run bareEnv gsmNeighborCalls).sctx
      let d := skyDecodeResponse bareEnv.cipherBits s r SkyLocation.zero .located
        1600000001 1600000001
      (d.errno, d.sctx.config, (skySearchCache bareEnv.distance
        (skyNewRequest sizeofSkyRctx d.sctx [] 1600000010).sctx (r.revisit 1600000010)
        SkyLocation.zero).cacheHit)) =
      some (.none, ((World.start 1).run bareEnv gsmNeighborCalls).sctx.config, some false) := by
    decide +kernel
  obtain ⟨r, member, eq⟩ := Option.map_eq_some_iff.1 facts
  rw [member, Option.map_some, Option.some.injEq] at search
  simp only [Prod.mk.injEq] at eq search
  obtain ⟨valid, beacons, gnss, saveTo⟩ := eq
  obtain ⟨answered, config, missed⟩ := search
  have capacity : Runs.Along (World.step bareEnv) World.withinCapacity (World.start 1)
      gsmNeighborCalls := by decide +kernel
  have good : r.WellFormed :=
    (World.run_wellFormed bareEnv (World.start_bounded 1).wellFormed capacity).ctx 0 r member
  refine ⟨r, member, valid, beacons, gnss, ?_⟩
  intro trips
  have hit := trips _ SkyLocation.zero .located 1600000001 []
      (r.revisit 1600000010) SkyLocation.zero
    (by decide +kernel) (by decide +kernel) (by decide +kernel) (by decide +kernel)
    (by rw [saveTo]; decide +kernel) answered config
    (revisits_revisit good valid (by decide) (by decide))
  rw [missed] at hit
  exact absurd hit (by decide)

end EmbeddedClient
