import EmbeddedClient.Beacons.Equality
import EmbeddedClient.Cache.Scan
import EmbeddedClient.Session.Frame
import EmbeddedClient.Support.FirstMax

/-!
# The cache searches as first maxima

Both plugins scan the lines for the first one of the greatest ratio and compare that
ratio with a threshold. The lines that take part are the same for both; they differ
in the ratio and in what they do when no line is good enough.
-/

namespace EmbeddedClient

open FirstMax

def MatchScan.best (scan : MatchScan) : Best ℚ ℤ := ⟨scan.bestratio, scan.bestc, scan.bestthresh⟩

/-- The final comparison of a search. -/
def Passes (ratio : ℚ) (threshold : ℤ) : Prop :=
  Binary32.round threshold < Binary32.round (ratio * 100)

instance (ratio : ℚ) (threshold : ℤ) : Decidable (Passes ratio threshold) :=
  inferInstanceAs (Decidable (_ < _))

theorem MatchScan.accepts_iff (scan : MatchScan) :
    scan.accepts = true ↔ Passes scan.best.value scan.best.label := by
  simp [MatchScan.accepts, Passes, MatchScan.best]

theorem MatchScan.better_best (scan : MatchScan) (i : ℕ) (ratio : ℚ) (threshold : ℤ) :
    (scan.better i ratio threshold).best = scan.best.offer i (some (ratio, threshold)) := by
  unfold MatchScan.better Best.offer MatchScan.best
  dsimp only
  split_ifs <;> rfl

theorem MatchScan.offer_best (replaces : ℚ → ℚ → Bool) (scan : MatchScan) (i : ℕ)
    (o : Option (ℚ × ℤ)) :
    (scan.offer replaces i o).best = scan.best.offer i o := by
  cases o with
  | none => rfl
  | some score =>
    unfold MatchScan.offer
    rw [MatchScan.better_best]
    split_ifs <;> rfl

/-- Every scoring loop keeps the first best line. -/
theorem MatchScan.offers_best (replaces : ℚ → ℚ → Bool) (i : ℕ) (scan : MatchScan)
    (os : List (Option (ℚ × ℤ))) :
    (offers replaces i scan os).best = scan.best.scan i os := by
  induction os generalizing scan i with
  | nil => rfl
  | cons o os ih =>
    rw [MatchScan.offers, ih, MatchScan.offer_best]
    rfl

namespace ApPlugin

theorem emptyLine_best (scan : MatchScan) (i : ℕ) (lines : List SkyCacheline) :
    (emptyLine scan i lines).best = scan.best := by
  induction lines generalizing scan i with
  | nil => rfl
  | cons cl cls ih =>
    unfold emptyLine
    split_ifs <;> exact ih _ _

theorem scoreLines_best (distance : Distance) (s : SkySctx) (r : SkyRctx) (i : ℕ)
    (scan : MatchScan) (lines : List SkyCacheline) :
    (scoreLines distance s r i scan lines).best =
      scan.best.scan i (lines.map (scoreLine distance s r)) := by
  rw [scoreLines_eq]
  exact MatchScan.offers_best _ i scan _

end ApPlugin

namespace CellPlugin

theorem emptyLine_best (scan : MatchScan) (i : ℕ) (lines : List SkyCacheline) :
    (emptyLine scan i lines).best = scan.best := by
  induction lines generalizing scan i with
  | nil => rfl
  | cons cl cls ih =>
    unfold emptyLine
    split_ifs <;> exact ih _ _

theorem scoreLines_best (distance : Distance) (s : SkySctx) (r : SkyRctx) (i : ℕ)
    (scan : MatchScan) (lines : List SkyCacheline) :
    (scoreLines distance s r i scan lines).best =
      scan.best.scan i (lines.map (scoreLine distance s r)) := by
  rw [scoreLines_eq]
  exact MatchScan.offers_best _ i scan _

end CellPlugin

/-- The line that a search without a good line stands at. -/
def noLine : Best ℚ ℤ := ⟨0, -1, 0⟩

/-- The best line passes the comparison, or no line with a positive ratio does, when
these lines have one threshold. -/
theorem noLine_scan_cases (scores : List (Option (ℚ × ℤ))) (threshold : ℤ)
    (labels : ∀ v l, some (v, l) ∈ scores → 0 < v → l = threshold) :
    (∃ (k : ℕ) (value : ℚ), noLine.scan 0 scores = ⟨value, k, threshold⟩ ∧ Passes value threshold ∧
        0 < value ∧ IsFirstMax scores k value threshold) ∨
      (¬ Passes (noLine.scan 0 scores).value (noLine.scan 0 scores).label ∧
        ∀ v l, some (v, l) ∈ scores → 0 < v → ¬ Passes v threshold) := by
  rcases noLine.scan_cases 0 scores with ⟨same, less⟩ | ⟨k, value, label, eq, positive, max⟩
  · right
    constructor
    · rw [same]
      simp [Passes, noLine]
    · intro v l offered pos
      exact absurd (less v l offered) (not_le.2 pos)
  · have label_eq : label = threshold :=
      labels value label (List.mem_of_getElem? max.offered) positive
    subst label_eq
    rw [zero_add] at eq
    by_cases passes : Passes value label
    · exact .inl ⟨k, value, eq, passes, positive, max⟩
    · right
      rw [eq]
      constructor
      · exact passes
      · intro v l offered pos better
        obtain ⟨j, at_j⟩ := List.mem_iff_getElem?.1 offered
        have le := (max.greatest j v l at_j).1
        apply passes
        exact better.trans_le (Binary32.round_mono (by positivity) (by linarith))

/-- The line takes part in a search: it holds a location that is not too old, from the
serving cell of the request and with a position that is not worse. -/
structure SkyCacheline.Eligible (distance : Distance) (s : SkySctx) (r : SkyRctx)
    (cl : SkyCacheline) : Prop where
  filled : cl.time ≠ CACHE_EMPTY
  unexpired : (r.header.time.toNat : ℤ) - cl.time ≤ s.config.ageLimit
  servingCell : servingCellChanged s.plugins r cl = false
  gnss : cachedGnssWorse distance r cl = false

instance (distance : Distance) (s : SkySctx) (r : SkyRctx) (cl : SkyCacheline) :
    Decidable (cl.Eligible distance s r) :=
  decidable_of_iff (cl.time ≠ CACHE_EMPTY ∧
      (r.header.time.toNat : ℤ) - cl.time ≤ s.config.ageLimit ∧
      servingCellChanged s.plugins r cl = false ∧ cachedGnssWorse distance r cl = false)
    ⟨fun ⟨filled, unexpired, servingCell, gnss⟩ => ⟨filled, unexpired, servingCell, gnss⟩,
      fun ⟨filled, unexpired, servingCell, gnss⟩ => ⟨filled, unexpired, servingCell, gnss⟩⟩

variable {distance : Distance} {s : SkySctx} {r : SkyRctx} {cl : SkyCacheline}

theorem SkyCacheline.expire_of_unexpired
    (unexpired : (r.header.time.toNat : ℤ) - cl.time ≤ s.config.ageLimit) :
    cl.expire s.config.ageLimit r.header.time = cl := by
  unfold SkyCacheline.expire
  rw [if_neg]
  rintro ⟨-, expired⟩
  exact absurd expired (not_lt.2 unexpired)

theorem SkyCacheline.expire_time (open_ : ¬ (cl.time ≠ CACHE_EMPTY ∧
    (r.header.time.toNat : ℤ) - cl.time ≤ s.config.ageLimit)) :
    (cl.expire s.config.ageLimit r.header.time).time = CACHE_EMPTY := by
  unfold SkyCacheline.expire
  split_ifs with expired
  · rfl
  · by_contra filled
    refine open_ ⟨filled, ?_⟩
    by_contra late
    exact expired ⟨filled, not_le.1 late⟩

theorem SkySctx.lines_expire (s : SkySctx) (r : SkyRctx) :
    (s.expire r).lines = s.lines.map (SkyCacheline.expire s.config.ageLimit r.header.time) := by
  unfold SkySctx.expire SkySctx.mapLines SkySctx.lines
  dsimp only
  by_cases enough : s.numCachelines.toNat ≤ s.cacheline.length
  · rw [List.take_left']
    rw [List.length_map, List.length_take]
    omega
  · rw [List.drop_eq_nil_of_le (by omega), List.append_nil, List.take_of_length_le]
    rw [List.length_map, List.length_take]
    omega

/-- The two score functions, on the lines after the age check, score the lines that
take part. -/
theorem map_scoreLine_expire {score : SkyCacheline → Option (ℚ × ℤ)}
    {value : SkyCacheline → ℚ × ℤ}
    (emptied : ∀ cl, cl.time = CACHE_EMPTY → score cl = none)
    (scored : ∀ cl, cl.time ≠ CACHE_EMPTY → score cl =
      if servingCellChanged s.plugins r cl || cachedGnssWorse distance r cl then none
      else some (value cl)) :
    (s.expire r).lines.map score =
      s.lines.map fun cl => if cl.Eligible distance s r then some (value cl) else none := by
  rw [SkySctx.lines_expire, List.map_map]
  apply List.map_congr_left
  intro cl _
  simp only [Function.comp_apply]
  by_cases valid : cl.time ≠ CACHE_EMPTY ∧
      (r.header.time.toNat : ℤ) - cl.time ≤ s.config.ageLimit
  · rw [cl.expire_of_unexpired valid.2, scored cl valid.1]
    by_cases eligible : cl.Eligible distance s r
    · rw [if_pos eligible, eligible.servingCell, eligible.gnss]
      rfl
    · rw [if_neg eligible, if_pos]
      by_contra agree
      simp only [Bool.or_eq_true, not_or, Bool.not_eq_true] at agree
      exact eligible ⟨valid.1, valid.2, agree.1, agree.2⟩
  · rw [emptied _ (SkyCacheline.expire_time valid), if_neg]
    intro eligible
    exact valid ⟨eligible.filled, eligible.unexpired⟩

namespace ApPlugin

/-- The part of the APs of a request and a line together that both have. -/
def ratio (r : SkyRctx) (cl : SkyCacheline) : ℚ :=
  (countCachedApsInRequestCtx r cl : ℚ) / (r.numAp + cl.numAp - countCachedApsInRequestCtx r cl : ℕ)

def score (s : SkySctx) (r : SkyRctx) (cl : SkyCacheline) : ℚ × ℤ :=
  if r.numAp ≠ 0 ∧ cl.numAp ≠ 0 then (Binary32.round (ratio r cl), threshold s r) else (0, 0)

def scores (distance : Distance) (s : SkySctx) (r : SkyRctx) : List (Option (ℚ × ℤ)) :=
  s.lines.map fun cl => if cl.Eligible distance s r then some (score s r cl) else none

theorem scoreLine_scores (distance : Distance) (s : SkySctx) (r : SkyRctx) :
    (s.expire r).lines.map (scoreLine distance (s.expire r) r) = scores distance s r := by
  apply map_scoreLine_expire
  · intro cl empty
    rw [scoreLine, if_pos empty]
  · intro cl filled
    have plugins : (s.expire r).plugins = s.plugins := rfl
    rw [scoreLine, if_neg filled, score, plugins]
    split_ifs <;> rfl

theorem scores_label {v : ℚ} {l : ℤ} (offered : some (v, l) ∈ scores distance s r) (pos : 0 < v) :
    l = threshold s r := by
  obtain ⟨cl, -, eq⟩ := List.mem_map.1 offered
  split_ifs at eq
  rw [Option.some.injEq, score] at eq
  split_ifs at eq
  · exact (Prod.mk.inj eq).2.symm
  · exact absurd (Prod.mk.inj eq).1 pos.ne

/-- The AP search finds the first of the best lines, or no line passes and the hit
flag is left as it was. -/
theorem cacheMatch_cases (distance : Distance) (s : SkySctx) (aps : r.numAp ≠ 0) :
    ∃ saveTo,
      (∃ (k : ℕ) (value : ℚ), Passes value (threshold s r) ∧ 0 < value ∧
        IsFirstMax (scores distance s r) k value (threshold s r) ∧
        cacheMatch distance s r =
          (.success, s.expire r, { r with saveTo := saveTo, getFrom := k, hit := true })) ∨
      ((∀ v l, some (v, l) ∈ scores distance s r → 0 < v → ¬ Passes v (threshold s r)) ∧
        cacheMatch distance s r =
          (.success, s.expire r, { r with saveTo := saveTo, getFrom := 0 })) := by
  let start := emptyLine ⟨0, 1, -1, -1, 0⟩ 0 (s.expire r).lines
  let scan := scoreLines distance (s.expire r) r 0 start (s.expire r).lines
  have best : scan.best = noLine.scan 0 (scores distance s r) := by
    rw [scoreLines_best, scoreLine_scores, emptyLine_best]
    rfl
  have matched : cacheMatch distance s r =
      if scan.accepts then (.success, s.expire r,
        { r with saveTo := scan.bestput, getFrom := scan.bestc, hit := true })
      else (.success, s.expire r, { r with saveTo := scan.bestput, getFrom := 0 }) := by
    unfold cacheMatch
    exact if_neg aps
  refine ⟨scan.bestput, ?_⟩
  rcases noLine_scan_cases (scores distance s r) (threshold s r)
    fun v l offered pos => scores_label offered pos with
    ⟨k, value, eq, passes, pos, max⟩ | ⟨fails, none⟩
  · left
    rw [← best] at eq
    have place : scan.bestc = k := congrArg Best.place eq
    refine ⟨k, value, passes, pos, max, ?_⟩
    rw [matched, if_pos, place]
    rw [scan.accepts_iff, eq]
    exact passes
  · right
    refine ⟨none, ?_⟩
    rw [matched, if_neg]
    rw [scan.accepts_iff, best]
    exact fails

end ApPlugin

namespace CellPlugin

def score (s : SkySctx) (r : SkyRctx) (cl : SkyCacheline) : ℚ × ℤ :=
  (if countCachedCells s.plugins r cl = numCells r.numBeacons r.numAp then 1 else 0,
    s.config.cacheMatchAllThreshold.toInt32.toInt)

def scores (distance : Distance) (s : SkySctx) (r : SkyRctx) : List (Option (ℚ × ℤ)) :=
  s.lines.map fun cl => if cl.Eligible distance s r then some (score s r cl) else none

theorem scoreLine_scores (distance : Distance) (s : SkySctx) (r : SkyRctx) :
    (s.expire r).lines.map (scoreLine distance (s.expire r) r) = scores distance s r := by
  apply map_scoreLine_expire
  · intro cl empty
    rw [scoreLine, if_pos empty]
  · intro cl filled
    rw [scoreLine, if_neg filled]
    rfl

theorem scores_label {v : ℚ} {l : ℤ} (offered : some (v, l) ∈ scores distance s r) :
    l = s.config.cacheMatchAllThreshold.toInt32.toInt := by
  obtain ⟨cl, -, eq⟩ := List.mem_map.1 offered
  split_ifs at eq
  rw [Option.some.injEq] at eq
  exact (Prod.mk.inj eq).2.symm

/-- The cell search finds a line with all cells of the request, or reports a miss. -/
theorem cacheMatch_cases (distance : Distance) (s : SkySctx)
    (cells : numCells r.numBeacons r.numAp ≠ 0) :
    ∃ saveTo getFrom,
      (∃ (k : ℕ) (value : ℚ), Passes value s.config.cacheMatchAllThreshold.toInt32.toInt ∧
        0 < value ∧ IsFirstMax (scores distance s r) k value
          s.config.cacheMatchAllThreshold.toInt32.toInt ∧
        cacheMatch distance s r =
          (.success, s.expire r, { r with saveTo := saveTo, getFrom := k, hit := true })) ∨
      ((∀ v l, some (v, l) ∈ scores distance s r → 0 < v →
          ¬ Passes v s.config.cacheMatchAllThreshold.toInt32.toInt) ∧
        cacheMatch distance s r =
          (.success, s.expire r,
            { r with saveTo := saveTo, getFrom := getFrom, hit := false })) := by
  let start := emptyLine ⟨0, 0, -1, -1, 0⟩ 0 (s.expire r).lines
  let scan := scoreLines distance (s.expire r) r 0 start (s.expire r).lines
  have best : scan.best = noLine.scan 0 (scores distance s r) := by
    rw [scoreLines_best, scoreLine_scores, emptyLine_best]
    rfl
  have matched : cacheMatch distance s r = (.success, s.expire r,
      { r with saveTo := scan.bestput, getFrom := scan.bestc, hit := scan.accepts }) := by
    unfold cacheMatch
    simp only [if_neg cells]
    rfl
  refine ⟨scan.bestput, scan.bestc, ?_⟩
  rcases noLine_scan_cases (scores distance s r) _ fun v l offered _ => scores_label offered with
    ⟨k, value, eq, passes, pos, max⟩ | ⟨fails, none⟩
  · left
    rw [← best] at eq
    have place : scan.bestc = k := congrArg Best.place eq
    have accepts : scan.accepts = true := by
      rw [scan.accepts_iff, eq]
      exact passes
    refine ⟨k, value, passes, pos, max, ?_⟩
    rw [matched, accepts, place]
  · right
    have accepts : scan.accepts = false := by
      rw [← Bool.not_eq_true, scan.accepts_iff, best]
      exact fails
    refine ⟨none, ?_⟩
    rw [matched, accepts]

end CellPlugin

theorem searchCache_eq (distance : Distance)
    (recent : TIMESTAMP_2019_03_01 ≤ (r.header.time.toNat : ℤ)) (filled : ¬ s.numCachelines < 1) :
    searchCache distance s r =
      let result := skyPluginMatchCache distance s.plugins s r
      match result.1 with
      | .success => result.2
      | .error => (result.2.1, { result.2.2 with getFrom := -1, hit := false }) := by
  apply if_neg
  omega

theorem skyPluginMatchCache_cons {distance : Distance} {s : SkySctx} {r : SkyRctx}
    {p : SkyPluginTable} {found : SkyStatus × SkySctx × SkyRctx}
    (first : p.cacheMatch distance s r = found) (ps : List SkyPluginTable) :
    skyPluginMatchCache distance (p :: ps) s r =
      match found.1 with
      | .success => found
      | .error => skyPluginMatchCache distance ps found.2.1 found.2.2 := by
  subst first
  rfl

theorem skyPluginMatchCache_registered (distance : Distance) (s : SkySctx) (r : SkyRctx) :
    skyPluginMatchCache distance skyRegisterPlugins s r =
      match (ApPlugin.cacheMatch distance s r).1 with
      | .success => ApPlugin.cacheMatch distance s r
      | .error => skyPluginMatchCache distance [.cellPluginBasic]
          (ApPlugin.cacheMatch distance s r).2.1 (ApPlugin.cacheMatch distance s r).2.2 :=
  skyPluginMatchCache_cons rfl [.cellPluginBasic]

/-- What a search on a context with APs does to the session and the context. -/
theorem searchCache_aps_cases (distance : Distance) (plugins : s.plugins = skyRegisterPlugins)
    (recent : TIMESTAMP_2019_03_01 ≤ (r.header.time.toNat : ℤ)) (filled : ¬ s.numCachelines < 1)
    (aps : r.numAp ≠ 0) :
    ∃ saveTo,
      (∃ (k : ℕ) (value : ℚ), Passes value (ApPlugin.threshold s r) ∧ 0 < value ∧
        IsFirstMax (ApPlugin.scores distance s r) k value (ApPlugin.threshold s r) ∧
        searchCache distance s r =
          (s.expire r, { r with saveTo := saveTo, getFrom := k, hit := true })) ∨
      ((∀ v l, some (v, l) ∈ ApPlugin.scores distance s r → 0 < v →
          ¬ Passes v (ApPlugin.threshold s r)) ∧
        searchCache distance s r = (s.expire r, { r with saveTo := saveTo, getFrom := 0 })) := by
  rcases ApPlugin.cacheMatch_cases distance s aps with
    ⟨saveTo, ⟨k, value, passes, pos, max, matched⟩ | ⟨fails, matched⟩⟩
  · refine ⟨saveTo, .inl ⟨k, value, passes, pos, max, ?_⟩⟩
    rw [searchCache_eq distance recent filled, plugins, skyPluginMatchCache_registered, matched]
  · refine ⟨saveTo, .inr ⟨fails, ?_⟩⟩
    rw [searchCache_eq distance recent filled, plugins, skyPluginMatchCache_registered, matched]

theorem CellPlugin.scores_expire (distance : Distance) (s : SkySctx) (r : SkyRctx) :
    CellPlugin.scores distance (s.expire r) r = CellPlugin.scores distance s r := by
  unfold CellPlugin.scores
  rw [SkySctx.lines_expire, List.map_map]
  apply List.map_congr_left
  intro cl _
  simp only [Function.comp_apply]
  by_cases valid : cl.time ≠ CACHE_EMPTY ∧
      (r.header.time.toNat : ℤ) - cl.time ≤ s.config.ageLimit
  · rw [SkyCacheline.expire_of_unexpired valid.2]
    have same : cl.Eligible distance (s.expire r) r ↔ cl.Eligible distance s r :=
      ⟨fun ⟨filled, unexpired, serving, gnss⟩ => ⟨filled, unexpired, serving, gnss⟩,
        fun ⟨filled, unexpired, serving, gnss⟩ => ⟨filled, unexpired, serving, gnss⟩⟩
    by_cases eligible : cl.Eligible distance s r
    · rw [if_pos eligible, if_pos (same.2 eligible)]
      rfl
    · rw [if_neg eligible, if_neg (mt same.1 eligible)]
  · rw [if_neg, if_neg]
    · intro eligible
      exact valid ⟨eligible.filled, eligible.unexpired⟩
    · intro eligible
      exact eligible.filled (SkyCacheline.expire_time valid)

theorem skyPluginMatchCache_noAps (distance : Distance) (s : SkySctx) (noAps : r.numAp = 0) :
    skyPluginMatchCache distance skyRegisterPlugins s r =
      match (CellPlugin.cacheMatch distance (s.expire r) r).1 with
      | .success => CellPlugin.cacheMatch distance (s.expire r) r
      | .error => (.error, (CellPlugin.cacheMatch distance (s.expire r) r).2) := by
  have noAnswer : ApPlugin.cacheMatch distance s r = (.error, s.expire r, r) := by
    unfold ApPlugin.cacheMatch
    exact if_pos noAps
  have dispatched :
      SkyPluginTable.cellPluginBasic.cacheMatch distance = CellPlugin.cacheMatch distance := rfl
  rw [skyPluginMatchCache_registered, noAnswer]
  dsimp only
  rw [skyPluginMatchCache, dispatched]
  generalize CellPlugin.cacheMatch distance (s.expire r) r = found
  obtain ⟨status, found⟩ := found
  cases status <;> rfl

theorem searchCache_cells_cases (distance : Distance) (plugins : s.plugins = skyRegisterPlugins)
    (recent : TIMESTAMP_2019_03_01 ≤ (r.header.time.toNat : ℤ)) (filled : ¬ s.numCachelines < 1)
    (noAps : r.numAp = 0) (cells : numCells r.numBeacons r.numAp ≠ 0) :
    ∃ s' saveTo getFrom,
      (∃ (k : ℕ) (value : ℚ), Passes value s.config.cacheMatchAllThreshold.toInt32.toInt ∧
        0 < value ∧ IsFirstMax (CellPlugin.scores distance s r) k value
          s.config.cacheMatchAllThreshold.toInt32.toInt ∧
        searchCache distance s r =
          (s', { r with saveTo := saveTo, getFrom := k, hit := true })) ∨
      ((∀ v l, some (v, l) ∈ CellPlugin.scores distance s r → 0 < v →
          ¬ Passes v s.config.cacheMatchAllThreshold.toInt32.toInt) ∧
        searchCache distance s r =
          (s', { r with saveTo := saveTo, getFrom := getFrom, hit := false })) := by
  have dispatched := skyPluginMatchCache_noAps distance s noAps
  rcases CellPlugin.cacheMatch_cases distance (s.expire r) cells with
    ⟨saveTo, getFrom, ⟨k, value, passes, pos, max, matched⟩ | ⟨fails, matched⟩⟩
  · rw [CellPlugin.scores_expire] at max
    refine ⟨(s.expire r).expire r, saveTo, getFrom, .inl ⟨k, value, passes, pos, max, ?_⟩⟩
    rw [searchCache_eq distance recent filled, plugins, dispatched, matched]
  · rw [CellPlugin.scores_expire] at fails
    refine ⟨(s.expire r).expire r, saveTo, getFrom, .inr ⟨fails, ?_⟩⟩
    rw [searchCache_eq distance recent filled, plugins, dispatched, matched]

def offers (distance : Distance) (s : SkySctx) (r : SkyRctx) : List (Option (ℚ × ℤ)) :=
  if r.numAp ≠ 0 then ApPlugin.scores distance s r else CellPlugin.scores distance s r

def Offered (distance : Distance) (s : SkySctx) (r : SkyRctx) : Prop :=
  ∃ value threshold, some (value, threshold) ∈ offers distance s r ∧ 0 < value ∧
    Passes value threshold

/-- A good offer is a hit; without one, a context that had no hit has none. -/
theorem searchCache_isCacheHit (distance : Distance) (plugins : s.plugins = skyRegisterPlugins)
    (recent : TIMESTAMP_2019_03_01 ≤ (r.header.time.toNat : ℤ)) (filled : ¬ s.numCachelines < 1)
    (beacons : r.numAp ≠ 0 ∨ numCells r.numBeacons r.numAp ≠ 0) :
    (Offered distance s r → (searchCache distance s r).2.isCacheHit = true) ∧
      (¬ Offered distance s r → r.hit = false →
        (searchCache distance s r).2.isCacheHit = false) := by
  unfold Offered offers
  by_cases aps : r.numAp ≠ 0
  · rw [if_pos aps]
    rcases searchCache_aps_cases distance plugins recent filled aps with
      ⟨saveTo, ⟨k, value, passes, pos, max, found⟩ | ⟨fails, found⟩⟩
    · have hit : (searchCache distance s r).2.isCacheHit = true := by
        rw [found]
        simp [SkyRctx.isCacheHit]
      constructor
      · intro _
        exact hit
      · intro none
        exact absurd ⟨value, _, List.mem_of_getElem? max.offered, pos, passes⟩ none
    · constructor
      · rintro ⟨value, threshold, offered, pos, passes⟩
        have label := ApPlugin.scores_label offered pos
        rw [label] at offered passes
        exact absurd passes (fails value _ offered pos)
      · intro _ miss
        rw [found]
        simp [SkyRctx.isCacheHit, miss]
  · rw [if_neg aps]
    have cells : numCells r.numBeacons r.numAp ≠ 0 := beacons.resolve_left aps
    rcases searchCache_cells_cases distance plugins recent filled (not_not.1 aps) cells with
      ⟨s', saveTo, getFrom, ⟨k, value, passes, pos, max, found⟩ | ⟨fails, found⟩⟩
    · have hit : (searchCache distance s r).2.isCacheHit = true := by
        rw [found]
        simp [SkyRctx.isCacheHit]
      constructor
      · intro _
        exact hit
      · intro none
        exact absurd ⟨value, _, List.mem_of_getElem? max.offered, pos, passes⟩ none
    · constructor
      · rintro ⟨value, threshold, offered, pos, passes⟩
        have label := CellPlugin.scores_label offered
        rw [label] at offered passes
        exact absurd passes (fails value _ offered pos)
      · intro _ _
        rw [found]
        simp [SkyRctx.isCacheHit]

variable {loc : SkyLocation}

theorem skySearchCache_valid (valid : (validateRequestCtx r).1 = true) :
    skySearchCache distance s r loc =
      let found := searchCache distance s (validateRequestCtx r).2
      if found.2.isCacheHit then
        ⟨.none, found.1, found.2, some true,
          { (found.1.line found.2.getFrom).loc with dlAppData := false, dlAppDataLen := 0 }⟩
      else
        ⟨.none, { found.1 with cacheHits := 0 }, { found.2 with hit := false }, some false,
          { loc with locationSource := 0, locationStatus := .unableToLocate }⟩ := by
  apply if_neg
  simp [valid]

theorem skySearchCache_cacheHit (valid : (validateRequestCtx r).1 = true) :
    (skySearchCache distance s r loc).cacheHit =
      some (searchCache distance s (validateRequestCtx r).2).2.isCacheHit := by
  rw [skySearchCache_valid valid]
  dsimp only
  split_ifs with hit
  · rw [hit]
  · rw [Bool.not_eq_true] at hit
    rw [hit]

end EmbeddedClient
