import EmbeddedClient.Model.Beacons

/-!
# Searching and filling the cache

The cache searches of the two plugins, `to_cache`, their dispatch and
`search_cache`. Both searches first expire lines, so a search returns the
session as well as the request context. A line index is kept in 16 bits by the
code and is unbounded here, for a `CACHE_SIZE` of up to `2^15`; the module `Indexes`
has the fields of 16 bits. Ratios are single-precision values of small integers
and kept as rationals.
-/

namespace EmbeddedClient

open Binary32 (FloatVal)

/-- `CONFIG(session, cache_age_threshold) * SECONDS_IN_HOUR` in 32 bits. -/
def SkyConfig.ageLimit (c : SkyConfig) : ℕ :=
  (c.cacheAgeThreshold * UInt32.ofNat SECONDS_IN_HOUR).toNat

/-- The age check of the searches on one line. -/
def SkyCacheline.expire (limit : ℕ) (now : UInt32) (cl : SkyCacheline) : SkyCacheline :=
  if cl.time ≠ CACHE_EMPTY ∧ (limit : ℤ) < now.toNat - cl.time then { cl with time := CACHE_EMPTY }
  else cl

/-- Apply a change to every line the loops visit. -/
def SkySctx.mapLines (s : SkySctx) (f : SkyCacheline → SkyCacheline) : SkySctx :=
  { s with cacheline := s.lines.map f ++ s.cacheline.drop s.numCachelines.toNat }

def SkySctx.expire (s : SkySctx) (r : SkyRctx) : SkySctx :=
  s.mapLines (SkyCacheline.expire s.config.ageLimit r.header.time)

/-- What the scoring loop of a search keeps. -/
structure MatchScan where
  bestratio : ℚ
  bestputratio : ℚ
  bestc : ℤ
  bestput : ℤ
  bestthresh : ℤ

/-- Record the ratio and the threshold of line `i` when its ratio is the best so far. -/
def MatchScan.better (scan : MatchScan) (i : ℕ) (ratio : ℚ) (threshold : ℤ) : MatchScan :=
  if scan.bestratio < ratio then
    { scan with bestc := i, bestratio := ratio, bestthresh := threshold }
  else scan

/-- The final comparison, both sides in single precision. -/
def MatchScan.accepts (scan : MatchScan) : Bool :=
  Binary32.round scan.bestthresh < Binary32.round (scan.bestratio * 100)

namespace ApPlugin

/-- `count_cached_aps_in_request_ctx`: each AP of the request takes the first
similar AP of the line that no earlier one has taken. -/
def countCached : List Beacon → List Beacon → ℕ
  | [], _ => 0
  | a :: as, unmatched =>
    if unmatched.any a.similar then 1 + countCached as (unmatched.eraseP a.similar)
    else countCached as unmatched

def countCachedApsInRequestCtx (r : SkyRctx) (cl : SkyCacheline) : ℕ := countCached r.aps cl.aps

/-- The loop of `count_uniq_vg`: `counted` holds the APs not found redundant. -/
def countUniq (counted : List Beacon) : List Beacon → ℕ
  | [] => 0
  | a :: as =>
    if counted.any (·.similar a) then countUniq counted as
    else 1 + countUniq (counted ++ [a]) as

def countUniqVg (r : SkyRctx) : ℕ := countUniq [] r.aps

/-- The threshold `match` sets for a line that holds APs. -/
def threshold (s : SkySctx) (r : SkyRctx) : ℤ :=
  if countUniqVg r ≤ s.config.cacheBeaconThreshold.toNat then 99
  else s.config.cacheMatchAllThreshold.toInt32.toInt

/-- Ratio and threshold of a line; `none` for a line that is passed over. -/
def scoreLine (distance : Distance) (s : SkySctx) (r : SkyRctx) (cl : SkyCacheline) :
    Option (ℚ × ℤ) :=
  if cl.time = CACHE_EMPTY then none
  else if servingCellChanged s.plugins r cl || cachedGnssWorse distance r cl then none
  else if r.numAp ≠ 0 ∧ cl.numAp ≠ 0 then
    let score := countCachedApsInRequestCtx r cl
    let unionAB := r.numAp + cl.numAp - score
    some (Binary32.round ((score : ℚ) / unionAB), threshold s r)
  else some (0, 0)

/-- The last empty line and its ratio, from line `i` on. -/
def emptyLine (scan : MatchScan) : ℕ → List SkyCacheline → MatchScan
  | _, [] => scan
  | i, cl :: cls =>
    if cl.time = CACHE_EMPTY then
      emptyLine { scan with bestput := i, bestputratio := 0 } (i + 1) cls
    else emptyLine scan (i + 1) cls

/-- The scoring loop, from line `i` on. -/
def scoreLines (distance : Distance) (s : SkySctx) (r : SkyRctx) :
    ℕ → MatchScan → List SkyCacheline → MatchScan
  | _, scan, [] => scan
  | i, scan, cl :: cls =>
    match scoreLine distance s r cl with
    | none => scoreLines distance s r (i + 1) scan cls
    | some (ratio, threshold) =>
      let scan :=
        if ratio < scan.bestputratio then { scan with bestput := i, bestputratio := ratio }
        else scan
      scoreLines distance s r (i + 1) (scan.better i ratio threshold) cls

def cacheMatch (distance : Distance) (s : SkySctx) (r : SkyRctx) :
    SkyStatus × SkySctx × SkyRctx :=
  let s := s.expire r
  if r.numAp = 0 then (.error, s, r)
  else
    let scan := scoreLines distance s r 0 (emptyLine ⟨0, 1, -1, -1, 0⟩ 0 s.lines) s.lines
    let r := { r with saveTo := scan.bestput, getFrom := scan.bestc }
    if scan.accepts then (.success, s, { r with hit := true })
    -- the index is overwritten with `false`, and the flag keeps its value
    else (.success, s, { r with getFrom := 0 })

def toCache (s : SkySctx) (r : SkyRctx) (loc : SkyLocation) : SkyStatus × SkySctx :=
  if loc.time ≤ TIMESTAMP_2019_03_01 then (.error, s)
  else
    let i := if r.saveTo < 0 then findOldest s r else r.saveTo.toNat
    if loc.locationStatus ≠ .success then
      (.error, { s with
        cacheline := s.cacheline.modify i fun cl => { cl with time := CACHE_EMPTY } })
    else
      (.success, { s with cacheline := s.cacheline.modify i fun cl =>
        { numBeacons := r.numBeacons, numAp := r.numAp, time := loc.time, gnss := r.gnss,
          loc := loc, beacon := r.live ++ cl.beacon.drop r.numBeacons } })

end ApPlugin

namespace CellPlugin

/-- Number of cells of the request found in the line. The lookup marks an AP as
used but never a cell, so the request keeps its beacons. -/
def countCachedCells (plugins : List SkyPluginTable) (r : SkyRctx) (cl : SkyCacheline) : ℕ :=
  (r.live.drop r.numAp).countP fun b => (beaconInCacheline plugins b cl).1

def scoreLine (distance : Distance) (s : SkySctx) (r : SkyRctx) (cl : SkyCacheline) :
    Option (ℚ × ℤ) :=
  if cl.time = CACHE_EMPTY then none
  else if servingCellChanged s.plugins r cl || cachedGnssWorse distance r cl then none
  else
    some (if countCachedCells s.plugins r cl = numCells r.numBeacons r.numAp then 1 else 0,
      s.config.cacheMatchAllThreshold.toInt32.toInt)

def emptyLine (scan : MatchScan) : ℕ → List SkyCacheline → MatchScan
  | _, [] => scan
  | i, cl :: cls =>
    if cl.time = CACHE_EMPTY ∧ scan.bestputratio < 1 then
      emptyLine { scan with bestput := i, bestputratio := 1 } (i + 1) cls
    else emptyLine scan (i + 1) cls

def scoreLines (distance : Distance) (s : SkySctx) (r : SkyRctx) :
    ℕ → MatchScan → List SkyCacheline → MatchScan
  | _, scan, [] => scan
  | i, scan, cl :: cls =>
    match scoreLine distance s r cl with
    | none => scoreLines distance s r (i + 1) scan cls
    | some (ratio, threshold) =>
      let scan :=
        if scan.bestputratio < ratio then { scan with bestput := i, bestputratio := ratio }
        else scan
      scoreLines distance s r (i + 1) (scan.better i ratio threshold) cls

def cacheMatch (distance : Distance) (s : SkySctx) (r : SkyRctx) :
    SkyStatus × SkySctx × SkyRctx :=
  let s := s.expire r
  if numCells r.numBeacons r.numAp = 0 then (.error, s, r)
  else
    let scan := scoreLines distance s r 0 (emptyLine ⟨0, 0, -1, -1, 0⟩ 0 s.lines) s.lines
    (.success, s, { r with saveTo := scan.bestput, getFrom := scan.bestc, hit := scan.accepts })

end CellPlugin

def SkyPluginTable.cacheMatch (p : SkyPluginTable) (distance : Distance) :
    SkySctx → SkyRctx → SkyStatus × SkySctx × SkyRctx :=
  match p with
  | apPluginBasic => ApPlugin.cacheMatch distance
  | cellPluginBasic => CellPlugin.cacheMatch distance

def skyPluginMatchCache (distance : Distance) :
    List SkyPluginTable → SkySctx → SkyRctx → SkyStatus × SkySctx × SkyRctx
  | [], s, r => (.error, s, r)
  | p :: ps, s, r =>
    let result := p.cacheMatch distance s r
    match result.1 with
    | .success => result
    | .error => skyPluginMatchCache distance ps result.2.1 result.2.2

/-- `sky_plugin_add_to_cache`; the cell table has no such entry. -/
def skyPluginAddToCache :
    List SkyPluginTable → SkySctx → SkyRctx → SkyLocation → SkyStatus × SkySctx
  | [], s, _, _ => (.error, s)
  | .apPluginBasic :: ps, s, r, loc =>
    let result := ApPlugin.toCache s r loc
    match result.1 with
    | .success => result
    | .error => skyPluginAddToCache ps result.2 r loc
  | .cellPluginBasic :: ps, s, r, loc => skyPluginAddToCache ps s r loc

/-- `search_cache`: the session with expired lines emptied and the context with
the outcome of the search. -/
def searchCache (distance : Distance) (s : SkySctx) (r : SkyRctx) : SkySctx × SkyRctx :=
  if s.numCachelines < 1 ∨ (r.header.time.toNat : ℤ) - TIMESTAMP_2019_03_01 < 0 then
    (s, { r with getFrom := -1, hit := false })
  else
    let result := skyPluginMatchCache distance s.plugins s r
    match result.1 with
    | .success => result.2
    | .error => (result.2.1, { result.2.2 with getFrom := -1, hit := false })

end EmbeddedClient
