import EmbeddedClient.Model.CellPlugin

/-!
# Adding beacons and looking them up in the cache

`beacons.c`: the ordered insertion with its duplicate search, `add_beacon`, and
the tests the cache searches rest on. Two things are taken from outside: whether
the code is built with `SKY_LOGGING`, which repeats a search after each
insertion, and the distance between two positions, which needs the mathematics
library.
-/

namespace EmbeddedClient

open Binary32

/-- `is_beacon_first`: the difference, positive when `a` goes first, and the two
beacons as left behind. -/
def isBeaconFirst (plugins : List SkyPluginTable) (a b : Beacon) : ℤ × Beacon × Beacon :=
  match skyPluginCompare plugins a b with
  | some (diff, a, b) => (if diff ≠ 0 then diff else 1, a, b)
  | none =>
    let diff :=
      if !a.isCellType || !b.isCellType then (if 0 ≤ compareType a b then 1 else -1)
      else if a.isCellNmr ≠ b.isCellNmr then (if !a.isCellNmr then 1 else -1)
      else if a.h.connected ≠ b.h.connected then
        (a.h.connected.toNat : ℤ) - b.h.connected.toNat
      else compareType a b
    (diff, a, b)

/-- Outcome of the duplicate search of `insert_beacon`. -/
inductive Duplicate
  | absent
  | rejected
  | better (j : ℕ)
  deriving DecidableEq, Repr

/-- A duplicate is kept when it is younger, or as old and connected, or as old,
as connected and stronger. -/
def Beacon.betterDuplicate (b old : Beacon) : Bool :=
  b.h.age < old.h.age || (b.h.age = old.h.age && b.h.connected) ||
    (b.h.age = old.h.age && b.h.connected = old.h.connected &&
      old.h.rssi.toInt < b.h.rssi.toInt)

/-- The duplicate search from slot `j` on, with the error code it leaves. -/
def searchDuplicate (plugins : List SkyPluginTable) (b : Beacon) :
    ℕ → SkyErrno → List Beacon → Duplicate × SkyErrno
  | _, errno, [] => (.absent, errno)
  | j, _, c :: cs =>
    let equal := skyPluginEqual plugins b c
    if equal = some true then
      (if b.betterDuplicate c then .better j else .rejected, pluginErrno equal)
    else searchDuplicate plugins b (j + 1) (pluginErrno equal) cs

/-- Where the position search of `insert_beacon` stops, and the beacons as the
comparisons leave them. -/
structure Position where
  index : ℕ
  beacon : Beacon
  beacons : List Beacon

/-- The position search: the first beacon that the new one goes before. -/
def findPosition (plugins : List SkyPluginTable) (b : Beacon) : List Beacon → Position
  | [] => ⟨0, b, []⟩
  | c :: cs =>
    let first := isBeaconFirst plugins b c
    if 0 < first.1 then ⟨0, first.2.1, first.2.2 :: cs⟩
    else
      let rest := findPosition plugins first.2.1 cs
      ⟨rest.index + 1, rest.beacon, first.2.2 :: rest.beacons⟩

/-- What `insert_beacon` and `add_beacon` return, with the highest slot index
that the insertion stored to. -/
structure AddResult where
  status : SkyStatus
  errno : SkyErrno
  rctx : SkyRctx
  top : Option ℕ

/-- `insert_beacon` after the duplicate search. It ends by looking for the new beacon, and the
search writes the error code: `SKY_LOGGING` is tested with `#ifdef`, and `config.h` always defines
it. -/
def placeBeacon (plugins : List SkyPluginTable) (r : SkyRctx)
    (errno : SkyErrno) (b : Beacon) : AddResult :=
  let pos := findPosition plugins b r.live
  let r' := { r.setLive (pos.beacons.insertIdx pos.index pos.beacon) with
    numAp := if b.isApType then r.numAp + 1 else r.numAp }
  { status := .success
    errno := (searchDuplicate plugins pos.beacon 0 errno r'.live).2
    rctx := r'
    top := some r.numBeacons }

def insertBeacon (plugins : List SkyPluginTable) (r : SkyRctx)
    (errno : SkyErrno) (b : Beacon) : AddResult :=
  if b.isApType || b.isCellType then
    let dup := searchDuplicate plugins b 0 errno r.live
    match dup.1 with
    | .rejected => ⟨.success, .none, r, none⟩
    | .better j => placeBeacon plugins (removeBeacon r j).2 dup.2 b
    | .absent => placeBeacon plugins r dup.2 b
  else ⟨.error, .internal, r, none⟩

/-- The loop of `beacon_in_cacheline`. -/
def beaconInBeacons (plugins : List SkyPluginTable) (b : Beacon) : List Beacon → Bool × Beacon
  | [] => (false, b)
  | c :: cs =>
    if skyPluginEqual plugins b c = some true then
      (true, if c.isApType && c.ap.used then { b with ap := { b.ap with used := true } } else b)
    else beaconInBeacons plugins b cs

/-- `beacon_in_cacheline`: the verdict and the beacon with what was found. -/
def beaconInCacheline (plugins : List SkyPluginTable) (b : Beacon) (cl : SkyCacheline) :
    Bool × Beacon :=
  if cl.time = CACHE_EMPTY then (false, b) else beaconInBeacons plugins b cl.live

/-- `beacon_in_cache`: stops at the first line that has the beacon as used. -/
def beaconInCache (plugins : List SkyPluginTable) (b : Beacon) : List SkyCacheline → Bool × Beacon
  | [] => (false, b)
  | cl :: cls =>
    let found := beaconInCacheline plugins b cl
    if found.1 then
      if found.2.isApType && found.2.ap.used then (true, found.2)
      else (true, (beaconInCache plugins found.2 cls).2)
    else beaconInCache plugins found.2 cls

/-- The age `add_beacon` gives a beacon, or the error it returns. -/
def beaconAge (requestTime : UInt32) (timestamp : ℤ) : Except SkyErrno UInt32 :=
  if timestamp ≠ TIME_UNAVAILABLE ∧ timestamp < TIMESTAMP_2019_03_01 then .error .badTime
  else if requestTime = 0 ∨ timestamp = TIME_UNAVAILABLE then .ok 0
  else if 0 ≤ (requestTime.toNat : ℤ) - timestamp then
    .ok (UInt32.ofInt (requestTime.toNat - timestamp))
  else .error .badParameters

/-- Neither the APs nor the cells exceed what the configuration allows. -/
def withinLimits (s : SkySctx) (r : SkyRctx) : Bool :=
  r.numAp ≤ s.config.maxApBeacons.toNat &&
    numCells r.numBeacons r.numAp ≤ s.config.maxCells

/-- The end of `add_beacon`: filter a list that has become too long. -/
def filterBeacons (s : SkySctx) (added : AddResult) : AddResult :=
  if withinLimits s added.rctx then added
  else
    let removed := skyPluginRemoveWorst s s.plugins added.rctx
    match removed.1 with
    | .success => { added with errno := .none, rctx := removed.2 }
    | .error => { added with status := .error, errno := .internal, rctx := removed.2 }

def addBeacon (s : SkySctx) (r : SkyRctx) (errno : SkyErrno) (b : Beacon)
    (timestamp : ℤ) : AddResult :=
  let ctx := validateRequestCtx r
  if !ctx.1 then ⟨.error, .badRequestCtx, ctx.2, none⟩
  else if !s.openFlag then ⟨.error, .neverOpen, ctx.2, none⟩
  else
    let valid := validateBeacon b
    if !valid.1 then ⟨.error, .badParameters, ctx.2, none⟩
    else match beaconAge r.header.time timestamp with
      | .error e => ⟨.error, e, ctx.2, none⟩
      | .ok age =>
        let b := { valid.2 with h := { valid.2.h with age := age } }
        let b := if b.isApType then (beaconInCache s.plugins b s.lines).2 else b
        let added := insertBeacon s.plugins ctx.2 errno b
        if added.status = .error then added
        else if added.rctx.numBeacons = r.numBeacons then added
        else filterBeacons s added

/-- The loop of `find_oldest`, from line `i` on. -/
def findOldestLoop : (i : ℕ) → (oldest : ℤ) → (oldestc : ℕ) → List SkyCacheline → ℕ
  | _, _, oldestc, [] => oldestc
  | i, oldest, oldestc, cl :: cls =>
    if oldest = TIME_UNAVAILABLE ∨ cl.time = CACHE_EMPTY then i
    else if cl.time - oldest < 0 then findOldestLoop (i + 1) cl.time i cls
    else findOldestLoop (i + 1) oldest oldestc cls

def findOldest (s : SkySctx) (r : SkyRctx) : ℕ :=
  if s.cacheSize = 1 then 0 else findOldestLoop 0 r.header.time.toNat 0 s.cacheline

/-- A distance in metres between two positions, `distance_A_to_B`. -/
abbrev Distance := FloatVal → FloatVal → FloatVal → FloatVal → FloatVal

def cachedGnssWorse (distance : Distance) (r : SkyRctx) (cl : SkyCacheline) : Bool :=
  if !r.gnss.present then false
  else if !cl.gnss.present then true
  else if r.gnss.hpe < cl.gnss.hpe then true
  else FloatVal.le (.fin (round r.gnss.hpe.toNat))
    (distance r.gnss.lat r.gnss.lon cl.gnss.lat cl.gnss.lon)

/-- `serving_cell_changed`: compares the first cells of the two lists. -/
def servingCellChanged (plugins : List SkyPluginTable) (r : SkyRctx) (cl : SkyCacheline) : Bool :=
  if numCells r.numBeacons r.numAp = 0 then false
  else if numCells cl.numBeacons cl.numAp = 0 then false
  else
    let w := r.slot r.numAp
    let c := cl.beacon.getD cl.numAp Beacon.zero
    if w.isCellNmr || c.isCellNmr then false
    else skyPluginEqual plugins w c ≠ some true

end EmbeddedClient
