import EmbeddedClient.Support.Binary32

/-!
# Data model

The structures of `libel.h`, `beacons.h` and `config.h`. Fixed-width fields keep
their C width where a value is stored and converted; counters are naturals and
the reductions to 16 or 32 bits are written where the code relies on them.
A beacon carries both the AP and the cell member of the C union; which one is
read follows its type. The compile-time options are the defaults of `config.h`,
except `CACHE_SIZE`, which is the number of cachelines a session holds.
-/

namespace EmbeddedClient

open Binary32

@[simp] def SKY_MAGIC : UInt32 := 0xD1967806
@[simp] def BEACON_MAGIC : UInt16 := 0xf0f0
@[simp] def TOTAL_BEACONS : ℕ := 28
@[simp] def MAX_AP_BEACONS : ℕ := 20
@[simp] def MAX_VAP_PER_AP : ℕ := 4
@[simp] def MAX_VAP_PER_RQ : ℕ := 12
@[simp] def CACHE_MATCH_THRESHOLD_USED : ℕ := 50
@[simp] def CACHE_MATCH_THRESHOLD_ALL : ℕ := 50
@[simp] def CACHE_AGE_THRESHOLD : ℕ := 24
@[simp] def CACHE_BEACON_THRESHOLD : ℕ := 5
@[simp] def CACHE_RSSI_THRESHOLD : ℕ := 90
@[simp] def SKY_MAX_DL_APP_DATA : ℕ := 100
@[simp] def SKY_MAX_UL_APP_DATA : ℕ := 100
@[simp] def AES_BLOCKLEN : ℕ := 16
@[simp] def MAX_DEVICE_ID : ℕ := 16
@[simp] def MAX_SKU_LEN : ℕ := 32
@[simp] def TBR_TOKEN_UNKNOWN : UInt32 := 0
@[simp] def TIMESTAMP_2019_03_01 : ℤ := 1551398400
@[simp] def TIME_UNAVAILABLE : ℤ := 0
@[simp] def CACHE_EMPTY : ℤ := 0
@[simp] def CONFIG_UPDATE_DUE : ℤ := 0
@[simp] def SECONDS_IN_HOUR : ℕ := 60 * 60

@[simp] def SKY_UNKNOWN_ID1 : UInt16 := 0xFFFF
@[simp] def SKY_UNKNOWN_ID2 : UInt16 := 0xFFFF
@[simp] def SKY_UNKNOWN_ID3 : Int32 := -1
@[simp] def SKY_UNKNOWN_ID4 : Int64 := -1
@[simp] def SKY_UNKNOWN_ID5 : Int16 := -1
@[simp] def SKY_UNKNOWN_ID6 : Int32 := -1
@[simp] def SKY_UNKNOWN_TA : Int32 := -1

inductive SkyStatus
  | success
  | error
  deriving DecidableEq, Repr

inductive SkyErrno
  | none
  | neverOpen
  | alreadyOpen
  | badParameters
  | badRequestCtx
  | badSessionCtx
  | decodeError
  | encodeError
  | resourceUnavailable
  | noBeacons
  | locationUnknown
  | serverError
  | noPlugin
  | internal
  | serviceDenied
  | authRetry
  | authRetry8H
  | authRetry16H
  | authRetry1D
  | authNeedsTime
  | auth
  | badTime
  deriving DecidableEq, Repr

/-- `set_error_status`: the status that goes with an error code. -/
def errorStatus (code : SkyErrno) : SkyStatus :=
  if code = .none then .success else .error

/-- `Sky_loc_status_t`; the server may send a code outside the enumeration. -/
inductive LocStatus
  | success
  | unspecifiedError
  | badPartnerIdError
  | decodeError
  | apiServerError
  | authError
  | unableToLocate
  | other (code : ℕ)
  deriving DecidableEq, Repr

/-- `Sky_beacon_type_t` as held in a 16-bit field: a zeroed slot has code 0,
and a corrupt one a code above `SKY_BEACON_MAX`. -/
inductive SkyBeaconType
  | zero
  | ap
  | ble
  | nr
  | lte
  | umts
  | nbiot
  | cdma
  | gsm
  | max
  | other (k : ℕ)
  deriving DecidableEq, Repr

def SkyBeaconType.code : SkyBeaconType → ℕ
  | zero => 0
  | ap => 1
  | ble => 2
  | nr => 3
  | lte => 4
  | umts => 5
  | nbiot => 6
  | cdma => 7
  | gsm => 8
  | max => 9
  | other k => 10 + k

/-- `struct header`. -/
structure BeaconHeader where
  magic : UInt16
  type : SkyBeaconType
  age : UInt32
  rssi : Int16
  priority : FloatVal
  connected : Bool
  deriving DecidableEq, Repr

/-- `struct ap` without its header. A `Vap_t` is one byte: the replacement
value in the low nibble and the nibble index in the high one. -/
structure Ap where
  mac : Vector UInt8 6
  freq : UInt32
  used : Bool
  vgLen : UInt8
  vg : Vector UInt8 6
  vgProp : Vector Bool 4
  deriving DecidableEq, Repr

structure Cell where
  id1 : UInt16
  id2 : UInt16
  id3 : Int32
  id4 : Int64
  id5 : Int16
  freq : Int32
  ta : Int32
  deriving DecidableEq, Repr

structure Beacon where
  h : BeaconHeader
  ap : Ap
  cell : Cell
  deriving DecidableEq, Repr

/-- A beacon after `memset(&b, 0, sizeof(b))`. -/
def Beacon.zero : Beacon where
  h := ⟨0, .zero, 0, 0, .fin 0, false⟩
  ap := ⟨Vector.replicate 6 0, 0, false, 0, Vector.replicate 6 0, Vector.replicate 4 false⟩
  cell := ⟨0, 0, 0, 0, 0, 0, 0⟩

/-- An empty slot as prepared by `sky_open` and `sky_new_request`. -/
def Beacon.empty : Beacon :=
  { Beacon.zero with h := { Beacon.zero.h with magic := BEACON_MAGIC, type := .max } }

structure Gnss where
  lat : FloatVal
  lon : FloatVal
  hpe : UInt32
  alt : FloatVal
  vpe : UInt32
  speed : FloatVal
  bearing : FloatVal
  nsat : UInt32
  age : UInt32
  deriving DecidableEq, Repr

def Gnss.zero : Gnss := ⟨.fin 0, .fin 0, 0, .fin 0, 0, .fin 0, .fin 0, 0, 0⟩

/-- `Sky_location_t`; of the downlink pointer only whether it is set. -/
structure SkyLocation where
  lat : FloatVal
  lon : FloatVal
  hpe : UInt16
  time : ℤ
  locationSource : ℕ
  locationStatus : LocStatus
  dlAppData : Bool
  dlAppDataLen : ℕ
  deriving DecidableEq, Repr

def SkyLocation.zero : SkyLocation := ⟨.fin 0, .fin 0, 0, 0, 0, .success, false, 0⟩

/-- `Sky_cacheline_t`. -/
structure SkyCacheline where
  numBeacons : ℕ
  numAp : ℕ
  time : ℤ
  beacon : List Beacon
  gnss : Gnss
  loc : SkyLocation
  deriving DecidableEq, Repr

structure SkyHeader where
  magic : UInt32
  size : UInt32
  time : UInt32
  crc32 : UInt32
  deriving DecidableEq, Repr

inductive SkyTbrState
  | disabled
  | unregistered
  | registered
  deriving DecidableEq, Repr

structure SkyConfig where
  lastConfigTime : ℤ
  totalBeacons : UInt32
  maxApBeacons : UInt32
  cacheAgeThreshold : UInt32
  cacheBeaconThreshold : UInt32
  cacheNegRssiThreshold : UInt32
  cacheMatchAllThreshold : UInt32
  cacheMatchUsedThreshold : UInt32
  maxVapPerAp : UInt32
  maxVapPerRq : UInt32
  deriving DecidableEq, Repr

def SkyConfig.zero : SkyConfig := ⟨0, 0, 0, 0, 0, 0, 0, 0, 0, 0⟩

/-- The plugin tables that `sky_register_plugins` knows. -/
inductive SkyPluginTable
  | apPluginBasic
  | cellPluginBasic
  deriving DecidableEq, Repr

/-- `Sky_sctx_t`. Of the callbacks only whether `rand_bytes` is set is kept;
the values that the time callback returns are arguments of the calls. -/
structure SkySctx where
  header : SkyHeader
  openFlag : Bool
  randBytes : Bool
  minLevel : Int32
  plugins : List SkyPluginTable
  deviceId : List UInt8
  tokenId : UInt32
  ulAppData : List UInt8
  sku : Vector UInt8 33
  cc : UInt16
  backoff : SkyErrno
  partnerId : UInt32
  aesKey : Vector UInt8 16
  numCachelines : ℤ
  cacheline : List SkyCacheline
  config : SkyConfig
  cacheHits : UInt8
  deriving DecidableEq, Repr

/-- `Sky_rctx_t`; the session it points to is passed along with it. -/
structure SkyRctx where
  header : SkyHeader
  numBeacons : ℕ
  numAp : ℕ
  beacon : List Beacon
  gnss : Gnss
  hit : Bool
  getFrom : ℤ
  saveTo : ℤ
  authState : SkyTbrState
  dlAppDataLen : ℕ
  dlAppData : List UInt8
  deriving DecidableEq, Repr

/-- `NUM_CELLS`, a subtraction reduced to 16 bits. -/
def numCells (numBeacons numAp : ℕ) : ℕ := (numBeacons + 65536 - numAp) % 65536

def Beacon.isApType (b : Beacon) : Bool := b.h.type = .ap

def Beacon.isCellType (b : Beacon) : Bool := 3 ≤ b.h.type.code ∧ b.h.type.code ≤ 8

def Beacon.isCellNmr (b : Beacon) : Bool := b.isCellType && b.cell.id2 = SKY_UNKNOWN_ID2

/-- `has_gnss`. -/
def Gnss.present (g : Gnss) : Bool := !g.lat.isNan

namespace SkyRctx

/-- The slots below `num_beacons`. -/
def live (r : SkyRctx) : List Beacon := r.beacon.take r.numBeacons

/-- The slots below `num_ap`. -/
def aps (r : SkyRctx) : List Beacon := r.beacon.take r.numAp

/-- Slot `i`; outside the array the content is not the context's. -/
def slot (r : SkyRctx) (i : ℤ) : Beacon :=
  if 0 ≤ i then r.beacon.getD i.toNat Beacon.zero else Beacon.zero

/-- Rewrite the first slots to `l` and count them. The slots past the list keep
what they held; a list longer than the array shows as a longer array. -/
def setLive (r : SkyRctx) (l : List Beacon) : SkyRctx :=
  { r with numBeacons := l.length, beacon := l ++ r.beacon.drop l.length }

def isCacheHit (r : SkyRctx) : Bool := r.getFrom ≠ -1 && r.hit

def isCacheMiss (r : SkyRctx) : Bool := r.hit = false

end SkyRctx

namespace SkyCacheline

/-- A cacheline after `memset`, with the empty slots of `sky_open`. -/
def cleared : SkyCacheline where
  numBeacons := 0
  numAp := 0
  time := CACHE_EMPTY
  beacon := List.replicate TOTAL_BEACONS Beacon.empty
  gnss := Gnss.zero
  loc := SkyLocation.zero

def live (cl : SkyCacheline) : List Beacon := cl.beacon.take cl.numBeacons

def aps (cl : SkyCacheline) : List Beacon := cl.beacon.take cl.numAp

end SkyCacheline

/-- The cachelines that the loops over `num_cachelines` visit. -/
def SkySctx.lines (s : SkySctx) : List SkyCacheline := s.cacheline.take s.numCachelines.toNat

end EmbeddedClient
