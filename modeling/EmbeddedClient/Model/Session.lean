import EmbeddedClient.Model.Proto

/-!
# Opening a session and starting a request

`sky_open`, `sky_close`, `backoff_violation`, `sky_new_request` and the option
calls of `libel.c`. Pointers that a caller may leave out are options. What the
time callback returns is an argument of the call that asks for it.
-/

namespace EmbeddedClient

open Binary32 (FloatVal)

/-- The arguments of `sky_open` apart from the session buffer. `gettime` holds
the current time, and is missing together with the callback. -/
structure OpenArgs where
  deviceId : Option (List UInt8)
  partnerId : UInt32
  aesKey : Option (Vector UInt8 16)
  sku : Option (List UInt8)
  cc : UInt32
  minLevel : Int32
  gettime : Option ℤ

/-- The first `MAX_SKU_LEN` characters of the given SKU; `""` stands for `NULL`. -/
def OpenArgs.skuText (args : OpenArgs) : List UInt8 :=
  ((args.sku.getD []).takeWhile (· ≠ 0)).take MAX_SKU_LEN

/-- `strncpy` into the zero-padded SKU field. -/
def skuField (text : List UInt8) : Vector UInt8 33 := Vector.ofFn fun i => text.getD i 0

/-- A session buffer cleared and initialised by `sky_open` at time `now`. -/
def SkySctx.initialized (cacheSize : ℕ) (now : ℤ) : SkySctx where
  header := SkyHeader.seal ⟨SKY_MAGIC, sizeofSkySctx cacheSize, timeWord now, 0⟩
  openFlag := false
  randBytes := false
  minLevel := 0
  plugins := []
  deviceId := []
  tokenId := TBR_TOKEN_UNKNOWN
  ulAppData := []
  sku := Vector.replicate 33 0
  cc := 0
  backoff := .none
  partnerId := 0
  aesKey := Vector.replicate 16 0
  numCachelines := cacheSize
  cacheline := List.replicate cacheSize SkyCacheline.cleared
  config := SkyConfig.zero
  cacheHits := 0

/-- The comparison with the credentials of a restored session, over as many
characters of the SKU as are given now. -/
def OpenArgs.sameCredentials (args : OpenArgs) (s : SkySctx) : Bool :=
  memcmp args.skuText (s.sku.toList.take args.skuText.length) = 0 &&
    args.partnerId = s.partnerId && args.aesKey = some s.aesKey

/-- The first part of `sky_open`: whether to keep the buffer. `none` when the
session is still open. -/
def checkRestored (s : SkySctx) (args : OpenArgs) : Option SkySctx :=
  if s.header.magic = 0 then some s
  else if !validateSessionCtx s then some { s with header := { s.header with magic := 0 } }
  else if s.openFlag then none
  else if args.partnerId ≠ 0 ∧ !args.sameCredentials s then
    some { s with header := { s.header with magic := 0 } }
  else some s

/-- The last part of `sky_open`: take over the arguments. -/
def installArgs (s : SkySctx) (args : OpenArgs) (deviceId : List UInt8)
    (aesKey : Vector UInt8 16) : SkySctx :=
  let s := { s with
    deviceId := deviceId.take MAX_DEVICE_ID, partnerId := args.partnerId, aesKey := aesKey }
  let s := if args.skuText.length ≠ 0 then
      { s with sku := skuField args.skuText, cc := args.cc.toUInt16 }
    else s
  { s with
    minLevel := args.minLevel, randBytes := true, plugins := skyRegisterPlugins, openFlag := true }

/-- `sky_open` on a session buffer that is not `NULL`. -/
def skyOpen (s : SkySctx) (args : OpenArgs) : SkyErrno × SkySctx :=
  match checkRestored s args with
  | none => (.alreadyOpen, s)
  | some s =>
    match args.gettime with
    | none => (.badParameters, s)
    | some now =>
      let s := configDefaults
        (if s.header.magic = 0 then SkySctx.initialized s.cacheSize now else s)
      match args.deviceId, args.aesKey with
      | some deviceId, some aesKey => (.none, installArgs s args deviceId aesKey)
      | _, _ => (.badParameters, s)

def SKY_LOG_LEVEL_ERROR : Int32 := 2

/-- `sky_open` gets as far as the comparison of the key with that of a restored session. -/
def OpenArgs.comparesKey (args : OpenArgs) (s : SkySctx) : Bool :=
  s.header.magic ≠ 0 && validateSessionCtx s && !s.openFlag && args.partnerId ≠ 0 &&
    memcmp args.skuText (s.sku.toList.take args.skuText.length) = 0 && args.partnerId = s.partnerId

/-- `sky_open` on a buffer that may be `NULL`, with a logger or without. `none` where it reads
through a missing pointer: the check of the buffer is part of what it logs. -/
def skyOpenBuffer (logf : Bool) (args : OpenArgs) :
    Option SkySctx → Option (SkyErrno × Option SkySctx)
  | none =>
    if logf && SKY_LOG_LEVEL_ERROR ≤ args.minLevel then some (.badParameters, none) else none
  | some s =>
    if args.comparesKey s && args.aesKey.isNone then none
    else some ((skyOpen s args).1, some (skyOpen s args).2)

def skyClose (s : SkySctx) : SkyErrno × SkySctx :=
  if !s.openFlag then (.neverOpen, s) else (.none, { s with openFlag := false })

/-- The period that must pass after the last response, in seconds. -/
def SkyErrno.backoffPeriod : SkyErrno → ℤ
  | authRetry8H => 8 * 3600
  | authRetry16H => 16 * 3600
  | authRetry1D => 24 * 3600
  | _ => 0

def backoffViolation (s : SkySctx) (now : ℤ) : Bool :=
  match s.backoff with
  | .authRetry8H | .authRetry16H | .authRetry1D =>
    now - s.header.time.toNat < s.backoff.backoffPeriod
  | .authNeedsTime => now = TIME_UNAVAILABLE
  | _ => false

/-- The request context `sky_new_request` sets up. -/
def SkyRctx.initialized (s : SkySctx) (now : ℤ) : SkyRctx where
  header := SkyHeader.seal ⟨SKY_MAGIC, sizeofSkyRctx, timeWord now, 0⟩
  numBeacons := 0
  numAp := 0
  beacon := List.replicate TOTAL_BEACONS Beacon.empty ++ [Beacon.zero]
  gnss := { Gnss.zero with lat := .nan }
  hit := false
  getFrom := -1
  saveTo := -1
  authState :=
    if !s.isTbrEnabled then .disabled
    else if s.tokenId = TBR_TOKEN_UNKNOWN then .unregistered
    else .registered
  dlAppDataLen := 0
  dlAppData := List.replicate SKY_MAX_DL_APP_DATA 0

/-- The time a request starts with; a clock before March 2019 is not trusted. -/
def startTime (now : ℤ) : ℤ := if now - TIMESTAMP_2019_03_01 < 0 then TIME_UNAVAILABLE else now

/-- The clearing of one cacheline by `sky_new_request`. -/
def SkyCacheline.renew (c : SkyConfig) (now : ℤ) (cl : SkyCacheline) : SkyCacheline :=
  let cl :=
    if c.maxApBeacons.toNat < cl.numAp ∨ c.totalBeacons.toNat < cl.numBeacons then
      { cl with time := TIME_UNAVAILABLE }
    else cl
  if cl.time ≠ CACHE_EMPTY ∧ now = TIME_UNAVAILABLE then { cl with time := CACHE_EMPTY }
  else if cl.time ≠ CACHE_EMPTY ∧ (c.ageLimit : ℤ) < now - cl.time then
    { cl with time := CACHE_EMPTY }
  else cl

/-- What a call on a session and a request context returns. -/
structure NewRequest where
  errno : Option SkyErrno
  sctx : SkySctx
  rctx : Option SkyRctx
  deriving DecidableEq

/-- `sky_new_request`: the context it returns, if it returns one, and the error
code it stores, if it stores one. -/
def skyNewRequest (rbufsize : UInt32) (s : SkySctx) (ulAppData : List UInt8) (now : ℤ) :
    NewRequest :=
  if rbufsize ≠ sizeofSkyRctx then ⟨some .badParameters, s, none⟩
  else if !s.openFlag then ⟨some .neverOpen, s, none⟩
  else if backoffViolation s (startTime now) then ⟨some .serviceDenied, s, none⟩
  else
    let s' := { s with
      cacheline := s.cacheline.map (SkyCacheline.renew s.config (startTime now))
      ulAppData := ulAppData }
    ⟨none, s', some (SkyRctx.initialized s now)⟩

/-- `Sky_config_name_t`; any other value of the argument is `other`. -/
inductive SkyConfigName
  | totalBeacons
  | maxApBeacons
  | cacheMatchThreshold
  | cacheAgeThreshold
  | cacheBeaconThreshold
  | cacheNegRssiThreshold
  | cacheMatchAllThreshold
  | cacheMatchUsedThreshold
  | maxVapPerAp
  | maxVapPerRq
  | loggingLevel
  | other
  deriving DecidableEq, Repr

/-- The shape of the cases of `sky_set_option`: a signed comparison, then a
conversion to the unsigned field. -/
def setConfig (s : SkySctx) (value : Int32) (rejected : Bool) (set : UInt32 → SkyConfig) :
    SkyErrno × SkySctx :=
  if rejected then (.badParameters, s) else (.none, { s with config := set value.toUInt32 })

def skySetOption (s : SkySctx) (name : SkyConfigName) (value : Int32) : SkyErrno × SkySctx :=
  let above (bound : ℕ) : Bool := (bound : ℤ) < value.toInt
  match name with
  | .totalBeacons =>
    setConfig s value (above TOTAL_BEACONS || value.toInt < 6)
      fun v => { s.config with totalBeacons := v }
  | .maxApBeacons =>
    setConfig s value (above MAX_AP_BEACONS) fun v => { s.config with maxApBeacons := v }
  | .cacheAgeThreshold =>
    setConfig s value false fun v => { s.config with cacheAgeThreshold := v }
  | .cacheBeaconThreshold =>
    setConfig s value (above TOTAL_BEACONS) fun v => { s.config with cacheBeaconThreshold := v }
  | .cacheNegRssiThreshold =>
    setConfig s value (above 128) fun v => { s.config with cacheNegRssiThreshold := v }
  | .cacheMatchAllThreshold =>
    setConfig s value (above 100) fun v => { s.config with cacheMatchAllThreshold := v }
  | .cacheMatchUsedThreshold =>
    setConfig s value (above 100) fun v => { s.config with cacheMatchUsedThreshold := v }
  | .maxVapPerAp =>
    setConfig s value (above TOTAL_BEACONS) fun v => { s.config with maxVapPerAp := v }
  | .maxVapPerRq =>
    setConfig s value (above TOTAL_BEACONS) fun v => { s.config with maxVapPerRq := v }
  | .loggingLevel => (.none, { s with minLevel := value })
  | .cacheMatchThreshold | .other => (.badParameters, s)

end EmbeddedClient
