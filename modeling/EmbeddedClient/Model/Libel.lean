import EmbeddedClient.Model.Session

/-!
# The calls on a request context

The remaining entry points of `libel.c`: adding beacons and a position,
searching the cache, sizing and encoding the request, decoding the response.
-/

namespace EmbeddedClient

open Binary32 (FloatVal)

/-- The beacon that the `sky_add_*` functions start from. -/
def Beacon.scanned (type : SkyBeaconType) (rssi : Int16) (connected : Bool) : Beacon :=
  { Beacon.zero with
    h := { Beacon.zero.h with magic := BEACON_MAGIC, type := type, rssi := rssi,
                              connected := connected } }

/-- The calls that add a beacon, with the arguments of the C functions. -/
inductive AddCall
  | ap (mac : Vector UInt8 6) (rssi : Int16) (frequency : Int32) (isConnected : Bool)
  | lte (tac : Int32) (eCellid : Int64) (mcc mnc : UInt16) (pci : Int16) (earfcn ta : Int32)
      (rsrp : Int16) (isConnected : Bool)
  | lteNeighbor (pci : Int16) (earfcn : Int32) (rsrp : Int16)
  | gsm (lac : Int32) (ci : Int64) (mcc mnc : UInt16) (bsic : Int16) (arfcn ta : Int32)
      (rssi : Int16) (isConnected : Bool)
  | gsmNeighbor (bsic arfcn : Int16) (rscp : Int16)
  | umts (lac : Int32) (ucid : Int64) (mcc mnc : UInt16) (psc uarfcn : Int16) (rscp : Int16)
      (isConnected : Bool)
  | umtsNeighbor (psc uarfcn : Int16) (rscp : Int16)
  | cdma (sid : UInt32) (nid : Int32) (bsid : Int64) (rssi : Int16) (isConnected : Bool)
  | nbIot (mcc mnc : UInt16) (eCellid : Int64) (tac : Int32) (ncid : Int16) (earfcn : Int32)
      (nrsrp : Int16) (isConnected : Bool)
  | nbIotNeighbor (ncid : Int16) (earfcn : Int32) (nrsrp : Int16)
  | nr (mcc mnc : UInt16) (nci : Int64) (tac : Int32) (pci : Int16) (nrarfcn ta : Int32)
      (csiRsrp : Int16) (isConnected : Bool)
  | nrNeighbor (pci : Int16) (nrarfcn : Int32) (csiRsrp : Int16)
  deriving DecidableEq, Repr

namespace AddCall

/-- `sky_add_ap_beacon` up to its call of `add_beacon`. -/
def apBeacon (mac : Vector UInt8 6) (rssi : Int16) (frequency : Int32) (isConnected : Bool) :
    Beacon :=
  let b := Beacon.scanned .ap rssi isConnected
  { b with ap := { b.ap with mac := mac, freq := frequency.toUInt32 } }

def lteBeacon (tac : Int32) (eCellid : Int64) (mcc mnc : UInt16) (pci : Int16) (earfcn ta : Int32)
    (rsrp : Int16) (isConnected : Bool) : Beacon :=
  { Beacon.scanned .lte rsrp isConnected with cell := ⟨mcc, mnc, tac, eCellid, pci, earfcn, ta⟩ }

def gsmBeacon (lac : Int32) (ci : Int64) (mcc mnc : UInt16) (bsic : Int16) (arfcn ta : Int32)
    (rssi : Int16) (isConnected : Bool) : Beacon :=
  { Beacon.scanned .gsm rssi isConnected with cell := ⟨mcc, mnc, lac, ci, bsic, arfcn, ta⟩ }

def umtsBeacon (lac : Int32) (ucid : Int64) (mcc mnc : UInt16) (psc uarfcn : Int16) (rscp : Int16)
    (isConnected : Bool) : Beacon :=
  { Beacon.scanned .umts rscp isConnected with
    cell := ⟨mcc, mnc, lac, ucid, psc, uarfcn.toInt32, 0⟩ }

def cdmaBeacon (sid : UInt32) (nid : Int32) (bsid : Int64) (rssi : Int16) (isConnected : Bool) :
    Beacon :=
  { Beacon.scanned .cdma rssi isConnected with cell := ⟨0, sid.toUInt16, nid, bsid, 0, 0, 0⟩ }

def nbIotBeacon (mcc mnc : UInt16) (eCellid : Int64) (tac : Int32) (ncid : Int16) (earfcn : Int32)
    (nrsrp : Int16) (isConnected : Bool) : Beacon :=
  { Beacon.scanned .nbiot nrsrp isConnected with cell := ⟨mcc, mnc, tac, eCellid, ncid, earfcn, 0⟩ }

def nrBeacon (mcc mnc : UInt16) (nci : Int64) (tac : Int32) (pci : Int16) (nrarfcn ta : Int32)
    (csiRsrp : Int16) (isConnected : Bool) : Beacon :=
  { Beacon.scanned .nr csiRsrp isConnected with cell := ⟨mcc, mnc, tac, nci, pci, nrarfcn, ta⟩ }

/-- The beacon a call hands to `add_beacon`. A neighbour cell is a cell with
unknown primary identifiers. -/
def beacon : AddCall → Beacon
  | ap mac rssi frequency isConnected => apBeacon mac rssi frequency isConnected
  | lte tac eCellid mcc mnc pci earfcn ta rsrp isConnected =>
    lteBeacon tac eCellid mcc mnc pci earfcn ta rsrp isConnected
  | lteNeighbor pci earfcn rsrp =>
    lteBeacon SKY_UNKNOWN_ID3 SKY_UNKNOWN_ID4 SKY_UNKNOWN_ID1 SKY_UNKNOWN_ID2 pci earfcn
      SKY_UNKNOWN_TA rsrp false
  | gsm lac ci mcc mnc bsic arfcn ta rssi isConnected =>
    gsmBeacon lac ci mcc mnc bsic arfcn ta rssi isConnected
  | gsmNeighbor bsic arfcn rscp =>
    gsmBeacon SKY_UNKNOWN_ID3 SKY_UNKNOWN_ID4 SKY_UNKNOWN_ID1 SKY_UNKNOWN_ID2 bsic arfcn.toInt32
      SKY_UNKNOWN_TA rscp false
  | umts lac ucid mcc mnc psc uarfcn rscp isConnected =>
    umtsBeacon lac ucid mcc mnc psc uarfcn rscp isConnected
  | umtsNeighbor psc uarfcn rscp =>
    umtsBeacon SKY_UNKNOWN_ID3 SKY_UNKNOWN_ID4 SKY_UNKNOWN_ID1 SKY_UNKNOWN_ID2 psc uarfcn rscp false
  | cdma sid nid bsid rssi isConnected => cdmaBeacon sid nid bsid rssi isConnected
  | nbIot mcc mnc eCellid tac ncid earfcn nrsrp isConnected =>
    nbIotBeacon mcc mnc eCellid tac ncid earfcn nrsrp isConnected
  | nbIotNeighbor ncid earfcn nrsrp =>
    nbIotBeacon SKY_UNKNOWN_ID1 SKY_UNKNOWN_ID2 SKY_UNKNOWN_ID4 SKY_UNKNOWN_ID3 ncid earfcn nrsrp
      false
  | nr mcc mnc nci tac pci nrarfcn ta csiRsrp isConnected =>
    nrBeacon mcc mnc nci tac pci nrarfcn ta csiRsrp isConnected
  | nrNeighbor pci nrarfcn csiRsrp =>
    nrBeacon SKY_UNKNOWN_ID1 SKY_UNKNOWN_ID2 SKY_UNKNOWN_ID4 SKY_UNKNOWN_ID3 pci nrarfcn
      SKY_UNKNOWN_TA csiRsrp false

end AddCall

/-- The `sky_add_*_beacon` functions. -/
def skyAddBeacon (s : SkySctx) (r : SkyRctx) (errno : SkyErrno) (call : AddCall)
    (timestamp : ℤ) : AddResult :=
  addBeacon s r errno call.beacon timestamp

structure GnssArgs where
  lat : FloatVal
  lon : FloatVal
  hpe : UInt16
  altitude : FloatVal
  vpe : UInt16
  speed : FloatVal
  bearing : FloatVal
  nsat : UInt16
  timestamp : ℤ

/-- The age `sky_add_gnss` gives a position; `none` is the error `SKY_ERROR_BAD_TIME`. -/
def gnssAge (requestTime : UInt32) (timestamp : ℤ) : Option UInt32 :=
  if requestTime = 0 ∨ timestamp = TIME_UNAVAILABLE then some 0
  else if 0 ≤ (requestTime.toNat : ℤ) - timestamp ∧ 0 < timestamp - TIMESTAMP_2019_03_01 then
    some (UInt32.ofInt (requestTime.toNat - timestamp))
  else none

/-- The range checks of `sky_add_gnss`. -/
def GnssArgs.outOfRange (args : GnssArgs) : Bool :=
  (!args.altitude.isNan &&
      (args.altitude.lt (.fin (-1200)) || FloatVal.lt (.fin 8900) args.altitude)) ||
    100000 < args.hpe.toNat || args.speed.lt (.fin 0) || FloatVal.lt (.fin 343) args.speed ||
    100 < args.nsat.toNat

/-- `sky_add_gnss`. The age is written before the checks. -/
def skyAddGnss (r : SkyRctx) (args : GnssArgs) : SkyErrno × SkyRctx :=
  match gnssAge r.header.time args.timestamp with
  | none => (.badTime, r)
  | some age =>
    let r := { r with gnss := { r.gnss with age := age } }
    if args.lat.isNan || args.lon.isNan then (.none, r)
    else if args.outOfRange then (.badParameters, r)
    else
      let ctx := validateRequestCtx r
      if !ctx.1 then (.badRequestCtx, ctx.2)
      else
        (.none, { ctx.2 with gnss :=
          { lat := args.lat, lon := args.lon, hpe := args.hpe.toUInt32, alt := args.altitude,
            vpe := args.vpe.toUInt32, speed := args.speed, bearing := args.bearing,
            nsat := args.nsat.toUInt32, age := age } })

/-- Cacheline `i`; outside the array the content is not the session's. -/
def SkySctx.line (s : SkySctx) (i : ℤ) : SkyCacheline :=
  if 0 ≤ i then s.cacheline.getD i.toNat SkyCacheline.cleared else SkyCacheline.cleared

/-- What `sky_search_cache` returns; `cacheHit` is what it stores, if it does. -/
structure SearchResult where
  errno : SkyErrno
  sctx : SkySctx
  rctx : SkyRctx
  cacheHit : Option Bool
  loc : SkyLocation

def skySearchCache (distance : Distance) (s : SkySctx) (r : SkyRctx) (loc : SkyLocation) :
    SearchResult :=
  let ctx := validateRequestCtx r
  if !ctx.1 then ⟨.badRequestCtx, s, ctx.2, none, loc⟩
  else
    let found := searchCache distance s ctx.2
    if found.2.isCacheHit then
      ⟨.none, found.1, found.2, some true,
        { (found.1.line found.2.getFrom).loc with dlAppData := false, dlAppDataLen := 0 }⟩
    else
      ⟨.none, { found.1 with cacheHits := 0 }, { found.2 with hit := false }, some false,
        { loc with locationSource := 0, locationStatus := .unableToLocate }⟩

def skyIgnoreCacheHit (r : SkyRctx) : SkyErrno × SkyRctx :=
  let ctx := validateRequestCtx r
  if !ctx.1 then (.badRequestCtx, ctx.2)
  else if ctx.2.isCacheHit then (.none, { ctx.2 with hit := false })
  else (.none, ctx.2)

@[simp] def CONFIG_REQUEST_INTERVAL : ℤ := 24 * 3600

@[simp] def SW_VERSION : UInt32 := 22

/-- Whether `sky_sizeof_request_buf` asks for new configuration. -/
def requestConfigDue (s : SkySctx) (r : SkyRctx) : Bool :=
  s.config.lastConfigTime = CONFIG_UPDATE_DUE || r.header.time = 0 ||
    CONFIG_REQUEST_INTERVAL < (r.header.time.toNat : ℤ) - s.config.lastConfigTime

/-- Replace the beacons and the position of a request by those of a cacheline. -/
def SkyRctx.populate (r : SkyRctx) (cl : SkyCacheline) : SkyRctx :=
  { r with
    numBeacons := cl.numBeacons
    numAp := cl.numAp
    beacon := cl.live ++ r.beacon.drop cl.numBeacons
    gnss := cl.gnss }

def SkySctx.markConfigDue (s : SkySctx) (r : SkyRctx) : SkySctx :=
  if requestConfigDue s r then
    { s with config := { s.config with lastConfigTime := CONFIG_UPDATE_DUE } }
  else s

/-- What `sky_sizeof_request_buf` does to the contexts before it measures. -/
def prepareRequest (s : SkySctx) (r : SkyRctx) : SkySctx × SkyRctx :=
  let s := s.markConfigDue r
  if r.isCacheHit then
    if s.cacheHits < 127 then
      ({ s with cacheHits := s.cacheHits + 1 }, r.populate (s.line r.getFrom))
    else ({ s with cacheHits := 0 }, { r with getFrom := -1 })
  else (s, selectVap s r)

structure SizeResult where
  errno : SkyErrno
  sctx : SkySctx
  rctx : SkyRctx
  size : Option ℕ

/-- `sky_sizeof_request_buf` with a pointer to the size. -/
def skySizeofRequestBuf (codec : Codec) (s : SkySctx) (r : SkyRctx) (random : List UInt8) :
    SizeResult :=
  let ctx := validateRequestCtx r
  if !ctx.1 then ⟨.badRequestCtx, s, ctx.2, none⟩
  else
    let prepared := prepareRequest s ctx.2
    let size := serializedSize codec prepared.1 prepared.2 SW_VERSION (requestConfigDue s ctx.2)
      random
    if 0 < size then ⟨.none, prepared.1, prepared.2, some size⟩
    else ⟨.encodeError, prepared.1, prepared.2, none⟩

/-- What `sky_encode_request` returns: the buffer afterwards and, on success, the
number of bytes of the request. -/
structure EncodeResult where
  errno : SkyErrno
  rctx : SkyRctx
  buf : Option (List UInt8)
  written : Option ℤ

def skyEncodeRequest (codec : Codec) (s : SkySctx) (r : SkyRctx) (buf : Option (List UInt8))
    (random : List UInt8) : EncodeResult :=
  let ctx := validateRequestCtx r
  if !ctx.1 then ⟨.badRequestCtx, ctx.2, buf, none⟩
  else if backoffViolation s ctx.2.header.time.toNat then ⟨.serviceDenied, ctx.2, buf, none⟩
  else if ctx.2.numBeacons = 0 ∧ !ctx.2.gnss.present then ⟨.noBeacons, ctx.2, buf, none⟩
  else match buf with
    | none => ⟨.badParameters, ctx.2, none, none⟩
    | some buf =>
      let rc := serializeRequest codec s ctx.2 buf SW_VERSION
        (s.config.lastConfigTime = CONFIG_UPDATE_DUE) random
      if 0 < rc.1 then ⟨.none, ctx.2, some rc.2, some rc.1⟩
      else ⟨.encodeError, ctx.2, some rc.2, none⟩

structure DecodeResult where
  errno : SkyErrno
  sctx : SkySctx
  rctx : SkyRctx
  loc : SkyLocation

/-- The next step of the backoff after a failed registration. -/
def SkyErrno.nextBackoff : SkyErrno → SkyErrno
  | none => authRetry
  | authRetry => authRetry8H
  | authRetry8H => authRetry16H
  | _ => authRetry1D

/-- The switch over the location status at the end of `sky_decode_response`;
`now` is the second reading of the clock. -/
def reportLocation (s : SkySctx) (r : SkyRctx) (loc : SkyLocation) (now : ℤ) : DecodeResult :=
  match loc.locationStatus with
  | .success =>
    let s := { s with backoff := .none }
    let loc := { loc with time := now }
    ⟨.none, (skyPluginAddToCache s.plugins s r loc).2, r, loc⟩
  | .authError =>
    match r.authState with
    | .disabled => ⟨.auth, s, r, loc⟩
    | .registered => ⟨.authRetry, { s with backoff := .none }, r, loc⟩
    | .unregistered => ⟨s.backoff.nextBackoff, { s with backoff := s.backoff.nextBackoff }, r, loc⟩
  | .badPartnerIdError | .decodeError => ⟨.auth, s, r, loc⟩
  | .unableToLocate => ⟨.locationUnknown, s, r, loc⟩
  | _ => ⟨.serverError, s, r, loc⟩

/-- `sky_decode_response` on a context, a location and a buffer that are not `NULL`;
the clock is read at `now` and, for a location, again at `later`. -/
def skyDecodeResponse (bits : ℕ) (s : SkySctx) (r : SkyRctx) (loc : SkyLocation) (resp : Response)
    (now later : ℤ) : DecodeResult :=
  let ctx := validateRequestCtx r
  if !ctx.1 then ⟨.badRequestCtx, s, ctx.2, loc⟩
  else if resp.bufLen = 0 then ⟨.badParameters, s, ctx.2, loc⟩
  else if !validateSessionCtx s then ⟨.badSessionCtx, s, ctx.2, loc⟩
  else
    let s := { s with header := SkyHeader.seal { s.header with time := timeWord now } }
    let d := deserializeResponse bits s ctx.2 loc resp
    if !d.ok then ⟨.decodeError, d.sctx, d.rctx, d.loc⟩
    else
      let s := if d.rctx.isCacheMiss then { d.sctx with cacheHits := 0 } else d.sctx
      reportLocation s d.rctx d.loc later

end EmbeddedClient
