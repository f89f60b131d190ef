import EmbeddedClient.Model.Types

/-!
# Checksums, validators and defaults

The functions of `crc32.c` and the parts of `utilities.c` that the other modules
call: the validators of beacons, request contexts and session contexts, the
configuration defaults and the trimming of virtual groups. A validator returns
its verdict together with the value it leaves behind, since it rewrites some
out-of-range fields while it checks.
-/

namespace EmbeddedClient

open Binary32

/-- One of the eight shifts `sky_crc32` makes for each byte. -/
def crcShift (crc : UInt32) : UInt32 := (crc >>> 1) ^^^ (0xEDB88320 &&& (0 - (crc &&& 1)))

def skyCrc32 (msg : List UInt8) : UInt32 :=
  ~~~(msg.foldl (fun crc byte => crcShift^[8] (crc ^^^ byte.toUInt32)) 0xFFFFFFFF)

def wordBytes (w : UInt32) : List UInt8 :=
  [w.toUInt8, (w >>> 8).toUInt8, (w >>> 16).toUInt8, (w >>> 24).toUInt8]

/-- The checksum over the header words in front of `crc32`. -/
def SkyHeader.checksum (h : SkyHeader) : UInt32 :=
  skyCrc32 (wordBytes h.magic ++ wordBytes h.size ++ wordBytes h.time)

def SkyHeader.seal (h : SkyHeader) : SkyHeader := { h with crc32 := h.checksum }

/-- Truncation of a `time_t` to the 32-bit header field. -/
def timeWord (t : ℤ) : UInt32 := UInt32.ofInt t

/-- `sizeof(Sky_sctx_t)` with 64-bit pointers, by number of cachelines. -/
def sizeofSkySctx (cacheSize : ℕ) : UInt32 := UInt32.ofNat (416 + 1672 * cacheSize)

/-- `sizeof(Sky_rctx_t)` with 64-bit pointers. -/
def sizeofSkyRctx : UInt32 := 1816

/-- `CACHE_SIZE`: the length of the cacheline array in the session buffer. -/
def SkySctx.cacheSize (s : SkySctx) : ℕ := s.cacheline.length

/-- A signal strength outside `lo..hi` becomes unknown. -/
def Beacon.clampRssi (lo hi : ℤ) (b : Beacon) : Beacon :=
  if hi < b.h.rssi.toInt ∨ b.h.rssi.toInt < lo then { b with h := { b.h with rssi := -1 } } else b

/-- `validate_mac`: not all zeros and not all ones. -/
def validateMac (mac : Vector UInt8 6) : Bool :=
  !((mac[0] = 0 || mac[0] = 0xff) && mac.toList.all (· = mac[0]))

namespace Cell

/-- Some but not all of the primary identifiers are unknown. -/
def primaryIdsPartial (c : Cell) : Bool :=
  (c.id1 = SKY_UNKNOWN_ID1 || c.id2 = SKY_UNKNOWN_ID2 || c.id4 = SKY_UNKNOWN_ID4) &&
    !(c.id1 = SKY_UNKNOWN_ID1 && c.id2 = SKY_UNKNOWN_ID2 && c.id4 = SKY_UNKNOWN_ID4)

def mccOutside (c : Cell) : Bool :=
  c.id1 ≠ SKY_UNKNOWN_ID1 && (c.id1.toNat < 200 || 799 < c.id1.toNat)

def mncOutside (c : Cell) : Bool := c.id2 ≠ SKY_UNKNOWN_ID2 && 999 < c.id2.toNat

def id3Outside (c : Cell) (lo hi : ℤ) : Bool :=
  c.id3 ≠ SKY_UNKNOWN_ID3 && (c.id3.toInt < lo || hi < c.id3.toInt)

def id4Outside (c : Cell) (lo hi : ℤ) : Bool :=
  c.id4 ≠ SKY_UNKNOWN_ID4 && (c.id4.toInt < lo || hi < c.id4.toInt)

def id5Outside (c : Cell) (lo hi : ℤ) : Bool :=
  c.id5 ≠ SKY_UNKNOWN_ID5 && (c.id5.toInt < lo || hi < c.id5.toInt)

/-- The LTE and UMTS branches compare `id5` with an upper bound only. -/
def id5Above (c : Cell) (hi : ℤ) : Bool := c.id5 ≠ SKY_UNKNOWN_ID5 && hi < c.id5.toInt

def freqOutside (c : Cell) (lo hi : ℤ) : Bool :=
  c.freq ≠ SKY_UNKNOWN_ID6 && (c.freq.toInt < lo || hi < c.freq.toInt)

/-- The LTE branch compares `freq` with an upper bound only. -/
def freqAbove (c : Cell) (hi : ℤ) : Bool := c.freq ≠ SKY_UNKNOWN_ID6 && hi < c.freq.toInt

def taOutside (c : Cell) (lo hi : ℤ) : Bool :=
  c.ta ≠ SKY_UNKNOWN_TA && (c.ta.toInt < lo || hi < c.ta.toInt)

def lteInRange (c : Cell) : Bool :=
  !c.primaryIdsPartial &&
  !(c.mccOutside || c.mncOutside || c.id3Outside 1 65535 || c.id4Outside 0 268435455 ||
    c.id5Above 503 || c.freqAbove 262143 || c.taOutside 0 7690)

def nbiotInRange (c : Cell) : Bool :=
  !c.primaryIdsPartial &&
  !(c.mccOutside || c.mncOutside || c.id3Outside 1 65535 || c.id4Outside 0 268435455 ||
    c.id5Outside 0 503 || c.freqOutside 0 262143)

/-- The GSM branch counts `id3` among the primary identifiers and bounds neither
`id3` nor `id4`. -/
def gsmInRange (c : Cell) : Bool :=
  !((c.id1 = SKY_UNKNOWN_ID1 || c.id2 = SKY_UNKNOWN_ID2 || c.id3 = SKY_UNKNOWN_ID3 ||
      c.id4 = SKY_UNKNOWN_ID4) &&
    !(c.id1 = SKY_UNKNOWN_ID1 && c.id2 = SKY_UNKNOWN_ID2 && c.id3 = SKY_UNKNOWN_ID3 &&
      c.id4 = SKY_UNKNOWN_ID4)) &&
  !(c.mccOutside || c.mncOutside || c.id5Outside 0 63 || c.freqOutside 1 1023 ||
    c.taOutside 0 63)

def umtsInRange (c : Cell) : Bool :=
  !c.primaryIdsPartial &&
  !(c.mccOutside || c.mncOutside || c.id4Outside 0 268435455 || c.id5Above 511 ||
    c.freqOutside 412 262143)

/-- A CDMA cell has no neighbour form: every identifier must be known. -/
def cdmaInRange (c : Cell) : Bool :=
  !(c.id2 = SKY_UNKNOWN_ID2 || c.id3 = SKY_UNKNOWN_ID3 || c.id4 = SKY_UNKNOWN_ID4) &&
  !(32767 < c.id2.toNat || c.id3.toInt < 0 || 65535 < c.id3.toInt || c.id4.toInt < 0 ||
    65535 < c.id4.toInt)

def nrInRange (c : Cell) : Bool :=
  !c.primaryIdsPartial &&
  !(c.mccOutside || c.mncOutside || c.id4Outside 0 68719476735 || c.id5Outside 0 107 ||
    c.freqOutside 0 3279165 || c.taOutside 0 3846)

end Cell

/-- What follows the range checks of a cell: a neighbour cell is neither
connected nor has a timing advance. -/
def Beacon.normalizeNmr (b : Beacon) : Beacon :=
  if b.isCellNmr then
    { b with h := { b.h with connected := false }, cell := { b.cell with ta := SKY_UNKNOWN_TA } }
  else b

/-- The shape of the six cell branches of `validate_beacon`. -/
def validateCell (lo hi : ℤ) (inRange : Cell → Bool) (b : Beacon) : Bool × Beacon :=
  if inRange b.cell then (true, (b.clampRssi lo hi).normalizeNmr) else (false, b.clampRssi lo hi)

/-- A frequency outside the WiFi bands becomes unknown. -/
def Beacon.clampFreq (b : Beacon) : Beacon :=
  if b.ap.freq < 2400 ∨ 6000 < b.ap.freq then { b with ap := { b.ap with freq := 0 } } else b

/-- The AP branch of `validate_beacon`. -/
def validateAp (b : Beacon) : Bool × Beacon :=
  (validateMac b.ap.mac, (b.clampRssi (-127) (-10)).clampFreq)

/-- `validate_beacon`: the verdict and the beacon as left behind. -/
def validateBeacon (b : Beacon) : Bool × Beacon :=
  if b.h.magic ≠ BEACON_MAGIC then (false, b)
  else match b.h.type with
    | .ap => validateAp b
    | .lte => validateCell (-140) (-40) Cell.lteInRange b
    | .nbiot => validateCell (-156) (-44) Cell.nbiotInRange b
    | .gsm => validateCell (-128) (-32) Cell.gsmInRange b
    | .umts => validateCell (-120) (-20) Cell.umtsInRange b
    | .cdma => validateCell (-140) (-49) Cell.cdmaInRange b
    | .nr => validateCell (-140) (-40) Cell.nrInRange b
    | _ => (false, b)

/-- The slot loop of `validate_request_ctx`, with `live` slots still in use. -/
def validateSlots : ℕ → List Beacon → Bool × List Beacon
  | _, [] => (true, [])
  | 0, b :: bs =>
    if b.h.magic ≠ BEACON_MAGIC ∨ SkyBeaconType.max.code < b.h.type.code then (false, b :: bs)
    else
      let rest := validateSlots 0 bs
      (rest.1, b :: rest.2)
  | live + 1, b :: bs =>
    let v := validateBeacon b
    if v.1 then
      let rest := validateSlots live bs
      (rest.1, v.2 :: rest.2)
    else (false, v.2 :: bs)

/-- `validate_request_ctx`: the verdict and the context as left behind. -/
def validateRequestCtx (r : SkyRctx) : Bool × SkyRctx :=
  if TOTAL_BEACONS + 1 < r.numBeacons then (false, r)
  else if MAX_AP_BEACONS + 1 < r.numAp then (false, r)
  else if r.header.magic = SKY_MAGIC ∧ r.header.crc32 = r.header.checksum then
    let v := validateSlots r.numBeacons (r.beacon.take TOTAL_BEACONS)
    (v.1, { r with beacon := v.2 ++ r.beacon.drop TOTAL_BEACONS })
  else (false, r)

/-- The checks `validate_session_ctx` makes on one cacheline. -/
def validateCacheline (cl : SkyCacheline) : Bool :=
  cl.numBeacons ≤ TOTAL_BEACONS &&
  (cl.beacon.take TOTAL_BEACONS).all fun b =>
    b.h.magic = BEACON_MAGIC && b.h.type.code ≤ SkyBeaconType.max.code

/-- `validate_session_ctx` on a session buffer that is not `NULL`. -/
def validateSessionCtx (s : SkySctx) : Bool :=
  s.header.magic = SKY_MAGIC && s.header.crc32 = s.header.checksum &&
  s.header.size = sizeofSkySctx s.cacheSize && s.lines.all validateCacheline

def SkySctx.isTbrEnabled (s : SkySctx) : Bool := s.sku[0] ≠ 0

def orDefault (value : UInt32) (default : ℕ) : UInt32 :=
  if value = 0 then UInt32.ofNat default else value

def SkyConfig.defaults (c : SkyConfig) : SkyConfig :=
  { c with
    totalBeacons := orDefault c.totalBeacons TOTAL_BEACONS
    maxApBeacons := orDefault c.maxApBeacons MAX_AP_BEACONS
    cacheMatchUsedThreshold := orDefault c.cacheMatchUsedThreshold CACHE_MATCH_THRESHOLD_USED
    cacheMatchAllThreshold := orDefault c.cacheMatchAllThreshold CACHE_MATCH_THRESHOLD_ALL
    cacheAgeThreshold := orDefault c.cacheAgeThreshold CACHE_AGE_THRESHOLD
    cacheBeaconThreshold := orDefault c.cacheBeaconThreshold CACHE_BEACON_THRESHOLD
    cacheNegRssiThreshold := orDefault c.cacheNegRssiThreshold CACHE_RSSI_THRESHOLD
    maxVapPerAp := orDefault c.maxVapPerAp MAX_VAP_PER_AP
    maxVapPerRq := orDefault c.maxVapPerRq MAX_VAP_PER_RQ }

def configDefaults (s : SkySctx) : SkySctx := { s with config := s.config.defaults }

/-- One walk of `select_vap` over the APs: `caps` pairs each group length with
the number of children granted so far. The walk stops when the budget is spent. -/
def selectVapRound (budget : ℕ) : ℕ → Bool → List (ℕ × ℕ) → List (ℕ × ℕ) × ℕ × Bool
  | nvap, noMore, [] => ([], nvap, noMore)
  | nvap, noMore, (len, cap) :: rest =>
    if cap < len then
      if nvap + 1 = budget then ((len, cap + 1) :: rest, nvap + 1, noMore)
      else
        let next := selectVapRound budget (nvap + 1) (noMore && !(cap + 1 < len)) rest
        ((len, cap + 1) :: next.1, next.2)
    else
      let next := selectVapRound budget nvap noMore rest
      ((len, cap) :: next.1, next.2)

/-- The rounds of `select_vap`. A group length is at most 255, so `fuel = 256`
rounds are never used up. -/
def selectVapRounds (budget : ℕ) : (fuel nvap : ℕ) → List (ℕ × ℕ) → List (ℕ × ℕ)
  | 0, _, caps => caps
  | fuel + 1, nvap, caps =>
    if nvap < budget then
      let next := selectVapRound budget nvap true caps
      if next.2.2 then next.1 else selectVapRounds budget fuel next.2.1 next.1
    else caps

/-- Record in the patch bytes of AP `j` its index and the number of children. -/
def Beacon.setVap (b : Beacon) (j cap : ℕ) : Beacon :=
  { b with ap := { b.ap with
      vg := (b.ap.vg.set 1 (UInt8.ofNat j)).set 0
        (if cap = 0 then 0 else UInt8.ofNat (cap + 1)) } }

def selectVap (s : SkySctx) (r : SkyRctx) : SkyRctx :=
  let caps := selectVapRounds s.config.maxVapPerRq.toNat 256 0
    (r.aps.map fun b => (b.ap.vgLen.toNat, 0))
  let aps := (r.aps.zip caps).mapIdx fun j p => p.1.setVap j p.2.2
  { r with beacon := aps ++ r.beacon.drop r.numAp }

end EmbeddedClient
