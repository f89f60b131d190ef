import EmbeddedClient.Model.Messages

/-!
# Requests and responses

`serialize_request`, `deserialize_response` and what they call in `proto.c`.
The message encoders of nanopb and the block cipher are not part of the
repository and come in as a `Codec`. A response is given as nanopb reads it:
the length of the buffer, its first byte and the outcome of each decoding. The
byte ranges that are handed to nanopb and to the cipher are recorded.
-/

namespace EmbeddedClient

open Binary32 (FloatVal)

/-- The message encoders and the cipher. Sizes are lengths of what is written. -/
structure Codec where
  rqHeader : RqHeader → List UInt8
  cryptoInfo : CryptoInfo → List UInt8
  rq : Rq → List UInt8
  aesCbcEncrypt : Vector UInt8 16 → List UInt8 → List UInt8 → List UInt8

/-- `Rq_callback`: the beacon fields, empty for a registration request. -/
def rqCallback (s : SkySctx) (r : SkyRctx) (rq : Rq) : Rq :=
  if !s.isTbrEnabled || s.tokenId ≠ TBR_TOKEN_UNKNOWN then
    { rq with
      aps := if r.numAp ≠ 0 then encodeApFields r else []
      vaps := encodeVapData 11 (getNumVaps r) (getVapData r)
      cells := if getNumCells r ≠ 0 then encodeCellFields r else []
      gnss := if r.gnss.present then some r.gnss else none }
  else rq

/-- The characters of `sku` up to the terminator. -/
def skuChars (sku : Vector UInt8 33) : List UInt8 := sku.toList.takeWhile (· ≠ 0)

/-- The request body that `serialize_request` builds. -/
def buildRq (s : SkySctx) (r : SkyRctx) : Rq :=
  let rq : Rq :=
    { deviceId := [], timestamp := r.header.time.toNat, aps := [], gnss := none, cells := [],
      vaps := [], cacheHits := s.cacheHits, tokenId := 0, tbrSku := [], tbrCc := 0,
      maxDlAppData := 0, ulAppData := [] }
  let rq :=
    if s.isTbrEnabled then
      if s.tokenId = TBR_TOKEN_UNKNOWN then
        { rq with deviceId := s.deviceId, tbrSku := skuChars s.sku, tbrCc := s.cc }
      else
        { rq with tokenId := s.tokenId, maxDlAppData := SKY_MAX_DL_APP_DATA,
                  ulAppData := s.ulAppData, deviceId := s.deviceId }
    else { rq with ulAppData := s.ulAppData, deviceId := s.deviceId }
  rqCallback s r rq

/-- The padding to whole cipher blocks. -/
def aesPadding (size : ℕ) : ℕ := (AES_BLOCKLEN - size % AES_BLOCKLEN) % AES_BLOCKLEN

/-- The three messages of a request, as they are measured and written. -/
structure Envelope where
  header : List UInt8
  cryptoInfo : List UInt8
  body : List UInt8

/-- Build the messages of a request; `random` is what `rand_bytes` writes. -/
def envelope (codec : Codec) (s : SkySctx) (r : SkyRctx) (swVersion : UInt32)
    (requestConfig : Bool) (random : List UInt8) : CryptoInfo × Envelope :=
  let body := codec.rq (buildRq s r)
  let padding := aesPadding body.length
  let cryptoInfo : CryptoInfo :=
    ⟨if s.randBytes then random else List.replicate AES_BLOCKLEN 0, Int32.ofNat padding⟩
  let cryptoBytes := codec.cryptoInfo cryptoInfo
  let header : RqHeader :=
    { partnerId := s.partnerId, cryptoInfoLength := cryptoBytes.length,
      rqLength := body.length + padding, swVersion := swVersion,
      requestClientConf := requestConfig }
  (cryptoInfo, ⟨codec.rqHeader header, cryptoBytes, body⟩)

/-- `total_length`: the length byte, the header, the crypto info and the padded body. -/
def Envelope.totalLength (e : Envelope) : ℕ :=
  1 + e.header.length + e.cryptoInfo.length + (e.body.length + aesPadding e.body.length)

/-- `serialize_request` without a buffer: the size of the request. -/
def serializedSize (codec : Codec) (s : SkySctx) (r : SkyRctx) (swVersion : UInt32)
    (requestConfig : Bool) (random : List UInt8) : ℕ :=
  (envelope codec s r swVersion requestConfig random).2.totalLength

/-- `serialize_request` into a buffer: the number of bytes, or `-1` with the
buffer as it was. -/
def serializeRequest (codec : Codec) (s : SkySctx) (r : SkyRctx) (buf : List UInt8)
    (swVersion : UInt32) (requestConfig : Bool) (random : List UInt8) : ℤ × List UInt8 :=
  let e := envelope codec s r swVersion requestConfig random
  if buf.length < e.2.totalLength then (-1, buf)
  else
    let padding := aesPadding e.2.body.length
    let body := codec.aesCbcEncrypt s.aesKey e.1.iv (e.2.body ++ List.replicate padding 0)
    let written := UInt8.ofNat e.2.header.length :: (e.2.header ++ e.2.cryptoInfo ++ body)
    (1 + e.2.header.length + e.2.cryptoInfo.length + e.2.body.length + padding,
      written ++ List.replicate (buf.length - e.2.totalLength) 0)

/-- `GET_USED_AP`. The byte in front of the array is the high byte of its size,
which is zero. -/
def getUsedAp (used : List UInt8) (n : ℕ) : Bool :=
  if n / 8 < used.length then
    (used.getD (used.length - 1 - n / 8) 0) &&& (1 <<< UInt8.ofNat (n % 8)) ≠ 0
  else false

/-- The first loop of `apply_used_info_to_ap`, from bit `nap` on. -/
def usedInfoAps (used : List UInt8) : ℕ → List Beacon → ℕ × List Beacon
  | nap, [] => (nap, [])
  | nap, b :: bs =>
    let b := { b with ap := { b.ap with used := getUsedAp used nap } }
    if used.length * 8 < nap then (nap + 1, b :: bs)
    else
      let rest := usedInfoAps used (nap + 1) bs
      (rest.1, b :: rest.2)

/-- Set the property of child `v`. -/
def Beacon.setVgProp (b : Beacon) (v : ℕ) (used : Bool) : Beacon :=
  if h : v < 4 then { b with ap := { b.ap with vgProp := b.ap.vgProp.set v used } } else b

/-- One walk over the children with index `v`. -/
def usedInfoVaps (used : List UInt8) (v : ℕ) : ℕ → List Beacon → ℕ × List Beacon
  | nap, [] => (nap, [])
  | nap, b :: bs =>
    if v < b.ap.vgLen.toNat then
      if used.length * 8 < nap then (nap + 1, b.setVgProp v (getUsedAp used nap) :: bs)
      else
        let rest := usedInfoVaps used v (nap + 1) bs
        (rest.1, b.setVgProp v (getUsedAp used nap) :: rest.2)
    else
      let rest := usedInfoVaps used v nap bs
      (rest.1, b :: rest.2)

/-- The second loop of `apply_used_info_to_ap`, on the number of rounds left. -/
def usedInfoRounds (used : List UInt8) : (left v nap : ℕ) → List Beacon → List Beacon
  | 0, _, _, bs => bs
  | left + 1, v, nap, bs =>
    let round := usedInfoVaps used v nap bs
    if used.length * 8 < round.1 then round.2
    else usedInfoRounds used left (v + 1) round.1 round.2

def applyUsedInfoToAp (s : SkySctx) (r : SkyRctx) (used : List UInt8) : SkyRctx :=
  if TOTAL_BEACONS * MAX_VAP_PER_AP < used.length then r
  else
    let parents := usedInfoAps used 0 r.aps
    let aps := usedInfoRounds used s.config.maxVapPerAp.toNat 0 parents.1 parents.2
    { r with beacon := aps ++ r.beacon.drop r.numAp }

/-- Take over a value that is given, different and accepted. -/
def overrideWith (current given : UInt32) (accepted : Bool) : UInt32 :=
  if given ≠ 0 ∧ given ≠ current ∧ accepted then given else current

def SkyConfig.override (c : SkyConfig) (rs : ClientConfig) : SkyConfig :=
  let totalBeacons := overrideWith c.totalBeacons rs.totalBeacons
    (rs.totalBeacons.toNat < TOTAL_BEACONS && 1 < rs.totalBeacons)
  { c with
    totalBeacons := totalBeacons
    maxApBeacons := overrideWith c.maxApBeacons rs.maxApBeacons
      (rs.maxApBeacons.toNat < MAX_AP_BEACONS)
    cacheMatchAllThreshold := overrideWith c.cacheMatchAllThreshold rs.cacheMatchAllThreshold
      (rs.cacheMatchAllThreshold ≤ 100)
    cacheMatchUsedThreshold := overrideWith c.cacheMatchUsedThreshold rs.cacheMatchUsedThreshold
      (rs.cacheMatchUsedThreshold ≤ 100)
    cacheAgeThreshold := overrideWith c.cacheAgeThreshold rs.cacheAgeThreshold
      (rs.cacheAgeThreshold < 9000)
    cacheBeaconThreshold := overrideWith c.cacheBeaconThreshold rs.cacheBeaconThreshold
      (rs.cacheBeaconThreshold < totalBeacons)
    cacheNegRssiThreshold := overrideWith c.cacheNegRssiThreshold rs.cacheNegRssiThreshold
      (10 ≤ rs.cacheNegRssiThreshold && rs.cacheNegRssiThreshold < 128) }

def applyConfigOverrides (s : SkySctx) (rs : ClientConfig) : SkySctx :=
  let s := configDefaults s
  { s with config := s.config.override rs }

/-- A response buffer: its length, its first byte, and the message nanopb decodes
from each of the ranges it is given, if it decodes one. -/
structure Response where
  bufLen : UInt32
  hdrSize : UInt8
  header : Option RsHeader
  cryptoInfo : Option CryptoInfo
  rs : Option Rs

/-- A range of bytes, relative to the start of the response buffer. -/
structure ByteRange where
  start : ℤ
  length : ℕ
  deriving DecidableEq, Repr

def ByteRange.inside (range : ByteRange) (bufLen : ℕ) : Prop :=
  0 ≤ range.start ∧ range.start + range.length ≤ bufLen

instance (range : ByteRange) (bufLen : ℕ) : Decidable (range.inside bufLen) :=
  inferInstanceAs (Decidable (_ ∧ _))

/-- Conversion of a signed length to an unsigned type of `bits` bits. -/
def toUnsigned (bits : ℕ) (length : Int32) : ℕ := (length.toInt % 2 ^ bits).toNat

/-- Whole cipher blocks that cover a length. -/
def wholeBlocks (length : ℕ) : ℕ := (length + 15) / 16 * 16

namespace Response

/-- The comparison of the lengths, a 32-bit unsigned sum. -/
def tooShort (resp : Response) (header : RsHeader) : Bool :=
  resp.bufLen < 1 + resp.hdrSize.toUInt32 + header.cryptoInfoLength.toUInt32 +
    header.rsLength.toUInt32

def headerRange (resp : Response) : ByteRange := ⟨1, resp.hdrSize.toNat⟩

def cryptoInfoRange (resp : Response) (header : RsHeader) : ByteRange :=
  ⟨1 + resp.hdrSize.toNat, toUnsigned 64 header.cryptoInfoLength⟩

/-- Start of the encrypted body, by pointer arithmetic. -/
def bodyStart (resp : Response) (header : RsHeader) : ℤ :=
  1 + resp.hdrSize.toNat + header.cryptoInfoLength.toInt

/-- What `AES_CBC_decrypt_buffer` touches; its length argument has `bits` bits. -/
def cipherRange (bits : ℕ) (resp : Response) (header : RsHeader) : ByteRange :=
  ⟨resp.bodyStart header, wholeBlocks (toUnsigned bits header.rsLength)⟩

def bodyRange (resp : Response) (header : RsHeader) (info : CryptoInfo) : ByteRange :=
  ⟨resp.bodyStart header, toUnsigned 64 (header.rsLength - info.aesPaddingLength)⟩

end Response

/-- What `deserialize_response` leaves: whether it returned zero, the contexts,
the location and the ranges it handed out. -/
structure Deserialized where
  ok : Bool
  sctx : SkySctx
  rctx : SkyRctx
  loc : SkyLocation
  ranges : List ByteRange

/-- The location part of a response, with the writes it makes. -/
def applyLocation (s : SkySctx) (r : SkyRctx) (loc : SkyLocation) (rs : Rs) :
    SkyRctx × SkyLocation :=
  let dl := rs.dlAppData.take SKY_MAX_DL_APP_DATA
  let loc := { loc with
    time := s.header.time.toNat, lat := rs.lat.toFloat, lon := rs.lon.toFloat,
    hpe := rs.hpe.toUInt16, locationSource := rs.source, dlAppData := true,
    dlAppDataLen := dl.length }
  let r := { r with
    dlAppDataLen := dl.length, dlAppData := dl ++ r.dlAppData.drop dl.length }
  (applyUsedInfoToAp s r rs.usedAps, loc)

/-- The switch over `auth_state` at the end of `deserialize_response`. -/
def applyAuthState (s : SkySctx) (r : SkyRctx) (loc : SkyLocation) (status : LocStatus)
    (rs : Rs) : SkySctx × SkyRctx × SkyLocation :=
  match r.authState with
  | .unregistered =>
    let loc := { loc with locationStatus := .authError }
    if rs.tokenId = TBR_TOKEN_UNKNOWN then (s, r, loc)
    else ({ s with tokenId := rs.tokenId }, { r with authState := .registered }, loc)
  | .registered =>
    if status = .authError then
      ({ s with tokenId := TBR_TOKEN_UNKNOWN }, { r with authState := .unregistered },
        { loc with locationStatus := .authError })
    else (s, applyLocation s r loc rs)
  | .disabled =>
    if status = .authError then (s, r, { loc with locationStatus := .badPartnerIdError })
    else (s, applyLocation s r loc rs)

/-- The configuration part of a response. -/
def applyConfig (s : SkySctx) (rs : Rs) : SkySctx :=
  let s := applyConfigOverrides s rs.config
  if s.config.lastConfigTime = CONFIG_UPDATE_DUE then
    { s with config := { s.config with lastConfigTime := s.header.time.toNat } }
  else s

def finishResponse (s : SkySctx) (r : SkyRctx) (loc : SkyLocation) (status : LocStatus) (rs : Rs)
    (ranges : List ByteRange) : Deserialized :=
  let result := applyAuthState s r loc status rs
  ⟨true, result.1, result.2.1, result.2.2, ranges⟩

/-- `deserialize_response`; `bits` is the width of the cipher's length argument. -/
def deserializeResponse (bits : ℕ) (s : SkySctx) (r : SkyRctx) (loc : SkyLocation)
    (resp : Response) : Deserialized :=
  if resp.bufLen < 1 then ⟨false, s, r, loc, []⟩
  else if resp.bufLen < 1 + resp.hdrSize.toUInt32 then ⟨false, s, r, loc, []⟩
  else
    let ranges := [resp.headerRange]
    if resp.hdrSize = 0 then ⟨false, s, r, loc, ranges⟩
    else match resp.header with
      | none => ⟨false, s, r, loc, ranges⟩
      | some header =>
        let loc := { SkyLocation.zero with locationStatus := header.status }
        if header.rsLength = 0 then finishResponse s r loc header.status Rs.initDefault ranges
        else if resp.tooShort header then ⟨false, s, r, loc, ranges⟩
        else
          let ranges := ranges ++ [resp.cryptoInfoRange header]
          match resp.cryptoInfo with
          | none => ⟨false, s, r, loc, ranges⟩
          | some info =>
            let ranges := ranges ++ [resp.cipherRange bits header, resp.bodyRange header info]
            match resp.rs with
            | none => ⟨false, s, r, loc, ranges⟩
            | some rs => finishResponse (applyConfig s rs) r loc header.status rs ranges

end EmbeddedClient
