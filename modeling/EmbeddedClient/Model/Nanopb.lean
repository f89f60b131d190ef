import EmbeddedClient.Model.Proto
import EmbeddedClient.Support.Record

/-!
# The messages in nanopb's format

The field lists of `el.pb.h` for the messages that a client sends, in the order in which
nanopb writes them: a number that is zero, and a string or message that is empty, is left
out. The position goes out through `encode_gnss_fields`. The legacy cell submessages of `Rq`
and its fields `score`, `ctx` and `cache` are never filled, and so never written. Of a response
nanopb and the cipher are given ranges of the buffer; the body is decrypted in place.
-/

namespace EmbeddedClient

open Binary32 (FloatVal)
open Varint

def getNumGnss (g : Gnss) : ℕ := if g.present then 1 else 0

def getGnssLat (g : Gnss) : FloatVal := if g.present then g.lat else .nan

def getGnssLon (g : Gnss) : FloatVal := if g.present then g.lon else .nan

def getGnssHpe (g : Gnss) : ℤ := if g.present then g.hpe.toNat else 0

def getGnssAlt (g : Gnss) : FloatVal := if g.present then g.alt else .nan

def getGnssVpe (g : Gnss) : ℤ := if g.present then g.vpe.toNat else 0

def getGnssSpeed (g : Gnss) : FloatVal := if g.present then g.speed else .nan

/-- `get_gnss_bearing`, which converts to an integer as it returns. -/
def getGnssBearing (g : Gnss) : ℤ := (if g.present then g.bearing else .fin 0).toInt 0

def getGnssNsat (g : Gnss) : ℤ := if g.present then g.nsat.toNat else 0

def getGnssAge (g : Gnss) : ℤ := if g.present then g.age.toNat else 0

/-- The shape of the `_scaled` getters: a product of doubles, exact for a value with 24
significant bits, and its conversion to an integer. -/
def scaled (value : FloatVal) (factor : ℚ) : ℤ := (value.mul id (.fin factor)).toInt 0

def getGnssLatScaled (g : Gnss) : ℤ := scaled (getGnssLat g) 1000000

def getGnssLonScaled (g : Gnss) : ℤ := scaled (getGnssLon g) 1000000

def getGnssAltScaled (g : Gnss) : ℤ := scaled (getGnssAlt g) 10

def getGnssSpeedScaled (g : Gnss) : ℤ := scaled (getGnssSpeed g) 10

def encodeGnssFields (g : Gnss) : List UInt8 :=
  let numGnss := getNumGnss g
  encodeRepeatedIntField 1 numGnss (fun _ => getGnssLatScaled g) ++
  encodeRepeatedIntField 2 numGnss (fun _ => getGnssLonScaled g) ++
  encodeRepeatedIntField 3 numGnss (fun _ => getGnssHpe g) ++
  encodeRepeatedIntField 4 numGnss (fun _ => getGnssAltScaled g) ++
  encodeRepeatedIntField 5 numGnss (fun _ => getGnssVpe g) ++
  encodeRepeatedIntField 6 numGnss (fun _ => getGnssSpeedScaled g) ++
  encodeRepeatedIntField 7 numGnss (fun _ => getGnssBearing g) ++
  encodeRepeatedIntField 8 numGnss (fun _ => getGnssNsat g) ++
  encodeRepeatedIntField 9 numGnss (fun _ => getGnssAge g)

/-- A number; a negative one goes out as its 64-bit two's complement. -/
def staticInt (tag : ℕ) (value : ℤ) : List Field := Field.ofInt tag (value % 2 ^ 64).toNat

/-- `RqHeader_FIELDLIST`. The partner id and the lengths are converted to `int32_t`. -/
def RqHeader.fields (header : RqHeader) : List Field :=
  staticInt 1 header.partnerId.toInt32.toInt ++
  staticInt 2 (Int32.ofNat header.cryptoInfoLength).toInt ++
  staticInt 3 (Int32.ofNat header.rqLength).toInt ++
  staticInt 4 header.swVersion.toNat ++
  staticInt 5 header.requestClientConf.toNat

/-- `CryptoInfo_FIELDLIST`. -/
def CryptoInfo.fields (info : CryptoInfo) : List Field :=
  Field.ofBytes 1 info.iv ++ staticInt 2 info.aesPaddingLength.toInt

/-- `TbrRegistration_FIELDLIST`. -/
def tbrRegistrationFields (sku : List UInt8) (cc : UInt16) : List Field :=
  Field.ofBytes 3 sku ++ staticInt 4 cc.toNat

/-- The position, written by its callback where there is one. -/
def gnssFields : Option Gnss → List Field
  | some g => [.bytes 9 (encodeGnssFields g)]
  | none => []

/-- `Rq_FIELDLIST`. The cells and the virtual groups come with their keys; the submessage
of the APs has at least the MAC addresses if it is there. -/
def Rq.encode (rq : Rq) : List UInt8 :=
  writeMessage (Field.ofBytes 1 rq.deviceId ++ staticInt 2 rq.timestamp ++ Field.ofBytes 3 rq.aps ++
    gnssFields rq.gnss) ++
  rq.cells ++ rq.vaps ++
  writeMessage (staticInt 12 rq.cacheHits.toNat ++ staticInt 17 rq.tokenId.toInt32.toInt ++
    Field.ofBytes 18 (writeMessage (tbrRegistrationFields rq.tbrSku rq.tbrCc)) ++
    staticInt 19 rq.maxDlAppData ++ Field.ofBytes 20 rq.ulAppData)

/-- The encoders write the fields of their messages. -/
structure Codec.WritesFields (codec : Codec) : Prop where
  rqHeader : ∀ header, codec.rqHeader header = writeMessage header.fields
  cryptoInfo : ∀ info, codec.cryptoInfo info = writeMessage info.fields
  rq : ∀ rq, codec.rq rq = rq.encode

/-- The encoders that write the fields of their messages, with a given cipher. -/
def Codec.nanopb (aesCbcEncrypt : Vector UInt8 16 → List UInt8 → List UInt8 → List UInt8) :
    Codec where
  rqHeader := fun header => writeMessage header.fields
  cryptoInfo := fun info => writeMessage info.fields
  rq := Rq.encode
  aesCbcEncrypt := aesCbcEncrypt

theorem Codec.nanopb_writesFields
    (cipher : Vector UInt8 16 → List UInt8 → List UInt8 → List UInt8) :
    (Codec.nanopb cipher).WritesFields :=
  ⟨fun _ => rfl, fun _ => rfl, fun _ => rfl⟩

/-- Decryption undoes the encryption of whole blocks. -/
structure Codec.DecryptedBy (codec : Codec)
    (decrypt : Vector UInt8 16 → List UInt8 → List UInt8 → List UInt8) : Prop where
  length : ∀ key iv body, AES_BLOCKLEN ∣ body.length →
    (codec.aesCbcEncrypt key iv body).length = body.length
  decrypt : ∀ key iv body, iv.length = AES_BLOCKLEN → AES_BLOCKLEN ∣ body.length →
    decrypt key iv (codec.aesCbcEncrypt key iv body) = body

@[simp] def RsHeader_size : ℕ := 24
@[simp] def CryptoInfo_size : ℕ := 29
@[simp] def Rs_size : ℕ := 211

def LocStatus.code : LocStatus → ℕ
  | success => 0
  | unspecifiedError => 1
  | badPartnerIdError => 2
  | decodeError => 3
  | apiServerError => 4
  | authError => 5
  | unableToLocate => 6
  | other code => code

/-- `RsHeader_FIELDLIST`. -/
def RsHeader.fields (header : RsHeader) : List Field :=
  staticInt 1 header.cryptoInfoLength.toInt ++ staticInt 2 header.rsLength.toInt ++
  staticInt 3 header.status.code

/-- What `deserialize_response` calls on the ranges of a buffer. -/
structure Decoders where
  rsHeader : List UInt8 → Option RsHeader
  cryptoInfo : List UInt8 → Option CryptoInfo
  rs : List UInt8 → Option Rs
  aesCbcDecrypt : Vector UInt8 16 → List UInt8 → List UInt8 → List UInt8

/-- The decoders read the fields of a header with a known status, and of a crypto info whose vector
fits its array. -/
structure Decoders.ReadsFields (d : Decoders) : Prop where
  rsHeader : ∀ header, (∀ code, header.status ≠ .other code) →
    d.rsHeader (writeMessage header.fields) = some header
  cryptoInfo : ∀ info, info.iv.length ≤ AES_BLOCKLEN →
    d.cryptoInfo (writeMessage info.fields) = some info

def ByteRange.read (range : ByteRange) (buf : List UInt8) : List UInt8 :=
  (buf.drop range.start.toNat).take range.length

/-- The body of a response: the buffer from the body on, decrypted as far as the cipher goes. -/
def Response.body (d : Decoders) (bits : ℕ) (key : Vector UInt8 16) (buf : List UInt8)
    (resp : Response) (header : RsHeader) (info : CryptoInfo) : List UInt8 :=
  let cipher := (resp.cipherRange bits header).read buf
  let plain :=
    d.aesCbcDecrypt key info.iv cipher ++ buf.drop ((resp.bodyStart header).toNat + cipher.length)
  plain.take (resp.bodyRange header info).length

/-- What `deserialize_response` gets to see of a buffer. -/
def Response.ofBuffer (d : Decoders) (bits : ℕ) (key : Vector UInt8 16)
    (buf : List UInt8) : Response :=
  let resp : Response := ⟨UInt32.ofNat buf.length, buf.headD 0, none, none, none⟩
  let header := d.rsHeader (resp.headerRange.read buf)
  let info := header.bind fun header => d.cryptoInfo ((resp.cryptoInfoRange header).read buf)
  { resp with
    header := header
    cryptoInfo := info
    rs := header.bind fun header => info.bind fun info =>
      d.rs (resp.body d bits key buf header info) }

end EmbeddedClient
