import EmbeddedClient.Wire.Response
import EmbeddedClient.Wire.Server
import EmbeddedClient.Session.Restart
import EmbeddedClient.Session.Tokens

/-!
# An exchange with a server

A server answers the request it reads, and frames its answer as the client frames a request. The
client takes the answer apart again in the buffer, whatever it did in between with its other
requests. So what the application is told is what the server says about the content of the
context.
-/

namespace EmbeddedClient

open Varint Runs

section Frame

variable {d : Decoders} {bits : ℕ} {key : Vector UInt8 16}

theorem length_rsHeader_le (header : RsHeader) (known : ∀ code, header.status ≠ .other code) :
    (writeMessage header.fields).length ≤ 24 := by
  have code : header.status.code < 7 := by
    cases status : header.status with
    | other code => exact absurd status (known code)
    | _ => decide
  have field1 := @length_staticInt_short 1 9 (by decide) header.cryptoInfoLength.toInt (by omega)
  have field2 := @length_staticInt_short 2 9 (by decide) header.rsLength.toInt (by omega)
  have field3 := @length_staticInt_short 3 0 (by decide) header.status.code (by omega)
  simp only [RsHeader.fields, writeMessage_append, List.length_append]
  omega

theorem wholeBlocks_of_dvd {n : ℕ} (blocks : AES_BLOCKLEN ∣ n) : wholeBlocks n = n := by
  obtain ⟨k, rfl⟩ := blocks
  simp only [wholeBlocks, AES_BLOCKLEN]
  omega

def RsHeader.announcing (info : CryptoInfo) (cipher : List UInt8) (status : LocStatus) : RsHeader :=
  ⟨Int32.ofNat (writeMessage info.fields).length, Int32.ofNat cipher.length, status⟩

/-- The size of the header, the header, the crypto info and the encrypted body. -/
def responseFrame (info : CryptoInfo) (cipher : List UInt8) (status : LocStatus) : List UInt8 :=
  let header := writeMessage (RsHeader.announcing info cipher status).fields
  UInt8.ofNat header.length :: (header ++ (writeMessage info.fields ++ cipher))

structure FrameOk (info : CryptoInfo) (cipher : List UInt8) (status : LocStatus) : Prop where
  iv : info.iv.length ≤ AES_BLOCKLEN
  padding : 0 ≤ info.aesPaddingLength.toInt ∧ info.aesPaddingLength.toInt ≤ cipher.length
  blocks : AES_BLOCKLEN ∣ cipher.length
  short : cipher.length < 2 ^ 30
  known : ∀ code, status ≠ .other code

variable {info : CryptoInfo} {cipher rest : List UInt8} {status : LocStatus} {resp : Response}

structure Response.StartsFrame (resp : Response) (info : CryptoInfo) (cipher : List UInt8)
    (status : LocStatus) : Prop where
  bufLen : (responseFrame info cipher status).length ≤ resp.bufLen.toNat
  hdrSize : resp.hdrSize.toNat =
    (writeMessage (RsHeader.announcing info cipher status).fields).length

theorem length_responseFrame : (responseFrame info cipher status).length =
    1 + (writeMessage (RsHeader.announcing info cipher status).fields).length +
      (writeMessage info.fields).length + cipher.length := by
  rw [responseFrame, List.length_cons, List.length_append, List.length_append]
  omega

theorem drop_responseFrame (n : ℕ) :
    (responseFrame info cipher status ++ rest).drop
        (1 + (writeMessage (RsHeader.announcing info cipher status).fields).length + n) =
      (writeMessage info.fields ++ (cipher ++ rest)).drop n := by
  rw [responseFrame, List.cons_append, List.append_assoc, List.append_assoc, add_assoc,
    ← List.drop_drop, List.drop_one, List.tail_cons, ← List.drop_drop, List.drop_left]

theorem read_headerRange (starts : resp.StartsFrame info cipher status) :
    resp.headerRange.read (responseFrame info cipher status ++ rest) =
      writeMessage (RsHeader.announcing info cipher status).fields := by
  show ((responseFrame info cipher status ++ rest).drop 1).take resp.hdrSize.toNat = _
  rw [starts.hdrSize, responseFrame, List.cons_append, List.append_assoc, List.drop_one,
    List.tail_cons, List.take_left]

namespace FrameOk

variable (ok : FrameOk info cipher status)

include ok

theorem infoLength : (RsHeader.announcing info cipher status).cryptoInfoLength.toInt =
    (writeMessage info.fields).length := by
  have infoShort := length_cryptoInfo_le info ok.iv
  exact Int32.toInt_ofNat_of_lt (by omega)

theorem rsLength : (RsHeader.announcing info cipher status).rsLength.toInt = cipher.length := by
  have short := ok.short
  exact Int32.toInt_ofNat_of_lt (by omega)

theorem bodyLength :
    toUnsigned 64 ((RsHeader.announcing info cipher status).rsLength - info.aesPaddingLength) =
      cipher.length - info.aesPaddingLength.toInt.toNat := by
  have short := ok.short
  obtain ⟨nonneg, most⟩ := ok.padding
  rw [toUnsigned, Int32.toInt_sub, ok.rsLength, Int.bmod_eq_of_le (by omega) (by omega)]
  omega

theorem read_cryptoInfoRange (starts : resp.StartsFrame info cipher status) :
    (resp.cryptoInfoRange (RsHeader.announcing info cipher status)).read
      (responseFrame info cipher status ++ rest) =
      writeMessage info.fields := by
  have length : toUnsigned 64 (RsHeader.announcing info cipher status).cryptoInfoLength =
    (writeMessage info.fields).length := by
    have infoShort := length_cryptoInfo_le info ok.iv
    rw [toUnsigned, ok.infoLength]
    omega
  have start : (1 + (resp.hdrSize.toNat : ℤ)).toNat =
      1 + (writeMessage (RsHeader.announcing info cipher status).fields).length + 0 := by
    rw [starts.hdrSize]
    omega
  rw [ByteRange.read, Response.cryptoInfoRange, start, length, drop_responseFrame, List.drop_zero,
    List.take_left]

theorem bodyStart (starts : resp.StartsFrame info cipher status) :
    resp.bodyStart (RsHeader.announcing info cipher status) =
      (1 + (writeMessage (RsHeader.announcing info cipher status).fields).length +
        (writeMessage info.fields).length : ℕ) := by
  rw [Response.bodyStart, ok.infoLength, starts.hdrSize]
  push_cast
  rfl

theorem read_cipherRange (starts : resp.StartsFrame info cipher status) (wide : 31 ≤ bits) :
    (resp.cipherRange bits (RsHeader.announcing info cipher status)).read
      (responseFrame info cipher status ++ rest) =
      cipher := by
  have short := ok.short
  have length : toUnsigned bits (RsHeader.announcing info cipher status).rsLength =
    cipher.length := by
    have fits : cipher.length < 2 ^ bits := by
      have power : 2 ^ 31 ≤ 2 ^ bits := Nat.pow_le_pow_right (by decide) wide
      omega
    rw [toUnsigned, ok.rsLength]
    norm_cast
    exact Nat.mod_eq_of_lt fits
  rw [ByteRange.read, Response.cipherRange, ok.bodyStart starts, length,
    wholeBlocks_of_dvd ok.blocks, Int.toNat_natCast, drop_responseFrame, List.drop_left,
    List.take_left]

theorem body_eq (starts : resp.StartsFrame info cipher status) (wide : 31 ≤ bits)
    (whole : (d.aesCbcDecrypt key info.iv cipher).length = cipher.length) :
    resp.body d bits key (responseFrame info cipher status ++ rest)
    (RsHeader.announcing info cipher status) info =
      (d.aesCbcDecrypt key info.iv cipher).take
        (cipher.length - info.aesPaddingLength.toInt.toNat) := by
  rw [Response.body, ok.read_cipherRange starts wide]
  rw [Response.bodyRange, ok.bodyLength, List.take_append_of_le_length
    (by rw [whole]; exact Nat.sub_le ..)]

/-- The parts of a frame at the front of a buffer are read where they stand. -/
theorem ofBuffer (reads : d.ReadsFields) (wide : 31 ≤ bits)
    (whole : (d.aesCbcDecrypt key info.iv cipher).length = cipher.length)
    (small : (responseFrame info cipher status ++ rest).length < 2 ^ 32) :
    let resp := Response.ofBuffer d bits key (responseFrame info cipher status ++ rest)
    resp.StartsFrame info cipher status ∧
      resp.header = some (RsHeader.announcing info cipher status) ∧
      resp.cryptoInfo = some info ∧
      resp.rs = d.rs ((d.aesCbcDecrypt key info.iv cipher).take
        (cipher.length - info.aesPaddingLength.toInt.toNat)) := by
  have headerShort := length_rsHeader_le (RsHeader.announcing info cipher status) ok.known
  have hdrSize :
      (UInt8.ofNat (writeMessage (RsHeader.announcing info cipher status).fields).length).toNat =
      (writeMessage (RsHeader.announcing info cipher status).fields).length := by
    rw [UInt8.toNat_ofNat']
    omega
  have bufLen : (responseFrame info cipher status).length ≤
      (UInt32.ofNat (responseFrame info cipher status ++ rest).length).toNat := by
    rw [UInt32.toNat_ofNat', Nat.mod_eq_of_lt small, List.length_append]
    exact Nat.le_add_right ..
  have starts (header cryptoInfo rs) :
      Response.StartsFrame ⟨UInt32.ofNat (responseFrame info cipher status ++ rest).length,
      (responseFrame info cipher status ++ rest).headD 0, header, cryptoInfo,
      rs⟩ info cipher status := ⟨bufLen, hdrSize⟩
  have header := reads.rsHeader (RsHeader.announcing info cipher status) ok.known
  have crypto := reads.cryptoInfo info ok.iv
  unfold Response.ofBuffer
  dsimp only
  rw [read_headerRange (starts none none none), header, Option.bind_some, Option.bind_some,
    ok.read_cryptoInfoRange (starts none none none), crypto, Option.bind_some,
    ok.body_eq (starts none none none) wide whole]
  exact ⟨starts _ _ _, rfl, rfl, rfl⟩

theorem not_tooShort (starts : resp.StartsFrame info cipher status) :
    ¬ resp.bufLen < 1 + resp.hdrSize.toUInt32 ∧
      resp.tooShort (RsHeader.announcing info cipher status) = false := by
  have headerShort := length_rsHeader_le (RsHeader.announcing info cipher status) ok.known
  have infoShort := length_cryptoInfo_le info ok.iv
  have cipherShort := ok.short
  have total := @length_responseFrame info cipher status
  have bufLen := starts.bufLen
  have hdrSize : (1 + resp.hdrSize.toUInt32).toNat =
      1 + (writeMessage (RsHeader.announcing info cipher status).fields).length := by
    rw [UInt32.toNat_add, UInt8.toNat_toUInt32, starts.hdrSize, UInt32.toNat_one]
    omega
  have infoLength : (RsHeader.announcing info cipher status).cryptoInfoLength.toUInt32.toNat =
      (writeMessage info.fields).length := by
    rw [RsHeader.announcing, Int32.toUInt32_ofNat', UInt32.toNat_ofNat']
    omega
  have rsLength : (RsHeader.announcing info cipher status).rsLength.toUInt32.toNat =
    cipher.length := by
    rw [RsHeader.announcing, Int32.toUInt32_ofNat', UInt32.toNat_ofNat']
    omega
  constructor
  · rw [UInt32.lt_iff_toNat_lt, hdrSize]
    omega
  · rw [Response.tooShort, decide_eq_false_iff_not, UInt32.lt_iff_toNat_lt, UInt32.toNat_add,
      UInt32.toNat_add, hdrSize, infoLength, rsLength]
    omega

theorem deserializeResponse (starts : resp.StartsFrame info cipher status) (nonempty : cipher ≠ [])
    (header : resp.header = some (RsHeader.announcing info cipher status))
    (crypto : resp.cryptoInfo = some info) {rs : Rs} (body : resp.rs = some rs) (s : SkySctx)
    (r : SkyRctx) (loc : SkyLocation) :
    ∃ ranges, EmbeddedClient.deserializeResponse bits s r loc resp =
      finishResponse (applyConfig s rs) r (.start status) status rs ranges := by
  obtain ⟨headerFits, bodyFits⟩ := ok.not_tooShort starts
  have short := ok.short
  have length : 0 < cipher.length := List.length_pos_iff.2 nonempty
  have filled : ¬ resp.bufLen < 1 := by
    have least := (bufLen_lt_headerEnd_iff resp).not.1 headerFits
    rw [UInt32.lt_iff_toNat_lt, UInt32.toNat_one]
    omega
  have bodied : ¬ (RsHeader.announcing info cipher status).rsLength = 0 := by
    intro zero
    have announced := ok.rsLength
    rw [zero, Int32.toInt_zero] at announced
    omega
  have headed : ¬ resp.hdrSize = 0 := by
    intro zero
    have empty : writeMessage (RsHeader.announcing info cipher status).fields = [] := by
      rw [← List.length_eq_zero_iff, ← starts.hdrSize, zero]
      rfl
    have read := readMessage_writeMessage (RsHeader.announcing info cipher status).fields
    rw [empty] at read
    have none : (RsHeader.announcing info cipher status).fields = [] := Option.some.inj read.symm
    have announced := ok.rsLength
    have short := ok.short
    have given : ints 2 (RsHeader.announcing info cipher status).fields = [cipher.length] := by
      have number :
          word (RsHeader.announcing info cipher status).rsLength.toInt = cipher.length := by
        rw [announced, word]
        omega
      rw [RsHeader.fields, ints_append, ints_append, ints_staticInt, ints_staticInt,
        ints_staticInt, number]
      simp [Varint.given, length.ne']
    rw [none] at given
    cases given
  unfold EmbeddedClient.deserializeResponse
  simp only [if_neg filled, if_neg headerFits, if_neg headed, header, if_neg bodied, bodyFits,
    Bool.false_eq_true, if_false, crypto, body]
  exact ⟨_, rfl⟩

end FrameOk

end Frame

def Rs.location (rs : Rs) (later : ℤ) : SkyLocation where
  lat := rs.lat.toFloat
  lon := rs.lon.toFloat
  hpe := rs.hpe.toUInt16
  time := later
  locationSource := rs.source
  locationStatus := .success
  dlAppData := true
  dlAppDataLen := (rs.dlAppData.take SKY_MAX_DL_APP_DATA).length

/-- The client takes over what a server says: the configuration, and the location with the downlink
data, or the token, or that the token is no longer good. -/
structure DecodeResult.TakesOver (d : DecodeResult) (s : SkySctx) (r : SkyRctx)
    (status : LocStatus) (rs : Rs) (now later : ℤ) : Prop where
  config : d.sctx.config = (applyConfig (s.stamp now) rs).config
  located : r.authState ≠ .unregistered → status = .success →
    d.errno = .none ∧ d.loc = rs.location later ∧
      d.rctx.dlAppData.take d.rctx.dlAppDataLen = rs.dlAppData.take SKY_MAX_DL_APP_DATA
  granted : r.authState = .unregistered → rs.tokenId ≠ TBR_TOKEN_UNKNOWN →
    d.errno = .authRetry ∧ d.sctx.tokenId = rs.tokenId ∧ d.rctx.authState = .registered
  revoked : r.authState = .registered → status = .authError →
    d.sctx.tokenId = TBR_TOKEN_UNKNOWN ∧ d.rctx.authState = .unregistered

section Client

variable {d : Decoders} {bits : ℕ} {key : Vector UInt8 16} {s : SkySctx} {r : SkyRctx}
  {resp : Response}
variable {status : LocStatus} {rs : Rs}

theorem reportLocation_config (s : SkySctx) (r : SkyRctx) (loc : SkyLocation) (now : ℤ) :
    (reportLocation s r loc now).sctx.config = s.config ∧
      (reportLocation s r loc now).sctx.tokenId = s.tokenId := by
  unfold reportLocation
  cases loc.locationStatus with
  | success =>
    obtain ⟨cacheline, stored⟩ := skyPluginAddToCache_sctx s.plugins { s with backoff := .none } r
      { loc with time := now, locationStatus := .success }
    dsimp only
    rw [stored]
    exact ⟨rfl, rfl⟩
  | authError => cases r.authState <;> exact ⟨rfl, rfl⟩
  | _ => exact ⟨rfl, rfl⟩

theorem skyDecodeResponse_of_finished (checked : validateRequestCtx r = (true, r))
    (valid : validateSessionCtx s = true) (filled : resp.bufLen ≠ 0) (loc : SkyLocation)
    (now later : ℤ) (finished : ∃ ranges, deserializeResponse bits (s.stamp now) r loc resp =
      finishResponse (applyConfig (s.stamp now) rs) r (.start status) status rs ranges) :
    ∃ s' r' loc' cacheHits,
      AuthOutcome (applyConfig (s.stamp now) rs) r (.start status) status rs (s', r', loc') ∧
        skyDecodeResponse bits s r loc resp now later = reportLocation { s' with
          cacheHits := cacheHits } r' loc' later := by
  obtain ⟨ranges, finished⟩ := finished
  have outcome := applyAuthState_outcome (applyConfig (s.stamp now) rs) r (.start status) status rs
  have decoded : skyDecodeResponse bits s r loc resp now later =
      let result := applyAuthState (applyConfig (s.stamp now) rs) r (.start status) status rs
      reportLocation (if result.2.1.isCacheMiss then { result.1 with cacheHits := 0 }
        else result.1) result.2.1
        result.2.2 later := by
    unfold SkySctx.stamp at finished ⊢
    unfold skyDecodeResponse
    dsimp only
    rw [checked, if_neg (by simp), if_neg filled, if_neg (by simp [valid]), finished]
    rfl
  rw [decoded]
  generalize applyAuthState (applyConfig (s.stamp now) rs) r (.start status) status rs = result
    at outcome ⊢
  obtain ⟨s', r', loc'⟩ := result
  dsimp only
  split_ifs
  · exact ⟨s', r', loc', 0, outcome, rfl⟩
  · exact ⟨s', r', loc', s'.cacheHits, outcome, rfl⟩

theorem applyUsedInfoToAp_dlAppData (s : SkySctx) (r : SkyRctx) (used : List UInt8) :
    (applyUsedInfoToAp s r used).dlAppData = r.dlAppData ∧
      (applyUsedInfoToAp s r used).dlAppDataLen = r.dlAppDataLen := by
  unfold applyUsedInfoToAp
  dsimp only
  split_ifs <;> exact ⟨rfl, rfl⟩

theorem AuthOutcome.takesOver {s' s'' : SkySctx} {r' : SkyRctx} {loc' : SkyLocation}
    (outcome : AuthOutcome s' r (.start status) status rs (s'', r', loc')) (cacheHits : UInt8)
    (now later : ℤ) (configured : s' = applyConfig (s.stamp now) rs) :
    (reportLocation { s'' with cacheHits := cacheHits } r' loc' later).TakesOver s r status rs
      now later := by
  obtain ⟨config, token⟩ := reportLocation_config { s'' with cacheHits := cacheHits } r' loc' later
  have context := reportLocation_rctx { s'' with cacheHits := cacheHits } r' loc' later
  constructor
  · rw [config, ← configured]
    cases outcome <;> rfl
  · intro registered success
    cases outcome with
    | refused auth => exact absurd auth registered
    | granted auth => exact absurd auth registered
    | revoked auth denied => exact absurd (success.symm.trans denied) (by decide)
    | disabled auth denied => exact absurd (success.symm.trans denied) (by decide)
    | located =>
      obtain ⟨data, length⟩ := applyUsedInfoToAp_dlAppData s' { r with
        dlAppDataLen := (rs.dlAppData.take SKY_MAX_DL_APP_DATA).length
        dlAppData := rs.dlAppData.take SKY_MAX_DL_APP_DATA ++
          r.dlAppData.drop (rs.dlAppData.take SKY_MAX_DL_APP_DATA).length } rs.usedAps
      subst success
      refine ⟨rfl, rfl, ?_⟩
      rw [context]
      show (applyUsedInfoToAp ..).dlAppData.take (applyUsedInfoToAp ..).dlAppDataLen = _
      rw [data, length, List.take_left]
  · intro unregistered known
    cases outcome with
    | refused auth unknown => exact absurd unknown known
    | granted => exact ⟨rfl, token, by rw [context]⟩
    | revoked auth => exact absurd (unregistered.symm.trans auth) (by decide)
    | disabled auth => exact absurd (unregistered.symm.trans auth) (by decide)
    | located auth => exact absurd unregistered auth
  · intro registered denied
    cases outcome with
    | refused auth => exact absurd (registered.symm.trans auth) (by decide)
    | granted auth => exact absurd (registered.symm.trans auth) (by decide)
    | revoked => exact ⟨token, by rw [context]⟩
    | disabled auth => exact absurd (registered.symm.trans auth) (by decide)
    | located auth answered => exact absurd denied answered

end Client

section Server

variable (encrypt decrypt : Vector UInt8 16 → List UInt8 → List UInt8 → List UInt8)
  (keys : ℤ → Vector UInt8 16)

/-- The frame of a response with this body, padded and encrypted. -/
def frameBody (key : Vector UInt8 16) (iv : List UInt8) (status : LocStatus) (body : List UInt8) :
    List UInt8 :=
  responseFrame ⟨iv, Int32.ofNat (aesPadding body.length)⟩
    (encrypt key iv (body ++ List.replicate (aesPadding body.length) 0)) status

/-- A server that gives a status and a body for each request it can read. -/
def serve (iv : List UInt8) (answer : RequestReport → LocStatus × List UInt8) (input : List UInt8) :
    Option (List UInt8) :=
  (readRequest decrypt keys input).map fun request =>
    frameBody encrypt (keys request.partnerId) iv (answer request).1 (answer request).2

end Server

section Reply

variable {d : Decoders} {codec : Codec} {bits : ℕ} {key : Vector UInt8 16}
  {iv body rest : List UInt8}
variable {status : LocStatus} {rs : Rs} {s : SkySctx} {r : SkyRctx}

theorem length_frameBody_le (cipher : codec.DecryptedBy d.aesCbcDecrypt)
    (vector : iv.length ≤ AES_BLOCKLEN) (known : ∀ code, status ≠ .other code) :
    (frameBody codec.aesCbcEncrypt key iv status body).length ≤
      54 + (body.length + aesPadding body.length) := by
  have padded : (body ++ List.replicate (aesPadding body.length) (0 : UInt8)).length =
      body.length + aesPadding body.length := by
    rw [List.length_append, List.length_replicate]
  have blocks :
      AES_BLOCKLEN ∣ (body ++ List.replicate (aesPadding body.length) (0 : UInt8)).length := by
    rw [padded]
    exact dvd_add_aesPadding _
  have whole := (cipher.length key iv _ blocks).trans padded
  have info := length_cryptoInfo_le ⟨iv, Int32.ofNat (aesPadding body.length)⟩ vector
  have header := length_rsHeader_le (.announcing ⟨iv, Int32.ofNat (aesPadding body.length)⟩
    (codec.aesCbcEncrypt key iv (body ++ List.replicate (aesPadding body.length) 0)) status) known
  rw [frameBody, length_responseFrame, whole]
  omega

theorem deserializeResponse_frameBody (reads : d.ReadsFields)
    (cipher : codec.DecryptedBy d.aesCbcDecrypt) (wide : 31 ≤ bits)
    (vector : iv.length = AES_BLOCKLEN) (known : ∀ code, status ≠ .other code)
    (nonempty : body ≠ []) (short : body.length < 2 ^ 29) (behind : rest.length < 2 ^ 31)
    (understood : d.rs body = some rs) :
    (Response.ofBuffer d bits key (frameBody codec.aesCbcEncrypt key iv status body ++
      rest)).bufLen ≠ 0 ∧
      ∀ s r loc, ∃ ranges, deserializeResponse bits s r loc
        (.ofBuffer d bits key (frameBody codec.aesCbcEncrypt key iv status body ++ rest)) =
          finishResponse (applyConfig s rs) r (.start status) status rs ranges := by
  have small := aesPadding_lt body.length
  have padded : (body ++ List.replicate (aesPadding body.length) (0 : UInt8)).length =
      body.length + aesPadding body.length := by
    rw [List.length_append, List.length_replicate]
  have blocks :
      AES_BLOCKLEN ∣ (body ++ List.replicate (aesPadding body.length) (0 : UInt8)).length := by
    rw [padded]
    exact dvd_add_aesPadding _
  have whole := (cipher.length key iv _ blocks).trans padded
  have plain := cipher.decrypt key iv _ vector blocks
  have padding : (Int32.ofNat (aesPadding body.length)).toInt = aesPadding body.length := by
    simp only [AES_BLOCKLEN] at small
    exact Int32.toInt_ofNat_of_lt (by omega)
  have total := @length_frameBody_le d codec key iv body status cipher vector.le known
  unfold frameBody at total ⊢
  generalize codec.aesCbcEncrypt key iv (body ++ List.replicate (aesPadding body.length) 0) =
    cipherText
    at whole plain total ⊢
  have length : 0 < body.length := List.length_pos_iff.2 nonempty
  simp only [AES_BLOCKLEN] at small
  have ok : FrameOk ⟨iv, Int32.ofNat (aesPadding body.length)⟩ cipherText status := by
    refine ⟨vector.le, ?_, ?_, by omega, known⟩
    · dsimp only
      rw [padding]
      omega
    · rw [whole, ← padded]
      exact blocks
  obtain ⟨starts, header, crypto, fields⟩ := @FrameOk.ofBuffer d bits key _ _ rest _ ok reads wide
    (by rw [plain, padded, whole]) (by rw [List.length_append]; omega)
  have read :
      (Response.ofBuffer d bits key
        (responseFrame ⟨iv, Int32.ofNat (aesPadding body.length)⟩ cipherText
      status ++ rest)).rs = some rs := by
    rw [fields, plain, padding, whole, Int.toNat_natCast, Nat.add_sub_cancel,
      List.take_left, understood]
  generalize Response.ofBuffer d bits key
    (responseFrame ⟨iv, Int32.ofNat (aesPadding body.length)⟩ cipherText
    status ++ rest) = resp at starts header crypto read ⊢
  have cipherNonempty : cipherText ≠ [] := List.ne_nil_of_length_pos (by omega)
  constructor
  · intro zero
    apply (ok.not_tooShort starts).1
    rw [(bufLen_lt_headerEnd_iff resp), zero]
    simp
  · exact fun s r loc => ok.deserializeResponse starts cipherNonempty header crypto read s r loc

/-- **A response is understood**: a valid session and context take over what a server says in a
body. -/
theorem skyDecodeResponse_frameBody (reads : d.ReadsFields)
    (cipher : codec.DecryptedBy d.aesCbcDecrypt) (wide : 31 ≤ bits)
    (vector : iv.length = AES_BLOCKLEN) (known : ∀ code, status ≠ .other code)
    (nonempty : body ≠ []) (short : body.length < 2 ^ 29) (behind : rest.length < 2 ^ 31)
    (understood : d.rs body = some rs) (checked : validateRequestCtx r = (true, r))
    (valid : validateSessionCtx s = true) (loc : SkyLocation) (now later : ℤ) :
    (skyDecodeResponse bits s r loc
      (.ofBuffer d bits key (frameBody codec.aesCbcEncrypt key iv status body ++ rest))
      now later).TakesOver s r status rs now later := by
  obtain ⟨filled, finished⟩ :=
    @deserializeResponse_frameBody d codec bits key iv body rest status rs reads cipher wide
    vector known nonempty short behind understood
  obtain ⟨s', r', loc', cacheHits, auth, decoded⟩ :=
    @skyDecodeResponse_of_finished bits s r _ status rs checked valid
    filled loc now later (finished _ _ loc)
  rw [decoded]
  exact auth.takesOver cacheHits now later rfl

end Reply

/-- A call that has nothing to do with a context and does not open the session. -/
def Call.LeavesAlone (id : ℕ) : Call → Prop
  | .openSession _ => False
  | .close => True
  | .newRequest other .. => other ≠ id
  | .onCtx other _ => other ≠ id

variable {env : Env} {d : Decoders} {keys : ℤ → Vector UInt8 16}

theorem World.step_leavesAlone {id : ℕ} {call : Call} (alone : call.LeavesAlone id) (w : World) :
    (w.step env call).ctx id = w.ctx id ∧ w.sctx.SameCredentials (w.step env call).sctx := by
  have notOpen : ∀ args, call ≠ .openSession args := by
    rintro args rfl
    exact alone
  refine ⟨?_, (World.step_token_of_not_open call notOpen).1⟩
  cases call with
  | openSession args => exact absurd rfl (notOpen args)
  | close => rfl
  | newRequest other rbufsize ulAppData now =>
    have differ : id ≠ other := Ne.symm alone
    unfold World.step
    dsimp only
    split_ifs
    · exact Function.update_of_ne differ ..
    · rfl
  | onCtx other call =>
    have differ : id ≠ other := Ne.symm alone
    cases member : w.ctx other with
    | none => rw [World.step_onCtx_none call member]
    | some r =>
      rw [World.step_onCtx_some call member]
      exact Function.update_of_ne differ ..

theorem World.run_leavesAlone {id : ℕ} {calls : List Call}
    (alone : ∀ call ∈ calls, call.LeavesAlone id) (w : World) :
    (w.run env calls).ctx id = w.ctx id ∧ w.sctx.SameCredentials (w.run env calls).sctx := by
  refine @run_invariant _ _ (World.step env) _ (fun u => u.ctx id = w.ctx id ∧
    w.sctx.SameCredentials u.sctx) w calls ?_
    ⟨rfl, .refl _⟩ (along_of_forall alone)
  rintro u call ⟨sameCtx, sameKey⟩ leaves
  obtain ⟨ctx, credentials⟩ := World.step_leavesAlone leaves u
  exact ⟨ctx.trans sameCtx, sameKey.trans credentials⟩

/-- **An exchange**: in every run within the buffers, the server answers what the context held when
its request was encoded, if the position and the cells that are sent fit the fields, and the client
takes the answer over on an open session, whatever it did in between with other contexts. -/
theorem exchange_answered (writes : env.codec.WritesFields)
    (cipher : env.codec.DecryptedBy d.aesCbcDecrypt) (reads : d.ReadsFields)
    (wide : 31 ≤ env.cipherBits) {cacheSize : ℕ} {args : OpenArgs} {calls between : List Call}
    (opened : (skyOpen (SkySctx.zeroed cacheSize) args).1 = .none)
    (inside : Along (World.step env) (fun w call => w.withinCapacity call ∧ w.UplinkFits call)
      (World.start cacheSize) (.openSession args :: calls ++ between))
    {id : ℕ} (alone : ∀ call ∈ between, call.LeavesAlone id) {r : SkyRctx}
    {buf random out iv : List UInt8} {answer : RequestReport → LocStatus × List UInt8} {rs : Rs}
    (vectors : random.length = AES_BLOCKLEN ∧ iv.length = AES_BLOCKLEN) :
    let w := (World.start cacheSize).run env (.openSession args :: calls)
    let u := w.run env between
    let request : RequestReport :=
      ⟨w.sctx.partnerId.toInt32.toInt, 22, w.sctx.config.lastConfigTime = CONFIG_UPDATE_DUE,
        rqReport w.sctx r⟩
    w.ctx id = some r → (r.gnss.present = true → r.gnss.Encodable) →
      (∀ b ∈ sentCells w.sctx r, b.identifiersFit) →
    keys w.sctx.partnerId.toInt32.toInt = w.sctx.aesKey →
    (skyEncodeRequest env.codec w.sctx r (some buf) random).errno = .none →
    (skyEncodeRequest env.codec w.sctx r (some buf) random).buf = some out →
    (∀ code, (answer request).1 ≠ .other code) → (answer request).2 ≠ [] →
      (answer request).2.length < 2 ^ 29 →
    d.rs (answer request).2 = some rs → u.sctx.openFlag = true →
    ∃ reply, serve env.codec.aesCbcEncrypt d.aesCbcDecrypt keys iv answer out = some reply ∧
      u.ctx id = some r ∧
      ∀ loc now later, (skyDecodeResponse env.cipherBits u.sctx r loc
        (.ofBuffer d env.cipherBits u.sctx.aesKey reply) now later).TakesOver u.sctx r
        (answer request).1 rs now later := by
  intro w u request member position fit key encoded written known nonempty short
    understood stillOpen
  have whole : u = (World.start cacheSize).run env (.openSession args :: calls ++ between) :=
    (run_append ..).symm
  obtain ⟨before, -⟩ := along_append.1 inside
  obtain ⟨capacity, -⟩ := along_and.1 inside
  obtain ⟨readable, read⟩ := @readRequest_encoded env d.aesCbcDecrypt keys cacheSize args calls
    writes cipher opened before id
    r member position buf random out vectors.1 key encoded written
  rw [(decodeRq_buildRq_iff readable).2 fit, Option.map_some] at read
  obtain ⟨sameCtx, credentials⟩ := @World.run_leavesAlone env id between alone w
  have sameKey : u.sctx.aesKey = w.sctx.aesKey := credentials.2
  have good : w.WellFormed := World.run_wellFormed env (World.start_bounded cacheSize).wellFormed
    (along_and.1 before).1
  have checked : validateRequestCtx r = (true, r) := by
    have accepted : (validateRequestCtx r).1 = true := by
      by_contra refused
      have turned : (skyEncodeRequest env.codec w.sctx r (some buf) random).errno =
        .badRequestCtx := by
        unfold skyEncodeRequest
        dsimp only
        rw [if_pos (by simpa using refused)]
      rw [turned] at encoded
      cases encoded
    exact Prod.ext accepted (good.ctx id r member).validateRequestCtx
  have valid : validateSessionCtx u.sctx = true := by
    have lasting := World.run_lasting env capacity
    rw [← whole] at lasting
    exact (lasting.opened stillOpen).1.valid
  refine ⟨_, by rw [serve, read, Option.map_some], sameCtx.trans member, fun loc now later => ?_⟩
  have understands := @skyDecodeResponse_frameBody d env.codec env.cipherBits u.sctx.aesKey iv
    (answer request).2 []
    (answer request).1 rs u.sctx r reads cipher wide vectors.2 known nonempty short
      (by decide) understood checked valid
    loc now later
  rw [key, ← sameKey]
  rwa [List.append_nil] at understands

def LocStatus.ofCode : ℕ → LocStatus
  | 0 => success
  | 1 => unspecifiedError
  | 2 => badPartnerIdError
  | 3 => decodeError
  | 4 => apiServerError
  | 5 => authError
  | 6 => unableToLocate
  | code => other code

theorem LocStatus.ofCode_code {status : LocStatus} (known : ∀ code, status ≠ .other code) :
    ofCode status.code = status ∧ status.code < 7 := by
  cases status with
  | other code => exact absurd rfl (known code)
  | _ => exact ⟨rfl, by decide⟩

def Decoders.nanopb (rs : List UInt8 → Option Rs)
    (aesCbcDecrypt : Vector UInt8 16 → List UInt8 → List UInt8 → List UInt8) : Decoders where
  rsHeader := fun input => (readMessage input).map fun fields =>
    { cryptoInfoLength := Int32.ofInt (readInt32 (intValue 1 fields))
      rsLength := Int32.ofInt (readInt32 (intValue 2 fields))
      status := .ofCode (intValue 3 fields % 2 ^ 32) }
  cryptoInfo := fun input => (readMessage input).map fun fields =>
    ⟨stringValue 1 fields, Int32.ofInt (readInt32 (intValue 2 fields))⟩
  rs := rs
  aesCbcDecrypt := aesCbcDecrypt

theorem Decoders.nanopb_readsFields (rs : List UInt8 → Option Rs)
    (cipher : Vector UInt8 16 → List UInt8 → List UInt8 → List UInt8) :
    (Decoders.nanopb rs cipher).ReadsFields where
  rsHeader := by
    intro header known
    obtain ⟨status, small⟩ := LocStatus.ofCode_code known
    have values (number : ℕ) : ints number header.fields =
        (if 1 = number then given (word header.cryptoInfoLength.toInt) else []) ++
        (if 2 = number then given (word header.rsLength.toInt) else []) ++
        (if 3 = number then given (word header.status.code) else []) := by
      simp only [RsHeader.fields, ints_append, ints_staticInt]
    have number : word header.status.code % 4294967296 = header.status.code := by
      rw [word]
      omega
    have infoLength := readInt32_word (Int32.le_toInt header.cryptoInfoLength) (Int32.toInt_lt _)
    have rsLength := readInt32_word (Int32.le_toInt header.rsLength) (Int32.toInt_lt _)
    simp [Decoders.nanopb, intValue_eq, values, infoLength, rsLength, number, status]
  cryptoInfo := by
    intro info _
    obtain ⟨vector, padding⟩ := cryptoInfo_read info
    simp [Decoders.nanopb, vector, padding]

def replyRs : Rs := { Rs.initDefault with
  lat := .fin (85 / 2), lon := .fin (-1137 / 16), hpe := 120, source := 3, dlAppData := [9] }

def replyBody : List UInt8 :=
  [9, 0, 0, 0, 0, 0, 64, 69, 64, 17, 0, 0, 0, 0, 0, 196, 81, 192, 24, 120, 32, 3, 66, 1, 9]

/-- What AES-128 makes of it in CBC mode, under a key of zeros and a vector of sixes. -/
def replyCipher : List UInt8 :=
  [214, 27, 152, 192, 93, 157, 175, 222, 243, 79, 39, 145, 111, 119, 76, 123, 255, 215, 182, 64, 62,
    167, 35, 208, 226, 147, 184, 82, 4, 206, 145, 136]

def replyTexts : List (List UInt8 × List UInt8 × List UInt8) :=
  (List.replicate 16 6, replyBody ++ List.replicate 7 0, replyCipher) :: sentTexts

def replyEnv : Env := { bareEnv with codec := Codec.nanopb (textsAes replyTexts) }

def replyDecoders : Decoders :=
  .nanopb (fun body => if body = replyBody then some replyRs else none)
  (textsAes replyTexts)

def replyWorld : World := (World.start 1).run replyEnv (.openSession bareOpen :: sentCalls)

def betweenCalls : List Call :=
  [.newRequest 1 sizeofSkyRctx [] 1600000010, .onCtx 1 (.addBeacon (apCall 3 (-70)) 1600000010)]

theorem betweenCalls_answered :
    ∃ r out reply, replyWorld.ctx 0 = some r ∧
      (skyEncodeRequest replyEnv.codec replyWorld.sctx r (some (List.replicate 160 0))
        (List.replicate 16 5)).buf = some out ∧
      serve (textsAes replyTexts) (textsAes replyTexts) (fun _ => Vector.replicate 16 0)
        (List.replicate 16 6) (fun _ => (.success, replyBody)) out = some reply ∧
      ∀ loc, let s := (replyWorld.run replyEnv betweenCalls).sctx
        let d := skyDecodeResponse 32 s r loc (.ofBuffer replyDecoders 32 s.aesKey reply) 1600000012
          1600000013
        d.errno = .none ∧ d.loc = replyRs.location 1600000013 := by
  have facts : (replyWorld.ctx 0).map (fun r =>
      let encoded := skyEncodeRequest replyEnv.codec replyWorld.sctx r (some (List.replicate 160 0))
        (List.replicate 16 5)
      (encoded.errno, encoded.buf.isSome, decide r.gnss.Encodable,
        decide (∀ b ∈ sentCells replyWorld.sctx r, b.identifiersFit), r.authState)) =
      some (.none, true, true, true, .disabled) := by decide +kernel
  obtain ⟨r, member, eq⟩ := Option.map_eq_some_iff.1 facts
  simp only [Prod.mk.injEq, decide_eq_true_eq, Option.isSome_iff_exists] at eq
  obtain ⟨encoded, ⟨out, written⟩, position, fit, disabled⟩ := eq
  have cipher : replyEnv.codec.DecryptedBy (textsAes replyTexts) :=
    textsAes_decryptedBy (by decide +kernel)
  have answered := @exchange_answered replyEnv replyDecoders (fun _ => Vector.replicate 16 0)
    (Codec.nanopb_writesFields _) cipher (Decoders.nanopb_readsFields _ _) (by decide) 1 bareOpen
    sentCalls betweenCalls (by decide +kernel) (by decide +kernel) 0
    (by simp [betweenCalls, Call.LeavesAlone]) r (List.replicate 160 0) (List.replicate 16 5) out
    (List.replicate 16 6) (fun _ => (.success, replyBody)) replyRs (by decide) member
    (fun _ => position) fit (by decide +kernel) encoded written (by simp) (by decide)
      (by decide) rfl
    (by decide +kernel)
  obtain ⟨reply, served, -, taken⟩ := answered
  refine ⟨r, out, reply, member, written, served, fun loc => ?_⟩
  have located := (taken loc 1600000012 1600000013).located (by rw [disabled]; decide) rfl
  exact ⟨located.1, located.2.1⟩

end EmbeddedClient
