import EmbeddedClient.Wire.Request
import EmbeddedClient.Wire.Sizing
import EmbeddedClient.Session.Buffers

/-!
# A server's reading of a request

The bytes of `sky_encode_request` are the length of the header, the header, the crypto info
and the encrypted body. A server that knows the key of the partner takes them apart again.
The bytes behind the request are not looked at.
-/

namespace EmbeddedClient

open Varint Runs

section Lengths

theorem length_ofBytes_le {number : ℕ} (small : number < 2 ^ 32) {data : List UInt8}
    (short : data.length < 2 ^ 64) :
    (writeMessage (Field.ofBytes number data)).length ≤ 20 + data.length := by
  unfold Field.ofBytes givenString
  split_ifs
  · simp
  · have fits : (Field.bytes number data).Fits := ⟨small, short⟩
    have bound := fits.length_encode
    simpa [writeMessage, Field.size] using bound

theorem length_staticInt_le {tag : ℕ} (small : tag < 2 ^ 32) (value : ℤ) :
    (writeMessage (staticInt tag value)).length ≤ 20 := by
  unfold staticInt Field.ofInt given
  split_ifs
  · simp
  · have fits : (Field.int tag (value % 2 ^ 64).toNat).Fits := ⟨small, by omega⟩
    have bound := fits.length_encode
    simpa [writeMessage, Field.size] using bound

theorem length_ofBytes_short {number : ℕ} (few : number < 16) {data : List UInt8}
    (short : data.length < 128) :
    (writeMessage (Field.ofBytes number data)).length ≤ 2 + data.length := by
  unfold Field.ofBytes givenString
  split_ifs
  · simp
  · simpa [writeMessage] using length_encode_bytes_le few short

theorem length_staticInt_short {tag k : ℕ} (few : tag < 16) {value : ℤ}
    (small : (value % 2 ^ 64).toNat < 128 ^ (k + 1)) :
    (writeMessage (staticInt tag value)).length ≤ k + 2 := by
  unfold staticInt Field.ofInt given
  split_ifs
  · simp
  · simpa [writeMessage] using length_encode_int_le few small

variable {s : SkySctx} {r : SkyRctx}

theorem length_encodeApFields_le (holds : r.HoldsAps) (some : 0 < r.numAp) :
    (encodeApFields r).length ≤ 1550 := by
  have few : r.aps.length ≤ 29 := by
    rw [holds.length_aps]
    exact holds.numAp_le
  rw [encodeApFields_eq holds some]
  generalize sendsCommon (r.aps.map fun b => (b.ap.freq.toNat : ℤ)) = commonFreq
  generalize sendsCommon (r.aps.map fun b => (b.h.age.toNat : ℤ)) = commonAge
  have small := small_apFields commonFreq commonAge few
  have fields : (apFields commonFreq commonAge r.aps).length ≤ 5 := by
    unfold apFields connectedFields
    cases r.aps.findIdx? fun b => b.h.connected <;> simp
  have total := length_flatMap_le fun field member => (small field member).length_encode
  omega

theorem length_encodeGnssFields_le (g : Gnss) (present : g.present = true) :
    (encodeGnssFields g).length ≤ 270 := by
  have each : ∀ field ∈ g.fields, field.encode.length ≤ 30 := by
    have one (tag : ℕ) (small : tag < 2 ^ 32) (number : ℤ) :
        (packedField tag [number]).encode.length ≤ 30 := by
      have data := length_packed_le [number]
      rw [List.length_singleton] at data
      have fits : (packedField tag [number]).Fits := ⟨small, by omega⟩
      have bound := fits.length_encode
      rw [packedField, Field.size] at bound
      rw [packedField]
      omega
    intro field member
    simp only [Gnss.fields, List.mem_cons, List.not_mem_nil, or_false] at member
    rcases member with rfl | rfl | rfl | rfl | rfl | rfl | rfl | rfl | rfl
    all_goals exact one _ (by decide) _
  have nine : g.fields.length = 9 := rfl
  have total := length_flatMap_le each
  rw [encodeGnssFields_eq present, writeMessage]
  omega

theorem length_gnssFields_le {position : Option Gnss} (present : ∀ g ∈ position, g.present = true) :
    (writeMessage (gnssFields position)).length ≤ 290 := by
  cases position with
  | none => simp [gnssFields]
  | some g =>
    have content := length_encodeGnssFields_le g (present g rfl)
    have fits : (Field.bytes 9 (encodeGnssFields g)).Fits := ⟨by decide, by omega⟩
    have bound := fits.length_encode
    rw [Field.size] at bound
    rw [gnssFields, writeMessage, List.flatMap_singleton]
    omega

theorem length_cellFields_le (cells : List Beacon) :
    (writeMessage (cells.map cellField)).length ≤ cells.length * 240 := by
  have each : ∀ field ∈ cells.map cellField, field.encode.length ≤ 240 := by
    intro field member
    obtain ⟨cell, -, rfl⟩ := List.mem_map.1 member
    have content := length_encodeCellField_le cell
    have fits : (cellField cell).Fits := ⟨by decide, by omega⟩
    have bound := fits.length_encode
    rw [cellField, Field.size] at bound
    rw [cellField]
    omega
  have total := length_flatMap_le each
  rwa [List.length_map] at total

theorem length_vapFields_le {vaps : Option (List (List UInt8))} {bound : ℕ} (small : bound < 2 ^ 64)
    (short : ∀ groups ∈ vaps, (groups.flatMap encodeString).length ≤ bound) :
    (writeMessage (vaps.toList.map vapField)).length ≤ 20 + bound := by
  cases vaps with
  | none => simp
  | some groups =>
    have content := short groups rfl
    have fits : (vapField groups).Fits := ⟨by decide, by omega⟩
    have total := fits.length_encode
    rw [vapField, Field.size] at total
    rw [Option.toList_some, List.map_singleton, writeMessage, List.flatMap_singleton, vapField]
    omega

theorem length_buildRq_le (good : r.Represented) (holds : r.HoldsAps)
    (device : s.deviceId.length ≤ MAX_DEVICE_ID)
    (uplink : s.ulAppData.length ≤ SKY_MAX_UL_APP_DATA) : (buildRq s r).encode.length ≤ 16000 := by
  have count := holds.length_aps
  have numAp : r.numAp ≤ 29 := holds.numAp_le
  have aps : (buildRq s r).aps.length ≤ 1550 := by
    rw [buildRq_eq]
    dsimp only
    split_ifs with sent
    · exact length_encodeApFields_le holds (Nat.pos_of_ne_zero sent.2)
    · exact Nat.zero_le _
  have gnss : ∀ g ∈ (buildRq s r).gnss, g.present = true := by
    rw [buildRq_eq]
    dsimp only
    split_ifs with sent
    · intro g member
      rw [← Option.some.inj member]
      exact sent.2
    · simp
  have cells : (sentCells s r).length ≤ 29 := by
    have total : r.numBeacons ≤ 29 := good.numBeacons_le
    unfold sentCells
    split_ifs
    · rw [List.length_drop, SkyRctx.live, List.length_take]
      omega
    · exact Nat.zero_le _
  have vaps : ∀ groups ∈ sentVaps s r, (groups.flatMap encodeString).length ≤ 435 := by
    have groups := length_vapGroups_le r
    unfold sentVaps
    split_ifs
    · intro groups' member
      rw [← Option.some.inj member]
      omega
    · simp
  have sku : (buildRq s r).tbrSku.length ≤ 33 := by
    have prefixed := (List.takeWhile_prefix (l := s.sku.toList) (fun c => decide (c ≠ 0))).length_le
    rw [buildRq_eq]
    dsimp only
    split_ifs
    · exact Nat.zero_le _
    · exact prefixed.trans_eq (Vector.length_toList ..)
  have deviceId : (buildRq s r).deviceId.length ≤ 16 := by
    rw [buildRq_eq]
    exact device
  have ulAppData : (buildRq s r).ulAppData.length ≤ 100 := by
    rw [buildRq_eq]
    dsimp only
    split_ifs
    · exact uplink
    · exact Nat.zero_le _
  have skuField := @length_ofBytes_le 3 (by decide) (buildRq s r).tbrSku (by omega)
  have ccField := @length_staticInt_le 4 (by decide) (buildRq s r).tbrCc.toNat
  have tbr :
      (writeMessage (tbrRegistrationFields (buildRq s r).tbrSku (buildRq s r).tbrCc)).length ≤
        73 := by
    rw [tbrRegistrationFields, writeMessage_append, List.length_append]
    omega
  have field1 := @length_ofBytes_le 1 (by decide) (buildRq s r).deviceId (by omega)
  have field2 := @length_staticInt_le 2 (by decide) (buildRq s r).timestamp
  have field3 := @length_ofBytes_le 3 (by decide) (buildRq s r).aps (by omega)
  have field9 := length_gnssFields_le gnss
  have field10 := length_cellFields_le (sentCells s r)
  have field11 := length_vapFields_le (by decide) vaps
  have field12 := @length_staticInt_le 12 (by decide) (buildRq s r).cacheHits.toNat
  have field17 := @length_staticInt_le 17 (by decide) (buildRq s r).tokenId.toInt32.toInt
  have field18 := @length_ofBytes_le 18 (by decide) _
    (tbr.trans_lt (by decide : 73 < 2 ^ 64))
  have field19 := @length_staticInt_le 19 (by decide) (buildRq s r).maxDlAppData
  have field20 := @length_ofBytes_le 20 (by decide) (buildRq s r).ulAppData (by omega)
  rw [encode_buildRq good holds, Rq.fields]
  simp only [writeMessage_append, List.length_append]
  omega

end Lengths

/-- A request as the server reads it. -/
structure RequestReport where
  partnerId : ℤ
  swVersion : ℕ
  requestClientConf : Bool
  rq : RqReport
  deriving DecidableEq

section Reader

variable (decrypt : Vector UInt8 16 → List UInt8 → List UInt8 → List UInt8)
  (keys : ℤ → Vector UInt8 16)

def readBody (key : Vector UInt8 16) (infoLength rqLength : ℕ) (input : List UInt8) :
    Option RqReport :=
  if input.length < infoLength + rqLength then none
  else
    (readMessage (input.take infoLength)).bind fun info =>
      decodeRq ((decrypt key (stringValue 1 info) ((input.drop infoLength).take rqLength)).take
        (rqLength - (readInt32 (intValue 2 info)).toNat))

def readAnnounced (header : List Field) (input : List UInt8) : Option RequestReport :=
  (readBody decrypt (keys (readInt32 (intValue 1 header))) (readInt32 (intValue 2 header)).toNat
    (readInt32 (intValue 3 header)).toNat input).map fun rq =>
      { partnerId := readInt32 (intValue 1 header)
        swVersion := intValue 4 header % 2 ^ 32
        requestClientConf := intValue 5 header ≠ 0
        rq := rq }

def readSized (size : ℕ) (input : List UInt8) : Option RequestReport :=
  if input.length < size then none
  else (readMessage (input.take size)).bind fun header => readAnnounced decrypt keys header
    (input.drop size)

/-- The reader of a request, with the size of the header in the first byte. -/
def readRequest (input : List UInt8) : Option RequestReport :=
  input.head?.bind fun size => readSized decrypt keys size.toNat input.tail

end Reader

theorem length_rqHeader_le (header : RqHeader) : (writeMessage header.fields).length ≤ 100 := by
  have field1 := @length_staticInt_le 1 (by decide) header.partnerId.toInt32.toInt
  have field2 := @length_staticInt_le 2 (by decide) (Int32.ofNat header.cryptoInfoLength).toInt
  have field3 := @length_staticInt_le 3 (by decide) (Int32.ofNat header.rqLength).toInt
  have field4 := @length_staticInt_le 4 (by decide) header.swVersion.toNat
  have field5 := @length_staticInt_le 5 (by decide) header.requestClientConf.toNat
  simp only [RqHeader.fields, writeMessage_append, List.length_append]
  omega

theorem length_cryptoInfo_le (info : CryptoInfo) (iv : info.iv.length ≤ AES_BLOCKLEN) :
    (writeMessage info.fields).length ≤ 29 := by
  have short : info.iv.length ≤ 16 := iv
  have field1 := @length_ofBytes_short 1 (by decide) info.iv (by omega)
  have field2 := @length_staticInt_short 2 9 (by decide) info.aesPaddingLength.toInt (by omega)
  simp only [CryptoInfo.fields, writeMessage_append, List.length_append]
  omega

theorem rqHeader_read (header : RqHeader) (infoLength : header.cryptoInfoLength < 2 ^ 31)
    (rqLength : header.rqLength < 2 ^ 31) :
    readInt32 (intValue 1 header.fields) = header.partnerId.toInt32.toInt ∧
      (readInt32 (intValue 2 header.fields)).toNat = header.cryptoInfoLength ∧
      (readInt32 (intValue 3 header.fields)).toNat = header.rqLength ∧
      intValue 4 header.fields % 2 ^ 32 = header.swVersion.toNat ∧
      (intValue 5 header.fields ≠ 0 ↔ header.requestClientConf = true) := by
  have values (number : ℕ) : ints number header.fields =
      (if 1 = number then given (word header.partnerId.toInt32.toInt) else []) ++
      (if 2 = number then given (word (Int32.ofNat header.cryptoInfoLength).toInt) else []) ++
      (if 3 = number then given (word (Int32.ofNat header.rqLength).toInt) else []) ++
      (if 4 = number then given (word header.swVersion.toNat) else []) ++
      (if 5 = number then given (word header.requestClientConf.toNat) else []) := by
    simp only [RqHeader.fields, ints_append, ints_staticInt]
  simp only [intValue_eq, values]
  refine ⟨?_, ?_, ?_, ?_, ?_⟩
  · simpa using readInt32_word (Int32.le_toInt _) (Int32.toInt_lt _)
  · have read := readInt32_word (Int32.le_toInt (Int32.ofNat header.cryptoInfoLength))
        (Int32.toInt_lt _)
    rw [Int32.toInt_ofNat_of_lt infoLength] at read
    simp [Int32.toInt_ofNat_of_lt infoLength, read]
  · have read := readInt32_word (Int32.le_toInt (Int32.ofNat header.rqLength)) (Int32.toInt_lt _)
    rw [Int32.toInt_ofNat_of_lt rqLength] at read
    simp [Int32.toInt_ofNat_of_lt rqLength, read]
  · have small := header.swVersion.toNat_lt
    simp [word]
    omega
  · cases header.requestClientConf <;> simp [word]

theorem cryptoInfo_read (info : CryptoInfo) :
    stringValue 1 info.fields = info.iv ∧
      readInt32 (intValue 2 info.fields) = info.aesPaddingLength.toInt := by
  constructor
  · simp [stringValue, CryptoInfo.fields]
  · have read := readInt32_word (Int32.le_toInt info.aesPaddingLength) (Int32.toInt_lt _)
    simpa [intValue_eq, CryptoInfo.fields] using read

section Frame

variable {decrypt : Vector UInt8 16 → List UInt8 → List UInt8 → List UInt8}
  {keys : ℤ → Vector UInt8 16}

theorem readBody_frame (key : Vector UInt8 16) (info : CryptoInfo) (cipher rest : List UInt8) :
    readBody decrypt key (writeMessage info.fields).length cipher.length
        (writeMessage info.fields ++ cipher ++ rest) =
      decodeRq ((decrypt key info.iv cipher).take
        (cipher.length - info.aesPaddingLength.toInt.toNat)) := by
  obtain ⟨vector, padding⟩ := cryptoInfo_read info
  have enough : ¬ (writeMessage info.fields ++ cipher ++ rest).length <
      (writeMessage info.fields).length + cipher.length := by
    rw [List.length_append, List.length_append]
    omega
  have first : (writeMessage info.fields ++ cipher ++ rest).take (writeMessage info.fields).length =
      writeMessage info.fields := by
    rw [List.append_assoc, List.take_left]
  have second :
      ((writeMessage info.fields ++ cipher ++ rest).drop (writeMessage info.fields).length).take
      cipher.length = cipher := by
    rw [List.append_assoc, List.drop_left, List.take_left]
  rw [readBody, if_neg enough, first, second, readMessage_writeMessage, Option.bind_some,
    vector, padding]

theorem readAnnounced_frame (header : RqHeader) (info : CryptoInfo) (cipher rest : List UInt8)
    (iv : info.iv.length ≤ AES_BLOCKLEN) (short : cipher.length < 2 ^ 31)
    (infoLength : header.cryptoInfoLength = (writeMessage info.fields).length)
    (rqLength : header.rqLength = cipher.length) :
    readAnnounced decrypt keys header.fields (writeMessage info.fields ++ cipher ++ rest) =
      (decodeRq ((decrypt (keys header.partnerId.toInt32.toInt) info.iv cipher).take
        (cipher.length - info.aesPaddingLength.toInt.toNat))).map fun rq =>
          ⟨header.partnerId.toInt32.toInt, header.swVersion.toNat,
            header.requestClientConf, rq⟩ := by
  have infoShort := length_cryptoInfo_le info iv
  obtain ⟨partner, length1, length2, version, conf⟩ := rqHeader_read header (by omega) (by omega)
  have flag : decide (intValue 5 header.fields ≠ 0) = header.requestClientConf := by
    by_cases given : intValue 5 header.fields ≠ 0
    · rw [decide_eq_true given, conf.1 given]
    · rw [decide_eq_false given]
      cases value : header.requestClientConf with
      | false => rfl
      | true => exact absurd (conf.2 value) given
  rw [readAnnounced, partner, length1, length2, version, flag, infoLength, rqLength, readBody_frame]

/-- The length of the header, the header, the crypto info and the encrypted body are taken apart. -/
theorem readRequest_frame (header : RqHeader) (info : CryptoInfo) (cipher rest : List UInt8)
    (iv : info.iv.length ≤ AES_BLOCKLEN) (short : cipher.length < 2 ^ 31)
    (infoLength : header.cryptoInfoLength = (writeMessage info.fields).length)
    (rqLength : header.rqLength = cipher.length) :
    readRequest decrypt keys (UInt8.ofNat (writeMessage header.fields).length ::
        (writeMessage header.fields ++ (writeMessage info.fields ++ cipher ++ rest))) =
      (decodeRq ((decrypt (keys header.partnerId.toInt32.toInt) info.iv cipher).take
        (cipher.length - info.aesPaddingLength.toInt.toNat))).map fun rq =>
          ⟨header.partnerId.toInt32.toInt, header.swVersion.toNat,
            header.requestClientConf, rq⟩ := by
  have headerShort := length_rqHeader_le header
  have size : (UInt8.ofNat (writeMessage header.fields).length).toNat =
    (writeMessage header.fields).length := by
    rw [UInt8.toNat_ofNat']
    omega
  have enough :
      ¬ (writeMessage header.fields ++ (writeMessage info.fields ++ cipher ++ rest)).length <
        (writeMessage header.fields).length := by
    rw [List.length_append]
    omega
  rw [readRequest, List.head?_cons, Option.bind_some, size, List.tail_cons, readSized,
    if_neg enough, List.take_left, List.drop_left, readMessage_writeMessage, Option.bind_some,
    readAnnounced_frame header info cipher rest iv short infoLength rqLength]

variable {codec : Codec} {s : SkySctx} {r : SkyRctx}

theorem aesPadding_lt (size : ℕ) : aesPadding size < AES_BLOCKLEN := by
  unfold aesPadding AES_BLOCKLEN
  omega

/-- A server with the key of the partner reads the body that `serialize_request` wrote. -/
theorem readRequest_serializeRequest (writes : codec.WritesFields)
    (cipher : codec.DecryptedBy decrypt) (key : keys s.partnerId.toInt32.toInt = s.aesKey)
    (short : (buildRq s r).encode.length ≤ 16000) {buf random : List UInt8} (swVersion : UInt32)
    (requestConfig : Bool) (vector : random.length = AES_BLOCKLEN)
    (enough : (envelope codec s r swVersion requestConfig random).2.totalLength ≤ buf.length) :
    readRequest decrypt keys (serializeRequest codec s r buf swVersion requestConfig random).2 =
      (decodeRq (buildRq s r).encode).map fun rq =>
        ⟨s.partnerId.toInt32.toInt, swVersion.toNat, requestConfig, rq⟩ := by
  unfold serializeRequest
  dsimp only
  rw [if_neg (not_lt.2 enough)]
  unfold envelope
  dsimp only
  rw [writes.rqHeader, writes.cryptoInfo, writes.rq]
  generalize iv : (if s.randBytes then random else List.replicate AES_BLOCKLEN 0) = vector'
  have ivLength : vector'.length = AES_BLOCKLEN := by
    rw [← iv]
    split_ifs
    · exact vector
    · exact List.length_replicate
  generalize (buildRq s r).encode = body at short ⊢
  have small := aesPadding_lt body.length
  have padded : (body ++ List.replicate (aesPadding body.length) (0 : UInt8)).length =
      body.length + aesPadding body.length := by
    rw [List.length_append, List.length_replicate]
  have blocks :
      AES_BLOCKLEN ∣ (body ++ List.replicate (aesPadding body.length) (0 : UInt8)).length := by
    rw [padded]
    exact dvd_add_aesPadding _
  have whole := (cipher.length s.aesKey vector' _ blocks).trans padded
  have plain := cipher.decrypt s.aesKey vector' _ ivLength blocks
  have padding : (Int32.ofNat (aesPadding body.length)).toInt.toNat = aesPadding body.length := by
    simp only [AES_BLOCKLEN] at small
    rw [Int32.toInt_ofNat_of_lt (by omega), Int.toNat_natCast]
  generalize encrypted : codec.aesCbcEncrypt s.aesKey vector' (body ++
    List.replicate (aesPadding body.length) 0) = cipherText at whole plain ⊢
  simp only [AES_BLOCKLEN] at ivLength small
  rw [List.cons_append, List.append_assoc, List.append_assoc, ← List.append_assoc
    (writeMessage (CryptoInfo.fields _)),
    readRequest_frame _ _ _ _ ivLength.le (by omega) rfl whole.symm]
  dsimp only
  rw [key, plain, whole, padding, Nat.add_sub_cancel, List.take_left]

theorem skyEncodeRequest_serialized {buf random out : List UInt8}
    (checked : (validateRequestCtx r).2 = r)
    (encoded : (skyEncodeRequest codec s r (some buf) random).errno = .none)
    (written : (skyEncodeRequest codec s r (some buf) random).buf = some out) :
    (envelope codec s r SW_VERSION (s.config.lastConfigTime = CONFIG_UPDATE_DUE)
      random).2.totalLength ≤
        buf.length ∧
      out = (serializeRequest codec s r buf SW_VERSION (s.config.lastConfigTime = CONFIG_UPDATE_DUE)
        random).2 := by
  unfold skyEncodeRequest at encoded written
  dsimp only at encoded written
  rw [checked] at encoded written
  split_ifs at encoded written with invalid denied empty serialized
  constructor
  · by_contra small
    unfold serializeRequest at serialized
    dsimp only at serialized
    rw [if_pos (not_le.1 small)] at serialized
    simp at serialized
  · exact (Option.some.inj written).symm

end Frame

theorem SkyRctx.WellFormed.readable {r : SkyRctx} (good : r.WellFormed) (dated : Dated r.live)
    (position : r.gnss.present = true → r.gnss.Encodable) : r.Readable where
  represented := good.represented
  holds := (good.acceptedAps dated).1
  aps := (good.acceptedAps dated).2
  accepted := good.listed.inOrder.accepted
  position := position

variable {env : Env} {decrypt : Vector UInt8 16 → List UInt8 → List UInt8 → List UInt8}
variable {keys : ℤ → Vector UInt8 16} {cacheSize : ℕ} {args : OpenArgs} {calls : List Call}

/-- In every run within the buffers, what the server reads of a request that was encoded is what it
reads of the body. -/
theorem readRequest_encoded (writes : env.codec.WritesFields)
    (cipher : env.codec.DecryptedBy decrypt)
    (opened : (skyOpen (SkySctx.zeroed cacheSize) args).1 = .none)
    (inside : Along (World.step env) (fun w call => w.withinCapacity call ∧ w.UplinkFits call)
      (World.start cacheSize) (.openSession args :: calls))
    {id : ℕ} {r : SkyRctx}
    (member : ((World.start cacheSize).run env (.openSession args :: calls)).ctx id = some r)
    (position : r.gnss.present = true → r.gnss.Encodable)
    {buf random out : List UInt8} (vector : random.length = AES_BLOCKLEN) :
    let s := ((World.start cacheSize).run env (.openSession args :: calls)).sctx
    keys s.partnerId.toInt32.toInt = s.aesKey →
    (skyEncodeRequest env.codec s r (some buf) random).errno = .none →
    (skyEncodeRequest env.codec s r (some buf) random).buf = some out →
    r.Readable ∧ readRequest decrypt keys out = (decodeRq (buildRq s r).encode).map fun rq =>
      ⟨s.partnerId.toInt32.toInt, 22, s.config.lastConfigTime = CONFIG_UPDATE_DUE, rq⟩ := by
  intro s key encoded buffer
  obtain ⟨capacity, uplink⟩ := along_and.1 inside
  have dated := World.run_dated env (World.start_dated cacheSize) capacity
  have sized :
      (((World.start cacheSize).step env (.openSession args)).run env calls).Sized cacheSize :=
    run_invariant (fun _ call kept => kept.step call)
      (World.start_buffered env opened).sized uplink.2
  have good := dated.wellFormed.ctx id r member
  have readable := good.readable (dated.ctx id r member) position
  obtain ⟨enough, written⟩ := skyEncodeRequest_serialized good.validateRequestCtx encoded buffer
  have short := length_buildRq_le readable.represented readable.holds sized.idLen sized.ulAppDataLen
  refine ⟨readable, ?_⟩
  rw [written]
  exact readRequest_serializeRequest writes cipher key short SW_VERSION _ vector enough

/-- In every run within the buffers, a server with the key of the partner that is given the buffer
of a successful `sky_encode_request` of a context whose position, if it has one, fits the fields
reads back the partner, the version, the wish for configuration and what the session and the context
hold, exactly when no cell that is sent has an identifier below the unknown marker. -/
theorem request_roundTrip (writes : env.codec.WritesFields) (cipher : env.codec.DecryptedBy decrypt)
    (opened : (skyOpen (SkySctx.zeroed cacheSize) args).1 = .none)
    (inside : Along (World.step env) (fun w call => w.withinCapacity call ∧ w.UplinkFits call)
      (World.start cacheSize) (.openSession args :: calls))
    {id : ℕ} {r : SkyRctx}
    (member : ((World.start cacheSize).run env (.openSession args :: calls)).ctx id = some r)
    (position : r.gnss.present = true → r.gnss.Encodable)
    (key : let s := ((World.start cacheSize).run env (.openSession args :: calls)).sctx
      keys s.partnerId.toInt32.toInt = s.aesKey)
    {buf random out : List UInt8} (vector : random.length = AES_BLOCKLEN)
    (encoded : let s := ((World.start cacheSize).run env (.openSession args :: calls)).sctx
      (skyEncodeRequest env.codec s r (some buf) random).errno = .none ∧
        (skyEncodeRequest env.codec s r (some buf) random).buf = some out) :
    let s := ((World.start cacheSize).run env (.openSession args :: calls)).sctx
    readRequest decrypt keys out =
        some ⟨s.partnerId.toInt32.toInt, 22, s.config.lastConfigTime = CONFIG_UPDATE_DUE,
          rqReport s r⟩ ↔
      ∀ b ∈ sentCells s r, b.identifiersFit := by
  obtain ⟨readable, read⟩ :=
    @readRequest_encoded env decrypt keys cacheSize args calls writes cipher opened inside id r
    member position buf random out vector key encoded.1 encoded.2
  dsimp only at read ⊢
  rw [read, ← decodeRq_buildRq_iff readable]
  constructor
  · intro same
    obtain ⟨rq, decoded, eq⟩ := Option.map_eq_some_iff.1 same
    rw [decoded, Option.some.injEq]
    exact congrArg RequestReport.rq eq
  · intro decoded
    rw [decoded]
    rfl

theorem sentCalls_read :
    ∃ r out, sentWorld.ctx 0 = some r ∧
      (skyEncodeRequest sentEnv.codec sentWorld.sctx r (some (List.replicate 160 0))
        (List.replicate 16 5)).buf = some out ∧
      readRequest (textsAes sentTexts) (fun _ => Vector.replicate 16 0) out =
        some ⟨1, 22, true, rqReport sentWorld.sctx r⟩ := by
  have facts : (sentWorld.ctx 0).map (fun r =>
      let encoded := skyEncodeRequest sentEnv.codec sentWorld.sctx r (some (List.replicate 160 0))
        (List.replicate 16 5)
      (encoded.errno, encoded.buf.isSome, decide r.gnss.Encodable,
        decide (∀ b ∈ sentCells sentWorld.sctx r, b.identifiersFit))) =
      some (.none, true, true, true) := by decide +kernel
  obtain ⟨r, member, eq⟩ := Option.map_eq_some_iff.1 facts
  simp only [Prod.mk.injEq, decide_eq_true_eq, Option.isSome_iff_exists] at eq
  obtain ⟨encoded, ⟨out, written⟩, position, fit⟩ := eq
  refine ⟨r, out, member, written, ?_⟩
  have cipher : sentEnv.codec.DecryptedBy (textsAes sentTexts) :=
    textsAes_decryptedBy (by decide +kernel)
  exact (request_roundTrip (Codec.nanopb_writesFields _) cipher (by decide +kernel)
    (by decide +kernel) member (fun _ => position) (by decide +kernel) (by decide)
    ⟨encoded, written⟩).2 fit

end EmbeddedClient
