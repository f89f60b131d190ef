import EmbeddedClient.Beacons.Capacity
import EmbeddedClient.Beacons.Invariant
import EmbeddedClient.Model.Nanopb
import EmbeddedClient.Session.Backoff

/-!
# Sizing and encoding a request

`sky_sizeof_request_buf` prepares the contexts and measures the request,
`sky_encode_request` validates them again and writes it. The two agree unless
the cacheline that the first takes the beacons from is one that the second
turns away.
-/

namespace EmbeddedClient

open Varint

/-- What the client relies on in the message encoder and the cipher: the size of
the crypto info does not depend on the content of its initialisation vector, and
whole blocks are encrypted in place. -/
structure Codec.Lawful (codec : Codec) : Prop where
  cryptoInfo : ∀ iv iv' : List UInt8, iv.length = AES_BLOCKLEN → iv'.length = AES_BLOCKLEN →
    ∀ padding, (codec.cryptoInfo ⟨iv, padding⟩).length = (codec.cryptoInfo ⟨iv', padding⟩).length
  aesCbcEncrypt : ∀ key iv body, AES_BLOCKLEN ∣ body.length →
    (codec.aesCbcEncrypt key iv body).length = body.length

theorem dvd_add_aesPadding (size : ℕ) : AES_BLOCKLEN ∣ size + aesPadding size := by
  unfold aesPadding AES_BLOCKLEN
  omega

/-- `size` bytes of a request, and zeros up to the end of the buffer: the length of
the header, the header, the crypto info and whole cipher blocks. -/
def Codec.frames (codec : Codec) (size length : ℕ) (out : List UInt8) : Prop :=
  ∃ (header : RqHeader) (info : CryptoInfo) (body : List UInt8),
    out = (UInt8.ofNat (codec.rqHeader header).length ::
      (codec.rqHeader header ++ codec.cryptoInfo info ++ body)) ++ List.replicate
      (length - size) 0 ∧
    header.cryptoInfoLength = (codec.cryptoInfo info).length ∧ header.rqLength = body.length ∧
    AES_BLOCKLEN ∣ body.length ∧
    size = 1 + (codec.rqHeader header).length + (codec.cryptoInfo info).length + body.length

variable {codec : Codec}

theorem Codec.WritesFields.lawful {decrypt : Vector UInt8 16 → List UInt8 → List UInt8 → List UInt8}
    (writes : codec.WritesFields) (cipher : codec.DecryptedBy decrypt) : codec.Lawful where
  cryptoInfo := by
    intro iv iv' length length' padding
    have given (bytes : List UInt8) (full : bytes.length = AES_BLOCKLEN) :
        (writeMessage (Field.ofBytes 1 bytes)).length = 18 := by
      have filled : bytes ≠ [] := List.ne_nil_of_length_pos (by rw [full]; decide)
      simp [Field.ofBytes, givenString, filled, writeMessage, Field.encode, full,
        Varint.encode, key]
    rw [writes.cryptoInfo, writes.cryptoInfo, CryptoInfo.fields, CryptoInfo.fields,
      writeMessage_append, writeMessage_append, List.length_append, List.length_append,
      given iv length, given iv' length']
  aesCbcEncrypt := cipher.length

/-- The size of a request does not depend on the random numbers. -/
theorem envelope_random (lawful : codec.Lawful) (s : SkySctx) (r : SkyRctx) (swVersion : UInt32)
    (requestConfig : Bool) {random random' : List UInt8} (length : random.length = AES_BLOCKLEN)
    (length' : random'.length = AES_BLOCKLEN) :
    (envelope codec s r swVersion requestConfig random).2.totalLength =
      (envelope codec s r swVersion requestConfig random').2.totalLength := by
  have iv (bytes : List UInt8) (full : bytes.length = AES_BLOCKLEN) :
      (if s.randBytes then bytes else List.replicate AES_BLOCKLEN 0).length = AES_BLOCKLEN := by
    split_ifs
    · exact full
    · exact List.length_replicate
  have info := lawful.cryptoInfo _ _ (iv random length) (iv random' length')
    (Int32.ofNat (aesPadding (codec.rq (buildRq s r)).length))
  unfold envelope Envelope.totalLength
  dsimp only
  rw [info]

theorem serializeRequest_spec (lawful : codec.Lawful) (s : SkySctx) (r : SkyRctx)
    (buf : List UInt8) (swVersion : UInt32) (requestConfig : Bool) (random : List UInt8) {size : ℕ}
    (total : (envelope codec s r swVersion requestConfig random).2.totalLength = size) :
    (size ≤ buf.length →
      (serializeRequest codec s r buf swVersion requestConfig random).1 = size ∧
        codec.frames size buf.length
          (serializeRequest codec s r buf swVersion requestConfig random).2) ∧
      (buf.length < size →
        serializeRequest codec s r buf swVersion requestConfig random = (-1, buf)) := by
  unfold serializeRequest
  dsimp only
  rw [total]
  constructor
  · intro enough
    rw [if_neg (not_lt.2 enough)]
    set e := envelope codec s r swVersion requestConfig random with built
    have padded : (e.2.body ++ List.replicate (aesPadding e.2.body.length) 0).length =
        e.2.body.length + aesPadding e.2.body.length := by
      rw [List.length_append, List.length_replicate]
    have blocks : AES_BLOCKLEN ∣
        (e.2.body ++ List.replicate (aesPadding e.2.body.length) (0 : UInt8)).length := by
      rw [padded]
      exact dvd_add_aesPadding _
    have cipher := (lawful.aesCbcEncrypt s.aesKey e.1.iv _ blocks).trans padded
    unfold Envelope.totalLength at total
    constructor
    · omega
    · refine ⟨_, _, _, rfl, rfl, cipher.symm, ?_, ?_⟩
      · rw [cipher]
        exact dvd_add_aesPadding _
      · rw [cipher]
        exact total.symm
  · intro short
    rw [if_pos short]

/-- Sizing and encoding agree: the size that is reported is what a buffer must have
and what is written, and a smaller buffer is left alone. -/
def SizingAgrees (codec : Codec) (s : SkySctx) (r : SkyRctx) : Prop :=
  ∀ (random random' buf : List UInt8) (size : ℕ), random.length = AES_BLOCKLEN →
    random'.length = AES_BLOCKLEN →
    let sized := skySizeofRequestBuf codec s r random
    let encoded := skyEncodeRequest codec sized.sctx sized.rctx (some buf) random'
    sized.size = some size →
    (size ≤ buf.length → encoded.errno = .none ∧ encoded.written = some (size : ℤ) ∧
      ∃ out, encoded.buf = some out ∧ codec.frames size buf.length out) ∧
    (buf.length < size → encoded.errno = .encodeError ∧ encoded.buf = some buf)

/-- The line that sizing takes over from the cache, if it does, can be encoded. -/
def SkySctx.lineEncodable (s : SkySctx) (r : SkyRctx) : Prop :=
  r.isCacheHit = true → s.cacheHits < 127 →
    (s.line r.getFrom).numAp ≤ MAX_AP_BEACONS + 1 ∧
      ((s.line r.getFrom).numBeacons ≠ 0 ∨ (s.line r.getFrom).gnss.present = true)

variable {s : SkySctx} {r : SkyRctx}

/-- Sizing leaves the configuration marked as due exactly when it measures a request
for it. -/
theorem prepareRequest_configDue (s : SkySctx) (r : SkyRctx) :
    decide ((prepareRequest s r).1.config.lastConfigTime = CONFIG_UPDATE_DUE) =
      requestConfigDue s r := by
  have config : (prepareRequest s r).1.config = (s.markConfigDue r).config := by
    unfold prepareRequest
    dsimp only
    split_ifs <;> rfl
  rw [config, SkySctx.markConfigDue]
  split_ifs with due
  · rw [due]
    rfl
  · have notDue : ¬ s.config.lastConfigTime = CONFIG_UPDATE_DUE := by
      intro eq
      simp [requestConfigDue, eq] at due
    rw [decide_eq_false notDue]
    simpa using due

theorem skyEncodeRequest_valid (valid : r.Valid)
    (content : r.numBeacons ≠ 0 ∨ r.gnss.present = true)
    (allowed : backoffViolation s r.header.time.toNat = false) (buf random : List UInt8) :
    skyEncodeRequest codec s r (some buf) random =
      let rc := serializeRequest codec s r buf SW_VERSION
        (s.config.lastConfigTime = CONFIG_UPDATE_DUE) random
      if 0 < rc.1 then ⟨.none, r, some rc.2, some rc.1⟩
        else ⟨.encodeError, r, some rc.2, none⟩ := by
  have nonempty : ¬ (r.numBeacons = 0 ∧ (!r.gnss.present) = true) := by
    rintro ⟨none, absent⟩
    rcases content with some | present
    · exact some none
    · simp [present] at absent
  unfold skyEncodeRequest
  rw [valid.validateRequestCtx]
  dsimp only
  rw [allowed, if_neg nonempty]
  simp

theorem skyEncodeRequest_passed {buf : Option (List UInt8)} {random : List UInt8}
    (encoded : (skyEncodeRequest codec s r buf random).errno = .none) :
    (validateRequestCtx r).1 = true ∧ (r.numBeacons ≠ 0 ∨ r.gnss.present = true) := by
  obtain ⟨bs, rest⟩ := validateRequestCtx_rest r
  unfold skyEncodeRequest at encoded
  dsimp only at encoded
  split_ifs at encoded with invalid denied empty
  rw [rest] at empty
  constructor
  · simpa using invalid
  · by_cases none : r.numBeacons = 0
    · refine .inr ?_
      simpa [none] using empty
    · exact .inl none

theorem skySizeofRequestBuf_valid (valid : (validateRequestCtx r).1 = true) (random : List UInt8) :
    skySizeofRequestBuf codec s r random =
      ⟨.none, (prepareRequest s (validateRequestCtx r).2).1,
        (prepareRequest s (validateRequestCtx r).2).2,
        some (serializedSize codec (prepareRequest s (validateRequestCtx r).2).1
          (prepareRequest s (validateRequestCtx r).2).2 SW_VERSION
          (requestConfigDue s (validateRequestCtx r).2) random)⟩ := by
  unfold skySizeofRequestBuf
  dsimp only
  rw [valid, if_neg (by decide), if_pos]
  unfold serializedSize Envelope.totalLength
  omega

theorem backoffViolation_congr {s' : SkySctx} (same : SameSession s s') (now : ℤ) :
    backoffViolation s' now = backoffViolation s now := by
  unfold backoffViolation
  rw [same.backoff, same.header]

theorem prepareRequest_valid (lines : ∀ cl ∈ s.cacheline, cl.WellFormed) (valid : r.Valid)
    (content : r.numBeacons ≠ 0 ∨ r.gnss.present = true) (encodable : s.lineEncodable r) :
    (prepareRequest s r).2.Valid ∧ ((prepareRequest s r).2.numBeacons ≠ 0 ∨
      (prepareRequest s r).2.gnss.present = true) := by
  rcases prepareRequest_cases s r with ⟨hit, few, eq⟩ | ⟨-, -, eq⟩ | ⟨-, eq⟩
  · obtain ⟨aps, lineContent⟩ := encodable hit few
    rw [eq]
    exact ⟨valid.populate (SkyRctx.WellFormed.line lines r.getFrom) aps, lineContent⟩
  · rw [eq]
    exact ⟨valid.congr rfl rfl rfl rfl, content⟩
  · have same := sameScan_selectVap s r
    rw [eq]
    refine ⟨valid.congr same.header same.numBeacons same.numAp same.beacon, ?_⟩
    rw [same.numBeacons, same.rest]
    exact content

theorem lineEncodable_validateRequestCtx (s : SkySctx) (r : SkyRctx) :
    s.lineEncodable (validateRequestCtx r).2 ↔ s.lineEncodable r := by
  obtain ⟨bs, rest⟩ := validateRequestCtx_rest r
  rw [rest]
  rfl

theorem SizingAgrees.lineEncodable (agrees : SizingAgrees codec s r)
    (valid : (validateRequestCtx r).1 = true) : s.lineEncodable r := by
  rw [← lineEncodable_validateRequestCtx]
  intro hit few
  let size := serializedSize codec (prepareRequest s (validateRequestCtx r).2).1
    (prepareRequest s (validateRequestCtx r).2).2 SW_VERSION
    (requestConfigDue s (validateRequestCtx r).2) (List.replicate AES_BLOCKLEN 0)
  have sized : skySizeofRequestBuf codec s r (List.replicate AES_BLOCKLEN 0) = _ :=
    skySizeofRequestBuf_valid valid _
  have encoded := ((agrees (List.replicate AES_BLOCKLEN 0) (List.replicate AES_BLOCKLEN 0)
    (List.replicate size 0) size List.length_replicate List.length_replicate
    (by rw [sized])).1 List.length_replicate.ge).1
  rw [sized] at encoded
  obtain ⟨passed, lineContent⟩ := skyEncodeRequest_passed encoded
  have bound := (validateRequestCtx_bound passed).2
  rcases prepareRequest_cases s (validateRequestCtx r).2 with ⟨-, -, eq⟩ | ⟨-, many, -⟩ | ⟨miss, -⟩
  · rw [eq] at bound lineContent
    exact ⟨bound, lineContent⟩
  · exact absurd few many
  · rw [hit] at miss
    exact absurd miss (by decide)

/-- Sizing leaves a request that encoding accepts if the line of a cache hit is in order. -/
theorem prepareRequest_ready (lines : ∀ cl ∈ s.cacheline, cl.WellFormed)
    (valid : (validateRequestCtx r).1 = true) (content : r.numBeacons ≠ 0 ∨ r.gnss.present = true)
    (encodable : s.lineEncodable r) :
    (prepareRequest s (validateRequestCtx r).2).2.Valid ∧
      ((prepareRequest s (validateRequestCtx r).2).2.numBeacons ≠ 0 ∨
        (prepareRequest s (validateRequestCtx r).2).2.gnss.present = true) := by
  apply prepareRequest_valid lines (SkyRctx.Valid.of_validateRequestCtx valid)
  · obtain ⟨bs, rest⟩ := validateRequestCtx_rest r
    rw [rest]
    exact content
  · exact (lineEncodable_validateRequestCtx s r).2 encodable

/-- Sizing and encoding agree on a valid request that is not empty and may be sent,
exactly when the line that a cache hit is encoded from is not empty and has no more
APs than a context. -/
theorem sizingAgrees_iff (lawful : codec.Lawful) (lines : ∀ cl ∈ s.cacheline, cl.WellFormed)
    (valid : (validateRequestCtx r).1 = true)
    (content : r.numBeacons ≠ 0 ∨ r.gnss.present = true)
    (allowed : backoffViolation s r.header.time.toNat = false) :
    SizingAgrees codec s r ↔ s.lineEncodable r := by
  constructor
  · intro agrees
    exact agrees.lineEncodable valid
  · intro encodable random random' buf size length length' sized encoded reported
    have prepared := same_prepareRequest s (validateRequestCtx r).2
    have ready := prepareRequest_ready lines valid content encodable
    have mayEncode : backoffViolation (prepareRequest s (validateRequestCtx r).2).1
        (prepareRequest s (validateRequestCtx r).2).2.header.time.toNat = false := by
      rw [backoffViolation_congr prepared.1, prepared.2.header,
        (sameRequest_validateRequestCtx r).header]
      exact allowed
    simp only [encoded, sized, skySizeofRequestBuf_valid valid, Option.some.injEq] at reported ⊢
    rw [skyEncodeRequest_valid ready.1 ready.2 mayEncode, prepareRequest_configDue]
    have total := (envelope_random lawful (prepareRequest s (validateRequestCtx r).2).1
      (prepareRequest s (validateRequestCtx r).2).2 SW_VERSION
      (requestConfigDue s (validateRequestCtx r).2) length' length).trans reported
    have spec := serializeRequest_spec lawful _ _ buf SW_VERSION _ random' total
    have positive : 0 < size := by
      rw [← reported]
      unfold serializedSize Envelope.totalLength
      omega
    constructor
    · intro enough
      obtain ⟨written, frames⟩ := spec.1 enough
      dsimp only
      rw [written, if_pos (by omega)]
      exact ⟨rfl, rfl, _, rfl, frames⟩
    · intro short
      rw [spec.2 short]
      exact ⟨rfl, rfl⟩

/-- A cipher that exchanges two texts under each vector, for a key of zeros. -/
def textsAes (texts : List (List UInt8 × List UInt8 × List UInt8)) (key : Vector UInt8 16)
    (iv body : List UInt8) : List UInt8 :=
  match texts.find? (·.1 = iv) with
  | some (_, plain, cipher) =>
    if key = Vector.replicate 16 0 then Equiv.swap plain cipher body else body
  | none => body

theorem textsAes_decryptedBy {texts : List (List UInt8 × List UInt8 × List UInt8)}
    (same : ∀ entry ∈ texts, entry.2.1.length = entry.2.2.length) :
    (Codec.nanopb (textsAes texts)).DecryptedBy (textsAes texts) where
  length := by
    intro key iv body _
    show (textsAes texts key iv body).length = body.length
    unfold textsAes
    cases found : texts.find? (·.1 = iv) with
    | none => rfl
    | some entry =>
      have lengths := same entry (List.mem_of_find?_eq_some found)
      dsimp only
      rw [Equiv.swap_apply_def]
      split_ifs with _ plain cipher
      · rw [plain, lengths]
      · rw [cipher, lengths]
      · rfl
      · rfl
  decrypt := by
    intro key iv body _ _
    show textsAes texts key iv (textsAes texts key iv body) = body
    unfold textsAes
    cases texts.find? (·.1 = iv) with
    | none => rfl
    | some entry =>
      dsimp only
      split_ifs
      · exact Equiv.congr_fun (Equiv.swap_swap entry.2.1 entry.2.2) body
      · rfl

def sentCalls : List Call :=
  [.newRequest 0 sizeofSkyRctx [7, 8] 1600000000,
    .onCtx 0 (.addBeacon (apCall 1 (-80)) 1600000000),
    .onCtx 0 (.addBeacon (apCall 9 (-50)) 1600000000),
    .onCtx 0 (.addBeacon (.lte 1000 100000 310 10 5 2000 0 (-100) true) 1600000000),
    .onCtx 0 (.addGnss ⟨.fin (339 / 8), .fin (-569 / 8), 10, .fin 25, 20, .fin 1, .fin 90, 7,
      1600000000⟩)]

def sentPlain : List UInt8 :=
  [10, 6, 1, 2, 3, 4, 5, 6, 16, 128, 160, 248, 250, 5, 26, 23, 34, 12, 137, 128, 128, 128, 128,
    64, 129, 128, 128, 128, 128, 64, 16, 237, 18, 50, 2, 50, 80, 24, 1, 74, 40, 10, 4, 216, 174,
    154, 20, 18, 10, 248, 239, 138, 222, 255, 255, 255, 255, 255, 1, 26, 1, 10, 34, 2, 250, 1,
    42, 1, 20, 50, 1, 10, 58, 1, 90, 66, 1, 7, 74, 1, 0, 82, 27, 8, 5, 16, 183, 2, 24, 11, 32,
    233, 7, 40, 161, 141, 6, 48, 6, 56, 209, 15, 64, 1, 72, 100, 80, 0, 88, 1, 90, 0, 162, 1, 2,
    7, 8, 0, 0, 0, 0, 0, 0, 0, 0, 0, 0, 0]

/-- What AES-128 makes of it in CBC mode, under a key of zeros and a vector of fives. -/
def sentCipher : List UInt8 :=
  [117, 232, 54, 150, 236, 139, 59, 88, 158, 117, 226, 240, 157, 193, 191, 111, 82, 5, 234, 178,
    124, 35, 243, 201, 122, 10, 119, 240, 253, 129, 4, 241, 134, 32, 30, 226, 242, 150, 235,
    159, 176, 126, 180, 200, 62, 227, 2, 113, 251, 168, 154, 56, 207, 70, 130, 135, 245, 192,
    46, 239, 174, 211, 251, 159, 219, 17, 194, 141, 169, 179, 24, 44, 145, 99, 136, 165, 194,
    105, 163, 191, 61, 22, 160, 143, 144, 121, 117, 90, 241, 107, 187, 47, 244, 105, 191, 28,
    228, 119, 56, 46, 98, 79, 41, 50, 18, 131, 52, 225, 111, 3, 196, 141, 107, 131, 226, 32,
    152, 245, 16, 134, 77, 212, 201, 12, 4, 96, 48, 58]

def sentTexts : List (List UInt8 × List UInt8 × List UInt8) :=
  [(List.replicate 16 5, sentPlain, sentCipher)]

def sentEnv : Env := { bareEnv with codec := Codec.nanopb (textsAes sentTexts) }

def sentWorld : World := (World.start 1).run sentEnv (.openSession bareOpen :: sentCalls)

theorem sentCalls_sizingAgrees :
    ∃ r, sentWorld.ctx 0 = some r ∧ SizingAgrees sentEnv.codec sentWorld.sctx r ∧
      (skySizeofRequestBuf sentEnv.codec sentWorld.sctx r (List.replicate 16 5)).size =
        some 160 := by
  have facts : (sentWorld.ctx 0).map (fun r =>
      ((validateRequestCtx r).1, r.numBeacons, r.isCacheHit,
        backoffViolation sentWorld.sctx r.header.time.toNat,
        (skySizeofRequestBuf sentEnv.codec sentWorld.sctx r (List.replicate 16 5)).size)) =
      some (true, 3, false, false, some 160) := by decide +kernel
  obtain ⟨r, member, eq⟩ := Option.map_eq_some_iff.1 facts
  simp only [Prod.mk.injEq] at eq
  obtain ⟨valid, beacons, miss, allowed, size⟩ := eq
  have capacity : Runs.Along (World.step sentEnv) World.withinCapacity (World.start 1)
      (.openSession bareOpen :: sentCalls) := by decide +kernel
  have good : sentWorld.sctx.WellFormed :=
    (World.run_wellFormed sentEnv (World.start_bounded 1).wellFormed capacity).sctx
  have lawful : sentEnv.codec.Lawful :=
    (Codec.nanopb_writesFields _).lawful (textsAes_decryptedBy (by decide +kernel))
  refine ⟨r, member, (sizingAgrees_iff lawful good.lines valid ?_ allowed).2 ?_, size⟩
  · left
    rw [beacons]
    decide
  · intro hit
    rw [miss] at hit
    exact absurd hit (by decide)

/-- An empty request is located and stored in the first of two lines, one with an AP
in the second. The next request finds the AP there, and with one more AP does not. -/
def staleCalls : List Call :=
  [.openSession bareOpen, .newRequest 0 sizeofSkyRctx [] 1600000000,
    .onCtx 0 (.decodeResponse ⟨7, 6, some ⟨0, 0, .success⟩, none, none⟩ SkyLocation.zero 1600000000
      1600000000),
    .newRequest 0 sizeofSkyRctx [] 1600000000,
    .onCtx 0 (.addBeacon (apCall 1 (-50)) 1600000000),
    .onCtx 0 (.searchCache SkyLocation.zero),
    .onCtx 0 (.decodeResponse ⟨7, 6, some ⟨0, 0, .success⟩, none, none⟩ SkyLocation.zero 1600000001
      1600000001),
    .newRequest 0 sizeofSkyRctx [] 1600000010,
    .onCtx 0 (.addBeacon (apCall 1 (-50)) 1600000010),
    .onCtx 0 (.searchCache SkyLocation.zero),
    .onCtx 0 (.addBeacon (apCall 9 (-60)) 1600000010),
    .onCtx 0 (.searchCache SkyLocation.zero)]

/-- The second search leaves the hit of the first with line zero, which is empty:
the request is measured and then has no beacons. -/
theorem staleCalls_not_sizingAgrees :
    ∃ r, ((World.start 2).run sentEnv staleCalls).ctx 0 = some r ∧
      (validateRequestCtx r).1 = true ∧ r.numBeacons = 2 ∧
      backoffViolation ((World.start 2).run sentEnv staleCalls).sctx r.header.time.toNat = false ∧
      ¬ SizingAgrees sentEnv.codec ((World.start 2).run sentEnv staleCalls).sctx r := by
  have facts : (((World.start 2).run sentEnv staleCalls).ctx 0).map (fun r =>
      let s := ((World.start 2).run sentEnv staleCalls).sctx
      let sized := skySizeofRequestBuf sentEnv.codec s r (List.replicate 16 0)
      ((validateRequestCtx r).1, r.numBeacons, backoffViolation s r.header.time.toNat, sized.size,
        (skyEncodeRequest sentEnv.codec sized.sctx sized.rctx (some (List.replicate 63 0))
          (List.replicate 16 0)).errno)) =
      some (true, 2, false, some 63, .noBeacons) := by decide +kernel
  obtain ⟨r, member, eq⟩ := Option.map_eq_some_iff.1 facts
  simp only [Prod.mk.injEq] at eq
  obtain ⟨valid, beacons, allowed, sized, empty⟩ := eq
  refine ⟨r, member, valid, beacons, allowed, ?_⟩
  intro agrees
  have fits := (agrees (List.replicate 16 0) (List.replicate 16 0) (List.replicate 63 0) 63 rfl rfl
    sized).1 (by decide)
  rw [empty] at fits
  exact absurd fits.1 (by decide)

end EmbeddedClient
