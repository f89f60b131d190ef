import EmbeddedClient.Client.Rounds
import EmbeddedClient.Session.Damage
import EmbeddedClient.Wire.Exchange

/-!
# A round with a server

A server gives out a token, refuses every other one and locates whoever has it. A context that can
be sent is sized, encoded, read by the server and answered in one round of the sample client, and
the round ends as the answer says.
-/

namespace EmbeddedClient

open Varint Runs
open Retry (Outcome)

/-- A world that a run within the buffers reaches. -/
def World.Reached (env : Env) (cacheSize : ℕ) (w : World) : Prop :=
  ∃ args calls, (skyOpen (SkySctx.zeroed cacheSize) args).1 = .none ∧
    Along (World.step env) (fun w call => w.withinCapacity call ∧ w.UplinkFits call)
      (World.start cacheSize)
      (.openSession args :: calls) ∧
    w = (World.start cacheSize).run env (.openSession args :: calls)

namespace World.Reached

variable {env : Env} {cacheSize : ℕ} {w : World} {id : ℕ} {r : SkyRctx}

theorem run (reached : w.Reached env cacheSize) {calls : List Call}
    (inside : Along (World.step env) (fun w call => w.withinCapacity call ∧
      w.UplinkFits call) w calls) :
    (w.run env calls).Reached env cacheSize := by
  obtain ⟨args, before, opened, capacity, rfl⟩ := reached
  refine ⟨args, before ++ calls, opened, ?_, (run_append ..).symm⟩
  rw [← List.cons_append, along_append]
  exact ⟨capacity, inside⟩

theorem step (reached : w.Reached env cacheSize) {call : Call} (capacity : w.withinCapacity call)
    (uplink : w.UplinkFits call) : (w.step env call).Reached env cacheSize :=
  @World.Reached.run env cacheSize w reached [call] ⟨⟨capacity, uplink⟩, trivial⟩

theorem dated (reached : w.Reached env cacheSize) : w.Dated := by
  obtain ⟨args, calls, -, inside, rfl⟩ := reached
  exact World.run_dated env (World.start_dated cacheSize) (along_and.1 inside).1

theorem sized (reached : w.Reached env cacheSize) : w.Sized cacheSize := by
  obtain ⟨args, calls, opened, inside, rfl⟩ := reached
  have sized :
      (((World.start cacheSize).step env (.openSession args)).run env calls).Sized cacheSize :=
    run_invariant (fun _ call kept => kept.step call) (World.start_buffered env opened).sized
      (along_and.1 inside).2.2
  exact sized

theorem valid (reached : w.Reached env cacheSize) (isOpen : w.sctx.openFlag = true) :
    validateSessionCtx w.sctx = true := by
  obtain ⟨args, calls, -, inside, rfl⟩ := reached
  exact ((World.run_lasting env (along_and.1 inside).1).opened isOpen).1.valid

theorem checked (reached : w.Reached env cacheSize) (member : w.ctx id = some r)
    (numBeacons : r.numBeacons ≤ TOTAL_BEACONS) (numAp : r.numAp ≤ MAX_AP_BEACONS + 1) :
    r.Valid := by
  have isSealed : r.Sealed := by
    obtain ⟨args, calls, -, -, rfl⟩ := reached
    exact (World.run_intact env cacheSize _).ctx id r member
  have good := reached.dated.wellFormed.ctx id r member
  refine ⟨isSealed, by omega, numAp, ?_, good.1.usable⟩
  intro b live
  rw [List.take_take] at live
  exact good.listed.inOrder.accepted b (List.take_subset_take_left _ (Nat.min_le_left ..) live)

theorem readable (reached : w.Reached env cacheSize) (member : w.ctx id = some r)
    (position : r.gnss.present = true → r.gnss.Encodable) : r.Readable :=
  (reached.dated.wellFormed.ctx id r member).readable (reached.dated.ctx id r member) position

end World.Reached

/-- What a request is made of. -/
structure Content where
  numBeacons : ℕ
  numAp : ℕ
  live : List Beacon
  gnss : Gnss

def SkyRctx.content (r : SkyRctx) : Content :=
  ⟨r.numBeacons, r.numAp, r.live.map Beacon.scan, r.gnss⟩

def SkyCacheline.content (cl : SkyCacheline) : Content :=
  ⟨cl.numBeacons, cl.numAp, cl.live.map Beacon.scan, cl.gnss⟩

/-- A context offers its own content, and on a hit that of the line. -/
def SkyRctx.Offers (r : SkyRctx) (s : SkySctx) (c : Content) : Prop :=
  c = r.content ∨ r.isCacheHit = true ∧ c = (s.line r.getFrom).content

/-- Content that fits a request and a line of the cache. -/
structure Content.Sendable (c : Content) : Prop where
  content : c.numBeacons ≠ 0 ∨ c.gnss.present = true
  numBeacons : c.numBeacons ≤ TOTAL_BEACONS
  numAp : c.numAp ≤ MAX_AP_BEACONS + 1
  cells : ∀ b ∈ c.live, b.isCellType = true → b.identifiersFit
  position : c.gnss.present = true → c.gnss.Encodable

section Content

variable {s s' : SkySctx} {r r' : SkyRctx} {c : Content}

theorem SkyRctx.Offers.own (r : SkyRctx) (s : SkySctx) : r.Offers s r.content := .inl rfl

theorem SameScan.content (same : SameScan r r') : r'.content = r.content := by
  unfold SkyRctx.content
  rw [same.live, same.rest]

theorem Content.Sendable.identifiersFit (sends : r.content.Sendable) {b : Beacon}
    (live : b ∈ r.live) (cell : b.isCellType = true) : b.identifiersFit :=
  sends.cells b.scan (List.mem_map_of_mem live) (by rwa [Beacon.scan_isCellType])

theorem SkyRctx.Offers.congr (offers : r'.Offers s' c) (cacheline : s'.cacheline = s.cacheline)
    (own : r.Offers s r'.content)
    (hit : r'.isCacheHit = true → r.isCacheHit = true ∧ r'.getFrom = r.getFrom) :
    r.Offers s c := by
  rcases offers with rfl | ⟨found, rfl⟩
  · exact own
  · obtain ⟨before, getFrom⟩ := hit found
    rw [SkySctx.line, cacheline, getFrom]
    exact .inr ⟨before, rfl⟩

theorem SkyRctx.Offers.of_prepareRequest (lines : ∀ cl ∈ s.cacheline, cl.WellFormed)
    (offers : (prepareRequest s r).2.Offers s c) : r.Offers s c := by
  rcases prepareRequest_cases s r with ⟨hit, -, eq⟩ | ⟨hit, -, eq⟩ | ⟨-, eq⟩
  · rw [eq] at offers
    obtain ⟨-, l, live, -, numBeacons⟩ := SkyRctx.WellFormed.line lines r.getFrom
    have full : (s.line r.getFrom).live.length = (s.line r.getFrom).numBeacons := by
      rw [live, numBeacons]
    have populated : (r.populate (s.line r.getFrom)).live = (s.line r.getFrom).live := by
      simp [SkyRctx.live, SkyRctx.populate, ← full]
    refine offers.congr rfl (.inr ⟨hit, ?_⟩) fun _ => ⟨hit, rfl⟩
    unfold SkyRctx.content
    rw [populated]
    rfl
  · rw [eq] at offers
    exact offers.congr rfl (.inl rfl) fun found => by simp [SkyRctx.isCacheHit] at found
  · rw [eq] at offers
    have same := sameScan_selectVap s r
    refine offers.congr rfl (.inl same.content) fun found => ?_
    rw [same.rest] at found ⊢
    exact ⟨found, rfl⟩

/-- A session and a context offer only what another pair did, for the same device and request. -/
structure Carries (s : SkySctx) (r : SkyRctx) (s' : SkySctx) (r' : SkyRctx) : Prop where
  offers : ∀ c, r'.Offers s' c → r.Offers s c
  setup : SameSetup s s'
  header : r'.header = r.header

theorem Carries.trans {s'' : SkySctx} {r'' : SkyRctx} (first : Carries s r s' r')
    (second : Carries s' r' s'' r'') :
    Carries s r s'' r'' where
  offers := fun c offers => first.offers c (second.offers c offers)
  setup := first.setup.trans second.setup
  header := second.header.trans first.header

end Content

section Answers

variable {bits : ℕ} {s : SkySctx} {r : SkyRctx} {resp : Response} {status : LocStatus} {rs : Rs}

/-- A context that may not have a token yet gets one. -/
theorem AuthOutcome.granted_of {s' : SkySctx} {result : SkySctx × SkyRctx × SkyLocation}
    (outcome : AuthOutcome s' r (.start status) status rs result)
    (auth : r.authState = .unregistered) (token : rs.tokenId ≠ TBR_TOKEN_UNKNOWN)
    (cacheHits : UInt8) (later : ℤ) :
    ∃ loc', reportLocation { result.1 with cacheHits := cacheHits } result.2.1 result.2.2 later =
      ⟨.authRetry, { s' with tokenId := rs.tokenId, cacheHits := cacheHits, backoff := .none },
        { r with authState := .registered }, loc'⟩ := by
  cases outcome with
  | refused _ unknown => exact absurd unknown token
  | granted => exact ⟨_, rfl⟩
  | revoked registered => exact absurd (auth.symm.trans registered) (by decide)
  | disabled disabled => exact absurd (auth.symm.trans disabled) (by decide)
  | located known => exact absurd auth known

theorem AuthOutcome.revoked_of {s' : SkySctx} {result : SkySctx × SkyRctx × SkyLocation}
    (outcome : AuthOutcome s' r (.start status) status rs result) (auth : r.authState = .registered)
    (denied : status = .authError) (cacheHits : UInt8) (later : ℤ) :
    ∃ loc', reportLocation { result.1 with cacheHits := cacheHits } result.2.1 result.2.2 later =
      ⟨s'.backoff.nextBackoff, { s' with tokenId := TBR_TOKEN_UNKNOWN, cacheHits := cacheHits,
                                         backoff := s'.backoff.nextBackoff },
        { r with authState := .unregistered }, loc'⟩ := by
  cases outcome with
  | refused unregistered => exact absurd (auth.symm.trans unregistered) (by decide)
  | granted unregistered => exact absurd (auth.symm.trans unregistered) (by decide)
  | revoked => exact ⟨_, rfl⟩
  | disabled disabled => exact absurd (auth.symm.trans disabled) (by decide)
  | located _ answered => exact absurd denied answered

/-- A context that is not waiting for a token is located. -/
theorem AuthOutcome.located_of {s' : SkySctx} {result : SkySctx × SkyRctx × SkyLocation}
    (outcome : AuthOutcome s' r (.start status) status rs result)
    (auth : r.authState ≠ .unregistered) (success : status = .success) (cacheHits : UInt8)
    (later : ℤ) :
    let d := reportLocation { result.1 with cacheHits := cacheHits } result.2.1 result.2.2 later
    d.errno = .none ∧ d.loc = rs.location later ∧ d.sctx.tokenId = s'.tokenId := by
  have answered : status ≠ .authError := by
    rw [success]
    decide
  cases outcome with
  | refused unregistered => exact absurd unregistered auth
  | granted unregistered => exact absurd unregistered auth
  | revoked _ denied => exact absurd denied answered
  | disabled _ denied => exact absurd denied answered
  | located =>
    subst success
    exact ⟨rfl, rfl, (reportLocation_config ..).2⟩

end Answers

def SkySctx.authState (s : SkySctx) : SkyTbrState :=
  if !s.isTbrEnabled then .disabled else if s.tokenId = TBR_TOKEN_UNKNOWN then .unregistered
    else .registered

/-- What a server reads of a request. -/
def requestReport (s : SkySctx) (r : SkyRctx) : RequestReport :=
  ⟨s.partnerId.toInt32.toInt, 22, s.config.lastConfigTime = CONFIG_UPDATE_DUE, rqReport s r⟩

/-- A server that gives a token to who names a SKU, refuses every other token, and locates the
rest. -/
structure Authenticates (d : Decoders) (answer : RequestReport → LocStatus × List UInt8)
    (token : UInt32) (location : RequestReport → Rs) : Prop where
  good : token ≠ TBR_TOKEN_UNKNOWN
  known : ∀ request code, (answer request).1 ≠ .other code
  nonempty : ∀ request, (answer request).2 ≠ []
  short : ∀ request, (answer request).2.length ≤ Rs_size
  registers : ∀ request, request.rq.sku ≠ [] → ∃ rs, d.rs (answer request).2 = some rs ∧
    rs.tokenId = token
  refuses : ∀ request, request.rq.sku = [] → request.rq.tokenId ≠ 0 →
    request.rq.tokenId ≠ token.toInt32.toInt →
    (answer request).1 = .authError ∧ ∃ rs, d.rs (answer request).2 = some rs
  locates : ∀ request, request.rq.sku = [] →
    request.rq.tokenId = 0 ∨ request.rq.tokenId = token.toInt32.toInt →
    (answer request).1 = .success ∧ d.rs (answer request).2 = some (location request)

/-- There is memory, random bytes fill a vector, and what is received is what the server serves. -/
structure Round.Served (env : Env) (d : Decoders) (keys : ℤ → Vector UInt8 16)
    (answer : RequestReport → LocStatus × List UInt8) (round : Round) : Prop where
  request : round.request.isSome
  response : round.response.isSome
  sizing : round.sizing.length = AES_BLOCKLEN
  random : round.random.length = AES_BLOCKLEN
  reply : ∃ iv, iv.length = AES_BLOCKLEN ∧ ∀ request,
    round.receive request =
      (serve env.codec.aesCbcEncrypt d.aesCbcDecrypt keys iv answer request).getD []

/-- A context that can be sent, and that agrees with its session. -/
structure World.Ready (env : Env) (cacheSize : ℕ) (id : ℕ) (w : World) (r : SkyRctx) : Prop where
  reached : w.Reached env cacheSize
  member : w.ctx id = some r
  isOpen : w.sctx.openFlag = true
  sends : ∀ c, r.Offers w.sctx c → c.Sendable
  allowed : backoffViolation w.sctx r.header.time.toNat = false
  auth : r.authState = w.sctx.authState

section Sending

variable {env : Env} {d : Decoders} {keys : ℤ → Vector UInt8 16}
  {answer : RequestReport → LocStatus × List UInt8}
variable {cacheSize id : ℕ} {w : World} {r : SkyRctx} {round : Round}

def World.sizedFor (env : Env) (w : World) (id : ℕ) (round : Round) : World :=
  w.step env (.onCtx id (.sizeofRequestBuf round.sizing))

theorem prepareRequest_cacheline (s : SkySctx) (r : SkyRctx) :
    (prepareRequest s r).1.cacheline = s.cacheline := by
  unfold prepareRequest SkySctx.markConfigDue
  dsimp only
  split_ifs <;> rfl

theorem World.Ready.checked (ready : w.Ready env cacheSize id r) : r.Valid := by
  have own := ready.sends r.content (.own r w.sctx)
  exact ready.reached.checked ready.member own.numBeacons own.numAp

theorem World.Ready.sized (ready : w.Ready env cacheSize id r) (round : Round) :
    (skySizeofRequestBuf env.codec w.sctx r round.sizing).size = some (serializedSize env.codec
        (w.sizedFor env id round).sctx (prepareRequest w.sctx r).2 SW_VERSION
        (requestConfigDue w.sctx r) round.sizing) ∧
      (skySizeofRequestBuf env.codec w.sctx r round.sizing).sctx = (w.sizedFor env id round).sctx ∧
      (skySizeofRequestBuf env.codec w.sctx r round.sizing).rctx = (prepareRequest w.sctx r).2 ∧
      (w.sizedFor env id round).sctx = (prepareRequest w.sctx r).1 ∧
      (w.sizedFor env id round).Ready env cacheSize id (prepareRequest w.sctx r).2 ∧
      Carries w.sctx r (w.sizedFor env id round).sctx (prepareRequest w.sctx r).2 := by
  have valid := ready.checked.validateRequestCtx
  have sized := @skySizeofRequestBuf_valid env.codec w.sctx r (by rw [valid]) round.sizing
  rw [valid] at sized
  dsimp only at sized
  have stepped : w.sizedFor env id round = ⟨(prepareRequest w.sctx r).1,
      Function.update w.ctx id (some (prepareRequest w.sctx r).2)⟩ := by
    rw [World.sizedFor, World.step_onCtx_some _ ready.member]
    simp only [CtxCall.apply, sized]
  obtain ⟨session, request⟩ := same_prepareRequest w.sctx r
  have lines := ready.reached.dated.wellFormed.sctx.lines
  have offered (c : Content)
      (offers : (prepareRequest w.sctx r).2.Offers (w.sizedFor env id round).sctx c) :
      r.Offers w.sctx c := by
    rw [stepped] at offers
    refine SkyRctx.Offers.of_prepareRequest lines ?_
    exact offers.congr (prepareRequest_cacheline w.sctx r) (.own ..) fun found => ⟨found, rfl⟩
  have setup := sameSetup_skySizeofRequestBuf env.codec w.sctx r round.sizing
  have sctx : (skySizeofRequestBuf env.codec w.sctx r round.sizing).sctx =
    (w.sizedFor env id round).sctx := by
    rw [sized, stepped]
  refine ⟨by rw [sized, stepped], sctx, by rw [sized], by rw [stepped], ?_,
    ⟨offered, sctx ▸ setup, request.header⟩⟩
  constructor
  · exact ready.reached.step trivial trivial
  · rw [stepped]
    exact Function.update_self ..
  · rw [stepped, session.openFlag]
    exact ready.isOpen
  · exact fun c offers => ready.sends c (offered c offers)
  · rw [stepped, backoffViolation_congr session, request.header]
    exact ready.allowed
  · rw [stepped, request.authState, ready.auth]
    unfold SkySctx.authState SkySctx.isTbrEnabled
    rw [session.sku, session.tokenId]

/-- A request that fits its buffer is encoded, and the server reads what the session and the context
hold. -/
theorem World.Ready.encodes (ready : w.Ready env cacheSize id r) (writes : env.codec.WritesFields)
    (cipher : env.codec.DecryptedBy d.aesCbcDecrypt)
    (key : keys w.sctx.partnerId.toInt32.toInt = w.sctx.aesKey) {buf random sizing : List UInt8}
    (vectors : random.length = AES_BLOCKLEN ∧ sizing.length = AES_BLOCKLEN)
    (size : buf.length = serializedSize env.codec w.sctx r SW_VERSION
      (w.sctx.config.lastConfigTime = CONFIG_UPDATE_DUE) sizing) :
    ∃ out, (skyEncodeRequest env.codec w.sctx r (some buf) random).errno = .none ∧
      (skyEncodeRequest env.codec w.sctx r (some buf) random).buf = some out ∧
      readRequest d.aesCbcDecrypt keys out = some (requestReport w.sctx r) := by
  have own := ready.sends r.content (.own r w.sctx)
  have readable := ready.reached.readable ready.member own.position
  have sized := ready.reached.sized
  have encoded :=
    @skyEncodeRequest_valid env.codec w.sctx r ready.checked own.content ready.allowed buf random
  have total := (envelope_random (writes.lawful cipher) w.sctx r SW_VERSION
    (w.sctx.config.lastConfigTime = CONFIG_UPDATE_DUE) vectors.1 vectors.2).trans size.symm
  obtain ⟨written, -⟩ := (serializeRequest_spec (writes.lawful cipher) w.sctx r buf SW_VERSION
    (w.sctx.config.lastConfigTime = CONFIG_UPDATE_DUE) random total).1 le_rfl
  have positive : 0 < buf.length := by
    rw [size]
    unfold serializedSize Envelope.totalLength
    omega
  have short := length_buildRq_le readable.represented readable.holds sized.idLen sized.ulAppDataLen
  have read := @readRequest_serializeRequest d.aesCbcDecrypt keys env.codec w.sctx r writes cipher
    key short buf random
    SW_VERSION (w.sctx.config.lastConfigTime = CONFIG_UPDATE_DUE) vectors.1 total.le
  have fit : ∀ b ∈ sentCells w.sctx r, b.identifiersFit := by
    intro b sent
    have cell := (readable.sentCells sent).1
    unfold sentCells at sent
    split_ifs at sent
    · exact own.identifiersFit (List.mem_of_mem_drop sent) cell
    · exact absurd sent List.not_mem_nil
  rw [(decodeRq_buildRq_iff readable).2 fit, Option.map_some] at read
  rw [encoded]
  dsimp only
  rw [written, if_pos (by omega)]
  exact ⟨_, rfl, rfl, read⟩

theorem Round.Served.receives {token : UInt32} {location : RequestReport → Rs}
    (served : round.Served env d keys answer) (server : Authenticates d answer token location)
    (cipher : env.codec.DecryptedBy d.aesCbcDecrypt) {out : List UInt8} {request : RequestReport}
    (read : readRequest d.aesCbcDecrypt keys out = some request) :
    ∃ iv rest, iv.length = AES_BLOCKLEN ∧ rest.length < 2 ^ 31 ∧
      (malloc round.response maximumResponseSize).bind (sendRequest round.receive out) =
        some (frameBody env.codec.aesCbcEncrypt (keys request.partnerId) iv (answer request).1
          (answer request).2 ++
          rest) := by
  obtain ⟨iv, vector, reply⟩ := served.reply
  obtain ⟨memory, given⟩ := Option.isSome_iff_exists.1 served.response
  have body := server.short request
  have total := @length_frameBody_le d env.codec (keys request.partnerId) iv (answer request).2
    (answer request).1 cipher
    vector.le (server.known request)
  have arrives := reply out
  rw [serve, read, Option.map_some, Option.getD_some] at arrives
  generalize frame : frameBody env.codec.aesCbcEncrypt (keys request.partnerId) iv
    (answer request).1
    (answer request).2 = reply at total arrives ⊢
  have some : reply ≠ [] := by
    rw [← frame, frameBody, responseFrame]
    exact List.cons_ne_nil _ _
  have room : reply.length ≤ maximumResponseSize := by
    simp only [Rs_size] at body
    unfold aesPadding AES_BLOCKLEN at total
    unfold maximumResponseSize RsHeader_size CryptoInfo_size Rs_size AES_BLOCKLEN
    omega
  have length : (memory.takeD maximumResponseSize 0).length = maximumResponseSize :=
    List.takeD_length ..
  refine ⟨iv, (memory.takeD maximumResponseSize 0).drop reply.length, vector, ?_, ?_⟩
  · rw [List.length_drop, length]
    exact (Nat.sub_le ..).trans_lt (by decide)
  · rw [malloc, given, Option.map_some, Option.bind_some, sendRequest, arrives, length,
      List.take_of_length_le room, if_neg some, frame]

/-- What a world rests on to be served: the encoders, the cipher, the decoders, a size of at least
31 bits, and a server that knows the key of the partner. -/
structure World.Serves (env : Env) (d : Decoders) (keys : ℤ → Vector UInt8 16)
    (w : World) : Prop where
  writes : env.codec.WritesFields
  cipher : env.codec.DecryptedBy d.aesCbcDecrypt
  reads : d.ReadsFields
  wide : 31 ≤ env.cipherBits
  key : keys w.sctx.partnerId.toInt32.toInt = w.sctx.aesKey

theorem World.Serves.congr {u : World} (serves : w.Serves env d keys)
    (same : w.sctx.SameCredentials u.sctx) :
    u.Serves env d keys :=
  { serves with key := by rw [same.1, same.2]; exact serves.key }

theorem World.Serves.sizedFor (serves : w.Serves env d keys) (ready : w.Ready env cacheSize id r)
    (round : Round) :
    (w.sizedFor env id round).Serves env d keys := by
  obtain ⟨-, -, -, prepared, -⟩ := ready.sized round
  refine serves.congr ?_
  rw [prepared]
  exact (same_prepareRequest w.sctx r).1.sameCredentials

/-- A round of a ready context ends as the answer to its request says. -/
theorem World.Ready.answered {token : UInt32} {location : RequestReport → Rs}
    (ready : w.Ready env cacheSize id r) (serves : w.Serves env d keys)
    (served : round.Served env d keys answer) (server : Authenticates d answer token location)
    {rs : Rs} (loc : SkyLocation) :
    let u := w.sizedFor env id round
    let p := (EmbeddedClient.prepareRequest w.sctx r).2
    let request := requestReport u.sctx p
    d.rs (answer request).2 = some rs → ∃ resp s' r' loc' cacheHits,
      AuthOutcome (applyConfig (u.sctx.stamp round.now) rs) p (.start (answer request).1)
        (answer request).1 rs
          (s', r', loc') ∧
        skyDecodeResponse env.cipherBits u.sctx p loc resp round.now round.later =
          reportLocation { s' with cacheHits := cacheHits } r' loc' round.later ∧
        locateRound env d ⟨w.sctx, r, loc⟩ round =
          (skyDecodeResponse env.cipherBits u.sctx p loc resp round.now round.later).outcome := by
  intro u p request understood
  obtain ⟨size, sctx, rctx, prepared, next, -⟩ := ready.sized round
  have config := prepareRequest_configDue w.sctx r
  obtain ⟨memory, given⟩ := Option.isSome_iff_exists.1 served.request
  have key : keys u.sctx.partnerId.toInt32.toInt = u.sctx.aesKey :=
    (serves.sizedFor ready round).key
  rw [← prepared] at config
  rw [← config] at size
  obtain ⟨out, encoded, written, read⟩ :=
    @World.Ready.encodes env d keys cacheSize id u p next serves.writes serves.cipher
    key
    (memory.takeD (serializedSize env.codec u.sctx p SW_VERSION
      (u.sctx.config.lastConfigTime = CONFIG_UPDATE_DUE) round.sizing) 0) round.random round.sizing
    ⟨served.random, served.sizing⟩ (List.takeD_length ..)
  obtain ⟨iv, rest, vector, behind, received⟩ := served.receives server serves.cipher read
  rw [show keys request.partnerId = u.sctx.aesKey from key] at received
  obtain ⟨filled, finished⟩ :=
    @deserializeResponse_frameBody d env.codec env.cipherBits u.sctx.aesKey iv (answer request).2
    rest (answer request).1 rs serves.reads serves.cipher serves.wide vector (server.known request)
      (server.nonempty request)
    ((server.short request).trans_lt (by decide)) behind understood
  obtain ⟨s', r', loc', cacheHits, auth, decoded⟩ :=
    @skyDecodeResponse_of_finished env.cipherBits u.sctx p _ _ rs
    next.checked.validateRequestCtx (next.reached.valid next.isOpen) filled loc round.now
      round.later (finished _ _ loc)
  refine ⟨_, s', r', loc', cacheHits, auth, decoded, ?_⟩
  have context := skyEncodeRequest_rctx env.codec u.sctx p
    (some (memory.takeD (serializedSize env.codec u.sctx p SW_VERSION
    (u.sctx.config.lastConfigTime = CONFIG_UPDATE_DUE) round.sizing) 0)) round.random
  rw [next.checked.validateRequestCtx] at context
  unfold locateRound
  dsimp only
  rw [size, sctx, rctx, Option.bind_some, malloc, given, Option.map_some]
  dsimp only
  rw [encoded, written, context, if_neg (by simp), Option.bind_some, received]

end Sending

end EmbeddedClient
