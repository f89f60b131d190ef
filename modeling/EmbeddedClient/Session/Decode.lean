import EmbeddedClient.Beacons.Insert
import EmbeddedClient.Session.Frame

/-!
# How a response is decoded

The ways in which `deserialize_response` and `sky_decode_response` end. The
cases are stated once with everything they change; the invariants of the other
modules are read off them.
-/

namespace EmbeddedClient

def SkySctx.stamp (s : SkySctx) (now : ℤ) : SkySctx :=
  { s with header := SkyHeader.seal { s.header with time := timeWord now } }

def SkyLocation.start (status : LocStatus) : SkyLocation :=
  { SkyLocation.zero with locationStatus := status }

structure SameCache (s s' : SkySctx) : Prop where
  session : SameSession s s'
  cacheline : s'.cacheline = s.cacheline

theorem SameCache.refl (s : SkySctx) : SameCache s s := ⟨.refl s, rfl⟩

theorem sameCache_config (s : SkySctx) (config : SkyConfig) (cacheHits : UInt8) :
    SameCache s { s with config := config, cacheHits := cacheHits } :=
  ⟨.update _ _ _ _ _, rfl⟩

theorem sameCache_applyConfig (s : SkySctx) (rs : Rs) : SameCache s (applyConfig s rs) := by
  unfold applyConfig
  dsimp only
  split_ifs <;> exact sameCache_config s _ s.cacheHits

structure SameList (r r' : SkyRctx) : Prop where
  header : r'.header = r.header
  numAp : r'.numAp = r.numAp
  numBeacons : r'.numBeacons = r.numBeacons
  beacon : r'.beacon.map Beacon.scan = r.beacon.map Beacon.scan
  gnss : r'.gnss = r.gnss
  hit : r'.hit = r.hit
  getFrom : r'.getFrom = r.getFrom
  saveTo : r'.saveTo = r.saveTo

theorem SameList.refl (r : SkyRctx) : SameList r r := ⟨rfl, rfl, rfl, rfl, rfl, rfl, rfl, rfl⟩

theorem SameList.live {r r' : SkyRctx} (same : SameList r r') :
    r'.live.map Beacon.scan = r.live.map Beacon.scan := by
  rw [SkyRctx.live, SkyRctx.live, List.map_take, List.map_take, same.beacon, same.numBeacons]

theorem SameList.holds {r r' : SkyRctx} {l : BeaconList} (same : SameList r r')
    (holds : r.Holds l) :
    ∃ l' : BeaconList, r'.Holds l' ∧ l'.aps.length = l.aps.length ∧
      l'.all.length = l.all.length := by
  have scan : SameScan { r' with beacon := r.beacon } r' := ⟨rfl, same.beacon⟩
  have holds' : SkyRctx.Holds { r' with beacon := r.beacon } l := by
    refine ⟨?_, same.numAp.trans holds.numAp, same.numBeacons.trans holds.numBeacons⟩
    rw [← holds.live, SkyRctx.live, SkyRctx.live, ← same.numBeacons]
  exact holds'.sameScan scan

theorem applyLocation_rctx (s : SkySctx) (r : SkyRctx) (loc : SkyLocation) (rs : Rs) :
    SameList r (applyLocation s r loc rs).1 ∧
      (applyLocation s r loc rs).1.authState = r.authState := by
  have scan := sameScan_applyUsedInfoToAp s
    { r with
      dlAppDataLen := (rs.dlAppData.take SKY_MAX_DL_APP_DATA).length
      dlAppData := rs.dlAppData.take SKY_MAX_DL_APP_DATA ++
        r.dlAppData.drop (rs.dlAppData.take SKY_MAX_DL_APP_DATA).length } rs.usedAps
  refine ⟨⟨scan.header, scan.numAp, scan.numBeacons, scan.beacon, ?_, ?_, ?_, ?_⟩, ?_⟩
  all_goals
    simp only [applyLocation]
    rw [scan.rest]

/-- What the switch over the registration state does. -/
inductive AuthOutcome (s : SkySctx) (r : SkyRctx) (loc : SkyLocation) (status : LocStatus)
    (rs : Rs) : SkySctx × SkyRctx × SkyLocation → Prop
  | refused (auth : r.authState = .unregistered) (token : rs.tokenId = TBR_TOKEN_UNKNOWN) :
      AuthOutcome s r loc status rs (s, r, { loc with locationStatus := .authError })
  | granted (auth : r.authState = .unregistered) (token : rs.tokenId ≠ TBR_TOKEN_UNKNOWN) :
      AuthOutcome s r loc status rs ({ s with tokenId := rs.tokenId },
        { r with authState := .registered }, { loc with locationStatus := .authError })
  | revoked (auth : r.authState = .registered) (denied : status = .authError) :
      AuthOutcome s r loc status rs ({ s with tokenId := TBR_TOKEN_UNKNOWN },
        { r with authState := .unregistered }, { loc with locationStatus := .authError })
  | disabled (auth : r.authState = .disabled) (denied : status = .authError) :
      AuthOutcome s r loc status rs (s, r, { loc with locationStatus := .badPartnerIdError })
  | located (auth : r.authState ≠ .unregistered) (answered : status ≠ .authError) :
      AuthOutcome s r loc status rs (s, applyLocation s r loc rs)

theorem applyAuthState_outcome (s : SkySctx) (r : SkyRctx) (loc : SkyLocation)
    (status : LocStatus) (rs : Rs) :
    AuthOutcome s r loc status rs (applyAuthState s r loc status rs) := by
  unfold applyAuthState
  cases auth : r.authState with
  | unregistered =>
    dsimp only
    split_ifs with token
    · exact .refused auth token
    · exact .granted auth token
  | registered =>
    dsimp only
    split_ifs with denied
    · exact .revoked auth denied
    · exact .located (by rw [auth]; decide) denied
  | disabled =>
    dsimp only
    split_ifs with denied
    · exact .disabled auth denied
    · exact .located (by rw [auth]; decide) denied

theorem reportLocation_rctx (s : SkySctx) (r : SkyRctx) (loc : SkyLocation) (now : ℤ) :
    (reportLocation s r loc now).rctx = r := by
  unfold reportLocation
  cases loc.locationStatus <;> first | rfl | (cases r.authState <;> rfl)

/-- `deserialize_response` fails without an effect on the contexts, or applies
the response to a session that differs in its configuration at most. -/
theorem deserializeResponse_cases (bits : ℕ) (s : SkySctx) (r : SkyRctx) (loc : SkyLocation)
    (resp : Response) :
    (∃ loc' ranges, deserializeResponse bits s r loc resp = ⟨false, s, r, loc', ranges⟩) ∨
      ∃ s' status rs ranges, SameCache s s' ∧
        deserializeResponse bits s r loc resp =
          finishResponse s' r (SkyLocation.start status) status rs ranges := by
  unfold deserializeResponse
  dsimp only
  split_ifs
  · exact .inl ⟨_, _, rfl⟩
  · exact .inl ⟨_, _, rfl⟩
  · exact .inl ⟨_, _, rfl⟩
  · cases resp.header with
    | none => exact .inl ⟨_, _, rfl⟩
    | some header =>
      dsimp only
      split_ifs
      · exact .inr ⟨s, header.status, Rs.initDefault, _, .refl s, rfl⟩
      · exact .inl ⟨_, _, rfl⟩
      · cases resp.cryptoInfo with
        | none => exact .inl ⟨_, _, rfl⟩
        | some info =>
          cases resp.rs with
          | none => exact .inl ⟨_, _, rfl⟩
          | some rs =>
            exact .inr ⟨applyConfig s rs, header.status, rs, _, sameCache_applyConfig s rs, rfl⟩

/-- The errors with which a response is turned away unread. -/
def SkyErrno.turnedAway (e : SkyErrno) : Prop :=
  e = .badRequestCtx ∨ e = .badParameters ∨ e = .badSessionCtx

def SkyErrno.unanswered (e : SkyErrno) : Prop := e.turnedAway ∨ e = .decodeError

instance (e : SkyErrno) : Decidable e.turnedAway := inferInstanceAs (Decidable (_ ∨ _))

instance (e : SkyErrno) : Decidable e.unanswered := inferInstanceAs (Decidable (_ ∨ _))

/-- How `sky_decode_response` ends. -/
inductive DecodeOutcome (s : SkySctx) (r : SkyRctx) (now later : ℤ) : DecodeResult → Prop
  | rejected (errno : SkyErrno) (loc : SkyLocation) (turned : errno.turnedAway) :
      DecodeOutcome s r now later ⟨errno, s, (validateRequestCtx r).2, loc⟩
  | undecoded (loc : SkyLocation) (valid : validateSessionCtx s = true)
      (ctx : (validateRequestCtx r).1 = true) :
      DecodeOutcome s r now later ⟨.decodeError, s.stamp now, (validateRequestCtx r).2, loc⟩
  | decoded (s' s'' : SkySctx) (r' : SkyRctx) (loc : SkyLocation) (status : LocStatus) (rs : Rs)
      (cacheHits : UInt8) (valid : validateSessionCtx s = true)
      (ctx : (validateRequestCtx r).1 = true) (same : SameCache (s.stamp now) s')
      (auth : AuthOutcome s' (validateRequestCtx r).2 (SkyLocation.start status) status rs
        (s'', r', loc)) :
      DecodeOutcome s r now later (reportLocation { s'' with cacheHits := cacheHits } r' loc later)

theorem decoded_of_auth {s s' : SkySctx} {r : SkyRctx} {now : ℤ} {status : LocStatus} {rs : Rs}
    {result : SkySctx × SkyRctx × SkyLocation} (later : ℤ) (valid : validateSessionCtx s = true)
    (ctx : (validateRequestCtx r).1 = true) (same : SameCache (s.stamp now) s')
    (auth : AuthOutcome s' (validateRequestCtx r).2 (.start status) status rs result) :
    DecodeOutcome s r now later
      (reportLocation
        (if result.2.1.isCacheMiss then { result.1 with cacheHits := 0 } else result.1)
        result.2.1 result.2.2 later) := by
  obtain ⟨s'', r', loc'⟩ := result
  split_ifs
  · exact .decoded s' s'' r' loc' status rs 0 valid ctx same auth
  · exact .decoded s' s'' r' loc' status rs s''.cacheHits valid ctx same auth

theorem skyDecodeResponse_outcome (bits : ℕ) (s : SkySctx) (r : SkyRctx) (loc : SkyLocation)
    (resp : Response) (now later : ℤ) :
    DecodeOutcome s r now later (skyDecodeResponse bits s r loc resp now later) := by
  unfold skyDecodeResponse
  dsimp only
  by_cases ctx : (validateRequestCtx r).1 = true
  · rw [if_neg (by simp [ctx])]
    by_cases length : resp.bufLen = 0
    · rw [if_pos length]
      exact .rejected _ _ (.inr (.inl rfl))
    · rw [if_neg length]
      by_cases valid : validateSessionCtx s = true
      · rw [if_neg (by simp [valid])]
        obtain ⟨loc', ranges, failed⟩ | ⟨s', status, rs, ranges, same, finished⟩ :=
          deserializeResponse_cases bits (s.stamp now) (validateRequestCtx r).2 loc resp
        · rw [SkySctx.stamp] at failed
          rw [failed]
          exact .undecoded loc' valid ctx
        · have auth := applyAuthState_outcome s' (validateRequestCtx r).2 (.start status) status rs
          rw [SkySctx.stamp] at finished
          rw [finished]
          exact decoded_of_auth later valid ctx same auth
      · rw [if_pos (by simpa using valid)]
        exact .rejected _ _ (.inr (.inr rfl))
  · rw [if_pos (by simpa using ctx)]
    exact .rejected _ _ (.inl rfl)

end EmbeddedClient
