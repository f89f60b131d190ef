import EmbeddedClient.Beacons.Run

/-!
# Valid request contexts

What `validate_request_ctx` checks, once its beacons are as it leaves them: a
sealed header, counters within the arrays, accepted beacons in the slots in use
and slots that can be used behind them.
-/

namespace EmbeddedClient

/-- The header of a context as `sky_new_request` writes it. -/
def SkyRctx.Sealed (r : SkyRctx) : Prop :=
  r.header.magic = SKY_MAGIC ∧ r.header.crc32 = r.header.checksum

theorem validateSlots_fst (live : ℕ) (bs : List Beacon)
    (accepted : ∀ b ∈ bs.take live, b.Accepted) (usable : ∀ b ∈ bs, b.SlotOk) :
    (validateSlots live bs).1 = true := by
  induction bs generalizing live with
  | nil => cases live <;> rfl
  | cons b bs ih =>
    have rest (live : ℕ) (acceptedRest : ∀ c ∈ bs.take live, c.Accepted) :=
      ih live acceptedRest fun c member => usable c (by simp [member])
    cases live with
    | zero =>
      obtain ⟨magic, type⟩ := usable b (by simp)
      rw [validateSlots, if_neg (by simp only [magic, ne_eq, not_true, false_or]; omega)]
      exact rest 0 (by simp)
    | succ live =>
      have first : validateBeacon b = (true, b) := accepted b (by simp)
      rw [validateSlots]
      simp only [first, if_true]
      exact rest live fun c member => accepted c (by simp [member])

theorem validateSlots_snd (live : ℕ) (bs : List Beacon) (valid : (validateSlots live bs).1 = true) :
    (∀ b ∈ (validateSlots live bs).2.take live, b.Accepted) ∧
      ∀ b ∈ (validateSlots live bs).2, b.SlotOk := by
  induction bs generalizing live with
  | nil =>
    cases live <;> simp [validateSlots]
  | cons b bs ih =>
    cases live with
    | zero =>
      unfold validateSlots at valid ⊢
      split_ifs at valid ⊢ with unusable
      obtain ⟨-, usable⟩ := ih 0 valid
      simp only [not_or, not_not, not_lt] at unusable
      constructor
      · intro c member
        simp at member
      · intro c member
        rcases List.mem_cons.1 member with rfl | rest
        · exact unusable
        · exact usable c rest
    | succ live =>
      unfold validateSlots at valid ⊢
      dsimp only at valid ⊢
      split_ifs at valid ⊢ with checked
      have first : (validateBeacon b).2.Accepted := .of_validateBeacon checked
      obtain ⟨accepted, usable⟩ := ih live valid
      constructor
      · intro c member
        rcases List.mem_cons.1 member with rfl | rest
        · exact first
        · exact accepted c rest
      · intro c member
        rcases List.mem_cons.1 member with rfl | rest
        · exact first.slotOk
        · exact usable c rest

theorem validateSlots_length (live : ℕ) (bs : List Beacon) :
    (validateSlots live bs).2.length = bs.length := by
  induction bs generalizing live with
  | nil => cases live <;> rfl
  | cons b bs ih =>
    cases live with
    | zero =>
      unfold validateSlots
      split_ifs
      · rfl
      · simp only [List.length_cons, ih]
    | succ live =>
      unfold validateSlots
      dsimp only
      split_ifs
      · simp only [List.length_cons, ih]
      · rfl

theorem validateRequestCtx_length (r : SkyRctx) :
    (validateRequestCtx r).2.beacon.length = r.beacon.length := by
  unfold validateRequestCtx
  split_ifs
  · rfl
  · rfl
  · dsimp only
    rw [List.length_append, validateSlots_length, List.length_take, List.length_drop]
    omega
  · rfl

/-- What `validate_request_ctx` checks, with beacons that it leaves as they are. -/
structure SkyRctx.Valid (r : SkyRctx) : Prop where
  isSealed : r.Sealed
  numBeacons : r.numBeacons ≤ TOTAL_BEACONS + 1
  numAp : r.numAp ≤ MAX_AP_BEACONS + 1
  accepted : ∀ b ∈ (r.beacon.take TOTAL_BEACONS).take r.numBeacons, b.Accepted
  usable : ∀ b ∈ r.beacon.take TOTAL_BEACONS, b.SlotOk

namespace SkyRctx.Valid

variable {r r' : SkyRctx}

theorem validateRequestCtx (valid : r.Valid) :
    EmbeddedClient.validateRequestCtx r = (true, r) := by
  have fst := validateSlots_fst r.numBeacons _ valid.accepted valid.usable
  have snd := validateSlots_accepted r.numBeacons _ valid.accepted
  have slots : validateSlots r.numBeacons (r.beacon.take TOTAL_BEACONS) =
      (true, r.beacon.take TOTAL_BEACONS) := Prod.ext fst snd
  unfold EmbeddedClient.validateRequestCtx
  rw [if_neg (not_lt.2 valid.numBeacons), if_neg (not_lt.2 valid.numAp), slots]
  split_ifs with checked
  · simp only [List.take_append_drop]
  · exact absurd valid.isSealed checked

theorem of_validateRequestCtx (accepted : (EmbeddedClient.validateRequestCtx r).1 = true) :
    (EmbeddedClient.validateRequestCtx r).2.Valid := by
  unfold EmbeddedClient.validateRequestCtx at accepted ⊢
  split_ifs at accepted ⊢ with many manyAps checked
  dsimp only at accepted ⊢
  have slots := validateSlots_snd r.numBeacons (r.beacon.take TOTAL_BEACONS) accepted
  have length := validateSlots_length r.numBeacons (r.beacon.take TOTAL_BEACONS)
  generalize (validateSlots r.numBeacons (r.beacon.take TOTAL_BEACONS)).2 = checkedSlots
    at slots length ⊢
  have front : (checkedSlots ++ r.beacon.drop TOTAL_BEACONS).take TOTAL_BEACONS = checkedSlots := by
    rw [List.length_take] at length
    by_cases full : TOTAL_BEACONS ≤ r.beacon.length
    · rw [List.take_left' (by omega)]
    · rw [List.drop_eq_nil_of_le (by omega), List.append_nil, List.take_of_length_le (by omega)]
  refine ⟨checked, not_lt.1 many, not_lt.1 manyAps, ?_, ?_⟩
  · rw [front]
    exact slots.1
  · rw [front]
    exact slots.2

theorem congr (valid : r.Valid) (header : r'.header = r.header)
    (numBeacons : r'.numBeacons = r.numBeacons) (numAp : r'.numAp = r.numAp)
    (beacon : r'.beacon.map Beacon.scan = r.beacon.map Beacon.scan) : r'.Valid := by
  constructor
  · unfold SkyRctx.Sealed
    rw [header]
    exact valid.isSealed
  · rw [numBeacons]
    exact valid.numBeacons
  · rw [numAp]
    exact valid.numAp
  · rw [numBeacons]
    refine BeaconList.forall_of_map_scan (fun same accepted => accepted.congr same) ?_
      valid.accepted
    rw [List.map_take, List.map_take, beacon, ← List.map_take, ← List.map_take]
  · exact (ArrayTo.of_map_scan beacon).slots valid.usable

theorem populate (valid : r.Valid) {cl : SkyCacheline} (good : cl.WellFormed)
    (aps : cl.numAp ≤ MAX_AP_BEACONS + 1) : (r.populate cl).Valid := by
  obtain ⟨slots, l, live, -, numBeacons⟩ := good
  have length : cl.live.length = cl.numBeacons := by rw [live, numBeacons]
  have short : cl.live.length ≤ TOTAL_BEACONS := by
    rw [← slots, SkyCacheline.live]
    exact List.length_take_le' _ _
  have accepted : ∀ b ∈ cl.live, b.Accepted := by
    rw [live]
    exact l.accepted
  constructor
  · exact valid.isSealed
  · show cl.numBeacons ≤ TOTAL_BEACONS + 1
    omega
  · exact aps
  · intro b member
    simp only [SkyRctx.populate, List.take_take] at member
    rw [List.take_left' (by omega)] at member
    exact accepted b member
  · intro b member
    simp only [SkyRctx.populate, List.take_append, List.mem_append] at member
    rcases member with new | old
    · exact (accepted b (List.mem_of_mem_take new)).slotOk
    · rw [length, ← List.drop_take] at old
      exact valid.usable b (List.mem_of_mem_drop old)

end SkyRctx.Valid

theorem live_setLive (r : SkyRctx) (l : List Beacon) : (r.setLive l).live = l := by
  simp [SkyRctx.live, SkyRctx.setLive]

theorem placeBeacon_numBeacons {r : SkyRctx} (full : r.live.length = r.numBeacons)
    (errno : SkyErrno) (b : Beacon) :
    (placeBeacon skyRegisterPlugins r errno b).rctx.numBeacons = r.numBeacons + 1 := by
  have same := (findPosition_unranked skyRegisterPlugins b r.live).2
  have length : (findPosition skyRegisterPlugins b r.live).beacons.length = r.numBeacons := by
    rw [← full]
    simpa using congrArg List.length same
  have range := findPosition_index_le skyRegisterPlugins b r.live
  show (List.insertIdx _ _ _).length = _
  rw [List.length_insertIdx_of_le_length (by omega), length]

/-- `add_beacon` gets to the insertion, with this age. -/
def AcceptsBeacon (s : SkySctx) (r : SkyRctx) (b : Beacon) (timestamp : ℤ) (age : UInt32) : Prop :=
  (validateRequestCtx r).1 = true ∧ s.openFlag = true ∧ (validateBeacon b).1 = true ∧
    beaconAge r.header.time timestamp = .ok age

theorem validateRequestCtx_full {r : SkyRctx} (slots : r.beacon.length = TOTAL_BEACONS + 1)
    (valid : (validateRequestCtx r).1 = true) :
    (validateRequestCtx r).2.live.length = (validateRequestCtx r).2.numBeacons := by
  have bound := (validateRequestCtx_bound valid).1
  have length := validateRequestCtx_length r
  obtain ⟨bs, rest⟩ := validateRequestCtx_rest r
  rw [rest] at length ⊢
  rw [SkyRctx.live, List.length_take]
  simp only at length ⊢
  omega

/-- What follows an insertion in `add_beacon`. -/
def finishAdd (s : SkySctx) (r : SkyRctx) (added : AddResult) : AddResult :=
  if added.status = .error then added
  else if added.rctx.numBeacons = r.numBeacons then added else filterBeacons s added

theorem AcceptsBeacon.age_unique {s : SkySctx} {r : SkyRctx} {b : Beacon} {timestamp : ℤ}
    {age age' : UInt32} (accepts : AcceptsBeacon s r b timestamp age)
    (accepts' : AcceptsBeacon s r b timestamp age') : age = age' := by
  have eq := accepts.2.2.2.symm.trans accepts'.2.2.2
  exact Except.ok.inj eq

/-- `add_beacon` refuses a beacon and leaves the context as validation does, or inserts
it with its age. -/
theorem addBeacon_cases (s : SkySctx) (r : SkyRctx) (errno : SkyErrno) (b : Beacon)
    (timestamp : ℤ) :
    (∃ e, e ≠ .none ∧ e ≠ .internal ∧ (∀ age, ¬ AcceptsBeacon s r b timestamp age) ∧
        addBeacon s r errno b timestamp = ⟨.error, e, (validateRequestCtx r).2, none⟩) ∨
      ∃ age, AcceptsBeacon s r b timestamp age ∧
        addBeacon s r errno b timestamp = finishAdd s (validateRequestCtx r).2
          (insertBeacon s.plugins (validateRequestCtx r).2 errno (preparedBeacon s b age)) := by
  have counter : (validateRequestCtx r).2.numBeacons = r.numBeacons := by
    obtain ⟨bs, rest⟩ := validateRequestCtx_rest r
    rw [rest]
  unfold addBeacon
  dsimp only
  split_ifs with invalid closed refused
  · exact .inl ⟨.badRequestCtx, by decide, by decide,
      fun _ accepts => by simp [accepts.1] at invalid, rfl⟩
  · exact .inl ⟨.neverOpen, by decide, by decide, fun _ accepts => by simp [accepts.2.1] at closed,
      rfl⟩
  · exact .inl ⟨.badParameters, by decide, by decide, fun _ accepts => by
      simp [accepts.2.2.1] at refused, rfl⟩
  · simp only [Bool.not_eq_true', Bool.not_eq_false] at invalid closed refused
    cases aged : beaconAge r.header.time timestamp with
    | error e =>
      have known : e = .badTime ∨ e = .badParameters := by
        unfold beaconAge at aged
        split_ifs at aged <;> simp at aged <;> simp [← aged]
      refine .inl ⟨e, ?_, ?_, fun age accepts => ?_, rfl⟩
      · rcases known with rfl | rfl <;> decide
      · rcases known with rfl | rfl <;> decide
      · rw [accepts.2.2.2] at aged
        contradiction
    | ok age =>
      refine .inr ⟨age, ⟨invalid, closed, refused, aged⟩, ?_⟩
      unfold finishAdd
      rw [counter]
      rfl

end EmbeddedClient
