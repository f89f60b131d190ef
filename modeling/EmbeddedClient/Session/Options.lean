import EmbeddedClient.Beacons.Invariant
import EmbeddedClient.Session.Decode

/-!
# The configuration over a session

Two writers change the configuration: `sky_set_option`, which compares a signed
value and stores it unsigned, and the overrides of a response, which have bounds of
their own and first fill in defaults. Neither compares the two beacon limits.
-/

namespace EmbeddedClient

open Runs

/-- A configuration within the arrays and with percentages. -/
@[mk_iff]
structure SkyConfig.Valid (c : SkyConfig) : Prop where
  minTotal : 6 ≤ c.totalBeacons.toNat
  maxTotal : c.totalBeacons.toNat ≤ TOTAL_BEACONS
  maxAp : c.maxApBeacons.toNat ≤ MAX_AP_BEACONS
  order : c.maxApBeacons.toNat ≤ c.totalBeacons.toNat
  cacheBeacon : c.cacheBeaconThreshold.toNat ≤ TOTAL_BEACONS
  cacheNegRssi : c.cacheNegRssiThreshold.toNat ≤ 128
  matchAll : c.cacheMatchAllThreshold.toNat ≤ 100
  matchUsed : c.cacheMatchUsedThreshold.toNat ≤ 100

/-- The calls that write the configuration of an open session. -/
inductive ConfigCall
  | setOption (name : SkyConfigName) (value : Int32)
  | override (rs : ClientConfig)

def ConfigCall.step (s : SkySctx) : ConfigCall → SkySctx
  | setOption name value => (skySetOption s name value).2
  | override rs => applyConfigOverrides s rs

def ClientConfig.total (rs : ClientConfig) (c : SkyConfig) : ℕ :=
  if 1 < rs.totalBeacons.toNat ∧ rs.totalBeacons.toNat < TOTAL_BEACONS then rs.totalBeacons.toNat
  else c.totalBeacons.toNat

/-- The number of APs after a response: the one it gives, if it is in range, or the
default in place of zero. -/
def ClientConfig.maxAp (rs : ClientConfig) (c : SkyConfig) : ℕ :=
  if 0 < rs.maxApBeacons.toNat ∧ rs.maxApBeacons.toNat < MAX_AP_BEACONS then rs.maxApBeacons.toNat
  else if c.maxApBeacons = 0 then MAX_AP_BEACONS else c.maxApBeacons.toNat

/-- The call leaves a valid configuration valid: values are not negative, the limits
stay in order, and a response does not give fewer than six beacons. -/
def ConfigCall.Fits (s : SkySctx) : ConfigCall → Prop
  | setOption .totalBeacons value =>
    6 ≤ value.toInt → value.toInt ≤ TOTAL_BEACONS → (s.config.maxApBeacons.toNat : ℤ) ≤ value.toInt
  | setOption .maxApBeacons value =>
    value.toInt ≤ MAX_AP_BEACONS → 0 ≤ value.toInt ∧ value.toInt ≤ s.config.totalBeacons.toNat
  | setOption .cacheBeaconThreshold value | setOption .cacheNegRssiThreshold value
  | setOption .cacheMatchAllThreshold value | setOption .cacheMatchUsedThreshold value =>
    0 ≤ value.toInt
  | setOption _ _ => True
  | override rs => 6 ≤ rs.total s.config ∧ rs.maxAp s.config ≤ rs.total s.config

theorem toUInt32_toNat (value : Int32) :
    (value.toUInt32.toNat : ℤ) = if 0 ≤ value.toInt then value.toInt else value.toInt + 2 ^ 32 := by
  have bits : value.toUInt32.toNat = value.toBitVec.toNat := rfl
  have small := value.toBitVec.isLt
  rw [bits, Int32.toInt, BitVec.toInt_eq_toNat_cond]
  split_ifs <;> omega

theorem setConfig_config (s : SkySctx) (value : Int32) (rejected : Bool)
    (set : UInt32 → SkyConfig) :
    (setConfig s value rejected set).2.config =
      if rejected then s.config else set value.toUInt32 := by
  unfold setConfig
  split_ifs <;> rfl

theorem skySetOption_valid_iff {s : SkySctx} (valid : s.config.Valid) (name : SkyConfigName)
    (value : Int32) :
    (skySetOption s name value).2.config.Valid ↔ (ConfigCall.setOption name value).Fits s := by
  have stored := toUInt32_toNat value
  have range : value.toInt < 2 ^ 31 := value.toInt_lt
  have lower : -2 ^ 31 ≤ value.toInt := value.le_toInt
  rw [SkyConfig.valid_iff] at valid
  simp only [MAX_AP_BEACONS, TOTAL_BEACONS] at valid
  cases name with
  | totalBeacons =>
    simp only [skySetOption, setConfig_config, ConfigCall.Fits]
    split_ifs with rejected <;>
    · simp only [Bool.or_eq_true, decide_eq_true_eq] at rejected
      simp only [SkyConfig.valid_iff, TOTAL_BEACONS, MAX_AP_BEACONS] at rejected ⊢
      omega
  | maxApBeacons | cacheBeaconThreshold =>
    simp only [skySetOption, setConfig_config, ConfigCall.Fits]
    split_ifs with rejected <;>
    · simp only [decide_eq_true_eq] at rejected
      simp only [SkyConfig.valid_iff, TOTAL_BEACONS, MAX_AP_BEACONS] at rejected ⊢
      omega
  | cacheNegRssiThreshold | cacheMatchAllThreshold | cacheMatchUsedThreshold =>
    simp only [skySetOption, setConfig_config, ConfigCall.Fits]
    split_ifs with rejected <;>
    · simp only [decide_eq_true_eq] at rejected
      simp only [SkyConfig.valid_iff, TOTAL_BEACONS, MAX_AP_BEACONS]
      omega
  | cacheAgeThreshold | maxVapPerAp | maxVapPerRq =>
    simp only [skySetOption, setConfig_config, ConfigCall.Fits, iff_true]
    split_ifs <;>
    · simp only [SkyConfig.valid_iff, TOTAL_BEACONS, MAX_AP_BEACONS]
      omega
  | loggingLevel | cacheMatchThreshold | other =>
    simp only [skySetOption, ConfigCall.Fits, iff_true]
    simp only [SkyConfig.valid_iff, TOTAL_BEACONS, MAX_AP_BEACONS]
    omega

theorem toNat_overrideWith (current given : UInt32) (accepted : Bool) :
    (overrideWith current given accepted).toNat =
      if 0 < given.toNat ∧ accepted then given.toNat else current.toNat := by
  unfold overrideWith
  by_cases zero : given = 0
  · simp [zero]
  · have pos : 0 < given.toNat := Nat.pos_of_ne_zero fun h => zero (UInt32.toNat_inj.1 h)
    by_cases same : given = current
    · simp [same]
    · simp [zero, same, pos]
      split_ifs <;> rfl

theorem toNat_orDefault {default : ℕ} (small : default < 2 ^ 32) (value : UInt32) :
    (orDefault value default).toNat = if value.toNat = 0 then default else value.toNat := by
  unfold orDefault
  have zero : value.toNat = 0 ↔ value = 0 := UInt32.toNat_inj (b := 0)
  simp only [zero]
  split_ifs
  · rw [UInt32.toNat_ofNat', Nat.mod_eq_of_lt small]
  · rfl

theorem toNat_orDefault_le {default bound : ℕ} {value : UInt32} (small : default ≤ bound)
    (le : value.toNat ≤ bound) : (orDefault value default).toNat ≤ bound := by
  unfold orDefault
  split_ifs
  · rw [UInt32.toNat_ofNat']
    exact (Nat.mod_le ..).trans small
  · exact le

theorem toNat_overrideWith_le {current given : UInt32} {accepted : Bool} {bound : ℕ}
    (new : accepted = true → given.toNat ≤ bound) (old : current.toNat ≤ bound) :
    (overrideWith current given accepted).toNat ≤ bound := by
  unfold overrideWith
  split_ifs with taken
  · exact new taken.2.2
  · exact old

theorem override_limits {c : SkyConfig} (valid : c.Valid) (rs : ClientConfig) :
    (c.defaults.override rs).totalBeacons.toNat = rs.total c ∧
      (c.defaults.override rs).maxApBeacons.toNat = rs.maxAp c := by
  have zero : c.maxApBeacons = 0 ↔ c.maxApBeacons.toNat = 0 := (UInt32.toNat_inj (b := 0)).symm
  have minTotal := valid.minTotal
  constructor
  · have one : (1 : UInt32).toNat = 1 := rfl
    have given : 0 < rs.totalBeacons.toNat ∧ rs.totalBeacons.toNat < TOTAL_BEACONS ∧
        1 < rs.totalBeacons.toNat ↔
        1 < rs.totalBeacons.toNat ∧ rs.totalBeacons.toNat < TOTAL_BEACONS := by omega
    have current : (orDefault c.totalBeacons TOTAL_BEACONS).toNat = c.totalBeacons.toNat := by
      rw [toNat_orDefault (by decide), if_neg (by omega)]
    simp only [SkyConfig.override, SkyConfig.defaults, toNat_overrideWith, ClientConfig.total,
      Bool.and_eq_true, decide_eq_true_eq, UInt32.lt_iff_toNat_lt, one, given, current]
  · simp only [SkyConfig.override, SkyConfig.defaults, toNat_overrideWith, ClientConfig.maxAp,
      decide_eq_true_eq]
    rw [toNat_orDefault (by decide)]
    simp only [zero]

theorem override_thresholds {c : SkyConfig} (valid : c.Valid) (rs : ClientConfig) :
    (c.defaults.override rs).cacheBeaconThreshold.toNat ≤ TOTAL_BEACONS ∧
      (c.defaults.override rs).cacheNegRssiThreshold.toNat ≤ 128 ∧
      (c.defaults.override rs).cacheMatchAllThreshold.toNat ≤ 100 ∧
      (c.defaults.override rs).cacheMatchUsedThreshold.toNat ≤ 100 := by
  have total : (c.defaults.override rs).totalBeacons.toNat ≤ TOTAL_BEACONS := by
    have maxTotal := valid.maxTotal
    rw [(override_limits valid rs).1]
    unfold ClientConfig.total
    split_ifs <;> omega
  refine ⟨?_, ?_, ?_, ?_⟩
  · refine toNat_overrideWith_le (fun less => ?_) (toNat_orDefault_le (by decide) valid.cacheBeacon)
    rw [decide_eq_true_eq, UInt32.lt_iff_toNat_lt] at less
    exact less.le.trans total
  · refine toNat_overrideWith_le (fun within => ?_)
      (toNat_orDefault_le (by decide) valid.cacheNegRssi)
    rw [Bool.and_eq_true, decide_eq_true_eq, decide_eq_true_eq, UInt32.lt_iff_toNat_lt] at within
    exact within.2.le
  · exact toNat_overrideWith_le (fun le => by simpa [UInt32.le_iff_toNat_le] using le)
      (toNat_orDefault_le (by decide) valid.matchAll)
  · exact toNat_overrideWith_le (fun le => by simpa [UInt32.le_iff_toNat_le] using le)
      (toNat_orDefault_le (by decide) valid.matchUsed)

theorem applyConfigOverrides_valid_iff {s : SkySctx} (valid : s.config.Valid) (rs : ClientConfig) :
    (applyConfigOverrides s rs).config.Valid ↔ (ConfigCall.override rs).Fits s := by
  have limits := override_limits valid rs
  have thresholds := override_thresholds valid rs
  have maxTotal := valid.maxTotal
  have maxAp := valid.maxAp
  have config : (applyConfigOverrides s rs).config = s.config.defaults.override rs := rfl
  rw [config, SkyConfig.valid_iff, limits.1, limits.2]
  have totalBound : rs.total s.config ≤ TOTAL_BEACONS := by
    unfold ClientConfig.total
    split_ifs <;> omega
  have maxApBound : rs.maxAp s.config ≤ MAX_AP_BEACONS := by
    unfold ClientConfig.maxAp
    split_ifs <;> omega
  constructor
  · rintro ⟨minTotal, -, -, order, -⟩
    exact ⟨minTotal, order⟩
  · rintro ⟨minTotal, order⟩
    exact ⟨minTotal, totalBound, maxApBound, order, thresholds⟩

theorem configCall_valid_iff (s : SkySctx) (call : ConfigCall) (valid : s.config.Valid) :
    (call.step s).config.Valid ↔ call.Fits s := by
  cases call with
  | setOption name value => exact skySetOption_valid_iff valid name value
  | override rs => exact applyConfigOverrides_valid_iff valid rs

theorem skyOpen_zeroed_config {cacheSize : ℕ} {args : OpenArgs}
    (opened : (skyOpen (SkySctx.zeroed cacheSize) args).1 = .none) :
    (skyOpen (SkySctx.zeroed cacheSize) args).2.config = SkyConfig.zero.defaults := by
  obtain ⟨now, deviceId, aesKey, eq⟩ := skyOpen_zeroed opened
  rw [eq]
  dsimp only [installArgs]
  split_ifs <;> rfl

/-- After a zeroed session has been opened, the configuration is valid after each of
the calls that write it exactly if each of them fits. -/
theorem config_valid_iff {cacheSize : ℕ} {args : OpenArgs}
    (opened : (skyOpen (SkySctx.zeroed cacheSize) args).1 = .none) (calls : List ConfigCall) :
    (∀ k, (run ConfigCall.step (skyOpen (SkySctx.zeroed cacheSize) args).2
        (calls.take k)).config.Valid) ↔
      Along ConfigCall.step ConfigCall.Fits (skyOpen (SkySctx.zeroed cacheSize) args).2 calls := by
  have initial : (skyOpen (SkySctx.zeroed cacheSize) args).2.config.Valid := by
    rw [skyOpen_zeroed_config opened, SkyConfig.valid_iff]
    decide
  exact forall_run_take_iff configCall_valid_iff initial

instance (s : SkySctx) : ∀ call : ConfigCall, Decidable (call.Fits s)
  | .setOption .totalBeacons value => inferInstanceAs (Decidable (6 ≤ value.toInt →
      value.toInt ≤ TOTAL_BEACONS → (s.config.maxApBeacons.toNat : ℤ) ≤ value.toInt))
  | .setOption .maxApBeacons value => inferInstanceAs (Decidable (value.toInt ≤ MAX_AP_BEACONS →
      0 ≤ value.toInt ∧ value.toInt ≤ s.config.totalBeacons.toNat))
  | .setOption .cacheBeaconThreshold value | .setOption .cacheNegRssiThreshold value
  | .setOption .cacheMatchAllThreshold value | .setOption .cacheMatchUsedThreshold value =>
    inferInstanceAs (Decidable (0 ≤ value.toInt))
  | .setOption .cacheAgeThreshold _ | .setOption .maxVapPerAp _ | .setOption .maxVapPerRq _
  | .setOption .loggingLevel _ | .setOption .cacheMatchThreshold _ | .setOption .other _ =>
    isTrue trivial
  | .override rs =>
    inferInstanceAs (Decidable (6 ≤ rs.total s.config ∧ rs.maxAp s.config ≤ rs.total s.config))

def sampleConfigCalls : List ConfigCall :=
  [.setOption .maxApBeacons 5, .setOption .totalBeacons 10, .setOption .cacheMatchAllThreshold 101,
    .override ⟨12, 8, 0, 20, 5, 0, 0⟩]

theorem sampleConfigCalls_valid :
    (run ConfigCall.step
      (skyOpen (SkySctx.zeroed 1) bareOpen).2 sampleConfigCalls).config.totalBeacons =
        12 ∧
      ∀ k, (run ConfigCall.step (skyOpen (SkySctx.zeroed 1) bareOpen).2
        (sampleConfigCalls.take k)).config.Valid :=
  ⟨by decide +kernel, (config_valid_iff (by decide +kernel) sampleConfigCalls).2
    (by decide +kernel)⟩

/-- A negative number of APs is accepted and stored as a large one. -/
theorem negativeOption_not_valid :
    (skyOpen (SkySctx.zeroed 1) bareOpen).1 = .none ∧
      (skySetOption (skyOpen (SkySctx.zeroed 1) bareOpen).2 .maxApBeacons (-1)).1 = .none ∧
      ¬ (run ConfigCall.step (skyOpen (SkySctx.zeroed 1) bareOpen).2
        [.setOption .maxApBeacons (-1)]).config.Valid := by
  refine ⟨by decide +kernel, by decide +kernel, ?_⟩
  intro valid
  have maxAp := valid.maxAp
  revert maxAp
  decide +kernel

end EmbeddedClient
