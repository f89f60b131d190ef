import EmbeddedClient.Cache.Oldest

/-!
# The age of cachelines

A cacheline is emptied by its age in three places: when a request starts and in the searches of
the two plugins. All three compare the age with a product of 32 bits, which wraps for thresholds
above 1193046 hours.
-/

namespace EmbeddedClient

variable {s : SkySctx} {r : SkyRctx} {cl : SkyCacheline} {i : ℕ}

/-- The age of the line at time `now` is above the threshold, in exact integers. -/
def SkyCacheline.TooOld (c : SkyConfig) (now : ℤ) (cl : SkyCacheline) : Prop :=
  3600 * (c.cacheAgeThreshold.toNat : ℤ) < now - cl.time

def SkyCacheline.Fits (c : SkyConfig) (cl : SkyCacheline) : Prop :=
  cl.numAp ≤ c.maxApBeacons.toNat ∧ cl.numBeacons ≤ c.totalBeacons.toNat

/-- The age lies between the product in 32 bits and the product. -/
def SkyCacheline.InWrap (c : SkyConfig) (now : ℤ) (cl : SkyCacheline) : Prop :=
  (3600 * c.cacheAgeThreshold.toNat % 2 ^ 32 : ℕ) < now - cl.time ∧
    now - cl.time ≤ 3600 * (c.cacheAgeThreshold.toNat : ℤ)

instance (c : SkyConfig) (now : ℤ) (cl : SkyCacheline) : Decidable (cl.TooOld c now) :=
  inferInstanceAs (Decidable (_ < _))

/-- Line `i` is emptied exactly if it is too old: by a new request at the time of `r`, unless the
line does not fit the configuration, and by the two searches for `r`. -/
structure ExpiresExactly (distance : Distance) (s : SkySctx) (r : SkyRctx) (rbufsize : UInt32)
    (ulAppData : List UInt8) (i : ℕ) (cl : SkyCacheline) : Prop where
  newRequest : EmptyAt (skyNewRequest rbufsize s ulAppData r.header.time.toNat).sctx.cacheline i ↔
    ¬ cl.Fits s.config ∨ cl.TooOld s.config r.header.time.toNat
  aps : EmptyAt (ApPlugin.cacheMatch distance s r).2.1.cacheline i ↔
    cl.TooOld s.config r.header.time.toNat
  cells : EmptyAt (CellPlugin.cacheMatch distance s r).2.1.cacheline i ↔
    cl.TooOld s.config r.header.time.toNat

theorem SkyConfig.ageLimit_eq (c : SkyConfig) :
    c.ageLimit = 3600 * c.cacheAgeThreshold.toNat % 2 ^ 32 := by
  unfold SkyConfig.ageLimit
  rw [UInt32.toNat_mul, Nat.mul_comm]
  rfl

theorem SkyCacheline.ageLimit_lt_iff (c : SkyConfig) (now : ℤ) (cl : SkyCacheline) :
    ((c.ageLimit : ℤ) < now - cl.time ↔ cl.TooOld c now) ↔ ¬ cl.InWrap c now := by
  have wraps : c.ageLimit ≤ 3600 * c.cacheAgeThreshold.toNat := by
    rw [c.ageLimit_eq]
    exact Nat.mod_le _ _
  unfold SkyCacheline.TooOld SkyCacheline.InWrap
  rw [← c.ageLimit_eq]
  omega

theorem SkyCacheline.not_inWrap {c : SkyConfig} (short : c.cacheAgeThreshold.toNat ≤ 1193046)
    (now : ℤ) (cl : SkyCacheline) : ¬ cl.InWrap c now := by
  unfold SkyCacheline.InWrap
  rw [Nat.mod_eq_of_lt (by omega)]
  omega

theorem emptyAt_map_iff {lines : List SkyCacheline} (line : lines[i]? = some cl)
    (f : SkyCacheline → SkyCacheline) : EmptyAt (lines.map f) i ↔ (f cl).time = CACHE_EMPTY := by
  unfold EmptyAt
  rw [List.getElem?_map, line, Option.map_some]
  simp only [Option.some.injEq, exists_eq_left']

theorem SkyCacheline.expire_empty_iff (limit : ℕ) (now : UInt32) (filled : cl.time ≠ CACHE_EMPTY) :
    (cl.expire limit now).time = CACHE_EMPTY ↔ (limit : ℤ) < now.toNat - cl.time := by
  unfold SkyCacheline.expire
  split_ifs with old
  · exact iff_of_true rfl old.2
  · exact iff_of_false filled fun late => old ⟨filled, late⟩

theorem SkyCacheline.renew_empty_iff (c : SkyConfig) {now : ℤ} (timed : now ≠ TIME_UNAVAILABLE)
    (filled : cl.time ≠ CACHE_EMPTY) :
    (cl.renew c now).time = CACHE_EMPTY ↔ ¬ cl.Fits c ∨ (c.ageLimit : ℤ) < now - cl.time := by
  have fits_iff :
      ¬ cl.Fits c ↔ c.maxApBeacons.toNat < cl.numAp ∨ c.totalBeacons.toNat < cl.numBeacons := by
    unfold SkyCacheline.Fits
    omega
  rw [fits_iff]
  unfold SkyCacheline.renew
  by_cases exceeds : c.maxApBeacons.toNat < cl.numAp ∨ c.totalBeacons.toNat < cl.numBeacons
  · simp [exceeds]
  · rw [if_neg exceeds]
    dsimp only
    rw [if_neg fun both => timed both.2]
    split_ifs with old
    · exact iff_of_true rfl (.inr old.2)
    · exact iff_of_false filled fun emptied => old ⟨filled, emptied.resolve_left exceeds⟩

theorem emptyAt_expire_iff (line : s.cacheline[i]? = some cl) (visited : (i : ℤ) < s.numCachelines)
    (filled : cl.time ≠ CACHE_EMPTY) :
    EmptyAt (s.expire r).cacheline i ↔ (s.config.ageLimit : ℤ) < r.header.time.toNat - cl.time := by
  have inLines : s.lines[i]? = some cl := by
    unfold SkySctx.lines
    rw [List.getElem?_take_of_lt (by omega), line]
  have inside : i < (s.lines.map (SkyCacheline.expire s.config.ageLimit r.header.time)).length := by
    rw [List.length_map]
    exact (List.getElem?_eq_some_iff.1 inLines).1
  have front : EmptyAt (s.expire r).cacheline i ↔
      EmptyAt (s.lines.map (SkyCacheline.expire s.config.ageLimit r.header.time)) i := by
    unfold EmptyAt SkySctx.expire SkySctx.mapLines
    rw [List.getElem?_append_left inside]
  rw [front, emptyAt_map_iff inLines, SkyCacheline.expire_empty_iff _ _ filled]

theorem skyNewRequest_cacheline {rbufsize : UInt32} {ulAppData : List UInt8} {now : ℤ}
    (started : (skyNewRequest rbufsize s ulAppData now).errno = none) :
    (skyNewRequest rbufsize s ulAppData now).sctx.cacheline =
      s.cacheline.map (SkyCacheline.renew s.config (startTime now)) := by
  unfold skyNewRequest at started ⊢
  split_ifs at started ⊢
  rfl

/-- The three checks are exact exactly if the age is not between the product in 32 bits and the
product itself. -/
theorem expiresExactly_iff (distance : Distance) {rbufsize : UInt32} {ulAppData : List UInt8}
    (line : s.cacheline[i]? = some cl) (visited : (i : ℤ) < s.numCachelines)
    (filled : cl.time ≠ CACHE_EMPTY) (recent : TIMESTAMP_2019_03_01 ≤ (r.header.time.toNat : ℤ))
    (started : (skyNewRequest rbufsize s ulAppData r.header.time.toNat).errno = none) :
    ExpiresExactly distance s r rbufsize ulAppData i cl ↔
      ¬ cl.InWrap s.config r.header.time.toNat := by
  have start : startTime r.header.time.toNat = r.header.time.toNat := if_neg (by omega)
  have timed : (r.header.time.toNat : ℤ) ≠ TIME_UNAVAILABLE := by
    simp only [TIMESTAMP_2019_03_01, TIME_UNAVAILABLE] at recent ⊢
    omega
  have search := emptyAt_expire_iff (r := r) line visited filled
  have exactly := cl.ageLimit_lt_iff s.config r.header.time.toNat
  constructor
  · intro expires
    rw [← exactly, ← search, ← ApPlugin.cacheMatch_sctx distance s r]
    exact expires.aps
  · intro outside
    have agree := exactly.2 outside
    refine ⟨?_, ?_, ?_⟩
    · rw [skyNewRequest_cacheline started, start, emptyAt_map_iff line,
        SkyCacheline.renew_empty_iff s.config timed filled, agree]
    · rw [ApPlugin.cacheMatch_sctx, search, agree]
    · rw [CellPlugin.cacheMatch_sctx, search, agree]

def noDistance : Distance := fun _ _ _ _ => .fin 0

/-- With the default threshold, a line of two hours. -/
theorem dayThreshold_expiresExactly :
    ExpiresExactly noDistance (filledAt [1599992800]) sampleRequest sizeofSkyRctx [] 0
      { SkyCacheline.cleared with time := 1599992800 } :=
  (expiresExactly_iff noDistance rfl (by decide) (by decide) (by decide +kernel)
    (by decide +kernel)).2
    (SkyCacheline.not_inWrap (by decide +kernel) _ _)

def longThreshold : SkySctx := (skySetOption (filledAt [1599992800]) .cacheAgeThreshold 1193047).2

/-- With a threshold of 136 years a line of two hours is emptied. -/
theorem longThreshold_not_expiresExactly :
    (skySetOption (filledAt [1599992800]) .cacheAgeThreshold 1193047).1 = .none ∧
      EmptyAt (ApPlugin.cacheMatch noDistance longThreshold sampleRequest).2.1.cacheline 0 ∧
      ¬ ExpiresExactly noDistance longThreshold sampleRequest sizeofSkyRctx [] 0
        { SkyCacheline.cleared with time := 1599992800 } := by
  have emptied :
      EmptyAt (ApPlugin.cacheMatch noDistance longThreshold sampleRequest).2.1.cacheline 0 := by
    decide +kernel
  refine ⟨by decide +kernel, emptied, fun expires => ?_⟩
  exact absurd (expires.aps.1 emptied) (by decide +kernel)

end EmbeddedClient
