import EmbeddedClient.Beacons.Capacity
import EmbeddedClient.Cache.Indexes
import EmbeddedClient.Cache.Search

/-!
# When a cache hit is reported on the AP path

The ratio of a line is a quotient of small integers and is compared in single
precision. Rounding keeps the order of such quotients and moves none of them past a
threshold, except that a quotient equal to a threshold may be rounded above it. A
search without a good line does not clear the hit of an earlier one.
-/

namespace EmbeddedClient

open FirstMax

def maxUnion : ℕ := 2 ^ 16 + MAX_AP_BEACONS

/-- Multiplying the rounded threshold by 100 gives more than the threshold. -/
def Slips (threshold : ℤ) : Prop :=
  (threshold : ℚ) < Binary32.round (Binary32.round (threshold / 100) * 100)

theorem round_div_bounds (m : ℕ) {u : ℕ} (pos : 0 < u) :
    m * (1 - 1 / 2 ^ 24) ≤ Binary32.round ((m : ℚ) / u) * u ∧
      Binary32.round ((m : ℚ) / u) * u ≤ m * (1 + 1 / 2 ^ 24) := by
  have posU : (0 : ℚ) < u := by exact_mod_cast pos
  have quotient : (m : ℚ) / u * u = m := div_mul_cancel₀ _ posU.ne'
  have bounds := Binary32.round_bounds (x := (m : ℚ) / u) (by positivity)
  constructor
  · calc (m : ℚ) * (1 - 1 / 2 ^ 24) = m / u * (1 - 1 / 2 ^ 24) * u := by
          rw [mul_right_comm, quotient]
      _ ≤ Binary32.round ((m : ℚ) / u) * u := mul_le_mul_of_nonneg_right bounds.1 posU.le
  · calc Binary32.round ((m : ℚ) / u) * u ≤ m / u * (1 + 1 / 2 ^ 24) * u :=
          mul_le_mul_of_nonneg_right bounds.2 posU.le
      _ = m * (1 + 1 / 2 ^ 24) := by rw [mul_right_comm, quotient]

/-- The comparison of a search on a quotient of small integers. -/
theorem passes_round_div_iff {m u t : ℕ} (pos : 0 < u) (wide : u ≤ maxUnion) (percent : t ≤ 100) :
    Passes (Binary32.round ((m : ℚ) / u)) t ↔
      t * u < 100 * m ∨ (100 * m = t * u ∧ Slips t) := by
  have value : Binary32.round ((t : ℤ) : ℚ) = t := by
    have small : t < 2 ^ 24 := by omega
    exact_mod_cast Binary32.round_natCast small
  have posU : (0 : ℚ) < u := by exact_mod_cast pos
  have nonneg : 0 ≤ Binary32.round ((m : ℚ) / u) := Binary32.round_nonneg (by positivity)
  have first := round_div_bounds m pos
  have second := Binary32.round_bounds (x := Binary32.round ((m : ℚ) / u) * 100) (by positivity)
  have lower := mul_le_mul_of_nonneg_right second.1 posU.le
  have upper := mul_le_mul_of_nonneg_right second.2 posU.le
  have limit : (t : ℚ) * u ≤ 100 * maxUnion := by exact_mod_cast Nat.mul_le_mul percent wide
  have union : (maxUnion : ℚ) = 2 ^ 16 + 20 := by norm_num [maxUnion]
  unfold Passes
  rw [value]
  rcases lt_trichotomy (t * u) (100 * m) with below | equal | above
  · have gap : (t : ℚ) * u + 1 ≤ 100 * m := by exact_mod_cast below
    refine iff_of_true ?_ (.inl below)
    by_contra rounded
    have product := mul_le_mul_of_nonneg_right (not_lt.1 rounded) posU.le
    linarith
  · have quotient : (m : ℚ) / u = t / 100 := by
      have exact_ : (100 : ℚ) * m = t * u := by exact_mod_cast equal.symm
      rw [div_eq_div_iff posU.ne' (by norm_num)]
      linarith
    rw [quotient]
    unfold Slips
    push_cast
    constructor
    · intro slips
      exact .inr ⟨equal.symm, slips⟩
    · rintro (below | ⟨-, slips⟩)
      · exact absurd below equal.not_lt
      · exact slips
  · have gap : 100 * (m : ℚ) + 1 ≤ t * u := by exact_mod_cast above
    apply iff_of_false
    · intro rounded
      have product := mul_lt_mul_of_pos_right rounded posU
      linarith
    · rintro (below | ⟨equal, -⟩)
      · exact absurd below above.not_gt
      · exact absurd equal above.ne

theorem round_div_lt_round_div {m n u v : ℕ} (posU : 0 < u) (posV : 0 < v) (wideU : u ≤ maxUnion)
    (wideV : v ≤ maxUnion) (fewM : m ≤ MAX_AP_BEACONS + 1) (fewN : n ≤ MAX_AP_BEACONS + 1)
    (less : (m : ℚ) / u < (n : ℚ) / v) :
    Binary32.round ((m : ℚ) / u) < Binary32.round ((n : ℚ) / v) := by
  have positiveU : (0 : ℚ) < u := by exact_mod_cast posU
  have positiveV : (0 : ℚ) < v := by exact_mod_cast posV
  have gap : (m : ℚ) * v + 1 ≤ n * u := by
    rw [div_lt_div_iff₀ positiveU positiveV] at less
    exact_mod_cast less
  have upper : Binary32.round ((m : ℚ) / u) * u * v ≤ m * (1 + 1 / 2 ^ 24) * v :=
    mul_le_mul_of_nonneg_right (round_div_bounds m posU).2 positiveV.le
  have lower : n * (1 - 1 / 2 ^ 24) * u ≤ Binary32.round ((n : ℚ) / v) * v * u :=
    mul_le_mul_of_nonneg_right (round_div_bounds n posV).1 positiveU.le
  have limitM : (m : ℚ) * v ≤ 21 * (2 ^ 16 + 20) := by exact_mod_cast Nat.mul_le_mul fewM wideV
  have limitN : (n : ℚ) * u ≤ 21 * (2 ^ 16 + 20) := by exact_mod_cast Nat.mul_le_mul fewN wideU
  by_contra rounded
  have product : Binary32.round ((n : ℚ) / v) * v * u ≤ Binary32.round ((m : ℚ) / u) * u * v := by
    rw [mul_right_comm]
    exact mul_le_mul_of_nonneg_right
      (mul_le_mul_of_nonneg_right (not_lt.1 rounded) positiveU.le) positiveV.le
  linarith

namespace ApPlugin

theorem countCached_le (as unmatched : List Beacon) :
    countCached as unmatched ≤ as.length ∧ countCached as unmatched ≤ unmatched.length := by
  induction as generalizing unmatched with
  | nil => simp [countCached]
  | cons a as ih =>
    unfold countCached
    split_ifs with found
    · have rest := ih (unmatched.eraseP a.similar)
      rw [List.length_eraseP, if_pos found] at rest
      have some_ : 0 < unmatched.length := by
        obtain ⟨b, member, -⟩ := List.any_eq_true.1 found
        exact List.length_pos_of_mem member
      rw [List.length_cons]
      omega
    · have rest := ih unmatched
      rw [List.length_cons]
      omega

theorem countCachedApsInRequestCtx_le (r : SkyRctx) (cl : SkyCacheline) :
    countCachedApsInRequestCtx r cl ≤ r.numAp ∧ countCachedApsInRequestCtx r cl ≤ cl.numAp := by
  have bound := countCached_le r.aps cl.aps
  unfold SkyRctx.aps SkyCacheline.aps at bound
  rw [List.length_take, List.length_take] at bound
  unfold countCachedApsInRequestCtx SkyRctx.aps SkyCacheline.aps
  omega

def unionAB (r : SkyRctx) (cl : SkyCacheline) : ℕ :=
  r.numAp + cl.numAp - countCachedApsInRequestCtx r cl

theorem ratio_eq (r : SkyRctx) (cl : SkyCacheline) :
    ratio r cl = (countCachedApsInRequestCtx r cl : ℚ) / unionAB r cl := rfl

theorem threshold_percent {s : SkySctx} (percent : s.config.cacheMatchAllThreshold.toNat ≤ 100)
    (r : SkyRctx) : ∃ t : ℕ, threshold s r = t ∧ t ≤ 100 := by
  unfold threshold
  split_ifs
  · exact ⟨99, rfl, by decide⟩
  · refine ⟨_, BitVec.toInt_eq_toNat_of_lt ?_, percent⟩
    change 2 * s.config.cacheMatchAllThreshold.toNat < 2 ^ 32
    omega

theorem score_of_shared {s : SkySctx} {r : SkyRctx} {cl : SkyCacheline}
    (shared : 0 < countCachedApsInRequestCtx r cl) :
    score s r cl = (Binary32.round (ratio r cl), threshold s r) := by
  have bound := countCachedApsInRequestCtx_le r cl
  exact if_pos ⟨by omega, by omega⟩

theorem shared_of_score {s : SkySctx} {r : SkyRctx} {cl : SkyCacheline} {v : ℚ} {l : ℤ}
    (eq : score s r cl = (v, l)) (pos : 0 < v) : 0 < countCachedApsInRequestCtx r cl := by
  by_contra none
  have zero : ratio r cl = 0 := by
    rw [ratio_eq, Nat.eq_zero_of_not_pos none, Nat.cast_zero, zero_div]
  have value := congrArg Prod.fst eq
  unfold score at value
  split_ifs at value
  · rw [zero] at value
    have rounded : Binary32.round 0 = 0 := by
      exact_mod_cast Binary32.round_natCast (n := 0) (by decide)
    rw [rounded] at value
    exact absurd value pos.ne
  · exact absurd value pos.ne

variable {distance : Distance} {s : SkySctx} {r : SkyRctx}

theorem getElem?_scores {k : ℕ} {v : ℚ} {l : ℤ} :
    (scores distance s r)[k]? = some (some (v, l)) ↔
      ∃ cl, s.lines[k]? = some cl ∧ cl.Eligible distance s r ∧ score s r cl = (v, l) := by
  unfold scores
  rw [List.getElem?_map, Option.map_eq_some_iff]
  constructor
  · rintro ⟨cl, line, offer⟩
    split_ifs at offer with eligible
    exact ⟨cl, line, eligible, Option.some.inj offer⟩
  · rintro ⟨cl, line, eligible, value⟩
    refine ⟨cl, line, ?_⟩
    rw [if_pos eligible, value]

end ApPlugin

variable {distance : Distance} {s : SkySctx} {r : SkyRctx} {loc : SkyLocation}

theorem SkySctx.line_expire {k : ℕ} {cl : SkyCacheline} (line : s.lines[k]? = some cl) :
    ((s.expire r).line k).loc = cl.loc := by
  have expired : (s.expire r).lines[k]? = some (cl.expire s.config.ageLimit r.header.time) := by
    rw [SkySctx.lines_expire, List.getElem?_map, line, Option.map_some]
  have slot : (s.expire r).cacheline[k]? = some (cl.expire s.config.ageLimit r.header.time) := by
    unfold SkySctx.lines at expired
    rw [List.getElem?_take] at expired
    split_ifs at expired
    exact expired
  unfold SkySctx.line
  rw [if_pos (Int.natCast_nonneg k), Int.toNat_natCast, List.getD_eq_getElem?_getD, slot,
    Option.getD_some]
  unfold SkyCacheline.expire
  split_ifs <;> rfl

/-- The line takes part in a search and has more of the APs than the threshold asks for. -/
structure SkyCacheline.Qualifies (distance : Distance) (s : SkySctx) (r : SkyRctx)
    (cl : SkyCacheline) : Prop where
  eligible : cl.Eligible distance s r
  shares : ApPlugin.threshold s r *
    (r.numAp + cl.numAp - ApPlugin.countCachedApsInRequestCtx r cl) <
    100 * ApPlugin.countCachedApsInRequestCtx r cl

/-- The line takes part in a search and has as many of the APs as the threshold asks for. -/
structure SkyCacheline.Borderline (distance : Distance) (s : SkySctx) (r : SkyRctx)
    (cl : SkyCacheline) : Prop where
  eligible : cl.Eligible distance s r
  shares : 0 < ApPlugin.countCachedApsInRequestCtx r cl
  equal : ApPlugin.threshold s r * (r.numAp + cl.numAp - ApPlugin.countCachedApsInRequestCtx r cl) =
    100 * ApPlugin.countCachedApsInRequestCtx r cl

instance (distance : Distance) (s : SkySctx) (r : SkyRctx) (cl : SkyCacheline) :
    Decidable (cl.Qualifies distance s r) :=
  decidable_of_iff (cl.Eligible distance s r ∧
      ApPlugin.threshold s r * (r.numAp + cl.numAp - ApPlugin.countCachedApsInRequestCtx r cl) <
        100 * ApPlugin.countCachedApsInRequestCtx r cl)
    ⟨fun ⟨eligible, shares⟩ => ⟨eligible, shares⟩, fun ⟨eligible, shares⟩ => ⟨eligible, shares⟩⟩

/-- Line `k` is the first of the greatest ratio among the lines that qualify. -/
structure FirstQualifying (distance : Distance) (s : SkySctx) (r : SkyRctx) (k : ℕ)
    (cl : SkyCacheline) : Prop where
  line : s.lines[k]? = some cl
  qualifies : cl.Qualifies distance s r
  greatest : ∀ (j : ℕ) (other : SkyCacheline), s.lines[j]? = some other →
    other.Qualifies distance s r →
    ApPlugin.ratio r other ≤ ApPlugin.ratio r cl ∧
      (j < k → ApPlugin.ratio r other < ApPlugin.ratio r cl)

namespace ApPlugin

variable {cl other : SkyCacheline} {t : ℕ}

theorem unionAB_bounds (aps : r.numAp ≠ 0) (few : r.numAp ≤ MAX_AP_BEACONS + 1)
    (wide : cl.numAp < 2 ^ 16) : 0 < unionAB r cl ∧ unionAB r cl ≤ maxUnion := by
  have bound := countCachedApsInRequestCtx_le r cl
  unfold unionAB maxUnion
  simp only [MAX_AP_BEACONS] at few ⊢
  omega

theorem unionAB_cast (r : SkyRctx) (cl : SkyCacheline) :
    (unionAB r cl : ℤ) = r.numAp + cl.numAp - countCachedApsInRequestCtx r cl := by
  have bound := countCachedApsInRequestCtx_le r cl
  unfold unionAB
  omega

theorem passes_ratio_iff (aps : r.numAp ≠ 0) (few : r.numAp ≤ MAX_AP_BEACONS + 1)
    (wide : cl.numAp < 2 ^ 16) (percent : s.config.cacheMatchAllThreshold.toNat ≤ 100) :
    Passes (Binary32.round (ratio r cl)) (threshold s r) ↔
      threshold s r * (r.numAp + cl.numAp - countCachedApsInRequestCtx r cl) <
          100 * countCachedApsInRequestCtx r cl ∨
        (threshold s r * (r.numAp + cl.numAp - countCachedApsInRequestCtx r cl) =
          100 * countCachedApsInRequestCtx r cl ∧ Slips (threshold s r)) := by
  obtain ⟨t, eq, small⟩ := threshold_percent percent r
  have bounds := unionAB_bounds aps few wide
  rw [eq, ratio_eq, passes_round_div_iff bounds.1 bounds.2 small, ← unionAB_cast]
  norm_cast
  rw [eq_comm]

theorem ratio_le_of_round_le (aps : r.numAp ≠ 0) (few : r.numAp ≤ MAX_AP_BEACONS + 1)
    (wide : cl.numAp < 2 ^ 16) (wide' : other.numAp < 2 ^ 16)
    (le : Binary32.round (ratio r other) ≤ Binary32.round (ratio r cl)) :
    ratio r other ≤ ratio r cl := by
  have bounds := unionAB_bounds aps few wide
  have bounds' := unionAB_bounds aps few wide'
  have most := (countCachedApsInRequestCtx_le r cl).1.trans few
  have most' := (countCachedApsInRequestCtx_le r other).1.trans few
  by_contra greater
  rw [ratio_eq, ratio_eq, not_le] at greater
  exact absurd le
    (round_div_lt_round_div bounds.1 bounds'.1 bounds.2 bounds'.2 most most' greater).not_ge

theorem ratio_lt_of_round_lt (lt : Binary32.round (ratio r other) < Binary32.round (ratio r cl)) :
    ratio r other < ratio r cl := by
  by_contra le
  have nonneg : 0 ≤ ratio r cl := by
    rw [ratio_eq]
    positivity
  exact absurd lt (Binary32.round_mono nonneg (not_lt.1 le)).not_gt

theorem score_of_passes (shared : 0 < countCachedApsInRequestCtx r cl) :
    0 < (score s r cl).1 ∧ score s r cl = (Binary32.round (ratio r cl), threshold s r) := by
  have eq := score_of_shared (s := s) shared
  have bound := countCachedApsInRequestCtx_le r cl
  have positive : 0 < unionAB r cl := by
    unfold unionAB
    omega
  rw [eq]
  refine ⟨Binary32.round_pos ?_, rfl⟩
  rw [ratio_eq]
  positivity

theorem shared_of_qualifies (percent : s.config.cacheMatchAllThreshold.toNat ≤ 100)
    (qualifies : cl.Qualifies distance s r) : 0 < countCachedApsInRequestCtx r cl := by
  obtain ⟨t, eq, -⟩ := threshold_percent percent r
  have shares := qualifies.shares
  rw [eq, ← unionAB_cast] at shares
  have product : (0 : ℤ) ≤ t * unionAB r cl := by positivity
  omega

end ApPlugin

section BestLine

variable {cl other : SkyCacheline}

theorem ratio_lt_of_qualifies (aps : r.numAp ≠ 0) (few : r.numAp ≤ MAX_AP_BEACONS + 1)
    (wide : cl.numAp < 2 ^ 16) (wide' : other.numAp < 2 ^ 16)
    (borderline : cl.Borderline distance s r) (qualifies : other.Qualifies distance s r) :
    ApPlugin.ratio r cl < ApPlugin.ratio r other := by
  have pos := (ApPlugin.unionAB_bounds aps few wide).1
  have pos' := (ApPlugin.unionAB_bounds aps few wide').1
  have equal := borderline.equal
  have more := qualifies.shares
  rw [← ApPlugin.unionAB_cast] at equal more
  rw [ApPlugin.ratio_eq, ApPlugin.ratio_eq,
    div_lt_div_iff₀ (by exact_mod_cast pos) (by exact_mod_cast pos')]
  have scaled : 100 * ((ApPlugin.countCachedApsInRequestCtx r cl : ℤ) * ApPlugin.unionAB r other) <
      100 * (ApPlugin.countCachedApsInRequestCtx r other * ApPlugin.unionAB r cl) :=
    calc 100 * ((ApPlugin.countCachedApsInRequestCtx r cl : ℤ) * ApPlugin.unionAB r other)
        = ApPlugin.threshold s r * ApPlugin.unionAB r other * ApPlugin.unionAB r cl := by
          rw [← mul_assoc, ← equal, mul_right_comm]
      _ < 100 * ApPlugin.countCachedApsInRequestCtx r other * ApPlugin.unionAB r cl :=
          mul_lt_mul_of_pos_right more (by exact_mod_cast pos)
      _ = _ := mul_assoc ..
  have less := lt_of_mul_lt_mul_left scaled (by norm_num)
  exact_mod_cast less

variable (aps : r.numAp ≠ 0) (few : r.numAp ≤ MAX_AP_BEACONS + 1)
  (wide : ∀ cl ∈ s.lines, cl.numAp < 2 ^ 16)
  (percent : s.config.cacheMatchAllThreshold.toNat ≤ 100)

include aps few wide percent

theorem offer_passes (member : cl ∈ s.lines) (eligible : cl.Eligible distance s r)
    (shared : 0 < ApPlugin.countCachedApsInRequestCtx r cl)
    (enough : cl.Qualifies distance s r ∨
      (cl.Borderline distance s r ∧ Slips (ApPlugin.threshold s r))) :
    some (Binary32.round (ApPlugin.ratio r cl), ApPlugin.threshold s r) ∈
        ApPlugin.scores distance s r ∧
      0 < Binary32.round (ApPlugin.ratio r cl) ∧
      Passes (Binary32.round (ApPlugin.ratio r cl)) (ApPlugin.threshold s r) := by
  obtain ⟨positive, score⟩ := ApPlugin.score_of_passes (s := s) shared
  rw [score] at positive
  refine ⟨?_, positive, ?_⟩
  · obtain ⟨k, line⟩ := List.mem_iff_getElem?.1 member
    exact List.mem_of_getElem? (ApPlugin.getElem?_scores.2 ⟨cl, line, eligible, score⟩)
  · rw [ApPlugin.passes_ratio_iff aps few (wide cl member) percent]
    rcases enough with qualifies | ⟨borderline, slips⟩
    · exact .inl qualifies.shares
    · exact .inr ⟨borderline.equal, slips⟩

/-- The line a search finds is the first best that qualifies, or is at the threshold
and none qualifies. -/
theorem firstMax_cases {k : ℕ} {value : ℚ}
    (passes : Passes value (ApPlugin.threshold s r)) (pos : 0 < value)
    (max : IsFirstMax (ApPlugin.scores distance s r) k value (ApPlugin.threshold s r)) :
    ∃ cl, s.lines[k]? = some cl ∧
      (FirstQualifying distance s r k cl ∨
        (cl.Borderline distance s r ∧ Slips (ApPlugin.threshold s r) ∧
          ∀ other ∈ s.lines, ¬ other.Qualifies distance s r)) := by
  obtain ⟨cl, line, eligible, score⟩ := ApPlugin.getElem?_scores.1 max.offered
  have member := List.mem_of_getElem? line
  have shared := ApPlugin.shared_of_score score pos
  have value_eq : value = Binary32.round (ApPlugin.ratio r cl) := by
    rw [ApPlugin.score_of_shared shared] at score
    exact (Prod.mk.inj score).1.symm
  subst value_eq
  have less (j : ℕ) (other : SkyCacheline) (at_j : s.lines[j]? = some other)
      (qualifies : other.Qualifies distance s r) :
      ApPlugin.ratio r other ≤ ApPlugin.ratio r cl ∧
        (j < k → ApPlugin.ratio r other < ApPlugin.ratio r cl) := by
    have offer := ApPlugin.getElem?_scores.2 ⟨other, at_j, qualifies.eligible,
      (ApPlugin.score_of_passes (ApPlugin.shared_of_qualifies percent qualifies)).2⟩
    obtain ⟨le, lt⟩ := max.greatest j _ _ offer
    constructor
    · exact ApPlugin.ratio_le_of_round_le aps few (wide cl member)
        (wide other (List.mem_of_getElem? at_j)) le
    · intro before
      exact ApPlugin.ratio_lt_of_round_lt (lt before)
  refine ⟨cl, line, ?_⟩
  rcases (ApPlugin.passes_ratio_iff aps few (wide cl member) percent).1 passes with
    more | ⟨equal, slips⟩
  · exact .inl ⟨line, ⟨eligible, more⟩, less⟩
  · right
    have borderline : cl.Borderline distance s r := ⟨eligible, shared, equal⟩
    refine ⟨borderline, slips, ?_⟩
    intro other inLines qualifies
    obtain ⟨j, at_j⟩ := List.mem_iff_getElem?.1 inLines
    exact absurd (less j other at_j qualifies).1
      (ratio_lt_of_qualifies aps few (wide cl member)
        (wide other inLines) borderline qualifies).not_ge

/-- Where no offer passes, no line qualifies and none at the threshold slips. -/
theorem none_of_fails (fails : ∀ v l, some (v, l) ∈ ApPlugin.scores distance s r → 0 < v →
      ¬ Passes v (ApPlugin.threshold s r)) :
    (¬ ∃ cl ∈ s.lines, cl.Qualifies distance s r) ∧
      ¬ (Slips (ApPlugin.threshold s r) ∧ ∃ cl ∈ s.lines, cl.Borderline distance s r) := by
  constructor
  · rintro ⟨cl, member, qualifies⟩
    rcases offer_passes aps few wide percent member qualifies.eligible
      (ApPlugin.shared_of_qualifies percent qualifies) (.inl qualifies) with ⟨offered, pos, passes⟩
    exact fails _ _ offered pos passes
  · rintro ⟨slips, cl, member, borderline⟩
    rcases offer_passes aps few wide percent member borderline.eligible borderline.shares
      (.inr ⟨borderline, slips⟩) with ⟨offered, pos, passes⟩
    exact fails _ _ offered pos passes

end BestLine

/-- A hit is reported exactly if a line qualifies, from the first best of these lines
and with its location. -/
structure SearchCorrect (distance : Distance) (s : SkySctx) (r : SkyRctx) (found : SearchResult) :
    Prop where
  hit : found.cacheHit = some true ↔
    ∃ cl ∈ s.lines, cl.Qualifies distance s (validateRequestCtx r).2
  line : found.cacheHit = some true →
    ∃ (k : ℕ) (cl : SkyCacheline), FirstQualifying distance s (validateRequestCtx r).2 k cl ∧
      found.rctx.getFrom = k ∧ found.loc = { cl.loc with dlAppData := false, dlAppDataLen := 0 }

theorem searchCorrect_of_no_lines (valid : (validateRequestCtx r).1 = true)
    (none : s.numCachelines < 1) :
    SearchCorrect distance s r (skySearchCache distance s r loc) := by
  have report : skySearchCache distance s r loc = _ := skySearchCache_valid valid
  have empty : s.lines = [] := by
    unfold SkySctx.lines
    rw [Int.toNat_of_nonpos (by omega), List.take_zero]
  have found : searchCache distance s (validateRequestCtx r).2 =
      (s, { (validateRequestCtx r).2 with getFrom := -1, hit := false }) := if_pos (.inl none)
  rw [found] at report
  have missed : (skySearchCache distance s r loc).cacheHit = some false := by
    rw [report]
    rfl
  constructor
  · simp [missed, empty]
  · intro hit
    simp [missed] at hit

theorem skySearchCache_accepted (valid : (validateRequestCtx r).1 = true) {saveTo : ℤ} {k : ℕ}
    (found : searchCache distance s (validateRequestCtx r).2 = (s.expire (validateRequestCtx r).2,
      { (validateRequestCtx r).2 with saveTo := saveTo, getFrom := k, hit := true })) :
    (skySearchCache distance s r loc).cacheHit = some true ∧
      (skySearchCache distance s r loc).rctx.getFrom = k ∧
      (skySearchCache distance s r loc).loc =
        { ((s.expire (validateRequestCtx r).2).line k).loc with
          dlAppData := false, dlAppDataLen := 0 } := by
  have report : skySearchCache distance s r loc = _ := skySearchCache_valid valid
  have hit : { (validateRequestCtx r).2 with
    saveTo := saveTo, getFrom := k, hit := true }.isCacheHit = true := by
    simp [SkyRctx.isCacheHit]
  rw [found] at report
  dsimp only at report
  rw [if_pos hit] at report
  rw [report]
  exact ⟨rfl, rfl, rfl⟩

/-- If no line is accepted the report is right exactly if no line qualifies and no hit is left
over. -/
theorem searchCorrect_iff_of_fails (valid : (validateRequestCtx r).1 = true) {saveTo : ℤ}
    (found : searchCache distance s (validateRequestCtx r).2 = (s.expire (validateRequestCtx r).2,
      { (validateRequestCtx r).2 with saveTo := saveTo, getFrom := 0 }))
    (without : ¬ ∃ cl ∈ s.lines, cl.Qualifies distance s (validateRequestCtx r).2) :
    SearchCorrect distance s r (skySearchCache distance s r loc) ↔
      (validateRequestCtx r).2.hit = false := by
  have reported :
      (skySearchCache distance s r loc).cacheHit = some (validateRequestCtx r).2.hit := by
    rw [skySearchCache_cacheHit valid, found]
    simp [SkyRctx.isCacheHit]
  constructor
  · intro correct
    by_contra hit
    rw [Bool.not_eq_false] at hit
    rw [hit] at reported
    exact without (correct.hit.1 reported)
  · intro miss
    rw [miss] at reported
    refine ⟨iff_of_false ?_ without, ?_⟩
    · simp [reported]
    · simp [reported]

/-- For a context with APs, a recent request time and thresholds in percent, the
report is right exactly if a line qualifies, or there are no lines, or no earlier
search has left a hit and no line at a threshold that slips is taken for one above.
The indexes are of 16 bits, and there are as many lines as they can tell apart. -/
theorem searchCorrect_iff (valid : (validateRequestCtx r).1 = true)
    (small : s.numCachelines ≤ 2 ^ 15) (fields : r.int16Indexes = r)
    (plugins : s.plugins = skyRegisterPlugins) (aps : r.numAp ≠ 0)
    (recent : TIMESTAMP_2019_03_01 ≤ (r.header.time.toNat : ℤ))
    (percent : s.config.cacheMatchAllThreshold.toNat ≤ 100)
    (wide : ∀ cl ∈ s.lines, cl.numAp < 2 ^ 16) :
    SearchCorrect distance s r (skySearchCache16 distance s r loc) ↔
      (∃ cl ∈ s.lines, cl.Qualifies distance s (validateRequestCtx r).2) ∨
        s.numCachelines < 1 ∨
        (r.hit = false ∧ ¬ (Slips (ApPlugin.threshold s (validateRequestCtx r).2) ∧
          ∃ cl ∈ s.lines, cl.Borderline distance s (validateRequestCtx r).2)) := by
  have few := (validateRequestCtx_bound valid).2
  rw [skySearchCache16_eq distance small fields]
  obtain ⟨bs, rest⟩ := validateRequestCtx_rest r
  have hit_eq : (validateRequestCtx r).2.hit = r.hit := by rw [rest]
  have numAp_eq : (validateRequestCtx r).2.numAp = r.numAp := by rw [rest]
  have time_eq : (validateRequestCtx r).2.header = r.header := by rw [rest]
  rw [← numAp_eq] at aps few
  rw [← time_eq] at recent
  rw [← hit_eq]
  by_cases none : s.numCachelines < 1
  · exact iff_of_true (searchCorrect_of_no_lines valid none) (.inr (.inl none))
  · rcases searchCache_aps_cases distance plugins recent none aps with
      ⟨saveTo, ⟨k, value, passes, pos, max, found⟩ | ⟨fails, found⟩⟩
    · obtain ⟨reported, getFrom, location⟩ :=
        @skySearchCache_accepted distance s r loc valid saveTo k found
      rcases firstMax_cases aps few wide percent passes pos max with
        ⟨cl, line, first | ⟨borderline, slips, fewer⟩⟩
      · have qualifying : ∃ cl ∈ s.lines, cl.Qualifies distance s (validateRequestCtx r).2 :=
          ⟨cl, List.mem_of_getElem? line, first.qualifies⟩
        refine iff_of_true ⟨iff_of_true reported qualifying, ?_⟩ (.inl qualifying)
        intro _
        refine ⟨k, cl, first, getFrom, ?_⟩
        rw [location, s.line_expire line]
      · have without : ¬ ∃ cl ∈ s.lines, cl.Qualifies distance s (validateRequestCtx r).2 := by
          rintro ⟨other, member, qualifies⟩
          exact fewer other member qualifies
        apply iff_of_false
        · intro correct
          exact without (correct.hit.1 reported)
        · rintro (qualifying | few | ⟨-, above⟩)
          · exact without qualifying
          · exact none few
          · exact above ⟨slips, cl, List.mem_of_getElem? line, borderline⟩
    · obtain ⟨without, above⟩ := none_of_fails aps few wide percent fails
      rw [searchCorrect_iff_of_fails valid found without]
      constructor
      · intro miss
        exact .inr (.inr ⟨miss, above⟩)
      · rintro (qualifying | few | ⟨miss, -⟩)
        · exact absurd qualifying without
        · exact absurd few none
        · exact miss

def revisitCalls : List Call :=
  [.openSession bareOpen, .newRequest 0 sizeofSkyRctx [] 1600000000,
    .onCtx 0 (.addBeacon (apCall 1 (-50)) 1600000000),
    .onCtx 0 (.decodeResponse ⟨7, 6, some ⟨0, 0, .success⟩, none, none⟩ SkyLocation.zero 1600000001
      1600000001),
    .newRequest 0 sizeofSkyRctx [] 1600000010,
    .onCtx 0 (.addBeacon (apCall 1 (-50)) 1600000010)]

def revisitWorld : World := (World.start 1).run bareEnv revisitCalls

theorem revisitCalls_searchCorrect :
    ∃ r, revisitWorld.ctx 0 = some r ∧ SearchCorrect bareEnv.distance revisitWorld.sctx r
      (skySearchCache16 bareEnv.distance revisitWorld.sctx r SkyLocation.zero) := by
  have facts : (revisitWorld.ctx 0).map (fun r =>
      ((validateRequestCtx r).1,
        decide (int16 r.getFrom = r.getFrom ∧ int16 r.saveTo = r.saveTo), r.numAp,
        decide (TIMESTAMP_2019_03_01 ≤ (r.header.time.toNat : ℤ)),
        decide (∃ cl ∈ revisitWorld.sctx.lines,
          cl.Qualifies bareEnv.distance revisitWorld.sctx (validateRequestCtx r).2))) =
      some (true, true, 1, true, true) := by decide +kernel
  obtain ⟨r, member, eq⟩ := Option.map_eq_some_iff.1 facts
  simp only [Prod.mk.injEq, decide_eq_true_eq] at eq
  obtain ⟨valid, fields, aps, recent, qualifies⟩ := eq
  refine ⟨r, member, (searchCorrect_iff valid (by decide +kernel)
    (SkyRctx.int16Indexes_eq_iff.2 fields) (by decide +kernel) (by omega) recent
    (by decide +kernel) (by decide +kernel)).2 (.inl qualifies)⟩

def staleHitCalls : List Call :=
  revisitCalls ++
    [.onCtx 0 (.searchCache SkyLocation.zero), .onCtx 0 (.addBeacon (apCall 9 (-60)) 1600000010)]

def staleHitWorld : World := (World.start 1).run bareEnv staleHitCalls

/-- The line now has one AP of two and does not qualify; the search reports it still. -/
theorem staleHitCalls_not_searchCorrect :
    ∃ r, staleHitWorld.ctx 0 = some r ∧
      (validateRequestCtx r).1 = true ∧ r.numAp ≠ 0 ∧
      TIMESTAMP_2019_03_01 ≤ (r.header.time.toNat : ℤ) ∧
      staleHitWorld.sctx.config.cacheMatchAllThreshold.toNat ≤ 100 ∧
      ¬ SearchCorrect bareEnv.distance staleHitWorld.sctx r
        (skySearchCache16 bareEnv.distance staleHitWorld.sctx r SkyLocation.zero) := by
  have facts : (staleHitWorld.ctx 0).map (fun r =>
      ((validateRequestCtx r).1, r.numAp, decide (TIMESTAMP_2019_03_01 ≤ (r.header.time.toNat : ℤ)),
        (skySearchCache16 bareEnv.distance staleHitWorld.sctx r SkyLocation.zero).cacheHit,
        decide (∃ cl ∈ staleHitWorld.sctx.lines,
          cl.Qualifies bareEnv.distance staleHitWorld.sctx (validateRequestCtx r).2))) =
      some (true, 2, true, some true, false) := by decide +kernel
  obtain ⟨r, member, eq⟩ := Option.map_eq_some_iff.1 facts
  simp only [Prod.mk.injEq, decide_eq_true_eq, decide_eq_false_iff_not] at eq
  obtain ⟨valid, aps, recent, reported, without⟩ := eq
  refine ⟨r, member, valid, by omega, recent, by decide +kernel, ?_⟩
  intro correct
  exact without (correct.hit.1 reported)

end EmbeddedClient
