import EmbeddedClient.Beacons.Priorities
import EmbeddedClient.Beacons.VirtualAps

/-!
# Connected APs and eviction

The priority of a connected AP is above that of all others, but two of the three rules of
`remove_worst` do not look at it: the oldest AP goes whatever it is, and so does an AP below the
threshold that the loop of `set_priorities` visits last.
-/

namespace EmbeddedClient

open Binary32 RunningWorst

variable {s : SkySctx} {r r' : SkyRctx}

/-- The first slots of the context are accepted APs. -/
structure SkyRctx.ApList (r : SkyRctx) : Prop where
  order : r.numAp ≤ r.numBeacons
  full : r.live.length = r.numBeacons
  isApType : ∀ i < r.numAp, (r.slot (i : ℕ)).isApType = true
  accepted : ∀ i < r.numAp, (r.slot (i : ℕ)).Accepted

theorem Beacon.Accepted.rssi_mem {b : Beacon} (accepted : b.Accepted) (ap : b.isApType = true) :
    -127 ≤ b.rssi ∧ b.rssi ≤ -10 := by
  have clamped := accepted.rssi_clampRssi ((isApType_iff b).1 ap)
  unfold Beacon.rssi effectiveRssi
  split_ifs with unknown
  · decide
  · unfold Beacon.clampRssi at clamped
    split_ifs at clamped with outside
    · exact absurd clamped.symm unknown
    · omega

namespace SkyRctx.ApList

theorem rssi (aps : r.ApList) {i : ℕ} (inside : i < r.numAp) :
    (-127 : ℚ) ≤ (r.slot (i : ℕ)).rssi ∧ ((r.slot (i : ℕ)).rssi : ℚ) ≤ -10 := by
  have range := (aps.accepted i inside).rssi_mem (aps.isApType i inside)
  exact ⟨by exact_mod_cast range.1, by exact_mod_cast range.2⟩

theorem getElem?_aps (aps : r.ApList) {i : ℕ} (inside : i < r.numAp) :
    r.aps[i]? = some (r.slot (i : ℕ)) := by
  have order := aps.order
  have full := aps.full
  rw [SkyRctx.live, List.length_take] at full
  have present : i < r.beacon.length := by omega
  simp [SkyRctx.aps, SkyRctx.slot, inside, present]

theorem length_aps (aps : r.ApList) : r.aps.length = r.numAp := by
  have order := aps.order
  have full := aps.full
  rw [SkyRctx.live, List.length_take] at full
  rw [SkyRctx.aps, List.length_take]
  omega

theorem forall_aps (aps : r.ApList) (p : Beacon → Prop) :
    (∀ b ∈ r.aps, p b) ↔ ∀ i < r.numAp, p (r.slot (i : ℕ)) := by
  constructor
  · intro all i inside
    exact all _ (List.mem_of_getElem? (aps.getElem?_aps inside))
  · intro all b member
    obtain ⟨i, entry⟩ := List.mem_iff_getElem?.1 member
    have inside : i < r.numAp := by
      rw [← aps.length_aps]
      exact (List.getElem?_eq_some_iff.1 entry).1
    rw [aps.getElem?_aps inside, Option.some_inj] at entry
    exact entry ▸ all i inside

end SkyRctx.ApList

namespace ApPlugin

theorem abs_round_sub_lt {x : ℚ} (small : |x| ≤ 128) : |Binary32.round x - x| ≤ 1 / 100000 := by
  have error := abs_round_sub_le x
  have scaled : |x| / 2 ^ 24 ≤ 128 / 2 ^ 24 := by gcongr
  linarith

/-- The deviation that the code computes is close to the exact one, and that one is within the
range of the signal strengths. -/
theorem deviation_le {high low rssi n : ℚ} {i : ℕ} (highRange : -127 ≤ high ∧ high ≤ -10)
    (lowRange : -127 ≤ low ∧ low ≤ -10) (rssiRange : -127 ≤ rssi ∧ rssi ≤ -10) (many : 1 ≤ n)
    (inside : i ≤ n) :
    |Binary32.round
      (rssi - Binary32.round (high - Binary32.round (Binary32.round ((high - low) / n) * i)))| ≤
      128 := by
  have natural : (0 : ℚ) ≤ i := Nat.cast_nonneg i
  have part : (i : ℚ) / n ≤ 1 := (div_le_one (by linarith)).2 inside
  have partNonneg : 0 ≤ (i : ℚ) / n := by positivity
  -- the exact ideal lies between the two ends
  have ideal : -127 ≤ high - (high - low) * (i / n) ∧ high - (high - low) * (i / n) ≤ -10 := by
    constructor <;> nlinarith
  have step : (high - low) / n * i = (high - low) * (i / n) := by ring
  have width : |(high - low) / n * i| ≤ 117 := by
    rw [step, abs_le]
    constructor <;> nlinarith
  have band : |Binary32.round ((high - low) / n) * i - (high - low) / n * i| ≤ 1 / 100000 := by
    rw [← sub_mul, abs_mul, abs_of_nonneg natural]
    have error := mul_le_mul_of_nonneg_right (abs_round_sub_le ((high - low) / n)) natural
    rw [abs_mul, abs_of_nonneg natural] at width
    calc |Binary32.round ((high - low) / n) - (high - low) / n| * i
        ≤ |(high - low) / n| / 2 ^ 24 * i := error
      _ = |(high - low) / n| * i / 2 ^ 24 := by ring
      _ ≤ 117 / 2 ^ 24 := by gcongr
      _ ≤ 1 / 100000 := by norm_num
  rw [abs_le] at width band
  have product := abs_round_sub_lt (x := Binary32.round ((high - low) / n) * i) (by
    rw [abs_le]
    constructor <;> linarith)
  rw [abs_le] at product
  have difference :=
    abs_round_sub_lt (x := high - Binary32.round (Binary32.round ((high - low) / n) * i)) (by
    rw [abs_le]
    constructor <;> linarith)
  rw [abs_le] at difference
  have last := abs_round_sub_lt
    (x := rssi - Binary32.round (high - Binary32.round (Binary32.round ((high - low) / n) * i))) (by
      rw [abs_le]
      constructor <;> linarith)
  rw [abs_le] at last ⊢
  constructor <;> linarith

theorem sum_lt_iff {d : ℚ} (nonneg : 0 ≤ d) (le : d ≤ 128) (connected : Bool) :
    (Binary32.round ((if connected then 0x200 else 0) + Binary32.round (128 - d)) < 512 ↔
        connected = false) ∧
      Binary32.round ((if connected then 0x200 else 0) + Binary32.round (128 - d)) < 0xffff := by
  have upper : Binary32.round (128 - d) ≤ (128 : ℕ) :=
    round_le_natCast (by norm_num) (by push_cast; linarith)
  have lower : ((0 : ℕ) : ℚ) ≤ Binary32.round (128 - d) :=
    natCast_le_round (by norm_num) (by push_cast; linarith)
  push_cast at upper lower
  cases connected with
  | false =>
    have small : Binary32.round (0 + Binary32.round (128 - d)) ≤ (128 : ℕ) :=
      round_le_natCast (by norm_num) (by push_cast; linarith)
    push_cast at small
    simp only [Bool.false_eq_true, if_false]
    constructor
    · refine iff_of_true ?_ trivial
      linarith
    · linarith
  | true =>
    have large : ((512 : ℕ) : ℚ) ≤ Binary32.round (0x200 + Binary32.round (128 - d)) :=
      natCast_le_round (by norm_num) (by push_cast; linarith)
    have bounded : Binary32.round (0x200 + Binary32.round (128 - d)) ≤ (640 : ℕ) :=
      round_le_natCast (by norm_num) (by push_cast; linarith)
    push_cast at large bounded
    simp only [if_true]
    constructor
    · refine iff_of_false ?_ (by simp)
      linarith
    · linarith

theorem priorityIn_round_lt (aps : r.ApList) (two : 2 ≤ r.numAp) {i : ℕ} (inside : i < r.numAp) :
    (priorityIn Binary32.round r i < 512 ↔ (r.slot (i : ℕ)).h.connected = false) ∧
      priorityIn Binary32.round r i < 0xffff := by
  have count : ((r.numAp - 1 : ℕ) : ℚ) = r.numAp - 1 := Nat.cast_pred (by omega)
  have last : ((r.numAp : ℤ) - 1) = (r.numAp - 1 : ℕ) := by omega
  have many : (1 : ℚ) ≤ (r.numAp - 1 : ℕ) := by exact_mod_cast (by omega : 1 ≤ r.numAp - 1)
  have below : (i : ℚ) ≤ (r.numAp - 1 : ℕ) := by exact_mod_cast (by omega : i ≤ r.numAp - 1)
  have deviation := deviation_le (aps.rssi (show 0 < r.numAp by omega))
    (aps.rssi (show r.numAp - 1 < r.numAp by omega)) (aps.rssi inside) many below
  have sum := sum_lt_iff (abs_nonneg _) deviation (r.slot (i : ℕ)).h.connected
  unfold priorityIn
  rw [last, ← count]
  exact sum

/-- With two similar APs that are not connected `remove_virtual_ap` removes an AP that is not
connected, and otherwise nothing. -/
theorem removeVirtualAp_free (aps : r.ApList) (many : s.config.maxApBeacons.toNat < r.numAp) :
    ((∃ j < r.numAp, ∃ i < j, VapPair r i j) ∧ ∃ c < r.numAp, (r.slot (c : ℕ)).h.connected = false ∧
        removeVirtualAp s r = (true, (removeBeacon r c).2)) ∨
      (¬ (∃ j < r.numAp, ∃ i < j, VapPair r i j) ∧ removeVirtualAp s r = (false, r)) := by
  have start : ApPlugin.Kept r (fun _ => False) none := fun _ => id
  have kept := start.outer (r.numAp - 1)
  have ap : (r.slot 0).isApType = true := aps.isApType 0 (by omega)
  unfold removeVirtualAp
  rw [if_neg (by omega), if_neg (by simp [ap])]
  cases found : virtualApOuter r (r.numAp - 1) none with
  | none =>
    rw [found] at kept
    refine .inr ⟨?_, rfl⟩
    rintro ⟨j, rangeJ, i, below, pair⟩
    exact kept _ (.inr ⟨j, by omega, i, below, pair, rfl⟩)
  | some c =>
    rw [found] at kept
    rcases kept.1 with impossible | ⟨j, le, i, below, pair, chosen⟩
    · exact impossible.elim
    · have place : c = i ∨ c = j := by
        rw [chosen]
        unfold vapCandidate
        dsimp only
        split_ifs
        · exact .inr rfl
        · exact .inl rfl
      have rangeC : c < r.numAp := by omega
      have free : (r.slot (c : ℕ)).h.connected = false := by
        rcases place with rfl | rfl
        · exact pair.left
        · exact pair.right
      refine .inl ⟨⟨j, by omega, i, below, pair⟩, c, rangeC, free, ?_⟩
      simp [removeBeacon_fst (rangeC.trans_le aps.order)]

theorem le_oldestAp_youngest (youngest oldest : UInt32) (idx : Option ℕ) (i : ℕ) (bs : List Beacon)
    (x : UInt32) :
    x ≤ (oldestAp youngest oldest idx i bs).1 ↔ x ≤ youngest ∧ ∀ b ∈ bs, x ≤ b.h.age := by
  induction bs generalizing youngest oldest idx i with
  | nil => simp [oldestAp]
  | cons b bs ih =>
    have smaller : x ≤ (if b.h.age < youngest then b.h.age else youngest) ↔
      x ≤ youngest ∧ x ≤ b.h.age := by
      simp only [UInt32.le_iff_toNat_le, UInt32.lt_iff_toNat_lt]
      split_ifs <;> omega
    unfold oldestAp
    dsimp only
    generalize (if b.h.age < youngest then b.h.age else youngest) = youngest' at smaller ⊢
    have rest (oldest : UInt32) (idx : Option ℕ) :
        x ≤ (oldestAp youngest' oldest idx (i + 1) bs).1 ↔
          x ≤ youngest ∧ ∀ c ∈ b :: bs, x ≤ c.h.age := by
      rw [ih, smaller, List.forall_mem_cons, and_assoc]
    split_ifs
    · exact rest _ _
    · exact rest _ _

theorem oldestAp_idx (youngest oldest : UInt32) (idx : Option ℕ) (i : ℕ) (bs : List Beacon) :
    ((oldestAp youngest oldest idx i bs).2 = (oldest, idx) ∧ ∀ b ∈ bs, b.h.age ≤ oldest) ∨
      ∃ before b after, bs = before ++ b :: after ∧
        (oldestAp youngest oldest idx i bs).2 = (b.h.age, some (i + before.length)) ∧
        oldest < b.h.age ∧ (∀ c ∈ before, c.h.age < b.h.age) ∧ ∀ c ∈ after, c.h.age ≤ b.h.age := by
  induction bs generalizing youngest oldest idx i with
  | nil => exact .inl ⟨rfl, by simp⟩
  | cons b bs ih =>
    unfold oldestAp
    dsimp only
    generalize (if b.h.age < youngest then b.h.age else youngest) = youngest'
    split_ifs with older
    · rcases ih youngest' b.h.age (some i) (i + 1) with
        ⟨held, le⟩ | ⟨before, c, after, split, held, lt, first, le⟩
      · exact .inr ⟨[], b, bs, rfl, held, older, by simp, le⟩
      · refine .inr ⟨b :: before, c, after, by rw [split]; rfl, ?_,
          UInt32.lt_trans older lt, ?_, le⟩
        · rw [held, List.length_cons, Nat.add_right_comm, Nat.add_assoc]
        · rw [List.forall_mem_cons]
          exact ⟨lt, first⟩
    · have le' : b.h.age ≤ oldest := UInt32.not_lt.1 older
      rcases ih youngest' oldest idx (i + 1) with
        ⟨held, le⟩ | ⟨before, c, after, split, held, lt, first, le⟩
      · exact .inl ⟨held, List.forall_mem_cons.2 ⟨le', le⟩⟩
      · refine .inr ⟨b :: before, c, after, by rw [split]; rfl, ?_, lt, ?_, le⟩
        · rw [held, List.length_cons, Nat.add_right_comm, Nat.add_assoc]
        · rw [List.forall_mem_cons]
          exact ⟨UInt32.lt_of_le_of_lt le' lt, first⟩

def AgesAgree (r : SkyRctx) : Prop :=
  ∀ i < r.numAp, ∀ j < r.numAp, (r.slot (i : ℕ)).h.age = (r.slot (j : ℕ)).h.age

structure IsOldest (r : SkyRctx) (w : ℕ) : Prop where
  inside : w < r.numAp
  greatest : ∀ i < r.numAp, (r.slot (i : ℕ)).h.age ≤ (r.slot (w : ℕ)).h.age
  first : ∀ i < w, (r.slot (i : ℕ)).h.age < (r.slot (w : ℕ)).h.age

theorem isOldest_of_split (aps : r.ApList) {before after : List Beacon}
    (split : r.aps = before ++ b :: after) (first : ∀ c ∈ before, c.h.age < b.h.age)
    (le : ∀ c ∈ after, c.h.age ≤ b.h.age) :
    IsOldest r before.length ∧ r.slot (before.length : ℕ) = b := by
  have inside : before.length < r.numAp := by
    rw [← aps.length_aps, split]
    simp
  have slotB : r.slot (before.length : ℕ) = b := by
    have entry := aps.getElem?_aps inside
    rw [split, List.getElem?_append_right le_rfl, Nat.sub_self, List.getElem?_cons_zero] at entry
    exact (Option.some_inj.1 entry).symm
  have greatest : ∀ c ∈ r.aps, c.h.age ≤ b.h.age := by
    intro c member
    rw [split, List.mem_append, List.mem_cons] at member
    rcases member with early | rfl | late
    · exact UInt32.le_of_lt (first c early)
    · exact UInt32.le_refl _
    · exact le c late
  refine ⟨⟨inside, ?_, ?_⟩, slotB⟩
  · rw [slotB]
    exact (aps.forall_aps (fun c => c.h.age ≤ b.h.age)).1 greatest
  · intro i below
    have entry := aps.getElem?_aps (below.trans inside)
    rw [split, List.getElem?_append_left below] at entry
    rw [slotB]
    exact first _ (List.mem_of_getElem? entry)

theorem oldestAp_youngest_eq_iff (aps : r.ApList) {w : ℕ} (oldest : IsOldest r w) :
    (oldestAp 0xFFFFFFFF 0 none 0 r.aps).1 = (r.slot (w : ℕ)).h.age ↔ AgesAgree r := by
  have youngest := le_oldestAp_youngest 0xFFFFFFFF 0 none 0 r.aps
  have least := ((youngest _).1 (UInt32.le_refl _)).2
  constructor
  · intro same
    rw [same] at least
    have all := (aps.forall_aps (fun c => (r.slot (w : ℕ)).h.age ≤ c.h.age)).1 least
    intro i insideI j insideJ
    rw [UInt32.le_antisymm (oldest.greatest i insideI) (all i insideI),
      UInt32.le_antisymm (oldest.greatest j insideJ) (all j insideJ)]
  · intro agree
    have all : ∀ c ∈ r.aps, (r.slot (w : ℕ)).h.age ≤ c.h.age := by
      apply (aps.forall_aps (fun c => (r.slot (w : ℕ)).h.age ≤ c.h.age)).2
      intro i insideI
      rw [agree _ oldest.inside i insideI]
      exact UInt32.le_refl _
    have top : (r.slot (w : ℕ)).h.age ≤ 0xFFFFFFFF := by
      have small := (r.slot (w : ℕ)).h.age.toNat_lt
      rw [UInt32.le_iff_toNat_le]
      show _ ≤ 4294967295
      omega
    have upper := (aps.forall_aps _).1 least w oldest.inside
    exact UInt32.le_antisymm upper ((youngest _).2 ⟨top, all⟩)

/-- `remove_oldest_ap` removes the oldest AP unless all are of one age. -/
theorem removeOldestAp_eq (aps : r.ApList) :
    (AgesAgree r ∧ removeOldestAp r = (false, r)) ∨
      ∃ w, ¬ AgesAgree r ∧ IsOldest r w ∧ removeOldestAp r = (true, (removeBeacon r w).2) := by
  unfold removeOldestAp
  dsimp only
  rcases oldestAp_idx 0xFFFFFFFF 0 none 0 r.aps with
    ⟨held, le⟩ | ⟨before, b, after, split, held, lt, first, le⟩
  · rw [held]
    refine .inl ⟨?_, rfl⟩
    have zero := (aps.forall_aps (fun b => b.h.age ≤ 0)).1 le
    intro i insideI j insideJ
    rw [UInt32.le_zero_iff.1 (zero i insideI), UInt32.le_zero_iff.1 (zero j insideJ)]
  · obtain ⟨oldest, slotB⟩ := isOldest_of_split aps split first le
    have spread := oldestAp_youngest_eq_iff aps oldest
    rw [slotB] at spread
    rw [held]
    dsimp only
    rw [Nat.zero_add]
    by_cases agree : AgesAgree r
    · refine .inl ⟨agree, if_neg ?_⟩
      rw [not_not]
      exact spread.2 agree
    · refine .inr ⟨_, agree, oldest, if_pos ?_⟩
      exact fun same => agree (spread.1 same)

/-- From the AP below the threshold that is visited last on, an AP is visited that is not
connected. -/
def FreeAtEnd (s : SkySctx) (r : SkyRctx) : Prop :=
  ∃ before k after, visits 0 r.numAp = before ++ k :: after ∧
    belowRssiThreshold s (r.slot (k : ℕ)) = true ∧
    (∀ a ∈ after, belowRssiThreshold s (r.slot (a : ℕ)) = false) ∧
    ∃ a ∈ k :: after, (r.slot (a : ℕ)).h.connected = false

/-- What `set_priorities` returns is not connected, unless it looks for weak APs and ends among
connected ones. -/
theorem setPriorities_free_iff (aps : r.ApList) (two : 2 ≤ r.numAp)
    (free : ∃ i < r.numAp, (r.slot (i : ℕ)).h.connected = false) :
    (r.slot ((setPriorities s r).2 : ℕ)).h.connected = false ↔
      (weakOnly s r = true → FreeAtEnd s r) := by
  have priorities {i : ℕ} (member : i ∈ visits 0 r.numAp) :=
    priorityIn_round_lt aps two (show i < r.numAp from by have := (mem_visits.1 member).2; omega)
  have nonempty : visits 0 r.numAp ≠ [] :=
    List.ne_nil_of_mem (mem_visits.2 (show 0 ≤ 0 ∧ 0 < 0 + r.numAp by omega))
  rcases @scan_mem _ _ _ _ _ (criteria Binary32.round s r (weakOnly s r)) ⟨r.numAp / 2, 0xffff⟩ _
    (fun i member => (priorities member).2) nonempty with ⟨m, member, held⟩
  rw [← setPrioritiesIn_round, setPrioritiesIn_snd _ s two, held, ← (priorities member).1]
  have result : priorityIn Binary32.round r m = (scan (criteria Binary32.round s r (weakOnly s r))
      ⟨r.numAp / 2, 0xffff⟩ (visits 0 r.numAp)).priority := by rw [held]; rfl
  rw [result]
  cases only : weakOnly s r with
  | false =>
    refine iff_of_true ?_ fun impossible => by contradiction
    obtain ⟨i, inside, freeI⟩ := free
    have visited : i ∈ visits 0 r.numAp := mem_visits.2 (by omega)
    exact (scan_lt_iff (fun _ _ => rfl) 512).2 (.inr ⟨i, visited, (priorities visited).1.2 freeI⟩)
  | true =>
    have ends {before after : List ℕ} {k : ℕ} (split : visits 0 r.numAp = before ++ k :: after)
        (weak : belowRssiThreshold s (r.slot (k : ℕ)) = true)
        (strong : ∀ a ∈ after, belowRssiThreshold s (r.slot (a : ℕ)) = false) :
        (scan (criteria Binary32.round s r true) ⟨r.numAp / 2, 0xffff⟩
          (visits 0 r.numAp)).priority < 512 ↔
          ∃ a ∈ k :: after, (r.slot (a : ℕ)).h.connected = false := by
      have inside (a : ℕ) (member : a ∈ k :: after) : a ∈ visits 0 r.numAp := by
        rw [split]
        exact List.mem_append_right _ member
      rw [split, scan_append, scan_cons,
        scan_lt_iff (fun a member => by simp [criteria, strong a member]),
        (visit_weak (by simp [criteria, weak])).1, List.exists_mem_cons_iff]
      apply or_congr (priorities (inside k (.head _))).1
      exact exists_congr fun a => and_congr_right fun member =>
        (priorities (inside a (.tail _ member))).1
    constructor
    · intro low _
      have last : ((r.numAp : ℤ) - 1) = (r.numAp - 1 : ℕ) := by omega
      have some : ∃ a ∈ visits 0 r.numAp, belowRssiThreshold s (r.slot (a : ℕ)) = true := by
        refine ⟨r.numAp - 1, mem_visits.2 (by omega), ?_⟩
        rwa [← last]
      obtain ⟨before, k, after, split, weak, strong⟩ := exists_last some
      exact ⟨before, k, after, split, weak, strong, (ends split weak strong).1 low⟩
    · intro condition
      obtain ⟨before, k, after, split, weak, strong, freeAtEnd⟩ := condition rfl
      exact (ends split weak strong).2 freeAtEnd

end ApPlugin

namespace SameUnranked

open ApPlugin

theorem age (same : SameUnranked r r') (i : ℤ) : (r'.slot i).h.age = (r.slot i).h.age := by
  show (r'.slot i).unranked.h.age = (r.slot i).unranked.h.age
  rw [same.slot]

theorem vapPair_iff (same : SameUnranked r r') (i j : ℕ) : VapPair r' i j ↔ VapPair r i j := by
  have similar :
      (r'.slot (i : ℕ)).similar (r'.slot (j : ℕ)) = (r.slot (i : ℕ)).similar (r.slot (j : ℕ)) := by
    show (r'.slot (i : ℕ)).unranked.similar (r'.slot (j : ℕ)).unranked =
      (r.slot (i : ℕ)).unranked.similar (r.slot (j : ℕ)).unranked
    rw [same.slot, same.slot]
  constructor
  · rintro ⟨left, right, isSimilar⟩
    exact ⟨by rw [← same.connected, left], by rw [← same.connected, right],
      by rw [← similar, isSimilar]⟩
  · rintro ⟨left, right, isSimilar⟩
    exact ⟨by rw [same.connected, left], by rw [same.connected, right], by rw [similar, isSimilar]⟩

theorem agesAgree_iff (same : SameUnranked r r') : AgesAgree r' ↔ AgesAgree r := by
  unfold AgesAgree
  simp only [same.age, same.numAp]

theorem isOldest_iff (same : SameUnranked r r') (w : ℕ) : IsOldest r' w ↔ IsOldest r w := by
  constructor
  · rintro ⟨inside, greatest, first⟩
    simp only [same.age, same.numAp] at inside greatest first
    exact ⟨inside, greatest, first⟩
  · rintro ⟨inside, greatest, first⟩
    constructor <;> simpa only [same.age, same.numAp]

theorem apList (same : SameUnranked r r') (aps : r.ApList) : r'.ApList := by
  have numBeacons : r'.numBeacons = r.numBeacons := by rw [same.rest]
  have length : r'.beacon.length = r.beacon.length := by
    simpa using congrArg List.length same.beacon
  constructor
  · rw [same.numAp, numBeacons]
    exact aps.order
  · have full := aps.full
    rw [SkyRctx.live, List.length_take] at full ⊢
    rwa [numBeacons, length]
  · intro i inside
    rw [← Beacon.unranked_isApType, same.slot, Beacon.unranked_isApType]
    exact aps.isApType i (by rwa [← same.numAp])
  · intro i inside
    have scans : (r.slot (i : ℕ)).scan = (r'.slot (i : ℕ)).scan :=
      Beacon.scan_of_unranked (same.slot i).symm
    exact (aps.accepted i (by rwa [← same.numAp])).congr scans

end SameUnranked

namespace ApPlugin

/-- `remove_worst` removes an AP that is not connected. -/
def RemovesFree (s : SkySctx) (r : SkyRctx) : Prop :=
  ∃ c < r.numAp, (r.slot (c : ℕ)).h.connected = false ∧ (removeWorst s r).1 = .success ∧
    (removeWorst s r).2.live.map Beacon.unranked = (r.live.map Beacon.unranked).eraseIdx c

/-- No rule reaches a connected AP: there are similar APs that are not connected, or the oldest AP
is not connected, or all APs have the same age and the scan for weak APs does not end among
connected ones. -/
def SparesConnected (s : SkySctx) (r : SkyRctx) : Prop :=
  (∃ j < r.numAp, ∃ i < j, VapPair r i j) ∨
    (¬ AgesAgree r ∧ ∀ w, IsOldest r w → (r.slot (w : ℕ)).h.connected = false) ∨
    (AgesAgree r ∧ (weakOnly s r = true → FreeAtEnd s r))

theorem sameUnranked_setPriorities (s : SkySctx) (r : SkyRctx) :
    SameUnranked r (setPriorities s r).1 := by
  obtain ⟨bs, eq, same, -⟩ := setPriorities_unranked s r
  rw [eq]
  exact ⟨rfl, same⟩

/-- Which AP `remove_worst` removes. -/
theorem removeWorst_rule (aps : r.ApList) (many : s.config.maxApBeacons.toNat < r.numAp) :
    ∃ c < r.numAp, removeWorst s r = (.success, (removeBeacon (setPriorities s r).1 c).2) ∧
      (((∃ j < r.numAp, ∃ i < j, VapPair r i j) ∧ (r.slot (c : ℕ)).h.connected = false) ∨
        (¬ (∃ j < r.numAp, ∃ i < j, VapPair r i j) ∧ ¬ AgesAgree r ∧ IsOldest r c) ∨
        (¬ (∃ j < r.numAp, ∃ i < j, VapPair r i j) ∧ AgesAgree r ∧ c = (setPriorities s r).2)) := by
  have same := sameUnranked_setPriorities s r
  have ranked := same.apList aps
  have numAp := same.numAp
  have virtual := @removeVirtualAp_free s _ ranked (by rwa [numAp])
  simp only [numAp, same.vapPair_iff, same.connected] at virtual
  have oldest := removeOldestAp_eq ranked
  simp only [same.agesAgree_iff, same.isOldest_iff] at oldest
  unfold removeWorst
  dsimp only
  rw [if_neg (by rw [numAp]; omega)]
  rcases virtual with ⟨pair, c, inside, free, removed⟩ | ⟨noPair, kept⟩
  · exact ⟨c, inside, by rw [removed, if_pos rfl], .inl ⟨pair, free⟩⟩
  · rw [kept, if_neg (by simp)]
    rcases oldest with ⟨agree, kept⟩ | ⟨w, differ, isOldest, removed⟩
    · have worst := setPriorities_idx_lt s r (by omega)
      have order := ranked.order
      rw [numAp] at order
      refine ⟨_, worst, ?_, .inr (.inr ⟨noPair, agree, rfl⟩)⟩
      rw [kept, if_neg (by simp)]
      exact Prod.ext (removeBeacon_fst (worst.trans_le order)) rfl
    · exact ⟨w, isOldest.inside, by rw [removed, if_pos rfl],
        .inr (.inl ⟨noPair, differ, isOldest⟩)⟩

theorem getElem_eq_of_eraseIdx {α : Type*} {l : List α} {c d : ℕ} (insideC : c < l.length)
    (insideD : d < l.length) (same : l.eraseIdx c = l.eraseIdx d) : l[c] = l[d] := by
  have permC := List.getElem_cons_eraseIdx_perm insideC
  have permD := List.getElem_cons_eraseIdx_perm insideD
  rw [same] at permC
  have cons : (l[c] ::ₘ (l.eraseIdx d : Multiset α)) = l[d] ::ₘ (l.eraseIdx d : Multiset α) :=
    Multiset.coe_eq_coe.2 (permC.trans permD.symm)
  exact (Multiset.cons_inj_left _).1 cons

theorem removesFree_iff_slot (aps : r.ApList) {c : ℕ} (inside : c < r.numAp)
    (removed : removeWorst s r = (.success, (removeBeacon (setPriorities s r).1 c).2)) :
    RemovesFree s r ↔ (r.slot (c : ℕ)).h.connected = false := by
  have same := sameUnranked_setPriorities s r
  have numBeacons : (setPriorities s r).1.numBeacons = r.numBeacons := by rw [same.rest]
  have live : (setPriorities s r).1.live.map Beacon.unranked = r.live.map Beacon.unranked := by
    rw [SkyRctx.live, SkyRctx.live, List.map_take, List.map_take, same.beacon, numBeacons]
  have order := aps.order
  have full := aps.full
  have left :
      (removeWorst s r).2.live.map Beacon.unranked = (r.live.map Beacon.unranked).eraseIdx c := by
    rw [removed, (removeBeacon_live (by omega)).1, ← List.eraseIdx_map, live]
  have range {i : ℕ} (insideI : i < r.numAp) : i < (r.live.map Beacon.unranked).length := by
    rw [List.length_map]
    omega
  have entry {i : ℕ} (insideI : i < r.numAp) (rangeI : i < (r.live.map Beacon.unranked).length) :
      (r.live.map Beacon.unranked)[i].h.connected = (r.slot (i : ℕ)).h.connected := by
    rw [List.getElem_map, SkyRctx.slot_eq_live (by omega)]
    rfl
  constructor
  · rintro ⟨d, insideD, freeD, -, leftD⟩
    rw [← entry inside (range inside),
      getElem_eq_of_eraseIdx (range inside) (range insideD) (left.symm.trans leftD), entry insideD]
    exact freeD
  · intro freeC
    exact ⟨c, inside, freeC, by rw [removed], left⟩

theorem IsOldest.unique {c w : ℕ} (isOldest : IsOldest r c) (other : IsOldest r w) : w = c := by
  rcases Nat.lt_trichotomy w c with less | equal | more
  · exact absurd (isOldest.first w less) (UInt32.not_lt.2 (other.greatest c isOldest.inside))
  · exact equal
  · exact absurd (other.first c more) (UInt32.not_lt.2 (isOldest.greatest w other.inside))

/-- The AP that is removed is not connected exactly if no rule reaches a connected one. -/
theorem removesFree_iff (aps : r.ApList) (many : s.config.maxApBeacons.toNat < r.numAp)
    (free : ∃ i < r.numAp, (r.slot (i : ℕ)).h.connected = false)
    (connected : ∃ i < r.numAp, (r.slot (i : ℕ)).h.connected = true) :
    RemovesFree s r ↔ SparesConnected s r := by
  have two : 2 ≤ r.numAp := by
    obtain ⟨i, insideI, freeI⟩ := free
    obtain ⟨j, insideJ, connectedJ⟩ := connected
    have differ : i ≠ j := by
      intro same
      rw [same, connectedJ] at freeI
      contradiction
    omega
  obtain ⟨c, inside, removed, rule⟩ := removeWorst_rule aps many
  rw [removesFree_iff_slot aps inside removed]
  unfold SparesConnected
  rcases rule with ⟨pair, freeC⟩ | ⟨noPair, differ, isOldest⟩ | ⟨noPair, agree, place⟩
  · exact iff_of_true freeC (.inl pair)
  · constructor
    · intro freeC
      refine .inr (.inl ⟨differ, ?_⟩)
      intro w other
      rw [isOldest.unique other]
      exact freeC
    · rintro (pair | ⟨-, all⟩ | ⟨agree, -⟩)
      · exact absurd pair noPair
      · exact all c isOldest
      · exact absurd agree differ
  · rw [place, setPriorities_free_iff aps two free]
    constructor
    · intro condition
      exact .inr (.inr ⟨agree, condition⟩)
    · rintro (pair | ⟨differ, -⟩ | ⟨-, condition⟩)
      · exact absurd pair noPair
      · exact absurd agree differ
      · exact condition

instance (r : SkyRctx) : Decidable r.ApList :=
  decidable_of_iff (r.numAp ≤ r.numBeacons ∧ r.live.length = r.numBeacons ∧
      (∀ i < r.numAp, (r.slot (i : ℕ)).isApType = true) ∧ ∀ i < r.numAp, (r.slot (i : ℕ)).Accepted)
    ⟨fun h => ⟨h.1, h.2.1, h.2.2.1, h.2.2.2⟩, fun h => ⟨h.order, h.full, h.isApType, h.accepted⟩⟩

instance (r : SkyRctx) : Decidable (AgesAgree r) :=
  inferInstanceAs (Decidable (∀ i < r.numAp, ∀ j < r.numAp, _))

instance (s : SkySctx) (r : SkyRctx) : Decidable (RemovesFree s r) :=
  inferInstanceAs (Decidable (∃ c < r.numAp, _))

def freeAps : SkyRctx := requestOf [apCall 0x00 (-50), apCall 0x11 (-60), apCall 0x22 (-70)]

def withConnected (timestamp : ℤ) (r : SkyRctx) : SkyRctx :=
  (skyAddBeacon openedSession r .none (.ap (apCall 0x33 (-80)).beacon.ap.mac (-80) 2412 true)
    timestamp).rctx

def connectedNow : SkyRctx := withConnected 1600000000 freeAps

/-- Four APs, the connected one scanned ten seconds earlier. -/
def connectedBefore : SkyRctx := withConnected 1599999990 freeAps

theorem connectedNow_removesFree : RemovesFree threeApSession connectedNow := by
  have agree : AgesAgree connectedNow := by decide +kernel
  have strong : weakOnly threeApSession connectedNow = false := by decide +kernel
  apply (removesFree_iff (by decide +kernel) (by decide +kernel) (by decide +kernel)
    (by decide +kernel)).2
  refine .inr (.inr ⟨agree, ?_⟩)
  rw [strong]
  exact fun impossible => absurd impossible Bool.false_ne_true

/-- The connected AP is the oldest one and goes. -/
theorem connectedBefore_not_removesFree :
    connectedBefore.ApList ∧ threeApSession.config.maxApBeacons.toNat < connectedBefore.numAp ∧
      (∃ i < connectedBefore.numAp, (connectedBefore.slot (i : ℕ)).h.connected = false) ∧
      (∃ i < connectedBefore.numAp, (connectedBefore.slot (i : ℕ)).h.connected = true) ∧
      ¬ RemovesFree threeApSession connectedBefore := by
  decide +kernel

end ApPlugin
end EmbeddedClient
