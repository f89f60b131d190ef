import EmbeddedClient.Beacons.Invariant
import EmbeddedClient.Beacons.Macs
import EmbeddedClient.Support.RunningWorst

/-!
# The worst AP of `set_priorities`

The loop of `set_priorities` visits the APs from both ends towards the middle and keeps a running
worst. If the weakest AP is below the threshold, an AP below the threshold replaces the worst one
even if it has the higher priority. The functions are read here for any rounding of their
arithmetic: for single precision as in the code, and for exact rationals.
-/

namespace EmbeddedClient

open Binary32 RunningWorst

variable (rnd : ℚ → ℚ) (s : SkySctx) (r : SkyRctx)

/-- `r'` differs from `r` in priorities only. -/
structure SameUnranked (r r' : SkyRctx) : Prop where
  rest : r' = { r with beacon := r'.beacon }
  beacon : r'.beacon.map Beacon.unranked = r.beacon.map Beacon.unranked

namespace SameUnranked

variable {r r' : SkyRctx}

theorem numAp (same : SameUnranked r r') : r'.numAp = r.numAp := by rw [same.rest]

theorem slot (same : SameUnranked r r') (i : ℤ) : (r'.slot i).unranked = (r.slot i).unranked := by
  have entries :
      (r'.beacon[i.toNat]?).map Beacon.unranked = (r.beacon[i.toNat]?).map Beacon.unranked := by
    rw [← List.getElem?_map, same.beacon, List.getElem?_map]
  unfold SkyRctx.slot
  rw [List.getD_eq_getElem?_getD, List.getD_eq_getElem?_getD]
  split_ifs
  · cases first : r'.beacon[i.toNat]? <;> cases second : r.beacon[i.toNat]? <;>
      simp [first, second] at entries ⊢
    exact entries
  · rfl

theorem rssi (same : SameUnranked r r') (i : ℤ) : (r'.slot i).rssi = (r.slot i).rssi := by
  show (r'.slot i).unranked.rssi = (r.slot i).unranked.rssi
  rw [same.slot]

theorem connected (same : SameUnranked r r') (i : ℤ) :
    (r'.slot i).h.connected = (r.slot i).h.connected := by
  show (r'.slot i).unranked.h.connected = (r.slot i).unranked.h.connected
  rw [same.slot]

theorem macValue (same : SameUnranked r r') (i : ℤ) :
    (r'.slot i).macValue = (r.slot i).macValue := by
  show (r'.slot i).unranked.macValue = (r.slot i).unranked.macValue
  rw [same.slot]

end SameUnranked

namespace ApPlugin

theorem sameUnranked_setPriority {r r' : SkyRctx} (same : SameUnranked r r') (i : ℕ)
    (p : FloatVal) :
    SameUnranked r (setPriority r' i p) := by
  constructor
  · show _ = { r with beacon := _ }
    unfold setPriority
    rw [same.rest]
  · exact (map_unranked_modify (fun b => by rfl) i r'.beacon).trans same.beacon

/-- `get_priority` with the rounding `rnd`. -/
def getPriorityIn (i : ℕ) : FloatVal :=
  let b := r.slot i
  let connected : FloatVal := if b.h.connected then .fin 0x200 else .fin 0
  let highestRssi := (r.slot 0).rssi
  let lowestRssi := (r.slot (r.numAp - 1)).rssi
  let bandWidth := FloatVal.div rnd (.fin (highestRssi - lowestRssi)) (.fin (r.numAp - 1))
  let idealRssi := FloatVal.sub rnd (.fin highestRssi) (FloatVal.mul rnd bandWidth (.fin i))
  let deviation := (FloatVal.sub rnd (.fin b.rssi) idealRssi).abs
  FloatVal.add rnd connected (FloatVal.sub rnd (.fin 128) deviation)

def setPrioritiesLoopIn (weakOnly : Bool) :
    (jump : ℕ) → (j upDown : ℤ) → SkyRctx → (idxOfWorst : ℕ) → FloatVal → SkyRctx × ℕ
  | 0, _, _, r, idxOfWorst, _ => (r, idxOfWorst)
  | jump + 1, j, upDown, r, idxOfWorst, priorityOfWorst =>
    if 0 ≤ j ∧ j < r.numAp then
      let priority := getPriorityIn rnd r j.toNat
      let r := setPriority r j.toNat priority
      let next := setPrioritiesLoopIn weakOnly jump (j + upDown * jump) (-upDown) r
      if ((weakOnly && belowRssiThreshold s (r.slot j)) || priority.le priorityOfWorst) &&
          (!priority.eq priorityOfWorst || compareMac (r.slot j) (r.slot idxOfWorst) < 0) then
        next j.toNat priority
      else next idxOfWorst priorityOfWorst
    else (r, idxOfWorst)

def weakOnly : Bool := belowRssiThreshold s (r.slot ((r.numAp : ℤ) - 1))

def setPrioritiesIn : SkyRctx × ℕ :=
  setPrioritiesLoopIn rnd s (weakOnly s r) r.numAp 0 1 r (r.numAp / 2) (.fin 0xffff)

variable {s r}

theorem setPrioritiesLoopIn_round (weakOnly : Bool) (jump : ℕ) (j upDown : ℤ)
    (r : SkyRctx) (idx : ℕ) (worst : FloatVal) :
    setPrioritiesLoopIn round s weakOnly jump j upDown r idx worst =
      setPrioritiesLoop s weakOnly jump j upDown r idx worst := by
  induction jump generalizing j upDown r idx worst with
  | zero => rfl
  | succ jump ih =>
    unfold setPrioritiesLoopIn setPrioritiesLoop
    simp only [ih]
    rfl

/-- In single precision these are the functions of the plugin. -/
theorem setPrioritiesIn_round : setPrioritiesIn round s r = setPriorities s r :=
  setPrioritiesLoopIn_round ..

variable (s r)

/-- The value of `get_priority` for two APs and more. -/
def priorityIn (i : ℕ) : ℚ :=
  let bandWidth := rnd (((r.slot 0).rssi - (r.slot (r.numAp - 1)).rssi) / (r.numAp - 1))
  let deviation := |rnd ((r.slot i).rssi - rnd ((r.slot 0).rssi - rnd (bandWidth * i)))|
  rnd ((if (r.slot i).h.connected then 0x200 else 0) + rnd (128 - deviation))

variable {r}

theorem getPriorityIn_eq (two : 2 ≤ r.numAp) (i : ℕ) :
    getPriorityIn rnd r i = .fin (priorityIn rnd r i) := by
  have divisor : (r.numAp : ℚ) - 1 ≠ 0 := by
    have : (2 : ℚ) ≤ r.numAp := by exact_mod_cast two
    linarith
  unfold getPriorityIn priorityIn
  simp only [FloatVal.div, if_neg divisor, FloatVal.mul, FloatVal.sub, FloatVal.neg, FloatVal.add,
    FloatVal.abs, ← sub_eq_add_neg]
  cases (r.slot i).h.connected <;> rfl

theorem getPriorityIn_congr {r' : SkyRctx} (same : SameUnranked r r') (i : ℕ) :
    getPriorityIn rnd r' i = getPriorityIn rnd r i := by
  unfold ApPlugin.getPriorityIn
  simp only [same.rssi, same.connected, same.numAp]

/-- The order in which the loop visits `len` APs from index `lo` on: from both ends towards the
middle. -/
def visits : (lo len : ℕ) → List ℕ
  | _, 0 => []
  | lo, 1 => [lo]
  | lo, len + 2 => lo :: (lo + len + 1) :: visits (lo + 1) len

/-- What the loop looks at; nothing is weak unless it looks for weak APs only. -/
def criteria (r : SkyRctx) (weakOnly : Bool) : Criteria ℕ ℚ ℕ where
  priority := priorityIn rnd r
  tie i := (r.slot i).macValue
  weak i := weakOnly && belowRssiThreshold s (r.slot i)

theorem mem_visits {lo len i : ℕ} : i ∈ visits lo len ↔ lo ≤ i ∧ i < lo + len := by
  fun_induction visits lo len with
  | case1 lo => simp
  | case2 lo =>
    rw [List.mem_singleton]
    omega
  | case3 lo len ih =>
    rw [List.mem_cons, List.mem_cons, ih]
    omega

theorem FloatVal.le_fin (p q : ℚ) : FloatVal.le (.fin p) (.fin q) = decide (p ≤ q) := by
  simp only [FloatVal.le, FloatVal.lt, FloatVal.eq, FloatVal.fin.injEq, ← Bool.decide_or,
    le_iff_lt_or_eq]

theorem belowRssiThreshold_congr {b c : Beacon} (same : b.rssi = c.rssi) :
    belowRssiThreshold s b = belowRssiThreshold s c := by
  unfold belowRssiThreshold
  rw [same]

theorem setPrioritiesLoopIn_succ {r' : SkyRctx} (same : SameUnranked r r') (two : 2 ≤ r.numAp)
    (weakOnly : Bool) (jump : ℕ) {j : ℤ} (i : ℕ) (upDown : ℤ) (place : j = i) (inside : i < r.numAp)
    (w : Worst ℕ ℚ) :
    ∃ r'', SameUnranked r r'' ∧
      setPrioritiesLoopIn rnd s weakOnly (jump + 1) j upDown r' w.place (.fin w.priority) =
        setPrioritiesLoopIn rnd s weakOnly jump (j + upDown * jump) (-upDown) r''
          (visit (criteria rnd s r weakOnly) w i).place
            (.fin (visit (criteria rnd s r weakOnly) w i).priority) := by
  subst place
  have priority : getPriorityIn rnd r' i = .fin (priorityIn rnd r i) := by
    rw [getPriorityIn_congr rnd same, getPriorityIn_eq rnd two]
  have written := sameUnranked_setPriority same i (.fin (priorityIn rnd r i))
  refine ⟨_, written, ?_⟩
  have test :
      (((weakOnly &&
        belowRssiThreshold s ((setPriority r' i (.fin (priorityIn rnd r i))).slot i)) ||
        FloatVal.le (.fin (priorityIn rnd r i)) (.fin w.priority)) &&
      (!FloatVal.eq (.fin (priorityIn rnd r i)) (.fin w.priority) ||
        decide (compareMac ((setPriority r' i (.fin (priorityIn rnd r i))).slot i)
          ((setPriority r' i (.fin (priorityIn rnd r i))).slot w.place) < 0))) = true ↔
      Replaces (criteria rnd s r weakOnly) i w := by
    rw [belowRssiThreshold_congr s (written.rssi i), FloatVal.le_fin]
    simp only [compareMac_neg_iff, written.macValue]
    simp [Replaces, criteria, FloatVal.eq]
  conv_lhs => unfold setPrioritiesLoopIn
  rw [if_pos ⟨by omega, by rw [same.numAp]; omega⟩]
  simp only [Int.toNat_natCast, priority]
  unfold visit
  by_cases replaces : Replaces (criteria rnd s r weakOnly) i w
  · rw [if_pos (test.2 replaces), if_pos replaces]
    rfl
  · rw [if_neg (mt test.1 replaces), if_neg replaces]

/-- The loop is a scan of the APs in the order of `visits`. -/
theorem setPrioritiesLoopIn_eq {r' : SkyRctx} (same : SameUnranked r r') (two : 2 ≤ r.numAp)
    (weakOnly : Bool) (lo len : ℕ) (inside : lo + len ≤ r.numAp) (w : Worst ℕ ℚ) :
    (setPrioritiesLoopIn rnd s weakOnly len lo 1 r' w.place (.fin w.priority)).2 =
      (scan (criteria rnd s r weakOnly) w (visits lo len)).place := by
  fun_induction visits lo len generalizing r' w with
  | case1 lo => rfl
  | case2 lo =>
    obtain ⟨r'', -, step⟩ :=
      setPrioritiesLoopIn_succ rnd s same two weakOnly 0 lo 1 rfl (by omega) w
    rw [step]
    rfl
  | case3 lo len ih =>
    obtain ⟨r₁, same₁, step₁⟩ := setPrioritiesLoopIn_succ rnd s same two weakOnly (len + 1) lo 1 rfl
      (by omega) w
    rcases setPrioritiesLoopIn_succ rnd s same₁ two weakOnly len (lo + len + 1) (-1)
      (show (lo : ℤ) + 1 * (len + 1 : ℕ) = (lo + len + 1 : ℕ) by push_cast; ring) (by omega)
      (visit (criteria rnd s r weakOnly) w lo) with ⟨r₂, same₂, step₂⟩
    have back : (lo : ℤ) + 1 * (len + 1 : ℕ) + -1 * (len : ℕ) = (lo + 1 : ℕ) := by push_cast; ring
    rw [step₁, step₂, back, neg_neg]
    exact ih same₂ (by omega) _

theorem setPrioritiesIn_snd (two : 2 ≤ r.numAp) :
    (setPrioritiesIn rnd s r).2 =
      (scan (criteria rnd s r (weakOnly s r)) ⟨r.numAp / 2, 0xffff⟩ (visits 0 r.numAp)).place :=
  setPrioritiesLoopIn_eq rnd s ⟨rfl, rfl⟩ two (weakOnly s r) 0 r.numAp (by omega)
    ⟨r.numAp / 2, 0xffff⟩

variable (r)

/-- The priority of an AP, in exact arithmetic: connected APs first, then the APs in the order of
their deviation from an even distribution of the signal strengths. -/
def exactPriority (i : ℕ) : ℚ :=
  let rssi (i : ℤ) : ℚ := (r.slot i).rssi
  let bandWidth := (rssi 0 - rssi (r.numAp - 1)) / (r.numAp - 1)
  let deviation := |rssi i - (rssi 0 - bandWidth * i)|
  (if (r.slot i).h.connected then 512 else 0) + (128 - deviation)

/-- The AP counts: if the weakest AP is below the threshold, only the APs below it do. -/
def Counts (i : ℕ) : Prop := weakOnly s r = true → belowRssiThreshold s (r.slot i) = true

/-- The AP has the lowest priority of those that count, and among equal priorities the highest
address. -/
structure IsWorst (i : ℕ) : Prop where
  inside : i < r.numAp
  counts : Counts s r i
  lowest : ∀ j < r.numAp, Counts s r j → exactPriority r i ≤ exactPriority r j
  highest : ∀ j < r.numAp, Counts s r j → exactPriority r j = exactPriority r i →
    (r.slot j).macValue ≤ (r.slot i).macValue

/-- The APs are in the order of their signal strengths. -/
def Descending : Prop := ∀ i j, i < j → j < r.numAp → (r.slot (j : ℕ)).rssi ≤ (r.slot (i : ℕ)).rssi

variable {s r}

theorem priorityIn_id (i : ℕ) : priorityIn id r i = exactPriority r i := by
  unfold priorityIn exactPriority
  simp only [id]

theorem exactPriority_lt (i : ℕ) : exactPriority r i < 0xffff := by
  have below (deviation : ℚ) (nonneg : 0 ≤ deviation) (connected : Bool) :
      (if connected then 512 else 0) + (128 - deviation) < 0xffff := by
    cases connected <;> norm_num <;> linarith
  exact below _ (abs_nonneg _) _

theorem isWorst_iff {i : ℕ} : IsWorst s r i ↔
    IsLowest (criteria id s r (weakOnly s r)) (Counts s r) (visits 0 r.numAp) i := by
  have keys (j : ℕ) :
      key (criteria id s r (weakOnly s r)) i ≤ key (criteria id s r (weakOnly s r)) j ↔
      exactPriority r i < exactPriority r j ∨
        (exactPriority r i = exactPriority r j ∧ (r.slot j).macValue ≤ (r.slot i).macValue) := by
    unfold key
    rw [Prod.Lex.toLex_le_toLex, OrderDual.toDual_le_toDual]
    simp only [criteria, priorityIn_id]
  have member (j : ℕ) : j ∈ visits 0 r.numAp ↔ j < r.numAp := by
    rw [mem_visits]
    omega
  constructor
  · intro worst
    refine ⟨(member i).2 worst.inside, worst.counts, ?_⟩
    intro j inside counts
    have range := (member j).1 inside
    rw [keys]
    rcases (worst.lowest j range counts).lt_or_eq with lt | eq
    · exact .inl lt
    · exact .inr ⟨eq, worst.highest j range counts eq.symm⟩
  · intro lowest
    have order (j : ℕ) (range : j < r.numAp) (counts : Counts s r j) :=
      (keys j).1 (lowest.least j ((member j).2 range) counts)
    refine ⟨(member i).1 lowest.member, lowest.meets, ?_, ?_⟩
    · intro j range counts
      rcases order j range counts with lt | ⟨eq, -⟩
      · exact lt.le
      · exact eq.le
    · intro j range counts equal
      rcases order j range counts with lt | ⟨-, tie⟩
      · exact absurd equal lt.ne'
      · exact tie

theorem alternates_visits (descending : Descending r) {lo len m a : ℕ} {xs ys : List ℕ}
    (range : lo + len ≤ r.numAp) (weak : belowRssiThreshold s (r.slot (m : ℕ)) = true)
    (split : visits lo len = xs ++ a :: ys) (follows : m ∈ ys)
    (strong : belowRssiThreshold s (r.slot (a : ℕ)) = false) :
    xs = [] ∨ ∃ front, ∃ k : ℕ, xs = front ++ [k] ∧ belowRssiThreshold s (r.slot k) = true := by
  have weaker {i j : ℕ} (below : i < j) (inside : j < r.numAp)
      (weak : belowRssiThreshold s (r.slot (i : ℕ)) = true) :
      belowRssiThreshold s (r.slot (j : ℕ)) = true := by
    have order := descending i j below inside
    unfold belowRssiThreshold at weak ⊢
    rw [decide_eq_true_eq] at weak ⊢
    omega
  fun_induction visits lo len generalizing xs with
  | case1 lo => simp at split
  | case2 lo =>
    rcases List.singleton_eq_append_iff.1 split with ⟨first, -⟩ | ⟨-, rest⟩
    · exact .inl first
    · simp at rest
  | case3 lo len ih =>
    rcases List.cons_eq_append_iff.1 split with ⟨first, -⟩ | ⟨xs₁, front₁, split₁⟩
    · exact .inl first
    · rcases List.cons_eq_append_iff.1 split₁ with ⟨-, last⟩ | ⟨xs₂, front₂, split₂⟩
      · -- the last AP of the range is weak if another one of the range is
        rw [List.cons_eq_cons] at last
        obtain ⟨rfl, rfl⟩ := last
        have place := mem_visits.1 follows
        rw [weaker (show m < lo + len + 1 by omega) (by omega) weak] at strong
        contradiction
      · have follows' : m ∈ visits (lo + 1) len := by simp [split₂, follows]
        have place := mem_visits.1 follows'
        refine .inr ?_
        rcases ih (by omega) split₂ with first | ⟨front, k, last, weakK⟩
        · refine ⟨[lo], lo + len + 1, ?_, weaker (show m < lo + len + 1 by omega) (by omega) weak⟩
          rw [front₁, front₂, first]
          rfl
        · refine ⟨lo :: (lo + len + 1) :: front, k, ?_, weakK⟩
          rw [front₁, front₂, last]
          rfl

/-- `set_priorities` returns the worst AP exactly if the weakest AP is not below the threshold,
or the loop takes a worst AP below the threshold and keeps it. -/
theorem setPriorities_isWorst_iff (two : 2 ≤ r.numAp) (descending : Descending r) :
    IsWorst s r (setPrioritiesIn id s r).2 ↔ (weakOnly s r = true →
      ∃ m, IsWorst s r m ∧ Kept (criteria id s r true) (visits 0 r.numAp) m) := by
  have nonempty : visits 0 r.numAp ≠ [] :=
    List.ne_nil_of_mem (mem_visits.2 (by omega : 0 ≤ 0 ∧ 0 < 0 + r.numAp))
  have start (only : Bool) :
      ∀ i ∈ visits 0 r.numAp, (criteria id s r only).priority i < 0xffff := by
    intro i _
    simp only [criteria, priorityIn_id]
    exact exactPriority_lt i
  rw [setPrioritiesIn_snd id s two]
  cases weak : weakOnly s r with
  | false =>
    have lowest := @scan_isLowest _ _ _ _ _ (criteria id s r false) ⟨r.numAp / 2, 0xffff⟩ _
      (start false) nonempty fun i _ => rfl
    refine iff_of_true ?_ fun impossible => by contradiction
    rw [isWorst_iff, weak]
    exact ⟨lowest.member, fun impossible => by simp [weak] at impossible, fun j inside _ =>
      lowest.least j inside trivial⟩
  | true =>
    have counts (i : ℕ) : Counts s r i ↔ (criteria id s r true).weak i = true := by
      simp [Counts, weak, criteria]
    have kept (m : ℕ) (worst : IsWorst s r m) :
        scan (criteria id s r true) ⟨r.numAp / 2, 0xffff⟩ (visits 0 r.numAp) =
            ⟨m, (criteria id s r true).priority m⟩ ↔
          Kept (criteria id s r true) (visits 0 r.numAp) m := by
      have lowest := isWorst_iff.1 worst
      rw [weak] at lowest
      refine scan_eq_iff_kept ⟨lowest.member, (counts m).1 lowest.meets, fun j inside weakJ =>
        lowest.least j inside ((counts j).2 weakJ)⟩ (start true) ?_
      intro before after split xs a ys front strong
      have place : visits 0 r.numAp = xs ++ a :: (ys ++ m :: after) := by
        rw [split, front, List.append_assoc, List.cons_append]
      have strong' : belowRssiThreshold s (r.slot (a : ℕ)) = false := by
        simpa [criteria] using strong
      have alternate := alternates_visits descending (show 0 + r.numAp ≤ r.numAp by omega)
        (worst.counts weak) place (by simp) strong'
      simpa [criteria] using alternate
    constructor
    · intro worst _
      obtain ⟨m, -, held⟩ :=
        @scan_mem _ _ _ _ _ (criteria id s r true) ⟨r.numAp / 2, 0xffff⟩ _ (start true) nonempty
      rw [held] at worst
      exact ⟨m, worst, (kept m worst).1 held⟩
    · intro condition
      obtain ⟨m, worst, keptM⟩ := condition rfl
      rw [(kept m worst).2 keptM]
      exact worst

instance (r : SkyRctx) : Decidable (Descending r) :=
  decidable_of_iff (∀ j < r.numAp, ∀ i < j, (r.slot (j : ℕ)).rssi ≤ (r.slot (i : ℕ)).rssi)
    ⟨fun h i j below inside => h j inside i below, fun h j inside i below => h i j below inside⟩

instance (s : SkySctx) (r : SkyRctx) : DecidablePred (Counts s r) := fun _ =>
  inferInstanceAs (Decidable (_ → _))

instance (s : SkySctx) (r : SkyRctx) : DecidablePred (IsWorst s r) := fun i =>
  decidable_of_iff (i < r.numAp ∧ Counts s r i ∧
      (∀ j < r.numAp, Counts s r j → exactPriority r i ≤ exactPriority r j) ∧
      ∀ j < r.numAp, Counts s r j → exactPriority r j = exactPriority r i →
        (r.slot j).macValue ≤ (r.slot i).macValue)
    ⟨fun h => ⟨h.1, h.2.1, h.2.2.1, h.2.2.2⟩, fun h => ⟨h.inside, h.counts, h.lowest, h.highest⟩⟩

/-- Three weak APs, of which the one in the middle deviates most. -/
def weakAps : SkyRctx := requestOf [apCall 1 (-91), apCall 2 (-92), apCall 3 (-101)]

theorem weakAps_isWorst : 2 ≤ weakAps.numAp ∧ weakOnly openedSession weakAps = true ∧
    IsWorst openedSession weakAps (setPrioritiesIn id openedSession weakAps).2 := by
  refine ⟨by decide +kernel, by decide +kernel, ?_⟩
  apply (setPriorities_isWorst_iff (by decide +kernel) (by decide +kernel)).2
  intro _
  have higher : ∀ a ∈ [0, 2], (criteria id openedSession weakAps true).priority a ≠
      (criteria id openedSession weakAps true).priority 1 := by decide +kernel
  refine ⟨1, by decide +kernel, [0, 2], [], by decide +kernel, ?_, by simp⟩
  rintro ⟨xs, a, ys, split, same, -, -⟩
  exact higher a (by simp [split]) same

/-- Four weak APs; the one after the strongest deviates most, the one visited last does not. -/
def crowdedAps : SkyRctx :=
  requestOf [apCall 1 (-91), apCall 2 (-100), apCall 3 (-100), apCall 4 (-100)]

/-- The weak AP visited last is returned. -/
theorem crowdedAps_not_isWorst : 2 ≤ crowdedAps.numAp ∧ Descending crowdedAps ∧
    (setPrioritiesIn id openedSession crowdedAps).2 = 2 ∧
    ¬ IsWorst openedSession crowdedAps (setPrioritiesIn id openedSession crowdedAps).2 := by
  decide +kernel

end ApPlugin
end EmbeddedClient
