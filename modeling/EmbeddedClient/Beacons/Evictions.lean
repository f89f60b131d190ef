import EmbeddedClient.Beacons.Stream
import EmbeddedClient.Beacons.Priorities

/-!
# The arithmetic of an eviction

`remove_worst` of the AP plugin sets priorities before it looks at the number of APs, and it is
called for cells that exceed their limit too. Its reads of the AP list and its division are
recorded here beside what it computes.
-/

namespace EmbeddedClient

open Binary32 Runs

/-- A read of the AP list, or a division by a number of APs. -/
inductive Access
  | read (index : ℤ)
  | divide (divisor : ℤ)
  deriving DecidableEq, Repr

/-- What is computed, with the accesses on the way. -/
structure Traced (α : Type) where
  value : α
  accesses : List Access

instance : Monad Traced where
  pure a := ⟨a, []⟩
  bind x f := ⟨(f x.value).value, x.accesses ++ (f x.value).accesses⟩

namespace Traced

variable {α β : Type}

@[simp] theorem value_bind (x : Traced α) (f : α → Traced β) :
    (x >>= f).value = (f x.value).value := rfl

@[simp] theorem accesses_pure (a : α) : (pure a : Traced α).accesses = [] := rfl

@[simp] theorem accesses_bind (x : Traced α) (f : α → Traced β) :
    (x >>= f).accesses = x.accesses ++ (f x.value).accesses := rfl

end Traced

/-- Indexes are those of APs and divisors are not zero. -/
def Access.Defined (numAp : ℕ) : Access → Prop
  | read index => 0 ≤ index ∧ index < numAp
  | divide divisor => divisor ≠ 0

namespace ApPlugin

def readSlot (r : SkyRctx) (index : ℤ) : Traced Beacon := ⟨r.slot index, [.read index]⟩

def getPriorityTraced (r : SkyRctx) (index : ℤ) : Traced FloatVal := do
  let b ← readSlot r index
  let connected : FloatVal := if b.h.connected then .fin 0x200 else .fin 0
  let highest ← readSlot r 0
  let lowest ← readSlot r (r.numAp - 1)
  let bandWidth ← (⟨FloatVal.div round (.fin (highest.rssi - lowest.rssi)) (.fin (r.numAp - 1)),
    [.divide (r.numAp - 1)]⟩ : Traced FloatVal)
  let idealRssi :=
    FloatVal.sub round (.fin highest.rssi) (FloatVal.mul round bandWidth (.fin index.toNat))
  let deviation := (FloatVal.sub round (.fin b.rssi) idealRssi).abs
  pure (FloatVal.add round connected (FloatVal.sub round (.fin 128) deviation))

def belowRssiThresholdTraced (s : SkySctx) (r : SkyRctx) (index : ℤ) : Traced Bool := do
  let b ← readSlot r index
  pure (belowRssiThreshold s b)

/-- The first half of the test of `set_priorities`, with its access. -/
def weakTraced (s : SkySctx) (weakOnly : Bool) (r : SkyRctx) (j : ℤ) : Traced Bool :=
  if weakOnly then belowRssiThresholdTraced s r j else pure false

/-- The test of `set_priorities` whether an AP replaces the worst one, with its accesses. -/
def replacesTraced (s : SkySctx) (weakOnly : Bool) (r : SkyRctx) (j : ℤ) (idxOfWorst : ℕ)
    (priority priorityOfWorst : FloatVal) : Traced Bool := do
  let weak ← weakTraced s weakOnly r j
  if weak || priority.le priorityOfWorst then
    if !priority.eq priorityOfWorst then pure true
    else do
      let a ← readSlot r j
      let b ← readSlot r idxOfWorst
      pure (decide (compareMac a b < 0))
  else pure false

def setPrioritiesLoopTraced (s : SkySctx) (weakOnly : Bool) :
    (jump : ℕ) → (j upDown : ℤ) → SkyRctx → (idxOfWorst : ℕ) → FloatVal → Traced (SkyRctx × ℕ)
  | 0, _, _, r, idxOfWorst, _ => pure (r, idxOfWorst)
  | jump + 1, j, upDown, r, idxOfWorst, priorityOfWorst =>
    if 0 ≤ j ∧ j < r.numAp then do
      let priority ← getPriorityTraced r j
      let r := setPriority r j.toNat priority
      let next := setPrioritiesLoopTraced s weakOnly jump (j + upDown * jump) (-upDown) r
      let replaces ← replacesTraced s weakOnly r j idxOfWorst priority priorityOfWorst
      if replaces then next j.toNat priority else next idxOfWorst priorityOfWorst
    else pure (r, idxOfWorst)

def setPrioritiesTraced (s : SkySctx) (r : SkyRctx) : Traced (SkyRctx × ℕ) := do
  let weakOnly ← belowRssiThresholdTraced s r (r.numAp - 1)
  setPrioritiesLoopTraced s weakOnly r.numAp 0 1 r (r.numAp / 2) (.fin 0xffff)

variable {s : SkySctx} {r : SkyRctx}

theorem getPriorityTraced_value {index : ℤ} (range : 0 ≤ index) :
    (getPriorityTraced r index).value = getPriority r index.toNat := by
  have place : ((index.toNat : ℕ) : ℤ) = index := Int.toNat_of_nonneg range
  unfold getPriority
  rw [place]
  rfl

theorem replacesTraced_value (s : SkySctx) (weakOnly : Bool) (r : SkyRctx) (j : ℤ) (idxOfWorst : ℕ)
    (priority priorityOfWorst : FloatVal) :
    (replacesTraced s weakOnly r j idxOfWorst priority priorityOfWorst).value =
      (((weakOnly && belowRssiThreshold s (r.slot j)) || priority.le priorityOfWorst) &&
        (!priority.eq priorityOfWorst ||
          decide (compareMac (r.slot j) (r.slot idxOfWorst) < 0))) := by
  have weak :
      (weakTraced s weakOnly r j).value = (weakOnly && belowRssiThreshold s (r.slot j)) := by
    cases weakOnly <;> rfl
  unfold replacesTraced
  rw [Traced.value_bind, weak]
  cases weakOnly && belowRssiThreshold s (r.slot j) <;> cases priority.le priorityOfWorst <;>
    cases priority.eq priorityOfWorst <;> rfl

/-- The recorded loop computes what the loop computes. -/
theorem setPrioritiesLoopTraced_value (s : SkySctx) (weakOnly : Bool) (jump : ℕ) (j upDown : ℤ)
    (r : SkyRctx) (idx : ℕ) (worst : FloatVal) :
    (setPrioritiesLoopTraced s weakOnly jump j upDown r idx worst).value =
      setPrioritiesLoop s weakOnly jump j upDown r idx worst := by
  induction jump generalizing j upDown r idx worst with
  | zero => rfl
  | succ jump ih =>
    unfold setPrioritiesLoopTraced setPrioritiesLoop
    split_ifs with range
    · rw [Traced.value_bind, getPriorityTraced_value range.1]
      dsimp only
      rw [Traced.value_bind, replacesTraced_value]
      split_ifs
      · exact ih ..
      · exact ih ..
    · rfl

theorem setPrioritiesTraced_value (s : SkySctx) (r : SkyRctx) :
    (setPrioritiesTraced s r).value = setPriorities s r := setPrioritiesLoopTraced_value ..

def EvictionDefined (s : SkySctx) (r : SkyRctx) : Prop :=
  ∀ access ∈ (setPrioritiesTraced s r).accesses, access.Defined r.numAp

theorem getPriorityTraced_accesses (r : SkyRctx) (index : ℤ) :
    (getPriorityTraced r index).accesses =
    [.read index, .read 0, .read (r.numAp - 1), .divide (r.numAp - 1)] := rfl

theorem replacesTraced_defined {weakOnly : Bool} {j : ℤ} {idx : ℕ}
    {priority worst : FloatVal} {n : ℕ} (rangeJ : 0 ≤ j ∧ j < n) (rangeW : idx < n) :
    ∀ access ∈ (replacesTraced s weakOnly r j idx priority worst).accesses, access.Defined n := by
  have weak : ∀ access ∈ (weakTraced s weakOnly r j).accesses, access.Defined n := by
    cases weakOnly with
    | false => exact fun access member => absurd member List.not_mem_nil
    | true =>
      intro access member
      rw [List.mem_singleton.1 member]
      exact rangeJ
  intro access member
  unfold replacesTraced at member
  rw [Traced.accesses_bind, List.mem_append] at member
  rcases member with first | second
  · exact weak access first
  · split_ifs at second
    · exact absurd second List.not_mem_nil
    · simp only [Traced.accesses_bind, Traced.accesses_pure, readSlot, List.append_nil,
        List.cons_append, List.nil_append, List.mem_cons, List.not_mem_nil, or_false] at second
      rcases second with rfl | rfl
      · exact rangeJ
      · exact ⟨by omega, by omega⟩
    · exact absurd second List.not_mem_nil

theorem setPrioritiesLoopTraced_defined (weakOnly : Bool) (jump : ℕ) (j upDown : ℤ)
    {r : SkyRctx} {idx : ℕ} (worst : FloatVal) (two : 2 ≤ r.numAp) (range : idx < r.numAp) :
    ∀ access ∈ (setPrioritiesLoopTraced s weakOnly jump j upDown r idx worst).accesses,
      access.Defined r.numAp := by
  induction jump generalizing j upDown r idx worst with
  | zero => exact fun access member => absurd member List.not_mem_nil
  | succ jump ih =>
    intro access member
    unfold setPrioritiesLoopTraced at member
    split_ifs at member with inside
    · rw [Traced.accesses_bind, Traced.accesses_bind, List.mem_append, List.mem_append] at member
      rcases member with priority | test | rest
      · rw [getPriorityTraced_accesses] at priority
        simp only [List.mem_cons, List.not_mem_nil, or_false] at priority
        rcases priority with rfl | rfl | rfl | rfl
        · exact inside
        · exact ⟨by omega, by omega⟩
        · exact ⟨by omega, by omega⟩
        · show (r.numAp : ℤ) - 1 ≠ 0
          omega
      · exact replacesTraced_defined inside range access test
      · split_ifs at rest
        · exact @ih _ _ (setPriority r j.toNat (getPriorityTraced r j).value) j.toNat _ two
            (show j.toNat < r.numAp by omega) access rest
        · exact @ih _ _ (setPriority r j.toNat (getPriorityTraced r j).value) idx _ two
            range access rest
    · exact absurd member List.not_mem_nil

theorem divide_mem_loop (s : SkySctx) (weakOnly : Bool) (jump : ℕ) (upDown : ℤ)
    {r : SkyRctx} (idx : ℕ) (worst : FloatVal) (some : 0 < r.numAp) : Access.divide (r.numAp - 1) ∈
      (setPrioritiesLoopTraced s weakOnly (jump + 1) 0 upDown r idx worst).accesses := by
  unfold setPrioritiesLoopTraced
  rw [if_pos ⟨le_rfl, by omega⟩, Traced.accesses_bind]
  apply List.mem_append_left _
  rw [getPriorityTraced_accesses]
  simp

/-- The accesses are defined exactly if there are two APs or more. -/
theorem evictionDefined_iff (s : SkySctx) (r : SkyRctx) : EvictionDefined s r ↔ 2 ≤ r.numAp := by
  unfold EvictionDefined setPrioritiesTraced
  rw [Traced.accesses_bind]
  constructor
  · intro defined
    by_contra few
    have first := defined (.read (r.numAp - 1)) (List.mem_append_left _ (.head _))
    have lower := first.1
    have one : r.numAp = 0 + 1 := by omega
    have visited := divide_mem_loop s (belowRssiThresholdTraced s r (r.numAp - 1)).value 0 1
      (r.numAp / 2)
      (.fin 0xffff) (show 0 < r.numAp by omega)
    rw [← one] at visited
    have divisor : (r.numAp : ℤ) - 1 ≠ 0 := defined _ (List.mem_append_right _ visited)
    omega
  · intro two access member
    rcases List.mem_append.1 member with first | rest
    · rw [List.mem_singleton.1 first]
      exact ⟨by omega, by omega⟩
    · exact setPrioritiesLoopTraced_defined _ _ _ _ _ two (by omega) access rest

end ApPlugin

/-- The contexts for which `sky_plugin_remove_worst` calls the AP plugin. -/
def apRemoveWorstCalls (s : SkySctx) : List SkyPluginTable → SkyRctx → List SkyRctx
  | [], _ => []
  | p :: ps, r =>
    (if p = .apPluginBasic then [r] else []) ++
      match (p.removeWorst s r).1 with
      | .success => []
      | .error => apRemoveWorstCalls s ps (p.removeWorst s r).2

/-- The contexts for which `add_beacon` calls `remove_worst` of the AP plugin. -/
def evictions (s : SkySctx) (r : SkyRctx) (errno : SkyErrno) (b : Beacon) (timestamp : ℤ) :
    List SkyRctx :=
  let ctx := validateRequestCtx r
  if !ctx.1 then []
  else if !s.openFlag then []
  else
    let valid := validateBeacon b
    if !valid.1 then []
    else match beaconAge r.header.time timestamp with
      | .error _ => []
      | .ok age =>
        let b := { valid.2 with h := { valid.2.h with age := age } }
        let b := if b.isApType then (beaconInCache s.plugins b s.lines).2 else b
        let added := insertBeacon s.plugins ctx.2 errno b
        if added.status = .error then []
        else if added.rctx.numBeacons = r.numBeacons then []
        else if withinLimits s added.rctx then []
        else apRemoveWorstCalls s s.plugins added.rctx

variable {s : SkySctx} {r : SkyRctx} {b : Beacon}

theorem apRemoveWorstCalls_registered (s : SkySctx) (r : SkyRctx) :
    apRemoveWorstCalls s skyRegisterPlugins r = [r] := by
  unfold skyRegisterPlugins apRemoveWorstCalls apRemoveWorstCalls apRemoveWorstCalls
  rw [if_pos rfl, if_neg (by decide)]
  cases (SkyPluginTable.apPluginBasic.removeWorst s r).1 with
  | success => rfl
  | error =>
    cases (SkyPluginTable.cellPluginBasic.removeWorst s
      (SkyPluginTable.apPluginBasic.removeWorst s r).2).1 <;> rfl

/-- A beacon that is stored and takes the list over a limit leaves two APs or more in it. -/
def SafeAdd (s : SkySctx) (r : SkyRctx) (b : Beacon) (timestamp : ℤ) : Prop :=
  ∀ age, AcceptsBeacon s r b timestamp age →
    (∀ c ∈ r.live, ¬ SameBeacon (preparedBeacon s b age) c) →
    s.config.maxApBeacons.toNat < r.numAp + b.isApType.toNat ∨
        s.config.maxCells < r.numBeacons + 1 - (r.numAp + b.isApType.toNat) →
      2 ≤ r.numAp + b.isApType.toNat

theorem evictions_of_refused (errno : SkyErrno) {timestamp : ℤ}
    (refused : ∀ age, ¬ AcceptsBeacon s r b timestamp age) :
    evictions s r errno b timestamp = [] := by
  unfold evictions
  dsimp only
  split_ifs with invalid closed invalidBeacon
  · rfl
  · rfl
  · rfl
  · cases aged : beaconAge r.header.time timestamp with
    | error e => rfl
    | ok age =>
      refine absurd ⟨?_, ?_, ?_, aged⟩ (refused age)
      · simpa using invalid
      · simpa using closed
      · simpa using invalidBeacon

theorem evictions_of_accepted (errno : SkyErrno) {timestamp : ℤ} {age : UInt32}
    (accepts : AcceptsBeacon s r b timestamp age) {added : AddResult}
    (inserted : insertBeacon s.plugins (validateRequestCtx r).2 errno
      (preparedBeacon s b age) = added) :
    evictions s r errno b timestamp =
      if added.status = .error then []
      else if added.rctx.numBeacons = r.numBeacons then []
      else if withinLimits s added.rctx then []
      else apRemoveWorstCalls s s.plugins added.rctx := by
  rw [← inserted]
  unfold evictions
  simp only [accepts.1, accepts.2.1, accepts.2.2.1, accepts.2.2.2, Bool.not_true,
    Bool.false_eq_true, if_false]
  rfl

theorem safeAdd_of_duplicate {timestamp : ℤ} {age : UInt32}
    (accepts : AcceptsBeacon s r b timestamp age) {c : Beacon} (member : c ∈ r.live)
    (same : SameBeacon (preparedBeacon s b age) c) :
    SafeAdd s r b timestamp := by
  intro age' accepts' fresh
  rw [accepts'.age_unique accepts] at fresh
  exact absurd same (fresh c member)

theorem safeAdd_iff_of_fresh {timestamp : ℤ} {age : UInt32}
    (accepts : AcceptsBeacon s r b timestamp age)
    (fresh : ∀ c ∈ r.live, ¬ SameBeacon (preparedBeacon s b age) c) :
    SafeAdd s r b timestamp ↔
      (s.config.maxApBeacons.toNat < r.numAp + b.isApType.toNat ∨
          s.config.maxCells < r.numBeacons + 1 - (r.numAp + b.isApType.toNat) →
        2 ≤ r.numAp + b.isApType.toNat) := by
  constructor
  · intro safe
    exact safe age accepts fresh
  · intro safe age' _ _
    exact safe

theorem evictionDefined_stored_iff {added : AddResult}
    (aps : added.rctx.numAp = r.numAp + b.isApType.toNat)
    (beacons : added.rctx.numBeacons = r.numBeacons + 1) (count : r.numAp ≤ r.numBeacons)
    (bound : r.numBeacons + 1 < 65536) :
    (∀ r' ∈ if withinLimits s added.rctx then [] else [added.rctx], ApPlugin.EvictionDefined s r') ↔
      (s.config.maxApBeacons.toNat < r.numAp + b.isApType.toNat ∨
          s.config.maxCells < r.numBeacons + 1 - (r.numAp + b.isApType.toNat) →
        2 ≤ r.numAp + b.isApType.toNat) := by
  have small : b.isApType.toNat ≤ 1 := Bool.toNat_le _
  have limits := withinLimits_iff (s := s) (r := added.rctx) (by omega) (by omega)
  rw [aps, beacons] at limits
  by_cases within : withinLimits s added.rctx = true
  · rw [if_pos within]
    apply iff_of_true
    · exact fun r' member => absurd member List.not_mem_nil
    · intro exceeds
      have := limits.1 within
      omega
  · rw [if_neg within]
    rw [limits] at within
    simp only [List.mem_singleton, forall_eq, ApPlugin.evictionDefined_iff, aps]
    exact ⟨fun two _ => two, fun two => two (by omega)⟩

theorem evictions_defined_iff (listed : r.Listed)
    (plugins : s.openFlag = true → s.plugins = skyRegisterPlugins) (errno : SkyErrno)
    (b : Beacon) (timestamp : ℤ) :
    (∀ r' ∈ evictions s r errno b timestamp, ApPlugin.EvictionDefined s r') ↔
      SafeAdd s r b timestamp := by
  by_cases accepted : ∃ age, AcceptsBeacon s r b timestamp age
  · obtain ⟨age, accepts⟩ := accepted
    have ordered : InOrder (r.live.map Beacon.unranked) r.numAp :=
      listed.inOrder.of_unranked (by simp)
    have spec := preparedBeacon_spec s age accepts.2.2.1
    have length : (r.live.map Beacon.unranked).length = r.numBeacons := by
      rw [List.length_map, listed.full]
    have count := ordered.numAp_le
    have bound := (validateRequestCtx_bound accepts.1).1
    simp only [TOTAL_BEACONS] at bound
    obtain ⟨status, l', n', shows, effect⟩ := insertBeacon_effect listed.shows ordered errno spec.1
    have calls := evictions_of_accepted errno accepts rfl
    rw [plugins accepts.2.1, validateRequestCtx_snd listed.inOrder.accepted] at calls
    rw [status, if_neg (by decide), apRemoveWorstCalls_registered] at calls
    rw [calls]
    have numAp := shows.numAp
    have numBeacons := shows.numBeacons
    have duplicate (j : ℕ) (range : j < (r.live.map Beacon.unranked).length)
        (same : SameBeacon (preparedBeacon s b age).unranked (r.live.map Beacon.unranked)[j]) :
        SafeAdd s r b timestamp := by
      rw [List.getElem_map, sameBeacon_congr (Beacon.scan_unranked _) (Beacon.scan_unranked _)]
        at same
      exact safeAdd_of_duplicate accepts (List.getElem_mem _) same
    cases effect with
    | rejected j range same worse =>
      rw [if_pos (numBeacons.trans length)]
      exact iff_of_true (fun r' member => absurd member List.not_mem_nil) (duplicate j range same)
    | replaced j range same better i le place =>
      rw [List.length_insertIdx_of_le_length le, List.length_eraseIdx_of_lt range] at numBeacons
      rw [if_pos (by omega)]
      exact iff_of_true (fun r' member => absurd member List.not_mem_nil) (duplicate j range same)
    | stored fresh i le place =>
      rw [List.length_insertIdx_of_le_length le] at numBeacons
      have aps :
          (if (preparedBeacon s b age).unranked.isApType = true then r.numAp + 1 else r.numAp) =
          r.numAp + b.isApType.toNat := by
        rw [Beacon.unranked_isApType, spec.2.2]
        cases b.isApType <;> rfl
      rw [aps] at numAp
      rw [List.forall_mem_map] at fresh
      simp only [sameBeacon_congr (Beacon.scan_unranked _) (Beacon.scan_unranked _)] at fresh
      rw [if_neg (by omega), safeAdd_iff_of_fresh accepts fresh]
      exact evictionDefined_stored_iff numAp (by omega) (by omega) (by omega)
  · have refused : ∀ age, ¬ AcceptsBeacon s r b timestamp age :=
      fun age accepts => accepted ⟨age, accepts⟩
    rw [evictions_of_refused errno refused]
    apply iff_of_true
    · exact fun r' member => absurd member List.not_mem_nil
    · exact fun age accepts => absurd accepts (refused age)

/-- The accesses of all evictions of a call are defined. -/
def Add.EvictionsDefined (s : SkySctx) (r : SkyRctx) (a : Add) : Prop :=
  ∀ r' ∈ evictions s r .none a.call.beacon a.timestamp, ApPlugin.EvictionDefined s r'

def Add.Safe (s : SkySctx) (r : SkyRctx) (a : Add) : Prop := SafeAdd s r a.call.beacon a.timestamp

/-- In a run of calls that add beacons to a new request all evictions are defined exactly if all
calls are safe. -/
theorem evictionsDefined_iff {rbufsize : UInt32} {ulAppData : List UInt8} {now : ℤ}
    (started : (skyNewRequest rbufsize s ulAppData now).rctx = some r)
    (plugins : s.plugins = skyRegisterPlugins) (adds : List Add) :
    let s' := (skyNewRequest rbufsize s ulAppData now).sctx
    Along (Add.step s') (Add.EvictionsDefined s') r adds ↔
      Along (Add.step s') (Add.Safe s') r adds := by
  intro s'
  have registered : s'.plugins = skyRegisterPlugins :=
    (skyNewRequest_sctx rbufsize s ulAppData now).plugins.trans plugins
  have isNew : r = SkyRctx.initialized s now := eq_initialized started
  have initial : r.Listed := isNew ▸ SkyRctx.listed_initialized s now
  have exact' (r : SkyRctx) (a : Add) (listed : r.Listed) :=
    evictions_defined_iff (s := s') listed (fun _ => registered) .none a.call.beacon a.timestamp
  have preserved (condition : SkyRctx → Add → Prop) (r : SkyRctx) (a : Add) (listed : r.Listed)
      (_ : condition r a) : (a.step s' r).Listed := listed.add (fun _ => registered) a
  constructor
  · intro along
    exact along_mono (preserved _) initial along fun r a listed => (exact' r a listed).1
  · intro along
    exact along_mono (preserved _) initial along fun r a listed => (exact' r a listed).2

instance (numAp : ℕ) : DecidablePred (Access.Defined numAp)
  | .read _ => inferInstanceAs (Decidable (_ ∧ _))
  | .divide _ => inferInstanceAs (Decidable (_ ≠ _))

instance (s : SkySctx) (r : SkyRctx) : Decidable (ApPlugin.EvictionDefined s r) :=
  inferInstanceAs (Decidable (∀ access ∈ _, _))

instance (s : SkySctx) (r : SkyRctx) (a : Add) : Decidable (a.EvictionsDefined s r) :=
  inferInstanceAs (Decidable (∀ r' ∈ _, _))

instance (s : SkySctx) (r : SkyRctx) (b : Beacon) (timestamp : ℤ) :
    Decidable (SafeAdd s r b timestamp) :=
  match aged : beaconAge r.header.time timestamp with
  | .error _ => isTrue fun age accepts => by
      rw [accepts.2.2.2] at aged
      contradiction
  | .ok age => decidable_of_iff
      ((validateRequestCtx r).1 = true ∧ s.openFlag = true ∧ (validateBeacon b).1 = true →
        (∀ c ∈ r.live, ¬ SameBeacon (preparedBeacon s b age) c) →
        s.config.maxApBeacons.toNat < r.numAp + b.isApType.toNat ∨
            s.config.maxCells < r.numBeacons + 1 - (r.numAp + b.isApType.toNat) →
          2 ≤ r.numAp + b.isApType.toNat)
      ⟨fun safe age' accepts => by
        have same : age' = age := Except.ok.inj (accepts.2.2.2.symm.trans aged)
        rw [same]
        exact safe ⟨accepts.1, accepts.2.1, accepts.2.2.1⟩,
        fun safe checks => safe age ⟨checks.1, checks.2.1, checks.2.2, aged⟩⟩

instance (s : SkySctx) (r : SkyRctx) (a : Add) : Decidable (a.Safe s r) :=
  inferInstanceAs (Decidable (SafeAdd ..))

def twoApSession : SkySctx :=
  { openedSession with config := { openedSession.config with maxApBeacons := 2 } }

def threeAps : List Add :=
  [⟨apCall 0x00 (-50), 1600000000⟩, ⟨apCall 0x11 (-60), 1600000000⟩,
    ⟨apCall 0x22 (-70), 1600000000⟩]

theorem threeAps_evictionsDefined :
    Along (Add.step (skyNewRequest sizeofSkyRctx twoApSession [] 1600000000).sctx)
      (Add.EvictionsDefined (skyNewRequest sizeofSkyRctx twoApSession [] 1600000000).sctx)
      (SkyRctx.initialized twoApSession 1600000000) threeAps :=
  (evictionsDefined_iff (by decide +kernel) (by decide +kernel) threeAps).2 (by decide +kernel)

/-- Nine cells, one more than the default configuration keeps besides its APs. -/
def nineCells : List Add :=
  (List.range 9).map fun i =>
    ⟨.lte 1000 (100000 + .ofNat i) 310 10 5 2000 0 (-90) false, 1600000000⟩

/-- The ninth cell makes the AP plugin read in front of an empty list. -/
theorem nineCells_not_evictionsDefined :
    (skyNewRequest sizeofSkyRctx openedSession [] 1600000000).rctx =
        some (SkyRctx.initialized openedSession 1600000000) ∧
      ¬ Along (Add.step (skyNewRequest sizeofSkyRctx openedSession [] 1600000000).sctx)
        (Add.EvictionsDefined (skyNewRequest sizeofSkyRctx openedSession [] 1600000000).sctx)
        (SkyRctx.initialized openedSession 1600000000) nineCells := by
  decide +kernel

end EmbeddedClient
