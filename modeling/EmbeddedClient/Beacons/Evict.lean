import EmbeddedClient.Beacons.Store

/-!
# Eviction

The three rules of the AP plugin and the rule of the cell plugin remove one
beacon of their kind. From this and the insertion follows what `add_beacon`
does to a context that holds a beacon list.
-/

namespace EmbeddedClient

variable {s : SkySctx} {r : SkyRctx} {l : BeaconList} {b : Beacon}

namespace ApPlugin

theorem vapCandidate_lt {n i j : ℕ} (hi : i < n) (hj : j < n) : vapCandidate r i j < n := by
  unfold vapCandidate
  dsimp only
  split_ifs <;> assumption

theorem worstVap_lt {n vap : ℕ} {worst : Option ℕ} (bound : ∀ w ∈ worst, w < n) (hv : vap < n) :
    worstVap r worst vap < n := by
  unfold worstVap
  cases worst with
  | none => exact hv
  | some worst =>
    dsimp only
    split_ifs
    · exact hv
    · exact bound worst rfl

theorem virtualApInner_lt {n i j : ℕ} {worst : Option ℕ} (hi : i ≤ n) (hj : j < n)
    (bound : ∀ w ∈ worst, w < n) : ∀ w ∈ virtualApInner r j i worst, w < n := by
  induction i generalizing worst with
  | zero => exact bound
  | succ i ih =>
    unfold virtualApInner
    split_ifs
    · refine ih (by omega) fun w member => ?_
      obtain rfl := Option.mem_some_iff.1 member
      exact worstVap_lt bound (vapCandidate_lt (by omega) hj)
    · exact ih (by omega) bound

theorem virtualApOuter_lt (r : SkyRctx) {n j : ℕ} (worst : Option ℕ) (hj : j < n)
    (bound : ∀ w ∈ worst, w < n) : ∀ w ∈ virtualApOuter r j worst, w < n := by
  induction j generalizing worst with
  | zero => exact bound
  | succ j ih =>
    unfold virtualApOuter
    split_ifs
    · exact ih worst (by omega) bound
    · exact ih _ (by omega) (virtualApInner_lt (by omega) hj bound)

theorem oldestAp_lt (youngest oldest : UInt32) {n i : ℕ} (idx : Option ℕ) (bs : List Beacon)
    (length : i + bs.length ≤ n) (bound : ∀ w ∈ idx, w < n) :
    ∀ w ∈ (oldestAp youngest oldest idx i bs).2.2, w < n := by
  induction bs generalizing youngest oldest i idx with
  | nil => exact bound
  | cons b bs ih =>
    rw [List.length_cons] at length
    unfold oldestAp
    dsimp only
    by_cases older : oldest < b.h.age
    · rw [if_pos older]
      refine ih _ _ _ (by omega) fun w member => ?_
      obtain rfl := Option.mem_some_iff.1 member
      omega
    · rw [if_neg older]
      exact ih _ _ _ (by omega) bound

theorem removeBeacon_fst {i : ℕ} (range : i < r.numBeacons) : (removeBeacon r i).1 = .success := by
  rw [removeBeacon, if_neg (by omega)]

theorem removeVirtualAp_cases (s : SkySctx) (order : r.numAp ≤ r.numBeacons) :
    (∃ i < r.numAp, removeVirtualAp s r = (true, (removeBeacon r i).2)) ∨
      removeVirtualAp s r = (false, r) := by
  unfold removeVirtualAp
  split_ifs with few
  · exact .inr rfl
  · exact .inr rfl
  · have bound := virtualApOuter_lt r none (show r.numAp - 1 < r.numAp by omega)
      (by simp)
    cases found : virtualApOuter r (r.numAp - 1) none with
    | none => exact .inr rfl
    | some worst =>
      have range := bound worst found
      refine .inl ⟨worst, range, ?_⟩
      simp [removeBeacon_fst (show worst < r.numBeacons by omega)]

theorem removeOldestAp_cases :
    (∃ i < r.numAp, removeOldestAp r = (true, (removeBeacon r i).2)) ∨
      removeOldestAp r = (false, r) := by
  have length : r.aps.length ≤ r.numAp := List.length_take_le ..
  have bound := oldestAp_lt 0xFFFFFFFF 0 none r.aps (show 0 + r.aps.length ≤ r.numAp by omega)
    (by simp)
  unfold removeOldestAp
  dsimp only
  cases found : (oldestAp 0xFFFFFFFF 0 none 0 r.aps).2.2 with
  | none => exact .inr rfl
  | some idx =>
    dsimp only
    split_ifs
    · exact .inl ⟨idx, bound idx found, rfl⟩
    · exact .inr rfl

theorem removeWorst_of_le (few : r.numAp ≤ s.config.maxApBeacons.toNat) :
    removeWorst s r = (.error, (setPriorities s r).1) := by
  unfold removeWorst
  dsimp only
  rw [if_pos (by rwa [(sameScan_setPriorities s r).numAp])]

theorem removeWorst_of_lt (order : r.numAp ≤ r.numBeacons)
    (many : s.config.maxApBeacons.toNat < r.numAp) :
    ∃ i < r.numAp, removeWorst s r = (.success, (removeBeacon (setPriorities s r).1 i).2) := by
  have same := sameScan_setPriorities s r
  have order' : (setPriorities s r).1.numAp ≤ (setPriorities s r).1.numBeacons := by
    rwa [same.numAp, same.numBeacons]
  have worst := setPriorities_idx_lt s r (by omega)
  unfold removeWorst
  dsimp only
  rw [if_neg (by rw [same.numAp]; omega), ← same.numAp]
  rcases removeVirtualAp_cases s order' with ⟨i, range, removed⟩ | kept
  · exact ⟨i, range, by rw [removed, if_pos rfl]⟩
  · rw [kept, if_neg (by simp)]
    rcases removeOldestAp_cases (r := (setPriorities s r).1) with ⟨i, range, removed⟩ | kept
    · exact ⟨i, range, by rw [removed, if_pos rfl]⟩
    · rw [kept, if_neg (by simp)]
      rw [← same.numAp] at worst
      exact ⟨_, worst, Prod.ext (removeBeacon_fst (worst.trans_le order')) rfl⟩

/-- The context holds a list with one AP less. -/
def OneLess (r r' : SkyRctx) (l : BeaconList) : Prop :=
  ∃ l' : BeaconList, r'.Holds l' ∧ l'.aps.length + 1 = l.aps.length ∧
    l'.all.length + 1 = l.all.length ∧ ArrayTo 0 r r'

theorem removeBeacon_oneLess (holds : r.Holds l) {i : ℕ} (range : i < r.numAp) :
    OneLess r (removeBeacon r i).2 l := by
  have count := l.length_all
  have aps := holds.numAp
  have ap : l.all[i].isApType = true := by
    rw [← holds.slot (by omega)]
    exact holds.slot_isApType range
  obtain ⟨l', -, holds', erased, aps', array⟩ :=
    removeBeacon_holds holds (show i < l.all.length by omega)
  rw [ap, Bool.toNat_true] at aps'
  have length := congrArg List.length erased
  rw [List.length_eraseIdx_of_lt (by omega)] at length
  exact ⟨l', holds', aps', by omega, array⟩

theorem OneLess.of_sameScan {r' r'' : SkyRctx} {l' : BeaconList} (same : SameScan r r')
    (aps : l'.aps.length = l.aps.length) (all : l'.all.length = l.all.length)
    (less : OneLess r' r'' l') : OneLess r r'' l := by
  obtain ⟨l'', holds, aps', all', array⟩ := less
  exact ⟨l'', holds, by omega, by omega, (ArrayTo.sameScan same).trans array⟩

/-- The AP plugin removes an AP if there are too many, and else only sets priorities. -/
theorem removeWorst_cases (s : SkySctx) (holds : r.Holds l) :
    (s.config.maxApBeacons.toNat < l.aps.length ∧ (removeWorst s r).1 = .success ∧
        OneLess r (removeWorst s r).2 l) ∨
      (l.aps.length ≤ s.config.maxApBeacons.toNat ∧ (removeWorst s r).1 = .error ∧
        SameScan r (removeWorst s r).2) := by
  have same := sameScan_setPriorities s r
  have numAp := holds.numAp
  by_cases few : r.numAp ≤ s.config.maxApBeacons.toNat
  · rw [removeWorst_of_le few]
    exact .inr ⟨by omega, rfl, same⟩
  · obtain ⟨i, range, removed⟩ := removeWorst_of_lt holds.numAp_le (not_le.1 few)
    obtain ⟨l', holds', aps, all⟩ := holds.sameScan same
    rw [removed]
    have less :=
      removeBeacon_oneLess holds' (show i < (setPriorities s r).1.numAp by rwa [same.numAp])
    exact .inl ⟨by omega, rfl, less.of_sameScan same aps all⟩

end ApPlugin

theorem CellPlugin.removeWorst_cases (s : SkySctx) (holds : r.Holds l)
    (bound : r.numBeacons < 65536) :
    (s.config.maxCells < l.cells.length ∧ (removeWorst s r).1 = .success ∧
        ∃ l' : BeaconList, (removeWorst s r).2.Holds l' ∧ l'.aps.length = l.aps.length ∧
          l'.all.length + 1 = l.all.length ∧ ArrayTo 0 r (removeWorst s r).2) ∨
      (l.cells.length ≤ s.config.maxCells ∧ removeWorst s r = (.error, r)) := by
  have count := l.length_all
  have numAp := holds.numAp
  have numBeacons := holds.numBeacons
  have cells : numCells r.numBeacons r.numAp = l.cells.length := by
    rw [numCells_eq holds.numAp_le bound]
    omega
  unfold removeWorst
  rw [cells]
  by_cases few : l.cells.length ≤ s.config.maxCells
  · exact .inr ⟨few, if_pos few⟩
  · have last : ((r.numBeacons : ℤ) - 1) = (r.numBeacons - 1 : ℕ) := by omega
    have cell : (r.slot (r.numBeacons - 1 : ℕ)).isCellType = true :=
      holds.slot_isCellType (by omega) (by omega)
    rw [if_neg few, last, if_pos cell]
    obtain ⟨l', status, holds', erased, aps, array⟩ :=
      removeBeacon_holds holds (i := r.numBeacons - 1) (by omega)
    rw [holds.slot (by omega)] at cell
    rw [isApType_of_isCellType cell] at aps
    have length := congrArg List.length erased
    rw [List.length_eraseIdx_of_lt (by omega)] at length
    exact .inl ⟨by omega, status, l', holds', aps, by omega, array⟩

section Dispatch

theorem eq_mk_of_fst {α β : Type*} {p : α × β} {a : α} (first : p.1 = a) : p = (a, p.2) := by
  subst first
  rfl

variable (p : SkyPluginTable) (ps : List SkyPluginTable)

theorem skyPluginRemoveWorst_of_success {r' : SkyRctx}
    (success : p.removeWorst s r = (.success, r')) :
    skyPluginRemoveWorst s (p :: ps) r = (.success, r') := by
  rw [skyPluginRemoveWorst, success]

theorem skyPluginRemoveWorst_of_error {r' : SkyRctx} (error : p.removeWorst s r = (.error, r')) :
    skyPluginRemoveWorst s (p :: ps) r = skyPluginRemoveWorst s ps r' := by
  rw [skyPluginRemoveWorst, error]

end Dispatch

theorem filterBeacons_of_success (added : AddResult) {r' : SkyRctx}
    (limits : ¬ withinLimits s added.rctx = true)
    (removed : skyPluginRemoveWorst s s.plugins added.rctx = (.success, r')) :
    (filterBeacons s added).rctx = r' ∧ (filterBeacons s added).top = added.top := by
  rw [filterBeacons, if_neg limits, removed]
  exact ⟨rfl, rfl⟩

theorem withinLimits_iff {r : SkyRctx} (numAp_le : r.numAp ≤ r.numBeacons)
    (bound : r.numBeacons < 65536) :
    withinLimits s r = true ↔
      r.numAp ≤ s.config.maxApBeacons.toNat ∧ r.numBeacons - r.numAp ≤ s.config.maxCells := by
  rw [withinLimits, numCells_eq numAp_le bound, Bool.and_eq_true, decide_eq_true_eq,
    decide_eq_true_eq]

/-- How the filter of `add_beacon` ends. -/
inductive FilterOutcome (c : SkyConfig) (r : SkyRctx) (l : BeaconList) (r' : SkyRctx) : Prop
  | kept (aps : l.aps.length ≤ c.maxApBeacons.toNat) (cells : l.cells.length ≤ c.maxCells)
      (rctx : r' = r)
  | apRemoved (l' : BeaconList) (many : c.maxApBeacons.toNat < l.aps.length) (holds : r'.Holds l')
      (aps : l'.aps.length + 1 = l.aps.length) (all : l'.all.length + 1 = l.all.length)
      (array : ArrayTo 0 r r')
  | cellRemoved (l' : BeaconList) (few : l.aps.length ≤ c.maxApBeacons.toNat)
      (many : c.maxCells < l.cells.length) (holds : r'.Holds l')
      (aps : l'.aps.length = l.aps.length) (all : l'.all.length + 1 = l.all.length)
      (array : ArrayTo 0 r r')

theorem filterBeacons_outcome (added : AddResult) (plugins : s.plugins = skyRegisterPlugins)
    (holds : added.rctx.Holds l) (bound : added.rctx.numBeacons < 65536) :
    FilterOutcome s.config added.rctx l (filterBeacons s added).rctx ∧
      (filterBeacons s added).top = added.top := by
  have count := l.length_all
  have numAp := holds.numAp
  have numBeacons := holds.numBeacons
  have cells : added.rctx.numBeacons - added.rctx.numAp = l.cells.length := by omega
  have limits := withinLimits_iff (s := s) holds.numAp_le bound
  rw [cells, numAp] at limits
  by_cases within : withinLimits s added.rctx = true
  · rw [filterBeacons, if_pos within]
    rw [limits] at within
    exact ⟨.kept within.1 within.2 rfl, rfl⟩
  · have excess := within
    rw [limits, not_and, not_le] at excess
    rcases ApPlugin.removeWorst_cases s holds with
      ⟨many, status, l', holds', aps, all, array⟩ | ⟨few, status, same⟩
    · have pair : ApPlugin.removeWorst s added.rctx =
          (.success, (ApPlugin.removeWorst s added.rctx).2) := eq_mk_of_fst status
      have removed := skyPluginRemoveWorst_of_success .apPluginBasic [.cellPluginBasic] pair
      obtain ⟨rctx, top⟩ := filterBeacons_of_success added within (by rw [plugins]; exact removed)
      rw [rctx]
      exact ⟨.apRemoved l' many holds' aps all array, top⟩
    · obtain ⟨l', holds', aps, all⟩ := holds.sameScan same
      have cellCount : l'.cells.length = l.cells.length := by
        have := l'.length_all
        omega
      have pair : ApPlugin.removeWorst s added.rctx =
          (.error, (ApPlugin.removeWorst s added.rctx).2) := eq_mk_of_fst status
      rcases CellPlugin.removeWorst_cases s holds' (by rw [same.numBeacons]; exact bound) with
        ⟨many, status', l'', holds'', aps', all', array⟩ | ⟨few', -⟩
      · have pair' : CellPlugin.removeWorst s (ApPlugin.removeWorst s added.rctx).2 =
            (.success, (CellPlugin.removeWorst s (ApPlugin.removeWorst s added.rctx).2).2) :=
          eq_mk_of_fst status'
        have removed := (skyPluginRemoveWorst_of_error .apPluginBasic [.cellPluginBasic] pair).trans
          (skyPluginRemoveWorst_of_success .cellPluginBasic [] pair')
        obtain ⟨rctx, top⟩ := filterBeacons_of_success added within (by rw [plugins]; exact removed)
        rw [rctx]
        exact ⟨.cellRemoved l'' few (cellCount ▸ many) holds'' (aps'.trans aps) (all'.trans all)
          ((ArrayTo.sameScan same).trans array), top⟩
      · have := excess few
        omega

end EmbeddedClient
