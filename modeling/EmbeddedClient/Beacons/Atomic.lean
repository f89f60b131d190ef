import EmbeddedClient.Beacons.Context
import EmbeddedClient.Beacons.Invariant

/-!
# One add is atomic

What `add_beacon` does to a context whose list is in order: nothing if it reports
an error, otherwise the new beacon is inserted and at most one beacon is gone. The
order of the APs among themselves plays no part. Lists are compared without the
priorities, which comparing and evicting write.
-/

namespace EmbeddedClient

/-- APs first, no duplicates, every beacon as validation leaves it. -/
structure InOrder (l : List Beacon) (n : ℕ) : Prop where
  numAp_le : n ≤ l.length
  aps : ∀ b ∈ l.take n, b.isApType = true
  cells : ∀ b ∈ l.drop n, b.isCellType = true
  distinct : l.Pairwise fun a b => ¬ SameBeacon a b
  accepted : ∀ b ∈ l, b.Accepted

/-- The list of a context is in order, and its counters agree with it. -/
structure SkyRctx.Listed (r : SkyRctx) : Prop where
  full : r.live.length = r.numBeacons
  inOrder : InOrder r.live r.numAp

/-- The context shows the list `l` with `n` APs, priorities apart. -/
structure SkyRctx.Shows (r : SkyRctx) (l : List Beacon) (n : ℕ) : Prop where
  list : r.live.map Beacon.unranked = l
  numBeacons : r.numBeacons = l.length
  numAp : r.numAp = n

variable {s : SkySctx} {r r' : SkyRctx} {l : List Beacon} {n : ℕ} {b : Beacon}

theorem SkyRctx.Listed.shows (listed : r.Listed) : r.Shows (r.live.map Beacon.unranked) r.numAp :=
  ⟨rfl, by rw [List.length_map, listed.full], rfl⟩

namespace InOrder

theorem of_scan {l' : List Beacon} (ordered : InOrder l n)
    (scans : l.map Beacon.scan = l'.map Beacon.scan) : InOrder l' n := by
  have length : l.length = l'.length := by simpa using congrArg List.length scans
  have part {p : Beacon → Prop} (congr : ∀ {a b : Beacon}, a.scan = b.scan → p a → p b)
      {f : List Beacon → List Beacon} (natural : ∀ l, (f l).map Beacon.scan = f (l.map Beacon.scan))
      (holds : ∀ b ∈ f l, p b) : ∀ b ∈ f l', p b :=
    BeaconList.forall_of_map_scan congr (by rw [natural, natural, scans]) holds
  constructor
  · rw [← length]
    exact ordered.numAp_le
  · refine part (fun eq ap => ?_) (fun l => List.map_take) ordered.aps
    rwa [← Beacon.scan_isApType, ← eq, Beacon.scan_isApType]
  · refine part (fun eq cell => ?_) (fun l => List.map_drop) ordered.cells
    rwa [← Beacon.scan_isCellType, ← eq, Beacon.scan_isCellType]
  · have byScan (l : List Beacon) : l.Pairwise (fun a b => ¬ SameBeacon a b) ↔
        (l.map Beacon.scan).Pairwise fun a b => ¬ SameBeacon a b := by
      rw [List.pairwise_map]
      simp only [sameBeacon_congr (Beacon.scan_scan _) (Beacon.scan_scan _)]
    rw [byScan, ← scans, ← byScan]
    exact ordered.distinct
  · exact part (f := id) (fun eq accepted => accepted.congr eq) (fun _ => rfl) ordered.accepted

theorem of_unranked {l' : List Beacon} (same : l.map Beacon.unranked = l'.map Beacon.unranked)
    (ordered : InOrder l n) : InOrder l' n :=
  ordered.of_scan (Beacon.map_scan_of_unranked same)

theorem insertIdx (ordered : InOrder l n) (accepted : b.Accepted)
    (fresh : ∀ c ∈ l, ¬ SameBeacon b c) {i : ℕ} (range : i ≤ l.length)
    (place : if b.isApType then i ≤ n else n ≤ i) :
    InOrder (l.insertIdx i b) (if b.isApType then n + 1 else n) := by
  have perm := List.perm_insertIdx b l range
  have distinct : (l.insertIdx i b).Pairwise fun a b => ¬ SameBeacon a b := by
    rw [perm.pairwise_iff fun differ same => differ same.symm]
    exact List.pairwise_cons.2 ⟨fresh, ordered.distinct⟩
  have all : ∀ c ∈ l.insertIdx i b, c.Accepted := by
    intro c member
    rcases List.mem_cons.1 (perm.mem_iff.1 member) with rfl | old
    · exact accepted
    · exact ordered.accepted c old
  have length : (l.take i).length = i := List.length_take_of_le range
  have count := ordered.numAp_le
  by_cases ap : b.isApType = true
  · rw [if_pos ap] at place
    rw [if_pos ap]
    refine ⟨by rw [perm.length_eq, List.length_cons]; omega, ?_, ?_, distinct, all⟩
    · have front : (l.insertIdx i b).take (n + 1) = l.take i ++ b :: (l.take n).drop i := by
        rw [insertIdx_eq_take_drop range, List.take_append, length,
          List.take_of_length_le (by omega),
          show n + 1 - i = n - i + 1 by omega, List.take_succ_cons, List.drop_take]
      rw [front]
      intro c member
      rcases List.mem_append.1 member with left | right
      · exact ordered.aps c (List.take_subset_take_left l place left)
      · rcases List.mem_cons.1 right with rfl | right
        · exact ap
        · exact ordered.aps c (List.mem_of_mem_drop right)
    · rw [drop_insertIdx range place]
      exact ordered.cells
  · rw [if_neg ap] at place
    rw [if_neg ap]
    refine ⟨by rw [perm.length_eq, List.length_cons]; omega, ?_, ?_, distinct, all⟩
    · rw [List.take_insertIdx_eq_take_of_le l b n i place]
      exact ordered.aps
    · have cell : b.isCellType = true := by
        rcases accepted.isApType_or_isCellType with isAp | isCell
        · exact absurd isAp ap
        · exact isCell
      have back : (l.insertIdx i b).drop n = (l.drop n).take (i - n) ++ b :: l.drop i := by
        rw [insertIdx_eq_take_drop range, List.drop_append, length, show n - i = 0 by omega,
          List.drop_zero, List.drop_take]
      rw [back]
      intro c member
      rcases List.mem_append.1 member with left | right
      · exact ordered.cells c (List.mem_of_mem_take left)
      · rcases List.mem_cons.1 right with rfl | right
        · exact cell
        · exact ordered.cells c (List.drop_subset_drop_left l place right)

theorem isApType_iff (ordered : InOrder l n) {i : ℕ} (range : i < l.length) :
    l[i].isApType = true ↔ i < n := by
  constructor
  · intro ap
    by_contra behind
    have member : l[i] ∈ l.drop n := List.mem_drop_iff_getElem.2
      ⟨i - n, by omega, by congr 1; omega⟩
    rw [isApType_of_isCellType (ordered.cells _ member)] at ap
    contradiction
  · intro front
    have member : l[i] ∈ l.take n := List.mem_take_iff_getElem.2 ⟨i, by omega, rfl⟩
    exact ordered.aps _ member

theorem eraseIdx (ordered : InOrder l n) {i : ℕ} (range : i < l.length) :
    InOrder (l.eraseIdx i) (if l[i].isApType then n - 1 else n) := by
  have sublist := List.eraseIdx_sublist l i
  have count := ordered.numAp_le
  have length : (l.take n).length = n := List.length_take_of_le count
  have split := List.take_append_drop n l
  have distinct := ordered.distinct.sublist sublist
  have all : ∀ c ∈ l.eraseIdx i, c.Accepted :=
    fun c member => ordered.accepted c (sublist.subset member)
  have kind := ordered.isApType_iff range
  by_cases front : i < n
  · rw [if_pos (kind.2 front)]
    have eq : l.eraseIdx i = (l.take n).eraseIdx i ++ l.drop n := by
      conv_lhs => rw [← split]
      exact List.eraseIdx_append_of_lt_length (by omega) _
    have less : ((l.take n).eraseIdx i).length = n - 1 := by
      rw [List.length_eraseIdx_of_lt (by omega), length]
    refine ⟨by rw [List.length_eraseIdx_of_lt range]; omega, ?_, ?_, distinct, all⟩
    · rw [eq, List.take_left' less]
      exact fun c member => ordered.aps c (List.mem_of_mem_eraseIdx member)
    · rw [eq, List.drop_left' less]
      exact ordered.cells
  · rw [if_neg (kind.not.2 front)]
    have eq : l.eraseIdx i = l.take n ++ (l.drop n).eraseIdx (i - n) := by
      conv_lhs => rw [← split]
      rw [List.eraseIdx_append_of_length_le (by omega), length]
    refine ⟨by rw [List.length_eraseIdx_of_lt range]; omega, ?_, ?_, distinct, all⟩
    · rw [eq, List.take_left' length]
      exact ordered.aps
    · rw [eq, List.drop_left' length]
      exact fun c member => ordered.cells c (List.mem_of_mem_eraseIdx member)

end InOrder

namespace SkyRctx.Shows

theorem length_live (shows : r.Shows l n) : r.live.length = l.length := by
  rw [← shows.list, List.length_map]

theorem slot (shows : r.Shows l n) {i : ℕ} (range : i < l.length) :
    (r.slot i).unranked = l[i] := by
  have inside : i < r.live.length := by rwa [shows.length_live]
  have slots : i < r.beacon.length := by
    rw [SkyRctx.live, List.length_take] at inside
    omega
  have get : r.slot i = r.live[i] := by
    simp [SkyRctx.slot, SkyRctx.live, slots]
  simp only [get, ← shows.list, List.getElem_map]

theorem removeBeacon (shows : r.Shows l n) {i : ℕ} (range : i < l.length) :
    (removeBeacon r i).2.Shows (l.eraseIdx i) (if l[i].isApType then n - 1 else n) := by
  have kind : (r.slot i).isApType = l[i].isApType := by
    rw [← shows.slot range, Beacon.unranked_isApType]
  have inside : ¬ r.numBeacons ≤ i := by
    rw [shows.numBeacons]
    omega
  rw [EmbeddedClient.removeBeacon, if_neg inside]
  constructor
  · show (SkyRctx.live (r.setLive _)).map Beacon.unranked = _
    rw [live_setLive, ← shows.list, List.eraseIdx_map]
  · show (r.live.eraseIdx i).length = _
    rw [List.length_eraseIdx, List.length_eraseIdx, shows.length_live]
  · simp only [kind, shows.numAp]

theorem setPriorities (shows : r.Shows l n) (s : SkySctx) :
    (ApPlugin.setPriorities s r).1.Shows l n := by
  obtain ⟨bs, eq, same, -⟩ := ApPlugin.setPriorities_unranked s r
  rw [eq]
  refine ⟨?_, shows.numBeacons, shows.numAp⟩
  show (bs.take r.numBeacons).map Beacon.unranked = _
  rw [List.map_take, same, ← List.map_take]
  exact shows.list

theorem placeBeacon (shows : r.Shows l n) (ordered : InOrder l n) (errno : SkyErrno)
    (accepted : b.Accepted) :
    ∃ i ≤ l.length, (if b.isApType then i ≤ n else n ≤ i) ∧
      (EmbeddedClient.placeBeacon skyRegisterPlugins r errno b).rctx.Shows
        (l.insertIdx i b.unranked)
        (if b.isApType then n + 1 else n) := by
  have same := findPosition_unranked skyRegisterPlugins b r.live
  have range := findPosition_index_le skyRegisterPlugins b r.live
  have kinds : InOrder r.live n := ordered.of_unranked (by rw [← shows.list]; simp)
  have place : if b.isApType then (findPosition skyRegisterPlugins b r.live).index ≤ n
      else n ≤ (findPosition skyRegisterPlugins b r.live).index := by
    have length : (r.live.take n).length = n := List.length_take_of_le kinds.numAp_le
    have split := List.take_append_drop n r.live
    split_ifs with ap
    · have bound := findPosition_ap_le ap (r.live.take n) kinds.cells
      rwa [split, length] at bound
    · have cell : b.isCellType = true := by
        rcases accepted.isApType_or_isCellType with isAp | isCell
        · exact absurd isAp ap
        · exact isCell
      have bound := findPosition_cell cell (r.live.drop n) kinds.aps
      rwa [split, length] at bound
  refine ⟨(findPosition skyRegisterPlugins b r.live).index, by rwa [shows.length_live] at range,
    place, ?_⟩
  have list :
      (EmbeddedClient.placeBeacon skyRegisterPlugins r errno b).rctx.live.map Beacon.unranked =
      l.insertIdx (findPosition skyRegisterPlugins b r.live).index b.unranked := by
    show (SkyRctx.live (r.setLive _)).map Beacon.unranked = _
    rw [live_setLive, List.map_insertIdx, same.1, same.2, shows.list]
  refine ⟨list, ?_, ?_⟩
  · rw [← list, List.length_map]
    show (List.insertIdx _ _ _).length = (SkyRctx.live (r.setLive _)).length
    rw [live_setLive]
  · show (if b.isApType then r.numAp + 1 else r.numAp) = _
    rw [shows.numAp]

end SkyRctx.Shows

theorem skyPluginRemoveWorst_of_lt (order : r.numAp ≤ r.numBeacons)
    (many : s.config.maxApBeacons.toNat < r.numAp) :
    ∃ i < r.numAp, skyPluginRemoveWorst s skyRegisterPlugins r =
      (.success, (removeBeacon (ApPlugin.setPriorities s r).1 i).2) := by
  obtain ⟨i, range, removed⟩ := ApPlugin.removeWorst_of_lt order many
  exact ⟨i, range, skyPluginRemoveWorst_of_success .apPluginBasic _ removed⟩

theorem skyPluginRemoveWorst_of_le (few : r.numAp ≤ s.config.maxApBeacons.toNat) :
    skyPluginRemoveWorst s skyRegisterPlugins r =
      skyPluginRemoveWorst s [.cellPluginBasic] (ApPlugin.setPriorities s r).1 :=
  skyPluginRemoveWorst_of_error .apPluginBasic _ (ApPlugin.removeWorst_of_le few)

theorem SkyRctx.Shows.cellRemoveWorst (shows : r.Shows l n) (ordered : InOrder l n)
    (bound : l.length < 65536) (many : s.config.maxCells < l.length - n) :
    CellPlugin.removeWorst s r = (.success, (EmbeddedClient.removeBeacon r (l.length - 1)).2) := by
  have count := ordered.numAp_le
  have numAp := shows.numAp
  have numBeacons := shows.numBeacons
  have cells : numCells r.numBeacons r.numAp = l.length - n := by
    rw [numCells_eq (by omega) (by omega), numAp, numBeacons]
  have last : (r.numBeacons : ℤ) - 1 = (l.length - 1 : ℕ) := by omega
  have range : l.length - 1 < l.length := by omega
  have cell : (r.slot (l.length - 1 : ℕ)).isCellType = true := by
    rw [← Beacon.unranked_isCellType, shows.slot range]
    refine ordered.cells _ (List.mem_drop_iff_getElem.2 ⟨l.length - 1 - n, by omega, ?_⟩)
    congr 1
    omega
  unfold CellPlugin.removeWorst
  rw [if_neg (by omega), last, if_pos cell, numBeacons]
  exact Prod.ext (ApPlugin.removeBeacon_fst (by omega)) rfl

/-- What the filter of `add_beacon` does: nothing, or it removes an AP, or the last cell. -/
theorem filterBeacons_cases {added : AddResult} (plugins : s.plugins = skyRegisterPlugins)
    (shows : added.rctx.Shows l n) (ordered : InOrder l n) (bound : l.length < 65536) :
    (n ≤ s.config.maxApBeacons.toNat ∧ l.length - n ≤ s.config.maxCells ∧
        filterBeacons s added = added) ∨
      (s.config.maxApBeacons.toNat < n ∧ ∃ i < n, filterBeacons s added =
        { added with
          errno := .none, rctx := (removeBeacon (ApPlugin.setPriorities s added.rctx).1 i).2 }) ∨
      (n ≤ s.config.maxApBeacons.toNat ∧ s.config.maxCells < l.length - n ∧ filterBeacons s added =
        { added with
          errno := .none
          rctx := (removeBeacon (ApPlugin.setPriorities s added.rctx).1 (l.length - 1)).2 }) := by
  have count := ordered.numAp_le
  have numAp := shows.numAp
  have numBeacons := shows.numBeacons
  have limits := withinLimits_iff (s := s) (r := added.rctx) (by omega) (by omega)
  rw [numAp, numBeacons] at limits
  by_cases within : withinLimits s added.rctx = true
  · have kept : filterBeacons s added = added := by rw [filterBeacons, if_pos within]
    rw [limits] at within
    exact .inl ⟨within.1, within.2, kept⟩
  · have result {r' : SkyRctx}
        (removed : skyPluginRemoveWorst s s.plugins added.rctx = (.success, r')) :
        filterBeacons s added = { added with errno := .none, rctx := r' } := by
      rw [filterBeacons, if_neg within, removed]
    rw [limits] at within
    right
    by_cases few : n ≤ s.config.maxApBeacons.toNat
    · have many : s.config.maxCells < l.length - n := by omega
      refine .inr ⟨few, many, result ?_⟩
      have pair := (shows.setPriorities s).cellRemoveWorst ordered bound many
      rw [plugins, skyPluginRemoveWorst_of_le (by omega)]
      exact skyPluginRemoveWorst_of_success .cellPluginBasic [] pair
    · obtain ⟨i, range, removed⟩ :=
        skyPluginRemoveWorst_of_lt (s := s) (r := added.rctx) (by omega) (by omega)
      rw [← plugins] at removed
      exact .inl ⟨not_le.1 few, i, by omega, result removed⟩

inductive FilterEffect (c : SkyConfig) (l : List Beacon) (n : ℕ) : List Beacon → ℕ → Prop
  | kept (aps : n ≤ c.maxApBeacons.toNat) (cells : l.length - n ≤ c.maxCells) :
      FilterEffect c l n l n
  | apRemoved (many : c.maxApBeacons.toNat < n) (i : ℕ) (range : i < n) :
    FilterEffect c l n (l.eraseIdx i) (n - 1)
  | cellRemoved (few : n ≤ c.maxApBeacons.toNat) (many : c.maxCells < l.length - n) :
    FilterEffect c l n l.dropLast n

theorem filterBeacons_effect {added : AddResult} (plugins : s.plugins = skyRegisterPlugins)
    (status : added.status = .success) (shows : added.rctx.Shows l n) (ordered : InOrder l n)
    (bound : l.length < 65536) :
    (filterBeacons s added).status = .success ∧
      ∃ l' n', (filterBeacons s added).rctx.Shows l' n' ∧ FilterEffect s.config l n l' n' := by
  have count := ordered.numAp_le
  have ranked := shows.setPriorities s
  rcases filterBeacons_cases plugins shows ordered bound with
    ⟨aps, cells, result⟩ | ⟨many, i, range, result⟩ | ⟨few, many, result⟩
  · rw [result]
    exact ⟨status, l, n, shows, .kept aps cells⟩
  · rw [result]
    refine ⟨status, l.eraseIdx i, n - 1, ?_, .apRemoved many i range⟩
    have erased := ranked.removeBeacon (show i < l.length by omega)
    rwa [if_pos ((ordered.isApType_iff _).2 range)] at erased
  · rw [result]
    refine ⟨status, l.dropLast, n, ?_, .cellRemoved few many⟩
    have erased := ranked.removeBeacon (show l.length - 1 < l.length by omega)
    have notAp : ¬ l[l.length - 1].isApType = true := by
      rw [ordered.isApType_iff]
      omega
    rwa [if_neg notAp, List.eraseIdx_length_sub_one] at erased

inductive InsertEffect (l : List Beacon) (n : ℕ) (b : Beacon) : List Beacon → ℕ → Prop
  | rejected (j : ℕ) (range : j < l.length) (same : SameBeacon b l[j])
    (worse : b.betterDuplicate l[j] = false) : InsertEffect l n b l n
  | replaced (j : ℕ) (range : j < l.length) (same : SameBeacon b l[j])
    (better : b.betterDuplicate l[j] = true) (i : ℕ) (le : i ≤ (l.eraseIdx j).length)
    (place : if b.isApType then i + 1 ≤ n else n ≤ i) :
    InsertEffect l n b ((l.eraseIdx j).insertIdx i b) n
  | stored (fresh : ∀ c ∈ l, ¬ SameBeacon b c) (i : ℕ) (le : i ≤ l.length)
    (place : if b.isApType then i ≤ n else n ≤ i) :
    InsertEffect l n b (l.insertIdx i b) (if b.isApType then n + 1 else n)

theorem insertBeacon_effect (shows : r.Shows l n) (ordered : InOrder l n)
    (errno : SkyErrno) (accepted : b.Accepted) :
    (insertBeacon skyRegisterPlugins r errno b).status = .success ∧
      ∃ l' n', (insertBeacon skyRegisterPlugins r errno b).rctx.Shows l' n' ∧
        InsertEffect l n b.unranked l' n' := by
  have sameBeacon {i : ℕ} (range : i < r.live.length) (range' : i < l.length) :
      SameBeacon b.unranked l[i] ↔ SameBeacon b r.live[i] := by
    apply sameBeacon_congr b.scan_unranked
    simp only [← shows.list, List.getElem_map, Beacon.scan_unranked]
  have better {i : ℕ} (range : i < r.live.length) (range' : i < l.length) :
      b.unranked.betterDuplicate l[i] = b.betterDuplicate r.live[i] := by
    simp only [← shows.list, List.getElem_map]
    rfl
  have length := shows.length_live
  have branch := insertBeacon_branch r errno accepted.typed
  generalize insertBeacon skyRegisterPlugins r errno b = added at branch
  cases branch with
  | rejected j range same worse =>
    have range' : j < l.length := by omega
    exact ⟨rfl, l, n, shows, .rejected j range' ((sameBeacon range range').2 same)
      (by rw [better range range', worse])⟩
  | absent errno' absent =>
    have fresh : ∀ c ∈ l, ¬ SameBeacon b.unranked c := by
      intro c member same
      obtain ⟨j, range', rfl⟩ := List.mem_iff_getElem.1 member
      have range : j < r.live.length := by omega
      exact absent _ (List.getElem_mem range) ((sameBeacon range range').1 same)
    obtain ⟨i, le, place, placed⟩ := shows.placeBeacon ordered errno' accepted
    exact ⟨rfl, _, _, placed, .stored fresh i le place⟩
  | better errno' i range same isBetter =>
    have range' : i < l.length := by omega
    have removed := shows.removeBeacon range'
    have kind : b.isApType = l[i].isApType :=
      ((sameBeacon range range').2 same).isApType_eq
    obtain ⟨k, le, place, placed⟩ := removed.placeBeacon (ordered.eraseIdx range') errno' accepted
    have front := ordered.isApType_iff range'
    rw [← kind] at front place placed
    have count : (if b.isApType then (if b.isApType then n - 1 else n) + 1
        else if b.isApType then n - 1 else n) = n := by
      split_ifs with ap
      · have := front.1 ap
        omega
      · rfl
    rw [count] at placed
    refine ⟨rfl, _, _, placed, .replaced i range' ((sameBeacon range range').2 same)
      (by rw [better range range', isBetter]) k le ?_⟩
    rw [Beacon.unranked_isApType]
    split_ifs at place ⊢ with ap
    · have := front.1 ap
      omega
    · exact place

theorem InsertEffect.length_le {l' : List Beacon} {n' : ℕ} (effect : InsertEffect l n b l' n') :
    l'.length ≤ l.length + 1 := by
  cases effect with
  | rejected => omega
  | stored fresh i le place => rw [List.length_insertIdx_of_le_length le]
  | replaced j range same better i le place =>
    rw [List.length_insertIdx_of_le_length le, List.length_eraseIdx_of_lt range]
    omega

theorem InOrder.fresh_eraseIdx (ordered : InOrder l n) {i : ℕ} (range : i < l.length)
    (same : SameBeacon b l[i]) : ∀ c ∈ l.eraseIdx i, ¬ SameBeacon b c := by
  intro c member same'
  obtain ⟨j, rangeJ, differ, rfl⟩ := List.mem_eraseIdx_iff_getElem.1 member
  have pairs := List.pairwise_iff_getElem.1 ordered.distinct
  have both := same.symm.trans same'
  rcases Nat.lt_or_gt_of_ne differ with before | after
  · exact pairs j i rangeJ range before both.symm
  · exact pairs i j range rangeJ after both

theorem InsertEffect.mem {l' : List Beacon} {n' : ℕ} (effect : InsertEffect l n b l' n') :
    ∀ c ∈ l', c = b ∨ c ∈ l := by
  cases effect with
  | rejected => exact fun c member => .inr member
  | stored fresh i le place => exact fun c member => (List.mem_insertIdx le).1 member
  | replaced j range same better i le place =>
    intro c member
    exact ((List.mem_insertIdx le).1 member).imp_right List.mem_of_mem_eraseIdx

theorem InsertEffect.inOrder {l' : List Beacon} {n' : ℕ} (effect : InsertEffect l n b l' n')
    (ordered : InOrder l n) (accepted : b.Accepted) : InOrder l' n' := by
  cases effect with
  | rejected => exact ordered
  | stored fresh i le place => exact ordered.insertIdx accepted fresh le place
  | replaced j range same better i le place =>
    have front := ordered.isApType_iff range
    rw [← same.isApType_eq] at front
    have inserted :=
      (ordered.eraseIdx range).insertIdx accepted (ordered.fresh_eraseIdx range same) le
      (by
        rw [← same.isApType_eq]
        split_ifs at place ⊢ with ap
        · omega
        · exact place)
    rw [← same.isApType_eq] at inserted
    split_ifs at inserted with ap
    · have := front.1 ap
      rwa [Nat.sub_add_cancel (by omega)] at inserted
    · exact inserted

theorem FilterEffect.sublist {c : SkyConfig} {l' : List Beacon} {n' : ℕ}
    (effect : FilterEffect c l n l' n') : l'.Sublist l := by
  cases effect with
  | kept => exact .refl l
  | apRemoved many i range => exact List.eraseIdx_sublist l i
  | cellRemoved few many => exact List.dropLast_sublist l

theorem FilterEffect.inOrder {c : SkyConfig} {l' : List Beacon} {n' : ℕ}
    (effect : FilterEffect c l n l' n') (ordered : InOrder l n) : InOrder l' n' := by
  have count := ordered.numAp_le
  cases effect with
  | kept => exact ordered
  | apRemoved many i range =>
    have erased := ordered.eraseIdx (show i < l.length by omega)
    rwa [if_pos ((ordered.isApType_iff _).2 range)] at erased
  | cellRemoved few many =>
    have erased := ordered.eraseIdx (show l.length - 1 < l.length by omega)
    rwa [if_neg (by rw [ordered.isApType_iff]; omega), List.eraseIdx_length_sub_one] at erased

theorem SkyRctx.Shows.toListed (shows : r.Shows l n) (ordered : InOrder l n) : r.Listed := by
  constructor
  · rw [shows.length_live, shows.numBeacons]
  · rw [shows.numAp]
    exact ordered.of_unranked (by rw [← shows.list]; simp)

/-- How an accepted beacon is added: it is inserted, and a list that has become longer
is filtered. -/
inductive AddEffect (c : SkyConfig) (l : List Beacon) (n : ℕ) (b : Beacon)
    (l' : List Beacon) (n' : ℕ) :
    Prop
  | sameLength (inserted : InsertEffect l n b l' n') (length : l'.length = l.length)
  | longer (l₁ : List Beacon) (n₁ : ℕ) (inserted : InsertEffect l n b l₁ n₁)
    (length : l₁.length ≠ l.length) (filtered : FilterEffect c l₁ n₁ l' n')

theorem AddEffect.inOrder {c : SkyConfig} {l' : List Beacon} {n' : ℕ}
    (effect : AddEffect c l n b l' n') (ordered : InOrder l n) (accepted : b.Accepted) :
    InOrder l' n' := by
  cases effect with
  | sameLength inserted length => exact inserted.inOrder ordered accepted
  | longer l₁ n₁ inserted length filtered =>
    exact filtered.inOrder (inserted.inOrder ordered accepted)

theorem AddEffect.mem {c : SkyConfig} {l' : List Beacon} {n' : ℕ}
    (effect : AddEffect c l n b l' n') :
    ∀ d ∈ l', d = b ∨ d ∈ l := by
  cases effect with
  | sameLength inserted length => exact inserted.mem
  | longer l₁ n₁ inserted length filtered =>
    exact fun d member => inserted.mem d (filtered.sublist.subset member)

theorem addBeacon_effect (listed : r.Listed)
    (plugins : s.openFlag = true → s.plugins = skyRegisterPlugins) (errno : SkyErrno)
    {timestamp : ℤ} {age : UInt32} (accepts : AcceptsBeacon s r b timestamp age) :
    (addBeacon s r errno b timestamp).status = .success ∧
      ∃ l' n', (addBeacon s r errno b timestamp).rctx.Shows l' n' ∧
        AddEffect s.config (r.live.map Beacon.unranked) r.numAp
          (preparedBeacon s b age).unranked l' n' := by
  rcases addBeacon_cases s r errno b timestamp with
    ⟨e, -, -, refused, -⟩ | ⟨age', accepts', result⟩
  · exact absurd accepts (refused age)
  rw [result, accepts'.age_unique accepts, validateRequestCtx_snd listed.inOrder.accepted,
    plugins accepts.2.1]
  have accepted := (preparedBeacon_spec s age accepts.2.2.1).1
  have shows := listed.shows
  have ordered : InOrder (r.live.map Beacon.unranked) r.numAp :=
    listed.inOrder.of_unranked (by simp)
  have bound := (validateRequestCtx_bound accepts.1).1
  obtain ⟨status, l₁, n₁, shows₁, inserted⟩ := insertBeacon_effect shows ordered errno accepted
  generalize insertBeacon skyRegisterPlugins r errno (preparedBeacon s b age) = added
    at status shows₁
  unfold finishAdd
  rw [if_neg (by simp [status]), shows₁.numBeacons, shows.numBeacons]
  by_cases length : l₁.length = (r.live.map Beacon.unranked).length
  · rw [if_pos length]
    exact ⟨status, l₁, n₁, shows₁, .sameLength inserted length⟩
  · rw [if_neg length]
    have ordered₁ := inserted.inOrder ordered (accepted.congr (Beacon.scan_unranked _).symm)
    have short : l₁.length < 65536 := by
      have := inserted.length_le
      have := shows.numBeacons
      simp only [TOTAL_BEACONS] at bound
      omega
    obtain ⟨status', l', n', shows', filtered⟩ :=
      filterBeacons_effect (plugins accepts.2.1) status shows₁ ordered₁ short
    exact ⟨status', l', n', shows', .longer l₁ n₁ inserted length filtered⟩

/-- The counters are within what the configuration allows. -/
structure SkyRctx.WithinLimits (c : SkyConfig) (r : SkyRctx) : Prop where
  aps : r.numAp ≤ c.maxApBeacons.toNat
  cells : r.numBeacons - r.numAp ≤ c.totalBeacons.toNat - c.maxApBeacons.toNat

/-- The list after `b` has been added to `l`: the same for a worse duplicate, otherwise with
`b` inserted and at most one beacon gone, which is the duplicate or one of the kind of `b`. -/
inductive AddedTo (l : List Beacon) (b : Beacon) : List Beacon → Prop
  | worseDuplicate (j : ℕ) (range : j < l.length) (same : SameBeacon b l[j])
    (worse : b.betterDuplicate l[j] = false) : AddedTo l b l
  | betterDuplicate (j : ℕ) (range : j < l.length) (same : SameBeacon b l[j])
    (better : b.betterDuplicate l[j] = true) (i : ℕ) (le : i ≤ (l.eraseIdx j).length) :
    AddedTo l b ((l.eraseIdx j).insertIdx i b)
  | inserted (fresh : ∀ c ∈ l, ¬ SameBeacon b c) (i : ℕ) (le : i ≤ l.length) :
    AddedTo l b (l.insertIdx i b)
  | evicted (fresh : ∀ c ∈ l, ¬ SameBeacon b c) (i : ℕ) (le : i ≤ l.length) (k : ℕ)
    (range : k < (l.insertIdx i b).length) (kind : (l.insertIdx i b)[k].isApType = b.isApType) :
    AddedTo l b ((l.insertIdx i b).eraseIdx k)

theorem SkyConfig.maxCells_eq {c : SkyConfig}
    (order : c.maxApBeacons.toNat ≤ c.totalBeacons.toNat) :
    c.maxCells = c.totalBeacons.toNat - c.maxApBeacons.toNat :=
  UInt32.toNat_sub_of_le _ _ (UInt32.le_iff_toNat_le.2 order)

theorem AddEffect.addedTo {c : SkyConfig} {l' : List Beacon} {n' : ℕ}
    (effect : AddEffect c l n b l' n') (ordered : InOrder l n) (accepted : b.Accepted)
    (aps : n ≤ c.maxApBeacons.toNat) (cells : l.length - n ≤ c.maxCells) :
    AddedTo l b l' ∧ n' ≤ c.maxApBeacons.toNat ∧ l'.length - n' ≤ c.maxCells := by
  have count := ordered.numAp_le
  cases effect with
  | sameLength inserted length =>
    cases inserted with
    | rejected j range same worse => exact ⟨.worseDuplicate j range same worse, aps, cells⟩
    | replaced j range same better i le place =>
      exact ⟨.betterDuplicate j range same better i le, aps, by rwa [length]⟩
    | stored fresh i le place =>
      rw [List.length_insertIdx_of_le_length le] at length
      omega
  | longer l₁ n₁ inserted length filtered =>
    cases inserted with
    | rejected => exact absurd rfl length
    | replaced j range same better i le place =>
      rw [List.length_insertIdx_of_le_length le, List.length_eraseIdx_of_lt range] at length
      omega
    | stored fresh i le place =>
      have ordered₁ := ordered.insertIdx accepted fresh le place
      have longer := List.length_insertIdx_of_le_length le b
      have front (k : ℕ) (range : k < (l.insertIdx i b).length) := ordered₁.isApType_iff range
      cases filtered with
      | kept aps' cells' => exact ⟨.inserted fresh i le, aps', cells'⟩
      | apRemoved many k range =>
        have isAp : b.isApType = true := by
          by_contra cell
          rw [if_neg cell] at many
          omega
        rw [if_pos isAp] at many range ⊢
        refine ⟨.evicted fresh i le k (by omega) ?_, by omega, ?_⟩
        · rw [isAp, front k (by omega), if_pos isAp]
          exact range
        · rw [List.length_eraseIdx_of_lt (by omega), longer]
          omega
      | cellRemoved few many =>
        have notAp : ¬ b.isApType = true := by
          intro isAp
          rw [if_pos isAp] at many
          omega
        rw [if_neg notAp] at many few ⊢
        rw [← List.eraseIdx_length_sub_one]
        refine ⟨.evicted fresh i le _ (by omega) ?_, few, ?_⟩
        · have last := front ((l.insertIdx i b).length - 1) (by omega)
          rw [if_neg notAp] at last
          rw [Bool.eq_false_iff.2 notAp, Bool.eq_false_iff, ne_eq, last]
          omega
        · rw [List.length_eraseIdx_of_lt (by omega), longer]
          omega

/-- One add is atomic and bounded. -/
theorem addBeacon_atomic (errno : SkyErrno) (b : Beacon) (timestamp : ℤ)
    (plugins : s.openFlag = true → s.plugins = skyRegisterPlugins) (listed : r.Listed)
    (order : s.config.maxApBeacons.toNat ≤ s.config.totalBeacons.toNat)
    (limits : r.WithinLimits s.config) :
    let added := addBeacon s r errno b timestamp
    (added.status = .error → added.rctx = r ∧ added.errno ≠ .internal) ∧
      (added.status = .success → added.rctx.Listed ∧ added.rctx.WithinLimits s.config ∧
        ∃ age, beaconAge r.header.time timestamp = .ok age ∧
          AddedTo (r.live.map Beacon.unranked) (preparedBeacon s b age).unranked
            (added.rctx.live.map Beacon.unranked)) := by
  intro added
  rcases addBeacon_cases s r errno b timestamp with
    ⟨e, -, notInternal, -, result⟩ | ⟨age, accepts, -⟩
  · have eq : added = ⟨.error, e, r, none⟩ := by
      rw [← validateRequestCtx_snd listed.inOrder.accepted]
      exact result
    rw [eq]
    exact ⟨fun _ => ⟨rfl, notInternal⟩, fun success => by simp at success⟩
  · obtain ⟨status, l', n', shows, effect⟩ := addBeacon_effect listed plugins errno accepts
    have ordered : InOrder (r.live.map Beacon.unranked) r.numAp :=
      listed.inOrder.of_unranked (by simp)
    have accepted := (preparedBeacon_spec s age accepts.2.2.1).1.congr (Beacon.scan_unranked _).symm
    have cells : (r.live.map Beacon.unranked).length - r.numAp ≤ s.config.maxCells := by
      rw [List.length_map, listed.full, SkyConfig.maxCells_eq order]
      exact limits.cells
    obtain ⟨addedTo, aps', cells'⟩ := effect.addedTo ordered accepted limits.aps cells
    refine ⟨fun failed => ?_, fun _ => ⟨shows.toListed (effect.inOrder ordered accepted), ?_, age,
      accepts.2.2.2, ?_⟩⟩
    · rw [show added.status = .success from status] at failed
      contradiction
    · constructor
      · rwa [shows.numAp]
      · rw [shows.numAp, shows.numBeacons, ← SkyConfig.maxCells_eq order]
        exact cells'
    · rwa [shows.list]

def oneApSession : SkySctx :=
  { openedSession with config := { openedSession.config with maxApBeacons := 1 } }

/-- A full request with one AP takes a stronger one. -/
theorem strongerAp_atomic :
    (addBeacon oneApSession oneApRequest .none (apCall 2 (-50)).beacon 1600000000).status =
        .success ∧
      AddedTo (oneApRequest.live.map Beacon.unranked)
        (preparedBeacon oneApSession (apCall 2 (-50)).beacon 0).unranked
        ((addBeacon oneApSession oneApRequest .none (apCall 2 (-50)).beacon
          1600000000).rctx.live.map Beacon.unranked) := by
  have status : (addBeacon oneApSession oneApRequest .none (apCall 2 (-50)).beacon
      1600000000).status = .success := by decide +kernel
  have listed : oneApRequest.Listed := by
    refine ⟨by decide +kernel, by decide +kernel, by decide +kernel, by decide +kernel, ?_, ?_⟩
    · decide +kernel
    · decide +kernel
  have result := (addBeacon_atomic (s := oneApSession) .none (apCall 2 (-50)).beacon 1600000000
    (by decide +kernel) listed (by decide +kernel) ⟨by decide +kernel, by decide +kernel⟩).2 status
  obtain ⟨-, -, age, aged, added⟩ := result
  have zero : age = 0 := by
    have eq : beaconAge oneApRequest.header.time 1600000000 = .ok 0 := by decide +kernel
    rw [eq] at aged
    exact (Except.ok.inj aged).symm
  rw [zero] at added
  exact ⟨status, added⟩

end EmbeddedClient
