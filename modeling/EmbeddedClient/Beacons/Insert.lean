import EmbeddedClient.Beacons.Frame

/-!
# Insertion keeps the list

The comparison of the plugins puts APs before cells and stronger APs before
weaker ones, and the duplicate search leaves no equal beacon behind, so
`insert_beacon` takes a context that holds a beacon list to one that holds a
longer list or a list of the same length.
-/

namespace EmbeddedClient

/-- The context holds `l`, and its counters agree with it. -/
structure SkyRctx.Holds (r : SkyRctx) (l : BeaconList) : Prop where
  live : r.live = l.all
  numAp : r.numAp = l.aps.length
  numBeacons : r.numBeacons = l.all.length

namespace SkyRctx.Holds

variable {r r' : SkyRctx} {l : BeaconList}

theorem numAp_le (holds : r.Holds l) : r.numAp ≤ r.numBeacons := by
  rw [holds.numAp, holds.numBeacons, l.length_all]
  omega

theorem numBeacons_le (holds : r.Holds l) : r.numBeacons ≤ r.beacon.length := by
  have := congrArg List.length holds.live
  rw [← holds.numBeacons, SkyRctx.live, List.length_take] at this
  omega

theorem aps (holds : r.Holds l) : r.aps = l.aps := by
  have prefixed : r.aps = r.live.take r.numAp := by
    rw [SkyRctx.live, List.take_take, min_eq_left holds.numAp_le, SkyRctx.aps]
  rw [prefixed, holds.live, holds.numAp, BeaconList.all, List.take_left' rfl]

theorem slot (holds : r.Holds l) {i : ℕ} (range : i < l.all.length) : r.slot i = l.all[i] := by
  have inside : i < r.beacon.length := by
    have := holds.numBeacons_le
    have := holds.numBeacons
    omega
  simp [SkyRctx.slot, ← holds.live, SkyRctx.live, inside]

theorem accepted (holds : r.Holds l) : ∀ b ∈ r.live, b.Accepted := by
  rw [holds.live]
  exact l.accepted

theorem slot_isApType (holds : r.Holds l) {i : ℕ} (range : i < r.numAp) :
    (r.slot i).isApType = true := by
  have := l.length_all
  have := holds.numAp
  rw [holds.slot (by omega)]
  simp only [BeaconList.all]
  rw [List.getElem_append_left (by omega)]
  exact l.isApType _ (List.getElem_mem _)

theorem slot_isCellType (holds : r.Holds l) {i : ℕ} (below : r.numAp ≤ i)
    (range : i < r.numBeacons) : (r.slot i).isCellType = true := by
  have := l.length_all
  have := holds.numAp
  have := holds.numBeacons
  rw [holds.slot (by omega)]
  simp only [BeaconList.all]
  rw [List.getElem_append_right (by omega)]
  exact l.isCellType _ (List.getElem_mem _)

theorem setLive (r : SkyRctx) (l : BeaconList) (n : ℕ) (count : n = l.aps.length) :
    SkyRctx.Holds { r.setLive l.all with numAp := n } l where
  live := by simp [SkyRctx.live, SkyRctx.setLive]
  numAp := count
  numBeacons := rfl

theorem sameScan (holds : r.Holds l) (same : SameScan r r') :
    ∃ l' : BeaconList, r'.Holds l' ∧ l'.aps.length = l.aps.length ∧
      l'.all.length = l.all.length := by
  have live : r'.live.map Beacon.scan = l.all.map Beacon.scan := by rw [same.live, holds.live]
  refine ⟨l.rescan r'.live live, ⟨by simp, ?_, ?_⟩, by simp, ?_⟩
  · rw [same.numAp, holds.numAp, l.rescan_length_aps]
  · rw [same.numBeacons, holds.numBeacons, l.rescan_all, l.length_of_map_scan live]
  · rw [l.rescan_all, l.length_of_map_scan live]

end SkyRctx.Holds

theorem validateSlots_accepted (live : ℕ) (bs : List Beacon)
    (accepted : ∀ b ∈ bs.take live, b.Accepted) : (validateSlots live bs).2 = bs := by
  induction bs generalizing live with
  | nil => cases live <;> rfl
  | cons b bs ih =>
    cases live with
    | zero =>
      unfold validateSlots
      split_ifs
      · rfl
      · simp [ih 0 (by simp)]
    | succ live =>
      have first : validateBeacon b = (true, b) := accepted b (by simp)
      have rest := ih live fun c member => accepted c (by simp [member])
      simp [validateSlots, first, rest]

theorem validateRequestCtx_snd {r : SkyRctx} (accepted : ∀ b ∈ r.live, b.Accepted) :
    (validateRequestCtx r).2 = r := by
  unfold validateRequestCtx
  split_ifs
  · rfl
  · rfl
  · have slots := validateSlots_accepted r.numBeacons (r.beacon.take TOTAL_BEACONS) fun b member =>
      accepted b (by
        rw [List.take_take, Nat.min_comm, ← List.take_take] at member
        exact List.mem_of_mem_take member)
    simp only [slots, List.take_append_drop]
  · rfl

theorem isBeaconFirst_ap_ap {a b : Beacon} (ha : a.isApType = true) (hb : b.isApType = true) :
    ∃ diff, isBeaconFirst skyRegisterPlugins a b = (diff, a, b) ∧
      (0 < diff → b.rssi ≤ a.rssi) ∧ (¬ 0 < diff → a.rssi ≤ b.rssi) := by
  have compared : ∃ diff, ApPlugin.compare a b = some diff ∧
      ((a.h.rssi ≠ b.h.rssi ∧ diff = a.rssi - b.rssi) ∨ a.h.rssi = b.h.rssi) := by
    by_cases equal : a.h.rssi = b.h.rssi
    · exact ⟨compareMac a b, by simp [ApPlugin.compare, ha, hb, equal], .inr equal⟩
    · exact ⟨compareRssi a b, by simp [ApPlugin.compare, ha, hb, equal], .inl ⟨equal, rfl⟩⟩
  obtain ⟨diff, eq, order⟩ := compared
  refine ⟨if diff ≠ 0 then diff else 1, ?_, ?_⟩
  · simp [isBeaconFirst, skyPluginCompare, skyRegisterPlugins, SkyPluginTable.compare, eq]
  · obtain ⟨-, rfl⟩ | equal := order
    · split_ifs <;> omega
    · have : a.rssi = b.rssi := by rw [Beacon.rssi, Beacon.rssi, equal]
      omega

theorem skyPluginCompare_mixed {a b : Beacon} (mixed : a.isApType ≠ b.isApType) :
    skyPluginCompare skyRegisterPlugins a b = none := by
  have noAp : ApPlugin.compare a b = none := by
    unfold ApPlugin.compare
    apply if_pos
    cases ha : a.isApType <;> cases hb : b.isApType <;> simp_all
  have noCell : CellPlugin.compare a b = none := by
    unfold CellPlugin.compare
    apply if_pos
    cases ha : a.isApType with
    | true => simp [isCellType_of_isApType ha]
    | false =>
      have hb : b.isApType = true := by simpa [ha] using mixed.symm
      simp [isCellType_of_isApType hb]
  simp [skyPluginCompare, skyRegisterPlugins, SkyPluginTable.compare, noAp, noCell]

theorem apType_code {b : Beacon} (ap : b.isApType = true) : b.h.type.code = 1 := by
  rw [isApType_iff] at ap
  rw [ap]
  rfl

theorem cellType_code {b : Beacon} (cell : b.isCellType = true) : 3 ≤ b.h.type.code := by
  simp only [Beacon.isCellType, decide_eq_true_eq] at cell
  exact cell.1

theorem isBeaconFirst_ap_cell {a b : Beacon} (ap : a.isApType = true) (cell : b.isCellType = true) :
    isBeaconFirst skyRegisterPlugins a b = (1, a, b) := by
  have compared := skyPluginCompare_mixed (a := a) (b := b)
    (by rw [ap, isApType_of_isCellType cell]; decide)
  have order : 0 ≤ compareType a b := by
    have := apType_code ap
    have := cellType_code cell
    unfold compareType
    omega
  simp [isBeaconFirst, compared, isCellType_of_isApType ap, order]

theorem isBeaconFirst_cell_ap {a b : Beacon} (cell : a.isCellType = true) (ap : b.isApType = true) :
    isBeaconFirst skyRegisterPlugins a b = (-1, a, b) := by
  have compared := skyPluginCompare_mixed (a := a) (b := b)
    (by rw [ap, isApType_of_isCellType cell]; decide)
  have order : ¬ 0 ≤ compareType a b := by
    have := apType_code ap
    have := cellType_code cell
    unfold compareType
    omega
  simp [isBeaconFirst, compared, isCellType_of_isApType ap, order]

/-- Where an AP goes: behind the stronger APs and in front of the weaker ones. -/
theorem findPosition_ap {b : Beacon} (ap : b.isApType = true) {aps cells : List Beacon}
    (isAp : ∀ c ∈ aps, c.isApType = true) (isCell : ∀ c ∈ cells, c.isCellType = true)
    (sorted : aps.Pairwise fun a b => b.rssi ≤ a.rssi) :
    ∃ i ≤ aps.length, findPosition skyRegisterPlugins b (aps ++ cells) = ⟨i, b, aps ++ cells⟩ ∧
      (∀ c ∈ aps.take i, b.rssi ≤ c.rssi) ∧ ∀ c ∈ aps.drop i, c.rssi ≤ b.rssi := by
  induction aps with
  | nil =>
    refine ⟨0, le_rfl, ?_, by simp, by simp⟩
    cases cells with
    | nil => rfl
    | cons c cs => simp [findPosition, isBeaconFirst_ap_cell ap (isCell c (by simp))]
  | cons a aps ih =>
    obtain ⟨first, rest⟩ := List.pairwise_cons.1 sorted
    obtain ⟨diff, compared, stronger, weaker⟩ := isBeaconFirst_ap_ap ap (isAp a (by simp))
    by_cases before : 0 < diff
    · refine ⟨0, Nat.zero_le _, by simp [findPosition, compared, before], by simp,
        fun c member => ?_⟩
      obtain rfl | member := List.mem_cons.1 member
      · exact stronger before
      · exact (first c member).trans (stronger before)
    · obtain ⟨i, range, position, above, below⟩ :=
        ih (fun c member => isAp c (by simp [member])) rest
      refine ⟨i + 1, Nat.succ_le_succ range, ?_, fun c member => ?_, below⟩
      · simp [findPosition, compared, before, position]
      · obtain rfl | member := List.mem_cons.1 member
        · exact weaker before
        · exact above c member

theorem findPosition_ap_le {b : Beacon} (ap : b.isApType = true) (aps : List Beacon)
    {cells : List Beacon} (isCell : ∀ c ∈ cells, c.isCellType = true) :
    (findPosition skyRegisterPlugins b (aps ++ cells)).index ≤ aps.length := by
  induction aps generalizing b with
  | nil =>
    cases cells with
    | nil => exact Nat.zero_le _
    | cons c cs => simp [findPosition, isBeaconFirst_ap_cell ap (isCell c (by simp))]
  | cons a aps ih =>
    rw [List.cons_append, findPosition]
    dsimp only
    split_ifs
    · exact Nat.zero_le _
    · have same := (isBeaconFirst_unranked skyRegisterPlugins b a).1
      have stays : (isBeaconFirst skyRegisterPlugins b a).2.1.isApType = true := by
        rwa [← Beacon.unranked_isApType, same, Beacon.unranked_isApType]
      exact Nat.succ_le_succ (ih stays)

theorem findPosition_cell {b : Beacon} (cell : b.isCellType = true) {aps : List Beacon}
    (cells : List Beacon) (isAp : ∀ c ∈ aps, c.isApType = true) :
    aps.length ≤ (findPosition skyRegisterPlugins b (aps ++ cells)).index := by
  induction aps with
  | nil => exact Nat.zero_le _
  | cons a aps ih =>
    have compared := isBeaconFirst_cell_ap cell (isAp a (by simp))
    have rest := ih fun c member => isAp c (by simp [member])
    simpa [findPosition, compared] using rest

theorem insertIdx_eq_take_drop {α : Type*} {i : ℕ} {l : List α} (range : i ≤ l.length) (a : α) :
    l.insertIdx i a = l.take i ++ a :: l.drop i := by
  induction l generalizing i with
  | nil =>
    obtain rfl : i = 0 := by simpa using range
    rfl
  | cons b l ih =>
    cases i with
    | zero => rfl
    | succ i => simp [ih (by simpa using range)]

theorem drop_insertIdx {α : Type*} {i n : ℕ} {l : List α} (range : i ≤ l.length)
    (le : i ≤ n) (a : α) :
    (l.insertIdx i a).drop (n + 1) = l.drop n := by
  have length : (l.take i).length = i := List.length_take_of_le range
  rw [insertIdx_eq_take_drop range, List.drop_append, length, List.drop_eq_nil_of_le (by omega),
    show n + 1 - i = n - i + 1 by omega, List.drop_succ_cons, List.drop_drop, List.nil_append]
  congr 1
  omega

theorem placed_holds {l : BeaconList} {b : Beacon} (accepted : b.Accepted)
    (fresh : l.Fresh b) :
    ∃ l' : BeaconList,
      (let pos := findPosition skyRegisterPlugins b l.all
       pos.beacons.insertIdx pos.index pos.beacon = l'.all) ∧
      l'.aps.length = l.aps.length + b.isApType.toNat ∧ l'.all.length = l.all.length + 1 := by
  obtain ap | cell := accepted.isApType_or_isCellType
  · obtain ⟨i, range, position, above, below⟩ :=
      findPosition_ap ap l.isApType l.isCellType l.sorted
    refine ⟨l.insertAp b i accepted ap fresh above below, ?_, ?_, ?_⟩
    · simp only [BeaconList.all, position, BeaconList.insertAp]
      rw [insertIdx_eq_take_drop (by simp; omega), List.take_append_of_le_length range,
        List.drop_append_of_le_length range]
      simp
    · simp [BeaconList.insertAp, ap]
      omega
    · simp [BeaconList.all, BeaconList.insertAp]
      omega
  · have notAp := isApType_of_isCellType cell
    have position := findPosition_scan skyRegisterPlugins b l.all
    have upper := findPosition_index_le skyRegisterPlugins b l.all
    have lower := findPosition_cell cell l.cells l.isApType
    generalize pos : findPosition skyRegisterPlugins b l.all = p at position upper
    rw [BeaconList.all] at pos
    rw [pos] at lower
    let inserted := l.insertCell b (p.index - l.aps.length) accepted cell fresh
    have split : inserted.all = l.all.insertIdx p.index b := by
      rw [insertIdx_eq_take_drop upper]
      simp [inserted, BeaconList.all, BeaconList.insertCell, List.take_append, List.drop_append,
        List.take_of_length_le lower, List.drop_eq_nil_of_le lower]
    have same : (p.beacons.insertIdx p.index p.beacon).map Beacon.scan =
        inserted.all.map Beacon.scan := by
      rw [split, List.map_insertIdx, List.map_insertIdx, position.1, position.2]
    refine ⟨inserted.rescan _ same, by simp, ?_, ?_⟩
    · simp [inserted, BeaconList.insertCell, notAp]
    · rw [BeaconList.rescan_all, inserted.length_of_map_scan same, split,
        List.length_insertIdx_of_le_length upper]

end EmbeddedClient
