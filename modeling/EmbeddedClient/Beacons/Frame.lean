import EmbeddedClient.Beacons.List

/-!
# Writes to scratch fields

Setting priorities, granting children of virtual groups, taking over used
information and the comparisons themselves write scratch fields only: the list
of the context is the same up to `Beacon.scan`, and nothing else changes.
-/

namespace EmbeddedClient

open Binary32 (FloatVal)

/-- `r'` differs from `r` in scratch fields only. -/
structure SameScan (r r' : SkyRctx) : Prop where
  rest : r' = { r with beacon := r'.beacon }
  beacon : r'.beacon.map Beacon.scan = r.beacon.map Beacon.scan

namespace SameScan

variable {r r' r'' : SkyRctx}

theorem refl (r : SkyRctx) : SameScan r r := ⟨rfl, rfl⟩

theorem of_beacon {bs : List Beacon} (same : bs.map Beacon.scan = r.beacon.map Beacon.scan) :
    SameScan r { r with beacon := bs } := ⟨rfl, same⟩

theorem numAp (same : SameScan r r') : r'.numAp = r.numAp := by rw [same.rest]

theorem numBeacons (same : SameScan r r') : r'.numBeacons = r.numBeacons := by rw [same.rest]

theorem header (same : SameScan r r') : r'.header = r.header := by rw [same.rest]

theorem live (same : SameScan r r') : r'.live.map Beacon.scan = r.live.map Beacon.scan := by
  rw [SkyRctx.live, SkyRctx.live, List.map_take, List.map_take, same.beacon, same.numBeacons]

end SameScan

theorem aps_replaced {r : SkyRctx} {l : List Beacon} (length : l.length = r.aps.length) :
    ({ r with beacon := l ++ r.beacon.drop r.numAp } : SkyRctx).aps = l := by
  rw [SkyRctx.aps, List.length_take] at length
  show (l ++ r.beacon.drop r.numAp).take r.numAp = l
  by_cases enough : r.numAp ≤ r.beacon.length
  · rw [List.take_left' (by omega)]
  · rw [List.drop_eq_nil_of_le (by omega), List.append_nil, List.take_of_length_le (by omega)]

theorem sameScan_aps {r : SkyRctx} {aps : List Beacon}
    (same : aps.map Beacon.scan = r.aps.map Beacon.scan) :
    SameScan r { r with beacon := aps ++ r.beacon.drop r.numAp } := by
  refine .of_beacon ?_
  rw [List.map_append, same, ← List.map_append, SkyRctx.aps, List.take_append_drop]

namespace ApPlugin

theorem map_unranked_modify {f : Beacon → Beacon} (same : ∀ b, (f b).unranked = b.unranked) (i : ℕ)
    (bs : List Beacon) : (bs.modify i f).map Beacon.unranked = bs.map Beacon.unranked := by
  induction bs generalizing i with
  | nil => simp
  | cons b bs ih => cases i <;> simp [ih, same]

theorem setPrioritiesLoop_unranked (s : SkySctx) (weakOnly : Bool) (jump : ℕ) (j upDown : ℤ)
    (r : SkyRctx) (idx : ℕ) (worst : FloatVal) :
    ∃ bs, (setPrioritiesLoop s weakOnly jump j upDown r idx worst).1 = { r with beacon := bs } ∧
      bs.map Beacon.unranked = r.beacon.map Beacon.unranked ∧
      bs.drop r.numAp = r.beacon.drop r.numAp := by
  induction jump generalizing j upDown r idx worst with
  | zero => exact ⟨r.beacon, rfl, rfl, rfl⟩
  | succ jump ih =>
    unfold setPrioritiesLoop
    split_ifs with range
    · let visited := setPriority r j.toNat (getPriority r j.toNat)
      have same : visited.beacon.map Beacon.unranked = r.beacon.map Beacon.unranked :=
        map_unranked_modify (fun b => by rfl) ..
      have behind : visited.beacon.drop r.numAp = r.beacon.drop r.numAp :=
        List.drop_modify_of_lt _ _ _ _ (by omega)
      have next (idx : ℕ) (worst : FloatVal) : ∃ bs,
          (setPrioritiesLoop s weakOnly jump (j + upDown * jump) (-upDown) visited idx worst).1 =
            { r with beacon := bs } ∧
          bs.map Beacon.unranked = r.beacon.map Beacon.unranked ∧
          bs.drop r.numAp = r.beacon.drop r.numAp := by
        obtain ⟨bs, eq, same', behind'⟩ := ih (j + upDown * jump) (-upDown) visited idx worst
        exact ⟨bs, eq, same'.trans same, behind'.trans behind⟩
      dsimp only
      split_ifs
      · exact next _ _
      · exact next _ _
    · exact ⟨r.beacon, rfl, rfl, rfl⟩

theorem setPriorities_unranked (s : SkySctx) (r : SkyRctx) :
    ∃ bs, (setPriorities s r).1 = { r with beacon := bs } ∧
      bs.map Beacon.unranked = r.beacon.map Beacon.unranked ∧
      bs.drop r.numAp = r.beacon.drop r.numAp :=
  setPrioritiesLoop_unranked ..

theorem sameScan_setPriorities (s : SkySctx) (r : SkyRctx) : SameScan r (setPriorities s r).1 := by
  obtain ⟨bs, eq, same, -⟩ := setPriorities_unranked s r
  rw [eq]
  exact .of_beacon (Beacon.map_scan_of_unranked same)

theorem setPrioritiesLoop_idx_lt (s : SkySctx) (weakOnly : Bool) (jump : ℕ) (j upDown : ℤ)
    (r : SkyRctx) {idx n : ℕ} (worst : FloatVal) (count : r.numAp ≤ n) (start : idx < n) :
    (setPrioritiesLoop s weakOnly jump j upDown r idx worst).2 < n := by
  induction jump generalizing j upDown r idx worst with
  | zero => exact start
  | succ jump ih =>
    unfold setPrioritiesLoop
    split_ifs with range
    · dsimp only
      have : (setPriority r j.toNat (getPriority r j.toNat)).numAp ≤ n := count
      split_ifs
      · exact ih _ _ _ _ this (by omega)
      · exact ih _ _ _ _ this start
    · exact start

theorem setPriorities_idx_lt (s : SkySctx) (r : SkyRctx) (some : 0 < r.numAp) :
    (setPriorities s r).2 < r.numAp :=
  setPrioritiesLoop_idx_lt s _ _ _ _ r _ le_rfl (by omega)

end ApPlugin

theorem selectVapRound_length (budget nvap : ℕ) (noMore : Bool) (caps : List (ℕ × ℕ)) :
    (selectVapRound budget nvap noMore caps).1.length = caps.length := by
  induction caps generalizing nvap noMore with
  | nil => rfl
  | cons cap caps ih =>
    unfold selectVapRound
    split_ifs <;> simp [ih]

theorem selectVapRounds_length (budget fuel nvap : ℕ) (caps : List (ℕ × ℕ)) :
    (selectVapRounds budget fuel nvap caps).length = caps.length := by
  induction fuel generalizing nvap caps with
  | zero => rfl
  | succ fuel ih =>
    unfold selectVapRounds
    split_ifs
    · dsimp only
      split_ifs
      · exact selectVapRound_length ..
      · rw [ih, selectVapRound_length]
    · rfl

@[simp] theorem Beacon.scan_setVap (b : Beacon) (j cap : ℕ) : (b.setVap j cap).scan = b.scan := rfl

theorem sameScan_selectVap (s : SkySctx) (r : SkyRctx) : SameScan r (selectVap s r) := by
  refine sameScan_aps (List.ext_getElem ?_ fun i _ _ => ?_)
  · simp [selectVapRounds_length]
  · simp

@[simp] theorem Beacon.scan_setVgProp (b : Beacon) (v : ℕ) (used : Bool) :
    (b.setVgProp v used).scan = b.scan := by
  unfold Beacon.setVgProp
  split_ifs <;> rfl

theorem usedInfoAps_scan (used : List UInt8) (nap : ℕ) (bs : List Beacon) :
    (usedInfoAps used nap bs).2.map Beacon.scan = bs.map Beacon.scan := by
  induction bs generalizing nap with
  | nil => rfl
  | cons b bs ih =>
    unfold usedInfoAps
    dsimp only
    split_ifs
    · rfl
    · rw [List.map_cons, ih]
      rfl

theorem usedInfoVaps_scan (used : List UInt8) (v nap : ℕ) (bs : List Beacon) :
    (usedInfoVaps used v nap bs).2.map Beacon.scan = bs.map Beacon.scan := by
  induction bs generalizing nap with
  | nil => rfl
  | cons b bs ih =>
    unfold usedInfoVaps
    dsimp only
    split_ifs <;> simp [ih]

theorem usedInfoRounds_scan (used : List UInt8) (left v nap : ℕ) (bs : List Beacon) :
    (usedInfoRounds used left v nap bs).map Beacon.scan = bs.map Beacon.scan := by
  induction left generalizing v nap bs with
  | zero => rfl
  | succ left ih =>
    unfold usedInfoRounds
    dsimp only
    split_ifs
    · exact usedInfoVaps_scan ..
    · rw [ih, usedInfoVaps_scan]

theorem sameScan_applyUsedInfoToAp (s : SkySctx) (r : SkyRctx) (used : List UInt8) :
    SameScan r (applyUsedInfoToAp s r used) := by
  unfold applyUsedInfoToAp
  split_ifs
  · exact .refl r
  · exact sameScan_aps (by rw [usedInfoRounds_scan, usedInfoAps_scan])

theorem CellPlugin.unranked_withPriority (b : Beacon) : (withPriority b).unranked = b.unranked := by
  unfold withPriority
  split_ifs <;> rfl

@[simp] theorem CellPlugin.scan_withPriority (b : Beacon) : (withPriority b).scan = b.scan :=
  Beacon.scan_of_unranked (unranked_withPriority b)

theorem skyPluginCompare_unranked {plugins : List SkyPluginTable} {a b : Beacon}
    {result : ℤ × Beacon × Beacon} (compared : skyPluginCompare plugins a b = some result) :
    result.2.1.unranked = a.unranked ∧ result.2.2.unranked = b.unranked := by
  obtain ⟨p, -, table⟩ := List.exists_of_findSome?_eq_some compared
  cases p with
  | apPluginBasic =>
    obtain ⟨diff, -, rfl⟩ := Option.map_eq_some_iff.1 table
    exact ⟨rfl, rfl⟩
  | cellPluginBasic =>
    simp only [SkyPluginTable.compare, CellPlugin.compare, Option.ite_none_left_eq_some,
      Option.some.injEq] at table
    obtain ⟨-, rfl⟩ := table
    exact ⟨CellPlugin.unranked_withPriority a, CellPlugin.unranked_withPriority b⟩

theorem isBeaconFirst_unranked (plugins : List SkyPluginTable) (a b : Beacon) :
    (isBeaconFirst plugins a b).2.1.unranked = a.unranked ∧
      (isBeaconFirst plugins a b).2.2.unranked = b.unranked := by
  unfold isBeaconFirst
  cases compared : skyPluginCompare plugins a b with
  | none => exact ⟨rfl, rfl⟩
  | some result =>
    have := skyPluginCompare_unranked compared
    exact ⟨this.1, this.2⟩

theorem findPosition_unranked (plugins : List SkyPluginTable) (b : Beacon) (l : List Beacon) :
    (findPosition plugins b l).beacon.unranked = b.unranked ∧
      (findPosition plugins b l).beacons.map Beacon.unranked = l.map Beacon.unranked := by
  induction l generalizing b with
  | nil => exact ⟨rfl, rfl⟩
  | cons c cs ih =>
    have first := isBeaconFirst_unranked plugins b c
    unfold findPosition
    dsimp only
    split_ifs
    · exact ⟨first.1, by simp [first.2]⟩
    · have rest := ih (isBeaconFirst plugins b c).2.1
      exact ⟨rest.1.trans first.1, by simp [first.2, rest.2]⟩

theorem findPosition_scan (plugins : List SkyPluginTable) (b : Beacon) (l : List Beacon) :
    (findPosition plugins b l).beacon.scan = b.scan ∧
      (findPosition plugins b l).beacons.map Beacon.scan = l.map Beacon.scan := by
  have same := findPosition_unranked plugins b l
  exact ⟨Beacon.scan_of_unranked same.1, Beacon.map_scan_of_unranked same.2⟩

theorem findPosition_index_le (plugins : List SkyPluginTable) (b : Beacon) (l : List Beacon) :
    (findPosition plugins b l).index ≤ l.length := by
  induction l generalizing b with
  | nil => exact le_rfl
  | cons c cs ih =>
    unfold findPosition
    dsimp only
    split_ifs
    · exact Nat.zero_le _
    · exact Nat.succ_le_succ (ih _)

theorem beaconInBeacons_scan (plugins : List SkyPluginTable) (b : Beacon) (cs : List Beacon) :
    (beaconInBeacons plugins b cs).2.scan = b.scan := by
  induction cs with
  | nil => rfl
  | cons c cs ih =>
    unfold beaconInBeacons
    split_ifs <;> first | rfl | exact ih

theorem beaconInCacheline_scan (plugins : List SkyPluginTable) (b : Beacon) (cl : SkyCacheline) :
    (beaconInCacheline plugins b cl).2.scan = b.scan := by
  unfold beaconInCacheline
  split_ifs
  · rfl
  · exact beaconInBeacons_scan ..

theorem beaconInCache_scan (plugins : List SkyPluginTable) (b : Beacon)
    (cls : List SkyCacheline) : (beaconInCache plugins b cls).2.scan = b.scan := by
  induction cls generalizing b with
  | nil => rfl
  | cons cl cls ih =>
    have line := beaconInCacheline_scan plugins b cl
    unfold beaconInCache
    dsimp only
    split_ifs
    · exact line
    · exact (ih _).trans line
    · exact (ih _).trans line

end EmbeddedClient
