import EmbeddedClient.Beacons.Context
import EmbeddedClient.Cache.Hit

/-!
# A cacheline with the list of the request

What a search finds in a line that holds the same beacons as the request: all APs,
an unchanged serving cell, and every cell that is equal to itself. A GSM neighbour
cell is not, so a list with one is never found again by its cells.
-/

namespace EmbeddedClient

theorem macSimilarLoop_self (mac : Vector UInt8 6) (ns : List ℕ) (numDiff idxDiff : ℕ)
    (result : ℤ) :
    macSimilarLoop mac mac ns numDiff idxDiff result = some (result, idxDiff) := by
  induction ns with
  | nil => rfl
  | cons n ns ih =>
    unfold macSimilarLoop
    rw [if_neg (by simp)]
    exact ih

theorem Beacon.similar_of_mac {a b : Beacon} (same : a.ap.mac = b.ap.mac) : a.similar b = true := by
  unfold Beacon.similar macSimilar
  rw [same, macSimilarLoop_self]
  simp

namespace ApPlugin

theorem countCached_of_macs {as bs : List Beacon}
    (same : as.map (fun b => b.ap.mac) = bs.map fun b => b.ap.mac) :
    countCached as bs = as.length := by
  induction as generalizing bs with
  | nil => rfl
  | cons a as ih =>
    cases bs with
    | nil => simp at same
    | cons b bs =>
      rw [List.map_cons, List.map_cons, List.cons.injEq] at same
      have first : a.similar b = true := Beacon.similar_of_mac same.1
      unfold countCached
      rw [if_pos (by simp [first]), List.eraseP_cons_of_pos first, ih same.2, List.length_cons,
        Nat.add_comm]

theorem any_similar_congr {cs ds : List Beacon} {a b : Beacon}
    (same : cs.map (fun b => b.ap.mac) = ds.map fun b => b.ap.mac) (mac : a.ap.mac = b.ap.mac) :
    cs.any (·.similar a) = ds.any (·.similar b) := by
  have byMac (l : List Beacon) (c : Beacon) : l.any (·.similar c) =
      (l.map fun b => b.ap.mac).any fun m => decide ((macSimilar m c.ap.mac).1 ≠ 0) := by
    rw [List.any_map]
    rfl
  rw [byMac, byMac, same, mac]

theorem countUniq_congr {cs ds as bs : List Beacon}
    (counted : cs.map (fun b => b.ap.mac) = ds.map fun b => b.ap.mac)
    (same : as.map (fun b => b.ap.mac) = bs.map fun b => b.ap.mac) :
    countUniq cs as = countUniq ds bs := by
  induction as generalizing cs ds bs with
  | nil =>
    cases bs with
    | nil => rfl
    | cons b bs => simp at same
  | cons a as ih =>
    cases bs with
    | nil => simp at same
    | cons b bs =>
      rw [List.map_cons, List.map_cons, List.cons.injEq] at same
      unfold countUniq
      rw [any_similar_congr counted same.1, ih counted same.2, ih ?_ same.2]
      rw [List.map_append, List.map_append, counted, List.map_cons, List.map_cons, same.1]

end ApPlugin

theorem beaconInBeacons_fst_iff (b : Beacon) (cs : List Beacon) :
    (beaconInBeacons skyRegisterPlugins b cs).1 = true ↔ ∃ c ∈ cs, SameBeacon b c := by
  induction cs with
  | nil => simp [beaconInBeacons]
  | cons c cs ih =>
    unfold beaconInBeacons
    by_cases equal : skyPluginEqual skyRegisterPlugins b c = some true
    · rw [if_pos equal]
      exact iff_of_true rfl ⟨c, List.mem_cons_self, equal⟩
    · rw [if_neg equal, ih]
      simp [SameBeacon, equal]

/-- The line holds the beacons of a valid list, which are those of the request. -/
structure SkyCacheline.Repeats (cl : SkyCacheline) (r : SkyRctx) : Prop where
  numAp : cl.numAp = r.numAp
  numBeacons : cl.numBeacons = r.numBeacons
  live : cl.live.map Beacon.scan = r.live.map Beacon.scan
  full : r.live.length = r.numBeacons
  order : r.numAp ≤ r.numBeacons
  small : r.numBeacons ≤ TOTAL_BEACONS + 1
  accepted : ∀ b ∈ r.live, b.Accepted
  cells : ∀ b ∈ r.live.drop r.numAp, b.isCellType = true

namespace SkyCacheline.Repeats

variable {cl : SkyCacheline} {r : SkyRctx}

theorem macs (same : cl.Repeats r) :
    r.aps.map (fun b => b.ap.mac) = cl.aps.map fun b => b.ap.mac := by
  have byScan (bs : List Beacon) :
      bs.map (fun b => b.ap.mac) = (bs.map Beacon.scan).map fun b => b.ap.mac := by
    rw [List.map_map]
    rfl
  have apsR : r.aps = r.live.take r.numAp := by
    rw [SkyRctx.aps, SkyRctx.live, List.take_take, Nat.min_eq_left same.order]
  have apsCl : cl.aps = cl.live.take r.numAp := by
    rw [SkyCacheline.aps, SkyCacheline.live, List.take_take, same.numAp, same.numBeacons,
      Nat.min_eq_left same.order]
  rw [byScan r.aps, byScan cl.aps, apsR, apsCl, List.map_take (f := Beacon.scan),
    List.map_take (f := Beacon.scan), same.live]

theorem length_aps (same : cl.Repeats r) : r.aps.length = r.numAp := by
  have full := same.full
  rw [SkyRctx.live, List.length_take] at full
  rw [SkyRctx.aps, List.length_take]
  have order := same.order
  omega

theorem ratio (same : cl.Repeats r) (aps : r.numAp ≠ 0) : ApPlugin.ratio r cl = 1 := by
  have all : ApPlugin.countCachedApsInRequestCtx r cl = r.numAp := by
    unfold ApPlugin.countCachedApsInRequestCtx
    rw [ApPlugin.countCached_of_macs same.macs, same.length_aps]
  unfold ApPlugin.ratio
  rw [all, same.numAp, Nat.add_sub_cancel]
  exact div_self (by exact_mod_cast aps)

theorem score (same : cl.Repeats r) (aps : r.numAp ≠ 0) (s : SkySctx) :
    ApPlugin.score s r cl = (1, ApPlugin.threshold s r) := by
  have one : Binary32.round 1 = 1 := by exact_mod_cast Binary32.round_natCast (n := 1) (by decide)
  have filled : cl.numAp ≠ 0 := by
    rw [same.numAp]
    exact aps
  unfold ApPlugin.score
  rw [if_pos ⟨aps, filled⟩, same.ratio aps, one]

theorem numCells_eq (same : cl.Repeats r) :
    numCells r.numBeacons r.numAp = r.numBeacons - r.numAp := by
  have order := same.order
  have small := same.small
  unfold numCells
  simp only [TOTAL_BEACONS] at small
  omega

theorem scan_at (same : cl.Repeats r) {i : ℕ} (range : i < r.numBeacons) :
    ∃ b ∈ r.live, r.slot i = b ∧ (cl.beacon.getD i Beacon.zero).scan = b.scan ∧
      (r.numAp ≤ i → b ∈ r.live.drop r.numAp) := by
  have inLive : i < r.live.length := by
    rw [same.full]
    exact range
  have inLine : i < cl.live.length := by
    have length := congrArg List.length same.live
    rw [List.length_map, List.length_map] at length
    omega
  refine ⟨r.live[i], List.getElem_mem inLive, ?_, ?_, ?_⟩
  · have inArray : i < r.beacon.length := by
      rw [SkyRctx.live, List.length_take] at inLive
      omega
    rw [SkyRctx.slot, if_pos (Int.natCast_nonneg i), Int.toNat_natCast,
      List.getD_eq_getElem?_getD, List.getElem?_eq_getElem inArray, Option.getD_some]
    simp only [SkyRctx.live, List.getElem_take]
  · have inArray : i < cl.beacon.length := by
      rw [SkyCacheline.live, List.length_take] at inLine
      omega
    have eq : (cl.live.map Beacon.scan)[i]? = (r.live.map Beacon.scan)[i]? := by rw [same.live]
    rw [List.getElem?_map, List.getElem?_map, List.getElem?_eq_getElem inLine,
      List.getElem?_eq_getElem inLive, Option.map_some, Option.map_some, Option.some.injEq] at eq
    rw [List.getD_eq_getElem?_getD, List.getElem?_eq_getElem inArray, Option.getD_some, ← eq]
    simp only [SkyCacheline.live, List.getElem_take]
  · intro cell
    have shifted : (r.live.drop r.numAp)[i - r.numAp]? = some r.live[i] := by
      rw [List.getElem?_drop, Nat.add_sub_cancel' cell, List.getElem?_eq_getElem inLive]
    exact List.mem_of_getElem? shifted

theorem servingCell (same : cl.Repeats r) :
    servingCellChanged skyRegisterPlugins r cl = false := by
  unfold servingCellChanged
  by_cases none : numCells r.numBeacons r.numAp = 0
  · rw [if_pos none]
  · rw [if_neg none, same.numBeacons, same.numAp, if_neg none]
    rw [same.numCells_eq] at none
    obtain ⟨b, member, slot, scan, inCells⟩ := same.scan_at (i := r.numAp) (by omega)
    have cell := same.cells b (inCells le_rfl)
    rw [slot]
    generalize cl.beacon.getD r.numAp Beacon.zero = c at scan
    dsimp only
    by_cases nmr : b.isCellNmr = true
    · rw [if_pos (by simp [nmr])]
    · have nmr' : ¬ c.isCellNmr = true := by
        rw [← Beacon.scan_isCellNmr, scan, Beacon.scan_isCellNmr]
        exact nmr
      have self : SameBeacon b b := by
        rw [sameBeacon_self_iff (same.accepted b member) cell]
        simp [Beacon.isGsmNmr, nmr]
      have equal : skyPluginEqual skyRegisterPlugins b c = some true := by
        rw [skyPluginEqual_congr _ rfl scan]
        exact self
      rw [if_neg (by simp [nmr, nmr'])]
      simp [equal]

/-- A beacon of the request is found in the line exactly if it is equal to itself. -/
theorem found_iff (same : cl.Repeats r) (filled : cl.time ≠ CACHE_EMPTY) {b : Beacon}
    (member : b ∈ r.live) :
    (beaconInCacheline skyRegisterPlugins b cl).1 = true ↔ SameBeacon b b := by
  rw [beaconInCacheline, if_neg filled, beaconInBeacons_fst_iff]
  constructor
  · rintro ⟨c, -, equal⟩
    exact equal.trans equal.symm
  · intro self
    have inScans : b.scan ∈ cl.live.map Beacon.scan := by
      rw [same.live]
      exact List.mem_map_of_mem member
    obtain ⟨c, memberC, scan⟩ := List.mem_map.1 inScans
    exact ⟨c, memberC, (sameBeacon_congr rfl scan.symm).1 self⟩

theorem countCachedCells_eq_iff (same : cl.Repeats r) (filled : cl.time ≠ CACHE_EMPTY) :
    CellPlugin.countCachedCells skyRegisterPlugins r cl = numCells r.numBeacons r.numAp ↔
      ∀ b ∈ r.live.drop r.numAp, b.isGsmNmr = false := by
  have length : (r.live.drop r.numAp).length = numCells r.numBeacons r.numAp := by
    rw [List.length_drop, same.full, same.numCells_eq]
  unfold CellPlugin.countCachedCells
  rw [← length, List.countP_eq_length]
  apply forall₂_congr
  intro b member
  have inLive := List.mem_of_mem_drop member
  rw [same.found_iff filled inLive, sameBeacon_self_iff (same.accepted b inLive)
    (same.cells b member)]

end SkyCacheline.Repeats

end EmbeddedClient
