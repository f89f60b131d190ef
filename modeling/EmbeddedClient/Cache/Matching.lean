import EmbeddedClient.Beacons.Macs
import EmbeddedClient.Cache.Hit
import EmbeddedClient.Support.FirstFit

/-!
# The score of a line

Each AP of a request takes the first similar AP of the line that is left. An AP can so lose its
own address to a similar one, and the line of the same scan gets less than the full score.
-/

namespace EmbeddedClient

open FirstFit

/-- `mac_similar(..) != 0`. -/
def macClose (a b : Vector UInt8 6) : Bool := (macSimilar a b).1 ≠ 0

theorem macClose_self (a : Vector UInt8 6) : macClose a a = true := by
  rw [macClose, decide_eq_true_eq, macSimilar_ne_zero_iff]
  have none : nibblesApart a a = 0 := List.countP_eq_zero.2 (by simp [nibbleDiffers])
  exact ⟨by omega, rfl⟩

theorem macClose_comm (a b : Vector UInt8 6) : macClose a b = macClose b a := by
  rw [macClose, macClose, decide_eq_decide, macSimilar_ne_zero_iff, macSimilar_ne_zero_iff,
    nibblesApart_comm, eq_comm (b := byteAt b 0 &&& 0x02)]

def SkyRctx.macs (r : SkyRctx) : List (Vector UInt8 6) := r.aps.map fun b => b.ap.mac

def SkyCacheline.macs (cl : SkyCacheline) : List (Vector UInt8 6) := cl.aps.map fun b => b.ap.mac

namespace ApPlugin

variable {r : SkyRctx} {cl : SkyCacheline}

theorem countCached_eq (as unmatched : List Beacon) :
    countCached as unmatched =
      count macClose (as.map fun b => b.ap.mac) (unmatched.map fun b => b.ap.mac) := by
  induction as generalizing unmatched with
  | nil => rfl
  | cons a as ih =>
    unfold countCached
    rw [List.map_cons, count, List.any_map, List.eraseP_map, ih, ih]
    rfl

theorem countCachedApsInRequestCtx_eq (r : SkyRctx) (cl : SkyCacheline) :
    countCachedApsInRequestCtx r cl = count macClose r.macs cl.macs :=
  countCached_eq r.aps cl.aps

/-- The slots of the context and of the line hold their APs, which have these addresses. -/
structure SameScanMacs (macs : List (Vector UInt8 6)) (r : SkyRctx) (cl : SkyCacheline) : Prop where
  request : r.macs.Perm macs
  line : cl.macs.Perm macs
  numAp : r.numAp = macs.length
  lineNumAp : cl.numAp = macs.length

/-- What the score promises: it is at most the number of APs of either list, so that the ratio
is between 0 and 1, and it is full for a request and a line with these addresses. -/
structure Recognises (macs : List (Vector UInt8 6)) : Prop where
  count_le : ∀ r cl, countCachedApsInRequestCtx r cl ≤ min r.numAp cl.numAp
  le_union : ∀ r cl, max r.numAp cl.numAp ≤ unionAB r cl
  ratio_range : ∀ r cl, (0 ≤ ratio r cl ∧ ratio r cl ≤ 1) ∧
    (0 ≤ Binary32.round (ratio r cl) ∧ Binary32.round (ratio r cl) ≤ 1)
  same : ∀ r cl, SameScanMacs macs r cl → countCachedApsInRequestCtx r cl = macs.length ∧
    (macs ≠ [] → ratio r cl = 1 ∧ Binary32.round (ratio r cl) = 1)

theorem ratio_range (r : SkyRctx) (cl : SkyCacheline) : 0 ≤ ratio r cl ∧ ratio r cl ≤ 1 := by
  have bound := countCachedApsInRequestCtx_le r cl
  have inside : countCachedApsInRequestCtx r cl ≤ unionAB r cl := by
    unfold unionAB
    omega
  rw [ratio_eq]
  constructor
  · positivity
  · exact div_le_one_of_le₀ (by exact_mod_cast inside) (by positivity)

theorem round_one : Binary32.round 1 = 1 := by
  have one := @Binary32.round_natCast 1 (by decide)
  simpa using one

theorem ratio_eq_one (full : countCachedApsInRequestCtx r cl = r.numAp) (same : cl.numAp = r.numAp)
    (aps : r.numAp ≠ 0) : ratio r cl = 1 := by
  have union : unionAB r cl = r.numAp := by
    unfold unionAB
    omega
  rw [ratio_eq, full, union]
  exact div_self (by exact_mod_cast aps)

def apOf (mac : Vector UInt8 6) : Beacon := (AddCall.ap mac (-50) 2412 false).beacon

theorem map_mac_take_apOf {as macs : List (Vector UInt8 6)} (perm : as.Perm macs) :
    ((as.map apOf).take macs.length).map (fun b => b.ap.mac) = as := by
  rw [List.take_of_length_le (by rw [List.length_map, perm.length_eq]), List.map_map]
  exact List.map_id as

/-- There are a request and a line with these addresses, in these orders. -/
theorem exists_sameScanMacs {macs as bs : List (Vector UInt8 6)} (permA : as.Perm macs)
    (permB : bs.Perm macs) :
    ∃ (r : SkyRctx) (cl : SkyCacheline), r.macs = as ∧ cl.macs = bs ∧ SameScanMacs macs r cl := by
  let r : SkyRctx := { SkyRctx.initialized (SkySctx.zeroed 1) 0 with
    numAp := macs.length, beacon := as.map apOf }
  let cl : SkyCacheline := { SkyCacheline.cleared with
    numAp := macs.length, beacon := bs.map apOf }
  have request : r.macs = as := map_mac_take_apOf permA
  have line : cl.macs = bs := map_mac_take_apOf permB
  refine ⟨r, cl, request, line, ?_⟩
  constructor
  · rwa [request]
  · rwa [line]
  · rfl
  · rfl

/-- The score of the same scan is full for all orders exactly if similarity is transitive on
its addresses; the other promises hold always. -/
theorem recognises_iff (macs : List (Vector UInt8 6)) :
    Recognises macs ↔ TransOn macClose macs := by
  rw [← count_perm_iff macClose_self macClose_comm]
  constructor
  · intro recognises as bs permA permB
    obtain ⟨r, cl, request, line, scan⟩ := exists_sameScanMacs permA permB
    have full := (recognises.same r cl scan).1
    rwa [countCachedApsInRequestCtx_eq, request, line] at full
  · intro complete
    constructor
    · intro r cl
      exact le_min (countCachedApsInRequestCtx_le r cl).1 (countCachedApsInRequestCtx_le r cl).2
    · intro r cl
      have bound := countCachedApsInRequestCtx_le r cl
      unfold unionAB
      omega
    · intro r cl
      have range := ratio_range r cl
      have rounded := Binary32.round_mono range.1 range.2
      rw [round_one] at rounded
      exact ⟨range, Binary32.round_nonneg range.1, rounded⟩
    · intro r cl scan
      have full : countCachedApsInRequestCtx r cl = macs.length := by
        rw [countCachedApsInRequestCtx_eq]
        exact complete _ _ scan.request scan.line
      refine ⟨full, ?_⟩
      intro nonempty
      have one : ratio r cl = 1 := by
        apply ratio_eq_one (full.trans scan.numAp.symm) (scan.lineNumAp.trans scan.numAp.symm)
        rw [scan.numAp]
        exact (List.length_pos_of_ne_nil nonempty).ne'
      rw [one]
      exact ⟨rfl, round_one⟩

def chainMacs : List (Vector UInt8 6) :=
  [0x00, 0x01, 0x11].map fun last => (apCall last (-50)).beacon.ap.mac

/-- The second AP takes the place of the first, the third that of the second, and nothing is
left for the first. -/
theorem chainMacs_not_recognises :
    chainMacs.Nodup ∧ ¬ Recognises chainMacs := by
  refine ⟨by decide, ?_⟩
  intro recognises
  have asked : [chainMacs[1], chainMacs[2], chainMacs[0]].Perm chainMacs := by decide
  obtain ⟨r, cl, request, line, scan⟩ := exists_sameScanMacs asked (List.Perm.refl chainMacs)
  have full := (recognises.same r cl scan).1
  rw [countCachedApsInRequestCtx_eq, request, line] at full
  exact absurd full (by decide +kernel)

end ApPlugin

end EmbeddedClient
