import EmbeddedClient.Wire.UsedAps

/-!
# The virtual groups of a request

`select_vap` deals the children that a request may have to the groups, one each round, and writes
what a group has got and which AP is its parent in front of the patches. `encode_vap_data` finds
the groups again by a walk of its own.
-/

namespace EmbeddedClient

open Dealing

/-- The outer loop of `select_vap` from a state of `no_more`, `nvap` and the caps to its end. -/
inductive SelectVapLoop (budget : ℕ) : Bool → ℕ → List (ℕ × ℕ) → List (ℕ × ℕ) → Prop
  | done {noMore : Bool} {nvap : ℕ} {caps : List (ℕ × ℕ)} (last : noMore = true ∨ budget ≤ nvap) :
    SelectVapLoop budget noMore nvap caps caps
  | round {nvap : ℕ} {caps caps' : List (ℕ × ℕ)} (again : nvap < budget)
    (rest : SelectVapLoop budget (selectVapRound budget nvap true caps).2.2
      (selectVapRound budget nvap true caps).2.1 (selectVapRound budget nvap true caps).1 caps') :
    SelectVapLoop budget false nvap caps caps'

variable {budget nvap v : ℕ} {noMore : Bool} {lens : List ℕ}

/-- A round that does not spend the budget gives every group that is not full one more child. -/
theorem selectVapRound_full (few : nvap + lens.countP (v < ·) < budget) :
    selectVapRound budget nvap noMore (lens.zip (shares lens v 0)) =
      (lens.zip (shares lens (v + 1) 0), nvap + lens.countP (v < ·), noMore &&
        lens.all (· ≤ v + 1)) := by
  induction lens generalizing nvap noMore with
  | nil => simp [selectVapRound, shares]
  | cons len lens ih =>
    rw [shares_cons_zero, shares_cons_zero, List.zip_cons_cons, List.zip_cons_cons, selectVapRound,
      List.all_cons]
    by_cases more : v < len
    · have count : (len :: lens).countP (v < ·) = lens.countP (v < ·) + 1 :=
        List.countP_cons_of_pos (by simpa using more)
      have flag : (!decide (v + 1 < len)) = decide (len ≤ v + 1) := by
        rw [← decide_not]
        simp only [not_lt]
      rw [count] at few ⊢
      rw [show min len v = v by omega, show min len (v + 1) = v + 1 by omega, if_pos more,
        if_neg (by omega), ih (by omega), flag, Bool.and_assoc, Nat.add_assoc, Nat.add_comm 1]
    · have count : (len :: lens).countP (v < ·) = lens.countP (v < ·) :=
        List.countP_cons_of_neg (by simpa using more)
      rw [count] at few ⊢
      rw [show min len v = len by omega, show min len (v + 1) = len by omega,
        if_neg (lt_irrefl len), ih few, decide_eq_true (show len ≤ v + 1 by omega), Bool.true_and]

theorem selectVapRound_cut (start : nvap < budget) (spent : budget ≤ nvap + lens.countP (v < ·)) :
    ∃ k noMore', selectVapRound budget nvap noMore (lens.zip (shares lens v 0)) =
        (lens.zip (shares lens v k), budget, noMore') ∧
      nvap + (lens.take k).countP (v < ·) = budget := by
  induction lens generalizing nvap noMore with
  | nil => simp at spent; omega
  | cons len lens ih =>
    rw [shares_cons_zero, List.zip_cons_cons, selectVapRound]
    by_cases more : v < len
    · have count (l : List ℕ) : (len :: l).countP (v < ·) = l.countP (v < ·) + 1 :=
        List.countP_cons_of_pos (by simpa using more)
      rw [count] at spent
      rw [show min len v = v by omega, if_pos more]
      by_cases last : nvap + 1 = budget
      · refine ⟨1, noMore, ?_, ?_⟩
        · rw [if_pos last, shares_cons_succ, List.zip_cons_cons, show min len (v + 1) =
            v + 1 by omega, last]
        · rw [List.take_succ_cons, List.take_zero, count]
          exact last
      · obtain ⟨k, noMore', round, sum⟩ :=
          @ih (nvap + 1) (noMore && !decide (v + 1 < len)) (by omega) (by omega)
        refine ⟨k + 1, noMore', ?_, ?_⟩
        · rw [if_neg last, round, shares_cons_succ, List.zip_cons_cons, show min len (v + 1) =
            v + 1 by omega]
        · rw [List.take_succ_cons, count]
          omega
    · have count (l : List ℕ) : (len :: l).countP (v < ·) = l.countP (v < ·) :=
        List.countP_cons_of_neg (by simpa using more)
      rw [count] at spent
      obtain ⟨k, noMore', round, sum⟩ := @ih nvap noMore start spent
      refine ⟨k + 1, noMore', ?_, ?_⟩
      · rw [show min len v = len by omega, if_neg (lt_irrefl len), round, shares_cons_succ,
          List.zip_cons_cons, show min len (v + 1) = len by omega]
      · rw [List.take_succ_cons, count]
        exact sum

theorem selectVapRounds_deals {fuel : ℕ} (some : 1 ≤ fuel) (enough : ∀ len ∈ lens, len ≤ v + fuel)
    (within : dealt lens v ≤ budget) :
    ∃ w k, selectVapRounds budget fuel (dealt lens v)
    (lens.zip (shares lens v 0)) = lens.zip (shares lens w k) ∧
      (shares lens w k).sum = min budget lens.sum ∧
      SelectVapLoop budget false (dealt lens v) (lens.zip (shares lens v 0))
        (lens.zip (shares lens w k)) := by
  induction fuel generalizing v with
  | zero => omega
  | succ fuel ih =>
    rw [selectVapRounds]
    by_cases again : dealt lens v < budget
    · rw [if_pos again]
      by_cases few : dealt lens v + lens.countP (v < ·) < budget
      · have round := @selectVapRound_full budget (dealt lens v) v true lens few
        rw [← dealt_succ] at few round
        rw [Bool.true_and] at round
        by_cases last : lens.all (· ≤ v + 1) = true
        · have full : dealt lens (v + 1) = lens.sum := dealt_eq_sum (by simpa using last)
          refine ⟨v + 1, 0, ?_, ?_, ?_⟩
          · rw [round, if_pos last]
          · rw [shares_zero]
            exact full.trans (by omega)
          · apply SelectVapLoop.round again
            rw [round]
            exact .done (.inl last)
        · have unfinished : ∃ len ∈ lens, v + 1 < len := by simpa using last
          obtain ⟨len, member, more⟩ := unfinished
          have := enough len member
          obtain ⟨w, k, rounds, sum, loop⟩ := @ih (v + 1) (by omega)
            (fun len member => (enough len member).trans (by omega)) few.le
          refine ⟨w, k, ?_, sum, ?_⟩
          · rw [round, if_neg last]
            exact rounds
          · apply SelectVapLoop.round again
            rw [round, Bool.eq_false_iff.2 last]
            exact loop
      · obtain ⟨k, noMore', round, spent⟩ :=
          @selectVapRound_cut budget (dealt lens v) v true lens again (by omega)
        have sum : (shares lens v k).sum = budget := (sum_shares lens v k).trans spent
        have most := sum_shares_le lens v k
        refine ⟨v, k, ?_, by omega, ?_⟩
        · rw [round]
          dsimp only
          split_ifs
          · rfl
          · cases fuel with
            | zero => rfl
            | succ fuel => rw [selectVapRounds, if_neg (lt_irrefl budget)]
        · apply SelectVapLoop.round again
          rw [round]
          exact .done (.inr le_rfl)
    · have sum : (shares lens v 0).sum = dealt lens v := by
        rw [shares_zero]
        rfl
      have most := sum_shares_le lens v 0
      refine ⟨v, 0, ?_, by omega, .done (.inr (by omega))⟩
      rw [if_neg again]

variable {s : SkySctx} {r : SkyRctx} {caps : List ℕ}

/-- The group of AP `j` with its first `cap` children, as a string of the request. -/
def vapString (b : Beacon) (j cap : ℕ) : List UInt8 :=
  pbEncodeString (UInt8.ofNat j :: (b.ap.vg.toList.drop 2).take cap)

def vapStrings (r : SkyRctx) (caps : List ℕ) : List UInt8 :=
  ((r.aps.zip caps).mapIdx fun j p => if p.2 = 0 then [] else vapString p.1 j p.2).flatten

/-- The walk of `get_vap_data` finds the group that `getVapData` selects. -/
theorem getVapDataLoop_eq {idx nvg : ℕ} (passed : nvg ≤ idx) (bs : List Beacon) :
    getVapDataLoop idx nvg bs =
    (((bs.filter fun b => b.vapLength ≠ 0)[idx - nvg]?).map fun b => b.ap.vg.toList).getD [] := by
  induction bs generalizing nvg with
  | nil => rfl
  | cons b bs ih =>
    rw [getVapDataLoop]
    by_cases group : b.vapLength ≠ 0
    · rw [List.filter_cons_of_pos (by simpa using group)]
      by_cases found : nvg = idx
      · rw [if_pos ⟨group, found⟩, found, Nat.sub_self]
        rfl
      · rw [if_neg fun both => found both.2, if_pos group, ih (by omega), show idx - nvg =
          idx - (nvg + 1) + 1 by omega,
          List.getElem?_cons_succ]
    · rw [List.filter_cons_of_neg (by simpa using group), if_neg fun both => group both.1,
        if_neg group]
      exact ih passed

theorem getVapData_eq (r : SkyRctx) (idx : ℕ) : getVapData r idx = getVapDataLoop idx 0 r.aps :=
  (getVapDataLoop_eq (Nat.zero_le idx) r.aps).symm

def Beacon.vapData (b : Beacon) : List UInt8 :=
  pbEncodeString ((b.ap.vg.toList.drop 1).take b.vapLength.toNat)

theorem map_getVapData {β : Type} (r : SkyRctx) (f : List UInt8 → β) :
    (List.range (getNumVaps r)).map (fun i => f (getVapData r i)) =
      (r.aps.filter fun b => b.vapLength ≠ 0).map fun b => f b.ap.vg.toList := by
  have length : getNumVaps r = (r.aps.filter fun b => b.vapLength ≠ 0).length :=
    List.countP_eq_length_filter
  apply List.ext_getElem
  · rw [List.length_map, List.length_range, List.length_map, length]
  · intro i below _
    rw [List.length_map, List.length_range, length] at below
    rw [List.getElem_map, List.getElem_range, List.getElem_map, getVapData,
      List.getElem?_eq_getElem below]
    rfl

/-- `encode_vap_data` writes the groups that have a length, in the order of the APs. -/
theorem encodeVapData_eq (r : SkyRctx) (tag : ℕ) :
    let data := ((r.aps.filter fun b => b.vapLength ≠ 0).map Beacon.vapData).flatten
    encodeVapData tag (getNumVaps r) (getVapData r) =
      pbEncodeTag PB_WT_STRING tag ++ pbEncodeVarint data.length ++ data := by
  intro data
  have groups : (List.range (getNumVaps r)).flatMap (fun i => pbEncodeString
      (((getVapData r i).drop 1).take ((getVapData r i).headD 0).toNat)) = data := by
    rw [List.flatMap_def, map_getVapData r fun vg => pbEncodeString
      ((vg.drop 1).take (vg.headD 0).toNat)]
    congr 2
    funext b
    rw [Beacon.vapData, Beacon.vapLength, byteAt, List.getD_eq_getElem?_getD,
      ← List.head?_eq_getElem?, ← List.headD_eq_head?_getD]
  unfold encodeVapData
  dsimp only
  rw [groups]

theorem flatten_map_filter {α β : Type} (p : α → Bool) (f : α → List β) (l : List α) :
    ((l.filter p).map f).flatten = (l.map fun a => if p a then f a else []).flatten := by
  induction l with
  | nil => rfl
  | cons a l ih =>
    by_cases kept : p a = true
    · rw [List.filter_cons_of_pos kept, List.map_cons, List.flatten_cons, ih, List.map_cons,
        List.flatten_cons, if_pos kept]
    · rw [List.filter_cons_of_neg kept, ih, List.map_cons, List.flatten_cons, if_neg kept,
        List.nil_append]

section Written

variable (b : Beacon) {j cap : ℕ}

theorem vapLength_setVap (few : cap ≤ MAX_VAP_PER_AP) :
    (b.setVap j cap).vapLength.toNat = if cap = 0 then 0 else cap + 1 := by
  have byte : (b.setVap j cap).vapLength = if cap = 0 then 0 else UInt8.ofNat (cap + 1) := by
    simp [Beacon.vapLength, Beacon.setVap, byteAt]
  simp only [MAX_VAP_PER_AP] at few
  rw [byte]
  split_ifs
  · rfl
  · rw [UInt8.toNat_ofNat']
    omega

theorem vapParent_setVap (few : j < MAX_AP_BEACONS) :
    (byteAt (b.setVap j cap).ap.vg 1).toNat = j := by
  have byte : byteAt (b.setVap j cap).ap.vg 1 = UInt8.ofNat j := by
    simp [Beacon.setVap, byteAt]
  simp only [MAX_AP_BEACONS] at few
  rw [byte, UInt8.toNat_ofNat']
  omega

theorem vapData_setVap (few : cap ≤ MAX_VAP_PER_AP) (some : cap ≠ 0) :
    (b.setVap j cap).vapData = vapString b j cap := by
  have bytes : (b.setVap j cap).ap.vg.toList.drop 1 = UInt8.ofNat j :: b.ap.vg.toList.drop 2 := by
    have two : 2 ≤ b.ap.vg.toList.length := by simp
    simp only [Beacon.setVap, Vector.toList_set]
    cases first : b.ap.vg.toList with
    | nil => simp [first] at two
    | cons a l =>
      cases l with
      | nil => simp [first] at two
      | cons a' l => rfl
  rw [Beacon.vapData, vapLength_setVap b few, if_neg some, bytes, List.take_succ_cons, vapString]

end Written

/-- `select_vap` ends, shares the budget fairly and completely, and leaves groups that
`encode_vap_data` writes each once: AP `j` with its first `caps[j]` children, if that is not 0. -/
structure SharesVaps (s : SkySctx) (r : SkyRctx) (caps : List ℕ) : Prop where
  loop : SelectVapLoop s.config.maxVapPerRq.toNat false 0 (r.aps.map fun b => (b.ap.vgLen.toNat, 0))
    ((groupLengths r.aps).zip caps)
  fair : Fair (groupLengths r.aps) caps
  complete : caps.sum = min s.config.maxVapPerRq.toNat (groupLengths r.aps).sum
  marked : ∀ j b, r.aps[j]? = some b → ∃ b', (selectVap s r).aps[j]? = some b' ∧
    b'.vapLength.toNat = (if caps.getD j 0 = 0 then 0 else caps.getD j 0 + 1) ∧
    (byteAt b'.ap.vg 1).toNat = j
  written : ∀ tag, encodeVapData tag (getNumVaps (selectVap s r))
      (fun idx => getVapDataLoop idx 0 (selectVap s r).aps) =
    pbEncodeTag PB_WT_STRING tag ++ pbEncodeVarint (vapStrings r caps).length ++ vapStrings r caps

theorem selectVap_deals (groups : ∀ b ∈ r.aps, b.ap.vgLen.toNat ≤ MAX_VAP_PER_AP) :
    ∃ w k, (selectVap s r).aps = (r.aps.zip (shares (groupLengths r.aps) w k)).mapIdx
        (fun j p => p.1.setVap j p.2) ∧
      (shares (groupLengths r.aps) w k).sum = min s.config.maxVapPerRq.toNat
        (groupLengths r.aps).sum ∧
      SelectVapLoop s.config.maxVapPerRq.toNat false 0 (r.aps.map fun b => (b.ap.vgLen.toNat, 0))
        ((groupLengths r.aps).zip (shares (groupLengths r.aps) w k)) := by
  have start : (groupLengths r.aps).zip (shares (groupLengths r.aps) 0 0) =
      r.aps.map fun b => (b.ap.vgLen.toNat, 0) := by
    rw [shares_zero, groupLengths, List.map_map, List.zip_map']
    simp
  have small : ∀ len ∈ groupLengths r.aps, len ≤ 0 + 256 := by
    intro len member
    obtain ⟨b, isAp, rfl⟩ := List.mem_map.1 member
    have := groups b isAp
    simp only [MAX_VAP_PER_AP] at this
    omega
  obtain ⟨w, k, rounds, sum, loop⟩ :=
    @selectVapRounds_deals s.config.maxVapPerRq.toNat 0 (groupLengths r.aps)
    256 (by decide) small (by rw [dealt_zero]; exact Nat.zero_le _)
  rw [dealt_zero, start] at rounds loop
  refine ⟨w, k, ?_, sum, loop⟩
  have length : (groupLengths r.aps).length = r.aps.length := List.length_map ..
  unfold selectVap
  dsimp only
  rw [rounds, aps_replaced (by simp [length])]
  apply List.ext_getElem
  · simp [length]
  · intro i _ _
    simp

/-- `select_vap` shares the children that a request may have, for every list of APs. -/
theorem selectVap_shares (s : SkySctx) (r : SkyRctx) (count : r.numAp ≤ MAX_AP_BEACONS)
    (groups : ∀ b ∈ r.aps, b.ap.vgLen.toNat ≤ MAX_VAP_PER_AP) : ∃ caps, SharesVaps s r caps := by
  obtain ⟨w, k, aps, sum, loop⟩ := @selectVap_deals s r groups
  have fair := fair_shares (groupLengths r.aps) w k
  generalize shares (groupLengths r.aps) w k = caps at aps sum loop fair
  have length : caps.length = r.aps.length := fair.length.trans (List.length_map ..)
  have numAps : r.aps.length ≤ MAX_AP_BEACONS := (List.length_take_le ..).trans count
  have few (j : ℕ) (range : j < caps.length) : caps[j] ≤ MAX_VAP_PER_AP := by
    have fits := fair.fits j
    have inside : j < (groupLengths r.aps).length := by rwa [← fair.length]
    rw [List.getD_eq_getElem _ _ range, List.getD_eq_getElem _ _ inside] at fits
    obtain ⟨b, isAp, len⟩ := List.mem_map.1 (List.getElem_mem inside)
    rw [← len] at fits
    exact fits.trans (groups b isAp)
  refine ⟨caps, loop, fair, sum, ?_, ?_⟩
  · intro j b found
    obtain ⟨range, rfl⟩ := List.getElem?_eq_some_iff.1 found
    have inside : j < caps.length := by omega
    refine ⟨r.aps[j].setVap j caps[j], ?_, ?_, ?_⟩
    · rw [aps, List.getElem?_eq_getElem (by simp; omega)]
      simp
    · rw [vapLength_setVap _ (few j inside), List.getD_eq_getElem _ _ inside]
    · exact vapParent_setVap _ (by omega)
  · intro tag
    have walk :
        (fun idx => getVapDataLoop idx 0 (selectVap s r).aps) = getVapData (selectVap s r) :=
      funext fun idx => (getVapData_eq _ idx).symm
    have data : (((selectVap s r).aps.filter fun b => b.vapLength ≠ 0).map Beacon.vapData).flatten =
        vapStrings r caps := by
      rw [flatten_map_filter, aps, vapStrings]
      congr 1
      apply List.ext_getElem (by simp)
      intro j range _
      rw [List.length_map, List.length_mapIdx, List.length_zip] at range
      have inside : j < caps.length := by omega
      have marked := @vapLength_setVap r.aps[j] j caps[j] (few j inside)
      rw [List.getElem_map, List.getElem_mapIdx, List.getElem_mapIdx, List.getElem_zip]
      dsimp only
      by_cases none : caps[j] = 0
      · rw [if_pos none] at marked
        rw [if_pos none, if_neg (by simpa using UInt8.toNat_inj.1 marked)]
      · have some : (r.aps[j].setVap j caps[j]).vapLength ≠ 0 := by
          intro zero
          rw [zero, if_neg none] at marked
          simp at marked
        rw [if_neg none, if_pos (by simpa using some), vapData_setVap _ (few j inside) none]
    rw [walk, encodeVapData_eq, data]

theorem groupedAps_sharesVaps : ∃ caps, SharesVaps openedSession groupedAps caps :=
  selectVap_shares openedSession groupedAps (by decide +kernel) (by decide +kernel)

end EmbeddedClient
