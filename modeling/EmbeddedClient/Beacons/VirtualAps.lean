import EmbeddedClient.Beacons.Dated
import EmbeddedClient.Beacons.Macs
import EmbeddedClient.Beacons.Stream

/-!
# Removing a virtual AP

`remove_virtual_ap` looks at all pairs of similar APs that are not connected, and gives up the
worse AP of one of them. Between two pairs it compares the other way round: a candidate that is
used replaces one that is not.
-/

namespace EmbeddedClient

variable {s : SkySctx} {r r' : SkyRctx}

/-- The first slots of the context are APs with different addresses. -/
structure SkyRctx.HasAps (r : SkyRctx) : Prop where
  order : r.numAp ≤ r.numBeacons
  full : r.live.length = r.numBeacons
  isApType : ∀ i < r.numAp, (r.slot (i : ℕ)).isApType = true
  distinct : ∀ i < r.numAp, ∀ j < r.numAp, (r.slot (i : ℕ)).ap.mac = (r.slot (j : ℕ)).ap.mac → i = j

/-- A connected AP before a used one. -/
def Beacon.grade (b : Beacon) : ℕ := 2 * b.h.connected.toNat + b.ap.used.toNat

theorem compareConnectedUsed_pos_iff (a b : Beacon) :
    0 < compareConnectedUsed a b ↔ b.grade < a.grade := by
  unfold compareConnectedUsed Beacon.grade
  cases a.h.connected <;> cases b.h.connected <;> cases a.ap.used <;> cases b.ap.used <;> decide

theorem compareConnectedUsed_eq_zero_iff (a b : Beacon) :
    compareConnectedUsed a b = 0 ↔ a.grade = b.grade := by
  unfold compareConnectedUsed Beacon.grade
  cases a.h.connected <;> cases b.h.connected <;> cases a.ap.used <;> cases b.ap.used <;> decide

/-- An unused AP is worse than a used one, and else the AP with the higher address. -/
def Beacon.WorseThan (a b : Beacon) : Prop :=
  (a.ap.used = false ∧ b.ap.used = true) ∨ (a.ap.used = b.ap.used ∧ b.macValue < a.macValue)

theorem SkyRctx.slot_eq_live {i : ℕ} (range : i < r.live.length) : r.slot (i : ℕ) = r.live[i] := by
  have inside : i < r.beacon.length := by
    rw [SkyRctx.live, List.length_take] at range
    omega
  simp [SkyRctx.slot, SkyRctx.live, inside]

structure RemovesAp (r r' : SkyRctx) (c : ℕ) : Prop where
  range : c < r.numAp
  live : r'.live = r.live.eraseIdx c
  numAp : r'.numAp = r.numAp - 1

theorem SkyRctx.HasAps.removesAp (aps : r.HasAps) {c : ℕ} (range : c < r.numAp) :
    RemovesAp r (removeBeacon r c).2 c := by
  have removed := removeBeacon_live (range.trans_le aps.order)
  rw [if_pos (aps.isApType c range)] at removed
  exact ⟨range, removed.1, removed.2⟩

theorem SkyRctx.HasAps.removesAp_unique (aps : r.HasAps) {c d : ℕ} (first : RemovesAp r r' c)
    (second : RemovesAp r r' d) : c = d := by
  have apart {c d : ℕ} (rangeD : d < r.numAp) (same : r.live.eraseIdx c = r.live.eraseIdx d) :
      ¬ c < d := by
    intro less
    have full := aps.full
    have order := aps.order
    have insideC : c < r.live.length := by omega
    have insideNext : c + 1 < r.live.length := by omega
    have shorter : c < (r.live.eraseIdx c).length := by
      rw [List.length_eraseIdx_of_lt insideC]
      omega
    have shorter' : c < (r.live.eraseIdx d).length := by rwa [← same]
    have next : (r.live.eraseIdx c)[c] = r.live[c + 1] := List.getElem_eraseIdx_of_ge _ le_rfl
    have kept : (r.live.eraseIdx d)[c] = r.live[c] := List.getElem_eraseIdx_of_lt _ less
    have equal : r.live[c + 1] = r.live[c] := by
      rw [← next, ← kept]
      simp only [same]
    rw [← slot_eq_live insideC, ← slot_eq_live insideNext] at equal
    have place := aps.distinct (c + 1) (by omega) c (by omega) (by rw [equal])
    omega
  have same : r.live.eraseIdx c = r.live.eraseIdx d := first.live.symm.trans second.live
  rcases Nat.lt_trichotomy c d with less | equal | more
  · exact absurd less (apart second.range same)
  · exact equal
  · exact absurd more (apart first.range same.symm)

namespace ApPlugin

structure VapPair (r : SkyRctx) (i j : ℕ) : Prop where
  left : (r.slot i).h.connected = false
  right : (r.slot j).h.connected = false
  similar : (r.slot i).similar (r.slot j) = true

theorem VapPair.symm {i j : ℕ} (pair : VapPair r i j) : VapPair r j i :=
  ⟨pair.right, pair.left, by rw [Beacon.similar_comm, pair.similar]⟩

/-- The worse member of a pair. -/
def IsCandidate (r : SkyRctx) (c : ℕ) : Prop :=
  c < r.numAp ∧ ∃ d < r.numAp, VapPair r c d ∧ (r.slot c).WorseThan (r.slot d)

theorem grade_of_not_connected {b : Beacon} (free : b.h.connected = false) :
    b.grade = b.ap.used.toNat := by
  simp [Beacon.grade, free]

theorem macDiff_neg_iff {i j : ℕ} (pair : VapPair r i j)
    (differ : (r.slot i).ap.mac ≠ (r.slot j).ap.mac) :
    (macSimilar (r.slot i).ap.mac (r.slot j).ap.mac).1 < 0 ↔
      (r.slot i).macValue < (r.slot j).macValue := by
  have similar : (macSimilar (r.slot i).ap.mac (r.slot j).ap.mac).1 ≠ 0 := by
    simpa [Beacon.similar] using pair.similar
  rw [macSimilar_fst similar differ]
  exact memcmp_neg_iff (by simp)

theorem grade_le_and_macValue_iff {a b : Beacon} (freeA : a.h.connected = false)
    (freeB : b.h.connected = false) :
    (a.grade < b.grade ∨ (a.grade = b.grade ∧ b.macValue < a.macValue)) ↔ a.WorseThan b := by
  unfold Beacon.WorseThan
  rw [grade_of_not_connected freeA, grade_of_not_connected freeB]
  cases a.ap.used <;> cases b.ap.used <;> simp

theorem not_worseThan_iff {a b : Beacon} (differ : a.ap.mac ≠ b.ap.mac) :
    ¬ a.WorseThan b ↔ b.WorseThan a := by
  have values : a.macValue ≠ b.macValue := by rwa [ne_eq, macValue_inj_iff]
  unfold Beacon.WorseThan
  cases a.ap.used <;> cases b.ap.used <;> simp <;> omega

theorem vapCandidate_eq {i j : ℕ} (pair : VapPair r i j)
    (differ : (r.slot i).ap.mac ≠ (r.slot j).ap.mac) :
    ((r.slot j).WorseThan (r.slot i) ∧ vapCandidate r i j = j) ∨
      ((r.slot i).WorseThan (r.slot j) ∧ vapCandidate r i j = i) := by
  have second : (0 < compareConnectedUsed (r.slot i) (r.slot j) ∨
      (compareConnectedUsed (r.slot i) (r.slot j) = 0 ∧
        (macSimilar (r.slot i).ap.mac (r.slot j).ap.mac).1 < 0)) ↔
      (r.slot j).WorseThan (r.slot i) := by
    rw [compareConnectedUsed_pos_iff, compareConnectedUsed_eq_zero_iff, macDiff_neg_iff pair differ,
      ← grade_le_and_macValue_iff pair.right pair.left, eq_comm (b := (r.slot i).grade)]
  by_cases worse : (r.slot j).WorseThan (r.slot i)
  · exact .inl ⟨worse, if_pos (second.2 worse)⟩
  · refine .inr ⟨(not_worseThan_iff differ.symm).1 worse, if_neg ?_⟩
    rwa [second]

/-- What the comparison of candidates prefers to remove: a used AP, and else the one with the
higher address. -/
def vapKey (b : Beacon) : ℕ ×ₗ ℕ := toLex (b.grade, b.macValue)

/-- The candidate that is kept has the greatest key of those seen, which are those of `seen`. -/
def Kept (r : SkyRctx) (seen : ℕ → Prop) : Option ℕ → Prop
  | none => ∀ c, ¬ seen c
  | some worst => seen worst ∧ ∀ c, seen c → vapKey (r.slot c) ≤ vapKey (r.slot worst)

theorem worstVap_eq (worst vap : ℕ) :
    worstVap r (some worst) vap =
      if vapKey (r.slot worst) < vapKey (r.slot vap) then vap else worst := by
  unfold worstVap vapKey
  dsimp only
  refine if_congr ?_ rfl rfl
  rw [compareConnectedUsed_pos_iff, compareConnectedUsed_eq_zero_iff, compareMac_neg_iff,
    Prod.Lex.toLex_lt_toLex, eq_comm (a := (r.slot vap).grade)]

theorem Kept.congr {seen seen' : ℕ → Prop} {worst : Option ℕ} (kept : Kept r seen worst)
    (same : ∀ c, seen' c ↔ seen c) : Kept r seen' worst := by
  rwa [show seen' = seen from funext fun c => propext (same c)]

theorem Kept.add {seen : ℕ → Prop} {worst : Option ℕ} (kept : Kept r seen worst) (vap : ℕ) :
    Kept r (fun c => seen c ∨ c = vap) (some (worstVap r worst vap)) := by
  cases worst with
  | none =>
    refine ⟨.inr rfl, ?_⟩
    rintro c (before | rfl)
    · exact absurd before (kept c)
    · exact le_rfl
  | some worst =>
    obtain ⟨found, greatest⟩ := kept
    rw [worstVap_eq]
    by_cases better : vapKey (r.slot worst) < vapKey (r.slot vap)
    · rw [if_pos better]
      refine ⟨.inr rfl, ?_⟩
      rintro c (before | rfl)
      · exact (greatest c before).trans better.le
      · exact le_rfl
    · rw [if_neg better]
      refine ⟨.inl found, ?_⟩
      rintro c (before | rfl)
      · exact greatest c before
      · exact not_lt.1 better

/-- The candidates of the pairs of `j` with an index below `i`. -/
def InnerSeen (r : SkyRctx) (j i c : ℕ) : Prop := ∃ k < i, VapPair r k j ∧ c = vapCandidate r k j

def OuterSeen (r : SkyRctx) (j c : ℕ) : Prop := ∃ m ≤ j, InnerSeen r m m c

theorem Kept.inner {seen : ℕ → Prop} {j : ℕ} (free : (r.slot j).h.connected = false) (i : ℕ)
    {worst : Option ℕ} (kept : Kept r seen worst) :
    Kept r (fun c => seen c ∨ InnerSeen r j i c) (virtualApInner r j i worst) := by
  induction i generalizing seen worst with
  | zero =>
    apply kept.congr
    intro c
    simp [InnerSeen]
  | succ i ih =>
    have split (c : ℕ) : InnerSeen r j (i + 1) c ↔
        InnerSeen r j i c ∨ (VapPair r i j ∧ c = vapCandidate r i j) := by
      constructor
      · rintro ⟨k, below, found⟩
        rcases Nat.lt_succ_iff_lt_or_eq.1 below with less | rfl
        · exact .inl ⟨k, less, found⟩
        · exact .inr found
      · rintro (⟨k, below, found⟩ | found)
        · exact ⟨k, by omega, found⟩
        · exact ⟨i, by omega, found⟩
    unfold virtualApInner
    by_cases pair : VapPair r i j
    · rw [if_pos (by simp [pair.left, pair.similar])]
      apply (ih (kept.add (vapCandidate r i j))).congr
      intro c
      rw [split]
      tauto
    · rw [if_neg ?_]
      · apply (ih kept).congr
        intro c
        rw [split]
        tauto
      · intro guard
        rw [Bool.and_eq_true, Bool.not_eq_true'] at guard
        exact pair ⟨guard.1, free, guard.2⟩

theorem Kept.outer {seen : ℕ → Prop} (j : ℕ) {worst : Option ℕ} (kept : Kept r seen worst) :
    Kept r (fun c => seen c ∨ OuterSeen r j c) (virtualApOuter r j worst) := by
  induction j generalizing seen worst with
  | zero =>
    apply kept.congr
    intro c
    simp [OuterSeen, InnerSeen]
  | succ j ih =>
    have split (c : ℕ) : OuterSeen r (j + 1) c ↔
      OuterSeen r j c ∨ InnerSeen r (j + 1) (j + 1) c := by
      constructor
      · rintro ⟨m, le, found⟩
        rcases Nat.le_succ_iff.1 le with less | rfl
        · exact .inl ⟨m, less, found⟩
        · exact .inr found
      · rintro (⟨m, le, found⟩ | found)
        · exact ⟨m, by omega, found⟩
        · exact ⟨j + 1, le_rfl, found⟩
    unfold virtualApOuter
    by_cases connected : (r.slot (j + 1 : ℕ)).h.connected = true
    · rw [if_pos connected]
      apply (ih kept).congr
      intro c
      have none : ¬ InnerSeen r (j + 1) (j + 1) c := by
        rintro ⟨k, -, pair, -⟩
        rw [pair.right] at connected
        contradiction
      rw [split]
      tauto
    · have free : (r.slot (j + 1 : ℕ)).h.connected = false := by simpa using connected
      rw [if_neg connected]
      apply (ih (kept.inner free (j + 1))).congr
      intro c
      rw [split]
      tauto

theorem outerSeen_iff (aps : r.HasAps) (c : ℕ) : OuterSeen r (r.numAp - 1) c ↔ IsCandidate r c := by
  constructor
  · rintro ⟨m, le, k, below, pair, rfl⟩
    have rangeM : m < r.numAp := by omega
    have rangeK : k < r.numAp := by omega
    have differ : (r.slot k).ap.mac ≠ (r.slot m).ap.mac := fun same =>
      below.ne (aps.distinct k rangeK m rangeM same)
    rcases vapCandidate_eq pair differ with ⟨worse, chosen⟩ | ⟨worse, chosen⟩
    · rw [chosen]
      exact ⟨rangeM, k, rangeK, pair.symm, worse⟩
    · rw [chosen]
      exact ⟨rangeK, m, rangeM, pair, worse⟩
  · rintro ⟨rangeC, d, rangeD, pair, worse⟩
    have other : c ≠ d := by
      intro same
      subst same
      rcases worse with ⟨unused, used⟩ | ⟨-, less⟩
      · rw [unused] at used
        contradiction
      · omega
    have differ : (r.slot c).ap.mac ≠ (r.slot d).ap.mac := fun same =>
      other (aps.distinct c rangeC d rangeD same)
    have notWorse := (not_worseThan_iff differ.symm).2 worse
    rcases Nat.lt_or_gt_of_ne other with less | more
    · refine ⟨d, by omega, c, less, pair, ?_⟩
      rcases vapCandidate_eq pair differ with ⟨otherWorse, -⟩ | ⟨-, chosen⟩
      · exact absurd otherWorse notWorse
      · exact chosen.symm
    · refine ⟨c, by omega, d, more, pair.symm, ?_⟩
      rcases vapCandidate_eq pair.symm differ.symm with ⟨-, chosen⟩ | ⟨otherWorse, -⟩
      · exact chosen.symm
      · exact absurd otherWorse notWorse

/-- With no candidate `remove_virtual_ap` does nothing, otherwise it removes the one with the
greatest key. -/
theorem removeVirtualAp_eq (aps : r.HasAps) (many : s.config.maxApBeacons.toNat < r.numAp) :
    ((∀ c, ¬ IsCandidate r c) ∧ removeVirtualAp s r = (false, r)) ∨
      ∃ c, IsCandidate r c ∧ (∀ d, IsCandidate r d → vapKey (r.slot d) ≤ vapKey (r.slot c)) ∧
        removeVirtualAp s r = (true, (removeBeacon r c).2) := by
  have start : Kept r (fun _ => False) none := fun _ => id
  have kept : Kept r (IsCandidate r) (virtualApOuter r (r.numAp - 1) none) := by
    apply (start.outer (r.numAp - 1)).congr
    intro c
    rw [false_or, outerSeen_iff aps]
  have ap : (r.slot 0).isApType = true := aps.isApType 0 (by omega)
  unfold removeVirtualAp
  rw [if_neg (by omega), if_neg (by simp [ap])]
  cases found : virtualApOuter r (r.numAp - 1) none with
  | none =>
    rw [found] at kept
    exact .inl ⟨kept, rfl⟩
  | some c =>
    rw [found] at kept
    have inside : c < r.numBeacons := kept.1.1.trans_le aps.order
    refine .inr ⟨c, kept.1, kept.2, ?_⟩
    simp [removeBeacon_fst inside]

/-- What the comment of `remove_virtual_ap` promises: it removes the worst candidate, if there
is one, and else does nothing. -/
structure RemovesWorstVap (s : SkySctx) (r : SkyRctx) : Prop where
  none : (∀ c, ¬ IsCandidate r c) → removeVirtualAp s r = (false, r)
  some : (∃ c, IsCandidate r c) → (removeVirtualAp s r).1 = true ∧
    ∃ c, IsCandidate r c ∧ (∀ d, IsCandidate r d → ¬ (r.slot d).WorseThan (r.slot c)) ∧
      RemovesAp r (removeVirtualAp s r).2 c

theorem IsCandidate.free {c : ℕ} (candidate : IsCandidate r c) :
    (r.slot c).h.connected = false := by
  obtain ⟨-, d, -, pair, -⟩ := candidate
  exact pair.left

theorem vapKey_le_iff {a b : Beacon} (freeA : a.h.connected = false)
    (freeB : b.h.connected = false) :
    vapKey a ≤ vapKey b ↔ (a.ap.used = false ∧ b.ap.used = true) ∨
      (a.ap.used = b.ap.used ∧ a.macValue ≤ b.macValue) := by
  unfold vapKey
  rw [Prod.Lex.toLex_le_toLex, grade_of_not_connected freeA, grade_of_not_connected freeB]
  cases a.ap.used <;> cases b.ap.used <;> simp

/-- The worst candidate is removed exactly if all candidates are used or none is. -/
theorem removesWorstVap_iff (aps : r.HasAps) (many : s.config.maxApBeacons.toNat < r.numAp) :
    RemovesWorstVap s r ↔
      ∀ c d, IsCandidate r c → IsCandidate r d → (r.slot c).ap.used = (r.slot d).ap.used := by
  rcases removeVirtualAp_eq aps many with ⟨noCandidate, kept⟩ | ⟨w, candidate, greatest, removed⟩
  · refine iff_of_true ⟨fun _ => kept, ?_⟩ fun c _ isCandidate _ =>
      absurd isCandidate (noCandidate c)
    rintro ⟨c, isCandidate⟩
    exact absurd isCandidate (noCandidate c)
  · have removes : RemovesAp r (removeVirtualAp s r).2 w := by
      rw [removed]
      exact aps.removesAp candidate.1
    have order (c : ℕ) (isCandidate : IsCandidate r c) :=
      (vapKey_le_iff isCandidate.free candidate.free).1 (greatest c isCandidate)
    constructor
    · intro correct c d isC isD
      obtain ⟨w', -, worst, removes'⟩ := (correct.some ⟨w, candidate⟩).2
      have same : w' = w := aps.removesAp_unique removes' removes
      subst same
      have agree (c : ℕ) (isCandidate : IsCandidate r c) :
          (r.slot c).ap.used = (r.slot w').ap.used := by
        rcases order c isCandidate with unused | ⟨used, -⟩
        · exact absurd (.inl unused) (worst c isCandidate)
        · exact used
      rw [agree c isC, agree d isD]
    · intro agree
      constructor
      · intro none
        exact absurd candidate (none w)
      · intro _
        refine ⟨by rw [removed], w, candidate, ?_, removes⟩
        intro d isCandidate worse
        have used := agree d w isCandidate candidate
        rcases order d isCandidate with ⟨unused, usedW⟩ | ⟨-, le⟩
        · rw [used, usedW] at unused
          contradiction
        · rcases worse with ⟨unused, usedW⟩ | ⟨-, less⟩
          · rw [used, usedW] at unused
            contradiction
          · omega

instance (r : SkyRctx) : Decidable r.HasAps :=
  decidable_of_iff (r.numAp ≤ r.numBeacons ∧ r.live.length = r.numBeacons ∧
      (∀ i < r.numAp, (r.slot (i : ℕ)).isApType = true) ∧
      ∀ i < r.numAp, ∀ j < r.numAp, (r.slot (i : ℕ)).ap.mac = (r.slot (j : ℕ)).ap.mac → i = j)
    ⟨fun h => ⟨h.1, h.2.1, h.2.2.1, h.2.2.2⟩, fun h => ⟨h.order, h.full, h.isApType, h.distinct⟩⟩

def threeApSession : SkySctx :=
  { openedSession with config := { openedSession.config with maxApBeacons := 3 } }

/-- Two pairs of similar APs, the stronger pair first. -/
def twoPairs : SkyRctx :=
  requestOf [apCall 0x00 (-50), apCall 0x01 (-60), apCall 0x35 (-70), apCall 0x36 (-80)]

theorem twoPairs_removesWorstVap : RemovesWorstVap threeApSession twoPairs := by
  have unused : ∀ c < 4, (twoPairs.slot (c : ℕ)).ap.used = false := by decide +kernel
  have count : twoPairs.numAp = 4 := by decide +kernel
  apply (removesWorstVap_iff (by decide +kernel) (by decide +kernel)).2
  intro c d isC isD
  rw [unused c (count ▸ isC.1), unused d (count ▸ isD.1)]

def usedPair : SkyRctx :=
  let used (b : Beacon) : Beacon := { b with ap := { b.ap with used := true } }
  { twoPairs with beacon := (twoPairs.beacon.modify 0 used).modify 1 used }

theorem usedPair_candidates : IsCandidate usedPair 1 ∧ IsCandidate usedPair 3 := by
  constructor
  · exact ⟨by decide +kernel, 0, by decide +kernel,
      ⟨by decide +kernel, by decide +kernel, by decide +kernel⟩,
      .inr ⟨by decide +kernel, by decide +kernel⟩⟩
  · exact ⟨by decide +kernel, 2, by decide +kernel,
      ⟨by decide +kernel, by decide +kernel, by decide +kernel⟩,
      .inr ⟨by decide +kernel, by decide +kernel⟩⟩

/-- The used candidate goes, though the other one is not used. -/
theorem usedPair_not_removesWorstVap :
    usedPair.HasAps ∧ threeApSession.config.maxApBeacons.toNat < usedPair.numAp ∧
      ¬ RemovesWorstVap threeApSession usedPair := by
  have aps : usedPair.HasAps := by decide +kernel
  refine ⟨aps, by decide +kernel, ?_⟩
  intro correct
  have removed : RemovesAp usedPair (removeVirtualAp threeApSession usedPair).2 1 :=
    ⟨by decide +kernel, by decide +kernel, by decide +kernel⟩
  obtain ⟨w, -, worst, removes⟩ := (correct.some ⟨1, usedPair_candidates.1⟩).2
  have place : w = 1 := aps.removesAp_unique removes removed
  subst place
  refine worst 3 usedPair_candidates.2 (.inl ⟨?_, ?_⟩)
  · decide +kernel
  · decide +kernel

end ApPlugin

end EmbeddedClient
