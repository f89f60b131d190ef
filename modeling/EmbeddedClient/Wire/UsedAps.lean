import EmbeddedClient.Beacons.Frame
import EmbeddedClient.Beacons.Invariant
import EmbeddedClient.Support.Dealing
import Mathlib.Data.Nat.Bitwise
import Mathlib.Data.Nat.Digits.Defs

/-!
# The used bits of a response

The bitmap of a response is a number with the last byte first. `apply_used_info_to_ap` hands out
its bits to the APs and then, one round for each index, to their children. Its loops stop one bit
late, so a bitmap that is too short is read in front of its first byte.
-/

namespace EmbeddedClient

open Dealing

/-- Bit `n` of the bitmap, the last byte first; absent bits are not set. -/
def usedBit (used : List UInt8) (n : ℕ) : Bool :=
  (Nat.ofDigits 256 (used.reverse.map UInt8.toNat)).testBit n

theorem testBit_ofDigits (bytes : List UInt8) (n : ℕ) :
    (Nat.ofDigits 256 (bytes.map UInt8.toNat)).testBit n =
      (bytes.getD (n / 8) 0).toNat.testBit (n % 8) := by
  induction bytes generalizing n with
  | nil => simp
  | cons b bytes ih =>
    have small : b.toNat < 2 ^ 8 := b.toNat_lt
    have split : Nat.ofDigits 256 ((b :: bytes).map UInt8.toNat) =
        2 ^ 8 * Nat.ofDigits 256 (bytes.map UInt8.toNat) + b.toNat := by
      rw [List.map_cons, Nat.ofDigits_cons, Nat.add_comm]
      rfl
    rw [split, Nat.testBit_two_pow_mul_add _ small]
    by_cases low : n < 8
    · rw [if_pos low, Nat.div_eq_of_lt low, Nat.mod_eq_of_lt low]
      rfl
    · have index : n / 8 = (n - 8) / 8 + 1 := by omega
      have bit : n % 8 = (n - 8) % 8 := by omega
      rw [if_neg low, ih, index, bit, List.getD_cons_succ]

theorem and_shiftLeft_ne_zero_iff (b : UInt8) (k : ℕ) (low : k < 8) :
    b &&& (1 <<< UInt8.ofNat k) ≠ 0 ↔ b.toNat.testBit k = true := by
  have shift : (1 <<< UInt8.ofNat k : UInt8).toNat = 2 ^ k := by
    have below : 2 ^ k < 256 := Nat.pow_lt_pow_right (by decide : 1 < 2) low
    simp [UInt8.toNat_shiftLeft, Nat.mod_eq_of_lt (show k < 256 by omega), Nat.mod_eq_of_lt low,
      Nat.shiftLeft_eq, below]
  rw [ne_eq, ← UInt8.toNat_inj, UInt8.toNat_and, shift, Nat.and_two_pow]
  cases b.toNat.testBit k <;> simp

theorem getUsedAp_eq (used : List UInt8) (n : ℕ) : getUsedAp used n = usedBit used n := by
  have low : n % 8 < 8 := Nat.mod_lt n (by decide)
  unfold getUsedAp usedBit
  rw [testBit_ofDigits]
  split_ifs with inside
  · have byte : used.reverse.getD (n / 8) 0 = used.getD (used.length - 1 - n / 8) 0 := by
      rw [List.getD_eq_getElem?_getD, List.getD_eq_getElem?_getD, List.getElem?_reverse inside]
    rw [byte, Bool.eq_iff_iff, decide_eq_true_iff]
    exact and_shiftLeft_ne_zero_iff _ _ low
  · have outside : used.reverse[n / 8]? = none := List.getElem?_eq_none (by simpa using inside)
    simp [outside]

/-- The byte that `GET_USED_AP` reads for bit `n`. -/
def usedIndex (used : List UInt8) (n : ℕ) : ℤ := used.length - 1 - (n / 8 : ℕ)

/-- A loop of `apply_used_info_to_ap` over the APs, with the indexes it reads: `takes` tells which
APs take a bit, and `write` where it goes. -/
def usedInfoTraced (takes : Beacon → Bool) (write : Beacon → Bool → Beacon) (used : List UInt8) :
    ℕ → List Beacon → (ℕ × List Beacon) × List ℤ
  | nap, [] => ((nap, []), [])
  | nap, b :: bs =>
    if takes b then
      if used.length * 8 < nap then ((nap + 1, write b (getUsedAp used nap) :: bs),
        [usedIndex used nap])
      else
        let rest := usedInfoTraced takes write used (nap + 1) bs
        ((rest.1.1, write b (getUsedAp used nap) :: rest.1.2), usedIndex used nap :: rest.2)
    else
      let rest := usedInfoTraced takes write used nap bs
      ((rest.1.1, b :: rest.1.2), rest.2)

def Beacon.setUsed (b : Beacon) (used : Bool) : Beacon :=
  { b with ap := { b.ap with used := used } }

def Beacon.hasVap (v : ℕ) (b : Beacon) : Bool := v < b.ap.vgLen.toNat

def usedInfoRoundsTraced (used : List UInt8) : (left v nap : ℕ) → List Beacon → List Beacon × List ℤ
  | 0, _, _, bs => (bs, [])
  | left + 1, v, nap, bs =>
    let round := usedInfoTraced (Beacon.hasVap v) (·.setVgProp v) used nap bs
    if used.length * 8 < round.1.1 then (round.1.2, round.2)
    else
      let rest := usedInfoRoundsTraced used left (v + 1) round.1.1 round.1.2
      (rest.1, round.2 ++ rest.2)

/-- `apply_used_info_to_ap` with the indexes it reads. -/
def applyUsedInfoToApTraced (s : SkySctx) (r : SkyRctx) (used : List UInt8) : SkyRctx × List ℤ :=
  if TOTAL_BEACONS * MAX_VAP_PER_AP < used.length then (r, [])
  else
    let parents := usedInfoTraced (fun _ => true) Beacon.setUsed used 0 r.aps
    let aps := usedInfoRoundsTraced used s.config.maxVapPerAp.toNat 0 parents.1.1 parents.1.2
    ({ r with beacon := aps.1 ++ r.beacon.drop r.numAp }, parents.2 ++ aps.2)

variable {used : List UInt8}

theorem usedInfoTraced_aps (used : List UInt8) (nap : ℕ) (bs : List Beacon) :
    (usedInfoTraced (fun _ => true) Beacon.setUsed used nap bs).1 = usedInfoAps used nap bs := by
  induction bs generalizing nap with
  | nil => rfl
  | cons b bs ih =>
    rw [usedInfoTraced, usedInfoAps, if_pos rfl]
    split_ifs
    · rfl
    · dsimp only
      rw [ih]
      rfl

theorem usedInfoTraced_vaps (used : List UInt8) (v nap : ℕ) (bs : List Beacon) :
    (usedInfoTraced (Beacon.hasVap v) (·.setVgProp v) used nap bs).1 =
      usedInfoVaps used v nap bs := by
  induction bs generalizing nap with
  | nil => rfl
  | cons b bs ih =>
    simp only [usedInfoTraced, usedInfoVaps, Beacon.hasVap, decide_eq_true_eq]
    split_ifs
    · rfl
    · dsimp only
      rw [← ih]
    · dsimp only
      rw [← ih]

theorem usedInfoRoundsTraced_value (used : List UInt8) (left v nap : ℕ) (bs : List Beacon) :
    (usedInfoRoundsTraced used left v nap bs).1 = usedInfoRounds used left v nap bs := by
  induction left generalizing v nap bs with
  | zero => rfl
  | succ left ih =>
    rw [usedInfoRoundsTraced, usedInfoRounds, ← usedInfoTraced_vaps]
    dsimp only
    split_ifs
    · rfl
    · exact ih ..

/-- What is computed beside the reads is what `apply_used_info_to_ap` computes. -/
theorem applyUsedInfoToApTraced_value (s : SkySctx) (r : SkyRctx) (used : List UInt8) :
    (applyUsedInfoToApTraced s r used).1 = applyUsedInfoToAp s r used := by
  unfold applyUsedInfoToApTraced applyUsedInfoToAp
  split_ifs
  · rfl
  · dsimp only
    rw [← usedInfoTraced_aps, ← usedInfoRoundsTraced_value]

variable {takes : Beacon → Bool} {write : Beacon → Bool → Beacon}

def UsedInside (used : List UInt8) (index : ℤ) : Prop := 0 ≤ index ∧ index < used.length

theorem usedInside_usedIndex {n : ℕ} (low : n < used.length * 8) :
    UsedInside used (usedIndex used n) := by
  unfold UsedInside usedIndex
  omega

/-- A loop that finds all its bits. -/
structure Walked (takes : Beacon → Bool) (write : Beacon → Bool → Beacon)
    (used : List UInt8) (nap : ℕ) (bs : List Beacon)
    (result : (ℕ × List Beacon) × List ℤ) : Prop where
  next : result.1.1 = nap + bs.countP takes
  written : ∀ i, result.1.2[i]? = bs[i]?.map fun b =>
    if takes b then write b (usedBit used (nap + (bs.take i).countP takes)) else b
  inside : ∀ index ∈ result.2, UsedInside used index

theorem usedInfoTraced_walked {nap : ℕ} {bs : List Beacon}
    (fits : nap + bs.countP takes ≤ used.length * 8) :
    Walked takes write used nap bs (usedInfoTraced takes write used nap bs) := by
  induction bs generalizing nap with
  | nil => exact ⟨rfl, fun i => by simp [usedInfoTraced], fun _ member =>
    absurd member List.not_mem_nil⟩
  | cons b bs ih =>
    unfold usedInfoTraced
    by_cases taken : takes b = true
    · rw [List.countP_cons_of_pos taken] at fits
      have rest := @ih (nap + 1) (by omega)
      rw [if_pos taken, if_neg (by omega), getUsedAp_eq]
      constructor
      · rw [List.countP_cons_of_pos taken]
        dsimp only
        rw [rest.next]
        omega
      · intro i
        cases i with
        | zero => simp [taken]
        | succ i => simp [rest.written, taken, Nat.add_assoc, Nat.add_comm 1]
      · intro index member
        rcases List.mem_cons.1 member with rfl | later
        · exact usedInside_usedIndex (by omega)
        · exact rest.inside index later
    · rw [List.countP_cons_of_neg taken] at fits
      have rest := ih fits
      rw [if_neg taken]
      constructor
      · rw [List.countP_cons_of_neg taken]
        exact rest.next
      · intro i
        cases i with
        | zero => simp [taken]
        | succ i => simp [rest.written, taken]
      · exact rest.inside

theorem usedInfoTraced_beyond {nap : ℕ} {bs : List Beacon} (start : nap ≤ used.length * 8)
    (beyond : used.length * 8 < nap + bs.countP takes) :
    ∃ index ∈ (usedInfoTraced takes write used nap bs).2, ¬ UsedInside used index := by
  induction bs generalizing nap with
  | nil => simp at beyond; omega
  | cons b bs ih =>
    unfold usedInfoTraced
    by_cases taken : takes b = true
    · rw [List.countP_cons_of_pos taken] at beyond
      rw [if_pos taken, if_neg (by omega)]
      by_cases last : nap = used.length * 8
      · refine ⟨usedIndex used nap, .head _, ?_⟩
        unfold UsedInside usedIndex
        omega
      · obtain ⟨index, member, outside⟩ := @ih (nap + 1) (by omega) (by omega)
        exact ⟨index, .tail _ member, outside⟩
    · rw [List.countP_cons_of_neg taken] at beyond
      rw [if_neg taken]
      exact ih start beyond

theorem usedInfoTraced_map {α : Type} {f : Beacon → α}
    (keeps : ∀ b u, f (write b u) = f b) (nap : ℕ) (bs : List Beacon) :
    (usedInfoTraced takes write used nap bs).1.2.map f = bs.map f := by
  induction bs generalizing nap with
  | nil => rfl
  | cons b bs ih =>
    unfold usedInfoTraced
    split_ifs
    · simp [keeps]
    · simp [keeps, ih]
    · simp [ih]

def groupLengths (bs : List Beacon) : List ℕ := bs.map fun b => b.ap.vgLen.toNat

theorem countP_hasVap (bs : List Beacon) (v : ℕ) :
    bs.countP (Beacon.hasVap v) = (groupLengths bs).countP (v < ·) := by
  rw [groupLengths, List.countP_map]
  rfl

@[simp] theorem Beacon.setVgProp_vgLen (b : Beacon) (v : ℕ) (u : Bool) :
    (b.setVgProp v u).ap.vgLen = b.ap.vgLen := by
  unfold Beacon.setVgProp
  split_ifs <;> rfl

@[simp] theorem Beacon.setVgProp_used (b : Beacon) (v : ℕ) (u : Bool) :
    (b.setVgProp v u).ap.used = b.ap.used := by
  unfold Beacon.setVgProp
  split_ifs <;> rfl

theorem Beacon.setVgProp_vgProp (b : Beacon) (v : ℕ) (u : Bool) {w : ℕ} (range : w < 4) :
    (b.setVgProp v u).ap.vgProp[w] = if v = w then u else b.ap.vgProp[w] := by
  unfold Beacon.setVgProp
  split_ifs with inside
  · exact Vector.getElem_set inside range
  · rw [if_neg (by omega)]

theorem groupLengths_round (v nap : ℕ) (bs : List Beacon) :
    groupLengths (usedInfoTraced (Beacon.hasVap v) (·.setVgProp v) used nap bs).1.2 =
      groupLengths bs :=
  usedInfoTraced_map (fun b u => by rw [Beacon.setVgProp_vgLen]) nap bs

/-- The bit of child `v` of AP `i`, if the bits of the children start at `first`: those of the
children with an index below `v` come before, and those of child `v` of the APs in front. -/
def childBit (first : ℕ) (lens : List ℕ) (v i : ℕ) : ℕ :=
  first + dealt lens v + (lens.take i).countP (v < ·)

/-- An AP of index `i` with the bits of its children from index `v` to `last`. -/
structure GrantedFrom (used : List UInt8) (first : ℕ) (lens : List ℕ) (i v last : ℕ)
    (b b' : Beacon) :
    Prop where
  parent : b'.ap.used = b.ap.used
  vgLen : b'.ap.vgLen = b.ap.vgLen
  vgProp : ∀ w (range : w < 4), b'.ap.vgProp[w] =
    if v ≤ w ∧ w < last ∧ w < b.ap.vgLen.toNat then usedBit used (childBit first lens w i)
    else b.ap.vgProp[w]

theorem GrantedFrom.cons {used : List UInt8} {first i v last : ℕ} {lens : List ℕ} {b b' : Beacon}
    (before : v < last) (rest : GrantedFrom used first lens i (v + 1) last
      (if b.hasVap v then b.setVgProp v (usedBit used (childBit first lens v i)) else b) b') :
    GrantedFrom used first lens i v last b b' := by
  obtain ⟨parent, vgLen, vgProp⟩ := rest
  by_cases vap : b.hasVap v = true
  · have some : v < b.ap.vgLen.toNat := by simpa [Beacon.hasVap] using vap
    rw [if_pos vap] at parent vgLen vgProp
    refine ⟨parent.trans (b.setVgProp_used ..), vgLen.trans (b.setVgProp_vgLen ..), ?_⟩
    intro w range
    rw [vgProp w range, b.setVgProp_vgLen, b.setVgProp_vgProp _ _ range]
    by_cases same : v = w
    · subst same
      rw [if_neg (by omega), if_pos rfl, if_pos ⟨le_rfl, before, some⟩]
    · have later : v + 1 ≤ w ↔ v ≤ w := by omega
      simp only [if_neg same, later]
  · have none : b.ap.vgLen.toNat ≤ v := by simpa [Beacon.hasVap] using vap
    rw [if_neg vap] at parent vgLen vgProp
    refine ⟨parent, vgLen, ?_⟩
    intro w range
    have later : v + 1 ≤ w ∧ w < last ∧ w < b.ap.vgLen.toNat ↔
      v ≤ w ∧ w < last ∧ w < b.ap.vgLen.toNat := by
      omega
    rw [vgProp w range]
    simp only [later]

/-- The rounds hand out the bits in turn, as long as there are enough. -/
theorem usedInfoRoundsTraced_within {left v nap first : ℕ} {bs : List Beacon}
    (start : nap = first + dealt (groupLengths bs) v)
    (fits : first + dealt (groupLengths bs) (v + left) ≤ used.length * 8) :
    (∀ index ∈ (usedInfoRoundsTraced used left v nap bs).2, UsedInside used index) ∧
      ∀ i b, bs[i]? = some b → ∃ b', (usedInfoRoundsTraced used left v nap bs).1[i]? = some b' ∧
        GrantedFrom used first (groupLengths bs) i v (v + left) b b' := by
  induction left generalizing v nap bs with
  | zero =>
    refine ⟨fun _ member => absurd member List.not_mem_nil, ?_⟩
    intro i b found
    refine ⟨b, found, rfl, rfl, ?_⟩
    intro w range
    rw [if_neg (by omega)]
  | succ left ih =>
    have now := dealt_succ (groupLengths bs) v
    have later := dealt_mono (groupLengths bs) (show v + 1 ≤ v + (left + 1) by omega)
    have walked := @usedInfoTraced_walked used (Beacon.hasVap v) (·.setVgProp v) nap bs (by
      rw [countP_hasVap]
      omega)
    have lens := @groupLengths_round used v nap bs
    have next := walked.next
    rw [countP_hasVap] at next
    unfold usedInfoRoundsTraced
    generalize usedInfoTraced (Beacon.hasVap v) (·.setVgProp v) used nap bs = round
      at walked lens next
    dsimp only
    rw [if_neg (by omega)]
    obtain ⟨inside, granted⟩ := @ih (v + 1) round.1.1 round.1.2 (by rw [lens]; omega)
      (by rw [lens, Nat.add_right_comm, Nat.add_assoc]; exact fits)
    constructor
    · intro index member
      rcases List.mem_append.1 member with first | rest
      · exact walked.inside index first
      · exact inside index rest
    · intro i b found
      have written := walked.written i
      rw [found, Option.map_some] at written
      obtain ⟨b', found', rest⟩ := granted i _ written
      refine ⟨b', found', ?_⟩
      apply GrantedFrom.cons (by omega)
      have bit :
          nap + (bs.take i).countP (Beacon.hasVap v) = childBit first (groupLengths bs) v i := by
        rw [childBit, countP_hasVap, start, groupLengths, groupLengths, List.map_take]
      rw [lens, bit, show v + 1 + left = v + (left + 1) by omega] at rest
      exact rest

theorem usedInfoRoundsTraced_beyond {left v nap first : ℕ} {bs : List Beacon}
    (start : nap = first + dealt (groupLengths bs) v) (low : nap ≤ used.length * 8)
    (beyond : used.length * 8 < first + dealt (groupLengths bs) (v + left)) :
    ∃ index ∈ (usedInfoRoundsTraced used left v nap bs).2, ¬ UsedInside used index := by
  induction left generalizing v nap bs with
  | zero => rw [Nat.add_zero] at beyond; omega
  | succ left ih =>
    have now := dealt_succ (groupLengths bs) v
    unfold usedInfoRoundsTraced
    by_cases short : used.length * 8 < nap + bs.countP (Beacon.hasVap v)
    · obtain ⟨index, member, outside⟩ :=
        @usedInfoTraced_beyond used _ (fun b u => b.setVgProp v u) nap bs low short
      refine ⟨index, ?_, outside⟩
      dsimp only
      split_ifs
      · exact member
      · exact List.mem_append_left _ member
    · have walked := @usedInfoTraced_walked used (Beacon.hasVap v) (·.setVgProp v) nap bs (by omega)
      have lens := @groupLengths_round used v nap bs
      have next := walked.next
      rw [countP_hasVap] at next short
      generalize usedInfoTraced (Beacon.hasVap v) (·.setVgProp v) used nap bs = round
        at walked lens next
      obtain ⟨index, member, outside⟩ :=
        @ih (v + 1) round.1.1 round.1.2 (by rw [lens]; omega) (by omega)
        (by rw [lens, Nat.add_right_comm, Nat.add_assoc]; exact beyond)
      refine ⟨index, ?_, outside⟩
      dsimp only
      rw [if_neg (by omega)]
      exact List.mem_append_right _ member

variable {s : SkySctx} {r : SkyRctx}

/-- The APs and the children below `max_vap_per_ap`, each of which takes a bit. -/
def bitsTaken (s : SkySctx) (r : SkyRctx) : ℕ :=
  r.aps.length + dealt (groupLengths r.aps) s.config.maxVapPerAp.toNat

/-- The bitmap is applied exactly: only its bytes are read, AP `i` has bit `i`, and the children
have the bits after those of the APs, all first children first. -/
structure AppliedExactly (s : SkySctx) (r : SkyRctx) (used : List UInt8) : Prop where
  reads : ∀ index ∈ (applyUsedInfoToApTraced s r used).2, UsedInside used index
  parents : ∀ i b, r.aps[i]? = some b →
    ∃ b', (applyUsedInfoToAp s r used).aps[i]? = some b' ∧ b'.ap.used = usedBit used i
  children : ∀ i b, r.aps[i]? = some b → ∃ b', (applyUsedInfoToAp s r used).aps[i]? = some b' ∧
    ∀ v (range : v < 4), v < s.config.maxVapPerAp.toNat → v < b.ap.vgLen.toNat →
      b'.ap.vgProp[v] = usedBit used (childBit r.aps.length (groupLengths r.aps) v i)

theorem countP_true (bs : List Beacon) : bs.countP (fun _ => true) = bs.length := by
  rw [List.countP_eq_length]
  exact fun _ _ => rfl

theorem groupLengths_parents (bs : List Beacon) (nap : ℕ) :
    groupLengths (usedInfoTraced (fun _ => true) Beacon.setUsed used nap bs).1.2 =
      groupLengths bs :=
  @usedInfoTraced_map used _ Beacon.setUsed _ _ (fun _ _ => rfl) nap bs

theorem applyUsedInfoToAp_aps (size : used.length ≤ TOTAL_BEACONS * MAX_VAP_PER_AP) :
    let parents := usedInfoTraced (fun _ => true) Beacon.setUsed used 0 r.aps
    (applyUsedInfoToAp s r used).aps =
      (usedInfoRoundsTraced used s.config.maxVapPerAp.toNat 0 parents.1.1 parents.1.2).1 := by
  intro parents
  have scan := usedInfoRounds_scan used s.config.maxVapPerAp.toNat 0 parents.1.1 parents.1.2
  have same := @usedInfoTraced_map used (fun _ => true) Beacon.setUsed _ Beacon.scan
    (fun _ _ => rfl) 0 r.aps
  rw [← usedInfoRoundsTraced_value] at scan
  have length := congrArg List.length (scan.trans same)
  rw [List.length_map, List.length_map] at length
  rw [← applyUsedInfoToApTraced_value]
  unfold applyUsedInfoToApTraced
  rw [if_neg (by omega)]
  exact aps_replaced length

theorem applyUsedInfoToApTraced_reads (size : used.length ≤ TOTAL_BEACONS * MAX_VAP_PER_AP) :
    let parents := usedInfoTraced (fun _ => true) Beacon.setUsed used 0 r.aps
    (applyUsedInfoToApTraced s r used).2 = parents.2 ++
      (usedInfoRoundsTraced used s.config.maxVapPerAp.toNat 0 parents.1.1 parents.1.2).2 := by
  unfold applyUsedInfoToApTraced
  rw [if_neg (by omega)]

theorem appliedExactly_of_enough (size : used.length ≤ TOTAL_BEACONS * MAX_VAP_PER_AP)
    (enough : bitsTaken s r ≤ used.length * 8) : AppliedExactly s r used := by
  unfold bitsTaken at enough
  have walked := @usedInfoTraced_walked used (fun _ => true) Beacon.setUsed 0 r.aps (by
    rw [countP_true]
    omega)
  have lens := @groupLengths_parents used r.aps 0
  have next := walked.next
  rw [countP_true, Nat.zero_add] at next
  have aps := applyUsedInfoToAp_aps (s := s) (r := r) size
  have reads := applyUsedInfoToApTraced_reads (s := s) (r := r) size
  generalize usedInfoTraced (fun _ => true) Beacon.setUsed used 0 r.aps = parents
    at walked lens next aps reads
  obtain ⟨inside, granted⟩ :=
    @usedInfoRoundsTraced_within used s.config.maxVapPerAp.toNat 0 parents.1.1
    r.aps.length parents.1.2 (by rw [dealt_zero, next]; rfl)
      (by rw [lens, Nat.zero_add]; exact enough)
  have result (i : ℕ) (b : Beacon) (found : r.aps[i]? = some b) :
      ∃ b', (applyUsedInfoToAp s r used).aps[i]? = some b' ∧
      GrantedFrom used r.aps.length (groupLengths r.aps) i 0 s.config.maxVapPerAp.toNat
        (b.setUsed (usedBit used i)) b' := by
    have written := walked.written i
    rw [found, Option.map_some, if_pos rfl, countP_true, Nat.zero_add] at written
    have index : (r.aps.take i).length = i := by
      have := (List.getElem?_eq_some_iff.1 found).1
      rw [List.length_take_of_le (by omega)]
    rw [index] at written
    obtain ⟨b', found', rest⟩ := granted i _ written
    rw [lens, Nat.zero_add] at rest
    exact ⟨b', by rw [aps, found'], rest⟩
  constructor
  · intro index member
    rw [reads] at member
    rcases List.mem_append.1 member with first | rest
    · exact walked.inside index first
    · exact inside index rest
  · intro i b found
    obtain ⟨b', found', rest⟩ := result i b found
    exact ⟨b', found', rest.parent⟩
  · intro i b found
    obtain ⟨b', found', rest⟩ := result i b found
    refine ⟨b', found', ?_⟩
    intro v range allowed exists'
    rw [rest.vgProp v range]
    exact if_pos ⟨Nat.zero_le v, allowed, exists'⟩

theorem reads_of_short (size : used.length ≤ TOTAL_BEACONS * MAX_VAP_PER_AP)
    (short : used.length * 8 < bitsTaken s r) :
    ∃ index ∈ (applyUsedInfoToApTraced s r used).2, ¬ UsedInside used index := by
  unfold bitsTaken at short
  have reads := applyUsedInfoToApTraced_reads (s := s) (r := r) size
  by_cases few : used.length * 8 < r.aps.length
  · obtain ⟨index, member, outside⟩ :=
      @usedInfoTraced_beyond used (fun _ => true) Beacon.setUsed 0 r.aps
      (Nat.zero_le _) (by rw [countP_true]; omega)
    refine ⟨index, ?_, outside⟩
    rw [reads]
    exact List.mem_append_left _ member
  · have walked := @usedInfoTraced_walked used (fun _ => true) Beacon.setUsed 0 r.aps (by
      rw [countP_true]
      omega)
    have lens := @groupLengths_parents used r.aps 0
    have next := walked.next
    rw [countP_true, Nat.zero_add] at next
    generalize usedInfoTraced (fun _ => true) Beacon.setUsed used 0 r.aps = parents
      at walked lens next reads
    obtain ⟨index, member, outside⟩ :=
      @usedInfoRoundsTraced_beyond used s.config.maxVapPerAp.toNat 0 parents.1.1
      r.aps.length parents.1.2 (by rw [dealt_zero, next]; rfl) (by omega)
      (by rw [lens, Nat.zero_add]; exact short)
    refine ⟨index, ?_, outside⟩
    rw [reads]
    exact List.mem_append_right _ member

/-- `apply_used_info_to_ap` applies the bitmap exactly if and only if the bitmap has a bit for each
AP and child. -/
theorem appliedExactly_iff (s : SkySctx) (r : SkyRctx) (used : List UInt8)
    (size : used.length ≤ TOTAL_BEACONS * MAX_VAP_PER_AP) :
    AppliedExactly s r used ↔ bitsTaken s r ≤ used.length * 8 := by
  constructor
  · intro exact'
    by_contra short
    obtain ⟨index, member, outside⟩ := @reads_of_short used s r size (by omega)
    exact outside (exact'.reads index member)
  · exact appliedExactly_of_enough size

def scannedAps : SkyRctx := requestOf [apCall 1 (-50), apCall 18 (-60), apCall 35 (-70)]

def groupedAps : SkyRctx :=
  { scannedAps with beacon := scannedAps.beacon.mapIdx fun i b =>
      { b with ap := { b.ap with vgLen := [2, 0, 3].getD i 0 } } }

theorem groupedAps_appliedExactly :
    bitsTaken openedSession groupedAps = 8 ∧ AppliedExactly openedSession groupedAps [181] :=
  ⟨by decide +kernel,
    (appliedExactly_iff openedSession groupedAps [181] (by decide)).2 (by decide +kernel)⟩

/-- After a response that marked all three APs, one without a bitmap is read in front of it, and
leaves the last AP marked. -/
theorem noBitmap_not_appliedExactly :
    (applyUsedInfoToApTraced openedSession (applyUsedInfoToAp openedSession scannedAps [7]) []).2 =
        [-1, -1] ∧
      (applyUsedInfoToAp openedSession (applyUsedInfoToAp openedSession scannedAps [7]) []).aps.map
        (fun b => b.ap.used) = [false, false, true] ∧
      ¬ AppliedExactly openedSession (applyUsedInfoToAp openedSession scannedAps [7]) [] := by
  have reads :
      (applyUsedInfoToApTraced openedSession (applyUsedInfoToAp openedSession scannedAps [7])
      []).2 = [-1, -1] := by decide +kernel
  refine ⟨reads, by decide +kernel, ?_⟩
  intro exact'
  have inside := exact'.reads (-1) (by rw [reads]; exact .head _)
  exact absurd inside.1 (by decide)

end EmbeddedClient
