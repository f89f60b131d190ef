import EmbeddedClient.Beacons.Equality

/-!
# Addresses

`memcmp` orders addresses by their value. `mac_similar` relates two addresses that differ in
at most one nibble and agree in the local admin bit, and its sign is that of `memcmp`.
-/

namespace EmbeddedClient

/-- The number that the bytes write, the first byte the most significant one. -/
def byteValue (bytes : List UInt8) : ℕ := bytes.foldl (fun value byte => value * 256 + byte.toNat) 0

def Beacon.macValue (b : Beacon) : ℕ := byteValue b.ap.mac.toList

theorem byteValue_cons (byte : UInt8) (bytes : List UInt8) :
    byteValue (byte :: bytes) = byte.toNat * 256 ^ bytes.length + byteValue bytes := by
  have shift (value : ℕ) : bytes.foldl (fun value byte => value * 256 + byte.toNat) value =
      value * 256 ^ bytes.length + byteValue bytes := by
    induction bytes generalizing value with
    | nil => simp [byteValue]
    | cons next bytes ih =>
      have first := ih (value * 256 + next.toNat)
      have second := ih next.toNat
      simp only [byteValue, List.foldl_cons, List.length_cons, Nat.zero_mul, Nat.zero_add, pow_succ]
        at *
      rw [first, second]
      ring
  have start := shift byte.toNat
  unfold byteValue at start ⊢
  rw [List.foldl_cons, Nat.zero_mul, Nat.zero_add, start]

theorem byteValue_lt (bytes : List UInt8) : byteValue bytes < 256 ^ bytes.length := by
  induction bytes with
  | nil => simp [byteValue]
  | cons byte bytes ih =>
    have small := byte.toNat_lt
    rw [byteValue_cons, List.length_cons, pow_succ]
    nlinarith

theorem memcmp_neg_iff {as bs : List UInt8} (length : as.length = bs.length) :
    memcmp as bs < 0 ↔ byteValue as < byteValue bs := by
  induction as generalizing bs with
  | nil =>
    cases bs with
    | nil => simp [memcmp]
    | cons b bs => simp at length
  | cons a as ih =>
    cases bs with
    | nil => simp at length
    | cons b bs =>
      have rest : as.length = bs.length := by simpa using length
      have boundA := byteValue_lt as
      have boundB : byteValue bs < 256 ^ as.length := rest ▸ byteValue_lt bs
      unfold memcmp
      rw [byteValue_cons, byteValue_cons, ← rest]
      split_ifs with same
      · rw [ih rest, same]
        omega
      · have differ : a.toNat ≠ b.toNat := fun eq => same (UInt8.toNat_inj.1 eq)
        rcases Nat.lt_or_gt_of_ne differ with less | more
        · apply iff_of_true (by omega)
          nlinarith
        · apply iff_of_false (by omega)
          nlinarith

theorem compareMac_neg_iff (a b : Beacon) : compareMac a b < 0 ↔ b.macValue < a.macValue :=
  memcmp_neg_iff (by simp)

theorem memcmp_swap (as bs : List UInt8) : memcmp bs as = -memcmp as bs := by
  induction as generalizing bs with
  | nil => cases bs <;> simp [memcmp]
  | cons a as ih =>
    cases bs with
    | nil => simp [memcmp]
    | cons b bs =>
      unfold memcmp
      by_cases same : a = b
      · rw [if_pos same, if_pos same.symm, ih]
      · rw [if_neg same, if_neg (Ne.symm same)]
        ring

theorem compareMac_swap (a b : Beacon) : compareMac b a = -compareMac a b := memcmp_swap _ _

theorem compareMac_pos_iff (a b : Beacon) : 0 < compareMac a b ↔ a.macValue < b.macValue := by
  have swapped := compareMac_swap a b
  rw [← compareMac_neg_iff]
  omega

theorem macValue_inj_iff (a b : Beacon) : a.macValue = b.macValue ↔ a.ap.mac = b.ap.mac := by
  have less := compareMac_neg_iff a b
  have more := compareMac_pos_iff a b
  rw [← compareMac_eq_zero_iff]
  omega

variable {a b : Vector UInt8 6}

def nibbleDiffers (a b : Vector UInt8 6) (n : ℕ) : Bool :=
  byteAt a (n / 2) &&& nibbleMask n ≠ byteAt b (n / 2) &&& nibbleMask n

theorem nibbleDiffers_comm (a b : Vector UInt8 6) (n : ℕ) :
    nibbleDiffers a b n = nibbleDiffers b a n := by
  simp [nibbleDiffers, eq_comm]

theorem byteAt_ne_of_nibbleDiffers {n : ℕ} (differs : nibbleDiffers a b n = true) :
    byteAt a (n / 2) ≠ byteAt b (n / 2) := by
  intro same
  simp [nibbleDiffers, same] at differs

theorem eq_of_nibbles {x y : UInt8} (high : x &&& 0xF0 = y &&& 0xF0)
    (low : x &&& 0x0F = y &&& 0x0F) :
    x = y := by
  have split (z : UInt8) : z = (z &&& 0xF0) ||| (z &&& 0x0F) := by
    apply UInt8.toBitVec_inj.1
    ext i below
    simp
    interval_cases i <;> simp
  rw [split x, split y, high, low]

/-- After a difference the loop of `mac_similar` gives up at the next one. -/
theorem macSimilarLoop_one (ns : List ℕ) (idx : ℕ) (result : ℤ) :
    macSimilarLoop a b ns 1 idx result =
      if ns.any (nibbleDiffers a b) then none else some (result, idx) := by
  induction ns with
  | nil => rfl
  | cons n ns ih =>
    unfold macSimilarLoop
    by_cases differs : nibbleDiffers a b n = true
    · rw [if_pos (by simpa [nibbleDiffers] using differs), if_pos (by decide),
        List.any_cons, differs]
      rfl
    · rw [if_neg (by simpa [nibbleDiffers] using differs), ih, List.any_cons]
      simp [differs]

/-- The loop of `mac_similar` gives up at the second difference. With no difference it keeps
the result, with one it returns the difference of the bytes there. -/
theorem macSimilarLoop_cases (ns : List ℕ) (idx : ℕ) (result : ℤ) :
    (macSimilarLoop a b ns 0 idx result = none ∧ 1 < ns.countP (nibbleDiffers a b)) ∨
      (macSimilarLoop a b ns 0 idx result = some (result, idx) ∧
        ns.countP (nibbleDiffers a b) = 0) ∨
      ∃ n, nibbleDiffers a b n = true ∧ ns.countP (nibbleDiffers a b) = 1 ∧ n ∈ ns ∧
        macSimilarLoop a b ns 0 idx result =
          some (((byteAt a (n / 2)).toNat : ℤ) - (byteAt b (n / 2)).toNat, n) := by
  induction ns with
  | nil => exact .inr (.inl ⟨rfl, rfl⟩)
  | cons n ns ih =>
    by_cases differs : nibbleDiffers a b n = true
    · have first (idx : ℕ) (result : ℤ) : macSimilarLoop a b (n :: ns) 0 idx result =
          macSimilarLoop a b ns 1 n
            (((byteAt a (n / 2)).toNat : ℤ) - (byteAt b (n / 2)).toNat) := by
        rw [macSimilarLoop, if_pos (by simpa [nibbleDiffers] using differs), if_neg (by decide)]
      rw [first, macSimilarLoop_one, List.countP_cons_of_pos differs]
      by_cases more : ns.any (nibbleDiffers a b) = true
      · have some : 0 < ns.countP (nibbleDiffers a b) := by
          rw [List.countP_pos_iff]
          simpa using more
        exact .inl ⟨if_pos more, by omega⟩
      · have none : ns.countP (nibbleDiffers a b) = 0 := by
          rw [List.countP_eq_zero]
          simpa using more
        exact .inr (.inr ⟨n, differs, by omega, .head _, if_neg more⟩)
    · have skip :
          macSimilarLoop a b (n :: ns) 0 idx result = macSimilarLoop a b ns 0 idx result := by
        rw [macSimilarLoop, if_neg (by simpa [nibbleDiffers] using differs)]
      rw [skip, List.countP_cons_of_neg differs]
      rcases ih with gaveUp | none | ⟨m, differsM, one, member, found⟩
      · exact .inl gaveUp
      · exact .inr (.inl none)
      · exact .inr (.inr ⟨m, differsM, one, .tail _ member, found⟩)

def nibblesApart (a b : Vector UInt8 6) : ℕ := (List.range 12).countP (nibbleDiffers a b)

/-- Two addresses are similar if they differ in at most one nibble and have the same local
admin bit. -/
theorem macSimilar_ne_zero_iff (a b : Vector UInt8 6) :
    (macSimilar a b).1 ≠ 0 ↔ nibblesApart a b ≤ 1 ∧ byteAt a 0 &&& 0x02 = byteAt b 0 &&& 0x02 := by
  unfold macSimilar nibblesApart
  rcases @macSimilarLoop_cases a b (List.range 12) 0 1 with
    ⟨loop, many⟩ | ⟨loop, none⟩ | ⟨n, differs, one, -, loop⟩
  · rw [loop]
    simp
    omega
  · rw [loop, none]
    dsimp only
    split_ifs with admin
    · simp [admin]
    · simpa using admin
  · have apart : (byteAt a (n / 2)).toNat ≠ (byteAt b (n / 2)).toNat :=
      fun same => byteAt_ne_of_nibbleDiffers differs (UInt8.toNat_inj.1 same)
    rw [loop, one]
    dsimp only
    split_ifs with admin
    · simp [admin]
    · refine iff_of_true (by dsimp only; omega) ⟨le_rfl, by simpa using admin⟩

theorem Beacon.similar_iff (a b : Beacon) :
    a.similar b = true ↔ nibblesApart a.ap.mac b.ap.mac ≤ 1 ∧
      byteAt a.ap.mac 0 &&& 0x02 = byteAt b.ap.mac 0 &&& 0x02 := by
  rw [← macSimilar_ne_zero_iff, Beacon.similar, decide_eq_true_eq]

theorem nibblesApart_comm (a b : Vector UInt8 6) : nibblesApart a b = nibblesApart b a := by
  unfold nibblesApart
  congr 1
  exact funext (nibbleDiffers_comm a b)

theorem Beacon.similar_comm (a b : Beacon) : a.similar b = b.similar a := by
  rw [Bool.eq_iff_iff, similar_iff, similar_iff, nibblesApart_comm,
    eq_comm (b := byteAt b.ap.mac 0 &&& 0x02)]

theorem Beacon.similar_self (a : Beacon) : a.similar a = true := by
  rw [similar_iff]
  have none : nibblesApart a.ap.mac a.ap.mac = 0 := List.countP_eq_zero.2 (by simp [nibbleDiffers])
  exact ⟨by omega, rfl⟩

theorem memcmp_of_differ {as bs : List UInt8} {k : ℕ} (inside : k < as.length)
    (inside' : k < bs.length) (differ : as[k] ≠ bs[k])
    (before : ∀ i (below : i < k), as[i] = bs[i]) :
    memcmp as bs = (as[k].toNat : ℤ) - bs[k].toNat := by
  induction as generalizing bs k with
  | nil => simp at inside
  | cons a as ih =>
    cases bs with
    | nil => simp at inside'
    | cons b bs =>
      unfold memcmp
      cases k with
      | zero => exact if_neg differ
      | succ k =>
        have first : a = b := before 0 (by omega)
        rw [if_pos first]
        exact ih (by simpa using inside) (by simpa using inside') differ
          fun i below => before (i + 1) (by omega)

theorem byteAt_eq_of_nibbles {i : ℕ} (high : nibbleDiffers a b (2 * i) = false)
    (low : nibbleDiffers a b (2 * i + 1) = false) : byteAt a i = byteAt b i := by
  have half : (2 * i) / 2 = i := by omega
  have half' : (2 * i + 1) / 2 = i := by omega
  have even : (2 * i) % 2 = 0 := by omega
  have odd : ¬ (2 * i + 1) % 2 = 0 := by omega
  apply eq_of_nibbles
  · simpa [nibbleDiffers, nibbleMask, half, even] using high
  · simpa [nibbleDiffers, nibbleMask, half', odd] using low

theorem byteAt_eq_getElem (mac : Vector UInt8 6) {i : ℕ} (inside : i < mac.toList.length) :
    byteAt mac i = mac.toList[i] := by
  rw [byteAt, List.getD_eq_getElem?_getD, List.getElem?_eq_getElem inside, Option.getD_some]

/-- For two different addresses that are similar, `mac_similar` returns what `memcmp` returns. -/
theorem macSimilar_fst (similar : (macSimilar a b).1 ≠ 0) (differ : a ≠ b) :
    (macSimilar a b).1 = memcmp a.toList b.toList := by
  have lengthA : a.toList.length = 6 := by simp
  have lengthB : b.toList.length = 6 := by simp
  unfold macSimilar at similar ⊢
  rcases @macSimilarLoop_cases a b (List.range 12) 0 1 with
    ⟨loop, -⟩ | ⟨-, none⟩ | ⟨n, differs, one, member, loop⟩
  · rw [loop] at similar
    exact absurd rfl similar
  · have same (i : ℕ) (inside : i < 6) : byteAt a i = byteAt b i := by
      rw [List.countP_eq_zero] at none
      apply byteAt_eq_of_nibbles
      · simpa using none (2 * i) (List.mem_range.2 (by omega))
      · simpa using none (2 * i + 1) (List.mem_range.2 (by omega))
    refine absurd ?_ differ
    rw [← Vector.toList_inj]
    apply List.ext_getElem (by rw [lengthA, lengthB])
    intro i insideA insideB
    rw [← byteAt_eq_getElem a insideA, ← byteAt_eq_getElem b insideB]
    exact same i (by omega)
  · have only (m : ℕ) (inside : m < 12) (other : m ≠ n) : nibbleDiffers a b m = false := by
      rw [List.countP_eq_length_filter, List.length_eq_one_iff] at one
      obtain ⟨x, single⟩ := one
      have place : n = x := by
        have listed := List.mem_filter.2 ⟨member, differs⟩
        rwa [single, List.mem_singleton] at listed
      by_contra differsM
      have listed := List.mem_filter.2 ⟨List.mem_range.2 inside, by simpa using differsM⟩
      rw [single, List.mem_singleton] at listed
      omega
    have inside : n < 12 := List.mem_range.1 member
    have insideA : n / 2 < a.toList.length := by omega
    have insideB : n / 2 < b.toList.length := by omega
    have apart := byteAt_ne_of_nibbleDiffers differs
    rw [byteAt_eq_getElem a insideA, byteAt_eq_getElem b insideB] at apart
    have compared := memcmp_of_differ insideA insideB apart (by
      intro i below
      rw [← byteAt_eq_getElem a (by omega), ← byteAt_eq_getElem b (by omega)]
      exact byteAt_eq_of_nibbles (only _ (by omega) (by omega)) (only _ (by omega) (by omega)))
    rw [loop] at similar ⊢
    dsimp only at similar ⊢
    split_ifs at similar ⊢ with admin
    · exact absurd rfl similar
    · rw [compared, byteAt_eq_getElem a insideA, byteAt_eq_getElem b insideB]

end EmbeddedClient
