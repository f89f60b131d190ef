import EmbeddedClient.Beacons.Macs
import EmbeddedClient.Beacons.Siblings
import Mathlib.Data.Nat.Bitwise
import Mathlib.InformationTheory.Hamming

/-!
# Similar addresses, digit by digit

`mac_similar` compares masked bytes. In hex digits, it tells whether two addresses with the same
local admin bit have a Hamming distance of at most one, and which of them is the lower one.
-/

namespace EmbeddedClient

variable {a b : Vector UInt8 6}

def hexDigits (mac : Vector UInt8 6) (n : Fin 12) : UInt8 := nibbleAt mac n

/-- The bit of a locally administered address. -/
def localAdmin (mac : Vector UInt8 6) : Bool := (byteAt mac 0).toNat.testBit 1

/-- What `mac_similar` says about two addresses. The order is the lexicographic one. -/
structure DecidesSimilar (a b : Vector UInt8 6) : Prop where
  similar : (macSimilar a b).1 ≠ 0 ↔
    hammingDist (hexDigits a) (hexDigits b) ≤ 1 ∧ localAdmin a = localAdmin b
  less : (macSimilar a b).1 ≠ 0 → hammingDist (hexDigits a) (hexDigits b) = 1 →
    ((macSimilar a b).1 < 0 ↔ a.toList < b.toList)
  greater : (macSimilar a b).1 ≠ 0 → hammingDist (hexDigits a) (hexDigits b) = 1 →
    (0 < (macSimilar a b).1 ↔ b.toList < a.toList)
  swap : (macSimilar a b).1 ≠ 0 → hammingDist (hexDigits a) (hexDigits b) = 1 →
    (macSimilar b a).1 = -(macSimilar a b).1
  digit : (macSimilar a b).1 ≠ 0 → hammingDist (hexDigits a) (hexDigits b) = 1 →
    ∃ n, (∀ m, hexDigits a m ≠ hexDigits b m ↔ m = n) ∧ (macSimilar a b).2 = some n.val

theorem and_high_eq_iff (x y : UInt8) :
    x &&& (0xF0 : UInt8) = y &&& (0xF0 : UInt8) ↔ x >>> (4 : UInt8) = y >>> (4 : UInt8) := by
  have down (z : UInt8) : z >>> (4 : UInt8) = (z &&& (0xF0 : UInt8)) >>> (4 : UInt8) := by
    rw [← UInt8.toBitVec_inj]
    ext i range
    interval_cases i <;> simp
  have up (z : UInt8) : z &&& (0xF0 : UInt8) = (z >>> (4 : UInt8)) <<< (4 : UInt8) := by
    rw [← UInt8.toBitVec_inj]
    ext i range
    interval_cases i <;> simp
  constructor
  · intro same
    rw [down x, same, ← down]
  · intro same
    rw [up x, same, ← up]

theorem nibbleDiffers_iff (n : ℕ) : nibbleDiffers a b n = true ↔ nibbleAt a n ≠ nibbleAt b n := by
  unfold nibbleDiffers nibbleAt nibbleMask
  rw [decide_eq_true_eq, ne_eq, ne_eq, not_iff_not]
  by_cases even : n % 2 = 0
  · rw [if_pos even, if_pos even, if_pos even]
    exact and_high_eq_iff _ _
  · rw [if_neg even, if_neg even, if_neg even]

/-- The nibbles that the loop counts are the Hamming distance of the digits. -/
theorem nibblesApart_eq (a b : Vector UInt8 6) :
    nibblesApart a b = hammingDist (hexDigits a) (hexDigits b) := by
  have digits : List.range 12 = (List.finRange 12).map Fin.val :=
    (List.map_coe_finRange_eq_range).symm
  have differ (n : Fin 12) : nibbleDiffers a b n.val = decide (hexDigits a n ≠ hexDigits b n) := by
    rw [Bool.eq_iff_iff, nibbleDiffers_iff, decide_eq_true_eq]
    rfl
  unfold nibblesApart hammingDist
  rw [digits, List.countP_map, Finset.card_def, Finset.filter_val, ← Multiset.countP_eq_card_filter]
  exact List.countP_congr fun n _ => by rw [Function.comp_apply, differ]

theorem memcmp_neg_iff_lt {as bs : List UInt8} (length : as.length = bs.length) :
    memcmp as bs < 0 ↔ as < bs := by
  induction as generalizing bs with
  | nil =>
    cases bs with
    | nil => simp [memcmp]
    | cons b bs => simp at length
  | cons a as ih =>
    cases bs with
    | nil => simp at length
    | cons b bs =>
      unfold memcmp
      rw [List.cons_lt_cons_iff]
      split_ifs with same
      · rw [ih (by simpa using length)]
        simp [same]
      · rw [or_iff_left (fun rest => same rest.1), UInt8.lt_iff_toNat_lt]
        omega

theorem localAdmin_eq_iff (a b : Vector UInt8 6) :
    byteAt a 0 &&& (0x02 : UInt8) = byteAt b 0 &&& (0x02 : UInt8) ↔
      localAdmin a = localAdmin b := by
  have bit (mac : Vector UInt8 6) :
      (byteAt mac 0 &&& (0x02 : UInt8)).toNat = (localAdmin mac).toNat * 2 := by
    rw [UInt8.toNat_and]
    exact Nat.and_two_pow _ 1
  rw [← UInt8.toNat_inj, bit, bit, Nat.mul_right_cancel_iff (by decide)]
  cases localAdmin a <;> cases localAdmin b <;> decide

theorem macSimilar_ne_zero_iff_hammingDist (a b : Vector UInt8 6) : (macSimilar a b).1 ≠ 0 ↔
    hammingDist (hexDigits a) (hexDigits b) ≤ 1 ∧ localAdmin a = localAdmin b := by
  rw [macSimilar_ne_zero_iff, nibblesApart_eq, localAdmin_eq_iff]

theorem macSimilar_snd (similar : (macSimilar a b).1 ≠ 0)
    (one : hammingDist (hexDigits a) (hexDigits b) = 1) :
    ∃ n, (∀ m, hexDigits a m ≠ hexDigits b m ↔ m = n) ∧ (macSimilar a b).2 = some n.val := by
  obtain ⟨n, only⟩ := Finset.card_eq_one.1 one
  have differs (m : Fin 12) : hexDigits a m ≠ hexDigits b m ↔ m = n := by
    have member := Finset.ext_iff.1 only m
    simpa using member
  refine ⟨n, differs, ?_⟩
  unfold macSimilar at similar ⊢
  rcases @macSimilarLoop_cases a b (List.range 12) 0 1 with
    ⟨loop, -⟩ | ⟨-, none⟩ | ⟨k, differsK, -, member, loop⟩
  · rw [loop] at similar
    exact absurd rfl similar
  · have apart : nibblesApart a b = 1 := (nibblesApart_eq a b).trans one
    rw [nibblesApart, none] at apart
    contradiction
  · have place : (⟨k, List.mem_range.1 member⟩ : Fin 12) = n :=
      (differs _).1 ((nibbleDiffers_iff k).1 differsK)
    rw [loop] at similar ⊢
    dsimp only at similar ⊢
    split_ifs at similar ⊢ with admin
    · exact absurd rfl similar
    · rw [← place]

/-- `mac_similar` decides whether two addresses with the same local admin bit differ in one hex
digit at most, and compares them if they differ. -/
theorem macSimilar_decidesSimilar (a b : Vector UInt8 6) : DecidesSimilar a b := by
  have differ (one : hammingDist (hexDigits a) (hexDigits b) = 1) : a ≠ b := by
    intro same
    rw [same, hammingDist_self] at one
    contradiction
  have swapped (similar : (macSimilar a b).1 ≠ 0) : (macSimilar b a).1 ≠ 0 := by
    rw [macSimilar_ne_zero_iff_hammingDist] at similar ⊢
    exact ⟨(hammingDist_comm _ _).trans_le similar.1, similar.2.symm⟩
  constructor
  · exact macSimilar_ne_zero_iff_hammingDist a b
  · intro similar one
    rw [macSimilar_fst similar (differ one)]
    exact memcmp_neg_iff_lt (by simp)
  · intro similar one
    rw [macSimilar_fst similar (differ one), ← neg_lt_zero, ← memcmp_swap]
    exact memcmp_neg_iff_lt (by simp)
  · intro similar one
    rw [macSimilar_fst similar (differ one), macSimilar_fst (swapped similar) (differ one).symm,
      memcmp_swap]
  · exact macSimilar_snd

end EmbeddedClient
