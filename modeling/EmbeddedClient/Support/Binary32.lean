import Mathlib.Data.Int.Log
import Mathlib.Tactic

/-!
# Binary floating-point values with a 24-bit significand

Finite values are rationals. Rounding is to nearest with ties to even, on an
unbounded exponent range: overflow and subnormal results are not modelled.
The two zeros are one value. Arithmetic is a parameter of the rounding
function, so that a computation can also be read in exact rationals.
-/

namespace EmbeddedClient.Binary32

/-- The integer nearest to `x`, ties to even. -/
def roundEven (x : ℚ) : ℤ :=
  let f := ⌊x⌋
  if x - f < 1 / 2 then f
  else if 1 / 2 < x - f then f + 1
  else if f % 2 = 0 then f else f + 1

def ulp (x : ℚ) : ℚ := (2 : ℚ) ^ (Int.log 2 |x| - 23)

/-- Nearest value with a 24-bit significand. -/
def round (x : ℚ) : ℚ :=
  if x = 0 then 0 else roundEven (x / ulp x) * ulp x

theorem roundEven_bounds (x : ℚ) : ⌊x⌋ ≤ roundEven x ∧ roundEven x ≤ ⌊x⌋ + 1 := by
  unfold roundEven
  dsimp only
  split_ifs <;> omega

@[simp] theorem roundEven_intCast (n : ℤ) : roundEven n = n := by
  simp [roundEven]

theorem abs_roundEven_sub_le (x : ℚ) : |roundEven x - x| ≤ 1 / 2 := by
  have below := Int.floor_le x
  have above := Int.lt_floor_add_one x
  unfold roundEven
  dsimp only
  split_ifs <;> push_cast <;> rw [abs_le] <;> constructor <;> linarith

theorem roundEven_mono {x y : ℚ} (le : x ≤ y) : roundEven x ≤ roundEven y := by
  rcases (Int.floor_mono le).lt_or_eq with below | same
  · have left := (roundEven_bounds x).2
    have right := (roundEven_bounds y).1
    omega
  · unfold roundEven
    dsimp only
    rw [same]
    split_ifs <;> first | omega | (exfalso; linarith)

theorem ulp_pos (x : ℚ) : 0 < ulp x := by
  unfold ulp
  positivity

theorem binade {x : ℚ} (pos : 0 < x) : (2 : ℚ) ^ 23 ≤ x / ulp x ∧ x / ulp x < (2 : ℚ) ^ 24 := by
  have low := Int.zpow_log_le_self (b := 2) (by decide) pos
  have high := Int.lt_zpow_succ_log_self (b := 2) (by decide) x
  have scale (k : ℕ) : (2 : ℚ) ^ k * ulp x = (2 : ℚ) ^ (Int.log 2 x + (k - 23)) := by
    rw [ulp, abs_of_pos pos, ← zpow_natCast, ← zpow_add₀ (by norm_num)]
    congr 1
    omega
  push_cast at low high
  constructor
  · rw [le_div_iff₀ (ulp_pos x), scale 23]
    simpa using low
  · rw [div_lt_iff₀ (ulp_pos x), scale 24]
    simpa using high

theorem round_nonneg {x : ℚ} (nonneg : 0 ≤ x) : 0 ≤ round x := by
  unfold round
  split_ifs
  · exact le_rfl
  · have quotient : 0 ≤ roundEven (x / ulp x) := by
      rw [← roundEven_intCast 0]
      apply roundEven_mono
      have := ulp_pos x
      push_cast
      positivity
    have := ulp_pos x
    positivity

theorem ulp_abs (x : ℚ) : ulp |x| = ulp x := by
  unfold ulp
  rw [abs_abs]

theorem abs_round_sub_le (x : ℚ) : |round x - x| ≤ |x| / 2 ^ 24 := by
  by_cases zero : x = 0
  · simp [round, zero]
  · have pos := ulp_pos x
    have error := abs_roundEven_sub_le (x / ulp x)
    have wide := (binade (abs_pos.2 zero)).1
    rw [ulp_abs, le_div_iff₀ pos] at wide
    have scaled : roundEven (x / ulp x) * ulp x - x =
        (roundEven (x / ulp x) - x / ulp x) * ulp x := by
      rw [sub_mul, div_mul_cancel₀ _ pos.ne']
    rw [round, if_neg zero, scaled, abs_mul, abs_of_pos pos]
    calc |roundEven (x / ulp x) - x / ulp x| * ulp x ≤ 1 / 2 * ulp x :=
          mul_le_mul_of_nonneg_right error pos.le
      _ = 2 ^ 23 * ulp x / 2 ^ 24 := by ring
      _ ≤ |x| / 2 ^ 24 := by gcongr

theorem round_bounds {x : ℚ} (nonneg : 0 ≤ x) :
    x * (1 - 1 / 2 ^ 24) ≤ round x ∧ round x ≤ x * (1 + 1 / 2 ^ 24) := by
  have error := abs_round_sub_le x
  rw [abs_of_nonneg nonneg, abs_le] at error
  constructor
  · linarith [error.1]
  · linarith [error.2]

theorem round_pos {x : ℚ} (pos : 0 < x) : 0 < round x := by
  have lower := (round_bounds pos.le).1
  have scaled : 0 < x * (1 - 1 / 2 ^ 24) := by
    apply mul_pos pos
    norm_num
  linarith

theorem round_mono {x y : ℚ} (nonneg : 0 ≤ x) (le : x ≤ y) : round x ≤ round y := by
  rcases nonneg.eq_or_lt with rfl | pos
  · simpa [round] using round_nonneg le
  · have posY := pos.trans_le le
    rw [round, round, if_neg pos.ne', if_neg posY.ne']
    have logs : Int.log 2 x ≤ Int.log 2 y := Int.log_mono_right pos le
    rcases logs.lt_or_eq with below | same
    · -- the whole binade of `x` lies below that of `y`
      have upper : roundEven (x / ulp x) ≤ 2 ^ 24 := by
        rw [← roundEven_intCast (2 ^ 24)]
        apply roundEven_mono
        push_cast
        exact (binade pos).2.le
      have lower : 2 ^ 23 ≤ roundEven (y / ulp y) := by
        rw [← roundEven_intCast (2 ^ 23)]
        apply roundEven_mono
        push_cast
        exact (binade posY).1
      have units : 2 * ulp x ≤ ulp y := by
        rw [ulp, ulp, abs_of_pos pos, abs_of_pos posY, ← zpow_one_add₀ (by norm_num)]
        apply zpow_le_zpow_right₀ (by norm_num)
        omega
      calc (roundEven (x / ulp x) : ℚ) * ulp x ≤ 2 ^ 24 * ulp x := by
            have := (ulp_pos x).le
            gcongr
            exact_mod_cast upper
        _ = 2 ^ 23 * (2 * ulp x) := by ring
        _ ≤ 2 ^ 23 * ulp y := by gcongr
        _ ≤ roundEven (y / ulp y) * ulp y := by
            have := (ulp_pos y).le
            gcongr
            exact_mod_cast lower
    · have units : ulp x = ulp y := by
        rw [ulp, ulp, abs_of_pos pos, abs_of_pos posY, same]
      have ordered : roundEven (x / ulp y) ≤ roundEven (y / ulp y) := by
        apply roundEven_mono
        have := (ulp_pos y).le
        gcongr
      rw [units]
      have := (ulp_pos y).le
      gcongr

theorem round_natCast {n : ℕ} (small : n < 2 ^ 24) : round n = n := by
  by_cases zero : n = 0
  · simp [round, zero]
  · have log : Nat.log 2 n ≤ 23 := Nat.lt_succ_iff.1 (Nat.log_lt_of_lt_pow zero small)
    have unit : ulp n * 2 ^ (23 - Nat.log 2 n) = 1 := by
      rw [ulp, Nat.abs_cast, Int.log_natCast, ← zpow_natCast, ← zpow_add₀ (by norm_num)]
      have exponent : (Nat.log 2 n : ℤ) - 23 + ((23 - Nat.log 2 n : ℕ) : ℤ) = 0 := by omega
      rw [exponent, zpow_zero]
    have quotient : (n : ℚ) / ulp n = ((n * 2 ^ (23 - Nat.log 2 n) : ℕ) : ℤ) := by
      rw [div_eq_iff (ulp_pos _).ne']
      push_cast
      rw [mul_assoc, mul_comm (2 ^ _) (ulp _), unit, mul_one]
    rw [round, if_neg (by exact_mod_cast zero), quotient, roundEven_intCast, ← quotient,
      div_mul_cancel₀ _ (ulp_pos _).ne']

theorem round_le_natCast {x : ℚ} {n : ℕ} (small : n < 2 ^ 24) (le : x ≤ n) : round x ≤ n := by
  rcases le_or_gt 0 x with nonneg | negative
  · rw [← round_natCast small]
    exact round_mono nonneg le
  · have error := (abs_le.1 (abs_round_sub_le x)).2
    rw [abs_of_neg negative] at error
    have natural : (0 : ℚ) ≤ n := Nat.cast_nonneg n
    linarith

theorem natCast_le_round {x : ℚ} {n : ℕ} (small : n < 2 ^ 24) (le : (n : ℚ) ≤ x) :
    (n : ℚ) ≤ round x := by
  rw [← round_natCast small]
  exact round_mono (Nat.cast_nonneg n) le

/-- A floating-point value: not a number, a signed infinity, or a rational. -/
inductive FloatVal
  | nan
  | inf (negative : Bool)
  | fin (q : ℚ)
  deriving DecidableEq, Repr

namespace FloatVal

def isNan : FloatVal → Bool
  | nan => true
  | _ => false

/-- IEEE comparison `a < b`; false as soon as one side is not a number. -/
def lt : FloatVal → FloatVal → Bool
  | nan, _ => false
  | _, nan => false
  | inf true, inf false => true
  | inf true, fin _ => true
  | fin _, inf false => true
  | fin a, fin b => a < b
  | _, _ => false

def eq : FloatVal → FloatVal → Bool
  | nan, _ => false
  | _, nan => false
  | a, b => a = b

def le (a b : FloatVal) : Bool := a.lt b || a.eq b

variable (rnd : ℚ → ℚ)

def neg : FloatVal → FloatVal
  | nan => nan
  | inf s => inf !s
  | fin q => fin (-q)

def add : FloatVal → FloatVal → FloatVal
  | nan, _ => nan
  | _, nan => nan
  | inf s, inf t => if s = t then inf s else nan
  | inf s, fin _ => inf s
  | fin _, inf t => inf t
  | fin a, fin b => fin (rnd (a + b))

def sub (a b : FloatVal) : FloatVal := add rnd a b.neg

/-- Products of finite values; the infinite cases keep only the sign rule. -/
def mul : FloatVal → FloatVal → FloatVal
  | nan, _ => nan
  | _, nan => nan
  | inf s, inf t => inf (s != t)
  | inf s, fin b => if b = 0 then nan else inf (s != decide (b < 0))
  | fin a, inf t => if a = 0 then nan else inf (t != decide (a < 0))
  | fin a, fin b => fin (rnd (a * b))

/-- Quotient. A zero divisor gives an infinity, or no number for `0 / 0`. -/
def div : FloatVal → FloatVal → FloatVal
  | nan, _ => nan
  | _, nan => nan
  | inf _, inf _ => nan
  | inf s, fin b => inf (s != decide (b < 0))
  | fin _, inf _ => fin 0
  | fin a, fin b =>
    if b = 0 then (if a = 0 then nan else inf (decide (a < 0))) else fin (rnd (a / b))

def abs : FloatVal → FloatVal
  | nan => nan
  | inf _ => inf false
  | fin q => fin |q|

def toFloat : FloatVal → FloatVal
  | fin q => fin (round q)
  | x => x

/-- Truncation toward zero, the conversion to an integer type. The conversion
of a value that is not finite is undefined in C; `bad` stands for its result. -/
def toInt (bad : ℤ) : FloatVal → ℤ
  | fin q => if 0 ≤ q then ⌊q⌋ else -⌊-q⌋
  | _ => bad

end FloatVal
end EmbeddedClient.Binary32
