import Mathlib.Tactic

/-!
# Cyclic redundancy checks

A register of `w` bits is shifted down once for each bit of a message, and a polynomial is added
when a one leaves it. A shift is linear in exclusive or; when the polynomial has its top bit it
also loses nothing, and up to `w` shifts of a short word only spell the word out. So two messages
of one length that differ within a window of `w` bits leave different registers, and so do two
that differ in two bits less than the order of the polynomial apart.
-/

namespace EmbeddedClient.Crc

variable {w : ℕ}

def unit (w : ℕ) (bit : Bool) : BitVec w := (BitVec.ofBool bit).setWidth w

/-- The word that holds a message of at most `w` bits, first bit lowest. -/
def ofBits (w : ℕ) (bits : List Bool) : BitVec w := (BitVec.ofBoolListLE bits).setWidth w

def bitsOf (c : BitVec w) : List Bool := (List.range w).map c.getLsbD

@[simp] theorem length_bitsOf (c : BitVec w) : (bitsOf c).length = w := by simp [bitsOf]

theorem getLsbD_unit (bit : Bool) (i : ℕ) :
    (unit w bit).getLsbD i = (decide (i < w) && (decide (i = 0) && bit)) := by
  simp [unit]

theorem getLsbD_ofBits (bits : List Bool) (i : ℕ) :
    (ofBits w bits).getLsbD i = (decide (i < w) && bits.getD i false) := by
  simp [ofBits]

@[simp] theorem ofBits_nil : ofBits w [] = 0 := by
  apply BitVec.eq_of_getLsbD_eq
  simp [getLsbD_ofBits]

theorem ofBits_cons (bit : Bool) (bits : List Bool) :
    ofBits w (bit :: bits) = unit w bit ^^^ (ofBits w bits <<< 1) := by
  apply BitVec.eq_of_getLsbD_eq
  intro i small
  rw [BitVec.getLsbD_xor, BitVec.getLsbD_shiftLeft, getLsbD_ofBits, getLsbD_ofBits, getLsbD_unit]
  cases i with
  | zero => simp [small]
  | succ i => simp [small, show i < w by omega]

theorem ofBits_bitsOf (c : BitVec w) : ofBits w (bitsOf c) = c := by
  apply BitVec.eq_of_getLsbD_eq
  intro i small
  rw [getLsbD_ofBits, bitsOf, List.getD_eq_getElem?_getD, List.getElem?_map,
    List.getElem?_range small]
  simp [small]

theorem bitsOf_injective : Function.Injective (bitsOf (w := w)) := by
  intro c d same
  rw [← ofBits_bitsOf c, same, ofBits_bitsOf]

theorem ofBits_injective {xs ys : List Bool} (lengths : xs.length = ys.length)
    (short : xs.length ≤ w) (same : ofBits w xs = ofBits w ys) : xs = ys := by
  apply List.ext_getElem lengths
  intro i left right
  have bit := congrArg (BitVec.getLsbD · i) same
  simp only [getLsbD_ofBits, List.getD_eq_getElem?_getD, List.getElem?_eq_getElem left,
    List.getElem?_eq_getElem right, Option.getD_some,
    show i < w by omega, decide_true, Bool.true_and] at bit
  exact bit

variable (poly : BitVec w)

def shift (c : BitVec w) : BitVec w := (c >>> 1) ^^^ if c.getLsbD 0 then poly else 0

def feed (c : BitVec w) (bits : List Bool) : BitVec w :=
  bits.foldl (fun c bit => shift poly (c ^^^ unit w bit)) c

@[simp] theorem feed_nil (c : BitVec w) : feed poly c [] = c := rfl

theorem feed_cons (c : BitVec w) (bit : Bool) (bits : List Bool) :
    feed poly c (bit :: bits) = feed poly (shift poly (c ^^^ unit w bit)) bits := rfl

theorem feed_append (c : BitVec w) (xs ys : List Bool) :
    feed poly c (xs ++ ys) = feed poly (feed poly c xs) ys :=
  List.foldl_append

theorem shift_xor (c d : BitVec w) : shift poly (c ^^^ d) = shift poly c ^^^ shift poly d := by
  unfold shift
  rw [BitVec.ushiftRight_xor_distrib, BitVec.getLsbD_xor]
  apply BitVec.eq_of_getLsbD_eq
  intro i _
  cases c.getLsbD 0 <;> cases d.getLsbD 0 <;> simp <;> grind

theorem shift_zero : shift poly 0 = 0 := by simp [shift]

theorem iterate_shift_zero (n : ℕ) : (shift poly)^[n] 0 = 0 :=
  Function.iterate_fixed (shift_zero poly) n

/-- The registers after one message differ by what the shifts make of the difference before it. -/
theorem feed_xor_feed (c d : BitVec w) (bits : List Bool) :
    feed poly c bits ^^^ feed poly d bits = (shift poly)^[bits.length] (c ^^^ d) := by
  induction bits generalizing c d with
  | nil => rfl
  | cons bit bits ih =>
    have cancel : c ^^^ unit w bit ^^^ (d ^^^ unit w bit) = c ^^^ d := by
      rw [BitVec.xor_comm d, BitVec.xor_assoc, ← BitVec.xor_assoc (unit w bit), BitVec.xor_self,
        BitVec.zero_xor]
    rw [feed_cons, feed_cons, ih, ← shift_xor, cancel, List.length_cons,
      Function.iterate_succ_apply]

theorem shift_shiftLeft {c : BitVec w} (room : c.msb = false) : shift poly (c <<< 1) = c := by
  unfold shift
  apply BitVec.eq_of_getLsbD_eq
  intro i small
  have low : (c <<< 1).getLsbD 0 = false := by simp
  rw [low, BitVec.getLsbD_xor, BitVec.getLsbD_ushiftRight, BitVec.getLsbD_shiftLeft]
  by_cases last : i + 1 < w
  · simp [show 1 + i < w by omega]
  · have top : c.getLsbD i = false := by
      rw [BitVec.msb_eq_getLsbD_last] at room
      rw [show i = w - 1 by omega]
      exact room
    simp [show ¬ 1 + i < w by omega, top]

/-- A message that fits the register is the word it spells, shifted as often as it is long. -/
theorem feed_eq_iterate_shift {bits : List Bool} (short : bits.length ≤ w) (c : BitVec w) :
    feed poly c bits = (shift poly)^[bits.length] (c ^^^ ofBits w bits) := by
  induction bits generalizing c with
  | nil => simp
  | cons bit bits ih =>
    rw [List.length_cons] at short
    have room : (ofBits w bits).msb = false := by
      rw [BitVec.msb_eq_getLsbD_last, getLsbD_ofBits, List.getD_eq_getElem?_getD,
        List.getElem?_eq_none (by omega), Option.getD_none, Bool.and_false]
    rw [feed_cons, ih (by omega), ofBits_cons, List.length_cons, Function.iterate_succ_apply,
      ← BitVec.xor_assoc, shift_xor poly (c ^^^ unit w bit), shift_shiftLeft poly room]

variable {poly} (top : poly.msb = true)

include top

theorem shift_eq_zero {c : BitVec w} (zero : shift poly c = 0) : c = 0 := by
  have msb : (shift poly c).msb = c.getLsbD 0 := by
    unfold shift
    cases low : c.getLsbD 0 <;> simp [BitVec.msb_ushiftRight, top]
  have low : c.getLsbD 0 = false := by
    rw [← msb, zero]
    simp
  have high : c >>> 1 = 0 := by
    unfold shift at zero
    rw [low] at zero
    simpa using zero
  apply BitVec.eq_of_getLsbD_eq
  intro i _
  cases i with
  | zero => simpa using low
  | succ i =>
    have bit := congrArg (BitVec.getLsbD · i) high
    rw [BitVec.getLsbD_ushiftRight, add_comm 1 i] at bit
    simpa using bit

theorem shift_injective : Function.Injective (shift poly) := by
  intro c d same
  have zero : shift poly (c ^^^ d) = 0 :=
    (shift_xor poly c d).trans (BitVec.xor_eq_zero_iff.mpr same)
  exact BitVec.xor_eq_zero_iff.mp (shift_eq_zero top zero)

theorem feed_injective (bits : List Bool) : Function.Injective fun c => feed poly c bits := by
  intro c d same
  have zero : (shift poly)^[bits.length] (c ^^^ d) = (shift poly)^[bits.length] 0 := by
    rw [← feed_xor_feed, iterate_shift_zero]
    exact BitVec.xor_eq_zero_iff.mpr same
  exact BitVec.xor_eq_zero_iff.mp ((shift_injective top).iterate _ zero)

theorem feed_short_injective (c : BitVec w) {xs ys : List Bool} (lengths : xs.length = ys.length)
    (short : xs.length ≤ w) (same : feed poly c xs = feed poly c ys) : xs = ys := by
  rw [feed_eq_iterate_shift poly short, feed_eq_iterate_shift poly (lengths ▸ short), ← lengths]
    at same
  have spelled := (shift_injective top).iterate _ same
  have words : ofBits w xs = ofBits w ys := by
    have cancelled := congrArg (c ^^^ ·) spelled
    simpa only [← BitVec.xor_assoc, BitVec.xor_self, BitVec.zero_xor] using cancelled
  exact ofBits_injective lengths short words

/-- **The check word**: the complement of the register, sent after the message, takes the register
to the same state whatever the message is, and no other word does. -/
theorem feed_append_bitsOf (c d : BitVec w) (bits : List Bool) :
    feed poly c (bits ++ bitsOf d) = (shift poly)^[w] (BitVec.allOnes w) ↔
      d = ~~~ feed poly c bits := by
  have spelled : feed poly c (bits ++ bitsOf d) = (shift poly)^[w] (feed poly c bits ^^^ d) := by
    rw [feed_append, feed_eq_iterate_shift poly (length_bitsOf d).le, length_bitsOf, ofBits_bitsOf]
  rw [spelled, ((shift_injective top).iterate w).eq_iff]
  constructor
  · intro ones
    rw [← BitVec.xor_allOnes, ← ones, ← BitVec.xor_assoc, BitVec.xor_self, BitVec.zero_xor]
  · rintro rfl
    rw [← BitVec.xor_allOnes, ← BitVec.xor_assoc, BitVec.xor_self, BitVec.zero_xor]

omit top

/-- Two messages that differ at most within a window of `n` bits. -/
def Burst (n : ℕ) (xs ys : List Bool) : Prop :=
  ∃ before within within' after, xs = before ++ within ++ after ∧ ys = before ++ within' ++ after ∧
    within.length = within'.length ∧ within.length ≤ n

def Flips (n : ℕ) (xs ys : List Bool) : Prop :=
  ∃ before bit between bit' after, xs = before ++ bit :: between ++ bit' :: after ∧
    ys = before ++ (!bit) :: between ++ (!bit') :: after ∧ n = between.length + 1

include top

/-- **Bursts are detected.** -/
theorem Burst.feed_ne {xs ys : List Bool} (burst : Burst w xs ys) (differ : xs ≠ ys)
    (c : BitVec w) :
    feed poly c xs ≠ feed poly c ys := by
  obtain ⟨before, within, within', after, rfl, rfl, lengths, short⟩ := burst
  intro same
  rw [feed_append, feed_append, feed_append, feed_append] at same
  have windows := feed_injective top after same
  have equal := feed_short_injective top (feed poly c before) lengths short windows
  exact differ (by rw [equal])

/-- **Two flipped bits are detected** where as many shifts do not bring a one back. -/
theorem Flips.feed_ne {n : ℕ} {xs ys : List Bool} (flips : Flips n xs ys)
    (order : (shift poly)^[n] (unit w true) ≠ unit w true) (c : BitVec w) :
    feed poly c xs ≠ feed poly c ys := by
  obtain ⟨before, bit, between, bit', after, rfl, rfl, rfl⟩ := flips
  intro same
  rw [feed_append, feed_append, feed_append, feed_append, feed_cons, feed_cons, feed_cons,
    feed_cons] at same
  have last := shift_injective top (feed_injective top after same)
  have flipped (bit : Bool) (c d : BitVec w) : c ^^^ unit w bit ^^^ (d ^^^ unit w !bit) =
    c ^^^ d ^^^ unit w true := by
    apply BitVec.eq_of_getLsbD_eq
    intro i _
    simp only [BitVec.getLsbD_xor, getLsbD_unit]
    grind
  have first : feed poly (shift poly (feed poly c before ^^^ unit w bit)) between ^^^
      feed poly (shift poly (feed poly c before ^^^ unit w !bit)) between =
      (shift poly)^[between.length + 1] (unit w true) := by
    rw [feed_xor_feed, ← shift_xor, flipped, BitVec.xor_self, BitVec.zero_xor,
      Function.iterate_succ_apply]
  have gone := BitVec.xor_eq_zero_iff.mpr last
  rw [flipped, first] at gone
  exact order (BitVec.xor_eq_zero_iff.mp gone)

end EmbeddedClient.Crc
