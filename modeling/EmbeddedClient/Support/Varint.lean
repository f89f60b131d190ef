import Mathlib.Tactic

/-!
# Base-128 varints and streams of varint fields

A varint carries seven bits a byte, least significant group first, with the top
bit set on every byte but the last. A field is a key and a value, both varints;
the key holds the field number above a three-bit wire type.
-/

namespace EmbeddedClient.Varint

/-- The varint of a natural number. -/
def encode (n : ℕ) : List UInt8 :=
  if n < 128 then [UInt8.ofNat n] else UInt8.ofNat (128 + n % 128) :: encode (n / 128)

/-- Read one varint; `none` when the input ends inside it. -/
def decode : List UInt8 → Option (ℕ × List UInt8)
  | [] => none
  | b :: bs =>
    if b.toNat < 128 then some (b.toNat, bs)
    else (decode bs).map fun p => (b.toNat % 128 + 128 * p.1, p.2)

theorem decode_encode (n : ℕ) (rest : List UInt8) : decode (encode n ++ rest) = some (n, rest) := by
  induction n using Nat.strong_induction_on with
  | _ n ih =>
    unfold encode
    split_ifs with small
    · have value : (UInt8.ofNat n).toNat = n := by
        rw [UInt8.toNat_ofNat', Nat.mod_eq_of_lt (by omega)]
      simp [decode, value, small]
    · have value : (UInt8.ofNat (128 + n % 128)).toNat = 128 + n % 128 := by
        rw [UInt8.toNat_ofNat', Nat.mod_eq_of_lt (by omega)]
      simp only [List.cons_append, decode, value, ih (n / 128) (by omega)]
      rw [if_neg (by omega), Option.map_some]
      simp only [Option.some.injEq, Prod.mk.injEq, and_true]
      omega

theorem encode_ne_nil (n : ℕ) : encode n ≠ [] := by
  unfold encode
  split_ifs <;> simp

theorem length_encode_le {n k : ℕ} (small : n < 128 ^ (k + 1)) : (encode n).length ≤ k + 1 := by
  induction k generalizing n with
  | zero =>
    rw [encode, if_pos (by omega)]
    exact le_rfl
  | succ k ih =>
    unfold encode
    split_ifs
    · exact Nat.succ_le_succ (Nat.zero_le _)
    · have rest := ih (n := n / 128) (Nat.div_lt_of_lt_mul (by rw [pow_succ] at small; omega))
      simp only [List.length_cons]
      omega

def key (number wireType : ℕ) : ℕ := number * 8 + wireType

def encodeField (field : ℕ × ℕ) : List UInt8 := encode (key field.1 0) ++ encode field.2

/-- Read the fields of a message that has only fields of wire type 0. -/
def decodeFields : (fuel : ℕ) → List UInt8 → Option (List (ℕ × ℕ))
  | 0, bytes => if bytes = [] then some [] else none
  | fuel + 1, bytes =>
    if bytes = [] then some []
    else do
      let (key, bytes) ← decode bytes
      if key % 8 ≠ 0 then none
      else
        let (value, bytes) ← decode bytes
        let fields ← decodeFields fuel bytes
        return (key / 8, value) :: fields

@[simp] theorem decodeFields_nil (fuel : ℕ) : decodeFields fuel [] = some [] := by
  cases fuel <;> rfl

theorem decodeFields_encodeField (field : ℕ × ℕ) (bytes : List UInt8) (fuel : ℕ) :
    decodeFields (fuel + 1) (encodeField field ++ bytes) =
      (decodeFields fuel bytes).map (field :: ·) := by
  have nonempty : encodeField field ++ bytes ≠ [] := by simp [encodeField, encode_ne_nil]
  rw [decodeFields, if_neg nonempty]
  simp only [encodeField, List.append_assoc, decode_encode, key]
  cases rest : decodeFields fuel bytes <;> simp [decode_encode, rest]

theorem length_encodeField_pos (field : ℕ × ℕ) : 0 < (encodeField field).length := by
  simp [encodeField, List.length_pos_iff, encode_ne_nil]

theorem decodeFields_flatMap (fields : List (ℕ × ℕ)) (fuel : ℕ) (enough : fields.length ≤ fuel) :
    decodeFields fuel (fields.flatMap encodeField) = some fields := by
  induction fields generalizing fuel with
  | nil => simp
  | cons field fields ih =>
    cases fuel with
    | zero => simp at enough
    | succ fuel =>
      have rest := ih fuel (by simpa using enough)
      rw [List.flatMap_cons, decodeFields_encodeField, rest, Option.map_some]

def decodeMessage (bytes : List UInt8) : Option (List (ℕ × ℕ)) := decodeFields bytes.length bytes

theorem decodeMessage_flatMap (fields : List (ℕ × ℕ)) :
    decodeMessage (fields.flatMap encodeField) = some fields := by
  apply decodeFields_flatMap fields _
  induction fields with
  | nil => simp
  | cons field fields ih =>
    have := length_encodeField_pos field
    simp only [List.flatMap_cons, List.length_append, List.length_cons]
    omega

/-- The value of a field: the last one given, or zero. -/
def lastValue (number : ℕ) (fields : List (ℕ × ℕ)) : ℕ :=
  ((fields.filter fun field => field.1 = number).getLast?.map Prod.snd).getD 0

end EmbeddedClient.Varint
