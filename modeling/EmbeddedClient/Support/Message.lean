import EmbeddedClient.Support.Varint

/-!
# Messages of numbers and strings

A message is a list of fields. A field is a number or a string of bytes behind a key, and
a string has its length in front. A repeated number may be packed into one string. The
readers below take back what was written, and fail unless every length fits what follows.
-/

namespace EmbeddedClient.Varint

inductive Field
  | int (number value : ℕ)
  | bytes (number : ℕ) (data : List UInt8)
  deriving DecidableEq, Repr

/-- The bytes of a field: wire type 0 for a number and 2 for a string. -/
def Field.encode : Field → List UInt8
  | int number value => Varint.encode (key number 0) ++ Varint.encode value
  | bytes number data => Varint.encode (key number 2) ++ Varint.encode data.length ++ data

def Field.decode (input : List UInt8) : Option (Field × List UInt8) := do
  let (key, input) ← Varint.decode input
  let (value, input) ← Varint.decode input
  if key % 8 = 0 then return (int (key / 8) value, input)
  else if key % 8 = 2 ∧ value ≤ input.length then
    return (bytes (key / 8) (input.take value), input.drop value)
  else none

theorem Field.decode_encode (field : Field) (rest : List UInt8) :
    Field.decode (field.encode ++ rest) = some (field, rest) := by
  cases field with
  | int number value =>
    have type : key number 0 % 8 = 0 := by simp [key]
    have tag : key number 0 / 8 = number := by simp [key]
    simp only [Field.decode, Field.encode, List.append_assoc, Varint.decode_encode]
    simp [type, tag, Varint.decode_encode]
  | bytes number data =>
    have type : key number 2 % 8 = 2 := by simp only [key]; omega
    have tag : key number 2 / 8 = number := by simp only [key]; omega
    simp only [Field.decode, Field.encode, List.append_assoc, Varint.decode_encode]
    simp [type, tag, Varint.decode_encode]

theorem Field.encode_ne_nil (field : Field) : field.encode ≠ [] := by
  cases field <;> simp [Field.encode, Varint.encode_ne_nil]

section Sequence

variable {α : Type*}

def decodeSeq (read : List UInt8 → Option (α × List UInt8)) :
    (fuel : ℕ) → List UInt8 → Option (List α)
  | 0, input => if input = [] then some [] else none
  | fuel + 1, input =>
    if input = [] then some []
    else (read input).bind fun item => (decodeSeq read fuel item.2).map (item.1 :: ·)

variable {read : List UInt8 → Option (α × List UInt8)} {write : α → List UInt8}

/-- A reader that takes back one item takes back any number of them. -/
theorem decodeSeq_flatMap (takes : ∀ a rest, read (write a ++ rest) = some (a, rest))
    (nonempty : ∀ a, write a ≠ []) (items : List α) (fuel : ℕ) (enough : items.length ≤ fuel) :
    decodeSeq read fuel (items.flatMap write) = some items := by
  induction items generalizing fuel with
  | nil => cases fuel <;> rfl
  | cons a items ih =>
    cases fuel with
    | zero => simp at enough
    | succ fuel =>
      have rest := ih fuel (by simpa using enough)
      have more : write a ++ items.flatMap write ≠ [] := by simp [nonempty a]
      rw [List.flatMap_cons, decodeSeq, if_neg more, takes, Option.bind_some, rest, Option.map_some]

theorem length_le_length_flatMap (nonempty : ∀ a, write a ≠ []) (items : List α) :
    items.length ≤ (items.flatMap write).length := by
  induction items with
  | nil => simp
  | cons a items ih =>
    have pos := List.length_pos_iff.2 (nonempty a)
    rw [List.flatMap_cons, List.length_append, List.length_cons]
    omega

/-- The items of an input, with as much fuel as there are bytes. -/
def decodeAll (read : List UInt8 → Option (α × List UInt8)) (input : List UInt8) :
    Option (List α) :=
  decodeSeq read input.length input

theorem decodeAll_flatMap (takes : ∀ a rest, read (write a ++ rest) = some (a, rest))
    (nonempty : ∀ a, write a ≠ []) (items : List α) :
    decodeAll read (items.flatMap write) = some items :=
  decodeSeq_flatMap takes nonempty items _ (length_le_length_flatMap nonempty items)

end Sequence

def readMessage (input : List UInt8) : Option (List Field) := decodeAll Field.decode input

theorem readMessage_flatMap (fields : List Field) :
    readMessage (fields.flatMap Field.encode) = some fields :=
  decodeAll_flatMap Field.decode_encode Field.encode_ne_nil fields

def readPacked (input : List UInt8) : Option (List ℕ) := decodeAll Varint.decode input

theorem readPacked_flatMap (values : List ℕ) :
    readPacked (values.flatMap Varint.encode) = some values :=
  decodeAll_flatMap Varint.decode_encode Varint.encode_ne_nil values

/-- The value of a numeric field: the last one given, or zero. -/
def intValue (number : ℕ) (fields : List Field) : ℕ :=
  (fields.filterMap fun
    | .int n value => if n = number then some value else none
    | .bytes .. => none).getLast?.getD 0

def bytesValue (number : ℕ) (fields : List Field) : List UInt8 :=
  fields.flatMap fun
    | .bytes n data => if n = number then data else []
    | .int .. => []

end EmbeddedClient.Varint
