import EmbeddedClient.Support.Message

/-!
# Records of optional fields

A number that is zero and a string that is empty are left out of a message, and are read as
such when they are missing. A string field may be repeated, and a string may hold strings,
each with its length in front. The reader of a record looks its fields up by their numbers.
-/

namespace EmbeddedClient.Varint

def writeMessage (fields : List Field) : List UInt8 := fields.flatMap Field.encode

@[simp] theorem readMessage_writeMessage (fields : List Field) :
    readMessage (writeMessage fields) = some fields :=
  readMessage_flatMap fields

@[simp] theorem writeMessage_nil : writeMessage [] = [] := rfl

theorem writeMessage_append (first second : List Field) :
    writeMessage (first ++ second) = writeMessage first ++ writeMessage second :=
  List.flatMap_append

/-- A number as it is given: not at all when it is zero. -/
def given (value : ℕ) : List ℕ := if value = 0 then [] else [value]

def givenString (data : List UInt8) : List (List UInt8) := if data = [] then [] else [data]

@[simp] theorem getLast?_given (value : ℕ) : (given value).getLast?.getD 0 = value := by
  unfold given
  split_ifs with zero
  · exact zero.symm
  · rfl

@[simp] theorem getLast?_givenString (data : List UInt8) :
    (givenString data).getLast?.getD [] = data := by
  unfold givenString
  split_ifs with empty
  · exact empty.symm
  · rfl

def Field.ofInt (number value : ℕ) : List Field := (given value).map (int number)

def Field.ofBytes (number : ℕ) (data : List UInt8) : List Field :=
  (givenString data).map (bytes number)

def ints (number : ℕ) (fields : List Field) : List ℕ :=
  fields.filterMap fun
    | .int n value => if n = number then some value else none
    | .bytes .. => none

def strings (number : ℕ) (fields : List Field) : List (List UInt8) :=
  fields.filterMap fun
    | .bytes n data => if n = number then some data else none
    | .int .. => none

/-- The last string given for a field, or the empty one. -/
def stringValue (number : ℕ) (fields : List Field) : List UInt8 :=
  (strings number fields).getLast?.getD []

theorem intValue_eq (number : ℕ) (fields : List Field) :
    intValue number fields = (ints number fields).getLast?.getD 0 := rfl

section Lookup

variable (number other value : ℕ) (data : List UInt8) (fields fields' : List Field)

@[simp] theorem ints_nil : ints number [] = [] := rfl

@[simp] theorem strings_nil : strings number [] = [] := rfl

@[simp] theorem ints_append :
    ints number (fields ++ fields') = ints number fields ++ ints number fields' :=
  List.filterMap_append

@[simp] theorem strings_append :
    strings number (fields ++ fields') = strings number fields ++ strings number fields' :=
  List.filterMap_append

@[simp] theorem ints_bytes_cons : ints number (.bytes other data :: fields) = ints number fields :=
  rfl

@[simp] theorem strings_bytes_cons : strings number (.bytes other data :: fields) =
    (if other = number then [data] else []) ++ strings number fields := by
  unfold strings
  split_ifs with same <;> simp [same]

@[simp] theorem ints_map_int (values : List ℕ) :
    ints number (values.map (.int other)) = if other = number then values else [] := by
  unfold ints
  split_ifs with same <;> simp [List.filterMap_map, same]

@[simp] theorem strings_map_int (values : List ℕ) :
    strings number (values.map (.int other)) = [] := by
  induction values with
  | nil => rfl
  | cons value values ih => exact ih

@[simp] theorem ints_map_bytes {α : Type*} (items : List α) (f : α → List UInt8) :
    ints number (items.map fun a => .bytes other (f a)) = [] := by
  induction items with
  | nil => rfl
  | cons a items ih => exact ih

@[simp] theorem strings_map_bytes {α : Type*} (items : List α) (f : α → List UInt8) :
    strings number (items.map fun a => .bytes other (f a)) =
      if other = number then items.map f else [] := by
  induction items with
  | nil => simp
  | cons a items ih =>
    rw [List.map_cons, strings_bytes_cons, ih]
    split_ifs <;> rfl

@[simp] theorem ints_ofInt : ints number (Field.ofInt other value) =
    if other = number then given value else [] :=
  ints_map_int number other (given value)

@[simp] theorem strings_ofInt : strings number (Field.ofInt other value) = [] :=
  strings_map_int number other (given value)

@[simp] theorem ints_ofBytes : ints number (Field.ofBytes other data) = [] :=
  ints_map_bytes number other (givenString data) id

@[simp] theorem strings_ofBytes : strings number (Field.ofBytes other data) =
    if other = number then givenString data else [] := by
  have all := strings_map_bytes number other (givenString data) id
  rwa [List.map_id] at all

end Lookup

def encodeString (data : List UInt8) : List UInt8 := encode data.length ++ data

def decodeString (input : List UInt8) : Option (List UInt8 × List UInt8) := do
  let (length, input) ← decode input
  if length ≤ input.length then return (input.take length, input.drop length)
  else none

theorem decodeString_encodeString (data rest : List UInt8) :
    decodeString (encodeString data ++ rest) = some (data, rest) := by
  simp [decodeString, encodeString, decode_encode]

theorem encodeString_ne_nil (data : List UInt8) : encodeString data ≠ [] := by
  simp [encodeString, encode_ne_nil]

def readStrings (input : List UInt8) : Option (List (List UInt8)) := decodeAll decodeString input

theorem readStrings_flatMap (items : List (List UInt8)) :
    readStrings (items.flatMap encodeString) = some items :=
  decodeAll_flatMap decodeString_encodeString encodeString_ne_nil items

def Field.size : Field → ℕ
  | int .. => 0
  | bytes _ data => data.length

/-- The number of a field, and its value or its length, are of 64 bits. -/
def Field.Fits : Field → Prop
  | int number value => number < 2 ^ 32 ∧ value < 2 ^ 64
  | bytes number data => number < 2 ^ 32 ∧ data.length < 2 ^ 64

theorem Field.Fits.length_encode {field : Field} (fits : field.Fits) :
    field.encode.length ≤ 20 + field.size := by
  cases field with
  | int number value =>
    have first : (Varint.encode (key number 0)).length ≤ 10 :=
      length_encode_le (k := 9) (by have := fits.1; simp only [key]; omega)
    have second : (Varint.encode value).length ≤ 10 :=
      length_encode_le (k := 9) (by have := fits.2; omega)
    rw [Field.encode, List.length_append, Field.size]
    omega
  | bytes number data =>
    have first : (Varint.encode (key number 2)).length ≤ 10 :=
      length_encode_le (k := 9) (by have := fits.1; simp only [key]; omega)
    have second : (Varint.encode data.length).length ≤ 10 :=
      length_encode_le (k := 9) (by have := fits.2; omega)
    rw [Field.encode, List.length_append, List.length_append, Field.size]
    omega

theorem length_encode_int_le {number value k : ℕ} (few : number < 16)
    (small : value < 128 ^ (k + 1)) :
    (Field.int number value).encode.length ≤ k + 2 := by
  have first : (Varint.encode (key number 0)).length ≤ 1 :=
    length_encode_le (k := 0) (by simp only [key]; omega)
  have second := length_encode_le small
  rw [Field.encode, List.length_append]
  omega

theorem length_encode_bytes_le {number : ℕ} {data : List UInt8} (few : number < 16)
    (small : data.length < 128) :
    (Field.bytes number data).encode.length ≤ 2 + data.length := by
  have first : (Varint.encode (key number 2)).length ≤ 1 :=
    length_encode_le (k := 0) (by simp only [key]; omega)
  have second : (Varint.encode data.length).length ≤ 1 := length_encode_le (k := 0) (by omega)
  rw [Field.encode, List.length_append, List.length_append]
  omega

theorem length_flatMap_le {α : Type*} {f : α → List UInt8} {items : List α} {bound : ℕ}
    (each : ∀ a ∈ items, (f a).length ≤ bound) :
    (items.flatMap f).length ≤ items.length * bound := by
  induction items with
  | nil => simp
  | cons a items ih =>
    have first := each a (.head _)
    have rest := ih fun b member => each b (.tail _ member)
    rw [List.flatMap_cons, List.length_append, List.length_cons, Nat.succ_mul]
    omega

end EmbeddedClient.Varint
