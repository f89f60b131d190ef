import EmbeddedClient.Model.Ostream

/-!
# What the callbacks write

A callback writes the same bytes to every stream, whether the stream stores them or counts
them only. So the length that the counting pass finds is the length of what the second
pass stores.
-/

namespace EmbeddedClient

namespace PbOstream

/-- The callback does to every stream what writing these bytes does. -/
def Writes (func : PbOstream → Option PbOstream) (data : List UInt8) : Prop :=
  ∀ stream, func stream = stream.write data

theorem write_nil (stream : PbOstream) : stream.write [] = some stream := by
  obtain ⟨bytesWritten, maxSize, buffer⟩ := stream
  cases buffer <;> simp [write]

theorem write_append (stream : PbOstream) (first second : List UInt8) :
    ((stream.write first).bind fun stream => stream.write second) = stream.write
      (first ++ second) := by
  by_cases none₁ : first = []
  · rw [none₁, write_nil, Option.bind_some, List.nil_append]
  by_cases none₂ : second = []
  · simp [none₂, write_nil]
  obtain ⟨bytesWritten, maxSize, buffer⟩ := stream
  cases buffer with
  | none => simp [write, Nat.add_assoc]
  | some buffer =>
    have none₃ : first ++ second ≠ [] := by simp [none₁]
    have total : bytesWritten + (first ++ second).length =
        bytesWritten + first.length + second.length := by
      rw [List.length_append, Nat.add_assoc]
    simp only [write, total, none₁, none₂, none₃, ne_eq, not_false_eq_true, true_and]
    by_cases full : maxSize < bytesWritten + first.length
    · rw [if_pos full, if_pos (by omega), Option.bind_none]
    · rw [if_neg full, Option.bind_some]
      simp only [List.append_assoc]

theorem write_sizing (data : List UInt8) :
    PB_OSTREAM_SIZING.write data = some ⟨data.length, 0, none⟩ := by
  simp [write, PB_OSTREAM_SIZING]

variable {func next : PbOstream → Option PbOstream} {data more : List UInt8}

theorem Writes.bind (first : Writes func data) (second : Writes next more) :
    Writes (fun stream => (func stream).bind next) (data ++ more) := by
  intro stream
  have same : next = fun stream => stream.write more := funext second
  dsimp only
  rw [first stream, same, write_append]

theorem writes_varint (value : ℤ) : Writes (fun stream => stream.encodeVarint value)
    (pbEncodeVarint value) :=
  fun _ => rfl

theorem writes_tag (wireType tag : ℕ) :
    Writes (fun stream => stream.encodeTag wireType tag) (pbEncodeTag wireType tag) :=
  fun _ => rfl

theorem writes_elems (numElems : ℕ) (getter : ℕ → ℤ) (wrapper : Option (ℤ → ℤ)) :
    Writes (fun stream => stream.encodeElems numElems getter wrapper)
      ((List.range numElems).flatMap fun i => pbEncodeVarint (wrapper.getD id (getter i))) := by
  have loop (elems : List ℕ) :
      Writes (fun stream => elems.foldlM
          (fun stream i => stream.encodeVarint (wrapper.getD id (getter i))) stream)
        (elems.flatMap fun i => pbEncodeVarint (wrapper.getD id (getter i))) := by
    induction elems with
    | nil => exact fun stream => (write_nil stream).symm
    | cons i elems ih => exact (writes_varint _).bind ih
  exact loop _

theorem writes_counted (tag : ℕ) (body : Writes func data) :
    Writes (fun stream => (stream.encodeTag PB_WT_STRING tag).bind fun stream =>
        (func PB_OSTREAM_SIZING).bind fun substream =>
          (stream.encodeVarint substream.bytesWritten).bind func)
      (pbEncodeTag PB_WT_STRING tag ++ (pbEncodeVarint data.length ++ data)) := by
  have counted : func PB_OSTREAM_SIZING = some ⟨data.length, 0, none⟩ := by
    rw [body, write_sizing]
  rw [counted]
  exact (writes_tag PB_WT_STRING tag).bind ((writes_varint data.length).bind body)

theorem writes_repeatedIntField (tag numElems : ℕ) (getter : ℕ → ℤ) (wrapper : Option (ℤ → ℤ)) :
    Writes (fun stream => stream.encodeRepeatedIntField tag numElems getter wrapper)
      (EmbeddedClient.encodeRepeatedIntField tag numElems fun i => wrapper.getD id (getter i)) := by
  have field := writes_counted tag (writes_elems numElems getter wrapper)
  rw [← List.append_assoc] at field
  exact field

theorem writes_optimizedRepeatedField (numBeacons tag1 tag2 : ℕ) (getter : ℕ → ℤ) :
    Writes (fun stream => stream.encodeOptimizedRepeatedField numBeacons tag1 tag2 getter)
      (EmbeddedClient.encodeOptimizedRepeatedField numBeacons tag1 tag2 getter) := by
  unfold encodeOptimizedRepeatedField EmbeddedClient.encodeOptimizedRepeatedField
  split_ifs
  · exact (writes_tag PB_WT_VARINT tag1).bind (writes_varint _)
  · exact writes_repeatedIntField tag2 numBeacons getter none

/-- `encode_submessage` writes the bytes of its callback behind their length. -/
theorem writes_submessage (tag : ℕ) (body : Writes func data) :
    Writes (fun stream => stream.encodeSubmessage tag func)
      (pbEncodeTag PB_WT_STRING tag ++ (pbEncodeVarint data.length ++ data)) :=
  writes_counted tag body

end PbOstream

end EmbeddedClient
