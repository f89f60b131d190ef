import EmbeddedClient.Model.Messages

/-!
# Output streams

The callbacks of `proto.c` write to a nanopb stream, which counts the bytes and, unless it
is there for the count only, stores them as long as there is room. A string field is
written twice, first to a counting stream for its length. Here are the callbacks that
write the APs of a request, with these two passes; `Model.Messages` has their bytes.
-/

namespace EmbeddedClient

/-- `pb_ostream_t`; a stream without a buffer counts only. -/
structure PbOstream where
  bytesWritten : ℕ
  maxSize : ℕ
  buffer : Option (List UInt8)
  deriving DecidableEq, Repr

def PB_OSTREAM_SIZING : PbOstream := ⟨0, 0, none⟩

namespace PbOstream

/-- `pb_write`; `none` when the stream is full. -/
def write (stream : PbOstream) (data : List UInt8) : Option PbOstream :=
  match stream.buffer with
  | none => some { stream with bytesWritten := stream.bytesWritten + data.length }
  | some buffer =>
    if data ≠ [] ∧ stream.maxSize < stream.bytesWritten + data.length then none
    else some { stream with
      bytesWritten := stream.bytesWritten + data.length, buffer := some (buffer ++ data) }

def encodeVarint (stream : PbOstream) (value : ℤ) : Option PbOstream :=
  stream.write (pbEncodeVarint value)

def encodeTag (stream : PbOstream) (wireType tag : ℕ) : Option PbOstream :=
  stream.write (pbEncodeTag wireType tag)

/-- The two loops of `encode_repeated_int_field`. -/
def encodeElems (stream : PbOstream) (numElems : ℕ) (getter : ℕ → ℤ) (wrapper : Option (ℤ → ℤ)) :
    Option PbOstream :=
  (List.range numElems).foldlM
    (fun stream i => stream.encodeVarint (wrapper.getD id (getter i))) stream

def encodeRepeatedIntField (stream : PbOstream) (tag numElems : ℕ) (getter : ℕ → ℤ)
    (wrapper : Option (ℤ → ℤ)) : Option PbOstream := do
  let stream ← stream.encodeTag PB_WT_STRING tag
  let substream ← PB_OSTREAM_SIZING.encodeElems numElems getter wrapper
  let stream ← stream.encodeVarint substream.bytesWritten
  stream.encodeElems numElems getter wrapper

def encodeConnectedApField (stream : PbOstream) (numBeacons tag : ℕ) (callback : ℕ → Bool) :
    Option PbOstream :=
  match (List.range numBeacons).find? callback with
  | some i => do
    let stream ← stream.encodeTag PB_WT_VARINT tag
    stream.encodeVarint (i + 1)
  | none => some stream

def encodeOptimizedRepeatedField (stream : PbOstream) (numBeacons tag1 tag2 : ℕ) (getter : ℕ → ℤ) :
    Option PbOstream :=
  if 1 < numBeacons ∧ (List.range numBeacons).all (fun i => getter i = getter 0) then do
    let stream ← stream.encodeTag PB_WT_VARINT tag1
    stream.encodeVarint (getter 0 + 1)
  else stream.encodeRepeatedIntField tag2 numBeacons getter none

def encodeApFields (r : SkyRctx) (stream : PbOstream) : Option PbOstream := do
  let stream ← stream.encodeConnectedApField r.numAp 1 fun i => (r.slot i).h.connected
  let stream ← stream.encodeRepeatedIntField 4 r.numAp (fun i => macToInt (r.slot i).ap.mac) none
  let stream ← stream.encodeOptimizedRepeatedField r.numAp 2 5 fun i => (r.slot i).ap.freq.toNat
  let stream ← stream.encodeRepeatedIntField 6 r.numAp (fun i => (r.slot i).h.rssi.toInt)
    (some fun value => -value)
  stream.encodeOptimizedRepeatedField r.numAp 3 7 fun i => (r.slot i).h.age.toNat

def encodeSubmessage (stream : PbOstream) (tag : ℕ) (func : PbOstream → Option PbOstream) :
    Option PbOstream := do
  let stream ← stream.encodeTag PB_WT_STRING tag
  let substream ← func PB_OSTREAM_SIZING
  let stream ← stream.encodeVarint substream.bytesWritten
  func stream

end PbOstream

end EmbeddedClient
