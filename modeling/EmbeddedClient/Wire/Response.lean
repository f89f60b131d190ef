import EmbeddedClient.Model.Session

/-!
# The ranges a response is read from

`deserialize_response` hands ranges of its buffer to the message decoder and to
the cipher. The comparison in front of them is an unsigned sum of signed
lengths, and does not keep the ranges inside the buffer. They lie inside exactly
when the two lengths and the padding fit as integers.
-/

namespace EmbeddedClient

namespace Response

variable (resp : Response)

/-- The response has a header that announces a body, and passes the comparison. -/
def parsesBody (header : RsHeader) : Prop :=
  resp.header = some header ∧ resp.hdrSize ≠ 0 ∧ 1 + resp.hdrSize.toNat ≤ resp.bufLen.toNat ∧
    header.rsLength ≠ 0 ∧ resp.tooShort header = false

/-- The announced lengths fit: the crypto info ends inside the buffer, and so do
the body rounded up to whole cipher blocks and the body without its padding. -/
def lengthsFit (bits : ℕ) : Prop :=
  ∀ header, resp.parsesBody header →
    0 ≤ header.cryptoInfoLength.toInt ∧ resp.bodyStart header ≤ resp.bufLen.toNat ∧
    ∀ info, resp.cryptoInfo = some info →
      resp.bodyStart header + wholeBlocks (toUnsigned bits header.rsLength) ≤ resp.bufLen.toNat ∧
      0 ≤ (header.rsLength - info.aesPaddingLength).toInt ∧
      resp.bodyStart header + (header.rsLength - info.aesPaddingLength).toInt ≤ resp.bufLen.toNat

theorem headerRange_inside (fits : 1 + resp.hdrSize.toNat ≤ resp.bufLen.toNat) :
    resp.headerRange.inside resp.bufLen.toNat := by
  simp only [headerRange, ByteRange.inside]
  omega

/-- A range whose length comes from a signed number is inside a 32-bit buffer
exactly when the number is not negative and the sum fits. -/
theorem inside_toUnsigned_iff (start : ℤ) (length : Int32) (bufLen : ℕ) (small : bufLen < 2 ^ 32)
    (nonneg : 0 ≤ start) :
    (⟨start, toUnsigned 64 length⟩ : ByteRange).inside bufLen ↔
      0 ≤ length.toInt ∧ start + length.toInt ≤ bufLen := by
  have lower := length.le_toInt
  have upper := length.toInt_lt
  simp only [ByteRange.inside, toUnsigned]
  omega

theorem cryptoInfoRange_inside_iff (header : RsHeader) :
    (resp.cryptoInfoRange header).inside resp.bufLen.toNat ↔
      0 ≤ header.cryptoInfoLength.toInt ∧ resp.bodyStart header ≤ resp.bufLen.toNat :=
  inside_toUnsigned_iff _ _ _ resp.bufLen.toNat_lt (by omega)

theorem bodyStart_nonneg (header : RsHeader) (fits : 0 ≤ header.cryptoInfoLength.toInt) :
    0 ≤ resp.bodyStart header := by
  unfold bodyStart
  omega

theorem cipherRange_inside_iff (bits : ℕ) (header : RsHeader)
    (fits : 0 ≤ header.cryptoInfoLength.toInt) :
    (resp.cipherRange bits header).inside resp.bufLen.toNat ↔
      resp.bodyStart header + wholeBlocks (toUnsigned bits header.rsLength) ≤
        resp.bufLen.toNat := by
  have start := resp.bodyStart_nonneg header fits
  simp [cipherRange, ByteRange.inside, start]

theorem bodyRange_inside_iff (header : RsHeader) (info : CryptoInfo)
    (fits : 0 ≤ header.cryptoInfoLength.toInt) :
    (resp.bodyRange header info).inside resp.bufLen.toNat ↔
      0 ≤ (header.rsLength - info.aesPaddingLength).toInt ∧
        resp.bodyStart header + (header.rsLength - info.aesPaddingLength).toInt ≤
          resp.bufLen.toNat :=
  inside_toUnsigned_iff _ _ _ resp.bufLen.toNat_lt (resp.bodyStart_nonneg header fits)

def ranges (bits : ℕ) (header : RsHeader) : List ByteRange :=
  [resp.headerRange, resp.cryptoInfoRange header] ++
    match resp.cryptoInfo with
    | none => []
    | some info => [resp.cipherRange bits header, resp.bodyRange header info]

end Response

variable (bits : ℕ) (s : SkySctx) (r : SkyRctx) (loc : SkyLocation) (resp : Response)

theorem bufLen_lt_headerEnd_iff :
    resp.bufLen < 1 + resp.hdrSize.toUInt32 ↔ resp.bufLen.toNat < 1 + resp.hdrSize.toNat := by
  have := resp.hdrSize.toNat_lt
  rw [UInt32.lt_iff_toNat_lt, UInt32.toNat_add, UInt8.toNat_toUInt32, UInt32.toNat_one]
  omega

theorem deserializeResponse_ranges_of_not_parsesBody (noBody : ∀ header, ¬ resp.parsesBody header)
    (range : ByteRange) (mem : range ∈ (deserializeResponse bits s r loc resp).ranges) :
    range.inside resp.bufLen.toNat := by
  unfold deserializeResponse at mem
  split_ifs at mem with empty short hdr
  · simp at mem
  · simp at mem
  · rw [bufLen_lt_headerEnd_iff] at short
    rw [List.mem_singleton.1 mem]
    exact resp.headerRange_inside (by omega)
  · rw [bufLen_lt_headerEnd_iff] at short
    have header : range = resp.headerRange := by
      split at mem
      · exact List.mem_singleton.1 mem
      · rename_i header decoded
        split_ifs at mem with noRs tooShort
        · exact List.mem_singleton.1 mem
        · exact List.mem_singleton.1 mem
        · exact absurd ⟨decoded, hdr, by omega, noRs, by simpa using tooShort⟩ (noBody header)
    rw [header]
    exact resp.headerRange_inside (by omega)

theorem deserializeResponse_ranges_of_parsesBody (header : RsHeader)
    (body : resp.parsesBody header) :
    (deserializeResponse bits s r loc resp).ranges = resp.ranges bits header := by
  obtain ⟨decoded, hdr, fits, hasBody, longEnough⟩ := body
  have nonempty : ¬ resp.bufLen < 1 := by
    rw [UInt32.lt_iff_toNat_lt, UInt32.toNat_one]
    omega
  unfold deserializeResponse
  rw [if_neg nonempty, if_neg (by rw [bufLen_lt_headerEnd_iff]; omega), if_neg hdr, decoded]
  simp only [hasBody, longEnough, if_false, Bool.false_eq_true, Response.ranges]
  cases resp.cryptoInfo with
  | none => rfl
  | some info => cases resp.rs <;> rfl

/-- All ranges lie inside the buffer exactly when the announced lengths fit. -/
theorem deserializeResponse_ranges_inside_iff :
    (∀ range ∈ (deserializeResponse bits s r loc resp).ranges, range.inside resp.bufLen.toNat) ↔
      resp.lengthsFit bits := by
  by_cases hasBody : ∃ header, resp.parsesBody header
  · obtain ⟨header, body⟩ := hasBody
    have unique : ∀ header', resp.parsesBody header' → header' = header := fun header' body' =>
      Option.some.inj (body'.1.symm.trans body.1)
    rw [deserializeResponse_ranges_of_parsesBody bits s r loc resp header body]
    constructor
    · intro inside header' body'
      rw [unique header' body']
      have info := (resp.cryptoInfoRange_inside_iff header).1 (inside _ (by simp [Response.ranges]))
      refine ⟨info.1, info.2, fun i decoded => ⟨?_, ?_⟩⟩
      · exact (resp.cipherRange_inside_iff bits header info.1).1
          (inside _ (by simp [Response.ranges, decoded]))
      · exact (resp.bodyRange_inside_iff header i info.1).1
          (inside _ (by simp [Response.ranges, decoded]))
    · intro fit range mem
      obtain ⟨nonneg, start, rest⟩ := fit header body
      unfold Response.ranges at mem
      cases decoded : resp.cryptoInfo with
      | none =>
        simp only [decoded, List.append_nil, List.mem_cons, List.not_mem_nil, or_false] at mem
        obtain rfl | rfl := mem
        · exact resp.headerRange_inside body.2.2.1
        · exact (resp.cryptoInfoRange_inside_iff header).2 ⟨nonneg, start⟩
      | some info =>
        simp only [decoded, List.cons_append, List.nil_append, List.mem_cons, List.not_mem_nil,
          or_false] at mem
        obtain ⟨cipher, padding⟩ := rest info decoded
        obtain rfl | rfl | rfl | rfl := mem
        · exact resp.headerRange_inside body.2.2.1
        · exact (resp.cryptoInfoRange_inside_iff header).2 ⟨nonneg, start⟩
        · exact (resp.cipherRange_inside_iff bits header nonneg).2 cipher
        · exact (resp.bodyRange_inside_iff header info nonneg).2 padding
  · have noBody : ∀ header, ¬ resp.parsesBody header := not_exists.1 hasBody
    exact ⟨fun _ header body => absurd body (noBody header),
      fun _ => deserializeResponse_ranges_of_not_parsesBody bits s r loc resp noBody⟩

/-- A response of 14 bytes whose header announces a crypto info of length `-1`. -/
def negativeCryptoInfo : Response where
  bufLen := 14
  hdrSize := 13
  header := some ⟨-1, 1, .success⟩
  cryptoInfo := none
  rs := none

/-- The sum of its lengths passes, and the decoder is handed `2 ^ 64 - 1` bytes. -/
theorem deserializeResponse_negativeCryptoInfo :
    ∃ range ∈ (deserializeResponse 64 (SkySctx.initialized 1 1600000000)
        (SkyRctx.initialized (SkySctx.initialized 1 1600000000) 1600000000) SkyLocation.zero
        negativeCryptoInfo).ranges, ¬ range.inside negativeCryptoInfo.bufLen.toNat := by
  refine ⟨negativeCryptoInfo.cryptoInfoRange ⟨-1, 1, .success⟩, ?_, by decide⟩
  rw [deserializeResponse_ranges_of_parsesBody _ _ _ _ _ ⟨-1, 1, .success⟩
    ⟨rfl, by decide, by decide, by decide, by decide⟩]
  simp [Response.ranges]

end EmbeddedClient
