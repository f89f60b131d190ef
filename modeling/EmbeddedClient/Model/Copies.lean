import EmbeddedClient.Model.Run

/-!
# Copies into fixed buffers

The `memcpy`, `memmove` and `strncpy` calls on bytes, call by call. The source of a copy
is an argument or a field whose length is kept beside it; the code compares none of these
lengths with the size of the destination. Copies of a whole address into a local one are
left out, and so are the shifts of beacons, which the size of the beacon list bounds.
-/

namespace EmbeddedClient

/-- A copy into an array of bytes: the size of the array and the number of bytes. -/
structure MemCopy where
  size : ℕ
  length : ℕ
  deriving DecidableEq, Repr

/-- The copy stays within its destination. -/
def MemCopy.inside (copy : MemCopy) : Prop := copy.length ≤ copy.size

instance (copy : MemCopy) : Decidable copy.inside := inferInstanceAs (Decidable (_ ≤ _))

@[simp] def MAC_SIZE : ℕ := 6
@[simp] def AES_KEYLEN : ℕ := 16

/-- The copies of `sky_open`, made once it accepts its arguments. `strncpy` pads the SKU. -/
def skyOpenCopies (s : SkySctx) (args : OpenArgs) : List MemCopy :=
  if (skyOpen s args).1 = .none then
    [⟨MAX_DEVICE_ID, ((args.deviceId.getD []).take MAX_DEVICE_ID).length⟩,
      ⟨AES_KEYLEN, AES_KEYLEN⟩] ++
      if args.skuText.length ≠ 0 then [⟨MAX_SKU_LEN + 1, MAX_SKU_LEN⟩] else []
  else []

/-- The copy of the uplink data by `sky_new_request`, made for every request it starts. -/
def skyNewRequestCopies (rbufsize : UInt32) (s : SkySctx) (ulAppData : List UInt8) (now : ℤ) :
    List MemCopy :=
  if (skyNewRequest rbufsize s ulAppData now).errno = none then
    [⟨SKY_MAX_UL_APP_DATA, ulAppData.length⟩]
  else []

/-- The copies of `serialize_request` into the fields of the message. -/
def serializeRequestCopies (s : SkySctx) : List MemCopy :=
  let deviceId : MemCopy := ⟨MAX_DEVICE_ID, s.deviceId.length⟩
  let ulAppData : MemCopy := ⟨SKY_MAX_UL_APP_DATA, s.ulAppData.length⟩
  if s.isTbrEnabled then
    if s.tokenId = TBR_TOKEN_UNKNOWN then [deviceId, ⟨MAX_SKU_LEN + 1, MAX_SKU_LEN⟩]
    else [ulAppData, deviceId]
  else [ulAppData, deviceId]

/-- The copy of the downlink data by `deserialize_response`, made for a location. -/
def deserializeResponseCopies (d : Deserialized) : List MemCopy :=
  if d.ok && d.loc.dlAppData then [⟨SKY_MAX_DL_APP_DATA, d.loc.dlAppDataLen⟩] else []

variable (env : Env)

def CtxCall.copies (s : SkySctx) (r : SkyRctx) : CtxCall → List MemCopy
  | addBeacon (.ap ..) _ => [⟨MAC_SIZE, MAC_SIZE⟩]
  | sizeofRequestBuf _ => if (validateRequestCtx r).1 then serializeRequestCopies s else []
  | encodeRequest buf random =>
    let errno := (skyEncodeRequest env.codec s r buf random).errno
    if errno = .none ∨ errno = .encodeError then serializeRequestCopies s else []
  | decodeResponse resp loc now _ =>
    if (validateRequestCtx r).1 && resp.bufLen ≠ 0 && validateSessionCtx s then
      deserializeResponseCopies (deserializeResponse env.cipherBits
        { s with header := SkyHeader.seal { s.header with time := timeWord now } }
        (validateRequestCtx r).2 loc resp)
    else []
  | _ => []

def World.copies (w : World) : Call → List MemCopy
  | .openSession args => skyOpenCopies w.sctx args
  | .close => []
  | .newRequest _ rbufsize ulAppData now => skyNewRequestCopies rbufsize w.sctx ulAppData now
  | .onCtx id call => (w.ctx id).elim [] fun r => call.copies env w.sctx r

end EmbeddedClient
