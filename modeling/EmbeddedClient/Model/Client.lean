import EmbeddedClient.Model.Nanopb
import EmbeddedClient.Model.Run
import EmbeddedClient.Support.Retry

/-!
# The sample client

`locate` of `sample_client.c` starts a request, fills it with the results of a scan, searches the
cache and exchanges the request for a response, over and over as long as the response asks for it.
What the system libraries return to it is given for each round.
-/

namespace EmbeddedClient

open Retry (Outcome)

/-- `get_maximum_response_size`, from the sizes of the messages in `el.pb.h`. -/
def maximumResponseSize : ℕ :=
  RsHeader_size + CryptoInfo_size + 1 + AES_BLOCKLEN * ((Rs_size + AES_BLOCKLEN - 1) / AES_BLOCKLEN)

/-- `malloc`: as many bytes as asked for, with whatever the memory held, or `NULL`. -/
def malloc (memory : Option (List UInt8)) (size : ℕ) : Option (List UInt8) :=
  memory.map fun bytes => bytes.takeD size 0

/-- `send_request`: the response buffer with the received bytes at its front, if there are any. -/
def sendRequest (receive : List UInt8 → List UInt8) (request response : List UInt8) :
    Option (List UInt8) :=
  let received := (receive request).take response.length
  if received = [] then none else some (received ++ response.drop received.length)

/-- What a round takes from outside: the bytes of `rand_bytes` for the two calls that draw some, the
memory of the two buffers, what the socket receives for a request, and the clock. -/
structure Round where
  sizing : List UInt8
  request : Option (List UInt8)
  random : List UInt8
  response : Option (List UInt8)
  receive : List UInt8 → List UInt8
  now : ℤ
  later : ℤ

/-- The contexts and the location between two rounds. -/
structure Progress where
  sctx : SkySctx
  rctx : SkyRctx
  loc : SkyLocation

/-- The errors after which `locate` tries again. -/
def SkyErrno.retries : SkyErrno → Bool
  | authRetry | authRetry8H | authRetry16H | authRetry1D => true
  | _ => false

/-- How a round ends after a response, with a word on whether there is a location. -/
def DecodeResult.outcome (decoded : DecodeResult) : Outcome Progress (Bool × Progress) :=
  let p : Progress := ⟨decoded.sctx, decoded.rctx, decoded.loc⟩
  if decoded.errno = .none then .done (true, p)
  else if decoded.errno.retries then .again p
  else .done (false, p)

variable (env : Env) (d : Decoders)

/-- One round of `locate` from `retry_after_auth` on. -/
def locateRound (p : Progress) (round : Round) : Outcome Progress (Bool × Progress) :=
  let sized := skySizeofRequestBuf env.codec p.sctx p.rctx round.sizing
  let p := { p with sctx := sized.sctx, rctx := sized.rctx }
  match sized.size.bind (malloc round.request) with
  | none => .done (false, p)
  | some request =>
    let encoded := skyEncodeRequest env.codec p.sctx p.rctx (some request) round.random
    let p := { p with rctx := encoded.rctx }
    if encoded.errno ≠ .none then .done (false, p)
    else match encoded.buf.bind fun request =>
        (malloc round.response maximumResponseSize).bind (sendRequest round.receive request) with
      | none => .done (false, p)
      | some response =>
        (skyDecodeResponse env.cipherBits p.sctx p.rctx p.loc
          (.ofBuffer d env.cipherBits p.sctx.aesKey response) round.now round.later).outcome

/-- `locate` from `retry_after_auth` on. -/
def retryAfterAuth : Progress → List Round → Outcome Progress (Bool × Progress) :=
  Retry.loop (locateRound env d)

/-- What an application gives to `locate`, with the clock at its start. -/
structure LocateArgs where
  rbufsize : UInt32
  ulAppData : List UInt8
  start : ℤ
  beacons : List (AddCall × ℤ)
  gnss : Option GnssArgs

/-- The calls that fill a request; what they return is only printed. -/
def LocateArgs.fill (args : LocateArgs) : List CtxCall :=
  args.beacons.map (fun scanned => .addBeacon scanned.1 scanned.2) ++ args.gnss.toList.map .addGnss

/-- `locate`; without a request context it fails at once. -/
def SampleClient.locate (s : SkySctx) (args : LocateArgs) (loc : SkyLocation)
    (rounds : List Round) : Option (Outcome Progress (Bool × Progress)) :=
  let started := skyNewRequest args.rbufsize s args.ulAppData args.start
  started.rctx.map fun r =>
    let filled := args.fill.foldl (fun ctx call => call.apply env ctx.1 ctx.2) (started.sctx, r)
    let searched := skySearchCache env.distance filled.1 filled.2 loc
    retryAfterAuth env d ⟨searched.sctx, searched.rctx, searched.loc⟩ rounds

end EmbeddedClient
