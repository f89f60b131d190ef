import EmbeddedClient.Beacons.Listed

/-!
# Responses that cannot be decoded

`deserialize_response` has several ways to fail. Each of them comes before the first write to the
session or the request, so `sky_decode_response` leaves nothing but its time in the header of the
session.
-/

namespace EmbeddedClient

/-- The error for a response that is not decoded: that of the first check that fails. -/
def undecodedErrno (s : SkySctx) (r : SkyRctx) (resp : Response) : SkyErrno :=
  if (validateRequestCtx r).1 = false then .badRequestCtx
  else if resp.bufLen = 0 then .badParameters
  else if validateSessionCtx s = false then .badSessionCtx
  else .decodeError

/-- A response is answered with an error, and nothing but the header of the session is written. -/
structure Ignored (s : SkySctx) (r : SkyRctx) (errno : SkyErrno) (d : DecodeResult) : Prop where
  errno : d.errno = errno
  status : errorStatus d.errno = .error
  sctx : d.sctx = { s with header := d.sctx.header }
  rctx : d.rctx = r

variable {s : SkySctx} {r : SkyRctx} {loc : SkyLocation} {resp : Response} {bits : ℕ}
  {now later : ℤ}

theorem deserializeResponse_failed (failed : (deserializeResponse bits s r loc resp).ok = false) :
    (deserializeResponse bits s r loc resp).sctx = s ∧
      (deserializeResponse bits s r loc resp).rctx = r := by
  rcases deserializeResponse_cases bits s r loc resp with
    ⟨loc', ranges, result⟩ | ⟨s', status, rs, ranges, same, result⟩
  · rw [result]
    exact ⟨rfl, rfl⟩
  · rw [result] at failed
    simp [finishResponse] at failed

theorem skyDecodeResponse_ignored (checked : (validateRequestCtx r).2 = r)
    (failed : (deserializeResponse bits (s.stamp now) r loc resp).ok = false) :
    Ignored s r (undecodedErrno s r resp) (skyDecodeResponse bits s r loc resp now later) := by
  obtain ⟨session, context⟩ := deserializeResponse_failed failed
  have onlyHeader (s' : SkySctx) (same : s' = s.stamp now) :
      s' = { s with header := s'.header } := by
    rw [same]
    rfl
  rw [SkySctx.stamp] at failed session context
  unfold skyDecodeResponse undecodedErrno
  dsimp only
  rw [checked, failed]
  simp only [Bool.not_eq_true']
  -- The first check that fails returns before the session is written.
  split_ifs with invalid empty closed
  · exact ⟨rfl, rfl, rfl, rfl⟩
  · exact ⟨rfl, rfl, rfl, rfl⟩
  · exact ⟨rfl, rfl, rfl, rfl⟩
  · constructor
    · rfl
    · rfl
    · exact onlyHeader _ session
    · exact context

/-- In every reachable state, a response that cannot be decoded changes nothing but the header of
the session. -/
theorem run_ignores (env : Env) (cacheSize : ℕ) (calls : List Call) (id : ℕ) (r : SkyRctx)
    (loc : SkyLocation) (resp : Response) (now later : ℤ)
    (member : ((World.start cacheSize).run env calls).ctx id = some r)
    (failed : (deserializeResponse env.cipherBits
      (((World.start cacheSize).run env calls).sctx.stamp now) r loc resp).ok = false) :
    Ignored ((World.start cacheSize).run env calls).sctx r
      (undecodedErrno ((World.start cacheSize).run env calls).sctx r resp)
      (skyDecodeResponse env.cipherBits ((World.start cacheSize).run env calls).sctx r loc resp
        now later) := by
  have listed := World.run_listed env (World.start_listed cacheSize) calls
  exact skyDecodeResponse_ignored (listed.ctx id r member).validateRequestCtx failed

/-- The first byte of a response gives the size of a header that is not there. -/
def Response.cutShort : Response := ⟨5, 13, none, none, none⟩

def Response.empty : Response := ⟨0, 0, none, none, none⟩

theorem cutShort_ignored : ∃ r, ((World.start 1).run bareEnv sampleCalls).ctx 0 = some r ∧
    Ignored ((World.start 1).run bareEnv sampleCalls).sctx r .decodeError
      (skyDecodeResponse bareEnv.cipherBits ((World.start 1).run bareEnv sampleCalls).sctx r
        SkyLocation.zero .cutShort 1600000010 1600000010) := by
  have answered : (((World.start 1).run bareEnv sampleCalls).ctx 0).map (fun r =>
      undecodedErrno ((World.start 1).run bareEnv sampleCalls).sctx r .cutShort) =
      some .decodeError := by
    decide +kernel
  obtain ⟨r, member, errno⟩ := Option.map_eq_some_iff.1 answered
  have ignored := run_ignores bareEnv 1 sampleCalls 0 r SkyLocation.zero .cutShort 1600000010
    1600000010 member rfl
  rw [errno] at ignored
  exact ⟨r, member, ignored⟩

/-- An empty response does not get as far as `deserialize_response`, which would refuse it. -/
theorem empty_not_ignored : ∃ r, ((World.start 1).run bareEnv sampleCalls).ctx 0 = some r ∧
    (deserializeResponse bareEnv.cipherBits
      (((World.start 1).run bareEnv sampleCalls).sctx.stamp 1600000010) r SkyLocation.zero
        .empty).ok = false ∧
    ¬ Ignored ((World.start 1).run bareEnv sampleCalls).sctx r .decodeError
      (skyDecodeResponse bareEnv.cipherBits ((World.start 1).run bareEnv sampleCalls).sctx r
        SkyLocation.zero .empty 1600000010 1600000010) := by
  have answered : (((World.start 1).run bareEnv sampleCalls).ctx 0).map (fun r =>
      (skyDecodeResponse bareEnv.cipherBits ((World.start 1).run bareEnv sampleCalls).sctx r
        SkyLocation.zero .empty 1600000010 1600000010).errno) = some .badParameters := by
    decide +kernel
  obtain ⟨r, member, errno⟩ := Option.map_eq_some_iff.1 answered
  refine ⟨r, member, rfl, ?_⟩
  intro ignored
  exact absurd (errno.symm.trans ignored.errno) (by decide)

end EmbeddedClient
