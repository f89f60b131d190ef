import EmbeddedClient.Model.Libel
import EmbeddedClient.Support.Runs

/-!
# Runs of the library

A world holds one session buffer and the request contexts an application has on
it, told apart by their addresses. Every call of the library is an action on the
world. What the calls take from outside the repository is a fixed environment.
-/

namespace EmbeddedClient

open Binary32 (FloatVal)
open Runs

/-- What the code takes from its build and its libraries. -/
structure Env where
  distance : Distance
  codec : Codec
  cipherBits : ℕ

/-- The calls on a request context. -/
inductive CtxCall
  | addBeacon (call : AddCall) (timestamp : ℤ)
  | addGnss (args : GnssArgs)
  | searchCache (loc : SkyLocation)
  | ignoreCacheHit
  | sizeofRequestBuf (random : List UInt8)
  | encodeRequest (buf : Option (List UInt8)) (random : List UInt8)
  | decodeResponse (resp : Response) (loc : SkyLocation) (now later : ℤ)
  | setOption (name : SkyConfigName) (value : Int32)

/-- The calls of the library; `id` is the address of a request context. -/
inductive Call
  | openSession (args : OpenArgs)
  | close
  | newRequest (id : ℕ) (rbufsize : UInt32) (ulAppData : List UInt8) (now : ℤ)
  | onCtx (id : ℕ) (call : CtxCall)

/-- A session and the request contexts on it. -/
structure World where
  sctx : SkySctx
  ctx : ℕ → Option SkyRctx

/-- A session buffer of zeros. -/
def SkySctx.zeroed (cacheSize : ℕ) : SkySctx :=
  { SkySctx.initialized cacheSize 0 with
    header := ⟨0, 0, 0, 0⟩
    numCachelines := 0
    cacheline := List.replicate cacheSize
      { SkyCacheline.cleared with beacon := List.replicate TOTAL_BEACONS Beacon.zero } }

/-- A zeroed session buffer and no request context. -/
def World.start (cacheSize : ℕ) : World := ⟨SkySctx.zeroed cacheSize, fun _ => none⟩

variable (env : Env)

def CtxCall.apply (s : SkySctx) (r : SkyRctx) : CtxCall → SkySctx × SkyRctx
  | addBeacon call timestamp =>
    (s, (skyAddBeacon s r .none call timestamp).rctx)
  | addGnss args => (s, (skyAddGnss r args).2)
  | searchCache loc =>
    let result := skySearchCache env.distance s r loc
    (result.sctx, result.rctx)
  | ignoreCacheHit => (s, (skyIgnoreCacheHit r).2)
  | sizeofRequestBuf random =>
    let result := skySizeofRequestBuf env.codec s r random
    (result.sctx, result.rctx)
  | encodeRequest buf random => (s, (skyEncodeRequest env.codec s r buf random).rctx)
  | decodeResponse resp loc now later =>
    let result := skyDecodeResponse env.cipherBits s r loc resp now later
    (result.sctx, result.rctx)
  | setOption name value => ((skySetOption s name value).2, r)

/-- The effect of a call on the world. A context that `sky_new_request` has
cleared without returning it is gone. -/
def World.step (w : World) : Call → World
  | .openSession args => { w with sctx := (skyOpen w.sctx args).2 }
  | .close => { w with sctx := (skyClose w.sctx).2 }
  | .newRequest id rbufsize ulAppData now =>
    let result := skyNewRequest rbufsize w.sctx ulAppData now
    if result.errno = none ∨ result.errno = some .serviceDenied then
      ⟨result.sctx, Function.update w.ctx id result.rctx⟩
    else { w with sctx := result.sctx }
  | .onCtx id call =>
    match w.ctx id with
    | none => w
    | some r =>
      let result := call.apply env w.sctx r
      ⟨result.1, Function.update w.ctx id (some result.2)⟩

variable {w : World} {id : ℕ} {r : SkyRctx} {env : Env}

theorem World.step_onCtx_some (call : CtxCall) (member : w.ctx id = some r) :
    w.step env (.onCtx id call) =
      ⟨(call.apply env w.sctx r).1,
        Function.update w.ctx id (some (call.apply env w.sctx r).2)⟩ := by
  simp only [World.step, member]

theorem World.step_onCtx_none (call : CtxCall) (member : w.ctx id = none) :
    w.step env (.onCtx id call) = w := by
  simp only [World.step, member]

theorem World.step_newRequest_sctx (rbufsize : UInt32) (ulAppData : List UInt8) (now : ℤ) :
    (w.step env (.newRequest id rbufsize ulAppData now)).sctx =
      (skyNewRequest rbufsize w.sctx ulAppData now).sctx := by
  unfold World.step
  dsimp only
  split_ifs <;> rfl

section Contexts

variable {good : SkyRctx → Prop}

theorem World.ctx_update (all : ∀ i r, w.ctx i = some r → good r) {o : Option SkyRctx}
    (new : ∀ r, o = some r → good r) (i : ℕ) (r : SkyRctx)
    (found : Function.update w.ctx id o i = some r) : good r := by
  by_cases same : i = id
  · subst same
    rw [Function.update_self] at found
    exact new r found
  · rw [Function.update_of_ne same] at found
    exact all i r found

/-- What holds of every context, and of a new one, holds of every context after a new request. -/
theorem World.step_newRequest_ctx {rbufsize : UInt32} {ulAppData : List UInt8} {now : ℤ}
    (all : ∀ i r, w.ctx i = some r → good r)
    (fresh : (skyNewRequest rbufsize w.sctx ulAppData now).errno = none →
      good (SkyRctx.initialized w.sctx now)) :
    ∀ i r, (w.step env (.newRequest id rbufsize ulAppData now)).ctx i = some r → good r := by
  have new : ∀ r, (skyNewRequest rbufsize w.sctx ulAppData now).rctx = some r → good r := by
    unfold skyNewRequest at fresh ⊢
    split_ifs at fresh ⊢
    · simp
    · simp
    · simp
    · intro r started
      rw [Option.some.injEq] at started
      rw [← started]
      exact fresh rfl
  unfold World.step
  dsimp only
  split_ifs
  · exact World.ctx_update all new
  · exact all

/-- What holds of every context, and of the one a call leaves, holds of every context after it. -/
theorem World.step_onCtx_ctx {call : CtxCall} (member : w.ctx id = some r)
    (all : ∀ i r, w.ctx i = some r → good r) (applied : good (call.apply env w.sctx r).2) :
    ∀ i r', (w.step env (.onCtx id call)).ctx i = some r' → good r' := by
  rw [World.step_onCtx_some call member]
  apply World.ctx_update all
  intro r' found
  rw [Option.some.injEq] at found
  rwa [← found]

end Contexts

variable (env)

def World.run (w : World) (calls : List Call) : World := Runs.run (World.step env) w calls

end EmbeddedClient
