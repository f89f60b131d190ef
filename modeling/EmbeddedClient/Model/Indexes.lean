import EmbeddedClient.Model.Run

/-!
# Line indexes of 16 bits

`get_from` and `save_to` are of type `int16_t`. The searches leave their indexes unbounded; here
are the calls with the two fields as the code has them, for any `CACHE_SIZE`.
-/

namespace EmbeddedClient

/-- `(int16_t)i`. -/
def int16 (i : ℤ) : ℤ := (Int16.ofInt i).toInt

/-- The context with its line indexes in their fields. -/
def SkyRctx.int16Indexes (r : SkyRctx) : SkyRctx :=
  { r with getFrom := int16 r.getFrom, saveTo := int16 r.saveTo }

/-- `search_cache`. The plugin that answers writes both fields. -/
def searchCache16 (distance : Distance) (s : SkySctx) (r : SkyRctx) : SkySctx × SkyRctx :=
  ((searchCache distance s r).1, (searchCache distance s r).2.int16Indexes)

/-- `sky_search_cache`. -/
def skySearchCache16 (distance : Distance) (s : SkySctx) (r : SkyRctx) (loc : SkyLocation) :
    SearchResult :=
  let ctx := validateRequestCtx r
  if !ctx.1 then ⟨.badRequestCtx, s, ctx.2, none, loc⟩
  else
    let found := searchCache16 distance s ctx.2
    if found.2.isCacheHit then
      ⟨.none, found.1, found.2, some true,
        { (found.1.line found.2.getFrom).loc with dlAppData := false, dlAppDataLen := 0 }⟩
    else
      ⟨.none, { found.1 with cacheHits := 0 }, { found.2 with hit := false }, some false,
        { loc with locationSource := 0, locationStatus := .unableToLocate }⟩

variable (env : Env)

def CtxCall.apply16 (s : SkySctx) (r : SkyRctx) : CtxCall → SkySctx × SkyRctx
  | searchCache loc =>
    let result := skySearchCache16 env.distance s r loc
    (result.sctx, result.rctx)
  | call => call.apply env s r

/-- The effect of a call on the world, with line indexes of 16 bits. -/
def World.step16 (w : World) : Call → World
  | .onCtx id call =>
    match w.ctx id with
    | none => w
    | some r =>
      let result := call.apply16 env w.sctx r
      ⟨result.1, Function.update w.ctx id (some result.2)⟩
  | call => w.step env call

/-- The world after a list of calls, with line indexes of 16 bits. -/
def World.run16 (w : World) (calls : List Call) : World := Runs.run (World.step16 env) w calls

end EmbeddedClient
