import EmbeddedClient.Cache.RoundTrip
import EmbeddedClient.Session.Indexes
import EmbeddedClient.Session.Tokens

/-!
# Where a location from the cache comes from

A response that locates its device fills a cacheline, and nothing else does. The line keeps
its content until it is emptied or filled again. So a search returns a location that the
library has reported before, for the same partner and key.
-/

namespace EmbeddedClient

open Runs

variable {s s' s'' : SkySctx} {r : SkyRctx} {cl : SkyCacheline} {i : ℕ}

/-- Cacheline `i` if it holds a location. -/
def SkySctx.filled (s : SkySctx) (i : ℕ) : Option SkyCacheline :=
  s.cacheline[i]?.filter fun cl => cl.time ≠ CACHE_EMPTY

theorem SkySctx.filled_eq_some_iff :
    s.filled i = some cl ↔ s.cacheline[i]? = some cl ∧ cl.time ≠ CACHE_EMPTY := by
  rw [SkySctx.filled, Option.filter_eq_some_iff, decide_eq_true_eq]

/-- Every line that is filled afterwards was filled in the same way before. -/
def FillsNone (s s' : SkySctx) : Prop := ∀ i cl, s'.filled i = some cl → s.filled i = some cl

theorem FillsNone.refl (s : SkySctx) : FillsNone s s := fun _ _ filled => filled

theorem FillsNone.trans (first : FillsNone s s') (second : FillsNone s' s'') : FillsNone s s'' :=
  fun i cl filled => first i cl (second i cl filled)

theorem FillsNone.of_cacheline (same : s'.cacheline = s.cacheline) : FillsNone s s' := by
  intro i cl filled
  rwa [SkySctx.filled, same] at filled

theorem FillsNone.of_lines {f : SkyCacheline → SkyCacheline}
    (empties : ∀ cl, f cl = cl ∨ (f cl).time = CACHE_EMPTY)
    (lines : ∀ (i : ℕ) cl', s'.cacheline[i]? = some cl' →
      ∃ cl, s.cacheline[i]? = some cl ∧ (cl' = cl ∨ cl' = f cl)) : FillsNone s s' := by
  intro i cl' filled
  obtain ⟨line, time⟩ := SkySctx.filled_eq_some_iff.1 filled
  obtain ⟨cl, old, rfl | rfl⟩ := lines i cl' line
  · exact SkySctx.filled_eq_some_iff.2 ⟨old, time⟩
  · rcases empties cl with same | empty
    · rw [same] at time ⊢
      exact SkySctx.filled_eq_some_iff.2 ⟨old, time⟩
    · exact absurd empty time

theorem SkyCacheline.expire_empties (limit : ℕ) (now : UInt32) (cl : SkyCacheline) :
    cl.expire limit now = cl ∨ (cl.expire limit now).time = CACHE_EMPTY := by
  unfold SkyCacheline.expire
  split_ifs
  · exact .inr rfl
  · exact .inl rfl

theorem SkyCacheline.renew_empties (c : SkyConfig) (now : ℤ) (cl : SkyCacheline) :
    cl.renew c now = cl ∨ (cl.renew c now).time = CACHE_EMPTY := by
  unfold SkyCacheline.renew
  dsimp only
  split_ifs
  all_goals first | exact .inl rfl | exact .inr rfl

theorem fillsNone_expire (s : SkySctx) (r : SkyRctx) : FillsNone s (s.expire r) := by
  apply FillsNone.of_lines (SkyCacheline.expire_empties s.config.ageLimit r.header.time)
  intro i cl' line
  unfold SkySctx.expire SkySctx.mapLines SkySctx.lines at line
  dsimp only at line
  rw [List.getElem?_append] at line
  split_ifs at line with visited
  · rw [List.getElem?_map, Option.map_eq_some_iff] at line
    obtain ⟨cl, old, rfl⟩ := line
    rw [List.getElem?_take] at old
    split_ifs at old
    exact ⟨cl, old, .inr rfl⟩
  · rw [List.getElem?_drop] at line
    rw [List.length_map, List.length_take] at visited line
    by_cases enough : s.numCachelines.toNat ≤ s.cacheline.length
    · rw [min_eq_left enough] at visited line
      rw [Nat.add_sub_cancel' (not_lt.1 visited)] at line
      exact ⟨cl', line, .inl rfl⟩
    · rw [List.getElem?_eq_none (by omega)] at line
      cases line

theorem fillsNone_searchCache (distance : Distance) (s : SkySctx) (r : SkyRctx) :
    FillsNone s (searchCache distance s r).1 := by
  have matched : FillsNone s (skyPluginMatchCache distance s.plugins s r).2.1 := by
    apply skyPluginMatchCache_induction (fun s' _ => FillsNone s s') _ s.plugins (.refl s)
    intro p s' r' fills
    rw [cacheMatch_sctx]
    exact fills.trans (fillsNone_expire s' r')
  unfold searchCache
  dsimp only
  split_ifs
  · exact .refl s
  · split <;> exact matched

theorem CtxCall.apply_fillsNone (env : Env) (s : SkySctx) (r : SkyRctx) (call : CtxCall)
    (notDecode : ∀ resp loc now later, call ≠ .decodeResponse resp loc now later) :
    FillsNone s (call.apply env s r).1 := by
  cases call with
  | searchCache loc =>
    have searched := fillsNone_searchCache env.distance s (validateRequestCtx r).2
    simp only [CtxCall.apply, skySearchCache]
    split_ifs
    · exact .refl s
    · exact searched
    · exact searched.trans (.of_cacheline rfl)
  | sizeofRequestBuf random =>
    apply FillsNone.of_cacheline
    simp only [CtxCall.apply, skySizeofRequestBuf, prepareRequest, SkySctx.markConfigDue]
    split_ifs <;> rfl
  | decodeResponse resp loc now later => exact absurd rfl (notDecode resp loc now later)
  | setOption name value =>
    have set (rejected : Bool) (set : UInt32 → SkyConfig) :
        FillsNone s (setConfig s value rejected set).2 := by
      unfold setConfig
      split_ifs <;> exact .of_cacheline rfl
    cases name with
    | loggingLevel => exact .of_cacheline rfl
    | cacheMatchThreshold => exact .refl s
    | other => exact .refl s
    | _ => exact set _ _
  | _ => exact .refl s

theorem toCache_located {loc : SkyLocation} (located : loc.locationStatus = .success)
    (recent : TIMESTAMP_2019_03_01 < loc.time) :
    (ApPlugin.toCache s r loc).2 =
      { s with cacheline := s.cacheline.modify (s.storePlace r) (SkyCacheline.store r loc) } := by
  unfold ApPlugin.toCache
  rw [if_neg (by omega)]
  dsimp only
  rw [if_neg (not_not.2 located)]
  rfl

theorem filled_toCache {loc : SkyLocation} (located : loc.locationStatus = .success)
    (filled : (ApPlugin.toCache s r loc).2.filled i = some cl) :
    s.filled i = some cl ∨ ∃ old : SkyCacheline, cl = old.store r loc := by
  by_cases recent : TIMESTAMP_2019_03_01 < loc.time
  · rw [toCache_located located recent] at filled
    obtain ⟨line, time⟩ := SkySctx.filled_eq_some_iff.1 filled
    rw [List.getElem?_modify, Option.map_eq_map, Option.map_eq_some_iff] at line
    obtain ⟨old, before, stored⟩ := line
    split_ifs at stored
    · exact .inr ⟨old, stored.symm⟩
    · subst stored
      exact .inl (SkySctx.filled_eq_some_iff.2 ⟨before, time⟩)
  · have unchanged : (ApPlugin.toCache s r loc).2 = s := by
      unfold ApPlugin.toCache
      rw [if_pos (by omega)]
    rw [unchanged] at filled
    exact .inl filled

theorem filled_reportLocation {loc : SkyLocation} {now : ℤ}
    (filled : (reportLocation s r loc now).sctx.filled i = some cl) :
    s.filled i = some cl ∨ (reportLocation s r loc now).errno = .none ∧
      ∃ old : SkyCacheline, cl = old.store r (reportLocation s r loc now).loc := by
  unfold reportLocation at filled ⊢
  cases status : loc.locationStatus with
  | success =>
    rw [status] at filled
    dsimp only at filled ⊢
    let stored : SkyLocation := { loc with time := now, locationStatus := .success }
    have located : stored.locationStatus = .success := rfl
    have added : ∀ cl,
        (skyPluginAddToCache s.plugins { s with backoff := .none } r stored).2.filled i = some cl →
        s.filled i = some cl ∨ ∃ old : SkyCacheline, cl = old.store r stored := by
      apply skyPluginAddToCache_induction
        (fun s' => ∀ cl, s'.filled i = some cl → s.filled i = some cl ∨ ∃ old : SkyCacheline,
          cl = old.store r stored)
      · intro s' kept cl filled
        exact (filled_toCache located filled).elim (kept cl) .inr
      · exact fun cl filled => .inl filled
    rcases added cl filled with old | new
    · exact .inl old
    · exact .inr ⟨rfl, new⟩
  | authError =>
    rw [status] at filled
    cases auth : r.authState <;> rw [auth] at filled <;> exact .inl filled
  | _ =>
    rw [status] at filled
    exact .inl filled

/-- A line that is filled after a response was filled before, or the response locates its device
and the line holds what it reports. -/
theorem filled_skyDecodeResponse {bits : ℕ} {loc : SkyLocation} {resp : Response} {now later : ℤ}
    (filled : (skyDecodeResponse bits s r loc resp now later).sctx.filled i = some cl) :
    s.filled i = some cl ∨
      let d := skyDecodeResponse bits s r loc resp now later
      d.errno = .none ∧ ∃ old : SkyCacheline, cl = old.store d.rctx d.loc := by
  have outcome := skyDecodeResponse_outcome bits s r loc resp now later
  generalize skyDecodeResponse bits s r loc resp now later = decoded at filled outcome ⊢
  cases outcome with
  | rejected => exact .inl filled
  | undecoded => exact .inl filled
  | decoded s' s'' r' loc status rs cacheHits valid ctx same auth =>
    have kept : s''.cacheline = s'.cacheline := by cases auth <;> rfl
    rcases filled_reportLocation filled with old | ⟨answered, before, new⟩
    · left
      rw [SkySctx.filled] at old ⊢
      dsimp only at old
      rwa [kept, same.cacheline] at old
    · refine .inr ⟨answered, before, ?_⟩
      rw [reportLocation_rctx]
      exact new

variable {env : Env} {w : World}

variable (env) in
/-- The call decodes a response that locates its device, and `cl` is the line that stores
what it reports. -/
def World.Stores (w : World) (call : Call) (cl : SkyCacheline) : Prop :=
  ∃ id resp loc now later, call = .onCtx id (.decodeResponse resp loc now later) ∧ ∃ r ∈ w.ctx id,
    let d := skyDecodeResponse env.cipherBits w.sctx r loc resp now later
    d.errno = .none ∧ ∃ old : SkyCacheline, cl = old.store d.rctx d.loc

/-- A line that is filled after a call was filled before, or is stored by the call. -/
theorem World.step_filled {call : Call} (named : call.NamesPartner)
    (filled : (w.step env call).sctx.filled i = some cl) :
    w.sctx.SameCredentials (w.step env call).sctx ∧
      (w.sctx.filled i = some cl ∨ w.Stores env call cl) := by
  cases call with
  | openSession args =>
    rcases skyOpen_carried_or_renewed w.sctx named with carried | renewed
    · exact ⟨carried.sameCredentials, .inl (FillsNone.of_cacheline carried.cacheline i cl filled)⟩
    · obtain ⟨line, time⟩ := SkySctx.filled_eq_some_iff.1 filled
      exact absurd (renewed.cacheline cl (List.mem_of_getElem? line)) time
  | close =>
    have same : (skyClose w.sctx).2.cacheline = w.sctx.cacheline := by
      unfold skyClose
      split_ifs <;> rfl
    exact ⟨(World.step_token_of_not_open .close (by simp)).1,
      .inl (FillsNone.of_cacheline same i cl filled)⟩
  | newRequest id rbufsize ulAppData now =>
    have fills : FillsNone w.sctx (skyNewRequest rbufsize w.sctx ulAppData now).sctx := by
      unfold skyNewRequest
      split_ifs
      · exact .refl _
      · exact .refl _
      · exact .refl _
      · apply FillsNone.of_lines (SkyCacheline.renew_empties w.sctx.config (startTime now))
        intro i cl' line
        rw [List.getElem?_map, Option.map_eq_some_iff] at line
        obtain ⟨cl, old, rfl⟩ := line
        exact ⟨cl, old, .inr rfl⟩
    rw [World.step_newRequest_sctx] at filled
    exact ⟨(World.step_token_of_not_open (.newRequest id rbufsize ulAppData now) (by simp)).1,
      .inl (fills i cl filled)⟩
  | onCtx id call =>
    refine ⟨(World.step_token_of_not_open (.onCtx id call) (by simp)).1, ?_⟩
    cases member : w.ctx id with
    | none =>
      rw [World.step_onCtx_none call member] at filled
      exact .inl filled
    | some r =>
      rw [World.step_onCtx_some call member] at filled
      by_cases decode : ∃ resp loc now later, call = .decodeResponse resp loc now later
      · obtain ⟨resp, loc, now, later, rfl⟩ := decode
        rcases filled_skyDecodeResponse filled with old | stored
        · exact .inl old
        · exact .inr ⟨id, resp, loc, now, later, rfl, r, member, stored⟩
      · have fills := CtxCall.apply_fillsNone env w.sctx r call fun resp loc now later eq =>
          decode ⟨resp, loc, now, later, eq⟩
        exact .inl (fills i cl filled)

/-- The cacheline has held, under the same credentials, what a response of the run reported. The run
has line indexes of 16 bits. -/
structure LineOrigin (env : Env) (start : World) (calls : List Call) (i : ℕ) (cl : SkyCacheline)
    (before : List Call) (call : Call) (after : List Call) : Prop where
  split : calls = before ++ call :: after
  stores : (start.run16 env before).Stores env call cl
  since : Along (World.step16 env) (fun w _ => w.sctx.filled i = some cl)
    ((start.run16 env before).step16 env call) after
  credentials : (start.run16 env before).sctx.SameCredentials (start.run16 env calls).sctx

theorem start_filled (cacheSize i : ℕ) : (World.start cacheSize).sctx.filled i = none := by
  cases filled : (World.start cacheSize).sctx.filled i with
  | none => rfl
  | some cl =>
    obtain ⟨line, time⟩ := SkySctx.filled_eq_some_iff.1 filled
    exact absurd (by rw [List.eq_of_mem_replicate (List.mem_of_getElem? line)]; rfl) time

/-- Every filled line has its origin in the run. -/
theorem line_origin (env : Env) {cacheSize : ℕ} (small : cacheSize ≤ 2 ^ 15) {calls : List Call}
    (named : ∀ call ∈ calls, call.NamesPartner)
    (filled : ((World.start cacheSize).run16 env calls).sctx.filled i = some cl) :
    ∃ before call after, LineOrigin env (World.start cacheSize) calls i cl before call after := by
  have start := World.start_whole cacheSize
  have same (calls : List Call) :
      (World.start cacheSize).run16 env calls = (World.start cacheSize).run env calls :=
    World.run16_eq env start small calls
  rw [same] at filled
  have fresh : ¬ (World.start cacheSize).sctx.filled i = some cl := by
    rw [start_filled]
    simp
  obtain ⟨before, call, after, split, missing, made, since⟩ :=
    @exists_origin _ _ (World.step env) _ calls (fun w => w.sctx.filled i = some cl) fresh filled
  have names : ∀ c ∈ before ++ call :: after, c.NamesPartner := split ▸ named
  have whole := World.run_whole env start before
  obtain ⟨first, old | stores⟩ := World.step_filled (names call (by simp)) made
  · exact absurd old missing
  · refine ⟨before, call, after, split, ?_, ?_, ?_⟩
    · rw [same]
      exact stores
    · rw [same, whole.step16_eq small, World.along16_iff env _ (whole.step call) small]
      exact (along_and.1 since).1
    · have later := @run_related _ _ (World.step env) _ _ after
        (fun w w' => w.sctx.SameCredentials w'.sctx) (fun w => .refl w.sctx) (fun _ _ _ => .trans)
        (fun _ _ both => (World.step_filled both.2 both.1.2).1)
        (along_and.2 ⟨since, along_of_forall fun c member => names c (by simp [member])⟩)
      rw [same, same, World.run, World.run, split, run_append, run_cons]
      exact first.trans later

section Hits

variable {distance : Distance} {loc : SkyLocation}

theorem offers_eq (distance : Distance) (s : SkySctx) (r : SkyRctx) : offers distance s r =
    s.lines.map fun cl => if cl.Eligible distance s r then some (lineScore s r cl) else none := by
  unfold offers lineScore
  split_ifs <;> rfl

theorem searchCache_hit (plugins : s.plugins = [] ∨ s.plugins = skyRegisterPlugins)
    (fresh : r.hit = false) (hit : (searchCache distance s r).2.isCacheHit = true) :
    ∃ (k : ℕ) (value : ℚ) (threshold : ℤ),
      (offers distance s r)[k]? = some (some (value, threshold)) ∧
      0 < value ∧ Passes value threshold ∧ (searchCache distance s r).2.getFrom = k := by
  have missed {s' : SkySctx} {r' : SkyRctx} (found : searchCache distance s r = (s', r'))
      (none : r'.isCacheHit = false) : False := by
    rw [found, none] at hit
    cases hit
  by_cases skipped : s.numCachelines < 1 ∨ (r.header.time.toNat : ℤ) - TIMESTAMP_2019_03_01 < 0
  · exact (missed (if_pos skipped) (by simp [SkyRctx.isCacheHit])).elim
  · obtain ⟨filled, recent⟩ := not_or.1 skipped
    have recent : TIMESTAMP_2019_03_01 ≤ (r.header.time.toNat : ℤ) := by omega
    rcases plugins with none | registered
    · refine (missed (searchCache_eq distance recent filled) ?_).elim
      rw [none]
      simp [skyPluginMatchCache, SkyRctx.isCacheHit]
    · unfold offers
      by_cases aps : r.numAp ≠ 0
      · rw [if_pos aps]
        rcases searchCache_aps_cases distance registered recent filled aps with
          ⟨saveTo, ⟨k, value, passes, pos, max, found⟩ | ⟨fails, found⟩⟩
        · exact ⟨k, value, _, max.offered, pos, passes, by rw [found]⟩
        · exact (missed found (by simp [SkyRctx.isCacheHit, fresh])).elim
      · rw [if_neg aps]
        rw [not_not] at aps
        by_cases cells : numCells r.numBeacons r.numAp ≠ 0
        · rcases searchCache_cells_cases distance registered recent filled aps cells with
            ⟨s', saveTo, getFrom, ⟨k, value, passes, pos, max, found⟩ | ⟨fails, found⟩⟩
          · exact ⟨k, value, _, max.offered, pos, passes, by rw [found]⟩
          · exact (missed found (by simp [SkyRctx.isCacheHit])).elim
        · have unanswered : CellPlugin.cacheMatch distance (s.expire r) r =
              (.error, (s.expire r).expire r, r) := if_pos (not_not.1 cells)
          refine (missed (searchCache_eq distance recent filled) ?_).elim
          rw [registered, skyPluginMatchCache_noAps distance s aps, unanswered]
          simp [SkyRctx.isCacheHit]

theorem SameSession.line_loc (same : SameSession s s') {k : ℕ} (line : s.cacheline[k]? = some cl) :
    (s'.line k).loc = cl.loc := by
  have untimed : (s'.cacheline.map SkyCacheline.untimed)[k]? = some cl.untimed := by
    rw [same.lines, List.getElem?_map, line, Option.map_some]
  rw [List.getElem?_map, Option.map_eq_some_iff] at untimed
  obtain ⟨cl', line', eq⟩ := untimed
  unfold SkySctx.line
  rw [if_pos (Int.natCast_nonneg k), Int.toNat_natCast, List.getD_eq_getElem?_getD, line',
    Option.getD_some]
  exact (congrArg SkyCacheline.loc eq :)

/-- A search reports cacheline `i`, which is not too old and good enough. -/
structure HitFrom (distance : Distance) (s : SkySctx) (r : SkyRctx) (loc : SkyLocation) (i : ℕ)
    (cl : SkyCacheline) : Prop where
  filled : s.filled i = some cl
  eligible : cl.Eligible distance s r
  positive : 0 < (lineScore s r cl).1
  passes : Passes (lineScore s r cl).1 (lineScore s r cl).2
  reported : loc = { cl.loc with dlAppData := false, dlAppDataLen := 0 }

theorem skySearchCache_hitFrom (plugins : s.plugins = [] ∨ s.plugins = skyRegisterPlugins)
    (fresh : r.hit = false) (hit : (skySearchCache distance s r loc).cacheHit = some true) :
    ∃ k cl, HitFrom distance s (validateRequestCtx r).2
      (skySearchCache distance s r loc).loc k cl := by
  have valid : (validateRequestCtx r).1 = true := by
    by_contra invalid
    rw [skySearchCache, if_pos (by simpa using invalid)] at hit
    cases hit
  have none : (validateRequestCtx r).2.hit = false := by
    obtain ⟨bs, rest⟩ := validateRequestCtx_rest r
    rw [rest]
    exact fresh
  rw [skySearchCache_cacheHit valid, Option.some.injEq] at hit
  obtain ⟨k, value, threshold, offered, pos, passes, getFrom⟩ := searchCache_hit plugins none hit
  rw [offers_eq, List.getElem?_map, Option.map_eq_some_iff] at offered
  obtain ⟨cl, line, offered⟩ := offered
  split_ifs at offered with eligible
  rw [Option.some.injEq] at offered
  have slot : s.cacheline[k]? = some cl := by
    unfold SkySctx.lines at line
    rw [List.getElem?_take] at line
    split_ifs at line
    exact line
  refine ⟨k, cl, SkySctx.filled_eq_some_iff.2 ⟨slot, eligible.filled⟩, eligible, ?_, ?_, ?_⟩
  · rw [offered]
    exact pos
  · rw [offered]
    exact passes
  · have same := (same_searchCache distance s (validateRequestCtx r).2).1
    rw [skySearchCache_valid valid]
    dsimp only
    rw [if_pos hit, getFrom, same.line_loc slot]

end Hits

def SkySctx.PluginsKnown (s : SkySctx) : Prop := s.plugins = [] ∨ s.plugins = skyRegisterPlugins

theorem pluginsKnown_of_eq (same : s'.plugins = s.plugins) (known : s.PluginsKnown) :
    s'.PluginsKnown := by
  unfold SkySctx.PluginsKnown
  rw [same]
  exact known

theorem pluginsKnown_skyOpen (known : s.PluginsKnown) (args : OpenArgs) :
    (skyOpen s args).2.PluginsKnown := by
  rcases skyOpen_cases s args with ⟨magic, -, eq⟩ | ⟨base, start, eq⟩
  · rw [eq]
    exact known
  · have onBase : base.PluginsKnown := by
      rcases start with ⟨rfl, -⟩ | ⟨now, rfl⟩
      · exact known
      · exact .inl rfl
    rcases eq with eq | ⟨deviceId, aesKey, eq⟩
    · rw [eq]
      exact onBase
    · right
      rw [eq]
      unfold installArgs
      split_ifs <;> rfl

theorem skyDecodeResponse_plugins (bits : ℕ) (s : SkySctx) (r : SkyRctx) (loc : SkyLocation)
    (resp : Response) (now later : ℤ) :
    (skyDecodeResponse bits s r loc resp now later).sctx.plugins = s.plugins := by
  have outcome := skyDecodeResponse_outcome bits s r loc resp now later
  generalize skyDecodeResponse bits s r loc resp now later = decoded at outcome ⊢
  cases outcome with
  | rejected => rfl
  | undecoded => rfl
  | decoded s' s'' r' loc status rs cacheHits valid ctx same auth =>
    have kept : s''.plugins = s'.plugins := by cases auth <;> rfl
    have reported (u : SkySctx) : (reportLocation u r' loc later).sctx.plugins = u.plugins := by
      unfold reportLocation
      cases loc.locationStatus with
      | success => exact (registered_addToCache u.plugins _ r' _).2
      | authError => cases r'.authState <;> rfl
      | _ => rfl
    rw [reported]
    exact kept.trans same.session.plugins

theorem World.step_pluginsKnown (call : Call) (known : w.sctx.PluginsKnown) :
    (w.step env call).sctx.PluginsKnown := by
  cases call with
  | openSession args => exact pluginsKnown_skyOpen known args
  | close =>
    have same : (skyClose w.sctx).2.plugins = w.sctx.plugins := by
      unfold skyClose
      split_ifs <;> rfl
    exact pluginsKnown_of_eq same known
  | newRequest id rbufsize ulAppData now =>
    rw [World.step_newRequest_sctx]
    exact pluginsKnown_of_eq (skyNewRequest_sctx rbufsize w.sctx ulAppData now).plugins known
  | onCtx id call =>
    cases member : w.ctx id with
    | none =>
      rw [World.step_onCtx_none call member]
      exact known
    | some r =>
      rw [World.step_onCtx_some call member]
      by_cases decode : ∃ resp loc now later, call = .decodeResponse resp loc now later
      · obtain ⟨resp, loc, now, later, rfl⟩ := decode
        exact pluginsKnown_of_eq
          (skyDecodeResponse_plugins env.cipherBits w.sctx r loc resp now later) known
      · have same := CtxCall.apply_same env w.sctx r call fun resp loc now later eq =>
          decode ⟨resp, loc, now, later, eq⟩
        exact pluginsKnown_of_eq same.1.plugins known

theorem World.run_pluginsKnown (env : Env) (cacheSize : ℕ) (calls : List Call) :
    ((World.start cacheSize).run env calls).sctx.PluginsKnown :=
  @run_invariant _ _ (World.step env) (fun _ _ => True) (fun w => w.sctx.PluginsKnown) _ calls
    (fun _ call known _ => World.step_pluginsKnown call known) (.inl rfl) along_true

/-- **Origin of a cached location**: in every run that opens the session for a partner every
time, with any number of contexts, a search on a context without a hit reports the location of
a filled cacheline that is no older than the configured age; and the line has held, since a
response of the run located its device, what that response reported, for the same partner and
key. The indexes are of 16 bits, and there are as many lines as they can tell apart. -/
theorem hit_origin (env : Env) (cacheSize : ℕ) (small : cacheSize ≤ 2 ^ 15) (calls : List Call)
    (named : ∀ call ∈ calls, call.NamesPartner) (r : SkyRctx) (fields : r.int16Indexes = r)
    (loc : SkyLocation) (fresh : r.hit = false)
    (hit : (skySearchCache16 env.distance ((World.start cacheSize).run16 env calls).sctx r
      loc).cacheHit = some true) :
    ∃ i cl, HitFrom env.distance ((World.start cacheSize).run16 env calls).sctx
        (validateRequestCtx r).2
        (skySearchCache16 env.distance ((World.start cacheSize).run16 env calls).sctx r loc).loc i
          cl ∧
      ∃ before call after, LineOrigin env (World.start cacheSize) calls i cl before call after := by
  have start := World.start_whole cacheSize
  have same := World.run16_eq env start small calls
  have few := (World.run_whole env start calls).few
  have known := World.run_pluginsKnown env cacheSize calls
  rw [← same] at few known
  rw [skySearchCache16_eq _ (by omega) fields] at hit ⊢
  obtain ⟨i, cl, found⟩ := skySearchCache_hitFrom known fresh hit
  exact ⟨i, cl, found, line_origin env small named found.filled⟩

/-- The second request for the same AP. -/
theorem revisitCalls_hit_origin :
    let w := (World.start 1).run16 bareEnv revisitCalls
    ∃ r, w.ctx 0 = some r ∧
      ∃ i cl, HitFrom bareEnv.distance w.sctx (validateRequestCtx r).2
          (skySearchCache16 bareEnv.distance w.sctx r SkyLocation.zero).loc i cl ∧
        ∃ before call after,
          LineOrigin bareEnv (World.start 1) revisitCalls i cl before call after := by
  intro w
  have facts : (w.ctx 0).map (fun r =>
      (decide (int16 r.getFrom = r.getFrom ∧ int16 r.saveTo = r.saveTo), r.hit,
        (skySearchCache16 bareEnv.distance w.sctx r SkyLocation.zero).cacheHit)) =
      some (true, false, some true) := by decide +kernel
  obtain ⟨r, member, eq⟩ := Option.map_eq_some_iff.1 facts
  simp only [Prod.mk.injEq, decide_eq_true_eq] at eq
  obtain ⟨fields, fresh, hit⟩ := eq
  exact ⟨r, member, hit_origin bareEnv 1 (by decide) revisitCalls (by decide) r
    (SkyRctx.int16Indexes_eq_iff.2 fields) SkyLocation.zero fresh hit⟩

end EmbeddedClient
