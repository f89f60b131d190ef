import EmbeddedClient.Beacons.Listed
import EmbeddedClient.Cache.Expiry
import EmbeddedClient.Session.Indexes
import EmbeddedClient.Session.Position

/-!
# Empty lines first

While a line is empty, the response to a request goes to an empty line: each search of the request
chooses one, and without a choice `find_oldest` finds one. A choice is not made anew by a search
without beacons, and `find_oldest` takes the first line for a request whose time is zero.
-/

namespace EmbeddedClient

open Runs

variable {s s' : SkySctx} {r r' : SkyRctx} {n : ℕ}

/-- The response is stored in line `place` only, which was empty if some line was. -/
structure StoredAt (s : SkySctx) (d : DecodeResult) (place : ℕ) : Prop where
  written : ∃ cl, d.sctx.cacheline[place]? = some cl ∧ cl.Carries d
  free : (∃ k, EmptyAt s.cacheline k) → EmptyAt s.cacheline place
  others : ∀ j, j ≠ place → d.sctx.cacheline[j]? = s.cacheline[j]?

/-- No line that was in use is overwritten while another one is empty. -/
def StoresFree (s : SkySctx) (d : DecodeResult) : Prop := ∃ place, StoredAt s d place

def SkySctx.aged (s : SkySctx) (r : SkyRctx) : List SkyCacheline :=
  s.cacheline.map (SkyCacheline.expire s.config.ageLimit r.header.time)

/-- A search empties a line, but chooses none, for the list is empty: the line chosen before is
one in use. -/
structure StaleSearch (s : SkySctx) (r : SkyRctx) : Prop where
  noAps : r.numAp = 0
  noCells : numCells r.numBeacons r.numAp = 0
  chosen : 0 ≤ r.saveTo
  inUse : ¬ EmptyAt (s.aged r) r.saveTo.toNat
  emptied : ∃ cl ∈ s.aged r, cl.time = CACHE_EMPTY

instance : Decidable (StaleSearch s r) :=
  decidable_of_iff (r.numAp = 0 ∧ numCells r.numBeacons r.numAp = 0 ∧ 0 ≤ r.saveTo ∧
      ¬ EmptyAt (s.aged r) r.saveTo.toNat ∧ ∃ cl ∈ s.aged r, cl.time = CACHE_EMPTY)
    ⟨fun ⟨noAps, noCells, chosen, inUse, emptied⟩ => ⟨noAps, noCells, chosen, inUse, emptied⟩,
      fun ⟨noAps, noCells, chosen, inUse, emptied⟩ => ⟨noAps, noCells, chosen, inUse, emptied⟩⟩

theorem skyPluginMatchCache_cacheline (distance : Distance) (searchable : s.Searchable)
    (r : SkyRctx) :
    (skyPluginMatchCache distance skyRegisterPlugins s r).2.1.cacheline = s.aged r := by
  have once : (s.expire r).cacheline = s.aged r := searchable.cacheline_expire r
  by_cases aps : r.numAp = 0
  · have twice := (searchable.expire_expire r).trans once
    rw [← CellPlugin.cacheMatch_sctx distance (s.expire r) r] at twice
    rw [skyPluginMatchCache_noAps distance s aps]
    split <;> exact twice
  · have answered := ApPlugin.cacheMatch_status distance s aps
    rw [skyPluginMatchCache_registered, answered]
    rw [← ApPlugin.cacheMatch_sctx distance s r] at once
    exact once

theorem skySearchCache_cacheline (distance : Distance) (searchable : s.Searchable) (r : SkyRctx)
    (loc : SkyLocation) :
    (skySearchCache distance s r loc).sctx.cacheline = s.cacheline ∨
      (skySearchCache distance s r loc).sctx.cacheline = s.aged r := by
  obtain ⟨bs, checked⟩ := validateRequestCtx_rest r
  have matched := skyPluginMatchCache_cacheline distance searchable (validateRequestCtx r).2
  have same : s.aged (validateRequestCtx r).2 = s.aged r := by rw [checked]; rfl
  rw [same, ← searchable.plugins] at matched
  have searched : (searchCache distance s (validateRequestCtx r).2).1.cacheline = s.cacheline ∨
      (searchCache distance s (validateRequestCtx r).2).1.cacheline = s.aged r := by
    unfold searchCache
    dsimp only
    split_ifs
    · exact .inl rfl
    · right
      split <;> exact matched
  unfold skySearchCache
  dsimp only
  split_ifs
  · exact .inl rfl
  · exact searched
  · exact searched

/-- While a line is empty after a search that is not stale, it has chosen an empty one. -/
theorem skySearchCache_choice (distance : Distance) (searchable : s.Searchable)
    (free : ∀ k : ℕ, r.saveTo = k → (∃ i, EmptyAt s.cacheline i) → EmptyAt s.cacheline k)
    (anew : ¬ StaleSearch s r) (loc : SkyLocation) (k : ℕ)
    (chosen : (skySearchCache distance s r loc).rctx.saveTo = k)
    (empty : ∃ i, EmptyAt (skySearchCache distance s r loc).sctx.cacheline i) :
    EmptyAt (skySearchCache distance s r loc).sctx.cacheline k := by
  by_cases looks : (validateRequestCtx r).1 = true ∧
    TIMESTAMP_2019_03_01 ≤ (r.header.time.toNat : ℤ)
  · have emptied : ∃ i, EmptyAt (s.aged r) i := by
      obtain ⟨i, empty⟩ := empty
      rcases skySearchCache_cacheline distance searchable r loc with same | aged
      · rw [same] at empty
        exact ⟨i, empty.expire⟩
      · rw [aged] at empty
        exact ⟨i, empty⟩
    obtain ⟨i, aged⟩ := emptied
    have searched := skySearchCache_searched distance searchable aged looks.1 looks.2 loc
    by_cases aps : r.numAp = 0
    · by_cases cells : numCells r.numBeacons r.numAp = 0
      · rw [searched.gnss aps cells] at chosen
        rw [searched.cacheline]
        by_contra inUse
        refine anew ⟨aps, cells, by omega, ?_, exists_emptyAt_iff.1 ⟨i, aged⟩⟩
        rwa [chosen, Int.toNat_natCast]
      · obtain ⟨m, first, put⟩ := searched.cells aps cells
        have same : m = k := by omega
        rw [← same]
        exact first.empty
    · obtain ⟨m, last, put⟩ := searched.aps aps
      have same : m = k := by omega
      rw [← same]
      exact last.empty
  · obtain ⟨lines, saveTo⟩ := skySearchCache_passed distance s loc looks
    rw [lines] at empty ⊢
    rw [saveTo] at chosen
    exact free k chosen empty

structure KeepsChoice (s : SkySctx) (r : SkyRctx) (s' : SkySctx) (r' : SkyRctx) : Prop where
  cacheline : s'.cacheline = s.cacheline
  saveTo : r'.saveTo = r.saveTo
  header : r'.header = r.header

theorem OnlyList.keepsChoice (only : OnlyList r r') (lines : s'.cacheline = s.cacheline) :
    KeepsChoice s r s' r' := by
  refine ⟨lines, ?_, ?_⟩
  · rw [only.rest]
  · rw [only.rest]

theorem keepsChoice_skyAddGnss (s : SkySctx) (r : SkyRctx) (args : GnssArgs) :
    KeepsChoice s r s (skyAddGnss r args).2 := by
  unfold skyAddGnss
  cases gnssAge r.header.time args.timestamp with
  | none => exact ⟨rfl, rfl, rfl⟩
  | some age =>
    obtain ⟨bs, checked⟩ := validateRequestCtx_rest { r with gnss := { r.gnss with age := age } }
    dsimp only
    rw [checked]
    split_ifs <;> exact ⟨rfl, rfl, rfl⟩

theorem keepsChoice_skyIgnoreCacheHit (s : SkySctx) (r : SkyRctx) :
    KeepsChoice s r s (skyIgnoreCacheHit r).2 := by
  obtain ⟨bs, checked⟩ := validateRequestCtx_rest r
  unfold skyIgnoreCacheHit
  dsimp only
  rw [checked]
  split_ifs <;> exact ⟨rfl, rfl, rfl⟩

theorem keepsChoice_skySizeofRequestBuf (codec : Codec) (s : SkySctx) (r : SkyRctx)
    (random : List UInt8) :
    KeepsChoice s r (skySizeofRequestBuf codec s r random).sctx
      (skySizeofRequestBuf codec s r random).rctx := by
  have marked (r : SkyRctx) : (s.markConfigDue r).cacheline = s.cacheline := by
    unfold SkySctx.markConfigDue
    split_ifs <;> rfl
  have lines (r : SkyRctx) : (prepareRequest s r).1.cacheline = s.cacheline := by
    unfold prepareRequest
    dsimp only
    split_ifs <;> exact marked r
  have prepared (r : SkyRctx) : KeepsChoice s r (prepareRequest s r).1 (prepareRequest s r).2 := by
    rcases prepareRequest_cases s r with ⟨-, -, eq⟩ | ⟨-, -, eq⟩ | ⟨-, eq⟩
    · rw [eq]
      exact ⟨lines r, rfl, rfl⟩
    · rw [eq]
      exact ⟨lines r, rfl, rfl⟩
    · rw [eq]
      exact (sameScan_selectVap s r).onlyList.keepsChoice (lines r)
  have valid : KeepsChoice s r s (validateRequestCtx r).2 :=
    (onlyList_validateRequestCtx r).keepsChoice rfl
  have ready := prepared (validateRequestCtx r).2
  have both := KeepsChoice.mk ready.cacheline (ready.saveTo.trans valid.saveTo)
    (ready.header.trans valid.header)
  unfold skySizeofRequestBuf
  dsimp only
  split_ifs
  · exact valid
  · exact both
  · exact both

theorem keepsChoice_skyDecodeResponse {bits : ℕ} {loc : SkyLocation} {resp : Response}
    {now later : ℤ} (unlocated : (skyDecodeResponse bits s r loc resp now later).errno ≠ .none) :
    KeepsChoice s r (skyDecodeResponse bits s r loc resp now later).sctx
      (skyDecodeResponse bits s r loc resp now later).rctx := by
  have valid : KeepsChoice s r s (validateRequestCtx r).2 :=
    (onlyList_validateRequestCtx r).keepsChoice rfl
  have outcome := skyDecodeResponse_outcome bits s r loc resp now later
  generalize skyDecodeResponse bits s r loc resp now later = d at unlocated outcome ⊢
  cases outcome with
  | rejected errno loc turned => exact valid
  | undecoded loc valid' ctx => exact ⟨rfl, valid.saveTo, valid.header⟩
  | decoded s' s'' r' loc status rs cacheHits valid' ctx same auth =>
    have applied : KeepsChoice s' (validateRequestCtx r).2 s'' r' := by
      cases auth with
      | refused => exact ⟨rfl, rfl, rfl⟩
      | granted => exact ⟨rfl, rfl, rfl⟩
      | revoked => exact ⟨rfl, rfl, rfl⟩
      | disabled => exact ⟨rfl, rfl, rfl⟩
      | located =>
        have kept := (applyLocation_rctx s' (validateRequestCtx r).2 (.start status) rs).1
        exact ⟨rfl, kept.saveTo, kept.header⟩
    have reported :
        (reportLocation { s'' with cacheHits := cacheHits } r' loc later).sctx.cacheline =
        s''.cacheline := by
      unfold reportLocation at unlocated ⊢
      cases located : loc.locationStatus with
      | success =>
        rw [located] at unlocated
        exact absurd rfl unlocated
      | authError => cases r'.authState <;> rfl
      | _ => rfl
    refine ⟨?_, ?_, ?_⟩
    · rw [reported, applied.cacheline]
      exact same.cacheline
    · rw [reportLocation_rctx, applied.saveTo, valid.saveTo]
    · rw [reportLocation_rctx, applied.header, valid.header]

variable (env : Env)

def CtxCall.waits (s : SkySctx) (r : SkyRctx) : CtxCall → Prop
  | decodeResponse resp loc now later =>
    (skyDecodeResponse env.cipherBits s r loc resp now later).errno ≠ .none
  | _ => True

def CtxCall.choosesAnew (s : SkySctx) (r : SkyRctx) : CtxCall → Prop
  | searchCache _ => ¬ StaleSearch s r
  | _ => True

theorem CtxCall.apply_keepsChoice (s : SkySctx) (r : SkyRctx) {call : CtxCall}
    (waits : call.waits env s r) (other : ∀ loc, call ≠ .searchCache loc) :
    KeepsChoice s r (call.apply env s r).1 (call.apply env s r).2 := by
  cases call with
  | addBeacon call timestamp =>
    exact (onlyList_addBeacon s r .none call.beacon timestamp).keepsChoice rfl
  | addGnss args => exact keepsChoice_skyAddGnss s r args
  | searchCache loc => exact absurd rfl (other loc)
  | ignoreCacheHit => exact keepsChoice_skyIgnoreCacheHit s r
  | sizeofRequestBuf random => exact keepsChoice_skySizeofRequestBuf env.codec s r random
  | encodeRequest buf random =>
    simp only [CtxCall.apply, skyEncodeRequest_rctx]
    exact (onlyList_validateRequestCtx r).keepsChoice rfl
  | decodeResponse resp loc now later => exact keepsChoice_skyDecodeResponse waits
  | setOption name value =>
    refine ⟨?_, rfl, rfl⟩
    have set (rejected : Bool) (c : UInt32 → SkyConfig) :
        (setConfig s value rejected c).2.cacheline = s.cacheline := by
      unfold setConfig
      split_ifs <;> rfl
    cases name with
    | cacheMatchThreshold => rfl
    | loggingLevel => rfl
    | other => rfl
    | _ => exact set ..

/-- While a line is empty, the line to which a request is saved is empty, be it chosen already or
not. -/
structure Placed (n : ℕ) (s : SkySctx) (r : SkyRctx) : Prop where
  searchable : s.Searchable
  size : s.cacheSize = n
  within : r.WithinBuffers n
  free : ∀ k : ℕ, r.saveTo = k → (∃ i, EmptyAt s.cacheline i) → EmptyAt s.cacheline k
  timed : n = 1 ∨ r.header.time ≠ 0 ∨ ∀ i < n, EmptyAt s.cacheline i

namespace Placed

theorem apply (placed : Placed n s r) {call : CtxCall} (waits : call.waits env s r)
    (anew : call.choosesAnew s r) : Placed n (call.apply env s r).1 (call.apply env s r).2 := by
  have whole : s.numCachelines = n := by
    rw [placed.searchable.whole, ← placed.size]
    rfl
  have setup := CtxCall.apply_sameSetup env s r call
  have size := setup.cacheSize.trans placed.size
  have within := CtxCall.apply_withinBuffers env placed.within whole call
  have searchable : (call.apply env s r).1.Searchable := by
    constructor
    · rw [setup.rest]
      exact placed.searchable.plugins
    · rw [setup.numCachelines, whole, ← size]
      rfl
  by_cases search : ∃ loc, call = .searchCache loc
  · obtain ⟨loc, rfl⟩ := search
    have header := (same_skySearchCache env.distance s r loc).2.header
    refine ⟨searchable, size, within, ?_, ?_⟩
    · exact skySearchCache_choice env.distance placed.searchable placed.free anew loc
    · rcases placed.timed with one | timed | empty
      · exact .inl one
      · right; left
        exact fun none => timed ((congrArg SkyHeader.time header).symm.trans none)
      · right; right
        intro i inside
        show EmptyAt (skySearchCache env.distance s r loc).sctx.cacheline i
        rcases skySearchCache_cacheline env.distance placed.searchable r loc with same | aged
        · rw [same]
          exact empty i inside
        · rw [aged]
          exact (empty i inside).expire
  · have kept := CtxCall.apply_keepsChoice env s r waits fun loc eq => search ⟨loc, eq⟩
    refine ⟨searchable, size, within, ?_, ?_⟩
    · rw [kept.cacheline, kept.saveTo]
      exact placed.free
    · rw [kept.cacheline, kept.header]
      exact placed.timed

/-- A new request has chosen no line. Without a trusted clock it has emptied all of them. -/
theorem newRequest {rbufsize : UInt32} {ulAppData : List UInt8} {now : ℤ}
    (plugins : s.openFlag = true → s.plugins = skyRegisterPlugins) (size : s.cacheSize = n)
    (lines : s.numCachelines = n ∨ s.header.magic = 0 ∧ s.openFlag = false)
    (clock : n = 1 ∨ startTime now = TIME_UNAVAILABLE ∨ timeWord now ≠ 0)
    (started : (skyNewRequest rbufsize s ulAppData now).errno = none) :
    Placed n (skyNewRequest rbufsize s ulAppData now).sctx (SkyRctx.initialized s now) := by
  have opened := ((skyNewRequest_started_iff rbufsize s ulAppData now).1 started).2.1
  have same := skyNewRequest_sctx rbufsize s ulAppData now
  have renewed := skyNewRequest_cacheline started
  have size' := same.cacheSize.trans size
  have whole := lines_of_started lines started
  refine ⟨⟨same.plugins.trans (plugins opened), ?_⟩, size', .initialized s now, ?_, ?_⟩
  · rw [same.numCachelines, whole, ← size']
    rfl
  · intro k chosen
    have unset : (SkyRctx.initialized s now).saveTo = -1 := rfl
    omega
  · rcases clock with one | untimed | timed
    · exact .inl one
    · right; right
      intro i inside
      rw [renewed, untimed]
      rw [← size] at inside
      refine ⟨s.cacheline[i].renew s.config TIME_UNAVAILABLE, ?_, ?_⟩
      · rw [List.getElem?_map, List.getElem?_eq_getElem inside, Option.map_some]
      · unfold SkyCacheline.renew
        dsimp only
        split_ifs <;> simp_all
    · exact .inr (.inl timed)

/-- The response to a request is stored in an empty line, if one is empty. -/
theorem storesFree (placed : Placed n s r) (some : 1 ≤ n) {bits : ℕ} {loc : SkyLocation}
    {resp : Response} {now later : ℤ} (recent : TIMESTAMP_2019_03_01 < later)
    (located : (skyDecodeResponse bits s r loc resp now later).errno = .none) :
    StoresFree s (skyDecodeResponse bits s r loc resp now later) := by
  have length : s.cacheline.length = n := placed.size
  have lines : s.cacheline ≠ [] := List.ne_nil_of_length_pos (by omega)
  have below : r.saveTo < s.cacheline.length := by
    rw [length]
    exact placed.within.saveTo.2
  have place := storePlace_lt lines below
  obtain ⟨records, -⟩ := skyDecodeResponse_records placed.searchable.plugins recent located
  refine ⟨s.storePlace r, records.line place, ?_, fun j differ => records.other differ.symm⟩
  rintro ⟨i, empty⟩
  have inside : i < n := by
    obtain ⟨cl, line, -⟩ := empty
    rw [← length]
    exact (List.getElem?_eq_some_iff.1 line).1
  by_cases unset : r.saveTo < 0
  · have least := placed.within.saveTo.1
    by_cases one : n = 1
    · have same : s.storePlace r = i := by omega
      rwa [same]
    · rcases placed.timed.resolve_left one with timed | all
      · exact storePlace_empty timed (fun one' => one (placed.size.symm.trans one')) empty
          (.inl (by omega))
      · exact all _ (by omega)
  · have chosen : r.saveTo = (r.saveTo.toNat : ℤ) := by omega
    have same : s.storePlace r = r.saveTo.toNat := if_neg unset
    rw [same]
    exact placed.free r.saveTo.toNat chosen ⟨i, empty⟩

end Placed

/-- The call is about request `id`, and is not the response that locates it. -/
def World.waits (id : ℕ) (w : World) : Call → Prop
  | .onCtx i call => i = id ∧ ∀ r ∈ w.ctx id, call.waits env w.sctx r
  | _ => False

/-- The call is not a stale search. -/
def World.choosesAnew (id : ℕ) (w : World) : Call → Prop
  | .onCtx _ call => ∀ r ∈ w.ctx id, call.choosesAnew w.sctx r
  | _ => True

/-- A request of the world whose choice is sound. -/
structure World.Placed (n id : ℕ) (w : World) : Prop where
  whole : w.Whole n
  request : ∃ r, w.ctx id = some r ∧ EmbeddedClient.Placed n w.sctx r

variable {env}

theorem World.Placed.step {id : ℕ} {w : World} (placed : w.Placed n id) {call : Call}
    (waits : w.waits env id call) (anew : w.choosesAnew id call) :
    (w.step env call).Placed n id := by
  obtain ⟨r, member, sound⟩ := placed.request
  cases call with
  | onCtx i call =>
    obtain ⟨rfl, waits⟩ := waits
    refine ⟨placed.whole.step _, (call.apply env w.sctx r).2, ?_, ?_⟩
    · rw [World.step_onCtx_some call member]
      exact Function.update_self ..
    · rw [World.step_onCtx_some call member]
      exact sound.apply env (waits r member) (anew r member)
  | _ => exact waits.elim

theorem World.newRequest_placed {id : ℕ} {w : World} (whole : w.Whole n) (listed : w.Listed)
    {rbufsize : UInt32} {ulAppData : List UInt8} {now : ℤ}
    (clock : n = 1 ∨ startTime now = TIME_UNAVAILABLE ∨ timeWord now ≠ 0)
    (started : (skyNewRequest rbufsize w.sctx ulAppData now).errno = none) :
    (w.step env (.newRequest id rbufsize ulAppData now)).Placed n id := by
  have sound := Placed.newRequest listed.sctx.plugins whole.size whole.lines clock started
  have returned : (skyNewRequest rbufsize w.sctx ulAppData now).rctx =
      some (SkyRctx.initialized w.sctx now) := by
    unfold skyNewRequest at started ⊢
    split_ifs at started ⊢
    rfl
  have next : w.step env (.newRequest id rbufsize ulAppData now) =
      ⟨(skyNewRequest rbufsize w.sctx ulAppData now).sctx,
        Function.update w.ctx id (some (SkyRctx.initialized w.sctx now))⟩ := by
    unfold World.step
    dsimp only
    rw [if_pos (.inl started), returned]
  refine ⟨whole.step _, SkyRctx.initialized w.sctx now, ?_, ?_⟩
  · rw [next]
    exact Function.update_self ..
  · rw [next]
    exact sound

variable (env)

/-- In every run with one request at a time, a response is stored in an empty line if one is empty,
and the other lines stay: for requests that have a time, and choose a line anew when one is
emptied, in a cache whose indexes fit into 16 bits. -/
theorem run_storesFree {cacheSize : ℕ} (filled : 1 ≤ cacheSize) (small : cacheSize ≤ 2 ^ 15)
    {before during : List Call} {id : ℕ} {rbufsize : UInt32} {ulAppData : List UInt8} {now : ℤ}
    (clock : cacheSize = 1 ∨ startTime now = TIME_UNAVAILABLE ∨ timeWord now ≠ 0)
    (started : (skyNewRequest rbufsize ((World.start cacheSize).run16 env before).sctx ulAppData
      now).errno = none)
    (waits : Along (World.step16 env) (World.waits env id)
      ((World.start cacheSize).run16 env (before ++ [.newRequest id rbufsize ulAppData now]))
      during)
    (anew : Along (World.step16 env) (World.choosesAnew id)
      ((World.start cacheSize).run16 env (before ++ [.newRequest id rbufsize ulAppData now]))
      during)
    {w : World} (reached : w = (World.start cacheSize).run16 env
      (before ++ [.newRequest id rbufsize ulAppData now] ++ during))
    {r : SkyRctx} (member : w.ctx id = some r) {resp : Response} {loc : SkyLocation}
    {read later : ℤ} (recent : TIMESTAMP_2019_03_01 < later)
    (located : (skyDecodeResponse env.cipherBits w.sctx r loc resp read later).errno = .none) :
    StoresFree w.sctx (skyDecodeResponse env.cipherBits w.sctx r loc resp read later) := by
  have start := World.start_whole cacheSize
  have appended (calls calls' : List Call) : (World.start cacheSize).run16 env (calls ++ calls') =
      run (World.step16 env) ((World.start cacheSize).run16 env calls) calls' :=
    List.foldl_append ..
  have first : ((World.start cacheSize).run16 env
      (before ++ [.newRequest id rbufsize ulAppData now])).Placed cacheSize id := by
    have whole := World.run_whole env start before
    have listed := World.run_listed env (World.start_listed cacheSize) before
    rw [← World.run16_eq env start small] at whole listed
    have next :
        (World.start cacheSize).run16 env (before ++ [.newRequest id rbufsize ulAppData now]) =
        ((World.start cacheSize).run16 env before).step env
          (.newRequest id rbufsize ulAppData now) := by
      rw [appended]
      rfl
    rw [next]
    exact World.newRequest_placed whole listed clock started
  have placed : w.Placed cacheSize id := by
    rw [reached, appended]
    apply run_invariant _ first (along_and.2 ⟨waits, anew⟩)
    intro w call placed meets
    rw [placed.whole.step16_eq small]
    exact placed.step meets.1 meets.2
  obtain ⟨r', member', sound⟩ := placed.request
  cases Option.some.inj (member.symm.trans member')
  exact sound.storesFree filled recent located

instance (s : SkySctx) (r : SkyRctx) : ∀ call : CtxCall, Decidable (call.waits env s r)
  | .decodeResponse resp loc now later =>
    inferInstanceAs
      (Decidable ((skyDecodeResponse env.cipherBits s r loc resp now later).errno ≠ .none))
  | .addBeacon .. | .addGnss _ | .searchCache _ | .ignoreCacheHit | .sizeofRequestBuf _
  | .encodeRequest .. | .setOption .. => isTrue trivial

instance (s : SkySctx) (r : SkyRctx) : ∀ call : CtxCall, Decidable (call.choosesAnew s r)
  | .searchCache _ => inferInstanceAs (Decidable (¬ StaleSearch s r))
  | .addBeacon .. | .addGnss _ | .ignoreCacheHit | .sizeofRequestBuf _ | .encodeRequest ..
  | .decodeResponse .. | .setOption .. => isTrue trivial

instance (id : ℕ) (w : World) : ∀ call : Call, Decidable (w.waits env id call)
  | .onCtx i call => inferInstanceAs (Decidable (i = id ∧ ∀ r ∈ w.ctx id, call.waits env w.sctx r))
  | .openSession _ | .close | .newRequest .. => isFalse fun no => no

instance (id : ℕ) (w : World) : ∀ call : Call, Decidable (w.choosesAnew id call)
  | .onCtx _ call => inferInstanceAs (Decidable (∀ r ∈ w.ctx id, call.choosesAnew w.sctx r))
  | .openSession _ | .close | .newRequest .. => isTrue trivial

def startAt (now : ℤ) : List Call := [.newRequest 0 sizeofSkyRctx [] now]

def addAt (now : ℤ) (last : UInt8) : Call := .onCtx 0 (.addBeacon (apCall last (-50)) now)

def searchCall : Call := .onCtx 0 (.searchCache SkyLocation.zero)

def locateAt (now : ℤ) : Call := .onCtx 0 (.decodeResponse .located SkyLocation.zero now now)

def twoLines (calls : List Call) : World := (World.start 2).run16 bareEnv calls

def answerOf (w : World) (r : SkyRctx) (now : ℤ) : DecodeResult :=
  skyDecodeResponse bareEnv.cipherBits w.sctx r SkyLocation.zero .located now now

def locatedCalls : List Call :=
  [.openSession bareOpen] ++ startAt 1600000000 ++ [addAt 1600000000 1, locateAt 1600000001]

def searchedCalls : List Call :=
  locatedCalls ++ startAt 1600000010 ++ [addAt 1600000010 50, searchCall]

/-- One line is in use, and the response goes to the other one. -/
theorem searchedCalls_storesFree : ∃ r, (twoLines searchedCalls).ctx 0 = some r ∧
    (twoLines searchedCalls).sctx.cacheline.map (fun cl => cl.time) = [1600000001, CACHE_EMPTY] ∧
    StoresFree (twoLines searchedCalls).sctx (answerOf (twoLines searchedCalls) r 1600000011) := by
  have answered : ((twoLines searchedCalls).ctx 0).map
      (fun r => (answerOf (twoLines searchedCalls) r 1600000011).errno) = some .none := by
        decide +kernel
  have split : searchedCalls = locatedCalls ++ [.newRequest 0 sizeofSkyRctx [] 1600000010] ++
      [addAt 1600000010 50, searchCall] := rfl
  obtain ⟨r, member, located⟩ := Option.map_eq_some_iff.1 answered
  exact ⟨r, member, by decide +kernel, @run_storesFree bareEnv 2 (by decide)
    (by decide) locatedCalls
    [addAt 1600000010 50, searchCall] 0 sizeofSkyRctx [] 1600000010 (by decide +kernel)
    (by decide +kernel) (by decide +kernel) (by decide +kernel) _ (congrArg twoLines split) _ member
    _ _ _ _ (by decide) located⟩

theorem not_storesFree {d : DecodeResult} {j : ℕ} (inUse : ¬ EmptyAt s.cacheline j)
    (empty : ∃ k, EmptyAt s.cacheline k) (changed : d.sctx.cacheline[j]? ≠ s.cacheline[j]?) :
    ¬ StoresFree s d := by
  rintro ⟨place, stored⟩
  by_cases same : j = place
  · subst same
    exact inUse (stored.free empty)
  · exact changed (stored.others j same)

theorem not_storesFree_of_times {d : DecodeResult} {t t' : ℤ} (inUse : t ≠ CACHE_EMPTY)
    (differ : t' ≠ t) (times : s.cacheline.map (fun cl => cl.time) = [t, CACHE_EMPTY])
    (times' : d.sctx.cacheline.map (fun cl => cl.time) = [t', CACHE_EMPTY]) : ¬ StoresFree s d := by
  apply @not_storesFree _ _ 0
  · rw [emptyAt_iff, times]
    simpa using inUse
  · exact ⟨1, by rw [emptyAt_iff, times]; rfl⟩
  · intro same
    have kept := congrArg (Option.map fun cl : SkyCacheline => cl.time) same
    rw [← List.getElem?_map, ← List.getElem?_map, times, times'] at kept
    exact differ (Option.some.inj kept)

/-- A request at `2 ^ 32` seconds, and another one five minutes before. -/
def wrappedCalls : List Call :=
  [.openSession { bareOpen with gettime := some 4294966996 }] ++ startAt 4294966996 ++
    [addAt 4294966996 1, locateAt 4294966997] ++ startAt 4294967296 ++ [addAt 4294967296 2]

/-- The time of the request is zero. It is stored in the first line, which is in use. -/
theorem wrappedCalls_not_storesFree :
    ∃ r, (twoLines wrappedCalls).ctx 0 = some r ∧ r.header.time = 0 ∧
    (answerOf (twoLines wrappedCalls) r 4294967297).errno = .none ∧
    ¬ StoresFree (twoLines wrappedCalls).sctx (answerOf (twoLines wrappedCalls) r 4294967297) := by
  have answered : ((twoLines wrappedCalls).ctx 0).map (fun r =>
      (r.header.time, (answerOf (twoLines wrappedCalls) r 4294967297).errno,
        (answerOf (twoLines wrappedCalls) r 4294967297).sctx.cacheline.map (fun cl => cl.time))) =
      some (0, .none, [4294967297, CACHE_EMPTY]) := by decide +kernel
  obtain ⟨r, member, facts⟩ := Option.map_eq_some_iff.1 answered
  obtain ⟨untimed, both⟩ := Prod.mk.inj facts
  obtain ⟨located, times'⟩ := Prod.mk.inj both
  have times : (twoLines wrappedCalls).sctx.cacheline.map (fun cl => cl.time) =
    [4294966997, CACHE_EMPTY] := by
    decide +kernel
  exact ⟨r, member, untimed, located, not_storesFree_of_times (by decide) (by decide) times times'⟩

/-- A line with an AP, a younger one with a position only, and a request with the AP and then with
others: its second search keeps the hit of the first one, so its list is replaced by that of the
position. A shorter threshold then empties the line of the AP. -/
def staleChoiceCalls : List Call :=
  [.openSession bareOpen] ++
    startAt 1600000000 ++ [addAt 1600000000 1, searchCall, locateAt 1600000000] ++
    startAt 1600008000 ++ [.onCtx 0 (.addGnss (fixAt 1600008000 (.fin 3))), locateAt 1600008000] ++
    startAt 1600010000 ++ [addAt 1600010000 1, searchCall, addAt 1600010000 50, addAt 1600010000 60,
      addAt 1600010000 70, addAt 1600010000 80, addAt 1600010000 90, searchCall,
      .onCtx 0 (.sizeofRequestBuf []), .onCtx 0 (.setOption .cacheAgeThreshold 1), searchCall]

/-- The third search does not choose a line anew. -/
theorem staleChoiceCalls_not_storesFree : ∃ r, (twoLines staleChoiceCalls).ctx 0 = some r ∧
    (answerOf (twoLines staleChoiceCalls) r 1600010001).errno = .none ∧
    ¬ StoresFree (twoLines staleChoiceCalls).sctx
      (answerOf (twoLines staleChoiceCalls) r 1600010001) := by
  have answered : ((twoLines staleChoiceCalls).ctx 0).map (fun r =>
      ((answerOf (twoLines staleChoiceCalls) r 1600010001).errno,
        (answerOf (twoLines staleChoiceCalls) r 1600010001).sctx.cacheline.map
        (fun cl => cl.time))) =
      some (.none, [1600010001, CACHE_EMPTY]) := by decide +kernel
  obtain ⟨r, member, both⟩ := Option.map_eq_some_iff.1 answered
  obtain ⟨located, times'⟩ := Prod.mk.inj both
  have times : (twoLines staleChoiceCalls).sctx.cacheline.map (fun cl => cl.time) =
    [1600008000, CACHE_EMPTY] := by
    decide +kernel
  exact ⟨r, member, located, not_storesFree_of_times (by decide) (by decide) times times'⟩

end EmbeddedClient
