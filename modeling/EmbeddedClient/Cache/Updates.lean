import EmbeddedClient.Cache.Placement
import EmbeddedClient.Session.Indexes

/-!
# Two transactions on one cache

Nothing reserves the line that a search has chosen. Two transactions one after the other
go to different lines; two searches in a row may choose the same line, and then the
response decoded last is the one that stays.
-/

namespace EmbeddedClient

open Runs

variable {lines : List SkyCacheline} {cl : SkyCacheline} {i j : ℕ} {s : SkySctx} {r r' : SkyRctx}

theorem findOldestLoop_empty {oldest : ℤ} (timed : oldest ≠ TIME_UNAVAILABLE) (n oldestc : ℕ)
    (empty : EmptyAt lines i) :
    ∃ k, EmptyAt lines k ∧ findOldestLoop n oldest oldestc lines = n + k := by
  induction lines generalizing oldest n oldestc i with
  | nil =>
    obtain ⟨cl, line, -⟩ := empty
    simp at line
  | cons cl cls ih =>
    unfold findOldestLoop
    by_cases found : cl.time = CACHE_EMPTY
    · rw [if_pos (.inr found)]
      exact ⟨0, emptyAt_cons_zero.2 found, rfl⟩
    · rw [if_neg (not_or.2 ⟨timed, found⟩)]
      have later : ∃ m, EmptyAt cls m := by
        cases i with
        | zero => exact absurd (emptyAt_cons_zero.1 empty) found
        | succ m => exact ⟨m, emptyAt_cons_succ.1 empty⟩
      obtain ⟨m, empty⟩ := later
      have behind {oldest : ℤ} (timed : oldest ≠ TIME_UNAVAILABLE) (oldestc : ℕ) :
          ∃ k, EmptyAt (cl :: cls) k ∧ findOldestLoop (n + 1) oldest oldestc cls = n + k := by
        obtain ⟨k, empty, eq⟩ := ih timed (n + 1) oldestc empty
        exact ⟨k + 1, emptyAt_cons_succ.2 empty, by omega⟩
      split_ifs
      · exact behind found n
      · exact behind timed oldestc

theorem storePlace_empty (timed : r.header.time ≠ 0) (several : s.cacheSize ≠ 1)
    (empty : EmptyAt s.cacheline i)
    (placed : r.saveTo = -1 ∨ ∃ k : ℕ, EmptyAt s.cacheline k ∧ r.saveTo = k) :
    EmptyAt s.cacheline (s.storePlace r) := by
  unfold SkySctx.storePlace
  rcases placed with unset | ⟨k, empty, put⟩
  · have clock : (r.header.time.toNat : ℤ) ≠ TIME_UNAVAILABLE := by
      intro none
      refine timed (UInt32.toNat_inj.1 ?_)
      simpa using none
    obtain ⟨k, empty, eq⟩ := findOldestLoop_empty clock 0 0 empty
    rw [if_pos (by omega), findOldest, if_neg several, eq, Nat.zero_add]
    exact empty
  · rw [if_neg (by omega), put, Int.toNat_natCast]
    exact empty

theorem storePlace_lt_of_placed (empty : EmptyAt lines i)
    (length : s.cacheline.length = lines.length)
    (placed : r.saveTo = -1 ∨ ∃ k : ℕ, EmptyAt lines k ∧ r.saveTo = k) :
    s.storePlace r < s.cacheline.length := by
  have inside {k : ℕ} (empty : EmptyAt lines k) : k < s.cacheline.length := by
    obtain ⟨cl, line, -⟩ := empty
    rw [length]
    exact (List.getElem?_eq_some_iff.1 line).1
  have some := inside empty
  apply storePlace_lt (List.ne_nil_of_length_pos (by omega))
  rcases placed with unset | ⟨k, empty, put⟩
  · omega
  · have := inside empty
    omega

structure SkyCacheline.Carries (cl : SkyCacheline) (d : DecodeResult) : Prop where
  numBeacons : cl.numBeacons = d.rctx.numBeacons
  numAp : cl.numAp = d.rctx.numAp
  beacon : d.rctx.live <+: cl.beacon
  gnss : cl.gnss = d.rctx.gnss
  loc : cl.loc = d.loc
  time : cl.time = d.loc.time

/-- Two different lines hold the lists and the locations of two responses. -/
def CarryBoth (lines : List SkyCacheline) (d d' : DecodeResult) : Prop :=
  ∃ i j : ℕ, i ≠ j ∧ (∃ cl : SkyCacheline, lines[i]? = some cl ∧ cl.Carries d) ∧
    ∃ cl : SkyCacheline, lines[j]? = some cl ∧ cl.Carries d'

theorem CarryBoth.symm {d d' : DecodeResult} (both : CarryBoth lines d d') :
    CarryBoth lines d' d := by
  obtain ⟨i, j, differ, first, second⟩ := both
  exact ⟨j, i, differ.symm, second, first⟩

variable {d d' : DecodeResult}

theorem SkyCacheline.store_carries (d : DecodeResult) (cl : SkyCacheline) :
    (cl.store d.rctx d.loc).Carries d :=
  ⟨rfl, rfl, List.prefix_append .., rfl, rfl, rfl⟩

theorem SkySctx.Records.length (records : s.Records r d) :
    d.sctx.cacheline.length = s.cacheline.length := by
  rw [records.cacheline, List.length_modify]

theorem SkySctx.Records.searchable (records : s.Records r d) (searchable : s.Searchable) :
    d.sctx.Searchable := by
  refine ⟨records.plugins.trans searchable.plugins, ?_⟩
  rw [records.numCachelines, records.length]
  exact searchable.whole

theorem SkySctx.Records.line (records : s.Records r d)
    (place : s.storePlace r < s.cacheline.length) :
    ∃ cl, d.sctx.cacheline[s.storePlace r]? = some cl ∧ cl.Carries d := by
  refine ⟨_, ?_, SkyCacheline.store_carries d (s.cacheline[s.storePlace r])⟩
  rw [records.cacheline, List.getElem?_modify_eq, List.getElem?_eq_getElem place]
  rfl

theorem SkySctx.Records.other (records : s.Records r d) (differ : s.storePlace r ≠ j) :
    d.sctx.cacheline[j]? = s.cacheline[j]? := by
  rw [records.cacheline, List.getElem?_modify_ne _ _ differ]

theorem SkySctx.Records.emptyAt (records : s.Records r d) (differ : s.storePlace r ≠ j)
    (empty : EmptyAt s.cacheline j) : EmptyAt d.sctx.cacheline j := by
  obtain ⟨cl, line, time⟩ := empty
  exact ⟨cl, (records.other differ).trans line, time⟩

theorem SkySctx.Records.emptyLeft (records : s.Records r d) (differ : i ≠ j)
    (emptyI : EmptyAt s.cacheline i) (emptyJ : EmptyAt s.cacheline j) :
    ∃ k, EmptyAt d.sctx.cacheline k := by
  by_cases taken : s.storePlace r = i
  · exact ⟨j, records.emptyAt (fun same => differ (taken.symm.trans same)) emptyJ⟩
  · exact ⟨i, records.emptyAt taken emptyI⟩

theorem EmptyAt.lt_length (empty : EmptyAt lines i) : i < lines.length := by
  obtain ⟨cl, line, -⟩ := empty
  exact (List.getElem?_eq_some_iff.1 line).1

theorem EmptyAt.ne_of_filled {k : ℕ} (empty : EmptyAt lines j) (line : lines[k]? = some cl)
    (filled : cl.time ≠ CACHE_EMPTY) : j ≠ k := by
  rintro rfl
  obtain ⟨cl', line', time⟩ := empty
  rw [line] at line'
  cases line'
  exact filled time

theorem filled_of_recent {t : ℤ} (recent : TIMESTAMP_2019_03_01 < t) : t ≠ CACHE_EMPTY := by
  simp only [TIMESTAMP_2019_03_01] at recent
  simp only [CACHE_EMPTY]
  omega

theorem carryBoth_of_records (first : s.Records r d) (second : d.sctx.Records r' d')
    (place : s.storePlace r < s.cacheline.length)
    (place' : d.sctx.storePlace r' < s.cacheline.length)
    (apart : s.storePlace r ≠ d.sctx.storePlace r') : CarryBoth d'.sctx.cacheline d d' := by
  refine ⟨_, _, apart, ?_, second.line (by rwa [first.length])⟩
  obtain ⟨cl, line, carries⟩ := first.line place
  exact ⟨cl, (second.other apart.symm).trans line, carries⟩

theorem storePlace_of_chosen {k : ℕ} (chosen : r.saveTo = k) : s.storePlace r = k := by
  unfold SkySctx.storePlace
  rw [chosen, if_neg (by omega), Int.toNat_natCast]

/-- A second request that has chosen another line, or none while it has a time, is stored in
another line. -/
theorem SkySctx.Records.apart (records : s.Records r d) (recent : TIMESTAMP_2019_03_01 < d.loc.time)
    (place : s.storePlace r < s.cacheline.length) (differ : i ≠ j) (emptyI : EmptyAt s.cacheline i)
    (emptyJ : EmptyAt s.cacheline j)
    (other : (∃ k : ℕ, r'.saveTo = k ∧ k ≠ s.storePlace r) ∨
      (r'.saveTo = -1 ∧ r'.header.time ≠ 0)) :
    s.storePlace r ≠ d.sctx.storePlace r' := by
  rcases other with ⟨k, chosen, another⟩ | ⟨unset, clock⟩
  · rw [storePlace_of_chosen chosen]
    exact another.symm
  · obtain ⟨k, left⟩ := records.emptyLeft differ emptyI emptyJ
    obtain ⟨cl, line, carries⟩ := records.line place
    have filled : cl.time ≠ CACHE_EMPTY := by
      rw [carries.time]
      exact filled_of_recent recent
    have several : d.sctx.cacheSize ≠ 1 := by
      have insideI := emptyI.lt_length
      have insideJ := emptyJ.lt_length
      rw [SkySctx.cacheSize, records.length]
      omega
    exact ((storePlace_empty clock several left (.inl unset)).ne_of_filled line filled).symm

section Orders

variable {distance : Distance} {r₁ r₂ : SkyRctx} {l₁ l₂ : SkyLocation} {d₁ d₂ : DecodeResult}

/-- The second search runs after the first response: it finds an empty line left. -/
theorem carryBoth_serial (searchable : s.Searchable) (differ : i ≠ j)
    (emptyI : EmptyAt s.cacheline i) (emptyJ : EmptyAt s.cacheline j)
    (fresh₁ : r₁.Searches ∨ r₁.saveTo = -1) (fresh₂ : r₂.Searches ∨ r₂.saveTo = -1)
    (first : (skySearchCache distance s r₁ l₁).sctx.Records (skySearchCache distance s r₁ l₁).rctx
      d₁) (second : (skySearchCache distance d₁.sctx r₂ l₂).sctx.Records
      (skySearchCache distance d₁.sctx r₂ l₂).rctx d₂)
    (recent : TIMESTAMP_2019_03_01 < d₁.loc.time) (clock : r₂.header.time ≠ 0)
    (young : (r₂.header.time.toNat : ℤ) - d₁.loc.time ≤ d₁.sctx.config.ageLimit) :
    CarryBoth d₂.sctx.cacheline d₁ d₂ := by
  have searchable' := skySearchCache_searchable distance searchable r₁ l₁
  have emptyI' := skySearchCache_emptyAt distance searchable emptyI r₁ l₁
  have emptyJ' := skySearchCache_emptyAt distance searchable emptyJ r₁ l₁
  have placed := skySearchCache_placed distance searchable emptyI fresh₁ l₁
  generalize skySearchCache distance s r₁ l₁ = a at *
  have place := storePlace_lt_of_placed (s := a.sctx) emptyI' rfl placed
  obtain ⟨k, empty⟩ := first.emptyLeft differ emptyI' emptyJ'
  obtain ⟨cl, line, carries⟩ := first.line place
  have searchable'' := first.searchable searchable'
  rw [← carries.time] at young
  have line' := skySearchCache_line distance searchable'' empty l₂ line young
  have empty' := skySearchCache_emptyAt distance searchable'' empty r₂ l₂
  have placed' := skySearchCache_placed distance searchable'' empty fresh₂ l₂
  have header := (same_skySearchCache distance d₁.sctx r₂ l₂).2.header
  generalize skySearchCache distance d₁.sctx r₂ l₂ = b at *
  have filled : cl.time ≠ CACHE_EMPTY := by
    rw [carries.time]
    exact filled_of_recent recent
  have several : b.sctx.cacheSize ≠ 1 := by
    intro one
    obtain ⟨c, lineC, -⟩ := id empty'
    have insideC := (List.getElem?_eq_some_iff.1 lineC).1
    have inside := (List.getElem?_eq_some_iff.1 line').1
    rw [SkySctx.cacheSize] at one
    exact empty'.ne_of_filled line' filled (by omega)
  have target := storePlace_empty (by rwa [header]) several empty' placed'
  have apart := target.ne_of_filled line' filled
  have inside : b.sctx.storePlace b.rctx < b.sctx.cacheline.length := by
    obtain ⟨c, lineC, -⟩ := target
    exact (List.getElem?_eq_some_iff.1 lineC).1
  exact ⟨_, _, apart.symm, ⟨cl, (second.other apart).trans line', carries⟩, second.line inside⟩

/-- A request that has APs and one that has cells only go to different lines. -/
theorem searched_apart {s₁ s₂ : SkySctx} {r₁' r₂' : SkyRctx} (differ : i ≠ j)
    (emptyI : EmptyAt s.cacheline i) (emptyJ : EmptyAt s.cacheline j) (first : Searched s r₁ s₁ r₁')
    (second : Searched s₁ r₂ s₂ r₂') (aps₁ : r₁.numAp ≠ 0 ∨ numCells r₁.numBeacons r₁.numAp ≠ 0)
    (aps₂ : r₂.numAp ≠ 0 ∨ numCells r₂.numBeacons r₂.numAp ≠ 0)
    (kinds : r₁.numAp = 0 ↔ r₂.numAp ≠ 0) :
    ∃ k₁ k₂ : ℕ, r₁'.saveTo = k₁ ∧ r₂'.saveTo = k₂ ∧ k₁ ≠ k₂ ∧ k₁ < s₂.cacheline.length ∧
      k₂ < s₂.cacheline.length := by
  have empty₁ {n : ℕ} (empty : EmptyAt s.cacheline n) : EmptyAt s₁.cacheline n := by
    rw [first.cacheline]
    exact empty.expire
  have empty₂ {n : ℕ} (empty : EmptyAt s₁.cacheline n) : EmptyAt s₂.cacheline n := by
    rw [second.cacheline]
    exact empty.expire
  have inside {n : ℕ} (empty : EmptyAt s₂.cacheline n) : n < s₂.cacheline.length := by
    obtain ⟨cl, line, -⟩ := empty
    exact (List.getElem?_eq_some_iff.1 line).1
  by_cases none : r₁.numAp = 0
  · obtain ⟨k₁, isFirst, put₁⟩ := first.cells none (aps₁.resolve_left fun some => some none)
    obtain ⟨k₂, isLast, put₂⟩ := second.aps (kinds.1 none)
    have below := isFirst.first i (empty₁ emptyI)
    have below' := isFirst.first j (empty₁ emptyJ)
    have above := isLast.last i (empty₂ (empty₁ emptyI))
    have above' := isLast.last j (empty₂ (empty₁ emptyJ))
    exact ⟨k₁, k₂, put₁, put₂, by omega, inside (empty₂ isFirst.empty), inside isLast.empty⟩
  · have noAps : r₂.numAp = 0 := by
      by_contra some
      exact none (kinds.2 some)
    obtain ⟨k₁, isLast, put₁⟩ := first.aps none
    obtain ⟨k₂, isFirst, put₂⟩ := second.cells noAps (aps₂.resolve_left fun some => some noAps)
    have below := isFirst.first i (empty₂ (empty₁ emptyI))
    have below' := isFirst.first j (empty₂ (empty₁ emptyJ))
    have above := isLast.last i (empty₁ emptyI)
    have above' := isLast.last j (empty₁ emptyJ)
    exact ⟨k₁, k₂, put₁, put₂, by omega, inside (empty₂ isLast.empty), inside isFirst.empty⟩

end Orders

/-- The arguments of a search and of the decoding of the response to one request. -/
structure Transaction where
  id : ℕ
  searchLoc : SkyLocation
  resp : Response
  loc : SkyLocation
  now : ℤ
  later : ℤ

namespace Transaction

def search (t : Transaction) : Call := .onCtx t.id (.searchCache t.searchLoc)

def decode (t : Transaction) : Call := .onCtx t.id (.decodeResponse t.resp t.loc t.now t.later)

end Transaction

/-- The library, and the last result of `sky_decode_response` on each context. -/
structure Answers where
  world : World
  answer : ℕ → Option DecodeResult

variable (env : Env)

def Answers.step (a : Answers) (call : Call) : Answers where
  world := a.world.step env call
  answer :=
    match call with
    | .onCtx id (.decodeResponse resp loc now later) =>
      match a.world.ctx id with
      | none => a.answer
      | some r => Function.update a.answer id
          (some (skyDecodeResponse env.cipherBits a.world.sctx r loc resp now later))
    | _ => a.answer

/-- `Answers.step` with line indexes of 16 bits. -/
def Answers.step16 (a : Answers) (call : Call) : Answers :=
  { a.step env call with world := a.world.step16 env call }

/-- The second request has a time, and the first location is young enough for it. -/
structure Follows (w : World) (t t' : Transaction) : Prop where
  clock : ∀ r ∈ w.ctx t'.id, r.header.time ≠ 0
  young : ∀ r ∈ w.ctx t'.id, (r.header.time.toNat : ℤ) - t.later ≤
    (w.run16 env [t.search, t.decode]).sctx.config.ageLimit

/-- Both searches look at the cache, one of them for APs, the other for cells. -/
structure OtherKind (w : World) (t t' : Transaction) : Prop where
  searches : ∀ r ∈ w.ctx t.id, r.Searches
  searches' : ∀ r ∈ w.ctx t'.id, r.Searches
  kinds : ∀ r ∈ w.ctx t.id, ∀ r' ∈ w.ctx t'.id, (r.numAp = 0 ↔ r'.numAp ≠ 0)

/-- The second request has chosen another line than the one that the first response is stored in,
or none, and then it has a time. -/
def OtherLine (w : World) (t t' : Transaction) : Prop :=
  ∀ r ∈ w.ctx t.id, ∀ r' ∈ w.ctx t'.id,
    (∃ k : ℕ, r'.saveTo = k ∧ k ≠ w.sctx.storePlace r) ∨ (r'.saveTo = -1 ∧ r'.header.time ≠ 0)

/-- Transactions one after the other leave the first location young enough; after two
searches in a row the requests are of different kinds, or have chosen different lines. -/
structure Apart (w : World) (calls : List Call) : Prop where
  serial : ∀ t t', calls = [t.search, t.decode, t'.search, t'.decode] → Follows env w t t'
  overlapping : ∀ searches t t', calls = searches ++ [t.decode, t'.decode] →
    OtherKind w t t' ∨ OtherLine (w.run16 env searches) t t'

structure Holding (a : Answers) (s : SkySctx) (t t' : Transaction) (r r' : SkyRctx) : Prop where
  differ : t.id ≠ t'.id
  sctx : a.world.sctx = s
  ctx : a.world.ctx t.id = some r
  ctx' : a.world.ctx t'.id = some r'

namespace Holding

variable {a : Answers} {t t' : Transaction}

theorem swap (holding : Holding a s t t' r r') : Holding a s t' t r' r :=
  ⟨holding.differ.symm, holding.sctx, holding.ctx', holding.ctx⟩

theorem search (holding : Holding a s t t' r r') :
    Holding (a.step env t.search) (skySearchCache env.distance s r t.searchLoc).sctx t t'
        (skySearchCache env.distance s r t.searchLoc).rctx r' ∧
      (a.step env t.search).answer = a.answer := by
  have world : (a.step env t.search).world = _ :=
    World.step_onCtx_some (.searchCache t.searchLoc) holding.ctx
  refine ⟨⟨holding.differ, ?_, ?_, ?_⟩, rfl⟩
  · rw [world, holding.sctx]
    rfl
  · rw [world, holding.sctx]
    exact Function.update_self ..
  · rw [world]
    exact (Function.update_of_ne holding.differ.symm ..).trans holding.ctx'

theorem decode (holding : Holding a s t t' r r') :
    Holding (a.step env t.decode)
    (skyDecodeResponse env.cipherBits s r t.loc t.resp t.now t.later).sctx
        t t' (skyDecodeResponse env.cipherBits s r t.loc t.resp t.now t.later).rctx r' ∧
      (a.step env t.decode).answer = Function.update a.answer t.id
        (some (skyDecodeResponse env.cipherBits s r t.loc t.resp t.now t.later)) := by
  have world : (a.step env t.decode).world = _ :=
    World.step_onCtx_some (.decodeResponse t.resp t.loc t.now t.later) holding.ctx
  refine ⟨⟨holding.differ, ?_, ?_, ?_⟩, ?_⟩
  · rw [world, holding.sctx]
    rfl
  · rw [world, holding.sctx]
    exact Function.update_self ..
  · rw [world]
    exact (Function.update_of_ne holding.differ.symm ..).trans holding.ctx'
  · unfold Answers.step Transaction.decode
    simp only [holding.ctx, holding.sctx]

end Holding

section Runs

variable {a : Answers} {w : World} {t t' : Transaction}

theorem Answers.world_run (w : World) (calls : List Call) :
    (run (Answers.step env) ⟨w, fun _ => none⟩ calls).world = w.run env calls :=
  run_proj fun _ _ => rfl

theorem Answers.run16_eq {n : ℕ} {a : Answers} (whole : a.world.Whole n) (small : n ≤ 2 ^ 15)
    (calls : List Call) : run (Answers.step16 env) a calls = run (Answers.step env) a calls := by
  induction calls generalizing a with
  | nil => rfl
  | cons call calls ih =>
    have same : a.step16 env call = a.step env call := by
      unfold Answers.step16
      rw [whole.step16_eq small]
      rfl
    rw [run_cons, run_cons, same]
    exact ih (whole.step call)

theorem Holding.run_decode_decode (holding : Holding a s t t' r r') :
    let d := skyDecodeResponse env.cipherBits s r t.loc t.resp t.now t.later
    let d' := skyDecodeResponse env.cipherBits d.sctx r' t'.loc t'.resp t'.now t'.later
    let b := run (Answers.step env) a [t.decode, t'.decode]
    b.world.sctx = d'.sctx ∧ b.answer t.id = some d ∧ b.answer t'.id = some d' := by
  intro d d' b
  obtain ⟨holding₁, answer₁⟩ := holding.decode env
  obtain ⟨holding₂, answer₂⟩ := holding₁.swap.decode env
  have final : b.answer = _ := answer₂
  refine ⟨holding₂.sctx, ?_, ?_⟩
  · rw [final, Function.update_of_ne holding.differ, answer₁]
    exact Function.update_self ..
  · rw [final]
    exact Function.update_self ..

theorem Holding.run_serial (holding : Holding a s t t' r r') :
    let f := skySearchCache env.distance s r t.searchLoc
    let d := skyDecodeResponse env.cipherBits f.sctx f.rctx t.loc t.resp t.now t.later
    let f' := skySearchCache env.distance d.sctx r' t'.searchLoc
    let d' := skyDecodeResponse env.cipherBits f'.sctx f'.rctx t'.loc t'.resp t'.now t'.later
    let b := run (Answers.step env) a [t.search, t.decode, t'.search, t'.decode]
    b.world.sctx = d'.sctx ∧ b.answer t.id = some d ∧ b.answer t'.id = some d' := by
  intro f d f' d' b
  obtain ⟨holding₁, -⟩ := holding.search env
  obtain ⟨holding₂, answer₂⟩ := holding₁.decode env
  obtain ⟨holding₃, answer₃⟩ := holding₂.swap.search env
  obtain ⟨holding₄, answer₄⟩ := holding₃.decode env
  have final : b.answer = _ := answer₄
  refine ⟨holding₄.sctx, ?_, ?_⟩
  · rw [final, Function.update_of_ne holding.differ, answer₃, answer₂]
    exact Function.update_self ..
  · rw [final]
    exact Function.update_self ..

theorem OtherKind.swap (kind : OtherKind w t t') : OtherKind w t' t := by
  refine ⟨kind.searches', kind.searches, ?_⟩
  intro r member r' member'
  have kinds := kind.kinds r' member' r member
  omega

structure BothSearched (w : World) (a : Answers) (s : SkySctx) (t t' : Transaction)
    (r r' : SkyRctx) :
    Prop where
  holding : Holding a s t t' r r'
  searchable : s.Searchable
  lines : s.cacheline ≠ []
  place : r.saveTo < s.cacheline.length
  place' : r'.saveTo < s.cacheline.length
  empty : ∃ i j, i ≠ j ∧ EmptyAt s.cacheline i ∧ EmptyAt s.cacheline j
  kinds : OtherKind w t t' → ∃ k k' : ℕ, r.saveTo = k ∧ r'.saveTo = k' ∧ k ≠ k'

theorem BothSearched.swap (both : BothSearched w a s t t' r r') : BothSearched w a s t' t r' r := by
  refine ⟨both.holding.swap, both.searchable, both.lines, both.place', both.place, both.empty, ?_⟩
  intro kind
  obtain ⟨k, k', put, put', differ⟩ := both.kinds kind.swap
  exact ⟨k', k, put', put, differ.symm⟩

theorem bothSearched (searchable : w.sctx.Searchable) (distinct : t.id ≠ t'.id)
    (ctx : w.ctx t.id = some r) (ctx' : w.ctx t'.id = some r') (fresh : r.Searches ∨ r.saveTo = -1)
    (fresh' : r'.Searches ∨ r'.saveTo = -1) (differ : i ≠ j) (emptyI : EmptyAt w.sctx.cacheline i)
    (emptyJ : EmptyAt w.sctx.cacheline j) :
    ∃ s q q', BothSearched w (run (Answers.step env) ⟨w, fun _ => none⟩ [t.search, t'.search])
      s t t' q q' := by
  have start : Holding ⟨w, fun _ => none⟩ w.sctx t t' r r' := ⟨distinct, rfl, ctx, ctx'⟩
  have holding₁ := (start.search env).1
  have holding₂ := (holding₁.swap.search env).1.swap
  have searchable₁ := skySearchCache_searchable env.distance searchable r t.searchLoc
  have empty₁ := skySearchCache_emptyAt env.distance searchable emptyI r t.searchLoc
  have other₁ := skySearchCache_emptyAt env.distance searchable emptyJ r t.searchLoc
  have placed₁ := skySearchCache_placed env.distance searchable emptyI fresh t.searchLoc
  have effect₁ (looks : r.Searches) :=
    skySearchCache_searched env.distance searchable emptyI.expire looks.valid
    looks.recent t.searchLoc
  generalize skySearchCache env.distance w.sctx r t.searchLoc = f at *
  have searchable₂ := skySearchCache_searchable env.distance searchable₁ r' t'.searchLoc
  have empty₂ {k : ℕ} (empty : EmptyAt f.sctx.cacheline k) :=
    skySearchCache_emptyAt env.distance searchable₁ empty r' t'.searchLoc
  have placed₂ := skySearchCache_placed env.distance searchable₁ empty₁ fresh' t'.searchLoc
  have effect₂ (looks : r'.Searches) :=
    skySearchCache_searched env.distance searchable₁ empty₁.expire looks.valid
    looks.recent t'.searchLoc
  generalize skySearchCache env.distance f.sctx r' t'.searchLoc = f' at *
  have inside {k : ℕ} (empty : EmptyAt f'.sctx.cacheline k) : k < f'.sctx.cacheline.length := by
    obtain ⟨cl, line, -⟩ := empty
    exact (List.getElem?_eq_some_iff.1 line).1
  have pos := inside (empty₂ empty₁)
  refine ⟨f'.sctx, f.rctx, f'.rctx, holding₂, searchable₂, List.ne_nil_of_length_pos (by omega), ?_,
    ?_, ⟨i, j, differ, empty₂ empty₁, empty₂ other₁⟩, ?_⟩
  · rcases placed₁ with unset | ⟨k, empty, put⟩
    · omega
    · have := inside (empty₂ empty)
      omega
  · rcases placed₂ with unset | ⟨k, empty, put⟩
    · omega
    · have := inside empty
      omega
  · intro kind
    have looks := kind.searches r ctx
    have looks' := kind.searches' r' ctx'
    rcases searched_apart differ emptyI emptyJ (effect₁ looks) (effect₂ looks') looks.beacons.symm
      looks'.beacons.symm (kind.kinds r ctx r' ctx') with ⟨k, k', put, put', apart, -⟩
    exact ⟨k, k', put, put', apart⟩

theorem BothSearched.carryBoth (both : BothSearched w a s t t' r r')
    (lines : OtherKind w t t' ∨ OtherLine a.world t t') (recent : TIMESTAMP_2019_03_01 < t.later)
    (recent' : TIMESTAMP_2019_03_01 < t'.later) {d d' : DecodeResult}
    (answer : (run (Answers.step env) a [t.decode, t'.decode]).answer t.id = some d)
    (answer' : (run (Answers.step env) a [t.decode, t'.decode]).answer t'.id = some d')
    (located : d.errno = .none) (located' : d'.errno = .none) :
    CarryBoth (run (Answers.step env) a [t.decode, t'.decode]).world.sctx.cacheline d d' := by
  have holding := both.holding
  obtain ⟨sctx, eq, eq'⟩ := holding.run_decode_decode env
  rw [answer] at eq
  rw [answer'] at eq'
  cases eq
  cases eq'
  obtain ⟨records, time⟩ := skyDecodeResponse_records both.searchable.plugins recent located
  have searchable := records.searchable both.searchable
  obtain ⟨records', -⟩ := skyDecodeResponse_records searchable.plugins recent' located'
  rw [sctx]
  apply carryBoth_of_records records records' (storePlace_lt both.lines both.place)
  · rw [← records.length]
    apply storePlace_lt
    · rw [← List.length_pos_iff, records.length]
      exact List.length_pos_iff.2 both.lines
    · rw [records.length]
      exact both.place'
  · rcases lines with kind | other
    · obtain ⟨k, k', put, put', apart⟩ := both.kinds kind
      unfold SkySctx.storePlace
      rw [put, put', if_neg (by omega), if_neg (by omega)]
      exact apart
    · obtain ⟨i, j, differ, emptyI, emptyJ⟩ := both.empty
      have chosen := other r holding.ctx r' holding.ctx'
      rw [holding.sctx] at chosen
      exact records.apart (by rwa [time]) (storePlace_lt both.lines both.place) differ emptyI emptyJ
        chosen

theorem carryBoth_of_follows {n : ℕ} (whole : w.Whole n) (small : n ≤ 2 ^ 15)
    (searchable : w.sctx.Searchable) (distinct : t.id ≠ t'.id)
    (ctx : w.ctx t.id = some r) (ctx' : w.ctx t'.id = some r') (fresh : r.Searches ∨ r.saveTo = -1)
    (fresh' : r'.Searches ∨ r'.saveTo = -1) (differ : i ≠ j) (emptyI : EmptyAt w.sctx.cacheline i)
    (emptyJ : EmptyAt w.sctx.cacheline j) (follows : Follows env w t t')
    (recent : TIMESTAMP_2019_03_01 < t.later) (recent' : TIMESTAMP_2019_03_01 < t'.later)
    {calls : List Call} (serial : calls = [t.search, t.decode, t'.search, t'.decode])
    {d d' : DecodeResult}
    (answer : (run (Answers.step env) ⟨w, fun _ => none⟩ calls).answer t.id = some d)
    (answer' : (run (Answers.step env) ⟨w, fun _ => none⟩ calls).answer t'.id = some d')
    (located : d.errno = .none) (located' : d'.errno = .none) :
    CarryBoth (run (Answers.step env) ⟨w, fun _ => none⟩ calls).world.sctx.cacheline d d' := by
  subst serial
  have start : Holding ⟨w, fun _ => none⟩ w.sctx t t' r r' := ⟨distinct, rfl, ctx, ctx'⟩
  have between : (w.run env [t.search, t.decode]).sctx =
      (skyDecodeResponse env.cipherBits (skySearchCache env.distance w.sctx r t.searchLoc).sctx
        (skySearchCache env.distance w.sctx r t.searchLoc).rctx t.loc t.resp t.now
        t.later).sctx := by
    rw [← Answers.world_run]
    exact ((start.search env).1.decode env).1.sctx
  obtain ⟨sctx, eq, eq'⟩ := start.run_serial env
  rw [answer] at eq
  rw [answer'] at eq'
  have found := Option.some.inj eq
  have found' := Option.some.inj eq'
  rw [← found] at between found' sctx
  rw [found] at located
  have searchable₁ := skySearchCache_searchable env.distance searchable r t.searchLoc
  obtain ⟨records, time⟩ := skyDecodeResponse_records searchable₁.plugins recent located
  rw [← found] at records time located
  rw [← found'] at sctx
  rw [found'] at located'
  have searchable₂ :=
    skySearchCache_searchable env.distance (records.searchable searchable₁) r' t'.searchLoc
  obtain ⟨records', -⟩ := skyDecodeResponse_records searchable₂.plugins recent' located'
  rw [← found'] at records'
  have young := follows.young r' ctx'
  rw [World.run16_eq env whole small, between, ← time] at young
  rw [sctx]
  exact carryBoth_serial searchable differ emptyI emptyJ fresh fresh' records records'
    (by rwa [time])
    (follows.clock r' ctx') young

/-- Two transactions on one session, in any order of their searches and decodings: when two
lines are empty and the transactions keep apart, both lists and locations are in the cache
afterwards, in different lines. The indexes are of 16 bits, and there are as many lines as they
can tell apart. -/
theorem transactions_carryBoth {n : ℕ} {t₁ t₂ : Transaction} {r₁ r₂ : SkyRctx}
    {d₁ d₂ : DecodeResult} {calls : List Call} (whole : w.Whole n) (small : n ≤ 2 ^ 15)
    (plugins : w.sctx.plugins = skyRegisterPlugins) (distinct : t₁.id ≠ t₂.id)
    (ctx₁ : w.ctx t₁.id = some r₁) (ctx₂ : w.ctx t₂.id = some r₂)
    (fresh₁ : r₁.Searches ∨ r₁.saveTo = -1) (fresh₂ : r₂.Searches ∨ r₂.saveTo = -1)
    (empty : ∃ i j, i ≠ j ∧ EmptyAt w.sctx.cacheline i ∧ EmptyAt w.sctx.cacheline j)
    (order : Interleaving [t₁.search, t₁.decode] [t₂.search, t₂.decode] calls)
    (apart : Apart env w calls)
    (answer₁ : (run (Answers.step16 env) ⟨w, fun _ => none⟩ calls).answer t₁.id = some d₁)
    (answer₂ : (run (Answers.step16 env) ⟨w, fun _ => none⟩ calls).answer t₂.id = some d₂)
    (located₁ : d₁.errno = .none) (located₂ : d₂.errno = .none)
    (recent₁ : TIMESTAMP_2019_03_01 < t₁.later) (recent₂ : TIMESTAMP_2019_03_01 < t₂.later) :
    CarryBoth (w.run16 env calls).sctx.cacheline d₁ d₂ := by
  obtain ⟨i, j, differ, emptyI, emptyJ⟩ := empty
  have searchable : w.sctx.Searchable :=
    ⟨plugins, (whole.ctx t₁.id r₁ ctx₁).1.trans (congrArg _ whole.size.symm)⟩
  rw [Answers.run16_eq env whole small] at answer₁ answer₂
  have ran (searches : List Call) : w.run16 env searches = _ :=
    (World.run16_eq env whole small searches).trans (Answers.world_run env w searches).symm
  rw [ran]
  have searched := bothSearched env searchable distinct ctx₁ ctx₂ fresh₁ fresh₂ differ emptyI emptyJ
  have searched' := bothSearched env searchable distinct.symm ctx₂ ctx₁ fresh₂ fresh₁ differ
    emptyI emptyJ
  have lines (searches : List Call) (t t' : Transaction)
      (overlap : calls = searches ++ [t.decode, t'.decode]) :
      OtherKind w t t' ∨
        OtherLine (run (Answers.step env) ⟨w, fun _ => none⟩ searches).world t t' := by
    rw [← ran]
    exact apart.overlapping searches t t' overlap
  rcases order.two_two with serial | serial | overlap | overlap | overlap | overlap
  · exact carryBoth_of_follows env whole small searchable distinct ctx₁ ctx₂ fresh₁ fresh₂
      differ emptyI
      emptyJ (apart.serial t₁ t₂ serial) recent₁ recent₂ serial answer₁ answer₂ located₁ located₂
  · exact (carryBoth_of_follows env whole small searchable distinct.symm ctx₂ ctx₁ fresh₂
      fresh₁ differ
      emptyI emptyJ (apart.serial t₂ t₁ serial) recent₂ recent₁ serial answer₂ answer₁ located₂
      located₁).symm
  · obtain ⟨s, q₁, q₂, both⟩ := searched
    subst overlap
    exact both.carryBoth env (lines [t₁.search, t₂.search] t₁ t₂ rfl) recent₁ recent₂ answer₁
      answer₂ located₁ located₂
  · obtain ⟨s, q₁, q₂, both⟩ := searched
    subst overlap
    exact (both.swap.carryBoth env (lines [t₁.search, t₂.search] t₂ t₁ rfl) recent₂ recent₁ answer₂
      answer₁ located₂ located₁).symm
  · obtain ⟨s, q₂, q₁, both⟩ := searched'
    subst overlap
    exact both.swap.carryBoth env (lines [t₂.search, t₁.search] t₁ t₂ rfl) recent₁ recent₂ answer₁
      answer₂ located₁ located₂
  · obtain ⟨s, q₂, q₁, both⟩ := searched'
    subst overlap
    exact (both.carryBoth env (lines [t₂.search, t₁.search] t₂ t₁ rfl) recent₂ recent₁ answer₂
      answer₁ located₂ located₁).symm

end Runs

theorem Transaction.eq_of_calls {t u : Transaction} (search : t.search = u.search)
    (decode : t.decode = u.decode) : t = u := by
  simp only [Transaction.search, Transaction.decode, Call.onCtx.injEq, CtxCall.searchCache.injEq,
    CtxCall.decodeResponse.injEq] at search decode
  obtain ⟨id, searchLoc, resp, loc, now, later⟩ := t
  obtain ⟨id', searchLoc', resp', loc', now', later'⟩ := u
  simp_all

theorem apart_of_follows {w : World} {t t' : Transaction} (follows : Follows env w t t') :
    Apart env w [t.search, t.decode, t'.search, t'.decode] := by
  constructor
  · intro u u' same
    simp only [List.cons.injEq, and_true] at same
    obtain ⟨search, decode, search', decode'⟩ := same
    rw [← Transaction.eq_of_calls search decode, ← Transaction.eq_of_calls search' decode']
    exact follows
  · intro searches u u' same
    have reversed := congrArg List.reverse same
    simp [Transaction.search, Transaction.decode] at reversed

theorem apart_of_otherKind {w : World} {t t' : Transaction} (kind : OtherKind w t t') :
    Apart env w [t.search, t'.search, t.decode, t'.decode] := by
  constructor
  · intro u u' same
    simp [Transaction.search, Transaction.decode] at same
  · intro searches u u' same
    have reversed := congrArg List.reverse same
    simp only [Transaction.decode, List.reverse_append, List.reverse_cons, List.reverse_nil,
      List.nil_append, List.cons_append, List.cons.injEq, Call.onCtx.injEq] at reversed
    obtain ⟨⟨id', -⟩, ⟨id, -⟩, -⟩ := reversed
    left
    refine ⟨?_, ?_, ?_⟩
    · rw [← id]
      exact kind.searches
    · rw [← id']
      exact kind.searches'
    · rw [← id, ← id']
      exact kind.kinds

instance (r : SkyRctx) : Decidable r.Searches :=
  decidable_of_iff
    ((validateRequestCtx r).1 = true ∧ TIMESTAMP_2019_03_01 ≤ (r.header.time.toNat : ℤ) ∧
      (numCells r.numBeacons r.numAp ≠ 0 ∨ r.numAp ≠ 0))
    ⟨fun all => ⟨all.1, all.2.1, all.2.2⟩, fun searches =>
      ⟨searches.valid, searches.recent, searches.beacons⟩⟩

def twoRequests (first second : AddCall) : World :=
  (World.start 2).run bareEnv
    [.openSession bareOpen, .newRequest 0 sizeofSkyRctx [] 1600000000,
      .onCtx 0 (.addBeacon first 1600000000), .newRequest 1 sizeofSkyRctx [] 1600000000,
      .onCtx 1 (.addBeacon second 1600000000)]

def locate (id : ℕ) : Transaction :=
  ⟨id, SkyLocation.zero, .located, SkyLocation.zero, 1600000001, 1600000001⟩

def serialCalls : List Call :=
  [(locate 0).search, (locate 0).decode, (locate 1).search, (locate 1).decode]

def overlappingCalls : List Call :=
  [(locate 0).search, (locate 1).search, (locate 0).decode, (locate 1).decode]

def answersTo (w : World) (calls : List Call) : ℕ → Option DecodeResult :=
  (run (Answers.step16 bareEnv) ⟨w, fun _ => none⟩ calls).answer

def LocatesBoth (w : World) (calls : List Call) : Prop :=
  ∃ d₁ d₂, answersTo w calls 0 = some d₁ ∧ answersTo w calls 1 = some d₂ ∧ d₁.errno = .none ∧
    d₂.errno = .none ∧ CarryBoth (w.run16 bareEnv calls).sctx.cacheline d₁ d₂

theorem answersTo_located {w : World} {calls : List Call} {id : ℕ}
    (located : (answersTo w calls id).map (fun d => d.errno) = some .none) :
    ∃ d, answersTo w calls id = some d ∧ d.errno = .none :=
  Option.map_eq_some_iff.1 located

def apAndCell : World := twoRequests (apCall 1 (-50)) (.lte 1000 100000 310 10 5 2000 0 (-100) true)

theorem apAndCell_carryBoth :
    LocatesBoth apAndCell serialCalls ∧ LocatesBoth apAndCell overlappingCalls := by
  have whole : apAndCell.Whole 2 := World.run_whole bareEnv (World.start_whole 2) _
  have fresh (id : ℕ) (one : id = 0 ∨ id = 1) : ∃ r, apAndCell.ctx id = some r ∧ r.Searches := by
    have looks : (apAndCell.ctx id).map (fun r => decide r.Searches) = some true := by
      rcases one with rfl | rfl <;> decide +kernel
    simpa using Option.map_eq_some_iff.1 looks
  obtain ⟨r₁, ctx₁, fresh₁⟩ := fresh 0 (.inl rfl)
  obtain ⟨r₂, ctx₂, fresh₂⟩ := fresh 1 (.inr rfl)
  have empty : ∃ i j, i ≠ j ∧ EmptyAt apAndCell.sctx.cacheline i ∧
    EmptyAt apAndCell.sctx.cacheline j :=
    ⟨0, 1, by decide, by decide +kernel, by decide +kernel⟩
  constructor
  · obtain ⟨d₁, answer₁, located₁⟩ :=
      @answersTo_located apAndCell serialCalls 0 (by decide +kernel)
    obtain ⟨d₂, answer₂, located₂⟩ :=
      @answersTo_located apAndCell serialCalls 1 (by decide +kernel)
    have follows : Follows bareEnv apAndCell (locate 0) (locate 1) :=
      ⟨by decide +kernel, by decide +kernel⟩
    refine ⟨d₁, d₂, answer₁, answer₂, located₁, located₂, ?_⟩
    exact transactions_carryBoth bareEnv whole (by decide) (by decide +kernel) (by decide) ctx₁ ctx₂
      (.inl fresh₁) (.inl fresh₂) empty (.left _ (.left _ (.right _ (.right _ .nil))))
      (apart_of_follows bareEnv follows) answer₁ answer₂ located₁ located₂ (by decide) (by decide)
  · obtain ⟨d₁, answer₁, located₁⟩ :=
      @answersTo_located apAndCell overlappingCalls 0 (by decide +kernel)
    obtain ⟨d₂, answer₂, located₂⟩ :=
      @answersTo_located apAndCell overlappingCalls 1 (by decide +kernel)
    have kind : OtherKind apAndCell (locate 0) (locate 1) :=
      ⟨by decide +kernel, by decide +kernel, by decide +kernel⟩
    refine ⟨d₁, d₂, answer₁, answer₂, located₁, located₂, ?_⟩
    exact transactions_carryBoth bareEnv whole (by decide) (by decide +kernel) (by decide) ctx₁ ctx₂
      (.inl fresh₁) (.inl fresh₂) empty (.left _ (.right _ (.left _ (.right _ .nil))))
      (apart_of_otherKind bareEnv kind) answer₁ answer₂ located₁ located₂ (by decide) (by decide)

def twoAps : World := twoRequests (apCall 1 (-50)) (apCall 2 (-50))

/-- When both searches run first, both requests go to the same line and the first one is lost. -/
theorem twoAps_not_carryBoth :
    Interleaving [(locate 0).search, (locate 0).decode] [(locate 1).search, (locate 1).decode]
        overlappingCalls ∧
      (EmptyAt twoAps.sctx.cacheline 0 ∧ EmptyAt twoAps.sctx.cacheline 1) ∧
      ∃ d₁ d₂, answersTo twoAps overlappingCalls 0 = some d₁ ∧
        answersTo twoAps overlappingCalls 1 = some d₂ ∧
        d₁.errno = .none ∧ d₂.errno = .none ∧ d₁.loc.time = 1600000001 ∧ d₂.loc.time = 1600000001 ∧
        ¬ CarryBoth (twoAps.run16 bareEnv overlappingCalls).sctx.cacheline d₁ d₂ := by
  have located (id : ℕ) (one : id = 0 ∨ id = 1) :
      (answersTo twoAps overlappingCalls id).map (fun d => (d.errno, d.loc.time)) =
        some (.none, 1600000001) := by
    rcases one with rfl | rfl <;> decide +kernel
  have times : (twoAps.run16 bareEnv overlappingCalls).sctx.cacheline.map (fun cl => cl.time) =
      [0, 1600000001] := by decide +kernel
  obtain ⟨d₁, answer₁, located₁⟩ := Option.map_eq_some_iff.1 (located 0 (.inl rfl))
  obtain ⟨d₂, answer₂, located₂⟩ := Option.map_eq_some_iff.1 (located 1 (.inr rfl))
  obtain ⟨errno₁, time₁⟩ := Prod.mk.inj located₁
  obtain ⟨errno₂, time₂⟩ := Prod.mk.inj located₂
  refine ⟨.left _ (.right _ (.left _ (.right _ .nil))),
    ⟨by decide +kernel, by decide +kernel⟩, d₁, d₂, answer₁, answer₂, errno₁, errno₂,
    time₁, time₂, ?_⟩
  have second {k : ℕ} (filled : ([0, 1600000001] : List ℤ)[k]? = some 1600000001) : k = 1 := by
    rcases k with - | - | k
    · cases filled
    · rfl
    · cases filled
  have last {k : ℕ} {c : SkyCacheline}
      (here : (twoAps.run16 bareEnv overlappingCalls).sctx.cacheline[k]? = some c)
      (filled : c.time = 1600000001) : k = 1 := by
    apply second
    rw [← times, List.getElem?_map, here, Option.map_some, filled]
  rintro ⟨i, j, differ, ⟨cl, line, carries⟩, ⟨cl', line', carries'⟩⟩
  have first := last line (carries.time.trans time₁)
  exact differ (first.trans (last line' (carries'.time.trans time₂)).symm)

end EmbeddedClient
