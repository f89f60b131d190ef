import EmbeddedClient.Model.PluginList

/-!
# The dispatch over the plugins

Every `sky_plugin_*` function asks one plugin after the other until one succeeds. So what each
entry point keeps, the whole dispatch keeps.
-/

namespace EmbeddedClient

variable {α : Type*}

/-- The entry points of the tables of a list, up to the first success. -/
def dispatchList {σ : Type*} (entry : α → Option (σ → SkyStatus × σ)) : List α → σ → SkyStatus × σ
  | [], s => (.error, s)
  | p :: ps, s =>
    let result := callEntry (entry p) s
    if result.1 ≠ .error then result else dispatchList entry ps result.2

variable {β γ σ : Type*} {entry : α → Option (σ → SkyStatus × σ)}

theorem dispatchList_map (entry : α → Option (σ → SkyStatus × σ)) (f : γ → α) (l : List γ) (s : σ) :
    dispatchList entry (l.map f) s = dispatchList (fun p => entry (f p)) l s := by
  induction l generalizing s with
  | nil => rfl
  | cons p ps ih => rw [List.map_cons, dispatchList, dispatchList, ih]

theorem dispatchList_induction (motive : σ → Prop)
    (step : ∀ p s, motive s → motive (callEntry (entry p) s).2) (l : List α) {s : σ}
    (start : motive s) :
    motive (dispatchList entry l s).2 := by
  induction l generalizing s with
  | nil => exact start
  | cons p ps ih =>
    have first := step p s start
    unfold dispatchList
    dsimp only
    split_ifs
    · exact first
    · exact ih first

/-- A function that goes on behind a table exactly if its entry point fails is the dispatch. -/
theorem eq_dispatchList (f : List α → σ → SkyStatus × σ)
    (nil : ∀ s, f [] s = (.error, s))
    (success : ∀ p ps s, (callEntry (entry p) s).1 = .success →
      f (p :: ps) s = callEntry (entry p) s)
    (error : ∀ p ps s, (callEntry (entry p) s).1 = .error →
      f (p :: ps) s = f ps (callEntry (entry p) s).2)
    (l : List α) (s : σ) : f l s = dispatchList entry l s := by
  induction l generalizing s with
  | nil => exact nil s
  | cons p ps ih =>
    unfold dispatchList
    dsimp only
    cases status : (callEntry (entry p) s).1 with
    | success =>
      rw [if_pos (by decide)]
      exact success p ps s status
    | error =>
      rw [if_neg (by decide), ← ih]
      exact error p ps s status

theorem skyPluginRemoveWorst_eq (s : SkySctx) (plugins : List SkyPluginTable) (r : SkyRctx) :
    skyPluginRemoveWorst s plugins r = dispatchList
      (fun p => some (p.removeWorst s)) plugins r := by
  apply eq_dispatchList (skyPluginRemoveWorst s)
  · exact fun r => rfl
  · intro p ps r success
    have status : (p.removeWorst s r).1 = .success := success
    rw [skyPluginRemoveWorst, status]
    rfl
  · intro p ps r error
    have status : (p.removeWorst s r).1 = .error := error
    rw [skyPluginRemoveWorst, status]
    rfl

theorem skyPluginMatchCache_eq (distance : Distance) (plugins : List SkyPluginTable) (s : SkySctx)
    (r : SkyRctx) :
    skyPluginMatchCache distance plugins s r =
      dispatchList (fun p => some fun sr => p.cacheMatch distance sr.1 sr.2) plugins (s, r) := by
  refine eq_dispatchList (fun plugins sr => skyPluginMatchCache distance plugins sr.1 sr.2) ?_
    ?_ ?_ plugins
    (s, r)
  · exact fun sr => rfl
  · intro p ps sr success
    have status : (p.cacheMatch distance sr.1 sr.2).1 = .success := success
    rw [skyPluginMatchCache, status]
    rfl
  · intro p ps sr error
    have status : (p.cacheMatch distance sr.1 sr.2).1 = .error := error
    rw [skyPluginMatchCache, status]
    rfl

def addToCacheEntry (r : SkyRctx) (loc : SkyLocation) :
    SkyPluginTable → Option (SkySctx → SkyStatus × SkySctx)
  | .apPluginBasic => some fun s => ApPlugin.toCache s r loc
  | .cellPluginBasic => none

theorem skyPluginAddToCache_eq (plugins : List SkyPluginTable) (s : SkySctx) (r : SkyRctx)
    (loc : SkyLocation) :
    skyPluginAddToCache plugins s r loc = dispatchList (addToCacheEntry r loc) plugins s := by
  apply eq_dispatchList fun plugins s => skyPluginAddToCache plugins s r loc
  · exact fun s => rfl
  · intro p ps s success
    cases p with
    | apPluginBasic =>
      have status : (ApPlugin.toCache s r loc).1 = .success := success
      rw [skyPluginAddToCache, status]
      rfl
    | cellPluginBasic => contradiction
  · intro p ps s error
    cases p with
    | apPluginBasic =>
      have status : (ApPlugin.toCache s r loc).1 = .error := error
      rw [skyPluginAddToCache, status]
      rfl
    | cellPluginBasic => rfl

def answering (answer : Option β) (s : β) : SkyStatus × β :=
  answer.elim (.error, s) fun b => (.success, b)

theorem findSome?_eq_dispatchList (answer : α → Option β) (l : List α) (s : β) :
    answering (l.findSome? answer) s = dispatchList (fun p => some (answering (answer p))) l s := by
  apply eq_dispatchList fun l s => answering (l.findSome? answer) s
  · exact fun s => rfl
  · intro p ps s success
    cases first : answer p with
    | none => simp [callEntry, answering, first] at success
    | some b => simp [callEntry, answering, first]
  · intro p ps s error
    cases first : answer p with
    | none => simp [callEntry, answering, first]
    | some b => simp [callEntry, answering, first] at error

theorem skyPluginEqual_eq (plugins : List SkyPluginTable) (a b : Beacon) (same : Bool) :
    answering (skyPluginEqual plugins a b) same =
      dispatchList (fun p => some (answering (p.equal a b))) plugins same :=
  findSome?_eq_dispatchList ..

theorem skyPluginCompare_eq (plugins : List SkyPluginTable) (a b : Beacon)
    (left : ℤ × Beacon × Beacon) :
    answering (skyPluginCompare plugins a b) left =
      dispatchList (fun p => some (answering (p.compare a b))) plugins left :=
  findSome?_eq_dispatchList ..

variable {s : SkySctx} {r : SkyRctx}

theorem ApPlugin.cacheMatch_sctx (distance : Distance) (s : SkySctx) (r : SkyRctx) :
    (ApPlugin.cacheMatch distance s r).2.1 = s.expire r := by
  unfold ApPlugin.cacheMatch
  dsimp only
  split_ifs <;> rfl

theorem CellPlugin.cacheMatch_sctx (distance : Distance) (s : SkySctx) (r : SkyRctx) :
    (CellPlugin.cacheMatch distance s r).2.1 = s.expire r := by
  unfold CellPlugin.cacheMatch
  dsimp only
  split_ifs <;> rfl

theorem cacheMatch_sctx (p : SkyPluginTable) (distance : Distance) (s : SkySctx) (r : SkyRctx) :
    (p.cacheMatch distance s r).2.1 = s.expire r := by
  cases p with
  | apPluginBasic => exact ApPlugin.cacheMatch_sctx distance s r
  | cellPluginBasic => exact CellPlugin.cacheMatch_sctx distance s r

theorem cacheMatch_rctx (p : SkyPluginTable) (distance : Distance) (s : SkySctx) (r : SkyRctx) :
    ∃ hit getFrom saveTo, (p.cacheMatch distance s r).2.2 =
      { r with hit := hit, getFrom := getFrom, saveTo := saveTo } := by
  cases p with
  | apPluginBasic =>
    unfold SkyPluginTable.cacheMatch ApPlugin.cacheMatch
    dsimp only
    split_ifs <;> exact ⟨_, _, _, rfl⟩
  | cellPluginBasic =>
    unfold SkyPluginTable.cacheMatch CellPlugin.cacheMatch
    dsimp only
    split_ifs <;> exact ⟨_, _, _, rfl⟩

theorem toCache_sctx (s : SkySctx) (r : SkyRctx) (loc : SkyLocation) :
    ∃ cacheline, (ApPlugin.toCache s r loc).2 = { s with cacheline := cacheline } := by
  unfold ApPlugin.toCache
  dsimp only
  split_ifs <;> exact ⟨_, rfl⟩

theorem skyPluginRemoveWorst_induction (motive : SkyRctx → Prop)
    (step : ∀ (p : SkyPluginTable) r, motive r → motive (p.removeWorst s r).2)
    (plugins : List SkyPluginTable) (start : motive r) :
    motive (skyPluginRemoveWorst s plugins r).2 := by
  rw [skyPluginRemoveWorst_eq]
  exact dispatchList_induction motive step plugins start

theorem skyPluginMatchCache_induction {distance : Distance} (motive : SkySctx → SkyRctx → Prop)
    (step : ∀ (p : SkyPluginTable) s r, motive s r →
      motive (p.cacheMatch distance s r).2.1 (p.cacheMatch distance s r).2.2)
    (plugins : List SkyPluginTable) (start : motive s r) :
    motive (skyPluginMatchCache distance plugins s r).2.1
      (skyPluginMatchCache distance plugins s r).2.2 := by
  rw [skyPluginMatchCache_eq]
  apply dispatchList_induction (fun sr : SkySctx × SkyRctx => motive sr.1 sr.2) _ plugins start
  exact fun p sr => step p sr.1 sr.2

/-- Only the AP plugin stores a response. -/
theorem skyPluginAddToCache_induction {loc : SkyLocation} (motive : SkySctx → Prop)
    (step : ∀ s, motive s → motive (ApPlugin.toCache s r loc).2) (plugins : List SkyPluginTable)
    (start : motive s) : motive (skyPluginAddToCache plugins s r loc).2 := by
  rw [skyPluginAddToCache_eq]
  apply dispatchList_induction motive _ plugins start
  intro p s kept
  cases p with
  | apPluginBasic => exact step s kept
  | cellPluginBasic => exact kept

theorem skyPluginMatchCache_rctx (distance : Distance) (plugins : List SkyPluginTable)
    (s : SkySctx) (r : SkyRctx) :
    ∃ hit getFrom saveTo, (skyPluginMatchCache distance plugins s r).2.2 =
      { r with hit := hit, getFrom := getFrom, saveTo := saveTo } := by
  apply skyPluginMatchCache_induction (fun _ r' => ∃ hit getFrom saveTo, r' =
    { r with hit := hit, getFrom := getFrom, saveTo := saveTo }) _ plugins ⟨r.hit, r.getFrom,
    r.saveTo, rfl⟩
  rintro p s _ ⟨_, _, _, rfl⟩
  obtain ⟨hit, getFrom, saveTo, searched⟩ := cacheMatch_rctx p distance s _
  exact ⟨hit, getFrom, saveTo, searched⟩

theorem skyPluginAddToCache_sctx (plugins : List SkyPluginTable) (s : SkySctx) (r : SkyRctx)
    (loc : SkyLocation) :
    ∃ cacheline, (skyPluginAddToCache plugins s r loc).2 = { s with cacheline := cacheline } := by
  apply skyPluginAddToCache_induction
    (fun s' => ∃ cacheline, s' = { s with cacheline := cacheline }) _ plugins
    ⟨s.cacheline, rfl⟩
  rintro _ ⟨_, rfl⟩
  obtain ⟨cacheline, stored⟩ := toCache_sctx _ r loc
  exact ⟨cacheline, stored⟩

end EmbeddedClient
