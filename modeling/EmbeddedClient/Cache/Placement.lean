import EmbeddedClient.Cache.RoundTrip

/-!
# Where a search puts its request

A search remembers the line that the response will be stored in. While lines are empty,
a search for APs takes the last of them and a search for cells the first one.
-/

namespace EmbeddedClient

def EmptyAt (lines : List SkyCacheline) (i : ℕ) : Prop :=
  ∃ cl, lines[i]? = some cl ∧ cl.time = CACHE_EMPTY

structure LastEmpty (lines : List SkyCacheline) (i : ℕ) : Prop where
  empty : EmptyAt lines i
  last : ∀ j, EmptyAt lines j → j ≤ i

structure FirstEmpty (lines : List SkyCacheline) (i : ℕ) : Prop where
  empty : EmptyAt lines i
  first : ∀ j, EmptyAt lines j → i ≤ j

variable {lines : List SkyCacheline} {cl : SkyCacheline} {i j : ℕ}

theorem emptyAt_iff :
    EmptyAt lines i ↔ (lines.map fun cl => cl.time)[i]? = some CACHE_EMPTY := by
  rw [List.getElem?_map, Option.map_eq_some_iff]
  rfl

instance : Decidable (EmptyAt lines i) := decidable_of_iff _ emptyAt_iff.symm

theorem emptyAt_cons_zero : EmptyAt (cl :: lines) 0 ↔ cl.time = CACHE_EMPTY := by
  constructor
  · rintro ⟨c, line, empty⟩
    cases line
    exact empty
  · intro empty
    exact ⟨cl, rfl, empty⟩

theorem emptyAt_cons_succ : EmptyAt (cl :: lines) (i + 1) ↔ EmptyAt lines i := Iff.rfl

theorem LastEmpty.cons (last : LastEmpty lines i) (cl : SkyCacheline) :
    LastEmpty (cl :: lines) (i + 1) := by
  refine ⟨emptyAt_cons_succ.2 last.empty, ?_⟩
  intro j empty
  cases j with
  | zero => exact Nat.zero_le _
  | succ j => exact Nat.succ_le_succ (last.last j empty)

theorem FirstEmpty.cons (first : FirstEmpty lines i) (filled : cl.time ≠ CACHE_EMPTY) :
    FirstEmpty (cl :: lines) (i + 1) := by
  refine ⟨emptyAt_cons_succ.2 first.empty, ?_⟩
  intro j empty
  cases j with
  | zero => exact absurd (emptyAt_cons_zero.1 empty) filled
  | succ j => exact Nat.succ_le_succ (first.first j empty)

theorem firstEmpty_zero (empty : cl.time = CACHE_EMPTY) : FirstEmpty (cl :: lines) 0 :=
  ⟨emptyAt_cons_zero.2 empty, fun j _ => Nat.zero_le j⟩

theorem MatchScan.offers_bestput {replaces : ℚ → ℚ → Bool} {n : ℕ} {scan : MatchScan}
    {os : List (Option (ℚ × ℤ))}
    (stays : ∀ ratio threshold, some (ratio, threshold) ∈ os →
      replaces ratio scan.bestputratio = false) :
    (offers replaces n scan os).bestput = scan.bestput := by
  have kept : (offers replaces n scan os).bestput = scan.bestput ∧
      (offers replaces n scan os).bestputratio = scan.bestputratio := by
    apply offers_induction replaces
      (fun scan' => scan'.bestput = scan.bestput ∧ scan'.bestputratio = scan.bestputratio) le_rfl
        _ ⟨rfl, rfl⟩
    rintro scan' j - o member ⟨put, ratio⟩
    cases o with
    | none => exact ⟨put, ratio⟩
    | some score =>
      have stay := stays score.1 score.2 member
      have passed : scan'.offer replaces j (some score) = scan'.better j score.1 score.2 := by
        simp [MatchScan.offer, ratio, stay]
      rw [passed]
      unfold MatchScan.better
      split_ifs <;> exact ⟨put, ratio⟩
  exact kept.1

namespace ApPlugin

theorem emptyLine_cases (scan : MatchScan) (n : ℕ) (lines : List SkyCacheline) :
    (∃ i, LastEmpty lines i ∧ emptyLine scan n lines =
        { scan with bestput := ((n + i : ℕ) : ℤ), bestputratio := 0 }) ∨
      ((∀ i, ¬ EmptyAt lines i) ∧ emptyLine scan n lines = scan) := by
  induction lines generalizing scan n with
  | nil => exact .inr ⟨fun i ⟨cl, line, _⟩ => by simp at line, rfl⟩
  | cons cl cls ih =>
    unfold emptyLine
    split_ifs with empty
    · rcases ih { scan with bestput := n, bestputratio := 0 } (n + 1) with
        ⟨i, last, eq⟩ | ⟨none, eq⟩
      · refine .inl ⟨i + 1, last.cons cl, ?_⟩
        rw [eq, show n + 1 + i = n + (i + 1) by omega]
      · refine .inl ⟨0, ⟨emptyAt_cons_zero.2 empty, ?_⟩, eq⟩
        intro j found
        cases j with
        | zero => exact le_rfl
        | succ j => exact absurd found (none j)
    · rcases ih scan (n + 1) with ⟨i, last, eq⟩ | ⟨none, eq⟩
      · refine .inl ⟨i + 1, last.cons cl, ?_⟩
        rw [eq, show n + 1 + i = n + (i + 1) by omega]
      · refine .inr ⟨?_, eq⟩
        intro j found
        cases j with
        | zero => exact empty (emptyAt_cons_zero.1 found)
        | succ j => exact none j found

theorem scoreLine_nonneg {distance : Distance} {s : SkySctx} {r : SkyRctx} {ratio : ℚ}
    {threshold : ℤ} (score : scoreLine distance s r cl = some (ratio, threshold)) : 0 ≤ ratio := by
  unfold scoreLine at score
  split_ifs at score
  · rw [Option.some.injEq, Prod.mk.injEq] at score
    rw [← score.1]
    exact Binary32.round_nonneg (by positivity)
  · rw [Option.some.injEq, Prod.mk.injEq] at score
    exact score.1.le

/-- No line is worse to keep than an empty one. -/
theorem scoreLines_bestput (distance : Distance) (s : SkySctx) (r : SkyRctx) (n : ℕ)
    (scan : MatchScan) (full : scan.bestputratio = 0) (lines : List SkyCacheline) :
    (scoreLines distance s r n scan lines).bestput = scan.bestput := by
  rw [scoreLines_eq]
  apply MatchScan.offers_bestput
  intro ratio threshold offered
  obtain ⟨cl, -, score⟩ := List.mem_map.1 offered
  have nonneg := scoreLine_nonneg score
  simpa [full] using nonneg

/-- A search for APs puts the request into the last empty line. -/
theorem cacheMatch_saveTo (distance : Distance) (s : SkySctx) {r : SkyRctx} (aps : r.numAp ≠ 0)
    {i : ℕ} (empty : EmptyAt (s.expire r).lines i) :
    ∃ k : ℕ, LastEmpty (s.expire r).lines k ∧ (cacheMatch distance s r).2.2.saveTo = k := by
  unfold cacheMatch
  rw [if_neg aps]
  dsimp only
  rcases emptyLine_cases ⟨0, 1, -1, -1, 0⟩ 0 (s.expire r).lines with ⟨k, last, eq⟩ | ⟨none, -⟩
  · refine ⟨k, last, ?_⟩
    have put := scoreLines_bestput distance (s.expire r) r 0
      (emptyLine ⟨0, 1, -1, -1, 0⟩ 0 (s.expire r).lines) (by rw [eq]) (s.expire r).lines
    rw [eq, Nat.zero_add] at put
    rw [eq, Nat.zero_add]
    split_ifs <;> exact put
  · exact absurd empty (none i)

end ApPlugin

namespace CellPlugin

theorem emptyLine_full {scan : MatchScan} (full : scan.bestputratio = 1) (n : ℕ)
    (lines : List SkyCacheline) : emptyLine scan n lines = scan := by
  induction lines generalizing n with
  | nil => rfl
  | cons cl cls ih =>
    unfold emptyLine
    rw [if_neg fun both => by rw [full] at both; exact lt_irrefl _ both.2]
    exact ih (n + 1)

theorem emptyLine_cases (scan : MatchScan) (free : scan.bestputratio < 1) (n : ℕ)
    (lines : List SkyCacheline) :
    (∃ i, FirstEmpty lines i ∧ emptyLine scan n lines =
        { scan with bestput := ((n + i : ℕ) : ℤ), bestputratio := 1 }) ∨
      ((∀ i, ¬ EmptyAt lines i) ∧ emptyLine scan n lines = scan) := by
  induction lines generalizing n with
  | nil => exact .inr ⟨fun i ⟨cl, line, _⟩ => by simp at line, rfl⟩
  | cons cl cls ih =>
    unfold emptyLine
    by_cases empty : cl.time = CACHE_EMPTY
    · rw [if_pos ⟨empty, free⟩, emptyLine_full rfl]
      exact .inl ⟨0, firstEmpty_zero empty, rfl⟩
    · rw [if_neg fun both => empty both.1]
      rcases ih (n + 1) with ⟨i, first, eq⟩ | ⟨none, eq⟩
      · refine .inl ⟨i + 1, first.cons empty, ?_⟩
        rw [eq, show n + 1 + i = n + (i + 1) by omega]
      · refine .inr ⟨?_, eq⟩
        intro j found
        cases j with
        | zero => exact empty (emptyAt_cons_zero.1 found)
        | succ j => exact none j found

theorem scoreLine_le_one {distance : Distance} {s : SkySctx} {r : SkyRctx} {ratio : ℚ}
    {threshold : ℤ} (score : scoreLine distance s r cl = some (ratio, threshold)) : ratio ≤ 1 := by
  unfold scoreLine at score
  split_ifs at score <;> rw [Option.some.injEq, Prod.mk.injEq] at score <;> rw [← score.1]
  exact zero_le_one

theorem scoreLines_bestput (distance : Distance) (s : SkySctx) (r : SkyRctx) (n : ℕ)
    (scan : MatchScan) (full : scan.bestputratio = 1) (lines : List SkyCacheline) :
    (scoreLines distance s r n scan lines).bestput = scan.bestput := by
  rw [scoreLines_eq]
  apply MatchScan.offers_bestput
  intro ratio threshold offered
  obtain ⟨cl, -, score⟩ := List.mem_map.1 offered
  have atMost := scoreLine_le_one score
  simpa [full] using atMost

theorem cacheMatch_saveTo (distance : Distance) (s : SkySctx) {r : SkyRctx}
    (cells : numCells r.numBeacons r.numAp ≠ 0) {i : ℕ} (empty : EmptyAt (s.expire r).lines i) :
    ∃ k : ℕ, FirstEmpty (s.expire r).lines k ∧ (cacheMatch distance s r).2.2.saveTo = k := by
  unfold cacheMatch
  simp only [if_neg cells]
  rcases emptyLine_cases ⟨0, 0, -1, -1, 0⟩ zero_lt_one 0 (s.expire r).lines with
    ⟨k, first, eq⟩ | ⟨none, -⟩
  · refine ⟨k, first, ?_⟩
    rw [scoreLines_bestput distance (s.expire r) r 0 _ (by rw [eq]), eq, Nat.zero_add]
  · exact absurd empty (none i)

end CellPlugin

/-- Every line takes part in the searches, and the plugins are registered. -/
structure SkySctx.Searchable (s : SkySctx) : Prop where
  plugins : s.plugins = skyRegisterPlugins
  whole : s.numCachelines = s.cacheline.length

/-- A request whose search looks at the cache. -/
structure SkyRctx.Searches (r : SkyRctx) : Prop where
  valid : (validateRequestCtx r).1 = true
  recent : TIMESTAMP_2019_03_01 ≤ (r.header.time.toNat : ℤ)
  beacons : numCells r.numBeacons r.numAp ≠ 0 ∨ r.numAp ≠ 0

variable {s s' : SkySctx} {r r' : SkyRctx}

theorem SkySctx.Searchable.lines_eq (searchable : s.Searchable) : s.lines = s.cacheline := by
  unfold SkySctx.lines
  rw [searchable.whole, Int.toNat_natCast, List.take_length]

theorem SkySctx.Searchable.cacheline_expire (searchable : s.Searchable) (r : SkyRctx) :
    (s.expire r).cacheline =
      s.cacheline.map (SkyCacheline.expire s.config.ageLimit r.header.time) := by
  have behind : s.cacheline.drop s.numCachelines.toNat = [] := by
    rw [searchable.whole, Int.toNat_natCast, List.drop_length]
  unfold SkySctx.expire SkySctx.mapLines
  dsimp only
  rw [searchable.lines_eq, behind, List.append_nil]

theorem SkySctx.Searchable.expire (searchable : s.Searchable) (r : SkyRctx) :
    (s.expire r).Searchable := by
  refine ⟨searchable.plugins, ?_⟩
  rw [searchable.cacheline_expire, List.length_map]
  exact searchable.whole

theorem SkyCacheline.expire_expire (limit : ℕ) (now : UInt32) (cl : SkyCacheline) :
    (cl.expire limit now).expire limit now = cl.expire limit now := by
  by_cases late : cl.time ≠ CACHE_EMPTY ∧ (limit : ℤ) < now.toNat - cl.time
  · have emptied : cl.expire limit now = { cl with time := CACHE_EMPTY } := if_pos late
    rw [emptied]
    exact if_neg fun both => both.1 rfl
  · have same : cl.expire limit now = cl := if_neg late
    rw [same, same]

theorem EmptyAt.expire {limit : ℕ} {now : UInt32} (empty : EmptyAt lines i) :
    EmptyAt (lines.map (SkyCacheline.expire limit now)) i := by
  obtain ⟨cl, line, time⟩ := empty
  have same : cl.expire limit now = cl := if_neg fun both => both.1 time
  exact ⟨cl, by rw [List.getElem?_map, line, Option.map_some, same], time⟩

theorem ApPlugin.cacheMatch_status (distance : Distance) (s : SkySctx) (aps : r.numAp ≠ 0) :
    (ApPlugin.cacheMatch distance s r).1 = .success := by
  unfold ApPlugin.cacheMatch
  rw [if_neg aps]
  dsimp only
  split_ifs <;> rfl

theorem CellPlugin.cacheMatch_status (distance : Distance) (s : SkySctx)
    (cells : numCells r.numBeacons r.numAp ≠ 0) :
    (CellPlugin.cacheMatch distance s r).1 = .success := by
  unfold CellPlugin.cacheMatch
  simp only [if_neg cells]

theorem SkySctx.Searchable.expire_expire (searchable : s.Searchable) (r : SkyRctx) :
    ((s.expire r).expire r).cacheline = (s.expire r).cacheline := by
  rw [(searchable.expire r).cacheline_expire, searchable.cacheline_expire, List.map_map]
  exact List.map_congr_left fun cl _ => cl.expire_expire ..

/-- What a search does to the lines, and where it puts the request. -/
structure Searched (s : SkySctx) (r : SkyRctx) (s' : SkySctx) (r' : SkyRctx) : Prop where
  cacheline : s'.cacheline = s.cacheline.map (SkyCacheline.expire s.config.ageLimit r.header.time)
  aps : r.numAp ≠ 0 → ∃ k : ℕ, LastEmpty s'.cacheline k ∧ r'.saveTo = k
  cells : r.numAp = 0 → numCells r.numBeacons r.numAp ≠ 0 →
    ∃ k : ℕ, FirstEmpty s'.cacheline k ∧ r'.saveTo = k
  gnss : r.numAp = 0 → numCells r.numBeacons r.numAp = 0 → r'.saveTo = r.saveTo

theorem skyPluginMatchCache_searched (distance : Distance) (searchable : s.Searchable)
    (empty : EmptyAt (s.cacheline.map (SkyCacheline.expire s.config.ageLimit r.header.time)) i) :
    Searched s r (skyPluginMatchCache distance skyRegisterPlugins s r).2.1
      (skyPluginMatchCache distance skyRegisterPlugins s r).2.2 := by
  have expired := searchable.expire r
  have lines := searchable.cacheline_expire r
  have twice := searchable.expire_expire r
  have empty' : EmptyAt (s.expire r).lines i := by
    rwa [expired.lines_eq, lines]
  have empty'' : EmptyAt ((s.expire r).expire r).lines i := by
    rw [(expired.expire r).lines_eq, twice, ← expired.lines_eq]
    exact empty'
  by_cases aps : r.numAp = 0
  · rw [skyPluginMatchCache_noAps distance s aps]
    by_cases cells : numCells r.numBeacons r.numAp = 0
    · have noAnswer : CellPlugin.cacheMatch distance (s.expire r) r =
          (.error, (s.expire r).expire r, r) := by
        unfold CellPlugin.cacheMatch
        simp only [if_pos cells]
      generalize CellPlugin.cacheMatch distance (s.expire r) r = found at noAnswer ⊢
      subst noAnswer
      exact ⟨twice.trans lines, fun some => absurd aps some, fun _ some => absurd cells some,
        fun _ _ => rfl⟩
    · have answered := CellPlugin.cacheMatch_status distance (s.expire r) cells
      have session := CellPlugin.cacheMatch_sctx distance (s.expire r) r
      obtain ⟨k, first, put⟩ := CellPlugin.cacheMatch_saveTo distance (s.expire r) cells empty''
      rw [(expired.expire r).lines_eq] at first
      generalize CellPlugin.cacheMatch distance (s.expire r) r = found at answered session put ⊢
      rw [answered]
      refine ⟨?_, fun some => absurd aps some, fun _ _ => ⟨k, ?_, put⟩,
        fun _ none => absurd none cells⟩
      · rw [session, twice, lines]
      · rw [session]
        exact first
  · rw [skyPluginMatchCache_registered]
    have answered := ApPlugin.cacheMatch_status distance s aps
    have session := ApPlugin.cacheMatch_sctx distance s r
    obtain ⟨k, last, put⟩ := ApPlugin.cacheMatch_saveTo distance s aps empty'
    rw [expired.lines_eq] at last
    generalize ApPlugin.cacheMatch distance s r = found at answered session put ⊢
    rw [answered]
    refine ⟨?_, fun _ => ⟨k, ?_, put⟩, fun none => absurd none aps, fun none => absurd none aps⟩
    · rw [session, lines]
    · rw [session]
      exact last

theorem searchCache_searched (distance : Distance) (searchable : s.Searchable)
    (empty : EmptyAt (s.cacheline.map (SkyCacheline.expire s.config.ageLimit r.header.time)) i)
    (recent : TIMESTAMP_2019_03_01 ≤ (r.header.time.toNat : ℤ)) :
    Searched s r (searchCache distance s r).1 (searchCache distance s r).2 := by
  have filled : ¬ s.numCachelines < 1 := by
    obtain ⟨cl, line, -⟩ := empty
    have inside := (List.getElem?_eq_some_iff.1 line).1
    rw [List.length_map] at inside
    rw [searchable.whole]
    omega
  have searched := skyPluginMatchCache_searched distance searchable empty
  rw [searchCache_eq distance recent filled, searchable.plugins]
  dsimp only at searched ⊢
  split
  · exact searched
  · exact ⟨searched.cacheline, searched.aps, searched.cells, searched.gnss⟩

variable {loc : SkyLocation}

theorem skySearchCache_searchable (distance : Distance) (searchable : s.Searchable) (r : SkyRctx)
    (loc : SkyLocation) : (skySearchCache distance s r loc).sctx.Searchable := by
  have same := (same_skySearchCache distance s r loc).1
  refine ⟨same.plugins.trans searchable.plugins, ?_⟩
  have length := congrArg List.length same.lines
  rw [List.length_map, List.length_map] at length
  rw [same.numCachelines, length]
  exact searchable.whole

theorem skySearchCache_searched (distance : Distance) (searchable : s.Searchable)
    (empty : EmptyAt (s.cacheline.map (SkyCacheline.expire s.config.ageLimit r.header.time)) i)
    (valid : (validateRequestCtx r).1 = true)
    (recent : TIMESTAMP_2019_03_01 ≤ (r.header.time.toNat : ℤ)) (loc : SkyLocation) :
    Searched s r (skySearchCache distance s r loc).sctx (skySearchCache distance s r loc).rctx := by
  obtain ⟨bs, checked⟩ := validateRequestCtx_rest r
  have searched :
      Searched s (validateRequestCtx r).2 (searchCache distance s (validateRequestCtx r).2).1
      (searchCache distance s (validateRequestCtx r).2).2 :=
    searchCache_searched distance searchable (by rw [checked]; exact empty)
      (by rw [checked]; exact recent)
  rw [skySearchCache_valid valid]
  rw [checked] at searched ⊢
  dsimp only
  split_ifs
  · exact ⟨searched.cacheline, searched.aps, searched.cells, searched.gnss⟩
  · exact ⟨searched.cacheline, searched.aps, searched.cells, searched.gnss⟩

theorem skySearchCache_passed (distance : Distance) (s : SkySctx) (loc : SkyLocation)
    (passed : ¬ ((validateRequestCtx r).1 = true ∧
      TIMESTAMP_2019_03_01 ≤ (r.header.time.toNat : ℤ))) :
    (skySearchCache distance s r loc).sctx.cacheline = s.cacheline ∧
      (skySearchCache distance s r loc).rctx.saveTo = r.saveTo := by
  obtain ⟨bs, checked⟩ := validateRequestCtx_rest r
  by_cases valid : (validateRequestCtx r).1 = true
  · have early : searchCache distance s (validateRequestCtx r).2 =
        (s, { (validateRequestCtx r).2 with getFrom := -1, hit := false }) := by
      refine if_pos (.inr ?_)
      rw [checked]
      have old := mt (And.intro valid) passed
      dsimp only
      omega
    rw [skySearchCache_valid valid, early]
    rw [checked]
    exact ⟨rfl, rfl⟩
  · unfold skySearchCache
    dsimp only
    rw [if_pos (by simpa using valid), checked]
    exact ⟨rfl, rfl⟩

theorem skySearchCache_cases (distance : Distance) (searchable : s.Searchable)
    (empty : EmptyAt s.cacheline i) (r : SkyRctx) (loc : SkyLocation) :
    Searched s r (skySearchCache distance s r loc).sctx (skySearchCache distance s r loc).rctx ∨
      ¬ ((validateRequestCtx r).1 = true ∧ TIMESTAMP_2019_03_01 ≤ (r.header.time.toNat : ℤ)) ∧
        (skySearchCache distance s r loc).sctx.cacheline = s.cacheline ∧
          (skySearchCache distance s r loc).rctx.saveTo = r.saveTo := by
  by_cases looks : (validateRequestCtx r).1 = true ∧
    TIMESTAMP_2019_03_01 ≤ (r.header.time.toNat : ℤ)
  · exact .inl (skySearchCache_searched distance searchable empty.expire looks.1 looks.2 loc)
  · exact .inr ⟨looks, skySearchCache_passed distance s loc looks⟩

theorem skySearchCache_line (distance : Distance) (searchable : s.Searchable)
    (empty : EmptyAt s.cacheline i) (loc : SkyLocation) (line : s.cacheline[j]? = some cl)
    (young : (r.header.time.toNat : ℤ) - cl.time ≤ s.config.ageLimit) :
    (skySearchCache distance s r loc).sctx.cacheline[j]? = some cl := by
  rcases skySearchCache_cases distance searchable empty r loc with searched | ⟨-, same, -⟩
  · rw [searched.cacheline, List.getElem?_map, line, Option.map_some,
      SkyCacheline.expire_of_unexpired young]
  · rwa [same]

theorem skySearchCache_emptyAt (distance : Distance) (searchable : s.Searchable)
    (empty : EmptyAt s.cacheline i) (r : SkyRctx) (loc : SkyLocation) :
    EmptyAt (skySearchCache distance s r loc).sctx.cacheline i := by
  rcases skySearchCache_cases distance searchable empty r loc with searched | ⟨-, same, -⟩
  · rw [searched.cacheline]
    exact empty.expire
  · rwa [same]

theorem skySearchCache_placed (distance : Distance) (searchable : s.Searchable)
    (empty : EmptyAt s.cacheline i) (fresh : r.Searches ∨ r.saveTo = -1) (loc : SkyLocation) :
    (skySearchCache distance s r loc).rctx.saveTo = -1 ∨
      ∃ k : ℕ, EmptyAt (skySearchCache distance s r loc).sctx.cacheline k ∧
        (skySearchCache distance s r loc).rctx.saveTo = k := by
  rcases skySearchCache_cases distance searchable empty r loc with searched | ⟨passed, -, same⟩
  · by_cases aps : r.numAp = 0
    · by_cases cells : numCells r.numBeacons r.numAp = 0
      · left
        rw [searched.gnss aps cells]
        refine fresh.resolve_left fun looks => ?_
        rcases looks.beacons with some | some
        · exact some cells
        · exact some aps
      · obtain ⟨k, first, put⟩ := searched.cells aps cells
        exact .inr ⟨k, first.empty, put⟩
    · obtain ⟨k, last, put⟩ := searched.aps aps
      exact .inr ⟨k, last.empty, put⟩
  · left
    rw [same]
    exact fresh.resolve_left fun looks => passed ⟨looks.valid, looks.recent⟩

end EmbeddedClient
