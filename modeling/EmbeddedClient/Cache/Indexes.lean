import EmbeddedClient.Cache.Scan
import EmbeddedClient.Model.Indexes
import EmbeddedClient.Session.Frame

/-!
# The line indexes of a request

A search leaves two line indexes in the request: the line that matches and the line to
save to. Both come from loops over the lines in use, so they are below their number, or
`-1` where the search has no line. Fields of 16 bits hold them for up to `2 ^ 15` lines.
-/

namespace EmbeddedClient

def LineIndex (n : ℕ) (i : ℤ) : Prop := -1 ≤ i ∧ i < n

structure SkyRctx.Indexed (n : ℕ) (r : SkyRctx) : Prop where
  getFrom : LineIndex n r.getFrom
  saveTo : LineIndex n r.saveTo

structure MatchScan.Indexed (n : ℕ) (scan : MatchScan) : Prop where
  bestc : LineIndex n scan.bestc
  bestput : LineIndex n scan.bestput

variable {n i : ℕ}

theorem lineIndex_none (n : ℕ) : LineIndex n (-1) := by
  constructor <;> omega

theorem lineIndex_some (below : i < n) : LineIndex n i := by
  constructor <;> omega

variable {scan : MatchScan}

theorem MatchScan.Indexed.put (indexed : scan.Indexed n) (below : i < n) (ratio : ℚ) :
    MatchScan.Indexed n { scan with bestput := i, bestputratio := ratio } :=
  ⟨indexed.bestc, lineIndex_some below⟩

theorem MatchScan.Indexed.better (indexed : scan.Indexed n) (below : i < n) (ratio : ℚ)
    (threshold : ℤ) : (scan.better i ratio threshold).Indexed n := by
  unfold MatchScan.better
  split_ifs
  · exact ⟨lineIndex_some below, indexed.bestput⟩
  · exact indexed

theorem MatchScan.Indexed.offers (indexed : scan.Indexed n) (replaces : ℚ → ℚ → Bool)
    {os : List (Option (ℚ × ℤ))} (below : i + os.length ≤ n) :
    (MatchScan.offers replaces i scan os).Indexed n := by
  apply MatchScan.offers_induction replaces (MatchScan.Indexed n) below _ indexed
  intro scan j range o _ indexed
  cases o with
  | none => exact indexed
  | some score =>
    apply MatchScan.Indexed.better _ range
    split_ifs
    · exact indexed.put range _
    · exact indexed

namespace ApPlugin

theorem emptyLine_indexed (indexed : scan.Indexed n) (lines : List SkyCacheline)
    (below : i + lines.length ≤ n) : (emptyLine scan i lines).Indexed n := by
  induction lines generalizing scan i with
  | nil => exact indexed
  | cons cl cls ih =>
    rw [List.length_cons] at below
    unfold emptyLine
    split_ifs
    · exact ih (indexed.put (by omega) 0) (by omega)
    · exact ih indexed (by omega)

theorem scoreLines_indexed (distance : Distance) (s : SkySctx) (r : SkyRctx)
    (indexed : scan.Indexed n) (lines : List SkyCacheline) (below : i + lines.length ≤ n) :
    (scoreLines distance s r i scan lines).Indexed n := by
  rw [scoreLines_eq]
  exact indexed.offers _ (by simpa using below)

end ApPlugin

namespace CellPlugin

theorem emptyLine_indexed (indexed : scan.Indexed n) (lines : List SkyCacheline)
    (below : i + lines.length ≤ n) : (emptyLine scan i lines).Indexed n := by
  induction lines generalizing scan i with
  | nil => exact indexed
  | cons cl cls ih =>
    rw [List.length_cons] at below
    unfold emptyLine
    split_ifs
    · exact ih (indexed.put (by omega) 1) (by omega)
    · exact ih indexed (by omega)

theorem scoreLines_indexed (distance : Distance) (s : SkySctx) (r : SkyRctx)
    (indexed : scan.Indexed n) (lines : List SkyCacheline) (below : i + lines.length ≤ n) :
    (scoreLines distance s r i scan lines).Indexed n := by
  rw [scoreLines_eq]
  exact indexed.offers _ (by simpa using below)

end CellPlugin

variable {s : SkySctx} {r : SkyRctx}

theorem SkySctx.length_lines_le (s : SkySctx) : s.lines.length ≤ s.numCachelines.toNat :=
  List.length_take_le _ _

def SkyRctx.IndexesFit (fits : ℤ → Prop) (r : SkyRctx) : Prop := fits r.getFrom ∧ fits r.saveTo

section Fit

variable {fits : ℤ → Prop} (line : ∀ i, LineIndex n i → fits i)

include line

/-- A plugin that is asked while lines are in use leaves indexes of these lines, or the old ones. -/
theorem cacheMatch_fit (p : SkyPluginTable) (distance : Distance)
    (lines : s.numCachelines.toNat = n) (filled : 0 < n) (fit : r.IndexesFit fits) :
    SkyRctx.IndexesFit fits (p.cacheMatch distance s r).2.2 := by
  have visited : 0 + (s.expire r).lines.length ≤ n := by
    have bound := (s.expire r).length_lines_le
    have same : (s.expire r).numCachelines = s.numCachelines := rfl
    rw [same, lines] at bound
    omega
  cases p with
  | apPluginBasic =>
    have start : MatchScan.Indexed n ⟨0, 1, -1, -1, 0⟩ := ⟨lineIndex_none n, lineIndex_none n⟩
    have scanned := ApPlugin.scoreLines_indexed distance (s.expire r) r
      (ApPlugin.emptyLine_indexed start _ visited) _ visited
    unfold SkyPluginTable.cacheMatch ApPlugin.cacheMatch
    dsimp only
    split_ifs
    · exact fit
    · exact ⟨line _ scanned.bestc, line _ scanned.bestput⟩
    · exact ⟨line _ (lineIndex_some filled), line _ scanned.bestput⟩
  | cellPluginBasic =>
    have start : MatchScan.Indexed n ⟨0, 0, -1, -1, 0⟩ := ⟨lineIndex_none n, lineIndex_none n⟩
    have scanned := CellPlugin.scoreLines_indexed distance (s.expire r) r
      (CellPlugin.emptyLine_indexed start _ visited) _ visited
    unfold SkyPluginTable.cacheMatch CellPlugin.cacheMatch
    dsimp only
    split_ifs
    · exact fit
    · exact ⟨line _ scanned.bestc, line _ scanned.bestput⟩

theorem skyPluginMatchCache_fit (distance : Distance) (plugins : List SkyPluginTable)
    (lines : s.numCachelines.toNat = n) (filled : 0 < n) (fit : r.IndexesFit fits) :
    SkyRctx.IndexesFit fits (skyPluginMatchCache distance plugins s r).2.2 := by
  have kept : (skyPluginMatchCache distance plugins s r).2.1.numCachelines.toNat = n ∧
      SkyRctx.IndexesFit fits (skyPluginMatchCache distance plugins s r).2.2 := by
    apply skyPluginMatchCache_induction
      (fun s r => s.numCachelines.toNat = n ∧ r.IndexesFit fits) _ plugins ⟨lines, fit⟩
    rintro p s r ⟨lines, fit⟩
    have same := (same_cacheMatch p distance s r).1.numCachelines
    exact ⟨by rw [same, lines], cacheMatch_fit line p distance lines filled fit⟩
  exact kept.2

theorem searchCache_fit (distance : Distance) (lines : s.numCachelines.toNat = n)
    (fit : r.IndexesFit fits) : SkyRctx.IndexesFit fits (searchCache distance s r).2 := by
  unfold searchCache
  dsimp only
  split_ifs with passed
  · exact ⟨line _ (lineIndex_none n), fit.2⟩
  · have matched := skyPluginMatchCache_fit line distance s.plugins lines (by omega) fit
    split
    · exact matched
    · exact ⟨line _ (lineIndex_none n), matched.2⟩

end Fit

theorem searchCache_indexed (distance : Distance) (lines : s.numCachelines.toNat = n)
    (indexed : r.Indexed n) : SkyRctx.Indexed n (searchCache distance s r).2 := by
  obtain ⟨getFrom, saveTo⟩ := searchCache_fit (fun _ index => index) distance lines
    ⟨indexed.getFrom, indexed.saveTo⟩
  exact ⟨getFrom, saveTo⟩

theorem SkyRctx.Indexed.validateRequestCtx (indexed : r.Indexed n) :
    (validateRequestCtx r).2.Indexed n := by
  obtain ⟨bs, eq⟩ := validateRequestCtx_rest r
  rw [eq]
  exact ⟨indexed.getFrom, indexed.saveTo⟩

theorem skySearchCache_indexed (distance : Distance) (lines : s.numCachelines.toNat = n)
    (indexed : r.Indexed n) (loc : SkyLocation) :
    (skySearchCache distance s r loc).rctx.Indexed n := by
  have searched := searchCache_indexed distance lines indexed.validateRequestCtx
  unfold skySearchCache
  dsimp only
  split_ifs
  · exact indexed.validateRequestCtx
  · exact searched
  · exact ⟨searched.getFrom, searched.saveTo⟩

theorem LineIndex.int16_eq {i : ℤ} (index : LineIndex n i) (small : n ≤ 2 ^ 15) : int16 i = i := by
  obtain ⟨least, below⟩ := index
  exact Int16.toInt_ofInt_of_le (by omega) (by omega)

/-- Behind `2 ^ 16` lines, another line is meant. -/
example : int16 65536 = 0 := by decide

theorem SkyRctx.Indexed.int16Indexes_eq (indexed : r.Indexed n) (small : n ≤ 2 ^ 15) :
    r.int16Indexes = r := by
  unfold SkyRctx.int16Indexes
  rw [indexed.getFrom.int16_eq small, indexed.saveTo.int16_eq small]

theorem SkyRctx.int16Indexes_eq_iff :
    r.int16Indexes = r ↔ r.IndexesFit fun i => int16 i = i := by
  unfold SkyRctx.int16Indexes SkyRctx.IndexesFit
  constructor
  · intro same
    exact ⟨congrArg SkyRctx.getFrom same, congrArg SkyRctx.saveTo same⟩
  · rintro ⟨getFrom, saveTo⟩
    rw [getFrom, saveTo]

/-- Up to `2 ^ 15` lines, a search does the same with fields of 16 bits. -/
theorem skySearchCache16_eq (distance : Distance) (small : s.numCachelines ≤ 2 ^ 15)
    (fields : r.int16Indexes = r) (loc : SkyLocation) :
    skySearchCache16 distance s r loc = skySearchCache distance s r loc := by
  have checked : (validateRequestCtx r).2.IndexesFit fun i => int16 i = i := by
    obtain ⟨bs, eq⟩ := validateRequestCtx_rest r
    rw [eq]
    obtain ⟨getFrom, saveTo⟩ := SkyRctx.int16Indexes_eq_iff.1 fields
    exact ⟨getFrom, saveTo⟩
  have searched := searchCache_fit
    (fun i (index : LineIndex s.numCachelines.toNat i) => index.int16_eq (by omega))
      distance rfl checked
  have same : searchCache16 distance s (validateRequestCtx r).2 =
      searchCache distance s (validateRequestCtx r).2 := by
    unfold searchCache16
    rw [SkyRctx.int16Indexes_eq_iff.2 searched]
  unfold skySearchCache16 skySearchCache
  dsimp only
  rw [same]

end EmbeddedClient
