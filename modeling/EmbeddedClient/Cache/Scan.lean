import EmbeddedClient.Model.Cache

/-!
# The scoring loops of the searches

Both plugins visit the lines in the same way: each line offers a ratio and a threshold, or is passed
over. They differ in what a line offers and in which ratio makes a line the better one to replace.
-/

namespace EmbeddedClient

variable (replaces : ℚ → ℚ → Bool)

def MatchScan.offer (scan : MatchScan) (i : ℕ) : Option (ℚ × ℤ) → MatchScan
  | none => scan
  | some (ratio, threshold) =>
    (if replaces ratio scan.bestputratio then { scan with bestput := i, bestputratio := ratio }
      else scan).better i ratio threshold

/-- A scoring loop over the offers of the lines, from line `i` on. -/
def MatchScan.offers : ℕ → MatchScan → List (Option (ℚ × ℤ)) → MatchScan
  | _, scan, [] => scan
  | i, scan, o :: os => offers (i + 1) (scan.offer replaces i o) os

/-- What every turn keeps, the loop keeps. -/
theorem MatchScan.offers_induction (motive : MatchScan → Prop)
    {os : List (Option (ℚ × ℤ))} {n i : ℕ} (below : i + os.length ≤ n)
    (step : ∀ scan j, j < n → ∀ o ∈ os, motive scan → motive (scan.offer replaces j o))
    {scan : MatchScan} (start : motive scan) : motive (offers replaces i scan os) := by
  induction os generalizing scan i with
  | nil => exact start
  | cons o os ih =>
    rw [List.length_cons] at below
    have first := step scan i (by omega) o (.head _) start
    exact ih (by omega) (fun scan j range o member => step scan j range o (.tail _ member)) first

variable (distance : Distance) (s : SkySctx) (r : SkyRctx) (i : ℕ) (scan : MatchScan)
  (lines : List SkyCacheline)

theorem ApPlugin.scoreLines_eq : ApPlugin.scoreLines distance s r i scan lines =
    MatchScan.offers (fun ratio put => ratio < put) i scan
      (lines.map (ApPlugin.scoreLine distance s r)) := by
  induction lines generalizing scan i with
  | nil => rfl
  | cons cl cls ih =>
    unfold ApPlugin.scoreLines
    rw [List.map_cons, MatchScan.offers]
    cases ApPlugin.scoreLine distance s r cl with
    | none => exact ih (i + 1) scan
    | some score =>
      simp only [MatchScan.offer, decide_eq_true_eq]
      exact ih (i + 1) _

theorem CellPlugin.scoreLines_eq : CellPlugin.scoreLines distance s r i scan lines =
    MatchScan.offers (fun ratio put => put < ratio) i scan
      (lines.map (CellPlugin.scoreLine distance s r)) := by
  induction lines generalizing scan i with
  | nil => rfl
  | cons cl cls ih =>
    unfold CellPlugin.scoreLines
    rw [List.map_cons, MatchScan.offers]
    cases CellPlugin.scoreLine distance s r cl with
    | none => exact ih (i + 1) scan
    | some score =>
      simp only [MatchScan.offer, decide_eq_true_eq]
      exact ih (i + 1) _

end EmbeddedClient
