import EmbeddedClient.Beacons.Listed
import EmbeddedClient.Beacons.SortedCells
import EmbeddedClient.Support.Blocks

/-!
# Counting by type

`get_num_beacons` ends at the first beacon of another type behind one of the type it counts. The
cells are ordered by priority and age before their type, so cells of a type can stand apart.
-/

namespace EmbeddedClient

open Blocks

variable {r : SkyRctx}

def Beacon.hasType (t : SkyBeaconType) (b : Beacon) : Bool := b.h.type = t

/-- `get_num_beacons` returns the number of stored beacons of the type. -/
def SkyRctx.CountsType (r : SkyRctx) (t : SkyBeaconType) : Prop :=
  getNumBeacons r t = r.live.countP (Beacon.hasType t)

/-- No beacon of another type stands between two of the type. -/
def SkyRctx.TypeTogether (r : SkyRctx) (t : SkyBeaconType) : Prop :=
  Together (Beacon.hasType t) r.live

instance (r : SkyRctx) (t : SkyBeaconType) : Decidable (r.CountsType t) :=
  inferInstanceAs (Decidable (_ = _))

instance (r : SkyRctx) (t : SkyBeaconType) : Decidable (r.TypeTogether t) :=
  inferInstanceAs (Decidable (Together _ _))

theorem Beacon.hasType_of_isApType {b : Beacon} (ap : b.isApType = true) {t : SkyBeaconType}
    (other : t ≠ .ap) :
    b.hasType t = false := by
  have type := (isApType_iff b).1 ap
  simp [Beacon.hasType, type, other.symm]

theorem getNumBeaconsLoop_succ (t : SkyBeaconType) (bs : List Beacon) (count : ℕ) :
    getNumBeaconsLoop t bs (count + 1) = count + 1 + (bs.takeWhile (Beacon.hasType t)).length := by
  induction bs generalizing count with
  | nil => rfl
  | cons b bs ih =>
    unfold getNumBeaconsLoop
    by_cases same : b.h.type = t
    · rw [List.takeWhile_cons_of_pos (by simpa [Beacon.hasType] using same), if_pos same]
      dsimp only
      rw [if_neg (by simp [same]), ih, List.length_cons]
      omega
    · rw [List.takeWhile_cons_of_neg (by simpa [Beacon.hasType] using same), if_neg same]
      dsimp only
      rw [if_pos ⟨by omega, same⟩]
      rfl

theorem getNumBeaconsLoop_zero (t : SkyBeaconType) (bs : List Beacon) :
    getNumBeaconsLoop t bs 0 = (firstBlock (Beacon.hasType t) bs).length := by
  induction bs with
  | nil => rfl
  | cons b bs ih =>
    unfold getNumBeaconsLoop
    by_cases same : b.h.type = t
    · rw [firstBlock_cons_of_pos (by simpa [Beacon.hasType] using same), if_pos same]
      dsimp only
      rw [if_neg (by simp [same]), getNumBeaconsLoop_succ, List.length_cons]
      omega
    · rw [firstBlock_cons_of_neg (by simpa [Beacon.hasType] using same), if_neg same]
      dsimp only
      rw [if_neg (by simp), ih]

namespace SkyRctx.Listed

theorem countsType_ap (listed : r.Listed) : r.CountsType .ap ∧ r.TypeTogether .ap := by
  obtain ⟨aps, length, split, isAp⟩ := listed.inOrder.live_eq
  have all : ∀ b ∈ aps, b.hasType .ap = true := isAp
  have none : ∀ b ∈ r.cells, b.hasType .ap = false := fun b member =>
    isApType_of_isCellType (listed.inOrder.cells b member)
  constructor
  · have counted : getNumBeacons r .ap = r.numAp := rfl
    have countAps : aps.countP (Beacon.hasType .ap) = aps.length := List.countP_eq_length.2 all
    have countCells : r.cells.countP (Beacon.hasType .ap) = 0 :=
      List.countP_eq_zero.2 fun b member => by simp [none b member]
    rw [SkyRctx.CountsType, counted, split, List.countP_append, countAps, countCells, length,
      Nat.add_zero]
  · rw [SkyRctx.TypeTogether, split]
    exact together_append_of_all all none

/-- Behind the APs, the loop sees the first block of cells of the type. -/
theorem countsType_cell (listed : r.Listed) {t : SkyBeaconType}
    (known : t.code ≤ SkyBeaconType.max.code) (notAp : t ≠ .ap) :
    r.CountsType t ↔ r.TypeTogether t := by
  obtain ⟨aps, length, split, isAp⟩ := listed.inOrder.live_eq
  have none : ∀ b ∈ aps, b.hasType t = false :=
    fun b member => Beacon.hasType_of_isApType (isAp b member) notAp
  have counted : getNumBeacons r t = (firstBlock (Beacon.hasType t) r.cells).length := by
    unfold getNumBeacons
    rw [if_neg (not_lt.2 known), if_neg notAp]
    exact getNumBeaconsLoop_zero t r.cells
  have countAps : aps.countP (Beacon.hasType t) = 0 :=
    List.countP_eq_zero.2 fun b member => by simp [none b member]
  rw [SkyRctx.CountsType, SkyRctx.TypeTogether, counted, split, List.countP_append, countAps,
    Nat.zero_add, together_append_of_none none]
  exact length_firstBlock_eq_countP_iff

theorem countsType_other (listed : r.Listed) {t : SkyBeaconType}
    (unknown : SkyBeaconType.max.code < t.code) :
    r.CountsType t ∧ r.TypeTogether t := by
  have none : ∀ b ∈ r.live, b.hasType t = false := by
    intro b member
    have usable := (listed.inOrder.accepted b member).slotOk.2
    by_contra has
    have same : b.h.type = t := by simpa [Beacon.hasType] using has
    rw [same] at usable
    omega
  constructor
  · rw [SkyRctx.CountsType, getNumBeacons, if_pos unknown, eq_comm, List.countP_eq_zero]
    intro b member
    simp [none b member]
  · intro x y z inside first _
    have not := none x (inside.subset (.head _))
    rw [first] at not
    contradiction

theorem countsType_iff (listed : r.Listed) (t : SkyBeaconType) :
    r.CountsType t ↔ r.TypeTogether t := by
  by_cases known : t.code ≤ SkyBeaconType.max.code
  · by_cases ap : t = .ap
    · rw [ap]
      exact iff_of_true listed.countsType_ap.1 listed.countsType_ap.2
    · exact listed.countsType_cell known ap
  · have other := listed.countsType_other (not_le.1 known)
    exact iff_of_true other.1 other.2

/-- Among sorted cells, those of a type stand together if no cell of another type ranks between two
of them. -/
theorem typeTogether_iff_of_cellsSorted (listed : r.Listed) (sorted : r.CellsSorted)
    {t : SkyBeaconType} (notAp : t ≠ .ap) :
    r.TypeTogether t ↔ ∀ x ∈ r.cells, ∀ y ∈ r.cells, ∀ z ∈ r.cells,
      cellKey x ≤ cellKey y → cellKey y ≤ cellKey z → x.hasType t = true → z.hasType t = true →
        y.hasType t = true := by
  obtain ⟨aps, -, split, isAp⟩ := listed.inOrder.live_eq
  have none : ∀ b ∈ aps, b.hasType t = false :=
    fun b member => Beacon.hasType_of_isApType (isAp b member) notAp
  have agree : ∀ a ∈ r.cells, ∀ b ∈ r.cells, cellKey a = cellKey b → a.hasType t = b.hasType t := by
    intro a _ b _ same
    have codes : (a.h.type.code : ℤ) = b.h.type.code :=
      congrArg (fun key => (ofLex (ofLex (ofLex key).2).2).1) same
    rw [Beacon.hasType, Beacon.hasType, SkyBeaconType.code_injective (Int.natCast_inj.1 codes)]
  rw [SkyRctx.TypeTogether, split, together_append_of_none none]
  exact together_iff_of_sorted sorted agree

end SkyRctx.Listed

variable (env : Env)

/-- In every context of every run, `get_num_beacons` counts the beacons of a type right exactly if
no beacon of another type stands between two of them. -/
theorem run_countsType_iff (cacheSize : ℕ) (calls : List Call) (id : ℕ) (r : SkyRctx)
    (member : ((World.start cacheSize).run env calls).ctx id = some r) (t : SkyBeaconType) :
    r.CountsType t ↔ r.TypeTogether t := by
  have listed := World.run_listed env (World.start_listed cacheSize) calls
  exact (listed.ctx id r member).countsType_iff t

def neighborCalls : List Call :=
  [.openSession bareOpen, .newRequest 0 sizeofSkyRctx [] 1600000000,
    .onCtx 0 (.addBeacon (apCall 1 (-80)) 1600000000),
    .onCtx 0 (.addBeacon (.lteNeighbor 6 2000 (-110)) 1600000000),
    .onCtx 0 (.addBeacon (.gsmNeighbor 5 100 (-70)) 1600000000),
    .onCtx 0 (.addBeacon (.lte 1000 100000 310 10 5 2000 0 (-100) true) 1600000000),
    .onCtx 0 (.addBeacon (apCall 9 (-50)) 1600000000),
    .onCtx 0 (.addBeacon (.lteNeighbor 7 2000 (-105)) 1600000000)]

theorem neighborCalls_countsType :
    ∃ r, ((World.start 1).run bareEnv neighborCalls).ctx 0 = some r ∧ getNumBeacons r .lte = 3 ∧
      r.CountsType .ap ∧ r.CountsType .lte ∧ r.CountsType .gsm := by
  have together : (((World.start 1).run bareEnv neighborCalls).ctx 0).map (fun r =>
      (getNumBeacons r .lte, decide (r.TypeTogether .ap ∧ r.TypeTogether .lte ∧
        r.TypeTogether .gsm))) =
      some (3, true) := by decide +kernel
  obtain ⟨r, member, facts⟩ := Option.map_eq_some_iff.1 together
  simp only [Prod.mk.injEq, decide_eq_true_eq] at facts
  obtain ⟨three, ap, lte, gsm⟩ := facts
  exact ⟨r, member, three, (run_countsType_iff bareEnv 1 neighborCalls 0 r member .ap).2 ap,
    (run_countsType_iff bareEnv 1 neighborCalls 0 r member .lte).2 lte,
    (run_countsType_iff bareEnv 1 neighborCalls 0 r member .gsm).2 gsm⟩

def mixedCalls : List Call :=
  [.openSession bareOpen, .newRequest 0 sizeofSkyRctx [] 1600000000,
    .onCtx 0 (.addBeacon (.lte 1000 100000 310 10 5 2000 0 (-100) true) 1600000000),
    .onCtx 0 (.addBeacon (.gsm 1000 2000 310 10 5 100 0 (-80) false) 1600000000),
    .onCtx 0 (.addBeacon (.lteNeighbor 6 2000 (-110)) 1600000000)]

/-- The GSM cell is fully qualified and stands before the neighbour, so one of two LTE cells is
counted. -/
theorem mixedCalls_not_countsType :
    ∃ r, ((World.start 1).run bareEnv mixedCalls).ctx 0 = some r ∧ getNumBeacons r .lte = 1 ∧
      ¬ r.CountsType .lte := by
  have counts : (((World.start 1).run bareEnv mixedCalls).ctx 0).map
      (fun r => (getNumBeacons r .lte, decide (r.CountsType .lte))) = some (1, false) := by
        decide +kernel
  obtain ⟨r, member, both⟩ := Option.map_eq_some_iff.1 counts
  rw [Prod.mk.injEq, decide_eq_false_iff_not] at both
  exact ⟨r, member, both⟩

end EmbeddedClient
