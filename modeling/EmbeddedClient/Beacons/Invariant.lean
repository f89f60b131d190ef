import EmbeddedClient.Beacons.Run

/-!
# The representation invariant

What a beacon list means for the slots of a context: the APs are the first
`num_ap` slots in order of signal strength, the cells follow, and no two slots
are reported equal. It holds after every call of every run within capacity.
-/

namespace EmbeddedClient

open Runs

/-- The representation invariant of the beacon list of a context. -/
structure SkyRctx.Represented (r : SkyRctx) : Prop where
  slots : r.beacon.length = TOTAL_BEACONS + 1
  numBeacons_le : r.numBeacons ≤ TOTAL_BEACONS + 1
  numAp_le : r.numAp ≤ r.numBeacons
  aps : ∀ i < r.numAp, (r.slot i).isApType = true
  cells : ∀ i, r.numAp ≤ i → i < r.numBeacons → (r.slot i).isCellType = true
  count : r.numAp = r.live.countP Beacon.isApType
  distinct : ∀ i j, i < r.numBeacons → j < r.numBeacons → i ≠ j →
    skyPluginEqual skyRegisterPlugins (r.slot i) (r.slot j) ≠ some true
  sorted : ∀ i j, i < j → j < r.numAp →
    effectiveRssi (r.slot j).h.rssi ≤ effectiveRssi (r.slot i).h.rssi

theorem BeaconList.countP_all (l : BeaconList) :
    l.all.countP Beacon.isApType = l.aps.length := by
  have aps : l.aps.countP Beacon.isApType = l.aps.length :=
    List.countP_eq_length.2 l.isApType
  have cells : l.cells.countP Beacon.isApType = 0 :=
    List.countP_eq_zero.2 fun b member => by simp [isApType_of_isCellType (l.isCellType b member)]
  rw [BeaconList.all, List.countP_append, aps, cells, Nat.add_zero]

theorem SkyRctx.WellFormed.represented {r : SkyRctx} (good : r.WellFormed) : r.Represented := by
  obtain ⟨slots, l, holds⟩ := good
  have count := l.length_all
  have numAp := holds.numAp
  have numBeacons := holds.numBeacons
  refine ⟨slots.length, slots.length ▸ holds.numBeacons_le, holds.numAp_le,
    fun i => holds.slot_isApType, fun i => holds.slot_isCellType, ?_, ?_, ?_⟩
  · rw [holds.live, l.countP_all, numAp]
  · intro i j rangeI rangeJ differ
    rw [holds.slot (by omega), holds.slot (by omega)]
    exact fun same => differ (l.eq_of_sameBeacon _ _ same)
  · intro i j below range
    have sorted := List.pairwise_iff_getElem.1 l.sorted i j (by omega) (by omega) below
    rw [holds.slot (by omega), holds.slot (by omega)]
    simp only [BeaconList.all]
    rw [List.getElem_append_left (by omega), List.getElem_append_left (by omega)]
    exact sorted

variable (env : Env)

/-- In every run from a closed session with empty cachelines that stays within
capacity, under any configuration, every context meets the representation
invariant after every call. -/
theorem represented_of_run (s : SkySctx) (closed : s.openFlag = false)
    (empty : ∀ cl ∈ s.cacheline,
      cl.beacon.length = TOTAL_BEACONS ∧ cl.numBeacons = 0 ∧ cl.numAp = 0)
    (calls : List Call)
    (capacity : Along (World.step env) World.withinCapacity ⟨s, fun _ => none⟩ calls)
    (id : ℕ) (r : SkyRctx) (member : (World.run env ⟨s, fun _ => none⟩ calls).ctx id = some r) :
    r.Represented := by
  have start : World.WellFormed ⟨s, fun _ => none⟩ :=
    { sctx := ⟨fun opened => by simp [closed] at opened, fun cl inLines =>
        have line := empty cl inLines
        .of_empty line.1 line.2.1 line.2.2⟩
      ctx := fun _ _ found => by simp at found }
  exact ((World.run_wellFormed env start capacity).ctx id r member).represented

instance (w : World) : ∀ call : Call, Decidable (w.withinCapacity call)
  | .onCtx id (.addBeacon call timestamp) => inferInstanceAs (Decidable (∀ r ∈ w.ctx id,
      ∀ top ∈ (skyAddBeacon w.sctx r .none call timestamp).top, top ≤ TOTAL_BEACONS))
  | .onCtx id (.decodeResponse ..) =>
    inferInstanceAs (Decidable (∀ r ∈ w.ctx id, r.numBeacons ≤ TOTAL_BEACONS))
  | .onCtx _ (.addGnss _) | .onCtx _ (.searchCache _) | .onCtx _ .ignoreCacheHit
  | .onCtx _ (.sizeofRequestBuf _) | .onCtx _ (.encodeRequest ..) | .onCtx _ (.setOption ..)
  | .openSession _ | .close | .newRequest .. => isTrue trivial

/-- A build for runs that neither measure nor encode. -/
def bareEnv : Env := ⟨fun _ _ _ _ => .fin 0, ⟨fun _ => [], fun _ => [], fun _ => [],
  fun _ _ body => body⟩, 32⟩

def bareOpen : OpenArgs :=
  ⟨some [1, 2, 3, 4, 5, 6], 1, some (Vector.replicate 16 0), none, 0, 0, some 1600000000⟩

/-- An AP that is told apart by the last byte of its MAC address. -/
def apCall (last : UInt8) (rssi : Int16) : AddCall := .ap #v[2, 0, 0, 0, 0, last] rssi 2412 false

def openedSession : SkySctx := (skyOpen (SkySctx.zeroed 1) bareOpen).2

def oneApRequest : SkyRctx :=
  (skyAddBeacon openedSession (SkyRctx.initialized openedSession 1600000000) .none
    (apCall 1 (-80)) 1600000000).rctx

def requestOf (calls : List AddCall) : SkyRctx :=
  calls.foldl (fun r call => (skyAddBeacon openedSession r .none call 1600000000).rctx)
    (SkyRctx.initialized openedSession 1600000000)

/-- A request with two APs, the stronger one added last, a cell, and one AP again. -/
def sampleCalls : List Call :=
  [.openSession bareOpen, .newRequest 0 sizeofSkyRctx [] 1600000000,
    .onCtx 0 (.addBeacon (apCall 1 (-80)) 1600000000),
    .onCtx 0 (.addBeacon (.lte 1000 100000 310 10 5 2000 0 (-100) true) 1600000000),
    .onCtx 0 (.addBeacon (apCall 9 (-50)) 1600000000),
    .onCtx 0 (.addBeacon (.ap #v[2, 0, 0, 0, 0, 1] (-60) 2412 true) 1600000000)]

theorem sampleCalls_represented :
    ∃ r, ((World.start 1).run bareEnv sampleCalls).ctx 0 = some r ∧
      (r.numAp, r.numBeacons) = (2, 3) ∧ r.Represented := by
  have counts : (((World.start 1).run bareEnv sampleCalls).ctx 0).map
      (fun r => (r.numAp, r.numBeacons)) = some (2, 3) := by decide +kernel
  obtain ⟨r, member, eq⟩ := Option.map_eq_some_iff.1 counts
  exact ⟨r, member, eq, represented_of_run bareEnv (SkySctx.zeroed 1) rfl (by decide) sampleCalls
    (by decide +kernel) 0 r member⟩

end EmbeddedClient
