import EmbeddedClient.Beacons.Evict

/-!
# Adding a beacon

The cases in which `add_beacon` ends on a context that holds a beacon list.
-/

namespace EmbeddedClient

variable {s : SkySctx} {r : SkyRctx} {l : BeaconList} {b : Beacon}

inductive AddOutcome (s : SkySctx) (r : SkyRctx) (l : BeaconList) (b : Beacon)
    (added : AddResult) : Prop
  | unchanged (rctx : added.rctx = r) (top : added.top = none)
  | replaced (l' : BeaconList) (same : ¬ l.Fresh b) (holds : added.rctx.Holds l')
      (aps : l'.aps.length = l.aps.length) (all : l'.all.length = l.all.length)
      (top : added.top = some (l.all.length - 1)) (array : ArrayTo 0 r added.rctx)
  | stored (r' : SkyRctx) (l' : BeaconList) (fresh : l.Fresh b) (holds : r'.Holds l')
      (aps : l'.aps.length = l.aps.length + b.isApType.toNat)
      (all : l'.all.length = l.all.length + 1)
      (top : added.top = some l.all.length)
      (array : ArrayTo (l.all.length + 1) r r')
      (filter : FilterOutcome s.config r' l' added.rctx)

/-- The beacon that `add_beacon` inserts for a beacon it accepts. -/
def preparedBeacon (s : SkySctx) (b : Beacon) (age : UInt32) : Beacon :=
  let aged := { (validateBeacon b).2 with h := { (validateBeacon b).2.h with age := age } }
  if aged.isApType then (beaconInCache s.plugins aged s.lines).2 else aged

theorem preparedBeacon_spec (s : SkySctx) (age : UInt32) (valid : (validateBeacon b).1 = true) :
    (preparedBeacon s b age).Accepted ∧ (preparedBeacon s b age).identity = b.identity ∧
      (preparedBeacon s b age).isApType = b.isApType := by
  let aged : Beacon :=
    { (validateBeacon b).2 with h := { (validateBeacon b).2.h with age := age } }
  have accepted : aged.Accepted := (Beacon.Accepted.of_validateBeacon valid).withAge age
  have same : (preparedBeacon s b age).scan = aged.scan := by
    unfold preparedBeacon
    dsimp only
    split_ifs
    · exact beaconInCache_scan ..
    · rfl
  have identity : (preparedBeacon s b age).identity = b.identity := by
    rw [← Beacon.scan_identity, same, Beacon.scan_identity]
    exact validateBeacon_identity b
  refine ⟨accepted.congr same.symm, identity, ?_⟩
  have type := congrArg Prod.fst identity
  simp only [Beacon.identity] at type
  rw [Beacon.isApType, Beacon.isApType, type]

theorem fresh_of_identity {b b' : Beacon} (same : b.identity = b'.identity) :
    l.Fresh b ↔ l.Fresh b' := by
  simp only [BeaconList.Fresh, sameBeacon_of_identity same]

theorem validateRequestCtx_bound (valid : (validateRequestCtx r).1 = true) :
    r.numBeacons ≤ TOTAL_BEACONS + 1 ∧ r.numAp ≤ MAX_AP_BEACONS + 1 := by
  unfold validateRequestCtx at valid
  split_ifs at valid with many manyAps
  · simp only [not_lt] at many manyAps
    exact ⟨many, manyAps⟩

theorem addBeacon_outcome (holds : r.Holds l)
    (plugins : s.openFlag = true → s.plugins = skyRegisterPlugins) (errno : SkyErrno)
    (b : Beacon) (timestamp : ℤ) :
    AddOutcome s r l b (addBeacon s r errno b timestamp) := by
  unfold addBeacon
  dsimp only
  rw [validateRequestCtx_snd holds.accepted]
  split_ifs with invalid closed valid
  · exact .unchanged rfl rfl
  · exact .unchanged rfl rfl
  · exact .unchanged rfl rfl
  · cases beaconAge r.header.time timestamp with
    | error e => exact .unchanged rfl rfl
    | ok age =>
      have registered := plugins (by simpa using closed)
      obtain ⟨accepted, identity, isAp⟩ := preparedBeacon_spec s age (by simpa using valid)
      obtain ⟨status, outcome⟩ := insertBeacon_outcome holds errno accepted
      rw [← registered] at status outcome
      change AddOutcome s r l b
        (let added := insertBeacon s.plugins r errno (preparedBeacon s b age)
         if added.status = .error then added
         else if added.rctx.numBeacons = r.numBeacons then added else filterBeacons s added)
      generalize insertBeacon s.plugins r errno (preparedBeacon s b age) = added
        at status outcome
      dsimp only
      rw [if_neg (by rw [status]; decide)]
      have count := holds.numBeacons
      cases outcome with
      | kept same rctx top =>
        rw [if_pos (by rw [rctx])]
        exact .unchanged rctx top
      | replaced l' same holds' aps all top array =>
        rw [if_pos (by rw [holds'.numBeacons, all, count])]
        exact .replaced l' (by rwa [← fresh_of_identity identity]) holds' aps all top array
      | stored l' fresh holds' aps all top array =>
        rw [if_neg (by rw [holds'.numBeacons, all, count]; omega)]
        have bound := (validateRequestCtx_bound (by simpa using invalid)).1
        have filtered := filterBeacons_outcome added registered holds' (by
          rw [holds'.numBeacons]
          simp only [TOTAL_BEACONS] at bound
          omega)
        exact .stored added.rctx l' ((fresh_of_identity identity).1 fresh) holds'
          (by rw [aps, isAp]) all (filtered.2.trans top) array filtered.1

end EmbeddedClient
