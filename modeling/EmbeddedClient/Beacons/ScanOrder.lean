import EmbeddedClient.Beacons.Capacity
import EmbeddedClient.Beacons.Macs
import EmbeddedClient.Beacons.Stream
import EmbeddedClient.Support.Insertion

/-!
# The order of the scan

APs are inserted one by one. The comparison looks for a difference in the stored signal strengths
but computes it from the effective ones, so an unknown strength and -127 compare as equal whatever
the addresses are, and the AP added last goes first.
-/

namespace EmbeddedClient

open Insertion Runs

variable {s : SkySctx} {r : SkyRctx} {a b : Beacon}

/-- The insertion puts `a` in front of `b`. -/
def GoesFirst (a b : Beacon) : Prop := 0 < (isBeaconFirst skyRegisterPlugins a b).1

instance : DecidableRel GoesFirst := fun _ _ => inferInstanceAs (Decidable (_ < _))

/-- What APs are ordered by: stronger signal, lower address. -/
def apKey (b : Beacon) : ℤ ×ₗ ℕ := toLex (-b.rssi, b.macValue)

/-- The signal strengths differ as stored but not in effect. -/
def Clash (a b : Beacon) : Prop := a.h.rssi ≠ b.h.rssi ∧ a.rssi = b.rssi

theorem clash_iff (a b : Beacon) :
    Clash a b ↔ (a.h.rssi = -1 ∧ b.h.rssi = -127) ∨ (a.h.rssi = -127 ∧ b.h.rssi = -1) := by
  have low (x : Int16) : x = -127 ↔ x.toInt = -127 := Int16.toInt_inj.symm
  have differ : a.h.rssi = b.h.rssi ↔ a.h.rssi.toInt = b.h.rssi.toInt := Int16.toInt_inj.symm
  have unknown (x : Int16) : x = -1 ↔ x.toInt = -1 := Int16.toInt_inj.symm
  unfold Clash Beacon.rssi effectiveRssi
  simp only [ne_eq, differ, low, unknown]
  split_ifs <;> omega

theorem goesFirst_iff (apA : a.isApType = true) (apB : b.isApType = true) :
    GoesFirst a b ↔ apKey a ≤ apKey b ∨ Clash a b := by
  have keys : apKey a ≤ apKey b ↔ b.rssi < a.rssi ∨ (a.rssi = b.rssi ∧ ¬ compareMac a b < 0) := by
    unfold apKey
    rw [Prod.Lex.toLex_le_toLex, compareMac_neg_iff, not_lt, neg_lt_neg_iff, neg_inj]
  have compared : ApPlugin.compare a b =
      some (if a.h.rssi ≠ b.h.rssi then compareRssi a b else compareMac a b) := by
    unfold ApPlugin.compare
    rw [if_neg (by simp [apA, apB])]
    split_ifs <;> rfl
  have first : (isBeaconFirst skyRegisterPlugins a b).1 =
      if (if a.h.rssi ≠ b.h.rssi then compareRssi a b else compareMac a b) ≠ 0 then
        (if a.h.rssi ≠ b.h.rssi then compareRssi a b else compareMac a b) else 1 := by
    simp [isBeaconFirst, skyPluginCompare, skyRegisterPlugins, SkyPluginTable.compare, compared]
  have same : a.h.rssi = b.h.rssi → a.rssi = b.rssi :=
    fun eq => by rw [Beacon.rssi, Beacon.rssi, eq]
  unfold GoesFirst Clash
  rw [keys, first]
  unfold compareRssi
  by_cases equal : a.h.rssi = b.h.rssi
  · have effective := same equal
    simp only [equal, ne_eq, not_true, if_false, false_and, or_false]
    split_ifs <;> omega
  · simp only [equal, ne_eq, not_false_eq_true, if_true, true_and]
    split_ifs <;> omega

/-- Among APs, the place of a new one is that of an ordered insertion. -/
theorem findPosition_aps {aps : List Beacon} (ap : b.isApType = true)
    (isAp : ∀ c ∈ aps, c.isApType = true) :
    let pos := findPosition skyRegisterPlugins b aps
    pos.beacons.insertIdx pos.index pos.beacon = aps.orderedInsert GoesFirst b := by
  induction aps with
  | nil => rfl
  | cons c aps ih =>
    have rest := ih fun d member => isAp d (.tail _ member)
    obtain ⟨diff, compared, -, -⟩ := isBeaconFirst_ap_ap ap (isAp c (.head _))
    have goes : GoesFirst b c ↔ 0 < diff := by rw [GoesFirst, compared]
    unfold findPosition
    dsimp only
    rw [compared, List.orderedInsert_cons]
    simp only [goes]
    split_ifs
    · rfl
    · rw [List.insertIdx_succ_cons, rest]

structure Add.TakesAp (time : UInt32) (a : Add) : Prop where
  isAp : a.call.beacon.isApType = true
  valid : (validateBeacon a.call.beacon).1 = true
  aged : ∃ age, beaconAge time a.timestamp = .ok age

/-- The context holds these APs, inserted one by one. -/
structure ApsOf (time : UInt32) (r : SkyRctx) (bs : List Beacon) : Prop where
  wellFormed : r.WellFormed
  isSealed : r.Sealed
  time : r.header.time = time
  live : r.live = insertAll GoesFirst bs
  numAp : r.numAp = bs.length
  numBeacons : r.numBeacons = bs.length
  isAp : ∀ b ∈ bs, b.isApType = true

theorem Add.TakesAp.stored {time : UInt32} {a : Add} (takes : a.TakesAp time) (s : SkySctx) :
    ∃ age, beaconAge time a.timestamp = .ok age ∧
      a.stored s time = preparedBeacon s a.call.beacon age ∧
      (a.stored s time).isApType = true ∧ (a.stored s time).ap.mac = a.call.beacon.ap.mac := by
  obtain ⟨age, aged⟩ := takes.aged
  have spec := preparedBeacon_spec s age takes.valid
  have eq : a.stored s time = preparedBeacon s a.call.beacon age := by rw [Add.stored, aged]
  refine ⟨age, aged, eq, ?_, ?_⟩
  · rw [eq, spec.2.2, takes.isAp]
  · rw [eq]
    exact congrArg (fun identity => identity.2.1) spec.2.1

/-- The calls add APs with different addresses that none of these APs has. -/
structure NewMacs (bs : List Beacon) (adds : List Add) : Prop where
  fresh : ∀ a ∈ adds, ∀ c ∈ bs, c.ap.mac ≠ a.call.beacon.ap.mac
  distinct : (adds.map fun a => a.call.beacon.ap.mac).Nodup

theorem NewMacs.next {bs : List Beacon} {a : Add} {adds : List Add} (new : NewMacs bs (a :: adds))
    (mac : b.ap.mac = a.call.beacon.ap.mac) : NewMacs (bs ++ [b]) adds := by
  have distinct := new.distinct
  rw [List.map_cons, List.nodup_cons] at distinct
  constructor
  · intro d member c inside same
    rcases List.mem_append.1 inside with old | added
    · exact new.fresh d (.tail _ member) c old same
    · rw [List.mem_singleton.1 added, mac] at same
      apply distinct.1
      rw [same]
      exact List.mem_map_of_mem member
  · exact distinct.2

namespace ApsOf

variable {time : UInt32} {bs : List Beacon}

theorem valid (holds : ApsOf time r bs) (bound : bs.length ≤ MAX_AP_BEACONS + 1) : r.Valid := by
  obtain ⟨slots, l, list⟩ := holds.wellFormed
  constructor
  · exact holds.isSealed
  · have few : bs.length ≤ TOTAL_BEACONS + 1 := bound.trans (by decide)
    rw [holds.numBeacons]
    exact few
  · rw [holds.numAp]
    exact bound
  · intro b member
    rw [List.take_take, Nat.min_comm, ← List.take_take] at member
    exact list.accepted b (List.mem_of_mem_take member)
  · exact slots.usable

theorem add (holds : ApsOf time r bs) (isOpen : s.openFlag = true)
    (plugins : s.plugins = skyRegisterPlugins) {a : Add} (takes : a.TakesAp time)
    (fresh : ∀ c ∈ bs, c.ap.mac ≠ a.call.beacon.ap.mac)
    (room : bs.length < s.config.maxApBeacons.toNat) (bound : bs.length ≤ MAX_AP_BEACONS + 1) :
    ApsOf time (a.step s r) (bs ++ [a.stored s time]) := by
  obtain ⟨age, aged, eq, ap, mac⟩ := takes.stored s
  have checked := (holds.valid bound).validateRequestCtx
  have accepts : AcceptsBeacon s r a.call.beacon a.timestamp age :=
    ⟨by rw [checked], isOpen, takes.valid, by rw [holds.time]; exact aged⟩
  have accepted := (preparedBeacon_spec s age takes.valid).1
  rw [← eq] at accepted
  have free : ∀ c ∈ r.live, ¬ SameBeacon (a.stored s time) c := by
    intro c member same
    rw [holds.live] at member
    have inside := (insertAll_perm bs).mem_iff.1 member
    rcases (sameBeacon_iff _ _).1 same with ⟨-, -, macs⟩ | ⟨types, equivalent⟩
    · exact fresh c inside (macs.symm.trans mac)
    · exact (equivalent_type equivalent).1 ((isApType_iff _).1 ap)
  obtain ⟨slots, l, list⟩ := holds.wellFormed
  obtain ⟨errno, placed⟩ := insertBeacon_fresh accepted free .none
  obtain ⟨l', list', -, -, array⟩ :=
    placeBeacon_holds list errno accepted (fun c member => free c (by rwa [list.live]))
  have full : r.live.length = r.numBeacons := by rw [list.live, list.numBeacons]
  have longer := placeBeacon_numBeacons full errno (a.stored s time)
  have allAps : ∀ c ∈ r.live, c.isApType = true := by
    intro c member
    rw [holds.live] at member
    exact holds.isAp c ((insertAll_perm bs).mem_iff.1 member)
  have live : (placeBeacon skyRegisterPlugins r errno (a.stored s time)).rctx.live =
      r.live.orderedInsert GoesFirst (a.stored s time) :=
        (live_setLive ..).trans (findPosition_aps ap allAps)
  have numAp : (placeBeacon skyRegisterPlugins r errno (a.stored s time)).rctx.numAp =
    r.numAp + 1 :=
    if_pos ap
  have result : a.step s r = (placeBeacon skyRegisterPlugins r errno (a.stored s time)).rctx := by
    have limits :
        withinLimits s (placeBeacon skyRegisterPlugins r errno (a.stored s time)).rctx = true := by
      have numAps := holds.numAp
      have numBeacons := holds.numBeacons
      simp only [MAX_AP_BEACONS] at bound
      rw [withinLimits_iff (by omega) (by omega), numAp, longer]
      omega
    have inserted : insertBeacon s.plugins (validateRequestCtx r).2 .none
        (preparedBeacon s a.call.beacon age) =
          placeBeacon skyRegisterPlugins r errno (a.stored s time) := by
      rw [plugins, checked, ← eq, placed]
    have differ : (placeBeacon skyRegisterPlugins r errno (a.stored s time)).rctx.numBeacons ≠
        (validateRequestCtx r).2.numBeacons := by
      rw [checked, longer]
      exact Nat.succ_ne_self _
    exact Add.step_of_withinLimits accepts inserted rfl differ limits
  rw [result]
  have header : (placeBeacon skyRegisterPlugins r errno (a.stored s time)).rctx.header = r.header :=
    rfl
  constructor
  · refine ⟨array.keeps slots ?_, l', list'⟩
    rw [holds.numBeacons]
    simp only [MAX_AP_BEACONS, TOTAL_BEACONS] at bound ⊢
    omega
  · unfold SkyRctx.Sealed
    rw [header]
    exact holds.isSealed
  · rw [header]
    exact holds.time
  · rw [insertAll_append_singleton, ← holds.live]
    exact live
  · rw [numAp, holds.numAp, List.length_append, List.length_singleton]
  · rw [longer, holds.numBeacons, List.length_append, List.length_singleton]
  · intro b member
    rcases List.mem_append.1 member with old | new
    · exact holds.isAp b old
    · rw [List.mem_singleton.1 new]
      exact ap

theorem run (holds : ApsOf time r bs) (isOpen : s.openFlag = true)
    (plugins : s.plugins = skyRegisterPlugins) (adds : List Add)
    (takes : ∀ a ∈ adds, a.TakesAp time) (new : NewMacs bs adds)
    (room : bs.length + adds.length ≤ s.config.maxApBeacons.toNat)
    (bound : bs.length + adds.length ≤ MAX_AP_BEACONS + 2) :
    ApsOf time (Runs.run (Add.step s) r adds) (bs ++ adds.map (Add.stored s time)) := by
  induction adds generalizing r bs with
  | nil => simpa using holds
  | cons a adds ih =>
    rw [List.length_cons] at room bound
    obtain ⟨-, -, -, -, mac⟩ := (takes a (.head _)).stored s
    have next := holds.add isOpen plugins (takes a (.head _)) (new.fresh a (.head _))
        (by omega) (by omega)
    have split : bs ++ (a :: adds).map (Add.stored s time) =
        (bs ++ [a.stored s time]) ++ adds.map (Add.stored s time) := by simp
    rw [split, Runs.run_cons]
    apply ih next (fun d member => takes d (.tail _ member)) (new.next mac)
    · rw [List.length_append, List.length_singleton]
      omega
    · rw [List.length_append, List.length_singleton]
      omega

theorem initialized (s : SkySctx) (now : ℤ) :
    ApsOf (SkyRctx.initialized s now).header.time (SkyRctx.initialized s now) [] := by
  refine ⟨.initialized s now, ⟨rfl, rfl⟩, rfl, rfl, rfl, rfl, ?_⟩
  exact fun b member => absurd member List.not_mem_nil

theorem aps_eq (holds : ApsOf time r bs) : r.aps = insertAll GoesFirst bs := by
  rw [← holds.live, SkyRctx.aps, SkyRctx.live, holds.numAp, holds.numBeacons]

end ApsOf

theorem takesAp_of_along {time : UInt32} {bs : List Beacon} (holds : ApsOf time r bs)
    (plugins : s.plugins = skyRegisterPlugins) (adds : List Add)
    (isAp : ∀ a ∈ adds, a.call.beacon.isApType = true) (new : NewMacs bs adds)
    (room : bs.length + adds.length ≤ s.config.maxApBeacons.toNat)
    (along : Along (Add.step s) (Add.Inserted s) r adds) :
    (∀ a ∈ adds, a.TakesAp time) ∧ (adds ≠ [] → s.openFlag = true ∧
      bs.length + adds.length ≤ MAX_AP_BEACONS + 2) := by
  induction adds generalizing r bs with
  | nil =>
    exact ⟨fun a member => absurd member List.not_mem_nil, fun impossible => absurd rfl impossible⟩
  | cons a adds ih =>
    obtain ⟨⟨age, accepts⟩, rest⟩ := along
    have count := (validateRequestCtx_bound accepts.1).2
    rw [holds.numAp] at count
    have aged := accepts.2.2.2
    rw [holds.time] at aged
    have takes : a.TakesAp time := ⟨isAp a (.head _), accepts.2.2.1, age, aged⟩
    rw [List.length_cons] at room ⊢
    obtain ⟨-, -, -, -, mac⟩ := takes.stored s
    have next := holds.add accepts.2.1 plugins takes (new.fresh a (.head _)) (by omega) count
    have later := ih next (fun d member => isAp d (.tail _ member)) (new.next mac)
      (by rw [List.length_append, List.length_singleton]; omega) rest
    refine ⟨?_, fun _ => ⟨accepts.2.1, ?_⟩⟩
    · intro d member
      rcases List.mem_cons.1 member with rfl | inside
      · exact takes
      · exact later.1 d inside
    · by_cases none : adds = []
      · rw [none, List.length_nil]
        omega
      · have bound := (later.2 none).2
        rw [List.length_append, List.length_singleton] at bound
        omega

/-- An accepted run of APs is accepted in every order, and inserts them one by one. -/
theorem ApsOf.aps_of_perm {time : UInt32} (initial : ApsOf time r [])
    (plugins : s.plugins = skyRegisterPlugins) {adds : List Add}
    (isAp : ∀ a ∈ adds, a.call.beacon.isApType = true)
    (distinct : (adds.map fun a => a.call.beacon.ap.mac).Nodup)
    (few : adds.length ≤ s.config.maxApBeacons.toNat)
    (accepted : Along (Add.step s) (Add.Inserted s) r adds) :
    (∀ a ∈ adds, a.TakesAp time) ∧ ∀ p : List Add, p.Perm adds →
      (Runs.run (Add.step s) r p).aps = insertAll GoesFirst (p.map (Add.stored s time)) := by
  have new (p : List Add) (perm : p.Perm adds) : NewMacs [] p :=
    ⟨fun _ _ c impossible => absurd impossible List.not_mem_nil, (perm.map _).nodup_iff.2 distinct⟩
  obtain ⟨takes, bounds⟩ := takesAp_of_along initial plugins adds isAp (new adds (.refl adds))
    (by simpa using few) accepted
  refine ⟨takes, ?_⟩
  intro p perm
  by_cases none : adds = []
  · rw [none] at perm
    rw [List.perm_nil.1 perm]
    exact initial.aps_eq
  · obtain ⟨isOpen, bound⟩ := bounds none
    have length := perm.length_eq
    have after := initial.run isOpen plugins p (fun a member => takes a (perm.mem_iff.1 member))
      (new p perm) (by simpa [length] using few) (by rwa [length])
    exact after.aps_eq

/-- The signal strength that a call stores. -/
def Add.strength (a : Add) : Int16 := (validateBeacon a.call.beacon).2.h.rssi

theorem Add.TakesAp.stored_rssi {time : UInt32} {a : Add} (takes : a.TakesAp time) (s : SkySctx) :
    (a.stored s time).h.rssi = a.strength := by
  obtain ⟨age, -, eq, -, -⟩ := takes.stored s
  rw [eq]
  unfold preparedBeacon
  dsimp only
  split_ifs
  · show (Beacon.scan (beaconInCache _ _ _).2).h.rssi = _
    rw [beaconInCache_scan]
    rfl
  · rfl

theorem insertAll_ne_of_clash {rest : List Beacon} (apA : a.isApType = true)
    (apB : b.isApType = true) (clash : Clash a b) (distinct : (rest ++ [a, b]).Nodup) :
    insertAll GoesFirst (rest ++ [a, b]) ≠ insertAll GoesFirst (rest ++ [b, a]) := by
  have back : Clash b a := ⟨clash.1.symm, clash.2.symm⟩
  exact insertAll_ne_of_mutual ((goesFirst_iff apA apB).2 (.inr clash))
    ((goesFirst_iff apB apA).2 (.inr back))
    distinct

theorem insertAll_eq_of_no_clash {as bs : List Beacon} (ap : ∀ b ∈ as, b.isApType = true)
    (apart : (as.map fun b => b.ap.mac).Nodup) (none : ∀ a ∈ as, ∀ b ∈ as, ¬ Clash a b)
    (perm : bs.Perm as) :
    insertAll GoesFirst bs = insertAll GoesFirst as := by
  have keys : ∀ x ∈ as, ∀ y ∈ as, x ≠ y → (GoesFirst x y ↔ apKey x ≤ apKey y) := by
    intro x memberX y memberY _
    rw [goesFirst_iff (ap x memberX) (ap y memberY), or_iff_left]
    exact none x memberX y memberY
  have injective : ∀ x ∈ as, ∀ y ∈ as, apKey x = apKey y → x = y := by
    intro x memberX y memberY same
    have values : x.macValue = y.macValue := congrArg (fun key => (ofLex key).2) same
    exact List.inj_on_of_nodup_map apart memberX memberY ((macValue_inj_iff x y).1 values)
  exact insertAll_eq_of_perm keys injective (List.Nodup.of_map _ apart) perm

/-- The order in which different APs are added makes no difference exactly if none of unknown
strength comes together with one of strength -127. -/
theorem scanOrder_iff {rbufsize : UInt32} {ulAppData : List UInt8} {now : ℤ}
    (started : (skyNewRequest rbufsize s ulAppData now).rctx = some r)
    (plugins : s.plugins = skyRegisterPlugins) (adds : List Add)
    (isAp : ∀ a ∈ adds, a.call.beacon.isApType = true)
    (distinct : (adds.map fun a => a.call.beacon.ap.mac).Nodup)
    (few : adds.length ≤ s.config.maxApBeacons.toNat)
    (accepted : Along (Add.step (skyNewRequest rbufsize s ulAppData now).sctx)
      (Add.Inserted (skyNewRequest rbufsize s ulAppData now).sctx) r adds) :
    let step := Add.step (skyNewRequest rbufsize s ulAppData now).sctx
    (∀ p q : List Add, p.Perm adds → q.Perm adds →
      (Runs.run step r p).aps = (Runs.run step r q).aps) ↔
      ¬ ∃ a ∈ adds, ∃ b ∈ adds, a.strength = -1 ∧ b.strength = -127 := by
  dsimp only
  have isNew : r = SkyRctx.initialized s now := eq_initialized started
  have registered := (skyNewRequest_sctx rbufsize s ulAppData now).plugins.trans plugins
  have initial : ApsOf r.header.time r [] := isNew ▸ ApsOf.initialized s now
  have config : (skyNewRequest rbufsize s ulAppData now).sctx.config = s.config :=
    skyNewRequest_config ..
  rw [← config] at few
  clear config
  generalize (skyNewRequest rbufsize s ulAppData now).sctx = s' at accepted registered few ⊢
  obtain ⟨takes, result⟩ := initial.aps_of_perm registered isAp distinct few accepted
  have apart : ((adds.map (Add.stored s' r.header.time)).map fun b => b.ap.mac).Nodup := by
    have macs : adds.map (fun a => (a.stored s' r.header.time).ap.mac) =
        adds.map fun a => a.call.beacon.ap.mac := by
      apply List.map_congr_left
      intro a member
      obtain ⟨-, -, -, -, mac⟩ := (takes a member).stored s'
      exact mac
    rw [List.map_map]
    exact macs ▸ distinct
  have ap : ∀ b ∈ adds.map (Add.stored s' r.header.time), b.isApType = true := by
    intro b member
    obtain ⟨a, inside, rfl⟩ := List.mem_map.1 member
    obtain ⟨-, -, -, isAp, -⟩ := (takes a inside).stored s'
    exact isAp
  constructor
  · rintro independent ⟨a, memberA, b, memberB, unknown, weakest⟩
    classical
    have differ : a ≠ b := by
      intro same
      rw [same, weakest] at unknown
      exact absurd unknown (by decide)
    obtain ⟨rest, perm⟩ := exists_perm_append_pair memberA memberB differ
    have swapped : (rest ++ [b, a]).Perm adds :=
      ((List.Perm.swap a b []).append_left rest).trans perm
    have equal := independent _ _ perm swapped
    have nodup := (perm.map (Add.stored s' r.header.time)).nodup_iff.2 (List.Nodup.of_map _ apart)
    rw [List.map_append] at nodup
    rw [result _ perm, result _ swapped, List.map_append, List.map_append] at equal
    refine insertAll_ne_of_clash (ap _ (List.mem_map_of_mem memberA))
      (ap _ (List.mem_map_of_mem memberB)) ?_
      nodup equal
    have rssiA := (takes a memberA).stored_rssi s'
    have rssiB := (takes b memberB).stored_rssi s'
    exact (clash_iff _ _).2 (.inl ⟨rssiA.trans unknown, rssiB.trans weakest⟩)
  · intro none
    have noClash :
        ∀ x ∈ adds.map (Add.stored s' r.header.time), ∀ y ∈ adds.map (Add.stored s' r.header.time),
        ¬ Clash x y := by
      intro x memberX y memberY clash
      obtain ⟨a, insideA, rfl⟩ := List.mem_map.1 memberX
      obtain ⟨b, insideB, rfl⟩ := List.mem_map.1 memberY
      rw [clash_iff, (takes a insideA).stored_rssi, (takes b insideB).stored_rssi] at clash
      rcases clash with ⟨unknown, weakest⟩ | ⟨weakest, unknown⟩
      · exact none ⟨a, insideA, b, insideB, unknown, weakest⟩
      · exact none ⟨b, insideB, a, insideA, unknown, weakest⟩
    have sorted {p : List Add} (perm : p.Perm adds) :=
      insertAll_eq_of_no_clash ap apart noClash (perm.map (Add.stored s' r.header.time))
    intro p q permP permQ
    rw [result p permP, result q permQ, sorted permP, sorted permQ]

def unknownAps : List Add :=
  [⟨apCall 3 (-1), 1600000000⟩, ⟨apCall 1 (-50), 1600000000⟩, ⟨apCall 2 (-1), 1600000000⟩]

theorem unknownAps_scanOrder :
    (Runs.run (Add.step requestSession) (sampleRequest) unknownAps).aps =
      (Runs.run (Add.step requestSession) (sampleRequest)
        unknownAps.reverse).aps :=
  (scanOrder_iff (by decide +kernel) (by decide +kernel) unknownAps (by decide +kernel)
    (by decide +kernel)
    (by decide +kernel) (by decide +kernel)).2 (by decide +kernel) _ _ (.refl _)
    (List.reverse_perm _)

def weakestAps : List Add := [⟨apCall 1 (-1), 1600000000⟩, ⟨apCall 2 (-127), 1600000000⟩]

/-- The AP added last goes first. -/
theorem weakestAps_not_scanOrder :
    (skyNewRequest sizeofSkyRctx openedSession [] 1600000000).rctx =
        some (sampleRequest) ∧
      (weakestAps.map fun a => a.call.beacon.ap.mac).Nodup ∧
      weakestAps.length ≤ openedSession.config.maxApBeacons.toNat ∧
      Along (Add.step requestSession) (Add.Inserted requestSession)
        (sampleRequest) weakestAps ∧
      ¬ ∀ p q : List Add, p.Perm weakestAps → q.Perm weakestAps →
        (Runs.run (Add.step requestSession) (sampleRequest) p).aps =
          (Runs.run (Add.step requestSession) (sampleRequest) q).aps := by
  refine ⟨by decide +kernel, by decide +kernel, by decide +kernel, by decide +kernel, ?_⟩
  intro independent
  have equal := independent weakestAps weakestAps.reverse (.refl _) (List.reverse_perm _)
  revert equal
  decide +kernel

end EmbeddedClient
