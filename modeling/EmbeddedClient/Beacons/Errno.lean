import EmbeddedClient.Beacons.Context
import EmbeddedClient.Beacons.Invariant

/-!
# The error code of a call

`sky_new_request` stores an error code when it fails and leaves the variable alone
when it does not. `add_beacon` passes the variable to its duplicate search, which
writes it for each stored beacon it compares, and does not set it again when the
beacon is inserted and no filtering is needed.
-/

namespace EmbeddedClient

theorem CellPlugin.withPriority_withPriority (b : Beacon) :
    withPriority (withPriority b) = withPriority b := by
  by_cases zero : b.h.priority.eq (.fin 0) = true
  · have filled : withPriority b = { b with h := { b.h with priority := getPriority b } } :=
      if_pos zero
    have priority : getPriority { b with h := { b.h with priority := getPriority b } } =
        getPriority b := rfl
    rw [filled]
    unfold withPriority
    rw [priority]
    split_ifs <;> rfl
  · have kept : withPriority b = b := if_neg zero
    rw [kept, kept]

theorem CellPlugin.compare_withPriority (b c : Beacon) :
    compare (withPriority b) c = compare b c := by
  have cell : (withPriority b).isCellType = b.isCellType := by
    rw [← Beacon.scan_isCellType, scan_withPriority, Beacon.scan_isCellType]
  unfold compare
  rw [cell, withPriority_withPriority]

theorem isBeaconFirst_left (b c : Beacon) :
    (isBeaconFirst skyRegisterPlugins b c).2.1 = b ∨
      (isBeaconFirst skyRegisterPlugins b c).2.1 = CellPlugin.withPriority b := by
  unfold isBeaconFirst skyPluginCompare skyRegisterPlugins
  simp only [List.findSome?_cons, List.findSome?_nil, SkyPluginTable.compare]
  cases ApPlugin.compare b c with
  | some diff => exact .inl rfl
  | none =>
    cases compared : CellPlugin.compare b c with
    | none => exact .inl rfl
    | some result =>
      right
      simp only [CellPlugin.compare, Option.ite_none_left_eq_some, Option.some.injEq] at compared
      obtain ⟨-, rfl⟩ := compared
      rfl

theorem isBeaconFirst_withPriority (b d : Beacon) :
    (isBeaconFirst skyRegisterPlugins (CellPlugin.withPriority b) d).1 =
      (isBeaconFirst skyRegisterPlugins b d).1 := by
  have scan := CellPlugin.scan_withPriority b
  have ap : ApPlugin.compare (CellPlugin.withPriority b) d = ApPlugin.compare b d := by
    unfold CellPlugin.withPriority
    split_ifs <;> rfl
  have cell : (CellPlugin.withPriority b).isCellType = b.isCellType := by
    rw [← Beacon.scan_isCellType, scan, Beacon.scan_isCellType]
  have nmr : (CellPlugin.withPriority b).isCellNmr = b.isCellNmr := by
    rw [← Beacon.scan_isCellNmr, scan, Beacon.scan_isCellNmr]
  have header : (CellPlugin.withPriority b).h.connected = b.h.connected ∧
      (CellPlugin.withPriority b).h.type = b.h.type := by
    unfold CellPlugin.withPriority
    split_ifs <;> exact ⟨rfl, rfl⟩
  unfold isBeaconFirst skyPluginCompare skyRegisterPlugins
  simp only [List.findSome?_cons, List.findSome?_nil, SkyPluginTable.compare, ap,
    CellPlugin.compare_withPriority]
  cases ApPlugin.compare b d with
  | some diff => rfl
  | none =>
    cases CellPlugin.compare b d with
    | some result => rfl
    | none =>
      simp only [Option.map_none, cell, nmr, compareType, header.1, header.2]
      rfl

theorem isBeaconFirst_again (b c d : Beacon) :
    (isBeaconFirst skyRegisterPlugins (isBeaconFirst skyRegisterPlugins b c).2.1 d).1 =
      (isBeaconFirst skyRegisterPlugins b d).1 := by
  rcases isBeaconFirst_left b c with eq | eq
  · rw [eq]
  · rw [eq, isBeaconFirst_withPriority]

theorem findPosition_index_congr {b b' : Beacon}
    (same : ∀ d, (isBeaconFirst skyRegisterPlugins b d).1 =
      (isBeaconFirst skyRegisterPlugins b' d).1)
    (l : List Beacon) :
    (findPosition skyRegisterPlugins b l).index = (findPosition skyRegisterPlugins b' l).index := by
  induction l generalizing b b' with
  | nil => rfl
  | cons c cs ih =>
    have again (d : Beacon) :
        (isBeaconFirst skyRegisterPlugins (isBeaconFirst skyRegisterPlugins b c).2.1 d).1 =
          (isBeaconFirst skyRegisterPlugins (isBeaconFirst skyRegisterPlugins b' c).2.1 d).1 := by
      rw [isBeaconFirst_again, isBeaconFirst_again, same d]
    have rest := ih again
    unfold findPosition
    dsimp only
    rw [same c]
    split_ifs
    · rfl
    · rw [rest]

theorem findPosition_index_eq_length_iff (b : Beacon) (l : List Beacon) :
    (findPosition skyRegisterPlugins b l).index = l.length ↔
      ∀ c ∈ l, ¬ 0 < (isBeaconFirst skyRegisterPlugins b c).1 := by
  induction l with
  | nil => simp [findPosition]
  | cons c cs ih =>
    have rest := findPosition_index_congr (fun d => isBeaconFirst_again b c d) cs
    unfold findPosition
    dsimp only
    split_ifs with first
    · simp [first]
    · simp [rest, ih, not_lt.1 first]

theorem pluginErrno_eq_none_iff {α : Type} (o : Option α) :
    pluginErrno o = .none ↔ o.isSome = true := by
  cases o <;> simp [pluginErrno]

def LastComparable (b : Beacon) (bs : List Beacon) : Prop :=
  ∃ c, bs.getLast? = some c ∧ Comparable b c

/-- The duplicate search leaves no error if it finds a duplicate, if there is nothing
to compare with and there was none before, or if it could compare the last beacon. -/
theorem searchDuplicate_errno_iff (b : Beacon) (start : ℕ) (errno : SkyErrno) (bs : List Beacon) :
    (searchDuplicate skyRegisterPlugins b start errno bs).2 = .none ↔
      (∃ c ∈ bs, SameBeacon b c) ∨ (bs = [] ∧ errno = .none) ∨ LastComparable b bs := by
  induction bs generalizing start errno with
  | nil => simp [searchDuplicate, LastComparable]
  | cons c cs ih =>
    unfold searchDuplicate
    dsimp only
    by_cases same : skyPluginEqual skyRegisterPlugins b c = some true
    · rw [if_pos same, same]
      exact iff_of_true rfl (.inl ⟨c, List.mem_cons_self, same⟩)
    · rw [if_neg same, ih, pluginErrno_eq_none_iff]
      have notSame : ¬ SameBeacon b c := same
      cases cs with
      | nil => simp [LastComparable, Comparable, notSame]
      | cons d ds => simp [LastComparable, notSame]

theorem comparable_self {b : Beacon} (accepted : b.Accepted) : Comparable b b := by
  rw [comparable_iff]
  refine ⟨rfl, ?_⟩
  intro ble
  rcases accepted.isApType_or_isCellType with ap | cell
  · simp [Beacon.isApType, ble] at ap
  · simp [Beacon.isCellType, ble, SkyBeaconType.code] at cell

theorem comparable_congr {a b c d : Beacon} (left : a.scan = b.scan) (right : c.scan = d.scan) :
    Comparable a c ↔ Comparable b d := by
  unfold Comparable
  rw [skyPluginEqual_congr _ left right]

theorem lastComparable_congr {b b' : Beacon} {l l' : List Beacon} (left : b.scan = b'.scan)
    (right : l.map Beacon.scan = l'.map Beacon.scan) :
    LastComparable b l ↔ LastComparable b' l' := by
  have one {b b' : Beacon} {l l' : List Beacon} (left : b.scan = b'.scan)
      (right : l.map Beacon.scan = l'.map Beacon.scan) (last : LastComparable b l) :
      LastComparable b' l' := by
    obtain ⟨c, isLast, comparable⟩ := last
    have scan : (l'.map Beacon.scan).getLast? = some c.scan := by
      rw [← right, List.getLast?_map, isLast, Option.map_some]
    rw [List.getLast?_map, Option.map_eq_some_iff] at scan
    obtain ⟨c', isLast', eq⟩ := scan
    exact ⟨c', isLast', (comparable_congr left eq.symm).1 comparable⟩
  exact ⟨one left right, one left.symm right.symm⟩

theorem getLast?_insertIdx {i : ℕ} {l : List Beacon} (range : i ≤ l.length) (b : Beacon) :
    (l.insertIdx i b).getLast? = if i = l.length then some b else l.getLast? := by
  rw [insertIdx_eq_take_drop range]
  split_ifs with atEnd
  · rw [atEnd, List.take_length, List.drop_length]
    simp
  · have rest : l.drop i ≠ [] := by
      rw [ne_eq, List.drop_eq_nil_iff]
      omega
    have split : l.getLast? = (l.take i ++ l.drop i).getLast? := by rw [List.take_append_drop]
    rw [split, List.getLast?_append_of_ne_nil _ rest, List.getLast?_append_of_ne_nil _ (by simp),
      List.getLast?_cons_of_ne_nil rest]

theorem placed_errno_iff {b : Beacon} (accepted : b.Accepted) (errno : SkyErrno) (l : List Beacon) :
    (searchDuplicate skyRegisterPlugins (findPosition skyRegisterPlugins b l).beacon 0 errno
        ((findPosition skyRegisterPlugins b l).beacons.insertIdx
          (findPosition skyRegisterPlugins b l).index
          (findPosition skyRegisterPlugins b l).beacon)).2 = .none ↔
      SameBeacon b b ∨ (∃ c ∈ l, SameBeacon b c) ∨ LastComparable b l ∨
        ∀ c ∈ l, ¬ 0 < (isBeaconFirst skyRegisterPlugins b c).1 := by
  have scans := findPosition_scan skyRegisterPlugins b l
  have range := findPosition_index_le skyRegisterPlugins b l
  rw [← findPosition_index_eq_length_iff, searchDuplicate_errno_iff]
  generalize findPosition skyRegisterPlugins b l = pos at scans range ⊢
  obtain ⟨i, b', l'⟩ := pos
  dsimp only at scans range ⊢
  have length : l'.length = l.length := by simpa using congrArg List.length scans.2
  have found : (∃ c ∈ l'.insertIdx i b', SameBeacon b' c) ↔
      SameBeacon b b ∨ ∃ c ∈ l, SameBeacon b c := by
    simp only [List.mem_insertIdx (length ▸ range), exists_eq_or_imp]
    refine or_congr (sameBeacon_congr scans.1 scans.1) ⟨?_, ?_⟩
    · rintro ⟨c, member, same⟩
      have scan : c.scan ∈ l.map Beacon.scan := by
        rw [← scans.2]
        exact List.mem_map_of_mem member
      obtain ⟨d, memberD, eq⟩ := List.mem_map.1 scan
      exact ⟨d, memberD, (sameBeacon_congr scans.1 eq.symm).1 same⟩
    · rintro ⟨c, member, same⟩
      have scan : c.scan ∈ l'.map Beacon.scan := by
        rw [scans.2]
        exact List.mem_map_of_mem member
      obtain ⟨d, memberD, eq⟩ := List.mem_map.1 scan
      exact ⟨d, memberD, (sameBeacon_congr scans.1 eq).2 same⟩
  have filled : l'.insertIdx i b' ≠ [] := by
    apply List.ne_nil_of_length_pos
    rw [List.length_insertIdx_of_le_length (length ▸ range)]
    omega
  have last : LastComparable b' (l'.insertIdx i b') ↔ i = l.length ∨ LastComparable b l := by
    rw [← lastComparable_congr scans.1 scans.2, ← length]
    unfold LastComparable
    rw [getLast?_insertIdx (length ▸ range)]
    split_ifs with atEnd
    · refine iff_of_true ⟨b', rfl, ?_⟩ (.inl atEnd)
      exact comparable_self (accepted.congr scans.1.symm)
    · simp [atEnd]
  rw [found, last]
  simp only [filled, false_and, false_or]
  rw [or_assoc, or_comm (a := i = l.length)]

/-- `sky_new_request` and the calls that add a beacon. -/
inductive ErrnoCall
  | newRequest (rbufsize : UInt32) (ulAppData : List UInt8) (now : ℤ)
  | addBeacon (call : AddCall) (timestamp : ℤ)

/-- The error code after the call is `SKY_ERROR_NONE` exactly if it succeeds; `prev` is
what the variable held before. -/
def ErrnoCall.Agrees (s : SkySctx) (r : SkyRctx) (prev : SkyErrno) :
    ErrnoCall → Prop
  | newRequest rbufsize ulAppData now =>
    let result := skyNewRequest rbufsize s ulAppData now
    result.errno.getD prev = .none ↔ result.rctx.isSome = true
  | addBeacon call timestamp =>
    let result := skyAddBeacon s r prev call timestamp
    result.errno = .none ↔ result.status = .success

def AcceptsRequest (s : SkySctx) (rbufsize : UInt32) (now : ℤ) : Prop :=
  rbufsize = sizeofSkyRctx ∧ s.openFlag = true ∧ backoffViolation s (startTime now) = false

def SkyRctx.counted (r : SkyRctx) (b : Beacon) : SkyRctx :=
  { r with numBeacons := r.numBeacons + 1, numAp := if b.isApType then r.numAp + 1 else r.numAp }

/-- An insertion that removes nothing leaves `SKY_ERROR_NONE`: the search for the new beacon finds
it, unless it is a GSM neighbour, or the last beacon that it compares is of the same kind. -/
def InsertionSetsErrno (s : SkySctx) (live : List Beacon) (b : Beacon) (age : UInt32) : Prop :=
  LastComparable b live ∨ b.isGsmNmr = false ∨
    ∀ c ∈ live, ¬ 0 < (isBeaconFirst skyRegisterPlugins (preparedBeacon s b age) c).1

/-- When a call leaves the right error code. -/
def ErrnoCall.SetsErrno (s : SkySctx) (r : SkyRctx) (prev : SkyErrno) :
    ErrnoCall → Prop
  | newRequest rbufsize _ now => AcceptsRequest s rbufsize now → prev = .none
  | addBeacon call timestamp =>
    let ctx := (validateRequestCtx r).2
    ∀ age, AcceptsBeacon s r call.beacon timestamp age →
      (∃ c ∈ ctx.live, SameBeacon call.beacon c) ∨
      ¬ withinLimits s (ctx.counted call.beacon) = true ∨
      InsertionSetsErrno s ctx.live call.beacon age

theorem skyNewRequest_errno_iff (s : SkySctx) (rbufsize : UInt32) (ulAppData : List UInt8) (now : ℤ)
    (prev : SkyErrno) :
    ((skyNewRequest rbufsize s ulAppData now).errno.getD prev = .none ↔
        (skyNewRequest rbufsize s ulAppData now).rctx.isSome = true) ↔
      (AcceptsRequest s rbufsize now → prev = .none) := by
  unfold skyNewRequest AcceptsRequest
  split_ifs with size closed backoff
  · simp [size]
  · simp at closed
    simp [closed]
  · simp [backoff]
  · simp only [not_not] at size
    simp only [Bool.not_eq_true', Bool.not_eq_false] at closed
    simp only [Bool.not_eq_true] at backoff
    simp [size, closed, backoff]

theorem filterBeacons_errno_iff (s : SkySctx) (added : AddResult)
    (status : added.status = .success) :
    ((filterBeacons s added).errno = .none ↔ (filterBeacons s added).status = .success) ↔
      ¬ withinLimits s added.rctx = true ∨ added.errno = .none := by
  unfold filterBeacons
  dsimp only
  split_ifs with within
  · simp [within, status]
  · cases (skyPluginRemoveWorst s s.plugins added.rctx).1 <;> simp [within, status]

theorem lastComparable_of_identity {b b' : Beacon} (same : b.identity = b'.identity)
    (l : List Beacon) :
    LastComparable b l ↔ LastComparable b' l := by
  have type : b.h.type = b'.h.type := congrArg Prod.fst same
  unfold LastComparable
  simp only [comparable_iff, type]

theorem isGsmNmr_of_identity {b b' : Beacon} (same : b.identity = b'.identity) :
    b.isGsmNmr = b'.isGsmNmr := by
  simp only [Beacon.identity, Prod.mk.injEq, Cell.mk.injEq] at same
  unfold Beacon.isGsmNmr Beacon.isCellNmr Beacon.isCellType
  rw [same.1, same.2.2.2.1]

/-- The code after the insertion, before any filter. -/
theorem placeBeacon_errno_iff (r : SkyRctx) (errno : SkyErrno) {b : Beacon}
    (accepted : b.Accepted) :
    (placeBeacon skyRegisterPlugins r errno b).errno = .none ↔
      b.isGsmNmr = false ∨ (∃ c ∈ r.live, SameBeacon b c) ∨ LastComparable b r.live ∨
        ∀ c ∈ r.live, ¬ 0 < (isBeaconFirst skyRegisterPlugins b c).1 := by
  let pos := findPosition skyRegisterPlugins b r.live
  have live : (placeBeacon skyRegisterPlugins r errno b).rctx.live =
      pos.beacons.insertIdx pos.index pos.beacon := live_setLive r _
  rw [← accepted.sameBeacon_self_iff, ← placed_errno_iff accepted errno r.live, ← live]
  rfl

theorem finishAdd_of_none (s : SkySctx) (r : SkyRctx) {added : AddResult}
    (status : added.status = .success) (none : added.errno = .none) :
    (finishAdd s r added).errno = .none ↔ (finishAdd s r added).status = .success := by
  unfold finishAdd
  rw [if_neg (by simp [status])]
  split_ifs
  · simp [none, status]
  · exact (filterBeacons_errno_iff s added status).2 (.inr none)

theorem withinLimits_congr (s : SkySctx) {r r' : SkyRctx}
    (numBeacons : r.numBeacons = r'.numBeacons) (numAp : r.numAp = r'.numAp) :
    withinLimits s r = withinLimits s r' := by
  unfold withinLimits
  rw [numBeacons, numAp]

theorem finishAdd_placeBeacon_iff (s : SkySctx) {r : SkyRctx}
    (full : r.live.length = r.numBeacons) {errno : SkyErrno} {b : Beacon} {added : AddResult}
    (placed : added = placeBeacon skyRegisterPlugins r errno b) :
    ((finishAdd s r added).errno = .none ↔ (finishAdd s r added).status = .success) ↔
      ¬ withinLimits s (r.counted b) = true ∨ added.errno = .none := by
  have status : added.status = .success := by
    rw [placed]
    rfl
  have numBeacons : added.rctx.numBeacons = r.numBeacons + 1 := by
    rw [placed]
    exact placeBeacon_numBeacons full errno b
  have numAp : added.rctx.numAp = (r.counted b).numAp := by
    rw [placed]
    rfl
  have limits : withinLimits s added.rctx = withinLimits s (r.counted b) :=
    withinLimits_congr s numBeacons numAp
  have finish : finishAdd s r added = filterBeacons s added := by
    unfold finishAdd
    rw [if_neg (by simp [status]), if_neg (by omega)]
  rw [finish, filterBeacons_errno_iff s added status, limits]

/-- The insertion of a prepared beacon and the code it ends with. -/
theorem finishAdd_insertBeacon_iff (s : SkySctx) {r : SkyRctx}
    (full : r.live.length = r.numBeacons) (prev : SkyErrno) {b : Beacon} {age : UInt32}
    (valid : (validateBeacon b).1 = true) {added : AddResult}
    (inserted : added = insertBeacon skyRegisterPlugins r prev (preparedBeacon s b age)) :
    ((finishAdd s r added).errno = .none ↔ (finishAdd s r added).status = .success) ↔
      (∃ c ∈ r.live, SameBeacon b c) ∨ ¬ withinLimits s (r.counted b) = true ∨
        InsertionSetsErrno s r.live b age := by
  obtain ⟨accepted, identity, isAp⟩ := preparedBeacon_spec s age valid
  have gsm := isGsmNmr_of_identity identity
  have last := lastComparable_of_identity identity r.live
  have dup : (∃ c ∈ r.live, SameBeacon (preparedBeacon s b age) c) ↔
      ∃ c ∈ r.live, SameBeacon b c := by
    simp only [sameBeacon_of_identity identity]
  have counted :
      withinLimits s (r.counted (preparedBeacon s b age)) = withinLimits s (r.counted b) := by
    unfold SkyRctx.counted
    rw [isAp]
  have spec := searchDuplicate_spec (preparedBeacon s b age) 0 prev r.live
  unfold insertBeacon at inserted
  rw [if_pos accepted.typed] at inserted
  dsimp only at inserted
  generalize searchDuplicate skyRegisterPlugins (preparedBeacon s b age) 0 prev r.live = found
    at spec inserted
  obtain ⟨outcome, errno'⟩ := found
  dsimp only at spec inserted
  cases outcome with
  | rejected =>
    rw [inserted]
    obtain ⟨c, member, same, -⟩ := spec
    exact iff_of_true (finishAdd_of_none s r rfl rfl) (.inl (dup.1 ⟨c, member, same⟩))
  | better j =>
    obtain ⟨i, range, -, same, -⟩ := spec
    have isDup := dup.1 ⟨_, List.getElem_mem range, same⟩
    have self := accepted.sameBeacon_self_iff.1 (same.trans same.symm)
    refine iff_of_true (finishAdd_of_none s r ?_ ?_) (.inl isDup)
    · rw [inserted]
      rfl
    · rw [inserted, placeBeacon_errno_iff _ _ accepted]
      exact .inl self
  | absent =>
    have fresh : ¬ ∃ c ∈ r.live, SameBeacon b c := by
      rw [← dup]
      rintro ⟨c, member, same⟩
      exact spec c member same
    have noDup := fresh
    rw [← dup] at noDup
    rw [finishAdd_placeBeacon_iff s full inserted, counted, inserted,
      placeBeacon_errno_iff r errno' accepted]
    unfold InsertionSetsErrno
    simp only [fresh, noDup, false_or, gsm, last]
    exact or_congr_right or_left_comm

/-- `sky_errno` agrees with the result of a call under exactly this condition. -/
theorem errno_agrees_iff (s : SkySctx) (r : SkyRctx) (prev : SkyErrno)
    (call : ErrnoCall) (plugins : s.openFlag = true → s.plugins = skyRegisterPlugins)
    (slots : r.beacon.length = TOTAL_BEACONS + 1) :
    call.Agrees s r prev ↔ call.SetsErrno s r prev := by
  cases call with
  | newRequest rbufsize ulAppData now => exact skyNewRequest_errno_iff s rbufsize ulAppData now prev
  | addBeacon call timestamp =>
    unfold ErrnoCall.Agrees ErrnoCall.SetsErrno skyAddBeacon
    dsimp only
    rcases addBeacon_cases s r prev call.beacon timestamp with
      ⟨e, failed, -, refused, result⟩ | ⟨age, accepts, result⟩
    · rw [result]
      exact iff_of_true (by simp [failed]) fun age accepts => absurd accepts (refused age)
    · have full := validateRequestCtx_full slots accepts.1
      have inserted := congrArg (fun ps => insertBeacon ps (validateRequestCtx r).2 prev
        (preparedBeacon s call.beacon age)) (plugins accepts.2.1)
      rw [result, finishAdd_insertBeacon_iff s full prev accepts.2.2.1 inserted]
      constructor
      · intro agrees age' accepts'
        rwa [accepts'.age_unique accepts]
      · intro sets
        exact sets age accepts

instance (s : SkySctx) (r : SkyRctx) (prev : SkyErrno) :
    ∀ call : ErrnoCall, Decidable (call.Agrees s r prev)
  | .newRequest .. | .addBeacon .. => inferInstanceAs (Decidable (_ ↔ _))

def cellAfterAp : AddCall := .lte 1000 100000 310 10 5 2000 0 (-100) true

theorem cellAfterAp_agrees :
    (ErrnoCall.addBeacon cellAfterAp 1600000000).Agrees openedSession oneApRequest .none :=
  (errno_agrees_iff openedSession oneApRequest .none (.addBeacon cellAfterAp 1600000000)
    (by decide +kernel) (by decide +kernel)).2 (by
      intro age accepted
      exact .inr (.inr (.inr (.inl (by decide)))))

/-- A request with a UMTS neighbour that was scanned five seconds before it was started. -/
def umtsRequest : SkyRctx :=
  (skyAddBeacon openedSession (SkyRctx.initialized openedSession 1600000000) .none
    (.umtsNeighbor 5 10562 (-70)) 1599999995).rctx

/-- A request that starts leaves an old error. A GSM neighbour goes before an older UMTS neighbour,
is not found again, and leaves the error of the comparison with the latter. -/
theorem staleErrno_disagrees :
    ¬ (ErrnoCall.newRequest sizeofSkyRctx [] 1600000000).Agrees openedSession oneApRequest
        .badParameters ∧
      ¬ (ErrnoCall.addBeacon (.gsmNeighbor 5 100 (-70)) 1600000000).Agrees openedSession umtsRequest
          .none := by
  decide +kernel

end EmbeddedClient
