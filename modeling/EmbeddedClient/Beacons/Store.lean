import EmbeddedClient.Beacons.Insert

/-!
# Storing and evicting

What `insert_beacon` and the filter after it do to a context that holds a
beacon list: the cases they end in, with the counters, the slot stored to and
the length of the array.
-/

namespace EmbeddedClient

/-- A slot that `validate_request_ctx` accepts whether it is in use or not. -/
def Beacon.SlotOk (b : Beacon) : Prop :=
  b.h.magic = BEACON_MAGIC ∧ b.h.type.code ≤ SkyBeaconType.max.code

instance (b : Beacon) : Decidable b.SlotOk := inferInstanceAs (Decidable (_ ∧ _))

theorem Beacon.Accepted.slotOk {b : Beacon} (accepted : b.Accepted) : b.SlotOk := by
  refine ⟨accepted.magic, ?_⟩
  obtain ap | cell := accepted.isApType_or_isCellType
  · rw [apType_code ap]
    decide
  · simp only [Beacon.isCellType, decide_eq_true_eq] at cell
    exact cell.2.trans (by decide)

/-- What a call does to the array: it may write the slots below `top`, and
leaves every slot usable. -/
structure ArrayTo (top : ℕ) (r r' : SkyRctx) : Prop where
  length : r'.beacon.length = max top r.beacon.length
  slots : (∀ b ∈ r.beacon.take TOTAL_BEACONS, b.SlotOk) →
    ∀ b ∈ r'.beacon.take TOTAL_BEACONS, b.SlotOk

structure SkyRctx.Slots (r : SkyRctx) : Prop where
  length : r.beacon.length = TOTAL_BEACONS + 1
  usable : ∀ b ∈ r.beacon.take TOTAL_BEACONS, b.SlotOk

theorem SkyRctx.Slots.congr {r r' : SkyRctx} (slots : r.Slots) (beacon : r'.beacon = r.beacon) :
    r'.Slots :=
  ⟨by rw [beacon, slots.length], by rw [beacon]; exact slots.usable⟩

namespace ArrayTo

variable {r r' r'' : SkyRctx} {top top' : ℕ}

theorem keeps (array : ArrayTo top r r') (slots : r.Slots) (bound : top ≤ TOTAL_BEACONS + 1) :
    r'.Slots :=
  ⟨by rw [array.length, slots.length]; omega, array.slots slots.usable⟩

theorem trans (first : ArrayTo top r r') (second : ArrayTo top' r' r'') {n : ℕ}
    (eq : n = max top top' := by simp) : ArrayTo n r r'' where
  length := by
    rw [second.length, first.length, eq]
    omega
  slots := fun slots => second.slots (first.slots slots)

theorem of_le (array : ArrayTo top r r') (le : top ≤ r.beacon.length) : ArrayTo 0 r r' :=
  ⟨by rw [array.length]; omega, array.slots⟩

theorem setLive (r : SkyRctx) (bs : List Beacon) (accepted : ∀ b ∈ bs, b.Accepted) (n : ℕ) :
    ArrayTo bs.length r { r.setLive bs with numAp := n } where
  length := by
    simp only [SkyRctx.setLive, List.length_append, List.length_drop]
    omega
  slots := fun slots b member => by
    simp only [SkyRctx.setLive, List.take_append, List.mem_append] at member
    obtain new | old := member
    · exact (accepted b (List.mem_of_mem_take new)).slotOk
    · rw [← List.drop_take] at old
      exact slots b (List.mem_of_mem_drop old)

theorem of_map_scan (same : r'.beacon.map Beacon.scan = r.beacon.map Beacon.scan) :
    ArrayTo 0 r r' where
  length := by simpa using congrArg List.length same
  slots := fun slots => BeaconList.forall_of_map_scan
    (fun {a b} eq ok => by
      rw [Beacon.SlotOk, ← Beacon.scan_magic, ← Beacon.scan_type, ← eq]
      exact ok)
    (by rw [List.map_take, same, ← List.map_take]) slots

theorem sameScan (same : SameScan r r') : ArrayTo 0 r r' := of_map_scan same.beacon

end ArrayTo

theorem numCells_eq {numBeacons numAp : ℕ} (le : numAp ≤ numBeacons) (bound : numBeacons < 65536) :
    numCells numBeacons numAp = numBeacons - numAp := by
  unfold numCells
  omega

variable {r : SkyRctx} {l : BeaconList} {b : Beacon}

theorem removeBeacon_holds (holds : r.Holds l) {i : ℕ} (range : i < l.all.length) :
    ∃ l' : BeaconList, (removeBeacon r i).1 = .success ∧ (removeBeacon r i).2.Holds l' ∧
      l'.all = l.all.eraseIdx i ∧
      l'.aps.length + l.all[i].isApType.toNat = l.aps.length ∧
      ArrayTo 0 r (removeBeacon r i).2 := by
  have count := l.length_all
  have inside : ¬ r.numBeacons ≤ i := by
    have := holds.numBeacons
    omega
  have removed : removeBeacon r i = (.success,
      { r.setLive (l.all.eraseIdx i) with
        numAp := if l.all[i].isApType then r.numAp - 1 else r.numAp }) := by
    rw [removeBeacon, if_neg inside, holds.slot range, holds.live]
  have array : ArrayTo 0 r (removeBeacon r i).2 := by
    rw [removed]
    refine (ArrayTo.setLive r (l.all.eraseIdx i) (fun b member =>
      l.accepted b (List.mem_of_mem_eraseIdx member)) _).of_le ?_
    have := holds.numBeacons_le
    have := holds.numBeacons
    rw [List.length_eraseIdx_of_lt range]
    omega
  rw [removed] at array ⊢
  by_cases side : i < l.aps.length
  · have get : l.all[i] = l.aps[i] := List.getElem_append_left side
    have ap : l.all[i].isApType = true := by
      rw [get]
      exact l.isApType _ (List.getElem_mem _)
    have erased : (l.eraseAp i).all = l.all.eraseIdx i :=
      (List.eraseIdx_append_of_lt_length side _).symm
    have length : (l.eraseAp i).aps.length = l.aps.length - 1 :=
      List.length_eraseIdx_of_lt side
    refine ⟨l.eraseAp i, rfl, ?_, erased, ?_, array⟩
    · rw [← erased]
      exact .setLive _ _ _ (by simp [ap, length, holds.numAp])
    · rw [length, ap, Bool.toNat_true]
      omega
  · have side : l.aps.length ≤ i := by omega
    have get : l.all[i] = l.cells[i - l.aps.length] := List.getElem_append_right side
    have notAp : l.all[i].isApType = false := by
      rw [get]
      exact isApType_of_isCellType (l.isCellType _ (List.getElem_mem _))
    have erased : (l.eraseCell (i - l.aps.length)).all = l.all.eraseIdx i :=
      (List.eraseIdx_append_of_length_le side _).symm
    refine ⟨l.eraseCell (i - l.aps.length), rfl, ?_, erased, ?_, array⟩
    · rw [← erased]
      exact .setLive _ _ _ (by simpa [notAp] using holds.numAp)
    · simp [notAp]

/-- The duplicate search finds the first equal beacon, and says which of the two to keep. -/
theorem searchDuplicate_spec (b : Beacon) (start : ℕ) (errno : SkyErrno) (bs : List Beacon) :
    match (searchDuplicate skyRegisterPlugins b start errno bs).1 with
    | .absent => ∀ c ∈ bs, ¬ SameBeacon b c
    | .rejected => ∃ c ∈ bs, SameBeacon b c ∧ b.betterDuplicate c = false
    | .better j => ∃ i, ∃ range : i < bs.length, j = start + i ∧ SameBeacon b bs[i] ∧
        b.betterDuplicate bs[i] = true := by
  induction bs generalizing start errno with
  | nil => simp [searchDuplicate]
  | cons c cs ih =>
    unfold searchDuplicate
    dsimp only
    by_cases same : skyPluginEqual skyRegisterPlugins b c = some true
    · rw [if_pos same]
      split_ifs with better
      · exact ⟨0, by simp, rfl, same, better⟩
      · exact ⟨c, by simp, same, by simpa using better⟩
    · rw [if_neg same]
      have rest := ih (start + 1) (pluginErrno (skyPluginEqual skyRegisterPlugins b c))
      split <;> simp_all only
      · simpa using ⟨same, rest⟩
      · obtain ⟨d, member, eq⟩ := rest
        exact ⟨d, by simp [member], eq⟩
      · obtain ⟨i, range, rfl, eq⟩ := rest
        exact ⟨i + 1, by simpa using range, by omega, by simpa using eq⟩

/-- The branches of `insert_beacon`: the new beacon is dropped for an equal one, or it is placed,
after the equal one is removed if there is one. -/
inductive InsertBranch (r : SkyRctx) (b : Beacon) : AddResult → Prop
  | rejected (i : ℕ) (range : i < r.live.length) (same : SameBeacon b r.live[i])
      (worse : b.betterDuplicate r.live[i] = false) : InsertBranch r b ⟨.success, .none, r, none⟩
  | absent (errno : SkyErrno) (fresh : ∀ c ∈ r.live, ¬ SameBeacon b c) :
      InsertBranch r b (placeBeacon skyRegisterPlugins r errno b)
  | better (errno : SkyErrno) (i : ℕ) (range : i < r.live.length) (same : SameBeacon b r.live[i])
      (better : b.betterDuplicate r.live[i] = true) :
      InsertBranch r b (placeBeacon skyRegisterPlugins (removeBeacon r i).2 errno b)

theorem insertBeacon_branch (r : SkyRctx) (errno : SkyErrno)
    (typed : (b.isApType || b.isCellType) = true) :
    InsertBranch r b (insertBeacon skyRegisterPlugins r errno b) := by
  have spec := searchDuplicate_spec b 0 errno r.live
  unfold insertBeacon
  rw [if_pos typed]
  dsimp only
  generalize searchDuplicate skyRegisterPlugins b 0 errno r.live = dup at spec
  obtain ⟨outcome, errno'⟩ := dup
  cases outcome with
  | rejected =>
    obtain ⟨c, member, same, worse⟩ := spec
    obtain ⟨i, range, rfl⟩ := List.mem_iff_getElem.1 member
    exact .rejected i range same worse
  | absent => exact .absent errno' spec
  | better j =>
    obtain ⟨i, range, rfl, same, isBetter⟩ := spec
    rw [Nat.zero_add]
    exact .better errno' i range same isBetter

theorem fresh_eraseIdx {l' : BeaconList} {i : ℕ} (range : i < l.all.length)
    (same : SameBeacon b l.all[i]) (erased : l'.all = l.all.eraseIdx i) : l'.Fresh b := by
  intro c member same'
  rw [erased, List.mem_eraseIdx_iff_getElem] at member
  obtain ⟨j, rangeJ, differ, rfl⟩ := member
  exact differ (l.eq_of_sameBeacon rangeJ range (same'.symm.trans same))

theorem placeBeacon_holds (holds : r.Holds l) (errno : SkyErrno)
    (accepted : b.Accepted) (fresh : l.Fresh b) :
    ∃ l' : BeaconList, (placeBeacon skyRegisterPlugins r errno b).rctx.Holds l' ∧
      l'.aps.length = l.aps.length + b.isApType.toNat ∧ l'.all.length = l.all.length + 1 ∧
      ArrayTo (r.numBeacons + 1) r (placeBeacon skyRegisterPlugins r errno b).rctx := by
  obtain ⟨l', placed, aps, all⟩ := placed_holds accepted fresh
  refine ⟨l', ?_, aps, all, ?_⟩
  · simp only [placeBeacon, holds.live, placed]
    refine .setLive _ _ _ ?_
    rw [aps, holds.numAp]
    cases b.isApType <;> rfl
  · simp only [placeBeacon, holds.live, placed]
    rw [holds.numBeacons, ← all]
    exact .setLive r l'.all l'.accepted _

/-- How `insert_beacon` ends: the new beacon is dropped for an equal one, takes
the place of an equal one, or makes the list longer. -/
inductive InsertOutcome (r : SkyRctx) (l : BeaconList) (b : Beacon) (added : AddResult) : Prop
  | kept (same : ¬ l.Fresh b) (rctx : added.rctx = r) (top : added.top = none)
  | replaced (l' : BeaconList) (same : ¬ l.Fresh b) (holds : added.rctx.Holds l')
      (aps : l'.aps.length = l.aps.length) (all : l'.all.length = l.all.length)
      (top : added.top = some (l.all.length - 1)) (array : ArrayTo 0 r added.rctx)
  | stored (l' : BeaconList) (fresh : l.Fresh b) (holds : added.rctx.Holds l')
      (aps : l'.aps.length = l.aps.length + b.isApType.toNat)
      (all : l'.all.length = l.all.length + 1)
      (top : added.top = some l.all.length) (array : ArrayTo (l.all.length + 1) r added.rctx)

theorem insertBeacon_outcome (holds : r.Holds l) (errno : SkyErrno)
    (accepted : b.Accepted) :
    (insertBeacon skyRegisterPlugins r errno b).status = .success ∧
      InsertOutcome r l b (insertBeacon skyRegisterPlugins r errno b) := by
  have branch := insertBeacon_branch r errno accepted.typed
  generalize insertBeacon skyRegisterPlugins r errno b = added at branch
  cases branch with
  | rejected i range same =>
    simp only [holds.live] at range same
    exact ⟨rfl, .kept (fun fresh => fresh _ (List.getElem_mem range) same) rfl rfl⟩
  | absent errno' fresh =>
    have fresh : l.Fresh b := by simpa only [BeaconList.Fresh, ← holds.live] using fresh
    obtain ⟨l', holds', aps, all, array⟩ := placeBeacon_holds holds errno' accepted fresh
    refine ⟨rfl, .stored l' fresh holds' aps all ?_ ?_⟩
    · simp [placeBeacon, holds.numBeacons]
    · rwa [holds.numBeacons] at array
  | better errno' i range same =>
    simp only [holds.live] at range same
    have found : ¬ l.Fresh b := fun fresh => fresh _ (List.getElem_mem range) same
    obtain ⟨l', -, holds', erased, aps, array⟩ := removeBeacon_holds holds range
    have shorter : l'.all.length = l.all.length - 1 := by
      rw [erased, List.length_eraseIdx_of_lt range]
    obtain ⟨l'', holds'', aps', all', array'⟩ := placeBeacon_holds holds' errno' accepted
      (fresh_eraseIdx range same erased)
    refine ⟨rfl, .replaced l'' found holds'' ?_ ?_ ?_ ?_⟩
    · rw [aps', ← aps, same.isApType_eq]
    · omega
    · simp [placeBeacon, holds'.numBeacons, shorter]
    · have := holds.numBeacons_le
      have := holds.numBeacons
      have := holds'.numBeacons
      exact array.trans (array'.of_le (by rw [array.length]; omega))

end EmbeddedClient
