import EmbeddedClient.Beacons.Adds
import EmbeddedClient.Beacons.CellOrder

/-!
# Streaming cell selection

Cells are inserted one by one at the place `compare` gives them, and the last one is
removed when there are too many. What a request ends with are the first of all its
cells, sorted by priority, age, type and signal strength.
-/

namespace EmbeddedClient

open Binary32 (FloatVal)
open Ranking Runs

theorem findPosition_cell_append {b : Beacon} (cell : b.isCellType = true) {aps : List Beacon}
    (isAp : ∀ c ∈ aps, c.isApType = true) (cells : List Beacon) :
    findPosition skyRegisterPlugins b (aps ++ cells) =
      ⟨aps.length + (findPosition skyRegisterPlugins b cells).index,
        (findPosition skyRegisterPlugins b cells).beacon,
        aps ++ (findPosition skyRegisterPlugins b cells).beacons⟩ := by
  induction aps with
  | nil => simp
  | cons a aps ih =>
    have behind := isBeaconFirst_cell_ap cell (isAp a List.mem_cons_self)
    have rest := ih fun c member => isAp c (List.mem_cons_of_mem a member)
    rw [List.cons_append, findPosition]
    simp only [behind]
    rw [if_neg (by decide), rest, List.length_cons]
    simp only [Position.mk.injEq, and_true, List.cons_append, and_self]
    omega

theorem findPosition_ap_append {b : Beacon} (ap : b.isApType = true) {aps cells : List Beacon}
    (isAp : ∀ c ∈ aps, c.isApType = true) (isCell : ∀ c ∈ cells, c.isCellType = true) :
    ∃ i ≤ aps.length, findPosition skyRegisterPlugins b (aps ++ cells) = ⟨i, b, aps ++ cells⟩ := by
  induction aps with
  | nil =>
    refine ⟨0, le_rfl, ?_⟩
    cases cells with
    | nil => rfl
    | cons c cs => simp [findPosition, isBeaconFirst_ap_cell ap (isCell c (by simp))]
  | cons a aps ih =>
    obtain ⟨i, range, position⟩ := ih fun c member => isAp c (List.mem_cons_of_mem a member)
    obtain ⟨diff, compared, -, -⟩ := isBeaconFirst_ap_ap ap (isAp a List.mem_cons_self)
    by_cases before : 0 < diff
    · exact ⟨0, Nat.zero_le _, by simp [findPosition, compared, before]⟩
    · exact ⟨i + 1, Nat.succ_le_succ range, by simp [findPosition, compared, before, position]⟩

def SkyRctx.cells (r : SkyRctx) : List Beacon := r.live.drop r.numAp

variable {s : SkySctx} {r : SkyRctx} {b : Beacon}

theorem InOrder.live_eq (ordered : InOrder r.live r.numAp) :
    ∃ aps, aps.length = r.numAp ∧ r.live = aps ++ r.cells ∧ ∀ c ∈ aps, c.isApType = true :=
  ⟨r.live.take r.numAp, List.length_take_of_le ordered.numAp_le, (List.take_append_drop ..).symm,
    ordered.aps⟩

theorem placeBeacon_cells_ap (ordered : InOrder r.live r.numAp) (ap : b.isApType = true)
    (errno : SkyErrno) :
    (placeBeacon skyRegisterPlugins r errno b).rctx.cells = r.cells := by
  obtain ⟨aps, length, split, isAp⟩ := ordered.live_eq
  obtain ⟨i, range, position⟩ := findPosition_ap_append ap isAp ordered.cells
  have count := ordered.numAp_le
  have live : (placeBeacon skyRegisterPlugins r errno b).rctx.live = r.live.insertIdx i b := by
    have placed : (placeBeacon skyRegisterPlugins r errno b).rctx.live =
        (findPosition skyRegisterPlugins b r.live).beacons.insertIdx
          (findPosition skyRegisterPlugins b r.live).index
          (findPosition skyRegisterPlugins b r.live).beacon := live_setLive ..
    rw [placed, split]
    simp only [SkyRctx.cells] at position ⊢
    rw [position]
  have numAp : (placeBeacon skyRegisterPlugins r errno b).rctx.numAp = r.numAp + 1 :=
    if_pos ap
  rw [SkyRctx.cells, live, numAp, drop_insertIdx (by omega) (by omega)]
  rfl

theorem placeBeacon_cells_cell (ordered : InOrder r.live r.numAp) (cell : b.isCellType = true)
    (errno : SkyErrno) :
    (placeBeacon skyRegisterPlugins r errno b).rctx.cells =
      (findPosition skyRegisterPlugins b r.cells).beacons.insertIdx
        (findPosition skyRegisterPlugins b r.cells).index
        (findPosition skyRegisterPlugins b r.cells).beacon := by
  obtain ⟨aps, length, split, isAp⟩ := ordered.live_eq
  have position := findPosition_cell_append cell isAp r.cells
  have inside := findPosition_index_le skyRegisterPlugins b r.cells
  have same := (findPosition_unranked skyRegisterPlugins b r.cells).2
  have count : (findPosition skyRegisterPlugins b r.cells).beacons.length = r.cells.length := by
    simpa using congrArg List.length same
  generalize findPosition skyRegisterPlugins b r.cells = pos at position inside count
  have placed : (placeBeacon skyRegisterPlugins r errno b).rctx.live =
      (findPosition skyRegisterPlugins b r.live).beacons.insertIdx
        (findPosition skyRegisterPlugins b r.live).index
        (findPosition skyRegisterPlugins b r.live).beacon := live_setLive ..
  have numAp : (placeBeacon skyRegisterPlugins r errno b).rctx.numAp = r.numAp :=
    if_neg (by rw [isApType_of_isCellType cell]; decide)
  rw [split, position] at placed
  rw [SkyRctx.cells, placed, numAp, ← length]
  dsimp only
  rw [insertIdx_eq_take_drop (by rw [List.length_append]; omega),
    insertIdx_eq_take_drop (by omega), List.take_length_add_append, List.drop_length_add_append,
    List.append_assoc, List.drop_left]

theorem removeBeacon_live {i : ℕ} (range : i < r.numBeacons) :
    (removeBeacon r i).2.live = r.live.eraseIdx i ∧
      (removeBeacon r i).2.numAp = if (r.slot i).isApType then r.numAp - 1 else r.numAp := by
  rw [removeBeacon, if_neg (by omega)]
  exact ⟨live_setLive .., rfl⟩

theorem SkyRctx.Listed.slot_isApType_iff (listed : r.Listed) {i : ℕ} (range : i < r.numBeacons) :
    (r.slot i).isApType = true ↔ i < r.numAp := by
  have inside : i < r.live.length := by rwa [listed.full]
  have slot :=
    listed.shows.slot (show i < (r.live.map Beacon.unranked).length by simpa using inside)
  rw [← listed.inOrder.isApType_iff inside, ← Beacon.unranked_isApType, slot, List.getElem_map,
    Beacon.unranked_isApType]

theorem removeBeacon_cells_ap (listed : r.Listed) {i : ℕ} (range : i < r.numAp) :
    (removeBeacon r i).2.cells = r.cells := by
  have count := listed.inOrder.numAp_le
  have full := listed.full
  obtain ⟨live, numAp⟩ := removeBeacon_live (r := r) (i := i) (by omega)
  rw [if_pos ((listed.slot_isApType_iff (by omega)).2 range)] at numAp
  have length : (r.live.take i).length = i := List.length_take_of_le (by omega)
  rw [SkyRctx.cells, live, numAp, List.eraseIdx_eq_take_drop_succ, List.drop_append, length,
    List.drop_eq_nil_of_le (by omega), List.drop_drop, List.nil_append, SkyRctx.cells]
  congr 1
  omega

theorem removeBeacon_cells_last (listed : r.Listed) (some : r.numAp < r.numBeacons) :
    (removeBeacon r (r.numBeacons - 1)).2.cells = r.cells.dropLast := by
  have full := listed.full
  obtain ⟨live, numAp⟩ := removeBeacon_live (r := r) (i := r.numBeacons - 1) (by omega)
  rw [if_neg (by rw [listed.slot_isApType_iff (by omega)]; omega)] at numAp
  rw [SkyRctx.cells, live, numAp, ← full, List.eraseIdx_length_sub_one, List.dropLast_eq_take,
    List.drop_take, SkyRctx.cells, List.dropLast_eq_take, List.length_drop]
  congr 1
  omega

theorem setPriorities_cells (s : SkySctx) (r : SkyRctx) :
    (ApPlugin.setPriorities s r).1.cells = r.cells := by
  obtain ⟨bs, eq, -, behind⟩ := ApPlugin.setPriorities_unranked s r
  rw [eq, SkyRctx.cells, SkyRctx.cells, SkyRctx.live, SkyRctx.live]
  dsimp only
  rw [List.drop_take, List.drop_take, behind]

theorem SkyRctx.Listed.setPriorities (listed : r.Listed) (s : SkySctx) :
    (ApPlugin.setPriorities s r).1.Listed :=
  (listed.shows.setPriorities s).toListed (listed.inOrder.of_unranked (by simp))

/-- The filter cuts the cells off behind the last one that is allowed. -/
theorem filterBeacons_cells {added : AddResult} (plugins : s.plugins = skyRegisterPlugins)
    (listed : added.rctx.Listed) (bound : added.rctx.numBeacons < 65536)
    (room : added.rctx.cells.length ≤ s.config.maxCells + 1)
    (within : s.config.maxApBeacons.toNat < added.rctx.numAp →
      added.rctx.cells.length ≤ s.config.maxCells) :
    (filterBeacons s added).rctx.cells = added.rctx.cells.take s.config.maxCells := by
  have ordered : InOrder (added.rctx.live.map Beacon.unranked) added.rctx.numAp :=
    listed.inOrder.of_unranked (by simp)
  have full : (added.rctx.live.map Beacon.unranked).length = added.rctx.numBeacons := by
    rw [List.length_map, listed.full]
  have count : added.rctx.cells.length = added.rctx.numBeacons - added.rctx.numAp := by
    rw [SkyRctx.cells, List.length_drop, listed.full]
  have ranked := listed.setPriorities s
  have same := ApPlugin.sameScan_setPriorities s added.rctx
  have cells := setPriorities_cells s added.rctx
  rcases filterBeacons_cases plugins listed.shows ordered (by omega) with
    ⟨-, few, result⟩ | ⟨many, i, range, result⟩ | ⟨-, many, result⟩
  · rw [result, List.take_of_length_le (by omega)]
  · rw [result]
    dsimp only
    rw [removeBeacon_cells_ap ranked (by rwa [same.numAp]), cells,
      List.take_of_length_le (within many)]
  · rw [result]
    dsimp only
    rw [full, ← same.numBeacons, removeBeacon_cells_last ranked
      (by rw [same.numAp, same.numBeacons]; omega),
      cells, List.dropLast_eq_take]
    congr 1
    omega

theorem insertBeacon_listed (listed : r.Listed) (errno : SkyErrno)
    (accepted : b.Accepted) : (insertBeacon skyRegisterPlugins r errno b).rctx.Listed := by
  have ordered : InOrder (r.live.map Beacon.unranked) r.numAp :=
    listed.inOrder.of_unranked (by simp)
  obtain ⟨l', n', shows, effect⟩ := (insertBeacon_effect listed.shows ordered errno accepted).2
  exact shows.toListed (effect.inOrder ordered (accepted.congr (Beacon.scan_unranked b).symm))

theorem removeBeacon_listed (listed : r.Listed) {i : ℕ} (range : i < r.numBeacons) :
    (removeBeacon r i).2.Listed := by
  have ordered : InOrder (r.live.map Beacon.unranked) r.numAp :=
    listed.inOrder.of_unranked (by simp)
  have inside : i < (r.live.map Beacon.unranked).length := by rwa [List.length_map, listed.full]
  exact (listed.shows.removeBeacon inside).toListed (ordered.eraseIdx inside)

theorem insertBeacon_cells_ap (listed : r.Listed) (ap : b.isApType = true)
    (errno : SkyErrno) : (insertBeacon skyRegisterPlugins r errno b).rctx.cells = r.cells := by
  have branch := insertBeacon_branch r errno (show (b.isApType || b.isCellType) = true by simp [ap])
  generalize insertBeacon skyRegisterPlugins r errno b = added at branch
  cases branch with
  | rejected => rfl
  | absent errno' => exact placeBeacon_cells_ap listed.inOrder ap errno'
  | better errno' i range same =>
    have front : i < r.numAp := by
      rw [← listed.inOrder.isApType_iff range, ← same.isApType_eq]
      exact ap
    rw [listed.full] at range
    rw [placeBeacon_cells_ap (removeBeacon_listed listed range).inOrder ap,
      removeBeacon_cells_ap listed front]

theorem insertBeacon_fresh (accepted : b.Accepted) (fresh : ∀ c ∈ r.live, ¬ SameBeacon b c)
    (errno : SkyErrno) :
    ∃ errno', insertBeacon skyRegisterPlugins r errno b =
      placeBeacon skyRegisterPlugins r errno' b := by
  have branch := insertBeacon_branch r errno accepted.typed
  generalize insertBeacon skyRegisterPlugins r errno b = added at branch
  cases branch with
  | rejected i range same => exact absurd same (fresh _ (List.getElem_mem range))
  | absent errno' => exact ⟨errno', rfl⟩
  | better errno' i range same => exact absurd same (fresh _ (List.getElem_mem range))

/-- The state of a request while cells arrive. -/
structure Streaming (c : SkyConfig) (r : SkyRctx) : Prop where
  listed : r.Listed
  aps : r.numAp ≤ c.maxApBeacons.toNat
  room : r.cells.length ≤ c.maxCells
  priced : ∀ d ∈ r.cells, d.Priced
  young : ∀ d ∈ r.cells, d.Young

namespace Streaming

variable (streaming : Streaming s.config r) {timestamp : ℤ} {age : UInt32}
variable (plugins : s.openFlag = true → s.plugins = skyRegisterPlugins)
include streaming plugins

theorem addBeacon_listed (errno : SkyErrno)
    (accepts : AcceptsBeacon s r b timestamp age) :
    (addBeacon s r errno b timestamp).rctx.Listed ∧
      (addBeacon s r errno b timestamp).rctx.numAp ≤ s.config.maxApBeacons.toNat ∧
      (addBeacon s r errno b timestamp).rctx.cells.length ≤ s.config.maxCells := by
  have listed := streaming.listed
  have ordered : InOrder (r.live.map Beacon.unranked) r.numAp :=
    listed.inOrder.of_unranked (by simp)
  have accepted := (preparedBeacon_spec s age accepts.2.2.1).1.congr (Beacon.scan_unranked _).symm
  have room := streaming.room
  obtain ⟨l', n', shows, effect⟩ := (addBeacon_effect listed plugins errno accepts).2
  have cells : (r.live.map Beacon.unranked).length - r.numAp ≤ s.config.maxCells := by
    rwa [List.length_map, ← List.length_drop]
  obtain ⟨aps', cells'⟩ := (effect.addedTo ordered accepted streaming.aps cells).2
  refine ⟨shows.toListed (effect.inOrder ordered accepted), by rwa [shows.numAp], ?_⟩
  rw [SkyRctx.cells, List.length_drop, shows.length_live, shows.numAp]
  exact cells'

/-- The cells after an accepted add are those after its insertion, cut off. -/
theorem addBeacon_cells (errno : SkyErrno)
    (accepts : AcceptsBeacon s r b timestamp age) {inserted : AddResult}
    (isInserted : insertBeacon skyRegisterPlugins r errno (preparedBeacon s b age) = inserted)
    (room : inserted.rctx.cells.length ≤ s.config.maxCells ∨
      (inserted.rctx.numBeacons ≠ r.numBeacons ∧ inserted.rctx.numAp ≤ s.config.maxApBeacons.toNat ∧
        inserted.rctx.cells.length ≤ s.config.maxCells + 1)) :
    (addBeacon s r errno b timestamp).rctx.cells =
      inserted.rctx.cells.take s.config.maxCells := by
  have listed := streaming.listed
  have accepted := (preparedBeacon_spec s age accepts.2.2.1).1
  have ordered : InOrder (r.live.map Beacon.unranked) r.numAp :=
    listed.inOrder.of_unranked (by simp)
  have bound := (validateRequestCtx_bound accepts.1).1
  have insertedListed := insertBeacon_listed listed errno accepted
  obtain ⟨status, l', n', shows, effect⟩ := insertBeacon_effect listed.shows ordered errno accepted
  rcases addBeacon_cases s r errno b timestamp with
    ⟨e, -, -, refused, -⟩ | ⟨age', accepts', result⟩
  · exact absurd accepts (refused age)
  rw [accepts'.age_unique accepts, validateRequestCtx_snd listed.inOrder.accepted,
    plugins accepts.2.1, isInserted] at result
  rw [isInserted] at status shows insertedListed
  rw [result, finishAdd, if_neg (by simp [status])]
  split_ifs with same
  · rcases room with few | ⟨differ, -⟩
    · rw [List.take_of_length_le few]
    · exact absurd same differ
  · have short : inserted.rctx.numBeacons < 65536 := by
      have := effect.length_le
      have := listed.shows.numBeacons
      rw [shows.numBeacons]
      simp only [TOTAL_BEACONS] at bound
      omega
    apply filterBeacons_cells (plugins accepts.2.1) insertedListed short
    · rcases room with few | ⟨-, -, few⟩ <;> omega
    · intro many
      rcases room with few | ⟨-, aps, -⟩
      · exact few
      · omega

theorem addBeacon_cells_ap (errno : SkyErrno)
    (accepts : AcceptsBeacon s r b timestamp age) (ap : b.isApType = true) :
    (addBeacon s r errno b timestamp).rctx.cells = r.cells := by
  have isAp := (preparedBeacon_spec s age accepts.2.2.1).2.2.trans ap
  have cells := insertBeacon_cells_ap streaming.listed isAp errno
  have room := streaming.room
  rw [streaming.addBeacon_cells plugins errno accepts rfl (.inl (by rwa [cells])), cells,
    List.take_of_length_le room]

theorem addBeacon_cells_cell (errno : SkyErrno)
    (accepts : AcceptsBeacon s r b timestamp age)
    (cell : (preparedBeacon s b age).isCellType = true)
    (fresh : ∀ c ∈ r.live, ¬ SameBeacon (preparedBeacon s b age) c)
    (priced : (preparedBeacon s b age).Priced) (young : (preparedBeacon s b age).Young) :
    (addBeacon s r errno b timestamp).rctx.cells.map Beacon.unranked =
        (insertByKey cellKey (preparedBeacon s b age).unranked (r.cells.map Beacon.unranked)).take
          s.config.maxCells ∧
      Streaming s.config (addBeacon s r errno b timestamp).rctx := by
  have listed := streaming.listed
  have accepted := (preparedBeacon_spec s age accepts.2.2.1).1
  obtain ⟨listed', aps', room'⟩ := streaming.addBeacon_listed plugins errno accepts
  obtain ⟨errno', placed⟩ := insertBeacon_fresh accepted fresh errno
  have cells := placeBeacon_cells_cell listed.inOrder cell errno'
  rcases findPosition_cells cell listed.inOrder.cells priced streaming.priced fun c member =>
      young.agesCompare (streaming.young c member) with
    ⟨list, allPriced⟩
  rw [← SkyRctx.cells] at list allPriced
  rw [← cells] at list allPriced
  have length := congrArg List.length list
  rw [List.length_map, length_insertByKey, List.length_map] at length
  have room := streaming.room
  have longer := placeBeacon_numBeacons listed.full errno' (preparedBeacon s b age)
  have numAp : (placeBeacon skyRegisterPlugins r errno' (preparedBeacon s b age)).rctx.numAp =
      r.numAp := if_neg (by rw [isApType_of_isCellType cell]; decide)
  have result := streaming.addBeacon_cells plugins errno accepts placed
    (.inr ⟨by omega, by rw [numAp]; exact streaming.aps, by omega⟩)
  refine ⟨by rw [result, List.map_take, list], listed', aps', room', ?_, ?_⟩
  · rw [result]
    exact fun d member => allPriced d (List.mem_of_mem_take member)
  · rw [result]
    intro d member
    have inList : d.unranked ∈ insertByKey cellKey (preparedBeacon s b age).unranked
        (r.cells.map Beacon.unranked) := by
      rw [← list]
      exact List.mem_map_of_mem (List.mem_of_mem_take member)
    rcases mem_insertByKey.1 inList with new | old
    · have age : d.h.age = (preparedBeacon s b age).h.age := congrArg (fun b => b.h.age) new
      rw [Beacon.Young, age]
      exact young
    · obtain ⟨e, memberE, same⟩ := List.mem_map.1 old
      have age : d.h.age = e.h.age := congrArg (fun b => b.h.age) same.symm
      rw [Beacon.Young, age]
      exact streaming.young e memberE

end Streaming

namespace Add

def CellAccepted (s : SkySctx) (r : SkyRctx) (a : Add) : Prop :=
  a.call.beacon.isCellType = true →
    (skyAddBeacon s r .none a.call a.timestamp).status = .success

/-- The cell that a call adds to a request of this time: as validated, with its age. -/
def cell (time : UInt32) (a : Add) : Option Beacon :=
  let valid := (validateBeacon a.call.beacon).2
  match beaconAge time a.timestamp with
  | .ok age =>
    if a.call.beacon.isCellType then some { valid with h := { valid.h with age := age } } else none
  | .error _ => none

end Add

theorem validateBeacon_priority (b : Beacon) : (validateBeacon b).2.h.priority = b.h.priority := by
  have clamped (lo hi : ℤ) : (b.clampRssi lo hi).h.priority = b.h.priority := by
    unfold Beacon.clampRssi
    split_ifs <;> rfl
  have normalized (c : Beacon) : c.normalizeNmr.h.priority = c.h.priority := by
    unfold Beacon.normalizeNmr
    split_ifs <;> rfl
  rw [validateBeacon_eq]
  split_ifs
  · rfl
  · simp only [validateAp, Beacon.clampFreq_h, clamped]
  · cases cellRule b.h.type with
    | none => rfl
    | some rule =>
      simp only [validateCell]
      split_ifs
      · rw [normalized, clamped]
      · exact clamped _ _

theorem Add.preparedBeacon_cell (s : SkySctx) {a : Add} {time : UInt32} {age : UInt32}
    (cell : a.call.beacon.isCellType = true) (aged : beaconAge time a.timestamp = .ok age) :
    a.cell time = some (preparedBeacon s a.call.beacon age) ∧
      (preparedBeacon s a.call.beacon age).h.priority = .fin 0 ∧
      (preparedBeacon s a.call.beacon age).isCellType = true := by
  have type := (validateBeacon_header a.call.beacon).2.1
  have isCell : (validateBeacon a.call.beacon).2.isCellType = true := by
    rwa [Beacon.isCellType, type]
  have unset : a.call.beacon.h.priority = .fin 0 := by cases a.call <;> rfl
  have prepared : preparedBeacon s a.call.beacon age =
      { (validateBeacon a.call.beacon).2 with
        h := { (validateBeacon a.call.beacon).2.h with age := age } } := by
    apply if_neg
    have notAp := isApType_of_isCellType isCell
    intro ap
    rw [← Bool.not_eq_true] at notAp
    exact notAp ap
  refine ⟨?_, ?_, ?_⟩
  · unfold Add.cell
    simp only [aged, cell, if_true, prepared]
  · rw [prepared]
    exact (validateBeacon_priority _).trans unset
  · rw [prepared]
    exact isCell

theorem Add.cell_of_not {a : Add} {time : UInt32} (noCell : ¬ a.call.beacon.isCellType = true) :
    a.cell time = none := by
  unfold Add.cell
  cases beaconAge time a.timestamp with
  | ok age => exact if_neg noCell
  | error e => rfl

variable {cells : List Beacon} {ranked : List (Beacon × ℕ)}

/-- The request holds the first of the cells that arrived. -/
structure Kept (s : SkySctx) (time : UInt32) (r : SkyRctx) (cells : List Beacon) : Prop where
  streaming : Streaming s.config r
  time : r.header.time = time
  kept : ∃ ranked, IsRanking cellKey cells ranked ∧
    r.cells.map Beacon.unranked = (ranked.map Prod.fst).take s.config.maxCells

theorem Kept.step {time : UInt32} (kept : Kept s time r cells)
    (plugins : s.openFlag = true → s.plugins = skyRegisterPlugins) {a : Add}
    (accepted : a.CellAccepted s r)
    (fresh : ∀ c ∈ a.cell time, ∀ d ∈ cells, ¬ SameBeacon d c)
    (young : ∀ c ∈ a.cell time, c.Young) :
    Kept s time (a.step s r) (cells ++ (a.cell time).toList) := by
  obtain ⟨streaming, sameTime, ranked, ranking, isKept⟩ := kept
  have header := congrArg SkyHeader.time
    (sameRequest_addBeacon s r .none a.call.beacon a.timestamp).header
  unfold Add.step skyAddBeacon
  unfold Add.CellAccepted skyAddBeacon at accepted
  rcases addBeacon_cases s r .none a.call.beacon a.timestamp with
    ⟨e, -, -, -, result⟩ | ⟨age, accepts, -⟩
  · have noCell : ¬ a.call.beacon.isCellType = true := by
      intro cell
      have success := accepted cell
      rw [result] at success
      contradiction
    rw [Add.cell_of_not noCell, result, validateRequestCtx_snd streaming.listed.inOrder.accepted,
      Option.toList_none, List.append_nil]
    exact ⟨streaming, sameTime, ranked, ranking, isKept⟩
  · have aged := accepts.2.2.2
    rw [sameTime] at aged
    by_cases cell : a.call.beacon.isCellType = true
    · obtain ⟨isCell, unset, cell'⟩ := Add.preparedBeacon_cell s cell aged
      rw [isCell] at fresh young ⊢
      have bare :
          (preparedBeacon s a.call.beacon age).unranked = preparedBeacon s a.call.beacon age := by
        rw [Beacon.unranked, ← unset]
      have free : ∀ c ∈ r.live, ¬ SameBeacon (preparedBeacon s a.call.beacon age) c := by
        intro c member same
        rw [← List.take_append_drop r.numAp r.live] at member
        rcases List.mem_append.1 member with front | behind
        · have ap := streaming.listed.inOrder.aps c front
          rw [← same.isApType_eq, isApType_of_isCellType cell'] at ap
          contradiction
        · have inKept : c.unranked ∈ (ranked.map Prod.fst).take s.config.maxCells := by
            rw [← isKept]
            exact List.mem_map_of_mem behind
          have arrived := (ranking.mem_iff _).1 (List.mem_of_mem_take inKept)
          apply fresh _ rfl _ arrived
          rw [sameBeacon_congr c.scan_unranked rfl]
          exact same.symm
      rcases streaming.addBeacon_cells_cell plugins .none accepts cell' free (.inl unset)
        (young _ rfl) with ⟨list, streaming'⟩
      refine ⟨streaming', header.trans sameTime, _, ranking.insert _, ?_⟩
      rw [list, isKept, bare]
      exact take_insertByKey_kept ..
    · have spec := preparedBeacon_spec s age accepts.2.2.1
      have ap : a.call.beacon.isApType = true := by
        rw [← spec.2.2]
        refine spec.1.isApType_or_isCellType.resolve_right fun isCell => cell ?_
        have type : (preparedBeacon s a.call.beacon age).h.type = a.call.beacon.h.type :=
          congrArg Prod.fst spec.2.1
        rwa [Beacon.isCellType, ← type]
      have cellsEq := streaming.addBeacon_cells_ap plugins .none accepts ap
      obtain ⟨listed', aps', room'⟩ := streaming.addBeacon_listed plugins .none accepts
      rw [Add.cell_of_not cell, Option.toList_none, List.append_nil]
      refine ⟨⟨listed', aps', room', ?_, ?_⟩, header.trans sameTime, ranked, ranking, ?_⟩
      · rw [cellsEq]
        exact streaming.priced
      · rw [cellsEq]
        exact streaming.young
      · rw [cellsEq, isKept]

theorem Kept.run {time : UInt32} (kept : Kept s time r cells)
    (plugins : s.openFlag = true → s.plugins = skyRegisterPlugins) (adds : List Add)
    (accepted : Along (Add.step s) (Add.CellAccepted s) r adds)
    (distinct : (cells ++ adds.filterMap (Add.cell time)).Pairwise fun c d => ¬ SameBeacon c d)
    (young : ∀ c ∈ adds.filterMap (Add.cell time), c.Young) :
    Kept s time (Runs.run (Add.step s) r adds) (cells ++ adds.filterMap (Add.cell time)) := by
  induction adds generalizing r cells with
  | nil => simpa using kept
  | cons a adds ih =>
    have split : (a :: adds).filterMap (Add.cell time) =
        (a.cell time).toList ++ adds.filterMap (Add.cell time) := by
      cases arrives : a.cell time with
      | none => rw [List.filterMap_cons_none arrives, Option.toList_none, List.nil_append]
      | some c => rw [List.filterMap_cons_some arrives, Option.toList_some, List.singleton_append]
    rw [split, ← List.append_assoc] at distinct
    rw [split] at young
    have fresh : ∀ c ∈ a.cell time, ∀ d ∈ cells, ¬ SameBeacon d c := by
      intro c arrives d member
      have apart := (List.pairwise_append.1 (List.pairwise_append.1 distinct).1).2.2
      exact apart d member c (Option.mem_toList.2 arrives)
    have next := kept.step plugins accepted.1 fresh fun c arrives =>
      young c (List.mem_append_left _ (Option.mem_toList.2 arrives))
    rw [split, ← List.append_assoc, Runs.run_cons]
    exact ih next accepted.2 distinct fun c member => young c (List.mem_append_right _ member)

theorem Kept.initialized (s₀ s : SkySctx) (now : ℤ) :
    Kept s (SkyRctx.initialized s₀ now).header.time (SkyRctx.initialized s₀ now) [] := by
  have empty : (SkyRctx.initialized s₀ now).live = [] := rfl
  have none : (SkyRctx.initialized s₀ now).cells = [] := rfl
  refine ⟨⟨⟨rfl, ?_⟩, Nat.zero_le _, ?_, ?_, ?_⟩, rfl, [], isRanking_nil, ?_⟩
  · rw [empty]
    exact ⟨Nat.zero_le _, by simp, by simp, by simp, by simp⟩
  all_goals simp [none]

/-- Cells that are added to a new request one by one end as if all of them had been sorted
by priority, age, type and signal strength, latest first among equals, and cut off behind
the last one that is allowed: no cell that went is better than one that stayed. -/
theorem streamedCells_ranked {s : SkySctx} {rbufsize : UInt32} {ulAppData : List UInt8} {now : ℤ}
    {r : SkyRctx} (started : (skyNewRequest rbufsize s ulAppData now).rctx = some r)
    (plugins : s.plugins = skyRegisterPlugins)
    (order : s.config.maxApBeacons ≤ s.config.totalBeacons) (adds : List Add)
    (accepted : Along (Add.step (skyNewRequest rbufsize s ulAppData now).sctx)
      (Add.CellAccepted (skyNewRequest rbufsize s ulAppData now).sctx) r adds)
    (distinct : (adds.filterMap (Add.cell r.header.time)).Pairwise fun c d => ¬ SameBeacon c d)
    (young : ∀ c ∈ adds.filterMap (Add.cell r.header.time), c.Young) :
    let k := s.config.totalBeacons.toNat - s.config.maxApBeacons.toNat
    let last := Runs.run (Add.step (skyNewRequest rbufsize s ulAppData now).sctx) r adds
    ∃ ranked, IsRanking cellKey (adds.filterMap (Add.cell r.header.time)) ranked ∧
      last.cells.map Beacon.unranked = (ranked.map Prod.fst).take k ∧
      ∀ kept ∈ last.cells, ∀ gone ∈ (ranked.map Prod.fst).drop k, cellKey kept ≤ cellKey gone := by
  intro k last
  have same := skyNewRequest_sctx rbufsize s ulAppData now
  have isNew : r = SkyRctx.initialized s now := eq_initialized started
  subst isNew
  have final := (Kept.initialized s (skyNewRequest rbufsize s ulAppData now).sctx now).run
    (fun _ => same.plugins.trans plugins) adds accepted distinct young
  obtain ⟨ranked, ranking, isKept⟩ := final.kept
  have size : (skyNewRequest rbufsize s ulAppData now).sctx.config.maxCells = k := by
    rw [skyNewRequest_config]
    exact SkyConfig.maxCells_eq (UInt32.le_iff_toNat_le.1 order)
  rw [size] at isKept
  refine ⟨ranked, ranking, isKept, ?_⟩
  intro kept member gone dropped
  have stays : kept.unranked ∈ (ranked.map Prod.fst).take k := by
    rw [← isKept]
    exact List.mem_map_of_mem member
  rw [← cellKey_unranked kept]
  exact ranking.take_le_drop k stays dropped

instance (s : SkySctx) (r : SkyRctx) (a : Add) : Decidable (a.CellAccepted s r) :=
  inferInstanceAs (Decidable (_ → _))

instance (b : Beacon) : Decidable b.Young := inferInstanceAs (Decidable (_ < _))

def twoCellSession : SkySctx :=
  { openedSession with
    config := { openedSession.config with totalBeacons := 3, maxApBeacons := 1 } }

/-- Three cells and two APs; the cell that came first is the weakest one. -/
def sampleAdds : List Add :=
  [⟨.lte 1000 100000 310 10 5 2000 0 (-110) false, 1600000000⟩, ⟨apCall 1 (-80), 1600000000⟩,
    ⟨.lte 1000 100001 310 10 6 2000 0 (-90) false, 1600000000⟩, ⟨apCall 2 (-50), 1600000000⟩,
    ⟨.lte 1000 100002 310 10 7 2000 0 (-100) true, 1600000000⟩]

theorem sampleAdds_ranked :
    ∃ r, (skyNewRequest sizeofSkyRctx twoCellSession [] 1600000000).rctx = some r ∧
      ∃ ranked, IsRanking cellKey (sampleAdds.filterMap (Add.cell r.header.time)) ranked ∧
        (Runs.run (Add.step (skyNewRequest sizeofSkyRctx twoCellSession [] 1600000000).sctx) r
          sampleAdds).cells.map Beacon.unranked = (ranked.map Prod.fst).take 2 := by
  have started : (skyNewRequest sizeofSkyRctx twoCellSession [] 1600000000).rctx =
      some (SkyRctx.initialized twoCellSession 1600000000) := by decide +kernel
  refine ⟨_, started, ?_⟩
  rcases streamedCells_ranked started (by decide +kernel) (by decide +kernel) sampleAdds
    (by decide +kernel) (by decide +kernel) (by decide +kernel) with ⟨ranked, ranking, isKept, -⟩
  exact ⟨ranked, ranking, isKept⟩

end EmbeddedClient
