import EmbeddedClient.Beacons.Equality

/-!
# Beacon lists

What the list of a request context is meant to be: accepted APs in front,
strongest first, accepted cells behind, and no beacon twice. A `BeaconList`
carries this as its fields, and the list operations of the code are operations
on it.
-/

namespace EmbeddedClient

structure BeaconList where
  aps : List Beacon
  cells : List Beacon
  accepted : ∀ b ∈ aps ++ cells, b.Accepted
  isApType : ∀ b ∈ aps, b.isApType = true
  isCellType : ∀ b ∈ cells, b.isCellType = true
  distinct : (aps ++ cells).Pairwise fun a b => ¬ SameBeacon a b
  sorted : aps.Pairwise fun a b => b.rssi ≤ a.rssi

namespace BeaconList

variable (l : BeaconList)

def all : List Beacon := l.aps ++ l.cells

def nil : BeaconList := ⟨[], [], by simp, by simp, by simp, by simp, by simp⟩

theorem length_all : l.all.length = l.aps.length + l.cells.length := by
  simp [all]

theorem eq_of_sameBeacon {i j : ℕ} (hi : i < l.all.length) (hj : j < l.all.length)
    (same : SameBeacon l.all[i] l.all[j]) : i = j := by
  have distinct := List.pairwise_iff_getElem.1 l.distinct
  by_contra differ
  obtain below | above := Nat.lt_or_gt_of_ne differ
  · exact distinct i j hi hj below same
  · exact distinct j i hj hi above same.symm

theorem forall_of_map_scan {p : Beacon → Prop}
    (congr : ∀ {a b : Beacon}, a.scan = b.scan → p a → p b) {bs cs : List Beacon}
    (same : bs.map Beacon.scan = cs.map Beacon.scan) (all : ∀ b ∈ cs, p b) :
    ∀ b ∈ bs, p b := by
  intro b member
  obtain ⟨c, memberC, eq⟩ : ∃ c ∈ cs, c.scan = b.scan := by
    rw [← List.mem_map, ← same]
    exact List.mem_map_of_mem member
  exact congr eq (all c memberC)

theorem pairwise_of_map_scan {rel : Beacon → Beacon → Prop}
    (scan : ∀ a b : Beacon, rel a.scan b.scan ↔ rel a b)
    {bs cs : List Beacon} (same : bs.map Beacon.scan = cs.map Beacon.scan) (all : cs.Pairwise rel) :
    bs.Pairwise rel := by
  have mapped : (cs.map Beacon.scan).Pairwise rel :=
    List.pairwise_map.2 (all.imp fun {a b} h => (scan a b).2 h)
  rw [← same, List.pairwise_map] at mapped
  exact mapped.imp fun {a b} h => (scan a b).1 h

theorem map_scan_take {bs : List Beacon} (same : bs.map Beacon.scan = l.all.map Beacon.scan) :
    (bs.take l.aps.length).map Beacon.scan = l.aps.map Beacon.scan := by
  rw [List.map_take, same, all, List.map_append, List.take_left' (by simp)]

theorem map_scan_drop {bs : List Beacon} (same : bs.map Beacon.scan = l.all.map Beacon.scan) :
    (bs.drop l.aps.length).map Beacon.scan = l.cells.map Beacon.scan := by
  rw [List.map_drop, same, all, List.map_append, List.drop_left' (by simp)]

/-- The same list with the beacons of `bs`, which differ in scratch fields only. -/
def rescan (bs : List Beacon) (same : bs.map Beacon.scan = l.all.map Beacon.scan) : BeaconList where
  aps := bs.take l.aps.length
  cells := bs.drop l.aps.length
  accepted := by
    rw [List.take_append_drop]
    exact forall_of_map_scan (fun eq h => h.congr eq) same l.accepted
  isApType := forall_of_map_scan (fun {a b} eq h => by
    rw [← Beacon.scan_isApType, ← eq, Beacon.scan_isApType, h]) (l.map_scan_take same) l.isApType
  isCellType := forall_of_map_scan (fun {a b} eq h => by
    rw [← Beacon.scan_isCellType, ← eq, Beacon.scan_isCellType, h]) (l.map_scan_drop same)
    l.isCellType
  distinct := by
    rw [List.take_append_drop]
    exact pairwise_of_map_scan (fun a b => not_congr (sameBeacon_congr (a.scan_scan) (b.scan_scan)))
      same l.distinct
  sorted := pairwise_of_map_scan (fun a b => by simp) (l.map_scan_take same) l.sorted

theorem length_of_map_scan {bs : List Beacon} (same : bs.map Beacon.scan = l.all.map Beacon.scan) :
    bs.length = l.all.length := by
  simpa using congrArg List.length same

@[simp] theorem rescan_all (bs : List Beacon)
    (same : bs.map Beacon.scan = l.all.map Beacon.scan) : (l.rescan bs same).all = bs :=
  List.take_append_drop ..

@[simp] theorem rescan_length_aps (bs : List Beacon)
    (same : bs.map Beacon.scan = l.all.map Beacon.scan) :
    (l.rescan bs same).aps.length = l.aps.length := by
  have := l.length_of_map_scan same
  have := l.length_all
  simp only [rescan, List.length_take]
  omega

def sublist {aps cells : List Beacon} (left : aps.Sublist l.aps) (right : cells.Sublist l.cells) :
    BeaconList where
  aps := aps
  cells := cells
  accepted := fun b member => l.accepted b ((left.append right).subset member)
  isApType := fun b member => l.isApType b (left.subset member)
  isCellType := fun b member => l.isCellType b (right.subset member)
  distinct := l.distinct.sublist (left.append right)
  sorted := l.sorted.sublist left

def eraseAp (i : ℕ) : BeaconList :=
  l.sublist (List.eraseIdx_sublist l.aps i) (List.Sublist.refl l.cells)

def eraseCell (i : ℕ) : BeaconList :=
  l.sublist (List.Sublist.refl l.aps) (List.eraseIdx_sublist l.cells i)

@[simp] theorem eraseCell_aps (i : ℕ) : (l.eraseCell i).aps = l.aps := rfl

variable {l} {b : Beacon}

def Fresh (l : BeaconList) (b : Beacon) : Prop := ∀ c ∈ l.all, ¬ SameBeacon b c

theorem Fresh.pairwise (fresh : l.Fresh b) {before after : List Beacon}
    (split : before ++ after = l.all) :
    (before ++ b :: after).Pairwise fun a b => ¬ SameBeacon a b := by
  rw [List.pairwise_middle (fun h => mt SameBeacon.symm h), List.pairwise_cons, split]
  exact ⟨fresh, l.distinct⟩

theorem accepted_middle (l : BeaconList) (accepted : b.Accepted) {before after : List Beacon}
    (split : before ++ after ⊆ l.all) : ∀ c ∈ before ++ b :: after, c.Accepted := by
  intro c member
  rw [List.mem_append, List.mem_cons] at member
  obtain inBefore | rfl | inAfter := member
  · exact l.accepted c (split (List.mem_append_left _ inBefore))
  · exact accepted
  · exact l.accepted c (split (List.mem_append_right _ inAfter))

def insertAp (l : BeaconList) (b : Beacon) (i : ℕ) (accepted : b.Accepted)
    (ap : b.isApType = true) (fresh : l.Fresh b) (above : ∀ c ∈ l.aps.take i, b.rssi ≤ c.rssi)
    (below : ∀ c ∈ l.aps.drop i, c.rssi ≤ b.rssi) : BeaconList where
  aps := l.aps.take i ++ b :: l.aps.drop i
  cells := l.cells
  accepted := by
    rw [List.append_assoc, List.cons_append]
    exact l.accepted_middle accepted (by simp [all, ← List.append_assoc])
  isApType := by
    intro c member
    rw [List.mem_append, List.mem_cons] at member
    obtain before | rfl | after := member
    · exact l.isApType c (List.mem_of_mem_take before)
    · exact ap
    · exact l.isApType c (List.mem_of_mem_drop after)
  isCellType := l.isCellType
  distinct := by
    rw [List.append_assoc, List.cons_append]
    exact fresh.pairwise (by simp [all, ← List.append_assoc])
  sorted := by
    have sorted := l.sorted
    rw [← List.take_append_drop i l.aps, List.pairwise_append] at sorted
    obtain ⟨before, after, across⟩ := sorted
    rw [List.pairwise_append, List.pairwise_cons]
    refine ⟨before, ⟨below, after⟩, fun a memberA c memberC => ?_⟩
    obtain rfl | memberC := List.mem_cons.1 memberC
    · exact above a memberA
    · exact across a memberA c memberC

def insertCell (l : BeaconList) (b : Beacon) (i : ℕ) (accepted : b.Accepted)
    (cell : b.isCellType = true) (fresh : l.Fresh b) : BeaconList where
  aps := l.aps
  cells := l.cells.take i ++ b :: l.cells.drop i
  accepted := by
    rw [← List.append_assoc]
    exact l.accepted_middle accepted (by simp [all])
  isApType := l.isApType
  isCellType := by
    intro c member
    rw [List.mem_append, List.mem_cons] at member
    obtain before | rfl | after := member
    · exact l.isCellType c (List.mem_of_mem_take before)
    · exact cell
    · exact l.isCellType c (List.mem_of_mem_drop after)
  distinct := by
    rw [← List.append_assoc]
    exact fresh.pairwise (by simp [all])
  sorted := l.sorted

end BeaconList
end EmbeddedClient
