import EmbeddedClient.Beacons.Equality
import EmbeddedClient.Model.VirtualGroups
import EmbeddedClient.Support.Patches
import Mathlib.Data.List.ProdSigma
import Mathlib.Tactic.IntervalCases

/-!
# Virtual groups member by member

`ap_beacon_in_vg` patches the children of a group into one buffer, one after the other, and so
compares a child with the patches of its older siblings still in place.
-/

namespace EmbeddedClient

/-- The MAC of a member: that of the parent, with the nibble of the child replaced. -/
def Beacon.memberMac (b : Beacon) : ℕ → Vector UInt8 6
  | 0 => b.ap.mac
  | j + 1 => dumpVap b j

/-- The MAC in the buffer when the loop has come to a member. -/
def Beacon.sharedMac (b : Beacon) : ℕ → Vector UInt8 6
  | 0 => b.ap.mac
  | j + 1 => patchMac (b.sharedMac j) (b.patch j)

def memberPairs (va vb : Beacon) : List (ℕ × ℕ) :=
  List.range (va.ap.vgLen.toNat + 1) ×ˢ List.range (vb.ap.vgLen.toNat + 1)

def matchingPairs (va vb : Beacon) : List (ℕ × ℕ) :=
  (memberPairs va vb).filter fun p => va.memberMac p.1 = vb.memberMac p.2

/-- `ap_beacon_in_vg` counts the pairs of members with equal MACs, and gives the property of the
second member of the last one. -/
structure ComparesMembers (va vb : Beacon) : Prop where
  numAps : (apBeaconInVg va vb).1 = (matchingPairs va vb).length
  prop : ∀ p ∈ (matchingPairs va vb).getLast?, (apBeaconInVg va vb).2 = some (vb.memberProperty p.2)

/-- The group of an AP: its children patch nibbles of the address. -/
structure Beacon.Group (b : Beacon) : Prop where
  isAp : b.h.type = .ap
  vgLen : b.ap.vgLen.toNat ≤ MAX_VAP_PER_AP
  inMac : ∀ j < b.ap.vgLen.toNat, nibbleIdx (b.patch j) < 12

/-- Nibble `i` of an address, the high one of a byte first. -/
def nibbleAt (mac : Vector UInt8 6) (i : ℕ) : UInt8 :=
  if i % 2 = 0 then byteAt mac (i / 2) >>> (4 : UInt8) else byteAt mac (i / 2) &&& (0x0F : UInt8)

/-- Children that patch another nibble than an older sibling do not show its patch: the last patch
of that nibble before repeats what the parent has there. -/
def Beacon.Independent (b : Beacon) : Prop :=
  ∀ v < b.ap.vgLen.toNat, ∀ u < v, nibbleIdx (b.patch u) ≠ nibbleIdx (b.patch v) →
    (∀ t < v, u < t → nibbleIdx (b.patch t) ≠ nibbleIdx (b.patch u)) →
      nibbleValue (b.patch u) = nibbleAt b.ap.mac (nibbleIdx (b.patch u))

theorem high_of_patchedHigh (b v : UInt8) :
    ((b &&& ~~~(0xF0 : UInt8)) ||| (v &&& (0x0F : UInt8)) <<< (4 : UInt8)) >>> (4 : UInt8) =
      v &&& (0x0F : UInt8) := by
  rw [← UInt8.toBitVec_inj]
  ext i range
  interval_cases i <;> simp

theorem low_of_patchedHigh (b v : UInt8) :
    ((b &&& ~~~(0xF0 : UInt8)) ||| (v &&& (0x0F : UInt8)) <<< (4 : UInt8)) &&& (0x0F : UInt8) =
      b &&& (0x0F : UInt8) := by
  rw [← UInt8.toBitVec_inj]
  ext i range
  interval_cases i <;> simp

theorem high_of_patchedLow (b v : UInt8) :
    ((b &&& ~~~(0x0F : UInt8)) ||| (v &&& (0x0F : UInt8))) >>> (4 : UInt8) = b >>> (4 : UInt8) := by
  rw [← UInt8.toBitVec_inj]
  ext i range
  interval_cases i <;> simp

theorem low_of_patchedLow (b v : UInt8) :
    ((b &&& ~~~(0x0F : UInt8)) ||| (v &&& (0x0F : UInt8))) &&& (0x0F : UInt8) =
      v &&& (0x0F : UInt8) := by
  rw [← UInt8.toBitVec_inj]
  ext i range
  interval_cases i <;> simp

theorem byte_of_nibbles (b : UInt8) :
    (b >>> (4 : UInt8)) <<< (4 : UInt8) ||| (b &&& (0x0F : UInt8)) = b := by
  rw [← UInt8.toBitVec_inj]
  ext i range
  interval_cases i <;> simp

theorem eq_of_nibbleAt {mac mac' : Vector UInt8 6} (same : nibbleAt mac = nibbleAt mac') :
    mac = mac' := by
  apply Vector.ext
  intro k range
  have high := congrFun same (2 * k)
  have low := congrFun same (2 * k + 1)
  have byte (m : Vector UInt8 6) : byteAt m k = m[k] := by simp [byteAt, range]
  unfold nibbleAt at high low
  rw [if_pos (by omega), if_pos (by omega), show 2 * k / 2 = k by omega, byte, byte] at high
  rw [if_neg (by omega), if_neg (by omega), show (2 * k + 1) / 2 = k by omega, byte, byte] at low
  rw [← byte_of_nibbles mac[k], high, low, byte_of_nibbles]

theorem patchMac_even (mac : Vector UInt8 6) {p : UInt8} (range : nibbleIdx p / 2 < 6)
    (even : nibbleIdx p % 2 = 0) : patchMac mac p = mac.set (nibbleIdx p / 2)
      ((mac[nibbleIdx p / 2] &&& ~~~(0xF0 : UInt8)) |||
        (p &&& (0x0F : UInt8)) <<< (4 : UInt8)) := by
  have shift : (nibbleIdx p + 1) % 2 = 1 := by omega
  unfold patchMac
  dsimp only
  rw [dif_pos range, nibbleMask, if_pos even, shift]
  rfl

theorem patchMac_odd (mac : Vector UInt8 6) {p : UInt8} (range : nibbleIdx p / 2 < 6)
    (odd : nibbleIdx p % 2 = 1) : patchMac mac p = mac.set (nibbleIdx p / 2)
      ((mac[nibbleIdx p / 2] &&& ~~~(0x0F : UInt8)) ||| (p &&& (0x0F : UInt8))) := by
  have shift : (nibbleIdx p + 1) % 2 = 0 := by omega
  have unshifted : nibbleValue p <<< (4 * UInt8.ofNat 0) = p &&& (0x0F : UInt8) := by
    simp [nibbleValue]
  unfold patchMac
  dsimp only
  rw [dif_pos range, nibbleMask, if_neg (by omega), shift, unshifted]

theorem byteAt_set (mac : Vector UInt8 6) {j : ℕ} (range : j < 6) (v : UInt8) (k : ℕ) :
    byteAt (mac.set j v range) k = if k = j then v else byteAt mac k := by
  by_cases inside : k < 6
  · simp [byteAt, inside, Vector.getElem_set, eq_comm]
  · have other : k ≠ j := by omega
    simp [byteAt, inside, other]

theorem nibbleAt_patchMac (mac : Vector UInt8 6) {p : UInt8} (inMac : nibbleIdx p < 12) :
    nibbleAt (patchMac mac p) = Function.update (nibbleAt mac) (nibbleIdx p) (nibbleValue p) := by
  have range : nibbleIdx p / 2 < 6 := by omega
  have byte : mac[nibbleIdx p / 2] = byteAt mac (nibbleIdx p / 2) := by simp [byteAt, range]
  funext i
  by_cases even : nibbleIdx p % 2 = 0
  · rw [patchMac_even mac range even, nibbleAt, byteAt_set, byte]
    by_cases same : i = nibbleIdx p
    · rw [same, Function.update_self, if_pos even, if_pos rfl, high_of_patchedHigh, nibbleValue]
    · rw [Function.update_of_ne same, nibbleAt]
      by_cases sibling : i / 2 = nibbleIdx p / 2
      · have odd : ¬ i % 2 = 0 := by omega
        rw [if_neg odd, if_pos sibling, low_of_patchedHigh, if_neg odd, sibling]
      · rw [if_neg sibling]
  · rw [patchMac_odd mac range (by omega), nibbleAt, byteAt_set, byte]
    by_cases same : i = nibbleIdx p
    · rw [same, Function.update_self, if_neg even, if_pos rfl, low_of_patchedLow, nibbleValue]
    · rw [Function.update_of_ne same, nibbleAt]
      by_cases sibling : i / 2 = nibbleIdx p / 2
      · have even : i % 2 = 0 := by omega
        rw [if_pos even, if_pos sibling, high_of_patchedLow, if_pos even, sibling]
      · rw [if_neg sibling]

theorem dumpVap_eq (b : Beacon) (j : ℕ) : dumpVap b j = patchMac b.ap.mac (b.patch j) := by
  unfold dumpVap
  dsimp only
  split_ifs with range odd
  · rw [patchMac_odd _ range odd]
    rfl
  · rw [patchMac_even _ range (by omega)]
    rfl
  · unfold patchMac
    rw [dif_neg range]

variable {b va vb : Beacon}

theorem nibbleAt_memberMac (group : b.Group) {x : ℕ} (member : x ≤ b.ap.vgLen.toNat) :
    nibbleAt (b.memberMac x) = Patches.own (nibbleAt b.ap.mac) (fun j => nibbleIdx (b.patch j))
      (fun j => nibbleValue (b.patch j)) x := by
  cases x with
  | zero => rfl
  | succ j =>
    rw [Beacon.memberMac, dumpVap_eq, nibbleAt_patchMac _ (group.inMac j (by omega))]
    rfl

theorem nibbleAt_sharedMac (group : b.Group) {x : ℕ} (member : x ≤ b.ap.vgLen.toNat) :
    nibbleAt (b.sharedMac x) = Patches.shared (nibbleAt b.ap.mac) (fun j => nibbleIdx (b.patch j))
      (fun j => nibbleValue (b.patch j)) x := by
  induction x with
  | zero => rfl
  | succ j ih =>
    rw [Beacon.sharedMac, nibbleAt_patchMac _ (group.inMac j (by omega)), ih (by omega)]
    rfl

/-- The members of an independent group, and of no other, come out right in the buffer. -/
theorem Beacon.Group.sharedMac_iff (group : b.Group) :
    (∀ x ≤ b.ap.vgLen.toNat, b.sharedMac x = b.memberMac x) ↔ b.Independent := by
  rw [Beacon.Independent, ← Patches.Independent, ← Patches.shared_eq_own_iff]
  constructor
  · intro same x member
    rw [← nibbleAt_sharedMac group member, ← nibbleAt_memberMac group member, same x member]
  · intro same x member
    apply eq_of_nibbleAt
    rw [nibbleAt_sharedMac group member, nibbleAt_memberMac group member, same x member]

def sharedPairs (va vb : Beacon) : List (ℕ × ℕ) :=
  (memberPairs va vb).filter fun p => va.sharedMac p.1 = vb.sharedMac p.2

theorem enterMember_sharedMac (group : b.Group) {x : ℕ} (member : x ≤ b.ap.vgLen.toNat) :
    enterMember b (b.sharedMac x) x = b.sharedMac x := by
  cases x with
  | zero => rfl
  | succ j =>
    have inMac := group.inMac j (by omega)
    apply eq_of_nibbleAt
    rw [enterMember, nibbleAt_patchMac _ inMac, Beacon.sharedMac, nibbleAt_patchMac _ inMac,
      Function.update_idem]

theorem enterMember_succ (b : Beacon) (j : ℕ) :
    enterMember b (b.sharedMac j) (j + 1) = b.sharedMac (j + 1) := rfl

/-- The loops over these pairs up to members `w` and `c`, after what came before. -/
def InVg.after (st : InVg) (va vb : Beacon) (w c : ℕ) (pairs : List (ℕ × ℕ)) : InVg :=
  ⟨va.sharedMac w, vb.sharedMac c, st.numAps + pairs.length,
    (pairs.getLast?.map fun p => vb.memberProperty p.2).or st.prop⟩

theorem InVg.after_after (st : InVg) (w c w' c' : ℕ) (pairs pairs' : List (ℕ × ℕ)) :
    (st.after va vb w c pairs).after va vb w' c' pairs' = st.after va vb w' c'
      (pairs ++ pairs') := by
  unfold InVg.after
  rw [List.length_append, List.getLast?_append, Nat.add_assoc, ← Option.or_assoc]
  cases pairs'.getLast? <;> rfl

theorem inVgStep_eq (st : InVg) {w c : ℕ} (enteredVa : enterMember va st.macVa w = va.sharedMac w)
    (enteredVb : enterMember vb st.macVb c = vb.sharedMac c) : inVgStep va vb w st c =
      st.after va vb w c ([(w, c)].filter fun p => va.sharedMac p.1 = vb.sharedMac p.2) := by
  have same : memcmp (va.sharedMac w).toList (vb.sharedMac c).toList = 0 ↔
    va.sharedMac w = vb.sharedMac c := by
    rw [memcmp_eq_zero_iff (by simp), Vector.toList_inj]
  unfold inVgStep InVg.after
  dsimp only
  rw [enteredVa, enteredVb]
  by_cases equal : va.sharedMac w = vb.sharedMac c
  · rw [if_pos (same.2 equal)]
    simp [equal]
  · rw [if_neg (same.not.2 equal)]
    simp [equal]

theorem inVgStep_range (groupA : va.Group) {w : ℕ} (member : w ≤ va.ap.vgLen.toNat) (st : InVg)
    (entered : enterMember va st.macVa w = va.sharedMac w) (k : ℕ) :
    (List.range (k + 1)).foldl (inVgStep va vb w) st = st.after va vb w k
      (((List.range (k + 1)).map (w, ·)).filter fun p => va.sharedMac p.1 = vb.sharedMac p.2) := by
  induction k with
  | zero => exact inVgStep_eq st entered rfl
  | succ k ih =>
    rw [List.range_succ, List.foldl_append, ih, List.map_append, List.filter_append,
      ← InVg.after_after]
    exact inVgStep_eq _ (enterMember_sharedMac groupA member) (enterMember_succ vb k)

theorem inVgStep_ranges (groupA : va.Group) (st : InVg) {m : ℕ}
    (member : m ≤ va.ap.vgLen.toNat) (n : ℕ) :
    (List.range (m + 1)).foldl (fun st w => (List.range (n + 1)).foldl (inVgStep va vb w) st) st =
      st.after va vb m n
        ((List.range (m + 1) ×ˢ List.range (n + 1)).filter fun p =>
          va.sharedMac p.1 = vb.sharedMac p.2) := by
  induction m with
  | zero =>
    have first : List.range (0 + 1) ×ˢ List.range (n + 1) = (List.range (n + 1)).map (0, ·) := by
      simp [List.product_cons]
    rw [first]
    exact inVgStep_range groupA member st rfl n
  | succ m ih =>
    have split : List.range (m + 1 + 1) = List.range (m + 1) ++ [m + 1] := List.range_succ
    have last : List.range (m + 1 + 1) ×ˢ List.range (n + 1) =
        List.range (m + 1) ×ˢ List.range (n + 1) ++ (List.range (n + 1)).map (m + 1, ·) := by
      rw [split]
      simp [SProd.sprod, List.product]
    rw [last, split, List.foldl_append, ih (by omega), List.filter_append, ← InVg.after_after]
    exact inVgStep_range groupA member _ (enterMember_succ va m) n

/-- `ap_beacon_in_vg` counts the pairs that compare equal in the buffers. -/
theorem apBeaconInVg_eq (groupA : va.Group) (groupB : vb.Group) : apBeaconInVg va vb =
    ((sharedPairs va vb).length,
      (sharedPairs va vb).getLast?.map fun p => vb.memberProperty p.2) := by
  unfold apBeaconInVg
  rw [if_neg (by simp [groupA.isAp, groupB.isAp]), inVgStep_ranges groupA _ le_rfl]
  unfold InVg.after sharedPairs memberPairs
  dsimp only
  rw [Nat.zero_add, Option.or_none]

theorem comparesMembers_of_independent (groupA : va.Group) (groupB : vb.Group)
    (independentA : va.Independent) (independentB : vb.Independent) : ComparesMembers va vb := by
  have pairs : sharedPairs va vb = matchingPairs va vb := by
    apply List.filter_congr
    intro p member
    obtain ⟨left, right⟩ := List.mem_product.1 member
    have left := List.mem_range.1 left
    have right := List.mem_range.1 right
    rw [groupA.sharedMac_iff.2 independentA p.1 (by omega),
      groupB.sharedMac_iff.2 independentB p.2 (by omega)]
  constructor
  · rw [apBeaconInVg_eq groupA groupB, pairs]
  · intro p last
    rw [apBeaconInVg_eq groupA groupB, pairs, Option.mem_def.1 last, Option.map_some]

def loneAp (mac : Vector UInt8 6) : Beacon :=
  { Beacon.zero with
    h := { Beacon.zero.h with magic := BEACON_MAGIC, type := .ap }
    ap := { Beacon.zero.ap with mac := mac } }

theorem loneAp_group (mac : Vector UInt8 6) : (loneAp mac).Group where
  isAp := rfl
  vgLen := Nat.zero_le _
  inMac := fun j none => absurd none (Nat.not_lt_zero j)

theorem loneAp_independent (mac : Vector UInt8 6) : (loneAp mac).Independent :=
  fun v none => absurd none (Nat.not_lt_zero v)

theorem lonePairs_length (b : Beacon) (mac : Vector UInt8 6) (f : ℕ → Vector UInt8 6)
    (g : ℕ → Vector UInt8 6) :
    ((memberPairs b (loneAp mac)).filter fun p => f p.1 = g p.2).length =
      (List.range (b.ap.vgLen.toNat + 1)).countP ((· == g 0) ∘ f) := by
  have lone : memberPairs b (loneAp mac) = (List.range (b.ap.vgLen.toNat + 1)).map (·, 0) := by
    have members : List.range ((loneAp mac).ap.vgLen.toNat + 1) = [0] := rfl
    rw [memberPairs, members, List.map_eq_flatMap]
    rfl
  rw [lone, ← List.countP_eq_length_filter, List.countP_map]
  apply List.countP_congr
  intro x _
  simp

theorem Beacon.Group.independent_of_loneAps (group : b.Group)
    (compares : ∀ mac, ComparesMembers b (loneAp mac)) : b.Independent := by
  have counted (mac : Vector UInt8 6) :
      ((List.range (b.ap.vgLen.toNat + 1)).map b.sharedMac).count mac =
        ((List.range (b.ap.vgLen.toNat + 1)).map b.memberMac).count mac := by
    have count := (compares mac).numAps
    rw [apBeaconInVg_eq group (loneAp_group mac)] at count
    rw [List.count_eq_countP, List.countP_map, List.count_eq_countP, List.countP_map]
    exact (lonePairs_length ..).symm.trans (count.trans (lonePairs_length ..))
  have nibbles := (List.perm_iff_count.2 counted).map nibbleAt
  rw [List.map_map, List.map_map] at nibbles
  rw [Beacon.Independent, ← Patches.Independent, ← Patches.shared_eq_own_iff]
  apply Patches.shared_eq_own_of_perm
  have sharedNibbles : (List.range (b.ap.vgLen.toNat + 1)).map (nibbleAt ∘ b.sharedMac) =
      (List.range (b.ap.vgLen.toNat + 1)).map (Patches.shared (nibbleAt b.ap.mac)
        (fun j => nibbleIdx (b.patch j)) (fun j => nibbleValue (b.patch j))) :=
    List.map_congr_left fun x member => nibbleAt_sharedMac group
      (by have := List.mem_range.1 member; omega)
  have ownNibbles : (List.range (b.ap.vgLen.toNat + 1)).map (nibbleAt ∘ b.memberMac) =
      (List.range (b.ap.vgLen.toNat + 1)).map (Patches.own (nibbleAt b.ap.mac)
        (fun j => nibbleIdx (b.patch j)) (fun j => nibbleValue (b.patch j))) :=
    List.map_congr_left fun x member => nibbleAt_memberMac group
      (by have := List.mem_range.1 member; omega)
  rwa [sharedNibbles, ownNibbles] at nibbles

/-- A group is independent exactly if `ap_beacon_in_vg` compares it right, on both sides, with every
independent group. -/
theorem comparesMembers_iff (group : b.Group) :
    (∀ c : Beacon, c.Group → c.Independent → ComparesMembers b c ∧ ComparesMembers c b) ↔
      b.Independent := by
  constructor
  · intro compares
    exact group.independent_of_loneAps fun mac =>
      (compares _ (loneAp_group mac) (loneAp_independent mac)).1
  · intro independent c groupC independentC
    exact ⟨comparesMembers_of_independent group groupC independent independentC,
      comparesMembers_of_independent groupC group independentC independent⟩

/-- The AP `02:00:00:00:00:00` with two children. -/
def twins (patch patch' : UInt8) : Beacon :=
  let parent := loneAp (Vector.ofFn fun i => if i = 0 then 2 else 0)
  { parent with ap := { parent.ap with
      vgLen := 2
      vg := Vector.ofFn fun i => if i = 2 then patch else if i = 3 then patch' else 0 } }

theorem twins_group : (twins 0xB1 0xB2).Group ∧ (twins 0xB1 0xA1).Group := by
  constructor
  · exact ⟨rfl, by decide, by decide⟩
  · exact ⟨rfl, by decide, by decide⟩

/-- Children that patch the same nibble compare right. -/
theorem twins_comparesMembers : ComparesMembers (twins 0xB1 0xB2) (twins 0xB1 0xB2) :=
  have independent : (twins 0xB1 0xB2).Independent := by
    unfold Beacon.Independent
    decide
  ((comparesMembers_iff twins_group.1).2 independent _ twins_group.1 independent).1

def tenthAp : Beacon := loneAp (Vector.ofFn fun i => if i = 0 then 2 else if i = 5 then 0x10 else 0)

/-- The children `..:01` and `..:10`: the second one is taken for `..:11`. -/
theorem twins_not_comparesMembers :
    (matchingPairs (twins 0xB1 0xA1) tenthAp).length = 1 ∧
      (apBeaconInVg (twins 0xB1 0xA1) tenthAp).1 = 0 ∧
      ¬ ComparesMembers (twins 0xB1 0xA1) tenthAp := by
  have counted : (matchingPairs (twins 0xB1 0xA1) tenthAp).length = 1 ∧
      (apBeaconInVg (twins 0xB1 0xA1) tenthAp).1 = 0 := by decide
  refine ⟨counted.1, counted.2, ?_⟩
  intro compares
  have count := compares.numAps
  rw [counted.1, counted.2] at count
  exact absurd count (by decide)

end EmbeddedClient
