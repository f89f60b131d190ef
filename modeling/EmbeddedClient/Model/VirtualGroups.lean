import EmbeddedClient.Model.ApPlugin

/-!
# Virtual groups

`beacons.c` and `utilities.c` on the children of an AP: the comparison of two groups member by
member, and the dump of the MACs of a group.
-/

namespace EmbeddedClient

/-- The patch of child `j`, which stands behind the length and the parent. -/
def Beacon.patch (b : Beacon) (j : ℕ) : UInt8 := byteAt b.ap.vg (2 + j)

/-- The `nibble_idx` of a patch. -/
def nibbleIdx (patch : UInt8) : ℕ := patch.toNat / 16

/-- The `value` of a patch. -/
def nibbleValue (patch : UInt8) : UInt8 := patch &&& 0x0F

/-- The byte of index `nibble_idx / 2` with the value in the nibble of the index. A write past the
end of the address is not the address's. -/
def patchMac (mac : Vector UInt8 6) (patch : UInt8) : Vector UInt8 6 :=
  let idx := nibbleIdx patch
  let value := nibbleValue patch <<< (4 * UInt8.ofNat ((idx + 1) % 2))
  if h : idx / 2 < 6 then mac.set (idx / 2) ((mac[idx / 2] &&& ~~~nibbleMask idx) ||| value)
  else mac

/-- The MAC that `dump_vap` shows for child `j`. -/
def dumpVap (b : Beacon) (j : ℕ) : Vector UInt8 6 :=
  let n := nibbleIdx (b.patch j)
  let value := nibbleValue (b.patch j)
  if h : n / 2 < 6 then
    let byte := b.ap.mac[n / 2]
    b.ap.mac.set (n / 2)
      (if n % 2 = 1 then (byte &&& (0xF0 : UInt8)) ||| value
        else (byte &&& (0x0F : UInt8)) ||| value <<< (4 : UInt8))
  else b.ap.mac

/-- The property of a member of a group; member 0 is the parent, member `j + 1` child `j`. -/
def Beacon.memberProperty (b : Beacon) : ℕ → Bool
  | 0 => b.ap.used
  | j + 1 => b.ap.vgProp.toList.getD j false

/-- `mac_va` or `mac_vb` at a member of the group: the parent's MAC is copied, a child patched. -/
def enterMember (b : Beacon) (mac : Vector UInt8 6) : ℕ → Vector UInt8 6
  | 0 => b.ap.mac
  | j + 1 => patchMac mac (b.patch j)

/-- The two buffers of `ap_beacon_in_vg`, the number of matches and `*prop`, if it was written. -/
structure InVg where
  macVa : Vector UInt8 6
  macVb : Vector UInt8 6
  numAps : ℕ
  prop : Option Bool

/-- The body of the loops of `ap_beacon_in_vg`, at member `w` of `va` and `c` of `vb`. -/
def inVgStep (va vb : Beacon) (w : ℕ) (st : InVg) (c : ℕ) : InVg :=
  let macVa := enterMember va st.macVa w
  let macVb := enterMember vb st.macVb c
  if memcmp macVa.toList macVb.toList = 0 then
    ⟨macVa, macVb, st.numAps + 1, some (vb.memberProperty c)⟩
  else ⟨macVa, macVb, st.numAps, st.prop⟩

/-- `ap_beacon_in_vg`: the number of matches, and what it writes to `*prop`. -/
def apBeaconInVg (va vb : Beacon) : ℕ × Option Bool :=
  if va.h.type ≠ .ap ∨ vb.h.type ≠ .ap then (0, none)
  else
    let st := (List.range (va.ap.vgLen.toNat + 1)).foldl (fun st w =>
      (List.range (vb.ap.vgLen.toNat + 1)).foldl (inVgStep va vb w) st)
      ⟨Vector.replicate 6 0, Vector.replicate 6 0, 0, none⟩
    (st.numAps, st.prop)

end EmbeddedClient
