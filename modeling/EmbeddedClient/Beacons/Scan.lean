import EmbeddedClient.Model.Libel
import EmbeddedClient.Beacons.Validate

/-!
# Scratch fields

Priorities, the used property and the bytes of a virtual group are working
storage: many functions write them, and what a beacon is does not depend on
them. `Beacon.scan` clears them, and lists are compared up to it.
-/

namespace EmbeddedClient

open Binary32 (FloatVal)

namespace Beacon

def withScratch (b c : Beacon) : Beacon :=
  { b with
    h := { b.h with priority := c.h.priority }
    ap := { b.ap with used := c.ap.used, vg := c.ap.vg, vgProp := c.ap.vgProp } }

/-- The beacon with its scratch fields cleared. -/
def scan (b : Beacon) : Beacon := b.withScratch Beacon.zero

theorem eq_withScratch_of_scan_eq {b c : Beacon} (same : b.scan = c.scan) :
    c = b.withScratch c := by
  have h := congrArg Beacon.h same
  have ap := congrArg Beacon.ap same
  have cell := congrArg Beacon.cell same
  obtain ⟨⟨_, _, _, _, _, _⟩, ⟨_, _, _, _, _, _⟩, _⟩ := b
  obtain ⟨⟨_, _, _, _, _, _⟩, ⟨_, _, _, _, _, _⟩, _⟩ := c
  simp_all [scan, withScratch]

@[simp] theorem scan_scan (b : Beacon) : b.scan.scan = b.scan := rfl

@[simp] theorem scan_withScratch (b c : Beacon) : (b.withScratch c).scan = b.scan := rfl

@[simp] theorem scan_isApType (b : Beacon) : b.scan.isApType = b.isApType := rfl

@[simp] theorem scan_isCellType (b : Beacon) : b.scan.isCellType = b.isCellType := rfl

@[simp] theorem scan_isCellNmr (b : Beacon) : b.scan.isCellNmr = b.isCellNmr := rfl

@[simp] theorem scan_rssi (b : Beacon) : b.scan.rssi = b.rssi := rfl

@[simp] theorem scan_magic (b : Beacon) : b.scan.h.magic = b.h.magic := rfl

@[simp] theorem scan_type (b : Beacon) : b.scan.h.type = b.h.type := rfl

def unranked (b : Beacon) : Beacon := { b with h := { b.h with priority := .fin 0 } }

@[simp] theorem unranked_unranked (b : Beacon) : b.unranked.unranked = b.unranked := rfl

@[simp] theorem scan_unranked (b : Beacon) : b.unranked.scan = b.scan := rfl

@[simp] theorem unranked_isApType (b : Beacon) : b.unranked.isApType = b.isApType := rfl

@[simp] theorem unranked_isCellType (b : Beacon) : b.unranked.isCellType = b.isCellType := rfl

theorem scan_of_unranked {b c : Beacon} (same : b.unranked = c.unranked) : b.scan = c.scan := by
  rw [← scan_unranked b, same, scan_unranked]

theorem map_scan_of_unranked {l l' : List Beacon} (same : l.map unranked = l'.map unranked) :
    l.map scan = l'.map scan := by
  have again := congrArg (List.map scan) same
  rwa [List.map_map, List.map_map] at again

/-- A beacon that `validate_beacon` accepts and leaves as it is. -/
def Accepted (b : Beacon) : Prop := validateBeacon b = (true, b)

instance (b : Beacon) : Decidable b.Accepted := inferInstanceAs (Decidable (_ = _))

def withFree (b c : Beacon) : Beacon :=
  { b.withScratch c with h := { (b.withScratch c).h with age := c.h.age } }

variable (b c : Beacon)

theorem withFree_normalizeNmr : (b.withFree c).normalizeNmr = b.normalizeNmr.withFree c := by
  have nmr : (b.withFree c).isCellNmr = b.isCellNmr := rfl
  unfold normalizeNmr
  rw [nmr]
  split_ifs <;> rfl

theorem withFree_clampRssi (lo hi : ℤ) :
    (b.withFree c).clampRssi lo hi = (b.clampRssi lo hi).withFree c := by
  have rssi : (b.withFree c).h.rssi = b.h.rssi := rfl
  unfold clampRssi
  rw [rssi]
  split_ifs <;> rfl

theorem withFree_clampFreq : (b.withFree c).clampFreq = b.clampFreq.withFree c := by
  have freq : (b.withFree c).ap.freq = b.ap.freq := rfl
  unfold clampFreq
  rw [freq]
  split_ifs <;> rfl

end Beacon

theorem validateBeacon_withFree (b c : Beacon) :
    validateBeacon (b.withFree c) = ((validateBeacon b).1, (validateBeacon b).2.withFree c) := by
  have magic : (b.withFree c).h.magic = b.h.magic := rfl
  have type : (b.withFree c).h.type = b.h.type := rfl
  have cell : (b.withFree c).cell = b.cell := rfl
  have mac : (b.withFree c).ap.mac = b.ap.mac := rfl
  rw [validateBeacon_eq, validateBeacon_eq, magic, type]
  split_ifs with _ ap
  · rfl
  · simp only [validateAp, mac, Beacon.withFree_clampRssi, Beacon.withFree_clampFreq]
  · cases cellRule b.h.type with
    | none => rfl
    | some rule =>
      simp only [validateCell, cell, Beacon.withFree_clampRssi, Beacon.withFree_normalizeNmr]
      split_ifs <;> rfl

namespace Beacon.Accepted

variable {b c : Beacon}

theorem withFree (accepted : b.Accepted) (c : Beacon) : (b.withFree c).Accepted := by
  unfold Beacon.Accepted at accepted ⊢
  rw [validateBeacon_withFree, accepted]

theorem congr (accepted : b.Accepted) (same : b.scan = c.scan) : c.Accepted := by
  rw [Beacon.eq_withScratch_of_scan_eq same]
  exact accepted.withFree { c with h := { c.h with age := b.h.age } }

theorem withAge (accepted : b.Accepted) (age : UInt32) :
    Beacon.Accepted { b with h := { b.h with age := age } } :=
  accepted.withFree { b with h := { b.h with age := age } }

theorem of_validateBeacon (accepted : (validateBeacon b).1 = true) :
    (validateBeacon b).2.Accepted :=
  validateBeacon_idempotent b accepted

theorem magic (accepted : b.Accepted) : b.h.magic = BEACON_MAGIC := by
  unfold Beacon.Accepted at accepted
  rw [validateBeacon_eq] at accepted
  split_ifs at accepted with other
  · simp at accepted
  · exact not_not.1 other
  · exact not_not.1 other

theorem isApType_or_isCellType (accepted : b.Accepted) :
    b.isApType = true ∨ b.isCellType = true := by
  unfold Beacon.Accepted at accepted
  rw [validateBeacon_eq] at accepted
  split_ifs at accepted with other ap
  · simp at accepted
  · exact .inl (by simpa [Beacon.isApType] using ap)
  · right
    rw [← cellRule_isSome_iff]
    cases rule : cellRule b.h.type with
    | none => simp [rule] at accepted
    | some _ => rfl

theorem typed (accepted : b.Accepted) : (b.isApType || b.isCellType) = true := by
  simpa using accepted.isApType_or_isCellType

theorem rssi_clampRssi (accepted : b.Accepted) (ap : b.h.type = .ap) :
    (b.clampRssi (-127) (-10)).h.rssi = b.h.rssi := by
  have magic := accepted.magic
  unfold Beacon.Accepted at accepted
  rw [validateBeacon_eq, if_neg (not_not.2 magic), if_pos ap] at accepted
  have header := congrArg (fun result => result.2.h.rssi) accepted
  simpa [validateAp] using header

theorem rssi_le (accepted : b.Accepted) : b.h.rssi.toInt ≤ -1 := by
  by_cases ap : b.h.type = .ap
  · rw [← accepted.rssi_clampRssi ap]
    exact b.rssi_clampRssi_le _ _ (by decide)
  · have magic := accepted.magic
    unfold Beacon.Accepted at accepted
    rw [validateBeacon_eq, if_neg (not_not.2 magic), if_neg ap] at accepted
    cases rule : cellRule b.h.type with
    | none => simp [rule] at accepted
    | some rule' =>
      rw [rule] at accepted
      have header := congrArg (fun result => result.2.h.rssi.toInt) accepted
      have clamped := b.rssi_clampRssi_le rule'.lo _ rule'.negative
      rw [← header]
      simp only [validateCell]
      split_ifs
      · rwa [Beacon.normalizeNmr_rssi]
      · exact clamped

end Beacon.Accepted

theorem skyPluginEqual_scan (plugins : List SkyPluginTable) (a b : Beacon) :
    skyPluginEqual plugins a.scan b.scan = skyPluginEqual plugins a b := by
  unfold skyPluginEqual
  congr 1
  funext p
  cases p <;> rfl

theorem skyPluginEqual_congr (plugins : List SkyPluginTable) {a b a' b' : Beacon}
    (left : a.scan = a'.scan) (right : b.scan = b'.scan) :
    skyPluginEqual plugins a b = skyPluginEqual plugins a' b' := by
  rw [← skyPluginEqual_scan, left, right, skyPluginEqual_scan]

end EmbeddedClient
