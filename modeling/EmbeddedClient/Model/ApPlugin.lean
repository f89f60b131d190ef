import EmbeddedClient.Model.Utilities

/-!
# The AP plugin: comparison and eviction

`ap_plugin_basic.c` up to and without its cache search, with `remove_beacon`
and `compare_connected_used` of `beacons.c`. A plugin operation that gives up
so that the next plugin is asked returns `none`. Priorities are single-precision
values, rounded after each operation.
-/

namespace EmbeddedClient

open Binary32

def effectiveRssi (rssi : Int16) : ℤ := if rssi = -1 then -127 else rssi.toInt

namespace Beacon

def rssi (b : Beacon) : ℤ := effectiveRssi b.h.rssi

end Beacon

/-- `memcmp`: the difference of the first bytes that differ. -/
def memcmp : List UInt8 → List UInt8 → ℤ
  | a :: as, b :: bs => if a = b then memcmp as bs else (a.toNat : ℤ) - b.toNat
  | _, _ => 0

/-- `COMPARE_MAC`; positive when the address of `a` is the lower one. -/
def compareMac (a b : Beacon) : ℤ := memcmp b.ap.mac.toList a.ap.mac.toList

def compareRssi (a b : Beacon) : ℤ := a.rssi - b.rssi

def compareType (a b : Beacon) : ℤ := (b.h.type.code : ℤ) - a.h.type.code

def compareConnectedUsed (a b : Beacon) : ℤ :=
  if a.h.connected && !b.h.connected then 1
  else if b.h.connected && !a.h.connected then -1
  else if a.ap.used && !b.ap.used then 1
  else if b.ap.used && !a.ap.used then -1
  else 0

/-- `remove_beacon`: the beacons after `index` move down by one slot. -/
def removeBeacon (r : SkyRctx) (index : ℕ) : SkyStatus × SkyRctx :=
  if r.numBeacons ≤ index then (.error, r)
  else
    let numAp := if (r.slot index).isApType then r.numAp - 1 else r.numAp
    (.success, { r.setLive (r.live.eraseIdx index) with numAp := numAp })

def byteAt (mac : Vector UInt8 6) (i : ℕ) : UInt8 := mac.toList.getD i 0

def nibbleMask (n : ℕ) : UInt8 := if n % 2 = 0 then 0xF0 else 0x0F

/-- The nibble loop of `mac_similar`: `none` at the second difference, otherwise
the last difference seen and its nibble. -/
def macSimilarLoop (a b : Vector UInt8 6) : List ℕ → (numDiff idxDiff : ℕ) → ℤ → Option (ℤ × ℕ)
  | [], _, idxDiff, result => some (result, idxDiff)
  | n :: ns, numDiff, idxDiff, result =>
    if byteAt a (n / 2) &&& nibbleMask n ≠ byteAt b (n / 2) &&& nibbleMask n then
      if 1 < numDiff + 1 then none
      else macSimilarLoop a b ns (numDiff + 1) n
        ((byteAt a (n / 2)).toNat - (byteAt b (n / 2)).toNat)
    else macSimilarLoop a b ns numDiff idxDiff result

/-- `mac_similar`: the result, `0` for addresses that are not similar, and the
index written through `pn`. -/
def macSimilar (a b : Vector UInt8 6) : ℤ × Option ℕ :=
  match macSimilarLoop a b (List.range 12) 0 0 1 with
  | none => (0, none)
  | some (result, idx) =>
    if byteAt a 0 &&& 0x02 ≠ byteAt b 0 &&& 0x02 then (0, none) else (result, some idx)

/-- `mac_similar(..) != 0` for the addresses of two APs. -/
def Beacon.similar (a b : Beacon) : Bool := (macSimilar a.ap.mac b.ap.mac).1 ≠ 0

namespace ApPlugin

def equal (a b : Beacon) : Option Bool :=
  if !a.isApType || !b.isApType then none else some (compareMac a b = 0)

def compare (a b : Beacon) : Option ℤ :=
  if !a.isApType || !b.isApType then none
  else if a.h.rssi ≠ b.h.rssi then some (compareRssi a b)
  else some (compareMac a b)

/-- `get_priority` of the AP at index `i`. -/
def getPriority (r : SkyRctx) (i : ℕ) : FloatVal :=
  let b := r.slot i
  let connected : FloatVal := if b.h.connected then .fin 0x200 else .fin 0
  let highestRssi := (r.slot 0).rssi
  let lowestRssi := (r.slot (r.numAp - 1)).rssi
  let bandWidth := FloatVal.div round (.fin (highestRssi - lowestRssi)) (.fin (r.numAp - 1))
  let idealRssi := FloatVal.sub round (.fin highestRssi) (FloatVal.mul round bandWidth (.fin i))
  let deviation := (FloatVal.sub round (.fin b.rssi) idealRssi).abs
  FloatVal.add round connected (FloatVal.sub round (.fin 128) deviation)

def belowRssiThreshold (s : SkySctx) (b : Beacon) : Bool :=
  b.rssi < -s.config.cacheNegRssiThreshold.toInt32.toInt

def setPriority (r : SkyRctx) (i : ℕ) (p : FloatVal) : SkyRctx :=
  { r with beacon := r.beacon.modify i fun b => { b with h := { b.h with priority := p } } }

/-- The loop of `set_priorities`, on `jump`: visit slot `j`, then jump to the
other end of the range that is left. -/
def setPrioritiesLoop (s : SkySctx) (weakOnly : Bool) :
    (jump : ℕ) → (j upDown : ℤ) → SkyRctx → (idxOfWorst : ℕ) → FloatVal → SkyRctx × ℕ
  | 0, _, _, r, idxOfWorst, _ => (r, idxOfWorst)
  | jump + 1, j, upDown, r, idxOfWorst, priorityOfWorst =>
    if 0 ≤ j ∧ j < r.numAp then
      let priority := getPriority r j.toNat
      let r := setPriority r j.toNat priority
      let next := setPrioritiesLoop s weakOnly jump (j + upDown * jump) (-upDown) r
      if ((weakOnly && belowRssiThreshold s (r.slot j)) || priority.le priorityOfWorst) &&
          (!priority.eq priorityOfWorst || compareMac (r.slot j) (r.slot idxOfWorst) < 0) then
        next j.toNat priority
      else next idxOfWorst priorityOfWorst
    else (r, idxOfWorst)

/-- `set_priorities`: the context with fresh AP priorities and the index of the
worst AP. -/
def setPriorities (s : SkySctx) (r : SkyRctx) : SkyRctx × ℕ :=
  setPrioritiesLoop s (belowRssiThreshold s (r.slot ((r.numAp : ℤ) - 1))) r.numAp 0 1 r
    (r.numAp / 2) (.fin 0xffff)

/-- Of the similar APs at `i < j`, the one to give up. -/
def vapCandidate (r : SkyRctx) (i j : ℕ) : ℕ :=
  let macDiff := (macSimilar (r.slot i).ap.mac (r.slot j).ap.mac).1
  let preferred := compareConnectedUsed (r.slot i) (r.slot j)
  if 0 < preferred ∨ (preferred = 0 ∧ macDiff < 0) then j else i

/-- The worse of the candidate so far and a new one. -/
def worstVap (r : SkyRctx) (worst : Option ℕ) (vap : ℕ) : ℕ :=
  match worst with
  | none => vap
  | some worst =>
    let preferred := compareConnectedUsed (r.slot vap) (r.slot worst)
    if 0 < preferred ∨ (preferred = 0 ∧ compareMac (r.slot vap) (r.slot worst) < 0) then vap
    else worst

/-- The inner loop of `remove_virtual_ap`, from `i - 1` down to `0`. -/
def virtualApInner (r : SkyRctx) (j : ℕ) : ℕ → Option ℕ → Option ℕ
  | 0, worst => worst
  | i + 1, worst =>
    if !(r.slot i).h.connected && (r.slot i).similar (r.slot j) then
      virtualApInner r j i (some (worstVap r worst (vapCandidate r i j)))
    else virtualApInner r j i worst

/-- The outer loop of `remove_virtual_ap`, from `j` down to `1`. -/
def virtualApOuter (r : SkyRctx) : ℕ → Option ℕ → Option ℕ
  | 0, worst => worst
  | j + 1, worst =>
    if (r.slot (j + 1 : ℕ)).h.connected then virtualApOuter r j worst
    else virtualApOuter r j (virtualApInner r (j + 1) (j + 1) worst)

def removeVirtualAp (s : SkySctx) (r : SkyRctx) : Bool × SkyRctx :=
  if r.numAp ≤ s.config.maxApBeacons.toNat then (false, r)
  else if !(r.slot 0).isApType then (false, r)
  else match virtualApOuter r (r.numAp - 1) none with
    | some worst =>
      let removed := removeBeacon r worst
      (removed.1 = .success, removed.2)
    | none => (false, r)

/-- The scan of `remove_oldest_ap`: youngest age, oldest age and its index. -/
def oldestAp (youngest oldest : UInt32) (idx : Option ℕ) :
    ℕ → List Beacon → UInt32 × UInt32 × Option ℕ
  | _, [] => (youngest, oldest, idx)
  | i, b :: bs =>
    let youngest := if b.h.age < youngest then b.h.age else youngest
    if oldest < b.h.age then oldestAp youngest b.h.age (some i) (i + 1) bs
    else oldestAp youngest oldest idx (i + 1) bs

def removeOldestAp (r : SkyRctx) : Bool × SkyRctx :=
  let scan := oldestAp 0xFFFFFFFF 0 none 0 r.aps
  match scan.2.2 with
  | some idx => if scan.1 ≠ scan.2.1 then (true, (removeBeacon r idx).2) else (false, r)
  | none => (false, r)

def removeWorst (s : SkySctx) (r : SkyRctx) : SkyStatus × SkyRctx :=
  let worst := setPriorities s r
  if worst.1.numAp ≤ s.config.maxApBeacons.toNat then (.error, worst.1)
  else
    let virtual := removeVirtualAp s worst.1
    if virtual.1 then (.success, virtual.2)
    else
      let oldest := removeOldestAp virtual.2
      if oldest.1 then (.success, oldest.2) else removeBeacon oldest.2 worst.2

end ApPlugin
end EmbeddedClient
