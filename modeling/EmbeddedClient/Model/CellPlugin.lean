import EmbeddedClient.Model.ApPlugin

/-!
# The cell plugin: comparison and eviction, and the dispatch over plugins

`cell_plugin_basic.c` without its cache search, and the dispatch loops of
`plugin.c`. Comparing two cells fills in priorities that are still zero, so the
comparison returns the two beacons as it leaves them.
-/

namespace EmbeddedClient

open Binary32

/-- `COMPARE_AGE`: an unsigned difference read as an `int`. -/
def compareAge (a b : Beacon) : ℤ := (b.h.age - a.h.age).toInt32.toInt

/-- `COMPARE_PRIORITY`, converted to an `int`. -/
def comparePriority (a b : Beacon) : ℤ :=
  (FloatVal.sub round a.h.priority b.h.priority).toInt 0

/-- The right-hand side of the cell filter, in unsigned 32-bit arithmetic. -/
def SkyConfig.maxCells (c : SkyConfig) : ℕ := (c.totalBeacons - c.maxApBeacons).toNat

namespace CellPlugin

/-- Whether two cells of one type are equivalent. -/
def equivalent (a b : Beacon) : Bool :=
  match a.h.type with
  | .cdma =>
    (a.cell.id2 = b.cell.id2 && a.cell.id3 = b.cell.id3 && a.cell.id4 = b.cell.id4) &&
    !(a.cell.id2 = SKY_UNKNOWN_ID2 || a.cell.id3 = SKY_UNKNOWN_ID3 || a.cell.id4 = SKY_UNKNOWN_ID4)
  | .gsm =>
    (a.cell.id1 = b.cell.id1 && a.cell.id2 = b.cell.id2 && a.cell.id3 = b.cell.id3 &&
      a.cell.id4 = b.cell.id4) &&
    !(a.cell.id1 = SKY_UNKNOWN_ID1 || a.cell.id2 = SKY_UNKNOWN_ID2 ||
      a.cell.id3 = SKY_UNKNOWN_ID3 || a.cell.id4 = SKY_UNKNOWN_ID4)
  | .lte | .nbiot | .umts | .nr =>
    (a.cell.id1 = b.cell.id1 && a.cell.id2 = b.cell.id2 && a.cell.id4 = b.cell.id4) &&
    if a.cell.id1 = SKY_UNKNOWN_ID1 || a.cell.id2 = SKY_UNKNOWN_ID2 ||
        a.cell.id4 = SKY_UNKNOWN_ID4 then
      a.cell.id5 = b.cell.id5 && a.cell.freq = b.cell.freq
    else true
  | _ => false

def equal (a b : Beacon) : Option Bool :=
  if a.h.type ≠ b.h.type ∨ a.h.type = .ap ∨ b.h.type = .ap ∨ a.h.type = .ble ∨ b.h.type = .ble then
    none
  else some (equivalent a b)

def getPriority (b : Beacon) : FloatVal :=
  .fin ((if b.h.connected then 0x200 else 0) + (if b.isCellNmr then 0 else 0x100))

/-- Fill in a priority that is still zero. -/
def withPriority (b : Beacon) : Beacon :=
  if b.h.priority.eq (.fin 0) then { b with h := { b.h with priority := getPriority b } } else b

/-- `compare`: the difference and the two beacons as left behind. -/
def compare (a b : Beacon) : Option (ℤ × Beacon × Beacon) :=
  if !a.isCellType || !b.isCellType then none
  else
    let a := withPriority a
    let b := withPriority b
    let diff :=
      if !a.h.priority.eq b.h.priority then comparePriority a b
      else if a.h.age ≠ b.h.age then compareAge a b
      else if a.h.type ≠ b.h.type then compareType a b
      else compareRssi a b
    some (diff, a, b)

def removeWorst (s : SkySctx) (r : SkyRctx) : SkyStatus × SkyRctx :=
  if numCells r.numBeacons r.numAp ≤ s.config.maxCells then (.error, r)
  else if (r.slot ((r.numBeacons : ℤ) - 1)).isCellType then removeBeacon r (r.numBeacons - 1)
  else (.error, r)

end CellPlugin

/-- `sky_register_plugins` on an empty list. -/
def skyRegisterPlugins : List SkyPluginTable := [.apPluginBasic, .cellPluginBasic]

namespace SkyPluginTable

def equal : SkyPluginTable → Beacon → Beacon → Option Bool
  | apPluginBasic => ApPlugin.equal
  | cellPluginBasic => CellPlugin.equal

def compare (p : SkyPluginTable) (a b : Beacon) : Option (ℤ × Beacon × Beacon) :=
  match p with
  | apPluginBasic => (ApPlugin.compare a b).map (·, a, b)
  | cellPluginBasic => CellPlugin.compare a b

def removeWorst : SkyPluginTable → SkySctx → SkyRctx → SkyStatus × SkyRctx
  | apPluginBasic => ApPlugin.removeWorst
  | cellPluginBasic => CellPlugin.removeWorst

end SkyPluginTable

/-- `sky_plugin_equal`; `none` is the error `SKY_ERROR_NO_PLUGIN`. -/
def skyPluginEqual (plugins : List SkyPluginTable) (a b : Beacon) : Option Bool :=
  plugins.findSome? fun p => p.equal a b

def skyPluginCompare (plugins : List SkyPluginTable) (a b : Beacon) :
    Option (ℤ × Beacon × Beacon) :=
  plugins.findSome? fun p => p.compare a b

/-- What a dispatch loop stores through `sky_errno`. -/
def pluginErrno {α : Type} : Option α → SkyErrno
  | some _ => .none
  | none => .noPlugin

def skyPluginRemoveWorst (s : SkySctx) : List SkyPluginTable → SkyRctx → SkyStatus × SkyRctx
  | [], r => (.error, r)
  | p :: ps, r =>
    let result := p.removeWorst s r
    match result.1 with
    | .success => result
    | .error => skyPluginRemoveWorst s ps result.2

end EmbeddedClient
