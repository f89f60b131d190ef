import EmbeddedClient.Model.Cache
import EmbeddedClient.Support.Varint

/-!
# Messages and the beacon encoders

The messages of `el.proto` as far as the client fills or reads them, the field
getters of `utilities.c`, and the callbacks of `proto.c` that write the beacons.
`pb_encode_varint` writes standard base-128 varints. A negative value goes out
as its 64-bit two's complement.
-/

namespace EmbeddedClient

open Binary32 (FloatVal)

/-- `pb_encode_varint` of an `int64_t`. -/
def pbEncodeVarint (value : ℤ) : List UInt8 := Varint.encode (value % 2 ^ 64).toNat

@[simp] def PB_WT_VARINT : ℕ := 0
@[simp] def PB_WT_STRING : ℕ := 2

def pbEncodeTag (wireType tag : ℕ) : List UInt8 := Varint.encode (Varint.key tag wireType)

def mapCellType (cell : Beacon) : ℤ :=
  match cell.h.type with
  | .nr => 8
  | .lte => 5
  | .umts => 7
  | .nbiot => 6
  | .cdma => 3
  | .gsm => 4
  | _ => 0

/-- The shape of `get_cell_id1`, `get_cell_id5` and `get_cell_id6`: unknown for a
CDMA cell and zero for a beacon that is not a cell. -/
def getCellField (unknown value : ℤ) (cell : Beacon) : ℤ :=
  match cell.h.type with
  | .cdma => unknown
  | .gsm | .lte | .nbiot | .umts | .nr => value
  | _ => 0

def getCellId1 (cell : Beacon) : ℤ := getCellField SKY_UNKNOWN_ID1.toNat cell.cell.id1.toNat cell

def getCellId2 (cell : Beacon) : ℤ := cell.cell.id2.toNat

def getCellId3 (cell : Beacon) : ℤ := cell.cell.id3.toInt

def getCellId4 (cell : Beacon) : ℤ := cell.cell.id4.toInt

def getCellId5 (cell : Beacon) : ℤ := getCellField SKY_UNKNOWN_ID5.toInt cell.cell.id5.toInt cell

def getCellId6 (cell : Beacon) : ℤ := getCellField SKY_UNKNOWN_ID6.toInt cell.cell.freq.toInt cell

def getCellConnectedFlag (cell : Beacon) : Bool := cell.h.connected

def getCellRssi (cell : Beacon) : ℤ := cell.h.rssi.toInt

def getCellAge (cell : Beacon) : ℤ := cell.h.age.toNat

/-- `get_cell_ta`: only three technologies report a timing advance. -/
def getCellTa (cell : Beacon) : ℤ :=
  match cell.h.type with
  | .gsm | .lte | .nr => cell.cell.ta.toInt
  | _ => SKY_UNKNOWN_TA.toInt

/-- `encode_cell_field_element`: an unknown value is not sent. -/
def encodeCellFieldElement (tag : ℕ) (val unknown : ℤ) : List UInt8 :=
  if val ≠ unknown then pbEncodeTag PB_WT_VARINT tag ++ pbEncodeVarint (val + 1) else []

def encodeCellField (cell : Beacon) : List UInt8 :=
  pbEncodeTag PB_WT_VARINT 1 ++ pbEncodeVarint (mapCellType cell) ++
  encodeCellFieldElement 2 (getCellId1 cell) SKY_UNKNOWN_ID1.toNat ++
  encodeCellFieldElement 3 (getCellId2 cell) SKY_UNKNOWN_ID2.toNat ++
  encodeCellFieldElement 4 (getCellId3 cell) SKY_UNKNOWN_ID3.toInt ++
  encodeCellFieldElement 5 (getCellId4 cell) SKY_UNKNOWN_ID4.toInt ++
  encodeCellFieldElement 6 (getCellId5 cell) SKY_UNKNOWN_ID5.toInt ++
  encodeCellFieldElement 7 (getCellId6 cell) SKY_UNKNOWN_ID6.toInt ++
  pbEncodeTag PB_WT_VARINT 8 ++ pbEncodeVarint (getCellConnectedFlag cell).toNat ++
  pbEncodeTag PB_WT_VARINT 9 ++ pbEncodeVarint (-getCellRssi cell) ++
  pbEncodeTag PB_WT_VARINT 10 ++ pbEncodeVarint (getCellAge cell) ++
  encodeCellFieldElement 11 (getCellTa cell) SKY_UNKNOWN_TA.toInt

/-- The loop of `get_num_beacons` over the beacons behind the APs, with the count so far: it ends at
the first beacon of another type once one was counted. -/
def getNumBeaconsLoop (t : SkyBeaconType) : List Beacon → ℕ → ℕ
  | [], count => count
  | b :: bs, count =>
    let count := if b.h.type = t then count + 1 else count
    if count ≠ 0 ∧ b.h.type ≠ t then count else getNumBeaconsLoop t bs count

def getNumBeacons (r : SkyRctx) (t : SkyBeaconType) : ℕ :=
  if SkyBeaconType.max.code < t.code then 0
  else if t = .ap then r.numAp
  else getNumBeaconsLoop t (r.live.drop r.numAp) 0

def getNumCells (r : SkyRctx) : ℕ := (r.live.drop r.numAp).countP Beacon.isCellType

def getCell (r : SkyRctx) (idx : ℕ) : Beacon := r.slot (r.numAp + idx : ℕ)

/-- `encode_cell_fields`, the submessages with field number 10. -/
def encodeCellFields (r : SkyRctx) : List UInt8 :=
  (List.range (getNumCells r)).flatMap fun i =>
    let field := encodeCellField (getCell r i)
    pbEncodeTag PB_WT_STRING 10 ++ pbEncodeVarint field.length ++ field

/-- `encode_repeated_int_field`: the length and the packed values. -/
def encodeRepeatedIntField (tag numElems : ℕ) (getter : ℕ → ℤ) : List UInt8 :=
  let data := (List.range numElems).flatMap fun i => pbEncodeVarint (getter i)
  pbEncodeTag PB_WT_STRING tag ++ pbEncodeVarint data.length ++ data

def macToInt (mac : Vector UInt8 6) : ℤ :=
  mac.toList.foldl (fun value byte => value * 256 + byte.toNat) 0

/-- `encode_connected_ap_field`: the place of the first connected AP. -/
def encodeConnectedApField (tag : ℕ) (aps : List Beacon) : List UInt8 :=
  match aps.findIdx? fun b => b.h.connected with
  | some i => pbEncodeTag PB_WT_VARINT tag ++ pbEncodeVarint (i + 1)
  | none => []

/-- `encode_optimized_repeated_field`: one common value if all are the same. -/
def encodeOptimizedRepeatedField (numBeacons tag1 tag2 : ℕ) (getter : ℕ → ℤ) : List UInt8 :=
  if 1 < numBeacons ∧ (List.range numBeacons).all (fun i => getter i = getter 0) then
    pbEncodeTag PB_WT_VARINT tag1 ++ pbEncodeVarint (getter 0 + 1)
  else encodeRepeatedIntField tag2 numBeacons getter

def encodeApFields (r : SkyRctx) : List UInt8 :=
  encodeConnectedApField 1 r.aps ++
  encodeRepeatedIntField 4 r.numAp (fun i => macToInt (r.slot i).ap.mac) ++
  encodeOptimizedRepeatedField r.numAp 2 5 (fun i => (r.slot i).ap.freq.toNat) ++
  encodeRepeatedIntField 6 r.numAp (fun i => -(r.slot i).h.rssi.toInt) ++
  encodeOptimizedRepeatedField r.numAp 3 7 (fun i => (r.slot i).h.age.toNat)

/-- The length byte in front of the patch bytes of a virtual group. -/
def Beacon.vapLength (b : Beacon) : UInt8 := byteAt b.ap.vg 0

/-- `get_num_vaps`: the APs with a virtual group. -/
def getNumVaps (r : SkyRctx) : ℕ := r.aps.countP fun b => b.vapLength ≠ 0

/-- `get_vap_data`: the patch bytes of the group at `idx`. -/
def getVapData (r : SkyRctx) (idx : ℕ) : List UInt8 :=
  (((r.aps.filter fun b => b.vapLength ≠ 0)[idx]?).map fun b => b.ap.vg.toList).getD []

/-- The walk of `get_vap_data` over the APs, which counts the groups passed. -/
def getVapDataLoop (idx : ℕ) : (nvg : ℕ) → List Beacon → List UInt8
  | _, [] => []
  | nvg, w :: ws =>
    if w.vapLength ≠ 0 ∧ nvg = idx then w.ap.vg.toList
    else getVapDataLoop idx (nvg + if w.vapLength ≠ 0 then 1 else 0) ws

/-- `pb_encode_string`: the number of bytes and the bytes. -/
def pbEncodeString (bytes : List UInt8) : List UInt8 := pbEncodeVarint bytes.length ++ bytes

/-- `encode_vap_data`: of each group the bytes after the length, as many as it says, as a string. -/
def encodeVapData (tag numElems : ℕ) (getter : ℕ → List UInt8) : List UInt8 :=
  let data := (List.range numElems).flatMap fun i =>
    pbEncodeString (((getter i).drop 1).take ((getter i).headD 0).toNat)
  pbEncodeTag PB_WT_STRING tag ++ pbEncodeVarint data.length ++ data

structure RqHeader where
  partnerId : UInt32
  cryptoInfoLength : ℕ
  rqLength : ℕ
  swVersion : UInt32
  requestClientConf : Bool

structure CryptoInfo where
  iv : List UInt8
  aesPaddingLength : Int32
  deriving DecidableEq

/-- `Rq`. The beacon fields are the bytes their callbacks write; the GNSS
submessage is left to the encoder. -/
structure Rq where
  deviceId : List UInt8
  timestamp : ℕ
  aps : List UInt8
  gnss : Option Gnss
  cells : List UInt8
  vaps : List UInt8
  cacheHits : UInt8
  tokenId : UInt32
  tbrSku : List UInt8
  tbrCc : UInt16
  maxDlAppData : ℕ
  ulAppData : List UInt8

structure RsHeader where
  cryptoInfoLength : Int32
  rsLength : Int32
  status : LocStatus
  deriving DecidableEq

structure ClientConfig where
  totalBeacons : UInt32
  maxApBeacons : UInt32
  cacheAgeThreshold : UInt32
  cacheBeaconThreshold : UInt32
  cacheNegRssiThreshold : UInt32
  cacheMatchAllThreshold : UInt32
  cacheMatchUsedThreshold : UInt32
  deriving DecidableEq

structure Rs where
  lat : FloatVal
  lon : FloatVal
  hpe : UInt32
  source : ℕ
  config : ClientConfig
  usedAps : List UInt8
  tokenId : UInt32
  dlAppData : List UInt8
  deriving DecidableEq

def Rs.initDefault : Rs := ⟨.fin 0, .fin 0, 0, 0, ⟨0, 0, 0, 0, 0, 0, 0⟩, [], 0, []⟩

end EmbeddedClient
