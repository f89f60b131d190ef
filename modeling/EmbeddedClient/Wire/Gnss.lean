import EmbeddedClient.Model.Nanopb
import EmbeddedClient.Wire.Aps

/-!
# The submessage of the position

Every number of a position goes out as a list of one element, coordinates in millionths of
a degree, altitude and speed in tenths. The conversion cuts the fraction off. What a server
reads is within one unit of what the position holds, if the numbers fit the field types.
-/

namespace EmbeddedClient

open Binary32 (FloatVal)
open Varint

def Binary32.FloatVal.Within (lo hi : ℚ) : FloatVal → Prop
  | .fin q => lo ≤ q ∧ q ≤ hi
  | _ => False

instance (lo hi : ℚ) : ∀ value : FloatVal, Decidable (FloatVal.Within lo hi value)
  | .fin _ => inferInstanceAs (Decidable (_ ∧ _))
  | .nan | .inf _ => isFalse not_false

theorem toInt_fin (bad : ℤ) (q : ℚ) : (FloatVal.fin q).toInt bad = if 0 ≤ q then ⌊q⌋ else -⌊-q⌋ :=
  rfl

theorem abs_sub_toInt_fin (bad : ℤ) (q : ℚ) : |q - (FloatVal.fin q).toInt bad| < 1 := by
  rw [toInt_fin]
  split_ifs with nonneg
  · have below := Int.floor_le q
    have above := Int.lt_floor_add_one q
    rw [abs_lt]
    constructor <;> linarith
  · have below := Int.floor_le (-q)
    have above := Int.lt_floor_add_one (-q)
    push_cast
    rw [abs_lt]
    constructor <;> linarith

theorem toInt_fin_mem (bad : ℤ) {q : ℚ} {lo hi : ℤ} (lo_le : (lo : ℚ) ≤ q) (le_hi : q ≤ hi)
    (zero : lo ≤ 0 ∧ 0 ≤ hi) :
    lo ≤ (FloatVal.fin q).toInt bad ∧ (FloatVal.fin q).toInt bad ≤ hi := by
  rw [toInt_fin]
  split_ifs with nonneg
  · have floor : ⌊q⌋ ≤ hi := by exact_mod_cast (Int.floor_le q).trans le_hi
    have pos : 0 ≤ ⌊q⌋ := Int.floor_nonneg.2 nonneg
    omega
  · have floor : ⌊-q⌋ ≤ -lo := by
      have below : (⌊-q⌋ : ℚ) ≤ -lo := (Int.floor_le (-q)).trans (by linarith)
      exact_mod_cast below
    have pos : 0 ≤ ⌊-q⌋ := Int.floor_nonneg.2 (by linarith)
    omega

/-- A position as the server reads it, in the units of the fields. -/
structure GnssReport where
  lat : ℤ
  lon : ℤ
  hpe : ℤ
  alt : ℤ
  vpe : ℤ
  speed : ℤ
  bearing : ℤ
  nsat : ℤ
  age : ℤ
  deriving DecidableEq, Repr

def readOne (fields : List Field) (tag : ℕ) (read : ℕ → ℤ) : Option ℤ :=
  (readPacked (bytesValue tag fields)).bind fun values =>
    if values.length = 1 then some (read (values.headD 0)) else none

/-- The reader of `Gnss`, with the field types of `Gnss_FIELDLIST`, for one position. -/
def decodeGnss (input : List UInt8) : Option GnssReport := do
  let fields ← readMessage input
  let lat ← readOne fields 1 readInt32
  let lon ← readOne fields 2 readInt32
  let hpe ← readOne fields 3 readUint32
  let alt ← readOne fields 4 readInt32
  let vpe ← readOne fields 5 readUint32
  let speed ← readOne fields 6 readUint32
  let bearing ← readOne fields 7 readUint32
  let nsat ← readOne fields 8 readUint32
  let age ← readOne fields 9 readUint32
  return ⟨lat, lon, hpe, alt, vpe, speed, bearing, nsat, age⟩

def Gnss.gnssReport (g : Gnss) : GnssReport where
  lat := getGnssLatScaled g
  lon := getGnssLonScaled g
  hpe := getGnssHpe g
  alt := getGnssAltScaled g
  vpe := getGnssVpe g
  speed := getGnssSpeedScaled g
  bearing := getGnssBearing g
  nsat := getGnssNsat g
  age := getGnssAge g

/-- The numbers of a position are finite and fit the types of the fields. -/
structure Gnss.Encodable (g : Gnss) : Prop where
  lat : FloatVal.Within (-2147) 2147 g.lat
  lon : FloatVal.Within (-2147) 2147 g.lon
  alt : FloatVal.Within (-214000000) 214000000 g.alt
  speed : FloatVal.Within 0 429000000 g.speed
  bearing : FloatVal.Within 0 4290000000 g.bearing

theorem gnss_encodable_iff (g : Gnss) : g.Encodable ↔ FloatVal.Within (-2147) 2147 g.lat ∧
    FloatVal.Within (-2147) 2147 g.lon ∧ FloatVal.Within (-214000000) 214000000 g.alt ∧
    FloatVal.Within 0 429000000 g.speed ∧ FloatVal.Within 0 4290000000 g.bearing :=
  ⟨fun ⟨lat, lon, alt, speed, bearing⟩ => ⟨lat, lon, alt, speed, bearing⟩,
    fun ⟨lat, lon, alt, speed, bearing⟩ => ⟨lat, lon, alt, speed, bearing⟩⟩

instance (g : Gnss) : Decidable g.Encodable := decidable_of_iff _ (gnss_encodable_iff g).symm

/-- What was read is what the position holds, up to the fraction that was cut off. -/
structure GnssReport.Approximates (report : GnssReport) (g : Gnss) : Prop where
  lat : ∃ q, g.lat = .fin q ∧ |q - report.lat / 1000000| < 1 / 1000000
  lon : ∃ q, g.lon = .fin q ∧ |q - report.lon / 1000000| < 1 / 1000000
  hpe : report.hpe = g.hpe.toNat
  alt : ∃ q, g.alt = .fin q ∧ |q - report.alt / 10| < 1 / 10
  vpe : report.vpe = g.vpe.toNat
  speed : ∃ q, g.speed = .fin q ∧ |q - report.speed / 10| < 1 / 10
  bearing : ∃ q, g.bearing = .fin q ∧ |q - report.bearing| < 1
  nsat : report.nsat = g.nsat.toNat
  age : report.age = g.age.toNat

section Numbers

variable {value : FloatVal} {lo hi : ℚ}

theorem Binary32.FloatVal.Within.exists_fin (within : FloatVal.Within lo hi value) :
    ∃ q, value = .fin q ∧ lo ≤ q ∧ q ≤ hi := by
  cases value with
  | fin q => exact ⟨q, rfl, within⟩
  | nan => exact within.elim
  | inf negative => exact within.elim

/-- A scaled value is within one unit of what it stands for. -/
theorem scaled_accurate (within : FloatVal.Within lo hi value) {factor : ℚ} (pos : 0 < factor) :
    ∃ q, value = .fin q ∧ |q - scaled value factor / factor| < 1 / factor := by
  obtain ⟨q, rfl, -, -⟩ := within.exists_fin
  refine ⟨q, rfl, ?_⟩
  have cut := abs_sub_toInt_fin 0 (q * factor)
  have split : q - (scaled (.fin q) factor : ℚ) / factor =
      (q * factor - scaled (.fin q) factor) / factor := by
    rw [sub_div, mul_div_cancel_right₀ _ pos.ne']
  rw [split, abs_div, abs_of_pos pos]
  exact div_lt_div_of_pos_right cut pos

theorem scaled_mem (within : FloatVal.Within lo hi value) {factor : ℚ} (pos : 0 < factor)
    {lo' hi' : ℤ} (low : (lo' : ℚ) = lo * factor) (high : (hi' : ℚ) = hi * factor)
    (zero : lo' ≤ 0 ∧ 0 ≤ hi') :
    lo' ≤ scaled value factor ∧ scaled value factor ≤ hi' := by
  obtain ⟨q, rfl, above, below⟩ := within.exists_fin
  refine toInt_fin_mem 0 ?_ ?_ zero
  · rw [low]
    exact mul_le_mul_of_nonneg_right above pos.le
  · rw [high]
    exact mul_le_mul_of_nonneg_right below pos.le

theorem readInt32_word {number : ℤ} (lower : -2 ^ 31 ≤ number) (upper : number < 2 ^ 31) :
    readInt32 (word number) = number := by
  unfold readInt32 word
  rw [Int.bmod_def]
  omega

theorem readUint32_word {number : ℤ} (lower : 0 ≤ number) (upper : number < 2 ^ 32) :
    readUint32 (word number) = number := by
  unfold readUint32 word
  omega

end Numbers

def Gnss.fields (g : Gnss) : List Field :=
  [packedField 1 [getGnssLatScaled g], packedField 2 [getGnssLonScaled g],
    packedField 3 [getGnssHpe g], packedField 4 [getGnssAltScaled g], packedField 5 [getGnssVpe g],
    packedField 6 [getGnssSpeedScaled g], packedField 7 [getGnssBearing g],
    packedField 8 [getGnssNsat g], packedField 9 [getGnssAge g]]

theorem encodeRepeatedIntField_one (tag : ℕ) (number : ℤ) :
    encodeRepeatedIntField tag 1 (fun _ => number) = (packedField tag [number]).encode := by
  have length := length_pbEncodeVarint_le number
  have small : (pbEncodeVarint number).length < 2 ^ 64 := by omega
  simp only [encodeRepeatedIntField, packedField, Field.encode, List.range_one, List.flatMap_cons,
    List.flatMap_nil, List.append_nil, pbEncodeVarint_natCast small]
  rfl

theorem encodeGnssFields_eq {g : Gnss} (present : g.present = true) :
    encodeGnssFields g = writeMessage g.fields := by
  have one : getNumGnss g = 1 := if_pos present
  unfold encodeGnssFields
  simp only [one, encodeRepeatedIntField_one, writeMessage, Gnss.fields, List.flatMap_cons,
    List.flatMap_nil, List.append_nil, List.append_assoc]

theorem readOne_packed {fields : List Field} {tag : ℕ} {number : ℤ} {read : ℕ → ℤ}
    (bytes : bytesValue tag fields = pbEncodeVarint number) :
    readOne fields tag read = some (read (word number)) := by
  have packed := readPacked_packed [number]
  rw [List.flatMap_cons, List.flatMap_nil, List.append_nil] at packed
  rw [readOne, bytes, packed]
  rfl

variable {g : Gnss}

theorem Gnss.Encodable.present (fits : g.Encodable) : g.present = true := by
  obtain ⟨q, lat, -⟩ := fits.lat.exists_fin
  simp [Gnss.present, lat, FloatVal.isNan]

theorem Gnss.Encodable.range (fits : g.Encodable) :
    (-2 ^ 31 ≤ g.gnssReport.lat ∧ g.gnssReport.lat < 2 ^ 31) ∧
      (-2 ^ 31 ≤ g.gnssReport.lon ∧ g.gnssReport.lon < 2 ^ 31) ∧
      (-2 ^ 31 ≤ g.gnssReport.alt ∧ g.gnssReport.alt < 2 ^ 31) ∧
      (0 ≤ g.gnssReport.speed ∧ g.gnssReport.speed < 2 ^ 32) ∧
      (0 ≤ g.gnssReport.bearing ∧ g.gnssReport.bearing < 2 ^ 32) := by
  have present := fits.present
  have lat := @scaled_mem _ _ _ fits.lat 1000000 (by norm_num)
      (-2147000000) 2147000000 (by norm_num)
    (by norm_num) (by decide)
  have lon := @scaled_mem _ _ _ fits.lon 1000000 (by norm_num)
      (-2147000000) 2147000000 (by norm_num)
    (by norm_num) (by decide)
  have alt := @scaled_mem _ _ _ fits.alt 10 (by norm_num) (-2140000000) 2140000000 (by norm_num)
    (by norm_num) (by decide)
  have speed := @scaled_mem _ _ _ fits.speed 10 (by norm_num) 0 4290000000 (by norm_num)
      (by norm_num)
    (by decide)
  obtain ⟨bearing, eq, above, below⟩ := fits.bearing.exists_fin
  have cut := @toInt_fin_mem 0 bearing 0 4290000000 (by exact_mod_cast above)
      (by exact_mod_cast below)
    (by decide)
  simp only [gnssReport, getGnssLatScaled, getGnssLonScaled, getGnssAltScaled, getGnssSpeedScaled,
    getGnssLat, getGnssLon, getGnssAlt, getGnssSpeed, getGnssBearing, present, if_true, eq]
  omega

theorem readOne_fields (g : Gnss) (read : ℕ → ℤ) :
    readOne g.fields 1 read = some (read (word (getGnssLatScaled g))) ∧
      readOne g.fields 2 read = some (read (word (getGnssLonScaled g))) ∧
      readOne g.fields 3 read = some (read (word (getGnssHpe g))) ∧
      readOne g.fields 4 read = some (read (word (getGnssAltScaled g))) ∧
      readOne g.fields 5 read = some (read (word (getGnssVpe g))) ∧
      readOne g.fields 6 read = some (read (word (getGnssSpeedScaled g))) ∧
      readOne g.fields 7 read = some (read (word (getGnssBearing g))) ∧
      readOne g.fields 8 read = some (read (word (getGnssNsat g))) ∧
      readOne g.fields 9 read = some (read (word (getGnssAge g))) := by
  refine ⟨?_, ?_, ?_, ?_, ?_, ?_, ?_, ?_, ?_⟩
  all_goals
    apply readOne_packed
    simp [bytesValue, Gnss.fields, packedField]

theorem decodeGnss_eq (present : g.present = true) :
    decodeGnss (encodeGnssFields g) = some
      { lat := readInt32 (word (getGnssLatScaled g))
        lon := readInt32 (word (getGnssLonScaled g))
        hpe := readUint32 (word (getGnssHpe g))
        alt := readInt32 (word (getGnssAltScaled g))
        vpe := readUint32 (word (getGnssVpe g))
        speed := readUint32 (word (getGnssSpeedScaled g))
        bearing := readUint32 (word (getGnssBearing g))
        nsat := readUint32 (word (getGnssNsat g))
        age := readUint32 (word (getGnssAge g)) } := by
  have signed := readOne_fields g readInt32
  have unsigned := readOne_fields g readUint32
  obtain ⟨lat, lon, -, alt, -⟩ := signed
  obtain ⟨-, -, hpe, -, vpe, speed, bearing, nsat, age⟩ := unsigned
  unfold decodeGnss
  rw [encodeGnssFields_eq present, readMessage_writeMessage]
  simp only [Option.bind_eq_bind, Option.bind_some, lat, lon, hpe, alt, vpe, speed,
    bearing, nsat, age]
  rfl

/-- A position whose numbers fit comes back as the getters report it. -/
theorem decodeGnss_encodeGnssFields (fits : g.Encodable) :
    decodeGnss (encodeGnssFields g) = some g.gnssReport := by
  obtain ⟨lat, lon, alt, speed, bearing⟩ := fits.range
  have present := fits.present
  have unsigned (value : UInt32) : readUint32 (word value.toNat) = value.toNat :=
    readUint32_word (by omega) (by have := value.toNat_lt; omega)
  rw [decodeGnss_eq present, Option.some.injEq, Gnss.gnssReport, GnssReport.mk.injEq]
  refine ⟨readInt32_word lat.1 lat.2, readInt32_word lon.1 lon.2, ?_,
    readInt32_word alt.1 alt.2, ?_, readUint32_word speed.1 speed.2,
    readUint32_word bearing.1 bearing.2, ?_, ?_⟩
  · rw [getGnssHpe, if_pos present, unsigned]
  · rw [getGnssVpe, if_pos present, unsigned]
  · rw [getGnssNsat, if_pos present, unsigned]
  · rw [getGnssAge, if_pos present, unsigned]

theorem Gnss.Encodable.approximates (fits : g.Encodable) : g.gnssReport.Approximates g := by
  have present := fits.present
  have lat := @scaled_accurate _ _ _ fits.lat 1000000 (by norm_num)
  have lon := @scaled_accurate _ _ _ fits.lon 1000000 (by norm_num)
  have alt := @scaled_accurate _ _ _ fits.alt 10 (by norm_num)
  have speed := @scaled_accurate _ _ _ fits.speed 10 (by norm_num)
  obtain ⟨bearing, eq, -, -⟩ := fits.bearing.exists_fin
  have cut := abs_sub_toInt_fin 0 bearing
  constructor
  case lat => simpa [gnssReport, getGnssLatScaled, getGnssLat, present] using lat
  case lon => simpa [gnssReport, getGnssLonScaled, getGnssLon, present] using lon
  case alt => simpa [gnssReport, getGnssAltScaled, getGnssAlt, present] using alt
  case speed => simpa [gnssReport, getGnssSpeedScaled, getGnssSpeed, present] using speed
  case bearing =>
    refine ⟨bearing, eq, ?_⟩
    simpa [gnssReport, getGnssBearing, present, eq] using cut
  all_goals exact if_pos present

/-- **Round trip of a position**: the submessage of a position whose numbers fit reads back
as what the getters report, within one unit of every number that the position holds. -/
theorem gnss_roundTrip (g : Gnss) (fits : g.Encodable) :
    decodeGnss (encodeGnssFields g) = some g.gnssReport ∧ g.gnssReport.Approximates g :=
  ⟨decodeGnss_encodeGnssFields fits, fits.approximates⟩

def southernGnss : Gnss where
  lat := .fin (-271 / 8)
  lon := .fin (605 / 4)
  hpe := 25
  alt := .fin (233 / 4)
  vpe := 10
  speed := .fin (3 / 2)
  bearing := .fin 270
  nsat := 6
  age := 15

theorem southernGnss_encodable : southernGnss.Encodable := by
  constructor <;> norm_num [southernGnss, FloatVal.Within]

theorem southernGnss_roundTrip :
    decodeGnss (encodeGnssFields southernGnss) = some southernGnss.gnssReport ∧
      southernGnss.gnssReport.Approximates southernGnss :=
  gnss_roundTrip southernGnss southernGnss_encodable

end EmbeddedClient
