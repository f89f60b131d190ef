import EmbeddedClient.Beacons.Adds
import EmbeddedClient.Session.Frame

/-!
# The position of a request

`sky_add_gnss` writes the age of a position before it checks the position. A call that is turned
away, or has no position, leaves the earlier position with the new age.
-/

namespace EmbeddedClient

open Binary32 (FloatVal)

variable {r : SkyRctx} {args : GnssArgs}

/-- The age of a position, in exact integers; 0 without a request time or a timestamp. -/
def GnssArgs.age (r : SkyRctx) (args : GnssArgs) : ℤ :=
  if r.header.time = 0 ∨ args.timestamp = TIME_UNAVAILABLE then 0
  else r.header.time.toNat - args.timestamp

structure Gnss.Describes (g : Gnss) (r : SkyRctx) (args : GnssArgs) : Prop where
  lat : g.lat = args.lat
  lon : g.lon = args.lon
  hpe : g.hpe = args.hpe.toUInt32
  alt : g.alt = args.altitude
  vpe : g.vpe = args.vpe.toUInt32
  speed : g.speed = args.speed
  bearing : g.bearing = args.bearing
  nsat : g.nsat = args.nsat.toUInt32
  age : (g.age.toNat : ℤ) = args.age r

def GnssArgs.IsEmpty (args : GnssArgs) : Prop := args.lat.isNan = true ∨ args.lon.isNan = true

/-- A call that fails, or adds an empty position, changes no field, and any other call all. -/
structure AllOrNothing (r : SkyRctx) (args : GnssArgs) : Prop where
  nothing : (skyAddGnss r args).1 ≠ .none ∨ args.IsEmpty → (skyAddGnss r args).2.gnss = r.gnss
  all : (skyAddGnss r args).1 = .none → ¬ args.IsEmpty → (skyAddGnss r args).2.gnss.Describes r args

/-- The timestamp is later than the request, or too early. -/
def GnssArgs.Untimely (r : SkyRctx) (args : GnssArgs) : Prop :=
  ¬ (r.header.time = 0 ∨ args.timestamp = TIME_UNAVAILABLE) ∧
    (r.header.time.toNat < args.timestamp ∨ args.timestamp ≤ TIMESTAMP_2019_03_01)

/-- The position is not empty and in range, and the context is valid. -/
structure GnssArgs.Complete (r : SkyRctx) (args : GnssArgs) : Prop where
  filled : ¬ args.IsEmpty
  inRange : args.outOfRange = false
  valid : (validateRequestCtx r).1 = true

instance (args : GnssArgs) : Decidable args.IsEmpty := inferInstanceAs (Decidable (_ ∨ _))

theorem gnssAge_of_untimely (untimely : args.Untimely r) :
    gnssAge r.header.time args.timestamp = none := by
  unfold gnssAge
  rw [if_neg untimely.1, if_neg]
  have := untimely.2
  omega

theorem gnssAge_of_timely (timely : ¬ args.Untimely r) :
    ∃ age, gnssAge r.header.time args.timestamp = some age ∧ (age.toNat : ℤ) = args.age r := by
  unfold gnssAge GnssArgs.age
  by_cases unknown : r.header.time = 0 ∨ args.timestamp = TIME_UNAVAILABLE
  · rw [if_pos unknown, if_pos unknown]
    exact ⟨0, rfl, rfl⟩
  · have order : ¬ (r.header.time.toNat < args.timestamp ∨ args.timestamp ≤ TIMESTAMP_2019_03_01) :=
      fun late => timely ⟨unknown, late⟩
    have bound := r.header.time.toNat_lt
    have fits : 0 ≤ (r.header.time.toNat : ℤ) - args.timestamp ∧
      0 < args.timestamp - TIMESTAMP_2019_03_01 := by
      omega
    rw [if_neg unknown, if_neg unknown, if_pos fits]
    simp only [TIMESTAMP_2019_03_01] at fits
    refine ⟨_, rfl, ?_⟩
    rw [UInt32.ofInt, UInt32.toNat_ofNat']
    omega

theorem validateRequestCtx_withGnss (r : SkyRctx) (gnss : Gnss) :
    (validateRequestCtx { r with gnss := gnss }).1 = (validateRequestCtx r).1 := by
  unfold validateRequestCtx
  split_ifs <;> rfl

theorem skyAddGnss_of_untimely (untimely : args.Untimely r) :
    skyAddGnss r args = (.badTime, r) := by
  unfold skyAddGnss
  rw [gnssAge_of_untimely untimely]

theorem skyAddGnss_of_complete {age : UInt32}
    (timely : gnssAge r.header.time args.timestamp = some age) (complete : args.Complete r) :
    (skyAddGnss r args).1 = .none ∧ (skyAddGnss r args).2.gnss =
      ⟨args.lat, args.lon, args.hpe.toUInt32, args.altitude, args.vpe.toUInt32, args.speed,
        args.bearing, args.nsat.toUInt32, age⟩ := by
  have filled : ¬ (args.lat.isNan || args.lon.isNan) = true := by
    rw [Bool.or_eq_true]
    exact complete.filled
  unfold skyAddGnss
  rw [timely]
  dsimp only
  rw [if_neg filled, if_neg (by rw [complete.inRange]; decide),
    validateRequestCtx_withGnss, complete.valid]
  exact ⟨rfl, rfl⟩

/-- Any other call leaves the earlier position with the age of the new one. -/
theorem skyAddGnss_of_incomplete {age : UInt32}
    (timely : gnssAge r.header.time args.timestamp = some age) (incomplete : ¬ args.Complete r) :
    ((skyAddGnss r args).1 ≠ .none ∨ args.IsEmpty) ∧
      (skyAddGnss r args).2.gnss = { r.gnss with age := age } := by
  unfold skyAddGnss
  rw [timely]
  dsimp only
  split_ifs with empty outside invalid
  · rw [Bool.or_eq_true] at empty
    exact ⟨.inr empty, rfl⟩
  · exact ⟨.inl nofun, rfl⟩
  · obtain ⟨bs, checked⟩ := validateRequestCtx_rest { r with gnss := { r.gnss with age := age } }
    rw [checked]
    exact ⟨.inl nofun, rfl⟩
  · rw [validateRequestCtx_withGnss] at invalid
    rw [Bool.or_eq_true] at empty
    exact absurd ⟨empty, by simpa using outside, by simpa using invalid⟩ incomplete

/-- `sky_add_gnss` is all or nothing exactly if the timestamp is turned away, the position is
complete, or the earlier position has the age of the new one. -/
theorem allOrNothing_iff (r : SkyRctx) (args : GnssArgs) :
    AllOrNothing r args ↔ args.Untimely r ∨ args.Complete r ∨ (r.gnss.age.toNat : ℤ) =
      args.age r := by
  by_cases untimely : args.Untimely r
  · apply iff_of_true
    · constructor
      · intro _
        rw [skyAddGnss_of_untimely untimely]
      · intro done
        rw [skyAddGnss_of_untimely untimely] at done
        contradiction
    · exact .inl untimely
  · rw [or_iff_right untimely]
    obtain ⟨age, timely, exactAge⟩ := gnssAge_of_timely untimely
    by_cases complete : args.Complete r
    · obtain ⟨done, gnss⟩ := skyAddGnss_of_complete timely complete
      apply iff_of_true
      · constructor
        · rintro (failed | empty)
          · exact absurd done failed
          · exact absurd empty complete.filled
        · intro _ _
          rw [gnss]
          exact ⟨rfl, rfl, rfl, rfl, rfl, rfl, rfl, rfl, exactAge⟩
      · exact .inl complete
    · rw [or_iff_right complete, ← exactAge]
      obtain ⟨unused, gnss⟩ := skyAddGnss_of_incomplete timely complete
      constructor
      · intro keeps
        have same := keeps.nothing unused
        rw [gnss] at same
        rw [← congrArg Gnss.age same]
      · intro same
        constructor
        · intro _
          rw [gnss, ← UInt32.toNat_inj.1 (Int.natCast_inj.1 same)]
        · intro done filled
          rcases unused with failed | empty
          · exact absurd done failed
          · exact absurd empty filled

def fixAt (timestamp : ℤ) (speed : FloatVal) : GnssArgs :=
  ⟨.fin 45, .fin 8, 20, .fin 300, 5, speed, .fin 90, 7, timestamp⟩

def locatedRequest : SkyRctx := (skyAddGnss sampleRequest (fixAt 1599999990 (.fin 3))).2

/-- A position of a minute with an impossible speed leaves its age. -/
theorem speeding_not_allOrNothing :
    (skyAddGnss locatedRequest (fixAt 1599999940 (.fin 400))).1 = .badParameters ∧
      locatedRequest.gnss.age = 10 ∧
      (skyAddGnss locatedRequest (fixAt 1599999940 (.fin 400))).2.gnss.age = 60 ∧
      ¬ AllOrNothing locatedRequest (fixAt 1599999940 (.fin 400)) := by
  have failed : (skyAddGnss locatedRequest (fixAt 1599999940 (.fin 400))).1 = .badParameters := by
    decide +kernel
  have changed : (skyAddGnss locatedRequest (fixAt 1599999940 (.fin 400))).2.gnss.age ≠
      locatedRequest.gnss.age := by decide +kernel
  refine ⟨failed, by decide +kernel, by decide +kernel, fun keeps => ?_⟩
  exact changed (congrArg Gnss.age (keeps.nothing (.inl (by rw [failed]; decide))))

end EmbeddedClient
