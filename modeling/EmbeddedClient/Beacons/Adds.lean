import EmbeddedClient.Beacons.Atomic
import EmbeddedClient.Model.Libel

/-!
# Calls that add beacons

The `sky_add_*` calls as steps on a request context. The list of a new request is empty, and it
stays in order under every call.
-/

namespace EmbeddedClient

/-- A call of a function that adds a beacon. -/
structure Add where
  call : AddCall
  timestamp : ℤ

namespace Add

def step (s : SkySctx) (r : SkyRctx) (a : Add) : SkyRctx :=
  (skyAddBeacon s r .none a.call a.timestamp).rctx

/-- A call gets to the insertion. -/
def Inserted (s : SkySctx) (r : SkyRctx) (a : Add) : Prop :=
  ∃ age, AcceptsBeacon s r a.call.beacon a.timestamp age

instance (s : SkySctx) (r : SkyRctx) (a : Add) : Decidable (a.Inserted s r) :=
  match aged : beaconAge r.header.time a.timestamp with
  | .error _ => isFalse fun ⟨_, accepts⟩ => by
      rw [accepts.2.2.2] at aged
      contradiction
  | .ok age => decidable_of_iff
      ((validateRequestCtx r).1 = true ∧ s.openFlag = true ∧
        (validateBeacon a.call.beacon).1 = true)
      ⟨fun checks => ⟨age, checks.1, checks.2.1, checks.2.2, aged⟩,
        fun ⟨_, accepts⟩ => ⟨accepts.1, accepts.2.1, accepts.2.2.1⟩⟩

def stored (s : SkySctx) (time : UInt32) (a : Add) : Beacon :=
  match beaconAge time a.timestamp with
  | .ok age => preparedBeacon s a.call.beacon age
  | .error _ => a.call.beacon

variable {s : SkySctx} {r : SkyRctx} {a : Add}

theorem stored_eq {age : UInt32} (accepts : AcceptsBeacon s r a.call.beacon a.timestamp age) :
    a.stored s r.header.time = preparedBeacon s a.call.beacon age := by
  rw [stored, accepts.2.2.2]

theorem step_of_withinLimits {age : UInt32} {added : AddResult}
    (accepts : AcceptsBeacon s r a.call.beacon a.timestamp age)
    (inserted : insertBeacon s.plugins (validateRequestCtx r).2 .none
      (preparedBeacon s a.call.beacon age) = added)
    (status : added.status = .success)
    (longer : added.rctx.numBeacons ≠ (validateRequestCtx r).2.numBeacons)
    (limits : withinLimits s added.rctx = true) : a.step s r = added.rctx := by
  unfold step skyAddBeacon
  rcases addBeacon_cases s r .none a.call.beacon a.timestamp with
    ⟨e, -, -, refused, -⟩ | ⟨age', accepts', result⟩
  · exact absurd accepts (refused age)
  · rw [accepts'.age_unique accepts, inserted] at result
    rw [result, finishAdd, if_neg (by rw [status]; decide), if_neg longer, filterBeacons,
      if_pos limits]

end Add

variable {s : SkySctx} {r : SkyRctx}

/-- The list of a context stays in order under every call that adds a beacon. -/
theorem SkyRctx.Listed.add (listed : r.Listed)
    (plugins : s.openFlag = true → s.plugins = skyRegisterPlugins) (a : Add) :
    (a.step s r).Listed := by
  have ordered : InOrder (r.live.map Beacon.unranked) r.numAp :=
    listed.inOrder.of_unranked (by simp)
  unfold Add.step skyAddBeacon
  rcases addBeacon_cases s r .none a.call.beacon a.timestamp with
    ⟨e, -, -, -, result⟩ | ⟨age, accepts, -⟩
  · rw [result]
    dsimp only
    rwa [validateRequestCtx_snd listed.inOrder.accepted]
  · obtain ⟨-, l', n', shows, effect⟩ := addBeacon_effect listed plugins .none accepts
    have accepted := (preparedBeacon_spec s age accepts.2.2.1).1.congr (Beacon.scan_unranked _).symm
    exact shows.toListed (effect.inOrder ordered accepted)

theorem SkyRctx.listed_initialized (s : SkySctx) (now : ℤ) :
    (SkyRctx.initialized s now).Listed := by
  have empty : (SkyRctx.initialized s now).live = [] := rfl
  refine ⟨rfl, ?_⟩
  rw [empty]
  exact ⟨Nat.zero_le _, by simp, by simp, by simp, by simp⟩

theorem eq_initialized {rbufsize : UInt32} {ulAppData : List UInt8} {now : ℤ}
    (started : (skyNewRequest rbufsize s ulAppData now).rctx = some r) :
    r = SkyRctx.initialized s now := by
  unfold skyNewRequest at started
  split_ifs at started
  exact (Option.some.inj started).symm

def requestSession : SkySctx := (skyNewRequest sizeofSkyRctx openedSession [] 1600000000).sctx

def sampleRequest : SkyRctx := SkyRctx.initialized openedSession 1600000000

end EmbeddedClient
