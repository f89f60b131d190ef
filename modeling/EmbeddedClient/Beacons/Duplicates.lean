import EmbeddedClient.Beacons.Adds
import EmbeddedClient.Support.Survivor

/-!
# The best duplicate

A copy of a beacon that is already in the list replaces the stored one if it is better. A connected
copy counts as better than a stored one of its age that is connected too, and signal strengths are
compared as stored, so that an unknown one is the highest.
-/

namespace EmbeddedClient

open Runs Survivor

variable {s : SkySctx} {r : SkyRctx} {b d e : Beacon}

/-- The signal strength if an unknown one counts as `unknown`; `EFFECTIVE_RSSI` counts it as
-127. -/
def Beacon.strength (unknown : ℤ) (b : Beacon) : ℤ :=
  if b.h.rssi = -1 then unknown else b.h.rssi.toInt

/-- The copy `b` is better than `a`: younger, or as old and connected while `a` is not, or as old,
as connected and stronger. -/
def Beacon.Beats (unknown : ℤ) (b a : Beacon) : Prop :=
  b.h.age < a.h.age ∨ (b.h.age = a.h.age ∧ b.h.connected = true ∧ a.h.connected = false) ∨
    (b.h.age = a.h.age ∧ b.h.connected = a.h.connected ∧ a.strength unknown < b.strength unknown)

instance (unknown : ℤ) (b a : Beacon) : Decidable (b.Beats unknown a) :=
  inferInstanceAs (Decidable (_ ∨ _))

def duplicates : Criteria Beacon ℕ ℤ where
  age b := b.h.age.toNat
  marked b := b.h.connected
  value b := b.h.rssi.toInt

theorem betterDuplicate_iff (b old : Beacon) :
    b.betterDuplicate old = true ↔ Replaces duplicates b old := by
  unfold Beacon.betterDuplicate Replaces
  simp only [Bool.or_eq_true, Bool.and_eq_true, decide_eq_true_eq, UInt32.lt_iff_toNat_lt,
    ← UInt32.toNat_inj, duplicates]
  tauto

/-- The last connected copy among the youngest is not weaker than the other connected ones; without
a connected one, none of the youngest is stronger than unknown if one of them is unknown. -/
def BestLast (unknown : ℤ) (copies : List Beacon) : Prop :=
  (∀ last ∈ (contenders duplicates copies).getLast?, ∀ c ∈ contenders duplicates copies,
      c.strength unknown ≤ last.strength unknown) ∧
    (contenders duplicates copies = [] → (∃ c ∈ youngest duplicates copies, c.h.rssi = -1) →
      ∀ c ∈ youngest duplicates copies, c.strength unknown ≤ unknown)

instance (unknown : ℤ) (copies : List Beacon) : Decidable (BestLast unknown copies) :=
  inferInstanceAs (Decidable (_ ∧ _))

theorem isUnknown_iff (b : Beacon) : b.h.rssi = -1 ↔ b.h.rssi.toInt = -1 := Int16.toInt_inj.symm

theorem not_beats_iff {unknown : ℤ} (age : b.h.age = d.h.age)
    (connected : b.h.connected = d.h.connected) :
    ¬ b.Beats unknown d ↔ b.strength unknown ≤ d.strength unknown := by
  unfold Beacon.Beats
  rw [age, connected]
  simp

/-- No copy beats one of the youngest exactly if none of its rivals, the copies of its age and
connectedness, is stronger. -/
theorem unbeaten_iff {copies rivals : List Beacon} (young : ∀ c ∈ copies, ¬ c.h.age < d.h.age)
    (unconnected : ∀ c ∈ copies, c.h.age = d.h.age → d.h.connected = false → c.h.connected = false)
    (rivals_iff : ∀ c, c ∈ rivals ↔ c ∈ copies ∧ c.h.age = d.h.age ∧ c.h.connected = d.h.connected)
    (unknown : ℤ) :
    (∀ c ∈ copies, ¬ c.Beats unknown d) ↔
      ∀ c ∈ rivals, c.strength unknown ≤ d.strength unknown := by
  constructor
  · intro best c member
    obtain ⟨isCopy, age, same⟩ := (rivals_iff c).1 member
    exact (not_beats_iff age same).1 (best c isCopy)
  · intro strongest c isCopy beats
    rcases beats with younger | ⟨age, connected, free⟩ | ⟨age, same, stronger⟩
    · exact young c isCopy younger
    · rw [unconnected c isCopy age free] at connected
      contradiction
    · exact not_lt.2 (strongest c ((rivals_iff c).2 ⟨isCopy, age, same⟩)) stronger

/-- Where no rival is stored as stronger, one is stronger only if the signal strength of the copy
is unknown, and then it is the one that is stored as the highest. -/
theorem strongest_iff {rivals : List Beacon} (accepted : d.Accepted) (inside : d ∈ rivals)
    (highest : ∀ c ∈ rivals, c.h.rssi.toInt ≤ d.h.rssi.toInt) (unknown : ℤ) :
    (∀ c ∈ rivals, c.strength unknown ≤ d.strength unknown) ↔
      ((∃ c ∈ rivals, c.h.rssi = -1) → ∀ c ∈ rivals, c.strength unknown ≤ unknown) := by
  have below := accepted.rssi_le
  by_cases isUnknown : d.h.rssi = -1
  · have level : d.strength unknown = unknown := if_pos isUnknown
    rw [level]
    exact ⟨fun best _ => best, fun best => best ⟨d, inside, isUnknown⟩⟩
  · have known {c : Beacon} (member : c ∈ rivals) : c.h.rssi ≠ -1 := by
      intro unknownC
      have bound := highest c member
      rw [isUnknown_iff] at unknownC isUnknown
      omega
    apply iff_of_true
    · intro c member
      rw [Beacon.strength, Beacon.strength, if_neg (known member), if_neg isUnknown]
      exact highest c member
    · rintro ⟨c, member, unknownC⟩
      exact absurd unknownC (known member)

theorem isSurvivor_best_iff {copies : List Beacon} (accepted : ∀ c ∈ copies, c.Accepted)
    (held : IsSurvivor duplicates copies d) (unknown : ℤ) :
    (∀ c ∈ copies, ¬ c.Beats unknown d) ↔ BestLast unknown copies := by
  have young : ∀ c ∈ copies, ¬ c.h.age < d.h.age := by
    intro c member
    rw [UInt32.lt_iff_toNat_lt]
    exact not_lt.2 (held.le c member)
  have sameAge (c : Beacon) : c ∈ youngest duplicates copies ↔ c ∈ copies ∧ c.h.age = d.h.age := by
    rw [held.mem_youngest_iff, ← UInt32.toNat_inj]
    rfl
  have highest : d.h.connected = false → ∀ c ∈ copies, c.h.age = d.h.age →
      c.h.connected = false ∧ c.h.rssi.toInt ≤ d.h.rssi.toInt :=
    fun free c isCopy age => held.highest free c isCopy (congrArg UInt32.toNat age)
  have unconnected : ∀ c ∈ copies, c.h.age = d.h.age → d.h.connected = false →
    c.h.connected = false :=
    fun c isCopy age free => (highest free c isCopy age).1
  unfold BestLast
  cases connected : d.h.connected with
  | true =>
    have final := held.getLast?_contenders connected
    have rivals_iff (c : Beacon) : c ∈ contenders duplicates copies ↔
        c ∈ copies ∧ c.h.age = d.h.age ∧ c.h.connected = d.h.connected := by
      rw [contenders, List.mem_filter, sameAge, and_assoc, connected]
      rfl
    have some : contenders duplicates copies ≠ [] := by
      intro none
      rw [none] at final
      contradiction
    rw [and_iff_left fun none => absurd none some, final, unbeaten_iff young unconnected rivals_iff]
    simp only [Option.mem_some_iff, forall_eq']
  | false =>
    have rivals_iff (c : Beacon) : c ∈ youngest duplicates copies ↔
        c ∈ copies ∧ c.h.age = d.h.age ∧ c.h.connected = d.h.connected := by
      rw [sameAge]
      constructor
      · rintro ⟨isCopy, age⟩
        exact ⟨isCopy, age, (unconnected c isCopy age connected).trans connected.symm⟩
      · rintro ⟨isCopy, age, -⟩
        exact ⟨isCopy, age⟩
    have bound : ∀ c ∈ youngest duplicates copies, c.h.rssi.toInt ≤ d.h.rssi.toInt := by
      intro c member
      obtain ⟨isCopy, age⟩ := (sameAge c).1 member
      exact (highest connected c isCopy age).2
    rw [held.contenders_eq_nil connected, List.getLast?_nil,
      and_iff_right fun _ impossible => by contradiction, unbeaten_iff young unconnected rivals_iff,
      strongest_iff (accepted d held.member) ((sameAge d).2 ⟨held.member, rfl⟩) bound]
    simp only [forall_const]

/-- The copy of `e` that a call stores, if it does. -/
def Add.copy (s : SkySctx) (e : Beacon) (r : SkyRctx) (a : Add) : List Beacon :=
  if a.Inserted s r ∧ SameBeacon (a.stored s r.header.time) e then
    [a.stored s r.header.time] else []

/-- The accepted copies of `e` in a run of calls. -/
def copiesIn (s : SkySctx) (e : Beacon) : SkyRctx → List Add → List Beacon
  | _, [] => []
  | r, a :: adds => a.copy s e r ++ copiesIn s e (a.step s r) adds

def SkyRctx.Has (r : SkyRctx) (e : Beacon) : Prop := ∃ d ∈ r.live, SameBeacon d e

/-- No copy beats the one of `e` in the list. -/
def StoresBest (unknown : ℤ) (e : Beacon) (r : SkyRctx) (copies : List Beacon) : Prop :=
  ∀ d ∈ r.live, SameBeacon d e → ∀ c ∈ copies, ¬ c.Beats unknown d

/-- A call does not evict the copy of `e`. -/
def Add.Keeps (s : SkySctx) (e : Beacon) (r : SkyRctx) (a : Add) : Prop :=
  r.Has e ∨ a.copy s e r ≠ [] → (a.step s r).Has e

/-- What is in the list is what survived of the copies seen. -/
structure Tracks (e : Beacon) (r : SkyRctx) (seen : List Beacon) : Prop where
  listed : r.Listed
  held : ∀ d ∈ r.live, SameBeacon d e → (survivor duplicates seen).map Beacon.unranked =
    some d.unranked
  present : seen ≠ [] → r.Has e

theorem AddEffect.inserted {c : SkyConfig} {l l' : List Beacon} {n n' : ℕ}
    (effect : AddEffect c l n b l' n') :
    ∃ l₁ n₁, InsertEffect l n b l₁ n₁ ∧ l'.Sublist l₁ := by
  cases effect with
  | sameLength inserted length => exact ⟨l', n', inserted, .refl l'⟩
  | longer l₁ n₁ inserted length filtered => exact ⟨l₁, n₁, inserted, filtered.sublist⟩

theorem InsertEffect.survives {l l' : List Beacon} {n n' : ℕ} {seen : List Beacon}
    (effect : InsertEffect l n b.unranked l' n') (ordered : InOrder l n) (isCopy : SameBeacon b e)
    (held : ∀ d ∈ l, SameBeacon d e → (survivor duplicates seen).map Beacon.unranked = some d)
    (present : seen ≠ [] → ∃ d ∈ l, SameBeacon d e) :
    ∀ d ∈ l', SameBeacon d e → (survivor duplicates (seen ++ [b])).map Beacon.unranked =
      some d := by
  have copy : SameBeacon b.unranked e := (sameBeacon_unranked b e).2 isCopy
  rw [survivor_append_singleton]
  cases effect with
  | rejected j range same worse =>
    intro d member sameD
    have before := held _ (List.getElem_mem range) (same.symm.trans copy)
    obtain ⟨k, survives, isStored⟩ := Option.map_eq_some_iff.1 before
    have stays : ¬ Replaces duplicates b k := by
      rw [← betterDuplicate_iff, Bool.not_eq_true]
      rw [← isStored] at worse
      exact worse
    have again := held d member sameD
    rw [survives] at again ⊢
    rwa [keep, if_neg stays]
  | replaced j range same better i le place =>
    intro d member sameD
    have before := held _ (List.getElem_mem range) (same.symm.trans copy)
    obtain ⟨k, survives, isStored⟩ := Option.map_eq_some_iff.1 before
    have replaces : Replaces duplicates b k := by
      rw [← betterDuplicate_iff]
      rw [← isStored] at better
      exact better
    rw [survives, keep, if_pos replaces]
    rcases (List.mem_insertIdx le).1 member with new | old
    · rw [new, Option.map_some]
    · exact absurd (copy.trans sameD.symm) (ordered.fresh_eraseIdx range same d old)
  | stored fresh i le place =>
    intro d member sameD
    have none : seen = [] := by
      by_contra some
      obtain ⟨c, inside, sameC⟩ := present some
      exact fresh c inside (copy.trans sameC.symm)
    rw [none]
    rcases (List.mem_insertIdx le).1 member with new | old
    · rw [new]
      rfl
    · exact absurd (copy.trans sameD.symm) (fresh d old)

namespace Tracks

variable {seen : List Beacon}

theorem step (tracks : Tracks e r seen)
    (plugins : s.openFlag = true → s.plugins = skyRegisterPlugins) {a : Add}
    (keeps : a.Keeps s e r) :
    Tracks e (a.step s r) (seen ++ a.copy s e r) := by
  have present : seen ++ a.copy s e r ≠ [] → (a.step s r).Has e := by
    intro some
    apply keeps
    by_cases before : seen = []
    · rw [before, List.nil_append] at some
      exact .inr some
    · exact .inl (tracks.present before)
  refine ⟨tracks.listed.add plugins a, ?_, present⟩
  have ordered : InOrder (r.live.map Beacon.unranked) r.numAp :=
    tracks.listed.inOrder.of_unranked (by simp)
  have held : ∀ d ∈ r.live.map Beacon.unranked, SameBeacon d e →
      (survivor duplicates seen).map Beacon.unranked = some d := by
    intro d member same
    obtain ⟨c, inside, rfl⟩ := List.mem_map.1 member
    exact tracks.held c inside ((sameBeacon_unranked c e).1 same)
  unfold Add.step skyAddBeacon
  rcases addBeacon_cases s r .none a.call.beacon a.timestamp with
    ⟨_, -, -, refused, result⟩ | ⟨age, accepts, -⟩
  · have noCopy : a.copy s e r = [] := if_neg fun inserted => refused _ inserted.1.choose_spec
    rw [noCopy, List.append_nil, result]
    dsimp only
    rw [validateRequestCtx_snd tracks.listed.inOrder.accepted]
    exact tracks.held
  · obtain ⟨-, l', n', shows, effect⟩ := addBeacon_effect tracks.listed plugins .none accepts
    rw [← Add.stored_eq accepts] at effect
    have after : ∀ d ∈ l', SameBeacon d e →
        (survivor duplicates (seen ++ a.copy s e r)).map Beacon.unranked = some d := by
      by_cases isCopy : SameBeacon (a.stored s r.header.time) e
      · have copy : a.copy s e r = [a.stored s r.header.time] := if_pos ⟨⟨age, accepts⟩, isCopy⟩
        have some : seen ≠ [] → ∃ d ∈ r.live.map Beacon.unranked, SameBeacon d e := by
          intro full
          obtain ⟨d, member, same⟩ := tracks.present full
          exact ⟨d.unranked, List.mem_map_of_mem member, (sameBeacon_unranked d e).2 same⟩
        obtain ⟨l₁, n₁, inserted, sublist⟩ := effect.inserted
        rw [copy]
        exact fun d member => inserted.survives ordered isCopy held some d (sublist.subset member)
      · have noCopy : a.copy s e r = [] := if_neg fun both => isCopy both.2
        rw [noCopy, List.append_nil]
        intro d member same
        rcases effect.mem d member with new | old
        · rw [new, sameBeacon_unranked] at same
          exact absurd same isCopy
        · exact held d old same
    intro d member same
    have inside : d.unranked ∈ l' := by
      rw [← shows.list]
      exact List.mem_map_of_mem member
    exact after d.unranked inside ((sameBeacon_unranked d e).2 same)

theorem run (tracks : Tracks e r seen)
    (plugins : s.openFlag = true → s.plugins = skyRegisterPlugins) {adds : List Add}
    (keeps : Along (Add.step s) (Add.Keeps s e) r adds) :
    Tracks e (Runs.run (Add.step s) r adds) (seen ++ copiesIn s e r adds) := by
  induction adds generalizing r seen with
  | nil => simpa [copiesIn] using tracks
  | cons a adds ih =>
    obtain ⟨first, rest⟩ := keeps
    have next := ih (tracks.step plugins first) rest
    rwa [List.append_assoc] at next

end Tracks

theorem copiesIn_accepted (s : SkySctx) (e : Beacon) (r : SkyRctx) (adds : List Add) :
    ∀ c ∈ copiesIn s e r adds, c.Accepted := by
  induction adds generalizing r with
  | nil => exact fun c impossible => absurd impossible List.not_mem_nil
  | cons a adds ih =>
    intro c member
    rcases List.mem_append.1 member with now | later
    · unfold Add.copy at now
      split_ifs at now with inserted
      · obtain ⟨age, accepts⟩ := inserted.1
        rw [List.mem_singleton.1 now, Add.stored_eq accepts]
        exact (preparedBeacon_spec s age accepts.2.2.1).1
      · exact absurd now List.not_mem_nil
    · exact ih _ c later

/-- No accepted copy of a beacon beats the one that is stored in the end exactly if the best one
comes last where it matters. -/
theorem bestCopy_iff (listed : r.Listed)
    (plugins : s.openFlag = true → s.plugins = skyRegisterPlugins) (unknown : ℤ) (fresh : ¬ r.Has e)
    (adds : List Add) (kept : Along (Add.step s) (Add.Keeps s e) r adds) :
    StoresBest unknown e (Runs.run (Add.step s) r adds) (copiesIn s e r adds) ↔
      BestLast unknown (copiesIn s e r adds) := by
  have initial : Tracks e r [] := by
    refine ⟨listed, ?_, fun impossible => absurd rfl impossible⟩
    exact fun d member same => absurd ⟨d, member, same⟩ fresh
  have final := initial.run plugins kept
  rw [List.nil_append] at final
  have accepted := copiesIn_accepted s e r adds
  generalize copiesIn s e r adds = copies at final accepted ⊢
  by_cases none : copies = []
  · rw [none]
    apply iff_of_true (fun d _ _ c impossible => absurd impossible List.not_mem_nil)
    exact ⟨fun last impossible => by contradiction, fun _ ⟨c, impossible, _⟩ =>
      absurd impossible List.not_mem_nil⟩
  · obtain ⟨d, member, same⟩ := final.present none
    obtain ⟨k, survives, isStored⟩ := Option.map_eq_some_iff.1 (final.held d member same)
    rw [← isSurvivor_best_iff accepted (isSurvivor survives) unknown]
    have alike {d' : Beacon} (eq : k.unranked = d'.unranked) (c : Beacon) :
        c.Beats unknown d' ↔ c.Beats unknown k := by
      show c.Beats unknown d'.unranked ↔ c.Beats unknown k.unranked
      rw [eq]
    constructor
    · intro best c inside beats
      exact best d member same c inside ((alike isStored c).2 beats)
    · intro best d' member' same' c inside beats
      have stored := final.held d' member' same'
      rw [survives, Option.map_some, Option.some.injEq] at stored
      exact best c inside ((alike stored c).1 beats)

instance (r : SkyRctx) (e : Beacon) : Decidable (r.Has e) :=
  inferInstanceAs (Decidable (∃ d ∈ r.live, _))

instance (unknown : ℤ) (e : Beacon) (r : SkyRctx) (copies : List Beacon) :
    Decidable (StoresBest unknown e r copies) :=
  inferInstanceAs (Decidable (∀ d ∈ r.live, _))

instance (s : SkySctx) (e : Beacon) (r : SkyRctx) (a : Add) : Decidable (a.Keeps s e r) :=
  inferInstanceAs (Decidable (_ → _))

def connectedCall (rssi : Int16) : AddCall := .ap (apCall 1 rssi).beacon.ap.mac rssi 2412 true

/-- An AP four times, with another AP between. -/
def copiedAps : List Add :=
  [⟨apCall 1 (-60), 1599999990⟩, ⟨apCall 2 (-70), 1600000000⟩, ⟨connectedCall (-90), 1600000000⟩,
    ⟨connectedCall (-50), 1600000000⟩, ⟨apCall 1 (-40), 1600000000⟩]

theorem copiedAps_bestCopy :
    StoresBest (-127) (connectedCall (-50)).beacon
      (Runs.run (Add.step requestSession) sampleRequest copiedAps)
      (copiesIn requestSession (connectedCall (-50)).beacon sampleRequest copiedAps) :=
  (bestCopy_iff (SkyRctx.listed_initialized ..) (fun _ => by decide +kernel) (-127)
    (by decide +kernel)
    copiedAps (by decide +kernel)).2 (by decide +kernel)

/-- A connected AP twice, the second time with a weaker signal. -/
def weakerAps : List Add := [⟨connectedCall (-50), 1600000000⟩, ⟨connectedCall (-90), 1600000000⟩]

/-- The weaker copy is stored. -/
theorem weakerAps_not_bestCopy :
    ¬ sampleRequest.Has (connectedCall (-50)).beacon ∧
      Along (Add.step requestSession) (Add.Keeps requestSession (connectedCall (-50)).beacon)
        sampleRequest weakerAps ∧
      ¬ StoresBest (-127) (connectedCall (-50)).beacon
        (Runs.run (Add.step requestSession) sampleRequest weakerAps)
        (copiesIn requestSession (connectedCall (-50)).beacon sampleRequest weakerAps) := by
  decide +kernel

end EmbeddedClient
