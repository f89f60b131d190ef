import EmbeddedClient.Beacons.Adds
import EmbeddedClient.Cache.Updates

/-!
# The oldest line

`find_oldest` starts its running minimum with the time of the request. Lines carry the times of
responses, so all of them may be younger than the request, and then the first line is taken for
the oldest.
-/

namespace EmbeddedClient

variable {lines : List SkyCacheline} {s : SkySctx} {r : SkyRctx}

def OldestAt (lines : List SkyCacheline) (i : ℕ) : Prop :=
  ∃ cl, lines[i]? = some cl ∧ ∀ c ∈ lines, cl.time ≤ c.time

/-- The index is that of an empty line if there is one, otherwise that of a line of minimal time. -/
structure EmptyOrOldest (lines : List SkyCacheline) (i : ℕ) : Prop where
  empty : (∃ k, EmptyAt lines k) → EmptyAt lines i
  oldest : (∀ k, ¬ EmptyAt lines k) → OldestAt lines i

/-- Without an empty line, the loop of `find_oldest` keeps its start, or takes a line older than
it and than all lines. -/
theorem findOldestLoop_cases {oldest : ℤ} (timed : oldest ≠ TIME_UNAVAILABLE) (n oldestc : ℕ)
    (full : ∀ cl ∈ lines, cl.time ≠ CACHE_EMPTY) :
    ((∀ cl ∈ lines, oldest ≤ cl.time) ∧ findOldestLoop n oldest oldestc lines = oldestc) ∨
      ∃ k cl, lines[k]? = some cl ∧ cl.time < oldest ∧ (∀ c ∈ lines, cl.time ≤ c.time) ∧
        findOldestLoop n oldest oldestc lines = n + k := by
  induction lines generalizing oldest n oldestc with
  | nil => exact .inl ⟨by simp, rfl⟩
  | cons cl cls ih =>
    rw [List.forall_mem_cons] at full
    unfold findOldestLoop
    rw [if_neg (not_or.2 ⟨timed, full.1⟩)]
    simp only [List.forall_mem_cons]
    split_ifs with older
    · right
      rcases ih full.1 (n + 1) n full.2 with ⟨least, kept⟩ | ⟨k, c, line, lt, least, found⟩
      · exact ⟨0, cl, rfl, by omega, ⟨le_rfl, least⟩, kept⟩
      · exact ⟨k + 1, c, line, by omega, ⟨lt.le, least⟩, by omega⟩
    · rcases ih timed (n + 1) oldestc full.2 with ⟨least, kept⟩ | ⟨k, c, line, lt, least, found⟩
      · exact .inl ⟨⟨by omega, least⟩, kept⟩
      · exact .inr ⟨k + 1, c, line, lt, ⟨by omega, least⟩, by omega⟩

theorem exists_emptyAt_iff : (∃ k, EmptyAt lines k) ↔ ∃ cl ∈ lines, cl.time = CACHE_EMPTY := by
  constructor
  · rintro ⟨k, cl, line, empty⟩
    exact ⟨cl, List.mem_of_getElem? line, empty⟩
  · rintro ⟨cl, member, empty⟩
    obtain ⟨k, line⟩ := List.getElem?_of_mem member
    exact ⟨k, cl, line, empty⟩

/-- Some line is empty, or older than the request, or the first line is the oldest. -/
def SeedHidesNone (s : SkySctx) (r : SkyRctx) : Prop :=
  (∃ cl ∈ s.cacheline, cl.time = CACHE_EMPTY) ∨
    (∃ cl ∈ s.cacheline, cl.time < r.header.time.toNat) ∨ OldestAt s.cacheline 0

/-- `find_oldest` finds an empty line or the oldest one exactly if the time of the request does
not hide the oldest one. -/
theorem findOldest_emptyOrOldest_iff (several : 1 < s.cacheSize) (timed : r.header.time ≠ 0) :
    EmptyOrOldest s.cacheline (findOldest s r) ↔ SeedHidesNone s r := by
  have clock : (r.header.time.toNat : ℤ) ≠ TIME_UNAVAILABLE := by
    intro none
    apply timed
    rw [← UInt32.toNat_inj]
    exact Int.natCast_eq_zero.1 none
  have loop : findOldest s r = findOldestLoop 0 r.header.time.toNat 0 s.cacheline :=
    if_neg (by omega)
  rw [loop]
  by_cases some : ∃ k, EmptyAt s.cacheline k
  · apply iff_of_true
    · obtain ⟨k, empty⟩ := some
      obtain ⟨m, found, place⟩ := findOldestLoop_empty clock 0 0 empty
      rw [place, Nat.zero_add]
      exact ⟨fun _ => found, fun none => absurd found (none m)⟩
    · exact .inl (exists_emptyAt_iff.1 some)
  · have full : ∀ cl ∈ s.cacheline, cl.time ≠ CACHE_EMPTY := by
      intro cl member empty
      exact some (exists_emptyAt_iff.2 ⟨cl, member, empty⟩)
    have picks (i : ℕ) : EmptyOrOldest s.cacheline i ↔ OldestAt s.cacheline i :=
      ⟨fun picked => picked.oldest (not_exists.1 some),
        fun oldest => ⟨fun empty => absurd empty some, fun _ => oldest⟩⟩
    unfold SeedHidesNone
    rw [picks, or_iff_right (mt exists_emptyAt_iff.2 some)]
    rcases findOldestLoop_cases clock 0 0 full with
      ⟨least, kept⟩ | ⟨k, cl, line, older, least, found⟩
    · rw [kept, or_iff_right]
      rintro ⟨cl, member, older⟩
      exact absurd (least cl member) (not_le.2 older)
    · apply iff_of_true
      · exact ⟨cl, by rwa [found, Nat.zero_add], least⟩
      · exact .inl ⟨cl, List.mem_of_getElem? line, older⟩

def filledAt (times : List ℤ) : SkySctx :=
  { openedSession with
    numCachelines := times.length
    cacheline := times.map fun time => { SkyCacheline.cleared with time := time } }

/-- A line is older than the request. -/
theorem olderLine_emptyOrOldest :
    EmptyOrOldest (filledAt [1600000200, 1599999900, 1600000100]).cacheline
      (findOldest (filledAt [1600000200, 1599999900, 1600000100]) sampleRequest) := by
  apply (findOldest_emptyOrOldest_iff (by decide) (by decide +kernel)).2
  exact .inr (.inl ⟨_, .tail _ (.head _), by decide +kernel⟩)

/-- The clock was set back before the request. -/
theorem clockSetBack_not_emptyOrOldest :
    sampleRequest.header.time ≠ 0 ∧
      findOldest (filledAt [1600000200, 1600000100]) sampleRequest = 0 ∧
      ¬ EmptyOrOldest (filledAt [1600000200, 1600000100]).cacheline
        (findOldest (filledAt [1600000200, 1600000100]) sampleRequest) := by
  refine ⟨by decide +kernel, by decide +kernel, fun picked => ?_⟩
  have full : ∀ k, ¬ EmptyAt (filledAt [1600000200, 1600000100]).cacheline k := by
    rintro k ⟨cl, line, empty⟩
    have member := List.mem_of_getElem? line
    simp only [filledAt, List.map_cons, List.map_nil, List.mem_cons, List.not_mem_nil, or_false]
      at member
    rcases member with rfl | rfl <;> exact absurd empty (by decide)
  obtain ⟨cl, line, least⟩ := picked.oldest full
  have place : findOldest (filledAt [1600000200, 1600000100]) sampleRequest = 0 := by decide +kernel
  rw [place] at line
  have first := Option.some.inj line
  have later := least _ (.tail _ (.head _))
  rw [← first] at later
  exact absurd later (by decide)

end EmbeddedClient
