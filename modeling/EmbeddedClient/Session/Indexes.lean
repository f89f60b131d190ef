import EmbeddedClient.Model.Indexes
import EmbeddedClient.Session.Buffers

/-!
# The fields of the line indexes

The indexes that a request keeps are below the number of cachelines. So the fields of 16 bits hold
them for up to `2 ^ 15` cachelines, and the calls with these fields do what the calls with
unbounded indexes do. Runs with these fields stay within all buffers as far as the uplink data does.
-/

namespace EmbeddedClient

open Runs

variable {s : SkySctx} {r : SkyRctx} {n : ℕ}

/-- All lines are in use, unless the session was never initialised. The requests are within the
buffers. -/
structure World.Whole (n : ℕ) (w : World) : Prop where
  size : w.sctx.cacheSize = n
  few : w.sctx.numCachelines ≤ n
  lines : w.sctx.numCachelines = n ∨ w.sctx.header.magic = 0 ∧ w.sctx.openFlag = false
  ctx : ∀ id r, w.ctx id = some r → w.sctx.numCachelines = n ∧ r.WithinBuffers n

/-- `sky_open` sets the number of lines, or leaves it; then a session without its magic number is
left as it is. -/
theorem skyOpen_lines (s : SkySctx) (args : OpenArgs) :
    (skyOpen s args).2.cacheSize = s.cacheSize ∧
      ((skyOpen s args).2.numCachelines = s.cacheSize ∨
        (skyOpen s args).2.numCachelines = s.numCachelines ∧
          (s.header.magic = 0 → (skyOpen s args).2 = s)) := by
  rcases skyOpen_cases s args with ⟨magic, same, opened⟩ | ⟨base, start, opened⟩
  · rw [opened]
    refine ⟨rfl, .inr ⟨rfl, fun blank => ?_⟩⟩
    rcases same with rfl | rfl
    · rfl
    · rw [← blank]
  · -- what is taken over from the arguments leaves the lines alone
    have taken : (skyOpen s args).2.cacheSize = base.cacheSize ∧
        (skyOpen s args).2.numCachelines = base.numCachelines := by
      rcases opened with opened | ⟨deviceId, aesKey, opened⟩
      · rw [opened]
        exact ⟨rfl, rfl⟩
      · rw [opened]
        unfold installArgs
        split_ifs <;> exact ⟨rfl, rfl⟩
    obtain ⟨size, lines⟩ := taken
    rcases start with ⟨rfl, used⟩ | ⟨now, rfl⟩
    · exact ⟨size, .inr ⟨lines, fun blank => absurd blank used⟩⟩
    · exact ⟨size.trans List.length_replicate, .inl lines⟩

theorem lines_of_started {rbufsize : UInt32} {ulAppData : List UInt8} {now : ℤ}
    (lines : s.numCachelines = n ∨ s.header.magic = 0 ∧ s.openFlag = false)
    (started : (skyNewRequest rbufsize s ulAppData now).errno = none) : s.numCachelines = n := by
  have opened := ((skyNewRequest_started_iff rbufsize s ulAppData now).1 started).2.1
  apply lines.resolve_right
  rintro ⟨-, closed⟩
  rw [opened] at closed
  cases closed

namespace World.Whole

variable {env : Env} {w : World}

theorem openSession (whole : w.Whole n) (args : OpenArgs) :
    (w.step env (.openSession args)).Whole n := by
  obtain ⟨size, lines⟩ := skyOpen_lines w.sctx args
  refine ⟨size.trans whole.size, ?_, ?_, ?_⟩
  · rcases lines with set | ⟨left, -⟩
    · exact (set.trans (congrArg _ whole.size)).le
    · exact left.le.trans whole.few
  · rcases lines with set | ⟨left, blank⟩
    · left
      exact set.trans (congrArg _ whole.size)
    · rcases whole.lines with used | ⟨zero, closed⟩
      · exact .inl (left.trans used)
      · right
        have same : (w.step env (.openSession args)).sctx = w.sctx := blank zero
        rw [same]
        exact ⟨zero, closed⟩
  · intro id r member
    obtain ⟨used, within⟩ := whole.ctx id r member
    refine ⟨?_, within⟩
    rcases lines with set | ⟨left, -⟩
    · exact set.trans (congrArg _ whole.size)
    · exact left.trans used

theorem close (whole : w.Whole n) : (w.step env .close).Whole n := by
  unfold World.step skyClose
  dsimp only
  split_ifs
  · exact whole
  · refine ⟨whole.size, whole.few, ?_, whole.ctx⟩
    rcases whole.lines with used | ⟨zero, -⟩
    · exact .inl used
    · exact .inr ⟨zero, rfl⟩

theorem newRequest (whole : w.Whole n) (id : ℕ) (rbufsize : UInt32)
    (ulAppData : List UInt8) (now : ℤ) :
    (w.step env (.newRequest id rbufsize ulAppData now)).Whole n := by
  have same := skyNewRequest_sctx rbufsize w.sctx ulAppData now
  have ctx := @World.step_newRequest_ctx w id env _ rbufsize ulAppData now whole.ctx fun started =>
    ⟨lines_of_started whole.lines started, .initialized w.sctx now⟩
  rw [← @World.step_newRequest_sctx w id env] at same
  refine ⟨same.cacheSize.trans whole.size, same.numCachelines.le.trans whole.few, ?_, ?_⟩
  · rw [same.numCachelines, same.header, same.openFlag]
    exact whole.lines
  · rwa [same.numCachelines]

theorem onCtx (whole : w.Whole n) (id : ℕ) (call : CtxCall) :
    (w.step env (.onCtx id call)).Whole n := by
  cases member : w.ctx id with
  | none => rwa [World.step_onCtx_none call member]
  | some r =>
    obtain ⟨used, within⟩ := whole.ctx id r member
    have kept := CtxCall.apply_sameSetup env w.sctx r call
    have within' := CtxCall.apply_withinBuffers env within used call
    have ctx := World.step_onCtx_ctx member whole.ctx ⟨used, within'⟩
    rw [World.step_onCtx_some call member] at ctx ⊢
    refine ⟨kept.cacheSize.trans whole.size, kept.numCachelines.le.trans whole.few,
      .inl (kept.numCachelines.trans used), ?_⟩
    rwa [kept.numCachelines]

theorem step (whole : w.Whole n) (call : Call) : (w.step env call).Whole n := by
  cases call with
  | openSession args => exact whole.openSession args
  | close => exact whole.close
  | newRequest id rbufsize ulAppData now => exact whole.newRequest id rbufsize ulAppData now
  | onCtx id call => exact whole.onCtx id call

theorem step16_eq (whole : w.Whole n) (small : n ≤ 2 ^ 15) (call : Call) :
    w.step16 env call = w.step env call := by
  cases call with
  | onCtx id call =>
    cases member : w.ctx id with
    | none => simp only [World.step16, World.step, member]
    | some r =>
      obtain ⟨used, within⟩ := whole.ctx id r member
      have few : w.sctx.numCachelines ≤ 2 ^ 15 := by omega
      have applied : call.apply16 env w.sctx r = call.apply env w.sctx r := by
        cases call with
        | searchCache loc =>
          have searched := skySearchCache16_eq env.distance few
            (within.toIndexed.int16Indexes_eq small) loc
          simp only [CtxCall.apply16, CtxCall.apply, searched]
        | _ => rfl
      simp only [World.step16, World.step, member, applied]
  | _ => rfl

end World.Whole

theorem World.start_whole (n : ℕ) : (World.start n).Whole n where
  size := List.length_replicate
  few := Int.natCast_nonneg n
  lines := .inr ⟨rfl, rfl⟩
  ctx := fun _ _ found => by simp [World.start] at found

/-- A run with indexes of 16 bits is one with unbounded indexes. -/
theorem World.run16_eq (env : Env) {w : World} (whole : w.Whole n) (small : n ≤ 2 ^ 15)
    (calls : List Call) :
    w.run16 env calls = w.run env calls := by
  induction calls generalizing w with
  | nil => rfl
  | cons call calls ih =>
    unfold World.run16 World.run at *
    rw [run_cons, run_cons, whole.step16_eq small]
    exact ih (whole.step call)

theorem World.run_whole (env : Env) {w : World} (whole : w.Whole n) (calls : List Call) :
    (w.run env calls).Whole n :=
  run_invariant (fun _ call whole _ => whole.step call) whole along_true

theorem World.along16_iff (env : Env) (condition : World → Call → Prop) {w : World}
    (whole : w.Whole n) (small : n ≤ 2 ^ 15) {calls : List Call} :
    Along (World.step16 env) condition w calls ↔ Along (World.step env) condition w calls := by
  induction calls generalizing w with
  | nil => exact Iff.rfl
  | cons call calls ih =>
    rw [along_cons, along_cons, whole.step16_eq small, ih (whole.step call)]

/-- In every run from a session of zeros under the default configuration, everything stays
within the buffers exactly if the uplink data of every request does. -/
theorem withinBuffers_iff (env : Env) (cacheSize : ℕ) (small : cacheSize ≤ 2 ^ 15) (args : OpenArgs)
    (opened : (skyOpen (SkySctx.zeroed cacheSize) args).1 = .none) (calls : List Call)
    (defaults : Along (World.step16 env) (fun w call => (w.step16 env call).sctx.config.IsDefault)
      (World.start cacheSize) (.openSession args :: calls)) :
    Along (World.step16 env)
        (fun w call => w.CopiesInside env call ∧ (w.step16 env call).WithinBuffers cacheSize)
        (World.start cacheSize) (.openSession args :: calls) ↔
      Along (World.step16 env) World.UplinkFits (World.start cacheSize)
        (.openSession args :: calls) := by
  have whole := World.start_whole cacheSize
  have same (condition : World → Call → World → Prop) {calls : List Call} :
      Along (World.step16 env) (fun w call => condition w call (w.step16 env call))
          (World.start cacheSize) calls ↔
        Along (World.step env) (fun w call => condition w call (w.step env call))
          (World.start cacheSize) calls := by
    rw [World.along16_iff env _ whole small]
    apply along_congr (fun _ call whole => whole.step call) whole
    intro w call whole
    rw [whole.step16_eq small]
  rw [same fun _ _ w' => w'.sctx.config.IsDefault] at defaults
  rw [same fun w call w' => w.CopiesInside env call ∧ w'.WithinBuffers cacheSize,
    same fun w call _ => w.UplinkFits call]
  have start := World.start_buffered env opened
  have first : (World.start cacheSize).CopiesInside env (.openSession args) :=
    ⟨skyOpenCopies_inside _ args, trivial⟩
  have kept (w : World) (call : Call) (buffered : w.Buffered cacheSize)
      (config : (w.step env call).sctx.config.IsDefault) (fits : w.UplinkFits call) :
      (w.step env call).Buffered cacheSize := buffered.step call fits config
  have rest := along_congr_given kept start defaults.2
    fun w call buffered config => buffered.step_iff call config
  rw [along_cons, along_cons]
  constructor
  · intro inside
    exact ⟨trivial, rest.1 inside.2⟩
  · intro fits
    exact ⟨⟨first, start.withinBuffers⟩, rest.2 fits.2⟩

def uplinkCalls (ulAppData : List UInt8) : List Call :=
  [.newRequest 0 sizeofSkyRctx ulAppData 1600000000,
    .onCtx 0 (.addBeacon (apCall 1 (-80)) 1600000000), .onCtx 0 (.searchCache SkyLocation.zero)]

theorem fullUplink_withinBuffers :
    Along (World.step16 bareEnv)
      (fun w call => w.CopiesInside bareEnv call ∧ (w.step16 bareEnv call).WithinBuffers 1)
      (World.start 1) (.openSession bareOpen :: uplinkCalls (List.replicate 100 0)) :=
  (withinBuffers_iff bareEnv 1 (by decide) bareOpen (by decide +kernel) _ (by decide +kernel)).2
    (by decide +kernel)

/-- One byte more is copied past the end of the buffer. -/
theorem longUplink_not_withinBuffers :
    (skyOpen (SkySctx.zeroed 1) bareOpen).1 = .none ∧
      Along (World.step16 bareEnv) (fun w call => (w.step16 bareEnv call).sctx.config.IsDefault)
        (World.start 1) (.openSession bareOpen :: uplinkCalls (List.replicate 101 0)) ∧
      ¬ Along (World.step16 bareEnv)
        (fun w call => w.CopiesInside bareEnv call ∧ (w.step16 bareEnv call).WithinBuffers 1)
        (World.start 1) (.openSession bareOpen :: uplinkCalls (List.replicate 101 0)) := by
  refine ⟨by decide +kernel, by decide +kernel, ?_⟩
  rintro ⟨-, ⟨⟨copies, -⟩, -⟩, -⟩
  revert copies
  decide +kernel

end EmbeddedClient
