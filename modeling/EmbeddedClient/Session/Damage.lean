import EmbeddedClient.Session.Restart
import EmbeddedClient.Session.Indexes
import EmbeddedClient.Support.Crc

/-!
# Damaged headers

The header of a session and of a request context ends with a check word over the rest of it. Every
burst of up to 32 bits in a header is detected, and so are any two flipped bits. A session damaged
like that is not restored, and a context damaged like that is turned away by every call that
writes more than the age of a position.
-/

namespace EmbeddedClient

open Runs Crc

def crcPoly : BitVec 32 := 0xEDB88320#32

theorem crcShift_toBitVec (crc : UInt32) :
    (crcShift crc).toBitVec = shift crcPoly crc.toBitVec := by
  have low : (crc &&& 1).toBitVec = (BitVec.ofBool (crc.toBitVec.getLsbD 0)).setWidth 32 := by
    rw [UInt32.toBitVec_and]
    exact BitVec.and_one_eq_setWidth_ofBool_getLsbD
  unfold crcShift shift
  rw [UInt32.toBitVec_xor, UInt32.toBitVec_and, UInt32.toBitVec_sub, low,
    UInt32.toBitVec_shiftRight]
  cases crc.toBitVec.getLsbD 0 <;> rfl

theorem iterate_crcShift_toBitVec (n : ℕ) (crc : UInt32) :
    (crcShift^[n] crc).toBitVec = (shift crcPoly)^[n] crc.toBitVec :=
  Function.Semiconj.iterate_right crcShift_toBitVec n crc

theorem crcByte_toBitVec (crc : UInt32) (byte : UInt8) :
    (crcShift^[8] (crc ^^^ byte.toUInt32)).toBitVec = feed crcPoly crc.toBitVec
      (bitsOf byte.toBitVec) := by
  have spelled : ofBits 32 (bitsOf byte.toBitVec) = byte.toBitVec.setWidth 32 := by
    apply BitVec.eq_of_getLsbD_eq
    intro i small
    rw [getLsbD_ofBits, BitVec.getLsbD_setWidth, bitsOf, List.getD_eq_getElem?_getD,
      List.getElem?_map]
    by_cases inside : i < 8
    · rw [List.getElem?_range inside]
      rfl
    · rw [List.getElem?_eq_none (by simpa using inside), BitVec.getLsbD_of_ge _ _ (by omega)]
      rfl
  rw [iterate_crcShift_toBitVec, feed_eq_iterate_shift crcPoly (by simp), length_bitsOf, spelled,
    UInt32.toBitVec_xor]
  rfl

/-- `sky_crc32` is the complement of the register after the bits of the message. -/
theorem skyCrc32_toBitVec (msg : List UInt8) :
    (skyCrc32 msg).toBitVec =
      ~~~ feed crcPoly (BitVec.allOnes 32) (msg.flatMap fun byte => bitsOf byte.toBitVec) := by
  have folded (crc : UInt32) :
      (msg.foldl (fun crc byte => crcShift^[8] (crc ^^^ byte.toUInt32)) crc).toBitVec =
        feed crcPoly crc.toBitVec (msg.flatMap fun byte => bitsOf byte.toBitVec) := by
    induction msg generalizing crc with
    | nil => rfl
    | cons byte msg ih => rw [List.foldl_cons, ih, List.flatMap_cons, feed_append, crcByte_toBitVec]
  unfold skyCrc32
  rw [UInt32.toBitVec_not, folded]
  rfl

theorem bits_wordBytes (w : UInt32) :
    (wordBytes w).flatMap (fun byte => bitsOf byte.toBitVec) = bitsOf w.toBitVec := by
  simp [wordBytes, bitsOf, List.range_succ]

def SkyHeader.bits (h : SkyHeader) : List Bool :=
  bitsOf h.magic.toBitVec ++ bitsOf h.size.toBitVec ++ bitsOf h.time.toBitVec ++
    bitsOf h.crc32.toBitVec

def SkyHeader.Intact (h : SkyHeader) : Prop := h.crc32 = h.checksum

/-- The header is damaged within 32 bits in a row, or in two bits. -/
def SkyHeader.Damaged (h damaged : SkyHeader) : Prop :=
  damaged ≠ h ∧ (Burst 32 h.bits damaged.bits ∨ ∃ n, Flips n h.bits damaged.bits)

theorem SkyHeader.intact_iff (h : SkyHeader) :
    h.Intact ↔ feed crcPoly (BitVec.allOnes 32) h.bits = (shift crcPoly)^[32]
    (BitVec.allOnes 32) := by
  unfold SkyHeader.Intact SkyHeader.bits
  rw [feed_append_bitsOf (by decide), ← UInt32.toBitVec_inj, SkyHeader.checksum, skyCrc32_toBitVec,
    List.flatMap_append, List.flatMap_append, bits_wordBytes, bits_wordBytes, bits_wordBytes]

theorem SkyHeader.bits_injective : Function.Injective SkyHeader.bits := by
  intro h h' same
  unfold SkyHeader.bits at same
  obtain ⟨front, crc32⟩ := List.append_inj same (by simp)
  obtain ⟨front, time⟩ := List.append_inj front (by simp)
  obtain ⟨magic, size⟩ := List.append_inj front (by simp)
  have word {v v' : UInt32} (equal : bitsOf v.toBitVec = bitsOf v'.toBitVec) : v = v' :=
    UInt32.toBitVec_inj.1 (bitsOf_injective equal)
  cases h
  cases h'
  simp only [SkyHeader.mk.injEq]
  exact ⟨word magic, word size, word time, word crc32⟩

/-- A one does not come back within the length of a header. -/
theorem crcPoly_order : ∀ n < 128, 0 < n → (shift crcPoly)^[n] (unit 32 true) ≠ unit 32 true := by
  decide +kernel

/-- **Damage shows**: a header that was intact is not after damage. -/
theorem SkyHeader.Damaged.not_intact {h damaged : SkyHeader} (damage : h.Damaged damaged)
    (intact : h.Intact) :
    ¬ damaged.Intact := by
  obtain ⟨differ, errors⟩ := damage
  have bits : h.bits ≠ damaged.bits := fun same => differ (bits_injective same).symm
  have top : crcPoly.msb = true := by decide
  rw [intact_iff] at intact ⊢
  rw [← intact]
  rcases errors with burst | ⟨n, flips⟩
  · exact (burst.feed_ne top bits _).symm
  · have length : h.bits.length = 128 := by simp [SkyHeader.bits]
    have near : 0 < n ∧ n < 128 := by
      obtain ⟨before, bit, between, bit', after, split, -, rfl⟩ := flips
      rw [split] at length
      simp at length
      omega
    exact (flips.feed_ne top (crcPoly_order n near.2 near.1) _).symm

variable {s : SkySctx} {r : SkyRctx}

structure World.Intact (w : World) : Prop where
  sctx : w.sctx.header.magic = 0 ∨ w.sctx.header.Intact
  ctx : ∀ id r, w.ctx id = some r → r.Sealed

theorem skyOpen_intact (intact : s.header.magic = 0 ∨ s.header.Intact) (args : OpenArgs) :
    (skyOpen s args).2.header.magic = 0 ∨ (skyOpen s args).2.header.Intact := by
  rcases skyOpen_cases s args with ⟨magic, rfl | rfl, eq⟩ | ⟨base, start, eq⟩
  · rw [eq]
    exact intact
  · rw [eq]
    exact .inl rfl
  · have onBase : base.header.Intact := by
      rcases start with ⟨rfl, magic⟩ | ⟨now, rfl⟩
      · exact intact.resolve_left magic
      · rfl
    have defaults := (sameAccount_configDefaults base).header
    right
    rcases eq with eq | ⟨deviceId, aesKey, eq⟩
    · rw [eq, defaults]
      exact onBase
    · rw [eq, (sameAccount_installArgs (configDefaults base) args deviceId aesKey).header, defaults]
      exact onBase

theorem skyDecodeResponse_intact (bits : ℕ) (loc : SkyLocation) (resp : Response) (now later : ℤ)
    (intact : s.header.magic = 0 ∨ s.header.Intact) (intactR : r.Sealed) :
    let d := skyDecodeResponse bits s r loc resp now later
    (d.sctx.header.magic = 0 ∨ d.sctx.header.Intact) ∧ d.rctx.Sealed := by
  have checked : (validateRequestCtx r).2.Sealed := by
    unfold SkyRctx.Sealed
    rw [(sameRequest_validateRequestCtx r).header]
    exact intactR
  have outcome := skyDecodeResponse_outcome bits s r loc resp now later
  generalize skyDecodeResponse bits s r loc resp now later = d at outcome ⊢
  cases outcome with
  | rejected => exact ⟨intact, checked⟩
  | undecoded => exact ⟨.inr rfl, checked⟩
  | decoded s' s'' r' loc status rs cacheHits valid ctx same auth =>
    dsimp only
    rw [reportLocation_header, reportLocation_rctx]
    have headers : s''.header = s'.header ∧ r'.header = (validateRequestCtx r).2.header := by
      cases auth with
      | located => exact ⟨rfl, (applyLocation_rctx s' _ (SkyLocation.start status) rs).1.header⟩
      | _ => exact ⟨rfl, rfl⟩
    have stamped : s''.header = (s.stamp now).header := headers.1.trans same.session.header
    unfold SkyRctx.Sealed at checked ⊢
    rw [headers.2]
    refine ⟨.inr ?_, checked⟩
    show s''.header.Intact
    rw [stamped]
    rfl

theorem CtxCall.apply_intact (env : Env) (call : CtxCall)
    (intact : s.header.magic = 0 ∨ s.header.Intact) (intactR : r.Sealed) :
    ((call.apply env s r).1.header.magic = 0 ∨ (call.apply env s r).1.header.Intact) ∧
      (call.apply env s r).2.Sealed := by
  by_cases decode : ∃ resp loc now later, call = .decodeResponse resp loc now later
  · obtain ⟨resp, loc, now, later, rfl⟩ := decode
    exact skyDecodeResponse_intact env.cipherBits loc resp now later intact intactR
  · obtain ⟨session, request⟩ := CtxCall.apply_same env s r call fun resp loc now later eq =>
      decode ⟨resp, loc, now, later, eq⟩
    unfold SkyRctx.Sealed
    rw [session.header, request.header]
    exact ⟨intact, intactR⟩

theorem World.step_intact (env : Env) {w : World} (intact : w.Intact) (call : Call) :
    (w.step env call).Intact := by
  cases call with
  | openSession args => exact ⟨skyOpen_intact intact.sctx args, intact.ctx⟩
  | close =>
    refine ⟨?_, intact.ctx⟩
    have header : (skyClose w.sctx).2.header = w.sctx.header := by
      unfold skyClose
      split_ifs <;> rfl
    show (skyClose w.sctx).2.header.magic = 0 ∨ (skyClose w.sctx).2.header.Intact
    rw [header]
    exact intact.sctx
  | newRequest id rbufsize ulAppData now =>
    constructor
    · rw [World.step_newRequest_sctx, (skyNewRequest_sctx rbufsize w.sctx ulAppData now).header]
      exact intact.sctx
    · exact @World.step_newRequest_ctx _ _ env SkyRctx.Sealed _ _ _ intact.ctx fun _ => ⟨rfl, rfl⟩
  | onCtx id call =>
    cases member : w.ctx id with
    | none => rwa [World.step_onCtx_none call member]
    | some r =>
      have applied := CtxCall.apply_intact env call intact.sctx (intact.ctx id r member)
      constructor
      · rw [World.step_onCtx_some call member]
        exact applied.1
      · exact @World.step_onCtx_ctx _ _ _ env SkyRctx.Sealed _ member intact.ctx applied.2

theorem World.run_intact (env : Env) (cacheSize : ℕ) (calls : List Call) :
    ((World.start cacheSize).run env calls).Intact := by
  have start : (World.start cacheSize).Intact :=
    ⟨.inl rfl, fun _ _ found => by simp [World.start] at found⟩
  exact run_invariant (fun _ call kept _ => World.step_intact env kept call) start along_true

theorem skyOpen_of_invalid (invalid : validateSessionCtx s = false) (args : OpenArgs) :
    (skyOpen s args).1 = (skyOpen (SkySctx.zeroed s.cacheSize) args).1 ∧
      ((skyOpen s args).1 = .none →
        (skyOpen s args).2 = (skyOpen (SkySctx.zeroed s.cacheSize) args).2) := by
  have size : (SkySctx.zeroed s.cacheSize).cacheSize = s.cacheSize := List.length_replicate
  have blank :
      checkRestored (SkySctx.zeroed s.cacheSize) args = some (SkySctx.zeroed s.cacheSize) := rfl
  obtain ⟨base, checked, magic, kept⟩ : ∃ base, checkRestored s args = some base ∧
    base.header.magic = 0 ∧
      base.cacheSize = s.cacheSize := by
    unfold checkRestored
    by_cases zero : s.header.magic = 0
    · exact ⟨s, if_pos zero, zero, rfl⟩
    · exact ⟨{ s with header := { s.header with magic := 0 } },
        by rw [if_neg zero, if_pos (by simp [invalid])], rfl, rfl⟩
  unfold skyOpen
  rw [checked, blank]
  cases args.gettime with
  | none =>
    refine ⟨rfl, fun opened => ?_⟩
    cases opened
  | some now =>
    have zeroed : (SkySctx.zeroed s.cacheSize).header.magic = 0 := rfl
    dsimp only
    rw [if_pos magic, if_pos zeroed, size, kept]
    exact ⟨rfl, fun _ => rfl⟩

theorem skyDecodeResponse_of_invalid (invalid : validateSessionCtx s = false) (bits : ℕ)
    (loc : SkyLocation) (resp : Response) (now later : ℤ) :
    let d := skyDecodeResponse bits s r loc resp now later
    d.errno.turnedAway ∧ d.sctx = s ∧ d.rctx = (validateRequestCtx r).2 := by
  have outcome := skyDecodeResponse_outcome bits s r loc resp now later
  generalize skyDecodeResponse bits s r loc resp now later = d at outcome ⊢
  cases outcome with
  | rejected errno loc turned => exact ⟨turned, rfl, rfl⟩
  | undecoded loc valid => simp [invalid] at valid
  | decoded s' s'' r' loc status rs cacheHits valid => simp [invalid] at valid

theorem validateRequestCtx_of_not_intact (broken : ¬ r.header.Intact) :
    validateRequestCtx r = (false, r) := by
  unfold validateRequestCtx
  split_ifs with many manyAps checked
  · rfl
  · rfl
  · exact absurd checked.2 broken
  · rfl

def CtxCall.errno (env : Env) (s : SkySctx) (r : SkyRctx) : CtxCall → SkyErrno
  | addBeacon call timestamp => (skyAddBeacon s r .none call timestamp).errno
  | addGnss args => (skyAddGnss r args).1
  | searchCache loc => (skySearchCache env.distance s r loc).errno
  | ignoreCacheHit => (skyIgnoreCacheHit r).1
  | sizeofRequestBuf random => (skySizeofRequestBuf env.codec s r random).errno
  | encodeRequest buf random => (skyEncodeRequest env.codec s r buf random).errno
  | decodeResponse resp loc now later =>
    (skyDecodeResponse env.cipherBits s r loc resp now later).errno
  | setOption name value => (skySetOption s name value).1

/-- The call starts with the check of the context. -/
def CtxCall.ChecksFirst (call : CtxCall) : Prop :=
  (∀ args, call ≠ .addGnss args) ∧ ∀ name value, call ≠ .setOption name value

theorem CtxCall.turns_away {call : CtxCall} (first : call.ChecksFirst) (env : Env)
    (broken : ¬ r.header.Intact) :
    call.errno env s r = .badRequestCtx ∧ call.apply env s r = (s, r) := by
  have checked := validateRequestCtx_of_not_intact broken
  cases call with
  | addGnss args => exact absurd rfl (first.1 args)
  | setOption name value => exact absurd rfl (first.2 name value)
  | addBeacon call timestamp =>
    simp only [errno, apply, skyAddBeacon, EmbeddedClient.addBeacon, checked]
    exact ⟨rfl, rfl⟩
  | searchCache loc =>
    simp only [errno, apply, skySearchCache, checked]
    exact ⟨rfl, rfl⟩
  | ignoreCacheHit =>
    simp only [errno, apply, skyIgnoreCacheHit, checked]
    exact ⟨rfl, rfl⟩
  | sizeofRequestBuf random =>
    simp only [errno, apply, skySizeofRequestBuf, checked]
    exact ⟨rfl, rfl⟩
  | encodeRequest buf random =>
    simp only [errno, apply, skyEncodeRequest, checked]
    exact ⟨rfl, rfl⟩
  | decodeResponse resp loc now later =>
    simp only [errno, apply, skyDecodeResponse, checked]
    exact ⟨rfl, rfl⟩

/-- `sky_add_gnss` writes the age of the position before it checks the context, and no more. -/
theorem skyAddGnss_of_not_intact (broken : ¬ r.header.Intact) (args : GnssArgs) :
    ∃ age, (skyAddGnss r args).2 = { r with gnss := { r.gnss with age := age } } := by
  unfold skyAddGnss
  cases gnssAge r.header.time args.timestamp with
  | none => exact ⟨r.gnss.age, rfl⟩
  | some age =>
    have checked :=
      @validateRequestCtx_of_not_intact { r with gnss := { r.gnss with age := age } } broken
    dsimp only
    rw [checked]
    simp only [Bool.not_false, if_true]
    split_ifs <;> exact ⟨age, rfl⟩

/-- **Damaged headers are noticed**, at every point of every run. A session that has been opened
and is then damaged in its header is opened like a blank one, and takes in no response. A context
that is damaged in its header is turned away and left as it is, by every call that starts with the
check; a position only leaves its age in it. -/
theorem damage_noticed (env : Env) (cacheSize : ℕ) (calls : List Call) :
    let w := (World.start cacheSize).run env calls
    (w.sctx.header.magic ≠ 0 → ∀ header, w.sctx.header.Damaged header →
      let damaged := { w.sctx with header := header }
      let blank := SkySctx.zeroed cacheSize
      (∀ args, (skyOpen damaged args).1 = (skyOpen blank args).1 ∧
        ((skyOpen damaged args).1 = .none → (skyOpen damaged args).2 = (skyOpen blank args).2)) ∧
      ∀ r loc resp now later, let d := skyDecodeResponse env.cipherBits damaged r loc resp now later
        d.errno.turnedAway ∧ d.sctx = damaged ∧ d.rctx = (validateRequestCtx r).2) ∧
    ∀ id r, w.ctx id = some r → ∀ header, r.header.Damaged header →
      let damaged := { r with header := header }
      (∀ call : CtxCall, call.ChecksFirst →
        call.errno env w.sctx damaged = .badRequestCtx ∧
        call.apply env w.sctx damaged = (w.sctx, damaged)) ∧
      ∀ args, ∃ age, (skyAddGnss damaged args).2 =
        { damaged with gnss := { r.gnss with age := age } } := by
  intro w
  have intact := World.run_intact env cacheSize calls
  have size : w.sctx.cacheSize = cacheSize :=
    (World.run_whole env (World.start_whole cacheSize) calls).size
  constructor
  · intro magic header damage
    have broken : ¬ header.crc32 = header.checksum :=
      damage.not_intact (intact.sctx.resolve_left magic)
    have invalid : validateSessionCtx { w.sctx with header := header } = false := by
      unfold validateSessionCtx
      rw [decide_eq_false broken, Bool.and_false, Bool.false_and, Bool.false_and]
    have reopened := skyOpen_of_invalid invalid
    have sameSize : SkySctx.cacheSize { w.sctx with header := header } = cacheSize := size
    rw [sameSize] at reopened
    exact ⟨reopened, fun r loc resp now later => skyDecodeResponse_of_invalid invalid env.cipherBits
      loc resp now later⟩
  · intro id r member header damage
    have broken := damage.not_intact (intact.ctx id r member).2
    exact ⟨fun call first => CtxCall.turns_away first env broken, skyAddGnss_of_not_intact broken⟩

theorem SkyHeader.damaged_time {h : SkyHeader} (some : h.time ≠ 0) :
    h.Damaged { h with time := 0 } := by
  refine ⟨fun same => some (congrArg SkyHeader.time same).symm, .inl ?_⟩
  exact ⟨bitsOf h.magic.toBitVec ++ bitsOf h.size.toBitVec, bitsOf h.time.toBitVec, bitsOf 0#32,
    bitsOf h.crc32.toBitVec, rfl, rfl, by simp, by simp⟩

/-- A session that was left open, and a request context on it, with their times overwritten. The
session is opened as if it were blank, and a search turns the context away. -/
theorem sampleCalls_damage_noticed :
    let w := (World.start 1).run bareEnv sampleCalls
    ((skyOpen w.sctx bareOpen).1 = .alreadyOpen ∧
      (skyOpen { w.sctx with header := { w.sctx.header with time := 0 } } bareOpen).1 = .none) ∧
    ∃ r, w.ctx 0 = some r ∧
      let damaged := { r with header := { r.header with time := 0 } }
      (validateRequestCtx r).1 = true ∧
        (CtxCall.searchCache SkyLocation.zero).apply bareEnv w.sctx damaged =
          (w.sctx, damaged) := by
  intro w
  have noticed := damage_noticed bareEnv 1 sampleCalls
  have session := noticed.1 (by decide +kernel) _ (SkyHeader.damaged_time (by decide +kernel))
  have facts : (w.ctx 0).map (fun r => ((validateRequestCtx r).1, decide (r.header.time = 0))) =
      some (true, false) := by decide +kernel
  obtain ⟨r, member, eq⟩ := Option.map_eq_some_iff.1 facts
  rw [Prod.mk.injEq, decide_eq_false_iff_not] at eq
  have context := noticed.2 0 r member _ (SkyHeader.damaged_time eq.2)
  exact ⟨⟨by decide +kernel, (session.1 bareOpen).1.trans (by decide +kernel)⟩, r, member, eq.1,
    (context.1 (.searchCache SkyLocation.zero) (by simp [CtxCall.ChecksFirst])).2⟩

end EmbeddedClient
