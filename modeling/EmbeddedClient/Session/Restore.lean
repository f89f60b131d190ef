import EmbeddedClient.Beacons.Equality

/-!
# Restoring a session under other credentials

`sky_open` keeps a valid closed session when the credentials are those it was
saved under, and clears it otherwise. The SKU is compared over the length of the
new one only, and written back only when the new one is not empty. So a session
survives under a proper prefix of its SKU.
-/

namespace EmbeddedClient

theorem prefix_takeWhile_iff {α : Type*} (p : α → Bool) (t l : List α) :
    t <+: l.takeWhile p ↔ t <+: l ∧ ∀ x ∈ t, p x = true := by
  induction t generalizing l with
  | nil => simp
  | cons a t ih =>
    cases l with
    | nil => simp
    | cons b l =>
      by_cases hb : p b = true
      · simp only [List.takeWhile_cons_of_pos hb, List.cons_prefix_cons, ih, List.mem_cons,
          forall_eq_or_imp]
        constructor
        · rintro ⟨rfl, pre, rest⟩
          exact ⟨⟨rfl, pre⟩, hb, rest⟩
        · rintro ⟨⟨rfl, pre⟩, -, rest⟩
          exact ⟨rfl, pre, rest⟩
      · simp only [List.takeWhile_cons_of_neg hb, List.prefix_nil, reduceCtorEq,
          List.cons_prefix_cons, List.mem_cons, forall_eq_or_imp, false_iff]
        rintro ⟨⟨rfl, -⟩, ha, -⟩
        exact hb ha

namespace OpenArgs

variable (args : OpenArgs)

theorem skuText_length_le : args.skuText.length ≤ 32 := by
  simp [skuText]

theorem ne_zero_of_mem_skuText {c : UInt8} (mem : c ∈ args.skuText) : c ≠ 0 := by
  have := ((prefix_takeWhile_iff _ _ _).1 (List.take_prefix MAX_SKU_LEN _)).2 c mem
  simpa using this

end OpenArgs

theorem toList_skuField (text : List UInt8) (short : text.length ≤ 32) :
    (skuField text).toList = text ++ List.replicate (33 - text.length) 0 := by
  apply List.ext_getElem
  · simp [skuField]
    omega
  · intro i _ _
    by_cases inside : i < text.length
    · simp [skuField, List.getElem_append_left, inside]
    · simp [skuField, List.getElem_append_right (Nat.le_of_not_lt inside), inside]

theorem skuChars_skuField (text : List UInt8) (short : text.length ≤ 32)
    (nonzero : ∀ c ∈ text, c ≠ 0) : skuChars (skuField text) = text := by
  obtain ⟨n, hn⟩ : ∃ n, 33 - text.length = n + 1 := ⟨32 - text.length, by omega⟩
  rw [skuChars, toList_skuField text short, hn, List.takeWhile_append_of_pos
    (by simpa using nonzero)]
  simp [List.replicate_succ]

/-- The comparison of `sky_open` is a prefix test on the SKU. -/
theorem sameCredentials_iff (args : OpenArgs) (s : SkySctx) :
    args.sameCredentials s = true ↔
      args.skuText <+: skuChars s.sku ∧ args.partnerId = s.partnerId ∧
        args.aesKey = some s.aesKey := by
  have short := args.skuText_length_le
  have length : args.skuText.length = (s.sku.toList.take args.skuText.length).length := by
    simp
    omega
  have nonzero : ∀ c ∈ args.skuText, decide (c ≠ 0) = true := fun c mem => by
    simpa using args.ne_zero_of_mem_skuText mem
  rw [skuChars, prefix_takeWhile_iff, List.prefix_iff_eq_take]
  simp only [OpenArgs.sameCredentials, memcmp_eq_zero_iff length, Bool.and_eq_true,
    decide_eq_true_eq, and_assoc]
  constructor
  · rintro ⟨sku, rest⟩
    exact ⟨sku, fun c mem => args.ne_zero_of_mem_skuText mem, rest⟩
  · rintro ⟨sku, -, rest⟩
    exact ⟨sku, rest⟩

variable (s : SkySctx) (args : OpenArgs)

/-- No token, no backoff and no cached location. -/
def SkySctx.blank (s : SkySctx) : Prop :=
  s.tokenId = TBR_TOKEN_UNKNOWN ∧ s.backoff = .none ∧ ∀ cl ∈ s.cacheline, cl.time = CACHE_EMPTY

def OpenArgs.skuAfter (args : OpenArgs) (s : SkySctx) : List UInt8 :=
  if args.skuText = [] then skuChars s.sku else args.skuText

theorem skuChars_installArgs (deviceId : List UInt8) (aesKey : Vector UInt8 16) :
    skuChars (installArgs s args deviceId aesKey).sku = args.skuAfter s := by
  unfold installArgs OpenArgs.skuAfter
  by_cases empty : args.skuText = []
  · simp [empty]
  · have : args.skuText.length ≠ 0 := by simpa using empty
    simp only [this, ne_eq, not_false_eq_true, if_true, empty, if_false]
    exact skuChars_skuField _ args.skuText_length_le fun c mem => args.ne_zero_of_mem_skuText mem

theorem installArgs_blank_iff (deviceId : List UInt8) (aesKey : Vector UInt8 16) :
    (installArgs s args deviceId aesKey).blank ↔ s.blank := by
  unfold installArgs SkySctx.blank
  split_ifs <;> rfl

theorem initialized_blank (cacheSize : ℕ) (now : ℤ) :
    (SkySctx.initialized cacheSize now).blank := by
  refine ⟨rfl, rfl, fun cl mem => ?_⟩
  rw [List.eq_of_mem_replicate mem]
  rfl

theorem skuChars_initialized (cacheSize : ℕ) (now : ℤ) :
    skuChars (SkySctx.initialized cacheSize now).sku = [] := by
  simp [skuChars, SkySctx.initialized, List.replicate_succ]

def openedOn (s : SkySctx) (args : OpenArgs) (now : ℤ) : SkySctx :=
  configDefaults
    (if args.partnerId ≠ 0 ∧ args.sameCredentials s = false then
      SkySctx.initialized s.cacheSize now else s)

variable {s args}

theorem magic_of_validateSessionCtx (valid : validateSessionCtx s = true) :
    s.header.magic ≠ 0 := by
  simp only [validateSessionCtx, Bool.and_eq_true, decide_eq_true_eq] at valid
  rw [valid.1.1.1]
  decide

theorem checkRestored_valid (valid : validateSessionCtx s = true) (closed : s.openFlag = false) :
    checkRestored s args =
      some (if args.partnerId ≠ 0 ∧ args.sameCredentials s = false then
        { s with header := { s.header with magic := 0 } } else s) := by
  simp only [checkRestored, magic_of_validateSessionCtx valid, valid, closed, if_false,
    Bool.not_true, Bool.false_eq_true, Bool.not_eq_true']
  split_ifs <;> rfl

theorem skyOpen_restored (valid : validateSessionCtx s = true) (closed : s.openFlag = false)
    (success : (skyOpen s args).1 = .none) :
    ∃ now deviceId aesKey, args.aesKey = some aesKey ∧
      (skyOpen s args).2 = installArgs (openedOn s args now) args deviceId aesKey := by
  have magic := magic_of_validateSessionCtx valid
  unfold skyOpen at success ⊢
  rw [checkRestored_valid valid closed] at success ⊢
  cases time : args.gettime with
  | none => simp [time] at success
  | some now =>
    cases id : args.deviceId with
    | none => simp [time, id] at success
    | some deviceId =>
      cases key : args.aesKey with
      | none => simp [time, id, key] at success
      | some aesKey =>
        refine ⟨now, deviceId, aesKey, rfl, ?_⟩
        simp only [openedOn]
        split_ifs <;> simp_all [SkySctx.cacheSize]

/-- The SKU given now is a proper prefix of the stored one, and the other
credentials are the stored ones. -/
def OpenArgs.prefixOf (args : OpenArgs) (s : SkySctx) : Prop :=
  args.skuText <+: skuChars s.sku ∧ args.skuText ≠ skuChars s.sku ∧
    args.partnerId = s.partnerId ∧ args.aesKey = some s.aesKey

def OpenArgs.credentialsOf (args : OpenArgs) (s : SkySctx) : Prop :=
  args.skuText = skuChars s.sku ∧ args.partnerId = s.partnerId ∧ args.aesKey = some s.aesKey

/-- Isolation of credentials: the SKU stored is the one given, and other
credentials find no token, no backoff and no cached location. -/
def isolated (s : SkySctx) (args : OpenArgs) : Prop :=
  skuChars (skyOpen s args).2.sku = args.skuText ∧
    (¬ args.credentialsOf s → (skyOpen s args).2.blank)

theorem configDefaults_blank_iff : (configDefaults s).blank ↔ s.blank := Iff.rfl

theorem isolated_of_cleared {now : ℤ} {deviceId : List UInt8} {aesKey : Vector UInt8 16}
    (opened : (skyOpen s args).2 = installArgs (openedOn s args now) args deviceId aesKey)
    (cleared : args.partnerId ≠ 0 ∧ args.sameCredentials s = false) : isolated s args := by
  have base : openedOn s args now = configDefaults (SkySctx.initialized s.cacheSize now) := by
    rw [openedOn, if_pos cleared]
  refine ⟨?_, fun _ => ?_⟩
  · rw [opened, skuChars_installArgs, OpenArgs.skuAfter, base]
    split_ifs with empty
    · rw [empty]
      exact skuChars_initialized s.cacheSize now
    · rfl
  · rw [opened, installArgs_blank_iff, base, configDefaults_blank_iff]
    exact initialized_blank _ _

theorem isolated_iff_of_kept {now : ℤ} {deviceId : List UInt8} {aesKey : Vector UInt8 16}
    (opened : (skyOpen s args).2 = installArgs (openedOn s args now) args deviceId aesKey)
    (same : args.sameCredentials s = true) :
    isolated s args ↔ ¬ args.prefixOf s ∨ args.skuText ≠ [] ∧ s.blank := by
  obtain ⟨pre, partner, key⟩ := (sameCredentials_iff args s).1 same
  have base : openedOn s args now = configDefaults s := by
    rw [openedOn, if_neg (by simp [same])]
  have sku : skuChars (skyOpen s args).2.sku = args.skuAfter s := by
    rw [opened, skuChars_installArgs, base]
    rfl
  have blank : (skyOpen s args).2.blank ↔ s.blank := by
    rw [opened, installArgs_blank_iff, base, configDefaults_blank_iff]
  simp only [isolated, sku, blank, OpenArgs.skuAfter, OpenArgs.prefixOf, OpenArgs.credentialsOf,
    pre, partner, key, true_and, and_true, not_not]
  by_cases equal : args.skuText = skuChars s.sku
  · simp [equal]
  · by_cases empty : args.skuText = []
    · have stored : skuChars s.sku ≠ [] := fun h => equal (empty.trans h.symm)
      simp [empty, stored, Ne.symm stored]
    · simp [empty, equal]

/-- A successful `sky_open` with a partner on a valid closed session isolates
credentials exactly when the new SKU is not a proper prefix of the stored one
under the same partner and key, or is such a prefix, not empty, of a session
with nothing to leak. -/
theorem skyOpen_isolated_iff (s : SkySctx) (args : OpenArgs) (valid : validateSessionCtx s = true)
    (closed : s.openFlag = false) (partner : args.partnerId ≠ 0)
    (success : (skyOpen s args).1 = .none) :
    isolated s args ↔ ¬ args.prefixOf s ∨ args.skuText ≠ [] ∧ s.blank := by
  obtain ⟨now, deviceId, aesKey, -, opened⟩ := skyOpen_restored valid closed success
  cases same : args.sameCredentials s with
  | true => exact isolated_iff_of_kept opened same
  | false =>
    have notPrefix : ¬ args.prefixOf s := by
      rintro ⟨pre, -, rest⟩
      rw [(sameCredentials_iff args s).2 ⟨pre, rest⟩] at same
      contradiction
    exact iff_of_true (isolated_of_cleared opened ⟨partner, same⟩) (.inl notPrefix)

def savedSession : SkySctx :=
  { SkySctx.initialized 1 1600000000 with
    sku := skuField [97, 98, 99], tokenId := 7, partnerId := 1 }

def openWith (sku : List UInt8) : OpenArgs :=
  ⟨some [1, 2, 3, 4, 5, 6], 1, some (Vector.replicate 16 0), some sku, 0, 0, some 1600000100⟩

theorem skyOpen_isolated_other_sku : isolated savedSession (openWith [120]) :=
  (skyOpen_isolated_iff savedSession (openWith [120]) (by decide +kernel) rfl (by decide)
    (by decide +kernel)).2 (.inl fun ⟨pre, _⟩ => absurd pre (by decide))

/-- The SKU `ab` opens the session of `abc` and keeps its token. -/
theorem skyOpen_prefix_keeps_token :
    validateSessionCtx savedSession = true ∧ savedSession.openFlag = false ∧
      (openWith [97, 98]).partnerId ≠ 0 ∧ (skyOpen savedSession (openWith [97, 98])).1 = .none ∧
      ¬ (openWith [97, 98]).credentialsOf savedSession ∧
      (skyOpen savedSession (openWith [97, 98])).2.tokenId = 7 := by
  refine ⟨by decide +kernel, rfl, by decide, by decide +kernel, ?_, by decide +kernel⟩
  rintro ⟨sku, -⟩
  exact absurd sku (by decide)

end EmbeddedClient
