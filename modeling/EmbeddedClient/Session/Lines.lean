import EmbeddedClient.Session.Decode

/-!
# What holds of all cachelines

The calls empty a cacheline, clear it together with the session, or fill it with the list of a
request. What these keep holds of all lines of a session.
-/

namespace EmbeddedClient

variable {s s' : SkySctx} {r : SkyRctx} {good : SkyCacheline → Prop}

/-- It is kept when a line is emptied, and when it is filled with the list of the request. -/
structure KeptInCache (r : SkyRctx) (good : SkyCacheline → Prop) : Prop where
  untimed : ∀ cl cl' : SkyCacheline, cl'.untimed = cl.untimed → good cl → good cl'
  filled : ∀ cl cl' : SkyCacheline, good cl → cl'.numBeacons = r.numBeacons → cl'.numAp = r.numAp →
    cl'.beacon = r.live ++ cl.beacon.drop r.numBeacons → good cl'

theorem SkyCacheline.live_of_untimed {cl cl' : SkyCacheline} (same : cl'.untimed = cl.untimed) :
    cl'.live = cl.live ∧ cl'.numBeacons = cl.numBeacons ∧ cl'.numAp = cl.numAp := by
  simp only [SkyCacheline.untimed, SkyCacheline.mk.injEq] at same
  obtain ⟨numBeacons, numAp, -, beacon, -⟩ := same
  refine ⟨?_, numBeacons, numAp⟩
  rw [SkyCacheline.live, SkyCacheline.live, beacon, numBeacons]

theorem SkyCacheline.live_of_filled {cl cl' : SkyCacheline} (full : r.live.length = r.numBeacons)
    (numBeacons : cl'.numBeacons = r.numBeacons)
    (beacon : cl'.beacon = r.live ++ cl.beacon.drop r.numBeacons) : cl'.live = r.live := by
  rw [SkyCacheline.live, beacon, numBeacons, ← full, List.take_left]

theorem lines_of_sameSession (same : SameSession s s')
    (untimed : ∀ cl cl' : SkyCacheline, cl'.untimed = cl.untimed → good cl → good cl')
    (all : ∀ cl ∈ s.cacheline, good cl) : ∀ cl ∈ s'.cacheline, good cl := by
  intro cl' member
  have mapped : cl'.untimed ∈ s.cacheline.map SkyCacheline.untimed := by
    rw [← same.lines]
    exact List.mem_map_of_mem member
  obtain ⟨cl, memberS, eq⟩ := List.mem_map.1 mapped
  exact untimed cl cl' eq.symm (all cl memberS)

theorem registered_of_sameSession (same : SameSession s s')
    (plugins : s.openFlag = true → s.plugins = skyRegisterPlugins) (opened : s'.openFlag = true) :
    s'.plugins = skyRegisterPlugins := by
  rw [same.plugins]
  exact plugins (by rw [← same.openFlag, opened])

theorem lines_initialized (cleared : good SkyCacheline.cleared) (cacheSize : ℕ) (now : ℤ) :
    ∀ cl ∈ (SkySctx.initialized cacheSize now).cacheline, good cl := by
  intro cl member
  rw [List.eq_of_mem_replicate member]
  exact cleared

theorem lines_skyOpen (cleared : good SkyCacheline.cleared) (all : ∀ cl ∈ s.cacheline, good cl)
    (args : OpenArgs) : ∀ cl ∈ (skyOpen s args).2.cacheline, good cl := by
  rcases skyOpen_cases s args with ⟨magic, -, eq⟩ | ⟨base, isBase, eq⟩
  · rw [eq]
    exact all
  · have allBase : ∀ cl ∈ base.cacheline, good cl := by
      rcases isBase with ⟨rfl, -⟩ | ⟨now, rfl⟩
      · exact all
      · exact lines_initialized cleared _ now
    rcases eq with eq | ⟨deviceId, aesKey, eq⟩
    · rw [eq]
      exact allBase
    · rw [eq]
      unfold installArgs
      split_ifs <;> exact allBase

theorem registered_skyOpen (plugins : s.openFlag = true → s.plugins = skyRegisterPlugins)
    (args : OpenArgs) :
    (skyOpen s args).2.openFlag = true → (skyOpen s args).2.plugins = skyRegisterPlugins := by
  rcases skyOpen_cases s args with ⟨magic, -, eq⟩ | ⟨base, isBase, eq⟩
  · rw [eq]
    exact plugins
  · rcases eq with eq | ⟨deviceId, aesKey, eq⟩
    · rw [eq]
      rcases isBase with ⟨rfl, -⟩ | ⟨now, rfl⟩
      · exact plugins
      · intro opened
        simp [configDefaults, SkySctx.initialized] at opened
    · rw [eq]
      unfold installArgs
      split_ifs <;> exact fun _ => rfl

theorem lines_skyClose (all : ∀ cl ∈ s.cacheline, good cl) :
    ∀ cl ∈ (skyClose s).2.cacheline, good cl := by
  unfold skyClose
  split_ifs <;> exact all

theorem registered_skyClose (plugins : s.openFlag = true → s.plugins = skyRegisterPlugins) :
    (skyClose s).2.openFlag = true → (skyClose s).2.plugins = skyRegisterPlugins := by
  unfold skyClose
  split_ifs
  · exact plugins
  · intro opened
    simp at opened

theorem line_of_lines (cleared : good SkyCacheline.cleared)
    (all : ∀ cl ∈ s.cacheline, good cl) (i : ℤ) :
    good (s.line i) := by
  unfold SkySctx.line
  split_ifs
  · by_cases inside : i.toNat < s.cacheline.length
    · simpa [inside] using all _ (List.getElem_mem inside)
    · simpa [inside] using cleared
  · exact cleared

theorem lines_modify {lines : List SkyCacheline} (all : ∀ cl ∈ lines, good cl) (i : ℕ)
    {f : SkyCacheline → SkyCacheline} (keeps : ∀ cl, good cl → good (f cl)) :
    ∀ cl ∈ lines.modify i f, good cl := by
  intro cl member
  obtain ⟨j, range, rfl⟩ := List.getElem_of_mem member
  rw [List.getElem_modify]
  split_ifs
  · exact keeps _ (all _ (List.getElem_mem _))
  · exact all _ (List.getElem_mem _)

theorem lines_toCache (kept : KeptInCache r good) (all : ∀ cl ∈ s.cacheline, good cl)
    (loc : SkyLocation) :
    ∀ cl ∈ (ApPlugin.toCache s r loc).2.cacheline, good cl := by
  unfold ApPlugin.toCache
  dsimp only
  by_cases early : loc.time ≤ TIMESTAMP_2019_03_01
  · rw [if_pos early]
    exact all
  · rw [if_neg early]
    by_cases failed : loc.locationStatus ≠ .success
    · rw [if_pos failed]
      exact lines_modify all _ fun cl goodLine => kept.untimed cl _ rfl goodLine
    · rw [if_neg failed]
      exact lines_modify all _ fun cl goodLine => kept.filled cl _ goodLine rfl rfl rfl

theorem lines_addToCache (kept : KeptInCache r good) (all : ∀ cl ∈ s.cacheline, good cl)
    (plugins : List SkyPluginTable) (loc : SkyLocation) :
    ∀ cl ∈ (skyPluginAddToCache plugins s r loc).2.cacheline, good cl := by
  apply skyPluginAddToCache_induction (fun s => ∀ cl ∈ s.cacheline, good cl) _ plugins all
  exact fun s all => lines_toCache kept all loc

theorem lines_reportLocation (kept : KeptInCache r good) (all : ∀ cl ∈ s.cacheline, good cl)
    (loc : SkyLocation) (now : ℤ) :
    ∀ cl ∈ (reportLocation s r loc now).sctx.cacheline, good cl := by
  unfold reportLocation
  cases loc.locationStatus with
  | success => exact lines_addToCache kept (by exact all) s.plugins _
  | authError => cases r.authState <;> exact all
  | _ => exact all

theorem registered_addToCache (plugins : List SkyPluginTable) (s : SkySctx) (r : SkyRctx)
    (loc : SkyLocation) :
    (skyPluginAddToCache plugins s r loc).2.openFlag = s.openFlag ∧
      (skyPluginAddToCache plugins s r loc).2.plugins = s.plugins := by
  obtain ⟨cacheline, stored⟩ := skyPluginAddToCache_sctx plugins s r loc
  rw [stored]
  exact ⟨rfl, rfl⟩

theorem registered_reportLocation (plugins : s.openFlag = true → s.plugins = skyRegisterPlugins)
    (loc : SkyLocation) (now : ℤ) : (reportLocation s r loc now).sctx.openFlag = true →
      (reportLocation s r loc now).sctx.plugins = skyRegisterPlugins := by
  unfold reportLocation
  cases loc.locationStatus with
  | success =>
    obtain ⟨openFlag, same⟩ := registered_addToCache s.plugins { s with backoff := .none } r
      { loc with time := now, locationStatus := .success }
    exact fun opened => same.trans (plugins (openFlag.symm.trans opened))
  | authError => cases r.authState <;> exact plugins
  | _ => exact plugins

end EmbeddedClient
