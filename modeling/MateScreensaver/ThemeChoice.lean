import MateScreensaver.SettingsStore
import MateScreensaver.ThemeJobs

/-!
The choice of a theme (mate-screensaver-preferences.c): what it writes to the settings, how it is
read back, and what the daemon makes of it.
-/

namespace MateScreensaver
open Runs System Scan

def blankOnlyId : Text := "__blank-only".toList
def randomId : Text := "__random".toList

/- g_strsplit of a string on "%%%", into one piece at most. -/
def gStrsplitOnce (string : Text) : List Text := if string = [] then [] else [string]

/- mate-screensaver-preferences.c:216 -/
def getAllThemeIds (tm : ThemeManager) : List Text := tm.getInfoList.map GSThemeInfo.fileId

/- mate-screensaver-preferences.c:238, the two values. -/
def themeSettings (tm : ThemeManager) (themeId : Text) : GSSaverMode × List Text :=
  if themeId = blankOnlyId then (.blankOnly, [])
  else if themeId = randomId then (.random, getAllThemeIds tm)
  else (.single, gStrsplitOnce themeId)

/- g_settings_set_enum and its like: a key that cannot be written stays as it is. -/
def gSettingsSet (isWritable : String → Bool) (key : String) (value : Setting) : List PrefsEvent :=
  if isWritable key then [.change .screensaver key value] else []

/- mate-screensaver-preferences.c:238, one key after the other, and what comes between the two. -/
def configSetTheme (isWritable : String → Bool) (between : List PrefsEvent) (tm : ThemeManager) (themeId : Text) :
    List PrefsEvent :=
  gSettingsSet isWritable "mode" (.enum (themeSettings tm themeId).1) ++ between ++
    gSettingsSet isWritable "themes" (.strv ((themeSettings tm themeId).2.map String.ofList))

/- mate-screensaver-preferences.c:170; the name is NULL where there is no theme. -/
def configGetTheme (st : Store) : Option Text :=
  match (st .screensaver "mode").getEnum with
  | .blankOnly => some blankOnlyId
  | .random => some randomId
  | .single => (st .screensaver "themes").getStrv.head?.map String.toList

/- A row of the list of themes that can be chosen (mate-screensaver-preferences.c:471). -/
inductive ThemeRow
  | blankOnly
  | random
  | theme (info : GSThemeInfo)

namespace ThemeRow

def id : ThemeRow → Text
  | blankOnly => blankOnlyId
  | random => randomId
  | theme info => info.fileId

/- The themes of the rows are those of the theme manager, and none has the id of another row. -/
def Of (tm : ThemeManager) : ThemeRow → Prop
  | theme info => info ∈ tm.getInfoList ∧ info.fileId ≠ [] ∧ info.fileId ≠ blankOnlyId ∧ info.fileId ≠ randomId
  | _ => True

end ThemeRow

/- Nothing is written under the two keys. -/
def PrefsEvent.SparesTheme (e : PrefsEvent) : Prop :=
  ∀ key value, e = .change .screensaver key value → key ≠ "mode" ∧ key ≠ "themes"

/- The command of a theme, or none where it is not taken. -/
def ThemeManager.commandOf (tm : ThemeManager) (info : GSThemeInfo) : Option String :=
  (tm.getExec info).join.map String.ofList

/- What a job is given when the row is chosen; `draw` is for the random choice. -/
def ThemeRow.command (tm : ThemeManager) (draw : ℕ) : ThemeRow → Option String
  | blankOnly => none
  | random => (tm.getInfoList[draw % tm.getInfoList.length]?).bind tm.commandOf
  | theme info => tm.commandOf info

/-! ### The settings -/

namespace Preferences

variable {x y : Preferences} {e : PrefsEvent} {tm : ThemeManager} {themeId : Text} {isWritable : String → Bool}

theorem store_change {schema : Schema} {key : String} {value : Setting} (h : x.next (.change schema key value) = some y) :
    y.store = fun s k => if s = schema ∧ k = key then value else x.store s k := by
  rw [next] at h
  split at h
  · cases h
    rfl
  · cases h

theorem store_spared (hspares : e.SparesTheme) (h : x.next e = some y) :
    y.store .screensaver "mode" = x.store .screensaver "mode" ∧
      y.store .screensaver "themes" = x.store .screensaver "themes" := by
  cases e with
  | change schema key value =>
    have hkey : schema = .screensaver → key ≠ "mode" ∧ key ≠ "themes" := by
      intro hschema
      subst hschema
      exact hspares key value rfl
    have hother : ∀ k, (k = "mode" ∨ k = "themes") → ¬ (Schema.screensaver = schema ∧ k = key) := by
      intro k hk hboth
      obtain ⟨hmode, hthemes⟩ := hkey hboth.1.symm
      rcases hk with hk | hk
      · exact hmode (hboth.2.symm.trans hk)
      · exact hthemes (hboth.2.symm.trans hk)
    rw [store_change h]
    exact ⟨if_neg (hother _ (.inl rfl)), if_neg (hother _ (.inr rfl))⟩
  | deliver i =>
    obtain ⟨c, -, rfl⟩ := Option.map_eq_some_iff.1 h
    exact ⟨rfl, rfl⟩

theorem store_later {later : List PrefsEvent} (hspares : ∀ e ∈ later, e.SparesTheme) (h : system.run x later = some y) :
    y.store .screensaver "mode" = x.store .screensaver "mode" ∧
      y.store .screensaver "themes" = x.store .screensaver "themes" := by
  apply run_keeps (S := system) (C := fun e => e.SparesTheme)
    (I := fun z => z.store .screensaver "mode" = x.store .screensaver "mode" ∧
      z.store .screensaver "themes" = x.store .screensaver "themes") _ ⟨rfl, rfl⟩ h hspares
  intro z e z' hz hn he
  obtain ⟨hmode, hthemes⟩ := store_spared he hn
  exact ⟨hmode.trans hz.1, hthemes.trans hz.2⟩

/- What has been chosen stays under the keys, if they can be written. -/
theorem store_chosen {between later : List PrefsEvent} (hmodeWritable : isWritable "mode" = true)
    (hthemesWritable : isWritable "themes" = true) (hbetween : ∀ e ∈ between, e.SparesTheme)
    (hlater : ∀ e ∈ later, e.SparesTheme)
    (h : system.run x (configSetTheme isWritable between tm themeId ++ later) = some y) :
    y.store .screensaver "mode" = .enum (themeSettings tm themeId).1 ∧
      y.store .screensaver "themes" = .strv ((themeSettings tm themeId).2.map String.ofList) := by
  rw [configSetTheme, gSettingsSet, gSettingsSet, if_pos hmodeWritable, if_pos hthemesWritable, List.append_assoc,
    List.append_assoc, List.cons_append, List.nil_append, List.cons_append, List.nil_append] at h
  obtain ⟨u, hu, h⟩ := Option.bind_eq_some_iff.1 h
  rw [run_append] at h
  obtain ⟨v, hv, h⟩ := Option.bind_eq_some_iff.1 h
  obtain ⟨w, hw, h⟩ := Option.bind_eq_some_iff.1 h
  have hu' : x.next (.change .screensaver "mode" (.enum (themeSettings tm themeId).1)) = some u := hu
  have hw' : v.next (.change .screensaver "themes" (.strv ((themeSettings tm themeId).2.map String.ofList))) = some w :=
    hw
  have hwritten : w.store .screensaver "mode" = v.store .screensaver "mode" := by
    rw [store_change hw']
    exact if_neg (by decide)
  obtain ⟨hmode, hthemes⟩ := store_later hlater h
  rw [hmode, hthemes, hwritten, (store_later hbetween hv).1, store_change hw', store_change hu']
  exact ⟨rfl, rfl⟩

/- Without a signal on its way the two fields are what is stored. -/
theorem prefs_stored (hreach : system.Reachable x) (hdone : x.pending = []) :
    x.prefs.mode = (x.store .screensaver "mode").getEnum ∧ x.prefs.themes = (x.store .screensaver "themes").getStrv := by
  have hx := coherent_invariant.reachable hreach
  have hnone : ∀ k, ∀ c ∈ x.pending, PrefKey.ofName c.2 ≠ some k := by
    intro k c hc
    rw [hdone] at hc
    cases hc
  have hmode := hx.fields .mode (hnone .mode)
  have hthemes := hx.fields .themes (hnone .themes)
  exact ⟨Setting.enum.inj hmode, Setting.strv.inj hthemes⟩

end Preferences

/-! ### The job -/

variable {tm : ThemeManager} {env : SaverEnv} {m : GSManager} {row : ThemeRow} {info : GSThemeInfo}

/- A theme of the list is started with its own command. -/
theorem themeExec_listed (hparses : tm.Parses) (hanswers : tm.Answers env)
    (hnodup : (tm.entries.map MenuEntry.desktopFileId).Nodup)
    (hsuffix : ∀ e ∈ tm.entries, ∃ base, e.desktopFileId = base ++ desktopSuffix)
    (h : info ∈ tm.getInfoList) : (env.themeExec (String.ofList info.fileId)).join = tm.commandOf info := by
  obtain ⟨r, hr⟩ := ThemeManager.themeExec_some hparses (String.ofList info.fileId)
  rw [hanswers _ r hr]
  rw [ThemeManager.themeExec, String.toList_ofList, ThemeManager.lookup_listed hnodup hsuffix h] at hr
  obtain ⟨exec, hexec, rfl⟩ := Option.map_eq_some_iff.1 hr
  rw [ThemeManager.commandOf, hexec]
  rfl

theorem updateFromPrefs_theme (env : Env) (s : Screensaver) :
    (s.updateFromPrefs env).saver.manager.saverMode = s.prefs.mode ∧
      (s.updateFromPrefs env).saver.manager.themes = s.prefs.themes := by
  obtain ⟨message, hmessage⟩ := Screensaver.updateFromPrefs_saver env s
  obtain ⟨hrecords, -, -⟩ := Saver.modifyWindow_foldl (fun win => { win with statusMessage := message }) (fun _ => rfl)
    (Screensaver.managerSettings env s.prefs (s.locksHanded env)).manager.windows
    ((Screensaver.managerSettings env s.prefs (s.locksHanded env)).modifyManager fun m => { m with statusMessage := message })
  have hmanager : (s.updateFromPrefs env).saver.manager =
      { (Screensaver.managerSettings env s.prefs (s.locksHanded env)).manager with statusMessage := message } := by
    rw [hmessage]
    exact hrecords.manager
  rw [hmanager]
  exact ⟨rfl, rfl⟩

/- What the row puts under the two keys. -/
def ThemeRow.settings (tm : ThemeManager) : ThemeRow → GSSaverMode × List Text
  | blankOnly => (.blankOnly, [])
  | random => (.random, getAllThemeIds tm)
  | theme info => (.single, [info.fileId])

theorem themeSettings_row (h : row.Of tm) : themeSettings tm row.id = row.settings tm := by
  cases row with
  | blankOnly => rfl
  | random =>
    have hne : randomId ≠ blankOnlyId := by decide
    rw [themeSettings, ThemeRow.id, if_neg hne, if_pos rfl]
    rfl
  | theme info =>
    obtain ⟨-, hne, hblank, hrandom⟩ := h
    rw [themeSettings, ThemeRow.id, if_neg hblank, if_neg hrandom, gStrsplitOnce, if_neg hne]
    rfl

/- What a job is given under these settings. -/
theorem command_row (hown : ∀ info ∈ tm.getInfoList, (env.themeExec (String.ofList info.fileId)).join = tm.commandOf info)
    (hrow : row.Of tm) (hmode : m.saverMode = (row.settings tm).1)
    (hthemes : m.themes = (row.settings tm).2.map String.ofList) (job : GSJob) :
    (Saver.managerSelectThemeForJob env m job).command = row.command tm env.randomInt := by
  rw [Saver.managerSelectThemeForJob, Saver.selectTheme, hmode, hthemes]
  cases row with
  | blankOnly => rfl
  | random =>
    have hlist : (ThemeRow.random.settings tm).2.map String.ofList =
        tm.getInfoList.map fun info => String.ofList info.fileId := List.map_map
    rw [hlist, List.length_map]
    change (((tm.getInfoList.map fun info => String.ofList info.fileId)[env.randomInt % tm.getInfoList.length]?).bind
      fun theme => (env.themeExec theme).join) = _
    rw [List.getElem?_map, ThemeRow.command]
    cases hdraw : tm.getInfoList[env.randomInt % tm.getInfoList.length]? with
    | none => rfl
    | some info => exact hown info (List.mem_of_getElem? hdraw)
  | theme info => exact hown info hrow.1

/-- Whatever the settings were and in whatever order signals come and other keys change between the
two writes and after them, when a row is chosen and the two keys can be written: the row is the one that
is read back, and once all signals are delivered the daemon gives its jobs nothing for a blank screen,
the command of a theme that was listed for a random one, and otherwise the theme's own command, if it is
taken. -/
theorem choice_started {isWritable : String → Bool} (hmodeWritable : isWritable "mode" = true)
    (hthemesWritable : isWritable "themes" = true) (hparses : tm.Parses)
    (hnodup : (tm.entries.map MenuEntry.desktopFileId).Nodup)
    (hsuffix : ∀ e ∈ tm.entries, ∃ base, e.desktopFileId = base ++ desktopSuffix) (hrow : row.Of tm)
    {x y : Preferences} (hreach : Preferences.system.Reachable x) {between later : List PrefsEvent}
    (hbetween : ∀ e ∈ between, e.SparesTheme) (hlater : ∀ e ∈ later, e.SparesTheme)
    (hrun : Preferences.system.run x (configSetTheme isWritable between tm row.id ++ later) = some y) :
    configGetTheme y.store = some row.id ∧
      (y.pending = [] → ∀ (env₀ : Env) (env : SaverEnv) (s : Screensaver) (job : GSJob), s.prefs = y.prefs → tm.Answers env →
        (Saver.managerSelectThemeForJob env (s.updateFromPrefs env₀).saver.manager job).command =
          row.command tm env.randomInt) := by
  obtain ⟨hmode, hthemes⟩ := Preferences.store_chosen hmodeWritable hthemesWritable hbetween hlater hrun
  rw [themeSettings_row hrow] at hmode hthemes
  constructor
  · rw [configGetTheme, hmode, hthemes]
    cases row with
    | blankOnly => rfl
    | random => rfl
    | theme info => exact congrArg some String.toList_ofList
  · intro hdone env₀ env s job hprefs hanswers
    obtain ⟨hmode', hthemes'⟩ := Preferences.prefs_stored (reachable_run hreach hrun) hdone
    obtain ⟨hm, ht⟩ := updateFromPrefs_theme env₀ s
    rw [hprefs, hmode', hmode] at hm
    rw [hprefs, hthemes', hthemes] at ht
    apply command_row _ hrow hm ht
    intro info hlisted
    exact themeExec_listed hparses hanswers hnodup hsuffix hlisted

def slidesRow : ThemeRow := .theme ⟨"Slides".toList, some "slides --root".toList, "slides".toList⟩

/- The daemon hears of the mode before the themes are written, and another key changes; then the signals
do not come in the order of the changes. -/
def slidesBetween : List PrefsEvent := [.deliver 0, .change .screensaver "cycle-delay" (.int 3)]
def slidesChosen : List PrefsEvent := [.deliver 1, .change .screensaver "lock-delay" (.int 5), .deliver 0, .deliver 0]

theorem choice_started_slides : ∃ y, Preferences.system.run Preferences.blankStore
      (configSetTheme (fun _ => true) slidesBetween Screensaver.slidesMenu slidesRow.id ++ slidesChosen) = some y ∧
    configGetTheme y.store = some "slides".toList ∧
    ∀ (s : Screensaver) (job : GSJob), s.prefs = y.prefs →
      (Saver.managerSelectThemeForJob Screensaver.approving.toSaverEnv
        (s.updateFromPrefs Screensaver.approving).saver.manager job).command = some "slides --root" := by
  have hentries : Screensaver.slidesMenu.entries =
      [⟨"Slides".toList, "slides.desktop".toList, some "slides --root".toList⟩] := rfl
  have hparses : Screensaver.slidesMenu.Parses := by
    intro e he exec hexec
    rw [hentries] at he
    cases List.mem_singleton.1 he
    cases hexec
    exact ⟨["slides".toList, "--root".toList], by decide⟩
  have hanswers : Screensaver.slidesMenu.Answers Screensaver.approving.toSaverEnv := by
    intro theme r hr
    change (Screensaver.slidesMenu.themeExec theme).getD none = r
    rw [hr]
    rfl
  have hnodup : (Screensaver.slidesMenu.entries.map MenuEntry.desktopFileId).Nodup := by
    rw [hentries]
    exact List.nodup_singleton _
  have hsuffix : ∀ e ∈ Screensaver.slidesMenu.entries, ∃ base, e.desktopFileId = base ++ desktopSuffix := by
    intro e he
    rw [hentries] at he
    cases List.mem_singleton.1 he
    exact ⟨"slides".toList, rfl⟩
  have hrow : slidesRow.Of Screensaver.slidesMenu := by
    refine ⟨?_, by decide, by decide, by decide⟩
    rw [ThemeManager.getInfoList_eq, hentries]
    decide
  have hbetween : ∀ e ∈ slidesBetween, e.SparesTheme := by
    intro e he key value heq
    subst heq
    simp only [slidesBetween, List.mem_cons, PrefsEvent.change.injEq, List.not_mem_nil, or_false, reduceCtorEq,
      false_or] at he
    obtain ⟨-, rfl, -⟩ := he
    decide
  have hlater : ∀ e ∈ slidesChosen, e.SparesTheme := by
    intro e he key value heq
    subst heq
    simp only [slidesChosen, List.mem_cons, PrefsEvent.change.injEq, List.not_mem_nil, or_false, reduceCtorEq,
      false_or] at he
    obtain ⟨-, rfl, -⟩ := he
    decide
  have hrun : ∃ y, Preferences.system.run Preferences.blankStore
      (configSetTheme (fun _ => true) slidesBetween Screensaver.slidesMenu slidesRow.id ++ slidesChosen) = some y ∧
        y.pending = [] := ⟨_, rfl, rfl⟩
  obtain ⟨y, hy, hdone⟩ := hrun
  obtain ⟨hread, hjobs⟩ := choice_started (by rfl) (by rfl) hparses hnodup hsuffix hrow (.start ⟨rfl, rfl⟩)
    hbetween hlater hy
  refine ⟨y, hy, hread, fun s job hprefs => ?_⟩
  rw [hjobs hdone _ _ s job hprefs hanswers]
  decide

end MateScreensaver
