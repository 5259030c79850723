import MateScreensaver.Lib.CString
import MateScreensaver.Lib.Shell
import MateScreensaver.State

/-!
The themes (gs-theme-manager.c): their ids, which of their commands are taken, and which file is
then started under the name.
-/

namespace MateScreensaver
open Scan

/- What configure puts into the list of directories. -/
structure EngineConfig where
  saverdir : Text
  xscreensaverHackDir : Option Text
  libexecdir : Text
  clean : ∀ dir ∈ saverdir :: xscreensaverHackDir.toList ++ [libexecdir],
    dir ≠ [] ∧ ':' ∉ dir ∧ dir.getLast? ≠ some '/'

/- gs-theme-manager.c:57 -/
def EngineConfig.knownEngineLocations (c : EngineConfig) : List Text :=
  c.saverdir :: c.xscreensaverHackDir.toList ++
    [c.libexecdir ++ "/xscreensaver".toList, "/usr/libexec/xscreensaver".toList, "/usr/lib/xscreensaver".toList]

/- What g_file_test tells: `executable` is for files that are no directories. -/
structure Files where
  executable : Text → Bool
  isDir : Text → Bool
  executable_file : ∀ path, executable path = true → isDir path = false
  executable_in : ∀ dir name, dir ≠ [] → executable (dir ++ '/' :: name) = true → isDir dir = true

/- A file system with the given programs and the directories they are in. -/
def Files.ofList (files : List Text) (h : ∀ f ∈ files, ∀ g ∈ files, ¬ f ++ ['/'] <+: g) : Files where
  executable path := path ∈ files
  isDir path := ∃ f ∈ files, path ++ ['/'] <+: f
  executable_file path hpath := by
    have hfile : path ∈ files := of_decide_eq_true hpath
    exact decide_eq_false fun ⟨g, hg, hpre⟩ => h path hfile g hg hpre
  executable_in dir name _ hpath := by
    have hfile : dir ++ '/' :: name ∈ files := of_decide_eq_true hpath
    exact decide_eq_true ⟨_, hfile, name, by rw [List.append_assoc, List.singleton_append]⟩

/- g_path_get_dirname -/
def gPathGetDirname (path : Text) : Text :=
  match path.reverse.dropWhile (· ≠ '/') with
  | [] => ['.']
  | dir => if dir.dropWhile (· = '/') = [] then ['/'] else (dir.dropWhile (· = '/')).reverse

/- g_build_filename of a directory and a name that does not begin with a separator. -/
def gBuildFilename (dir name : Text) : Text := if name = [] then dir else dir ++ '/' :: name

/- gs-theme-manager.c:69 -/
def findCommand (c : EngineConfig) (fs : Files) (command : Text) : Option Text :=
  if command.head? = some '/' then
    (c.knownEngineLocations.find? fun location => gPathGetDirname command = location && fs.executable command).map fun _ =>
      command
  else
    (c.knownEngineLocations.map (gBuildFilename · command)).find? fs.executable

/- gs-theme-manager.c:117; none when argv was not set. -/
def checkCommand (c : EngineConfig) (fs : Files) (command : Text) : Option Bool :=
  match Shell.parseArgv command with
  | .ok (program :: _) => some (findCommand c fs program).isSome
  | _ => none

/- gs-theme-manager.c:138, with the PATH as it is before and afterwards. -/
def addKnownEngineLocationsToPath (c : EngineConfig) (fs : Files) (path : Option Text) : Text :=
  path.getD [] ++ c.knownEngineLocations.flatMap fun location => if fs.isDir location then ':' :: location else []

/- The program in a component of PATH; an empty one is the working directory. -/
def pathFile (program dir : Text) : Text := if dir = [] then program else dir ++ '/' :: program

/- What G_SPAWN_SEARCH_PATH starts. -/
def spawnSearchPath (fs : Files) (path program : Text) : Option Text :=
  if program = [] then none
  else if '/' ∈ program then if fs.executable program then some program else none
  else ((path.splitOn ':').map (pathFile program)).find? fs.executable

structure MenuEntry where
  name : Text
  desktopFileId : Text
  commandline : Option Text
deriving DecidableEq

/- The root directory of mate-screensavers.menu has entries and other items. -/
inductive MenuItem
  | entry (e : MenuEntry)
  | other

/- gs-theme-manager.c:41, without the count of references. -/
structure GSThemeInfo where
  name : Text
  exec : Option Text
  fileId : Text
deriving DecidableEq

def desktopSuffix : Text := ".desktop".toList

/- g_strrstr, from a position back to the start. -/
def gStrrstrFrom (haystack needle : Text) : ℕ → Option ℕ
  | 0 => if needle.isPrefixOf haystack then some 0 else none
  | p + 1 => if needle.isPrefixOf (haystack.drop (p + 1)) then some (p + 1) else gStrrstrFrom haystack needle p

def gStrrstr (haystack needle : Text) : Option ℕ :=
  if haystack.length < needle.length then none else gStrrstrFrom haystack needle (haystack.length - needle.length)

/- gs-theme-manager.c:233 -/
def gsThemeInfoNewFromMatemenuTreeEntry (e : MenuEntry) : GSThemeInfo where
  name := e.name
  exec := e.commandline
  fileId :=
    match gStrrstr e.desktopFileId desktopSuffix with
    | some pos => e.desktopFileId.take pos
    | none => e.desktopFileId

/- The theme manager with its menu, which may not be loaded, and the files around it. -/
structure ThemeManager where
  config : EngineConfig
  files : Files
  menu : Option (List MenuItem)

def MenuItem.entry? : MenuItem → Option MenuEntry
  | entry e => some e
  | other => none

namespace ThemeManager

def entries (tm : ThemeManager) : List MenuEntry := (tm.menu.getD []).filterMap MenuItem.entry?

/- gs-theme-manager.c:262 -/
def findInfoForId (tm : ThemeManager) (id : Text) : Option GSThemeInfo :=
  (tm.entries.find? fun e => e.desktopFileId = id).map gsThemeInfoNewFromMatemenuTreeEntry

/- gs-theme-manager.c:298 -/
def lookupThemeInfo (tm : ThemeManager) (name : Text) : Option GSThemeInfo := tm.findInfoForId (name ++ desktopSuffix)

/- gs-theme-manager.c:318: prepended one by one, and reversed. -/
def getInfoList (tm : ThemeManager) : List GSThemeInfo :=
  (tm.entries.foldl (fun list e => gsThemeInfoNewFromMatemenuTreeEntry e :: list) []).reverse

/- gs-theme-manager.c:213 -/
def getExec (tm : ThemeManager) (info : GSThemeInfo) : Option (Option Text) :=
  match info.exec with
  | none => some none
  | some exec => (checkCommand tm.config tm.files exec).map fun ok => if ok then some exec else none

/- What the manager of the windows gets for a theme (gs-manager.c:257). -/
def themeExec (tm : ThemeManager) (theme : String) : Option (Option (Option String)) :=
  match tm.lookupThemeInfo theme.toList with
  | none => some none
  | some info => (tm.getExec info).map fun exec => some (exec.map String.ofList)

/- The daemon asks this theme manager, as far as what it gets is defined. -/
def Answers (tm : ThemeManager) (env : SaverEnv) : Prop := ∀ theme r, tm.themeExec theme = some r → env.themeExec theme = r

/- GLib loads no desktop file whose command line cannot be parsed. -/
def Parses (tm : ThemeManager) : Prop :=
  ∀ e ∈ tm.entries, ∀ exec, e.commandline = some exec → ∃ argv, Shell.parseArgv exec = .ok argv

/-! ### Ids -/

variable {tm : ThemeManager} {e : MenuEntry} {base name : Text} {info : GSThemeInfo}

theorem gStrrstr_append (base needle : Text) : gStrrstr (base ++ needle) needle = some base.length := by
  have hle : ¬ (base ++ needle).length < needle.length := by
    rw [List.length_append]
    omega
  have hstart : (base ++ needle).length - needle.length = base.length := by
    rw [List.length_append]
    omega
  have hpre : needle.isPrefixOf ((base ++ needle).drop base.length) = true := by
    rw [List.drop_left]
    exact List.isPrefixOf_iff_prefix.2 List.prefix_rfl
  rw [gStrrstr, if_neg hle, hstart]
  cases hbase : base.length with
  | zero =>
    rw [hbase] at hpre
    exact if_pos hpre
  | succ n =>
    rw [hbase] at hpre
    exact if_pos hpre

/- Only the last suffix is taken off. -/
theorem fileId_of_suffix (h : e.desktopFileId = base ++ desktopSuffix) :
    (gsThemeInfoNewFromMatemenuTreeEntry e).fileId = base := by
  rw [gsThemeInfoNewFromMatemenuTreeEntry, h, gStrrstr_append]
  exact List.take_left

theorem foldl_cons_reverse {α β : Type*} (f : α → β) (l : List α) (acc : List β) :
    (l.foldl (fun list a => f a :: list) acc).reverse = acc.reverse ++ l.map f := by
  induction l generalizing acc with
  | nil => rw [List.foldl_nil, List.map_nil, List.append_nil]
  | cons a l ih => rw [List.foldl_cons, ih, List.reverse_cons, List.append_assoc, List.map_cons, List.singleton_append]

/- The list has the entries in the order of the menu. -/
theorem getInfoList_eq (tm : ThemeManager) : tm.getInfoList = tm.entries.map gsThemeInfoNewFromMatemenuTreeEntry := by
  rw [getInfoList, foldl_cons_reverse]
  rfl

theorem find?_of_nodup {α β : Type*} [DecidableEq β] {f : α → β} {l : List α} (h : (l.map f).Nodup) {a : α} (ha : a ∈ l) :
    l.find? (fun b => f b = f a) = some a := by
  induction l with
  | nil => cases ha
  | cons b l ih =>
    rw [List.map_cons, List.nodup_cons] at h
    cases List.mem_cons.1 ha with
    | inl heq =>
      subst heq
      exact List.find?_cons_of_pos (decide_eq_true rfl)
    | inr hmem =>
      have hne : ¬ f b = f a := fun heq => h.1 (heq ▸ List.mem_map_of_mem hmem)
      rw [List.find?_cons_of_neg (by simpa using hne)]
      exact ih h.2 hmem

/- A theme of the list is found under its id. -/
theorem lookup_listed (hnodup : (tm.entries.map MenuEntry.desktopFileId).Nodup)
    (hsuffix : ∀ e ∈ tm.entries, ∃ base, e.desktopFileId = base ++ desktopSuffix) (h : info ∈ tm.getInfoList) :
    tm.lookupThemeInfo info.fileId = some info := by
  rw [getInfoList_eq] at h
  obtain ⟨e, he, rfl⟩ := List.mem_map.1 h
  obtain ⟨base, hbase⟩ := hsuffix e he
  rw [lookupThemeInfo, findInfoForId, fileId_of_suffix hbase, ← hbase, find?_of_nodup hnodup he]
  rfl

/-- Themes are found under the ids that the list of themes gives, and under no others: what the
preferences store is what the daemon looks up. -/
theorem lookup_theme_info_iff (hnodup : (tm.entries.map MenuEntry.desktopFileId).Nodup)
    (hsuffix : ∀ e ∈ tm.entries, ∃ base, e.desktopFileId = base ++ desktopSuffix) (name : Text) (info : GSThemeInfo) :
    tm.lookupThemeInfo name = some info ↔ info ∈ tm.getInfoList ∧ info.fileId = name := by
  constructor
  · intro h
    rw [lookupThemeInfo, findInfoForId] at h
    obtain ⟨e, he, rfl⟩ := Option.map_eq_some_iff.1 h
    have hid : e.desktopFileId = name ++ desktopSuffix :=
      of_decide_eq_true (List.find?_some (p := fun e : MenuEntry => e.desktopFileId = name ++ desktopSuffix) he)
    have hlisted := List.mem_map_of_mem (f := gsThemeInfoNewFromMatemenuTreeEntry) (List.mem_of_find?_eq_some he)
    rw [getInfoList_eq]
    exact ⟨hlisted, fileId_of_suffix hid⟩
  · intro h
    obtain ⟨hmem, hname⟩ := h
    rw [← hname]
    exact lookup_listed hnodup hsuffix hmem

def smallMenu : ThemeManager where
  config := ⟨"/usr/libexec/mate-screensaver".toList, none, "/usr/libexec".toList, by decide⟩
  files := ⟨fun _ => false, fun _ => false, fun _ h => absurd h Bool.false_ne_true, fun _ _ _ h => absurd h Bool.false_ne_true⟩
  menu := some [.other, .entry ⟨"Cosmos".toList, "cosmos.desktop".toList, some "slideshow".toList⟩,
    .entry ⟨"Old".toList, "old.desktop.desktop".toList, none⟩]

theorem lookup_theme_info_old :
    smallMenu.lookupThemeInfo "old.desktop".toList = some ⟨"Old".toList, none, "old.desktop".toList⟩ := by
  have hentries : smallMenu.entries = [⟨"Cosmos".toList, "cosmos.desktop".toList, some "slideshow".toList⟩,
    ⟨"Old".toList, "old.desktop.desktop".toList, none⟩] := rfl
  have hnodup : (smallMenu.entries.map MenuEntry.desktopFileId).Nodup := by
    rw [hentries]
    decide
  have hsuffix : ∀ e ∈ smallMenu.entries, ∃ base, e.desktopFileId = base ++ desktopSuffix := by
    rw [hentries]
    intro e he
    cases he with
    | head => exact ⟨"cosmos".toList, rfl⟩
    | tail _ he =>
      cases he with
      | head => exact ⟨"old.desktop".toList, rfl⟩
      | tail _ he => cases he
  have hlist : (⟨"Old".toList, none, "old.desktop".toList⟩ : GSThemeInfo) ∈ smallMenu.getInfoList := by
    rw [getInfoList_eq, hentries]
    decide
  exact (lookup_theme_info_iff hnodup hsuffix _ _).2 ⟨hlist, rfl⟩

end ThemeManager

/-! ### The file that is started -/

variable {c : EngineConfig} {fs : Files} {program found dir : Text} {path : Option Text}

theorem EngineConfig.known_clean (hdir : dir ∈ c.knownEngineLocations) : dir ≠ [] ∧ ':' ∉ dir := by
  have hconf : ∀ d ∈ c.saverdir :: c.xscreensaverHackDir.toList ++ [c.libexecdir], d ≠ [] ∧ ':' ∉ d := fun d hd =>
    ⟨(c.clean d hd).1, (c.clean d hd).2.1⟩
  rw [knownEngineLocations, List.mem_append] at hdir
  cases hdir with
  | inl hmem => exact hconf dir (List.mem_append_left _ hmem)
  | inr hmem =>
    have hlib : ':' ∉ c.libexecdir := (hconf _ (List.mem_append_right _ List.mem_cons_self)).2
    simp only [List.mem_cons, List.not_mem_nil, or_false] at hmem
    rcases hmem with rfl | rfl | rfl
    · refine ⟨by simp, fun hcolon => ?_⟩
      cases List.mem_append.1 hcolon with
      | inl h => exact hlib h
      | inr h => exact absurd h (by decide)
    · decide
    · decide

/- PATH is searched in its old components first, and then in the directories that exist. -/
theorem splitOn_added (p : Text → Bool) (base : Text) {dirs : List Text} (h : ∀ d ∈ dirs, ':' ∉ d) :
    (base ++ dirs.flatMap fun d => if p d then ':' :: d else []).splitOn ':' = base.splitOn ':' ++ dirs.filter p := by
  induction dirs generalizing base with
  | nil => rw [List.flatMap_nil, List.append_nil, List.filter_nil, List.append_nil]
  | cons d dirs ih =>
    have htail : ∀ x ∈ dirs, ':' ∉ x := fun x hx => h x (List.mem_cons_of_mem _ hx)
    rw [List.flatMap_cons]
    cases hp : p d with
    | false =>
      rw [if_neg Bool.false_ne_true, List.nil_append, ih base htail, List.filter_cons_of_neg (by simp [hp])]
    | true =>
      have hd : ':' ∉ d := h d List.mem_cons_self
      rw [if_pos rfl, ← List.append_assoc, ih (base ++ ':' :: d) htail, List.splitOn_append_cons_self,
        List.splitOn_eq_singleton hd, List.filter_cons_of_pos hp, List.append_assoc, List.singleton_append]

/- In the directories that were added the same file comes first as in find_command. -/
theorem find_added (hprogram : program ≠ []) {dirs : List Text} (h : ∀ d ∈ dirs, d ≠ []) :
    ((dirs.filter fs.isDir).map (pathFile program)).find? fs.executable =
      (dirs.map (gBuildFilename · program)).find? fs.executable := by
  induction dirs with
  | nil => rfl
  | cons d dirs ih =>
    have htail := ih fun x hx => h x (List.mem_cons_of_mem _ hx)
    have hd : d ≠ [] := h d List.mem_cons_self
    have hsame : pathFile program d = gBuildFilename d program := by
      rw [pathFile, gBuildFilename, if_neg hd, if_neg hprogram]
    rw [List.map_cons, List.find?_cons]
    cases hx : fs.executable (gBuildFilename d program) with
    | true =>
      have hdir : fs.isDir d = true := by
        apply fs.executable_in d program hd
        rw [gBuildFilename, if_neg hprogram] at hx
        exact hx
      rw [List.filter_cons_of_pos hdir, List.map_cons, hsame, List.find?_cons, hx]
    | false =>
      cases hdir : fs.isDir d with
      | true => rw [List.filter_cons_of_pos hdir, List.map_cons, hsame, List.find?_cons, hx, htail]
      | false => rw [List.filter_cons_of_neg (by simp [hdir]), htail]

theorem spawnSearchPath_added (hprogram : program ≠ []) (hbare : '/' ∉ program) :
    spawnSearchPath fs (addKnownEngineLocationsToPath c fs path) program =
      (spawnSearchPath fs (path.getD []) program).or (findCommand c fs program) := by
  have hhead : ¬ program.head? = some '/' := fun h => hbare (List.mem_of_head? h)
  rw [spawnSearchPath, spawnSearchPath, findCommand, if_neg hprogram, if_neg hprogram, if_neg hbare, if_neg hbare,
    if_neg hhead, addKnownEngineLocationsToPath, splitOn_added fs.isDir _ fun d hd => (EngineConfig.known_clean hd).2,
    List.map_append, List.find?_append, find_added hprogram fun d hd => (EngineConfig.known_clean hd).1]

/-- A program that find_command has found is the file that is started under the new PATH if and only
if it is named by its path, or has a bare name that the old PATH does not give to another file: an
unset PATH is the working directory, and a name with a directory in it is not searched at all. -/
theorem found_is_started_iff (path : Option Text) (hfound : findCommand c fs program = some found) :
    spawnSearchPath fs (addKnownEngineLocationsToPath c fs path) program = some found ↔
      program.head? = some '/' ∨ (program ≠ [] ∧ '/' ∉ program ∧
        ∀ other, spawnSearchPath fs (path.getD []) program = some other → other = found) := by
  by_cases hhead : program.head? = some '/'
  · have hslash : '/' ∈ program := List.mem_of_head? hhead
    have hne : program ≠ [] := List.ne_nil_of_mem hslash
    rw [findCommand, if_pos hhead] at hfound
    obtain ⟨location, hlocation, rfl⟩ := Option.map_eq_some_iff.1 hfound
    have hexec : fs.executable program = true := by
      have hboth := List.find?_some hlocation
      exact (Bool.and_eq_true_iff.1 hboth).2
    rw [spawnSearchPath, if_neg hne, if_pos hslash, if_pos hexec]
    exact iff_of_true rfl (.inl hhead)
  · by_cases hslash : '/' ∈ program
    · have hne : program ≠ [] := List.ne_nil_of_mem hslash
      rw [findCommand, if_neg hhead] at hfound
      obtain ⟨location, -, hbuilt⟩ := List.mem_map.1 (List.mem_of_find?_eq_some hfound)
      have hlonger : program.length < found.length := by
        rw [← hbuilt, gBuildFilename, if_neg hne, List.length_append, List.length_cons]
        omega
      rw [spawnSearchPath, if_neg hne, if_pos hslash]
      apply iff_of_false
      · intro heq
        split at heq
        · cases heq
          omega
        · cases heq
      · intro hright
        cases hright with
        | inl h => exact hhead h
        | inr h => exact h.2.1 hslash
    · by_cases hne : program = []
      · rw [spawnSearchPath, if_pos hne]
        apply iff_of_false nofun
        intro hright
        cases hright with
        | inl h => exact hhead h
        | inr h => exact h.1 hne
      · rw [spawnSearchPath_added hne hslash, hfound]
        cases hold : spawnSearchPath fs (path.getD []) program with
        | none => exact iff_of_true rfl (.inr ⟨hne, hslash, nofun⟩)
        | some other =>
          rw [Option.some_or]
          constructor
          · intro heq
            exact .inr ⟨hne, hslash, fun x hx => Option.some.inj (hx.symm.trans heq)⟩
          · intro hright
            cases hright with
            | inl h => exact absurd h hhead
            | inr h => exact congrArg some (h.2.2 other rfl)

def twoCosmos : Files := .ofList ["/usr/libexec/mate-screensaver/cosmos".toList, "/usr/bin/cosmos".toList] (by decide)

theorem found_is_not_started_cosmos :
    ¬ spawnSearchPath twoCosmos
        (addKnownEngineLocationsToPath ThemeManager.smallMenu.config twoCosmos (some "/bin:/usr/bin".toList)) "cosmos".toList =
      some "/usr/libexec/mate-screensaver/cosmos".toList := by
  have hfound : findCommand ThemeManager.smallMenu.config twoCosmos "cosmos".toList =
      some "/usr/libexec/mate-screensaver/cosmos".toList := by decide
  intro hstarted
  cases (found_is_started_iff _ hfound).1 hstarted with
  | inl h => exact absurd h (by decide)
  | inr h =>
    have hother := h.2.2 "/usr/bin/cosmos".toList (by decide)
    exact absurd hother (by decide)

end MateScreensaver
