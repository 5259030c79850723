import MateScreensaver.Window
import MateScreensaver.Lib.Shell

/-!
The command line of the lock dialog (gs-window-x11.c:1694), and the arguments that the
dialog gets of it.
-/

namespace MateScreensaver

/- gs-window-x11.c:1663. `elapsed` is what the window's timer shows, in milliseconds, a
millisecond that has begun counted whole. -/
def isLogoutEnabled (elapsed : ℕ) (win : GSWindow) : Bool :=
  if !win.logoutEnabled then false
  else if win.logoutCommand.isNone then false
  else win.logoutTimeout < elapsed

/- gs-window-x11.c:1688 -/
def isUserSwitchEnabled (win : GSWindow) : Bool := win.userSwitchEnabled

/-- gs-window-x11.c:1702, with MATE_SCREENSAVER_DIALOG_PATH and gs_debug_enabled. A
logout that is enabled has a command. -/
def popupDialogCommand (path : List Char) (elapsed : ℕ) (debug : Bool) (win : GSWindow) : List Char :=
  let command := path
  let command := if isLogoutEnabled elapsed win then
      let command := command ++ " --enable-logout".toList
      command ++ (" --logout-command='".toList ++ (win.logoutCommand.getD "").toList ++ "'".toList)
    else command
  let command := match win.statusMessage with
    | some statusMessage =>
      let quoted := Shell.quote statusMessage.toList
      command ++ (" --status-message=".toList ++ quoted)
    | none => command
  let command := if isUserSwitchEnabled win then command ++ " --enable-switch".toList else command
  let command := if debug then command ++ " --verbose".toList else command
  command

/- gs-window-x11.c:1050, up to the spawning. -/
def spawnOnWindow (spawn : List (List Char) → SpawnResult) (command : List Char) : SpawnResult :=
  match Shell.parseArgv command with
  | .error _ => .parseError
  | .ok argv => spawn argv

/- A command line that cannot be parsed: no dialog comes up, and nothing is watched. -/
theorem no_dialog {env : SaverEnv} {spawn : List (List Char) → SpawnResult} {command : List Char} {e : Shell.Error}
    (henv : env.spawnDialog = spawnOnWindow spawn command) (hparse : Shell.parseArgv command = .error e)
    (w : WindowId) (s : Saver) : s.popupDialog env w = s.modifyWindow w fun win =>
      { win with dialogQuitRequested := false, dialogShakeInProgress := false } := by
  rw [Saver.popupDialog, Saver.spawnDialogOnWindow, henv, spawnOnWindow, hparse]

/-! ### The arguments that are meant -/

def logoutArgs (elapsed : ℕ) (win : GSWindow) : List (List Char) :=
  if isLogoutEnabled elapsed win then
    ["--enable-logout".toList, "--logout-command=".toList ++ (win.logoutCommand.getD "").toList]
  else []

def messageArgs (win : GSWindow) : List (List Char) :=
  match win.statusMessage with
  | some statusMessage => ["--status-message=".toList ++ statusMessage.toList]
  | none => []

def flagArgs (debug : Bool) (win : GSWindow) : List (List Char) :=
  (if isUserSwitchEnabled win then ["--enable-switch".toList] else []) ++ if debug then ["--verbose".toList] else []

def dialogArgv (path : List Char) (elapsed : ℕ) (debug : Bool) (win : GSWindow) : List (List Char) :=
  path :: (logoutArgs elapsed win ++ (messageArgs win ++ flagArgs debug win))

/- The logout command, if it is passed on, can stand between single quotes. -/
def Quotable (elapsed : ℕ) (win : GSWindow) : Prop :=
  ∀ command, isLogoutEnabled elapsed win = true → win.logoutCommand = some command → '\'' ∉ command.toList

/-! ### The words of the command line -/

variable {path : List Char} {elapsed : ℕ} {debug : Bool} {win : GSWindow}

def logoutWords (elapsed : ℕ) (win : GSWindow) : List (List Char) :=
  if isLogoutEnabled elapsed win then
    ["--enable-logout".toList, "--logout-command=".toList ++ '\'' :: ((win.logoutCommand.getD "").toList ++ ['\''])]
  else []

def messageWords (win : GSWindow) : List (List Char) :=
  match win.statusMessage with
  | some statusMessage => ["--status-message=".toList ++ Shell.quote statusMessage.toList]
  | none => []

theorem command_eq : popupDialogCommand path elapsed debug win =
    path ++ (logoutWords elapsed win ++ (messageWords win ++ flagArgs debug win)).flatMap fun w => ' ' :: w := by
  have henable : " --enable-logout".toList = ' ' :: "--enable-logout".toList := rfl
  have hcommand : " --logout-command='".toList = ' ' :: ("--logout-command=".toList ++ ['\'']) := rfl
  have hmessage : " --status-message=".toList = ' ' :: "--status-message=".toList := rfl
  have hswitch : " --enable-switch".toList = ' ' :: "--enable-switch".toList := rfl
  have hverbose : " --verbose".toList = ' ' :: "--verbose".toList := rfl
  have hquote : "'".toList = ['\''] := rfl
  unfold popupDialogCommand logoutWords messageWords flagArgs
  rw [henable, hcommand, hmessage, hswitch, hverbose, hquote]
  cases isLogoutEnabled elapsed win <;> cases win.statusMessage <;> cases isUserSwitchEnabled win <;> cases debug <;>
    simp

theorem word_option {option v r : List Char} (hoption : option ≠ []) (hplain : Shell.Plain option)
    (h : Shell.Word r v) : Shell.Word (option ++ r) (option ++ v) :=
  (Shell.word_plain hoption hplain).append h

theorem logoutWords_meant (h : Quotable elapsed win) :
    List.Forall₂ Shell.Word (logoutWords elapsed win) (logoutArgs elapsed win) := by
  unfold logoutWords logoutArgs
  split
  · next henabled =>
    have hquotes : '\'' ∉ (win.logoutCommand.getD "").toList := by
      cases hcommand : win.logoutCommand with
      | none => exact List.not_mem_nil
      | some command => exact h command henabled hcommand
    refine .cons (Shell.word_plain (by decide) (by decide)) (.cons ?_ .nil)
    exact word_option (by decide) (by decide) (.piece (.single hquotes))
  · exact .nil

theorem messageWords_meant (win : GSWindow) : List.Forall₂ Shell.Word (messageWords win) (messageArgs win) := by
  unfold messageWords messageArgs
  cases win.statusMessage with
  | none => exact .nil
  | some statusMessage => exact .cons (word_option (by decide) (by decide) (Shell.word_quote _)) .nil

theorem flagArgs_meant (debug : Bool) (win : GSWindow) :
    List.Forall₂ Shell.Word (flagArgs debug win) (flagArgs debug win) := by
  refine List.forall₂_same.2 fun w hw => ?_
  unfold flagArgs at hw
  obtain hw | hw := List.mem_append.1 hw
  · split at hw
    · cases List.mem_singleton.1 hw
      exact Shell.word_plain (by decide) (by decide)
    · exact absurd hw List.not_mem_nil
  · split at hw
    · cases List.mem_singleton.1 hw
      exact Shell.word_plain (by decide) (by decide)
    · exact absurd hw List.not_mem_nil

/- Whatever the other settings are. -/
theorem command_parsed (hpath : path ≠ [] ∧ Shell.Plain path) (h : Quotable elapsed win) :
    Shell.parseArgv (popupDialogCommand path elapsed debug win) = .ok (dialogArgv path elapsed debug win) := by
  rw [command_eq]
  refine Shell.parseArgv_words (Shell.word_plain hpath.1 hpath.2) ?_
  exact List.rel_append (logoutWords_meant h) (List.rel_append (messageWords_meant win) (flagArgs_meant debug win))

/-! ### A single quote in the logout command -/

theorem count_message (win : GSWindow) :
    (messageWords win).flatten.count '"' = (messageArgs win).flatten.count '"' ∧
      (messageWords win).flatten.count '\\' ≤
        (messageArgs win).flatten.count '\'' + (messageArgs win).flatten.count '\\' := by
  unfold messageWords messageArgs
  cases win.statusMessage with
  | none => exact ⟨rfl, Nat.le_refl _⟩
  | some statusMessage =>
    have hdouble : "--status-message=".toList.count '"' = 0 := by decide
    have hsingle : "--status-message=".toList.count '\'' = 0 := by decide
    have hbackslash : "--status-message=".toList.count '\\' = 0 := by decide
    simp only [List.flatten_singleton, List.count_append, Shell.count_quote_backslash, hdouble, hsingle, hbackslash,
      Shell.count_quote (d := '"') (by decide) (by decide)]
    exact ⟨trivial, by omega⟩

theorem count_logout {command : String} (henabled : isLogoutEnabled elapsed win = true)
    (hcommand : win.logoutCommand = some command) :
    (logoutWords elapsed win).flatten.count '"' = (logoutArgs elapsed win).flatten.count '"' ∧
      (logoutWords elapsed win).flatten.count '\\' = (logoutArgs elapsed win).flatten.count '\\' ∧
      command.toList.count '\'' ≤ (logoutArgs elapsed win).flatten.count '\'' := by
  have hquoted : ('\'' :: (command.toList ++ ['\''])).count '"' = command.toList.count '"' ∧
      ('\'' :: (command.toList ++ ['\''])).count '\\' = command.toList.count '\\' := by
    constructor
    · rw [List.count_cons_of_ne (by decide), List.count_append]
      rfl
    · rw [List.count_cons_of_ne (by decide), List.count_append]
      rfl
  unfold logoutWords logoutArgs
  rw [if_pos henabled, if_pos henabled, hcommand, Option.getD_some]
  simp only [List.flatten_cons, List.flatten_nil, List.append_nil, List.count_append, hquoted.1, hquoted.2]
  exact ⟨trivial, trivial, by omega⟩

theorem command_misread {command : String} (henabled : isLogoutEnabled elapsed win = true)
    (hcommand : win.logoutCommand = some command) (hquote : '\'' ∈ command.toList) :
    Shell.parseArgv (popupDialogCommand path elapsed debug win) ≠ .ok (dialogArgv path elapsed debug win) := by
  intro hparse
  have hpos : 0 < command.toList.count '\'' := List.count_pos_iff.2 hquote
  obtain ⟨hdouble, hbackslash, hsingle⟩ := count_logout henabled hcommand
  obtain ⟨hdouble', hbackslash'⟩ := count_message win
  obtain ⟨_, hspent⟩ := Shell.parseArgv_count hparse
  rw [command_eq, dialogArgv] at hspent
  simp only [List.flatten_cons, List.flatten_append, List.count_append,
    Shell.count_blanks (c := '"') (by decide), Shell.count_blanks (c := '\\') (by decide)] at hspent
  -- the backslashes are those of the path, the command and the message, and one for each
  -- quote of the message, which leaves none for the quotes of the command
  have hless := hspent (by omega)
  omega

/-- The dialog gets exactly the arguments that are meant if and only if no single quote
of a logout command is passed on. -/
theorem dialog_argv_iff (hpath : path ≠ [] ∧ Shell.Plain path) (elapsed : ℕ) (debug : Bool) (win : GSWindow) :
    Shell.parseArgv (popupDialogCommand path elapsed debug win) = .ok (dialogArgv path elapsed debug win) ↔
      Quotable elapsed win := by
  constructor
  · intro hparse command henabled hcommand hquote
    exact command_misread henabled hcommand hquote hparse
  · exact command_parsed hpath

def libexecPath : List Char := "/usr/libexec/mate-screensaver-dialog".toList

/- A window with a logout command. -/
def loggingOut (command : String) : GSWindow :=
  { monitor := 0, lockEnabled := true, logoutEnabled := true, logoutCommand := some command }

def saving : GSWindow := { loggingOut "mate-session-save --logout" with statusMessage := some "it's 5 o'clock" }

theorem dialog_argv_saving : Shell.parseArgv (popupDialogCommand libexecPath 1 true saving) =
    .ok (dialogArgv libexecPath 1 true saving) := by
  refine (dialog_argv_iff ⟨by decide, by decide⟩ 1 true _).2 fun command _ hcommand => ?_
  cases hcommand
  decide

theorem unparsed :
    Shell.parseArgv (popupDialogCommand libexecPath 1 false (loggingOut "it's")) = .error .badQuoting := by
  decide +kernel

/- A quote that is not closed: no dialog comes up. -/
theorem logout_unparsed : ¬ ∀ path elapsed debug win, path ≠ [] ∧ Shell.Plain path →
    Shell.parseArgv (popupDialogCommand path elapsed debug win) = .ok (dialogArgv path elapsed debug win) := by
  intro h
  have hparse := h libexecPath 1 false (loggingOut "it's") ⟨by decide, by decide⟩
  rw [unparsed] at hparse
  cases hparse

end MateScreensaver
