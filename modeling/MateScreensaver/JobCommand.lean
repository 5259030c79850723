import MateScreensaver.JobLife
import MateScreensaver.Lib.ShellLine
import MateScreensaver.ThemeJobs

/-!
The command of a job as it is run (gs_job_start): the saved arguments of the saver are tried with
--help first, and the program is always the one of the command.
-/

namespace MateScreensaver
open Scan

/- g_path_get_basename -/
def gPathGetBasename (path : Text) : Text :=
  match path.reverse.dropWhile (· = '/') with
  | [] => if path = [] then ['.'] else ['/']
  | file => (file.takeWhile (· ≠ '/')).reverse

/- What gs_job_start meets: "screensaver-arguments", and the exit status of a run that is waited
for, if there is one. -/
structure JobRoom where
  screensaverArguments : Text → Option Text
  runSync : List Text → Option Int

def helpOption : Text := "--help".toList

def finalCommand (command savedArgs : Text) : Text := command ++ ' ' :: savedArgs

def testCommand (command savedArgs : Text) : Text := finalCommand command savedArgs ++ ' ' :: helpOption

/- A call of gs_job_start that gets to the spawning: the words of the test, and of the job. -/
structure JobRun where
  tested : Option (List Text)
  started : Option (List Text)
deriving DecidableEq

def argv? (line : Text) : Option (List Text) := (Shell.parseArgv line).toOption

namespace JobRoom

/- gs-job.c:491: the arguments that are looked up under the name of the saver. -/
def savedArgs (room : JobRoom) (command : Text) : Option Text :=
  match Shell.parseArgv command with
  | .ok (program :: _) => (room.screensaverArguments (gPathGetBasename program)).filter (· ≠ [])
  | _ => none

/- g_spawn_command_line_sync -/
def spawnCommandLineSync (room : JobRoom) (line : Text) : Option Int := (argv? line).bind room.runSync

/- gs-job.c:513 -/
def argsValid (room : JobRoom) (command savedArgs : Text) : Bool :=
  room.spawnCommandLineSync (testCommand command savedArgs) = some 0

/- gs-job.c:533 -/
def commandToRun (room : JobRoom) (command : Text) : Text :=
  match room.savedArgs command with
  | some savedArgs => if room.argsValid command savedArgs then finalCommand command savedArgs else command
  | none => command

/- gs-job.c:485 with spawn_on_widget. -/
def gsJobStart (room : JobRoom) (command : Text) : JobRun where
  tested := (room.savedArgs command).bind fun savedArgs => argv? (testCommand command savedArgs)
  started := argv? (room.commandToRun command)

/- The surroundings of the job that these amount to. -/
def startEnv (room : JobRoom) (command : Text) (spawns : Bool) : StartEnv where
  savedArgs := (room.savedArgs command).map String.ofList
  argsValid := (room.savedArgs command).any (room.argsValid command)
  spawns := spawns

variable {room : JobRoom} {command args : Text} {argv t : List Text}

theorem savedArgs_some (h : room.savedArgs command = some args) :
    args ≠ [] ∧ ∃ own, Shell.parseArgv command = .ok own := by
  rw [savedArgs] at h
  split at h
  · next program own hparse => exact ⟨of_decide_eq_true (Option.filter_eq_some_iff.1 h).2, _, hparse⟩
  · cases h

/- The job of the processes runs the same line. -/
theorem commandToRun_eq (room : JobRoom) (command : Text) (spawns : Bool) :
    JobWorld.commandToRun (room.startEnv command spawns) (String.ofList command) = String.ofList (room.commandToRun command) := by
  rw [JobWorld.commandToRun, commandToRun, startEnv]
  cases hsaved : room.savedArgs command with
  | none => rfl
  | some args =>
    have hne : String.ofList args ≠ "" := fun hnil =>
      (savedArgs_some hsaved).1 (by simpa using congrArg String.toList hnil)
    have hline : String.ofList command ++ " " ++ String.ofList args = String.ofList (finalCommand command args) := by
      rw [← String.toList_inj]
      simp [finalCommand]
    cases hvalid : room.argsValid command args with
    | false => simp [hvalid]
    | true => simp [hvalid, hne, hline]

theorem argv?_eq_some : argv? command = some argv ↔ Shell.parseArgv command = .ok argv := by
  rw [argv?]
  cases Shell.parseArgv command with
  | error e => exact ⟨nofun, nofun⟩
  | ok words => exact ⟨fun h => congrArg _ (Option.some.inj h), fun h => congrArg _ (Except.ok.inj h)⟩

theorem argv?_eq_none : argv? command = none ↔ ∃ e, Shell.parseArgv command = .error e := by
  rw [argv?]
  cases Shell.parseArgv command with
  | error e => exact iff_of_true rfl ⟨e, rfl⟩
  | ok words => exact ⟨nofun, fun ⟨_, h⟩ => nomatch h⟩

/- The saver slides with saved arguments, every test of which passes. -/
def slidesRoom (savedArgs : Text) : JobRoom where
  screensaverArguments name := if name = "slides".toList then some savedArgs else none
  runSync _ := some 0

theorem helpOption_word : Shell.Word helpOption helpOption := Shell.word_plain (by decide) (by decide)

theorem helpOption_bare : ∀ c ∈ helpOption, c ≠ '\n' ∧ c ≠ '\'' ∧ c ≠ '"' := by
  simp [helpOption]

theorem unquote_help : [helpOption].mapM Shell.unquote = .ok [helpOption] := Shell.mapM_unquote (.cons helpOption_word .nil)

/- What the parser makes of the two lines, by where the first one ends. -/
theorem lines_parsed (hcommand : Shell.parseArgv command = .ok argv)
    (htest : Shell.parseArgv (testCommand command args) = .ok t) :
    (Shell.ending (finalCommand command args) = .plain ∧
      ∃ words, Shell.parseArgv (finalCommand command args) = .ok words ∧ t = words ++ [helpOption]) ∨
    (Shell.ending (finalCommand command args) = .comment ∧ Shell.parseArgv (finalCommand command args) = .ok t) ∨
    ((Shell.ending (finalCommand command args) = .hash ∨ Shell.ending (finalCommand command args) = .backslash) ∧
      Shell.parseArgv (finalCommand command args) = .error .badQuoting) := by
  obtain ⟨ts, hts, -⟩ := Shell.parseArgv_ok_iff.1 hcommand
  obtain ⟨us, hus, ht⟩ := Shell.parseArgv_ok_iff.1 htest
  obtain ⟨hends, -, htokens⟩ := Shell.tokenize_ok_iff.1 hus
  have hne := Shell.tokens_ne_nil hts (' ' :: args)
  have hbad (h : ¬ (Shell.ending (finalCommand command args) = .plain ∨ Shell.ending (finalCommand command args) = .comment)) :
      Shell.parseArgv (finalCommand command args) = .error .badQuoting := by
    rw [Shell.parseArgv, Shell.tokenize_badQuoting_iff.2 h]
    rfl
  cases Shell.further (finalCommand command args) helpOption_word helpOption_bare with
  | plain h _ tokens =>
    have hline := Shell.tokenize_ok_iff.2 ⟨.inl h, hne, rfl⟩
    have hsame := htokens.symm.trans tokens
    subst hsame
    obtain ⟨words, help, hwords, hhelp, rfl⟩ := Shell.mapM_append_ok ht
    rw [unquote_help] at hhelp
    cases hhelp
    exact .inl ⟨h, words, Shell.parseArgv_ok_iff.2 ⟨_, hline, hwords⟩, rfl⟩
  | comment h _ tokens =>
    have hsame := htokens.symm.trans tokens
    subst hsame
    rcases h with h | h
    · exact .inr (.inr ⟨.inl h, hbad (by simp [h])⟩)
    · have hline := Shell.tokenize_ok_iff.2 ⟨.inr h, hne, rfl⟩
      exact .inr (.inl ⟨h, Shell.parseArgv_ok_iff.2 ⟨_, hline, ht⟩⟩)
  | backslash h => exact .inr (.inr ⟨.inr h, hbad (by simp [h])⟩)
  | quotes _ ends =>
    have hopen : ¬ (Shell.ending (testCommand command args) = .plain ∨ Shell.ending (testCommand command args) = .comment) := by
      rcases ends with ends | ends
      · simp [testCommand, ends]
      · simp [testCommand, ends]
    exact absurd hends hopen

/-- Arguments that have passed their test: the test had the words of the job and --help if and only
if the line of the job ends outside of quotes and comments. It was the job itself, waited for, if
and only if the line ends in a comment, and no job comes of it if and only if the line ends in a
backslash or in the sign of a comment. -/
theorem tested_iff (hsaved : room.savedArgs command = some args) (htested : (room.gsJobStart command).tested = some t)
    (hpassed : room.runSync t = some 0) :
    ((∃ words, (room.gsJobStart command).started = some words ∧ t = words ++ [helpOption]) ↔
      Shell.ending (finalCommand command args) = .plain) ∧
    ((room.gsJobStart command).started = some t ↔ Shell.ending (finalCommand command args) = .comment) ∧
    ((room.gsJobStart command).started = none ↔
      Shell.ending (finalCommand command args) = .hash ∨ Shell.ending (finalCommand command args) = .backslash) := by
  obtain ⟨-, own, hcommand⟩ := savedArgs_some hsaved
  have htest : argv? (testCommand command args) = some t := by
    rw [gsJobStart, hsaved] at htested
    exact htested
  have hvalid : room.argsValid command args = true := by
    rw [argsValid, spawnCommandLineSync, htest, Option.bind_some, hpassed]
    rfl
  have hstarted : (room.gsJobStart command).started = argv? (finalCommand command args) := by
    have hrun : room.commandToRun command = finalCommand command args := by
      rw [commandToRun, hsaved]
      exact if_pos hvalid
    rw [gsJobStart, hrun]
  rw [hstarted]
  rcases lines_parsed hcommand (argv?_eq_some.1 htest) with ⟨hends, words, hwords, ht⟩ | ⟨hends, hwords⟩ | ⟨hends, hbad⟩
  · have hone : argv? (finalCommand command args) = some words := argv?_eq_some.2 hwords
    rw [hone, hends]
    refine ⟨iff_of_true ⟨words, rfl, ht⟩ rfl, iff_of_false (fun h => ?_) nofun, iff_of_false nofun (by simp)⟩
    cases h
    simp at ht
  · have hone : argv? (finalCommand command args) = some t := argv?_eq_some.2 hwords
    rw [hone, hends]
    refine ⟨iff_of_false (fun ⟨words, hsome, h⟩ => ?_) nofun, iff_of_true rfl rfl, iff_of_false nofun (by simp)⟩
    cases hsome
    simp at h
  · have hnone : argv? (finalCommand command args) = none := argv?_eq_none.2 ⟨_, hbad⟩
    rw [hnone]
    rcases hends with hends | hends
    · rw [hends]
      exact ⟨iff_of_false (fun ⟨_, h, _⟩ => nomatch h) nofun, iff_of_false nofun nofun, iff_of_true rfl (.inl rfl)⟩
    · rw [hends]
      exact ⟨iff_of_false (fun ⟨_, h, _⟩ => nomatch h) nofun, iff_of_false nofun nofun, iff_of_true rfl (.inr rfl)⟩

/- Two arguments with a number sign behind them. -/
theorem tested_slides : ((slidesRoom "-x 1 #".toList).gsJobStart "slides --root".toList).started = none := by
  have hsaved : (slidesRoom "-x 1 #".toList).savedArgs "slides --root".toList = some "-x 1 #".toList := by decide
  have htested : ((slidesRoom "-x 1 #".toList).gsJobStart "slides --root".toList).tested =
      some ["slides".toList, "--root".toList, "-x".toList, "1".toList] := by decide
  have hends : Shell.ending (finalCommand "slides --root".toList "-x 1 #".toList) = .hash := by decide
  exact (tested_iff hsaved htested rfl).2.2.2 (.inl hends)

end JobRoom
end MateScreensaver
