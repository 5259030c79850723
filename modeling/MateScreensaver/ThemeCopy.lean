import MateScreensaver.Lib.Runs
import MateScreensaver.Lib.Scan

/-!
Copying the themes that are dropped on the preferences window (copy-theme-dialog.c): one
asynchronous copy after the other, each tried again under a random name as long as its
destination exists.
-/

namespace MateScreensaver
open Runs Scan History

/- A file by the components of its path. -/
structure GFile where
  path : List Text
deriving DecidableEq

namespace GFile

def getBasename (f : GFile) : Text := f.path.getLastD ['/']
def getChild (f : GFile) (name : Text) : GFile := ⟨f.path ++ [name]⟩

end GFile

/- What g_file_copy_async is asked for; without G_FILE_COPY_OVERWRITE a copy fails when its
destination exists. -/
structure Copy where
  source : GFile
  destination : GFile
  overwrite : Bool
deriving DecidableEq

/- What g_file_copy_finish says. -/
inductive CopyOutcome
  | copied
  | alreadyExists
  | cancelled
  | failed
deriving DecidableEq

/- What happens to a dialog; a cancellation is requested through its cancellable. -/
inductive CopyAction
  | started (copy : Copy)
  | ended (outcome : CopyOutcome)
  | requested
  | cancelled
  | complete
deriving DecidableEq

/-- CopyThemeDialogPrivate, with the copies that are under way. A node of a GSList is the
list from there on, NULL the empty one. -/
structure CopyThemeDialog where
  themeDir : GFile
  allFiles : List GFile := []
  allBasenames : List Text := []
  file : List GFile := []
  basename : List Text := []
  index : UInt32 := 0
  totalFiles : UInt32 := 0
  progress : Text := []
  isCancelled : Bool := false
  shown : Bool := false
  displayTimeout : Bool := false
  inFlight : List Copy := []
  readNull : Bool := false
  log : List CopyAction := []

def isTheme (file : GFile) : Bool := ".desktop".toList.isSuffixOf file.getBasename

/- The name without its suffix, which has 8 characters. -/
def themeBasename (file : GFile) : Text := file.getBasename.take (file.getBasename.length - 8)

namespace CopyThemeDialog

def record (a : CopyAction) (s : CopyThemeDialog) : CopyThemeDialog := { s with log := s.log ++ [a] }

/- copy-theme-dialog.c:232, without the message about a file that is no theme. -/
def addFileToDialog (s : CopyThemeDialog) (file : GFile) : CopyThemeDialog :=
  if isTheme file then
    { s with
      allFiles := s.allFiles ++ [file]
      allBasenames := s.allBasenames ++ [themeBasename file]
      totalFiles := s.totalFiles + 1 }
  else s

/- copy-theme-dialog.c:117 -/
def copyThemeDialogNew (themeDir : GFile) (files : List GFile) : CopyThemeDialog :=
  let s := files.foldl addFileToDialog { themeDir := themeDir }
  { s with file := s.allFiles, basename := s.allBasenames }

def copyFinished (s : CopyThemeDialog) : Bool := s.isCancelled || s.file.isEmpty

/- G_FILE_COPY_NONE is what every call passes. -/
def gFileCopyAsync (source destination : GFile) (s : CopyThemeDialog) : CopyThemeDialog :=
  let copy := ⟨source, destination, false⟩
  { s with inFlight := s.inFlight ++ [copy] }.record (.started copy)

/- The signal, whose class handler is copy_theme_dialog_cancel. -/
def emitCancelled (s : CopyThemeDialog) : CopyThemeDialog := { s with isCancelled := true }.record .cancelled

/- copy-theme-dialog.c:368 -/
def copyNext (s : CopyThemeDialog) : CopyThemeDialog :=
  if s.copyFinished then s.record .complete
  else match s.file, s.basename with
    | file :: _, basename :: _ =>
      s.gFileCopyAsync file (s.themeDir.getChild (basename ++ ".desktop".toList))
    | _, _ => { s with readNull := true }

/- copy-theme-dialog.c:447 -/
def updateNumFiles (s : CopyThemeDialog) : CopyThemeDialog :=
  { s with progress := "Copying file: ".toList ++ printUnsigned s.index ++ " of ".toList ++ printUnsigned s.totalFiles }

/- The end of copy-theme-dialog.c:283, when it should continue. -/
def continueCopy (s : CopyThemeDialog) : CopyThemeDialog :=
  match s.file, s.basename with
  | _ :: files, _ :: basenames =>
    { s with index := s.index + 1, file := files, basename := basenames }.updateNumFiles.copyNext
  | _, _ => { s with readNull := true }

/- copy-theme-dialog.c:283 -/
def singleCopyComplete (outcome : CopyOutcome) (random : UInt32) (s : CopyThemeDialog) : CopyThemeDialog :=
  match outcome with
  | .copied | .failed => s.continueCopy
  | .alreadyExists =>
    match s.file, s.basename with
    | file :: _, basename :: _ =>
      s.gFileCopyAsync file
        (s.themeDir.getChild (basename ++ '-' :: printUnsigned random ++ ".desktop".toList))
    | _, _ => { s with readNull := true }
  | .cancelled => s.emitCancelled

/- copy-theme-dialog.c:396 -/
def timeoutDisplayDialog (s : CopyThemeDialog) : CopyThemeDialog :=
  let s := { s with displayTimeout := false }
  if s.copyFinished then s else { s with shown := true }

/- copy-theme-dialog.c:414 -/
def copyThemeDialogBegin (s : CopyThemeDialog) : CopyThemeDialog :=
  { s with shown := false, displayTimeout := true }.copyNext

/- A response, or whoever else cancels what the dialog does. -/
def copyThemeDialogCancel (s : CopyThemeDialog) : CopyThemeDialog :=
  { s with isCancelled := true }

/- A copy that is under way ends with this outcome, while the random number is what a new
name is made of. -/
inductive Event
  | begin
  | copyReady (k : ℕ) (outcome : CopyOutcome) (random : UInt32)
  | timeout
  | cancel
deriving DecidableEq

/- What a dialog does with an event. -/
def handle (s : CopyThemeDialog) : Event → Option CopyThemeDialog
  | .begin => some s.copyThemeDialogBegin
  | .copyReady k outcome random =>
    if k < s.inFlight.length then
      some (({ s with inFlight := s.inFlight.eraseIdx k }.record (.ended outcome)).singleCopyComplete outcome random)
    else none
  | .timeout => if s.displayTimeout then some s.timeoutDisplayDialog else none
  | .cancel => some (s.record .requested).copyThemeDialogCancel

/- The dialog, and the events that have come to it; who has made one begins once. -/
def step (x : CopyThemeDialog × List Event) (e : Event) : Option (CopyThemeDialog × List Event) :=
  if e = .begin ∧ .begin ∈ x.2 then none else (x.1.handle e).map fun s => (s, x.2 ++ [e])

def copying (themeDir : GFile) (files : List GFile) : System (CopyThemeDialog × List Event) Event where
  init x := x = (copyThemeDialogNew themeDir files, [])
  next := step

end CopyThemeDialog

/-! ### Copying in turn -/

namespace CopyAction

def isStarted : CopyAction → Bool
  | .started _ => true
  | _ => false

def isEnded : CopyAction → Bool
  | .ended _ => true
  | _ => false

/- The file is done with: it was copied, or could not be for another reason than its name. -/
def isFinished : CopyAction → Bool
  | .ended .copied | .ended .failed => true
  | _ => false

def isSignal : CopyAction → Bool
  | .cancelled | .complete => true
  | _ => false

end CopyAction

open CopyAction

def startedCopies (log : List CopyAction) : ℕ := log.countP isStarted
def endedCopies (log : List CopyAction) : ℕ := log.countP isEnded
def finishedFiles (log : List CopyAction) : ℕ := log.countP isFinished
def terminalSignals (log : List CopyAction) : ℕ := log.countP isSignal

/- A copy was started while the i-th file had its turn. -/
def Attempted (log : List CopyAction) (i : ℕ) : Prop :=
  ∃ before copy, before ++ [.started copy] <+: log ∧ finishedFiles before = i

/-- A copy is of the file whose turn it is and overwrites nothing; it is only started when no
other one is under way. Either signal comes after the last copy and after no other signal:
complete when all files were attempted or a cancellation was requested, cancelled when the
copy that just ended said so. -/
def CopiesInTurn (themes : List GFile) (before : List CopyAction) : CopyAction → Prop
  | .started copy => themes[finishedFiles before]? = some copy.source ∧ copy.overwrite = false ∧
    startedCopies before = endedCopies before ∧ terminalSignals before = 0
  | .ended _ => startedCopies before = endedCopies before + 1
  | .requested => True
  | .cancelled => startedCopies before = endedCopies before ∧ terminalSignals before = 0 ∧
    before.getLast? = some (.ended .cancelled)
  | .complete => startedCopies before = endedCopies before ∧ terminalSignals before = 0 ∧
    ((∀ i < themes.length, Attempted before i) ∨ .requested ∈ before)

namespace CopyThemeDialog

/-- What has been done is in turn; at most one copy is under way; both lists have moved on once
for each file that is finished, and no node was read past their ends; from the beginning on
there is a copy under way or one signal, and before it neither. -/
structure InTurn (themes : List GFile) (begun : Prop) (s : CopyThemeDialog) : Prop where
  actions : Upheld (CopiesInTurn themes) s.log
  one : s.inFlight.length ≤ 1
  underWay : startedCopies s.log = endedCopies s.log + s.inFlight.length
  file : s.file = themes.drop (finishedFiles s.log)
  basename : s.basename = (themes.map themeBasename).drop (finishedFiles s.log)
  reads : s.readNull = false
  before : ¬ begun → startedCopies s.log = 0 ∧ terminalSignals s.log = 0
  during : begun → s.inFlight ≠ [] → terminalSignals s.log = 0
  after : begun → s.inFlight = [] → terminalSignals s.log = 1

end CopyThemeDialog

/-! ### The counts -/

section Counts
variable (log : List CopyAction) (a : CopyAction)

@[simp] theorem startedCopies_append_one :
    startedCopies (log ++ [a]) = startedCopies log + if a.isStarted then 1 else 0 := by
  simp [startedCopies, List.countP_singleton]

@[simp] theorem endedCopies_append_one :
    endedCopies (log ++ [a]) = endedCopies log + if a.isEnded then 1 else 0 := by
  simp [endedCopies, List.countP_singleton]

@[simp] theorem finishedFiles_append_one :
    finishedFiles (log ++ [a]) = finishedFiles log + if a.isFinished then 1 else 0 := by
  simp [finishedFiles, List.countP_singleton]

@[simp] theorem terminalSignals_append_one :
    terminalSignals (log ++ [a]) = terminalSignals log + if a.isSignal then 1 else 0 := by
  simp [terminalSignals, List.countP_singleton]

end Counts

theorem Attempted.next {log : List CopyAction} {i : ℕ} (h : Attempted log i) (a : CopyAction) :
    Attempted (log ++ [a]) i := by
  obtain ⟨before, copy, hprefix, hi⟩ := h
  exact ⟨before, copy, hprefix.trans (List.prefix_append log [a]), hi⟩

theorem attempted_started (log : List CopyAction) (copy : Copy) :
    Attempted (log ++ [.started copy]) (finishedFiles log) :=
  ⟨log, copy, List.prefix_refl _, rfl⟩

namespace CopyThemeDialog

variable {themes : List GFile} {begun : Prop} {s t : CopyThemeDialog}

/- The dialog when no copy is under way and nothing has been signalled. -/
structure Ready (themes : List GFile) (s : CopyThemeDialog) : Prop where
  actions : Upheld (CopiesInTurn themes) s.log
  none : s.inFlight = []
  ended : startedCopies s.log = endedCopies s.log
  file : s.file = themes.drop (finishedFiles s.log)
  basename : s.basename = (themes.map themeBasename).drop (finishedFiles s.log)
  reads : s.readNull = false
  quiet : terminalSignals s.log = 0
  attempted : ∀ i < finishedFiles s.log, Attempted s.log i
  requested : s.isCancelled = true → .requested ∈ s.log

/- The invariant: besides what is in turn, which files were attempted, and why it is cancelled. -/
structure Copying (themes : List GFile) (begun : Prop) (s : CopyThemeDialog) : Prop extends
    InTurn themes begun s where
  attempted : ∀ i < finishedFiles s.log + s.inFlight.length, Attempted s.log i
  current : s.inFlight ≠ [] → begun ∧ finishedFiles s.log < themes.length
  requested : s.isCancelled = true → .requested ∈ s.log ∨ terminalSignals s.log ≠ 0

/- The two lists are of one length. -/
theorem nodes_of_lt {n : ℕ} (hlt : n < themes.length) (hfile : s.file = themes.drop n)
    (hbasename : s.basename = (themes.map themeBasename).drop n) :
    ∃ file files basenames, themes[n]? = some file ∧ s.file = file :: files ∧
      s.basename = themeBasename file :: basenames := by
  have hfiles := List.drop_eq_getElem_cons hlt
  have hlt' : n < (themes.map themeBasename).length := by simpa using hlt
  have hbasenames := List.drop_eq_getElem_cons hlt'
  rw [List.getElem_map] at hbasenames
  exact ⟨_, _, _, List.getElem?_eq_getElem hlt, hfile.trans hfiles, hbasename.trans hbasenames⟩

theorem Ready.gFileCopyAsync (h : Ready themes s) (hbegun : begun) {file : GFile}
    (hfile : themes[finishedFiles s.log]? = some file) (destination : GFile) :
    Copying themes begun (s.gFileCopyAsync file destination) := by
  have hlt : finishedFiles s.log < themes.length := (List.getElem?_eq_some_iff.1 hfile).1
  have hturn : CopiesInTurn themes s.log (.started ⟨file, destination, false⟩) := ⟨hfile, rfl, h.ended, h.quiet⟩
  constructor
  · have hquiet : terminalSignals (s.log ++ [.started ⟨file, destination, false⟩]) = 0 := by simp [isSignal, h.quiet]
    refine ⟨h.actions.next hturn, ?_, ?_, ?_, ?_, h.reads, fun hno => absurd hbegun hno, fun _ _ => hquiet,
      fun _ hnil => ?_⟩
    · simp [CopyThemeDialog.gFileCopyAsync, record, h.none]
    · simp [CopyThemeDialog.gFileCopyAsync, record, h.none, isStarted, isEnded, h.ended]
    · simpa [CopyThemeDialog.gFileCopyAsync, record, isFinished] using h.file
    · simpa [CopyThemeDialog.gFileCopyAsync, record, isFinished] using h.basename
    · simp [CopyThemeDialog.gFileCopyAsync, record] at hnil
  · intro i hi
    have hi' : i ≤ finishedFiles s.log := by
      simp [CopyThemeDialog.gFileCopyAsync, record, isFinished, h.none] at hi
      omega
    rcases Nat.lt_or_eq_of_le hi' with hi' | rfl
    · exact (h.attempted i hi').next _
    · exact attempted_started _ _
  · exact fun _ => ⟨hbegun, by simpa [CopyThemeDialog.gFileCopyAsync, record, isFinished] using hlt⟩
  · exact fun hc => .inl (List.mem_append_left _ (h.requested hc))

/- Nothing more is copied: the signal is the last thing. -/
theorem Ready.signal (h : Ready themes s) (hbegun : begun) {a : CopyAction} (ha : a.isSignal = true)
    (hturn : CopiesInTurn themes s.log a) (b : Bool) : Copying themes begun ({ s with isCancelled := b }.record a) := by
  have hstarted : a.isStarted = false := by cases a <;> first | rfl | cases ha
  have hended : a.isEnded = false := by cases a <;> first | rfl | cases ha
  have hfinished : a.isFinished = false := by cases a <;> first | rfl | cases ha
  constructor
  · refine ⟨h.actions.next hturn, ?_, ?_, ?_, ?_, h.reads, fun hno => absurd hbegun hno,
      fun _ hne => absurd h.none hne, fun _ _ => ?_⟩
    · simp [record, h.none]
    · simp [record, h.none, hstarted, hended, h.ended]
    · simpa [record, hfinished] using h.file
    · simpa [record, hfinished] using h.basename
    · simp [record, ha, h.quiet]
  · intro i hi
    simp [record, hfinished, h.none] at hi
    exact (h.attempted i hi).next _
  · exact fun hne => absurd h.none hne
  · exact fun _ => .inr (by simp [record, ha])

theorem Ready.copyNext (h : Ready themes s) (hbegun : begun) : Copying themes begun s.copyNext := by
  unfold CopyThemeDialog.copyNext
  split
  · next hdone =>
    have hall : (∀ i < themes.length, Attempted s.log i) ∨ .requested ∈ s.log := by
      rcases Bool.or_eq_true_iff.1 hdone with hc | hnull
      · exact .inr (h.requested hc)
      · refine .inl fun i hi => h.attempted i ?_
        rw [List.isEmpty_iff, h.file, List.drop_eq_nil_iff] at hnull
        omega
    have hturn : CopiesInTurn themes s.log .complete := ⟨h.ended, h.quiet, hall⟩
    exact h.signal hbegun rfl hturn s.isCancelled
  · next hmore =>
    have hlt : finishedFiles s.log < themes.length := by
      by_contra hle
      have hnull : s.file = [] := by rw [h.file, List.drop_eq_nil_iff]; omega
      exact hmore (by simp [copyFinished, hnull])
    obtain ⟨file, files, basenames, hturn, hfile, hbasename⟩ := nodes_of_lt hlt h.file h.basename
    rw [hfile, hbasename]
    exact h.gFileCopyAsync hbegun hturn _

/- The copy under way has ended, and both lists have moved on if its file is finished. -/
theorem Copying.ready (h : Copying themes begun s) (hflight : s.inFlight.length = 1) {outcome : CopyOutcome}
    (hlog : t.log = s.log ++ [.ended outcome]) (hnone : t.inFlight = [])
    (hfile : t.file = s.file.drop (if (CopyAction.ended outcome).isFinished then 1 else 0))
    (hbasename : t.basename = s.basename.drop (if (CopyAction.ended outcome).isFinished then 1 else 0))
    (hreads : t.readNull = s.readNull) (hcancelled : t.isCancelled = s.isCancelled) : Ready themes t := by
  have hne : s.inFlight ≠ [] := by
    intro hnil
    rw [hnil] at hflight
    cases hflight
  have hquiet : terminalSignals s.log = 0 := h.during (h.current hne).1 hne
  have hstarted : startedCopies s.log = endedCopies s.log + 1 := by rw [h.underWay, hflight]
  have hturn : CopiesInTurn themes s.log (.ended outcome) := hstarted
  have hfinished : finishedFiles t.log = finishedFiles s.log + if (CopyAction.ended outcome).isFinished then 1 else 0 := by
    rw [hlog, finishedFiles_append_one]
  refine ⟨hlog ▸ h.actions.next hturn, hnone, ?_, ?_, ?_, hreads.trans h.reads, ?_, fun i hi => ?_, fun hc => ?_⟩
  · simp [hlog, isStarted, isEnded, hstarted]
  · rw [hfile, h.file, List.drop_drop, hfinished]
  · rw [hbasename, h.basename, List.drop_drop, hfinished]
  · simp [hlog, isSignal, hquiet]
  · have hle : finishedFiles t.log ≤ finishedFiles s.log + 1 := by
      rw [hfinished]
      split <;> omega
    rw [hlog]
    exact (h.attempted i (by omega)).next _
  · rw [hcancelled] at hc
    rw [hlog]
    exact List.mem_append_left _ ((h.requested hc).resolve_right fun hsignal => hsignal hquiet)

theorem Copying.singleCopyComplete (h : Copying themes begun s) {k : ℕ} (hk : k < s.inFlight.length)
    (outcome : CopyOutcome) (random : UInt32) : Copying themes begun
      (({ s with inFlight := s.inFlight.eraseIdx k }.record (.ended outcome)).singleCopyComplete outcome random) := by
  have hflight : s.inFlight.length = 1 := by
    have := h.one
    omega
  have hnone : s.inFlight.eraseIdx k = [] := by
    apply List.eq_nil_of_length_eq_zero
    rw [List.length_eraseIdx_of_lt hk, hflight]
  obtain ⟨hbegun, hlt⟩ := h.current (List.ne_nil_of_length_pos (by omega))
  obtain ⟨file, files, basenames, hturn, hfile, hbasename⟩ := nodes_of_lt hlt h.file h.basename
  have hcontinue : ∀ outcome : CopyOutcome, (CopyAction.ended outcome).isFinished = true →
      Copying themes begun ({ s with inFlight := s.inFlight.eraseIdx k }.record (.ended outcome)).continueCopy := by
    intro outcome hfinal
    have hlog : ({ s with inFlight := s.inFlight.eraseIdx k }.record (.ended outcome)).log = s.log ++ [.ended outcome] := rfl
    simp only [continueCopy, record, hfile, hbasename]
    refine Ready.copyNext (h.ready hflight hlog hnone ?_ ?_ rfl rfl) hbegun
    · rw [hfile, if_pos hfinal]
      rfl
    · rw [hbasename, if_pos hfinal]
      rfl
  cases outcome with
  | copied => exact hcontinue .copied rfl
  | failed => exact hcontinue .failed rfl
  | alreadyExists =>
    have hready : Ready themes ({ s with inFlight := s.inFlight.eraseIdx k }.record (.ended .alreadyExists)) :=
      h.ready hflight rfl hnone rfl rfl rfl rfl
    have hsame : finishedFiles (s.log ++ [.ended .alreadyExists]) = finishedFiles s.log := finishedFiles_append_one _ _
    have hagain := hready.gFileCopyAsync hbegun (hsame ▸ hturn)
      (s.themeDir.getChild (themeBasename file ++ '-' :: printUnsigned random ++ ".desktop".toList))
    simpa only [CopyThemeDialog.singleCopyComplete, record, hfile, hbasename] using hagain
  | cancelled =>
    have hready : Ready themes ({ s with inFlight := s.inFlight.eraseIdx k }.record (.ended .cancelled)) :=
      h.ready hflight rfl hnone rfl rfl rfl rfl
    have hlast : (s.log ++ [CopyAction.ended .cancelled]).getLast? = some (.ended .cancelled) := List.getLast?_concat ..
    have hcancelled : CopiesInTurn themes (s.log ++ [.ended .cancelled]) .cancelled :=
      ⟨hready.ended, hready.quiet, hlast⟩
    exact hready.signal hbegun rfl hcancelled true

theorem Copying.timeoutDisplayDialog (h : Copying themes begun s) : Copying themes begun s.timeoutDisplayDialog := by
  simp only [CopyThemeDialog.timeoutDisplayDialog]
  split
  · exact { h with }
  · exact { h with }

theorem Copying.copyThemeDialogBegin (h : Copying themes begun s) (hbegun : ¬ begun) :
    Copying themes True s.copyThemeDialogBegin := by
  have hnone : s.inFlight = [] := by
    by_contra hne
    exact hbegun (h.current hne).1
  have hquiet : terminalSignals s.log = 0 := (h.before hbegun).2
  refine Ready.copyNext ⟨h.actions, hnone, ?_, h.file, h.basename, h.reads, hquiet, fun i hi => ?_,
    fun hc => ?_⟩ trivial
  · simpa [hnone] using h.underWay
  · exact h.attempted i (Nat.lt_add_right _ hi)
  · exact (h.requested hc).resolve_right fun hsignal => hsignal hquiet

theorem Copying.copyThemeDialogCancel (h : Copying themes begun s) :
    Copying themes begun (s.record .requested).copyThemeDialogCancel := by
  have hturn : CopiesInTurn themes s.log .requested := trivial
  have hstarted : startedCopies (s.log ++ [.requested]) = startedCopies s.log := startedCopies_append_one _ _
  have hended : endedCopies (s.log ++ [.requested]) = endedCopies s.log := endedCopies_append_one _ _
  have hfinished : finishedFiles (s.log ++ [.requested]) = finishedFiles s.log := finishedFiles_append_one _ _
  have hsignals : terminalSignals (s.log ++ [.requested]) = terminalSignals s.log := terminalSignals_append_one _ _
  simp only [CopyThemeDialog.copyThemeDialogCancel, record]
  constructor
  · constructor
    · exact h.actions.next hturn
    · exact h.one
    · dsimp only
      rw [hstarted, hended]
      exact h.underWay
    · dsimp only
      rw [hfinished]
      exact h.file
    · dsimp only
      rw [hfinished]
      exact h.basename
    · exact h.reads
    · dsimp only
      rw [hstarted, hsignals]
      exact h.before
    · dsimp only
      rw [hsignals]
      exact h.during
    · dsimp only
      rw [hsignals]
      exact h.after
  · dsimp only
    rw [hfinished]
    exact fun i hi => (h.attempted i hi).next _
  · dsimp only
    rw [hfinished]
    exact h.current
  · exact fun _ => .inl (List.mem_append_right _ (List.mem_singleton_self _))

/- Having begun is a matter of the events. -/
theorem Copying.congr {begun' : Prop} (h : Copying themes begun s) (hiff : begun ↔ begun') : Copying themes begun' s :=
  propext hiff ▸ h

theorem copying_step {x y : CopyThemeDialog × List Event} {e : Event} (h : Copying themes (.begin ∈ x.2) x.1)
    (hstep : step x e = some y) : Copying themes (.begin ∈ y.2) y.1 := by
  obtain ⟨honce, hstep⟩ := Option.ite_none_left_eq_some.1 hstep
  obtain ⟨t, ht, rfl⟩ := Option.map_eq_some_iff.1 hstep
  have hkept : ∀ e' : Event, e' ≠ .begin → (Event.begin ∈ x.2 ↔ Event.begin ∈ x.2 ++ [e']) := fun e' he => by
    rw [List.mem_append, List.mem_singleton, or_iff_left he.symm]
  cases e with
  | begin =>
    cases ht
    have hbegun : Event.begin ∉ x.2 := fun hb => honce ⟨rfl, hb⟩
    have hnow : Event.begin ∈ x.2 ++ [.begin] := List.mem_append_right _ (List.mem_singleton_self _)
    exact (h.copyThemeDialogBegin hbegun).congr (iff_of_true trivial hnow)
  | copyReady k outcome random =>
    obtain ⟨hk, ht⟩ := Option.ite_none_right_eq_some.1 ht
    cases ht
    exact (h.singleCopyComplete hk outcome random).congr (hkept _ nofun)
  | timeout =>
    obtain ⟨-, ht⟩ := Option.ite_none_right_eq_some.1 ht
    cases ht
    exact h.timeoutDisplayDialog.congr (hkept _ nofun)
  | cancel =>
    cases ht
    exact h.copyThemeDialogCancel.congr (hkept _ nofun)

/- The two lists that a dialog is made with. -/
theorem foldl_addFileToDialog (files : List GFile) (s : CopyThemeDialog) : files.foldl addFileToDialog s =
    { s with
      allFiles := s.allFiles ++ files.filter isTheme
      allBasenames := s.allBasenames ++ (files.filter isTheme).map themeBasename
      totalFiles := s.totalFiles + .ofNat (files.filter isTheme).length } := by
  induction files generalizing s with
  | nil => simp
  | cons file files ih =>
    rw [List.foldl_cons, ih, addFileToDialog]
    cases htheme : isTheme file with
    | false => simp [htheme]
    | true =>
      have hlength : UInt32.ofNat ((files.filter isTheme).length + 1) = 1 + UInt32.ofNat (files.filter isTheme).length := by
        rw [Nat.add_comm, UInt32.ofNat_add]
        rfl
      simp [htheme, hlength, UInt32.add_assoc]

theorem copyThemeDialogNew_eq (themeDir : GFile) (files : List GFile) : copyThemeDialogNew themeDir files =
    { themeDir := themeDir
      allFiles := files.filter isTheme
      allBasenames := (files.filter isTheme).map themeBasename
      file := files.filter isTheme
      basename := (files.filter isTheme).map themeBasename
      totalFiles := .ofNat (files.filter isTheme).length } := by
  simp [copyThemeDialogNew, foldl_addFileToDialog]

theorem copying_start (themeDir : GFile) (files : List GFile) :
    Copying (files.filter isTheme) False (copyThemeDialogNew themeDir files) := by
  rw [copyThemeDialogNew_eq]
  constructor
  · exact ⟨upheld_nil, Nat.zero_le 1, rfl, rfl, rfl, rfl, fun _ => ⟨rfl, rfl⟩, False.elim, False.elim⟩
  · exact fun i hi => absurd hi (Nat.not_lt_zero i)
  · exact fun hne => absurd rfl hne
  · exact fun hc => absurd hc Bool.false_ne_true

theorem copying_invariant (themeDir : GFile) (files : List GFile) :
    (copying themeDir files).Invariant fun x => Copying (files.filter isTheme) (.begin ∈ x.2) x.1 where
  start x := by
    rintro rfl
    exact (copying_start themeDir files).congr (iff_of_false not_false List.not_mem_nil)
  step _ _ _ h hn := copying_step h hn

/-- Whatever the files are and however the copies end, with cancellations at any moment: the
themes among them are copied in turn. -/
theorem themes_copied_inTurn (themeDir : GFile) (files : List GFile) (s : CopyThemeDialog) (es : List Event)
    (h : (copying themeDir files).Reachable (s, es)) : InTurn (files.filter isTheme) (.begin ∈ es) s :=
  ((copying_invariant themeDir files).reachable h).toInTurn

/- Two themes and a file that is none; the first theme is there already, and the second
cannot be copied. -/
def themeFolder : GFile := ⟨["themes".toList]⟩

def droppedFiles : List GFile :=
  [⟨["tmp".toList, "a.desktop".toList]⟩, ⟨["tmp".toList, "readme".toList]⟩, ⟨["tmp".toList, "b.desktop".toList]⟩]

def twoThemesCopied : List Event :=
  [.begin, .copyReady 0 .alreadyExists 7, .timeout, .copyReady 0 .copied 0, .copyReady 0 .failed 0]

def twoThemesLog : List CopyAction :=
  [.started ⟨⟨["tmp".toList, "a.desktop".toList]⟩, ⟨["themes".toList, "a.desktop".toList]⟩, false⟩,
    .ended .alreadyExists,
    .started ⟨⟨["tmp".toList, "a.desktop".toList]⟩, ⟨["themes".toList, "a-7.desktop".toList]⟩, false⟩,
    .ended .copied,
    .started ⟨⟨["tmp".toList, "b.desktop".toList]⟩, ⟨["themes".toList, "b.desktop".toList]⟩, false⟩,
    .ended .failed, .complete]

theorem themes_copied_twoThemes : ∃ s, (copying themeFolder droppedFiles).run
    (copyThemeDialogNew themeFolder droppedFiles, []) twoThemesCopied = some (s, twoThemesCopied) ∧
      s.log = twoThemesLog ∧ InTurn (droppedFiles.filter isTheme) (.begin ∈ twoThemesCopied) s := by
  obtain ⟨s, hrun, hlog⟩ : ∃ s, (copying themeFolder droppedFiles).run
      (copyThemeDialogNew themeFolder droppedFiles, []) twoThemesCopied = some (s, twoThemesCopied) ∧
        s.log = twoThemesLog :=
    ⟨_, rfl, by decide +kernel⟩
  have hreach := System.reachable_run (.start rfl) hrun
  exact ⟨s, hrun, hlog, themes_copied_inTurn themeFolder droppedFiles s twoThemesCopied hreach⟩

end CopyThemeDialog
end MateScreensaver
