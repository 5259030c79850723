import MateScreensaver.Lib.Runs
import MateScreensaver.Window

/-!
The process behind a lock dialog (mate-screensaver-dialog.c): what it prints for the
window that started it, and what must have happened before it prints RESPONSE=OK.
-/

namespace MateScreensaver
open Runs Scan

/- MAX_FAILURES -/
def maxFailures : Nat := 5

inductive Output
  | windowId (id : UInt32)
  | responseCancel
  | responseOk
  | noticeAuthFailed
  | requestQuit
  deriving DecidableEq

def Output.line : Output → Text
  | .windowId id => "WINDOW ID=".toList ++ printUnsigned id
  | .responseCancel => "RESPONSE=CANCEL".toList
  | .responseOk => "RESPONSE=OK".toList
  | .noticeAuthFailed => "NOTICE=AUTH FAILED".toList
  | .requestQuit => "REQUEST QUIT".toList

def Output.text (o : Output) : Text := o.line ++ ['\n']

/- How far main () has come. -/
inductive Stage
  | privileged
  | unprivileged
  | looping
  | exited
  deriving DecidableEq

/- What the lock plug responds with. -/
inductive PlugResponse
  | ok
  | cancel
  | deleteEvent
  deriving DecidableEq

/-- The process: which of its sources are queued, the text in its pipe that nobody
has read yet, and, as history, all it has printed and the reasons there were for OK. -/
structure AuthDialog where
  stage : Stage := .privileged
  popupQueued : Bool := false
  plug : Bool := false
  checkQueued : Bool := false
  loopCounter : Nat := 0
  okQueued : Bool := false
  requestQueued : Bool := false
  timeoutQueued : Bool := false
  mainQuit : Bool := false
  pipe : Text := []
  printed : List Output := []
  verified : Bool := false
  lockInitFailed : Bool := false
  deriving DecidableEq

inductive DialogEvent
  | privilegedInitialization (ok : Bool)
  | gtkInitFailed
  | lockInitialization (ok : Bool)
  | popupDialogIdle
  | showCb (id : UInt32)
  | authCheckIdle (verified : Bool)
  | responseCb (response : PlugResponse)
  | quitResponseOk
  | responseRequestQuit
  | quitTimeoutCb
  | mainReturns
  | died
  deriving DecidableEq

namespace AuthDialog

/- printf and fflush of one line, which reaches the pipe as a whole. -/
def print (o : Output) (d : AuthDialog) : AuthDialog :=
  { d with pipe := d.pipe ++ o.text, printed := d.printed ++ [o] }

def exit (d : AuthDialog) : AuthDialog := { d with stage := .exited }

/- gtk_main_quit; the loop may still run what is due. -/
def gtkMainQuit (d : AuthDialog) : AuthDialog := { d with mainQuit := true }

/- mate-screensaver-dialog.c:123 -/
def responseLockInitFailed (d : AuthDialog) : AuthDialog :=
  { d with lockInitFailed := true }.print .responseOk

/- mate-screensaver-dialog.c:280, with what gs_auth_verify_user returns. -/
def doAuthCheck (res : Bool) (d : AuthDialog) : AuthDialog :=
  if res then { d with verified := true } else d.print .noticeAuthFailed

/- mate-screensaver-dialog.c:341 -/
def authCheckIdle (res : Bool) (d : AuthDialog) : AuthDialog :=
  let d := d.doAuthCheck res
  if res then { d with checkQueued := false, okQueued := true }
  else
    let d := { d with loopCounter := d.loopCounter + 1 }
    if d.loopCounter < maxFailures then d
    else { d with checkQueued := false, requestQueued := true, timeoutQueued := true }

/- mate-screensaver-dialog.c:318 -/
def responseCb (response : PlugResponse) (d : AuthDialog) : AuthDialog :=
  match response with
  | .ok => d
  | .cancel | .deleteEvent => (d.print .responseCancel).gtkMainQuit

/- What can happen now. While the user is asked, the main loop runs inside
gs_auth_verify_user as well. -/
def ready (d : AuthDialog) : DialogEvent → Bool
  | .privilegedInitialization _ => d.stage = .privileged
  | .gtkInitFailed | .lockInitialization _ => d.stage = .unprivileged
  | .popupDialogIdle => d.stage = .looping ∧ d.popupQueued = true
  | .showCb _ | .responseCb _ => d.stage = .looping ∧ d.plug = true
  | .authCheckIdle _ => d.stage = .looping ∧ d.checkQueued = true
  | .quitResponseOk => d.stage = .looping ∧ d.okQueued = true
  | .responseRequestQuit => d.stage = .looping ∧ d.requestQueued = true
  | .quitTimeoutCb => d.stage = .looping ∧ d.timeoutQueued = true
  | .mainReturns => d.stage = .looping ∧ d.mainQuit = true
  | .died => d.stage ≠ .exited

def handle (d : AuthDialog) : DialogEvent → AuthDialog
  | .privilegedInitialization ok =>
    if ok then { d with stage := .unprivileged } else d.responseLockInitFailed.exit
  | .gtkInitFailed => d.exit
  | .lockInitialization ok =>
    if ok then { d with stage := .looping, popupQueued := true } else d.responseLockInitFailed.exit
  | .popupDialogIdle => { d with popupQueued := false, plug := true, checkQueued := true }
  | .showCb id => d.print (.windowId id)
  | .authCheckIdle verified => d.authCheckIdle verified
  | .responseCb response => d.responseCb response
  | .quitResponseOk => ({ d with okQueued := false }.print .responseOk).gtkMainQuit
  | .responseRequestQuit => { d with requestQueued := false }.print .requestQuit
  | .quitTimeoutCb => { d with timeoutQueued := false }.gtkMainQuit
  | .mainReturns | .died => d.exit

def next (d : AuthDialog) (e : DialogEvent) : Option AuthDialog :=
  if d.ready e then some (d.handle e) else none

/- Some of the text in the pipe is read, however it is cut. -/
def take (line : Text) (d : AuthDialog) : Option AuthDialog :=
  if line.isPrefixOf d.pipe then some { d with pipe := d.pipe.drop line.length } else none

/-! ### What comes before an answer -/

/-- There is a reason for every OK, the user has no more tries than allowed, and what
is in the pipe was printed last. -/
structure Honest (d : AuthDialog) : Prop where
  ok : .responseOk ∈ d.printed → d.verified = true ∨ d.lockInitFailed = true
  queued : d.okQueued = true → d.verified = true
  early : d.stage = .privileged ∨ d.stage = .unprivileged → d.plug = false ∧ d.loopCounter = 0
  popup : d.popupQueued = true → d.plug = false ∧ d.loopCounter = 0
  check : d.checkQueued = true → d.plug = true ∧ d.loopCounter < maxFailures
  tries : d.loopCounter ≤ maxFailures
  piped : ∃ read, read ++ d.pipe = unlines (d.printed.map Output.line)

variable {d d' : AuthDialog} {e : DialogEvent}

theorem honest_start : ({} : AuthDialog).Honest where
  ok := fun h => nomatch h
  queued := fun h => nomatch h
  early := fun _ => ⟨rfl, rfl⟩
  popup := fun h => nomatch h
  check := fun h => nomatch h
  tries := Nat.zero_le _
  piped := ⟨[], rfl⟩

theorem Honest.print (h : d.Honest) {o : Output} (ho : o = .responseOk → d.verified = true ∨ d.lockInitFailed = true) :
    (d.print o).Honest := by
  refine { h with ok := fun hmem => ?_, piped := ?_ }
  · rcases List.mem_append.1 hmem with hmem | hmem
    · exact h.ok hmem
    · exact ho (List.mem_singleton.1 hmem).symm
  · obtain ⟨read, hread⟩ := h.piped
    refine ⟨read, ?_⟩
    show read ++ (d.pipe ++ o.text) = unlines ((d.printed ++ [o]).map Output.line)
    rw [← List.append_assoc, hread]
    simp [unlines, Output.text]

theorem Honest.exit (h : d.Honest) : d.exit.Honest :=
  { h with early := fun hs => by rcases hs with hs | hs <;> cases hs }

theorem Honest.responseLockInitFailed (h : d.Honest) : d.responseLockInitFailed.Honest := by
  have hfailed : ({ d with lockInitFailed := true } : AuthDialog).Honest := { h with ok := fun _ => .inr rfl }
  exact hfailed.print fun _ => .inr rfl

theorem not_early (hs : d.stage = .looping) : ¬ (d.stage = .privileged ∨ d.stage = .unprivileged) := by
  rw [hs]
  decide

theorem Honest.authCheckIdle (h : d.Honest) (hs : d.stage = .looping) (hc : d.checkQueued = true) (res : Bool) :
    (d.authCheckIdle res).Honest := by
  obtain ⟨hplug, hlt⟩ := h.check hc
  have hpopup : d.popupQueued = false := by
    cases hq : d.popupQueued
    · rfl
    · rw [(h.popup hq).1] at hplug
      cases hplug
  cases res
  · have hp : (d.print .noticeAuthFailed).Honest := h.print fun ho => by cases ho
    have hearly : d.stage = .privileged ∨ d.stage = .unprivileged → d.plug = false ∧ d.loopCounter + 1 = 0 :=
      fun he => absurd he (not_early hs)
    have hnone : d.popupQueued = true → d.plug = false ∧ d.loopCounter + 1 = 0 := fun hq => by
      rw [hpopup] at hq
      cases hq
    simp only [AuthDialog.authCheckIdle, doAuthCheck, Bool.false_eq_true, if_false]
    split
    · next hmore =>
      exact { hp with early := hearly, popup := hnone, check := fun _ => ⟨hplug, hmore⟩, tries := hlt }
    · exact { hp with early := hearly, popup := hnone, check := fun hf => (nomatch hf), tries := hlt }
  · exact { h with
      ok := fun _ => .inl rfl
      queued := fun _ => rfl
      check := fun hf => (nomatch hf) }

theorem Honest.handle (h : d.Honest) (hr : d.ready e = true) : (d.handle e).Honest := by
  cases e with
  | privilegedInitialization ok =>
    cases ok
    · exact h.responseLockInitFailed.exit
    · exact { h with early := fun _ => h.early (.inl (of_decide_eq_true hr)) }
  | gtkInitFailed => exact h.exit
  | lockInitialization ok =>
    have hfresh := h.early (.inr (of_decide_eq_true hr))
    cases ok
    · exact h.responseLockInitFailed.exit
    · exact { h with early := fun _ => hfresh, popup := fun _ => hfresh }
  | popupDialogIdle =>
    obtain ⟨hs, hq⟩ := of_decide_eq_true hr
    obtain ⟨-, h0⟩ := h.popup hq
    refine { h with early := fun he => absurd he (not_early hs), popup := fun hp => (nomatch hp), check := fun _ => ⟨rfl, ?_⟩ }
    show d.loopCounter < maxFailures
    rw [h0]
    decide
  | showCb id => exact h.print fun ho => by cases ho
  | authCheckIdle verified =>
    obtain ⟨hs, hc⟩ := of_decide_eq_true hr
    exact h.authCheckIdle hs hc verified
  | responseCb response =>
    have hprint : (d.print .responseCancel).Honest := h.print fun ho => by cases ho
    have hcancel : (d.print .responseCancel).gtkMainQuit.Honest := { hprint with }
    cases response with
    | ok => exact h
    | cancel => exact hcancel
    | deleteEvent => exact hcancel
  | quitResponseOk =>
    have hverified := h.queued (of_decide_eq_true hr).2
    have hoff : ({ d with okQueued := false } : AuthDialog).Honest := { h with queued := fun hf => (nomatch hf) }
    exact { hoff.print fun _ => .inl hverified with }
  | responseRequestQuit =>
    have hoff : ({ d with requestQueued := false } : AuthDialog).Honest := { h with }
    exact hoff.print fun ho => by cases ho
  | quitTimeoutCb => exact { h with }
  | mainReturns => exact h.exit
  | died => exact h.exit

theorem Honest.next (h : d.Honest) (hn : d.next e = some d') : d'.Honest := by
  unfold AuthDialog.next at hn
  split at hn
  · next hr =>
    cases hn
    exact h.handle hr
  · cases hn

theorem take_eq {line : Text} (hn : d.take line = some d') :
    d.pipe = line ++ d'.pipe ∧ d'.printed = d.printed ∧ d'.verified = d.verified ∧
    d'.lockInitFailed = d.lockInitFailed := by
  obtain ⟨hpre, hd⟩ := Option.ite_none_right_eq_some.1 hn
  cases hd
  obtain ⟨rest, hrest⟩ := List.isPrefixOf_iff_prefix.1 hpre
  refine ⟨?_, rfl, rfl, rfl⟩
  show d.pipe = line ++ d.pipe.drop line.length
  rw [← hrest, List.drop_left]

theorem Honest.take (h : d.Honest) {line : Text} (hn : d.take line = some d') : d'.Honest := by
  obtain ⟨hpipe, -⟩ := take_eq hn
  obtain ⟨-, hd⟩ := Option.ite_none_right_eq_some.1 hn
  cases hd
  obtain ⟨read, hread⟩ := h.piped
  refine { h with piped := ⟨read ++ line, ?_⟩ }
  rw [List.append_assoc, ← hread]
  exact congrArg (read ++ ·) hpipe.symm

/-! ### What the window reads -/

theorem windowId_text (id : UInt32) :
    (Output.windowId id).text = "WINDOW ID=".toList ++ (printUnsigned id ++ ['\n']) := List.append_assoc _ _ _

/- The window gets the id that was printed, whatever it is. -/
theorem sscanfWindowId_text (id : UInt32) : sscanfWindowId (Output.windowId id).text = some id := by
  have hfeed : ∀ c ∈ (['\n'] : Text).head?, c.isDigit = false := by
    intro c hc
    cases hc
    rfl
  have hdigits : unsigned (printUnsigned id ++ ['\n']) = some (id, ['\n']) := unsigned_print id ['\n'] hfeed
  have hword : literal "WINDOW".toList (skipSpace (Output.windowId id).text) =
      some (" ID=".toList ++ (printUnsigned id ++ ['\n'])) := by
    rw [windowId_text]
    simp [literal, skipSpace, isSpace]
  have hid : literal "ID=".toList (skipSpace (" ID=".toList ++ (printUnsigned id ++ ['\n']))) =
      some (printUnsigned id ++ ['\n']) := by
    simp [literal, skipSpace, isSpace]
  unfold sscanfWindowId
  rw [hword, Option.bind_eq_bind, Option.bind_some, hid, Option.bind_eq_bind, Option.bind_some, hdigits]
  rfl

theorem responseOk_line {o : Output} (h : "RESPONSE=OK".toList <:+: o.line) : o = .responseOk := by
  cases o with
  | windowId id =>
    have hr : 'R' ∈ "WINDOW ID=".toList ++ printUnsigned id := h.subset (by decide)
    rcases List.mem_append.1 hr with hr | hr
    · exact absurd hr (by decide)
    · exact absurd (printUnsigned_digits id 'R' hr) (by decide)
  | responseOk => rfl
  | responseCancel => exact absurd h (by decide)
  | noticeAuthFailed => exact absurd h (by decide)
  | requestQuit => exact absurd h (by decide)

/- An OK that is read was printed. -/
theorem Honest.read_ok (h : d.Honest) {line : Text} (hn : d.take line = some d')
    (hok : contains line "RESPONSE=OK".toList = true) : .responseOk ∈ d.printed := by
  obtain ⟨hpipe, -⟩ := take_eq hn
  obtain ⟨read, hread⟩ := h.piped
  have hin : "RESPONSE=OK".toList <:+: unlines (d.printed.map Output.line) := by
    refine (contains_iff.1 hok).trans ⟨read, d'.pipe, ?_⟩
    rw [← hread, hpipe, List.append_assoc]
  obtain ⟨l, hl, hp⟩ := infix_unlines (by decide) (by decide) hin
  obtain ⟨o, ho, rfl⟩ := List.mem_map.1 hl
  rw [responseOk_line hp] at ho
  exact ho

end AuthDialog
end MateScreensaver
