import MateScreensaver.Job
import MateScreensaver.Lib.Scan

/-!
A window and its lock dialog (gs-window-x11.c), together with the manager's
handlers of notify::dialog-up (gs-manager.c:1385), which run inside it.
-/

namespace MateScreensaver
open Scan

inductive ReadStatus
  | normal (line : Text)
  | eof
  | error
  | again
  deriving DecidableEq

/- The condition of a watch and, when there is input, what reading a line gives. -/
structure WatchInput where
  gIoIn : Bool
  gIoHup : Bool
  status : ReadStatus
  deriving DecidableEq

/-- `sscanf (line, " WINDOW ID= %u %c", &id, &c) == 1`. -/
def sscanfWindowId (line : Text) : Option UInt32 := do
  let l ← literal "WINDOW".toList (skipSpace line)
  let l ← literal "ID=".toList (skipSpace l)
  let (id, l) ← unsigned l
  if atEnd l then some id else none

/- `sscanf (line, " %u %c", &id, &c) == 1`, for the keyboard. -/
def sscanfId (line : Text) : Option UInt32 := do
  let (id, l) ← unsigned (skipSpace line)
  if atEnd l then some id else none

namespace MainLoop

/- g_source_remove, on the sources of each kind. -/
def removeId (id : SourceId) (l : List WindowSource) : List WindowSource := l.filter fun x => x.id ≠ id

def emitDeactivated (w : WindowId) (cause : Cause) (l : MainLoop) : MainLoop :=
  { l with nextId := l.nextId + 1,
           emitDeactivatedIdle := l.emitDeactivatedIdle ++ [⟨l.nextId, w, cause⟩] }

def addPopupDialogIdle (w : WindowId) (l : MainLoop) : MainLoop :=
  { l with nextId := l.nextId + 1, popupDialogIdle := l.popupDialogIdle ++ [⟨l.nextId, w⟩] }

def addLockCommandWatch (w : WindowId) (l : MainLoop) : MainLoop :=
  { l with nextId := l.nextId + 1, lockCommandWatch := l.lockCommandWatch ++ [⟨l.nextId, w⟩] }

def addKeyboardCommandWatch (w : WindowId) (l : MainLoop) : MainLoop :=
  { l with nextId := l.nextId + 1, keyboardCommandWatch := l.keyboardCommandWatch ++ [⟨l.nextId, w⟩] }

def addInfoBarTimeout (w : WindowId) (l : MainLoop) : MainLoop :=
  { l with nextId := l.nextId + 1, infoBarTimeout := l.infoBarTimeout ++ [⟨l.nextId, w⟩] }

end MainLoop

namespace Saver

def modifyLoop (f : MainLoop → MainLoop) (s : Saver) : Saver := { s with loop := f s.loop }
def modifyManager (f : GSManager → GSManager) (s : Saver) : Saver := { s with manager := f s.manager }
def modifyGrab (f : GSGrab → GSGrab) (s : Saver) : Saver := { s with grab := f s.grab }

/- A loop over manager->windows. -/
def forWindows (f : WindowId → Saver → Saver) (s : Saver) : Saver :=
  s.manager.windows.foldl (fun s w => f w s) s

def setSensitive (w : WindowId) (sensitive : Bool) (s : Saver) : Saver :=
  s.modifyWindow w fun win => { win with sensitive := sensitive }

/- gs-manager.c:1385 -/
def handleWindowDialogUp (w : WindowId) (s : Saver) : Saver :=
  let s := s.modifyManager fun m => { m with dialogUp := true }
  let s := s.forWindows fun v s => if v ≠ w then s.setSensitive v false else s
  let s := s.modifyGrab (.moveToWindow (.window w) true false)
  if !s.manager.throttled then s.managerSuspendJobs else s

/- gs-manager.c:1425 -/
def handleWindowDialogDown (env : SaverEnv) (w : WindowId) (s : Saver) : Saver :=
  let s := s.modifyGrab (.moveToWindow (.window w) false false)
  let s := s.forWindows fun v s => s.setSensitive v true
  let s := s.modifyManager fun m => { m with dialogUp := false }
  if !s.manager.throttled then s.managerResumeJobs env else s

/- gs-manager.c:1458 -/
def windowDialogUpChangedCb (env : SaverEnv) (w : WindowId) (s : Saver) : Saver :=
  if (s.window w).dialogUp then s.handleWindowDialogUp w else s.handleWindowDialogDown env w

/- gs-window-x11.c:1528 -/
def windowSetDialogUp (env : SaverEnv) (w : WindowId) (dialogUp : Bool) (s : Saver) : Saver :=
  if (s.window w).dialogUp = dialogUp then s
  else
    let s := s.modifyWindow w fun win => { win with dialogUp := dialogUp }
    s.windowDialogUpChangedCb env w

/- gs-window-x11.c:606 -/
def removePopupDialogIdle (w : WindowId) (s : Saver) : Saver :=
  let id := (s.window w).popupDialogIdleId
  if id ≠ 0 then
    let s := s.modifyLoop fun l => { l with popupDialogIdle := MainLoop.removeId id l.popupDialogIdle }
    s.modifyWindow w fun win => { win with popupDialogIdleId := 0 }
  else s

/- gs-window-x11.c:2487, one watch after the other. -/
def removeLockWatch (w : WindowId) (s : Saver) : Saver :=
  let id := (s.window w).lockWatchId
  if id ≠ 0 then
    let s := s.modifyLoop fun l => { l with lockCommandWatch := MainLoop.removeId id l.lockCommandWatch }
    s.modifyWindow w fun win => { win with lockWatchId := 0 }
  else s

def removeKeyboardWatch (w : WindowId) (s : Saver) : Saver :=
  let id := (s.window w).keyboardWatchId
  if id ≠ 0 then
    let s := s.modifyLoop fun l =>
      { l with keyboardCommandWatch := MainLoop.removeId id l.keyboardCommandWatch }
    s.modifyWindow w fun win => { win with keyboardWatchId := 0 }
  else s

def removeCommandWatches (w : WindowId) (s : Saver) : Saver :=
  (s.removeLockWatch w).removeKeyboardWatch w

/- gs-window-x11.c:1455; both children are signalled and waited for. -/
def gsWindowDialogFinish (w : WindowId) (s : Saver) : Saver :=
  s.modifyWindow w fun win => { win with keyboardPid := 0, lockPid := 0 }

/- Removing the box destroys the socket in it. -/
def removeLockBox (w : WindowId) (s : Saver) : Saver :=
  if (s.window w).lockBox then
    s.modifyWindow w fun win => { win with lockBox := false, lockSocket := none }
  else s

/-- gs-window-x11.c:1540 -/
def popdownDialog (env : SaverEnv) (w : WindowId) (s : Saver) : Saver :=
  let s := s.gsWindowDialogFinish w
  let s := s.windowSetDialogUp env w false
  let s := s.removeLockBox w
  let s := s.removePopupDialogIdle w
  s.removeCommandWatches w

/- gs-window-x11.c:1050 with the watch of a dialog. A command that cannot be
parsed or started leaves everything as it is. -/
def spawnDialogOnWindow (env : SaverEnv) (w : WindowId) (s : Saver) : Saver :=
  match env.spawnDialog with
  | .spawned pid _ =>
    let id := s.loop.nextId
    let s := s.modifyLoop (.addLockCommandWatch w)
    s.modifyWindow w fun win => { win with lockPid := pid, lockWatchId := id }
  | _ => s

def spawnKeyboardOnWindow (env : SaverEnv) (w : WindowId) (s : Saver) : Saver :=
  match env.spawnKeyboard with
  | .spawned pid _ =>
    let id := s.loop.nextId
    let s := s.modifyLoop (.addKeyboardCommandWatch w)
    s.modifyWindow w fun win => { win with keyboardPid := pid, keyboardWatchId := id }
  | _ => s

/- gs-window-x11.c:1694 -/
def popupDialog (env : SaverEnv) (w : WindowId) (s : Saver) : Saver :=
  let s := s.modifyWindow w fun win =>
    { win with dialogQuitRequested := false, dialogShakeInProgress := false }
  s.spawnDialogOnWindow env w

/- gs-window-x11.c:1751 -/
def popupDialogIdle (env : SaverEnv) (w : WindowId) (s : Saver) : Saver :=
  let s := s.popupDialog env w
  s.modifyWindow w fun win => { win with popupDialogIdleId := 0 }

/-- gs-window-x11.c:1761 -/
def gsWindowRequestUnlock (env : SaverEnv) (w : WindowId) (s : Saver) : Saver :=
  if !(s.window w).visible then s
  else if (s.window w).lockWatchId > 0 then s
  else if !(s.window w).lockEnabled then s.modifyLoop (.emitDeactivated w .notLocked)
  else
    let s := if (s.window w).popupDialogIdleId = 0 then
        let id := s.loop.nextId
        let s := s.modifyLoop (.addPopupDialogIdle w)
        s.modifyWindow w fun win => { win with popupDialogIdleId := id }
      else s
    s.windowSetDialogUp env w true

/- gs-window-x11.c:1794 -/
def gsWindowCancelUnlockRequest (env : SaverEnv) (w : WindowId) (s : Saver) : Saver :=
  s.popdownDialog env w

/-- gs-window-x11.c:974; gtk_widget_destroy ends the life of the window. Its
finalizer (gs-window-x11.c:2502) removes the timer of the info bar, but no
`emit_deactivated_idle`, whose id nobody keeps. -/
def gsWindowDestroy (env : SaverEnv) (w : WindowId) (s : Saver) : Saver :=
  let s := s.gsWindowCancelUnlockRequest env w
  let timer := (s.window w).infoBarTimerId
  let s := s.modifyLoop fun l => { l with infoBarTimeout := MainLoop.removeId timer l.infoBarTimeout }
  let s := s.modifyGrab (.windowGone w)
  s.setWindow w none

/- gs-window-x11.c:1370 -/
def embedKeyboard (env : SaverEnv) (w : WindowId) (s : Saver) : Saver :=
  if !(s.window w).keyboardEnabled || (s.window w).keyboardCommand.isNone then s
  else s.spawnKeyboardOnWindow env w

/- gs-window-x11.c:1396 -/
def createLockSocket (env : SaverEnv) (w : WindowId) (id : UInt32) (s : Saver) : Saver :=
  let s := s.modifyWindow w fun win => { win with lockSocket := some id, lockBox := true }
  if (s.window w).keyboardEnabled then s.embedKeyboard env w else s

/- The end of lock_command_watch once the dialog is finished. -/
def lockCommandFinished (env : SaverEnv) (w : WindowId) (s : Saver) : Saver :=
  let s := s.popdownDialog env w
  let s := if (s.window w).dialogResponse = .ok then
      s.modifyLoop (.emitDeactivated w (.response (s.window w).okRead))
    else s
  s.modifyWindow w fun win => { win with lockWatchId := 0 }

/- What one line of the dialog makes the window do: whether it ends the run, and
the state. shake_dialog iterates the main loop, so the callback is not over. -/
def lockCommandLine (env : SaverEnv) (w : WindowId) (id : SourceId) (line : Text) (s : Saver) :
    Bool × Saver :=
  if contains line "WINDOW ID=".toList then
    match sscanfWindowId line with
    | some xid => (false, s.createLockSocket env w xid)
    | none => (false, s)
  else if contains line "NOTICE=".toList then
    if contains line "NOTICE=AUTH FAILED".toList then
      let s := s.modifyWindow w fun win => { win with dialogShakeInProgress := true }
      (false, s.modifyLoop fun l => { l with shaking := ⟨id, w⟩ :: l.shaking })
    else (false, s)
  else if contains line "RESPONSE=".toList then
    if contains line "RESPONSE=OK".toList then
      (true, s.modifyWindow w fun win =>
        { win with dialogResponse := .ok, okRead := some s.activation })
    else (true, s.modifyWindow w fun win => { win with dialogResponse := .cancel })
  else if contains line "REQUEST QUIT".toList then
    (false, s.modifyWindow w fun win => { win with dialogQuitRequested := true })
  else (false, s)

/-- gs-window-x11.c:1567. The first component tells the main loop to keep the
watch; an error of the channel returns at once. -/
def lockCommandWatch (env : SaverEnv) (w : WindowId) (id : SourceId) (input : WatchInput)
    (s : Saver) : Bool × Saver :=
  if input.gIoIn then
    match input.status with
    | .normal line =>
      let (finished, s) := s.lockCommandLine env w id line
      if finished then (false, s.lockCommandFinished env w) else (true, s)
    | .eof => (false, s.lockCommandFinished env w)
    | .error => (false, s)
    | .again => (true, s)
  else if input.gIoHup then (false, s.lockCommandFinished env w)
  else (true, s)

/- The return of shake_dialog, gs-window-x11.c:1523. -/
def shakeDialogEnd (w : WindowId) (s : Saver) : Saver :=
  s.modifyWindow w fun win => { win with dialogShakeInProgress := false }

/- gs-window-x11.c:1316 -/
def keyboardCommandWatch (w : WindowId) (input : WatchInput) (s : Saver) : Bool × Saver :=
  let finished (s : Saver) : Bool × Saver :=
    (false, s.modifyWindow w fun win => { win with keyboardWatchId := 0, keyboardPid := 0 })
  if input.gIoIn then
    match input.status with
    | .normal line =>
      match sscanfId line with
      | some xid => (true, s.modifyWindow w fun win => { win with keyboardSocket := some xid })
      | none => (true, s)
    | .eof => finished s
    | .error => (false, s)
    | .again => (true, s)
  else if input.gIoHup then finished s
  else (true, s)

/- gs-window-x11.c:1134, when the plug of the dialog leaves its socket. -/
def lockPlugRemoved (w : WindowId) (s : Saver) : Saver :=
  s.modifyWindow w fun win => { win with lockBox := false, lockSocket := none }

/- gs-window-x11.c:930 -/
def gsWindowShowMessage (w : WindowId) (s : Saver) : Saver :=
  let old := (s.window w).infoBarTimerId
  let s := if old > 0 then
      s.modifyLoop fun l => { l with infoBarTimeout := MainLoop.removeId old l.infoBarTimeout }
    else s
  let id := s.loop.nextId
  let s := s.modifyLoop (.addInfoBarTimeout w)
  s.modifyWindow w fun win => { win with infoBarTimerId := id }

/- gs-window-x11.c:921 -/
def infoBarTimeout (w : WindowId) (s : Saver) : Saver :=
  s.modifyWindow w fun win => { win with infoBarTimerId := 0 }

def gsWindowSetLockEnabled (w : WindowId) (lockEnabled : Bool) (s : Saver) : Saver :=
  s.modifyWindow w fun win => { win with lockEnabled := lockEnabled }

/- gs-window-x11.c:1879 -/
def gsWindowSetLogoutTimeout (w : WindowId) (logoutTimeout : Int) (s : Saver) : Saver :=
  s.modifyWindow w fun win => { win with logoutTimeout := logoutTimeout.toNat }

end Saver
end MateScreensaver
