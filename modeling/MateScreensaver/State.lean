/-!
The state of the running screensaver: the manager with its windows, jobs and
grab, and the sources of the main loop that have not run yet.
-/

namespace MateScreensaver

abbrev WindowId := Nat
abbrev MonitorId := Nat
/- Ids of GLib sources; 0 stands for no source. -/
abbrev SourceId := Nat

inductive GSSaverMode
  | blankOnly
  | random
  | single
  deriving DecidableEq, Repr

inductive DialogResponse
  | cancel
  | ok
  deriving DecidableEq, Repr

/- Why a deactivation was queued: the window was not locked when it was asked
to unlock, or a dialog of the given activation answered RESPONSE=OK. History
only, the code keeps no such record. -/
inductive Cause
  | notLocked
  | response (okRead : Option Nat)
  deriving DecidableEq, Repr

/- gs-window-x11.c:63. `visible` and `sensitive` are GTK's; `okRead` is the
activation in which a dialog of this window last printed RESPONSE=OK. -/
structure GSWindow where
  monitor : MonitorId
  visible : Bool := false
  sensitive : Bool := true
  obscured : Bool := false
  dialogUp : Bool := false
  lockEnabled : Bool
  userSwitchEnabled : Bool := false
  logoutEnabled : Bool := false
  keyboardEnabled : Bool := false
  logoutTimeout : Nat := 0
  logoutCommand : Option String := none
  keyboardCommand : Option String := none
  statusMessage : Option String := none
  lockBox : Bool := false
  lockSocket : Option UInt32 := none
  keyboardSocket : Option UInt32 := none
  popupDialogIdleId : SourceId := 0
  infoBarTimerId : SourceId := 0
  lockPid : Nat := 0
  lockWatchId : SourceId := 0
  dialogResponse : DialogResponse := .cancel
  dialogQuitRequested : Bool := false
  dialogShakeInProgress : Bool := false
  keyboardPid : Nat := 0
  keyboardWatchId : SourceId := 0
  okRead : Option Nat := none

/- gs-job.h -/
inductive GSJobStatus
  | invalid
  | running
  | stopped
  | killed
  | dead
  deriving DecidableEq, Repr

structure GSJob where
  command : Option String := none
  pid : Nat := 0
  status : GSJobStatus := .invalid
  deriving DecidableEq, Repr

/- gs-manager.c:47 -/
structure GSManager where
  windows : List WindowId := []
  jobs : Option (List (WindowId × GSJob)) := none
  lockTimeout : Int := 0
  cycleTimeout : Int := 0
  logoutTimeout : Int := 0
  lockEnabled : Bool := false
  logoutEnabled : Bool := false
  keyboardEnabled : Bool := false
  userSwitchEnabled : Bool := false
  throttled : Bool := false
  logoutCommand : Option String := none
  keyboardCommand : Option String := none
  statusMessage : Option String := none
  active : Bool := false
  lockActive : Bool := false
  dialogUp : Bool := false
  activateTime : Nat := 0
  lockTimeoutId : SourceId := 0
  cycleTimeoutId : SourceId := 0
  themes : List String := []
  saverMode : GSSaverMode := .blankOnly

inductive GrabTarget
  | root
  | offscreen
  | window (w : WindowId)
  deriving DecidableEq, Repr

inductive GrabOp
  | grab (target : GrabTarget) (noPointerGrab : Bool)
  | release
  deriving DecidableEq, Repr

/- gs-grab-x11.c, with the seat operations done so far. -/
structure GSGrab where
  grabWindow : Option GrabTarget := none
  noPointerGrab : Bool := false
  hideCursor : Bool := false
  ops : List GrabOp := []

/- An idle or watch of one window. -/
structure WindowSource where
  id : SourceId
  window : WindowId
  deriving DecidableEq, Repr

structure EmitDeactivated where
  id : SourceId
  window : WindowId
  cause : Cause
  deriving DecidableEq, Repr

structure WindowDeactivated where
  id : SourceId
  cause : Cause
  deriving DecidableEq, Repr

structure Timer where
  id : SourceId
  due : Nat
  interval : Nat
  deriving DecidableEq, Repr

/- The sources attached to the main loop, by callback, and the calls of
shake_dialog that are iterating it, innermost first. `now` is in milliseconds. -/
structure MainLoop where
  nextId : SourceId := 1
  now : Nat := 0
  emitDeactivatedIdle : List EmitDeactivated := []
  windowDeactivatedIdle : List WindowDeactivated := []
  popupDialogIdle : List WindowSource := []
  lockCommandWatch : List WindowSource := []
  keyboardCommandWatch : List WindowSource := []
  infoBarTimeout : List WindowSource := []
  activateLockTimeout : List Timer := []
  cycleTimeout : List Timer := []
  onIdleTimeout : List Timer := []
  releaseGrabTimeout : List Timer := []
  shaking : List WindowSource := []

/- The default GdkDisplay: connected monitors, and how often the manager's two
handlers are connected. -/
structure Display where
  monitors : List MonitorId := []
  monitorAdded : Nat := 0
  monitorRemoved : Nat := 0

/- The manager and what it owns. A window is live from gs_window_new until
gs_window_destroy; touching one after that is recorded. -/
structure Saver where
  manager : GSManager := {}
  windows : WindowId → Option GSWindow := fun _ => none
  nextWindow : WindowId := 0
  grab : GSGrab := {}
  display : Display := {}
  loop : MainLoop := {}
  activation : Nat := 0
  usedDestroyed : List WindowId := []

inductive SpawnResult
  | parseError
  | spawnError
  | spawned (pid : Nat) (pos : 0 < pid)
  deriving DecidableEq

/- What the X server, the file system and the clock answer while one event is
handled. `time` is time(NULL), `elapsed` the milliseconds since the last event. -/
structure SaverEnv where
  time : Nat
  time_pos : 0 < time
  elapsed : Nat
  grabRoot : Bool
  grabOffscreen : Bool
  monitorAtPointer : MonitorId
  spawnDialog : SpawnResult
  spawnKeyboard : SpawnResult
  spawnJob : WindowId → SpawnResult
  themeExec : String → Option (Option String)
  randomInt : Nat

namespace Saver

def setWindow (w : WindowId) (win : Option GSWindow) (s : Saver) : Saver :=
  { s with windows := fun v => if v = w then win else s.windows v }

def modifyWindow (w : WindowId) (f : GSWindow → GSWindow) (s : Saver) : Saver :=
  match s.windows w with
  | some win => s.setWindow w (some (f win))
  | none => { s with usedDestroyed := w :: s.usedDestroyed }

/- Reading a field of a window that is gone gives the all-zero record. -/
def window (w : WindowId) (s : Saver) : GSWindow :=
  (s.windows w).getD { monitor := 0, lockEnabled := false }

def Live (s : Saver) (w : WindowId) : Prop := (s.windows w).isSome = true

instance (s : Saver) (w : WindowId) : Decidable (s.Live w) :=
  inferInstanceAs (Decidable (_ = true))

end Saver
end MateScreensaver
