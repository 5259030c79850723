import MateScreensaver.AuthDialog
import MateScreensaver.TypeAhead
import MateScreensaver.Lib.Timeouts

/-!
The lock plug in the dialog's process (gs-lock-plug.c, mate-screensaver-dialog.c): its entry and
buttons, the keys that come before it is ready, its two timeouts, and the main loop that a prompt
runs until somebody answers.
-/

namespace MateScreensaver
open Runs Scan Timeouts

/- A key with the string it types. -/
structure PlugKey where
  event : GdkEventKey
  string : Text
deriving DecidableEq

def PlugKey.isReturn (k : PlugKey) : Bool :=
  k.event.keyval = GdkEventKey.gdkKeyReturn || k.event.keyval = GdkEventKey.gdkKeyKPEnter

def PlugKey.isEscape (k : PlugKey) : Bool := k.event.keyval = GdkEventKey.gdkKeyEscape

inductive PlugCallback
  | dialogTimedOut
  | responseCancelIdleCb
  | resetIdleCb
deriving DecidableEq

inductive DefaultWidget
  | unlockButton
  | cancelButton
deriving DecidableEq

/- gs-lock-plug.c:533, where no response is GTK_RESPONSE_NONE. -/
structure RunInfo where
  responseId : Option PlugResponse := none
  quit : Bool := false
deriving DecidableEq

/- DIALOG_TIMEOUT_MSEC, and the delays of the other two timeouts. -/
def dialogTimeoutMsec : ℕ := 60000
def responseIdleMsec : ℕ := 2000
def resetIdleMsec : ℕ := 3000

/-- The plug with the timeouts of its process. The fields from `lastActivity` on are history: when
somebody last did something, how often the time has expired, the keys that were typed for the
entry, those it has got, and the answers that prompts were given. -/
structure LockPlug where
  context : Context PlugCallback := {}
  cancelTimeoutId : ℕ := 0
  responseIdleId : ℕ := 0
  visible : Bool := false
  entrySensitive : Bool := true
  areaSensitive : Bool := true
  unlockSensitive : Bool := true
  defaultWidget : DefaultWidget := .unlockButton
  entry : List PlugKey := []
  keyEvents : List PlugKey := []
  runInfo : Option RunInfo := none
  verifying : Bool := false
  lastActivity : ℕ := 0
  fired : ℕ := 0
  typed : List PlugKey := []
  received : List PlugKey := []
  answers : List (Option (List PlugKey)) := []
deriving DecidableEq

structure PlugProcess where
  dialog : AuthDialog := {}
  plug : LockPlug := {}
deriving DecidableEq

namespace LockPlug

/- gs_lock_plug_run waits for an answer. -/
def asked (p : LockPlug) : Bool :=
  match p.runInfo with
  | some ri => !ri.quit
  | none => false

/- gs_lock_plug_set_sensitive -/
def setSensitive (sensitive : Bool) (p : LockPlug) : LockPlug :=
  { p with entrySensitive := sensitive, areaSensitive := sensitive }

/- gs-lock-plug.c:374 -/
def removeCancelTimeout (p : LockPlug) : LockPlug :=
  if 0 < p.cancelTimeoutId then { p with context := p.context.remove p.cancelTimeoutId, cancelTimeoutId := 0 } else p

/- gs-lock-plug.c:384 -/
def removeResponseIdle (p : LockPlug) : LockPlug :=
  if 0 < p.responseIdleId then { p with context := p.context.remove p.responseIdleId, responseIdleId := 0 } else p

def addCancelTimeout (p : LockPlug) : LockPlug :=
  { p with context := p.context.add dialogTimeoutMsec .dialogTimedOut, cancelTimeoutId := p.context.nextId }

def addResponseIdle (p : LockPlug) : LockPlug :=
  { p with context := p.context.add responseIdleMsec .responseCancelIdleCb, responseIdleId := p.context.nextId }

/- gs-lock-plug.c:498 -/
def restartCancelTimeout (p : LockPlug) : LockPlug := p.removeCancelTimeout.addCancelTimeout

/- Somebody has done something. -/
def active (p : LockPlug) : LockPlug := { p with lastActivity := p.context.now }

/- gs_lock_plug_disable_prompt -/
def disablePrompt (p : LockPlug) : LockPlug :=
  { p with unlockSensitive := false, entrySensitive := false, defaultWidget := .cancelButton }

/- gs-lock-plug.c:437 -/
def dialogTimedOut (p : LockPlug) : LockPlug :=
  ({ p with fired := p.fired + 1 }.setSensitive false).removeResponseIdle.addResponseIdle

/- gs-lock-plug.c:981 -/
def queueKeyEvent (k : PlugKey) (p : LockPlug) : LockPlug :=
  { p with keyEvents := k :: p.keyEvents, typed := p.typed ++ [k] }

/- gs-lock-plug.c:945, of a plug that is not to be seen; the id is printed by show_cb. -/
def onShow (p : LockPlug) : LockPlug := { p with visible := true }.restartCancelTimeout

/- The handlers that gs_lock_plug_run has connected. -/
def runResponseHandler (response : PlugResponse) (p : LockPlug) : LockPlug :=
  { p with runInfo := p.runInfo.map fun _ => { responseId := some response, quit := true } }

def runUnmapHandler (p : LockPlug) : LockPlug :=
  { p with visible := false, runInfo := p.runInfo.map fun ri => { ri with quit := true } }

/- What gs_lock_plug_get_text leaves, and the rest of request_response and of the message
handler. `converts` tells whether the text can be written in the locale. -/
def runReturns (ri : RunInfo) (converts : Bool) (p : LockPlug) : LockPlug :=
  let p := { p with runInfo := none }
  if ri.responseId = some .ok then
    let text := p.entry
    let p := { p with entry := [] }.disablePrompt
    if converts then { p with answers := p.answers ++ [some text] }.setSensitive false
    else { p with answers := p.answers ++ [none] }
  else { p.disablePrompt with answers := p.answers ++ [none] }

end LockPlug

namespace PlugProcess

def onPlug (f : LockPlug → LockPlug) (x : PlugProcess) : PlugProcess := { x with plug := f x.plug }

/- gs-lock-plug.c:394. The dialog's handler was connected first, then the one of the loop. -/
def response (r : PlugResponse) (x : PlugProcess) : PlugProcess :=
  if r = .ok ∨ r = .cancel then
    let plug := x.plug.removeCancelTimeout.removeResponseIdle
    let plug := if r = .cancel then { plug with entry := [] } else plug
    { dialog := x.dialog.responseCb r, plug := plug.runResponseHandler r }
  else x

/- gtk_window_activate_default -/
def activateDefault (x : PlugProcess) : PlugProcess :=
  match x.plug.defaultWidget with
  | .unlockButton => if x.plug.unlockSensitive && x.plug.areaSensitive then x.response .ok else x
  | .cancelButton => if x.plug.areaSensitive then x.response .cancel else x

/- The entry gets a key. -/
def deliver (k : PlugKey) (x : PlugProcess) : PlugProcess :=
  let x := x.onPlug fun p => { p with received := p.received ++ [k] }
  if k.isReturn then x.activateDefault else x.onPlug fun p => { p with entry := p.entry ++ [k] }

/- The loop of gs-lock-plug.c:992, over the keys in the order they came in. -/
def forward : List PlugKey → PlugProcess → PlugProcess
  | [], x => x.onPlug fun p => { p with keyEvents := [] }
  | k :: ks, x => forward ks (x.deliver k)

def forwardKeyEvents (x : PlugProcess) : PlugProcess := x.forward x.plug.keyEvents.reverse

/- gs_lock_plug_enable_prompt -/
def enablePrompt (x : PlugProcess) : PlugProcess :=
  let x := x.onPlug fun p => { p with unlockSensitive := true, defaultWidget := .unlockButton, entrySensitive := true }
  x.forwardKeyEvents.onPlug LockPlug.restartCancelTimeout

/- gtk_widget_show -/
def widgetShow (id : UInt32) (x : PlugProcess) : PlugProcess :=
  if x.plug.visible then x else { dialog := x.dialog.print (.windowId id), plug := x.plug.onShow }

/- mate-screensaver-dialog.c:129, until the loop of gs_lock_plug_run runs. -/
def requestResponse (x : PlugProcess) : PlugProcess :=
  (x.onPlug fun p => p.active.setSensitive true).enablePrompt.onPlug fun p => { p with runInfo := some {} }

/- gs-lock-plug.c:1494, with what GTK does with a key that is left to it. -/
def entryKeyPress (k : PlugKey) (x : PlugProcess) : PlugProcess :=
  let x := x.onPlug fun p => p.active.restartCancelTimeout
  if x.plug.entrySensitive then
    let x := (x.onPlug fun p => { p with typed := p.typed ++ [k] }).deliver k
    if k.isEscape then x.response .cancel else x
  else if k.string = [] then x
  else x.onPlug (LockPlug.queueKeyEvent k)

/- gs-lock-plug.c:1884 -/
def switchUserButtonClicked (x : PlugProcess) : PlugProcess :=
  x.onPlug fun p => (p.active.removeResponseIdle.setSensitive false).addResponseIdle

def callback (cb : PlugCallback) (x : PlugProcess) : PlugProcess :=
  match cb with
  | .dialogTimedOut => x.onPlug LockPlug.dialogTimedOut
  | .responseCancelIdleCb => (x.onPlug fun p => { p with responseIdleId := 0 }).response .cancel
  | .resetIdleCb => x.onPlug (LockPlug.setSensitive true)

/- mate-screensaver-dialog.c:339, when gs_auth_verify_user returns. -/
def verifyUserReturns (res : Bool) (x : PlugProcess) : PlugProcess :=
  let dialog := x.dialog.authCheckIdle res
  let plug := { x.plug with verifying := false }
  if res = false ∧ dialog.loopCounter < maxFailures then
    { dialog, plug := { plug with context := plug.context.add resetIdleMsec .resetIdleCb } }
  else { dialog, plug }

end PlugProcess

inductive PlugEvent
  | main (e : DialogEvent)
  | authCheckIdle
  | prompt (id : UInt32)
  | message (id : UInt32)
  | runReturns (converts : Bool)
  | verifyUserReturns (res : Bool)
  | keyPress (k : PlugKey)
  | unlockButtonClicked
  | cancelButtonClicked
  | switchUserButtonClicked
  | takeNote
  | submitNote
  | cancelNote
  | deleteEvent
  | unmap
  | dispatch (id : ℕ)
  | passes (time : ℕ)

/- What main () and its sources do by themselves. -/
def DialogEvent.isMain : DialogEvent → Bool
  | .showCb _ | .authCheckIdle _ | .responseCb _ => false
  | _ => true

namespace PlugProcess

/- While the user is asked the innermost loop dispatches whatever is due; main () can only go on
when nobody waits for gs_auth_verify_user. -/
def ready (x : PlugProcess) : PlugEvent → Bool
  | .main e => e.isMain && x.dialog.ready e && (e ≠ .mainReturns || !x.plug.verifying)
  | .authCheckIdle => x.dialog.ready (.authCheckIdle true) && !x.plug.verifying
  | .prompt _ | .message _ => x.dialog.stage = .looping ∧ x.dialog.plug = true ∧ x.plug.verifying = true ∧ x.plug.runInfo = none
  | .runReturns _ => x.dialog.stage = .looping ∧ x.plug.runInfo.isSome = true ∧ x.plug.asked = false
  | .verifyUserReturns _ =>
    x.dialog.ready (.authCheckIdle true) && x.plug.verifying && decide (x.plug.runInfo = none)
  | .keyPress _ | .deleteEvent | .unmap | .cancelNote | .submitNote =>
    x.dialog.stage = .looping ∧ x.dialog.plug = true ∧ x.plug.visible = true
  | .unlockButtonClicked =>
    x.dialog.stage = .looping ∧ x.dialog.plug = true ∧ x.plug.areaSensitive = true ∧ x.plug.unlockSensitive = true
  | .cancelButtonClicked | .switchUserButtonClicked | .takeNote =>
    x.dialog.stage = .looping ∧ x.dialog.plug = true ∧ x.plug.areaSensitive = true
  | .dispatch _ => x.dialog.stage = .looping ∧ x.dialog.plug = true
  | .passes time => !x.plug.asked || x.plug.context.waits time

def handle (x : PlugProcess) : PlugEvent → Option PlugProcess
  | .main e => some { x with dialog := x.dialog.handle e }
  | .authCheckIdle => some (x.onPlug fun p => { p.disablePrompt with verifying := true })
  | .prompt id => some (x.widgetShow id).requestResponse
  | .message id => some (x.widgetShow id)
  | .runReturns converts => x.plug.runInfo.map fun ri => x.onPlug (LockPlug.runReturns ri converts)
  | .verifyUserReturns res => some (x.verifyUserReturns res)
  | .keyPress k => some (x.entryKeyPress k)
  | .unlockButtonClicked => some (x.response .ok)
  | .cancelButtonClicked | .submitNote | .deleteEvent => some (x.response .cancel)
  | .switchUserButtonClicked => some x.switchUserButtonClicked
  | .takeNote => some (x.onPlug fun p => p.active.restartCancelTimeout)
  | .cancelNote => some (x.onPlug fun p => { p.active.restartCancelTimeout with defaultWidget := .unlockButton })
  | .unmap => some (x.onPlug LockPlug.runUnmapHandler)
  | .dispatch id =>
    (x.plug.context.dispatch id).map fun r => (x.onPlug fun p => { p with context := r.2 }).callback r.1.callback
  | .passes time => some (x.onPlug fun p => { p with context := p.context.passes time })

def next (x : PlugProcess) (e : PlugEvent) : Option PlugProcess := if x.ready e then x.handle e else none

def system : System PlugProcess PlugEvent where
  init x := x = {}
  next := next

end PlugProcess
end MateScreensaver
