/-!
The idle watcher (gs-watcher-x11.c). It hears presence statuses of the session
manager and tells its owner through two signals. The owner and the main loop are
a `WatcherHost`, so that the same code runs under the monitor and on its own.
-/

namespace MateScreensaver

structure GSWatcher where
  enabled : Bool := true
  deltaNoticeTimeout : Nat := 10000
  active : Bool := false
  idle : Bool := false
  idleNotice : Bool := false
  idleId : Nat := 0
  statusMessage : Option String := none
  deriving DecidableEq, Repr

/- What the watcher uses of its surroundings: the place where it is stored, the
main loop, and the answers of the handlers of its two signals. -/
structure WatcherHost (σ : Type) where
  watcher : σ → GSWatcher
  setWatcher : GSWatcher → σ → σ
  timeoutAdd : Nat → σ → Nat × σ
  sourceRemove : Nat → σ → σ
  idleChanged : Bool → σ → Bool × σ
  idleNoticeChanged : Bool → σ → Bool × σ

section
variable {σ : Type} (h : WatcherHost σ)

/- gs-watcher-x11.c:190 -/
def gsWatcherSetSessionIdleNotice (inEffect : Bool) (s : σ) : Bool × σ :=
  if inEffect ≠ (h.watcher s).idleNotice then
    let (res, s) := h.idleNoticeChanged inEffect s
    if res then (true, h.setWatcher { h.watcher s with idleNotice := inEffect } s) else (false, s)
  else (false, s)

/- gs-watcher-x11.c:217 -/
def gsWatcherSetSessionIdle (isIdle : Bool) (s : σ) : Bool × σ :=
  if isIdle ≠ (h.watcher s).idle then
    let (res, s) := h.idleChanged isIdle s
    if res then (true, h.setWatcher { h.watcher s with idle := isIdle } s) else (false, s)
  else (false, s)

end

/- gs-watcher-x11.c:256 -/
def GSWatcher.resetState (w : GSWatcher) : GSWatcher :=
  { w with idle := false, idleNotice := false }

def GSWatcher.setActiveInternal (active : Bool) (w : GSWatcher) : GSWatcher :=
  if active ≠ w.active then { w.resetState with active := active } else w

/- gs-watcher-x11.c:278. The pending `on_idle_timeout` is not looked at. -/
def gsWatcherSetActive (active : Bool) (w : GSWatcher) : Bool × GSWatcher :=
  if w.active = active then (false, w)
  else if !w.enabled then (false, w)
  else (true, w.setActiveInternal active)

/- gs-watcher-x11.c:302 -/
def gsWatcherSetEnabled (enabled : Bool) (w : GSWatcher) : GSWatcher :=
  if w.enabled ≠ enabled then
    let isActive := w.active
    let w := { w with enabled := enabled }
    if !enabled && isActive then w.setActiveInternal false else w
  else w

section
variable {σ : Type} (h : WatcherHost σ)

/- gs-watcher-x11.c:338. The result tells the main loop to keep the timer. -/
def onIdleTimeout (s : σ) : Bool × σ :=
  let (res, s) := gsWatcherSetSessionIdle h true s
  let (_, s) := gsWatcherSetSessionIdleNotice h false s
  let s := if res then h.setWatcher { h.watcher s with idleId := 0 } s else s
  (!res, s)

/- The two ways set_status drops a pending timer, with and without clearing the id. -/
def removeIdleTimeout (s : σ) : σ :=
  if (h.watcher s).idleId > 0 then h.sourceRemove (h.watcher s).idleId s else s

def cancelIdleTimeout (s : σ) : σ :=
  if (h.watcher s).idleId > 0 then
    let s := h.sourceRemove (h.watcher s).idleId s
    h.setWatcher { h.watcher s with idleId := 0 } s
  else s

/- gs-watcher-x11.c:356 -/
def setStatus (status : Nat) (s : σ) : σ :=
  if !(h.watcher s).active then s
  else
    let isIdle := status == 3
    if !isIdle && !(h.watcher s).idleNotice then s
    else if isIdle then
      let (_, s) := gsWatcherSetSessionIdleNotice h isIdle s
      let s := removeIdleTimeout h s
      let (id, s) := h.timeoutAdd (h.watcher s).deltaNoticeTimeout s
      h.setWatcher { h.watcher s with idleId := id } s
    else
      let s := cancelIdleTimeout h s
      let (_, s) := gsWatcherSetSessionIdle h false s
      (gsWatcherSetSessionIdleNotice h false s).2

end
end MateScreensaver
