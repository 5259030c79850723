import MateScreensaver.Handlers

/-!
One event at a time: which events lock, which unlock, when a dialog fails, and
the agreement over all reachable states.
-/

namespace MateScreensaver
open Runs

namespace Screensaver
open LockScreen

variable {s t u : Screensaver} {env : Env} {r g p : Prop}

/-! ### Kinds of events -/

/- Signals of the system bus are looked at for logind or for ConsoleKit. -/
def hearsLogind (s : Screensaver) : Bool := s.config.withSystemd && s.listener.haveSystemd
def hearsConsoleKit (s : Screensaver) : Bool := !s.hearsLogind && s.config.withConsoleKit

/-- Explicit requests to lock. -/
def lockRequest (s : Screensaver) : Event → Bool
  | .sessionCall _ .lock => true
  | .systemSignal _ (.logindLock path) => s.hearsLogind && s.messagePathIsOurSession path
  | .systemSignal _ (.ckLock path) => s.hearsConsoleKit && s.messagePathIsOurSession path
  | _ => false

/-- Explicit requests to unlock. -/
def unlockRequest (s : Screensaver) : Event → Bool
  | .sessionCall _ .unlock => true
  | .sessionCall _ .quit => true
  | .sessionCall _ (.setActive _ (some false)) => true
  | .systemSignal _ (.logindUnlock path) => s.hearsLogind && s.messagePathIsOurSession path
  | .systemSignal _ (.ckUnlock path) => s.hearsConsoleKit && s.messagePathIsOurSession path
  | _ => false

/-- The events that turn an unlocked manager into a locked one. -/
def Locks (env : Env) (s : Screensaver) : Event → Prop
  | .activateLockTimeout _ => s.saver.manager.lockEnabled = true ∧ s.saver.manager.lockActive = false
  | .keyChanged k => s.saver.lockDue env.toSaverEnv
      ((s.prefs.keyChanged k).lockEnabled && !(s.prefs.keyChanged k).lockDisabled)
      (s.prefs.keyChanged k).lockTimeout
  | e => s.lockRequest e = true ∧ s.prefs.lockDisabled = false ∧ s.saver.manager.lockActive = false ∧
      (s.saver.manager.active = true ∨ env.grabRoot = true)

/- The dialog can be started, and reading what it prints is no error. -/
def DialogWorks (env : Env) : Event → Prop
  | .popupDialogIdle _ => SpawnResult.started env.spawnDialog = true
  | .lockCommandWatch _ input => ¬ (input.gIoIn = true ∧ input.status = .error)
  | _ => True

/- The events in which gs_listener_set_active (FALSE) may be called. -/
def Ends (s : Screensaver) (e : Event) : Prop :=
  s.unlockRequest e = true ∨ ∃ id, e = .windowDeactivatedIdle id

/-! ### Windows and monitors -/

theorem keeps_repeated {f : Saver → Saver} (h : ∀ v, Saver.Keeps r v (f v)) (n : Nat) (v : Saver) :
    Saver.Keeps r v (repeated f n v) := by
  induction n generalizing v with
  | zero => exact .refl
  | succ n ih => exact (h v).trans (ih (f v))

theorem keeps_monitorAdded (env : Env) (m : MonitorId) (v : Saver) :
    Saver.Keeps r v (monitorAdded env m v) := by
  let v' : Saver := { v with display := { v.display with monitors := v.display.monitors ++ [m] } }
  have hv : Saver.Keeps r v v' := Saver.keeps_of_view rfl
  exact hv.trans (keeps_repeated (fun u => Saver.keeps_onDisplayMonitorAdded env.toSaverEnv u m) _ v')

theorem keeps_monitorRemoved (env : Env) (m : MonitorId) (v : Saver) :
    Saver.Keeps r v (monitorRemoved env m v) := by
  let v' : Saver := { v with display := { v.display with
    monitors := v.display.monitors.filter fun x => x ≠ m } }
  have hv : Saver.Keeps r v v' := Saver.keeps_of_view rfl
  exact hv.trans (keeps_repeated (fun u => Saver.keeps_onDisplayMonitorRemoved env.toSaverEnv u m) _ v')

theorem findSource_mem {id : SourceId} {l : List WindowSource} {x : WindowSource}
    (h : MainLoop.findSource id l = some x) : x ∈ l ∧ x.id = id :=
  ⟨List.mem_of_find?_eq_some h, by simpa using List.find?_some h⟩

theorem due_mem {v : Saver} {id : SourceId} {timer : Timer}
    (h : v.loop.due id v.loop.activateLockTimeout = some timer) : id ∈ v.view.timers := by
  have hmem : timer ∈ v.loop.activateLockTimeout := List.mem_of_find?_eq_some h
  have hp := List.find?_some (p := fun t : Timer => decide (t.id = id ∧ t.due ≤ v.loop.now)) h
  have htimer : timer.id = id := (of_decide_eq_true hp).1
  exact List.mem_map.2 ⟨timer, hmem, htimer⟩

theorem keeps_popupDialogIdle {v : Saver} {x : WindowSource} {env : SaverEnv}
    (hx : x ∈ v.loop.popupDialogIdle) :
    Saver.Keeps (SpawnResult.started env.spawnDialog = true) v
      ((v.popupDialogIdle env x.window).modifyLoop fun l =>
        { l with popupDialogIdle := MainLoop.removeId x.id l.popupDialogIdle }) := by
  rw [Saver.Keeps, Saver.view_popupDialogIdle]
  exact .popupRun hx

/- The dispatch of a dialog's watch ends the run, goes on with it, or leaves the
window behind after an error. -/
theorem keeps_lockCommandWatch {v : Saver} {x : WindowSource} {env : Env} {input : WatchInput}
    (hx : x ∈ v.loop.lockCommandWatch) :
    Saver.Keeps (¬ (input.gIoIn = true ∧ input.status = .error)) v
      (lockCommandWatch env x input v) := by
  have hfinish : ∀ (r : Prop) (v : Saver), x ∈ v.loop.lockCommandWatch → Saver.Keeps r v
      ((v.lockCommandFinished env.toSaverEnv x.window).modifyLoop fun l =>
        { l with lockCommandWatch := MainLoop.removeId x.id l.lockCommandWatch }) := by
    intro r v hx
    rw [Saver.Keeps, Saver.view_detach, Saver.view_lockCommandFinished]
    exact .finish hx
  simp only [lockCommandWatch, Saver.lockCommandWatch]
  cases hin : input.gIoIn
  · cases hhup : input.gIoHup
    · exact .refl
    · exact hfinish _ v hx
  · cases hst : input.status with
    | normal line =>
      rcases Saver.lockCommandLine_view env.toSaverEnv v x.window x.id line with ⟨answer, hend, hview, -⟩ | ⟨hgo, hframe⟩
      · have hmem : x ∈ (v.lockCommandLine env.toSaverEnv x.window x.id line).2.loop.lockCommandWatch := by
          show x ∈ (v.lockCommandLine env.toSaverEnv x.window x.id line).2.view.watch
          rw [hview]
          exact hx
        have hrespond (r : Prop) : Saver.Keeps r v (v.lockCommandLine env.toSaverEnv x.window x.id line).2 := by
          rw [Saver.Keeps, hview]
          exact LockScreen.Keeps.respond hx
        simp only [hend, if_true, Bool.false_eq_true, if_false]
        exact (hrespond _).trans (hfinish _ _ hmem)
      · simp only [hgo, if_true, Bool.false_eq_true, if_false]
        exact hframe.keeps
    | eof => exact hfinish _ v hx
    | error =>
      intro hs
      have hk := LockScreen.Keeps.detach (a := v.view) (x := x) hs
      exact ⟨hk.toSame, hk.sound, hk.listed, hk.guarded, fun hn => absurd ⟨rfl, rfl⟩ hn⟩
    | again => exact .refl

theorem frame_keyboardCommandWatch (x : WindowSource) (input : WatchInput) (v : Saver) :
    Saver.Frame v (keyboardCommandWatch x input v) := by
  have hwatch : (v.keyboardCommandWatch x.window input).2.view = v.view := by
    simp only [Saver.keyboardCommandWatch]
    split
    · split
      · split
        · exact Saver.view_modify_same v x.window fun _ => rfl
        · rfl
      · exact Saver.view_modify_same v x.window fun _ => rfl
      · rfl
      · rfl
    · split
      · exact Saver.view_modify_same v x.window fun _ => rfl
      · rfl
  refine Saver.frame_of_view ?_
  simp only [keyboardCommandWatch]
  split
  · exact hwatch
  · exact hwatch

theorem keeps_emitDeactivatedIdle {v : Saver} {x : EmitDeactivated}
    (hx : x ∈ v.loop.emitDeactivatedIdle) :
    Saver.Keeps r v ((v.emitDeactivatedIdle x.window x.cause).modifyLoop fun l =>
      { l with emitDeactivatedIdle := l.emitDeactivatedIdle.filter fun y => y.id ≠ x.id }) := by
  have hview : ((v.emitDeactivatedIdle x.window x.cause).modifyLoop fun l =>
      { l with emitDeactivatedIdle := l.emitDeactivatedIdle.filter fun y => y.id ≠ x.id }).view
        = v.view.emitRun x := by
    have hlive : v.Live x.window ↔ (v.view.window x.window).isSome = true := by
      simp [Saver.Live, Saver.view]
    simp only [Saver.emitDeactivatedIdle, emitRun]
    by_cases h : v.Live x.window
    · rw [if_pos h, if_pos (hlive.1 h)]
      rfl
    · rw [if_neg h, if_neg fun h' => h (hlive.2 h')]
      rfl
  rw [Saver.Keeps, hview]
  exact .emitRun hx

/-! ### Messages -/

theorem preserves_dbusAddRefEntry {type : RefType} {sender : BusName} {args : Option (String × String)}
    (h : s.listenerDbusAddRefEntry env type sender args = some t) : Preserves r g p s t := by
  simp only [listenerDbusAddRefEntry] at h
  split at h
  · cases h
    exact preserves_send rfl
  · obtain ⟨cookie, -, rfl⟩ := Option.map_eq_some_iff.1 h
    exact (preserves_addRefEntry type _).trans (preserves_send rfl)

theorem preserves_dbusRemoveRefEntry (env : Env) (type : RefType) (cookie : Option Nat) :
    Preserves r g p s (s.listenerDbusRemoveRefEntry env type cookie) := by
  simp only [listenerDbusRemoveRefEntry]
  split
  · exact preserves_send rfl
  · exact (preserves_removeRefEntry type _).trans (preserves_send rfl)

theorem preserves_listenerShowMessage {args : Option (String × String × String)}
    (h : s.listenerShowMessage env args = some t) : Preserves r g p s t := by
  simp only [listenerShowMessage] at h
  split at h
  · split at h
    · cases h
      exact preserves_send rfl
    · obtain ⟨u, hu, rfl⟩ := Option.map_eq_some_iff.1 h
      exact (preserves_showMessage hu).trans (preserves_send rfl)
  · cases h
    exact preserves_send rfl

theorem preserves_sessionCall {sender : BusName} {call : SessionCall}
    (h : (s.listenerDbusHandleSessionMessage env sender call).map Prod.snd = some t) :
    Preserves r (Locks env s (.sessionCall sender call) → s.Quiet)
      (¬ s.unlockRequest (.sessionCall sender call) = true) s t := by
  have hend : ∀ g : Prop, Preserves r g (¬ true = true) s (s.gsListenerSetActive env false).2 :=
    fun _ => (preserves_setActive false).mono id id fun h0 => absurd rfl h0
  cases call with
  | lock =>
    cases h
    exact preserves_lockCb env fun hg hd hl ha => hg ⟨rfl, hd, hl, ha⟩
  | unlock =>
    cases h
    exact hend _
  | quit =>
    cases h
    exact (hend _).trans (preserves_beside rfl ⟨rfl, rfl, rfl, rfl, rfl⟩)
  | cycle =>
    cases h
    exact preserves_saver (Saver.keeps_of_view (Saver.view_gsManagerCycle env.toSaverEnv s.saver))
  | inhibit args => exact preserves_dbusAddRefEntry (eq_of_handled h)
  | unInhibit cookie =>
    cases h
    exact preserves_dbusRemoveRefEntry env .inhibit cookie
  | getInhibitors =>
    cases h
    exact preserves_send rfl
  | throttle args => exact preserves_dbusAddRefEntry (eq_of_handled h)
  | unThrottle cookie =>
    cases h
    exact preserves_dbusRemoveRefEntry env .throttle cookie
  | setActive path value =>
    cases h
    cases value with
    | none => exact preserves_send rfl
    | some b =>
      cases b
      · exact (hend _).trans (preserves_send rfl)
      · exact preserves_activate.trans (preserves_send rfl)
  | getActive =>
    cases h
    exact preserves_send rfl
  | getActiveTime =>
    cases h
    exact preserves_send rfl
  | showMessage args => exact preserves_listenerShowMessage (eq_of_handled h)
  | simulateUserActivity =>
    cases h
    exact preserves_simulateUserActivity env
  | introspect =>
    cases h
    exact preserves_send rfl
  | addMatch =>
    cases h
    exact preserves_send rfl
  | unknown =>
    cases h
    exact .refl

theorem preserves_removeCkRefEntry (env : Env) : Preserves r g p s (s.listenerRemoveCkRefEntry env) := by
  simp only [listenerRemoveCkRefEntry]
  split
  · exact (preserves_removeRefEntry .throttle _).trans (preserves_listener rfl rfl)
  · exact .refl

theorem preserves_addCkRefEntry {sender : BusName} (h : s.listenerAddCkRefEntry env sender = some t) :
    Preserves r g p s t := by
  obtain ⟨cookie, -, rfl⟩ := Option.map_eq_some_iff.1 h
  exact (preserves_addRefEntry .throttle _).trans (preserves_listener rfl rfl)

theorem preserves_ckActiveChanged {sender : BusName} {b : Bool}
    (h : s.ckActiveChanged env sender b = some t) : Preserves r g p s t := by
  simp only [ckActiveChanged] at h
  split at h
  · cases h
    exact (preserves_removeCkRefEntry env).trans (preserves_simulateUserActivity env)
  · exact (preserves_removeCkRefEntry env).trans (preserves_addCkRefEntry h)

theorem preserves_prepareForSleep {b : Bool} (h : s.prepareForSleep env b = some t) :
    Preserves r g p s t := by
  simp only [prepareForSleep] at h
  split at h
  · obtain ⟨u, hu, rfl⟩ := Option.map_eq_some_iff.1 h
    exact (preserves_prepareForSleepCb hu).trans (preserves_listener rfl rfl)
  · have hlock : Preserves r g p s
        (s.modifyListener fun l => { l with logindInhibitLock := env.logindInhibit }) :=
      preserves_listener rfl rfl
    exact hlock.trans (preserves_prepareForSleepCb h)

/- Lock and Unlock signals of both kinds, for our session. -/
theorem preserves_lockSignal {e : Event} (ours : Bool) (hours : ours = true → s.lockRequest e = true)
    (hlocks : Locks env s e = (s.lockRequest e = true ∧ s.prefs.lockDisabled = false ∧
      s.saver.manager.lockActive = false ∧ (s.saver.manager.active = true ∨ env.grabRoot = true))) :
    Preserves r (Locks env s e → s.Quiet) p s (if ours then s.listenerLockCb env else s) := by
  split
  · next h => exact preserves_lockCb env fun hg hd hl ha => hg (hlocks ▸ ⟨hours h, hd, hl, ha⟩)
  · exact .refl

theorem preserves_unlockSignal {e : Event} (ours : Bool)
    (hours : ours = true → s.unlockRequest e = true) :
    Preserves r g (¬ s.unlockRequest e = true) s
      (if ours then (s.gsListenerSetActive env false).2 else s) := by
  split
  · next h => exact (preserves_setActive false).mono id id fun hn => absurd (hours h) hn
  · exact .refl

theorem preserves_logindSignal {sender : BusName} {signal : SystemSignal} (hh : s.hearsLogind = true)
    (h : s.handleLogindSignal env signal = some t) :
    Preserves r (Locks env s (.systemSignal sender signal) → s.Quiet)
      (¬ s.unlockRequest (.systemSignal sender signal) = true) s t := by
  cases signal with
  | logindUnlock path =>
    cases h
    exact preserves_unlockSignal _ fun hours => by simp [unlockRequest, hh, hours]
  | logindLock path =>
    cases h
    exact preserves_lockSignal _ (fun hours => by simp [lockRequest, hh, hours]) rfl
  | prepareForSleep b => exact preserves_prepareForSleep h
  | propertiesChanged path properties =>
    cases h
    split
    · exact preserves_simulateUserActivity env
    · exact .refl
  | ckUnlock path => cases h; exact .refl
  | ckLock path => cases h; exact .refl
  | ckActiveChanged path b => cases h; exact .refl
  | unknown => cases h; exact .refl

theorem preserves_ckSignal {sender : BusName} {signal : SystemSignal} (hh : s.hearsConsoleKit = true)
    (h : s.handleCkSignal env sender signal = some t) :
    Preserves r (Locks env s (.systemSignal sender signal) → s.Quiet)
      (¬ s.unlockRequest (.systemSignal sender signal) = true) s t := by
  cases signal with
  | ckUnlock path =>
    cases h
    exact preserves_unlockSignal _ fun hours => by simp [unlockRequest, hh, hours]
  | ckLock path =>
    cases h
    exact preserves_lockSignal _ (fun hours => by simp [lockRequest, hh, hours]) rfl
  | ckActiveChanged path b =>
    cases b with
    | none => cases h; exact .refl
    | some b =>
      simp only [handleCkSignal] at h
      split at h
      · exact preserves_ckActiveChanged h
      · cases h
        exact .refl
  | logindUnlock path => cases h; exact .refl
  | logindLock path => cases h; exact .refl
  | prepareForSleep b => cases h; exact .refl
  | propertiesChanged path properties => cases h; exact .refl
  | unknown => cases h; exact .refl

theorem preserves_systemSignal {sender : BusName} {signal : SystemSignal}
    (h : s.listenerDbusHandleSystemMessage env sender signal = some t) :
    Preserves r (Locks env s (.systemSignal sender signal) → s.Quiet)
      (¬ s.unlockRequest (.systemSignal sender signal) = true) s t := by
  simp only [listenerDbusHandleSystemMessage] at h
  split at h
  · next hl => exact preserves_logindSignal hl h
  · next hl =>
    split at h
    · next hc =>
      have hno : s.hearsLogind = false := by simpa [hearsLogind] using hl
      exact preserves_ckSignal (by simp [hearsConsoleKit, hno, hc]) h
    · cases h
      exact .refl

/-! ### The step -/

/- The timers and the idles. -/
theorem preserves_dispatch_releaseGrabTimeout {id : SourceId} (h : s.dispatch env (.releaseGrabTimeout id) = some t) :
    Preserves (DialogWorks env (.releaseGrabTimeout id)) (Locks env s (.releaseGrabTimeout id) → s.Quiet)
      (¬ s.Ends (.releaseGrabTimeout id)) s t := by
  obtain ⟨_, -, rfl⟩ := Option.map_eq_some_iff.1 h
  exact preserves_releaseGrabTimeout.trans (preserves_modifyLoop rfl (Nat.le_refl _))

theorem preserves_dispatch_activateLockTimeout {id : SourceId} (h : s.dispatch env (.activateLockTimeout id) = some t) :
    Preserves (DialogWorks env (.activateLockTimeout id)) (Locks env s (.activateLockTimeout id) → s.Quiet)
      (¬ s.Ends (.activateLockTimeout id)) s t := by
  obtain ⟨timer, hfind, rfl⟩ := Option.map_eq_some_iff.1 h
  have hid := due_mem hfind
  exact preserves_tightens (Saver.tightens_lockTimerRun hid fun hg he hl => hg ⟨he, hl⟩)
    (.modifySaver _)

theorem preserves_dispatch_cycleTimeout {id : SourceId} (h : s.dispatch env (.cycleTimeout id) = some t) :
    Preserves (DialogWorks env (.cycleTimeout id)) (Locks env s (.cycleTimeout id) → s.Quiet)
      (¬ s.Ends (.cycleTimeout id)) s t := by
  obtain ⟨_, -, rfl⟩ := Option.map_eq_some_iff.1 h
  exact preserves_saver (Saver.keeps_of_view (Saver.view_cycleTimeoutCb env.toSaverEnv s.saver))

theorem preserves_dispatch_infoBarTimeout {id : SourceId} (h : s.dispatch env (.infoBarTimeout id) = some t) :
    Preserves (DialogWorks env (.infoBarTimeout id)) (Locks env s (.infoBarTimeout id) → s.Quiet)
      (¬ s.Ends (.infoBarTimeout id)) s t := by
  obtain ⟨x, -, rfl⟩ := Option.map_eq_some_iff.1 h
  exact preserves_saver (Saver.keeps_of_view (Saver.view_modify_same s.saver x.window fun _ => rfl))

theorem preserves_dispatch_emitDeactivatedIdle {id : SourceId} (h : s.dispatch env (.emitDeactivatedIdle id) = some t) :
    Preserves (DialogWorks env (.emitDeactivatedIdle id)) (Locks env s (.emitDeactivatedIdle id) → s.Quiet)
      (¬ s.Ends (.emitDeactivatedIdle id)) s t := by
  obtain ⟨x, hfind, rfl⟩ := Option.map_eq_some_iff.1 h
  have hid : x.id = id := by simpa using List.find?_some hfind
  subst hid
  exact preserves_saver (keeps_emitDeactivatedIdle (List.mem_of_find?_eq_some hfind))

theorem preserves_dispatch_windowDeactivatedIdle {id : SourceId}
    (h : s.dispatch env (.windowDeactivatedIdle id) = some t) :
    Preserves (DialogWorks env (.windowDeactivatedIdle id)) (Locks env s (.windowDeactivatedIdle id) → s.Quiet)
      (¬ s.Ends (.windowDeactivatedIdle id)) s t := by
  obtain ⟨x, -, rfl⟩ := Option.map_eq_some_iff.1 h
  have hset : Preserves (DialogWorks env (.windowDeactivatedIdle id))
      (Locks env s (.windowDeactivatedIdle id) → s.Quiet) (¬ s.Ends (.windowDeactivatedIdle id)) s
      (s.managerDeactivatedCb env) :=
    (preserves_setActive false).mono (fun hr => hr) (fun hg => hg)
      fun hn => absurd (.inr ⟨id, rfl⟩) hn
  exact hset.trans (preserves_saver (LockScreen.Keeps.forget _))

/- The dialog and the keyboard. -/
theorem preserves_dispatch_popupDialogIdle {id : SourceId} (h : s.dispatch env (.popupDialogIdle id) = some t) :
    Preserves (DialogWorks env (.popupDialogIdle id)) (Locks env s (.popupDialogIdle id) → s.Quiet)
      (¬ s.Ends (.popupDialogIdle id)) s t := by
  obtain ⟨x, hfind, rfl⟩ := Option.map_eq_some_iff.1 h
  obtain ⟨hx, rfl⟩ := findSource_mem hfind
  exact preserves_saver (keeps_popupDialogIdle hx)

theorem preserves_dispatch_lockCommandWatch {id : SourceId} {input : WatchInput}
    (h : s.dispatch env (.lockCommandWatch id input) = some t) :
    Preserves (DialogWorks env (.lockCommandWatch id input)) (Locks env s (.lockCommandWatch id input) → s.Quiet)
      (¬ s.Ends (.lockCommandWatch id input)) s t := by
  simp only [dispatch] at h
  split at h
  · cases h
  · obtain ⟨x, hfind, rfl⟩ := Option.map_eq_some_iff.1 h
    exact preserves_saver (keeps_lockCommandWatch (findSource_mem hfind).1)

theorem preserves_dispatch_keyboardCommandWatch {id : SourceId} {input : WatchInput}
    (h : s.dispatch env (.keyboardCommandWatch id input) = some t) :
    Preserves (DialogWorks env (.keyboardCommandWatch id input)) (Locks env s (.keyboardCommandWatch id input) → s.Quiet)
      (¬ s.Ends (.keyboardCommandWatch id input)) s t := by
  obtain ⟨x, -, rfl⟩ := Option.map_eq_some_iff.1 h
  exact preserves_saver (frame_keyboardCommandWatch x input s.saver).keeps

theorem preserves_dispatch_shakeEnd (h : s.dispatch env .shakeEnd = some t) :
    Preserves (DialogWorks env .shakeEnd) (Locks env s .shakeEnd → s.Quiet)
      (¬ s.Ends .shakeEnd) s t := by
  simp only [dispatch] at h
  split at h
  · cases h
  · next x rest _ =>
    cases h
    exact preserves_saver (Saver.keeps_of_view (Saver.view_modify_same s.saver x.window fun _ => rfl))

/- Every event. -/
theorem preserves_dispatch {e : Event} (h : s.dispatch env e = some t) :
    Preserves (DialogWorks env e) (Locks env s e → s.Quiet) (¬ s.Ends e) s t := by
  cases e with
  | presenceStatus status => cases h; exact preserves_setStatus status
  | presenceStatusText text => cases h; exact preserves_presenceStatusText text
  | keyChanged k => cases h; exact preserves_keyChanged env k id
  | sessionCall sender call =>
    exact (preserves_sessionCall h).mono id id fun hn hu => hn (.inl hu)
  | nameOwnerChanged name old new => cases h; exact preserves_serviceDeleted old
  | systemSignal sender signal =>
    exact (preserves_systemSignal h).mono id id fun hn hu => hn (.inl hu)
  | monitorAdded m =>
    simp only [dispatch] at h
    split at h
    · cases h
    · cases h
      exact preserves_saver (keeps_monitorAdded env m s.saver)
  | monitorRemoved m =>
    simp only [dispatch] at h
    split at h
    · cases h
      exact preserves_saver (keeps_monitorRemoved env m s.saver)
    · cases h
  | activity w =>
    simp only [dispatch] at h
    split at h
    · cases h
      exact preserves_saver (Saver.keeps_maybeHandleActivity env.toSaverEnv s.saver w)
    · cases h
  | mapEvent w =>
    simp only [dispatch] at h
    split at h
    · cases h
      exact preserves_saver (Saver.keeps_of_view (Saver.view_windowMapEventCb env.toSaverEnv s.saver w))
    · cases h
  | visibilityNotify w obscured =>
    simp only [dispatch] at h
    split at h
    · cases h
      exact preserves_saver (Saver.keeps_windowSetObscured env.toSaverEnv s.saver w obscured)
    · cases h
  | grabBroken w otherGrabbed =>
    simp only [dispatch] at h
    split at h
    · cases h
      split
      · exact .refl
      · exact preserves_modifyGrab _
    · cases h
  | lockPlugRemoved w =>
    simp only [dispatch] at h
    split at h
    · cases h
      exact preserves_saver (Saver.keeps_of_view (Saver.view_modify_same s.saver w fun _ => rfl))
    · cases h
  | jobDied w =>
    simp only [dispatch] at h
    split at h
    · cases h
      exact preserves_saver (Saver.keeps_of_view (Saver.view_mapJobs s.saver _))
    · cases h
  | onIdleTimeout id =>
    obtain ⟨_, -, rfl⟩ := Option.map_eq_some_iff.1 h
    exact preserves_idleTimeout id
  | releaseGrabTimeout id => exact preserves_dispatch_releaseGrabTimeout h
  | activateLockTimeout id => exact preserves_dispatch_activateLockTimeout h
  | cycleTimeout id => exact preserves_dispatch_cycleTimeout h
  | infoBarTimeout id => exact preserves_dispatch_infoBarTimeout h
  | emitDeactivatedIdle id => exact preserves_dispatch_emitDeactivatedIdle h
  | windowDeactivatedIdle id => exact preserves_dispatch_windowDeactivatedIdle h
  | popupDialogIdle id => exact preserves_dispatch_popupDialogIdle h
  | lockCommandWatch id input => exact preserves_dispatch_lockCommandWatch h
  | keyboardCommandWatch id input => exact preserves_dispatch_keyboardCommandWatch h
  | shakeEnd => exact preserves_dispatch_shakeEnd h

/-! ### A step -/

theorem step_running {e : Event} (h : s.step (env, e) = some t) : s.quit = false := by
  cases hquit : s.quit with
  | false => rfl
  | true =>
    rw [step, if_pos hquit] at h
    cases h

theorem step_dispatch {e : Event} (h : s.step (env, e) = some t) : (s.tick env).dispatch env e = some t := by
  rw [step, if_neg (by rw [step_running h]; exact Bool.false_ne_true)] at h
  exact h

/- That time has passed is seen by none of them. -/
theorem preserves_tick (env : Env) : Preserves r g p s (s.tick env) :=
  preserves_saver (Saver.keeps_of_view rfl)

theorem tick_agreed (hs : s.Agreed) (env : Env) : (s.tick env).Agreed :=
  (preserves_tick (r := True) (g := True) (p := True) env hs).agreed

theorem preserves_step {e : Event} (h : s.step (env, e) = some t) :
    Preserves (DialogWorks env e) (Locks env s e → s.Quiet) (¬ s.Ends e) s t :=
  (preserves_tick env).trans (preserves_dispatch (step_dispatch h))

/-! ### The start -/

theorem unsettled_sound (b : Boot) : b.unsettled.saver.view.Sound ∧ b.unsettled.saver.view.Listed ∧
    b.unsettled.Reports := by
  refine ⟨⟨?_, ?_, ?_, ?_, ?_, ?_, ?_, ?_, ?_, ?_, ?_, ?_, ?_, ?_, ?_, Nat.one_pos⟩, ?_, ?_⟩ <;>
    simp [Saver.view, Boot.unsettled, Listed, Reports, LockScreen.Reports]

/- The watcher is turned on before the first event. -/
theorem settle_agreed (hsound : s.saver.view.Sound) (hlisted : s.saver.view.Listed)
    (hoff : s.saver.manager.active = false) (hopen : s.saver.manager.lockActive = false)
    (hthr : s.saver.manager.throttled = s.listener.throttled) (hl : s.listener.active = false)
    (hsent : s.sent = []) (henabled : s.watcher.enabled = true) (hw : s.watcher.active = false) :
    s.settle.Agreed := by
  have hset : s.settle = { (s.gsListenerSetActivationEnabled s.prefs.idleActivationEnabled) with
      watcher := (gsWatcherSetActive true s.watcher).2 } := by
    simp [settle, gsListenerSetActivationEnabled, modifyListener, gsWatcherSetEnabled, henabled, hoff, hw]
  have hactive : (gsWatcherSetActive true s.watcher).2.active = true ∧
      (gsWatcherSetActive true s.watcher).2.enabled = true := by
    simp [gsWatcherSetActive, hw, henabled, GSWatcher.setActiveInternal, GSWatcher.resetState]
  have hchanges : s.settle.activeChanges = [] := by
    rw [hset]
    simp [activeChanges, gsListenerSetActivationEnabled, modifyListener, hsent]
  rw [hset] at hchanges ⊢
  refine ⟨⟨hsound, hl.trans hoff.symm, hactive.2, ?_⟩, hlisted, fun h => ?_, hthr, ?_, ?_⟩
  · exact hactive.1.trans (congrArg not hoff).symm
  · have h' : s.saver.manager.lockActive = true := h
    rw [hopen] at h'
    cases h'
  · rw [hchanges]
    intro i b hi
    cases hi
  · rw [hchanges]
    exact hl.symm

/- With the manager's settings in place and nothing else having happened. -/
theorem settled_agreed {a : LockScreen} (hk : LockScreen.Tighter True a s.saver.view) (hlisted : a.Listed)
    (hreports : a.Reports) (hoff : a.active = false) (hopen : a.lockActive = false)
    (hthr : a.throttled = s.listener.throttled) (hl : s.listener.active = false) (hsent : s.sent = [])
    (henabled : s.watcher.enabled = true) (hw : s.watcher.active = false) :
    s.settle.Agreed ∧ s.Reports ∧ s.saver.manager.active = false := by
  have hoff' : s.saver.manager.active = false := hk.active.trans hoff
  have hopen' : s.saver.manager.lockActive = false := by
    cases hlock : s.saver.manager.lockActive
    · rfl
    · rcases hk.unlocked hlock with h | h
      · rw [hopen] at h
        cases h
      · rw [hoff] at h
        cases h
  exact ⟨settle_agreed hk.sound (hk.listed hlisted) hoff' hopen' (hk.throttled.trans hthr) hl hsent henabled hw,
    hk.reports hreports, hoff'⟩

theorem start_agreed (b : Boot) (env : Env) : (b.start env).Agreed ∧ (b.start env).Reports ∧
    (b.start env).saver.manager.active = false := by
  obtain ⟨hsound, hlisted, hreports⟩ := unsettled_sound b
  have hk := tightens_updateManagerFromPrefs (g := True) env b.unsettled.prefs b.unsettled.saver
    (fun _ hdue => absurd hdue.2.1 Bool.false_ne_true) hsound
  generalize hs1 : b.unsettled.modifySaver (updateManagerFromPrefs env b.unsettled.prefs) = s1
  have hsaver : updateManagerFromPrefs env b.unsettled.prefs b.unsettled.saver = s1.saver := by
    rw [← hs1]
    rfl
  have hrest : s1.listener = b.unsettled.listener ∧ s1.sent = [] ∧ s1.watcher = b.unsettled.watcher := by
    rw [← hs1]
    exact ⟨rfl, rfl, rfl⟩
  rw [hsaver] at hk
  obtain ⟨hlistener, hsent, hwatcher⟩ := hrest
  obtain ⟨hagreed, hreports', hoff⟩ := settled_agreed hk hlisted hreports rfl rfl (by rw [hlistener]; rfl)
    (by rw [hlistener]; rfl) hsent (by rw [hwatcher]; rfl) (by rw [hwatcher]; rfl)
  have hstart : b.start env = if s1.settle.prefs.statusMessageEnabled then s1.settle.updateStatusMessage
      else s1.settle.modifySaver (.gsManagerSetStatusMessage none) := by
    rw [Boot.start, updateFromPrefs_eq, hs1]
  have hview : (b.start env).saver.view = s1.saver.view := by
    rw [hstart, ← settle_saver s1]
    split
    · exact Saver.view_gsManagerSetStatusMessage _ _
    · exact Saver.view_gsManagerSetStatusMessage _ _
  refine ⟨?_, ?_, ?_⟩
  · rw [hstart]
    exact (preserves_statusMessage (r := True) (g := True) (p := True) _ hagreed).agreed
  · rw [Reports, hview]
    exact hreports'
  · exact (congrArg LockScreen.active hview).trans hoff

theorem agreed_invariant : screensaver.Invariant Agreed where
  start s hs := by
    obtain ⟨b, env, rfl⟩ := hs
    exact (start_agreed b env).1
  step s e t hs h := (preserves_step h hs).agreed

end Screensaver
end MateScreensaver
