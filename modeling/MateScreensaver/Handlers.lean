import MateScreensaver.Agreement

/-!
What each handler of the listener, the monitor and the buses does to the
agreement.
-/

namespace MateScreensaver
namespace Screensaver
open LockScreen

variable {s t u : Screensaver} {env : Env} {r g p : Prop}

/-! ### The listener -/

theorem preserves_setSessionIdleInternal (b : Bool) :
    Preserves r g p s (s.listenerSetSessionIdleInternal env b) :=
  preserves_listener rfl rfl

theorem preserves_checkActivation (env : Env) : Preserves r g p s (s.listenerCheckActivation env).2 := by
  simp only [listenerCheckActivation]
  split
  · exact .refl
  · split
    · exact .refl
    · split
      · exact .refl
      · exact preserves_activate

theorem preserves_setSessionIdle (b : Bool) : Preserves r g p s (s.gsListenerSetSessionIdle env b).2 := by
  simp only [gsListenerSetSessionIdle]
  split
  · exact .refl
  · split
    · exact .refl
    · have hset : Preserves r g p s (s.modifyListener fun l => { l with sessionIdle := b }) :=
        preserves_listener rfl rfl
      split
      · exact (hset.trans (preserves_checkActivation env)).trans (preserves_setSessionIdleInternal b)
      · refine (hset.trans (preserves_checkActivation env)).trans ?_
        exact preserves_listener (f := fun l => { l with sessionIdle := !b }) rfl rfl

/- The only function that touches the flag of the manager. -/
theorem preserves_setThrottle (b : Bool) : Preserves r g p s (s.gsListenerSetThrottle env b) := by
  intro hs
  simp only [gsListenerSetThrottle]
  split
  · have hview : (s.saver.gsManagerSetThrottled env.toSaverEnv b).view = { s.saver.view with throttled := b } :=
      Saver.view_gsManagerSetThrottled env.toSaverEnv s.saver b
    have hact := congrArg LockScreen.active hview
    have hlock := congrArg LockScreen.lockActive hview
    have hthr := congrArg LockScreen.throttled hview
    refine ⟨⟨⟨?_, hs.listener.trans hact.symm, hs.enabled, hs.watcher.trans (congrArg not hact.symm)⟩,
      ?_, fun hl => ?_, hthr, hs.changes, hs.last⟩, fun _ h => ?_, fun _ h => ?_,
      fun _ h => ⟨hact.trans h.1, hlock.trans h.2⟩⟩
    · show (s.saver.gsManagerSetThrottled env.toSaverEnv b).view.Sound
      rw [hview]
      exact { hs.sound with }
    · show (s.saver.gsManagerSetThrottled env.toSaverEnv b).view.Listed
      rw [hview]
      exact hs.listed
    · exact hact.trans (hs.lock (hlock.symm.trans hl))
    · show (s.saver.gsManagerSetThrottled env.toSaverEnv b).view.Reports
      rw [hview]
      exact h
    · show (s.saver.gsManagerSetThrottled env.toSaverEnv b).view.Guarded
      rw [hview]
      exact h
  · exact Preserves.refl hs

theorem preserves_refEntryCheck (type : RefType) :
    Preserves r g p s (s.listenerRefEntryCheck env type) := by
  cases type
  · exact preserves_checkActivation env
  · simp only [listenerRefEntryCheck, listenerCheckThrottle]
    split
    · exact preserves_setThrottle _
    · exact .refl

theorem preserves_setTable (type : RefType) (f : GSListener → Table Nat RefEntry) :
    Preserves r g p s (s.modifyListener fun l => l.setTable type (f l)) := by
  cases type <;> exact preserves_listener rfl rfl

theorem preserves_addSessionInhibit (entry : RefEntry) :
    Preserves r g p s (s.addSessionInhibit env entry) := by
  have hsend : Preserves r g p s (s.send (.sessionInhibit entry.application entry.reason)) :=
    preserves_send rfl
  simp only [addSessionInhibit]
  split
  · exact hsend.trans (preserves_listener rfl rfl)
  · exact hsend

theorem preserves_removeSessionInhibit (entry : RefEntry) :
    Preserves r g p s (s.removeSessionInhibit entry) := by
  simp only [removeSessionInhibit]
  split
  · exact .refl
  · exact preserves_send rfl

theorem preserves_addRefEntry (type : RefType) (entry : RefEntry) :
    Preserves r g p s (s.listenerAddRefEntry env type entry) := by
  have hset := preserves_setTable (r := r) (g := g) (p := p) (s := s) type
    fun l => (l.table type).insert entry.cookie entry
  simp only [listenerAddRefEntry]
  refine Preserves.trans ?_ (preserves_refEntryCheck type)
  split
  · exact hset.trans (preserves_addSessionInhibit entry)
  · exact hset

theorem preserves_removeRefEntry (type : RefType) (cookie : Nat) :
    Preserves r g p s (s.listenerRemoveRefEntry env type cookie).2 := by
  simp only [listenerRemoveRefEntry]
  split
  · exact .refl
  · next entry _ =>
    refine Preserves.trans ?_ (preserves_refEntryCheck type)
    refine Preserves.trans ?_ (preserves_setTable type _)
    split
    · exact preserves_removeSessionInhibit entry
    · exact .refl

theorem preserves_removeForConnection (type : RefType) (name : BusName) :
    Preserves r g p s (s.listenerRefEntryRemoveForConnection type name).2 := by
  have hfold : ∀ (l : List (Sigma fun _ : Nat => RefEntry)) (s : Screensaver),
      Preserves r g p s (l.foldl (fun s e => s.removeSessionInhibit e.2) s) := by
    intro l
    induction l with
    | nil => exact fun s => .refl
    | cons e l ih => exact fun s => (preserves_removeSessionInhibit e.2).trans (ih _)
  simp only [listenerRefEntryRemoveForConnection]
  exact (hfold _ s).trans (preserves_setTable type _)

theorem preserves_serviceDeleted (name : BusName) :
    Preserves r g p s (s.listenerServiceDeleted env name) := by
  have hone : ∀ (type : RefType) (s : Screensaver), Preserves r g p s
      (if (s.listenerRefEntryRemoveForConnection type name).1 then
        (s.listenerRefEntryRemoveForConnection type name).2.listenerRefEntryCheck env type
       else (s.listenerRefEntryRemoveForConnection type name).2) := by
    intro type s
    split
    · exact (preserves_removeForConnection type name).trans (preserves_refEntryCheck type)
    · exact preserves_removeForConnection type name
  exact (hone .throttle s).trans (hone .inhibit _)

/-! ### The watcher -/

theorem preserves_watcher {w : GSWatcher} (he : w.enabled = s.watcher.enabled)
    (ha : w.active = s.watcher.active) : Preserves r g p s { s with watcher := w } :=
  preserves_beside rfl ⟨rfl, rfl, he, ha, rfl⟩

/- Timers of other kinds. -/
theorem keeps_modifyLoop {saver : Saver} {f : MainLoop → MainLoop}
    (h : (saver.modifyLoop f).view = saver.view.bump (f saver.loop).nextId)
    (hn : saver.loop.nextId ≤ (f saver.loop).nextId) : Saver.Keeps r saver (saver.modifyLoop f) :=
  Saver.Frame.keeps ⟨h, hn⟩

theorem preserves_modifyLoop {f : MainLoop → MainLoop}
    (h : (s.saver.modifyLoop f).view = s.saver.view.bump (f s.saver.loop).nextId)
    (hn : s.saver.loop.nextId ≤ (f s.saver.loop).nextId) :
    Preserves r g p s (s.modifySaver (.modifyLoop f)) :=
  preserves_saver (keeps_modifyLoop h hn)

theorem preserves_modifyGrab (f : GSGrab → GSGrab) :
    Preserves r g p s (s.modifySaver (.modifyGrab f)) :=
  preserves_saver (Saver.keeps_of_view (Saver.view_modifyGrab _ f))

theorem preserves_watcherIdleNotice (b : Bool) :
    Preserves r g p s (s.watcherIdleNoticeCb env b).2 := by
  simp only [watcherIdleNoticeCb]
  split
  · split
    · exact preserves_modifyGrab _
    · exact .refl
  · split
    · have hdrop : Preserves r g p s (if s.releaseGrabId ≠ 0 then
          s.modifySaver (.modifyLoop fun l =>
            { l with releaseGrabTimeout := MainLoop.removeTimer s.releaseGrabId l.releaseGrabTimeout })
          else s) := by
        split
        · exact preserves_modifyLoop rfl (Nat.le_refl _)
        · exact .refl
      have hadd : ∀ t : Screensaver, Preserves r g p t { t.modifySaver (.modifyLoop fun l =>
          { l with nextId := l.nextId + 1
                   releaseGrabTimeout := l.releaseGrabTimeout ++ [t.saver.loop.timer 1000] }) with
          releaseGrabId := (t.saver.loop.timer 1000).id } := by
        intro t
        let f (l : MainLoop) : MainLoop := { l with
          nextId := l.nextId + 1
          releaseGrabTimeout := l.releaseGrabTimeout ++ [t.saver.loop.timer 1000] }
        have hloop : Preserves r g p t (t.modifySaver (.modifyLoop f)) :=
          preserves_modifyLoop rfl (Nat.le_succ _)
        exact hloop.trans (preserves_beside rfl ⟨rfl, rfl, rfl, rfl, rfl⟩)
      exact hdrop.trans (hadd _)
    · exact .refl

theorem preserves_sessionIdleNotice (env : Env) (b : Bool) :
    Preserves r g p s (gsWatcherSetSessionIdleNotice (watcherHost env) b s).2 := by
  simp only [gsWatcherSetSessionIdleNotice]
  split
  · split
    · exact (preserves_watcherIdleNotice b).trans (preserves_watcher rfl rfl)
    · exact preserves_watcherIdleNotice b
  · exact .refl

theorem preserves_sessionIdle (env : Env) (b : Bool) :
    Preserves r g p s (gsWatcherSetSessionIdle (watcherHost env) b s).2 := by
  simp only [gsWatcherSetSessionIdle]
  split
  · split
    · exact (preserves_setSessionIdle b).trans (preserves_watcher rfl rfl)
    · exact preserves_setSessionIdle b
  · exact .refl

theorem preserves_removeIdleTimeout : Preserves r g p s (removeIdleTimeout (watcherHost env) s) := by
  simp only [removeIdleTimeout]
  split
  · exact preserves_modifyLoop rfl (Nat.le_refl _)
  · exact .refl

theorem preserves_cancelIdleTimeout : Preserves r g p s (cancelIdleTimeout (watcherHost env) s) := by
  simp only [cancelIdleTimeout]
  split
  · exact Preserves.trans (preserves_modifyLoop rfl (Nat.le_refl _)) (preserves_watcher rfl rfl)
  · exact .refl

theorem preserves_setStatus (status : Nat) : Preserves r g p s (setStatus (watcherHost env) status s) := by
  have hadd : ∀ t : Screensaver, Preserves r g p t
      ((watcherHost env).setWatcher
        { (watcherHost env).watcher ((watcherHost env).timeoutAdd t.watcher.deltaNoticeTimeout t).2 with
          idleId := ((watcherHost env).timeoutAdd t.watcher.deltaNoticeTimeout t).1 }
        ((watcherHost env).timeoutAdd t.watcher.deltaNoticeTimeout t).2) := by
    intro t
    let f (l : MainLoop) : MainLoop := { l with
      nextId := l.nextId + 1
      onIdleTimeout := l.onIdleTimeout ++ [t.saver.loop.timer t.watcher.deltaNoticeTimeout] }
    have hloop : Preserves r g p t (t.modifySaver (.modifyLoop f)) :=
      preserves_modifyLoop rfl (Nat.le_succ _)
    exact hloop.trans (preserves_watcher rfl rfl)
  simp only [setStatus]
  split
  · exact .refl
  · split
    · exact .refl
    · split
      · exact ((preserves_sessionIdleNotice env _).trans preserves_removeIdleTimeout).trans (hadd _)
      · exact (preserves_cancelIdleTimeout.trans (preserves_sessionIdle env false)).trans
          (preserves_sessionIdleNotice env false)

theorem preserves_idleTimeout (id : SourceId) : Preserves r g p s (s.idleTimeout env id) := by
  have hrun : Preserves r g p s (onIdleTimeout (watcherHost env) s).2 := by
    simp only [onIdleTimeout]
    have hidle : Preserves r g p s (gsWatcherSetSessionIdle (watcherHost env) true s).2 :=
      preserves_sessionIdle env true
    have h := hidle.trans (preserves_sessionIdleNotice env false)
    split
    · exact h.trans (preserves_watcher rfl rfl)
    · exact h
  exact hrun.trans (preserves_modifyLoop rfl (Nat.le_refl _))

/-! ### The monitor -/

/- The lock is set before the activation, so the state in between does not agree. -/
theorem lockFirst_coupled (hs : s.Coupled) (b : Bool) :
    (s.modifySaver (.gsManagerSetLockActive b)).Coupled ∧
    (s.modifySaver (.gsManagerSetLockActive b)).saver.view =
      if s.saver.manager.lockActive = b then s.saver.view else s.saver.view.setLock b := by
  have hview := Saver.view_gsManagerSetLockActive s.saver b
  have hact : (s.saver.gsManagerSetLockActive b).manager.active = s.saver.manager.active := by
    have h := congrArg LockScreen.active hview
    split at h <;> exact h
  refine ⟨⟨?_, hs.listener.trans hact.symm, hs.enabled, hs.watcher.trans (congrArg not hact.symm)⟩, hview⟩
  show (s.saver.gsManagerSetLockActive b).view.Sound
  rw [hview]
  split
  · exact hs.sound
  · exact hs.sound.setLock b

/- Locking what is not active: it ends up active and locked, or as it was. -/
theorem preserves_lockInactive {x : Bool × Screensaver} (hoff : s.saver.manager.active = false)
    (hset : SetActive env (s.modifySaver (.gsManagerSetLockActive true)) true x)
    (hg : g → env.grabRoot = true → s.Quiet) :
    Preserves r g p s (if x.1 then x.2
      else x.2.modifySaver (.gsManagerSetLockActive s.saver.manager.lockActive)) := by
  intro hs
  have hopen : s.saver.manager.lockActive = false := by
    by_contra hl
    have hact := hs.lock (by simpa using hl)
    rw [hoff] at hact
    cases hact
  obtain ⟨hc, hview⟩ := lockFirst_coupled hs.toCoupled true
  rw [hopen, if_neg Bool.false_ne_true] at hview
  have hlactive : s.listener.active = false := hs.listener.trans hoff
  cases hset with
  | same h =>
    have h' : s.listener.active = true := h
    rw [hlactive] at h'
    cases h'
  | refused saver off grab view =>
    have hback := Saver.view_gsManagerSetLockActive saver false
    have hlock : saver.manager.lockActive = true := by
      have h := congrArg LockScreen.lockActive (view.trans hview)
      exact h
    rw [hlock, if_neg (by decide), view, hview, setLock_undo hs.sound hopen] at hback
    rw [if_neg Bool.false_ne_true, hopen]
    exact preserves_keeps (Saver.keeps_of_view hback) ⟨rfl, rfl, rfl, rfl, rfl⟩ hs
  | started saver off grab view =>
    rw [hview] at view
    rw [if_pos rfl]
    have hact : saver.manager.active = true := view.active
    have hthr : saver.manager.throttled = s.saver.manager.throttled := view.throttled
    have hlast : s.activeChanges.getLast?.getD false = !true := hs.last.trans hlactive
    refine ⟨⟨⟨view.sound, hact.symm, hs.enabled, ?_⟩, view.listed (hs.listed.setLock hs.sound true),
      fun _ => hact, hthr.trans hs.throttled, ?_, ?_⟩,
      fun _ h => view.reports (h.setLock hs.sound true),
      fun h _ => view.guarded fun _ => (hg h grab).setLock hs.sound true, fun _ hl => ?_⟩
    · show false = !saver.manager.active
      rw [hact]
      rfl
    · simp only [activeChanges, List.filterMap_append]
      exact hs.changes.append hlast
    · simp [activeChanges, BusMessage.activeChange]
    · have hl' := hl.1
      rw [hoff] at hl'
      cases hl'

/- The lock itself takes hold: from inactive by an activation, else on the spot. -/
theorem preserves_lockScreen (env : Env)
    (hg : g → s.saver.manager.lockActive = false →
      s.saver.manager.active = true ∨ env.grabRoot = true → s.Quiet) :
    Preserves r g p s (s.gsMonitorLockScreen env) := by
  intro hs
  have hact : (s.modifySaver (.gsManagerSetLockActive true)).saver.manager.active
      = s.saver.manager.active := by
    have h := (lockFirst_coupled hs.toCoupled true).1.listener
    exact h.symm.trans hs.listener
  simp only [gsMonitorLockScreen]
  split
  · next ha =>
    have hoff : s.saver.manager.active = false := by
      rw [← hact]
      simpa using ha
    have hopen : s.saver.manager.lockActive = false := by
      by_contra hl
      have h := hs.lock (by simpa using hl)
      rw [hoff] at h
      cases h
    have hset := gsListenerSetActive_spec env (lockFirst_coupled hs.toCoupled true).1 true
    have h := preserves_lockInactive (r := r) (p := p) hoff hset
      (fun h hgrab => hg h hopen (.inr hgrab)) hs
    split at h
    · next hres => simpa [hres] using h
    · next hres => simpa [hres] using h
  · next ha =>
    have hon : s.saver.manager.active = true := by
      rw [← hact]
      simpa using ha
    exact preserves_tightens (Saver.tightens_setLockActive hon fun h hl => hg h hl (.inl hon))
      (.modifySaver _) hs

theorem preserves_lockCb (env : Env)
    (hg : g → s.prefs.lockDisabled = false → s.saver.manager.lockActive = false →
      s.saver.manager.active = true ∨ env.grabRoot = true → s.Quiet) :
    Preserves r g p s (s.listenerLockCb env) := by
  simp only [listenerLockCb]
  split
  · next hd => exact preserves_lockScreen env fun h => hg h (by simpa using hd)
  · exact .refl

theorem preserves_simulateUserActivity (env : Env) :
    Preserves r g p s (s.gsMonitorSimulateUserActivity env) :=
  preserves_saver (Saver.keeps_gsManagerRequestUnlock env.toSaverEnv s.saver)

theorem preserves_showMessage (h : s.listenerShowMessageCb env = some t) : Preserves r g p s t := by
  obtain ⟨saver, hsaver, rfl⟩ := Option.map_eq_some_iff.1 h
  exact preserves_keeps (Saver.keeps_gsManagerShowMessage env.toSaverEnv hsaver)
    ⟨rfl, rfl, rfl, rfl, rfl⟩

theorem preserves_prepareForSleepCb (h : s.listenerPrepareForSleepCb env = some t) :
    Preserves r g p s t := by
  simp only [listenerPrepareForSleepCb] at h
  split at h
  · exact preserves_showMessage h
  · cases h
    exact .refl

/- The settings that only pass through the manager, after those of the lock. -/
def managerSettings (env : Env) (q : GSPrefs) (v : Saver) : Saver :=
  let v := v.gsManagerSetLogoutEnabled q.logoutEnabled
  let v := v.gsManagerSetUserSwitchEnabled (q.userSwitchEnabled && !q.userSwitchDisabled)
  let v := v.gsManagerSetKeyboardEnabled q.keyboardEnabled
  let v := v.gsManagerSetLogoutTimeout q.logoutTimeout
  let v := v.gsManagerSetLogoutCommand q.logoutCommand
  let v := v.gsManagerSetKeyboardCommand q.keyboardCommand
  let v := v.gsManagerSetCycleTimeout env.toSaverEnv q.cycle
  let v := v.gsManagerSetMode q.mode
  v.gsManagerSetThemes q.themes

theorem updateManagerFromPrefs_eq (env : Env) (q : GSPrefs) (v : Saver) : updateManagerFromPrefs env q v =
    managerSettings env q ((v.gsManagerSetLockEnabled (q.lockEnabled && !q.lockDisabled)).gsManagerSetLockTimeout
      env.toSaverEnv q.lockTimeout) := rfl

theorem frame_managerSettings (env : Env) (q : GSPrefs) (v : Saver) :
    Saver.Frame v (managerSettings env q v) := by
  have h1 (v : Saver) := Saver.frame_of_view (Saver.view_gsManagerSetLogoutEnabled v q.logoutEnabled)
  have h2 (v : Saver) := Saver.frame_of_view
    (Saver.view_gsManagerSetUserSwitchEnabled v (q.userSwitchEnabled && !q.userSwitchDisabled))
  have h3 (v : Saver) := Saver.frame_of_view (Saver.view_gsManagerSetKeyboardEnabled v q.keyboardEnabled)
  have h4 (v : Saver) := Saver.frame_of_view (Saver.view_gsManagerSetLogoutTimeout v q.logoutTimeout)
  have h5 (v : Saver) := Saver.frame_of_view (Saver.view_gsManagerSetLogoutCommand v q.logoutCommand)
  have h6 (v : Saver) := Saver.frame_of_view (Saver.view_gsManagerSetKeyboardCommand v q.keyboardCommand)
  have h7 (v : Saver) := Saver.frame_gsManagerSetCycleTimeout env.toSaverEnv v q.cycle
  have h8 (v : Saver) : Saver.Frame v (v.gsManagerSetMode q.mode) := Saver.frame_of_view rfl
  have h9 (v : Saver) : Saver.Frame v (v.gsManagerSetThemes q.themes) := Saver.frame_of_view rfl
  exact (h1 v).trans ((h2 _).trans ((h3 _).trans ((h4 _).trans ((h5 _).trans ((h6 _).trans
    ((h7 _).trans ((h8 _).trans (h9 _))))))))

/- The settings that reach the manager lock it at once when the lock timeout has
become shorter than the time it has been active. -/
theorem tightens_updateManagerFromPrefs (env : Env) (q : GSPrefs) (v : Saver)
    (hg : g → v.lockDue env.toSaverEnv (q.lockEnabled && !q.lockDisabled) q.lockTimeout → v.view.Quiet) :
    Saver.Tightens g v (updateManagerFromPrefs env q v) := by
  have hlock : Saver.Tightens g v (v.gsManagerSetLockEnabled (q.lockEnabled && !q.lockDisabled)) :=
    (Saver.keeps_of_view (r := True) rfl).tightens
  have htimeout := Saver.tightens_gsManagerSetLockTimeout (g := g) env.toSaverEnv
    (v.gsManagerSetLockEnabled (q.lockEnabled && !q.lockDisabled)) q.lockTimeout hg
  have hrest := (frame_managerSettings env q
    ((v.gsManagerSetLockEnabled (q.lockEnabled && !q.lockDisabled)).gsManagerSetLockTimeout
      env.toSaverEnv q.lockTimeout)).keeps (r := True)
  rw [updateManagerFromPrefs_eq]
  exact LockScreen.Tightens.trans (hlock.trans htimeout) hrest.tightens

/- What the settings do once the manager has them. The watcher is on whenever
the saver is off. -/
def settle (s : Screensaver) : Screensaver :=
  let s := s.gsListenerSetActivationEnabled s.prefs.idleActivationEnabled
  let s := { s with watcher := gsWatcherSetEnabled true s.watcher }
  if !s.saver.manager.active && !s.watcher.active then
    { s with watcher := (gsWatcherSetActive true s.watcher).2 }
  else s

theorem settle_saver (s : Screensaver) : s.settle.saver = s.saver := by
  simp only [settle]
  split
  · rfl
  · rfl

theorem settle_prefs (s : Screensaver) : s.settle.prefs = s.prefs := by
  simp only [settle]
  split
  · rfl
  · rfl

theorem updateFromPrefs_eq (env : Env) (s : Screensaver) : s.updateFromPrefs env =
    let s := (s.modifySaver (updateManagerFromPrefs env s.prefs)).settle
    if s.prefs.statusMessageEnabled then s.updateStatusMessage
    else s.modifySaver (.gsManagerSetStatusMessage none) := rfl

/- In a state that agrees there is nothing left to do but to hand on whether to activate. -/
theorem settle_enabled (hs : s.Agreed) :
    s.settle = s.gsListenerSetActivationEnabled s.prefs.idleActivationEnabled := by
  have hw : gsWatcherSetEnabled true s.watcher = s.watcher := by
    simp [gsWatcherSetEnabled, hs.enabled]
  have hc : (!s.saver.manager.active && !s.watcher.active) = false := by
    rw [hs.watcher]
    cases s.saver.manager.active <;> rfl
  simp only [settle, gsListenerSetActivationEnabled, modifyListener, hw, hc]
  rfl

theorem preserves_settle : Preserves r g p s s.settle := by
  intro hs
  rw [settle_enabled hs]
  exact preserves_listener rfl rfl hs

theorem preserves_statusMessage (b : Bool) : Preserves r g p s
    (if b then s.updateStatusMessage else s.modifySaver (.gsManagerSetStatusMessage none)) := by
  split
  · exact preserves_saver (Saver.keeps_of_view (Saver.view_gsManagerSetStatusMessage _ _))
  · exact preserves_saver (Saver.keeps_of_view (Saver.view_gsManagerSetStatusMessage _ _))

theorem preserves_updateFromPrefs (env : Env)
    (hg : g → s.saver.lockDue env.toSaverEnv (s.prefs.lockEnabled && !s.prefs.lockDisabled)
      s.prefs.lockTimeout → s.Quiet) :
    Preserves r g p s (s.updateFromPrefs env) := by
  have hmanager : Preserves r g p s (s.modifySaver (updateManagerFromPrefs env s.prefs)) :=
    preserves_tightens (tightens_updateManagerFromPrefs env s.prefs s.saver hg) (.modifySaver _)
  rw [updateFromPrefs_eq]
  exact (hmanager.trans preserves_settle).trans (preserves_statusMessage _)

theorem preserves_keyChanged (env : Env) (k : KeyChange)
    (hg : g → s.saver.lockDue env.toSaverEnv
      ((s.prefs.keyChanged k).lockEnabled && !(s.prefs.keyChanged k).lockDisabled)
      (s.prefs.keyChanged k).lockTimeout → s.Quiet) :
    Preserves r g p s (s.keyChangedCb env k) := by
  have hprefs : Preserves r g p s { s with prefs := s.prefs.keyChanged k } :=
    preserves_beside rfl ⟨rfl, rfl, rfl, rfl, rfl⟩
  exact hprefs.trans (preserves_updateFromPrefs (s := { s with prefs := s.prefs.keyChanged k }) env hg)

theorem preserves_presenceStatusText (text : Option String) :
    Preserves r g p s (s.onPresenceStatusTextChanged text) := by
  have hw : Preserves r g p s { s with watcher := { s.watcher with statusMessage := text } } :=
    preserves_watcher rfl rfl
  exact hw.trans (preserves_saver (Saver.keeps_of_view (Saver.view_gsManagerSetStatusMessage _ _)))

theorem preserves_releaseGrabTimeout : Preserves r g p s s.releaseGrabTimeout := by
  have hid : ∀ t : Screensaver, Preserves r g p t { t with releaseGrabId := 0 } :=
    fun t => preserves_beside rfl ⟨rfl, rfl, rfl, rfl, rfl⟩
  simp only [releaseGrabTimeout]
  split
  · exact Preserves.trans (preserves_modifyGrab _) (hid _)
  · exact hid s

end Screensaver
end MateScreensaver
