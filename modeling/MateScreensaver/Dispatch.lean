import MateScreensaver.Parts

/-!
Every step of the process is a chain of parts.
-/

namespace MateScreensaver
open Runs

namespace Screensaver
open Saver (Calm Calms Tuned Still)

variable {p : Prop} {env : Env} {s₀ s t u : Screensaver} {e : Event}

/- Nothing is queued or animated for the windows of a monitor that goes, and no
dialog makes its window start a second keyboard. -/
def Careful (env : Env) (s : Screensaver) : Event → Prop
  | .monitorRemoved m => ∀ w, s.saver.monitorOf w = some m → s.saver.Unused w
  | .lockCommandWatch id input => ∀ x ∈ s.saver.loop.lockCommandWatch, x.id = id →
      ∀ line, input.gIoIn = true → input.status = .normal line →
        s.saver.embedsKeyboard env.toSaverEnv x.window line = true → ¬ s.saver.HasKeyboard x.window
  | _ => True

theorem tick_housed (h : s.saver.Housed) (env : Env) : (s.tick env).saver.Housed := h.same rfl rfl rfl

/-! ### Chains on the saver alone -/

theorem parts_calms {v : Saver} (h : Calms p env.toSaverEnv s.saver v) :
    Parts p env s₀ e s { s with saver := v } := by
  induction h with
  | refl => exact .refl
  | tail _ h ih => exact ih.trans (Part.saver (.calm h)).parts

theorem parts_still {v : Saver} (h : Still p s.saver v) : Parts p env s₀ e s { s with saver := v } :=
  parts_calms h.calms

theorem parts_tune {v : Saver} (h : s.saver.Housed → Tuned p s.saver v)
    (mirrors : s.saver.Housed → s.saver.Mirrored → v.Mirrored)
    (silent : v.manager.handed = s.saver.manager.handed ∨ Tells e) (cycle : Cycles env s₀ e s.saver v)
    (release : Watches e ∨ ∀ x ∈ v.loop.releaseGrabTimeout, x ∈ s.saver.loop.releaseGrabTimeout) :
    Parts p env s₀ e s { s with saver := v } :=
  (Part.saver (.tune h mirrors silent cycle release)).parts

theorem parts_send {m : BusMessage} (h : m.plain = true) : Parts p env s₀ e s (s.send m) :=
  (Part.reply m h).parts

/-! ### The watcher -/

theorem parts_watcher {w : GSWatcher} (he : w.enabled = s.watcher.enabled)
    (ha : w.active = s.watcher.active) (hm : w.statusMessage = s.watcher.statusMessage)
    (hn : w.idleNotice = s.watcher.idleNotice ∨ Watches e) :
    Parts p env s₀ e s { s with watcher := w } := (Part.watcher w he ha (.inl hm) hn).parts

theorem parts_idle (b : Bool) (off : b = false → s.listener.active = false) :
    Parts p env s₀ e s (s.gsListenerSetSessionIdle env b).2 := (Part.idle b off).parts

/- Timers of the watcher and of the monitor. -/
theorem parts_modifyLoop {f : MainLoop → MainLoop} (h : Still p s.saver (s.saver.modifyLoop f)) :
    Parts p env s₀ e s (s.modifySaver (.modifyLoop f)) := parts_still h

/- The timer that releases the grab is the monitor's own. -/
theorem parts_releaseTimers (n : SourceId) (l : List Timer)
    (release : Watches e ∨ ∀ x ∈ l, x ∈ s.saver.loop.releaseGrabTimeout) (next : s.saver.loop.nextId ≤ n) :
    Parts p env s₀ e s (s.modifySaver (.modifyLoop fun m =>
      { m with nextId := n, releaseGrabTimeout := l })) := by
  refine parts_tune (fun _ => ?_) (fun _ hm => hm) (.inl rfl) (.kept rfl rfl rfl) release
  exact ⟨rfl, fun _ => rfl, rfl, rfl, rfl, rfl, rfl, fun _ hi => hi.modifyLoop (fun x hx => .inl hx)
    (fun x hx => .inl hx) (fun x hx => hx) (fun x hx => hx) next⟩

theorem parts_watcherIdleNotice (he : Watches e) (b : Bool) :
    Parts p env s₀ e s (s.watcherIdleNoticeCb env b).2 := by
  simp only [watcherIdleNoticeCb]
  split
  · split
    · exact parts_still (Saver.still_modifyGrab _)
    · exact .refl
  · split
    · have hdrop : Parts p env s₀ e s (if s.releaseGrabId ≠ 0 then
          s.modifySaver (.modifyLoop fun l =>
            { l with releaseGrabTimeout := MainLoop.removeTimer s.releaseGrabId l.releaseGrabTimeout })
          else s) := by
        split
        · exact parts_releaseTimers s.saver.loop.nextId _ (.inl he) (Nat.le_refl _)
        · exact .refl
      have hadd : ∀ t : Screensaver, Parts p env s₀ e t { t.modifySaver (.modifyLoop fun l =>
          { l with nextId := l.nextId + 1
                   releaseGrabTimeout := l.releaseGrabTimeout ++ [t.saver.loop.timer 1000] }) with
          releaseGrabId := (t.saver.loop.timer 1000).id } := by
        intro t
        exact (parts_releaseTimers (t.saver.loop.nextId + 1) _ (.inl he) (Nat.le_succ _)).trans
          (Part.releaseGrab _).parts
      exact hdrop.trans (hadd _)
    · exact .refl

theorem parts_sessionIdleNotice (he : Watches e) (env : Env) (b : Bool) :
    Parts p env s₀ e s (gsWatcherSetSessionIdleNotice (watcherHost env) b s).2 := by
  simp only [gsWatcherSetSessionIdleNotice]
  split
  · split
    · exact (parts_watcherIdleNotice he b).trans (parts_watcher rfl rfl rfl (.inr he))
    · exact parts_watcherIdleNotice he b
  · exact .refl

theorem parts_sessionIdle (env : Env) (b : Bool) (off : b = false → s.listener.active = false) :
    Parts p env s₀ e s (gsWatcherSetSessionIdle (watcherHost env) b s).2 := by
  simp only [gsWatcherSetSessionIdle]
  split
  · split
    · exact (parts_idle b off).trans (parts_watcher rfl rfl rfl (.inl rfl))
    · exact parts_idle b off
  · exact .refl

theorem parts_removeIdleTimeout : Parts p env s₀ e s (removeIdleTimeout (watcherHost env) s) := by
  simp only [removeIdleTimeout]
  split
  · exact parts_modifyLoop (Saver.still_otherSources rfl rfl rfl rfl rfl rfl rfl rfl (Nat.le_refl _))
  · exact .refl

theorem parts_cancelIdleTimeout : Parts p env s₀ e s (cancelIdleTimeout (watcherHost env) s) := by
  simp only [cancelIdleTimeout]
  split
  · refine Parts.trans (parts_modifyLoop ?_) (parts_watcher rfl rfl rfl (.inl rfl))
    exact Saver.still_otherSources rfl rfl rfl rfl rfl rfl rfl rfl (Nat.le_refl _)
  · exact .refl

theorem cancelIdleTimeout_listener (env : Env) (s : Screensaver) :
    (cancelIdleTimeout (watcherHost env) s).listener = s.listener := by
  simp only [cancelIdleTimeout]
  split <;> rfl

/- A status is only heard while the watcher is on, that is, while the saver is off. -/
theorem parts_setStatus (he : Watches e) (hs : s.Coupled) (status : Nat) :
    Parts p env s₀ e s (setStatus (watcherHost env) status s) := by
  have hadd : ∀ t : Screensaver, Parts p env s₀ e t
      ((watcherHost env).setWatcher
        { (watcherHost env).watcher ((watcherHost env).timeoutAdd t.watcher.deltaNoticeTimeout t).2 with
          idleId := ((watcherHost env).timeoutAdd t.watcher.deltaNoticeTimeout t).1 }
        ((watcherHost env).timeoutAdd t.watcher.deltaNoticeTimeout t).2) := by
    intro t
    let f (l : MainLoop) : MainLoop := { l with
      nextId := l.nextId + 1
      onIdleTimeout := l.onIdleTimeout ++ [t.saver.loop.timer t.watcher.deltaNoticeTimeout] }
    have hloop : Parts p env s₀ e t (t.modifySaver (.modifyLoop f)) :=
      parts_modifyLoop (Saver.still_otherSources rfl rfl rfl rfl rfl rfl rfl rfl (Nat.le_succ _))
    exact hloop.trans (parts_watcher rfl rfl rfl (.inl rfl))
  simp only [setStatus]
  split
  · exact .refl
  · next hwatching =>
    have hactive : s.watcher.active = true := by
      have h : ¬ (!s.watcher.active) = true := hwatching
      simpa using h
    have hoff : s.listener.active = false := by
      have h := hs.watcher
      rw [hactive] at h
      rw [hs.listener]
      simpa using h.symm
    split
    · exact .refl
    · split
      · exact ((parts_sessionIdleNotice he env _).trans parts_removeIdleTimeout).trans (hadd _)
      · refine (parts_cancelIdleTimeout.trans (parts_sessionIdle env false fun _ => ?_)).trans
          (parts_sessionIdleNotice he env false)
        rw [cancelIdleTimeout_listener]
        exact hoff

theorem parts_idleTimeout (he : Watches e) (id : SourceId) : Parts p env s₀ e s (s.idleTimeout env id) := by
  have hrun : Parts p env s₀ e s (onIdleTimeout (watcherHost env) s).2 := by
    simp only [onIdleTimeout]
    have hidle : Parts p env s₀ e s (gsWatcherSetSessionIdle (watcherHost env) true s).2 :=
      parts_sessionIdle env true fun h => absurd h (by decide)
    have h := hidle.trans (parts_sessionIdleNotice he env false)
    split
    · exact h.trans (parts_watcher rfl rfl rfl (.inl rfl))
    · exact h
  refine hrun.trans (parts_modifyLoop ?_)
  exact Saver.still_otherSources rfl rfl rfl rfl rfl rfl rfl rfl (Nat.le_refl _)

/-! ### The registry -/

/- The checks that follow a change of a table. -/
theorem parts_checkActivation (env : Env) : Parts p env s₀ e s (s.listenerCheckActivation env).2 := by
  simp only [listenerCheckActivation]
  split
  · exact .refl
  · next henabled =>
    split
    · exact .refl
    · next hidle =>
      split
      · exact .refl
      · next hfree =>
        have hwilling : s.listener.Willing := by
          refine ⟨by simpa using henabled, by simpa using hidle, ?_⟩
          simpa [listenerRefEntryIsPresent, GSListener.table] using hfree
        exact (Part.activate (.inr hwilling)).parts

theorem parts_checkThrottle (env : Env)
    (hfirst : listenerRefEntryIsPresent s.listener .throttle = false → s.saver = (s₀.tick env).saver) :
    Parts p env s₀ e s (s.listenerCheckThrottle env) := by
  simp only [listenerCheckThrottle]
  split
  · exact (Part.throttle _ hfirst).parts
  · exact .refl

theorem parts_refEntryCheck (type : RefType) (hfirst : type = .throttle →
      listenerRefEntryIsPresent s.listener .throttle = false → s.saver = (s₀.tick env).saver) :
    Parts p env s₀ e s (s.listenerRefEntryCheck env type) := by
  cases type
  · exact parts_checkActivation env
  · exact parts_checkThrottle env (hfirst rfl)

theorem stored_present (env : Env) (entry : RefEntry) (s : Screensaver) :
    listenerRefEntryIsPresent (s.stored env .throttle entry).listener .throttle = true := by
  have hmem : (s.stored env .throttle entry).listener.throttlers
      = s.listener.throttlers.insert entry.cookie entry := rfl
  simp only [listenerRefEntryIsPresent, GSListener.table, hmem, Bool.not_eq_true']
  by_contra hempty
  have h := Table.isEmpty_iff.1 (by simpa using hempty) entry.cookie
  rw [AList.lookup_insert] at h
  cases h

theorem parts_addRefEntry (type : RefType) (entry : RefEntry) (new : entry.foreignCookie = 0)
    (own : entry.entryType = type) (fresh : (s.listener.table type).lookup entry.cookie = none) :
    Parts p env s₀ e s (s.listenerAddRefEntry env type entry) := by
  have hstored : Part p env s₀ e s (s.stored env type entry) := .stored type entry new own fresh
  have hcheck : Parts p env s₀ e (s.stored env type entry)
      ((s.stored env type entry).listenerRefEntryCheck env type) := by
    refine parts_refEntryCheck type fun htype hempty => ?_
    subst htype
    rw [stored_present env entry s] at hempty
    cases hempty
  exact hstored.parts.trans hcheck

theorem parts_removeRefEntry (type : RefType) (cookie : Nat) (hfirst : s.saver = (s₀.tick env).saver) :
    Parts p env s₀ e s (s.listenerRemoveRefEntry env type cookie).2 := by
  simp only [listenerRemoveRefEntry]
  split
  · exact .refl
  · next entry hfound =>
    have hdropped : Part p env s₀ e s (s.dropped type cookie entry) := .dropped type cookie entry hfound
    have hcheck : Parts p env s₀ e (s.dropped type cookie entry)
        ((s.dropped type cookie entry).listenerRefEntryCheck env type) := by
      refine parts_refEntryCheck type fun _ _ => ?_
      rw [dropped_saver]
      exact hfirst
    exact hdropped.parts.trans hcheck

theorem generateUniqueKey_fresh {l : GSListener} {type : RefType} {cookie : Nat}
    (h : listenerGenerateUniqueKey env l type = some cookie) : (l.table type).lookup cookie = none := by
  obtain ⟨c, hc, rfl⟩ := Option.map_eq_some_iff.1 h
  simpa using List.find?_some hc

theorem parts_dbusAddRefEntry {type : RefType} {sender : BusName} {args : Option (String × String)}
    (h : s.listenerDbusAddRefEntry env type sender args = some t) : Parts p env s₀ e s t := by
  simp only [listenerDbusAddRefEntry] at h
  split at h
  · cases h
    exact parts_send rfl
  · obtain ⟨cookie, hcookie, rfl⟩ := Option.map_eq_some_iff.1 h
    exact (parts_addRefEntry type _ rfl rfl (generateUniqueKey_fresh hcookie)).trans (parts_send rfl)

theorem parts_dbusRemoveRefEntry (type : RefType) (cookie : Option Nat)
    (hfirst : s.saver = (s₀.tick env).saver) :
    Parts p env s₀ e s (s.listenerDbusRemoveRefEntry env type cookie) := by
  simp only [listenerDbusRemoveRefEntry]
  split
  · exact parts_send rfl
  · exact (parts_removeRefEntry type _ hfirst).trans (parts_send rfl)

theorem parts_serviceDeleted (name : BusName) (hfirst : s.saver = (s₀.tick env).saver) :
    Parts p env s₀ e s (s.listenerServiceDeleted env name) := by
  have hone : ∀ (type : RefType) (u : Screensaver), (type = .throttle → u.saver = (s₀.tick env).saver) →
      Parts p env s₀ e u (if (u.listenerRefEntryRemoveForConnection type name).1 then
        (u.listenerRefEntryRemoveForConnection type name).2.listenerRefEntryCheck env type
       else (u.listenerRefEntryRemoveForConnection type name).2) := by
    intro type u hu
    have hpurged : Part p env s₀ e u (u.listenerRefEntryRemoveForConnection type name).2 := .purged type name
    split
    · refine hpurged.parts.trans (parts_refEntryCheck type fun htype _ => ?_)
      rw [purged_saver]
      exact hu htype
    · exact hpurged.parts
  exact (hone .throttle s fun _ => hfirst).trans (hone .inhibit _ fun h => absurd h (by decide))

/-! ### The monitor -/

theorem parts_simulateUserActivity (env : Env) : Parts p env s₀ e s (s.gsMonitorSimulateUserActivity env) :=
  parts_calms (Saver.calms_gsManagerRequestUnlock env.toSaverEnv s.saver)

theorem parts_releaseGrabTimeout : Parts p env s₀ e s s.releaseGrabTimeout := by
  simp only [releaseGrabTimeout]
  split
  · exact Parts.trans (parts_still (Saver.still_modifyGrab _)) (Part.releaseGrab 0).parts
  · exact (Part.releaseGrab 0).parts

theorem parts_showMessage (hh : s.saver.Housed) (h : s.listenerShowMessageCb env = some t) :
    Parts p env s₀ e s t := by
  obtain ⟨v, hv, rfl⟩ := Option.map_eq_some_iff.1 h
  exact parts_calms (Saver.calms_gsManagerShowMessage hh.live hv)

theorem parts_prepareForSleepCb (hh : s.saver.Housed) (h : s.listenerPrepareForSleepCb env = some t) :
    Parts p env s₀ e s t := by
  simp only [listenerPrepareForSleepCb] at h
  split at h
  · exact parts_showMessage hh h
  · cases h
    exact .refl

/- The lock goes first and is taken back when the activation is refused. -/
theorem parts_lockCb (hs : s.Agreed) (request : s₀.lockRequest e = true) (hprefs : s.prefs = s₀.prefs) :
    Parts p env s₀ e s (s.listenerLockCb env) := by
  simp only [listenerLockCb]
  split
  · next hd =>
    have hallowed : s₀.prefs.lockDisabled = false := by
      rw [← hprefs]
      simpa using hd
    have hlock : Part p env s₀ e s (s.modifySaver (.gsManagerSetLockActive true)) :=
      .saver (.lock request hallowed)
    simp only [gsMonitorLockScreen]
    split
    · next hoff =>
      obtain ⟨hc, hview⟩ := lockFirst_coupled hs.toCoupled true
      have hactivate : Part p env s₀ e (s.modifySaver (.gsManagerSetLockActive true))
          ((s.modifySaver (.gsManagerSetLockActive true)).gsListenerSetActive env true).2 :=
        .activate (.inl (.inl request))
      have hopen : s.saver.manager.lockActive = false := by
        by_contra hl
        have hact := hs.lock (by simpa using hl)
        have hsame : (s.modifySaver (.gsManagerSetLockActive true)).saver.manager.active = true :=
          (hc.listener.symm.trans hs.listener).trans hact
        rw [hsame] at hoff
        cases hoff
      have hset := gsListenerSetActive_spec env hc true
      rw [hopen]
      generalize (s.modifySaver (.gsManagerSetLockActive true)).gsListenerSetActive env true = x
        at hactivate hset ⊢
      split
      · next hres =>
        have hstill : x.2.saver.manager.active = false := by
          cases hset with
          | same h =>
            have hact : (s.modifySaver (.gsManagerSetLockActive true)).saver.manager.active = true :=
              hc.listener.symm.trans h
            rw [hact] at hoff
            cases hoff
          | refused saver off grab view =>
            have h1 := congrArg LockScreen.active view
            have h2 := hc.listener.symm.trans off
            exact h1.trans h2
          | started saver off grab view => cases hres
        have hunlock : Part p env s₀ e x.2 (x.2.modifySaver (.gsManagerSetLockActive false)) :=
          .saver (.unlock hstill)
        exact (hlock.parts.trans hactivate.parts).trans hunlock.parts
      · exact hlock.parts.trans hactivate.parts
    · exact hlock.parts
  · exact .refl

theorem parts_statusMessage (c : Option String) (he : Tells e) :
    Parts p env s₀ e s (s.modifySaver (.gsManagerSetStatusMessage c)) :=
  have hclock := Saver.cycleClock_gsManagerSetStatusMessage c s.saver
  parts_tune (Saver.tuned_gsManagerSetStatusMessage c) (Saver.mirrored_gsManagerSetStatusMessage c) (.inr he)
    (.kept (congrArg Saver.CycleClock.cycleTimeout hclock.1) (congrArg Saver.CycleClock.cycleTimeoutId hclock.1)
      (congrArg Saver.CycleClock.timers hclock.1)) (.inr fun _ hx => hclock.2 ▸ hx)

/- A key of the settings: the lock first, then what only passes through the manager. -/
theorem parts_keyChanged (k : KeyChange) (he : e = .keyChanged k) (hs : (s₀.tick env).Agreed) :
    Parts p env s₀ e (s₀.tick env) ((s₀.tick env).keyChangedCb env k) := by
  let q := s₀.prefs.keyChanged k
  let s : Screensaver := { s₀.tick env with prefs := q }
  let v := (s.saver.gsManagerSetLockEnabled (q.lockEnabled && !q.lockDisabled)).gsManagerSetLockTimeout
    env.toSaverEnv q.lockTimeout
  have hprefs : Part p env s₀ e (s₀.tick env) s := .prefs k he
  have hlock : Part p env s₀ e s { s with saver := v } := .saver (.lockSettings k he rfl)
  obtain ⟨hclock, hrelease⟩ := Saver.cycleClock_managerSettings env q v
  have hrest : Parts p env s₀ e { s with saver := v } (s.modifySaver (updateManagerFromPrefs env q)) :=
    parts_tune (Saver.tuned_managerSettings env q) (Saver.mirrored_managerSettings env q) (.inr (.inr ⟨k, he⟩))
      (.set k he rfl hclock) (.inr fun x hx => hrelease ▸ hx)
  have hagreed : (s.modifySaver (updateManagerFromPrefs env q)).Agreed := by
    have hs' : s.Agreed := ((preserves_beside (r := True) (g := True) (p := True) rfl
      ⟨rfl, rfl, rfl, rfl, rfl⟩ : Preserves True True True (s₀.tick env) s) hs).agreed
    have htight := tightens_updateManagerFromPrefs (g := False) env q s.saver False.elim
    exact (preserves_tightens (r := True) (p := True) htight (.modifySaver _) hs').agreed
  have hsettle := settle_enabled hagreed
  have henable : Part p env s₀ e (s.modifySaver (updateManagerFromPrefs env q))
      (s.modifySaver (updateManagerFromPrefs env q)).settle := by
    rw [hsettle]
    exact .enable _
  have hmessage : Parts p env s₀ e (s.modifySaver (updateManagerFromPrefs env q)).settle
      (s.updateFromPrefs env) := by
    rw [updateFromPrefs_eq]
    dsimp only
    split
    · exact parts_statusMessage _ (.inr ⟨k, he⟩)
    · exact parts_statusMessage _ (.inr ⟨k, he⟩)
  exact ((hprefs.parts.trans hlock.parts).trans hrest).trans (henable.parts.trans hmessage)

/-! ### The buses -/

theorem parts_end (ends : s₀.Ends e) :
    Parts p env s₀ e (s₀.tick env) ((s₀.tick env).gsListenerSetActive env false).2 :=
  (Part.deactivate ends rfl).parts

theorem parts_listenerShowMessage {args : Option (String × String × String)} (hh : s.saver.Housed)
    (h : s.listenerShowMessage env args = some t) : Parts p env s₀ e s t := by
  simp only [listenerShowMessage] at h
  split at h
  · split at h
    · cases h
      exact parts_send rfl
    · obtain ⟨u, hu, rfl⟩ := Option.map_eq_some_iff.1 h
      exact (parts_showMessage hh hu).trans (parts_send rfl)
  · cases h
    exact parts_send rfl

theorem parts_sessionCall {sender : BusName} {call : SessionCall} (hs : (s₀.tick env).Agreed)
    (hh : s₀.saver.Housed)
    (h : ((s₀.tick env).listenerDbusHandleSessionMessage env sender call).map Prod.snd = some t) :
    Parts p env s₀ (.sessionCall sender call) (s₀.tick env) t := by
  have hhouse : (s₀.tick env).saver.Housed := tick_housed hh env
  cases call with
  | lock =>
    cases h
    exact parts_lockCb hs rfl rfl
  | unlock =>
    cases h
    exact parts_end (.inl rfl)
  | quit =>
    cases h
    exact (parts_end (.inl rfl)).trans Part.quit.parts
  | cycle =>
    cases h
    exact parts_calms (Saver.calms_gsManagerCycle env.toSaverEnv _)
  | inhibit args => exact parts_dbusAddRefEntry (eq_of_handled h)
  | unInhibit cookie =>
    cases h
    exact parts_dbusRemoveRefEntry .inhibit cookie rfl
  | getInhibitors =>
    cases h
    exact parts_send rfl
  | throttle args => exact parts_dbusAddRefEntry (eq_of_handled h)
  | unThrottle cookie =>
    cases h
    exact parts_dbusRemoveRefEntry .throttle cookie rfl
  | setActive path value =>
    cases h
    cases value with
    | none => exact parts_send rfl
    | some b =>
      cases b
      · exact (parts_end (.inl rfl)).trans (parts_send rfl)
      · exact (Part.activate (.inl (.inr ⟨sender, path, rfl⟩))).parts.trans (parts_send rfl)
  | getActive =>
    cases h
    exact parts_send rfl
  | getActiveTime =>
    cases h
    exact parts_send rfl
  | showMessage args => exact parts_listenerShowMessage hhouse (eq_of_handled h)
  | simulateUserActivity =>
    cases h
    exact parts_simulateUserActivity env
  | introspect =>
    cases h
    exact parts_send rfl
  | addMatch =>
    cases h
    exact parts_send rfl
  | unknown =>
    cases h
    exact .refl

theorem parts_removeCkRefEntry (hfirst : s.saver = (s₀.tick env).saver) :
    Parts p env s₀ e s (s.listenerRemoveCkRefEntry env) := by
  simp only [listenerRemoveCkRefEntry]
  split
  · exact (parts_removeRefEntry .throttle _ hfirst).trans (Part.ckCookie 0).parts
  · exact .refl

theorem parts_addCkRefEntry {sender : BusName} (h : s.listenerAddCkRefEntry env sender = some t) :
    Parts p env s₀ e s t := by
  obtain ⟨cookie, hcookie, rfl⟩ := Option.map_eq_some_iff.1 h
  exact (parts_addRefEntry .throttle _ rfl rfl (generateUniqueKey_fresh hcookie)).trans
    (Part.ckCookie cookie).parts

theorem parts_ckActiveChanged {sender : BusName} {b : Bool} (hfirst : s.saver = (s₀.tick env).saver)
    (h : s.ckActiveChanged env sender b = some t) : Parts p env s₀ e s t := by
  simp only [ckActiveChanged] at h
  split at h
  · cases h
    exact (parts_removeCkRefEntry hfirst).trans (parts_simulateUserActivity env)
  · exact (parts_removeCkRefEntry hfirst).trans (parts_addCkRefEntry h)

theorem parts_prepareForSleep {b : Bool} (hh : s.saver.Housed) (hl : s₀.hearsLogind = true)
    (he : ∃ sender b, e = .systemSignal sender (.prepareForSleep b)) (h : s.prepareForSleep env b = some t) :
    Parts p env s₀ e s t := by
  simp only [prepareForSleep] at h
  split at h
  · obtain ⟨u, hu, rfl⟩ := Option.map_eq_some_iff.1 h
    exact (parts_prepareForSleepCb hh hu).trans (Part.delayLock 0 hl he).parts
  · exact (Part.delayLock env.logindInhibit hl he).parts.trans (parts_prepareForSleepCb hh h)

theorem parts_logindSignal {sender : BusName} {signal : SystemSignal} (hs : (s₀.tick env).Agreed)
    (hh : (s₀.tick env).saver.Housed) (hl : s₀.hearsLogind = true)
    (h : (s₀.tick env).handleLogindSignal env signal = some t) :
    Parts p env s₀ (.systemSignal sender signal) (s₀.tick env) t := by
  cases signal with
  | logindUnlock path =>
    cases h
    split
    · next hours =>
      have hours' : s₀.messagePathIsOurSession path = true := hours
      exact parts_end (.inl (by simp [unlockRequest, hl, hours']))
    · exact .refl
  | logindLock path =>
    cases h
    split
    · next hours =>
      have hours' : s₀.messagePathIsOurSession path = true := hours
      exact parts_lockCb hs (by simp [lockRequest, hl, hours']) rfl
    · exact .refl
  | prepareForSleep b => exact parts_prepareForSleep hh hl ⟨sender, b, rfl⟩ h
  | propertiesChanged path properties =>
    cases h
    split
    · exact parts_simulateUserActivity env
    · exact .refl
  | ckUnlock path => cases h; exact .refl
  | ckLock path => cases h; exact .refl
  | ckActiveChanged path b => cases h; exact .refl
  | unknown => cases h; exact .refl

theorem parts_ckSignal {sender : BusName} {signal : SystemSignal} (hs : (s₀.tick env).Agreed)
    (hk : s₀.hearsConsoleKit = true)
    (h : (s₀.tick env).handleCkSignal env sender signal = some t) :
    Parts p env s₀ (.systemSignal sender signal) (s₀.tick env) t := by
  cases signal with
  | ckUnlock path =>
    cases h
    split
    · next hours =>
      have hours' : s₀.messagePathIsOurSession path = true := hours
      exact parts_end (.inl (by simp [unlockRequest, hk, hours']))
    · exact .refl
  | ckLock path =>
    cases h
    split
    · next hours =>
      have hours' : s₀.messagePathIsOurSession path = true := hours
      exact parts_lockCb hs (by simp [lockRequest, hk, hours']) rfl
    · exact .refl
  | ckActiveChanged path b =>
    cases b with
    | none => cases h; exact .refl
    | some b =>
      simp only [handleCkSignal] at h
      split at h
      · exact parts_ckActiveChanged rfl h
      · cases h
        exact .refl
  | logindUnlock path => cases h; exact .refl
  | logindLock path => cases h; exact .refl
  | prepareForSleep b => cases h; exact .refl
  | propertiesChanged path properties => cases h; exact .refl
  | unknown => cases h; exact .refl

theorem parts_systemSignal {sender : BusName} {signal : SystemSignal} (hs : (s₀.tick env).Agreed)
    (hh : (s₀.tick env).saver.Housed)
    (h : (s₀.tick env).listenerDbusHandleSystemMessage env sender signal = some t) :
    Parts p env s₀ (.systemSignal sender signal) (s₀.tick env) t := by
  simp only [listenerDbusHandleSystemMessage] at h
  split at h
  · next hl => exact parts_logindSignal hs hh hl h
  · next hl =>
    split at h
    · next hc =>
      have hno : s₀.hearsLogind = false := Bool.not_eq_true _ ▸ hl
      have hck : s₀.config.withConsoleKit = true := hc
      exact parts_ckSignal hs (by simp [hearsConsoleKit, hno, hck]) h
    · cases h
      exact .refl

/-! ### The step -/

theorem live_of_visible {w : WindowId} (h : s.visible w = true) : s.saver.Live w := by
  obtain ⟨-, hlive⟩ := Bool.and_eq_true_iff.1 h
  simpa using hlive

theorem live_of_view {v : Saver} {w : WindowId} {d : DialogWindow} (h : v.view.window w = some d) :
    v.Live w := by
  obtain ⟨win, hwin, -⟩ := Option.map_eq_some_iff.1 h
  rw [Saver.Live, hwin]
  rfl

theorem intact_tick (hi : s₀.saver.Intact) (env : Env) : (s₀.tick env).saver.Intact :=
  hi.modifyLoop (f := fun l => { l with now := l.now + env.elapsed }) (fun _ hx => .inl hx) (fun _ hx => .inl hx)
    (fun _ hx => hx) (fun _ hx => hx) (Nat.le_refl _)

/- The timers and the idles. -/
theorem parts_dispatch_releaseGrabTimeout {id : SourceId}
    (h : (s₀.tick env).dispatch env (.releaseGrabTimeout id) = some t) :
    Parts p env s₀ (.releaseGrabTimeout id) (s₀.tick env) t := by
  obtain ⟨_, -, rfl⟩ := Option.map_eq_some_iff.1 h
  exact parts_releaseGrabTimeout.trans
    (parts_releaseTimers _ _ (.inr fun x hx => (List.mem_filter.1 hx).1) (Nat.le_refl _))

theorem parts_dispatch_activateLockTimeout {id : SourceId}
    (h : (s₀.tick env).dispatch env (.activateLockTimeout id) = some t) :
    Parts p env s₀ (.activateLockTimeout id) (s₀.tick env) t := by
  obtain ⟨timer, hfind, rfl⟩ := Option.map_eq_some_iff.1 h
  exact (Part.saver (.lockTimer id rfl rfl (due_mem hfind))).parts

theorem parts_dispatch_cycleTimeout {id : SourceId} (h : (s₀.tick env).dispatch env (.cycleTimeout id) = some t) :
    Parts p env s₀ (.cycleTimeout id) (s₀.tick env) t := by
  obtain ⟨_, -, rfl⟩ := Option.map_eq_some_iff.1 h
  let v := (s₀.tick env).saver.cycleTimeoutCb env.toSaverEnv
  have hcycle : Parts p env s₀ (.cycleTimeout id) (s₀.tick env) { s₀.tick env with saver := v } :=
    parts_calms (Saver.calms_cycleTimeoutCb env.toSaverEnv _)
  refine hcycle.trans (parts_tune (fun _ => ?_) (fun _ hm => hm) (.inl rfl) (.dispatched id rfl)
    (.inr fun x hx => hx))
  exact ⟨rfl, fun _ => rfl, rfl, rfl, rfl, rfl, rfl, fun _ hi => hi.modifyLoop (fun x hx => .inl hx)
    (fun x hx => .inl hx) (fun x hx => hx) (fun x hx => hx) (Nat.le_refl _)⟩

theorem parts_dispatch_infoBarTimeout {id : SourceId} (hp : p → s₀.saver.Intact)
    (h : (s₀.tick env).dispatch env (.infoBarTimeout id) = some t) :
    Parts p env s₀ (.infoBarTimeout id) (s₀.tick env) t := by
  have hintact : p → (s₀.tick env).saver.Intact := fun hp' => intact_tick (hp hp') env
  obtain ⟨x, hfind, rfl⟩ := Option.map_eq_some_iff.1 h
  obtain ⟨hx, rfl⟩ := findSource_mem hfind
  exact parts_still (Saver.still_infoBarTimeout hx hintact)

theorem parts_dispatch_emitDeactivatedIdle {id : SourceId} (hp : p → s₀.saver.Intact)
    (h : (s₀.tick env).dispatch env (.emitDeactivatedIdle id) = some t) :
    Parts p env s₀ (.emitDeactivatedIdle id) (s₀.tick env) t := by
  have hintact : p → (s₀.tick env).saver.Intact := fun hp' => intact_tick (hp hp') env
  obtain ⟨x, hfind, rfl⟩ := Option.map_eq_some_iff.1 h
  have hid : x.id = id := by simpa using List.find?_some hfind
  subst hid
  exact parts_still (Saver.still_emitDeactivatedIdle (List.mem_of_find?_eq_some hfind) hintact)

theorem parts_dispatch_windowDeactivatedIdle {id : SourceId}
    (h : (s₀.tick env).dispatch env (.windowDeactivatedIdle id) = some t) :
    Parts p env s₀ (.windowDeactivatedIdle id) (s₀.tick env) t := by
  obtain ⟨x, -, rfl⟩ := Option.map_eq_some_iff.1 h
  refine Parts.trans (parts_end (.inr ⟨id, rfl⟩)) (parts_modifyLoop ?_)
  exact Saver.still_otherSources rfl rfl rfl rfl rfl rfl rfl rfl (Nat.le_refl _)

/- The dialog and the keyboard. -/
theorem parts_dispatch_popupDialogIdle {id : SourceId} (hs : (s₀.tick env).Agreed)
    (h : (s₀.tick env).dispatch env (.popupDialogIdle id) = some t) :
    Parts p env s₀ (.popupDialogIdle id) (s₀.tick env) t := by
  obtain ⟨x, hfind, rfl⟩ := Option.map_eq_some_iff.1 h
  obtain ⟨hx, rfl⟩ := findSource_mem hfind
  obtain ⟨-, d, hd, -⟩ := hs.sound.popup x hx
  have hlive : (s₀.tick env).saver.Live x.window := live_of_view hd
  let v := (s₀.tick env).saver.popupDialogIdle env.toSaverEnv x.window
  have hpopup : Parts p env s₀ (.popupDialogIdle x.id) (s₀.tick env) { s₀.tick env with saver := v } :=
    parts_still (Saver.still_popupDialogIdle env.toSaverEnv fun _ => hlive)
  refine hpopup.trans (parts_still ?_)
  exact Saver.still_otherSources rfl rfl rfl rfl rfl rfl rfl rfl (Nat.le_refl _)

theorem parts_dispatch_lockCommandWatch {id : SourceId} {input : WatchInput} (hs : (s₀.tick env).Agreed)
    (hp : p → s₀.saver.Intact ∧ s₀.Careful env (.lockCommandWatch id input))
    (h : (s₀.tick env).dispatch env (.lockCommandWatch id input) = some t) :
    Parts p env s₀ (.lockCommandWatch id input) (s₀.tick env) t := by
  simp only [dispatch] at h
  split at h
  · cases h
  · obtain ⟨x, hfind, rfl⟩ := Option.map_eq_some_iff.1 h
    obtain ⟨hx, hid⟩ := findSource_mem hfind
    obtain ⟨-, d, hd, -⟩ := hs.sound.watch x hx
    have hlive : (s₀.tick env).saver.Live x.window := live_of_view hd
    refine parts_calms (Saver.calms_lockCommandWatch (fun _ => hlive) fun hp' => ?_)
    exact (hp hp').2 x hx hid

theorem parts_dispatch_keyboardCommandWatch {id : SourceId} {input : WatchInput} (hp : p → s₀.saver.Intact)
    (h : (s₀.tick env).dispatch env (.keyboardCommandWatch id input) = some t) :
    Parts p env s₀ (.keyboardCommandWatch id input) (s₀.tick env) t := by
  have hintact : p → (s₀.tick env).saver.Intact := fun hp' => intact_tick (hp hp') env
  obtain ⟨x, hfind, rfl⟩ := Option.map_eq_some_iff.1 h
  exact parts_still (Saver.still_keyboardCommandWatch input (findSource_mem hfind).1 hintact)

theorem parts_dispatch_shakeEnd (hp : p → s₀.saver.Intact) (h : (s₀.tick env).dispatch env .shakeEnd = some t) :
    Parts p env s₀ .shakeEnd (s₀.tick env) t := by
  have hintact : p → (s₀.tick env).saver.Intact := fun hp' => intact_tick (hp hp') env
  simp only [dispatch] at h
  split at h
  · cases h
  · next x rest hshaking =>
    cases h
    exact parts_still (Saver.still_shakeDialogEnd hshaking hintact)

/- Every event. -/
theorem parts_dispatch (hs : (s₀.tick env).Agreed) (hh : s₀.saver.Housed)
    (hp : p → s₀.saver.Intact ∧ s₀.Careful env e) (h : (s₀.tick env).dispatch env e = some t) :
    Parts p env s₀ e (s₀.tick env) t := by
  have hhouse : (s₀.tick env).saver.Housed := tick_housed hh env
  cases e with
  | presenceStatus status => cases h; exact parts_setStatus (.inl ⟨status, rfl⟩) hs.toCoupled status
  | presenceStatusText text =>
    cases h
    let u : Screensaver := { s₀.tick env with watcher := { s₀.watcher with statusMessage := text } }
    have hu : Part p env s₀ (.presenceStatusText text) (s₀.tick env) u :=
      .watcher _ rfl rfl (.inr (.inl ⟨text, rfl⟩)) (.inl rfl)
    exact hu.parts.trans (parts_statusMessage text (.inl ⟨text, rfl⟩))
  | keyChanged k => cases h; exact parts_keyChanged k rfl hs
  | sessionCall sender call => exact parts_sessionCall hs hh h
  | nameOwnerChanged name old new => cases h; exact parts_serviceDeleted old rfl
  | systemSignal sender signal => exact parts_systemSignal hs hhouse h
  | monitorAdded m =>
    simp only [dispatch] at h
    split at h
    · cases h
    · next hnew =>
      cases h
      exact (Part.saver (.added m rfl rfl hnew)).parts
  | monitorRemoved m =>
    simp only [dispatch] at h
    split at h
    · cases h
      exact (Part.saver (.removed m rfl rfl)).parts
    · cases h
  | activity w =>
    simp only [dispatch] at h
    split at h
    · cases h
      exact parts_calms (Saver.calms_maybeHandleActivity env.toSaverEnv _ w)
    · cases h
  | mapEvent w =>
    simp only [dispatch] at h
    split at h
    · cases h
      exact parts_calms (Saver.calms_windowMapEventCb env.toSaverEnv _ w)
    · cases h
  | visibilityNotify w obscured =>
    simp only [dispatch] at h
    split at h
    · next hvisible =>
      cases h
      exact parts_calms (Saver.calms_windowSetObscured env.toSaverEnv obscured (live_of_visible hvisible))
    · cases h
  | grabBroken w otherGrabbed =>
    simp only [dispatch] at h
    split at h
    · cases h
      split
      · exact .refl
      · exact parts_still (Saver.still_modifyGrab _)
    · cases h
  | lockPlugRemoved w =>
    simp only [dispatch] at h
    split at h
    · next hbox =>
      cases h
      have hlive := live_of_visible (Bool.and_eq_true_iff.1 hbox).1
      exact parts_still (Saver.still_modifyWindow (fun _ => hlive) (fun _ => rfl) (fun _ => rfl) fun _ => rfl)
    · cases h
  | jobDied w =>
    simp only [dispatch] at h
    split at h
    · cases h
      exact parts_calms (Saver.calms_jobDied env.toSaverEnv _ w)
    · cases h
  | onIdleTimeout id =>
    obtain ⟨_, -, rfl⟩ := Option.map_eq_some_iff.1 h
    exact parts_idleTimeout (.inr ⟨id, rfl⟩) id
  | releaseGrabTimeout id => exact parts_dispatch_releaseGrabTimeout h
  | activateLockTimeout id => exact parts_dispatch_activateLockTimeout h
  | cycleTimeout id => exact parts_dispatch_cycleTimeout h
  | infoBarTimeout id => exact parts_dispatch_infoBarTimeout (fun hp' => (hp hp').1) h
  | emitDeactivatedIdle id => exact parts_dispatch_emitDeactivatedIdle (fun hp' => (hp hp').1) h
  | windowDeactivatedIdle id => exact parts_dispatch_windowDeactivatedIdle h
  | popupDialogIdle id => exact parts_dispatch_popupDialogIdle hs h
  | lockCommandWatch id input => exact parts_dispatch_lockCommandWatch hs hp h
  | keyboardCommandWatch id input => exact parts_dispatch_keyboardCommandWatch (fun hp' => (hp hp').1) h
  | shakeEnd => exact parts_dispatch_shakeEnd (fun hp' => (hp hp').1) h

theorem parts_step (hs : s.Agreed) (hh : s.saver.Housed) (hp : p → s.saver.Intact ∧ s.Careful env e)
    (h : s.step (env, e) = some t) : Parts p env s e (s.tick env) t :=
  parts_dispatch (tick_agreed hs env) hh hp (step_dispatch h)

/-! ### What a step does to the windows -/

/-- The same possibilities where the lock does not matter. -/
inductive Kind (p : Prop) (env : Env) (s₀ : Screensaver) (e : Event) : Saver → Saver → Prop
  | calm {v u : Saver} (h : Calm p env.toSaverEnv v u) : Kind p env s₀ e v u
  | tune {v u : Saver} (h : Tuned p v u) : Kind p env s₀ e v u
  | locking {v u : Saver} (h : Saver.Locking v u) : Kind p env s₀ e v u
  | activate {v : Saver} (off : v.manager.active = false) (granted : env.grabRoot = true) :
      Kind p env s₀ e v (v.gsManagerActivate env.toSaverEnv).2
  | deactivate {v : Saver} (ends : s₀.Ends e) (first : v = (s₀.tick env).saver)
      (on : v.manager.active = true) : Kind p env s₀ e v (v.gsManagerDeactivate env.toSaverEnv).2
  | added {v : Saver} (m : MonitorId) (he : e = .monitorAdded m) (first : v = (s₀.tick env).saver)
      (new : m ∉ v.display.monitors) : Kind p env s₀ e v (monitorAdded env m v)
  | removed {v : Saver} (m : MonitorId) (he : e = .monitorRemoved m) (first : v = (s₀.tick env).saver) :
      Kind p env s₀ e v (monitorRemoved env m v)
  | throttle {v : Saver} (b : Bool) (first : b = false → v = (s₀.tick env).saver) :
      Kind p env s₀ e v (v.gsManagerSetThrottled env.toSaverEnv b)

variable {v v' : Saver}

theorem Does.kind (h : Does p env s₀ e v v') (hh : v.Housed) : Kind p env s₀ e v v' := by
  cases h with
  | calm h => exact .calm h
  | tune h mirrors silent cycle release => exact .tune (h hh)
  | activate off granted => exact .activate off granted
  | deactivate ends first on => exact .deactivate ends first on
  | added m he first new => exact .added m he first new
  | removed m he first => exact .removed m he first
  | lock request allowed => exact .locking (Saver.locking_gsManagerSetLockActive true hh)
  | unlock off => exact .locking (Saver.locking_gsManagerSetLockActive false hh)
  | lockTimer id he first due =>
    refine .locking ((Saver.locking_activateLockTimeout hh).trans ?_)
    exact .of_windows rfl rfl rfl rfl rfl rfl rfl rfl fun h => h.modifyLoop (fun x hx => .inl hx)
      (fun x hx => .inl hx) (fun x hx => hx) (fun x hx => hx) (Nat.le_refl _)
  | lockSettings k he first =>
    exact .locking (Saver.locking_lockSettings env.toSaverEnv _ _ hh)
  | throttle b first => exact .throttle b first

theorem throttled_eq (env : SaverEnv) (v : Saver) (b : Bool) :
    ∃ jobs, v.gsManagerSetThrottled env b = { v with manager := { v.manager with throttled := b, jobs := jobs } } := by
  simp only [Saver.gsManagerSetThrottled]
  split
  · split
    · exact ⟨_, rfl⟩
    · exact ⟨_, rfl⟩
  · next hsame =>
    have hb : v.manager.throttled = b := by simpa using hsame
    refine ⟨v.manager.jobs, ?_⟩
    rw [← hb]

theorem Kind.housed (h : Kind p env s₀ e v v') (hs : s₀.saver.view.Sound) (hh : v.Housed) : v'.Housed := by
  cases h with
  | calm h => exact hh.steady h.steady
  | tune h => exact hh.steady h.steady
  | locking h => exact h.housed hh
  | activate off granted =>
    exact (Saver.gsManagerActivate_acts (p := p) hh off granted).1.housed hh
  | deactivate ends first on =>
    have hended := Saver.gsManagerDeactivate_ended env.toSaverEnv hh on
    refine ⟨fun w => ?_, ?_, fun w hw => ?_⟩
    · simp [Saver.Live, hended.windows, hended.lost]
    · rw [hended.windows]
      exact List.nodup_nil
    · rw [Saver.Live, hended.lost] at hw
      cases hw
  | added m he first new =>
    subst first
    have hsound : (s₀.tick env).saver.view.Sound := hs
    exact (Saver.monitorAdded_spec (p := p) env m hsound hh).1.housed hh
  | removed m he first =>
    exact (Saver.monitorRemoved_spec (p := False) env m hh False.elim).1.housed hh
  | throttle b first =>
    obtain ⟨jobs, hjobs⟩ := throttled_eq env.toSaverEnv v b
    rw [hjobs]
    exact hh.same rfl rfl rfl

/- Along a chain the windows of the manager are the live ones all the time. -/
theorem AllDone.housed (h : AllDone p env s₀ e v v') (hs : s₀.saver.view.Sound) (hh : v.Housed) :
    v'.Housed := by
  induction h with
  | refl => exact hh
  | tail _ h ih => exact (h.kind ih).housed hs ih

/- An invariant of the saver needs one look at each kind of change. -/
theorem AllDone.induct {I : Saver → Prop} (h : AllDone p env s₀ e v v') (hs : s₀.saver.view.Sound)
    (hh : v.Housed) (hI : I v) (hstep : ∀ v u, v.Housed → I v → Kind p env s₀ e v u → I u) : I v' := by
  induction h with
  | refl => exact hI
  | tail hbefore h ih =>
    have hhouse := AllDone.housed hbefore hs hh
    exact hstep _ _ hhouse ih (h.kind hhouse)

/- Over a step, what the passing of time and each kind of change keep. -/
theorem step_induct {I : Saver → Prop} (hs : s.Agreed ∧ s.saver.Housed)
    (hp : p → s.saver.Intact ∧ s.Careful env e) (h : s.step (env, e) = some t) (htick : I (s.tick env).saver)
    (hkind : ∀ v u, v.Housed → I v → Kind p env s e v u → I u) : I t.saver :=
  (parts_step hs.1 hs.2 hp h).done.induct hs.1.sound (tick_housed hs.2 env) htick hkind

/- The saver at the start, with only the settings of the lock. -/
def lockSet (b : Boot) (env : Env) : Saver :=
  (b.unsettled.saver.gsManagerSetLockEnabled (b.unsettled.prefs.lockEnabled && !b.unsettled.prefs.lockDisabled)
    ).gsManagerSetLockTimeout env.toSaverEnv b.unsettled.prefs.lockTimeout

theorem unsettled_housed (b : Boot) : b.unsettled.saver.Housed := by
  refine ⟨fun w => ?_, List.nodup_nil, fun w hw => ?_⟩
  · show w ∈ [] ↔ false = true
    simp
  · cases hw

/- The saver when of the settings only those of the lock have been handed over. -/
def locksHanded (env : Env) (s : Screensaver) : Saver :=
  (s.saver.gsManagerSetLockEnabled (s.prefs.lockEnabled && !s.prefs.lockDisabled)).gsManagerSetLockTimeout
    env.toSaverEnv s.prefs.lockTimeout

theorem locking_locksHanded (env : Env) (hh : s.saver.Housed) :
    Saver.Locking s.saver (s.locksHanded env) ∧ (s.locksHanded env).Housed := by
  have hlock := Saver.locking_lockSettings env.toSaverEnv (s.prefs.lockEnabled && !s.prefs.lockDisabled)
    s.prefs.lockTimeout hh
  exact ⟨hlock, hlock.housed hh⟩

theorem updateFromPrefs_prefs (env : Env) (s : Screensaver) : (s.updateFromPrefs env).prefs = s.prefs := by
  have hset : (s.modifySaver (updateManagerFromPrefs env s.prefs)).settle.prefs = s.prefs := settle_prefs _
  rw [updateFromPrefs_eq]
  dsimp only
  split
  · exact hset
  · exact hset

/- The rest of the settings, and the status message after them. -/
theorem updateFromPrefs_saver (env : Env) (s : Screensaver) : ∃ message, (s.updateFromPrefs env).saver =
    (managerSettings env s.prefs (s.locksHanded env)).gsManagerSetStatusMessage message := by
  let s1 := s.modifySaver (updateManagerFromPrefs env s.prefs)
  have hset : s1.settle.saver = managerSettings env s.prefs (s.locksHanded env) := settle_saver s1
  rw [updateFromPrefs_eq, ← hset]
  dsimp only
  split
  · exact ⟨_, rfl⟩
  · exact ⟨_, rfl⟩

theorem tuned_updateFromPrefs (p : Prop) (env : Env) (hh : s.saver.Housed) :
    Tuned p (s.locksHanded env) (s.updateFromPrefs env).saver := by
  have hhouse := (locking_locksHanded env hh).2
  have hset : Tuned p (s.locksHanded env) (managerSettings env s.prefs (s.locksHanded env)) :=
    Saver.tuned_managerSettings env s.prefs hhouse
  obtain ⟨message, hmessage⟩ := updateFromPrefs_saver env s
  rw [hmessage]
  exact hset.trans (Saver.tuned_gsManagerSetStatusMessage message (hhouse.steady hset.steady))

/- Of what the settings do, the cycle timer sees the setting for it. -/
theorem updateFromPrefs_cycleClock (env : Env) (s : Screensaver) : (s.updateFromPrefs env).saver.cycleClock =
    (s.locksHanded env).cycleClock.set env.time s.prefs.cycle := by
  obtain ⟨message, hmessage⟩ := updateFromPrefs_saver env s
  rw [hmessage, (Saver.cycleClock_gsManagerSetStatusMessage message _).1,
    (Saver.cycleClock_managerSettings env s.prefs _).1]

theorem locking_lockSet (b : Boot) (env : Env) : Saver.Locking b.unsettled.saver (lockSet b env) ∧
    (lockSet b env).Housed := locking_locksHanded env (unsettled_housed b)

/- The start, too, only goes through the settings. -/
theorem tuned_start (p : Prop) (b : Boot) (env : Env) : Tuned p (lockSet b env) (b.start env).saver :=
  tuned_updateFromPrefs p env (unsettled_housed b)

theorem start_saver (p : Prop) (b : Boot) (env : Env) :
    ∃ v, Saver.Locking b.unsettled.saver v ∧ v.Housed ∧ Tuned p v (b.start env).saver :=
  ⟨lockSet b env, (locking_lockSet b env).1, (locking_lockSet b env).2, tuned_start p b env⟩

theorem housed_invariant : screensaver.Invariant fun s => s.Agreed ∧ s.saver.Housed := by
  refine agreed_invariant.and (fun s hs => ?_) fun s label t hs hh h => ?_
  · obtain ⟨b, env, rfl⟩ := hs
    obtain ⟨v, -, hhouse, htuned⟩ := start_saver True b env
    exact hhouse.steady htuned.steady
  · have hparts := parts_step (p := False) hs hh False.elim h
    exact AllDone.housed hparts.done hs.sound (tick_housed hh label.1)

theorem start_housed (b : Boot) (env : Env) : (b.start env).Agreed ∧ (b.start env).saver.Housed :=
  housed_invariant.start _ ⟨b, env, rfl⟩

end Screensaver
end MateScreensaver
