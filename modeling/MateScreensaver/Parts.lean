import MateScreensaver.Mirror

/-!
One step of the process as a chain of parts. What any of them keeps is kept by
every step, whatever the event.
-/

namespace MateScreensaver

/- Messages that are neither the active state nor meant for the session manager. -/
def BusMessage.plain : BusMessage → Bool
  | .methodReturn _ => true
  | .syntaxError _ => true
  | .typeMismatch _ => true
  | _ => false

/- The listener would activate on its own account. -/
def GSListener.Willing (l : GSListener) : Prop :=
  l.activationEnabled = true ∧ l.sessionIdle = true ∧ l.inhibitors.isEmpty = true

namespace Screensaver
open Saver (Calm Calms Tuned)

variable {p : Prop} {env : Env} {s₀ s t u : Screensaver} {e : Event}

/- Lock, SetActive (TRUE), and the Lock signals of logind and ConsoleKit. -/
def Explicit (s : Screensaver) (e : Event) : Prop :=
  s.lockRequest e = true ∨ ∃ sender path, e = .sessionCall sender (.setActive path (some true))

/- The two paths on which the status message travels, gs-monitor.c:333 and 370. -/
def Tells (e : Event) : Prop := (∃ text, e = .presenceStatusText text) ∨ ∃ k, e = .keyChanged k

/- The two events that the watcher goes by. -/
def Watches (e : Event) : Prop := (∃ status, e = .presenceStatus status) ∨ ∃ id, e = .onIdleTimeout id

/- What becomes of the cycle timer outside the manager's own moves: the setting
reaches it, or it has been dispatched. -/
inductive Cycles (env : Env) (s₀ : Screensaver) (e : Event) (v u : Saver) : Prop
  | kept (timeout : u.manager.cycleTimeout = v.manager.cycleTimeout)
      (id : u.manager.cycleTimeoutId = v.manager.cycleTimeoutId)
      (timers : u.loop.cycleTimeout = v.loop.cycleTimeout)
  | set (k : KeyChange) (he : e = .keyChanged k)
      (locks : v = ((s₀.tick env).saver.gsManagerSetLockEnabled
        ((s₀.prefs.keyChanged k).lockEnabled && !(s₀.prefs.keyChanged k).lockDisabled)).gsManagerSetLockTimeout
          env.toSaverEnv (s₀.prefs.keyChanged k).lockTimeout)
      (clock : u.cycleClock = v.cycleClock.set env.time (s₀.prefs.keyChanged k).cycle)
  | dispatched (id : SourceId) (he : e = .cycleTimeout id)

/-- What a step of the process can do to the saver. The event and the state it
meets say what may happen; `p` is what keeps windows that are gone out of it. -/
inductive Does (p : Prop) (env : Env) (s₀ : Screensaver) (e : Event) : Saver → Saver → Prop
  | calm {v u : Saver} (h : Calm p env.toSaverEnv v u) : Does p env s₀ e v u
  | tune {v u : Saver} (h : v.Housed → Tuned p v u) (mirrors : v.Housed → v.Mirrored → u.Mirrored)
      (silent : u.manager.handed = v.manager.handed ∨ Tells e) (cycle : Cycles env s₀ e v u)
      (release : Watches e ∨ ∀ x ∈ u.loop.releaseGrabTimeout, x ∈ v.loop.releaseGrabTimeout) : Does p env s₀ e v u
  | activate {v : Saver} (off : v.manager.active = false) (granted : env.grabRoot = true) :
      Does p env s₀ e v (v.gsManagerActivate env.toSaverEnv).2
  | deactivate {v : Saver} (ends : s₀.Ends e) (first : v = (s₀.tick env).saver)
      (on : v.manager.active = true) : Does p env s₀ e v (v.gsManagerDeactivate env.toSaverEnv).2
  | added {v : Saver} (m : MonitorId) (he : e = .monitorAdded m) (first : v = (s₀.tick env).saver)
      (new : m ∉ v.display.monitors) : Does p env s₀ e v (monitorAdded env m v)
  | removed {v : Saver} (m : MonitorId) (he : e = .monitorRemoved m) (first : v = (s₀.tick env).saver) :
      Does p env s₀ e v (monitorRemoved env m v)
  | lock {v : Saver} (request : s₀.lockRequest e = true) (allowed : s₀.prefs.lockDisabled = false) :
      Does p env s₀ e v (v.gsManagerSetLockActive true)
  | unlock {v : Saver} (off : v.manager.active = false) : Does p env s₀ e v (v.gsManagerSetLockActive false)
  | lockTimer {v : Saver} (id : SourceId) (he : e = .activateLockTimeout id) (first : v = (s₀.tick env).saver)
      (due : id ∈ v.loop.activateLockTimeout.map Timer.id) :
      Does p env s₀ e v (v.activateLockTimeout.modifyLoop fun l =>
        { l with activateLockTimeout := MainLoop.removeTimer id l.activateLockTimeout })
  | lockSettings {v : Saver} (k : KeyChange) (he : e = .keyChanged k) (first : v = (s₀.tick env).saver) :
      Does p env s₀ e v
        ((v.gsManagerSetLockEnabled ((s₀.prefs.keyChanged k).lockEnabled && !(s₀.prefs.keyChanged k).lockDisabled)
          ).gsManagerSetLockTimeout env.toSaverEnv (s₀.prefs.keyChanged k).lockTimeout)
  | throttle {v : Saver} (b : Bool) (first : b = false → v = (s₀.tick env).saver) :
      Does p env s₀ e v (v.gsManagerSetThrottled env.toSaverEnv b)

/- listener_add_ref_entry and the two removals, up to the check that follows. -/
def stored (env : Env) (type : RefType) (entry : RefEntry) (s : Screensaver) : Screensaver :=
  let s := s.modifyListener fun l => l.setTable type ((l.table type).insert entry.cookie entry)
  if type = .inhibit then s.addSessionInhibit env entry else s

def dropped (type : RefType) (cookie : Nat) (entry : RefEntry) (s : Screensaver) : Screensaver :=
  let s := if type = .inhibit then s.removeSessionInhibit entry else s
  s.modifyListener fun l => l.setTable type ((l.table type).erase cookie)

theorem stored_eq (env : Env) (type : RefType) (entry : RefEntry) (s : Screensaver) :
    ∃ inhibitors throttlers sent, s.stored env type entry = { s with
      listener := { s.listener with inhibitors := inhibitors, throttlers := throttlers }
      sent := sent } := by
  cases type with
  | throttle => exact ⟨_, _, _, rfl⟩
  | inhibit =>
    unfold stored addSessionInhibit
    rw [if_pos rfl]
    split
    · exact ⟨_, _, _, rfl⟩
    · exact ⟨_, _, _, rfl⟩

theorem dropped_eq (type : RefType) (cookie : Nat) (entry : RefEntry) (s : Screensaver) :
    s.dropped type cookie entry = { s with
      listener := s.listener.setTable type ((s.listener.table type).erase cookie)
      sent := s.sent ++ if type = .inhibit then farewell entry else [] } := by
  unfold dropped
  split
  · rw [removeSessionInhibit_eq]
    rfl
  · rw [List.append_nil]
    rfl

theorem purged_eq (type : RefType) (name : BusName) (s : Screensaver) :
    (s.listenerRefEntryRemoveForConnection type name).2 = { s with
      listener := s.listener.setTable type ((s.listener.table type).removeIf fun e => e.connection = name)
      sent := s.sent ++ ((s.listener.table type).entries.filter fun e =>
        e.2.connection = name && e.2.entryType = .inhibit).flatMap fun e => farewell e.2 } := by
  unfold listenerRefEntryRemoveForConnection
  dsimp only
  rw [removeSessionInhibits_eq]
  rfl

inductive Part (p : Prop) (env : Env) (s₀ : Screensaver) (e : Event) : Screensaver → Screensaver → Prop
  | saver {s : Screensaver} {v : Saver} (h : Does p env s₀ e s.saver v) : Part p env s₀ e s { s with saver := v }
  | watcher {s : Screensaver} (w : GSWatcher) (enabled : w.enabled = s.watcher.enabled)
      (active : w.active = s.watcher.active) (silent : w.statusMessage = s.watcher.statusMessage ∨ Tells e)
      (notice : w.idleNotice = s.watcher.idleNotice ∨ Watches e) :
      Part p env s₀ e s { s with watcher := w }
  | releaseGrab {s : Screensaver} (id : SourceId) : Part p env s₀ e s { s with releaseGrabId := id }
  | quit {s : Screensaver} : Part p env s₀ e s { s with quit := true }
  | prefs {s : Screensaver} (k : KeyChange) (he : e = .keyChanged k) :
      Part p env s₀ e s { s with prefs := s.prefs.keyChanged k }
  | enable {s : Screensaver} (b : Bool) : Part p env s₀ e s (s.gsListenerSetActivationEnabled b)
  | reply {s : Screensaver} (m : BusMessage) (plain : m.plain = true) : Part p env s₀ e s (s.send m)
  | delayLock {s : Screensaver} (fd : Nat) (heard : s₀.hearsLogind = true)
      (he : ∃ sender b, e = .systemSignal sender (.prepareForSleep b)) :
      Part p env s₀ e s (s.modifyListener fun l => { l with logindInhibitLock := fd })
  | activate {s : Screensaver} (why : s₀.Explicit e ∨ s.listener.Willing) :
      Part p env s₀ e s (s.gsListenerSetActive env true).2
  | deactivate {s : Screensaver} (ends : s₀.Ends e) (first : s = s₀.tick env) :
      Part p env s₀ e s (s.gsListenerSetActive env false).2
  | idle {s : Screensaver} (b : Bool) (off : b = false → s.listener.active = false) :
      Part p env s₀ e s (s.gsListenerSetSessionIdle env b).2
  | stored {s : Screensaver} (type : RefType) (entry : RefEntry) (new : entry.foreignCookie = 0)
      (own : entry.entryType = type) (fresh : (s.listener.table type).lookup entry.cookie = none) :
      Part p env s₀ e s (s.stored env type entry)
  | dropped {s : Screensaver} (type : RefType) (cookie : Nat) (entry : RefEntry)
      (found : (s.listener.table type).lookup cookie = some entry) :
      Part p env s₀ e s (s.dropped type cookie entry)
  | purged {s : Screensaver} (type : RefType) (name : BusName) :
      Part p env s₀ e s (s.listenerRefEntryRemoveForConnection type name).2
  | ckCookie {s : Screensaver} (n : Nat) :
      Part p env s₀ e s (s.modifyListener fun l => { l with ckThrottleCookie := n })
  | throttle {s : Screensaver} (b : Bool) (first : b = false → s.saver = (s₀.tick env).saver) :
      Part p env s₀ e s (s.gsListenerSetThrottle env b)

abbrev Parts (p : Prop) (env : Env) (s₀ : Screensaver) (e : Event) : Screensaver → Screensaver → Prop :=
  Relation.ReflTransGen (Part p env s₀ e)

abbrev AllDone (p : Prop) (env : Env) (s₀ : Screensaver) (e : Event) : Saver → Saver → Prop :=
  Relation.ReflTransGen (Does p env s₀ e)

theorem Parts.refl : Parts p env s₀ e s s := Relation.ReflTransGen.refl

theorem Parts.trans (h : Parts p env s₀ e s t) (h' : Parts p env s₀ e t u) : Parts p env s₀ e s u :=
  Relation.ReflTransGen.trans h h'

theorem Part.parts (h : Part p env s₀ e s t) : Parts p env s₀ e s t := Relation.ReflTransGen.single h

/-! ### What the parts are for the saver -/

theorem setActive_saver (b : Bool) (s : Screensaver) : (s.gsListenerSetActive env b).2.saver =
    if s.listener.active = b then s.saver else (s.saver.gsManagerSetActive env.toSaverEnv b).2 := by
  have hcb : (s.listenerActiveChangedCb env b).2.saver = (s.saver.gsManagerSetActive env.toSaverEnv b).2 := by
    simp only [listenerActiveChangedCb]
    split <;> rfl
  have hinternal : ∀ t : Screensaver, (t.listenerSetActiveInternal env b).saver = t.saver := by
    intro t
    rw [listenerSetActiveInternal_eq]
  simp only [gsListenerSetActive]
  split
  · rfl
  · split
    · split <;> exact hcb
    · split <;> exact (hinternal _).trans hcb

theorem activate_saver (s : Screensaver) :
    AllDone p env s₀ e s.saver (s.gsListenerSetActive env true).2.saver := by
  rw [setActive_saver]
  split
  · exact .refl
  · show AllDone p env s₀ e s.saver (s.saver.gsManagerActivate env.toSaverEnv).2
    cases hon : s.saver.manager.active
    · cases hg : env.grabRoot
      · rw [Saver.gsManagerActivate_refused hon hg]
      · exact .single (.activate hon hg)
    · have hsame : (s.saver.gsManagerActivate env.toSaverEnv).2 = s.saver := by
        simp [Saver.gsManagerActivate, hon]
      rw [hsame]

theorem stored_saver (env : Env) (type : RefType) (entry : RefEntry) (s : Screensaver) :
    (s.stored env type entry).saver = s.saver := by
  obtain ⟨_, _, _, heq⟩ := stored_eq env type entry s
  rw [heq]

theorem dropped_saver (type : RefType) (cookie : Nat) (entry : RefEntry) (s : Screensaver) :
    (s.dropped type cookie entry).saver = s.saver := by
  rw [dropped_eq]

theorem purged_saver (type : RefType) (name : BusName) (s : Screensaver) :
    (s.listenerRefEntryRemoveForConnection type name).2.saver = s.saver := by
  rw [purged_eq]

theorem Part.done (h : Part p env s₀ e s t) : AllDone p env s₀ e s.saver t.saver := by
  cases h with
  | saver h => exact .single h
  | activate why => exact activate_saver s
  | deactivate ends first =>
    rw [setActive_saver]
    split
    · exact .refl
    · show AllDone p env s₀ e s.saver (s.saver.gsManagerDeactivate env.toSaverEnv).2
      cases hon : s.saver.manager.active
      · have hsame : (s.saver.gsManagerDeactivate env.toSaverEnv).2 = s.saver := by
          simp [Saver.gsManagerDeactivate, hon]
        rw [hsame]
      · exact .single (.deactivate ends (congrArg Screensaver.saver first) hon)
  | idle b off =>
    simp only [gsListenerSetSessionIdle]
    split
    · exact .refl
    · split
      · exact .refl
      · let v := s.modifyListener fun l => { l with sessionIdle := b }
        have hcheck : AllDone p env s₀ e s.saver (v.listenerCheckActivation env).2.saver := by
          simp only [listenerCheckActivation]
          split
          · exact .refl
          · split
            · exact .refl
            · split
              · exact .refl
              · exact activate_saver v
        split <;> exact hcheck
  | stored type entry new own fresh => rw [stored_saver]
  | dropped type cookie entry found => rw [dropped_saver]
  | purged type name => rw [purged_saver]
  | throttle b first =>
    simp only [gsListenerSetThrottle]
    split
    · exact .single (.throttle b first)
    · exact .refl
  | watcher | releaseGrab | quit | prefs | enable | reply | delayLock | ckCookie => exact .refl

theorem Parts.done (h : Parts p env s₀ e s t) : AllDone p env s₀ e s.saver t.saver := by
  induction h with
  | refl => exact .refl
  | tail _ h ih => exact ih.trans h.done

end Screensaver
end MateScreensaver
