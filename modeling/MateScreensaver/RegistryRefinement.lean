import MateScreensaver.Events
import MateScreensaver.Registry

/-!
The process moves its registry as the registry moves by itself: first what leaves
it alone, then the functions that change it, then the events.
-/

namespace MateScreensaver
open Runs

namespace Screensaver

def registry (s : Screensaver) : Registry :=
  ⟨s.listener.inhibitors, s.listener.throttlers, s.listener.throttled, s.listener.ckThrottleCookie⟩

variable {s t : Screensaver} {env : Env}

/-! ### What leaves the registry alone -/

section
variable (s : Screensaver) (env : Env)

@[simp] theorem registry_modifySaver (f : Saver → Saver) : (s.modifySaver f).registry = s.registry := rfl
@[simp] theorem registry_send (m : BusMessage) : (s.send m).registry = s.registry := rfl

@[simp] theorem registry_setSessionIdleInternal (b : Bool) :
    (s.listenerSetSessionIdleInternal env b).registry = s.registry := rfl

@[simp] theorem registry_activeChangedCb (b : Bool) :
    (s.listenerActiveChangedCb env b).2.registry = s.registry := by
  simp only [listenerActiveChangedCb]
  split <;> rfl

@[simp] theorem registry_setActiveInternal (b : Bool) :
    (s.listenerSetActiveInternal env b).registry = s.registry := by
  rw [listenerSetActiveInternal_eq]
  rfl

@[simp] theorem registry_setActive (b : Bool) : (s.gsListenerSetActive env b).2.registry = s.registry := by
  have happend : ∀ (t : Screensaver) (l : List GSListener),
      ({ t with activations := l } : Screensaver).registry = t.registry := fun _ _ => rfl
  simp only [gsListenerSetActive]
  split
  · rfl
  · split
    · split
      · rw [registry_setSessionIdleInternal, registry_activeChangedCb]
      · exact registry_activeChangedCb s env b
    · split
      · rw [happend, registry_setActiveInternal, registry_activeChangedCb]
      · rw [registry_setActiveInternal, registry_activeChangedCb]

@[simp] theorem registry_checkActivation : (s.listenerCheckActivation env).2.registry = s.registry := by
  simp only [listenerCheckActivation]
  split
  · rfl
  · split
    · rfl
    · split
      · rfl
      · exact registry_setActive s env true

@[simp] theorem registry_setSessionIdle (b : Bool) :
    (s.gsListenerSetSessionIdle env b).2.registry = s.registry := by
  have hset : ∀ (t : Screensaver) (c : Bool),
      (t.modifyListener fun l => { l with sessionIdle := c }).registry = t.registry := fun _ _ => rfl
  simp only [gsListenerSetSessionIdle]
  split
  · rfl
  · split
    · rfl
    · split
      · rw [registry_setSessionIdleInternal, registry_checkActivation, hset]
      · rw [hset, registry_checkActivation, hset]

/- The watcher's timers and the grab that goes with an idle notice. -/
@[simp] theorem registry_idleNotice (b : Bool) : (s.watcherIdleNoticeCb env b).2.registry = s.registry := by
  simp only [watcherIdleNoticeCb]
  split
  · split <;> rfl
  · split
    · split <;> rfl
    · rfl

@[simp] theorem registry_sessionIdleNotice (b : Bool) :
    (gsWatcherSetSessionIdleNotice (watcherHost env) b s).2.registry = s.registry := by
  simp only [gsWatcherSetSessionIdleNotice]
  split
  · split <;> exact registry_idleNotice s env b
  · rfl

@[simp] theorem registry_sessionIdle (b : Bool) :
    (gsWatcherSetSessionIdle (watcherHost env) b s).2.registry = s.registry := by
  simp only [gsWatcherSetSessionIdle]
  split
  · split <;> exact registry_setSessionIdle s env b
  · rfl

@[simp] theorem registry_removeIdleTimeout : (removeIdleTimeout (watcherHost env) s).registry = s.registry := by
  simp only [removeIdleTimeout]
  split <;> rfl

@[simp] theorem registry_cancelIdleTimeout : (cancelIdleTimeout (watcherHost env) s).registry = s.registry := by
  simp only [cancelIdleTimeout]
  split <;> rfl

@[simp] theorem registry_timeoutAdd (n : Nat) :
    ((watcherHost env).timeoutAdd n s).2.registry = s.registry := rfl

@[simp] theorem registry_setWatcher (w : GSWatcher) :
    ((watcherHost env).setWatcher w s).registry = s.registry := rfl

@[simp] theorem registry_setStatus (status : Nat) :
    (setStatus (watcherHost env) status s).registry = s.registry := by
  simp only [setStatus]
  split
  · rfl
  · split
    · rfl
    · split
      · rw [registry_setWatcher, registry_timeoutAdd, registry_removeIdleTimeout, registry_sessionIdleNotice]
      · rw [registry_sessionIdleNotice, registry_sessionIdle, registry_cancelIdleTimeout]

@[simp] theorem registry_idleTimeout (id : SourceId) : (s.idleTimeout env id).registry = s.registry := by
  simp only [idleTimeout, onIdleTimeout, registry_modifySaver]
  split
  · rw [registry_setWatcher, registry_sessionIdleNotice, registry_sessionIdle]
  · rw [registry_sessionIdleNotice, registry_sessionIdle]

@[simp] theorem registry_lockCb : (s.listenerLockCb env).registry = s.registry := by
  simp only [listenerLockCb, gsMonitorLockScreen]
  split
  · split
    · split
      · rw [registry_modifySaver, registry_setActive, registry_modifySaver]
      · rw [registry_setActive, registry_modifySaver]
    · rfl
  · rfl

@[simp] theorem registry_releaseGrabTimeout : s.releaseGrabTimeout.registry = s.registry := by
  simp only [releaseGrabTimeout]
  split <;> rfl

@[simp] theorem registry_updateFromPrefs : (s.updateFromPrefs env).registry = s.registry := by
  simp only [updateFromPrefs]
  split <;> split <;> rfl

end

theorem registry_showMessageCb (h : s.listenerShowMessageCb env = some t) : t.registry = s.registry := by
  obtain ⟨v, -, rfl⟩ := Option.map_eq_some_iff.1 h
  rfl

theorem registry_prepareForSleep {b : Bool} (h : s.prepareForSleep env b = some t) :
    t.registry = s.registry := by
  have hcb : ∀ {u v : Screensaver}, u.listenerPrepareForSleepCb env = some v → v.registry = u.registry := by
    intro u v hv
    simp only [listenerPrepareForSleepCb] at hv
    split at hv
    · exact registry_showMessageCb hv
    · cases hv
      rfl
  simp only [prepareForSleep] at h
  split at h
  · obtain ⟨u, hu, rfl⟩ := Option.map_eq_some_iff.1 h
    have hreg : u.registry = s.registry := hcb hu
    exact hreg
  · have hreg := hcb h
    exact hreg

/-! ### What moves it -/

theorem registry_checkThrottle (env : Env) (s : Screensaver) : (s.listenerCheckThrottle env).registry =
    { s.registry with throttled := !s.registry.throttlers.isEmpty } := by
  have hset : ∀ b : Bool, (s.gsListenerSetThrottle env b).registry = { s.registry with throttled := b } := by
    intro b
    simp only [gsListenerSetThrottle]
    split
    · rfl
    · next h =>
      have hb : s.listener.throttled = b := not_not.1 h
      rw [← hb]
      rfl
  simp only [listenerCheckThrottle]
  split
  · exact hset _
  · next h =>
    have hb : listenerRefEntryIsPresent s.listener .throttle = s.listener.throttled := not_not.1 h
    have hb' : (!s.registry.throttlers.isEmpty) = s.registry.throttled := hb
    rw [hb']

theorem registry_refEntryCheck (env : Env) (type : RefType) (s : Screensaver) :
    (s.listenerRefEntryCheck env type).registry = s.registry.change type (s.registry.table type) := by
  cases type
  · exact registry_checkActivation s env
  · exact registry_checkThrottle env s

theorem registry_setTable (type : RefType) (tbl : Table Nat RefEntry) (s : Screensaver) :
    (s.modifyListener fun l => l.setTable type tbl).registry.change type
      ((s.modifyListener fun l => l.setTable type tbl).registry.table type) = s.registry.change type tbl := by
  cases type <;> rfl

theorem registry_table (type : RefType) (s : Screensaver) : s.registry.table type = s.listener.table type := by
  cases type <;> rfl

theorem registry_add (env : Env) (type : RefType) (entry : RefEntry) (s : Screensaver) :
    (s.listenerAddRefEntry env type entry).registry = s.registry.add env type entry := by
  simp only [listenerAddRefEntry]
  rw [registry_refEntryCheck]
  cases type
  · simp only [if_true, addSessionInhibit]
    cases h : env.sessionInhibit
    · simp [Registry.add, Registry.proxied, Registry.change, Registry.table, registry, modifyListener,
        GSListener.setTable, GSListener.table, send, h]
    · simp [Registry.add, Registry.proxied, Registry.change, Registry.table, registry, modifyListener,
        GSListener.setTable, GSListener.table, send, h, AList.insert_insert]
  · rw [if_neg (by decide)]
    exact registry_setTable .throttle _ s

/- Changing a table of a state whose listener is the same. -/
theorem registry_change {u : Screensaver} (hu : u.listener = s.listener) (env : Env) (type : RefType)
    (f : GSListener → Table Nat RefEntry) :
    ((u.modifyListener fun l => l.setTable type (f l)).listenerRefEntryCheck env type).registry
      = s.registry.change type (f s.listener) := by
  have hreg : u.registry = s.registry := by
    simp only [registry, hu]
  have hset : (u.modifyListener fun l => l.setTable type (f l))
      = u.modifyListener fun l => l.setTable type (f s.listener) := by
    simp only [modifyListener, hu]
  rw [registry_refEntryCheck, hset, registry_setTable, hreg]

theorem registry_remove (env : Env) (type : RefType) (cookie : Nat) (s : Screensaver) :
    (s.listenerRemoveRefEntry env type cookie).2.registry = s.registry.remove type cookie := by
  simp only [listenerRemoveRefEntry, Registry.remove, registry_table]
  cases (s.listener.table type).lookup cookie with
  | none => rfl
  | some entry =>
    refine registry_change ?_ env type fun l => (l.table type).erase cookie
    split
    · rw [removeSessionInhibit_eq]
    · rfl

theorem registry_removeForConnection (env : Env) (type : RefType) (name : BusName) (s : Screensaver) :
    (if (s.listenerRefEntryRemoveForConnection type name).1 then
        (s.listenerRefEntryRemoveForConnection type name).2.listenerRefEntryCheck env type
      else (s.listenerRefEntryRemoveForConnection type name).2).registry = s.registry.removeFor type name := by
  have hfold : ∀ (l : List (Sigma fun _ : Nat => RefEntry)) (u : Screensaver),
      (l.foldl (fun s e => s.removeSessionInhibit e.2) u).listener = u.listener := by
    intro l u
    rw [removeSessionInhibits_eq]
  have hany : (s.listenerRefEntryRemoveForConnection type name).1
      = (s.registry.table type).any fun e => e.connection = name := by
    rw [registry_table]
    rfl
  by_cases h : (s.listenerRefEntryRemoveForConnection type name).1 = true
  · rw [if_pos h, Registry.removeFor, if_pos (hany ▸ h), registry_table]
    exact registry_change (hfold _ s) env type fun _ =>
      (s.listener.table type).removeIf fun e => e.connection = name
  · -- without a match the table is stored back as it was
    have hnone : ((s.listener.table type).any fun e => e.connection = name) = false := by
      rw [← registry_table, ← hany]
      simpa using h
    have hsame : ∀ u : Screensaver, u.listener = s.listener →
        (u.modifyListener fun l => l.setTable type (s.listener.table type)).registry = s.registry := by
      intro u hu
      cases type <;> simp [registry, modifyListener, GSListener.setTable, GSListener.table, hu]
    rw [if_neg h, Registry.removeFor, if_neg (hany ▸ h)]
    simp only [listenerRefEntryRemoveForConnection]
    rw [Table.removeIf_eq_self hnone]
    exact hsame _ (hfold _ s)

theorem registry_serviceDeleted (env : Env) (name : BusName) (s : Screensaver) :
    (s.listenerServiceDeleted env name).registry = s.registry.serviceDeleted name := by
  have hfirst := registry_removeForConnection env .throttle name s
  simp only [listenerServiceDeleted, Registry.serviceDeleted]
  rw [registry_removeForConnection env .inhibit name, hfirst]

theorem registry_removeCk (env : Env) (s : Screensaver) :
    (s.listenerRemoveCkRefEntry env).registry = s.registry.removeCk := by
  have hcookie : ∀ u : Screensaver, (u.modifyListener fun l => { l with ckThrottleCookie := 0 }).registry
      = { u.registry with ckThrottleCookie := 0 } := fun _ => rfl
  simp only [listenerRemoveCkRefEntry, Registry.removeCk]
  split
  · next h =>
    have h' : s.registry.ckThrottleCookie ≠ 0 := h
    rw [if_pos h', hcookie, registry_remove]
    rfl
  · next h =>
    have h' : ¬ s.registry.ckThrottleCookie ≠ 0 := h
    rw [if_neg h']

/-! ### The events -/

/- The signal of ConsoleKit is heard and is about our session. -/
def hearsSession (s : Screensaver) (path : String) : Bool :=
  s.hearsConsoleKit && s.messagePathIsOurSession path

def record (s : Screensaver) (label : Env × Event) : List RegistryAction :=
  s.registry.record s.hearsSession label.1 label.2

def Moves (s : Screensaver) (env : Env) (e : Event) (log : List RegistryAction) (r : Registry) : Prop :=
  s.registry.Moves s.hearsSession env e log r

theorem registry_draw (env : Env) (type : RefType) (s : Screensaver) :
    listenerGenerateUniqueKey env s.listener type = s.registry.draw env type := by
  cases type <;> rfl

theorem moves_request (type : RefType) {sender : BusName} {application reason : String}
    (h : s.listenerDbusAddRefEntry env type sender (some (application, reason)) = some t) :
    s.Moves env (.sessionCall sender (.request type application reason))
      (s.registry.acceptance env type sender application reason) t.registry := by
  obtain ⟨cookie, hfresh, rfl⟩ := Option.map_eq_some_iff.1 h
  rw [registry_draw] at hfresh
  have hreg := registry_add env type (Registry.entryFor env type sender application reason cookie) s
  have hlog : s.registry.acceptance env type sender application reason = [.accepted type
      (Registry.proxied env type (Registry.entryFor env type sender application reason cookie))] := by
    simp only [Registry.acceptance, hfresh]
  have hmove : s.Moves env (.sessionCall sender (.request type application reason)) _ _ := .accepted hfresh
  rw [← hreg] at hmove
  rw [hlog]
  exact hmove

theorem moves_cancel (env : Env) (type : RefType) (sender : BusName) (cookie : Nat) (s : Screensaver) :
    s.Moves env (.sessionCall sender (.cancel type cookie)) [.cancelled type cookie sender]
      (s.listenerDbusRemoveRefEntry env type (some cookie)).registry := by
  simp only [listenerDbusRemoveRefEntry, registry_send, registry_remove]
  exact .cancelled type sender cookie

/- An event that moves nothing, by what its handler does. -/
theorem moves_nothing {e : Event} (h : Registry.concerns s.hearsSession e = false) (ht : t.registry = s.registry) :
    s.Moves env e [] t.registry :=
  ht ▸ .nothing h

theorem moves_sessionCall {sender : BusName} {call : SessionCall}
    (h : (s.listenerDbusHandleSessionMessage env sender call).map Prod.snd = some t) :
    s.Moves env (.sessionCall sender call) (s.record (env, .sessionCall sender call)) t.registry := by
  cases call with
  | lock => cases h; exact moves_nothing rfl (registry_lockCb s env)
  | unlock => cases h; exact moves_nothing rfl (registry_setActive s env false)
  | quit => cases h; exact moves_nothing rfl (registry_setActive s env false)
  | cycle => cases h; exact moves_nothing rfl rfl
  | inhibit args =>
    cases args with
    | none => cases h; exact moves_nothing rfl rfl
    | some args => exact moves_request .inhibit (eq_of_handled h)
  | unInhibit cookie =>
    cases h
    cases cookie with
    | none => exact moves_nothing rfl rfl
    | some cookie => exact moves_cancel env .inhibit sender cookie s
  | getInhibitors => cases h; exact moves_nothing rfl rfl
  | throttle args =>
    cases args with
    | none => cases h; exact moves_nothing rfl rfl
    | some args => exact moves_request .throttle (eq_of_handled h)
  | unThrottle cookie =>
    cases h
    cases cookie with
    | none => exact moves_nothing rfl rfl
    | some cookie => exact moves_cancel env .throttle sender cookie s
  | setActive path value =>
    cases h
    cases value with
    | none => exact moves_nothing rfl rfl
    | some b => exact moves_nothing rfl (registry_setActive s env b)
  | getActive => cases h; exact moves_nothing rfl rfl
  | getActiveTime => cases h; exact moves_nothing rfl rfl
  | showMessage args =>
    refine moves_nothing rfl ?_
    have h' := eq_of_handled h
    simp only [listenerShowMessage] at h'
    split at h'
    · split at h'
      · cases h'
        rfl
      · obtain ⟨u, hu, rfl⟩ := Option.map_eq_some_iff.1 h'
        have hreg : u.registry = s.registry := registry_showMessageCb hu
        exact hreg
    · cases h'
      rfl
  | simulateUserActivity => cases h; exact moves_nothing rfl rfl
  | introspect => cases h; exact moves_nothing rfl rfl
  | addMatch => cases h; exact moves_nothing rfl rfl
  | unknown => cases h; exact moves_nothing rfl rfl

theorem moves_sessionChange {sender : BusName} {path : String} {b : Bool}
    (ours : s.hearsSession path = true) (h : s.ckActiveChanged env sender b = some t) :
    s.Moves env (.systemSignal sender (.ckActiveChanged path (some b))) (s.registry.sessionChange env sender b)
      t.registry := by
  simp only [ckActiveChanged] at h
  cases b
  · rw [if_neg Bool.false_ne_true] at h
    obtain ⟨cookie, hfresh, rfl⟩ := Option.map_eq_some_iff.1 h
    rw [registry_draw, registry_removeCk] at hfresh
    have hlog : s.registry.sessionChange env sender false =
        [.sessionChanged s.registry.ckThrottleCookie (some (Registry.entryForCk env sender cookie))] := by
      simp only [Registry.sessionChange, Bool.false_eq_true, if_false, hfresh]
    have hreg : ((s.listenerRemoveCkRefEntry env).listenerAddRefEntry env .throttle
        (Registry.entryForCk env sender cookie)).registry
          = s.registry.removeCk.add env .throttle (Registry.entryForCk env sender cookie) := by
      rw [registry_add, registry_removeCk]
    rw [hlog]
    have hmove : s.Moves env (.systemSignal sender (.ckActiveChanged path (some false))) _ _ :=
      .sessionInactive ours hfresh
    rw [Registry.addCk, ← hreg] at hmove
    exact hmove
  · rw [if_pos rfl] at h
    cases h
    have hmove : s.Moves env (.systemSignal sender (.ckActiveChanged path (some true))) _ _ :=
      .sessionActive ours
    rw [← registry_removeCk env] at hmove
    exact hmove

/- ConsoleKit about another session, or not heard at all. -/
theorem moves_unheard {sender : BusName} {path : String} {b : Option Bool}
    (h : s.hearsSession path = false) :
    s.Moves env (.systemSignal sender (.ckActiveChanged path b))
      (s.record (env, .systemSignal sender (.ckActiveChanged path b))) s.registry := by
  cases b with
  | none => exact .nothing rfl
  | some b =>
    have hrec : s.record (env, .systemSignal sender (.ckActiveChanged path (some b))) = [] := by
      simp only [record, Registry.record, h, Bool.false_eq_true, if_false]
    rw [hrec]
    exact .nothing h

theorem moves_logindSignal {sender : BusName} {signal : SystemSignal} (hh : s.hearsLogind = true)
    (h : s.handleLogindSignal env signal = some t) :
    s.Moves env (.systemSignal sender signal) (s.record (env, .systemSignal sender signal)) t.registry := by
  cases signal with
  | logindUnlock path =>
    cases h
    refine moves_nothing rfl ?_
    split
    · exact registry_setActive s env false
    · rfl
  | logindLock path =>
    cases h
    refine moves_nothing rfl ?_
    split
    · exact registry_lockCb s env
    · rfl
  | prepareForSleep b => exact moves_nothing rfl (registry_prepareForSleep h)
  | propertiesChanged path properties =>
    cases h
    refine moves_nothing rfl ?_
    split <;> rfl
  | ckUnlock path => cases h; exact moves_nothing rfl rfl
  | ckLock path => cases h; exact moves_nothing rfl rfl
  | ckActiveChanged path b =>
    cases h
    exact moves_unheard (by simp [hearsSession, hearsConsoleKit, hh])
  | unknown => cases h; exact moves_nothing rfl rfl

theorem moves_ckSignal {sender : BusName} {signal : SystemSignal} (hh : s.hearsConsoleKit = true)
    (h : s.handleCkSignal env sender signal = some t) :
    s.Moves env (.systemSignal sender signal) (s.record (env, .systemSignal sender signal)) t.registry := by
  cases signal with
  | ckUnlock path =>
    cases h
    refine moves_nothing rfl ?_
    split
    · exact registry_setActive s env false
    · rfl
  | ckLock path =>
    cases h
    refine moves_nothing rfl ?_
    split
    · exact registry_lockCb s env
    · rfl
  | ckActiveChanged path b =>
    cases b with
    | none => cases h; exact moves_nothing rfl rfl
    | some b =>
      simp only [handleCkSignal] at h
      split at h
      · next hp =>
        have ours : s.hearsSession path = true := by simp [hearsSession, hh, hp]
        have hrec : s.record (env, .systemSignal sender (.ckActiveChanged path (some b)))
            = s.registry.sessionChange env sender b := by
          simp only [record, Registry.record, ours, if_true]
        rw [hrec]
        exact moves_sessionChange ours h
      · next hp =>
        cases h
        exact moves_unheard (by simp [hearsSession, hp])
  | logindUnlock path => cases h; exact moves_nothing rfl rfl
  | logindLock path => cases h; exact moves_nothing rfl rfl
  | prepareForSleep b => cases h; exact moves_nothing rfl rfl
  | propertiesChanged path properties => cases h; exact moves_nothing rfl rfl
  | unknown => cases h; exact moves_nothing rfl rfl

theorem moves_systemSignal {sender : BusName} {signal : SystemSignal}
    (h : s.listenerDbusHandleSystemMessage env sender signal = some t) :
    s.Moves env (.systemSignal sender signal) (s.record (env, .systemSignal sender signal)) t.registry := by
  simp only [listenerDbusHandleSystemMessage] at h
  split at h
  · next hl => exact moves_logindSignal hl h
  · next hl =>
    have hno : s.hearsLogind = false := by simpa [hearsLogind] using hl
    split at h
    · next hc => exact moves_ckSignal (by simp [hearsConsoleKit, hno, hc]) h
    · next hc =>
      cases h
      cases signal with
      | ckActiveChanged path b => exact moves_unheard (by simp [hearsSession, hearsConsoleKit, hc])
      | _ => exact .nothing rfl

theorem moves_dispatch {e : Event} (h : s.dispatch env e = some t) :
    s.Moves env e (s.record (env, e)) t.registry := by
  cases e with
  | presenceStatus status => cases h; exact moves_nothing rfl (registry_setStatus s env status)
  | presenceStatusText text => cases h; exact moves_nothing rfl rfl
  | keyChanged k =>
    cases h
    exact moves_nothing rfl (registry_updateFromPrefs { s with prefs := s.prefs.keyChanged k } env)
  | sessionCall sender call => exact moves_sessionCall h
  | nameOwnerChanged name oldOwner newOwner =>
    cases h
    rw [registry_serviceDeleted]
    exact .ownerChanged name oldOwner newOwner
  | systemSignal sender signal => exact moves_systemSignal h
  | monitorAdded m =>
    simp only [dispatch] at h
    split at h
    · cases h
    · cases h
      exact moves_nothing rfl rfl
  | lockCommandWatch id input =>
    simp only [dispatch] at h
    split at h
    · cases h
    · obtain ⟨_, -, rfl⟩ := Option.map_eq_some_iff.1 h
      exact moves_nothing rfl rfl
  | shakeEnd =>
    simp only [dispatch] at h
    split at h
    · cases h
    · cases h
      exact moves_nothing rfl rfl
  | onIdleTimeout id =>
    obtain ⟨_, -, rfl⟩ := Option.map_eq_some_iff.1 h
    exact moves_nothing rfl (registry_idleTimeout s env id)
  | releaseGrabTimeout id =>
    obtain ⟨_, -, rfl⟩ := Option.map_eq_some_iff.1 h
    exact moves_nothing rfl (registry_releaseGrabTimeout s)
  | windowDeactivatedIdle id =>
    obtain ⟨_, -, rfl⟩ := Option.map_eq_some_iff.1 h
    exact moves_nothing rfl (registry_setActive s env false)
  | activateLockTimeout id | cycleTimeout id | infoBarTimeout id | emitDeactivatedIdle id
    | popupDialogIdle id | keyboardCommandWatch id input =>
    obtain ⟨_, -, rfl⟩ := Option.map_eq_some_iff.1 h
    exact moves_nothing rfl rfl
  | monitorRemoved | activity | mapEvent | visibilityNotify | lockPlugRemoved | jobDied =>
    simp only [dispatch] at h
    split at h
    · cases h
      exact moves_nothing rfl rfl
    · cases h
  | grabBroken w otherGrabbed =>
    simp only [dispatch] at h
    split at h
    · cases h
      refine moves_nothing rfl ?_
      split <;> rfl
    · cases h

/-- The registry of the process refines the registry by itself. -/
theorem moves_step {e : Event} (h : s.step (env, e) = some t) :
    s.Moves env e (s.record (env, e)) t.registry := by
  have hmove : (s.tick env).Moves env e ((s.tick env).record (env, e)) t.registry := moves_dispatch (step_dispatch h)
  exact hmove

/-! ### Every run -/

theorem registry_start (b : Boot) (env : Env) : (b.start env).registry = ⟨∅, ∅, false, 0⟩ := by
  rw [Boot.start, registry_updateFromPrefs]
  rfl

theorem empty_entry (type : RefType) (cookie : Nat) :
    (⟨∅, ∅, false, 0⟩ : Registry).entry type cookie = none := by
  cases type <;> rfl

theorem flagged_invariant : screensaver.Invariant fun s => s.registry.Flagged where
  start s hs := by
    obtain ⟨b, env, rfl⟩ := hs
    rw [registry_start]
    rfl
  step s label t hs h := hs.moves (moves_step h)

theorem numbered_start (b : Boot) (env : Env) : (b.start env).registry.Numbered := by
  rw [registry_start]
  refine ⟨fun type cookie x hx => ?_, fun type cookie x hx => ?_⟩ <;>
    · rw [empty_entry] at hx
      cases hx

/- The state and the record that a run ends in. -/
theorem recorded_reachable (b : Boot) (env : Env) (es : List (Env × Event))
    {x : Screensaver × List RegistryAction}
    (h : (screensaver.recorded record).run (b.start env, []) es = some x) :
    (screensaver.recorded record).Reachable x :=
  System.reachable_run (.start ⟨⟨b, env, rfl⟩, rfl⟩) h

end Screensaver
end MateScreensaver
