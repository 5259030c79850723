import MateScreensaver.Events

/-!
Agreement of the four state machines, and what it takes for a locked screen to
stay locked: a deactivation travels through two idles that nobody cancels, and
the lock can come in between.
-/

namespace MateScreensaver
open Runs System

namespace Screensaver
open LockScreen

variable {s t : Screensaver} {env : Env} {e : Event}

/-- The listener, the watcher, the manager and its windows tell the same story,
and so does what was sent on the session bus. -/
structure InStep (s : Screensaver) : Prop where
  listener : s.listener.active = s.saver.manager.active
  watcher : s.watcher.active = !s.saver.manager.active
  enabled : s.watcher.enabled = true
  lock : s.saver.manager.lockActive = true → s.saver.manager.active = true
  windows : ∀ w ∈ s.saver.manager.windows, ∃ win, s.saver.windows w = some win ∧
    win.lockEnabled = s.saver.manager.lockActive
  changes : Alternating s.activeChanges
  last : s.activeChanges.getLast?.getD false = s.listener.active

theorem Agreed.windows (hs : s.Agreed) : ∀ w ∈ s.saver.manager.windows,
    ∃ win, s.saver.windows w = some win ∧ win.lockEnabled = s.saver.manager.lockActive := by
  intro w hw
  have hlive := hs.listed w hw
  cases hwin : s.saver.windows w with
  | none =>
    rw [Saver.view_window_none hwin] at hlive
    cases hlive
  | some win =>
    have hview : s.saver.view.window w = some win.view := by simp [Saver.view, hwin]
    exact ⟨win, rfl, hs.sound.lock w win.view hview⟩

theorem reachable_inStep (hr : screensaver.Reachable s) : s.InStep := by
  have hs := agreed_invariant.reachable hr
  exact ⟨hs.listener, hs.watcher, hs.enabled, hs.lock, hs.windows, hs.changes, hs.last⟩

/- One monitor, and an environment that grants everything but perhaps the dialog. -/
def desk : Boot where
  config := ⟨true, false⟩
  settings := {}
  monitors := [0]
  nodup := List.nodup_singleton 0
  haveSystemd := true
  sessionId := some "/session"
  statusMessage := none
  logindInhibitLock := 1
  now := 0

def willing (spawnDialog : SpawnResult) : Env where
  time := 1
  time_pos := Nat.one_pos
  elapsed := 0
  grabRoot := true
  grabOffscreen := true
  monitorAtPointer := 0
  spawnDialog := spawnDialog
  spawnKeyboard := .spawnError
  spawnJob := fun _ => .spawnError
  themeExec := fun _ => none
  randomInt := 0
  draws := [⟨1, by decide⟩]
  sessionInhibit := none
  sessionUninhibit := true
  logindInhibit := 1
  sdSessionIsActive := true

def granted : Env := willing (.spawned 100 (by decide))

def turnOn : Env × Event := (granted, .sessionCall ":1.1" (.setActive "/" (some true)))
def lockNow : Env × Event := (granted, .sessionCall ":1.1" .lock)

/- The state a run of the desk's screensaver ends in. -/
theorem desk_reachable (es : List (Env × Event)) (h : screensaver.run (desk.start granted) es = some s) :
    screensaver.Reachable s :=
  reachable_run (.start ⟨desk, granted, rfl⟩) h

theorem inStep_locked : ∃ s, screensaver.run (desk.start granted) [turnOn, lockNow] = some s ∧
    s.saver.manager.lockActive = true ∧ s.InStep := by
  refine ⟨(screensaver.run (desk.start granted) [turnOn, lockNow]).get (by decide), ?_, by decide, ?_⟩
  · simp
  · exact reachable_inStep (desk_reachable [turnOn, lockNow] (by simp))

/-! ### Locked means locked -/

/-- What a step may do to a locked screen: nothing, or end it, when that was
asked for or when an OK answer of this activation had queued it. -/
def LockHolds (s : Screensaver) (label : Env × Event) (t : Screensaver) : Prop :=
  s.Locked → t.Locked ∨ t.saver.manager.active = false ∧
    (s.unlockRequest label.2 = true ∨
      ∃ x ∈ s.saver.loop.windowDeactivatedIdle, label.2 = .windowDeactivatedIdle x.id ∧
        x.cause = .response (some s.saver.activation))

/- The locking of an unlocked screen overtakes no queued deactivation. -/
def LocksQuietly (s : Screensaver) (label : Env × Event) : Prop := Locks label.1 s label.2 → s.Quiet

theorem setActive_false_inactive (hs : s.Agreed) :
    (s.gsListenerSetActive env false).2.saver.manager.active = false := by
  have h := gsListenerSetActive_spec env hs.toCoupled false
  generalize s.gsListenerSetActive env false = x at h ⊢
  cases h with
  | same h => exact hs.listener.symm.trans h
  | stopped saver on view => exact congrArg LockScreen.active view

theorem unlockRequest_ends (hs : s.Agreed) (hu : s.unlockRequest e = true)
    (h : s.dispatch env e = some t) : t.saver.manager.active = false := by
  cases e with
  | sessionCall sender call =>
    cases call with
    | unlock => cases h; exact setActive_false_inactive hs
    | quit => cases h; exact setActive_false_inactive hs
    | setActive path value =>
      cases h
      cases value with
      | none => cases hu
      | some b =>
        cases b
        · exact setActive_false_inactive hs
        · cases hu
    | _ => cases hu
  | systemSignal sender signal =>
    cases signal with
    | logindUnlock path =>
      obtain ⟨hh, hp⟩ := Bool.and_eq_true_iff.1 hu
      have hh' : (s.config.withSystemd && s.listener.haveSystemd) = true := hh
      simp only [dispatch, listenerDbusHandleSystemMessage, hh', handleLogindSignal, hp, if_true] at h
      cases h
      exact setActive_false_inactive hs
    | ckUnlock path =>
      obtain ⟨hh, hp⟩ := Bool.and_eq_true_iff.1 hu
      obtain ⟨hno, hck⟩ := Bool.and_eq_true_iff.1 hh
      have hno' : (s.config.withSystemd && s.listener.haveSystemd) = false := Bool.not_eq_true' _ ▸ hno
      simp only [dispatch, listenerDbusHandleSystemMessage, hno', hck, handleCkSignal, hp, if_true,
        Bool.false_eq_true, if_false] at h
      cases h
      exact setActive_false_inactive hs
    | _ => cases hu
  | _ => cases hu

/- The guard of a locked screen is what a step needs to be safe, and what a quiet
step keeps. -/
theorem lockHolds_step (hs : s.Agreed ∧ s.Guarded) (h : s.step (env, e) = some t)
    (hq : LocksQuietly s (env, e)) : LockHolds s (env, e) t ∧ t.Agreed ∧ t.Guarded := by
  have hp := preserves_step h hs.1
  refine ⟨fun hl => ?_, hp.agreed, hp.guarded hq hs.2⟩
  have htick := tick_agreed hs.1 env
  have hdispatch := step_dispatch h
  by_cases hu : s.unlockRequest e = true
  · exact .inr ⟨unlockRequest_ends htick hu hdispatch, .inl hu⟩
  · by_cases hd : ∃ id, e = .windowDeactivatedIdle id
    · obtain ⟨id, rfl⟩ := hd
      obtain ⟨x, hfind, rfl⟩ := Option.map_eq_some_iff.1 hdispatch
      have hx : x ∈ s.saver.loop.windowDeactivatedIdle := List.mem_of_find?_eq_some hfind
      have hid : x.id = id := by simpa using List.find?_some hfind
      refine .inr ⟨setActive_false_inactive htick, .inr ⟨x, hx, hid ▸ rfl, ?_⟩⟩
      exact (hs.2 hl.1 hl.2).2 x hx
    · exact .inl (hp.stays (fun he => he.elim hu hd) hl)

/- In a run in which the screen is only ever locked while no deactivation is under
way, a locked screen stays locked until it is unlocked. -/
theorem lock_holds (b : Boot) (env : Env) {es : List (Env × Event)}
    (hq : screensaver.Meets LocksQuietly (b.start env) es) :
    screensaver.Each LockHolds (b.start env) es := by
  obtain ⟨hs, -, hoff⟩ := start_agreed b env
  have hguarded : (b.start env).Guarded := by
    intro ha
    have ha' : (b.start env).saver.manager.active = true := ha
    rw [hoff] at ha'
    cases ha'
  exact each_of_meets (I := fun s => s.Agreed ∧ s.Guarded) (C := LocksQuietly)
    (fun s l t hs h hq => lockHolds_step hs h hq) ⟨hs, hguarded⟩ hq

/- The screen is locked at once, the user comes back, the dialog's answer is OK, and its two idles run. -/
def answered : List (Env × Event) :=
  [lockNow, (granted, .activity 0), (granted, .popupDialogIdle 3),
    (granted, .lockCommandWatch 4 ⟨true, false, .normal "RESPONSE=OK".toList⟩), (granted, .emitDeactivatedIdle 5),
    (granted, .windowDeactivatedIdle 6)]

theorem lock_holds_at_once : screensaver.Each LockHolds (desk.start granted) answered ∧
    ((screensaver.run (desk.start granted) (answered.take 5)).map fun s => s.saver.manager.lockActive) = some true ∧
    ((screensaver.run (desk.start granted) answered).map fun s => s.saver.manager.active) = some false := by
  refine ⟨lock_holds desk granted fun _ _ => ⟨fun _ => ⟨fun x hx => ?_, by decide⟩, ?_⟩, by decide, by decide⟩
  · have hnil : (desk.start granted).saver.view.emit = [] := by decide
    rw [hnil] at hx
    cases hx
  · -- none of the other events asks for a lock
    exact fun _ _ => ⟨fun h => (nomatch h.1), fun _ _ => ⟨fun h => (nomatch h.1), fun _ _ => ⟨fun h => (nomatch h.1),
      fun _ _ => ⟨fun h => (nomatch h.1), fun _ _ => ⟨fun h => (nomatch h.1), trivial⟩⟩⟩⟩⟩

/- Activity on the unlocked window queues a deactivation; the lock comes before
its two idles have run. -/
def overtaken : List (Env × Event) :=
  [turnOn, (granted, .activity 0), lockNow, (granted, .emitDeactivatedIdle 3)]

theorem lock_overtaken : ¬ ∀ s label t, screensaver.Reachable s → screensaver.next s label = some t →
    LockHolds s label t := by
  intro h
  let s := (screensaver.run (desk.start granted) overtaken).get (by decide)
  let t := (screensaver.next s (granted, .windowDeactivatedIdle 4)).get (by decide)
  have hs : screensaver.Reachable s := desk_reachable overtaken (by simp [s])
  have hqueue : s.saver.loop.windowDeactivatedIdle = [⟨4, .notLocked⟩] := by decide
  rcases h s (granted, .windowDeactivatedIdle 4) t hs (by simp [t]) ⟨by decide, by decide⟩ with hl | ⟨-, hu | hx⟩
  · exact absurd hl.1 (by decide)
  · cases hu
  · obtain ⟨x, hx, -, hcause⟩ := hx
    rw [hqueue] at hx
    obtain rfl := List.mem_singleton.1 hx
    cases hcause

end Screensaver
end MateScreensaver
