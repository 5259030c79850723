import MateScreensaver.Apart
import MateScreensaver.Lock

/-!
The delayed release of the grab: the timer a cancelled idle notice leaves behind, and
the notices that are accepted while it runs.
-/

namespace MateScreensaver
open Runs System

namespace Saver

variable {p : Prop} {env : SaverEnv} {s t : Saver}

/-! ### The timer is the monitor's -/

theorem Calm.releaseTimers (h : Calm p env s t) : t.loop.releaseGrabTimeout = s.loop.releaseGrabTimeout := by
  cases h with
  | still h => exact h.releaseTimers
  | raise w on down off live => rw [(raised_windowSetDialogUp env off live).loop]
  | lower w up => rw [(lowered_windowSetDialogUp env up).loop]
  | jobs f hf => rfl
  | obscure w b live => rw [(records_modifyWindow s w _).loop]
  | appear w on live hidden => exact (appeared_gtkWidgetShow env live hidden).releaseTimers

theorem Act.releaseTimers (h : Act p env s t) : t.loop.releaseGrabTimeout = s.loop.releaseGrabTimeout := by
  cases h with
  | calm h => exact h.releaseTimers
  | _ => rfl

theorem Acts.releaseTimers (h : Acts p env s t) : t.loop.releaseGrabTimeout = s.loop.releaseGrabTimeout := by
  induction h with
  | refl => rfl
  | tail _ h ih => exact h.releaseTimers.trans ih

end Saver

namespace Screensaver

variable {p : Prop} {s₀ s t : Screensaver} {env : Env} {e : Event} {v u : Saver}

/- Only the watcher makes the monitor arm it. -/
theorem Does.releaseTimers (hd : Does p env s₀ e v u) (hs : s₀.saver.view.Sound) (hh : v.Housed)
    (hq : ¬ Watches e) : ∀ x ∈ u.loop.releaseGrabTimeout, x ∈ v.loop.releaseGrabTimeout := by
  have hsame : u.loop.releaseGrabTimeout = v.loop.releaseGrabTimeout →
      ∀ x ∈ u.loop.releaseGrabTimeout, x ∈ v.loop.releaseGrabTimeout := fun h x hx => h ▸ hx
  cases hd with
  | calm h => exact hsame h.releaseTimers
  | tune ht mirrors silent cycle release => exact release.resolve_left hq
  | activate off granted => exact hsame (Saver.gsManagerActivate_acts (p := p) hh off granted).1.releaseTimers
  | deactivate ends first on => exact hsame (Saver.gsManagerDeactivate_ended env.toSaverEnv hh on).releaseTimers
  | added m he first new =>
    subst first
    exact hsame (Saver.monitorAdded_spec (p := p) (s := (s₀.tick env).saver) env m hs hh).1.releaseTimers
  | removed m he first => exact hsame (Saver.monitorRemoved_spec (p := False) env m hh False.elim).1.releaseTimers
  | lock request allowed => exact hsame (Saver.locking_gsManagerSetLockActive true hh).releaseTimers
  | unlock off => exact hsame (Saver.locking_gsManagerSetLockActive false hh).releaseTimers
  | lockTimer id he first due => exact hsame (Saver.locking_activateLockTimeout hh).releaseTimers
  | lockSettings k he first =>
    exact hsame (Saver.locking_lockSettings env.toSaverEnv _ _ hh).releaseTimers
  | throttle b first =>
    obtain ⟨jobs, hjobs⟩ := throttled_eq env.toSaverEnv v b
    exact hsame (by rw [hjobs])

theorem AllDone.releaseTimers (hd : AllDone p env s₀ e v u) (hs : s₀.saver.view.Sound) (hh : v.Housed)
    (hq : ¬ Watches e) : ∀ x ∈ u.loop.releaseGrabTimeout, x ∈ v.loop.releaseGrabTimeout := by
  induction hd with
  | refl => exact fun x hx => hx
  | tail hbefore hd ih => exact fun x hx => ih x (hd.releaseTimers hs (AllDone.housed hbefore hs hh) hq x hx)

/-! ### The notice -/

/- A reset of the watcher takes its notice away. -/
theorem gsWatcherSetActive_idleNotice {active : Bool} {w : GSWatcher}
    (h : (gsWatcherSetActive active w).2.idleNotice = true) : w.idleNotice = true := by
  simp only [gsWatcherSetActive] at h
  split at h
  · exact h
  · split at h
    · exact h
    · simp only [GSWatcher.setActiveInternal] at h
      split at h
      · cases h
      · exact h

theorem setActive_idleNotice (env : Env) (s : Screensaver) (b : Bool)
    (h : (s.gsListenerSetActive env b).2.watcher.idleNotice = true) : s.watcher.idleNotice = true := by
  have hcb : (s.listenerActiveChangedCb env b).2.watcher.idleNotice = true → s.watcher.idleNotice = true := by
    intro hw
    simp only [listenerActiveChangedCb] at hw
    split at hw
    · exact gsWatcherSetActive_idleNotice hw
    · exact hw
  simp only [gsListenerSetActive] at h
  split at h
  · exact h
  · split at h
    · split at h
      · exact hcb h
      · exact hcb h
    · rw [listenerSetActiveInternal_eq] at h
      split at h
      · exact hcb h
      · exact hcb h

theorem setSessionIdle_idleNotice (env : Env) (s : Screensaver) (b : Bool)
    (h : (s.gsListenerSetSessionIdle env b).2.watcher.idleNotice = true) : s.watcher.idleNotice = true := by
  let v := s.modifyListener fun l => { l with sessionIdle := b }
  have hcheck : (v.listenerCheckActivation env).2.watcher.idleNotice = true → s.watcher.idleNotice = true := by
    intro hw
    simp only [listenerCheckActivation] at hw
    split at hw
    · exact hw
    · split at hw
      · exact hw
      · split at hw
        · exact hw
        · exact setActive_idleNotice env v true hw
  simp only [gsListenerSetSessionIdle] at h
  split at h
  · exact h
  · split at h
    · exact h
    · split at h
      · exact hcheck h
      · exact hcheck h

theorem Part.idleNotice (hp : Part p env s₀ e s t) (hq : ¬ Watches e) (h : t.watcher.idleNotice = true) :
    s.watcher.idleNotice = true := by
  cases hp with
  | watcher w enabled active silent notice => exact (notice.resolve_right hq).symm.trans h
  | activate why => exact setActive_idleNotice env s true h
  | deactivate ends first => exact setActive_idleNotice env s false h
  | idle b off => exact setSessionIdle_idleNotice env s b h
  | stored type entry new own fresh =>
    obtain ⟨_, _, _, heq⟩ := stored_eq env type entry s
    rw [heq] at h
    exact h
  | dropped type cookie entry found =>
    rw [dropped_eq] at h
    exact h
  | purged type name =>
    rw [purged_eq] at h
    exact h
  | throttle b first =>
    simp only [gsListenerSetThrottle] at h
    split at h
    · exact h
    · exact h
  | saver | releaseGrab | quit | prefs | enable | reply | delayLock | ckCookie => exact h

theorem Parts.idleNotice (hp : Parts p env s₀ e s t) (hq : ¬ Watches e) (h : t.watcher.idleNotice = true) :
    s.watcher.idleNotice = true := by
  induction hp with
  | refl => exact h
  | tail _ hpart ih => exact ih (hpart.idleNotice hq h)

/- A notice that is over is always handled, and the watcher then forgets it. -/
theorem noticeOver (env : Env) (s : Screensaver) :
    (gsWatcherSetSessionIdleNotice (watcherHost env) false s).2.watcher.idleNotice = false := by
  have hres : (s.watcherIdleNoticeCb env false).1 = true := by
    simp only [watcherIdleNoticeCb, Bool.false_eq_true, if_false]
    split
    · rfl
    · rfl
  simp only [gsWatcherSetSessionIdleNotice]
  split
  · rw [if_pos (by exact hres)]
    rfl
  · next hsame =>
    have heq : false = s.watcher.idleNotice := not_not.1 hsame
    exact heq.symm

theorem idleTimeout_idleNotice (env : Env) (id : SourceId) (s : Screensaver) :
    (s.idleTimeout env id).watcher.idleNotice = false := by
  have hover := noticeOver env (gsWatcherSetSessionIdle (watcherHost env) true s).2
  show (onIdleTimeout (watcherHost env) s).2.watcher.idleNotice = false
  simp only [onIdleTimeout]
  split
  · exact hover
  · exact hover

/- The session manager says that the session is idle, and the monitor takes the notice:
gs-watcher-x11.c:356 and gs-monitor.c:106. -/
def acceptsNotice (s : Screensaver) : Event → Bool
  | .presenceStatus status => status == 3 && s.watcher.active && !s.watcher.idleNotice &&
      s.listener.activationEnabled && !listenerRefEntryIsPresent s.listener .inhibit
  | _ => false

/- The watcher with a notice that has been taken, the devices being grabbed offscreen. -/
def noticed (env : Env) (s : Screensaver) : Screensaver :=
  { s.modifySaver (.modifyGrab fun g => (g.grabWindowOnce env.grabOffscreen .offscreen false false).2) with
    watcher := { s.watcher with idleNotice := true } }

theorem noticeBegun (env : Env) (s : Screensaver) :
    (gsWatcherSetSessionIdleNotice (watcherHost env) true s).2 =
      if s.watcher.idleNotice = false ∧
          (s.listener.activationEnabled && !listenerRefEntryIsPresent s.listener .inhibit) = true then
        s.noticed env
      else s := by
  cases hnotice : s.watcher.idleNotice
  · cases hfree : (s.listener.activationEnabled && !listenerRefEntryIsPresent s.listener .inhibit)
    · simp only [gsWatcherSetSessionIdleNotice, watcherHost, watcherIdleNoticeCb, hnotice, hfree, if_true,
        Bool.false_eq_true, if_false, and_false, ite_self]
    · simp only [gsWatcherSetSessionIdleNotice, watcherHost, watcherIdleNoticeCb, hnotice, hfree, if_true, noticed]
      rfl
  · simp [gsWatcherSetSessionIdleNotice, watcherHost, hnotice]

/- While a status of idle is heard, nothing is armed. -/
theorem setStatus_idle (env : Env) (hactive : s.watcher.active = true) :
    ((setStatus (watcherHost env) 3 s).saver.loop.releaseGrabTimeout = s.saver.loop.releaseGrabTimeout ∧
      (setStatus (watcherHost env) 3 s).saver.manager = s.saver.manager ∧
      (setStatus (watcherHost env) 3 s).quit = s.quit) ∧
    ((setStatus (watcherHost env) 3 s).watcher.idleNotice = true ↔
      s.watcher.idleNotice = true ∨ s.acceptsNotice (.presenceStatus 3) = true) := by
  have hon : ¬ (!s.watcher.active) = true := by simp [hactive]
  have hrun : setStatus (watcherHost env) 3 s =
      let u := removeIdleTimeout (watcherHost env) (gsWatcherSetSessionIdleNotice (watcherHost env) true s).2
      let x := (watcherHost env).timeoutAdd u.watcher.deltaNoticeTimeout u
      { x.2 with watcher := { x.2.watcher with idleId := x.1 } } := if_neg hon
  have hremove : ∀ u : Screensaver, (removeIdleTimeout (watcherHost env) u).watcher = u.watcher ∧
      (removeIdleTimeout (watcherHost env) u).saver.loop.releaseGrabTimeout = u.saver.loop.releaseGrabTimeout ∧
      (removeIdleTimeout (watcherHost env) u).saver.manager = u.saver.manager ∧
      (removeIdleTimeout (watcherHost env) u).quit = u.quit := by
    intro u
    simp only [removeIdleTimeout]
    split
    · exact ⟨rfl, rfl, rfl, rfl⟩
    · exact ⟨rfl, rfl, rfl, rfl⟩
  have hbegun := noticeBegun env s
  have hkept : (gsWatcherSetSessionIdleNotice (watcherHost env) true s).2.saver.loop = s.saver.loop ∧
      (gsWatcherSetSessionIdleNotice (watcherHost env) true s).2.saver.manager = s.saver.manager ∧
      (gsWatcherSetSessionIdleNotice (watcherHost env) true s).2.quit = s.quit := by
    rw [hbegun]
    split
    · exact ⟨rfl, rfl, rfl⟩
    · exact ⟨rfl, rfl, rfl⟩
  obtain ⟨hwatcher, htimers, hmanager, hquit⟩ :=
    hremove (gsWatcherSetSessionIdleNotice (watcherHost env) true s).2
  rw [hrun]
  constructor
  · exact ⟨htimers.trans (congrArg MainLoop.releaseGrabTimeout hkept.1), hmanager.trans hkept.2.1,
      hquit.trans hkept.2.2⟩
  · show (removeIdleTimeout (watcherHost env) _).watcher.idleNotice = true ↔ _
    rw [hwatcher, hbegun]
    cases hnotice : s.watcher.idleNotice
    · cases hfree : (s.listener.activationEnabled && !listenerRefEntryIsPresent s.listener .inhibit)
      · simp [acceptsNotice, hactive, hnotice, hfree]
      · simp [acceptsNotice, hactive, hnotice, hfree, noticed]
    · simp [hnotice]

/-- A notice in effect is not one that a timer is still attached for. -/
def NoticeApart (s : Screensaver) : Prop :=
  s.watcher.idleNotice = true → s.saver.loop.releaseGrabTimeout = []

/-- No notice is accepted while the timer of a cancelled one is attached. -/
def AcceptsUnarmed (s : Screensaver) (label : Env × Event) : Prop :=
  s.acceptsNotice label.2 = true → s.saver.loop.releaseGrabTimeout = []

instance (s : Screensaver) (label : Env × Event) : Decidable (AcceptsUnarmed s label) :=
  inferInstanceAs (Decidable (_ → _))

theorem setStatus_apart (env : Env) (status : Nat) (h : s.NoticeApart)
    (hc : AcceptsUnarmed s (env, .presenceStatus status)) : (setStatus (watcherHost env) status s).NoticeApart := by
  cases hactive : s.watcher.active
  · have hsame : setStatus (watcherHost env) status s = s := if_pos (by
      show (!s.watcher.active) = true
      rw [hactive]
      rfl)
    rw [hsame]
    exact h
  · by_cases hidle : status = 3
    · subst hidle
      obtain ⟨⟨htimers, -, -⟩, hnotice⟩ := setStatus_idle env hactive
      intro hon
      rw [htimers]
      exact (hnotice.1 hon).elim h hc
    · -- the notice is over, if there was one
      have hstatus : (status == 3) = false := by simp [hidle]
      simp only [setStatus, hstatus, Bool.false_eq_true, if_false]
      split
      · exact h
      · split
        · exact h
        · intro hon
          have hover := noticeOver env
            (gsWatcherSetSessionIdle (watcherHost env) false (cancelIdleTimeout (watcherHost env) s)).2
          rw [hover] at hon
          cases hon

theorem apart_noticeStep (hs : s.Agreed ∧ s.saver.Housed) (h : s.NoticeApart) (hstep : s.step (env, e) = some t)
    (hc : AcceptsUnarmed s (env, e)) : t.NoticeApart := by
  by_cases hw : Watches e
  · have hdispatch := step_dispatch hstep
    rcases hw with ⟨status, rfl⟩ | ⟨id, rfl⟩
    · cases hdispatch
      exact setStatus_apart (s := s.tick env) env status h hc
    · obtain ⟨x, -, rfl⟩ := Option.map_eq_some_iff.1 hdispatch
      intro hon
      rw [idleTimeout_idleNotice] at hon
      cases hon
  · have hparts := parts_step (p := False) hs.1 hs.2 False.elim hstep
    have hhouse := tick_housed hs.2 env
    intro hon
    have hnone : (s.tick env).saver.loop.releaseGrabTimeout = [] := h (hparts.idleNotice hw hon)
    have hfewer := hparts.done.releaseTimers hs.1.sound hhouse hw
    rw [hnone] at hfewer
    exact List.eq_nil_iff_forall_not_mem.2 fun x hx => absurd (hfewer x hx) List.not_mem_nil

/-! ### The release -/

/- What the order of notices and timers is read off. -/
inductive NoticeMark
  | armed (id : SourceId)
  | accepted
  deriving DecidableEq, Repr

def marksBetween (s t : Screensaver) : List NoticeMark :=
  ((t.saver.loop.releaseGrabTimeout.filter fun x => x ∉ s.saver.loop.releaseGrabTimeout).map fun x => .armed x.id) ++
    if t.watcher.idleNotice && !s.watcher.idleNotice then [.accepted] else []

def noticeMarks (s : Screensaver) (label : Env × Event) : List NoticeMark :=
  ((s.step label).map (marksBetween s)).getD []

/- A notice is in effect that was accepted after the timer was armed. -/
def LaterNotice (log : List NoticeMark) (id : SourceId) (s : Screensaver) : Prop :=
  s.watcher.idleNotice = true ∧ ∃ before after, log = before ++ .armed id :: after ∧ .accepted ∈ after

/-- A release by the timer is one under no later notice, and with the manager inactive. -/
def OwnRelease (log : List NoticeMark) (s : Screensaver) (label : Env × Event) (t : Screensaver) : Prop :=
  ∀ id, label.2 = .releaseGrabTimeout id → t.saver.grab.ops ≠ s.saver.grab.ops →
    s.saver.manager.active = false ∧ ¬ LaterNotice log id s

theorem releaseGrabTimeout_ops (s : Screensaver) : s.releaseGrabTimeout.saver.grab.ops =
    if s.saver.manager.active = true then s.saver.grab.ops else .release :: s.saver.grab.ops := by
  simp only [releaseGrabTimeout]
  cases s.saver.manager.active
  · rfl
  · rfl

theorem own_release (h : s.NoticeApart) (log : List NoticeMark) (hstep : s.step (env, e) = some t) :
    OwnRelease log s (env, e) t := by
  intro id he hops
  have he' : e = .releaseGrabTimeout id := he
  subst he'
  obtain ⟨x, hdue, rfl⟩ := Option.map_eq_some_iff.1 (step_dispatch hstep)
  constructor
  · have hops' : (s.tick env).releaseGrabTimeout.saver.grab.ops ≠ s.saver.grab.ops := hops
    rw [releaseGrabTimeout_ops] at hops'
    cases hoff : s.saver.manager.active
    · rfl
    · exact absurd (if_pos hoff) hops'
  · rintro ⟨hon, -⟩
    have hmem : x ∈ s.saver.loop.releaseGrabTimeout := List.mem_of_find?_eq_some hdue
    rw [h hon] at hmem
    cases hmem

theorem start_noticeApart (b : Boot) (env : Env) : (b.start env).NoticeApart := by
  intro hon
  have hparts : (b.start env).watcher.idleNotice = false := by
    rw [Boot.start, updateFromPrefs_eq, settle]
    dsimp only
    split
    · split
      · rfl
      · rfl
    · split
      · rfl
      · rfl
  rw [hparts] at hon
  cases hon

/-- In a run in which no notice is accepted while the timer of a cancelled one is
attached, the timer releases the grab under no later notice. -/
theorem own_release_always (b : Boot) (env : Env) {es : List (Env × Event)}
    (h : screensaver.Meets AcceptsUnarmed (b.start env) es) :
    (screensaver.recorded noticeMarks).Each (fun s l t => OwnRelease s.2 s.1 l t.1) (b.start env, []) es := by
  refine each_of_meets (I := fun s => (s.1.Agreed ∧ s.1.saver.Housed) ∧ s.1.NoticeApart)
    (C := fun s l => AcceptsUnarmed s.1 l) (fun s l t hs hn hc => ?_) ⟨start_housed b env, start_noticeApart b env⟩
    ((recorded_meets noticeMarks [] es).2 h)
  obtain ⟨hnext, -⟩ := recorded_next hn
  exact ⟨own_release hs.2 s.2 hnext, housed_invariant.step s.1 l t.1 hs.1 hnext, apart_noticeStep hs.1 hs.2 hnext hc⟩

/-! ### A notice under the timer -/

/- Every timer there is has been recorded when it was armed. -/
theorem marked_invariant : (screensaver.recorded noticeMarks).Invariant fun x =>
    ∀ y ∈ x.1.saver.loop.releaseGrabTimeout, .armed y.id ∈ x.2 := by
  refine ⟨fun x hx => ?_, fun x l t hx hn y hy => ?_⟩
  · obtain ⟨⟨b, env, hb⟩, -⟩ := hx
    have hnone : x.1.saver.loop.releaseGrabTimeout = [] := by
      obtain ⟨message, hmessage⟩ := updateFromPrefs_saver env b.unsettled
      rw [hb, Boot.start, hmessage, (Saver.cycleClock_gsManagerSetStatusMessage message _).2,
        (Saver.cycleClock_managerSettings env _ _).2]
      exact (locking_lockSet b env).1.releaseTimers
    intro y hy
    rw [hnone] at hy
    cases hy
  · obtain ⟨hstep, hlog⟩ := recorded_next hn
    have hmarks : noticeMarks x.1 l = marksBetween x.1 t.1 := by
      have hstep' : x.1.step l = some t.1 := hstep
      rw [noticeMarks, hstep']
      rfl
    rw [hlog, hmarks]
    by_cases hold : y ∈ x.1.saver.loop.releaseGrabTimeout
    · exact List.mem_append_left _ (hx y hold)
    · refine List.mem_append_right _ (List.mem_append_left _ ?_)
      exact List.mem_map.2 ⟨y, List.mem_filter.2 ⟨hy, decide_eq_true hold⟩, rfl⟩

theorem acceptsNotice_iff : s.acceptsNotice e = true ↔ e = .presenceStatus 3 ∧ s.watcher.active = true ∧
    s.watcher.idleNotice = false ∧
    (s.listener.activationEnabled && !listenerRefEntryIsPresent s.listener .inhibit) = true := by
  cases e with
  | presenceStatus status => simp [acceptsNotice, and_assoc]
  | _ => simp [acceptsNotice]

/- When its time has passed the timer is dispatched, and releases what is grabbed. -/
theorem timer_expires (env : Env) (running : s.quit = false) (off : s.saver.manager.active = false) {x : Timer}
    (hx : x ∈ s.saver.loop.releaseGrabTimeout) :
    ∃ u, s.step ({ env with elapsed := x.due }, .releaseGrabTimeout x.id) = some u ∧
      u.saver.grab.ops = .release :: s.saver.grab.ops := by
  let v := s.tick { env with elapsed := x.due }
  have hfound : (v.saver.loop.due x.id v.saver.loop.releaseGrabTimeout).isSome = true := by
    rw [MainLoop.due, List.find?_isSome]
    exact ⟨x, hx, decide_eq_true ⟨rfl, Nat.le_add_left ..⟩⟩
  obtain ⟨y, hy⟩ := Option.isSome_iff_exists.1 hfound
  let u : Screensaver := v.releaseGrabTimeout.modifySaver (.modifyLoop fun l =>
    { l with releaseGrabTimeout := MainLoop.removeTimer x.id l.releaseGrabTimeout })
  have hdispatch : v.dispatch { env with elapsed := x.due } (.releaseGrabTimeout x.id) = some u := by
    simp only [dispatch, hy, Option.map_some]
    rfl
  refine ⟨u, ?_, ?_⟩
  · rw [Screensaver.step, if_neg (by rw [running]; exact Bool.false_ne_true)]
    exact hdispatch
  · have hidle : ¬ v.saver.manager.active = true := by
      show ¬ s.saver.manager.active = true
      rw [off]
      exact Bool.false_ne_true
    exact (releaseGrabTimeout_ops v).trans (if_neg hidle)

/- Accepting a notice changes neither the timers nor the manager, and is recorded. -/
theorem accepted_step (haccept : s.acceptsNotice e = true) (hstep : s.step (env, e) = some t) :
    t.watcher.idleNotice = true ∧ t.saver.loop.releaseGrabTimeout = s.saver.loop.releaseGrabTimeout ∧
    t.saver.manager = s.saver.manager ∧ t.quit = false ∧ .accepted ∈ noticeMarks s (env, e) := by
  obtain ⟨rfl, hactive, hbefore, -⟩ := acceptsNotice_iff.1 haccept
  have hdispatch : setStatus (watcherHost env) 3 (s.tick env) = t := Option.some_inj.1 (step_dispatch hstep)
  obtain ⟨⟨htimers, hmanager, hquit⟩, hnotice⟩ := setStatus_idle (s := s.tick env) env hactive
  rw [hdispatch] at htimers hmanager hquit hnotice
  have hon : t.watcher.idleNotice = true := hnotice.2 (.inr haccept)
  have hrunning : s.quit = false := step_running hstep
  refine ⟨hon, htimers, hmanager, hquit.trans hrunning, ?_⟩
  rw [noticeMarks, hstep]
  show NoticeMark.accepted ∈ marksBetween s t
  simp [marksBetween, hon, hbefore]

/-- A notice that is accepted under the timer is released by it as soon as it expires. -/
theorem armed_notice_released {s t : Screensaver × List NoticeMark}
    (hr : (screensaver.recorded noticeMarks).Reachable s) {l : Env × Event}
    (hn : (screensaver.recorded noticeMarks).next s l = some t) (haccept : s.1.acceptsNotice l.2 = true)
    (harmed : s.1.saver.loop.releaseGrabTimeout ≠ []) :
    ∃ expiry u, (screensaver.recorded noticeMarks).next t expiry = some u ∧ ¬ OwnRelease t.2 t.1 expiry u.1 := by
  obtain ⟨env, e⟩ := l
  obtain ⟨hstep, hlog⟩ := recorded_next hn
  obtain ⟨hon, htimers, hmanager, hrunning, hmark⟩ := accepted_step haccept hstep
  have hoff : t.1.saver.manager.active = false := by
    have hwatcher := (housed_invariant.reachable (recorded_reachable_state hr)).1.watcher
    rw [(acceptsNotice_iff.1 haccept).2.1] at hwatcher
    rw [hmanager]
    simpa using hwatcher.symm
  obtain ⟨x, rest, hx⟩ := List.exists_cons_of_ne_nil harmed
  have hmem : x ∈ s.1.saver.loop.releaseGrabTimeout := hx ▸ List.mem_cons_self ..
  obtain ⟨u, hnext, hops⟩ := timer_expires env hrunning hoff (htimers ▸ hmem)
  refine ⟨_, (u, t.2 ++ noticeMarks t.1 _), Option.map_eq_some_iff.2 ⟨u, hnext, rfl⟩, fun hown => ?_⟩
  obtain ⟨before, after, hsplit⟩ := List.append_of_mem (marked_invariant.reachable hr x hmem)
  refine (hown x.id rfl (by rw [hops]; exact List.cons_ne_self _ _)).2 ⟨hon, before, after ++ noticeMarks s.1 (env, e),
    ?_, List.mem_append_right _ hmark⟩
  rw [hlog, hsplit, List.append_assoc, List.cons_append]

theorem granted_time_pos : 0 < granted.time := granted.time_pos

def later (elapsed : Nat) : Env := { granted with time_pos := granted_time_pos, elapsed := elapsed }

/- A notice is cancelled, its timer expires, and only then the next notice comes. -/
def inTurn : List (Env × Event) :=
  [(granted, .presenceStatus 3), (granted, .presenceStatus 0), (later 1000, .releaseGrabTimeout 2),
   (granted, .presenceStatus 3)]

theorem own_release_inTurn :
    (screensaver.recorded noticeMarks).Each (fun s l t => OwnRelease s.2 s.1 l t.1) (desk.start granted, []) inTurn :=
  own_release_always desk granted (meets_of_checks (by decide))

/- The next notice comes within the second. -/
def inHaste : List (Env × Event) := [(granted, .presenceStatus 3), (granted, .presenceStatus 0), (granted, .presenceStatus 3)]

theorem later_notice_released : ¬ ∀ (b : Boot) (env : Env) (es : List (Env × Event)),
    (screensaver.recorded noticeMarks).Each (fun s l t => OwnRelease s.2 s.1 l t.1) (b.start env, []) es := by
  intro h
  let s := ((screensaver.recorded noticeMarks).run (desk.start granted, []) inHaste).get (by decide)
  have hs : (screensaver.recorded noticeMarks).run (desk.start granted, []) inHaste = some s :=
    (Option.some_get _).symm
  let t := ((screensaver.recorded noticeMarks).next s (later 1000, .releaseGrabTimeout 2)).get (by decide)
  have ht : (screensaver.recorded noticeMarks).next s (later 1000, .releaseGrabTimeout 2) = some t :=
    (Option.some_get _).symm
  have hrest := (h desk granted (inHaste ++ [(later 1000, .releaseGrabTimeout 2)])).after hs
  have howns : OwnRelease s.2 s.1 (later 1000, .releaseGrabTimeout 2) t.1 := (hrest t ht).1
  have hlog : s.2 = [.accepted, .armed 2, .accepted] := by decide
  refine (howns 2 rfl (by decide)).2 ⟨by decide, [.accepted], [.accepted], hlog, List.mem_singleton_self _⟩

end Screensaver
end MateScreensaver
