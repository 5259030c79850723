import MateScreensaver.LockDue
import MateScreensaver.SettingsStore

/-!
The cycle timer: its period against the setting, and how far apart the cycles are.
-/

namespace MateScreensaver
open Runs System

namespace Saver

variable {p : Prop} {env : SaverEnv} {s t u : Saver} {w : WindowId} {times : List Nat}

/-- What the cycle timer is like when the cycles of the given times have been: the
manager knows every one there is, and while a window is shown the only one runs
with the setting as its period, no earlier than that after any of the cycles. -/
structure Cycling (times : List Nat) (s : Saver) : Prop where
  lock : 0 ≤ s.manager.lockTimeout
  least : 60000 ≤ s.manager.cycleTimeout
  past : ∀ τ ∈ times, τ ≤ s.loop.now
  own : ∀ x ∈ s.loop.cycleTimeout, x.id = s.manager.cycleTimeoutId ∧ x.id ≠ 0
  dark : s.manager.active = false → ¬ s.Shown
  paced : s.manager.active = true → s.Shown → ∃ x, s.loop.cycleTimeout = [x] ∧
    (x.interval : Int) = s.manager.cycleTimeout ∧ ∀ τ ∈ times, τ + x.interval ≤ x.due

/- Of timers that are all the recorded one none is left. -/
theorem keptTimers_own {id : SourceId} {l : List Timer} (h : ∀ x ∈ l, x.id = id ∧ x.id ≠ 0) :
    keptTimers id l = [] := by
  unfold keptTimers
  split
  · next h0 =>
    cases l with
    | nil => rfl
    | cons x l =>
      obtain ⟨hid, hne⟩ := h x (List.mem_cons_self ..)
      exact absurd (hid.trans h0) hne
  · refine List.filter_eq_nil_iff.2 fun x hx => ?_
    obtain ⟨hid, -⟩ := h x hx
    simp [hid]

theorem Cycling.fewer {times' : List Nat} (h : s.Cycling times) (hsub : ∀ τ ∈ times', τ ∈ times) :
    s.Cycling times' := by
  refine ⟨h.lock, h.least, fun τ hτ => h.past τ (hsub τ hτ), h.own, h.dark, fun hon hshown => ?_⟩
  obtain ⟨x, hx, hperiod, hdue⟩ := h.paced hon hshown
  exact ⟨x, hx, hperiod, fun τ hτ => hdue τ (hsub τ hτ)⟩

theorem Cycling.same (h : s.Cycling times) (lock : 0 ≤ t.manager.lockTimeout)
    (active : t.manager.active = s.manager.active) (timeout : t.manager.cycleTimeout = s.manager.cycleTimeout)
    (id : t.manager.cycleTimeoutId = s.manager.cycleTimeoutId)
    (timers : t.loop.cycleTimeout = s.loop.cycleTimeout) (now : t.loop.now = s.loop.now)
    (shown : t.Shown → s.Shown) : t.Cycling times := by
  refine ⟨lock, timeout ▸ h.least, fun τ hτ => now ▸ h.past τ hτ, ?_, fun hoff hs => h.dark (active ▸ hoff) (shown hs),
    fun hon hs => ?_⟩
  · rw [timers, id]
    exact h.own
  · rw [timers, timeout]
    exact h.paced (active ▸ hon) (shown hs)

/- A timer armed anew, for a whole period. -/
theorem Cycling.renewed (h : s.Cycling times) (lock : 0 ≤ t.manager.lockTimeout)
    (least : 60000 ≤ t.manager.cycleTimeout) (now : t.loop.now = s.loop.now)
    (dark : t.manager.active = false → ¬ t.Shown) {n : SourceId} {k : Nat} (hn : n ≠ 0)
    (id : t.manager.cycleTimeoutId = n)
    (timers : t.loop.cycleTimeout = keptTimers s.manager.cycleTimeoutId s.loop.cycleTimeout ++ [⟨n, s.loop.now + k, k⟩])
    (whole : t.Shown → (k : Int) = t.manager.cycleTimeout) : t.Cycling times := by
  have hnone : keptTimers s.manager.cycleTimeoutId s.loop.cycleTimeout = [] := keptTimers_own h.own
  rw [hnone, List.nil_append] at timers
  refine ⟨lock, least, fun τ hτ => now ▸ h.past τ hτ, ?_, dark, fun _ hs => ?_⟩
  · intro x hx
    rw [timers, List.mem_singleton] at hx
    subst hx
    exact ⟨id.symm, hn⟩
  · refine ⟨_, timers, whole hs, fun τ hτ => ?_⟩
    exact Nat.add_le_add_right (h.past τ hτ) k

/-! ### The moves -/

/- The lock timer comes first, so the cycle timer has the id after it. -/
theorem gtkWidgetShow_cycleTimer (env : SaverEnv) (hidden : (s.window w).visible = false) (lock : 0 ≤ s.manager.lockTimeout)
    (least : 60000 ≤ s.manager.cycleTimeout) :
    (s.gtkWidgetShow env w).manager.cycleTimeout = s.manager.cycleTimeout ∧
    (s.gtkWidgetShow env w).manager.cycleTimeoutId = s.loop.nextId + 1 ∧
    (s.gtkWidgetShow env w).loop.cycleTimeout =
      keptTimers s.manager.cycleTimeoutId s.loop.cycleTimeout ++
        [⟨s.loop.nextId + 1, s.loop.now + s.manager.cycleTimeout.toNat, s.manager.cycleTimeout.toNat⟩] := by
  have hrec := records_modifyWindow s w fun win => { win with visible := true }
  have heq : s.gtkWidgetShow env w = (s.modifyWindow w fun win => { win with visible := true }).managerShowWindow env w := by
    rw [gtkWidgetShow, if_neg (by simp [hidden])]
  generalize s.modifyWindow w (fun win => { win with visible := true }) = v at hrec heq
  have hlock : 0 ≤ v.manager.lockTimeout := by rw [hrec.manager]; exact lock
  have hleast : 10000 ≤ v.manager.cycleTimeout := by rw [hrec.manager]; omega
  rw [heq, ← hrec.manager, ← hrec.loop]
  simp only [managerShowWindow, managerAddJobForWindow, modifyManager, removeLockTimer_eq, removeCycleTimer_eq,
    addLockTimer, addCycleTimer, modifyLoop, MainLoop.timer, if_pos hlock, if_pos hleast]
  exact ⟨trivial, trivial, trivial⟩

theorem Cycling.timeless (h : s.Cycling times) (ht : Timeless s t) : t.Cycling times := by
  have hlock : t.manager.lockTimeout = s.manager.lockTimeout := congrArg LockTimer.lockTimeout ht.lockTimer
  exact h.same (hlock ▸ h.lock) (congrArg LockTimer.active ht.lockTimer) ht.cycleTimeout ht.cycleTimeoutId
    ht.cycleTimers ht.now ht.shown

theorem Cycling.appeared (h : s.Cycling times) (ha : AppearsIn env s t) : t.Cycling times := by
  obtain ⟨w, on, live, hidden, rfl⟩ := ha
  have happear := appeared_gtkWidgetShow env live hidden
  obtain ⟨htimeout, hid, htimers⟩ := gtkWidgetShow_cycleTimer env hidden h.lock h.least
  have hsteady := happear.steady
  refine h.renewed (hsteady.lockTimeout ▸ h.lock) (htimeout ▸ h.least) hsteady.now (fun hoff => ?_)
    (Nat.succ_ne_zero _) hid htimers fun _ => ?_
  · rw [hsteady.active, on] at hoff
    cases hoff
  · rw [htimeout]
    exact Int.toNat_of_nonneg (by have hleast := h.least; omega)

theorem Cycling.calm (h : s.Cycling times) (hc : Calm p env s t) : t.Cycling times :=
  hc.timeless.elim h.timeless h.appeared

theorem Cycling.calms (h : s.Cycling times) (hc : Calms p env s t) : t.Cycling times := by
  induction hc with
  | refl => exact h
  | tail _ hc ih => exact ih.calm hc

theorem Cycling.act (h : s.Cycling times) (ha : Act p env s t) : t.Cycling times := by
  rcases ha.timeless with ht | happear | ⟨off, rfl⟩
  · exact h.timeless ht
  · exact h.appeared happear
  · -- nothing is shown yet
    have hdark : ¬ s.turnedOn.Shown := h.dark off
    exact ⟨h.lock, h.least, h.past, h.own, fun _ => hdark, fun _ hs => absurd hs hdark⟩

theorem Cycling.acts (h : s.Cycling times) (ha : Acts p env s t) : t.Cycling times := by
  induction ha with
  | refl => exact h
  | tail _ ha ih => exact ih.act ha

theorem Cycling.locking (h : s.Cycling times) (hl : Locking s t) (lock : 0 ≤ t.manager.lockTimeout) :
    t.Cycling times :=
  h.same lock hl.active (congrArg GSManager.cycleTimeout hl.manager :) (congrArg GSManager.cycleTimeoutId hl.manager :)
    hl.cycleTimers hl.now hl.shown

theorem Cycling.ended (h : s.Cycling times) (he : Ended s t) : t.Cycling times := by
  have hnone : t.loop.cycleTimeout = [] := he.cycleTimers.trans (keptTimers_own h.own)
  have hdark : ¬ t.Shown := by
    rintro ⟨w, win, hw, -⟩
    rw [he.lost] at hw
    cases hw
  refine ⟨he.lockTimeout ▸ h.lock, he.cycleTimeout ▸ h.least, fun τ hτ => he.now ▸ h.past τ hτ, fun x hx => ?_,
    fun _ => hdark, fun _ hs => absurd hs hdark⟩
  rw [hnone] at hx
  cases hx

theorem Tuned.shown (h : Tuned p s t) (ht : t.Shown) : s.Shown := by
  refine ht.of fun w win' hw => ?_
  obtain ⟨win, hs, hbare⟩ := h.window hw
  exact ⟨win, hs, (congrArg GSWindow.visible hbare :)⟩

/- In the second of the activation nothing has passed of the period. -/
theorem CycleClock.left_whole {c : CycleClock} {n : Int} (hn : 0 < n) (time : Nat) :
    (c.left time n : Int) = n ↔ time = c.activateTime := by
  unfold left
  dsimp only
  split
  · omega
  · omega

/- A change of the setting while a window is shown counts the period from the activation. -/
theorem Cycling.set (h : s.Cycling times) (ht : Tuned p s t) {time : Nat} {n : Int} (hn : 60000 ≤ n)
    (hclock : t.cycleClock = s.cycleClock.set time n) (pos : 0 < s.loop.nextId)
    (hsince : s.manager.active = true → s.Shown → n ≠ s.manager.cycleTimeout → time = s.manager.activateTime) :
    t.Cycling times := by
  have hsteady := ht.steady
  have hlock : 0 ≤ t.manager.lockTimeout := hsteady.lockTimeout ▸ h.lock
  by_cases hsame : s.manager.cycleTimeout = n
  · have hkept : t.cycleClock = s.cycleClock := hclock.trans (if_pos hsame)
    exact h.same hlock hsteady.active (congrArg CycleClock.cycleTimeout hkept :)
      (congrArg CycleClock.cycleTimeoutId hkept :) (congrArg CycleClock.timers hkept :) ht.now ht.shown
  · have hdark : t.manager.active = false → ¬ t.Shown := fun hoff hs => h.dark (hsteady.active ▸ hoff) (ht.shown hs)
    by_cases hon : s.manager.active = true
    · have hrun := hclock.trans (CycleClock.set_on hon (by omega) hsame time)
      have htimeout : t.manager.cycleTimeout = n := (congrArg CycleClock.cycleTimeout hrun :)
      refine h.renewed (k := s.cycleClock.left time n) hlock (htimeout ▸ hn) ht.now hdark (Nat.ne_of_gt pos)
        (congrArg CycleClock.cycleTimeoutId hrun :) (congrArg CycleClock.timers hrun :) fun hs => ?_
      have hwhen : time = s.cycleClock.activateTime := hsince hon (ht.shown hs) (Ne.symm hsame)
      rw [htimeout]
      exact (CycleClock.left_whole (by omega) time).2 hwhen
    · have hidle := hclock.trans (CycleClock.set_off (Bool.not_eq_true _ ▸ hon) time n)
      have htimeout : t.manager.cycleTimeout = n := (congrArg CycleClock.cycleTimeout hidle :)
      have hid : t.manager.cycleTimeoutId = s.manager.cycleTimeoutId := (congrArg CycleClock.cycleTimeoutId hidle :)
      have htimers : t.loop.cycleTimeout = s.loop.cycleTimeout := (congrArg CycleClock.timers hidle :)
      refine ⟨hlock, htimeout ▸ hn, fun τ hτ => ht.now ▸ h.past τ hτ, ?_, hdark, fun hact => ?_⟩
      · rw [htimers, hid]
        exact h.own
      · rw [hsteady.active] at hact
        exact absurd hact hon

theorem cycleTimeoutCb_loop (env : SaverEnv) (s : Saver) : (s.cycleTimeoutCb env).loop = s.loop := by
  simp only [cycleTimeoutCb, gsManagerCycle]
  split
  · split
    · rfl
    · rfl
  · rfl

/- The timer is dispatched when it is due, and runs again for its period. -/
theorem Cycling.dispatched (h : s.Cycling times) {id : SourceId} {x : Timer}
    (hx : s.loop.due id s.loop.cycleTimeout = some x) :
    (s.modifyLoop fun l => { l with cycleTimeout := l.rearm id l.cycleTimeout }).Cycling (times ++ [s.loop.now]) := by
  have hmem : ∀ y ∈ s.loop.rearm id s.loop.cycleTimeout, ∃ x ∈ s.loop.cycleTimeout, y.id = x.id := by
    intro y hy
    obtain ⟨x, hx, rfl⟩ := List.mem_map.1 hy
    refine ⟨x, hx, ?_⟩
    split
    · rfl
    · rfl
  refine ⟨h.lock, h.least, fun τ hτ => ?_, fun y hy => ?_, h.dark, fun hon hs => ?_⟩
  · rcases List.mem_append.1 hτ with hτ | hτ
    · exact h.past τ hτ
    · exact Nat.le_of_eq (List.mem_singleton.1 hτ)
  · obtain ⟨x, hx, hid⟩ := hmem y hy
    rw [hid]
    exact h.own x hx
  · obtain ⟨y, hy, hperiod, -⟩ := h.paced hon hs
    have hfound := List.mem_of_find?_eq_some hx
    rw [hy, List.mem_singleton] at hfound
    subst hfound
    have hid : x.id = id := by
      have hfit := List.find?_some hx
      simp only [decide_eq_true_eq] at hfit
      exact hfit.1
    refine ⟨{ x with due := s.loop.now + x.interval }, ?_, hperiod, fun τ hτ => ?_⟩
    · show s.loop.rearm id s.loop.cycleTimeout = _
      rw [hy, MainLoop.rearm, List.map_singleton, if_pos hid]
    · have hbefore : τ ≤ s.loop.now := by
        rcases List.mem_append.1 hτ with hτ | hτ
        · exact h.past τ hτ
        · exact Nat.le_of_eq (List.mem_singleton.1 hτ)
      exact Nat.add_le_add_right hbefore x.interval

end Saver

namespace Screensaver
open Saver (Cycling CycleClock Tuned Locking)

variable {p : Prop} {s₀ s t : Screensaver} {env : Env} {e : Event} {v u : Saver} {times : List Nat}

/-! ### The settings -/

theorem load_ranges (st : Settings) : (GSPrefs.load st).InRanges where
  timeout := prefsTimeout_inRange _
  power := prefsPowerTimeout_inRange _
  lock := prefsLockTimeout_inRange _
  cycle := prefsCycleTimeout_inRange _
  logout := prefsLogoutTimeout_inRange _

theorem parts_inRanges (hp : Parts p env s₀ e s t) (h : s.prefs.InRanges) : t.prefs.InRanges := by
  induction hp with
  | refl => exact h
  | tail _ hpart ih =>
    rcases part_prefs hpart with hsame | ⟨k, hk⟩
    · rw [hsame]
      exact ih
    · rw [hk]
      exact ih.keyChanged k

theorem gsManagerSetLockTimeout_value (env : SaverEnv) (n : Int) (hh : v.Housed) :
    (v.gsManagerSetLockTimeout env n).manager.lockTimeout = n := by
  simp only [Saver.gsManagerSetLockTimeout]
  split
  · have hdrop : (v.modifyManager fun m => { m with lockTimeout := n }).removeLockTimer.Housed := by
      have hset : Locking v (v.modifyManager fun m => { m with lockTimeout := n }) := Saver.locking_manager rfl
      exact (hset.trans (Saver.locking_removeLockTimer _)).housed hh
    split
    · split
      · rw [(Saver.activateLockTimeout_spent hdrop).1, Saver.removeLockTimer_eq]
        rfl
      · rw [Saver.removeLockTimer_eq]
        rfl
    · rfl
  · next hsame => exact not_not.1 hsame

/-! ### A step -/

/-- While the saver is active with a window shown, the only timer for the cycle is the
one the manager knows, and its period is the setting, at least a minute. -/
def CyclePeriod (s : Screensaver) : Prop :=
  s.saver.manager.active = true → s.saver.Shown → 60000 ≤ s.saver.manager.cycleTimeout ∧
    ∃ x, s.saver.loop.cycleTimeout = [x] ∧ x.id = s.saver.manager.cycleTimeoutId ∧
      (x.interval : Int) = s.saver.manager.cycleTimeout

/-- The setting changes under a shown window only in the second of the activation. -/
def ChangesAtOnce (s : Screensaver) (label : Env × Event) : Prop :=
  ∀ k, label.2 = .keyChanged k → s.saver.manager.active = true → s.saver.Shown →
    (s.prefs.keyChanged k).cycle ≠ s.saver.manager.cycleTimeout → label.1.time = s.saver.manager.activateTime

/- The times at which the timer has been dispatched. -/
def cycled (s : Screensaver) (label : Env × Event) : List Nat :=
  match label.2 with
  | .cycleTimeout _ => [s.saver.loop.now + label.1.elapsed]
  | _ => []

/-- An automatic cycle comes no sooner after any earlier one than the setting says. -/
def CyclesApart (times : List Nat) (s : Screensaver) (label : Env × Event) : Prop :=
  ∀ id, label.2 = .cycleTimeout id → s.saver.manager.active = true → s.saver.Shown →
    ∀ τ ∈ times, (τ : Int) + s.saver.manager.cycleTimeout ≤ (s.saver.loop.now + label.1.elapsed : Nat)

theorem cycling_tick (h : s.saver.Cycling times) (env : Env) : (s.tick env).saver.Cycling times :=
  ⟨h.lock, h.least, fun τ hτ => Nat.le_add_right_of_le (h.past τ hτ), h.own, h.dark, h.paced⟩

/- Where the setting reaches the timer, the lock has had its settings, and no more. -/
theorem cycling_set (hs : s₀.saver.view.Sound) (hh : s₀.saver.Housed) (hprefs : s₀.prefs.InRanges) (k : KeyChange)
    (he : e = .keyChanged k) (honce : ChangesAtOnce s₀ (env, e)) (ht : Tuned p v u)
    (locks : v = ((s₀.tick env).saver.gsManagerSetLockEnabled
        ((s₀.prefs.keyChanged k).lockEnabled && !(s₀.prefs.keyChanged k).lockDisabled)).gsManagerSetLockTimeout
          env.toSaverEnv (s₀.prefs.keyChanged k).lockTimeout)
    (clock : u.cycleClock = v.cycleClock.set env.time (s₀.prefs.keyChanged k).cycle)
    (h : v.Cycling times) : u.Cycling times := by
  let q : Screensaver := { s₀.tick env with prefs := s₀.prefs.keyChanged k }
  have hhouse : q.saver.Housed := hh.same rfl rfl rfl
  have hlock : Locking q.saver v := by
    rw [locks]
    exact (locking_locksHanded env hhouse).1
  have hpos : 0 < v.loop.nextId := by
    have hpos0 : 0 < s₀.saver.loop.nextId := hs.pos
    rw [locks]
    exact Nat.lt_of_lt_of_le hpos0 (Saver.nextId_gsManagerSetLockTimeout env.toSaverEnv _
      ((s₀.tick env).saver.gsManagerSetLockEnabled
        ((s₀.prefs.keyChanged k).lockEnabled && !(s₀.prefs.keyChanged k).lockDisabled)))
  have hcycle : v.manager.cycleTimeout = s₀.saver.manager.cycleTimeout :=
    (congrArg GSManager.cycleTimeout hlock.manager :)
  have hwhen : v.manager.activateTime = s₀.saver.manager.activateTime :=
    (congrArg GSManager.activateTime hlock.manager :)
  refine h.set ht (hprefs.keyChanged k).cycle.low clock hpos fun hon hshown hne => ?_
  rw [hwhen]
  rw [hcycle] at hne
  exact honce k he (hlock.active.symm.trans hon) (hlock.shown hshown) hne

theorem cycling_does (hd : Does p env s₀ e v u) (hs : s₀.saver.view.Sound) (hh₀ : s₀.saver.Housed) (hh : v.Housed)
    (hprefs : s₀.prefs.InRanges) (hquiet : ∀ id, e ≠ .cycleTimeout id) (honce : ChangesAtOnce s₀ (env, e))
    (h : v.Cycling times) : u.Cycling times := by
  cases hd with
  | calm hc => exact h.calm hc
  | tune ht mirrors silent cycle release =>
    cases cycle with
    | kept timeout id timers =>
      have hsteady := (ht hh).steady
      exact h.same (hsteady.lockTimeout ▸ h.lock) hsteady.active timeout id timers hsteady.now (ht hh).shown
    | set k he locks clock => exact cycling_set hs hh₀ hprefs k he honce (ht hh) locks clock h
    | dispatched id he => exact absurd he (hquiet id)
  | activate off granted => exact h.acts (Saver.gsManagerActivate_acts (p := p) hh off granted).1
  | deactivate ends first on => exact h.ended (Saver.gsManagerDeactivate_ended env.toSaverEnv hh on)
  | added m he first new =>
    subst first
    exact h.acts (Saver.monitorAdded_spec (p := p) (s := (s₀.tick env).saver) env m hs hh).1
  | removed m he first => exact h.acts (Saver.monitorRemoved_spec (p := False) env m hh False.elim).1
  | lock request allowed =>
    refine h.locking (Saver.locking_gsManagerSetLockActive true hh) ?_
    rw [Saver.setLockActive_manager true hh]
    exact h.lock
  | unlock off =>
    refine h.locking (Saver.locking_gsManagerSetLockActive false hh) ?_
    rw [Saver.setLockActive_manager false hh]
    exact h.lock
  | lockTimer id he first due =>
    have hfired := h.locking (Saver.locking_activateLockTimeout hh)
      ((Saver.activateLockTimeout_spent hh).1 ▸ h.lock)
    exact ⟨hfired.lock, hfired.least, hfired.past, hfired.own, hfired.dark, hfired.paced⟩
  | lockSettings k he first =>
    refine h.locking (Saver.locking_lockSettings env.toSaverEnv _ _ hh) ?_
    have henabled : Locking v (v.gsManagerSetLockEnabled
        ((s₀.prefs.keyChanged k).lockEnabled && !(s₀.prefs.keyChanged k).lockDisabled)) := Saver.locking_manager rfl
    rw [gsManagerSetLockTimeout_value env.toSaverEnv _ (henabled.housed hh)]
    exact (hprefs.keyChanged k).lock.low
  | throttle b first =>
    obtain ⟨jobs, hjobs⟩ := throttled_eq env.toSaverEnv v b
    rw [hjobs]
    exact h.same h.lock rfl rfl rfl rfl rfl fun hshown => hshown

theorem cycling_alldone (hd : AllDone p env s₀ e v u) (hs : s₀.saver.view.Sound) (hh₀ : s₀.saver.Housed)
    (hh : v.Housed) (hprefs : s₀.prefs.InRanges) (hquiet : ∀ id, e ≠ .cycleTimeout id)
    (honce : ChangesAtOnce s₀ (env, e)) (h : v.Cycling times) : u.Cycling times := by
  induction hd with
  | refl => exact h
  | tail hbefore hd ih => exact cycling_does hd hs hh₀ (AllDone.housed hbefore hs hh) hprefs hquiet honce ih

theorem cycling_step (hs : s.Agreed ∧ s.saver.Housed) (hprefs : s.prefs.InRanges) (h : s.saver.Cycling times)
    (hstep : s.step (env, e) = some t) (honce : ChangesAtOnce s (env, e)) :
    t.prefs.InRanges ∧ t.saver.Cycling (times ++ cycled s (env, e)) := by
  have hparts := parts_step (p := False) hs.1 hs.2 False.elim hstep
  refine ⟨parts_inRanges hparts hprefs, ?_⟩
  have hhouse := tick_housed hs.2 env
  by_cases hcycle : ∃ id, e = .cycleTimeout id
  · obtain ⟨id, rfl⟩ := hcycle
    have hdispatch := step_dispatch hstep
    simp only [dispatch] at hdispatch
    obtain ⟨x, hdue, rfl⟩ := Option.map_eq_some_iff.1 hdispatch
    have hcalms : Saver.Calms False env.toSaverEnv (s.tick env).saver
        ((s.tick env).saver.cycleTimeoutCb env.toSaverEnv) := Saver.calms_cycleTimeoutCb env.toSaverEnv _
    have hloop := Saver.cycleTimeoutCb_loop env.toSaverEnv (s.tick env).saver
    have hcycling := (cycling_tick h env).calms hcalms
    show (((s.tick env).saver.cycleTimeoutCb env.toSaverEnv).modifyLoop fun l =>
      { l with cycleTimeout := l.rearm id l.cycleTimeout }).Cycling _
    generalize (s.tick env).saver.cycleTimeoutCb env.toSaverEnv = v at hloop hcycling
    rw [← hloop] at hdue
    have hdone := hcycling.dispatched hdue
    rw [hloop] at hdone
    exact hdone
  · have hnone : cycled s (env, e) = [] := by
      cases e with
      | cycleTimeout id => exact absurd ⟨id, rfl⟩ hcycle
      | _ => rfl
    rw [hnone, List.append_nil]
    exact cycling_alldone hparts.done hs.1.sound hs.2 hhouse hprefs (fun id he => hcycle ⟨id, he⟩) honce
      (cycling_tick h env)

/- A window that is shown stays so through the settings. -/
theorem shown_updateFromPrefs (env : Env) (hh : s.saver.Housed) (h : s.saver.Shown) :
    (s.updateFromPrefs env).saver.Shown := by
  obtain ⟨w, win, hw, hvisible⟩ := h
  obtain ⟨l, hl⟩ := (locking_locksHanded env hh).1.windows w
  have hbare := (tuned_updateFromPrefs True env hh).bare w
  rw [hl, hw] at hbare
  obtain ⟨win', hw', heq⟩ := Option.map_eq_some_iff.1 hbare
  have hsame : win'.visible = win.visible := (congrArg GSWindow.visible heq :)
  exact ⟨w, win', hw', hsame.trans hvisible⟩

/- What a change of the setting makes of the timer while a window is shown. -/
theorem period_keyChanged (env : Env) (k : KeyChange) (hh : s.saver.Housed) (hprefs : s.prefs.InRanges)
    (on : s.saver.manager.active = true) (shown : s.saver.Shown)
    (hne : (s.prefs.keyChanged k).cycle ≠ s.saver.manager.cycleTimeout)
    (hperiod : CyclePeriod (s.keyChangedCb env k)) : env.time = s.saver.manager.activateTime := by
  let q : Screensaver := { s with prefs := s.prefs.keyChanged k }
  have hlock : Locking s.saver (q.locksHanded env) := (locking_locksHanded (s := q) env hh).1
  have hhouse : (q.locksHanded env).Housed := (locking_locksHanded (s := q) env hh).2
  have hlow : 60000 ≤ q.prefs.cycle := (hprefs.keyChanged k).cycle.low
  have hsteady := (tuned_updateFromPrefs (s := q) True env hh).steady
  have hcycle : (q.locksHanded env).manager.cycleTimeout = s.saver.manager.cycleTimeout :=
    (congrArg GSManager.cycleTimeout hlock.manager :)
  have hwhen : (q.locksHanded env).manager.activateTime = s.saver.manager.activateTime :=
    (congrArg GSManager.activateTime hlock.manager :)
  have hon : (q.locksHanded env).manager.active = true := hlock.active.trans on
  have hclock := updateFromPrefs_cycleClock env q
  have hrun := hclock.trans (CycleClock.set_on hon (Int.le_trans (by decide) hlow)
    (fun hsame => hne (hsame.symm.trans hcycle)) env.time)
  have htimeout : (q.updateFromPrefs env).saver.manager.cycleTimeout = q.prefs.cycle :=
    (congrArg CycleClock.cycleTimeout hrun :)
  have htimers : (q.updateFromPrefs env).saver.loop.cycleTimeout = _ := (congrArg CycleClock.timers hrun :)
  obtain ⟨-, x, hx, -, hinterval⟩ := hperiod (hsteady.active.trans hon) (shown_updateFromPrefs (s := q) env hh shown)
  have hlast := congrArg List.getLast? (hx.symm.trans htimers)
  rw [List.getLast?_append] at hlast
  cases hlast
  have hleft : ((q.locksHanded env).cycleClock.left env.time q.prefs.cycle : Int) = q.prefs.cycle :=
    hinterval.trans htimeout
  rw [← hwhen]
  exact (CycleClock.left_whole (by omega) env.time).1 hleft

theorem CyclePeriod.of (h : s.saver.Cycling times) : CyclePeriod s := by
  intro hon hshown
  obtain ⟨x, hx, hperiod, -⟩ := h.paced hon hshown
  have hown := h.own x (hx ▸ List.mem_singleton_self x)
  exact ⟨h.least, x, hx, hown.1, hperiod⟩

/- From a good state a step leaves the period right exactly when a change comes at once. -/
theorem period_step_iff (hs : s.Agreed ∧ s.saver.Housed) (hprefs : s.prefs.InRanges) (h : s.saver.Cycling times)
    (hstep : s.step (env, e) = some t) : CyclePeriod t ↔ ChangesAtOnce s (env, e) := by
  constructor
  · intro hperiod k he on shown hne
    have hdispatch := step_dispatch hstep
    have he' : e = .keyChanged k := he
    subst he'
    cases hdispatch
    have hhouse := tick_housed hs.2 env
    exact period_keyChanged (s := s.tick env) env k hhouse hprefs on shown hne hperiod
  · intro honce
    exact .of (cycling_step hs hprefs h hstep honce).2

/- The dispatch finds the one timer, which is due after a period. -/
theorem apart_step (h : s.saver.Cycling times) (hstep : s.step (env, e) = some t) :
    CyclesApart times s (env, e) := by
  intro id he on shown τ hτ
  have he' : e = .cycleTimeout id := he
  subst he'
  have hdispatch := step_dispatch hstep
  simp only [dispatch] at hdispatch
  obtain ⟨x, hfind, -⟩ := Option.map_eq_some_iff.1 hdispatch
  obtain ⟨y, hy, hperiod, hdue⟩ := h.paced on shown
  have hmem : x ∈ s.saver.loop.cycleTimeout := List.mem_of_find?_eq_some hfind
  rw [hy, List.mem_singleton] at hmem
  subst hmem
  have hfit := List.find?_some hfind
  simp only [decide_eq_true_eq] at hfit
  have htime : x.due ≤ s.saver.loop.now + env.elapsed := hfit.2
  have hlater := hdue τ hτ
  show (τ : Int) + s.saver.manager.cycleTimeout ≤ (s.saver.loop.now + env.elapsed : Nat)
  omega

/-! ### A run -/

theorem start_cycling (b : Boot) (env : Env) :
    (b.start env).prefs.InRanges ∧ (b.start env).saver.Cycling [] := by
  have hprefs : b.unsettled.prefs.InRanges := load_ranges b.settings
  have hsame : (b.start env).prefs = b.unsettled.prefs := updateFromPrefs_prefs env b.unsettled
  have hoff : (b.start env).saver.manager.active = false := (start_agreed b env).2.2
  have hlock : Locking b.unsettled.saver (lockSet b env) := (locking_lockSet b env).1
  have hclock : (b.start env).saver.cycleClock = (lockSet b env).cycleClock.set env.time b.unsettled.prefs.cycle :=
    updateFromPrefs_cycleClock env b.unsettled
  have hlow : 60000 ≤ b.unsettled.prefs.cycle := hprefs.cycle.low
  have hidle := hclock.trans (CycleClock.set_off hlock.active env.time _)
  have htimeout : (b.start env).saver.manager.cycleTimeout = b.unsettled.prefs.cycle :=
    (congrArg CycleClock.cycleTimeout hidle :)
  have htimers : (b.start env).saver.loop.cycleTimeout = (lockSet b env).loop.cycleTimeout :=
    (congrArg CycleClock.timers hidle :)
  have hnone : (b.start env).saver.loop.cycleTimeout = [] := htimers.trans hlock.cycleTimers
  have hdark := (@start_vigilant False 0 b env).2
  refine ⟨hsame ▸ hprefs, hdark.whole.1, htimeout ▸ hlow, fun τ hτ => absurd hτ List.not_mem_nil, fun x hx => ?_, hdark.dark,
    fun hon => ?_⟩
  · rw [hnone] at hx
    cases hx
  · rw [hoff] at hon
    cases hon

/-- The period is always the setting, and automatic cycles are never closer together,
exactly in the runs in which the setting never changes under a shown window but in the
second of the activation. -/
theorem cycle_period_iff (b : Boot) (env : Env) (es : List (Env × Event)) :
    (screensaver.Always CyclePeriod (b.start env) es ∧
      (screensaver.recorded cycled).Each (fun s l _ => CyclesApart s.2 s.1 l) (b.start env, []) es) ↔
    screensaver.Meets ChangesAtOnce (b.start env) es := by
  let Good (times : List Nat) (s : Screensaver) : Prop :=
    (s.Agreed ∧ s.saver.Housed) ∧ s.prefs.InRanges ∧ s.saver.Cycling times
  have hgood : ∀ times s l t, Good times s → s.step l = some t → ChangesAtOnce s l → Good (times ++ cycled s l) t :=
    fun times s l t hs hn hc => ⟨housed_invariant.step s l t hs.1 hn, cycling_step hs.1 hs.2.1 hs.2.2 hn hc⟩
  have hstart : Good [] (b.start env) := ⟨start_housed b env, start_cycling b env⟩
  have hfirst : screensaver.Always CyclePeriod (b.start env) es ↔
      screensaver.Meets ChangesAtOnce (b.start env) es := by
    refine always_iff_meets (I := Good []) (fun s hs => .of hs.2.2)
      (fun s l t hs hn => period_step_iff hs.1 hs.2.1 hs.2.2 hn) (fun s l t hs hn hc => ?_) hstart es
    obtain ⟨hhouse, hprefs, hcycling⟩ := hgood [] s l t hs hn hc
    exact ⟨hhouse, hprefs, hcycling.fewer fun τ hτ => absurd hτ List.not_mem_nil⟩
  constructor
  · intro h
    exact hfirst.1 h.1
  · intro h
    refine ⟨hfirst.2 h, ?_⟩
    refine each_of_meets (I := fun s => Good s.2 s.1) (C := fun s l => ChangesAtOnce s.1 l) (fun s l t hs hn hc => ?_)
      hstart ((recorded_meets cycled [] es).2 h)
    obtain ⟨hnext, hlog⟩ := recorded_next hn
    refine ⟨apart_step hs.2.2 hnext, ?_⟩
    rw [hlog]
    exact hgood s.2 s.1 l t.1 hs hnext hc

/- Ten minutes after the activation the period is set to five. -/
def tenMinutesLater : Env := { granted with time := 601, time_pos := Nat.succ_pos _, elapsed := 599000 }

def shortened : List (Env × Event) := [turnOn, (tenMinutesLater, .keyChanged (.cycleDelay 5))]

theorem cycle_period_busy : ¬ ∀ s, screensaver.Reachable s → CyclePeriod s := by
  intro h
  let s := (screensaver.run (desk.start granted) shortened).get (by decide)
  have hs : screensaver.Reachable s := desk_reachable shortened (by simp [s])
  have hwin : (s.saver.windows 0).map GSWindow.visible = some true := by decide
  obtain ⟨win, hw, hvisible⟩ := Option.map_eq_some_iff.1 hwin
  -- the timer runs with a period of nothing
  have htimers : s.saver.loop.cycleTimeout.map Timer.interval = [0] := by decide
  obtain ⟨hleast, x, hx, -, hperiod⟩ := h s hs (by decide) ⟨0, win, hw, hvisible⟩
  have hzero : x.interval = 0 := by simpa [hx] using htimers
  omega

end Screensaver
end MateScreensaver
