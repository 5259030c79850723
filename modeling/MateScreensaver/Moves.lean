import MateScreensaver.Activation
import Mathlib.Logic.Relation

/-!
What the code of a window and of the manager can do, in a few kinds of moves. A
function is a chain of them, and whatever every kind of move keeps is kept by the
functions.
-/

namespace MateScreensaver

/- A window without the processes, sockets, sources and answers of its dialog. -/
def GSWindow.face (win : GSWindow) : GSWindow :=
  { win with
    lockBox := false, lockSocket := none, keyboardSocket := none, popupDialogIdleId := 0,
    infoBarTimerId := 0, lockPid := 0, lockWatchId := 0, dialogResponse := .cancel,
    dialogQuitRequested := false, dialogShakeInProgress := false, keyboardPid := 0,
    keyboardWatchId := 0, okRead := none }

/- The face without the settings of the manager. -/
def GSWindow.bare (win : GSWindow) : GSWindow :=
  { win.face with
    userSwitchEnabled := false, logoutEnabled := false, keyboardEnabled := false, logoutTimeout := 0,
    logoutCommand := none, keyboardCommand := none, statusMessage := none }

/- The manager without the settings it hands to its windows and to its jobs. -/
def GSManager.bare (m : GSManager) : GSManager :=
  { m with
    cycleTimeout := 0, logoutTimeout := 0, logoutEnabled := false, keyboardEnabled := false,
    userSwitchEnabled := false, logoutCommand := none, keyboardCommand := none, statusMessage := none,
    cycleTimeoutId := 0, themes := [], saverMode := .blankOnly }

/- The manager without its lock. -/
def GSManager.lockless (m : GSManager) : GSManager :=
  { m with lockActive := false, lockEnabled := false, lockTimeout := 0, lockTimeoutId := 0 }

namespace Saver

variable {p : Prop} {env : SaverEnv} {s t u : Saver} {w : WindowId}

theorem modifyWindow_windows (s : Saver) (w v : WindowId) (f : GSWindow → GSWindow) :
    (s.modifyWindow w f).windows v = if v = w then (s.windows v).map f else s.windows v := by
  simp only [modifyWindow]
  split
  · next win hwin =>
    by_cases h : v = w
    · subst h
      simp [setWindow, hwin]
    · simp [setWindow, h]
  · next hwin =>
    by_cases h : v = w
    · subst h
      simp [hwin]
    · simp [h]

theorem modifyWindow_map (s : Saver) (w v : WindowId) (f : GSWindow → GSWindow) :
    (s.modifyWindow w f).windows v = (s.windows v).map fun win => if v = w then f win else win := by
  rw [modifyWindow_windows]
  split
  · rfl
  · rw [Option.map_id']

theorem modifyWindow_live (s : Saver) (w v : WindowId) (f : GSWindow → GSWindow) :
    (s.modifyWindow w f).Live v ↔ s.Live v := by
  simp only [Live, modifyWindow_windows]
  split <;> simp

theorem modifyWindow_used (f : GSWindow → GSWindow) (h : s.Live w) :
    (s.modifyWindow w f).usedDestroyed = s.usedDestroyed := by
  obtain ⟨win, hwin⟩ := Option.isSome_iff_exists.1 h
  simp [modifyWindow, hwin, setWindow]

theorem modifyWindow_rest (s : Saver) (w : WindowId) (f : GSWindow → GSWindow) :
    (s.modifyWindow w f).nextWindow = s.nextWindow ∧ (s.modifyWindow w f).display = s.display ∧
    (s.modifyWindow w f).activation = s.activation ∧ (s.modifyWindow w f).grab = s.grab := by
  simp only [modifyWindow]
  split <;> exact ⟨rfl, rfl, rfl, rfl⟩

/- A window that shows anything is live. -/
theorem live_of_window {b : GSWindow → Bool} (hb : b { monitor := 0, lockEnabled := false } = false)
    (h : b (s.window w) = true) : s.Live w := by
  cases hw : s.windows w with
  | none =>
    rw [window, hw] at h
    exact absurd (hb.symm.trans h) Bool.false_ne_true
  | some win => simp [Live, hw]

theorem window_of_some {win : GSWindow} (h : s.windows w = some win) : s.window w = win := by
  simp [window, h]

/-! ### Sources and the windows they are for -/

/- Each source is the one its window remembers. -/
def Tied (q : List WindowSource) (id : GSWindow → SourceId) (s : Saver) : Prop :=
  ∀ x ∈ q, x.id ≠ 0 ∧ ∃ win, s.windows x.window = some win ∧ id win = x.id

variable {q q' : List WindowSource} {id : GSWindow → SourceId}

theorem Tied.live (h : Tied q id s) {x : WindowSource} (hx : x ∈ q) : s.Live x.window := by
  obtain ⟨-, win, hwin, -⟩ := h x hx
  simp [Live, hwin]

theorem Tied.mono (h : Tied q id s) (hq : ∀ x ∈ q', x ∈ q) (hw : t.windows = s.windows) :
    Tied q' id t := by
  intro x hx
  obtain ⟨h0, win, hwin, hid⟩ := h x (hq x hx)
  exact ⟨h0, win, hw ▸ hwin, hid⟩

theorem Tied.modify (h : Tied q id s) {f : GSWindow → GSWindow} (hf : ∀ win, id (f win) = id win) :
    Tied q id (s.modifyWindow w f) := by
  intro x hx
  obtain ⟨h0, win, hwin, hid⟩ := h x hx
  rw [modifyWindow_windows]
  split
  · exact ⟨h0, f win, by simp [hwin], (hf win).trans hid⟩
  · exact ⟨h0, win, hwin, hid⟩

/- All sources of a window have the id it remembers, so they go together. -/
theorem Tied.removed (h : Tied q id s) {x : WindowSource}
    (hx : x ∈ MainLoop.removeId (id (s.window w)) q) : x ∈ q ∧ x.window ≠ w := by
  obtain ⟨hx, hid⟩ := List.mem_filter.1 hx
  refine ⟨hx, fun hw => ?_⟩
  obtain ⟨-, win, hwin, hwid⟩ := h x hx
  rw [hw] at hwin
  rw [window_of_some hwin, hwid] at hid
  simp at hid

theorem Tied.drop (h : Tied q id s) (f : GSWindow → GSWindow) :
    Tied (MainLoop.removeId (id (s.window w)) q) id (s.modifyWindow w f) := by
  intro x hx
  obtain ⟨hxq, hw⟩ := h.removed hx
  obtain ⟨h0, win, hwin, hid⟩ := h x hxq
  refine ⟨h0, win, ?_, hid⟩
  rw [modifyWindow_windows, if_neg hw, hwin]

theorem Tied.add (h : Tied q id s) (hfree : ∀ x ∈ q, x.window ≠ w) (hw : s.Live w) {n : SourceId}
    (hn : n ≠ 0) {f : GSWindow → GSWindow} (hf : ∀ win, id (f win) = n) :
    Tied (q ++ [⟨n, w⟩]) id (s.modifyWindow w f) := by
  intro x hx
  rcases List.mem_append.1 hx with hx | hx
  · obtain ⟨h0, win, hwin, hid⟩ := h x hx
    refine ⟨h0, win, ?_, hid⟩
    rw [modifyWindow_windows, if_neg (hfree x hx), hwin]
  · obtain ⟨win, hwin⟩ := Option.isSome_iff_exists.1 hw
    cases List.mem_singleton.1 hx
    refine ⟨hn, f win, ?_, hf win⟩
    rw [modifyWindow_windows, if_pos rfl, hwin]
    rfl

/-- No window that is gone was touched, and nothing that is still to run meets one. -/
structure Intact (s : Saver) : Prop where
  used : s.usedDestroyed = []
  emit : ∀ x ∈ s.loop.emitDeactivatedIdle, s.Live x.window
  shaking : ∀ x ∈ s.loop.shaking, s.Live x.window
  keyboard : Tied s.loop.keyboardCommandWatch GSWindow.keyboardWatchId s
  infoBar : Tied s.loop.infoBarTimeout GSWindow.infoBarTimerId s
  pos : 0 < s.loop.nextId

/- Fewer sources, or sources of windows that are live. -/
theorem Intact.modifyLoop (h : s.Intact) {f : MainLoop → MainLoop}
    (emit : ∀ x ∈ (f s.loop).emitDeactivatedIdle, x ∈ s.loop.emitDeactivatedIdle ∨ s.Live x.window)
    (shaking : ∀ x ∈ (f s.loop).shaking, x ∈ s.loop.shaking ∨ s.Live x.window)
    (keyboard : ∀ x ∈ (f s.loop).keyboardCommandWatch, x ∈ s.loop.keyboardCommandWatch)
    (infoBar : ∀ x ∈ (f s.loop).infoBarTimeout, x ∈ s.loop.infoBarTimeout)
    (next : s.loop.nextId ≤ (f s.loop).nextId) : (s.modifyLoop f).Intact where
  used := h.used
  emit x hx := (emit x hx).elim (h.emit x) id
  shaking x hx := (shaking x hx).elim (h.shaking x) id
  keyboard := h.keyboard.mono keyboard rfl
  infoBar := h.infoBar.mono infoBar rfl
  pos := Nat.lt_of_lt_of_le h.pos next

theorem Intact.modifyWindow (h : s.Intact) {f : GSWindow → GSWindow} (hw : s.Live w)
    (keyboard : ∀ win, (f win).keyboardWatchId = win.keyboardWatchId)
    (infoBar : ∀ win, (f win).infoBarTimerId = win.infoBarTimerId) : (s.modifyWindow w f).Intact where
  used := (modifyWindow_used f hw).trans h.used
  emit x hx := (modifyWindow_live s w _ f).2 (h.emit x (by simpa using hx))
  shaking x hx := (modifyWindow_live s w _ f).2 (h.shaking x (by simpa using hx))
  keyboard := by
    rw [modifyWindow_loop]
    exact h.keyboard.modify keyboard
  infoBar := by
    rw [modifyWindow_loop]
    exact h.infoBar.modify infoBar
  pos := by
    rw [modifyWindow_loop]
    exact h.pos

/-! ### The moves -/

/-- Only the dialogs' processes, the sources of the windows and the grab change. -/
structure Still (p : Prop) (s t : Saver) : Prop where
  manager : t.manager = s.manager
  face : ∀ w, (t.windows w).map GSWindow.face = (s.windows w).map GSWindow.face
  nextWindow : t.nextWindow = s.nextWindow
  display : t.display = s.display
  activation : t.activation = s.activation
  now : t.loop.now = s.loop.now
  lockTimers : t.loop.activateLockTimeout = s.loop.activateLockTimeout
  cycleTimers : t.loop.cycleTimeout = s.loop.cycleTimeout
  releaseTimers : t.loop.releaseGrabTimeout = s.loop.releaseGrabTimeout
  intact : p → s.Intact → t.Intact

/- Settings may change as well, and the timer that cycles. -/
structure Tuned (p : Prop) (s t : Saver) : Prop where
  manager : t.manager.bare = s.manager.bare
  bare : ∀ w, (t.windows w).map GSWindow.bare = (s.windows w).map GSWindow.bare
  nextWindow : t.nextWindow = s.nextWindow
  display : t.display = s.display
  activation : t.activation = s.activation
  now : t.loop.now = s.loop.now
  lockTimers : t.loop.activateLockTimeout = s.loop.activateLockTimeout
  intact : p → s.Intact → t.Intact

/- What the manager makes of one job when it goes over them. -/
inductive Drives (env : SaverEnv) (s : Saver) (w : WindowId) (j : GSJob) : GSJob → Prop
  | kept : Drives env s w j j
  | stopped : Drives env s w j j.stop
  | died : Drives env s w j j.died
  | started : Drives env s w j (s.maybeStarted env w j)
  | cycled : Drives env s w j (s.maybeStarted env w (managerSelectThemeForJob env s.manager j.stop))

inductive Calm (p : Prop) (env : SaverEnv) : Saver → Saver → Prop
  | still {s t : Saver} (h : Still p s t) : Calm p env s t
  | raise {s : Saver} (w : WindowId) (on : s.manager.active = true) (down : s.manager.dialogUp = false)
      (off : (s.window w).dialogUp = false) (live : s.Live w) : Calm p env s (s.windowSetDialogUp env w true)
  | lower {s : Saver} (w : WindowId) (up : (s.window w).dialogUp = true) :
      Calm p env s (s.windowSetDialogUp env w false)
  | jobs {s : Saver} (f : WindowId → GSJob → GSJob) (h : ∀ w j, Drives env s w j (f w j)) :
      Calm p env s (s.mapJobs f)
  | obscure {s : Saver} (w : WindowId) (b : Bool) (live : s.Live w) :
      Calm p env s (s.modifyWindow w fun win => { win with obscured := b })
  | appear {s : Saver} (w : WindowId) (on : s.manager.active = true) (live : s.Live w)
      (hidden : (s.window w).visible = false) : Calm p env s (s.gtkWidgetShow env w)

abbrev Calms (p : Prop) (env : SaverEnv) : Saver → Saver → Prop := Relation.ReflTransGen (Calm p env)

theorem Calms.refl : Calms p env s s := Relation.ReflTransGen.refl

theorem Calms.trans (h : Calms p env s t) (h' : Calms p env t u) : Calms p env s u :=
  Relation.ReflTransGen.trans h h'

theorem Calm.calms (h : Calm p env s t) : Calms p env s t := Relation.ReflTransGen.single h

theorem Still.refl : Still p s s := ⟨rfl, fun _ => rfl, rfl, rfl, rfl, rfl, rfl, rfl, rfl, fun _ => id⟩

theorem Still.trans (h : Still p s t) (h' : Still p t u) : Still p s u where
  manager := h'.manager.trans h.manager
  face w := (h'.face w).trans (h.face w)
  nextWindow := h'.nextWindow.trans h.nextWindow
  display := h'.display.trans h.display
  activation := h'.activation.trans h.activation
  now := h'.now.trans h.now
  lockTimers := h'.lockTimers.trans h.lockTimers
  cycleTimers := h'.cycleTimers.trans h.cycleTimers
  releaseTimers := h'.releaseTimers.trans h.releaseTimers
  intact hp hs := h'.intact hp (h.intact hp hs)

theorem Still.live (h : Still p s t) (w : WindowId) : t.Live w ↔ s.Live w := by
  have hf := congrArg Option.isSome (h.face w)
  simp only [Option.isSome_map] at hf
  rw [Live, Live, hf]

theorem Still.tuned (h : Still p s t) : Tuned p s t where
  manager := congrArg GSManager.bare h.manager
  bare w := by
    have hf := congrArg (Option.map GSWindow.bare) (h.face w)
    simp only [Option.map_map] at hf
    exact hf
  nextWindow := h.nextWindow
  display := h.display
  activation := h.activation
  now := h.now
  lockTimers := h.lockTimers
  intact := h.intact

theorem Still.calms (h : Still p s t) : Calms p env s t := (Calm.still h).calms

theorem Tuned.refl : Tuned p s s := Still.refl.tuned

theorem Tuned.trans (h : Tuned p s t) (h' : Tuned p t u) : Tuned p s u where
  manager := h'.manager.trans h.manager
  bare w := (h'.bare w).trans (h.bare w)
  nextWindow := h'.nextWindow.trans h.nextWindow
  display := h'.display.trans h.display
  activation := h'.activation.trans h.activation
  now := h'.now.trans h.now
  lockTimers := h'.lockTimers.trans h.lockTimers
  intact hp hs := h'.intact hp (h.intact hp hs)

/- A record of a live window, of which neither its face nor its two sources change. -/
theorem still_modifyWindow {f : GSWindow → GSWindow} (hw : p → s.Live w)
    (face : ∀ win, (f win).face = win.face)
    (keyboard : ∀ win, (f win).keyboardWatchId = win.keyboardWatchId)
    (infoBar : ∀ win, (f win).infoBarTimerId = win.infoBarTimerId) : Still p s (s.modifyWindow w f) := by
  obtain ⟨hnext, hdisplay, hact, -⟩ := modifyWindow_rest s w f
  refine ⟨modifyWindow_manager s w f, fun v => ?_, hnext, hdisplay, hact, ?_, ?_, ?_, ?_, fun hp hs => ?_⟩
  · rw [modifyWindow_windows]
    split
    · rw [Option.map_map]
      exact congrArg (Option.map · (s.windows v)) (funext face)
    · rfl
  · rw [modifyWindow_loop]
  · rw [modifyWindow_loop]
  · rw [modifyWindow_loop]
  · rw [modifyWindow_loop]
  · exact hs.modifyWindow (hw hp) keyboard infoBar

theorem still_modifyGrab (f : GSGrab → GSGrab) : Still p s (s.modifyGrab f) :=
  ⟨rfl, fun _ => rfl, rfl, rfl, rfl, rfl, rfl, rfl, rfl, fun _ h => { h with }⟩

/- The loop, apart from the two timers of the manager and the one of the monitor. -/
theorem still_modifyLoop {f : MainLoop → MainLoop} (now : (f s.loop).now = s.loop.now)
    (lockTimers : (f s.loop).activateLockTimeout = s.loop.activateLockTimeout)
    (cycleTimers : (f s.loop).cycleTimeout = s.loop.cycleTimeout)
    (releaseTimers : (f s.loop).releaseGrabTimeout = s.loop.releaseGrabTimeout)
    (intact : p → s.Intact → (s.modifyLoop f).Intact) : Still p s (s.modifyLoop f) :=
  ⟨rfl, fun _ => rfl, rfl, rfl, rfl, now, lockTimers, cycleTimers, releaseTimers, intact⟩

/- Sources of other kinds. -/
theorem still_otherSources {f : MainLoop → MainLoop} (now : (f s.loop).now = s.loop.now)
    (lockTimers : (f s.loop).activateLockTimeout = s.loop.activateLockTimeout)
    (cycleTimers : (f s.loop).cycleTimeout = s.loop.cycleTimeout)
    (releaseTimers : (f s.loop).releaseGrabTimeout = s.loop.releaseGrabTimeout)
    (emit : (f s.loop).emitDeactivatedIdle = s.loop.emitDeactivatedIdle)
    (shaking : (f s.loop).shaking = s.loop.shaking)
    (keyboard : (f s.loop).keyboardCommandWatch = s.loop.keyboardCommandWatch)
    (infoBar : (f s.loop).infoBarTimeout = s.loop.infoBarTimeout)
    (next : s.loop.nextId ≤ (f s.loop).nextId) : Still p s (s.modifyLoop f) :=
  still_modifyLoop now lockTimers cycleTimers releaseTimers fun _ h => h.modifyLoop
    (fun _ hx => .inl (emit ▸ hx)) (fun _ hx => .inl (shaking ▸ hx)) (fun _ hx => keyboard ▸ hx)
    (fun _ hx => infoBar ▸ hx) next

/-! ### The dialog of a window goes up or down -/

/- Only the records of windows change. -/
structure Records (s t : Saver) : Prop where
  manager : t.manager = s.manager
  loop : t.loop = s.loop
  grab : t.grab = s.grab
  nextWindow : t.nextWindow = s.nextWindow
  display : t.display = s.display
  activation : t.activation = s.activation

theorem Records.refl : Records s s := ⟨rfl, rfl, rfl, rfl, rfl, rfl⟩

theorem Records.trans (h : Records s t) (h' : Records t u) : Records s u :=
  ⟨h'.manager.trans h.manager, h'.loop.trans h.loop, h'.grab.trans h.grab,
    h'.nextWindow.trans h.nextWindow, h'.display.trans h.display, h'.activation.trans h.activation⟩

theorem records_modifyWindow (s : Saver) (w : WindowId) (f : GSWindow → GSWindow) :
    Records s (s.modifyWindow w f) := by
  obtain ⟨hnext, hdisplay, hact, hgrab⟩ := modifyWindow_rest s w f
  exact ⟨modifyWindow_manager s w f, modifyWindow_loop s w f, hgrab, hnext, hdisplay, hact⟩

def sensed (b : Bool) (win : GSWindow) : GSWindow := { win with sensitive := b }

/- A loop that makes the same change to each window of a list. -/
theorem modifyWindow_foldl (g : GSWindow → GSWindow) (hg : ∀ win, g (g win) = g win) (l : List WindowId)
    (s : Saver) :
    Records s (l.foldl (fun s v => s.modifyWindow v g) s) ∧
    (∀ v, (l.foldl (fun s v => s.modifyWindow v g) s).windows v =
      if v ∈ l then (s.windows v).map g else s.windows v) ∧
    ((∀ v ∈ l, s.Live v) → (l.foldl (fun s v => s.modifyWindow v g) s).usedDestroyed = s.usedDestroyed) := by
  induction l generalizing s with
  | nil => exact ⟨.refl, fun v => by simp, fun _ => rfl⟩
  | cons x l ih =>
    obtain ⟨hrec, hwin, hused⟩ := ih (s.modifyWindow x g)
    refine ⟨(records_modifyWindow s x g).trans hrec, fun v => ?_, fun hl => ?_⟩
    · rw [List.foldl_cons, hwin, modifyWindow_windows]
      by_cases hv : v = x
      · subst hv
        simp only [if_true, List.mem_cons_self, Option.map_map]
        by_cases hm : v ∈ l
        · rw [if_pos hm]
          exact congrArg (Option.map · (s.windows v)) (funext hg)
        · rw [if_neg hm]
      · simp [hv]
    · rw [List.foldl_cons, hused, modifyWindow_used g (hl x List.mem_cons_self)]
      intro v hv
      exact (modifyWindow_live s x v g).2 (hl v (List.mem_cons_of_mem x hv))

/- The loops that make windows sensitive or not. -/
theorem setSensitive_foldl (c : WindowId → Prop) [DecidablePred c] (b : Bool) (l : List WindowId) (s : Saver) :
    Records s (l.foldl (fun s v => if c v then s.setSensitive v b else s) s) ∧
    (∀ v, (l.foldl (fun s v => if c v then s.setSensitive v b else s) s).windows v =
      if v ∈ l ∧ c v then (s.windows v).map (sensed b) else s.windows v) ∧
    ((∀ v ∈ l, s.Live v) →
      (l.foldl (fun s v => if c v then s.setSensitive v b else s) s).usedDestroyed = s.usedDestroyed) := by
  have heq : l.foldl (fun s v => if c v then s.setSensitive v b else s) s =
      (l.filter fun v => c v).foldl (fun s v => s.modifyWindow v (sensed b)) s := by
    rw [List.foldl_filter]
    simp only [decide_eq_true_eq]
    rfl
  obtain ⟨hrec, hwin, hused⟩ := modifyWindow_foldl (sensed b) (fun _ => rfl) (l.filter fun v => c v) s
  rw [heq]
  refine ⟨hrec, fun v => ?_, fun hl => hused fun v hv => hl v (List.mem_filter.1 hv).1⟩
  rw [hwin]
  simp only [List.mem_filter, decide_eq_true_eq]

/-- What a dialog that goes up does to the saver. -/
structure Raised (w : WindowId) (s t : Saver) : Prop where
  manager : t.manager = { s.manager with
    dialogUp := true
    jobs := if s.manager.throttled then s.manager.jobs
      else s.manager.jobs.map fun l => l.map fun x => (x.1, x.2.suspend true) }
  windows : ∀ v, t.windows v = (s.windows v).map fun win =>
    if v = w then { win with dialogUp := true }
    else if v ∈ s.manager.windows then sensed false win else win
  loop : t.loop = s.loop
  nextWindow : t.nextWindow = s.nextWindow
  display : t.display = s.display
  activation : t.activation = s.activation
  used : (∀ v ∈ s.manager.windows, s.Live v) → t.usedDestroyed = s.usedDestroyed

/-- What a dialog that goes down does; `start` is what becomes of a job that has no process. -/
structure Lowered (env : SaverEnv) (w : WindowId) (s t : Saver) : Prop where
  manager : ∃ start : WindowId → GSJob → GSJob,
    (∀ v j, start v j = j ∨ start v j = j.start (env.spawnJob v)) ∧
    t.manager = { s.manager with
      dialogUp := false
      jobs := if s.manager.throttled then s.manager.jobs
        else s.manager.jobs.map fun l => l.map fun x =>
          (x.1, if x.2.isRunning then x.2.suspend false else start x.1 x.2) }
  windows : ∀ v, t.windows v = (s.windows v).map fun win =>
    let win := if v = w then { win with dialogUp := false } else win
    if v ∈ s.manager.windows then sensed true win else win
  loop : t.loop = s.loop
  nextWindow : t.nextWindow = s.nextWindow
  display : t.display = s.display
  activation : t.activation = s.activation
  used : (∀ v ∈ s.manager.windows, s.Live v) → t.usedDestroyed = s.usedDestroyed

/- A dialog touches nothing of a window but these two fields. -/
theorem Raised.window (h : Raised w s t) {v : WindowId} {win' : GSWindow} (hv : t.windows v = some win') :
    ∃ win up sensitive, s.windows v = some win ∧ win' = { win with dialogUp := up, sensitive := sensitive } := by
  rw [h.windows] at hv
  obtain ⟨win, hs, rfl⟩ := Option.map_eq_some_iff.1 hv
  split
  · exact ⟨win, _, _, hs, rfl⟩
  · split
    · exact ⟨win, _, _, hs, rfl⟩
    · exact ⟨win, _, _, hs, rfl⟩

theorem Lowered.window (h : Lowered env w s t) {v : WindowId} {win' : GSWindow} (hv : t.windows v = some win') :
    ∃ win up sensitive, s.windows v = some win ∧ win' = { win with dialogUp := up, sensitive := sensitive } := by
  rw [h.windows] at hv
  obtain ⟨win, hs, rfl⟩ := Option.map_eq_some_iff.1 hv
  refine ⟨win, ?_⟩
  dsimp only
  split
  · split
    · exact ⟨_, _, hs, rfl⟩
    · exact ⟨_, _, hs, rfl⟩
  · split
    · exact ⟨_, _, hs, rfl⟩
    · exact ⟨_, _, hs, rfl⟩

theorem obscured_window {b : Bool} {v : WindowId} {win' : GSWindow}
    (hv : (s.modifyWindow w fun win => { win with obscured := b }).windows v = some win') :
    ∃ win obscured, s.windows v = some win ∧ win' = { win with obscured := obscured } := by
  rw [modifyWindow_map] at hv
  obtain ⟨win, hs, rfl⟩ := Option.map_eq_some_iff.1 hv
  split
  · exact ⟨win, _, hs, rfl⟩
  · exact ⟨win, _, hs, rfl⟩

theorem raised_windowSetDialogUp (env : SaverEnv) (off : (s.window w).dialogUp = false) (live : s.Live w) :
    Raised w s (s.windowSetDialogUp env w true) := by
  obtain ⟨win, hwin⟩ := Option.isSome_iff_exists.1 live
  let s1 := s.modifyWindow w fun win => { win with dialogUp := true }
  let s2 := s1.modifyManager fun m => { m with dialogUp := true }
  let s3 := s2.forWindows fun v s => if v ≠ w then s.setSensitive v false else s
  have hup : (s1.window w).dialogUp = true := by
    simp [s1, window, modifyWindow_windows, hwin]
  have heq : s.windowSetDialogUp env w true =
      let s4 := s3.modifyGrab (.moveToWindow (.window w) true false)
      if !s4.manager.throttled then s4.managerSuspendJobs else s4 := by
    rw [windowSetDialogUp, if_neg (by simp [off]), windowDialogUpChangedCb, if_pos hup]
    rfl
  have hrec1 : Records s s1 := records_modifyWindow s w _
  obtain ⟨hrec, hwindows, hused⟩ := setSensitive_foldl (fun v => v ≠ w) false s2.manager.windows s2
  have hm2 : s2.manager = { s.manager with dialogUp := true } := by
    show { s1.manager with dialogUp := true } = _
    rw [hrec1.manager]
  have hm3 : s3.manager = { s.manager with dialogUp := true } := hrec.manager.trans hm2
  have hthr : s3.manager.throttled = s.manager.throttled := by rw [hm3]
  have hlist : s2.manager.windows = s.manager.windows := by rw [hm2]
  have hw3 : ∀ v, s3.windows v = (s.windows v).map fun win =>
      if v = w then { win with dialogUp := true }
      else if v ∈ s.manager.windows then sensed false win else win := by
    intro v
    have h2 : s2.windows v = if v = w then (s.windows v).map fun win => { win with dialogUp := true }
        else s.windows v := modifyWindow_windows s w v _
    have h3 : s3.windows v = if v ∈ s.manager.windows ∧ v ≠ w then (s2.windows v).map (sensed false)
        else s2.windows v := by
      rw [← hlist]
      exact hwindows v
    rw [h3, h2]
    by_cases hv : v = w
    · simp [hv]
    · by_cases hm : v ∈ s.manager.windows <;> simp [hv, hm]
  rw [heq]
  refine ⟨?_, fun v => ?_, ?_, ?_, ?_, ?_, fun hl => ?_⟩
  all_goals simp only [managerSuspendJobs, mapJobs, modifyGrab, hthr]
  · cases hb : s.manager.throttled <;> simp [hb, hm3]
  · split <;> exact hw3 v
  · split <;> exact hrec.loop.trans hrec1.loop
  · split <;> exact hrec.nextWindow.trans hrec1.nextWindow
  · split <;> exact hrec.display.trans hrec1.display
  · split <;> exact hrec.activation.trans hrec1.activation
  · have hl2 : ∀ v ∈ s2.manager.windows, s2.Live v := fun v hv =>
      (modifyWindow_live s w v _).2 (hl v (hlist ▸ hv))
    have hu : s3.usedDestroyed = s.usedDestroyed :=
      (hused hl2).trans (modifyWindow_used _ live)
    split <;> exact hu

theorem lowered_windowSetDialogUp (env : SaverEnv) (up : (s.window w).dialogUp = true) :
    Lowered env w s (s.windowSetDialogUp env w false) := by
  have live : s.Live w := live_of_window (b := GSWindow.dialogUp) rfl up
  obtain ⟨win, hwin⟩ := Option.isSome_iff_exists.1 live
  let s1 := s.modifyWindow w fun win => { win with dialogUp := false }
  let s2 := s1.modifyGrab (.moveToWindow (.window w) false false)
  let s3 := s2.forWindows fun v s => s.setSensitive v true
  let s4 := s3.modifyManager fun m => { m with dialogUp := false }
  have hdown : ¬ (s1.window w).dialogUp = true := by
    simp [s1, window, modifyWindow_windows, hwin]
  have heq : s.windowSetDialogUp env w false =
      if !s4.manager.throttled then s4.managerResumeJobs env else s4 := by
    rw [windowSetDialogUp, if_neg (by simp [up]), windowDialogUpChangedCb, if_neg hdown]
    rfl
  have hrec1 : Records s s1 := records_modifyWindow s w _
  obtain ⟨hrec, hwindows, hused⟩ := setSensitive_foldl (fun _ => True) true s2.manager.windows s2
  have hsame : s2.manager.windows.foldl (fun s v => if True then s.setSensitive v true else s) s2 = s3 := by
    simp only [if_true]
    rfl
  rw [hsame] at hrec hwindows hused
  have hm2 : s2.manager = s.manager := hrec1.manager
  have hm4 : s4.manager = { s.manager with dialogUp := false } := by
    show { s3.manager with dialogUp := false } = _
    rw [hrec.manager, hm2]
  have hthr : s4.manager.throttled = s.manager.throttled := by rw [hm4]
  have hlist : s2.manager.windows = s.manager.windows := by rw [hm2]
  have hw4 : ∀ v, s4.windows v = (s.windows v).map fun win =>
      let win := if v = w then { win with dialogUp := false } else win
      if v ∈ s.manager.windows then sensed true win else win := by
    intro v
    have h2 : s2.windows v = if v = w then (s.windows v).map fun win => { win with dialogUp := false }
        else s.windows v := modifyWindow_windows s w v _
    have h3 : s4.windows v = if v ∈ s.manager.windows then (s2.windows v).map (sensed true)
        else s2.windows v := by
      have h := hwindows v
      simp only [and_true, hlist] at h
      exact h
    rw [h3, h2]
    by_cases hv : v = w
    · subst hv
      by_cases hm : v ∈ s.manager.windows
      · simp only [hm, if_true, Option.map_map]
        rfl
      · simp [hm]
    · by_cases hm : v ∈ s.manager.windows <;> simp [hv, hm]
  rw [heq]
  refine ⟨⟨s4.maybeStarted env, fun v j => ?_, ?_⟩, fun v => ?_, ?_, ?_, ?_, ?_, fun hl => ?_⟩
  · simp only [maybeStarted]
    split
    · exact .inr rfl
    · exact .inl rfl
  all_goals simp only [managerResumeJobs, mapJobs, hthr]
  · cases hb : s.manager.throttled <;> simp [hb, hm4]
  · split <;> exact hw4 v
  · split <;> exact hrec.loop.trans hrec1.loop
  · split <;> exact hrec.nextWindow.trans hrec1.nextWindow
  · split <;> exact hrec.display.trans hrec1.display
  · split <;> exact hrec.activation.trans hrec1.activation
  · have hl2 : ∀ v ∈ s2.manager.windows, s2.Live v := fun v hv =>
      (modifyWindow_live s w v _).2 (hl v (hlist ▸ hv))
    have hu : s4.usedDestroyed = s.usedDestroyed :=
      (hused hl2).trans (modifyWindow_used _ live)
    split <;> exact hu

/-! ### A window appears -/

/- The timers that are left once the recorded one is gone. -/
def keptTimers (id : SourceId) (l : List Timer) : List Timer :=
  if id = 0 then l else MainLoop.removeTimer id l

theorem removeLockTimer_eq (s : Saver) : s.removeLockTimer = { s with
    manager := { s.manager with lockTimeoutId := 0 }
    loop := { s.loop with
      activateLockTimeout := keptTimers s.manager.lockTimeoutId s.loop.activateLockTimeout } } := by
  by_cases h : s.manager.lockTimeoutId = 0
  · simp [removeLockTimer, keptTimers, h]
    rw [← h]
  · simp [removeLockTimer, keptTimers, h, modifyLoop, modifyManager]

theorem removeCycleTimer_eq (s : Saver) : s.removeCycleTimer = { s with
    manager := { s.manager with cycleTimeoutId := 0 }
    loop := { s.loop with cycleTimeout := keptTimers s.manager.cycleTimeoutId s.loop.cycleTimeout } } := by
  by_cases h : s.manager.cycleTimeoutId = 0
  · simp [removeCycleTimer, keptTimers, h]
    rw [← h]
  · simp [removeCycleTimer, keptTimers, h, modifyLoop, modifyManager]

/-- What showing a window does, with the lock timer armed again. -/
structure Appeared (env : SaverEnv) (w : WindowId) (s t : Saver) : Prop where
  manager : t.manager.bare = { s.manager.bare with
    jobs := s.manager.jobs.map fun l =>
      (w, managerSelectThemeForJob env s.manager {}) :: l.filter fun x => x.1 ≠ w
    activateTime := env.time
    lockTimeoutId := if 0 ≤ s.manager.lockTimeout then s.loop.nextId else s.manager.lockTimeoutId }
  windows : ∀ v, t.windows v = (s.windows v).map fun win =>
    if v = w then { win with visible := true } else win
  nextWindow : t.nextWindow = s.nextWindow
  display : t.display = s.display
  activation : t.activation = s.activation
  now : t.loop.now = s.loop.now
  lockTimers : t.loop.activateLockTimeout = if 0 ≤ s.manager.lockTimeout then
      keptTimers s.manager.lockTimeoutId s.loop.activateLockTimeout ++
        [s.loop.timer s.manager.lockTimeout.toNat]
    else s.loop.activateLockTimeout
  releaseTimers : t.loop.releaseGrabTimeout = s.loop.releaseGrabTimeout
  intact : s.Intact → t.Intact

theorem Appeared.window (h : Appeared env w s t) {v : WindowId} {win' : GSWindow}
    (hv : t.windows v = some win') :
    ∃ win, s.windows v = some win ∧ win' = { win with visible := if v = w then true else win.visible } := by
  rw [h.windows] at hv
  obtain ⟨win, hs, rfl⟩ := Option.map_eq_some_iff.1 hv
  refine ⟨win, hs, ?_⟩
  split
  · rfl
  · rfl

theorem appeared_managerShowWindow (env : SaverEnv) (w : WindowId) (s : Saver) :
    let t := s.managerShowWindow env w
    (t.manager.bare = { s.manager.bare with
      jobs := s.manager.jobs.map fun l =>
        (w, managerSelectThemeForJob env s.manager {}) :: l.filter fun x => x.1 ≠ w
      activateTime := env.time
      lockTimeoutId := if 0 ≤ s.manager.lockTimeout then s.loop.nextId else s.manager.lockTimeoutId }) ∧
    (t.loop.activateLockTimeout = if 0 ≤ s.manager.lockTimeout then
        keptTimers s.manager.lockTimeoutId s.loop.activateLockTimeout ++
          [s.loop.timer s.manager.lockTimeout.toNat]
      else s.loop.activateLockTimeout) ∧
    (t.windows = s.windows ∧ t.nextWindow = s.nextWindow ∧ t.display = s.display ∧
      t.activation = s.activation ∧ t.usedDestroyed = s.usedDestroyed) ∧
    (t.loop.now = s.loop.now ∧ t.loop.releaseGrabTimeout = s.loop.releaseGrabTimeout) ∧
    s.loop.nextId ≤ t.loop.nextId ∧
    (t.loop.emitDeactivatedIdle = s.loop.emitDeactivatedIdle ∧ t.loop.shaking = s.loop.shaking ∧
      t.loop.keyboardCommandWatch = s.loop.keyboardCommandWatch ∧
      t.loop.infoBarTimeout = s.loop.infoBarTimeout) := by
  simp only [managerShowWindow, managerAddJobForWindow, modifyManager, removeLockTimer_eq,
    removeCycleTimer_eq, addLockTimer, addCycleTimer, modifyLoop, MainLoop.timer, GSManager.bare]
  split <;> split <;> refine ⟨rfl, rfl, ⟨rfl, rfl, rfl, rfl, rfl⟩, ⟨rfl, rfl⟩, ?_, rfl, rfl, rfl, rfl⟩
  all_goals first | exact Nat.le_refl _ | exact Nat.le_succ _ | exact Nat.le_add_right _ 2

theorem appeared_gtkWidgetShow (env : SaverEnv) (live : s.Live w) (hidden : (s.window w).visible = false) :
    Appeared env w s (s.gtkWidgetShow env w) := by
  let s1 := s.modifyWindow w fun win => { win with visible := true }
  have hrec : Records s s1 := records_modifyWindow s w _
  obtain ⟨hmanager, htimers, ⟨hwin, hnext, hdisplay, hact, hused⟩, ⟨hnow, hrelease⟩, hid, hemit, hshake, hkey, hbar⟩ :=
    appeared_managerShowWindow env w s1
  have heq : s.gtkWidgetShow env w = s1.managerShowWindow env w := by
    rw [gtkWidgetShow, if_neg (by simp [hidden])]
  rw [hrec.manager, hrec.loop] at hmanager htimers
  rw [heq]
  refine ⟨hmanager, fun v => ?_, hnext.trans hrec.nextWindow, hdisplay.trans hrec.display,
    hact.trans hrec.activation, hnow.trans (congrArg MainLoop.now hrec.loop), htimers,
    hrelease.trans (congrArg MainLoop.releaseGrabTimeout hrec.loop), fun h => ?_⟩
  · rw [hwin, modifyWindow_map]
  · have h1 : s1.Intact := h.modifyWindow live (fun _ => rfl) (fun _ => rfl)
    have hlive : ∀ v, (s1.managerShowWindow env w).Live v ↔ s1.Live v := fun v => by
      rw [Live, Live, hwin]
    refine ⟨hused.trans h1.used, fun x hx => (hlive _).2 (h1.emit x (hemit ▸ hx)),
      fun x hx => (hlive _).2 (h1.shaking x (hshake ▸ hx)), ?_, ?_, Nat.lt_of_lt_of_le h1.pos hid⟩
    · exact h1.keyboard.mono (fun x hx => hkey ▸ hx) hwin
    · exact h1.infoBar.mono (fun x hx => hbar ▸ hx) hwin

/-! ### What the moves keep -/

/-- The windows there are, their monitors and locks, and the settings of the lock. -/
structure Steady (s t : Saver) : Prop where
  windows : t.manager.windows = s.manager.windows
  active : t.manager.active = s.manager.active
  lockActive : t.manager.lockActive = s.manager.lockActive
  lockEnabled : t.manager.lockEnabled = s.manager.lockEnabled
  lockTimeout : t.manager.lockTimeout = s.manager.lockTimeout
  throttled : t.manager.throttled = s.manager.throttled
  records : ∀ w, (t.windows w).map (fun win => (win.monitor, win.lockEnabled)) =
    (s.windows w).map fun win => (win.monitor, win.lockEnabled)
  nextWindow : t.nextWindow = s.nextWindow
  display : t.display = s.display
  now : t.loop.now = s.loop.now

theorem Steady.refl : Steady s s := ⟨rfl, rfl, rfl, rfl, rfl, rfl, fun _ => rfl, rfl, rfl, rfl⟩

theorem Steady.trans (h : Steady s t) (h' : Steady t u) : Steady s u where
  windows := h'.windows.trans h.windows
  active := h'.active.trans h.active
  lockActive := h'.lockActive.trans h.lockActive
  lockEnabled := h'.lockEnabled.trans h.lockEnabled
  lockTimeout := h'.lockTimeout.trans h.lockTimeout
  throttled := h'.throttled.trans h.throttled
  records w := (h'.records w).trans (h.records w)
  nextWindow := h'.nextWindow.trans h.nextWindow
  display := h'.display.trans h.display
  now := h'.now.trans h.now

theorem Steady.live (h : Steady s t) (w : WindowId) : t.Live w ↔ s.Live w := by
  have hf := congrArg Option.isSome (h.records w)
  simp only [Option.isSome_map] at hf
  rw [Live, Live, hf]

/- Steady moves of which only the manager's other fields and the windows are to be looked at. -/
theorem steady_of {g : WindowId → GSWindow → GSWindow} (hm : t.manager.bare.windows = s.manager.bare.windows ∧
      t.manager.bare.active = s.manager.bare.active ∧ t.manager.bare.lockActive = s.manager.bare.lockActive ∧
      t.manager.bare.lockEnabled = s.manager.bare.lockEnabled ∧
      t.manager.bare.lockTimeout = s.manager.bare.lockTimeout ∧
      t.manager.bare.throttled = s.manager.bare.throttled)
    (hw : ∀ w, t.windows w = (s.windows w).map (g w))
    (hg : ∀ w win, (g w win).monitor = win.monitor ∧ (g w win).lockEnabled = win.lockEnabled)
    (nextWindow : t.nextWindow = s.nextWindow) (display : t.display = s.display)
    (now : t.loop.now = s.loop.now) : Steady s t where
  windows := hm.1
  active := hm.2.1
  lockActive := hm.2.2.1
  lockEnabled := hm.2.2.2.1
  lockTimeout := hm.2.2.2.2.1
  throttled := hm.2.2.2.2.2
  records w := by
    rw [hw, Option.map_map]
    refine congrArg (Option.map · (s.windows w)) (funext fun win => ?_)
    exact Prod.ext (hg w win).1 (hg w win).2
  nextWindow := nextWindow
  display := display
  now := now

theorem Tuned.steady (h : Tuned p s t) : Steady s t where
  windows := (congrArg GSManager.windows h.manager :)
  active := (congrArg GSManager.active h.manager :)
  lockActive := (congrArg GSManager.lockActive h.manager :)
  lockEnabled := (congrArg GSManager.lockEnabled h.manager :)
  lockTimeout := (congrArg GSManager.lockTimeout h.manager :)
  throttled := (congrArg GSManager.throttled h.manager :)
  records w := by
    have hw := congrArg (Option.map fun win : GSWindow => (win.monitor, win.lockEnabled)) (h.bare w)
    simp only [Option.map_map] at hw
    exact hw
  nextWindow := h.nextWindow
  display := h.display
  now := h.now

theorem Tuned.window (h : Tuned p s t) {v : WindowId} {win' : GSWindow} (hv : t.windows v = some win') :
    ∃ win, s.windows v = some win ∧ win'.bare = win.bare := by
  have hbare := h.bare v
  rw [hv] at hbare
  obtain ⟨win, hs, heq⟩ := Option.map_eq_some_iff.1 hbare.symm
  exact ⟨win, hs, heq.symm⟩

theorem Raised.steady (h : Raised w s t) : Steady s t := by
  refine steady_of ?_ h.windows (fun v win => ?_) h.nextWindow h.display (congrArg MainLoop.now h.loop)
  · rw [h.manager]
    exact ⟨rfl, rfl, rfl, rfl, rfl, rfl⟩
  · split
    · exact ⟨rfl, rfl⟩
    · split <;> exact ⟨rfl, rfl⟩

theorem Lowered.steady (h : Lowered env w s t) : Steady s t := by
  obtain ⟨start, -, hm⟩ := h.manager
  refine steady_of ?_ h.windows (fun v win => ?_) h.nextWindow h.display (congrArg MainLoop.now h.loop)
  · rw [hm]
    exact ⟨rfl, rfl, rfl, rfl, rfl, rfl⟩
  · dsimp only
    split <;> split <;> exact ⟨rfl, rfl⟩

theorem Appeared.steady (h : Appeared env w s t) : Steady s t := by
  refine steady_of ?_ h.windows (fun v win => ?_) h.nextWindow h.display h.now
  · rw [h.manager]
    exact ⟨rfl, rfl, rfl, rfl, rfl, rfl⟩
  · split <;> exact ⟨rfl, rfl⟩

theorem Calm.steady (h : Calm p env s t) : Steady s t := by
  cases h with
  | still h => exact h.tuned.steady
  | raise w on down off live => exact (raised_windowSetDialogUp env off live).steady
  | lower w up => exact (lowered_windowSetDialogUp env up).steady
  | jobs f hf => exact ⟨rfl, rfl, rfl, rfl, rfl, rfl, fun _ => rfl, rfl, rfl, rfl⟩
  | obscure w b live =>
    have hrec := records_modifyWindow s w fun win => { win with obscured := b }
    refine steady_of (g := fun v win => if v = w then { win with obscured := b } else win) ?_ (fun v => ?_)
      (fun v win => ?_) hrec.nextWindow hrec.display (congrArg MainLoop.now hrec.loop)
    · rw [hrec.manager]
      exact ⟨rfl, rfl, rfl, rfl, rfl, rfl⟩
    · rw [modifyWindow_map]
    · split <;> exact ⟨rfl, rfl⟩
  | appear w on live hidden => exact (appeared_gtkWidgetShow env live hidden).steady

theorem Calms.steady (h : Calms p env s t) : Steady s t := by
  induction h with
  | refl => exact .refl
  | tail _ h ih => exact ih.trans h.steady

/- A dialog that goes up or down leaves the sources alone. -/
theorem Intact.same (h : s.Intact) (hs : Steady s t) (hloop : t.loop = s.loop)
    (hused : t.usedDestroyed = s.usedDestroyed)
    (hwin : ∀ w win, s.windows w = some win → ∃ win', t.windows w = some win' ∧
      win'.keyboardWatchId = win.keyboardWatchId ∧ win'.infoBarTimerId = win.infoBarTimerId) : t.Intact where
  used := hused.trans h.used
  emit x hx := (hs.live _).2 (h.emit x (hloop ▸ hx))
  shaking x hx := (hs.live _).2 (h.shaking x (hloop ▸ hx))
  keyboard x hx := by
    obtain ⟨h0, win, hw, hid⟩ := h.keyboard x (hloop ▸ hx)
    obtain ⟨win', hw', hk, -⟩ := hwin _ win hw
    exact ⟨h0, win', hw', hk.trans hid⟩
  infoBar x hx := by
    obtain ⟨h0, win, hw, hid⟩ := h.infoBar x (hloop ▸ hx)
    obtain ⟨win', hw', -, hb⟩ := hwin _ win hw
    exact ⟨h0, win', hw', hb.trans hid⟩
  pos := hloop ▸ h.pos

/-- The manager lists exactly the windows that are live, each once. -/
structure Housed (s : Saver) : Prop where
  listed : ∀ w, w ∈ s.manager.windows ↔ s.Live w
  nodup : s.manager.windows.Nodup
  bound : ∀ w, s.Live w → w < s.nextWindow

/- Only the roster and the windows count. -/
theorem Housed.same (h : s.Housed) (hlist : t.manager.windows = s.manager.windows) (hwindows : t.windows = s.windows)
    (hnext : t.nextWindow = s.nextWindow) : t.Housed where
  listed w := by
    rw [hlist, Live, hwindows]
    exact h.listed w
  nodup := hlist ▸ h.nodup
  bound w hw := by
    rw [Live, hwindows] at hw
    exact hnext ▸ h.bound w hw

theorem Housed.steady (h : s.Housed) (hs : Steady s t) : t.Housed where
  listed w := by
    rw [hs.windows, hs.live]
    exact h.listed w
  nodup := hs.windows ▸ h.nodup
  bound w hw := hs.nextWindow ▸ h.bound w ((hs.live w).1 hw)

theorem Calm.intact (h : Calm p env s t) (hh : s.Housed) (hp : p) (hs : s.Intact) : t.Intact := by
  have hsteady := h.steady
  have hlisted : ∀ v ∈ s.manager.windows, s.Live v := fun v hv => (hh.listed v).1 hv
  cases h with
  | still h => exact h.intact hp hs
  | raise w on down off live =>
    have hr := raised_windowSetDialogUp env off live
    refine hs.same hsteady hr.loop (hr.used hlisted) fun v win hv => ⟨_, by rw [hr.windows, hv]; rfl, ?_⟩
    split
    · exact ⟨rfl, rfl⟩
    · split <;> exact ⟨rfl, rfl⟩
  | lower w up =>
    have hl := lowered_windowSetDialogUp env up
    refine hs.same hsteady hl.loop (hl.used hlisted) fun v win hv => ⟨_, by rw [hl.windows, hv]; rfl, ?_⟩
    dsimp only
    split <;> split <;> exact ⟨rfl, rfl⟩
  | jobs f hf => exact { hs with }
  | obscure w b live => exact hs.modifyWindow live (fun _ => rfl) (fun _ => rfl)
  | appear w on live hidden => exact (appeared_gtkWidgetShow env live hidden).intact hs

theorem Calms.intact (h : Calms p env s t) (hh : s.Housed) (hp : p) (hs : s.Intact) : t.Intact := by
  have hboth : t.Housed ∧ t.Intact := by
    induction h with
    | refl => exact ⟨hh, hs⟩
    | tail _ h ih => exact ⟨ih.1.steady h.steady, h.intact ih.1 hp ih.2⟩
  exact hboth.2

end Saver
end MateScreensaver
