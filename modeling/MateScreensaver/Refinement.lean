import MateScreensaver.Manager
import MateScreensaver.LockScreen

/-!
The windows and the manager under the lock's view: each function of
gs-window-x11.c and gs-manager.c does what its counterpart does there, or
nothing that the view sees.
-/

namespace MateScreensaver

def GSWindow.view (win : GSWindow) : DialogWindow where
  visible := win.visible
  lockEnabled := win.lockEnabled
  dialogUp := win.dialogUp
  popupId := win.popupDialogIdleId
  watchId := win.lockWatchId
  response := win.dialogResponse
  okRead := win.okRead

def SpawnResult.started : SpawnResult → Bool
  | .spawned _ _ => true
  | _ => false

namespace Saver
open LockScreen

def view (s : Saver) : LockScreen where
  active := s.manager.active
  lockActive := s.manager.lockActive
  throttled := s.manager.throttled
  dialogUp := s.manager.dialogUp
  windows := s.manager.windows
  window := fun w => (s.windows w).map GSWindow.view
  nextWindow := s.nextWindow
  nextId := s.loop.nextId
  activation := s.activation
  popup := s.loop.popupDialogIdle
  watch := s.loop.lockCommandWatch
  emit := s.loop.emitDeactivatedIdle
  deactivated := s.loop.windowDeactivatedIdle
  timerId := s.manager.lockTimeoutId
  timers := s.loop.activateLockTimeout.map Timer.id

variable {r : Prop} {s t u : Saver} {w : WindowId}

/-- Only other sources were added. -/
structure Frame (s t : Saver) : Prop where
  view : t.view = s.view.bump t.loop.nextId
  next : s.loop.nextId ≤ t.loop.nextId

def Keeps (r : Prop) (s t : Saver) : Prop := LockScreen.Keeps r s.view t.view

theorem Keeps.refl : Keeps r s s := LockScreen.Keeps.refl

theorem Keeps.trans (h : Keeps r s t) (h' : Keeps r t u) : Keeps r s u :=
  LockScreen.Keeps.trans h h'

theorem Frame.keeps (h : Frame s t) : Keeps r s t := by
  have hb := LockScreen.Keeps.bump (r := r) (a := s.view) h.next
  rwa [← h.view] at hb

theorem keeps_of_view (h : t.view = s.view) : Keeps r s t := by
  rw [Keeps, h]
  exact .refl

theorem frame_of_view (h : t.view = s.view) : Frame s t := by
  have hn : t.loop.nextId = s.loop.nextId := congrArg LockScreen.nextId h
  refine ⟨?_, Nat.le_of_eq hn.symm⟩
  rw [h, hn]
  rfl

theorem Frame.refl : Frame s s := frame_of_view rfl

theorem Frame.trans (h : Frame s t) (h' : Frame t u) : Frame s u := by
  refine ⟨?_, Nat.le_trans h.next h'.next⟩
  rw [h'.view, h.view]
  rfl

/-! ### Reading and writing a window -/

theorem view_get (s : Saver) (w : WindowId) : s.view.get w = (s.window w).view := by
  simp only [LockScreen.get, view, window]
  cases s.windows w <;> rfl

theorem view_window_none (h : s.windows w = none) : s.view.window w = none := by simp [view, h]

theorem view_modify (s : Saver) (w : WindowId) {f : GSWindow → GSWindow}
    (g : DialogWindow → DialogWindow) (h : ∀ win, (f win).view = g win.view) :
    (s.modifyWindow w f).view = s.view.modify w g := by
  simp only [modifyWindow]
  cases hw : s.windows w with
  | none => rw [modify_dead (view_window_none hw)]; rfl
  | some win =>
    simp only [view, LockScreen.modify, put, setWindow, hw, Option.map_some]
    congr 1
    funext v
    split
    · simp [h]
    · rfl

theorem modify_id (a : LockScreen) (w : WindowId) : a.modify w (fun d => d) = a := by
  simp only [LockScreen.modify, put, Option.map_id_fun', id]
  congr 1
  funext v
  split
  · next hv => rw [hv]
  · rfl

theorem view_modify_same (s : Saver) (w : WindowId) {f : GSWindow → GSWindow}
    (h : ∀ win, (f win).view = win.view) : (s.modifyWindow w f).view = s.view := by
  rw [view_modify s w (fun d => d) h, modify_id]

/- The fields that the view shows, one lemma each. -/
theorem view_dialogUp (s : Saver) (w : WindowId) (b : Bool) :
    (s.modifyWindow w fun win => { win with dialogUp := b }).view
      = s.view.modify w fun d => { d with dialogUp := b } :=
  view_modify s w _ fun _ => rfl

theorem view_popupDialogIdleId (s : Saver) (w : WindowId) (id : SourceId) :
    (s.modifyWindow w fun win => { win with popupDialogIdleId := id }).view
      = s.view.modify w fun d => { d with popupId := id } :=
  view_modify s w _ fun _ => rfl

theorem view_lockWatchId (s : Saver) (w : WindowId) (id : SourceId) :
    (s.modifyWindow w fun win => { win with lockWatchId := id }).view
      = s.view.modify w fun d => { d with watchId := id } :=
  view_modify s w _ fun _ => rfl

theorem view_visible (s : Saver) (w : WindowId) :
    (s.modifyWindow w fun win => { win with visible := true }).view = s.view.reveal w :=
  view_modify s w _ fun _ => rfl

theorem view_lockEnabled (s : Saver) (w : WindowId) (b : Bool) :
    (s.modifyWindow w fun win => { win with lockEnabled := b }).view
      = s.view.modify w fun d => { d with lockEnabled := b } :=
  view_modify s w _ fun _ => rfl

/- A dialog that was started is known by its watch. -/
theorem view_lockPid (s : Saver) (w : WindowId) (pid : Nat) (id : SourceId) :
    (s.modifyWindow w fun win => { win with lockPid := pid, lockWatchId := id }).view
      = s.view.modify w fun d => { d with watchId := id } :=
  view_modify s w _ fun _ => rfl

@[simp] theorem modifyWindow_loop (s : Saver) (w : WindowId) (f : GSWindow → GSWindow) :
    (s.modifyWindow w f).loop = s.loop := by
  simp only [modifyWindow]
  split <;> rfl

@[simp] theorem modifyWindow_manager (s : Saver) (w : WindowId) (f : GSWindow → GSWindow) :
    (s.modifyWindow w f).manager = s.manager := by
  simp only [modifyWindow]
  split <;> rfl

theorem view_modifyGrab (s : Saver) (f : GSGrab → GSGrab) : (s.modifyGrab f).view = s.view := rfl

theorem view_mapJobs (s : Saver) (f : WindowId → GSJob → GSJob) : (s.mapJobs f).view = s.view := rfl

theorem view_foldl {f : Saver → WindowId → Saver} (h : ∀ s w, (f s w).view = s.view)
    (l : List WindowId) (s : Saver) : (l.foldl f s).view = s.view := by
  induction l generalizing s with
  | nil => rfl
  | cons w l ih => rw [List.foldl_cons, ih, h]

theorem view_forWindows {f : WindowId → Saver → Saver} (h : ∀ w s, (f w s).view = s.view)
    (s : Saver) : (s.forWindows f).view = s.view :=
  view_foldl (fun s w => h w s) _ s

theorem Keeps.foldl {f : Saver → WindowId → Saver} (h : ∀ s w, Keeps r s (f s w))
    (l : List WindowId) (s : Saver) : Keeps r s (l.foldl f s) := by
  induction l generalizing s with
  | nil => exact .refl
  | cons w l ih => exact (h s w).trans (ih (f s w))

/-! ### Dialogs of a window -/

theorem view_setSensitive (s : Saver) (w : WindowId) (b : Bool) :
    (s.setSensitive w b).view = s.view :=
  view_modify_same s w fun _ => rfl

theorem view_handleWindowDialogUp (s : Saver) (w : WindowId) :
    (s.handleWindowDialogUp w).view = { s.view with dialogUp := true } := by
  have hfold := view_forWindows (f := fun v s => if v ≠ w then s.setSensitive v false else s)
    (fun v s => by split; exacts [view_setSensitive s v false, rfl])
    (s.modifyManager fun m => { m with dialogUp := true })
  simp only [handleWindowDialogUp]
  split
  · rw [managerSuspendJobs, view_mapJobs, view_modifyGrab, hfold]; rfl
  · rw [view_modifyGrab, hfold]; rfl

theorem view_handleWindowDialogDown (env : SaverEnv) (s : Saver) (w : WindowId) :
    (s.handleWindowDialogDown env w).view = { s.view with dialogUp := false } := by
  have hfold := view_forWindows (f := fun v s => s.setSensitive v true)
    (fun v s => view_setSensitive s v true) (s.modifyGrab (.moveToWindow (.window w) false false))
  have hdown : ∀ t : Saver, t.view = s.view →
      (t.modifyManager fun m => { m with dialogUp := false }).view = { s.view with dialogUp := false } := by
    intro t ht
    rw [← ht]
    rfl
  simp only [handleWindowDialogDown]
  split
  · rw [managerResumeJobs, view_mapJobs]
    exact hdown _ hfold
  · exact hdown _ hfold

theorem view_windowSetDialogUp (env : SaverEnv) (s : Saver) (w : WindowId) (b : Bool) :
    (s.windowSetDialogUp env w b).view = s.view.setDialogUp w b := by
  simp only [windowSetDialogUp, LockScreen.setDialogUp, view_get]
  have hview : (s.window w).view.dialogUp = (s.window w).dialogUp := rfl
  rw [hview]
  split
  · rfl
  · next hb =>
    have hmod := view_dialogUp s w b
    simp only [windowDialogUpChangedCb]
    cases hw : s.windows w with
    | none =>
      have hnone : s.view.window w = none := view_window_none hw
      have hread : ((s.modifyWindow w fun win => { win with dialogUp := b }).window w).dialogUp = false := by
        simp [modifyWindow, hw, window]
      rw [hread]
      simp [view_handleWindowDialogDown, hmod, hnone, modify_dead hnone]
    | some win =>
      have hsome : (s.view.window w).isNone = false := by simp [view, hw]
      have hread : ((s.modifyWindow w fun win => { win with dialogUp := b }).window w).dialogUp = b := by
        simp [modifyWindow, hw, window, setWindow]
      rw [hread, hsome]
      cases b
      · simp [view_handleWindowDialogDown, hmod]
      · simp [view_handleWindowDialogUp, hmod]

theorem view_removePopupDialogIdle (s : Saver) (w : WindowId) :
    (s.removePopupDialogIdle w).view = s.view.dropPopup w := by
  simp only [removePopupDialogIdle, LockScreen.dropPopup, view_get]
  have hview : (s.window w).view.popupId = (s.window w).popupDialogIdleId := rfl
  rw [hview]
  split
  · rw [view_popupDialogIdleId]
    rfl
  · next h0 => rw [if_pos (Decidable.of_not_not h0)]

theorem view_removeLockWatch (s : Saver) (w : WindowId) :
    (s.removeLockWatch w).view = s.view.dropWatch w := by
  simp only [removeLockWatch, LockScreen.dropWatch, view_get]
  have hview : (s.window w).view.watchId = (s.window w).lockWatchId := rfl
  rw [hview]
  split
  · rw [view_lockWatchId]
    rfl
  · next h0 => rw [if_pos (Decidable.of_not_not h0)]

theorem view_removeKeyboardWatch (s : Saver) (w : WindowId) :
    (s.removeKeyboardWatch w).view = s.view := by
  simp only [removeKeyboardWatch]
  split
  · exact Eq.trans (view_modify_same _ w fun _ => rfl) rfl
  · rfl

theorem view_removeLockBox (s : Saver) (w : WindowId) : (s.removeLockBox w).view = s.view := by
  simp only [removeLockBox]
  split
  · exact view_modify_same _ w fun _ => rfl
  · rfl

theorem view_gsWindowDialogFinish (s : Saver) (w : WindowId) :
    (s.gsWindowDialogFinish w).view = s.view :=
  view_modify_same s w fun _ => rfl

theorem view_popdownDialog (env : SaverEnv) (s : Saver) (w : WindowId) :
    (s.popdownDialog env w).view = s.view.popdown w := by
  simp only [popdownDialog, removeCommandWatches, LockScreen.popdown]
  rw [view_removeKeyboardWatch, view_removeLockWatch, view_removePopupDialogIdle, view_removeLockBox,
    view_windowSetDialogUp, view_gsWindowDialogFinish]

theorem view_spawnDialogOnWindow (env : SaverEnv) (s : Saver) (w : WindowId) :
    (s.spawnDialogOnWindow env w).view =
      if SpawnResult.started env.spawnDialog then s.view.addWatch w else s.view := by
  simp only [spawnDialogOnWindow]
  cases hr : env.spawnDialog with
  | spawned pid hpos =>
    simp only [SpawnResult.started, if_true]
    rw [view_lockPid]
    rfl
  | parseError => rfl
  | spawnError => rfl

/- The dispatch of popup_dialog_idle. -/
theorem view_popupDialogIdle (env : SaverEnv) (s : Saver) (x : WindowSource) :
    ((s.popupDialogIdle env x.window).modifyLoop fun l =>
        { l with popupDialogIdle := MainLoop.removeId x.id l.popupDialogIdle }).view
      = s.view.popupRun (SpawnResult.started env.spawnDialog) x := by
  have hloop : ∀ t : Saver, (t.modifyLoop fun l =>
      { l with popupDialogIdle := MainLoop.removeId x.id l.popupDialogIdle }).view
        = { t.view with popup := without x.id t.view.popup } := fun _ => rfl
  have hflags : ∀ t : Saver, (t.modifyWindow x.window fun win =>
      { win with dialogQuitRequested := false, dialogShakeInProgress := false }).view = t.view :=
    fun t => view_modify_same t x.window fun _ => rfl
  rw [hloop, popupDialogIdle, view_popupDialogIdleId, popupDialog, view_spawnDialogOnWindow, hflags]
  rfl

theorem view_gsWindowRequestUnlock (env : SaverEnv) (s : Saver) (w : WindowId) :
    (s.gsWindowRequestUnlock env w).view = s.view.requestUnlock w := by
  have hv : (s.window w).view.visible = (s.window w).visible := rfl
  have hq : (s.window w).view.watchId = (s.window w).lockWatchId := rfl
  have hl : (s.window w).view.lockEnabled = (s.window w).lockEnabled := rfl
  have hp : (s.window w).view.popupId = (s.window w).popupDialogIdleId := rfl
  simp only [gsWindowRequestUnlock, LockScreen.requestUnlock, view_get, hv, hq, hl, hp]
  split
  · rfl
  · split
    · rfl
    · split
      · rfl
      · rw [view_windowSetDialogUp]
        congr 1
        split
        · rw [view_popupDialogIdleId]
          rfl
        · rfl

theorem view_gsWindowDestroy (env : SaverEnv) (s : Saver) (w : WindowId) :
    (s.gsWindowDestroy env w).view = s.view.destroy w := by
  have hput : ∀ t : Saver, (t.setWindow w none).view = t.view.put w none := by
    intro t
    simp only [view, put, setWindow]
    congr 1
    funext v
    split <;> rfl
  have hloop : ∀ (t : Saver) (id : SourceId), (t.modifyLoop fun l =>
      { l with infoBarTimeout := MainLoop.removeId id l.infoBarTimeout }).view = t.view := fun _ _ => rfl
  simp only [gsWindowDestroy]
  rw [hput, view_modifyGrab, hloop, gsWindowCancelUnlockRequest, view_popdownDialog]
  rfl

theorem frame_embedKeyboard (env : SaverEnv) (s : Saver) (w : WindowId) :
    Frame s (s.embedKeyboard env w) := by
  simp only [embedKeyboard]
  split
  · exact .refl
  · simp only [spawnKeyboardOnWindow]
    split
    · refine ⟨?_, ?_⟩
      · rw [modifyWindow_loop]
        exact Eq.trans (view_modify_same _ w fun _ => rfl) rfl
      · rw [modifyWindow_loop]
        exact Nat.le_succ _
    · exact .refl

theorem frame_createLockSocket (env : SaverEnv) (s : Saver) (w : WindowId) (id : UInt32) :
    Frame s (s.createLockSocket env w id) := by
  have hw : (s.modifyWindow w fun win => { win with lockSocket := some id, lockBox := true }).view
      = s.view := view_modify_same s w fun _ => rfl
  simp only [createLockSocket]
  split
  · exact (frame_of_view hw).trans (frame_embedKeyboard env _ w)
  · exact frame_of_view hw

theorem view_respond (s : Saver) (w : WindowId) (answer : DialogResponse) :
    (s.modifyWindow w fun win => { win with
      dialogResponse := answer, okRead := if answer = .ok then some s.activation else win.okRead }).view
      = s.view.respond answer w :=
  view_modify s w _ fun _ => rfl

/- A line of the dialog is an answer, or nothing the view sees. -/
theorem lockCommandLine_view (env : SaverEnv) (s : Saver) (w : WindowId) (id : SourceId)
    (line : Scan.Text) :
    (∃ answer, (s.lockCommandLine env w id line).1 = true ∧
      (s.lockCommandLine env w id line).2.view = s.view.respond answer w ∧
      (answer = .ok → Scan.contains line "RESPONSE=OK".toList = true)) ∨
    ((s.lockCommandLine env w id line).1 = false ∧ Frame s (s.lockCommandLine env w id line).2) := by
  simp only [lockCommandLine]
  split
  · right
    split
    · exact ⟨rfl, frame_createLockSocket env s w _⟩
    · exact ⟨rfl, .refl⟩
  · split
    · right
      split
      · exact ⟨rfl, frame_of_view (view_modify_same s w fun _ => rfl)⟩
      · exact ⟨rfl, .refl⟩
    · split
      · left
        split
        · next hok => exact ⟨.ok, rfl, view_respond s w .ok, fun _ => hok⟩
        · exact ⟨.cancel, rfl, view_respond s w .cancel, fun h => (nomatch h)⟩
      · right
        split
        · exact ⟨rfl, frame_of_view (view_modify_same s w fun _ => rfl)⟩
        · exact ⟨rfl, .refl⟩

theorem view_detach (s : Saver) (id : SourceId) :
    (s.modifyLoop fun l => { l with lockCommandWatch := MainLoop.removeId id l.lockCommandWatch }).view
      = s.view.detach id := rfl

theorem view_lockCommandFinished (env : SaverEnv) (s : Saver) (x : WindowSource) :
    (s.lockCommandFinished env x.window).view.detach x.id = s.view.finish x := by
  have hresp : ∀ t : Saver, (t.window x.window).view.response = (t.window x.window).dialogResponse :=
    fun _ => rfl
  have hread : ∀ t : Saver, (t.window x.window).view.okRead = (t.window x.window).okRead :=
    fun _ => rfl
  simp only [lockCommandFinished, LockScreen.finish]
  rw [← view_popdownDialog env, view_get, hresp, hread, view_lockWatchId]
  split <;> rfl

/-! ### Jobs, settings and timers -/

theorem view_managerMaybeStopJobForWindow (s : Saver) (w : WindowId) :
    (s.managerMaybeStopJobForWindow w).view = s.view := rfl

theorem view_managerMaybeStartJobForWindow (env : SaverEnv) (s : Saver) (w : WindowId) :
    (s.managerMaybeStartJobForWindow env w).view = s.view := rfl

theorem view_managerStopJobs (s : Saver) : s.managerStopJobs.view = s.view := rfl

theorem view_removeLockTimer (s : Saver) : s.removeLockTimer.view = s.view.dropTimer := by
  have hfilter : ∀ (id : SourceId) (l : List Timer), (MainLoop.removeTimer id l).map Timer.id
      = (l.map Timer.id).filter fun t => t ≠ id := by
    intro id l
    rw [List.filter_map]
    rfl
  have hid : s.view.timerId = s.manager.lockTimeoutId := rfl
  simp only [removeLockTimer, LockScreen.dropTimer, hid]
  split
  · simp only [view, modifyManager, modifyLoop, hfilter]
  · next h0 => rw [if_pos (Decidable.of_not_not h0)]

theorem view_addLockTimer (s : Saver) (timeout : Nat) :
    (s.addLockTimer timeout).view = s.view.addTimer := by
  simp only [addLockTimer, view, modifyManager, modifyLoop, List.map_append]
  rfl

theorem view_removeCycleTimer (s : Saver) : s.removeCycleTimer.view = s.view := by
  simp only [removeCycleTimer]
  split <;> rfl

theorem frame_addCycleTimer (s : Saver) (timeout : Nat) : Frame s (s.addCycleTimer timeout) :=
  ⟨rfl, Nat.le_succ _⟩

theorem frame_recycle (s : Saver) (timeout : Nat) : Frame s (s.removeCycleTimer.addCycleTimer timeout) :=
  (frame_of_view (view_removeCycleTimer s)).trans (frame_addCycleTimer _ timeout)

theorem frame_gsManagerSetCycleTimeout (env : SaverEnv) (s : Saver) (t : Int) :
    Frame s (s.gsManagerSetCycleTimeout env t) := by
  simp only [gsManagerSetCycleTimeout]
  split
  · split
    · exact Frame.trans (t := s.modifyManager fun m => { m with cycleTimeout := t })
        (frame_of_view rfl) (frame_recycle _ _)
    · exact frame_of_view rfl
  · exact .refl

/- A setting handed to every window. -/
theorem view_setting (s : Saver) (f : GSManager → GSManager) (g : GSWindow → GSWindow)
    (hf : (s.modifyManager f).view = s.view) (hg : ∀ win, (g win).view = win.view) :
    ((s.modifyManager f).forWindows fun w s => s.modifyWindow w g).view = s.view := by
  rw [view_forWindows fun w s => view_modify_same s w hg, hf]

theorem view_gsManagerSetLogoutEnabled (s : Saver) (b : Bool) :
    (s.gsManagerSetLogoutEnabled b).view = s.view := by
  simp only [gsManagerSetLogoutEnabled]
  split
  · exact view_setting s _ _ rfl fun _ => rfl
  · rfl

theorem view_gsManagerSetKeyboardEnabled (s : Saver) (b : Bool) :
    (s.gsManagerSetKeyboardEnabled b).view = s.view := by
  simp only [gsManagerSetKeyboardEnabled]
  split
  · exact view_setting s _ _ rfl fun _ => rfl
  · rfl

theorem view_gsManagerSetUserSwitchEnabled (s : Saver) (b : Bool) :
    (s.gsManagerSetUserSwitchEnabled b).view = s.view := by
  simp only [gsManagerSetUserSwitchEnabled]
  split
  · exact view_setting s _ _ rfl fun _ => rfl
  · rfl

theorem view_gsManagerSetLogoutTimeout (s : Saver) (t : Int) :
    (s.gsManagerSetLogoutTimeout t).view = s.view := by
  simp only [gsManagerSetLogoutTimeout]
  split
  · exact view_setting s _ (fun win => { win with logoutTimeout := t.toNat }) rfl fun _ => rfl
  · rfl

theorem view_gsManagerSetLogoutCommand (s : Saver) (c : Option String) :
    (s.gsManagerSetLogoutCommand c).view = s.view :=
  view_setting s _ _ rfl fun _ => rfl

theorem view_gsManagerSetKeyboardCommand (s : Saver) (c : Option String) :
    (s.gsManagerSetKeyboardCommand c).view = s.view :=
  view_setting s _ _ rfl fun _ => rfl

theorem view_gsManagerSetStatusMessage (s : Saver) (c : Option String) :
    (s.gsManagerSetStatusMessage c).view = s.view :=
  view_setting s _ _ rfl fun _ => rfl

theorem view_gsManagerCycle (env : SaverEnv) (s : Saver) : (s.gsManagerCycle env).view = s.view := by
  simp only [gsManagerCycle]
  split <;> rfl

theorem view_cycleTimeoutCb (env : SaverEnv) (s : Saver) : (s.cycleTimeoutCb env).view = s.view := by
  simp only [cycleTimeoutCb]
  split
  · exact view_gsManagerCycle env s
  · rfl

theorem view_gsManagerSetThrottled (env : SaverEnv) (s : Saver) (b : Bool) :
    (s.gsManagerSetThrottled env b).view = { s.view with throttled := b } := by
  simp only [gsManagerSetThrottled]
  split
  · split <;> rfl
  · next h =>
    have hb : s.view.throttled = b := Decidable.of_not_not h
    rw [← hb]

/-! ### Requests and windows -/

theorem keeps_gsManagerRequestUnlock (env : SaverEnv) (s : Saver) :
    Keeps r s (s.gsManagerRequestUnlock env) := by
  simp only [gsManagerRequestUnlock]
  split
  · exact .refl
  · next ha =>
    split
    · exact .refl
    · next hu =>
      split
      · exact .refl
      · next w _ =>
        have ha' : s.manager.active = true := by simpa using ha
        have hu' : s.manager.dialogUp = false := by simpa using hu
        rw [Keeps, view_gsWindowRequestUnlock]
        exact .requestUnlock w ha' hu'

theorem frame_gsWindowShowMessage (s : Saver) (w : WindowId) : Frame s (s.gsWindowShowMessage w) := by
  have hadd : ∀ t : Saver, Frame t ((t.modifyLoop (.addInfoBarTimeout w)).modifyWindow w fun win =>
      { win with infoBarTimerId := t.loop.nextId }) := by
    intro t
    refine ⟨?_, ?_⟩
    · rw [modifyWindow_loop]
      exact Eq.trans (view_modify_same _ w fun _ => rfl) rfl
    · rw [modifyWindow_loop]
      exact Nat.le_succ _
  simp only [gsWindowShowMessage]
  refine Frame.trans ?_ (hadd _)
  split
  · exact frame_of_view rfl
  · exact .refl

theorem keeps_gsManagerShowMessage (env : SaverEnv) (h : s.gsManagerShowMessage env = some t) :
    Keeps r s t := by
  obtain ⟨w, -, rfl⟩ := Option.map_eq_some_iff.1 h
  exact (frame_gsWindowShowMessage s w).keeps.trans (keeps_gsManagerRequestUnlock env _)

theorem view_managerMaybeGrabWindow (env : SaverEnv) (s : Saver) (w : WindowId) :
    (s.managerMaybeGrabWindow env w).view = s.view := by
  simp only [managerMaybeGrabWindow]
  split <;> rfl

theorem view_windowMapEventCb (env : SaverEnv) (s : Saver) (w : WindowId) :
    (s.windowMapEventCb env w).view = s.view :=
  view_managerMaybeGrabWindow env s w

theorem keeps_managerShowWindow (env : SaverEnv) (w : WindowId) (ha : s.manager.active = true) :
    Keeps r s (s.managerShowWindow env w) := by
  have hlock : ∀ t : Saver, t.manager.active = true → Keeps r t
      (if 0 ≤ t.manager.lockTimeout then t.removeLockTimer.addLockTimer t.manager.lockTimeout.toNat
       else t) := by
    intro t ht
    split
    · rw [Keeps, view_addLockTimer, view_removeLockTimer]
      exact .rearm ht
    · exact .refl
  have hcycle : ∀ t : Saver, Keeps r t
      (if 10000 ≤ t.manager.cycleTimeout then t.removeCycleTimer.addCycleTimer t.manager.cycleTimeout.toNat
       else t) := by
    intro t
    split
    · exact (frame_recycle t _).keeps
    · exact .refl
  exact (hlock ((s.managerAddJobForWindow w (managerSelectThemeForJob env s.manager {})).modifyManager
    fun m => { m with activateTime := env.time }) ha).trans (hcycle _)

theorem keeps_gtkWidgetShow (env : SaverEnv) (w : WindowId) (ha : s.manager.active = true) :
    Keeps r s (s.gtkWidgetShow env w) := by
  simp only [gtkWidgetShow]
  split
  · exact .refl
  · have hreveal : Keeps r s (s.modifyWindow w fun win => { win with visible := true }) := by
      rw [Keeps, view_visible]
      exact .reveal s.view w
    exact hreveal.trans (keeps_managerShowWindow env w (by rwa [modifyWindow_manager]))

theorem keeps_windowSetObscured (env : SaverEnv) (s : Saver) (w : WindowId) (b : Bool) :
    Keeps r s (s.windowSetObscured env w b) := by
  have hw : (s.modifyWindow w fun win => { win with obscured := b }).view = s.view :=
    view_modify_same s w fun _ => rfl
  simp only [windowSetObscured]
  split
  · exact .refl
  · refine (keeps_of_view hw).trans ?_
    simp only [windowObscuredCb]
    split
    · split
      · exact (keeps_of_view (view_managerMaybeStopJobForWindow _ w)).trans
          (keeps_gsManagerRequestUnlock env _)
      · exact (keeps_of_view (view_managerMaybeStartJobForWindow env _ w)).trans
          (keeps_gsManagerRequestUnlock env _)
    · split
      · exact keeps_of_view (view_managerMaybeStopJobForWindow _ w)
      · exact keeps_of_view (view_managerMaybeStartJobForWindow env _ w)

theorem keeps_maybeHandleActivity (env : SaverEnv) (s : Saver) (w : WindowId) :
    Keeps r s (s.maybeHandleActivity env w) := by
  simp only [maybeHandleActivity]
  split
  · exact keeps_gsManagerRequestUnlock env s
  · exact .refl

/-! ### Monitors -/

/- The window of gs_manager_create_window_for_monitor before it is shown. -/
theorem view_newWindow (s : Saver) (monitor : MonitorId) :
    ({ s.setWindow s.nextWindow (some (gsWindowNew monitor s.manager)) with
        nextWindow := s.nextWindow + 1 }.modifyManager fun m =>
          { m with windows := m.windows ++ [s.nextWindow] }).view = s.view.create := by
  simp only [view, LockScreen.create, put, setWindow, modifyManager]
  congr 1
  funext v
  show (if v = s.nextWindow then some (gsWindowNew monitor s.manager) else s.windows v).map
      GSWindow.view = if v = s.nextWindow then
        some ⟨false, s.manager.lockActive, false, 0, 0, .cancel, none⟩
      else (s.windows v).map GSWindow.view
  by_cases hv : v = s.nextWindow
  · rw [if_pos hv, if_pos hv]
    rfl
  · rw [if_neg hv, if_neg hv]

theorem keeps_gsManagerCreateWindowForMonitor (env : SaverEnv) (s : Saver) (monitor : MonitorId) :
    Keeps r s (s.gsManagerCreateWindowForMonitor env monitor) := by
  have hnew : ∀ t : Saver, t.view = s.view.create → Keeps r s t := by
    intro t ht
    rw [Keeps, ht]
    exact .create s.view
  have h := hnew _ (view_newWindow s monitor)
  simp only [gsManagerCreateWindowForMonitor]
  split
  · next ha => exact h.trans (keeps_gtkWidgetShow env _ ha)
  · exact h

theorem keeps_onDisplayMonitorAdded (env : SaverEnv) (s : Saver) (monitor : MonitorId) :
    Keeps r s (s.onDisplayMonitorAdded env monitor) := by
  have hdown : ∀ (s : Saver) (w : WindowId), Keeps r s (s.gsWindowCancelUnlockRequest env w) := by
    intro s w
    rw [Keeps, gsWindowCancelUnlockRequest, view_popdownDialog]
    exact .popdown s.view w
  exact ((Keeps.foldl hdown s.manager.windows s).trans
    (keeps_gsManagerCreateWindowForMonitor env _ monitor)).trans (keeps_gsManagerRequestUnlock env _)

theorem view_removeMonitorWindow (env : SaverEnv) (s : Saver) (w : WindowId) :
    (s.removeMonitorWindow env w).view = s.view.remove w := by
  have hlist : ∀ t : Saver, (t.modifyManager fun m =>
      { m with windows := m.windows.filter fun v => v ≠ w }).view
        = { t.view with windows := t.view.windows.filter fun v => v ≠ w } := fun _ => rfl
  simp only [removeMonitorWindow, LockScreen.remove]
  rw [hlist, view_gsWindowDestroy]
  rfl

theorem keeps_onDisplayMonitorRemoved (env : SaverEnv) (s : Saver) (monitor : MonitorId) :
    Keeps r s (s.onDisplayMonitorRemoved env monitor) := by
  refine Keeps.foldl (fun s w => ?_) _ s
  dsimp only
  split
  · rw [Keeps, view_removeMonitorWindow]
    exact .remove s.view w
  · exact .refl

/-! ### Locking, starting and ending -/

theorem foldModify_window (g : DialogWindow → DialogWindow) (hg : ∀ d, g (g d) = g d)
    (l : List WindowId) (a : LockScreen) (w : WindowId) :
    (l.foldl (fun a w => a.modify w g) a).window w
      = if w ∈ l then (a.window w).map g else a.window w := by
  have hgg : g ∘ g = g := funext hg
  induction l generalizing a with
  | nil => simp
  | cons v l ih =>
    rw [List.foldl_cons, ih]
    by_cases hl : w ∈ l <;> by_cases hv : w = v <;> simp [hl, hv, LockScreen.modify, put, hgg]

theorem foldModify (g : DialogWindow → DialogWindow) (hg : ∀ d, g (g d) = g d)
    (l : List WindowId) (a : LockScreen) : l.foldl (fun a w => a.modify w g) a
      = { a with window := fun w => if w ∈ l then (a.window w).map g else a.window w } := by
  have hrest : ∀ (l : List WindowId) (a : LockScreen), l.foldl (fun a w => a.modify w g) a
      = { a with window := (l.foldl (fun a w => a.modify w g) a).window } := by
    intro l
    induction l with
    | nil => intro a; rfl
    | cons v l ih => intro a; rw [List.foldl_cons, ih]; rfl
  rw [hrest]
  congr 1
  funext w
  exact foldModify_window g hg l a w

def relock (b : Bool) (d : DialogWindow) : DialogWindow := { d with lockEnabled := b }

theorem view_gsWindowSetLockEnabled (s : Saver) (w : WindowId) (b : Bool) :
    (s.gsWindowSetLockEnabled w b).view = s.view.modify w (relock b) :=
  view_lockEnabled s w b

theorem view_gsManagerSetLockActive (s : Saver) (b : Bool) :
    (s.gsManagerSetLockActive b).view =
      if s.manager.lockActive = b then s.view else s.view.setLock b := by
  have hfold : ∀ (l : List WindowId) (t : Saver),
      (l.foldl (fun s w => s.gsWindowSetLockEnabled w b) t).view
        = l.foldl (fun a w => a.modify w (relock b)) t.view := by
    intro l
    induction l with
    | nil => intro t; rfl
    | cons w l ih =>
      intro t
      rw [List.foldl_cons, List.foldl_cons, ih, view_gsWindowSetLockEnabled]
  simp only [gsManagerSetLockActive]
  split
  · rw [forWindows, hfold, foldModify (relock b) fun _ => rfl]
    rfl
  · next h => rw [if_pos (Decidable.of_not_not h)]

theorem view_gsManagerDestroyWindows (env : SaverEnv) (s : Saver) :
    (s.gsManagerDestroyWindows env).view = s.view.destroyAll := by
  have hfold : ∀ (l : List WindowId) (t : Saver),
      (l.foldl (fun s w => s.gsWindowDestroy env w) t).view = l.foldl (fun a w => a.destroy w) t.view := by
    intro l
    induction l with
    | nil => intro t; rfl
    | cons w l ih =>
      intro t
      rw [List.foldl_cons, List.foldl_cons, ih, view_gsWindowDestroy]
  have hempty : ∀ t : Saver, (t.modifyManager fun m => { m with windows := [] }).view
      = { t.view with windows := [] } := fun _ => rfl
  have hlist : s.view.windows = s.manager.windows := rfl
  simp only [gsManagerDestroyWindows, destroyAll, hlist]
  split
  · next h =>
    rw [h, List.foldl_nil, ← h]
    rfl
  · rw [hempty, forWindows, hfold]
    rfl

theorem view_gsManagerDeactivate (env : SaverEnv) (s : Saver) :
    (s.gsManagerDeactivate env).2.view =
      if s.manager.active then s.view.deactivate else s.view := by
  have hend : ∀ t : Saver, (t.modifyManager fun m =>
      { m with active := false, activateTime := 0, lockActive := false, dialogUp := false }).view
        = { t.view with active := false, lockActive := false, dialogUp := false } := fun _ => rfl
  simp only [gsManagerDeactivate]
  cases ha : s.manager.active
  · rfl
  · simp only [Bool.not_true, Bool.false_eq_true, if_false, if_true, LockScreen.deactivate]
    rw [hend, view_gsManagerDestroyWindows, view_managerStopJobs, view_modifyGrab,
      view_removeCycleTimer, view_removeLockTimer]

end Saver
end MateScreensaver
