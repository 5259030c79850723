import MateScreensaver.Moves
import MateScreensaver.Events

/-!
The functions of the windows and of the manager as chains of moves.
-/

namespace MateScreensaver
namespace Saver

variable {p : Prop} {env : SaverEnv} {s t u : Saver} {w : WindowId}

theorem Calms.keepsLive (h : Calms p env s t) (hw : p → s.Live w) : p → t.Live w :=
  fun hp => (h.steady.live w).2 (hw hp)

theorem Still.keepsLive (h : Still p s t) (hw : p → s.Live w) : p → t.Live w :=
  fun hp => (h.live w).2 (hw hp)

/-! ### A window and its sources -/

theorem Intact.source (h : s.Intact) {f : MainLoop → MainLoop} {g : GSWindow → GSWindow} (hw : s.Live w)
    (emit : ∀ x ∈ (f s.loop).emitDeactivatedIdle, x ∈ s.loop.emitDeactivatedIdle ∨ s.Live x.window)
    (shaking : ∀ x ∈ (f s.loop).shaking, x ∈ s.loop.shaking ∨ s.Live x.window)
    (keyboard : Tied (f s.loop).keyboardCommandWatch GSWindow.keyboardWatchId (s.modifyWindow w g))
    (infoBar : Tied (f s.loop).infoBarTimeout GSWindow.infoBarTimerId (s.modifyWindow w g))
    (next : s.loop.nextId ≤ (f s.loop).nextId) : ((s.modifyLoop f).modifyWindow w g).Intact := by
  have hwin : ((s.modifyLoop f).modifyWindow w g).windows = (s.modifyWindow w g).windows := by
    funext v
    rw [modifyWindow_windows, modifyWindow_windows]
    rfl
  have hlive : ∀ v, ((s.modifyLoop f).modifyWindow w g).Live v ↔ s.Live v := fun v =>
    modifyWindow_live (s.modifyLoop f) w v g
  have hrec := records_modifyWindow (s.modifyLoop f) w g
  refine ⟨(modifyWindow_used (s := s.modifyLoop f) g hw).trans h.used, fun x hx => (hlive _).2 ?_,
    fun x hx => (hlive _).2 ?_, ?_, ?_, ?_⟩
  · rw [hrec.loop] at hx
    exact (emit x hx).elim (h.emit x) id
  · rw [hrec.loop] at hx
    exact (shaking x hx).elim (h.shaking x) id
  · rw [hrec.loop]
    exact keyboard.mono (fun _ => id) hwin
  · rw [hrec.loop]
    exact infoBar.mono (fun _ => id) hwin
  · rw [hrec.loop]
    exact Nat.lt_of_lt_of_le h.pos next

theorem still_source {f : MainLoop → MainLoop} {g : GSWindow → GSWindow}
    (face : ∀ win, (g win).face = win.face) (now : (f s.loop).now = s.loop.now)
    (lockTimers : (f s.loop).activateLockTimeout = s.loop.activateLockTimeout)
    (cycleTimers : (f s.loop).cycleTimeout = s.loop.cycleTimeout)
    (releaseTimers : (f s.loop).releaseGrabTimeout = s.loop.releaseGrabTimeout)
    (intact : p → s.Intact → ((s.modifyLoop f).modifyWindow w g).Intact) :
    Still p s ((s.modifyLoop f).modifyWindow w g) := by
  have hrec := records_modifyWindow (s.modifyLoop f) w g
  refine ⟨hrec.manager, fun v => ?_, hrec.nextWindow, hrec.display, hrec.activation, ?_, ?_, ?_, ?_, intact⟩
  · rw [modifyWindow_windows]
    split
    · rw [Option.map_map]
      exact congrArg (Option.map · (s.windows v)) (funext face)
    · rfl
  all_goals rw [hrec.loop]; assumption

theorem still_removePopupDialogIdle (hw : p → s.Live w) : Still p s (s.removePopupDialogIdle w) := by
  simp only [removePopupDialogIdle]
  split
  · have hloop : Still p s (s.modifyLoop fun l => { l with
        popupDialogIdle := MainLoop.removeId (s.window w).popupDialogIdleId l.popupDialogIdle }) :=
      still_otherSources rfl rfl rfl rfl rfl rfl rfl rfl (Nat.le_refl _)
    exact hloop.trans (still_modifyWindow (hloop.keepsLive hw) (fun _ => rfl) (fun _ => rfl) fun _ => rfl)
  · exact .refl

theorem still_removeLockWatch (hw : p → s.Live w) : Still p s (s.removeLockWatch w) := by
  simp only [removeLockWatch]
  split
  · have hloop : Still p s (s.modifyLoop fun l => { l with
        lockCommandWatch := MainLoop.removeId (s.window w).lockWatchId l.lockCommandWatch }) :=
      still_otherSources rfl rfl rfl rfl rfl rfl rfl rfl (Nat.le_refl _)
    exact hloop.trans (still_modifyWindow (hloop.keepsLive hw) (fun _ => rfl) (fun _ => rfl) fun _ => rfl)
  · exact .refl

theorem still_removeKeyboardWatch (hw : p → s.Live w) : Still p s (s.removeKeyboardWatch w) := by
  simp only [removeKeyboardWatch]
  split
  · refine still_source (fun _ => rfl) rfl rfl rfl rfl fun hp hs => ?_
    exact hs.source (hw hp) (fun _ => .inl) (fun _ => .inl) (hs.keyboard.drop _)
      (hs.infoBar.modify fun _ => rfl) (Nat.le_refl _)
  · exact .refl

theorem still_removeCommandWatches (hw : p → s.Live w) : Still p s (s.removeCommandWatches w) := by
  have hlock : Still p s (s.removeLockWatch w) := still_removeLockWatch hw
  exact hlock.trans (still_removeKeyboardWatch (hlock.keepsLive hw))

theorem still_removeLockBox (hw : p → s.Live w) : Still p s (s.removeLockBox w) := by
  simp only [removeLockBox]
  split
  · exact still_modifyWindow hw (fun _ => rfl) (fun _ => rfl) fun _ => rfl
  · exact .refl

/-! ### The dialog -/

theorem calms_dialogDown (env : SaverEnv) (s : Saver) (w : WindowId) :
    Calms p env s (s.windowSetDialogUp env w false) := by
  cases h : (s.window w).dialogUp
  · rw [windowSetDialogUp, if_pos h]
  · exact (Calm.lower w h).calms

/- What popdown_dialog does after the flag. -/
theorem still_afterDown (hw : p → s.Live w) :
    Still p s (((s.removeLockBox w).removePopupDialogIdle w).removeCommandWatches w) := by
  have hbox : Still p s (s.removeLockBox w) := still_removeLockBox hw
  have hidle := hbox.trans (still_removePopupDialogIdle (hbox.keepsLive hw))
  exact hidle.trans (still_removeCommandWatches (hidle.keepsLive hw))

theorem still_gsWindowDialogFinish (hw : p → s.Live w) : Still p s (s.gsWindowDialogFinish w) :=
  still_modifyWindow (f := fun win => { win with keyboardPid := 0, lockPid := 0 }) hw (fun _ => rfl)
    (fun _ => rfl) fun _ => rfl

theorem calms_popdownDialog (env : SaverEnv) (hw : p → s.Live w) : Calms p env s (s.popdownDialog env w) := by
  have hfinish : Calms p env s (s.gsWindowDialogFinish w) := (still_gsWindowDialogFinish hw).calms
  have hdown := hfinish.trans (calms_dialogDown env (s.gsWindowDialogFinish w) w)
  exact hdown.trans (still_afterDown (hdown.keepsLive hw)).calms

theorem still_popdownDialog (env : SaverEnv) (hw : p → s.Live w) (down : (s.window w).dialogUp = false) :
    Still p s (s.popdownDialog env w) := by
  have hfinish : Still p s (s.gsWindowDialogFinish w) := still_gsWindowDialogFinish hw
  have hflag : ((s.gsWindowDialogFinish w).window w).dialogUp = false := by
    rw [gsWindowDialogFinish, window, modifyWindow_windows, if_pos rfl]
    rw [window] at down
    cases hwin : s.windows w <;> simp_all
  have heq : s.popdownDialog env w = ((((s.gsWindowDialogFinish w).removeLockBox w).removePopupDialogIdle
      w).removeCommandWatches w) := by
    rw [popdownDialog, windowSetDialogUp, if_pos hflag]
  rw [heq]
  exact hfinish.trans (still_afterDown (hfinish.keepsLive hw))

theorem steady_popdownDialog (env : SaverEnv) (s : Saver) (w : WindowId) : Steady s (s.popdownDialog env w) := by
  by_cases hl : s.Live w
  · exact (calms_popdownDialog (p := True) env fun _ => hl).steady
  · exact (calms_popdownDialog (p := False) env fun h => h.elim).steady

theorem still_spawnDialogOnWindow (env : SaverEnv) (hw : p → s.Live w) :
    Still p s (s.spawnDialogOnWindow env w) := by
  simp only [spawnDialogOnWindow]
  split
  · have hloop : Still p s (s.modifyLoop (.addLockCommandWatch w)) :=
      still_otherSources rfl rfl rfl rfl rfl rfl rfl rfl (Nat.le_succ _)
    exact hloop.trans (still_modifyWindow (hloop.keepsLive hw) (fun _ => rfl) (fun _ => rfl) fun _ => rfl)
  · exact .refl

theorem still_popupDialogIdle (env : SaverEnv) (hw : p → s.Live w) : Still p s (s.popupDialogIdle env w) := by
  have hflags : Still p s (s.modifyWindow w fun win =>
      { win with dialogQuitRequested := false, dialogShakeInProgress := false }) :=
    still_modifyWindow hw (fun _ => rfl) (fun _ => rfl) fun _ => rfl
  have hspawn := hflags.trans (still_spawnDialogOnWindow env (hflags.keepsLive hw))
  exact hspawn.trans (still_modifyWindow (hspawn.keepsLive hw) (fun _ => rfl) (fun _ => rfl) fun _ => rfl)

/- Queued for a window that is live. -/
theorem still_emitDeactivated (cause : Cause) (hw : p → s.Live w) :
    Still p s (s.modifyLoop (.emitDeactivated w cause)) := by
  refine still_modifyLoop rfl rfl rfl rfl fun hp hs => hs.modifyLoop (fun x hx => ?_) (fun _ => .inl) (fun _ => id)
    (fun _ => id) (Nat.le_succ _)
  rcases List.mem_append.1 hx with hx | hx
  · exact .inl hx
  · cases List.mem_singleton.1 hx
    exact .inr (hw hp)

theorem calms_gsWindowRequestUnlock (env : SaverEnv) (on : s.manager.active = true)
    (down : s.manager.dialogUp = false) : Calms p env s (s.gsWindowRequestUnlock env w) := by
  simp only [gsWindowRequestUnlock]
  split
  · exact .refl
  · next hvis =>
    have live : s.Live w := live_of_window (b := GSWindow.visible) rfl (by simpa using hvis)
    split
    · exact .refl
    · split
      · exact (still_emitDeactivated .notLocked fun _ => live).calms
      · have hidle : Still p s (if (s.window w).popupDialogIdleId = 0 then
            (s.modifyLoop (.addPopupDialogIdle w)).modifyWindow w fun win =>
              { win with popupDialogIdleId := s.loop.nextId }
            else s) := by
          split
          · have hloop : Still p s (s.modifyLoop (.addPopupDialogIdle w)) :=
              still_otherSources rfl rfl rfl rfl rfl rfl rfl rfl (Nat.le_succ _)
            exact hloop.trans (still_modifyWindow (hloop.keepsLive fun _ => live) (fun _ => rfl)
              (fun _ => rfl) fun _ => rfl)
          · exact .refl
        refine hidle.calms.trans ?_
        generalize (if (s.window w).popupDialogIdleId = 0 then
            (s.modifyLoop (.addPopupDialogIdle w)).modifyWindow w fun win =>
              { win with popupDialogIdleId := s.loop.nextId }
            else s) = t at hidle
        cases hup : (t.window w).dialogUp
        · exact (Calm.raise w (by rw [hidle.manager, on]) (by rw [hidle.manager, down]) hup
            ((hidle.live w).2 live)).calms
        · rw [windowSetDialogUp, if_pos hup]

theorem calms_gsManagerRequestUnlock (env : SaverEnv) (s : Saver) :
    Calms p env s (s.gsManagerRequestUnlock env) := by
  simp only [gsManagerRequestUnlock]
  split
  · exact .refl
  · next hon =>
    split
    · exact .refl
    · next hdown =>
      split
      · exact .refl
      · exact calms_gsWindowRequestUnlock env (by simpa using hon) (by simpa using hdown)

/-! ### What a dialog says -/

/- A line that embeds a keyboard of which the command starts. -/
def embedsKeyboard (env : SaverEnv) (s : Saver) (w : WindowId) (line : Scan.Text) : Bool :=
  Scan.contains line "WINDOW ID=".toList && (sscanfWindowId line).isSome &&
    (s.window w).keyboardEnabled && (s.window w).keyboardCommand.isSome && env.spawnKeyboard.started

/- The window already has a keyboard that is listened to. -/
def HasKeyboard (s : Saver) (w : WindowId) : Prop := ∃ x ∈ s.loop.keyboardCommandWatch, x.window = w

theorem still_spawnKeyboardOnWindow (env : SaverEnv) (hw : p → s.Live w)
    (hk : p → env.spawnKeyboard.started = true → ¬ s.HasKeyboard w) :
    Still p s (s.spawnKeyboardOnWindow env w) := by
  simp only [spawnKeyboardOnWindow]
  split
  · next pid hpid heq =>
    refine still_source (fun _ => rfl) rfl rfl rfl rfl fun hp hs => ?_
    have hfree : ∀ x ∈ s.loop.keyboardCommandWatch, x.window ≠ w := fun x hx h =>
      hk hp (by rw [heq]; rfl) ⟨x, hx, h⟩
    exact hs.source (hw hp) (fun _ => .inl) (fun _ => .inl)
      (hs.keyboard.add hfree (hw hp) (Nat.pos_iff_ne_zero.1 hs.pos) fun _ => rfl)
      (hs.infoBar.modify fun _ => rfl) (Nat.le_succ _)
  · exact .refl

theorem still_embedKeyboard (env : SaverEnv) (hw : p → s.Live w)
    (hk : p → (s.window w).keyboardEnabled = true → (s.window w).keyboardCommand.isSome = true →
      env.spawnKeyboard.started = true → ¬ s.HasKeyboard w) : Still p s (s.embedKeyboard env w) := by
  simp only [embedKeyboard]
  split
  · exact .refl
  · next h =>
    have hset : (s.window w).keyboardEnabled = true ∧ (s.window w).keyboardCommand.isSome = true := by
      cases hc : (s.window w).keyboardCommand <;> simp_all
    exact still_spawnKeyboardOnWindow env hw fun hp => hk hp hset.1 hset.2

theorem still_createLockSocket (env : SaverEnv) (id : UInt32) (hw : p → s.Live w)
    (hk : p → (s.window w).keyboardEnabled = true → (s.window w).keyboardCommand.isSome = true →
      env.spawnKeyboard.started = true → ¬ s.HasKeyboard w) : Still p s (s.createLockSocket env w id) := by
  have hbox : Still p s (s.modifyWindow w fun win => { win with lockSocket := some id, lockBox := true }) :=
    still_modifyWindow hw (fun _ => rfl) (fun _ => rfl) fun _ => rfl
  have hsame : ∀ {α : Type} (g : GSWindow → α), (∀ win, g { win with lockSocket := some id, lockBox := true } =
      g win) → g ((s.modifyWindow w fun win => { win with lockSocket := some id, lockBox := true }).window w) =
        g (s.window w) := by
    intro α g hg
    simp only [window, modifyWindow_windows, if_true]
    cases s.windows w with
    | none => rfl
    | some win => exact hg win
  simp only [createLockSocket]
  split
  · refine hbox.trans (still_embedKeyboard env (hbox.keepsLive hw) fun hp hen hcmd hst => ?_)
    rw [hsame (fun win => win.keyboardEnabled) fun _ => rfl] at hen
    rw [hsame (fun win => win.keyboardCommand.isSome) fun _ => rfl] at hcmd
    have hno := hk hp hen hcmd hst
    rw [HasKeyboard, modifyWindow_loop]
    exact hno
  · exact hbox

theorem still_shaking (source : SourceId) (hw : p → s.Live w) :
    Still p s (s.modifyLoop fun l => { l with shaking := ⟨source, w⟩ :: l.shaking }) := by
  refine still_modifyLoop rfl rfl rfl rfl fun hp hs => hs.modifyLoop (fun _ => .inl) (fun x hx => ?_)
    (fun _ => id) (fun _ => id) (Nat.le_refl _)
  rcases List.mem_cons.1 hx with rfl | hx
  · exact .inr (hw hp)
  · exact .inl hx

theorem still_lockCommandLine (env : SaverEnv) (source : SourceId) (line : Scan.Text) (hw : p → s.Live w)
    (hk : p → s.embedsKeyboard env w line = true → ¬ s.HasKeyboard w) :
    Still p s (s.lockCommandLine env w source line).2 := by
  have hmodify : ∀ {f : GSWindow → GSWindow}, (∀ win, (f win).face = win.face) →
      (∀ win, (f win).keyboardWatchId = win.keyboardWatchId) →
      (∀ win, (f win).infoBarTimerId = win.infoBarTimerId) → Still p s (s.modifyWindow w f) :=
    fun hf hkey hbar => still_modifyWindow hw hf hkey hbar
  simp only [lockCommandLine]
  split
  · next hline =>
    split
    · next xid hxid =>
      refine still_createLockSocket env xid hw fun hp hen hcmd hst => hk hp ?_
      rw [embedsKeyboard, hline, hxid, hen, hcmd, hst]
      rfl
    · exact .refl
  · split
    · split
      · have hflag : Still p s (s.modifyWindow w fun win => { win with dialogShakeInProgress := true }) :=
          hmodify (fun _ => rfl) (fun _ => rfl) fun _ => rfl
        exact hflag.trans (still_shaking source (hflag.keepsLive hw))
      · exact .refl
    · split
      · split <;> exact hmodify (fun _ => rfl) (fun _ => rfl) fun _ => rfl
      · split
        · exact hmodify (fun _ => rfl) (fun _ => rfl) fun _ => rfl
        · exact .refl

theorem calms_lockCommandFinished (env : SaverEnv) (hw : p → s.Live w) :
    Calms p env s (s.lockCommandFinished env w) := by
  have hdown : Calms p env s (s.popdownDialog env w) := calms_popdownDialog env hw
  have hqueue : Calms p env s (if ((s.popdownDialog env w).window w).dialogResponse = .ok then
      (s.popdownDialog env w).modifyLoop
        (.emitDeactivated w (.response ((s.popdownDialog env w).window w).okRead))
      else s.popdownDialog env w) := by
    split
    · exact hdown.trans (still_emitDeactivated _ (hdown.keepsLive hw)).calms
    · exact hdown
  exact hqueue.trans (still_modifyWindow (f := fun win => { win with lockWatchId := 0 })
    (hqueue.keepsLive hw) (fun _ => rfl) (fun _ => rfl) fun _ => rfl).calms

/- The dispatch of a dialog's watch. -/
theorem calms_lockCommandWatch {env : Env} {x : WindowSource} {input : WatchInput} (hw : p → s.Live x.window)
    (hk : p → ∀ line, input.gIoIn = true → input.status = .normal line →
      s.embedsKeyboard env.toSaverEnv x.window line = true → ¬ s.HasKeyboard x.window) :
    Calms p env.toSaverEnv s (Screensaver.lockCommandWatch env x input s) := by
  have hdetach : ∀ t, Calms p env.toSaverEnv s t → Calms p env.toSaverEnv s (t.modifyLoop fun l =>
      { l with lockCommandWatch := MainLoop.removeId x.id l.lockCommandWatch }) := fun t h =>
    h.trans (still_otherSources rfl rfl rfl rfl rfl rfl rfl rfl (Nat.le_refl _)).calms
  have hfinished := hdetach _ (calms_lockCommandFinished (p := p) env.toSaverEnv hw)
  simp only [Screensaver.lockCommandWatch, lockCommandWatch]
  cases hin : input.gIoIn with
  | false =>
    cases input.gIoHup
    · exact .refl
    · exact hfinished
  | true =>
    cases hstatus : input.status with
    | eof => exact hfinished
    | error => exact hdetach s .refl
    | again => exact .refl
    | normal line =>
      have hline : Still p s (s.lockCommandLine env.toSaverEnv x.window x.id line).2 :=
        still_lockCommandLine env.toSaverEnv x.id line hw fun hp => hk hp line hin hstatus
      simp only [if_true]
      by_cases hfin : (s.lockCommandLine env.toSaverEnv x.window x.id line).1 = true
      · simp only [hfin, if_true, Bool.false_eq_true, if_false]
        refine hdetach _ (hline.calms.trans (calms_lockCommandFinished env.toSaverEnv ?_))
        exact hline.keepsLive hw
      · simp only [hfin, if_true, Bool.false_eq_true, if_false]
        exact hline.calms

/-! ### The other sources -/

theorem modifyLoop_modifyWindow (s : Saver) (w : WindowId) (f : GSWindow → GSWindow) (g : MainLoop → MainLoop) :
    (s.modifyWindow w f).modifyLoop g = (s.modifyLoop g).modifyWindow w f := by
  cases h : s.windows w <;> simp [modifyWindow, modifyLoop, setWindow, h]

theorem tied_window {q : List WindowSource} {id : GSWindow → SourceId} (h : Tied q id s) {x : WindowSource}
    (hx : x ∈ q) : id (s.window x.window) = x.id := by
  obtain ⟨-, win, hwin, hid⟩ := h x hx
  rw [window_of_some hwin, hid]

theorem still_keyboardCommandWatch {x : WindowSource} (input : WatchInput)
    (hx : x ∈ s.loop.keyboardCommandWatch) (hs : p → s.Intact) :
    Still p s (Screensaver.keyboardCommandWatch x input s) := by
  have hw : p → s.Live x.window := fun hp => (hs hp).keyboard.live hx
  have hdetach : Still p s (s.modifyLoop fun l =>
      { l with keyboardCommandWatch := MainLoop.removeId x.id l.keyboardCommandWatch }) :=
    still_modifyLoop rfl rfl rfl rfl fun _ h => h.modifyLoop (fun _ => .inl) (fun _ => .inl)
      (fun y hy => (List.mem_filter.1 hy).1) (fun _ => id) (Nat.le_refl _)
  have hfinished : Still p s ((s.modifyWindow x.window fun win =>
        { win with keyboardWatchId := 0, keyboardPid := 0 }).modifyLoop fun l =>
      { l with keyboardCommandWatch := MainLoop.removeId x.id l.keyboardCommandWatch }) := by
    rw [modifyLoop_modifyWindow]
    refine still_source (fun _ => rfl) rfl rfl rfl rfl fun hp h => ?_
    have hdrop := h.keyboard.drop (w := x.window) fun win => { win with keyboardWatchId := 0, keyboardPid := 0 }
    rw [tied_window h.keyboard hx] at hdrop
    exact h.source (hw hp) (fun _ => .inl) (fun _ => .inl) hdrop (h.infoBar.modify fun _ => rfl) (Nat.le_refl _)
  simp only [Screensaver.keyboardCommandWatch, keyboardCommandWatch]
  cases input.gIoIn with
  | false =>
    cases input.gIoHup
    · exact .refl
    · exact hfinished
  | true =>
    cases input.status with
    | eof => exact hfinished
    | error => exact hdetach
    | again => exact .refl
    | normal line =>
      simp only [if_true]
      cases sscanfId line with
      | none => exact .refl
      | some xid =>
        exact still_modifyWindow (f := fun win => { win with keyboardSocket := some xid }) hw (fun _ => rfl)
          (fun _ => rfl) fun _ => rfl

theorem still_infoBarTimeout {x : WindowSource} (hx : x ∈ s.loop.infoBarTimeout) (hs : p → s.Intact) :
    Still p s ((s.infoBarTimeout x.window).modifyLoop fun l =>
      { l with infoBarTimeout := MainLoop.removeId x.id l.infoBarTimeout }) := by
  rw [infoBarTimeout, modifyLoop_modifyWindow]
  refine still_source (fun _ => rfl) rfl rfl rfl rfl fun hp h => ?_
  have hdrop := h.infoBar.drop (w := x.window) fun win => { win with infoBarTimerId := 0 }
  rw [tied_window h.infoBar hx] at hdrop
  exact h.source ((hs hp).infoBar.live hx) (fun _ => .inl) (fun _ => .inl) (h.keyboard.modify fun _ => rfl) hdrop
    (Nat.le_refl _)

theorem still_emitDeactivatedIdle {x : EmitDeactivated} (hx : x ∈ s.loop.emitDeactivatedIdle)
    (hs : p → s.Intact) : Still p s ((s.emitDeactivatedIdle x.window x.cause).modifyLoop fun l =>
      { l with emitDeactivatedIdle := l.emitDeactivatedIdle.filter fun y => y.id ≠ x.id }) := by
  have hdrop : ∀ t : Saver, Still p t (t.modifyLoop fun l =>
      { l with emitDeactivatedIdle := l.emitDeactivatedIdle.filter fun y => y.id ≠ x.id }) := fun t =>
    still_modifyLoop rfl rfl rfl rfl fun _ h => h.modifyLoop (fun y hy => .inl (List.mem_filter.1 hy).1)
      (fun _ => .inl) (fun _ => id) (fun _ => id) (Nat.le_refl _)
  simp only [emitDeactivatedIdle]
  split
  · exact (still_otherSources rfl rfl rfl rfl rfl rfl rfl rfl (Nat.le_succ _)).trans (hdrop _)
  · next hdead =>
    have hlost : Still p s { s with usedDestroyed := x.window :: s.usedDestroyed } :=
      ⟨rfl, fun _ => rfl, rfl, rfl, rfl, rfl, rfl, rfl, rfl, fun hp _ => absurd ((hs hp).emit x hx) hdead⟩
    exact hlost.trans (hdrop _)

theorem still_gsWindowShowMessage (hw : p → s.Live w) : Still p s (s.gsWindowShowMessage w) := by
  simp only [gsWindowShowMessage]
  split
  · refine still_source (f := fun l => MainLoop.addInfoBarTimeout w
      { l with infoBarTimeout := MainLoop.removeId (s.window w).infoBarTimerId l.infoBarTimeout })
      (fun _ => rfl) rfl rfl rfl rfl fun hp h => ?_
    have hleft : Tied (MainLoop.removeId (s.window w).infoBarTimerId s.loop.infoBarTimeout)
        GSWindow.infoBarTimerId s := h.infoBar.mono (fun x hx => (List.mem_filter.1 hx).1) rfl
    exact h.source (hw hp) (fun _ => .inl) (fun _ => .inl) (h.keyboard.modify fun _ => rfl)
      (hleft.add (fun x hx => (h.infoBar.removed hx).2) (hw hp) (Nat.pos_iff_ne_zero.1 h.pos) fun _ => rfl)
      (Nat.le_succ _)
  · next hold =>
    refine still_source (fun _ => rfl) rfl rfl rfl rfl fun hp h => ?_
    have hfree : ∀ x ∈ s.loop.infoBarTimeout, x.window ≠ w := by
      intro x hx hxw
      have hid := tied_window h.infoBar hx
      rw [hxw] at hid
      exact (h.infoBar x hx).1 (hid ▸ Nat.eq_zero_of_not_pos hold)
    exact h.source (hw hp) (fun _ => .inl) (fun _ => .inl) (h.keyboard.modify fun _ => rfl)
      (h.infoBar.add hfree (hw hp) (Nat.pos_iff_ne_zero.1 h.pos) fun _ => rfl) (Nat.le_succ _)

theorem findWindowAtPointer_mem (h : s.findWindowAtPointer env = some w) : w ∈ s.manager.windows := by
  simp only [findWindowAtPointer] at h
  split at h
  · next v hv =>
    cases h
    exact (List.mem_filter.1 (List.mem_of_getLast? hv)).1
  · exact List.mem_of_head? h

theorem calms_gsManagerShowMessage (hl : ∀ w ∈ s.manager.windows, s.Live w) (h : s.gsManagerShowMessage env = some t) :
    Calms p env s t := by
  obtain ⟨w, hw, rfl⟩ := Option.map_eq_some_iff.1 h
  have hmem := findWindowAtPointer_mem hw
  have hmessage : Still p s (s.gsWindowShowMessage w) := still_gsWindowShowMessage fun _ => hl w hmem
  exact hmessage.calms.trans (calms_gsManagerRequestUnlock env _)

theorem still_shakeDialogEnd {x : WindowSource} {rest : List WindowSource} (hx : s.loop.shaking = x :: rest)
    (hs : p → s.Intact) :
    Still p s ((s.shakeDialogEnd x.window).modifyLoop fun l => { l with shaking := rest }) := by
  have hend : Still p s (s.shakeDialogEnd x.window) :=
    still_modifyWindow (f := fun win => { win with dialogShakeInProgress := false })
      (fun hp => (hs hp).shaking x (hx ▸ List.mem_cons_self)) (fun _ => rfl) (fun _ => rfl) fun _ => rfl
  refine hend.trans (still_modifyLoop rfl rfl rfl rfl fun _ h => h.modifyLoop (fun _ => .inl) (fun y hy => .inl ?_)
    (fun _ => id) (fun _ => id) (Nat.le_refl _))
  rw [shakeDialogEnd, modifyWindow_loop, hx]
  exact List.mem_cons_of_mem x hy

/-! ### Jobs and windows -/

theorem calms_updateJob {f : GSJob → GSJob} (hf : ∀ j, Drives env s w j (f j)) :
    Calms p env s (s.updateJob w f) := by
  refine (Calm.jobs _ fun v j => ?_).calms
  by_cases hv : v = w
  · rw [if_pos hv, hv]
    exact hf j
  · rw [if_neg hv]
    exact .kept

theorem calms_maybeStart (env : SaverEnv) (s : Saver) (w : WindowId) :
    Calms p env s (s.managerMaybeStartJobForWindow env w) := calms_updateJob fun _ => .started

theorem calms_maybeStop (env : SaverEnv) (s : Saver) (w : WindowId) :
    Calms p env s (s.managerMaybeStopJobForWindow w) := calms_updateJob fun _ => .stopped

theorem calms_jobDied (env : SaverEnv) (s : Saver) (w : WindowId) :
    Calms p env s (s.updateJob w GSJob.died) := calms_updateJob fun _ => .died

theorem calms_gsManagerCycle (env : SaverEnv) (s : Saver) : Calms p env s (s.gsManagerCycle env) := by
  simp only [gsManagerCycle]
  split
  · exact .refl
  · exact (Calm.jobs _ fun _ _ => .cycled).calms

theorem calms_cycleTimeoutCb (env : SaverEnv) (s : Saver) : Calms p env s (s.cycleTimeoutCb env) := by
  simp only [cycleTimeoutCb]
  split
  · exact calms_gsManagerCycle env s
  · exact .refl

theorem calms_windowMapEventCb (env : SaverEnv) (s : Saver) (w : WindowId) :
    Calms p env s (s.windowMapEventCb env w) := by
  have hgrab : Still p s (s.managerMaybeGrabWindow env w) := by
    simp only [managerMaybeGrabWindow]
    split
    · exact still_modifyGrab _
    · exact .refl
  exact hgrab.calms.trans (calms_maybeStart env _ w)

theorem calms_windowSetObscured (env : SaverEnv) (b : Bool) (live : s.Live w) :
    Calms p env s (s.windowSetObscured env w b) := by
  simp only [windowSetObscured]
  split
  · exact .refl
  · refine (Calm.obscure w b live).calms.trans ?_
    generalize s.modifyWindow w (fun win => { win with obscured := b }) = t
    have hjob : Calms p env t (if (t.window w).obscured then t.managerMaybeStopJobForWindow w
        else t.managerMaybeStartJobForWindow env w) := by
      split
      · exact calms_maybeStop env t w
      · exact calms_maybeStart env t w
    simp only [windowObscuredCb]
    split
    · exact hjob.trans (calms_gsManagerRequestUnlock env _)
    · exact hjob

theorem calms_maybeHandleActivity (env : SaverEnv) (s : Saver) (w : WindowId) :
    Calms p env s (s.maybeHandleActivity env w) := by
  simp only [maybeHandleActivity]
  split
  · exact calms_gsManagerRequestUnlock env s
  · exact .refl

theorem calms_gtkWidgetShow (env : SaverEnv) (on : s.manager.active = true) (live : s.Live w) :
    Calms p env s (s.gtkWidgetShow env w) := by
  cases h : (s.window w).visible
  · exact (Calm.appear w on live h).calms
  · rw [gtkWidgetShow, if_pos h]

end Saver
end MateScreensaver
