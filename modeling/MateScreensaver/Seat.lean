import MateScreensaver.Attention

/-!
The grab of the seat when the saver is turned off: it is released first, and the
windows are destroyed after that. A window whose dialog is still up takes the
dialog down, and that moves the grab to the window.
-/

namespace MateScreensaver
open Runs

namespace Saver

variable {env : SaverEnv} {s t : Saver} {w : WindowId}

/-! ### What taking a dialog down does to the grab -/

theorem modifyWindow_grab (s : Saver) (w : WindowId) (f : GSWindow → GSWindow) :
    (s.modifyWindow w f).grab = s.grab := (modifyWindow_rest s w f).2.2.2

theorem afterDown_grab (s : Saver) (w : WindowId) :
    (((s.removeLockBox w).removePopupDialogIdle w).removeCommandWatches w).grab = s.grab := by
  have hbox : ∀ v : Saver, (v.removeLockBox w).grab = v.grab := by
    intro v
    simp only [removeLockBox]
    split
    · exact modifyWindow_grab v w _
    · rfl
  have hidle : ∀ v : Saver, (v.removePopupDialogIdle w).grab = v.grab := by
    intro v
    simp only [removePopupDialogIdle]
    split
    · exact modifyWindow_grab _ w _
    · rfl
  have hlock : ∀ v : Saver, (v.removeLockWatch w).grab = v.grab := by
    intro v
    simp only [removeLockWatch]
    split
    · exact modifyWindow_grab _ w _
    · rfl
  have hkeyboard : ∀ v : Saver, (v.removeKeyboardWatch w).grab = v.grab := by
    intro v
    simp only [removeKeyboardWatch]
    split
    · exact modifyWindow_grab _ w _
    · rfl
  rw [removeCommandWatches, hkeyboard, hlock, hidle, hbox]

theorem windowSetDialogUp_grab (env : SaverEnv) (s : Saver) (w : WindowId) :
    (s.windowSetDialogUp env w false).grab =
      if (s.window w).dialogUp then s.grab.moveToWindow (.window w) false false else s.grab := by
  cases hup : (s.window w).dialogUp
  · rw [windowSetDialogUp, if_pos hup]
    rfl
  · obtain ⟨win, hwin⟩ := Option.isSome_iff_exists.1 (live_of_window (b := GSWindow.dialogUp) rfl hup)
    let s1 := s.modifyWindow w fun win => { win with dialogUp := false }
    have hdown : (s1.window w).dialogUp = false := by
      simp [s1, window, modifyWindow_windows, hwin]
    let s2 := s1.modifyGrab (.moveToWindow (.window w) false false)
    have hfold : (s2.forWindows fun v s => s.setSensitive v true).grab = s2.grab :=
      (modifyWindow_foldl (sensed true) (fun _ => rfl) s2.manager.windows s2).1.grab
    have hcb : (s1.handleWindowDialogDown env w).grab = s2.grab := by
      simp only [handleWindowDialogDown]
      split
      · exact hfold
      · exact hfold
    rw [windowSetDialogUp, if_neg (by rw [hup]; decide), windowDialogUpChangedCb, if_neg (by rw [hdown]; decide)]
    rw [hcb, if_pos rfl]
    show s1.grab.moveToWindow (.window w) false false = _
    rw [modifyWindow_grab]

theorem gsWindowDestroy_grab (env : SaverEnv) (s : Saver) (w : WindowId) :
    (s.gsWindowDestroy env w).grab = GSGrab.windowGone w
      (if (s.window w).dialogUp then s.grab.moveToWindow (.window w) false false else s.grab) := by
  let s1 := s.gsWindowDialogFinish w
  have hwin : (s1.window w).dialogUp = (s.window w).dialogUp := by
    simp only [s1, gsWindowDialogFinish, window, modifyWindow_windows, if_pos]
    cases s.windows w <;> rfl
  have hpop : (s.popdownDialog env w).grab =
      if (s.window w).dialogUp then s.grab.moveToWindow (.window w) false false else s.grab := by
    have h := (afterDown_grab (s1.windowSetDialogUp env w false) w).trans (windowSetDialogUp_grab env s1 w)
    rw [hwin, show s1.grab = s.grab from modifyWindow_grab s w _] at h
    exact h
  rw [← hpop]
  rfl

theorem gsWindowDestroy_dialogUp (env : SaverEnv) (s : Saver) {v w : WindowId} (hv : v ≠ w) :
    ((s.gsWindowDestroy env w).window v).dialogUp = (s.window v).dialogUp := by
  have hview : (s.gsWindowDestroy env w).view.window v = s.view.window v := by
    rw [view_gsWindowDestroy, LockScreen.destroy_window, if_neg hv]
  have hd := congrArg (fun d : Option DialogWindow => (d.map DialogWindow.dialogUp).getD false) hview
  have hget : ∀ u : Saver, ((u.view.window v).map DialogWindow.dialogUp).getD false = (u.window v).dialogUp := by
    intro u
    show (((u.windows v).map GSWindow.view).map DialogWindow.dialogUp).getD false = ((u.windows v).getD _).dialogUp
    cases u.windows v <;> rfl
  rw [hget, hget] at hd
  exact hd

/-- A free seat stays without a grab window, and every dialog that was up costs one grab. -/
theorem destroyAll_grab (env : SaverEnv) {l : List WindowId} (hn : l.Nodup) (s : Saver)
    (hfree : s.grab.grabWindow = none) :
    (l.foldl (fun s w => s.gsWindowDestroy env w) s).grab.grabWindow = none ∧
    (l.foldl (fun s w => s.gsWindowDestroy env w) s).grab.ops =
      ((l.filter fun w => (s.window w).dialogUp).map fun w => GrabOp.grab (.window w) false).reverse ++
        s.grab.ops := by
  induction l generalizing s with
  | nil => exact ⟨hfree, rfl⟩
  | cons w l ih =>
    obtain ⟨hw, hl⟩ := List.nodup_cons.1 hn
    let s1 := s.gsWindowDestroy env w
    have hgrab : s1.grab.grabWindow = none ∧ s1.grab.ops =
        if (s.window w).dialogUp then .grab (.window w) false :: s.grab.ops else s.grab.ops := by
      rw [show s1.grab = _ from gsWindowDestroy_grab env s w]
      cases (s.window w).dialogUp
      · simp [GSGrab.windowGone, hfree]
      · simp [GSGrab.windowGone, GSGrab.moveToWindow, GSGrab.get, hfree]
    have hrest : (l.filter fun v => (s1.window v).dialogUp) = l.filter fun v => (s.window v).dialogUp := by
      refine List.filter_congr fun v hv => ?_
      have hvw : v ≠ w := fun h => hw (h ▸ hv)
      exact gsWindowDestroy_dialogUp env s hvw
    obtain ⟨hnone, hops⟩ := ih hl s1 hgrab.1
    refine ⟨hnone, hops.trans ?_⟩
    rw [hrest, hgrab.2, List.filter_cons]
    cases (s.window w).dialogUp
    · rfl
    · simp

theorem silenced_grab (s : Saver) : s.silenced.grab = s.grab.release ∧ s.silenced.windows = s.windows := by
  rw [silenced, removeCycleTimer_eq, removeLockTimer_eq]
  exact ⟨rfl, rfl⟩

/- All operations of a deactivation. -/
theorem gsManagerDeactivate_grab (env : SaverEnv) (hh : s.Housed) (on : s.manager.active = true) :
    (s.gsManagerDeactivate env).2.grab.grabWindow = none ∧
    (s.gsManagerDeactivate env).2.grab.ops =
      ((s.manager.windows.filter fun w => (s.window w).dialogUp).map fun w =>
        GrabOp.grab (.window w) false).reverse ++ .release :: s.grab.ops := by
  obtain ⟨hgrab, hwin⟩ := silenced_grab s
  rw [gsManagerDeactivate_eq env on]
  show (s.silenced.gsManagerDestroyWindows env).grab.grabWindow = none ∧
    (s.silenced.gsManagerDestroyWindows env).grab.ops = _
  by_cases hempty : s.manager.windows = []
  · rw [silenced_destroyNone env hempty, hgrab, hempty]
    exact ⟨rfl, rfl⟩
  · have hv : ∀ w, s.silenced.unplugged.window w = s.window w := fun w => by
      show (s.silenced.windows w).getD _ = _
      rw [hwin]
      rfl
    have hvgrab : s.silenced.unplugged.grab = s.grab.release := hgrab
    have hall := destroyAll_grab env hh.nodup s.silenced.unplugged (by rw [hvgrab]; rfl)
    simp only [hv, hvgrab] at hall
    rw [silenced_destroyAll env hempty]
    exact hall

/-- No grab follows the last release of a deactivation, and no window holds the grab. -/
def GivesBack (env : SaverEnv) (s : Saver) : Prop :=
  ∃ done, (s.gsManagerDeactivate env).2.grab.ops = done ++ s.grab.ops ∧
    done.head? = some .release ∧ (s.gsManagerDeactivate env).2.grab.grabWindow = none

theorem givesBack_iff (env : SaverEnv) (hh : s.Housed) (on : s.manager.active = true) :
    s.GivesBack env ↔ ∀ w ∈ s.manager.windows, (s.window w).dialogUp = false := by
  obtain ⟨hnone, hops⟩ := gsManagerDeactivate_grab env hh on
  constructor
  · rintro ⟨done, hdone, hhead, -⟩ w hw
    by_contra hup
    have hup' : (s.window w).dialogUp = true := by simpa using hup
    have hmem : w ∈ s.manager.windows.filter fun w => (s.window w).dialogUp := List.mem_filter.2 ⟨hw, hup'⟩
    rw [hdone, List.append_cons, List.append_cancel_right_eq] at hops
    generalize (s.manager.windows.filter fun w => (s.window w).dialogUp) = ups at hmem hops
    cases hrev : (ups.map fun w => GrabOp.grab (.window w) false).reverse with
    | nil =>
      rw [List.reverse_eq_nil_iff, List.map_eq_nil_iff] at hrev
      rw [hrev] at hmem
      cases hmem
    | cons op rest =>
      rw [hrev, List.cons_append] at hops
      rw [hops] at hhead
      have hop : op ∈ (ups.map fun w => GrabOp.grab (.window w) false).reverse := by
        rw [hrev]
        exact List.mem_cons_self
      obtain ⟨x, -, hx⟩ := List.mem_map.1 (List.mem_reverse.1 hop)
      rw [← hx] at hhead
      cases hhead
  · intro hdown
    have hfilter : (s.manager.windows.filter fun w => (s.window w).dialogUp) = [] := by
      refine List.filter_eq_nil_iff.2 fun w hw => ?_
      rw [hdown w hw]
      decide
    rw [hfilter] at hops
    exact ⟨[.release], hops, rfl, hnone⟩

end Saver

namespace Screensaver

variable {s : Screensaver}

theorem devices_returned_iff (hr : screensaver.Reachable s) (on : s.saver.manager.active = true) (env : SaverEnv) :
    s.saver.GivesBack env ↔ s.saver.manager.dialogUp = false := by
  obtain ⟨⟨hs, hh⟩, ha⟩ := attentive_invariant.reachable hr
  rw [Saver.givesBack_iff env hh on]
  constructor
  · intro hdown
    by_contra hup
    have hup' : s.saver.manager.dialogUp = true := by simpa using hup
    obtain ⟨w, d, hd, hdup⟩ := hs.sound.dialog.1 hup'
    obtain ⟨win, hw, rfl⟩ := Option.map_eq_some_iff.1 hd
    have hwdown := hdown w ((hh.listed w).2 (live_of_view hd))
    rw [Saver.window_of_some hw] at hwdown
    exact absurd hdup (by rw [show win.view.dialogUp = false from hwdown]; decide)
  · intro hdown w hw
    obtain ⟨win, hwin⟩ := Option.isSome_iff_exists.1 ((hh.listed w).1 hw)
    rw [Saver.window_of_some hwin]
    exact (ha.down hdown hwin).1

theorem devices_returned : ∃ s, screensaver.run (desk.start granted) [lockNow] = some s ∧
    s.saver.GivesBack granted.toSaverEnv := by
  let s := (screensaver.run (desk.start granted) [lockNow]).get (by decide)
  have hrun : screensaver.run (desk.start granted) [lockNow] = some s := by simp [s]
  exact ⟨s, hrun, (devices_returned_iff (desk_reachable _ hrun) (by decide) granted.toSaverEnv).2 (by decide)⟩

/- Unlock while the dialog is up: the seat is grabbed for the window that is
about to go. -/
theorem devices_kept : ¬ ∀ s env, screensaver.Reachable s → s.saver.manager.active = true →
    s.saver.GivesBack env := by
  intro h
  let s := (screensaver.run (desk.start granted) asked).get (by decide)
  obtain ⟨done, hdone, hhead, -⟩ := h s granted.toSaverEnv (desk_reachable asked (by simp [s])) (by decide)
  have hlast : (s.saver.gsManagerDeactivate granted.toSaverEnv).2.grab.ops.head? =
      some (.grab (.window 0) false) := by decide
  cases done with
  | nil => cases hhead
  | cons op rest =>
    rw [hdone] at hlast
    have hop : some op = some (GrabOp.grab (.window 0) false) := hlast
    have hrel : some op = some GrabOp.release := hhead
    rw [hrel] at hop
    cases hop

end Screensaver
end MateScreensaver
