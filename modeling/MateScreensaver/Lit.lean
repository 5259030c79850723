import MateScreensaver.Roster

/-!
Which windows are shown. As long as no handler is in the middle of its work, the
windows of an active saver are shown, and those of an inactive one are not.
-/

namespace MateScreensaver
namespace Saver
open Screensaver (repeated monitorAdded monitorRemoved)

variable {p : Prop} {env : SaverEnv} {s t u : Saver} {w : WindowId} {win' : GSWindow}

def Lit (s : Saver) : Prop := ∀ w win, s.windows w = some win → win.visible = s.manager.active

theorem Lit.same (h : s.Lit) (active : t.manager.active = s.manager.active)
    (windows : ∀ w win', t.windows w = some win' →
      ∃ win, s.windows w = some win ∧ win'.visible = win.visible) : t.Lit := by
  intro w win' hw
  obtain ⟨win, hs, hv⟩ := windows w win' hw
  rw [hv, active]
  exact h w win hs

theorem Lit.tuned (h : s.Lit) (ht : Tuned p s t) : t.Lit := by
  refine h.same ht.steady.active fun w win' hw => ?_
  obtain ⟨win, hs, hbare⟩ := ht.window hw
  exact ⟨win, hs, (congrArg GSWindow.visible hbare :)⟩

theorem Lit.locking (h : s.Lit) (hl : Locking s t) : t.Lit := by
  refine h.same hl.active fun w win' hw => ?_
  obtain ⟨win, _, hs, rfl⟩ := hl.window hw
  exact ⟨win, hs, rfl⟩

/- No move hides a window, and only an active saver shows one. -/
theorem Calm.visible (hc : Calm p env s t) {v : WindowId} (hv : t.windows v = some win') :
    ∃ win, s.windows v = some win ∧
      (win'.visible = win.visible ∨ s.manager.active = true ∧ win'.visible = true) := by
  cases hc with
  | still h =>
    have hface := h.face v
    rw [hv] at hface
    obtain ⟨win, hs, heq⟩ := Option.map_eq_some_iff.1 hface.symm
    have hvis : win.face.visible = win'.face.visible := by rw [heq]
    exact ⟨win, hs, .inl hvis.symm⟩
  | raise w on down off live =>
    obtain ⟨win, _, _, hs, rfl⟩ := (raised_windowSetDialogUp env off live).window hv
    exact ⟨win, hs, .inl rfl⟩
  | lower w up =>
    obtain ⟨win, _, _, hs, rfl⟩ := (lowered_windowSetDialogUp env up).window hv
    exact ⟨win, hs, .inl rfl⟩
  | jobs f h => exact ⟨win', hv, .inl rfl⟩
  | obscure w b live =>
    obtain ⟨win, _, hs, rfl⟩ := obscured_window hv
    exact ⟨win, hs, .inl rfl⟩
  | appear w on live hidden =>
    obtain ⟨win, hs, rfl⟩ := (appeared_gtkWidgetShow env live hidden).window hv
    refine ⟨win, hs, ?_⟩
    dsimp only
    split
    · exact .inr ⟨on, rfl⟩
    · exact .inl rfl

theorem Lit.calm (h : s.Lit) (hc : Calm p env s t) : t.Lit := by
  intro v win' hv
  obtain ⟨win, hs, hvis⟩ := hc.visible hv
  rw [hc.steady.active]
  rcases hvis with hvis | ⟨on, hvis⟩
  · rw [hvis]
    exact h v win hs
  · rw [hvis, on]

theorem Lit.calms (h : s.Lit) (hc : Calms p env s t) : t.Lit := by
  induction hc with
  | refl => exact h
  | tail _ hc ih => exact ih.calm hc

/- A window that is shown stays so. -/
theorem Calms.visible (hc : Calms p env s t) {v : WindowId} {win : GSWindow} (hs : s.windows v = some win)
    (hvis : win.visible = true) : ∃ win', t.windows v = some win' ∧ win'.visible = true := by
  induction hc with
  | refl => exact ⟨win, hs, hvis⟩
  | tail _ hc ih =>
    obtain ⟨mid, hmid, hshown⟩ := ih
    have hlive := (hc.steady.live v).2 (Option.isSome_iff_exists.2 ⟨mid, hmid⟩)
    obtain ⟨win', hwin'⟩ := Option.isSome_iff_exists.1 hlive
    obtain ⟨mid', hmid', hsame⟩ := hc.visible hwin'
    rw [hmid] at hmid'
    cases hmid'
    refine ⟨win', hwin', ?_⟩
    rcases hsame with hsame | ⟨-, hsame⟩
    · rw [hsame, hshown]
    · exact hsame

/-! ### Windows that are made -/

theorem gtkWidgetShow_visible (env : SaverEnv) (live : s.Live w) :
    ∃ win, (s.gtkWidgetShow env w).windows w = some win ∧ win.visible = true := by
  obtain ⟨win, hs⟩ := Option.isSome_iff_exists.1 live
  cases hvis : (s.window w).visible
  · have ha := appeared_gtkWidgetShow env live hvis
    refine ⟨{ win with visible := true }, ?_, rfl⟩
    rw [ha.windows, hs]
    exact congrArg some (if_pos rfl)
  · rw [window_of_some hs] at hvis
    refine ⟨win, ?_, hvis⟩
    rw [gtkWidgetShow, if_pos (by rw [window_of_some hs, hvis])]
    exact hs

theorem showAll_visible (env : SaverEnv) (l : List WindowId) (on : s.manager.active = true) (hl : ∀ w ∈ l, s.Live w) :
    ∀ w ∈ l, ∃ win, (l.foldl (fun t w => t.gtkWidgetShow env w) s).windows w = some win ∧ win.visible = true := by
  induction l generalizing s with
  | nil => exact fun w hw => (nomatch hw)
  | cons x l ih =>
    have hlive := hl x List.mem_cons_self
    have hone : Calms False env s (s.gtkWidgetShow env x) := calms_gtkWidgetShow env on hlive
    have hon := hone.steady.active.trans on
    have hrest : ∀ w ∈ l, (s.gtkWidgetShow env x).Live w := fun w hw =>
      (hone.steady.live w).2 (hl w (List.mem_cons_of_mem x hw))
    intro w hw
    rcases List.mem_cons.1 hw with rfl | hw
    · obtain ⟨win, hs, hvis⟩ := gtkWidgetShow_visible env hlive
      have hall : Calms False env (s.gtkWidgetShow env w) _ := calms_showAll env l hon hrest
      exact hall.visible hs hvis
    · exact ih hon hrest w hw

theorem lit_gsManagerActivate (hh : s.Housed) (off : s.manager.active = false) (granted : env.grabRoot = true) :
    (s.gsManagerActivate env).2.Lit := by
  obtain ⟨u, hacts, hoff, -, -, heq⟩ := gsManagerActivate_split (p := False) hh off granted
  have hon : Act False env u u.turnedOn := .turnOn hoff
  have hhu : u.turnedOn.Housed := hon.housed (hacts.housed hh)
  have hlive : ∀ w ∈ u.turnedOn.manager.windows, u.turnedOn.Live w := fun w hw => (hhu.listed w).1 hw
  have hall : Calms False env u.turnedOn (u.turnedOn.forWindows fun w s => s.gtkWidgetShow env w) :=
    calms_showAll env _ rfl hlive
  rw [heq]
  intro w win hw
  have hw' : (u.turnedOn.forWindows fun w s => s.gtkWidgetShow env w).windows w = some win := hw
  have hlisted := (hhu.listed w).2 ((hall.steady.live w).1 (Option.isSome_iff_exists.2 ⟨win, hw'⟩))
  obtain ⟨win', hwin', hvis⟩ := showAll_visible env u.turnedOn.manager.windows rfl hlive w hlisted
  have hsame := hw'.symm.trans hwin'
  cases hsame
  rw [hvis]
  exact hall.steady.active.symm

theorem Lit.createWindow (h : s.Lit) (hh : s.Housed) (env : SaverEnv) (m : MonitorId) :
    (s.gsManagerCreateWindowForMonitor env m).Lit := by
  have heq : s.gsManagerCreateWindowForMonitor env m =
      if (s.withWindow m).manager.active then (s.withWindow m).gtkWidgetShow env s.nextWindow
      else s.withWindow m := rfl
  have hwindows : ∀ v, (s.withWindow m).windows v =
      if v = s.nextWindow then some (gsWindowNew m s.manager) else s.windows v := fun _ => rfl
  rw [heq]
  split
  · next hon =>
    have hlive : (s.withWindow m).Live s.nextWindow :=
      ((hh.withWindow m).listed _).1 (List.mem_append_right _ (List.mem_singleton_self _))
    have hhidden : ((s.withWindow m).window s.nextWindow).visible = false := by
      have hnew : (s.withWindow m).windows s.nextWindow = some (gsWindowNew m s.manager) :=
        (hwindows _).trans (if_pos rfl)
      rw [window_of_some hnew]
      rfl
    have ha := appeared_gtkWidgetShow env hlive hhidden
    have hshown : Calms False env (s.withWindow m) _ := calms_gtkWidgetShow env hon hlive
    intro v win' hv
    obtain ⟨win, hs, rfl⟩ := ha.window hv
    rw [hshown.steady.active, hon]
    dsimp only
    split
    · rfl
    · next hne =>
      rw [hwindows, if_neg hne] at hs
      exact (h v win hs).trans hon
  · next hoff =>
    intro v win hv
    rw [hwindows] at hv
    split at hv
    · cases hv
      exact (Bool.not_eq_true _ ▸ hoff : (s.withWindow m).manager.active = false).symm
    · exact h v win hv

/-! ### Monitors -/

theorem lit_repeatedAdded (env : SaverEnv) (m : MonitorId) (n : Nat) (hs : s.view.Sound) (hh : s.Housed)
    (h : s.Lit) : (repeated (.onDisplayMonitorAdded env m) n s).Lit := by
  induction n generalizing s with
  | zero => exact h
  | succ n ih =>
    let u := s.forWindows fun w s => s.gsWindowCancelUnlockRequest env w
    have hcancel : Calms False env s u := calms_cancelAll env False.elim
    have hcreate := (h.calms hcancel).createWindow (hh.steady hcancel.steady) env m
    have hask : Calms False env (u.gsManagerCreateWindowForMonitor env m) (s.onDisplayMonitorAdded env m) :=
      calms_gsManagerRequestUnlock env _
    have hone : Acts False env s (s.onDisplayMonitorAdded env m) := acts_onDisplayMonitorAdded env m hs hh
    exact ih (keeps_onDisplayMonitorAdded (r := True) env s m hs).sound (hone.housed hh) (hcreate.calms hask)

theorem Lit.removeMonitorWindow (h : s.Lit) (env : SaverEnv) (w : WindowId) :
    (s.removeMonitorWindow env w).Lit := by
  have hstop : (s.managerMaybeStopJobForWindow w).Lit := h.calms (calms_maybeStop (p := False) env s w)
  have hjob : ((s.managerMaybeStopJobForWindow w).withoutJob w).Lit := hstop
  rw [removeMonitorWindow_eq]
  generalize (s.managerMaybeStopJobForWindow w).withoutJob w = v at hjob
  have hdown : (v.popdownDialog env w).Lit := hjob.calms (calms_popdownDialog (p := False) env False.elim)
  refine hdown.same rfl fun x win' hx => ?_
  have hx' : (if x = w then none else (v.popdownDialog env w).windows x) = some win' := hx
  split at hx'
  · cases hx'
  · exact ⟨win', hx', rfl⟩

theorem lit_repeatedRemoved (env : SaverEnv) (m : MonitorId) (n : Nat) (h : s.Lit) :
    (repeated (.onDisplayMonitorRemoved env m) n s).Lit := by
  induction n generalizing s with
  | zero => exact h
  | succ n ih =>
    have hall : ∀ (l : List WindowId) (s : Saver), s.Lit →
        (l.foldl (fun s w => if (s.window w).monitor = m then s.removeMonitorWindow env w else s) s).Lit := by
      intro l
      induction l with
      | nil => exact fun s hs => hs
      | cons x l ihl =>
        intro s hs
        rw [List.foldl_cons]
        apply ihl
        split
        · exact hs.removeMonitorWindow env x
        · exact hs
    exact ih (hall s.manager.windows s h)

end Saver

namespace Screensaver
open Saver (Lit)

variable {p : Prop} {s t s₀ : Screensaver} {env : Env} {e : Event} {v u : Saver}

theorem lit_kind (hs : s₀.saver.view.Sound) (hh : v.Housed) (h : v.Lit) (hk : Kind p env s₀ e v u) : u.Lit := by
  cases hk with
  | calm hc => exact h.calm hc
  | tune ht => exact h.tuned ht
  | locking hl => exact h.locking hl
  | activate off granted => exact Saver.lit_gsManagerActivate hh off granted
  | deactivate ends first on =>
    intro w win hw
    rw [(Saver.gsManagerDeactivate_ended env.toSaverEnv hh on).lost] at hw
    cases hw
  | added m he first new =>
    subst first
    let x : Saver := { (s₀.tick env).saver with display :=
      { (s₀.tick env).saver.display with monitors := (s₀.tick env).saver.display.monitors ++ [m] } }
    have hx : x.Housed := hh.same rfl rfl rfl
    have hsound : x.view.Sound := hs
    exact Saver.lit_repeatedAdded env.toSaverEnv m _ hsound hx h
  | removed m he first => exact Saver.lit_repeatedRemoved env.toSaverEnv m _ h
  | throttle b first =>
    obtain ⟨jobs, hjobs⟩ := throttled_eq env.toSaverEnv v b
    rw [hjobs]
    exact h

theorem start_lit (b : Boot) (env : Env) : (b.start env).saver.Lit := by
  obtain ⟨v, hlock, -, htuned⟩ := start_saver True b env
  have h0 : b.unsettled.saver.Lit := fun w win hw => (nomatch hw)
  exact (h0.locking hlock).tuned htuned

end Screensaver
end MateScreensaver
