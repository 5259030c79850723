import MateScreensaver.Dispatch
import MateScreensaver.Lock

/-!
One dialog at a time: the flag of the manager and those of the windows agree,
and while a dialog is up only its window takes input.
-/

namespace MateScreensaver
open Runs

namespace Saver

variable {p : Prop} {env : SaverEnv} {s t : Saver} {w : WindowId}

/-- What the manager and the windows that are left know of the dialog. -/
structure Attentive (s : Saver) : Prop where
  up : ∀ w win, s.windows w = some win → win.dialogUp = true → s.manager.dialogUp = true
  one : ∀ v w vin win, s.windows v = some vin → s.windows w = some win → vin.dialogUp = true →
    win.dialogUp = true → v = w
  sensitive : ∀ w win, s.windows w = some win → win.sensitive = (win.dialogUp || !s.manager.dialogUp)
  off : s.manager.active = false → s.manager.dialogUp = false

/- Windows may go, and change in other ways. -/
theorem Attentive.same (h : s.Attentive) (dialogUp : t.manager.dialogUp = s.manager.dialogUp)
    (active : t.manager.active = s.manager.active)
    (windows : ∀ w win', t.windows w = some win' → ∃ win, s.windows w = some win ∧
      win'.dialogUp = win.dialogUp ∧ win'.sensitive = win.sensitive) : t.Attentive where
  up w win' hw hup := by
    obtain ⟨win, hs, hd, -⟩ := windows w win' hw
    rw [dialogUp]
    exact h.up w win hs (hd ▸ hup)
  one v w vin win hv hw hvup hwup := by
    obtain ⟨vin', hsv, hdv, -⟩ := windows v vin hv
    obtain ⟨win', hsw, hdw, -⟩ := windows w win hw
    exact h.one v w vin' win' hsv hsw (hdv ▸ hvup) (hdw ▸ hwup)
  sensitive w win' hw := by
    obtain ⟨win, hs, hd, hsens⟩ := windows w win' hw
    rw [hsens, hd, dialogUp]
    exact h.sensitive w win hs
  off hoff := by
    rw [dialogUp]
    exact h.off (active ▸ hoff)

theorem Attentive.tuned (h : s.Attentive) (ht : Tuned p s t) : t.Attentive := by
  refine h.same (congrArg GSManager.dialogUp ht.manager :) (congrArg GSManager.active ht.manager :) ?_
  intro w win' hw
  obtain ⟨win, hs, hbare⟩ := ht.window hw
  exact ⟨win, hs, (congrArg GSWindow.dialogUp hbare :), (congrArg GSWindow.sensitive hbare :)⟩

theorem Attentive.down (h : s.Attentive) (hd : s.manager.dialogUp = false) {win : GSWindow}
    (hw : s.windows w = some win) : win.dialogUp = false ∧ win.sensitive = true := by
  have hwd : win.dialogUp = false := by
    by_contra hup
    have hm := h.up w win hw (by simpa using hup)
    rw [hd] at hm
    cases hm
  refine ⟨hwd, ?_⟩
  rw [h.sensitive w win hw, hwd, hd]
  rfl

theorem Attentive.raise (h : s.Attentive) (hh : s.Housed) (on : s.manager.active = true)
    (down : s.manager.dialogUp = false) (hr : Raised w s t) : t.Attentive := by
  have hmup : t.manager.dialogUp = true := by rw [hr.manager]
  have hwin : ∀ v vin', t.windows v = some vin' →
      (v = w ∧ vin'.dialogUp = true ∧ vin'.sensitive = true) ∨
      (v ≠ w ∧ vin'.dialogUp = false ∧ vin'.sensitive = false) := by
    intro v vin' hv
    rw [hr.windows] at hv
    obtain ⟨vin, hs, rfl⟩ := Option.map_eq_some_iff.1 hv
    obtain ⟨hd, hsens⟩ := h.down down hs
    by_cases hvw : v = w
    · rw [if_pos hvw]
      exact .inl ⟨hvw, rfl, hsens⟩
    · have hlisted : v ∈ s.manager.windows := (hh.listed v).2 (by rw [Live, hs]; rfl)
      rw [if_neg hvw, if_pos hlisted]
      exact .inr ⟨hvw, hd, rfl⟩
  refine ⟨fun _ _ _ _ => hmup, fun v x vin xin hv hx hvup hxup => ?_, fun v vin hv => ?_, fun hoff => ?_⟩
  · rcases hwin v vin hv with ⟨rfl, -, -⟩ | ⟨-, hd, -⟩
    · rcases hwin x xin hx with ⟨rfl, -, -⟩ | ⟨-, hd, -⟩
      · rfl
      · rw [hd] at hxup
        cases hxup
    · rw [hd] at hvup
      cases hvup
  · rcases hwin v vin hv with ⟨-, hd, hsens⟩ | ⟨-, hd, hsens⟩
    · rw [hd, hsens]
      rfl
    · rw [hd, hsens, hmup]
      rfl
  · have hact : t.manager.active = s.manager.active := by rw [hr.manager]
    rw [hact, on] at hoff
    cases hoff

theorem Attentive.lower (h : s.Attentive) (hh : s.Housed) (up : (s.window w).dialogUp = true)
    (hl : Lowered env w s t) : t.Attentive := by
  obtain ⟨start, -, hm⟩ := hl.manager
  have hmdown : t.manager.dialogUp = false := by rw [hm]
  have hlive : s.Live w := live_of_window rfl up
  obtain ⟨win, hw⟩ := Option.isSome_iff_exists.1 hlive
  have hwup : win.dialogUp = true := by
    rw [window_of_some hw] at up
    exact up
  have hwin : ∀ v vin', t.windows v = some vin' → vin'.dialogUp = false ∧ vin'.sensitive = true := by
    intro v vin' hv
    rw [hl.windows] at hv
    obtain ⟨vin, hs, rfl⟩ := Option.map_eq_some_iff.1 hv
    have hlisted : v ∈ s.manager.windows := (hh.listed v).2 (by rw [Live, hs]; rfl)
    dsimp only
    rw [if_pos hlisted]
    refine ⟨?_, rfl⟩
    by_cases hvw : v = w
    · rw [if_pos hvw]
      rfl
    · rw [if_neg hvw]
      show vin.dialogUp = false
      by_contra hvup
      exact hvw (h.one v w vin win hs hw (by simpa using hvup) hwup)
  refine ⟨fun v vin hv hvup => ?_, fun v x vin xin hv hx hvup hxup => ?_, fun v vin hv => ?_, fun _ => hmdown⟩
  · rw [(hwin v vin hv).1] at hvup
    cases hvup
  · rw [(hwin v vin hv).1] at hvup
    cases hvup
  · obtain ⟨hd, hsens⟩ := hwin v vin hv
    rw [hd, hsens, hmdown]
    rfl

theorem Attentive.calm (h : s.Attentive) (hh : s.Housed) (hc : Calm p env s t) : t.Attentive := by
  cases hc with
  | still ht => exact h.tuned ht.tuned
  | raise w on down off live => exact h.raise hh on down (raised_windowSetDialogUp env off live)
  | lower w up => exact h.lower hh up (lowered_windowSetDialogUp env up)
  | jobs f hf => exact { h with }
  | obscure w b live =>
    refine h.same ?_ ?_ fun v win' hv => ?_
    · rw [modifyWindow_manager]
    · rw [modifyWindow_manager]
    · obtain ⟨win, _, hs, rfl⟩ := obscured_window hv
      exact ⟨win, hs, rfl, rfl⟩
  | appear w on live hidden =>
    have ha := appeared_gtkWidgetShow env live hidden
    refine h.same (congrArg GSManager.dialogUp ha.manager :) (congrArg GSManager.active ha.manager :) ?_
    intro v win' hv
    obtain ⟨win, hs, rfl⟩ := ha.window hv
    exact ⟨win, hs, rfl, rfl⟩

theorem Attentive.act (h : s.Attentive) (hh : s.Housed) (ha : Act p env s t) : t.Attentive := by
  cases ha with
  | calm hc => exact h.calm hh hc
  | plug d => exact { h with }
  | create m down =>
    have hdown : s.manager.dialogUp = false := by
      cases hact : s.manager.active
      · exact h.off hact
      · exact down hact
    have hwin : ∀ v vin', (s.withWindow m).windows v = some vin' →
        vin'.dialogUp = false ∧ vin'.sensitive = true := by
      intro v vin' hv
      have hv' : (if v = s.nextWindow then some (gsWindowNew m s.manager) else s.windows v) = some vin' := hv
      split at hv'
      · cases hv'
        exact ⟨rfl, rfl⟩
      · exact h.down hdown hv'
    refine ⟨fun v vin hv hvup => ?_, fun v x vin xin hv hx hvup hxup => ?_, fun v vin hv => ?_, fun _ => hdown⟩
    · rw [(hwin v vin hv).1] at hvup
      cases hvup
    · rw [(hwin v vin hv).1] at hvup
      cases hvup
    · obtain ⟨hd, hsens⟩ := hwin v vin hv
      have hm : (s.withWindow m).manager.dialogUp = false := hdown
      rw [hd, hsens, hm]
      rfl
  | turnOn off => exact ⟨h.up, h.one, h.sensitive, fun _ => h.off off⟩
  | dropJob w => exact { h with }
  | gone w down silent unused =>
    refine h.same rfl rfl fun v win' hv => ?_
    have hv' : (if v = w then none else s.windows v) = some win' := hv
    split at hv'
    · cases hv'
    · exact ⟨win', hv', rfl, rfl⟩

theorem Attentive.acts (h : s.Attentive) (hh : s.Housed) (ha : Acts p env s t) : t.Attentive := by
  have hboth : t.Housed ∧ t.Attentive := by
    induction ha with
    | refl => exact ⟨hh, h⟩
    | tail _ ha ih => exact ⟨ha.housed ih.1, ih.2.act ih.1 ha⟩
  exact hboth.2

end Saver

namespace Screensaver
open Saver (Attentive)

variable {p : Prop} {s t s₀ : Screensaver} {env : Env} {e : Event} {v u : Saver}

theorem attentive_kind (hs : s₀.saver.view.Sound) (hh : v.Housed) (h : v.Attentive)
    (hk : Kind p env s₀ e v u) : u.Attentive := by
  cases hk with
  | calm hc => exact h.calm hh hc
  | tune ht => exact h.tuned ht
  | locking hl =>
    have hup : u.manager.lockless.dialogUp = v.manager.lockless.dialogUp := by rw [hl.manager]
    refine h.same hup hl.active fun w win' hw => ?_
    obtain ⟨win, _, hv, rfl⟩ := hl.window hw
    exact ⟨win, hv, rfl, rfl⟩
  | activate off granted =>
    exact h.acts hh (Saver.gsManagerActivate_acts (p := p) hh off granted).1
  | deactivate ends first on =>
    have hended := Saver.gsManagerDeactivate_ended env.toSaverEnv hh on
    have hnone : ∀ w win, (v.gsManagerDeactivate env.toSaverEnv).2.windows w ≠ some win := by
      intro w win hw
      rw [hended.lost] at hw
      cases hw
    exact ⟨fun w win hw => absurd hw (hnone w win), fun x _ xin _ hx => absurd hx (hnone x xin),
      fun w win hw => absurd hw (hnone w win), fun _ => hended.dialogUp⟩
  | added m he first new =>
    subst first
    have hsound : (s₀.tick env).saver.view.Sound := hs
    exact h.acts hh (Saver.monitorAdded_spec (p := p) env m hsound hh).1
  | removed m he first =>
    exact h.acts hh (Saver.monitorRemoved_spec (p := False) env m hh False.elim).1
  | throttle b first =>
    obtain ⟨jobs, hjobs⟩ := throttled_eq env.toSaverEnv v b
    rw [hjobs]
    exact { h with }

theorem start_attentive (b : Boot) (env : Env) : (b.start env).saver.Attentive := by
  obtain ⟨v, hlock, -, htuned⟩ := start_saver True b env
  refine Attentive.tuned ?_ htuned
  have hnone : ∀ w, v.windows w = none := by
    intro w
    obtain ⟨l, hl⟩ := hlock.windows w
    exact hl
  have hdown : v.manager.lockless.dialogUp = b.unsettled.saver.manager.lockless.dialogUp := by
    rw [hlock.manager]
  refine ⟨fun w win hw => ?_, fun x _ xin _ hx => ?_, fun w win hw => ?_, fun _ => hdown⟩
  · rw [hnone] at hw
    cases hw
  · rw [hnone] at hx
    cases hx
  · rw [hnone] at hw
    cases hw

/-- Between events the manager has a dialog up exactly when one window has, and
then that window alone takes input; without a dialog every window does. -/
structure Attended (s : Screensaver) : Prop where
  up : s.saver.manager.dialogUp = true ↔ ∃! w, w ∈ s.saver.manager.windows ∧ (s.saver.window w).dialogUp = true
  others : s.saver.manager.dialogUp = true → ∀ w ∈ s.saver.manager.windows,
    (s.saver.window w).dialogUp = false → (s.saver.window w).sensitive = false
  all : s.saver.manager.dialogUp = false → ∀ w ∈ s.saver.manager.windows,
    (s.saver.window w).sensitive = true

theorem attentive_invariant : screensaver.Invariant fun s =>
    (s.Agreed ∧ s.saver.Housed) ∧ s.saver.Attentive := by
  refine housed_invariant.and (fun s hs => ?_) fun s label t hs ha h => ?_
  · obtain ⟨b, env, rfl⟩ := hs
    exact start_attentive b env
  · have htick : (s.tick label.1).saver.Attentive := { ha with }
    exact step_induct (p := False) hs False.elim h htick
      fun v u hh hv hk => attentive_kind hs.1.sound hh hv hk

theorem reachable_attended (hr : screensaver.Reachable s) : s.Attended := by
  obtain ⟨⟨hs, hh⟩, ha⟩ := attentive_invariant.reachable hr
  have hwin : ∀ w ∈ s.saver.manager.windows, ∃ win, s.saver.windows w = some win ∧ s.saver.window w = win := by
    intro w hw
    obtain ⟨win, hs⟩ := Option.isSome_iff_exists.1 ((hh.listed w).1 hw)
    exact ⟨win, hs, Saver.window_of_some hs⟩
  refine ⟨⟨fun hup => ?_, fun ⟨w, ⟨hw, hup⟩, _⟩ => ?_⟩, fun hup w hw hd => ?_, fun hup w hw => ?_⟩
  · obtain ⟨w, d, hd, hdup⟩ := hs.sound.dialog.1 hup
    obtain ⟨win, hw, rfl⟩ := Option.map_eq_some_iff.1 hd
    have hlive : s.saver.Live w := live_of_view hd
    refine ⟨w, ⟨(hh.listed w).2 hlive, ?_⟩, fun v ⟨hv, hvup⟩ => ?_⟩
    · rw [Saver.window_of_some hw]
      exact hdup
    · obtain ⟨vin, hvs, hvwin⟩ := hwin v hv
      rw [hvwin] at hvup
      exact ha.one v w vin win hvs hw hvup hdup
  · obtain ⟨win, hws, hwwin⟩ := hwin w hw
    rw [hwwin] at hup
    exact ha.up w win hws hup
  · obtain ⟨win, hws, hwwin⟩ := hwin w hw
    rw [hwwin] at hd ⊢
    rw [ha.sensitive w win hws, hd, hup]
    rfl
  · obtain ⟨win, hws, hwwin⟩ := hwin w hw
    rw [hwwin]
    exact (ha.down hup hws).2

/- Locked, with a dialog on the only window. -/
def asked : List (Env × Event) := [lockNow, (granted, .activity 0)]

theorem attended_asked : ∃ s, screensaver.run (desk.start granted) asked = some s ∧
    s.saver.manager.dialogUp = true ∧ s.Attended := by
  refine ⟨(screensaver.run (desk.start granted) asked).get (by decide), ?_, by decide, ?_⟩
  · simp
  · exact reachable_attended (desk_reachable asked (by simp))

end Screensaver
end MateScreensaver
