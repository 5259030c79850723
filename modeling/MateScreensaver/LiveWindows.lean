import MateScreensaver.Seat

/-!
Windows that are gone: no idle, timer or watch comes back to one, as long as a
window only goes when nothing is queued or animated for it.
-/

namespace MateScreensaver
open Runs System

namespace Saver

variable {p : Prop} {env : SaverEnv} {s t : Saver} {w : WindowId}

/-! ### Destroying all windows -/

/- Nothing that outlives its window is pending. -/
def Idle (s : Saver) : Prop := s.loop.emitDeactivatedIdle = [] ∧ s.loop.shaking = []

theorem Idle.unused (h : s.Idle) (w : WindowId) : s.Unused w := by
  constructor
  · intro x hx
    rw [h.1] at hx
    cases hx
  · intro x hx
    rw [h.2] at hx
    cases hx

theorem Idle.popdown (h : s.Idle) (env : SaverEnv) (w : WindowId) : (s.popdownDialog env w).Idle := by
  obtain ⟨hemit, hshaking⟩ := popdownDialog_outlived env s w
  exact ⟨hemit.trans h.1, hshaking.trans h.2⟩

theorem Intact.destroyed (h : (s.popdownDialog env w).Intact) (hi : s.Idle) :
    (s.gsWindowDestroy env w).Intact ∧ (s.gsWindowDestroy env w).Idle := by
  have hidle := hi.popdown env w
  obtain ⟨-, hsilent⟩ := popdownDialog_down env s w
  rw [gsWindowDestroy_eq]
  generalize s.popdownDialog env w = u at h hidle hsilent ⊢
  exact ⟨h.forgotten hsilent (hidle.unused w), hidle⟩

/- The list still names the windows that went before, so their dialogs are the
only ones that may be taken down. -/
theorem intact_destroyAll (env : SaverEnv) {l : List WindowId} (hn : l.Nodup) (s : Saver) (hi : s.Idle)
    (hs : s.Intact) (hl : ∀ w ∈ l, s.Live w ∧ (s.window w).dialogUp = false) :
    (l.foldl (fun s w => s.gsWindowDestroy env w) s).Intact := by
  induction l generalizing s with
  | nil => exact hs
  | cons w l ih =>
    obtain ⟨hw, hnl⟩ := List.nodup_cons.1 hn
    obtain ⟨hlive, hdown⟩ := hl w List.mem_cons_self
    have hpop : (s.popdownDialog env w).Intact :=
      (still_popdownDialog (p := True) env (fun _ => hlive) hdown).intact trivial hs
    obtain ⟨hintact, hidle⟩ := hpop.destroyed hi
    refine ih hnl _ hidle hintact fun v hv => ?_
    have hvw : v ≠ w := fun h => hw (h ▸ hv)
    obtain ⟨hvlive, hvdown⟩ := hl v (List.mem_cons_of_mem w hv)
    refine ⟨((emptied_gsWindowDestroy env s w).2 v).2 ⟨hvw, hvlive⟩, ?_⟩
    rw [gsWindowDestroy_dialogUp env s hvw]
    exact hvdown

/- The dialog of the first window may be up; what it takes down are the others. -/
theorem intact_destroyList (env : SaverEnv) (hh : s.Housed) (hi : s.Idle) (hs : s.Intact)
    (hd : ∀ w ∈ s.manager.windows.tail, (s.window w).dialogUp = false) :
    (s.manager.windows.foldl (fun s w => s.gsWindowDestroy env w) s).Intact := by
  cases hl : s.manager.windows with
  | nil => exact hs
  | cons w l =>
    have hn := hh.nodup
    rw [hl] at hn hd
    obtain ⟨hw, hnl⟩ := List.nodup_cons.1 hn
    have hlive : ∀ x ∈ w :: l, s.Live x := fun x hx => (hh.listed x).1 (hl ▸ hx)
    have hpop : (s.popdownDialog env w).Intact :=
      (calms_popdownDialog (p := True) env fun _ => hlive w List.mem_cons_self).intact hh trivial hs
    obtain ⟨hfirst, hidle⟩ := hpop.destroyed hi
    refine intact_destroyAll env hnl _ hidle hfirst fun x hx => ?_
    have hxw : x ≠ w := fun h => hw (h ▸ hx)
    refine ⟨((emptied_gsWindowDestroy env s w).2 x).2 ⟨hxw, hlive x (List.mem_cons_of_mem w hx)⟩, ?_⟩
    rw [gsWindowDestroy_dialogUp env s hxw]
    exact hd x hx

theorem Housed.unplugged (hh : s.Housed) : s.silenced.unplugged.Housed := by
  obtain ⟨hwin, hnext, -⟩ := silenced_rest s
  have hlist := silenced_windows s
  refine ⟨fun w => ?_, ?_, fun w hw => ?_⟩
  · show w ∈ s.silenced.manager.windows ↔ (s.silenced.windows w).isSome = true
    rw [hlist, hwin]
    exact hh.listed w
  · show s.silenced.manager.windows.Nodup
    rw [hlist]
    exact hh.nodup
  · show w < s.silenced.nextWindow
    have hlive : (s.silenced.windows w).isSome = true := hw
    rw [hwin] at hlive
    rw [hnext]
    exact hh.bound w hlive

theorem intact_gsManagerDeactivate (env : SaverEnv) (hh : s.Housed) (on : s.manager.active = true)
    (hi : s.Idle) (hs : s.Intact) (hd : ∀ w ∈ s.manager.windows.tail, (s.window w).dialogUp = false) :
    (s.gsManagerDeactivate env).2.Intact := by
  have hintact : s.silenced.Intact := by
    rw [silenced, removeCycleTimer_eq, removeLockTimer_eq]
    exact { hs with }
  obtain ⟨hwin, -, -, -, hemit, hshaking⟩ := silenced_rest s
  rw [gsManagerDeactivate_eq env on]
  by_cases hempty : s.manager.windows = []
  · rw [silenced_destroyNone env hempty]
    exact { hintact with }
  · have hlist : s.silenced.unplugged.manager.windows = s.manager.windows := silenced_windows s
    have hdown : ∀ w ∈ s.silenced.unplugged.manager.windows.tail, (s.silenced.unplugged.window w).dialogUp = false := by
      intro w hw
      rw [hlist] at hw
      show ((s.silenced.windows w).getD _).dialogUp = false
      rw [hwin]
      exact hd w hw
    have hall := intact_destroyList env hh.unplugged ⟨hemit.trans hi.1, hshaking.trans hi.2⟩ { hintact with } hdown
    rw [hlist] at hall
    rw [silenced_destroyAll env hempty]
    exact { hall with }

end Saver

namespace Screensaver
open Saver (Intact)

variable {s t s₀ : Screensaver} {env : Env} {e : Event} {v u : Saver}

/-- Windows only go when nothing is queued or animated for them; when all go, no
dialog is up but on the first; and no dialog starts a second keyboard. -/
def Gentle (s : Screensaver) (label : Env × Event) : Prop :=
  s.Careful label.1 label.2 ∧
  (s.saver.manager.active = true → s.Ends label.2 → s.saver.Idle ∧
    ∀ w ∈ s.saver.manager.windows.tail, (s.saver.window w).dialogUp = false)

theorem intact_kind (hs : s₀.saver.view.Sound) (hg : s₀.Gentle (env, e)) (hh : v.Housed) (h : v.Intact)
    (hk : Kind True env s₀ e v u) : u.Intact := by
  cases hk with
  | calm hc => exact hc.intact hh trivial h
  | tune ht => exact ht.intact trivial h
  | locking hl => exact hl.intact h
  | activate off granted =>
    exact (Saver.gsManagerActivate_acts (p := True) hh off granted).1.intact hh trivial h
  | deactivate ends first on =>
    subst first
    obtain ⟨hidle, hdown⟩ := hg.2 on ends
    exact Saver.intact_gsManagerDeactivate env.toSaverEnv hh on hidle h hdown
  | added m he first new =>
    subst first
    have hsound : (s₀.tick env).saver.view.Sound := hs
    exact (Saver.monitorAdded_spec (p := True) env m hsound hh).1.intact hh trivial h
  | removed m he first =>
    subst first he
    exact (Saver.monitorRemoved_spec (p := True) env m hh fun _ => hg.1).1.intact hh trivial h
  | throttle b first =>
    obtain ⟨jobs, hjobs⟩ := throttled_eq env.toSaverEnv v b
    rw [hjobs]
    exact { h with }

/-- Every window that is listed, or named by a pending idle, timer or watch or by
a shaking dialog, is live, and no destroyed one was ever touched. -/
structure Unharmed (s : Screensaver) : Prop where
  untouched : s.saver.usedDestroyed = []
  listed : ∀ w ∈ s.saver.manager.windows, s.saver.Live w
  emit : ∀ x ∈ s.saver.loop.emitDeactivatedIdle, s.saver.Live x.window
  popup : ∀ x ∈ s.saver.loop.popupDialogIdle, s.saver.Live x.window
  watch : ∀ x ∈ s.saver.loop.lockCommandWatch, s.saver.Live x.window
  keyboard : ∀ x ∈ s.saver.loop.keyboardCommandWatch, s.saver.Live x.window
  infoBar : ∀ x ∈ s.saver.loop.infoBarTimeout, s.saver.Live x.window
  shaking : ∀ x ∈ s.saver.loop.shaking, s.saver.Live x.window

theorem unharmed_of_intact (hs : s.Agreed) (hh : s.saver.Housed) (h : s.saver.Intact) : s.Unharmed where
  untouched := h.used
  listed := hh.live
  emit := h.emit
  popup x hx := by
    obtain ⟨-, d, hd, -⟩ := hs.sound.popup x hx
    exact live_of_view hd
  watch x hx := by
    obtain ⟨-, d, hd, -⟩ := hs.sound.watch x hx
    exact live_of_view hd
  keyboard x hx := h.keyboard.live hx
  infoBar x hx := h.infoBar.live hx
  shaking := h.shaking

theorem start_intact (b : Boot) (env : Env) : (b.start env).saver.Intact := by
  obtain ⟨v, hlock, -, htuned⟩ := start_saver True b env
  refine htuned.intact trivial (hlock.intact ?_)
  refine ⟨rfl, fun x hx => ?_, fun x hx => ?_, fun x hx => ?_, fun x hx => ?_, Nat.one_pos⟩
  · cases hx
  · cases hx
  · cases hx
  · cases hx

theorem intact_step (hs : (s.Agreed ∧ s.saver.Housed) ∧ s.saver.Intact) (hg : s.Gentle (env, e))
    (h : s.step (env, e) = some t) : t.saver.Intact := by
  obtain ⟨⟨hagreed, hh⟩, hi⟩ := hs
  have htick : (s.tick env).saver.Intact :=
    hi.modifyLoop (f := fun l => { l with now := l.now + env.elapsed }) (fun x hx => .inl hx)
      (fun x hx => .inl hx) (fun x hx => hx) (fun x hx => hx) (Nat.le_refl _)
  exact step_induct (p := True) ⟨hagreed, hh⟩ (fun _ => ⟨hi, hg.1⟩) h htick
    fun v u hv hI hk => intact_kind hagreed.sound hg hv hI hk

theorem unharmed_always (b : Boot) (env : Env) {es : List (Env × Event)}
    (hg : screensaver.Meets Gentle (b.start env) es) : screensaver.Always Unharmed (b.start env) es := by
  refine always_of_meets (I := fun s => (s.Agreed ∧ s.saver.Housed) ∧ s.saver.Intact)
    (fun s hs => unharmed_of_intact hs.1.1 hs.1.2 hs.2) (fun s label t hs h hgs => ?_)
    ⟨start_housed b env, start_intact b env⟩ hg
  exact ⟨housed_invariant.step s label t hs.1 h, intact_step hs hgs h⟩

def unlock : Env × Event := (granted, .sessionCall ":1.1" .unlock)

theorem unharmed_unlock : screensaver.Always Unharmed (desk.start granted) [turnOn, unlock] := by
  refine unharmed_always desk granted fun t ht => ⟨⟨trivial, fun hon => ?_⟩, fun u hu => ⟨⟨trivial, ?_⟩, trivial⟩⟩
  · exact absurd hon (by decide)
  · have ht' : t = (screensaver.next (desk.start granted) turnOn).get (by decide) := by simp [ht]
    subst ht'
    exact fun _ _ => ⟨⟨by decide, by decide⟩, by decide⟩

/- Activity on the unlocked window queues a deactivation for it; the window is
gone before that runs. -/
theorem window_outlived : ¬ ∀ s, screensaver.Reachable s → s.Unharmed := by
  intro h
  let s := (screensaver.run (desk.start granted) [turnOn, (granted, .activity 0), unlock]).get (by decide)
  have hs := h s (desk_reachable [turnOn, (granted, .activity 0), unlock] (by simp [s]))
  have hqueue : s.saver.loop.emitDeactivatedIdle = [⟨3, 0, .notLocked⟩] := by decide
  have hlive := hs.emit ⟨3, 0, .notLocked⟩ (by rw [hqueue]; exact List.mem_cons_self)
  exact absurd hlive (by decide)

end Screensaver
end MateScreensaver
