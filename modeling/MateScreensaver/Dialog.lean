import MateScreensaver.Lock

/-!
Unlocking never wedges: a dialog that counts as up is still queued, or has a
watch through which it will report. Starting the dialog and reading from it are
the two places where that can break.
-/

namespace MateScreensaver
open Runs System

namespace LockScreen
variable {a : LockScreen}

/- A popup that starts nothing leaves its window up with nobody to report. -/
theorem popupRun_silent {x : WindowSource} (h : a.Sound) (hx : x ∈ a.popup) :
    ¬ (a.popupRun false x).Reports := by
  obtain ⟨h0, d, hw, hd⟩ := h.popup x hx
  obtain ⟨-, hup, hq⟩ := h.queued x.window d hw (hd ▸ h0)
  intro hrep
  have hwin : (a.popupRun false x).window x.window = some { d with popupId := 0 } := by
    simp [popupRun, LockScreen.modify, put, hw]
  rcases (hrep x.window _ hwin).1 hup with hp | hp
  · exact hp rfl
  · exact hp hq

theorem detach_silent {x : WindowSource} (h : a.Sound) (hx : x ∈ a.watch) :
    ¬ (a.detach x.id).Reports := by
  obtain ⟨h0, d, hw, hd⟩ := h.watch x hx
  intro hrep
  have hmem := (hrep x.window d hw).2 (hd ▸ h0)
  rw [hd] at hmem
  exact (mem_without.1 hmem).2 rfl

end LockScreen

namespace Screensaver
open LockScreen

variable {s t : Screensaver} {env : Env} {e : Event}

/- A dialog of the window is queued, or its watch is attached. -/
def WillReport (s : Screensaver) (w : WindowId) : Prop :=
  (∃ x ∈ s.saver.loop.popupDialogIdle, x.window = w) ∨ ∃ x ∈ s.saver.loop.lockCommandWatch, x.window = w

/- An id of a window is set exactly when its source is attached. -/
def Attached (id : SourceId) (w : WindowId) (l : List WindowSource) : Prop :=
  (id ≠ 0 ↔ ∃ x ∈ l, x.window = w) ∧ ∀ x ∈ l, x.window = w → x.id = id

/-- No window, and not the manager, waits for a dialog that is gone. -/
structure Responsive (s : Screensaver) : Prop where
  up : ∀ w win, s.saver.windows w = some win → win.dialogUp = true → s.WillReport w
  watch : ∀ w win, s.saver.windows w = some win →
    Attached win.lockWatchId w s.saver.loop.lockCommandWatch
  popup : ∀ w win, s.saver.windows w = some win →
    Attached win.popupDialogIdleId w s.saver.loop.popupDialogIdle
  manager : s.saver.manager.dialogUp = true →
    ∃ w ∈ s.saver.manager.windows, s.WillReport w

theorem view_window_some {v : Saver} {w : WindowId} {win : GSWindow} (h : v.windows w = some win) :
    v.view.window w = some win.view := by
  simp [Saver.view, h]

theorem reports_of_responsive (h : s.Responsive) : s.Reports := by
  intro w d hd
  obtain ⟨win, hw, rfl⟩ := Option.map_eq_some_iff.1 hd
  refine ⟨fun hup => ?_, fun h0 => ?_⟩
  · rcases h.up w win hw hup with hx | hx
    · exact .inl ((h.popup w win hw).1.2 hx)
    · exact .inr ((h.watch w win hw).1.2 hx)
  · obtain ⟨x, hx, hxw⟩ := (h.watch w win hw).1.1 h0
    have hid := (h.watch w win hw).2 x hx hxw
    show (⟨win.lockWatchId, w⟩ : WindowSource) ∈ _
    rw [← hid, ← hxw]
    exact hx

theorem responsive_of_reports (hs : s.Agreed) (h : s.Reports) : s.Responsive := by
  have hup : ∀ w win, s.saver.windows w = some win → win.dialogUp = true → s.WillReport w := by
    intro w win hw hd
    obtain ⟨h1, h2⟩ := h w win.view (view_window_some hw)
    rcases h1 hd with h0 | h0
    · exact .inl ⟨_, (hs.sound.queued w win.view (view_window_some hw) h0).1, rfl⟩
    · exact .inr ⟨_, h2 h0, rfl⟩
  have hown : ∀ w win d, s.saver.windows w = some win → s.saver.view.window w = some d → d = win.view := by
    intro w win d hw hd
    rw [view_window_some hw] at hd
    exact (Option.some.inj hd).symm
  refine ⟨hup, fun w win hw => ⟨⟨fun h0 => ?_, fun ⟨x, hx, hxw⟩ => ?_⟩, fun x hx hxw => ?_⟩,
    fun w win hw => ⟨⟨fun h0 => ?_, fun ⟨x, hx, hxw⟩ => ?_⟩, fun x hx hxw => ?_⟩, fun hd => ?_⟩
  · exact ⟨_, (h w win.view (view_window_some hw)).2 h0, rfl⟩
  · obtain ⟨h0, d, hdw, hd⟩ := hs.sound.watch x hx
    rw [hown w win d hw (hxw ▸ hdw)] at hd
    exact fun hz => h0 (hd.symm.trans hz)
  · obtain ⟨-, d, hdw, hd⟩ := hs.sound.watch x hx
    rw [hown w win d hw (hxw ▸ hdw)] at hd
    exact hd.symm
  · exact ⟨_, (hs.sound.queued w win.view (view_window_some hw) h0).1, rfl⟩
  · obtain ⟨h0, d, hdw, hd⟩ := hs.sound.popup x hx
    rw [hown w win d hw (hxw ▸ hdw)] at hd
    exact fun hz => h0 (hd.symm.trans hz)
  · obtain ⟨-, d, hdw, hd⟩ := hs.sound.popup x hx
    rw [hown w win d hw (hxw ▸ hdw)] at hd
    exact hd.symm
  · obtain ⟨w, d, hw, hdup⟩ := hs.sound.dialog.1 hd
    obtain ⟨win, hwin, rfl⟩ := Option.map_eq_some_iff.1 hw
    exact ⟨w, (hs.sound.live w _ hw).1, hup w win hwin hdup⟩

/- The two failures, on a state that still reports. -/
theorem silent_step (hs : s.Agreed) (h : s.step (env, e) = some t) (hw : ¬ DialogWorks env e) :
    ¬ t.Reports := by
  have hdispatch := step_dispatch h
  cases e with
  | popupDialogIdle id =>
    have hfail : SpawnResult.started env.spawnDialog = false := by simpa [DialogWorks] using hw
    obtain ⟨x, hfind, rfl⟩ := Option.map_eq_some_iff.1 hdispatch
    obtain ⟨hx, rfl⟩ := findSource_mem hfind
    have hview := Saver.view_popupDialogIdle env.toSaverEnv (s.tick env).saver x
    rw [hfail] at hview
    intro hrep
    have hrep' : ((s.tick env).saver.view.popupRun false x).Reports := hview ▸ hrep
    exact popupRun_silent hs.sound hx hrep'
  | lockCommandWatch id input =>
    have herr : input.gIoIn = true ∧ input.status = .error := by simpa [DialogWorks] using hw
    simp only [dispatch] at hdispatch
    split at hdispatch
    · cases hdispatch
    · obtain ⟨x, hfind, rfl⟩ := Option.map_eq_some_iff.1 hdispatch
      have hx := (findSource_mem hfind).1
      have hview : (lockCommandWatch env x input (s.tick env).saver).view
          = (s.tick env).saver.view.detach x.id := by
        simp only [lockCommandWatch, Saver.lockCommandWatch, herr.1, herr.2, if_true]
        rfl
      intro hrep
      have hrep' : ((s.tick env).saver.view.detach x.id).Reports := hview ▸ hrep
      exact detach_silent hs.sound hx hrep'
  | _ => exact absurd trivial hw

theorem responsive_step (hs : s.Agreed ∧ s.Reports) (h : s.step (env, e) = some t) :
    t.Responsive ↔ DialogWorks env e := by
  have hp := preserves_step h hs.1
  refine ⟨fun ht => ?_, fun hw => responsive_of_reports hp.agreed (hp.reports hw hs.2)⟩
  by_contra hw
  exact silent_step hs.1 h hw (reports_of_responsive ht)

/- Every state of a run is responsive exactly when every dialog that was asked for
could be started, and no read from a dialog failed. -/
theorem responsive_iff (b : Boot) (env : Env) (es : List (Env × Event)) :
    screensaver.Always Responsive (b.start env) es ↔
      screensaver.Meets (fun _ label => DialogWorks label.1 label.2) (b.start env) es := by
  obtain ⟨hs, hrep, -⟩ := start_agreed b env
  refine always_iff_meets (I := fun s => s.Agreed ∧ s.Reports)
    (fun s h => responsive_of_reports h.1 h.2) (fun s label t h ht => responsive_step h ht)
    (fun s ⟨env, e⟩ t h ht hw => ?_) ⟨hs, hrep⟩ es
  have hp := preserves_step ht h.1
  exact ⟨hp.agreed, hp.reports hw h.2⟩

/- The dialog's program cannot be started: the window counts it as up for good. -/
def wedged : List (Env × Event) :=
  [turnOn, lockNow, (granted, .activity 0), (willing .spawnError, .popupDialogIdle 3)]

theorem unlock_wedged : ¬ ∀ s, screensaver.Reachable s → s.Responsive := by
  intro h
  let s := (screensaver.run (desk.start granted) wedged).get (by decide)
  have hs : screensaver.Reachable s := desk_reachable wedged (by simp [s])
  obtain ⟨w, -, hx | hx⟩ := (h s hs).manager (by decide)
  · have hnil : s.saver.loop.popupDialogIdle = [] := by decide
    rw [hnil] at hx
    obtain ⟨x, hx, -⟩ := hx
    cases hx
  · have hnil : s.saver.loop.lockCommandWatch = [] := by decide
    rw [hnil] at hx
    obtain ⟨x, hx, -⟩ := hx
    cases hx

end Screensaver
end MateScreensaver
