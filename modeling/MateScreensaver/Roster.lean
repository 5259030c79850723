import MateScreensaver.Attention

/-!
The windows against the connected monitors: one for each while the saver is
active, as long as it is never turned off when no monitor is connected. Then the
list of windows is empty, and the handlers of the display stay connected.
-/

namespace MateScreensaver
open Runs System

namespace Saver

variable {p : Prop} {env : SaverEnv} {s t : Saver} {w : WindowId} {m : MonitorId}

theorem Locking.roster (h : Locking s t) : t.roster = s.roster := by
  simp only [Saver.roster, h.listed]
  refine List.map_congr_left fun w _ => ?_
  obtain ⟨l, hl⟩ := h.windows w
  rw [window_monitor, window_monitor, monitorOf, monitorOf, hl]
  cases s.windows w <;> rfl

theorem Housed.mem_roster (h : s.Housed) : m ∈ s.roster ↔ ∃ w, s.monitorOf w = some m := by
  constructor
  · intro hm
    obtain ⟨w, hw, rfl⟩ := List.mem_map.1 hm
    exact ⟨w, (monitorOf_window ((h.listed w).1 hw) _).2 rfl⟩
  · rintro ⟨w, hw⟩
    have hlive : s.Live w := (monitorOf_live s w).1 (by rw [hw]; rfl)
    have hm : (s.window w).monitor = m := (monitorOf_window hlive m).1 hw
    rw [← hm]
    exact List.mem_map.2 ⟨w, (h.listed w).2 hlive, rfl⟩

/- No two windows for one monitor when the roster repeats none. -/
theorem Housed.roster_unique (h : s.Housed) (hn : s.roster.Nodup) {v : WindowId} (hv : s.monitorOf v = some m)
    (hw : s.monitorOf w = some m) : v = w := by
  have hlv : s.Live v := (monitorOf_live s v).1 (by rw [hv]; rfl)
  have hlw : s.Live w := (monitorOf_live s w).1 (by rw [hw]; rfl)
  have hmv := (monitorOf_window hlv m).1 hv
  have hmw := (monitorOf_window hlw m).1 hw
  exact List.inj_on_of_nodup_map hn ((h.listed v).2 hlv) ((h.listed w).2 hlw) (hmv.trans hmw.symm)

end Saver

namespace Screensaver
open Saver (Housed)

variable {p : Prop} {s t s₀ : Screensaver} {env : Env} {e : Event} {v u : Saver}

/- How often the two handlers of the display are connected. -/
def handlers (v : Saver) (n : Nat) : Prop := v.display.monitorAdded = n ∧ v.display.monitorRemoved = n

/-- The windows of the manager, in order, are those of the connected monitors. -/
structure Matched (v : Saver) : Prop where
  nodup : v.display.monitors.Nodup
  on : v.manager.active = true → v.roster = v.display.monitors ∧ handlers v 1
  off : v.manager.active = false → v.manager.windows = [] ∧ handlers v 0

theorem Matched.same (h : Matched v) (active : u.manager.active = v.manager.active)
    (windows : u.manager.windows = v.manager.windows) (roster : u.roster = v.roster)
    (display : u.display = v.display) : Matched u := by
  refine ⟨by rw [display]; exact h.nodup, fun hon => ?_, fun hoff => ?_⟩
  · rw [active] at hon
    rw [roster, handlers, display]
    exact h.on hon
  · rw [active] at hoff
    rw [windows, handlers, display]
    exact h.off hoff

theorem roster_nil : v.roster = [] ↔ v.manager.windows = [] := List.map_eq_nil_iff

/-- What a change makes of the windows and of the display: nothing, or the saver is turned
on or off, or a monitor comes or goes. -/
inductive Plugs (env : Env) (s₀ : Screensaver) (e : Event) (v u : Saver) : Prop
  | same (active : u.manager.active = v.manager.active) (windows : u.manager.windows = v.manager.windows)
      (roster : u.roster = v.roster) (display : u.display = v.display)
  | activate (off : v.manager.active = false) (on : u.manager.active = true)
      (roster : u.roster = if v.manager.windows = [] then v.display.monitors else v.roster)
      (display : u.display = if v.manager.windows = [] then
        { v.display with monitorAdded := v.display.monitorAdded + 1, monitorRemoved := v.display.monitorRemoved + 1 }
        else v.display)
  | deactivate (ends : s₀.Ends e) (first : v = (s₀.tick env).saver) (on : v.manager.active = true)
      (off : u.manager.active = false) (windows : u.manager.windows = [])
      (display : u.display = if v.manager.windows = [] then v.display
        else { v.display with monitorAdded := 0, monitorRemoved := 0 })
  | added (m : MonitorId) (he : e = .monitorAdded m) (new : m ∉ v.display.monitors)
      (active : u.manager.active = v.manager.active)
      (roster : u.roster = v.roster ++ List.replicate v.display.monitorAdded m)
      (display : u.display = { v.display with monitors := v.display.monitors ++ [m] })
  | removed (m : MonitorId) (he : e = .monitorRemoved m) (active : u.manager.active = v.manager.active)
      (roster : u.roster = if v.display.monitorRemoved = 0 then v.roster else v.roster.filter fun x => x ≠ m)
      (display : u.display = { v.display with monitors := v.display.monitors.filter fun x => x ≠ m })

theorem Kind.plugs (hs : s₀.saver.view.Sound) (hh : v.Housed) (hk : Kind p env s₀ e v u) :
    Plugs env s₀ e v u := by
  cases hk with
  | calm hc => exact .same hc.steady.active hc.steady.windows hc.steady.roster hc.steady.display
  | tune ht => exact .same ht.steady.active ht.steady.windows ht.steady.roster ht.steady.display
  | locking hl => exact .same hl.active hl.listed hl.roster hl.display
  | activate off granted =>
    obtain ⟨-, hact, hroster, hdisplay⟩ := Saver.gsManagerActivate_acts (p := p) hh off granted
    exact .activate off hact hroster hdisplay
  | deactivate ends first on =>
    have hended := Saver.gsManagerDeactivate_ended env.toSaverEnv hh on
    exact .deactivate ends first on hended.active hended.windows hended.display
  | added m he first new =>
    subst first
    have hsound : (s₀.tick env).saver.view.Sound := hs
    obtain ⟨-, hact, hroster, hdisplay⟩ := Saver.monitorAdded_spec (p := p) env m hsound hh
    exact .added m he new hact hroster hdisplay
  | removed m he first =>
    obtain ⟨-, hact, hroster, hdisplay⟩ := Saver.monitorRemoved_spec (p := False) env m hh False.elim
    exact .removed m he hact hroster hdisplay
  | throttle b first =>
    obtain ⟨jobs, hjobs⟩ := throttled_eq env.toSaverEnv v b
    rw [hjobs]
    exact .same rfl rfl rfl rfl

/- Turning the saver off must find a monitor connected. -/
theorem matched_kind (hs : s₀.saver.view.Sound) (hh : v.Housed) (h : Matched v)
    (hend : s₀.saver.manager.active = true → s₀.Ends e → s₀.saver.display.monitors ≠ [])
    (hk : Kind p env s₀ e v u) : Matched u := by
  cases hk.plugs hs hh with
  | same active windows roster display => exact h.same active windows roster display
  | activate off hact hroster hdisplay =>
    obtain ⟨hempty, hadded, hremoved⟩ := h.off off
    rw [if_pos hempty] at hroster hdisplay
    refine ⟨by rw [hdisplay]; exact h.nodup, fun _ => ⟨by rw [hroster, hdisplay], ?_⟩, fun hoff => ?_⟩
    · rw [handlers, hdisplay, hadded, hremoved]
      exact ⟨rfl, rfl⟩
    · rw [hact] at hoff
      cases hoff
  | deactivate ends first on hact hwindows hdisplay =>
    have hsome : v.manager.windows ≠ [] := by
      intro hnil
      have hmon := (h.on on).1
      rw [roster_nil.2 hnil] at hmon
      subst first
      exact hend on ends hmon.symm
    rw [if_neg hsome] at hdisplay
    refine ⟨by rw [hdisplay]; exact h.nodup, fun hon => ?_, fun _ => ⟨hwindows, ?_⟩⟩
    · rw [hact] at hon
      cases hon
    · rw [handlers, hdisplay]
      exact ⟨rfl, rfl⟩
  | added m he new hact hroster hdisplay =>
    refine ⟨?_, fun hon => ?_, fun hoff => ?_⟩
    · have hadd := h.nodup.concat new
      rw [List.concat_eq_append] at hadd
      rw [hdisplay]
      exact hadd
    · rw [hact] at hon
      obtain ⟨hr, hadded, hremoved⟩ := h.on hon
      rw [hadded] at hroster
      refine ⟨?_, by rw [hdisplay]; exact hadded, by rw [hdisplay]; exact hremoved⟩
      rw [hroster, hdisplay, hr]
      rfl
    · rw [hact] at hoff
      obtain ⟨hempty, hadded, hremoved⟩ := h.off hoff
      rw [hadded, roster_nil.2 hempty] at hroster
      exact ⟨roster_nil.1 hroster, by rw [hdisplay]; exact hadded, by rw [hdisplay]; exact hremoved⟩
  | removed m he hact hroster hdisplay =>
    refine ⟨?_, fun hon => ?_, fun hoff => ?_⟩
    · rw [hdisplay]
      exact h.nodup.filter _
    · rw [hact] at hon
      obtain ⟨hr, hadded, hremoved⟩ := h.on hon
      rw [if_neg (by rw [hremoved]; decide)] at hroster
      refine ⟨?_, by rw [hdisplay]; exact hadded, by rw [hdisplay]; exact hremoved⟩
      rw [hroster, hdisplay, hr]
    · rw [hact] at hoff
      obtain ⟨hempty, hadded, hremoved⟩ := h.off hoff
      rw [if_pos hremoved, roster_nil.2 hempty] at hroster
      exact ⟨roster_nil.1 hroster, by rw [hdisplay]; exact hadded, by rw [hdisplay]; exact hremoved⟩

/-- While the saver is active there is exactly one window for each connected
monitor and no other, while it is not there is none, and the handlers of the
display are connected once or not at all. -/
structure Covers (s : Screensaver) : Prop where
  listed : ∀ w, w ∈ s.saver.manager.windows ↔ s.saver.Live w
  each : s.saver.manager.active = true → ∀ m ∈ s.saver.display.monitors, ∃! w, s.saver.monitorOf w = some m
  only : s.saver.manager.active = true → ∀ w m, s.saver.monitorOf w = some m → m ∈ s.saver.display.monitors
  once : s.saver.manager.active = true → s.saver.display.monitorAdded = 1 ∧ s.saver.display.monitorRemoved = 1
  none : s.saver.manager.active = false → ∀ w, ¬ s.saver.Live w
  never : s.saver.manager.active = false → s.saver.display.monitorAdded = 0 ∧ s.saver.display.monitorRemoved = 0

/-- The saver is only turned off while a monitor is connected. -/
def EndsConnected (s : Screensaver) (label : Env × Event) : Prop :=
  s.saver.manager.active = true → s.Ends label.2 → s.saver.display.monitors ≠ []

theorem covers_of_matched (hh : s.saver.Housed) (h : Matched s.saver) : s.Covers where
  listed := hh.listed
  each hon m hm := by
    have hr := (h.on hon).1
    have hnodup : s.saver.roster.Nodup := by
      rw [hr]
      exact h.nodup
    rw [← hr] at hm
    obtain ⟨w, hw⟩ := hh.mem_roster.1 hm
    exact ⟨w, hw, fun v hv => hh.roster_unique hnodup hv hw⟩
  only hon w m hw := by
    rw [← (h.on hon).1]
    exact hh.mem_roster.2 ⟨w, hw⟩
  once hon := (h.on hon).2
  none hoff w hlive := by
    have hw := (hh.listed w).2 hlive
    rw [(h.off hoff).1] at hw
    cases hw
  never hoff := (h.off hoff).2

theorem ends_inactive (hs : s.Agreed) (he : s.Ends e) (h : s.dispatch env e = some t) :
    t.saver.manager.active = false := by
  rcases he with hu | ⟨id, rfl⟩
  · exact unlockRequest_ends hs hu h
  · obtain ⟨x, -, rfl⟩ := Option.map_eq_some_iff.1 h
    exact setActive_false_inactive hs

/- A handler once connected is only lost with the last window. -/
theorem connected_kind (hs : s₀.saver.view.Sound) (hh : v.Housed) (h : 1 ≤ v.display.monitorAdded)
    (hnone : s₀.saver.manager.windows = []) (hk : Kind p env s₀ e v u) : 1 ≤ u.display.monitorAdded := by
  cases hk.plugs hs hh with
  | same active windows roster display =>
    rw [display]
    exact h
  | activate off hact hroster hdisplay =>
    rw [hdisplay]
    split
    · exact Nat.le_succ_of_le h
    · exact h
  | deactivate ends first on hact hwindows hdisplay =>
    subst first
    have hnil : (s₀.tick env).saver.manager.windows = [] := hnone
    rw [hdisplay, if_pos hnil]
    exact h
  | added m he new hact hroster hdisplay =>
    rw [hdisplay]
    exact h
  | removed m he hact hroster hdisplay =>
    rw [hdisplay]
    exact h

theorem covers_step (hs : (s.Agreed ∧ s.saver.Housed) ∧ Matched s.saver) (h : s.step (env, e) = some t) :
    (t.Covers ↔ s.EndsConnected (env, e)) ∧ (s.EndsConnected (env, e) → Matched t.saver) := by
  obtain ⟨⟨hagreed, hh⟩, hm⟩ := hs
  have htick : Matched (s.tick env).saver := hm.same rfl rfl rfl rfl
  have hkeep : s.EndsConnected (env, e) → Matched t.saver := by
    intro hend
    exact step_induct (p := False) ⟨hagreed, hh⟩ False.elim h htick
      fun v u hv hI hk => matched_kind hagreed.sound hv hI hend hk
  have ht : t.saver.Housed := (housed_invariant.step s (env, e) t ⟨hagreed, hh⟩ h).2
  refine ⟨⟨fun hcov hon hends hmon => ?_, fun hend => covers_of_matched ht (hkeep hend)⟩, hkeep⟩
  have hempty : s.saver.manager.windows = [] := roster_nil.1 ((hm.on hon).1.trans hmon)
  have hone : 1 ≤ (s.tick env).saver.display.monitorAdded := le_of_eq (hm.on hon).2.1.symm
  have hleft := step_induct (p := False) (I := fun v => 1 ≤ v.display.monitorAdded) ⟨hagreed, hh⟩ False.elim h hone
    fun v u hv hI hk => connected_kind hagreed.sound hv hI hempty hk
  have hoff := ends_inactive (tick_agreed hagreed env) hends (step_dispatch h)
  rw [(hcov.never hoff).1] at hleft
  cases hleft

theorem start_matched (b : Boot) (env : Env) : Matched (b.start env).saver := by
  obtain ⟨v, hlock, -, htuned⟩ := start_saver True b env
  have h0 : Matched b.unsettled.saver := ⟨b.nodup, fun hon => (nomatch hon), fun _ => ⟨rfl, rfl, rfl⟩⟩
  have h1 : Matched v := h0.same hlock.active hlock.listed hlock.roster hlock.display
  exact h1.same htuned.steady.active htuned.steady.windows htuned.steady.roster htuned.steady.display

/- The condition is exact: one deactivation without a monitor leaves both handlers
connected while the saver is off. -/
theorem covers_always (b : Boot) (env : Env) (es : List (Env × Event)) :
    screensaver.Always Covers (b.start env) es ↔ screensaver.Meets EndsConnected (b.start env) es := by
  refine always_iff_meets (I := fun s => (s.Agreed ∧ s.saver.Housed) ∧ Matched s.saver)
    (fun s hs => covers_of_matched hs.1.2 hs.2) (fun s label t hs h => (covers_step hs h).1)
    (fun s label t hs h hend => ?_) ⟨start_housed b env, start_matched b env⟩ es
  exact ⟨housed_invariant.step s label t hs.1 h, (covers_step hs h).2 hend⟩

/- The only monitor goes, the saver is turned off, the monitor comes back: a
window for an inactive saver. -/
def replugged : List (Env × Event) :=
  [turnOn, (granted, .monitorRemoved 0), (granted, .sessionCall ":1.1" .unlock), (granted, .monitorAdded 0)]

theorem window_without_saver : ¬ ∀ s, screensaver.Reachable s → s.Covers := by
  intro h
  let s := (screensaver.run (desk.start granted) replugged).get (by decide)
  have hcov := h s (desk_reachable replugged (by simp [s]))
  exact hcov.none (by decide) 1 (by decide)

/-! ### In every run -/

/-- What holds of windows and monitors even after the handlers of the display have
been left connected or were connected twice. -/
structure Rostered (v : Saver) : Prop where
  both : v.display.monitorRemoved = v.display.monitorAdded
  on : v.manager.active = true → 1 ≤ v.display.monitorAdded
  members : 1 ≤ v.display.monitorAdded → ∀ m, m ∈ v.roster ↔ m ∈ v.display.monitors
  empty : v.display.monitorAdded = 0 → v.manager.windows = []

theorem Rostered.same (h : Rostered v) (active : u.manager.active = v.manager.active)
    (windows : u.manager.windows = v.manager.windows) (roster : u.roster = v.roster)
    (display : u.display = v.display) : Rostered u := by
  refine ⟨by rw [display]; exact h.both, fun hon => ?_, fun hone m => ?_, fun hzero => ?_⟩
  · rw [active] at hon
    rw [display]
    exact h.on hon
  · rw [display] at hone ⊢
    rw [roster]
    exact h.members hone m
  · rw [display] at hzero
    rw [windows]
    exact h.empty hzero

theorem mem_replicate_succ {l : List MonitorId} {n : Nat} {m x : MonitorId} (hn : 1 ≤ n) :
    x ∈ l ++ List.replicate n m ↔ x ∈ l ++ [m] := by
  have hne : n ≠ 0 := Nat.one_le_iff_ne_zero.1 hn
  simp [List.mem_replicate, hne]

theorem rostered_kind (hs : s₀.saver.view.Sound) (hh : v.Housed) (h : Rostered v)
    (hk : Kind p env s₀ e v u) : Rostered u := by
  cases hk.plugs hs hh with
  | same active windows roster display => exact h.same active windows roster display
  | activate off hact hroster hdisplay =>
    by_cases hempty : v.manager.windows = []
    · rw [if_pos hempty] at hroster hdisplay
      refine ⟨by rw [hdisplay, h.both], fun _ => ?_, fun _ m => by rw [hroster, hdisplay], fun hzero => ?_⟩
      · rw [hdisplay]
        exact Nat.succ_le_succ (Nat.zero_le _)
      · rw [hdisplay] at hzero
        cases hzero
    · rw [if_neg hempty] at hroster hdisplay
      have hone : 1 ≤ v.display.monitorAdded :=
        Nat.one_le_iff_ne_zero.2 fun hzero => hempty (h.empty hzero)
      refine ⟨by rw [hdisplay]; exact h.both, fun _ => by rw [hdisplay]; exact hone, fun _ m => ?_, fun hzero => ?_⟩
      · rw [hroster, hdisplay]
        exact h.members hone m
      · rw [hdisplay] at hzero
        rw [hzero] at hone
        cases hone
  | deactivate ends first on hact hwindows hdisplay =>
    have hnil : u.roster = [] := roster_nil.2 hwindows
    have hoff : ∀ P : Prop, u.manager.active = true → P := by
      intro P hon
      rw [hact] at hon
      cases hon
    by_cases hempty : v.manager.windows = []
    · rw [if_pos hempty] at hdisplay
      refine ⟨by rw [hdisplay]; exact h.both, hoff _, fun hone m => ?_, fun _ => hwindows⟩
      rw [hdisplay] at hone ⊢
      rw [hnil, ← roster_nil.2 hempty]
      exact h.members hone m
    · rw [if_neg hempty] at hdisplay
      refine ⟨by rw [hdisplay], hoff _, fun hone m => ?_, fun _ => hwindows⟩
      rw [hdisplay] at hone
      cases hone
  | added m he new hact hroster hdisplay =>
    refine ⟨by rw [hdisplay]; exact h.both, fun hon => ?_, fun hone x => ?_, fun hzero => ?_⟩
    · rw [hact] at hon
      rw [hdisplay]
      exact h.on hon
    · rw [hdisplay] at hone ⊢
      rw [hroster, mem_replicate_succ hone, List.mem_append, List.mem_append, h.members hone x]
    · rw [hdisplay] at hzero
      have hzero' : v.display.monitorAdded = 0 := hzero
      rw [hzero', roster_nil.2 (h.empty hzero')] at hroster
      exact roster_nil.1 hroster
  | removed m he hact hroster hdisplay =>
    refine ⟨by rw [hdisplay]; exact h.both, fun hon => ?_, fun hone x => ?_, fun hzero => ?_⟩
    · rw [hact] at hon
      rw [hdisplay]
      exact h.on hon
    · rw [hdisplay] at hone ⊢
      have hne : v.display.monitorRemoved ≠ 0 := by
        rw [h.both]
        exact Nat.one_le_iff_ne_zero.1 hone
      rw [if_neg hne] at hroster
      rw [hroster, List.mem_filter, List.mem_filter, h.members hone x]
    · rw [hdisplay] at hzero
      have hzero' : v.display.monitorAdded = 0 := hzero
      rw [if_pos (h.both.trans hzero'), roster_nil.2 (h.empty hzero')] at hroster
      exact roster_nil.1 hroster

theorem start_rostered (b : Boot) (env : Env) : Rostered (b.start env).saver := by
  obtain ⟨v, hlock, -, htuned⟩ := start_saver True b env
  have h0 : Rostered b.unsettled.saver :=
    ⟨rfl, fun hon => (nomatch hon), fun hone => (nomatch hone), fun _ => rfl⟩
  have h1 : Rostered v := h0.same hlock.active hlock.listed hlock.roster hlock.display
  exact h1.same htuned.steady.active htuned.steady.windows htuned.steady.roster htuned.steady.display

theorem rostered_invariant : screensaver.Invariant fun s => (s.Agreed ∧ s.saver.Housed) ∧ Rostered s.saver := by
  refine housed_invariant.and (fun s hs => ?_) fun s label t hs hr h => ?_
  · obtain ⟨b, env, rfl⟩ := hs
    exact start_rostered b env
  · have htick : Rostered (s.tick label.1).saver := hr.same rfl rfl rfl rfl
    exact step_induct (p := False) hs False.elim h htick
      fun v u hh hv hk => rostered_kind hs.1.sound hh hv hk

end Screensaver
end MateScreensaver
