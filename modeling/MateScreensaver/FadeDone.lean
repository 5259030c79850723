import MateScreensaver.Fade

/-!
The done callbacks of gs_fade_async: handlers of "faded" that disconnect themselves when they
run. Whose fade it is that completes then, over any sequence of calls and ticks.
-/

namespace MateScreensaver
open Runs

/- An emission of "faded" under way: it runs the handlers of the calls before the bound, and
was caused by the end of the fade that this call started. -/
structure Emission where
  bound : ℕ
  fade : Option ℕ
deriving DecidableEq

/- A done callback that was run: the call it was given to, the call whose fade had completed,
and the call whose fade had been neither reset nor superseded by then. -/
structure Done where
  callback : ℕ
  completed : Option ℕ
  live : Option ℕ
deriving DecidableEq

/- The fade object with the handlers that are connected, named by the number of the call that
connected them, in the order they were connected. -/
structure FadeCalls where
  fade : FadeState
  handlers : List ℕ := []
  calls : ℕ := 0
  running : Option ℕ := none
  live : Option ℕ := none
  emissions : List Emission := []
  done : List Done := []

namespace FadeCalls

/- The next handler of the innermost emission, which disconnects itself and runs the callback;
when there is none, gs_fade_finish goes on. A handler connected during it is not run by it. -/
def advance (s : FadeCalls) : FadeCalls :=
  match s.emissions with
  | [] => s
  | emission :: outer =>
    match s.handlers.find? (· < emission.bound) with
    | some c => { s with handlers := s.handlers.erase c, done := s.done ++ [⟨c, emission.fade, s.live⟩] }
    | none => { s with emissions := outer, fade := s.fade.afterFaded }

/- gs-fade.c:667, up to where the first callback is run. -/
def gsFadeFinish (s : FadeCalls) : FadeCalls :=
  if s.fade.fade.active then
    { s with fade := s.fade.gsFadeFinish, emissions := ⟨s.calls, s.running⟩ :: s.emissions }.advance
  else s

/- gs-fade.c:684 -/
def fadeOutTimer (id : ℕ) (s : FadeCalls) : FadeCalls :=
  if s.fade.gsFadeOutIter.2 then { s with fade := s.fade.gsFadeOutIter.1 }
  else
    let s := { s with fade := s.fade.gsFadeOutIter.1 }.gsFadeFinish
    { s with fade := { s.fade with timers := s.fade.timers.erase id } }

/- gs-fade.c:718, from the call with this number. -/
def gsFadeStart (call : ℕ) (crtc : ℕ → CrtcAnswer) (timeout : UInt32) (s : FadeCalls) : FadeCalls :=
  match s.fade.fade.fadeType with
  | .none => { s with fade := s.fade.stopTimer.setActive timeout, running := some call }.gsFadeFinish
  | .xrandr =>
    if (s.fade.xrandrFadeSetup crtc).2 then
      { s with
        fade := ((s.fade.xrandrFadeSetup crtc).1.stopTimer.setActive timeout).addTimer timeout
        running := some call }
    else { s with fade := (s.fade.xrandrFadeSetup crtc).1 }

/- gs-fade.c:773; func tells whether there is a done callback. -/
def gsFadeAsync (func : Bool) (crtc : ℕ → CrtcAnswer) (timeout : UInt32) (s : FadeCalls) : FadeCalls :=
  { s with
    fade := s.fade.stopActive
    handlers := if func then s.handlers ++ [s.calls] else s.handlers
    calls := s.calls + 1
    live := some s.calls }.gsFadeStart s.calls crtc timeout

/- gs-fade.c:839 -/
def gsFadeReset (s : FadeCalls) : FadeCalls := { s with fade := s.fade.gsFadeReset, live := none }

/- What the main loop and the callbacks themselves do; a callback returns to its emission. -/
inductive Event
  | async (func : Bool) (crtc : ℕ → CrtcAnswer) (timeout : UInt32)
  | tick (id : ℕ)
  | finish
  | reset
  | returned

def step (s : FadeCalls) : Event → Option FadeCalls
  | .async func crtc timeout => some (s.gsFadeAsync func crtc timeout)
  | .tick id => if id ∈ s.fade.timers then some (s.fadeOutTimer id) else none
  | .finish => some s.gsFadeFinish
  | .reset => some s.gsFadeReset
  | .returned => if s.emissions = [] then none else some s.advance

def start (fadeType : FadeType) (gamma : List Ramp) : FadeCalls := { fade := .init fadeType gamma }

def fadeCalls : System FadeCalls Event where
  init s := ∃ fadeType gamma, s = start fadeType gamma
  next := step

/-- Each callback has been run at most once, when its own fade had completed, and that had not
been reset or superseded before. -/
def DoneRight (s : FadeCalls) : Prop :=
  (s.done.map Done.callback).Nodup ∧
    ∀ d ∈ s.done, d.completed = some d.callback ∧ d.live = some d.callback

/-- No fade is started or reset while a callback given to an earlier call is still connected. -/
def NoneConnected (s : FadeCalls) : Event → Prop
  | .async .. | .reset => s.handlers = []
  | _ => True

instance (s : FadeCalls) (e : Event) : Decidable (s.NoneConnected e) := by
  unfold NoneConnected
  split <;> infer_instance

/- The only callback connected is that of the last call, and its fade is the one that is active. -/
structure OneFade (s : FadeCalls) : Prop where
  active : s.fade.fade.active = true → s.live.isSome = true ∧ s.running = s.live
  connected : s.handlers = [] ∨ ∃ c, s.handlers = [c] ∧ s.live = some c
  once : (s.done.map Done.callback ++ s.handlers).Nodup
  numbered : ∀ c ∈ s.done.map Done.callback ++ s.handlers, c < s.calls
  later : ∀ emission ∈ s.emissions, emission.bound ≤ s.calls ∧ ∀ c ∈ s.handlers, emission.bound ≤ c
  right : ∀ d ∈ s.done, d.completed = some d.callback ∧ d.live = some d.callback

section Fade
variable (s : FadeState)

theorem stopActive_active : s.stopActive.fade.active = false := by
  cases h : s.fade.active <;> simp [FadeState.stopActive, FadeState.gsFadeStop, h]

theorem gsFadeFinish_active : s.gsFadeFinish.fade.active = false := by
  cases h : s.fade.active <;> simp [FadeState.gsFadeFinish, FadeState.gsFadeStop, h]

theorem gsFadeSetAlpha_active (alpha : WithBot ℚ) : (s.gsFadeSetAlpha alpha).1.fade.active = s.fade.active := by
  unfold FadeState.gsFadeSetAlpha
  split <;> rfl

theorem gsFadeOutIter_active : s.gsFadeOutIter.1.fade.active = s.fade.active := by
  unfold FadeState.gsFadeOutIter
  split
  · rfl
  · exact gsFadeSetAlpha_active _ _

theorem gsFadeReset_active : s.gsFadeReset.fade.active = false := by
  have hstop : ({ s.stopActive with fade.currentAlpha := ((1 : ℚ) : WithBot ℚ) } : FadeState).fade.active = false :=
    stopActive_active s
  unfold FadeState.gsFadeReset
  dsimp only
  split <;> simpa [FadeState.screenFadeFinish, gsFadeSetAlpha_active] using hstop

theorem xrandrFadeSetup_active (crtc : ℕ → CrtcAnswer) : (s.xrandrFadeSetup crtc).1.fade.active = s.fade.active := by
  unfold FadeState.xrandrFadeSetup
  split <;> rfl

end Fade

variable {s t : FadeCalls} {e : Event}

/- What the fade object is besides does not matter, as long as it is not active. -/
theorem OneFade.inactive (h : s.OneFade) {fade : FadeState} (hfade : fade.fade.active = false) :
    OneFade { s with fade := fade } :=
  { h with active := fun hactive => by rw [hfade] at hactive; cases hactive }

theorem OneFade.sameActive (h : s.OneFade) {fade : FadeState} (hfade : fade.fade.active = s.fade.fade.active) :
    OneFade { s with fade := fade } :=
  { h with active := fun hactive => h.active (hfade ▸ hactive) }

/- No handler is left that an emission under way would run. -/
theorem advance_oneFade (h : s.OneFade) : s.advance.OneFade := by
  unfold advance
  cases hem : s.emissions with
  | nil => exact h
  | cons emission outer =>
    have hnone : s.handlers.find? (· < emission.bound) = none := by
      rw [List.find?_eq_none]
      intro c hc
      have hbound := (h.later emission (by simp [hem])).2 c hc
      simpa using hbound
    simp only [hnone]
    have hpop : OneFade { s with emissions := outer } :=
      { h with later := fun em hem' => h.later em (by rw [hem]; exact List.mem_cons_of_mem _ hem') }
    exact hpop.inactive rfl

/- The end of the active fade runs its own callback, when that is connected. -/
theorem gsFadeFinish_oneFade (h : s.OneFade) : s.gsFadeFinish.OneFade := by
  unfold gsFadeFinish
  split
  case isFalse => exact h
  case isTrue hactive =>
    obtain ⟨hlive, hrunning⟩ := h.active hactive
    obtain hnil | ⟨c, hone, hc⟩ := h.connected
    · have hended : s.fade.gsFadeFinish.afterFaded.fade.active = false := rfl
      simp only [advance, hnil, List.find?_nil]
      exact hnil ▸ h.inactive hended
    · have hlt : c < s.calls := h.numbered c (by simp [hone])
      simp only [advance, hone, List.find?_cons, hlt, decide_true, List.erase_cons_head]
      refine ⟨?_, .inl rfl, ?_, ?_, ?_, ?_⟩
      · intro hact
        rw [gsFadeFinish_active] at hact
        cases hact
      · simpa [hone] using h.once
      · simpa [hone] using h.numbered
      · intro em hem
        obtain rfl | hem := List.mem_cons.1 hem
        · exact ⟨Nat.le_refl _, by simp⟩
        · exact ⟨(h.later em hem).1, by simp⟩
      · intro d hd
        obtain hd | hd := List.mem_append.1 hd
        · exact h.right d hd
        · obtain rfl := List.mem_singleton.1 hd
          exact ⟨hrunning.trans hc, hc⟩

theorem fadeOutTimer_oneFade (h : s.OneFade) (id : ℕ) : (s.fadeOutTimer id).OneFade := by
  have hiter : OneFade { s with fade := s.fade.gsFadeOutIter.1 } := h.sameActive (gsFadeOutIter_active s.fade)
  unfold fadeOutTimer
  split
  · exact hiter
  · exact (gsFadeFinish_oneFade hiter).sameActive rfl

theorem gsFadeStart_oneFade {call : ℕ} (h : s.OneFade) (hlive : s.live = some call) (crtc : ℕ → CrtcAnswer)
    (timeout : UInt32) : (s.gsFadeStart call crtc timeout).OneFade := by
  unfold gsFadeStart
  cases s.fade.fade.fadeType with
  | none => exact gsFadeFinish_oneFade { h with active := fun _ => ⟨by simp [hlive], hlive.symm⟩ }
  | xrandr =>
    dsimp only
    split
    · exact { h with active := fun _ => ⟨by simp [hlive], hlive.symm⟩ }
    · exact h.sameActive (xrandrFadeSetup_active s.fade crtc)

theorem gsFadeAsync_oneFade (h : s.OneFade) (hnil : s.handlers = []) (func : Bool) (crtc : ℕ → CrtcAnswer)
    (timeout : UInt32) : (s.gsFadeAsync func crtc timeout).OneFade := by
  have hmem : ∀ {c}, c ∈ (if func then s.handlers ++ [s.calls] else s.handlers) → c = s.calls := by
    intro c hc
    cases func with
    | false => simp [hnil] at hc
    | true => simpa [hnil] using hc
  have hdone : ∀ c ∈ s.done.map Done.callback, c < s.calls :=
    fun c hc => h.numbered c (List.mem_append_left _ hc)
  have hasync : OneFade
      { s with
        fade := s.fade.stopActive
        handlers := if func then s.handlers ++ [s.calls] else s.handlers
        calls := s.calls + 1
        live := some s.calls } := by
    refine ⟨?_, ?_, ?_, ?_, ?_, ?_⟩
    · intro hact
      rw [stopActive_active] at hact
      cases hact
    · cases func with
      | false => exact .inl hnil
      | true => exact .inr ⟨s.calls, by simp [hnil], rfl⟩
    · have honce : (s.done.map Done.callback).Nodup := by simpa [hnil] using h.once
      cases func with
      | false => simpa [hnil] using honce
      | true =>
        simp only [hnil, if_true, List.nil_append]
        refine List.nodup_append.2 ⟨honce, by simp, ?_⟩
        intro c hc c' hc'
        have hlt := hdone c hc
        have heq := List.mem_singleton.1 hc'
        omega
    · intro c hc
      obtain hc | hc := List.mem_append.1 hc
      · exact Nat.lt_succ_of_lt (hdone c hc)
      · exact hmem hc ▸ Nat.lt_succ_self _
    · intro em hem
      have hle := (h.later em hem).1
      exact ⟨Nat.le_succ_of_le hle, fun c hc => hmem hc ▸ hle⟩
    · exact h.right
  exact gsFadeStart_oneFade hasync rfl crtc timeout

theorem step_oneFade (h : s.OneFade) (hstep : fadeCalls.next s e = some t) (hC : s.NoneConnected e) : t.OneFade := by
  cases e with
  | async func crtc timeout =>
    cases hstep
    exact gsFadeAsync_oneFade h hC func crtc timeout
  | tick id =>
    obtain ⟨_, hstep⟩ := Option.ite_none_right_eq_some.1 hstep
    cases hstep
    exact fadeOutTimer_oneFade h id
  | finish =>
    cases hstep
    exact gsFadeFinish_oneFade h
  | reset =>
    cases hstep
    refine ⟨?_, .inl hC, h.once, h.numbered, h.later, h.right⟩
    intro hact
    have hstopped := gsFadeReset_active s.fade
    rw [FadeCalls.gsFadeReset, hstopped] at hact
    cases hact
  | returned =>
    obtain ⟨_, hstep⟩ := Option.ite_none_left_eq_some.1 hstep
    cases hstep
    exact advance_oneFade h

theorem start_oneFade (fadeType : FadeType) (gamma : List Ramp) : (start fadeType gamma).OneFade := by
  refine ⟨?_, .inl rfl, .nil, ?_, ?_, ?_⟩
  · intro hact
    cases hact
  all_goals simp [start]

theorem OneFade.doneRight (h : s.OneFade) : s.DoneRight :=
  ⟨(List.nodup_append.1 h.once).1, h.right⟩

/-- In a run where no fade is started or reset while an earlier callback is still connected, each
callback is run at most once, by the end of its own fade, before a reset or another fade. -/
theorem done_callbacks_always {fadeType : FadeType} {gamma : List Ramp} {es : List Event}
    (hC : fadeCalls.Meets NoneConnected (start fadeType gamma) es) :
    fadeCalls.Always DoneRight (start fadeType gamma) es :=
  System.always_of_meets (I := OneFade) (fun _ h => h.doneRight) (fun _ _ _ h hn hc => step_oneFade h hn hc)
    (start_oneFade fadeType gamma) hC

/- A fade to the end with one CRTC, whose callback starts another. -/
theorem done_callbacks_again :
    let crtc : ℕ → CrtcAnswer := fun _ => .gamma
    let es : List Event := [.async true crtc 0, .tick 1, .tick 1, .async true crtc 0, .returned]
    ∃ s, fadeCalls.run (start .xrandr [[⟨0, 300, 65535⟩]]) es = some s ∧ s.done = [⟨0, some 0, some 0⟩] ∧
      s.DoneRight := by
  intro crtc es
  have hrun : (fadeCalls.run (start .xrandr [[⟨0, 300, 65535⟩]]) es).map FadeCalls.done = some [⟨0, some 0, some 0⟩] := by
    decide +kernel
  obtain ⟨s, hs, hdone⟩ := Option.map_eq_some_iff.1 hrun
  exact ⟨s, hs, hdone, (done_callbacks_always (System.meets_of_checks (by decide +kernel))).run hs⟩

/- The fade of a callback is reset; the end of the next fade, which has none, runs it. -/
theorem done_callbacks_stale :
    let crtc : ℕ → CrtcAnswer := fun _ => .gamma
    let es : List Event := [.async true crtc 0, .reset, .async false crtc 0, .tick 2, .tick 2]
    ∃ s, fadeCalls.run (start .xrandr [[⟨0, 300, 65535⟩]]) es = some s ∧ s.done = [⟨0, some 1, some 1⟩] ∧
      ¬ fadeCalls.Always DoneRight (start .xrandr [[⟨0, 300, 65535⟩]]) es := by
  intro crtc es
  have hrun : (fadeCalls.run (start .xrandr [[⟨0, 300, 65535⟩]]) es).map FadeCalls.done = some [⟨0, some 1, some 1⟩] := by
    decide +kernel
  obtain ⟨s, hs, hdone⟩ := Option.map_eq_some_iff.1 hrun
  refine ⟨s, hs, hdone, fun h => ?_⟩
  have hright := (h.run hs).2 ⟨0, some 1, some 1⟩ (by simp [hdone])
  exact absurd hright.1 (by decide)

/-! ### The fade object -/

/- Each emission under way is that of one gs_fade_finish of the fade object. -/
def Emitting (s : FadeCalls) : Prop := s.fade.emitting = s.emissions.length

/- The fade object after a call, or after the end of the emission it caused as well. -/
def Settled (f g : FadeState) : Prop := g = f ∨ 0 < f.emitting ∧ g = f.afterFaded

theorem Settled.follows {f g u : FadeState} {e : FadeState.Event} (hstep : FadeState.fading.next f e = some u)
    (h : Settled u g) : ∃ es, FadeState.fading.run f es = some g := by
  obtain rfl | ⟨hpos, rfl⟩ := h
  · exact ⟨[e], by simp [System.run, hstep]⟩
  · have hfaded : FadeState.fading.next u .faded = some u.afterFaded := if_pos hpos
    exact ⟨[e, .faded], by simp [System.run, hstep, hfaded]⟩

theorem advance_settled (h : s.Emitting) : Settled s.fade s.advance.fade ∧ s.advance.Emitting := by
  unfold advance
  cases hem : s.emissions with
  | nil => exact ⟨.inl rfl, h⟩
  | cons emission outer =>
    have hpos : s.fade.emitting = outer.length + 1 := by rw [h, hem]; rfl
    dsimp only
    cases s.handlers.find? (· < emission.bound) with
    | some c => exact ⟨.inl rfl, hpos⟩
    | none =>
      refine ⟨.inr ⟨by omega, rfl⟩, ?_⟩
      simp [Emitting, FadeState.afterFaded, hpos]

theorem gsFadeFinish_settled (h : s.Emitting) :
    Settled s.fade.gsFadeFinish s.gsFadeFinish.fade ∧ s.gsFadeFinish.Emitting := by
  unfold gsFadeFinish
  split
  case isTrue hactive =>
    refine advance_settled ?_
    simpa [Emitting, FadeState.gsFadeFinish, hactive, FadeState.gsFadeStop] using h
  case isFalse hactive => exact ⟨.inl (by simp [FadeState.gsFadeFinish, hactive]), h⟩

theorem fadeOutTimer_settled (h : s.Emitting) (id : ℕ) :
    Settled (s.fade.fadeOutTimer id) (s.fadeOutTimer id).fade ∧ (s.fadeOutTimer id).Emitting := by
  have hiter : Emitting { s with fade := s.fade.gsFadeOutIter.1 } := by
    refine Eq.trans ?_ h
    unfold FadeState.gsFadeOutIter FadeState.gsFadeSetAlpha
    split
    · rfl
    · split <;> rfl
  unfold fadeOutTimer FadeState.fadeOutTimer
  split
  · exact ⟨.inl rfl, hiter⟩
  · obtain ⟨hfade | ⟨hpos, hfade⟩, hem⟩ := gsFadeFinish_settled hiter
    · exact ⟨.inl (by simp only [hfade]), hem⟩
    · exact ⟨.inr ⟨hpos, by simp only [hfade, FadeState.afterFaded]⟩, hem⟩

theorem gsFadeStart_settled (h : s.Emitting) (call : ℕ) (crtc : ℕ → CrtcAnswer) (timeout : UInt32) :
    Settled (s.fade.gsFadeStart crtc timeout) (s.gsFadeStart call crtc timeout).fade ∧
      (s.gsFadeStart call crtc timeout).Emitting := by
  have hstop : ∀ f : FadeState, f.stopTimer.emitting = f.emitting := by
    intro f
    unfold FadeState.stopTimer
    split <;> rfl
  unfold gsFadeStart FadeState.gsFadeStart
  cases s.fade.fade.fadeType with
  | none => exact gsFadeFinish_settled ((hstop s.fade).trans h)
  | xrandr =>
    have hsetup : (s.fade.xrandrFadeSetup crtc).1.emitting = s.fade.emitting := by
      unfold FadeState.xrandrFadeSetup
      split <;> rfl
    dsimp only
    split
    · exact ⟨.inl rfl, (hstop _).trans (hsetup.trans h)⟩
    · exact ⟨.inl rfl, hsetup.trans h⟩

theorem step_follows (h : s.Emitting) (hstep : fadeCalls.next s e = some t) :
    (∃ es, FadeState.fading.run s.fade es = some t.fade) ∧ t.Emitting := by
  cases e with
  | async func crtc timeout =>
    cases hstep
    have hstop : s.fade.stopActive.emitting = s.fade.emitting := by
      unfold FadeState.stopActive
      split <;> rfl
    obtain ⟨hsettled, hem⟩ := gsFadeStart_settled
      (s := { s with
        fade := s.fade.stopActive
        handlers := if func then s.handlers ++ [s.calls] else s.handlers
        calls := s.calls + 1
        live := some s.calls }) (hstop.trans h) s.calls crtc timeout
    exact ⟨hsettled.follows (e := .async crtc timeout) rfl, hem⟩
  | tick id =>
    obtain ⟨hmem, hstep⟩ := Option.ite_none_right_eq_some.1 hstep
    cases hstep
    obtain ⟨hsettled, hem⟩ := fadeOutTimer_settled h id
    exact ⟨hsettled.follows (e := .tick id) (if_pos hmem), hem⟩
  | finish =>
    cases hstep
    obtain ⟨hsettled, hem⟩ := gsFadeFinish_settled h
    exact ⟨hsettled.follows (e := .finish) rfl, hem⟩
  | reset =>
    cases hstep
    refine ⟨⟨[.reset], rfl⟩, Eq.trans ?_ h⟩
    have hstop : s.fade.stopActive.emitting = s.fade.emitting := by
      unfold FadeState.stopActive
      split <;> rfl
    rw [← hstop]
    unfold gsFadeReset FadeState.gsFadeReset FadeState.gsFadeSetAlpha
    dsimp only
    split <;> split <;> rfl
  | returned =>
    obtain ⟨_, hstep⟩ := Option.ite_none_left_eq_some.1 hstep
    cases hstep
    obtain ⟨hfade | ⟨hpos, hfade⟩, hem⟩ := advance_settled h
    · exact ⟨⟨[], by rw [hfade]; rfl⟩, hem⟩
    · have hfaded : FadeState.fading.next s.fade .faded = some s.fade.afterFaded := if_pos hpos
      exact ⟨⟨[.faded], by simp [System.run, hfaded, hfade]⟩, hem⟩

/- What the callbacks are wired to is the fade object itself, in one of its own runs. -/
theorem reachable_fading (h : fadeCalls.Reachable s) : FadeState.fading.Reachable s.fade ∧ s.Emitting := by
  induction h with
  | start hs =>
    obtain ⟨fadeType, gamma, rfl⟩ := hs
    exact ⟨.start ⟨fadeType, gamma, rfl⟩, rfl⟩
  | step _ hstep ih =>
    obtain ⟨⟨es, hrun⟩, hem⟩ := step_follows ih.2 hstep
    exact ⟨System.reachable_run ih.1 hrun, hem⟩

end FadeCalls
end MateScreensaver
