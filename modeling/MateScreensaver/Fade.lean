import Mathlib.Data.Rat.Floor
import Mathlib.Order.WithBot
import MateScreensaver.Lib.Runs

/-!
Fading the gamma ramps (gs-fade.c) with the XRandR fade type: the ramps are captured by
the first fade, scaled by the timer, and put back and forgotten by a reset.
-/

namespace MateScreensaver
open Runs

/- One place of the three arrays of a GSGammaInfo. -/
structure RampEntry where
  r : UInt16
  g : UInt16
  b : UInt16
deriving DecidableEq

/- The arrays of a GSGammaInfo, or of a CRTC; a size of 0 is the empty list. -/
abbrev Ramp := List RampEntry

inductive FadeType
  | none
  | xrandr
deriving DecidableEq

/- What libmate-desktop answers about a CRTC while the ramps are captured. -/
inductive CrtcAnswer
  | noMode
  | unreadable
  | gamma
deriving DecidableEq

/- The private data; info is NULL when the array was not made or has no place. -/
structure GSFade where
  fadeType : FadeType
  info : Option (List Ramp)
  active : Bool
  timeout : UInt32
  timerId : ℕ
  alphaPerIter : WithTop ℚ
  currentAlpha : WithBot ℚ
deriving DecidableEq

/- The fade object with the ramp of each CRTC, the timeout sources that are alive, and
the calls of gs_fade_finish whose emission of "faded" is still under way. -/
structure FadeState where
  fade : GSFade
  gamma : List Ramp
  timers : List ℕ
  nextSource : ℕ
  emitting : ℕ
deriving DecidableEq

section Scaling

/- The two comparisons at the head of xrandr_crtc_whack_gamma. -/
def ratioOf (alpha : WithBot ℚ) : ℚ :=
  match alpha with
  | none => 0
  | some a => if a < 0 then 0 else if 1 < a then 1 else a

/- (unsigned short) (ratio * (float) v), without rounding. -/
def scale (ratio : ℚ) (v : UInt16) : UInt16 := UInt16.ofNat ⌊ratio * v.toNat⌋₊

def RampEntry.scale (ratio : ℚ) (e : RampEntry) : RampEntry :=
  ⟨MateScreensaver.scale ratio e.r, MateScreensaver.scale ratio e.g, MateScreensaver.scale ratio e.b⟩

/- gs-fade.c:524: the ramp of the CRTC afterwards. -/
def xrandrCrtcWhackGamma (alpha : WithBot ℚ) (ramp gammaInfo : Ramp) : Ramp :=
  if gammaInfo = [] then ramp else gammaInfo.map (RampEntry.scale (ratioOf alpha))

/- The loop of gs-fade.c:561. -/
def whackGammas (alpha : WithBot ℚ) (gamma info : List Ramp) : List Ramp :=
  List.zipWith (xrandrCrtcWhackGamma alpha) gamma info

end Scaling

/- The second loop of gs-fade.c:464, from the k-th CRTC on: what it leaves in the
array, which was zeroed, and whether it got to the end. -/
def captureFrom (crtc : ℕ → CrtcAnswer) (k : ℕ) : List Ramp → List Ramp × Bool
  | [] => ([], true)
  | ramp :: rest =>
    match crtc k with
    | .noMode => ([] :: (captureFrom crtc (k + 1) rest).1, (captureFrom crtc (k + 1) rest).2)
    | .gamma => (ramp :: (captureFrom crtc (k + 1) rest).1, (captureFrom crtc (k + 1) rest).2)
    | .unreadable => ([] :: rest.map fun _ => [], false)

namespace FadeState

def init (fadeType : FadeType) (gamma : List Ramp) : FadeState where
  fade :=
    { fadeType := fadeType, info := none, active := false, timeout := 1000, timerId := 0,
      alphaPerIter := ((0 : ℚ) : WithTop ℚ), currentAlpha := ((1 : ℚ) : WithBot ℚ) }
  gamma := gamma
  timers := []
  nextSource := 1
  emitting := 0

/- gs-fade.c:464 -/
def xrandrFadeSetup (crtc : ℕ → CrtcAnswer) (s : FadeState) : FadeState × Bool :=
  match s.fade.info with
  | some _ => (s, true)
  | none =>
    ({ s with fade.info := if s.gamma = [] then none else some (captureFrom crtc 0 s.gamma).1 },
      (captureFrom crtc 0 s.gamma).2)

/- gs-fade.c:374 -/
def screenFadeFinish (s : FadeState) : FadeState := { s with fade.info := none }

/- gs-fade.c:561 and 609. -/
def gsFadeSetAlpha (alpha : WithBot ℚ) (s : FadeState) : FadeState × Bool :=
  match s.fade.fadeType, s.fade.info with
  | .xrandr, some info => ({ s with gamma := whackGammas alpha s.gamma info }, true)
  | _, _ => (s, false)

/- A difference of doubles; 1.0 / 0.0 is an infinity, and so is what it is taken from. -/
def alphaSub : WithBot ℚ → WithTop ℚ → WithBot ℚ
  | some a, some d => ((a - d : ℚ) : WithBot ℚ)
  | _, _ => ⊥

/- gs-fade.c:635 -/
def gsFadeOutIter (s : FadeState) : FadeState × Bool :=
  if s.fade.currentAlpha < ((1 / 100 : ℚ) : WithBot ℚ) then (s, false)
  else
    gsFadeSetAlpha (alphaSub s.fade.currentAlpha s.fade.alphaPerIter)
      { s with fade.currentAlpha := alphaSub s.fade.currentAlpha s.fade.alphaPerIter }

/- gs-fade.c:652 -/
def gsFadeStop (s : FadeState) : FadeState :=
  { s with
    fade := { s.fade with timerId := 0, active := false }
    timers := if s.fade.timerId = 0 then s.timers else s.timers.erase s.fade.timerId }

/- gs-fade.c:667, up to the emission of "faded". -/
def gsFadeFinish (s : FadeState) : FadeState :=
  if s.fade.active then { s.gsFadeStop with emitting := s.emitting + 1 } else s

/- gs-fade.c:667, after the handlers of "faded" have returned. -/
def afterFaded (s : FadeState) : FadeState :=
  { s with fade.active := false, emitting := s.emitting - 1 }

/- gs-fade.c:684. A source that is being dispatched is not dispatched again, so that it
is taken off at once where the handler is going to return FALSE. -/
def fadeOutTimer (id : ℕ) (s : FadeState) : FadeState :=
  if s.gsFadeOutIter.2 then s.gsFadeOutIter.1
  else { s.gsFadeOutIter.1.gsFadeFinish with timers := s.gsFadeOutIter.1.gsFadeFinish.timers.erase id }

/- 1.0 / (timeout / (1000.0 / 60.0)) -/
def alphaPerIterOf (timeout : UInt32) : WithTop ℚ :=
  if timeout = 0 then ⊤ else ((1000 / 60 / timeout.toNat : ℚ) : WithTop ℚ)

def stopTimer (s : FadeState) : FadeState := if s.fade.timerId = 0 then s else s.gsFadeStop

def addTimer (timeout : UInt32) (s : FadeState) : FadeState :=
  { s with
    fade := { s.fade with alphaPerIter := alphaPerIterOf timeout, timerId := s.nextSource }
    timers := s.nextSource :: s.timers
    nextSource := s.nextSource + 1 }

def setActive (timeout : UInt32) (s : FadeState) : FadeState :=
  { s with fade := { s.fade with active := true, timeout := timeout } }

/- gs-fade.c:718 -/
def gsFadeStart (crtc : ℕ → CrtcAnswer) (timeout : UInt32) (s : FadeState) : FadeState :=
  match s.fade.fadeType with
  | .none => (s.stopTimer.setActive timeout).gsFadeFinish
  | .xrandr =>
    if (s.xrandrFadeSetup crtc).2 then
      ((s.xrandrFadeSetup crtc).1.stopTimer.setActive timeout).addTimer timeout
    else (s.xrandrFadeSetup crtc).1

def stopActive (s : FadeState) : FadeState := if s.fade.active then s.gsFadeStop else s

/- gs-fade.c:773 and 813; the loop of the latter is further events. -/
def gsFadeAsync (crtc : ℕ → CrtcAnswer) (timeout : UInt32) (s : FadeState) : FadeState :=
  s.stopActive.gsFadeStart crtc timeout

/- gs-fade.c:839 -/
def gsFadeReset (s : FadeState) : FadeState :=
  let s := { s.stopActive with fade.currentAlpha := ((1 : ℚ) : WithBot ℚ) }
  match s.fade.fadeType with
  | .none => (s.gsFadeSetAlpha s.fade.currentAlpha).1
  | .xrandr => (s.gsFadeSetAlpha s.fade.currentAlpha).1.screenFadeFinish

section Frame
variable (s : FadeState)


@[simp] theorem gsFadeFinish_gamma : s.gsFadeFinish.gamma = s.gamma := by
  unfold gsFadeFinish
  split <;> rfl

@[simp] theorem gsFadeFinish_info : s.gsFadeFinish.fade.info = s.fade.info := by
  unfold gsFadeFinish
  split <;> rfl

@[simp] theorem stopTimer_gamma : s.stopTimer.gamma = s.gamma := by
  unfold stopTimer
  split <;> rfl

@[simp] theorem stopTimer_info : s.stopTimer.fade.info = s.fade.info := by
  unfold stopTimer
  split <;> rfl

@[simp] theorem stopActive_gamma : s.stopActive.gamma = s.gamma := by
  unfold stopActive
  split <;> rfl

@[simp] theorem stopActive_info : s.stopActive.fade.info = s.fade.info := by
  unfold stopActive
  split <;> rfl

@[simp] theorem stopActive_fadeType : s.stopActive.fade.fadeType = s.fade.fadeType := by
  unfold stopActive
  split <;> rfl

@[simp] theorem setActive_gamma (timeout : UInt32) : (s.setActive timeout).gamma = s.gamma := rfl
@[simp] theorem setActive_info (timeout : UInt32) : (s.setActive timeout).fade.info = s.fade.info := rfl

end Frame
end FadeState

/-! ### Captured ramps -/

/- The array against the ramps before the first fade and the ramps now: a CRTC either has
an empty place in it and its old ramp, or its old ramp is in the array. -/
inductive Saved : List Ramp → List Ramp → List Ramp → Prop
  | nil : Saved [] [] []
  | left {before info now ramp} : Saved before info now →
      Saved (ramp :: before) ([] :: info) (ramp :: now)
  | kept {before info now ramp now'} : ramp ≠ [] → Saved before info now →
      Saved (ramp :: before) (ramp :: info) (now' :: now)

@[simp] theorem scale_one (v : UInt16) : scale 1 v = v := by
  simp [scale]

@[simp] theorem RampEntry.scale_one (e : RampEntry) : e.scale 1 = e := by
  simp only [RampEntry.scale, MateScreensaver.scale_one]

theorem ratioOf_one : ratioOf ((1 : ℚ) : WithBot ℚ) = 1 := by
  decide +kernel

/- At full brightness a CRTC gets what was captured. -/
theorem whackGamma_one {ramp info : Ramp} (h : info ≠ []) :
    xrandrCrtcWhackGamma ((1 : ℚ) : WithBot ℚ) ramp info = info := by
  rw [xrandrCrtcWhackGamma, if_neg h, ratioOf_one]
  exact List.map_id'' RampEntry.scale_one info

@[simp] theorem whackGamma_nil (alpha : WithBot ℚ) (ramp : Ramp) :
    xrandrCrtcWhackGamma alpha ramp [] = ramp := rfl

theorem captureFrom_saved (crtc : ℕ → CrtcAnswer) (k : ℕ) (gamma : List Ramp) :
    Saved gamma (captureFrom crtc k gamma).1 gamma := by
  induction gamma generalizing k with
  | nil => exact .nil
  | cons ramp rest ih =>
    rw [captureFrom]
    cases crtc k with
    | noMode => exact .left (ih (k + 1))
    | unreadable =>
      -- the places after the one that failed are still zero
      refine .left ?_
      clear ih
      induction rest with
      | nil => exact .nil
      | cons r rest ih => exact .left ih
    | gamma =>
      by_cases hramp : ramp = []
      · subst hramp
        exact .left (ih (k + 1))
      · exact .kept hramp (ih (k + 1))

namespace Saved
variable {before info now : List Ramp}

theorem whackGammas (alpha : WithBot ℚ) (h : Saved before info now) :
    Saved before info (whackGammas alpha now info) := by
  induction h with
  | nil => exact .nil
  | left _ ih => exact .left ih
  | kept hramp _ ih => exact .kept hramp ih

theorem restored (h : Saved before info now) :
    MateScreensaver.whackGammas ((1 : ℚ) : WithBot ℚ) now info = before := by
  induction h with
  | nil => rfl
  | left _ ih =>
    simp only [MateScreensaver.whackGammas, List.zipWith_cons_cons, whackGamma_nil] at ih ⊢
    rw [ih]
  | kept hramp _ ih =>
    simp only [MateScreensaver.whackGammas, List.zipWith_cons_cons, whackGamma_one hramp] at ih ⊢
    rw [ih]

/- A CRTC with an empty place is as it was before the first fade. -/
theorem now_eq (h : Saved before info now) {i : ℕ} (hi : ∀ ramp, info[i]? = some ramp → ramp = []) :
    now[i]? = before[i]? := by
  induction h generalizing i with
  | nil => rfl
  | left _ ih =>
    cases i with
    | zero => rfl
    | succ i => exact ih fun ramp h => hi ramp (by simpa using h)
  | kept hramp _ ih =>
    cases i with
    | zero => exact absurd (hi _ rfl) hramp
    | succ i => exact ih fun ramp h => hi ramp (by simpa using h)

end Saved

namespace FadeState

/- The i-th CRTC has its ramp in the array. -/
def Captured (s : FadeState) (i : ℕ) : Prop :=
  ∃ info, s.fade.info = some info ∧ ∃ ramp, info[i]? = some ramp ∧ ramp ≠ []

/- What the array says of the ramps that were there before the first fade. -/
def Keeps (before : List Ramp) (s : FadeState) : Prop :=
  match s.fade.info with
  | none => s.gamma = before
  | some info => s.fade.fadeType = .xrandr ∧ Saved before info s.gamma

/- Calls of the fade object, ticks of its sources, and returns from emissions. -/
inductive Event
  | start (crtc : ℕ → CrtcAnswer) (timeout : UInt32)
  | async (crtc : ℕ → CrtcAnswer) (timeout : UInt32)
  | tick (id : ℕ)
  | finish
  | faded
  | reset

def Event.isFade : Event → Bool
  | .start .. | .async .. => true
  | _ => false

def Event.isReset : Event → Bool
  | .reset => true
  | _ => false

def step (s : FadeState) : Event → Option FadeState
  | .start crtc timeout => some (s.gsFadeStart crtc timeout)
  | .async crtc timeout => some (s.gsFadeAsync crtc timeout)
  | .tick id => if id ∈ s.timers then some (s.fadeOutTimer id) else none
  | .finish => some s.gsFadeFinish
  | .faded => if 0 < s.emitting then some s.afterFaded else none
  | .reset => some s.gsFadeReset

/- Any ramps and any fade type at the start; what the main loop and the handlers of
"faded" do between two calls comes as further events. -/
def fading : System FadeState Event where
  init s := ∃ fadeType gamma, s = init fadeType gamma
  next := step

/- At the start, or right after a reset. -/
def Fresh (s : FadeState) : Prop := fading.init s ∨ ∃ r, fading.Reachable r ∧ s = r.gsFadeReset

variable {s t : FadeState} {before : List Ramp}

theorem Keeps.of_eq (h : s.Keeps before) (hinfo : t.fade.info = s.fade.info)
    (htype : t.fade.fadeType = s.fade.fadeType) (hgamma : t.gamma = s.gamma) : t.Keeps before := by
  unfold Keeps at h ⊢
  rwa [hinfo, htype, hgamma]

theorem gsFadeSetAlpha_keeps (h : s.Keeps before) (alpha : WithBot ℚ) :
    (s.gsFadeSetAlpha alpha).1.Keeps before := by
  unfold gsFadeSetAlpha
  split
  case h_1 info htype hinfo =>
    simp only [Keeps, hinfo] at h ⊢
    exact ⟨h.1, h.2.whackGammas alpha⟩
  case h_2 => exact h

theorem xrandrFadeSetup_keeps (crtc : ℕ → CrtcAnswer) (h : s.Keeps before)
    (htype : s.fade.fadeType = .xrandr) : (s.xrandrFadeSetup crtc).1.Keeps before := by
  unfold xrandrFadeSetup
  cases hinfo : s.fade.info with
  | some info => exact h
  | none =>
    simp only [Keeps, hinfo] at h
    subst h
    by_cases hempty : s.gamma = []
    · simp [Keeps, hempty]
    · simp only [Keeps, if_neg hempty]
      exact ⟨htype, captureFrom_saved crtc 0 s.gamma⟩

theorem gsFadeFinish_keeps (h : s.Keeps before) : s.gsFadeFinish.Keeps before :=
  h.of_eq (by simp) (by unfold gsFadeFinish; split <;> rfl) (by simp)

theorem fadeOutTimer_keeps (h : s.Keeps before) (id : ℕ) : (s.fadeOutTimer id).Keeps before := by
  have hiter : s.gsFadeOutIter.1.Keeps before := by
    unfold gsFadeOutIter
    split
    · exact h
    · exact gsFadeSetAlpha_keeps (by exact h.of_eq rfl rfl rfl) _
  unfold fadeOutTimer
  split
  · exact hiter
  · exact (gsFadeFinish_keeps hiter).of_eq rfl rfl rfl

theorem gsFadeStart_keeps (h : s.Keeps before) (crtc : ℕ → CrtcAnswer) (timeout : UInt32) :
    (s.gsFadeStart crtc timeout).Keeps before := by
  have hstop : ∀ {u : FadeState}, u.Keeps before → (u.stopTimer.setActive timeout).Keeps before := by
    intro u hu
    exact hu.of_eq (by simp) (by unfold stopTimer; split <;> rfl) (by simp)
  unfold gsFadeStart
  cases htype : s.fade.fadeType with
  | none => exact gsFadeFinish_keeps (hstop h)
  | xrandr =>
    have hsetup := xrandrFadeSetup_keeps crtc h htype
    dsimp only
    split
    · exact (hstop hsetup).of_eq rfl rfl rfl
    · exact hsetup

theorem stopActive_keeps (h : s.Keeps before) : s.stopActive.Keeps before :=
  h.of_eq (by simp) (by simp) (by simp)

/- A reset puts back what was there before the first fade, and forgets it. -/
theorem gsFadeReset_restores (h : s.Keeps before) :
    s.gsFadeReset.gamma = before ∧ s.gsFadeReset.fade.info = none := by
  unfold Keeps at h
  unfold gsFadeReset gsFadeSetAlpha screenFadeFinish
  cases hinfo : s.fade.info with
  | none =>
    simp only [hinfo] at h
    cases htype : s.fade.fadeType <;> simp [hinfo, htype, h]
  | some info =>
    simp only [hinfo] at h
    have hback : whackGammas 1 s.gamma info = before := h.2.restored
    simp [hinfo, h.1, hback]

/- Of the events only a reset ends what the array is about. -/
theorem step_keeps {e : Event} (h : s.Keeps before) (hstep : fading.next s e = some t)
    (he : e.isReset = false) : t.Keeps before := by
  cases e with
  | start crtc timeout =>
    cases hstep
    exact gsFadeStart_keeps h crtc timeout
  | async crtc timeout =>
    cases hstep
    exact gsFadeStart_keeps (stopActive_keeps h) crtc timeout
  | tick id =>
    obtain ⟨_, hstep⟩ := Option.ite_none_right_eq_some.1 hstep
    cases hstep
    exact fadeOutTimer_keeps h id
  | finish =>
    cases hstep
    exact gsFadeFinish_keeps h
  | faded =>
    obtain ⟨_, hstep⟩ := Option.ite_none_right_eq_some.1 hstep
    cases hstep
    exact h.of_eq rfl rfl rfl
  | reset => cases he

/- In every reachable state the array is about some ramps of the past. -/
theorem reachable_keeps (hr : fading.Reachable s) : ∃ before, s.Keeps before := by
  induction hr with
  | start h =>
    obtain ⟨fadeType, gamma, rfl⟩ := h
    exact ⟨gamma, rfl⟩
  | @step s e t _ hstep ih =>
    obtain ⟨before, h⟩ := ih
    cases he : e.isReset with
    | false => exact ⟨before, step_keeps h hstep he⟩
    | true =>
      cases e <;> cases he
      cases hstep
      exact ⟨s.gsFadeReset.gamma, by simp [Keeps, (gsFadeReset_restores h).2]⟩

theorem Fresh.info (h : Fresh s) : s.fade.info = none := by
  obtain ⟨fadeType, gamma, rfl⟩ | ⟨r, hr, rfl⟩ := h
  · rfl
  · obtain ⟨before, hkeep⟩ := reachable_keeps hr
    exact (gsFadeReset_restores hkeep).2

theorem keeps_of_info (h : s.fade.info = none) : s.Keeps s.gamma := by
  simp [Keeps, h]

/- Nothing but a fade captures. -/
theorem step_info {e : Event} (h : s.fade.info = none) (hstep : fading.next s e = some t)
    (he : e.isFade = false) : t.fade.info = none := by
  cases e with
  | start | async => cases he
  | tick id =>
    obtain ⟨_, hstep⟩ := Option.ite_none_right_eq_some.1 hstep
    cases hstep
    have hiter : s.gsFadeOutIter.1.fade.info = none := by
      unfold gsFadeOutIter gsFadeSetAlpha
      split <;> simp [h]
    unfold fadeOutTimer
    split <;> simp [hiter]
  | finish =>
    cases hstep
    simpa using h
  | faded =>
    obtain ⟨_, hstep⟩ := Option.ite_none_right_eq_some.1 hstep
    cases hstep
    exact h
  | reset =>
    cases hstep
    exact (gsFadeReset_restores (keeps_of_info h)).2

/- From the last moment before the first fade since a reset, whatever follows, the next
reset gives each captured CRTC its ramp back and does not touch the others. -/
theorem reset_restores {s₀ s s' : FadeState} {idle es : List Event} (h₀ : Fresh s₀)
    (hs : fading.run s₀ idle = some s) (hidle : ∀ e ∈ idle, e.isFade = false)
    (hs' : fading.run s es = some s') (hes : ∀ e ∈ es, e.isReset = false) :
    (∀ i, s'.Captured i → s'.gsFadeReset.gamma[i]? = s.gamma[i]?) ∧
      ∀ i, ¬ s'.Captured i → s'.gsFadeReset.gamma[i]? = s'.gamma[i]? ∧ s'.gamma[i]? = s.gamma[i]? := by
  have hinfo : s.fade.info = none :=
    System.run_keeps (C := fun e => e.isFade = false) (fun _ _ _ h hn he => step_info h hn he) h₀.info hs hidle
  have hkeep : s'.Keeps s.gamma :=
    System.run_keeps (C := fun e => e.isReset = false) (fun _ _ _ h hn he => step_keeps h hn he)
      (keeps_of_info hinfo) hs' hes
  have hback := (gsFadeReset_restores hkeep).1
  refine ⟨fun i _ => by rw [hback], fun i hi => ?_⟩
  have hleft : s'.gamma[i]? = s.gamma[i]? := by
    unfold Keeps at hkeep
    cases hinfo : s'.fade.info with
    | none =>
      simp only [hinfo] at hkeep
      rw [hkeep]
    | some info =>
      simp only [hinfo] at hkeep
      refine hkeep.2.now_eq fun ramp hramp => ?_
      by_contra hne
      exact hi ⟨info, hinfo, ramp, hramp, hne⟩
  exact ⟨by rw [hback, hleft], hleft⟩

/- One CRTC with a mode and one without, faded to black in one tick. -/
theorem reset_restores_black :
    let s₀ := init .xrandr [[⟨0, 300, 65535⟩], [⟨7, 8, 9⟩]]
    let crtc : ℕ → CrtcAnswer := fun k => if k = 0 then .gamma else .noMode
    ∃ s, fading.run s₀ [.async crtc 0, .tick 1] = some s ∧
      s.gamma = [[⟨0, 0, 0⟩], [⟨7, 8, 9⟩]] ∧ s.gsFadeReset.gamma[0]? = some [⟨0, 300, 65535⟩] := by
  intro s₀ crtc
  let s := ((s₀.gsFadeAsync crtc 0).fadeOutTimer 1)
  have hrun : fading.run s₀ [.async crtc 0, .tick 1] = some s := rfl
  have hnow : s.gamma = [[⟨0, 0, 0⟩], [⟨7, 8, 9⟩]] := by decide +kernel
  have hcaptured : s.Captured 0 := ⟨[[⟨0, 300, 65535⟩], []], by decide +kernel, _, rfl, by decide⟩
  have hback := (@reset_restores s₀ s₀ s [] [.async crtc 0, .tick 1] (.inl ⟨_, _, rfl⟩) rfl (by simp) hrun
    (by simp [Event.isReset])).1 0 hcaptured
  exact ⟨s, hrun, hnow, hback⟩

end FadeState
end MateScreensaver
