import Mathlib.Tactic.FieldSimp
import Mathlib.Tactic.Linarith
import Mathlib.Tactic.Ring
import MateScreensaver.Slideshow

/-!
The cross-fade of the slideshow: the new image gets a tenth more opaque with each tick, or
is painted over the old one once the frame rate has been too low.
-/

namespace MateScreensaver
namespace Slideshow
namespace GSTESlideshow

/- What draw_iter makes of the state when it is called n times; the times are what the timer
shows at each call. -/
def ticks (elapsed : ℕ → ℚ≥0) (s : GSTESlideshow) : ℕ → GSTESlideshow
  | 0 => s
  | n + 1 => (s.ticks elapsed n).drawIter (elapsed n)

/- The fade of an image ends with the n-th call, k ticks after it began. -/
structure Fades (image : ℕ) (elapsed : ℕ → ℚ≥0) (s : GSTESlideshow) (k n : ℕ) : Prop where
  during : ∀ j < n, (s.ticks elapsed j).pat2 = some image ∧ (s.ticks elapsed j).opacity = (k + j : ℕ) / 10
  finished : (s.ticks elapsed n).pat2 = none ∧ (s.ticks elapsed n).pat1 = some image ∧ (s.ticks elapsed n).opacity = 1
  disabled : k + n < 10 → (s.ticks elapsed n).fadeDisabled = true
  noDivision : ∀ j ≤ n, (s.ticks elapsed j).dividedByZero = s.dividedByZero

/- In the middle of a fade, after k ticks. -/
structure Fading (image k : ℕ) (s : GSTESlideshow) : Prop where
  early : k < 10
  pat2 : s.pat2 = some image
  fadeTicks : s.fadeTicks = k
  enabled : s.fadeDisabled = false
  opacity : s.opacity = k / 10

variable {image k : ℕ} {s : GSTESlideshow}

theorem opacity_append_one (s : GSTESlideshow) (alpha : ℚ) :
    opacity { s with alphas := s.alphas ++ [alpha] } = 1 - (1 - alpha) * (1 - s.opacity) := by
  rw [opacity, List.foldl_append]
  rfl

/- The last brush covers whatever is there. -/
theorem opacity_append_opaque (s : GSTESlideshow) : opacity { s with alphas := s.alphas ++ [1] } = 1 := by
  rw [opacity_append_one]
  ring

theorem startNewLoad_fields (s : GSTESlideshow) (timeout : ℕ) :
    (s.startNewLoad timeout).pat1 = s.pat1 ∧ (s.startNewLoad timeout).pat2 = s.pat2 ∧
      (s.startNewLoad timeout).opacity = s.opacity ∧ (s.startNewLoad timeout).fadeDisabled = s.fadeDisabled ∧
      (s.startNewLoad timeout).dividedByZero = s.dividedByZero := by
  unfold startNewLoad
  split <;> exact ⟨rfl, rfl, rfl, rfl, rfl⟩

/- What finishing leaves of the fade. -/
theorem finishFade_fields (s : GSTESlideshow) :
    s.finishFade.pat1 = s.pat2 ∧ s.finishFade.pat2 = none ∧ s.finishFade.opacity = s.opacity ∧
      s.finishFade.fadeDisabled = s.fadeDisabled ∧ s.finishFade.dividedByZero = s.dividedByZero :=
  startNewLoad_fields { s with pat1 := s.pat2, pat2 := none } imageLoadTimeout

theorem ticks_succ (elapsed : ℕ → ℚ≥0) (s : GSTESlideshow) (n : ℕ) :
    s.ticks elapsed (n + 1) = (s.drawIter (elapsed 0)).ticks (fun i => elapsed (i + 1)) n := by
  induction n with
  | zero => rfl
  | succ n ih => rw [ticks, ih, ticks]

/- A call before the end, with what comes after it. -/
theorem Fades.cons {elapsed : ℕ → ℚ≥0} {n : ℕ} (hpat : s.pat2 = some image) (hopacity : s.opacity = k / 10)
    (hdiv : (s.drawIter (elapsed 0)).dividedByZero = s.dividedByZero)
    (h : Fades image (fun i => elapsed (i + 1)) (s.drawIter (elapsed 0)) (k + 1) n) : Fades image elapsed s k (n + 1) where
  during := by
    intro j hj
    cases j with
    | zero => exact ⟨hpat, hopacity⟩
    | succ j =>
      rw [ticks_succ, ← Nat.succ_add_eq_add_succ]
      exact h.during j (by omega)
  finished := by
    rw [ticks_succ]
    exact h.finished
  disabled := by
    rw [ticks_succ]
    exact fun hlt => h.disabled (by omega)
  noDivision := by
    intro j hj
    cases j with
    | zero => rfl
    | succ j =>
      rw [ticks_succ, h.noDivision j (by omega), hdiv]

/- The last call. -/
theorem fades_one {elapsed : ℕ → ℚ≥0} (hpat : s.pat2 = some image) (hopacity : s.opacity = k / 10)
    (hdone : (s.drawIter (elapsed 0)).pat2 = none ∧ (s.drawIter (elapsed 0)).pat1 = some image ∧
      (s.drawIter (elapsed 0)).opacity = 1)
    (hdisabled : k + 1 < 10 → (s.drawIter (elapsed 0)).fadeDisabled = true)
    (hdiv : (s.drawIter (elapsed 0)).dividedByZero = s.dividedByZero) : Fades image elapsed s k 1 where
  during := by
    intro j hj
    obtain rfl : j = 0 := by omega
    exact ⟨hpat, hopacity⟩
  finished := hdone
  disabled := hdisabled
  noDivision := by
    intro j hj
    rcases Nat.le_one_iff_eq_zero_or_eq_one.1 hj with rfl | rfl
    · rfl
    · exact hdiv

/- A fade that is disabled ends with the next call. -/
theorem fades_disabled (elapsed : ℕ → ℚ≥0) (hpat : s.pat2 = some image) (hdisabled : s.fadeDisabled = true)
    (hopacity : s.opacity = k / 10) : Fades image elapsed s k 1 := by
  have hiter : s.drawIter (elapsed 0) = { s with alpha2 := 1, alphas := s.alphas ++ [1] }.finishFade := by
    simp [drawIter, updateDisplay, hpat, hdisabled]
  obtain ⟨hpat1, hpat2, hcover, hkept, hdiv⟩ := finishFade_fields { s with alpha2 := 1, alphas := s.alphas ++ [1] }
  rw [← hiter] at hpat1 hpat2 hcover hkept hdiv
  refine fades_one hpat hopacity ⟨hpat2, hpat1.trans hpat, hcover.trans ?_⟩ (fun _ => hkept.trans hdisabled) hdiv
  exact opacity_append_opaque s

def alphaAt (k : ℕ) : ℚ := 1 - (1 - (k + 1) / 10) / (1 - k / 10)

/- The divisor is not zero, and the alpha is what the old opacity needs. -/
theorem alphaAt_exact (h : k < 10) : (1 - (k : ℚ) / 10 ≠ 0) ∧ 1 - (1 - alphaAt k) * (1 - (k : ℚ) / 10) = ((k + 1 : ℕ) : ℚ) / 10 := by
  have hk : (k : ℚ) < 10 := by exact_mod_cast h
  have hne : 1 - (k : ℚ) / 10 ≠ 0 := by
    intro h0
    linarith
  refine ⟨hne, ?_⟩
  rw [alphaAt, sub_sub_cancel, div_mul_cancel₀ _ hne]
  push_cast
  ring

/- What a call paints in the middle of a fade. -/
def painted (s : GSTESlideshow) (k : ℕ) : GSTESlideshow :=
  { s with fadeTicks := k + 1, alpha2 := alphaAt k, alphas := s.alphas ++ [alphaAt k] }

theorem Fading.paintTick_eq (h : Fading image k s) : s.paintTick = s.painted k := by
  have hold : ((((k : ℤ) + 1 : ℤ) : ℚ) - 1) / (nFadeTicks : ℤ) = k / 10 := by
    simp [nFadeTicks]
  have hnew : (((k : ℤ) + 1 : ℤ) : ℚ) / (nFadeTicks : ℤ) = (k + 1) / 10 := by
    simp [nFadeTicks]
  unfold paintTick
  dsimp only
  rw [h.fadeTicks, hold, hnew, setAlpha, if_neg (alphaAt_exact h.early).1]
  simp [updateDisplay, h.pat2, painted, alphaAt]

theorem painted_opacity (h : Fading image k s) : (s.painted k).opacity = ((k + 1 : ℕ) : ℚ) / 10 := by
  have hfade : (s.painted k).opacity = 1 - (1 - alphaAt k) * (1 - s.opacity) := opacity_append_one s (alphaAt k)
  rw [hfade, h.opacity]
  exact (alphaAt_exact h.early).2

theorem Fading.drawIter_eq (h : Fading image k s) (elapsed : ℚ≥0) :
    s.drawIter elapsed =
      if isBelowMinimumFps (k + 1) elapsed then { s.painted k with fadeTicks := 9, fadeDisabled := true }
      else if k + 1 = 10 then (s.painted k).finishFade else s.painted k := by
  have hticks : (s.painted k).fadeTicks = (k : ℤ) + 1 := rfl
  rw [drawIter, if_pos (by rw [h.pat2]; rfl), if_neg (by rw [h.enabled]; decide), h.paintTick_eq, checkFps, hticks]
  cases isBelowMinimumFps ((k : ℤ) + 1) elapsed with
  | true => exact if_neg (show ¬ nFadeTicks ≤ nFadeTicks - 1 by decide)
  | false =>
    have hearly := h.early
    simp only [Bool.false_eq_true, if_false, hticks, nFadeTicks]
    by_cases hlast : k + 1 = 10
    · rw [if_pos hlast, if_pos (by omega)]
    · rw [if_neg hlast, if_neg (by omega)]

/- From the middle of a fade, by induction on the ticks that are left. -/
theorem fading_ends {left : ℕ} (h : Fading image k s) (hleft : k + left = 10) (elapsed : ℕ → ℚ≥0) :
    ∃ n, 1 ≤ n ∧ k + n ≤ 11 ∧ Fades image elapsed s k n := by
  induction left generalizing k s elapsed with
  | zero => exact absurd h.early (by omega)
  | succ left ih =>
    have hiter := h.drawIter_eq (elapsed 0)
    have hopacity := painted_opacity h
    cases hbelow : isBelowMinimumFps ((k : ℤ) + 1) (elapsed 0) with
    | true =>
      rw [hbelow, if_pos rfl] at hiter
      have hnext : Fades image (fun i => elapsed (i + 1)) (s.drawIter (elapsed 0)) (k + 1) 1 := by
        rw [hiter]
        exact fades_disabled _ h.pat2 rfl hopacity
      exact ⟨2, by omega, by omega, hnext.cons h.pat2 h.opacity (by rw [hiter]; rfl)⟩
    | false =>
      rw [hbelow, if_neg Bool.false_ne_true] at hiter
      by_cases hlast : k + 1 = 10
      · rw [if_pos hlast] at hiter
        obtain ⟨hpat1, hpat2, hcover, hkept, hdiv⟩ := finishFade_fields (s.painted k)
        rw [← hiter] at hpat1 hpat2 hcover hkept hdiv
        have hfull : ((k + 1 : ℕ) : ℚ) / 10 = 1 := by
          rw [hlast]
          norm_num
        refine ⟨1, le_refl 1, by omega, fades_one h.pat2 h.opacity ⟨hpat2, hpat1.trans h.pat2, ?_⟩ (by omega) hdiv⟩
        rw [hcover, hopacity, hfull]
      · rw [if_neg hlast] at hiter
        have hnext : Fading image (k + 1) (s.drawIter (elapsed 0)) := by
          rw [hiter]
          have hearly := h.early
          exact ⟨by omega, h.pat2, by rw [painted]; push_cast; rfl, h.enabled, hopacity⟩
        obtain ⟨n, hn, hle, hends⟩ := ih hnext (by omega) fun i => elapsed (i + 1)
        exact ⟨n + 1, by omega, by omega, hends.cons h.pat2 h.opacity (by rw [hiter]; rfl)⟩

/-- Whenever the frame rate is too low, before the fade or at any tick of it or never: each
call paints the next tenth without a division by zero, and the eleventh at most ends the
fade with the new image opaque. -/
theorem startFade_fades (s : GSTESlideshow) (image : ℕ) (elapsed : ℕ → ℚ≥0) :
    ∃ n, 1 ≤ n ∧ n ≤ 11 ∧ Fades image elapsed (s.startFade image) 0 n := by
  have hopacity : (s.startFade image).opacity = ((0 : ℕ) : ℚ) / 10 := by
    simp [opacity, startFade]
  cases hdisabled : s.fadeDisabled with
  | true => exact ⟨1, by omega, by omega, fades_disabled elapsed rfl hdisabled hopacity⟩
  | false =>
    have hstart : Fading image 0 (s.startFade image) := ⟨by decide, rfl, rfl, hdisabled, hopacity⟩
    obtain ⟨n, hn, hle, hends⟩ := fading_ends hstart (Nat.zero_add 10) elapsed
    exact ⟨n, hn, by omega, hends⟩

end GSTESlideshow
end Slideshow
end MateScreensaver
