import Mathlib.Algebra.Order.Field.Basic
import Mathlib.Algebra.Order.Group.MinMax
import Mathlib.Tactic.FieldSimp
import Mathlib.Tactic.Linarith
import Mathlib.Tactic.Ring

/-!
Colours by hue, value and chroma: each primary is down from the value by a share of the chroma that
goes with the hue, which runs over six sectors.
-/

namespace Hexcone

variable {K : Type*} [Field K] {r g b h h' v c x y : K}

theorem neg_share (x y : K) : (x - y) / c = -((y - x) / c) := by rw [← neg_div, neg_sub]

variable [LinearOrder K]

def unit (x : K) : K := max 0 (min 1 x)

def redDip (h : K) : K := unit (min (h - 1) (5 - h))
def greenDip (h : K) : K := unit (max (1 - h) (h - 3))
def blueDip (h : K) : K := unit (max (3 - h) (h - 5))

/-- The colour with this hue, value and chroma. -/
def color (h v c : K) : K × K × K := (v - c * redDip h, v - c * greenDip h, v - c * blueDip h)

theorem unit_nonneg (x : K) : 0 ≤ unit x := le_max_left ..

theorem unit_of_nonpos (hx : x ≤ 0) : unit x = 0 := max_eq_left ((min_le_right ..).trans hx)

theorem unit_of_mem (h₀ : 0 ≤ x) (h₁ : x ≤ 1) : unit x = x := by
  rw [unit, min_eq_right h₁, max_eq_right h₀]

/- A share of the chroma. -/
theorem share (hc : 0 < c) (x : K) : c * (1 - x / c) = c - x := by
  field_simp

variable [IsStrictOrderedRing K]

theorem unit_le_one (x : K) : unit x ≤ 1 := max_le zero_le_one (min_le_left ..)

theorem unit_of_one_le (hx : 1 ≤ x) : unit x = 1 := by
  rw [unit, min_eq_left hx, max_eq_right zero_le_one]

/-! ### The sectors -/

theorem dips_first (h₀ : 0 ≤ h) (h₁ : h ≤ 1) : redDip h = 0 ∧ greenDip h = 1 - h ∧ blueDip h = 1 := by
  have hgreen : max (1 - h) (h - 3) = 1 - h := max_eq_left (by linarith)
  refine ⟨unit_of_nonpos ((min_le_left ..).trans (by linarith)), ?_, unit_of_one_le ((by linarith : 1 ≤ 3 - h).trans (le_max_left ..))⟩
  rw [greenDip, hgreen]
  exact unit_of_mem (by linarith) (by linarith)

theorem dips_second (h₀ : 1 ≤ h) (h₁ : h ≤ 2) : redDip h = h - 1 ∧ greenDip h = 0 ∧ blueDip h = 1 := by
  have hred : min (h - 1) (5 - h) = h - 1 := min_eq_left (by linarith)
  refine ⟨?_, unit_of_nonpos (max_le (by linarith) (by linarith)), unit_of_one_le ((by linarith : 1 ≤ 3 - h).trans (le_max_left ..))⟩
  rw [redDip, hred]
  exact unit_of_mem (by linarith) (by linarith)

theorem dips_third (h₀ : 2 ≤ h) (h₁ : h ≤ 3) : redDip h = 1 ∧ greenDip h = 0 ∧ blueDip h = 3 - h := by
  have hblue : max (3 - h) (h - 5) = 3 - h := max_eq_left (by linarith)
  refine ⟨unit_of_one_le (le_min (by linarith) (by linarith)), unit_of_nonpos (max_le (by linarith) (by linarith)), ?_⟩
  rw [blueDip, hblue]
  exact unit_of_mem (by linarith) (by linarith)

theorem dips_fourth (h₀ : 3 ≤ h) (h₁ : h ≤ 4) : redDip h = 1 ∧ greenDip h = h - 3 ∧ blueDip h = 0 := by
  have hgreen : max (1 - h) (h - 3) = h - 3 := max_eq_right (by linarith)
  refine ⟨unit_of_one_le (le_min (by linarith) (by linarith)), ?_, unit_of_nonpos (max_le (by linarith) (by linarith))⟩
  rw [greenDip, hgreen]
  exact unit_of_mem (by linarith) (by linarith)

theorem dips_fifth (h₀ : 4 ≤ h) (h₁ : h ≤ 5) : redDip h = 5 - h ∧ greenDip h = 1 ∧ blueDip h = 0 := by
  have hred : min (h - 1) (5 - h) = 5 - h := min_eq_right (by linarith)
  refine ⟨?_, unit_of_one_le ((by linarith : 1 ≤ h - 3).trans (le_max_right ..)), unit_of_nonpos (max_le (by linarith) (by linarith))⟩
  rw [redDip, hred]
  exact unit_of_mem (by linarith) (by linarith)

theorem dips_sixth (h₀ : 5 ≤ h) (h₁ : h ≤ 6) : redDip h = 0 ∧ greenDip h = 1 ∧ blueDip h = h - 5 := by
  have hblue : max (3 - h) (h - 5) = h - 5 := max_eq_right (by linarith)
  refine ⟨unit_of_nonpos ((min_le_right ..).trans (by linarith)), unit_of_one_le ((by linarith : 1 ≤ h - 3).trans (le_max_right ..)), ?_⟩
  rw [blueDip, hblue]
  exact unit_of_mem (by linarith) (by linarith)

/-! ### Hues close to each other -/

theorem unit_dist (x y : K) : |unit x - unit y| ≤ |x - y| := by
  have hmax := abs_max_sub_max_le_max 0 (min 1 x) 0 (min 1 y)
  have hmin := abs_min_sub_min_le_max 1 x 1 y
  rw [sub_self, abs_zero, max_eq_right (abs_nonneg (min 1 x - min 1 y))] at hmax
  rw [sub_self, abs_zero, max_eq_right (abs_nonneg (x - y))] at hmin
  exact hmax.trans hmin

theorem redDip_dist (h h' : K) : |redDip h - redDip h'| ≤ |h - h'| := by
  apply (unit_dist ..).trans
  apply (abs_min_sub_min_le_max ..).trans
  rw [sub_sub_sub_cancel_right, sub_sub_sub_cancel_left, abs_sub_comm h' h, max_self]

theorem greenDip_dist (h h' : K) : |greenDip h - greenDip h'| ≤ |h - h'| := by
  apply (unit_dist ..).trans
  apply (abs_max_sub_max_le_max ..).trans
  rw [sub_sub_sub_cancel_right, sub_sub_sub_cancel_left, abs_sub_comm h' h, max_self]

theorem blueDip_dist (h h' : K) : |blueDip h - blueDip h'| ≤ |h - h'| := by
  apply (unit_dist ..).trans
  apply (abs_max_sub_max_le_max ..).trans
  rw [sub_sub_sub_cancel_right, sub_sub_sub_cancel_left, abs_sub_comm h' h, max_self]

/- A primary moves by no more than its chroma's share of the hue. -/
theorem primary_dist (hc : 0 ≤ c) (hxy : |x - y| ≤ |h - h'|) : |(v - c * x) - (v - c * y)| ≤ c * |h - h'| := by
  have hdiff : (v - c * x) - (v - c * y) = -(c * (x - y)) := by ring
  rw [hdiff, abs_neg, abs_mul, abs_of_nonneg hc]
  exact mul_le_mul_of_nonneg_left hxy hc

/-- Colours of the same value and chroma are as close as their hues. -/
theorem color_dist (hc : 0 ≤ c) (h h' v : K) : |(color h v c).1 - (color h' v c).1| ≤ c * |h - h'| ∧
    |(color h v c).2.1 - (color h' v c).2.1| ≤ c * |h - h'| ∧ |(color h v c).2.2 - (color h' v c).2.2| ≤ c * |h - h'| :=
  ⟨primary_dist hc (redDip_dist h h'), primary_dist hc (greenDip_dist h h'), primary_dist hc (blueDip_dist h h')⟩

/-- With a value of at most one and no more chroma than value, all three are from zero to one. -/
theorem primary_mem (hc : 0 ≤ c) (hcv : c ≤ v) (hv : v ≤ 1) (x : K) : 0 ≤ v - c * unit x ∧ v - c * unit x ≤ 1 := by
  have hle : c * unit x ≤ c := mul_le_of_le_one_right hc (unit_le_one x)
  have hnonneg : 0 ≤ c * unit x := mul_nonneg hc (unit_nonneg x)
  constructor
  · linarith
  · linarith

/-! ### The hue of a colour -/

/- The largest primary, the first of equals, and the chroma. -/
def chroma (r g b : K) : K := max (max r g) b - min (min r g) b

def hue (r g b : K) : K :=
  if g ≤ r ∧ b ≤ r then (if b ≤ g then (g - b) / chroma r g b else 6 + (g - b) / chroma r g b)
  else if b ≤ g then 2 + (b - r) / chroma r g b
  else 4 + (r - g) / chroma r g b

theorem share_mem (hc : 0 < c) (h₀ : 0 ≤ x) (h₁ : x ≤ c) : 0 ≤ x / c ∧ x / c ≤ 1 :=
  ⟨div_nonneg h₀ hc.le, (div_le_one hc).2 h₁⟩

section Shares

/- How far the middle primary is up from the smallest one gives the place in each of the sectors. -/
variable (hc : 0 < c) (h₀ : 0 ≤ x) (h₁ : x ≤ c) (v : K)
include hc h₀ h₁

theorem color_first : color (x / c) v c = (v, v - c + x, v - c) := by
  obtain ⟨hx₀, hx₁⟩ := share_mem hc h₀ h₁
  obtain ⟨hred, hgreen, hblue⟩ := dips_first hx₀ hx₁
  rw [color, hred, hgreen, hblue, share hc, mul_zero, mul_one, sub_zero, sub_sub_eq_add_sub, add_sub_right_comm]

theorem color_second : color (2 + -(x / c)) v c = (v - c + x, v, v - c) := by
  obtain ⟨hx₀, hx₁⟩ := share_mem hc h₀ h₁
  obtain ⟨hred, hgreen, hblue⟩ := dips_second (h := 2 + -(x / c)) (by linarith) (by linarith)
  have hlast : 2 + -(x / c) - 1 = 1 - x / c := by ring
  rw [color, hred, hgreen, hblue, hlast, share hc, mul_zero, mul_one, sub_zero, sub_sub_eq_add_sub, add_sub_right_comm]

theorem color_third : color (2 + x / c) v c = (v - c, v, v - c + x) := by
  obtain ⟨hx₀, hx₁⟩ := share_mem hc h₀ h₁
  obtain ⟨hred, hgreen, hblue⟩ := dips_third (h := 2 + x / c) (by linarith) (by linarith)
  have hlast : 3 - (2 + x / c) = 1 - x / c := by ring
  rw [color, hred, hgreen, hblue, hlast, share hc, mul_zero, mul_one, sub_zero, sub_sub_eq_add_sub, add_sub_right_comm]

theorem color_fourth : color (4 + -(x / c)) v c = (v - c, v - c + x, v) := by
  obtain ⟨hx₀, hx₁⟩ := share_mem hc h₀ h₁
  obtain ⟨hred, hgreen, hblue⟩ := dips_fourth (h := 4 + -(x / c)) (by linarith) (by linarith)
  have hlast : 4 + -(x / c) - 3 = 1 - x / c := by ring
  rw [color, hred, hgreen, hblue, hlast, share hc, mul_zero, mul_one, sub_zero, sub_sub_eq_add_sub, add_sub_right_comm]

theorem color_fifth : color (4 + x / c) v c = (v - c + x, v - c, v) := by
  obtain ⟨hx₀, hx₁⟩ := share_mem hc h₀ h₁
  obtain ⟨hred, hgreen, hblue⟩ := dips_fifth (h := 4 + x / c) (by linarith) (by linarith)
  have hlast : 5 - (4 + x / c) = 1 - x / c := by ring
  rw [color, hred, hgreen, hblue, hlast, share hc, mul_zero, mul_one, sub_zero, sub_sub_eq_add_sub, add_sub_right_comm]

theorem color_sixth : color (6 + -(x / c)) v c = (v, v - c, v - c + x) := by
  obtain ⟨hx₀, hx₁⟩ := share_mem hc h₀ h₁
  obtain ⟨hred, hgreen, hblue⟩ := dips_sixth (h := 6 + -(x / c)) (by linarith) (by linarith)
  have hlast : 6 + -(x / c) - 5 = 1 - x / c := by ring
  rw [color, hred, hgreen, hblue, hlast, share hc, mul_zero, mul_one, sub_zero, sub_sub_eq_add_sub, add_sub_right_comm]

end Shares

/-- A colour is that of its hue, its largest primary and its chroma, and the hue is in the sectors. -/
theorem color_hue (hc : 0 < chroma r g b) :
    color (hue r g b) (max (max r g) b) (chroma r g b) = (r, g, b) ∧ 0 ≤ hue r g b ∧ hue r g b < 6 := by
  rw [hue]
  by_cases hr : g ≤ r ∧ b ≤ r
  · have hmax : max (max r g) b = r := by rw [max_eq_left hr.1, max_eq_left hr.2]
    rw [if_pos hr, hmax]
    by_cases hbg : b ≤ g
    · have hchroma : chroma r g b = r - b := by rw [chroma, hmax, min_eq_right hr.1, min_eq_right hbg]
      rw [hchroma] at hc
      have hmiddle : g - b ≤ r - b := by linarith [hr.1]
      obtain ⟨h₀, h₁⟩ := share_mem hc (sub_nonneg.2 hbg) hmiddle
      rw [if_pos hbg, hchroma, color_first hc (sub_nonneg.2 hbg) hmiddle, sub_sub_cancel, add_sub_cancel]
      exact ⟨rfl, h₀, by linarith⟩
    · rw [not_le] at hbg
      have hchroma : chroma r g b = r - g := by rw [chroma, hmax, min_eq_right hr.1, min_eq_left hbg.le]
      rw [hchroma] at hc
      have hmiddle : b - g ≤ r - g := by linarith [hr.2]
      obtain ⟨h₀, h₁⟩ := share_mem hc (sub_nonneg.2 hbg.le) hmiddle
      have hpos : 0 < (b - g) / (r - g) := div_pos (sub_pos.2 hbg) hc
      rw [if_neg hbg.not_ge, hchroma, neg_share g b, color_sixth hc (sub_nonneg.2 hbg.le) hmiddle, sub_sub_cancel,
        add_sub_cancel]
      exact ⟨rfl, by linarith, by linarith⟩
  · rw [if_neg hr]
    by_cases hbg : b ≤ g
    · have hrg : r < g := by
        by_contra h
        exact hr ⟨not_lt.1 h, hbg.trans (not_lt.1 h)⟩
      have hmax : max (max r g) b = g := by rw [max_eq_right hrg.le, max_eq_left hbg]
      rw [if_pos hbg, hmax]
      cases le_total r b with
      | inl hrb =>
        have hchroma : chroma r g b = g - r := by rw [chroma, hmax, min_eq_left hrg.le, min_eq_left hrb]
        rw [hchroma] at hc
        have hmiddle : b - r ≤ g - r := by linarith
        obtain ⟨h₀, h₁⟩ := share_mem hc (sub_nonneg.2 hrb) hmiddle
        rw [hchroma, color_third hc (sub_nonneg.2 hrb) hmiddle, sub_sub_cancel, add_sub_cancel]
        exact ⟨rfl, by linarith, by linarith⟩
      | inr hbr =>
        have hchroma : chroma r g b = g - b := by rw [chroma, hmax, min_eq_left hrg.le, min_eq_right hbr]
        rw [hchroma] at hc
        have hmiddle : r - b ≤ g - b := by linarith
        obtain ⟨h₀, h₁⟩ := share_mem hc (sub_nonneg.2 hbr) hmiddle
        rw [hchroma, neg_share b r, color_second hc (sub_nonneg.2 hbr) hmiddle, sub_sub_cancel, add_sub_cancel]
        exact ⟨rfl, by linarith, by linarith⟩
    · rw [not_le] at hbg
      have hrb : r < b := by
        by_contra h
        exact hr ⟨hbg.le.trans (not_lt.1 h), not_lt.1 h⟩
      have hmax : max (max r g) b = b := max_eq_right (max_le hrb.le hbg.le)
      rw [if_neg hbg.not_ge, hmax]
      cases le_total g r with
      | inl hgr =>
        have hchroma : chroma r g b = b - g := by rw [chroma, hmax, min_eq_right hgr, min_eq_left hbg.le]
        rw [hchroma] at hc
        have hmiddle : r - g ≤ b - g := by linarith
        obtain ⟨h₀, h₁⟩ := share_mem hc (sub_nonneg.2 hgr) hmiddle
        rw [hchroma, color_fifth hc (sub_nonneg.2 hgr) hmiddle, sub_sub_cancel, add_sub_cancel]
        exact ⟨rfl, by linarith, by linarith⟩
      | inr hrg =>
        have hchroma : chroma r g b = b - r := by rw [chroma, hmax, min_eq_left hrg, min_eq_left hrb.le]
        rw [hchroma] at hc
        have hmiddle : g - r ≤ b - r := by linarith
        obtain ⟨h₀, h₁⟩ := share_mem hc (sub_nonneg.2 hrg) hmiddle
        rw [hchroma, neg_share r g, color_fourth hc (sub_nonneg.2 hrg) hmiddle, sub_sub_cancel, add_sub_cancel]
        exact ⟨rfl, by linarith, by linarith⟩

end Hexcone
