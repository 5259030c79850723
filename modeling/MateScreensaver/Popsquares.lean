import Mathlib.Algebra.Order.Field.Rat
import Mathlib.Data.Rat.Floor
import Mathlib.Tactic.Positivity
import MateScreensaver.Lib.Hexcone
import MateScreensaver.Lib.Runs

/-!
The squares of the popsquares saver (gste-popsquares.c), in exact rationals: a grid over the window
whose squares go through a ramp of colours that is made of the colour of the selection.
-/

namespace MateScreensaver
open Runs

structure GdkRGBA where
  red : ℚ
  green : ℚ
  blue : ℚ
  alpha : ℚ

namespace Popsquares

/- (int), towards zero. -/
def toInt (q : ℚ) : ℤ := q.num.tdiv q.den

def clamp (x : ℚ) : ℚ := if x < 0 then 0 else if 1 < x then 1 else x

/- The six branches, by the whole part of the hue. -/
def sector (i : ℤ) (f S V : ℚ) : ℚ × ℚ × ℚ :=
  let p1 := V * (1 - S)
  let p2 := V * (1 - S * f)
  let p3 := V * (1 - S * (1 - f))
  if i = 0 then (V, p3, p1)
  else if i = 1 then (p2, V, p1)
  else if i = 2 then (p1, V, p3)
  else if i = 3 then (p1, p2, V)
  else if i = 4 then (p3, p1, V)
  else (V, p1, p2)

/- gste-popsquares.c:62 -/
def hsvToRgb (h : ℤ) (s v : ℚ) : ℚ × ℚ × ℚ :=
  let H : ℚ := (h.tmod 360 : ℤ) / 60
  let i := toInt H
  sector i (H - i) (clamp s) (clamp v)

/- Which of the three is the largest. -/
inductive Largest
  | first
  | second
  | third
deriving DecidableEq

/- The comparisons of gste-popsquares.c:160: cmax, cmin and imax. -/
def extremes (R G B : ℚ) : ℚ × ℚ × Largest :=
  let (cmax, cmin, imax) := if R < G then (G, R, Largest.second) else (R, G, .first)
  let (cmax, imax) := if cmax < B then (B, .third) else (cmax, imax)
  (cmax, if B < cmin then B else cmin, imax)

/- gste-popsquares.c:143 -/
def rgbToHsv (R G B : ℚ) : ℤ × ℚ × ℚ :=
  let (cmax, cmin, imax) := extremes R G B
  let cmm := cmax - cmin
  if cmm = 0 then (0, 0, cmax)
  else
    let H := match imax with
      | .first => (G - B) / cmm
      | .second => 2 + (B - R) / cmm
      | .third => 4 + (R - G) / cmm
    let H := if H < 0 then H + 6 else H
    (toInt (H * 60), cmm / cmax, cmax)

def opaqueOf (c : ℚ × ℚ × ℚ) : GdkRGBA := ⟨c.1, c.2.1, c.2.2, 1⟩

/- The first loop of make_color_ramp. -/
def rampColor (h₁ : ℤ) (s₁ v₁ : ℚ) (h₂ : ℤ) (s₂ v₂ : ℚ) (ncolors i : ℕ) : GdkRGBA :=
  let dh := ((h₂ : ℚ) - h₁) / ncolors
  let ds := (s₂ - s₁) / ncolors
  let dv := (v₂ - v₁) / ncolors
  opaqueOf (hsvToRgb (toInt (h₁ + i * dh)) (s₁ + i * ds) (v₁ + i * dv))

/- gste-popsquares.c:214: the colours that are set, in the order they are. -/
def makeColorRamp (h₁ : ℤ) (s₁ v₁ : ℚ) (h₂ : ℤ) (s₂ v₂ : ℚ) (nColors : ℕ) (closed : Bool) : List GdkRGBA :=
  let ncolors := if closed then nColors / 2 + 1 else nColors
  let colors := (List.range ncolors).map (rampColor h₁ s₁ v₁ h₂ s₂ v₂ ncolors)
  if closed then
    (List.range' ncolors (nColors - ncolors)).foldl (fun colors i => colors ++ [colors.getD (nColors - i) ⟨0, 0, 0, 0⟩]) colors
  else colors

/- set_colors: of the colour of the selection, the foreground. -/
def foreground (bg : GdkRGBA) : GdkRGBA := ⟨bg.red * (7 / 10), bg.green * (7 / 10), bg.blue * (7 / 10), bg.alpha⟩

def ncolors : ℕ := 128
def subdivision : ℕ := 5

/- The colours of setup_colors. -/
def colorsOf (bg : GdkRGBA) : List GdkRGBA :=
  let fg := foreground bg
  let (h₁, s₁, v₁) := rgbToHsv fg.red fg.green fg.blue
  let (h₂, s₂, v₂) := rgbToHsv bg.red bg.green bg.blue
  makeColorRamp h₁ s₁ v₁ h₂ s₂ v₂ ncolors true

/-! ### The hue -/

variable {h : ℤ} {s v r g b q : ℚ}

theorem toInt_eq_floor (hq : 0 ≤ q) : toInt q = ⌊q⌋ := by
  rw [toInt, Int.tdiv_eq_ediv_of_nonneg (Rat.num_nonneg.2 hq), Rat.floor_def']

theorem clamp_mem (x : ℚ) : 0 ≤ clamp x ∧ clamp x ≤ 1 := by
  unfold clamp
  split
  · exact ⟨le_refl _, zero_le_one⟩
  · next h₀ =>
    split
    · exact ⟨zero_le_one, le_refl _⟩
    · next h₁ => exact ⟨not_lt.1 h₀, not_lt.1 h₁⟩

theorem clamp_of_mem (h₀ : 0 ≤ q) (h₁ : q ≤ 1) : clamp q = q := by
  rw [clamp, if_neg h₀.not_gt, if_neg h₁.not_gt]

/- What the branches say: the colour of the hue, with the share of the value as its chroma. -/
theorem sector_eq_color {H : ℚ} (h₀ : 0 ≤ H) (h₆ : H < 6) (S V : ℚ) :
    sector (toInt H) (H - toInt H) S V = Hexcone.color H V (V * S) := by
  rw [toInt_eq_floor h₀]
  have hle : (⌊H⌋ : ℚ) ≤ H := Int.floor_le H
  have hlt : H < ⌊H⌋ + 1 := Int.lt_floor_add_one H
  have hnonneg : 0 ≤ ⌊H⌋ := Int.floor_nonneg.2 h₀
  have hsix : ⌊H⌋ < 6 := Int.floor_lt.2 (by exact_mod_cast h₆)
  generalize ⌊H⌋ = i at *
  have hcases : i = 0 ∨ i = 1 ∨ i = 2 ∨ i = 3 ∨ i = 4 ∨ i = 5 := by omega
  rcases hcases with rfl | rfl | rfl | rfl | rfl | rfl
  · obtain ⟨hred, hgreen, hblue⟩ := Hexcone.dips_first (h := H) (by push_cast at hle; linarith) (by push_cast at hlt; linarith)
    rw [sector, if_pos rfl, Hexcone.color, hred, hgreen, hblue]
    push_cast
    ring_nf
  · obtain ⟨hred, hgreen, hblue⟩ := Hexcone.dips_second (h := H) (by push_cast at hle; linarith) (by push_cast at hlt; linarith)
    rw [sector, if_neg (by decide), if_pos rfl, Hexcone.color, hred, hgreen, hblue]
    push_cast
    ring_nf
  · obtain ⟨hred, hgreen, hblue⟩ := Hexcone.dips_third (h := H) (by push_cast at hle; linarith) (by push_cast at hlt; linarith)
    rw [sector, if_neg (by decide), if_neg (by decide), if_pos rfl, Hexcone.color, hred, hgreen, hblue]
    push_cast
    ring_nf
  · obtain ⟨hred, hgreen, hblue⟩ := Hexcone.dips_fourth (h := H) (by push_cast at hle; linarith) (by push_cast at hlt; linarith)
    rw [sector, if_neg (by decide), if_neg (by decide), if_neg (by decide), if_pos rfl, Hexcone.color, hred, hgreen, hblue]
    push_cast
    ring_nf
  · obtain ⟨hred, hgreen, hblue⟩ := Hexcone.dips_fifth (h := H) (by push_cast at hle; linarith) (by push_cast at hlt; linarith)
    rw [sector, if_neg (by decide), if_neg (by decide), if_neg (by decide), if_neg (by decide), if_pos rfl, Hexcone.color, hred,
      hgreen, hblue]
    push_cast
    ring_nf
  · obtain ⟨hred, hgreen, hblue⟩ := Hexcone.dips_sixth (h := H) (by push_cast at hle; linarith) (by push_cast at hlt; linarith)
    rw [sector, if_neg (by decide), if_neg (by decide), if_neg (by decide), if_neg (by decide), if_neg (by decide), Hexcone.color,
      hred, hgreen, hblue]
    push_cast
    ring_nf

/- The hue of hsv_to_rgb. -/
def degrees (h : ℤ) : ℚ := (h % 360 : ℤ) / 60

theorem degrees_mem (h : ℤ) : 0 ≤ degrees h ∧ degrees h < 6 := by
  have h₀ : (0 : ℚ) ≤ (h % 360 : ℤ) := by exact_mod_cast Int.emod_nonneg h (by decide)
  have h₁ : ((h % 360 : ℤ) : ℚ) < 360 := by exact_mod_cast Int.emod_lt_of_pos h (by decide)
  constructor
  · exact div_nonneg h₀ (by norm_num)
  · rw [degrees, div_lt_iff₀ (by norm_num)]
    linarith

theorem hsvToRgb_eq_color (hh : 0 ≤ h) (s v : ℚ) : hsvToRgb h s v = Hexcone.color (degrees h) (clamp v) (clamp v * clamp s) := by
  obtain ⟨h₀, h₆⟩ := degrees_mem h
  rw [← sector_eq_color h₀ h₆, hsvToRgb, Int.tmod_eq_emod_of_nonneg hh]
  rfl

/- The components of a colour are shares. -/
def Shares (c : ℚ × ℚ × ℚ) : Prop := (0 ≤ c.1 ∧ c.1 ≤ 1) ∧ (0 ≤ c.2.1 ∧ c.2.1 ≤ 1) ∧ 0 ≤ c.2.2 ∧ c.2.2 ≤ 1

theorem hsvToRgb_shares (hh : 0 ≤ h) (s v : ℚ) : Shares (hsvToRgb h s v) := by
  obtain ⟨hv₀, hv₁⟩ := clamp_mem v
  obtain ⟨hs₀, hs₁⟩ := clamp_mem s
  have hc : 0 ≤ clamp v * clamp s := mul_nonneg hv₀ hs₀
  have hcv : clamp v * clamp s ≤ clamp v := mul_le_of_le_one_right hv₀ hs₁
  rw [hsvToRgb_eq_color hh]
  exact ⟨Hexcone.primary_mem hc hcv hv₁ _, Hexcone.primary_mem hc hcv hv₁ _, Hexcone.primary_mem hc hcv hv₁ _⟩

theorem extremes_eq (r g b : ℚ) : extremes r g b = (max (max r g) b, min (min r g) b,
    if max r g < b then .third else if r < g then .second else .first) := by
  unfold extremes
  by_cases hrg : r < g
  · have hmax : max r g = g := max_eq_right hrg.le
    have hmin : min r g = r := min_eq_left hrg.le
    rw [if_pos hrg, if_pos hrg, hmax, hmin, min_comm, min_def_lt]
    dsimp only
    by_cases hb : g < b
    · rw [if_pos hb, if_pos hb, max_eq_right hb.le]
    · rw [if_neg hb, if_neg hb, max_eq_left (not_lt.1 hb)]
  · have hmax : max r g = r := max_eq_left (not_lt.1 hrg)
    have hmin : min r g = g := min_eq_right (not_lt.1 hrg)
    rw [if_neg hrg, if_neg hrg, hmax, hmin, min_comm, min_def_lt]
    dsimp only
    by_cases hb : r < b
    · rw [if_pos hb, if_pos hb, max_eq_right hb.le]
    · rw [if_neg hb, if_neg hb, max_eq_left (not_lt.1 hb)]

/- Before it is made positive. -/
def rawHue (r g b : ℚ) : ℚ :=
  match (extremes r g b).2.2 with
  | .first => (g - b) / Hexcone.chroma r g b
  | .second => 2 + (b - r) / Hexcone.chroma r g b
  | .third => 4 + (r - g) / Hexcone.chroma r g b

theorem hue_eq (hc : 0 < Hexcone.chroma r g b) :
    (if rawHue r g b < 0 then rawHue r g b + 6 else rawHue r g b) = Hexcone.hue r g b := by
  have hlower : ∀ x, -Hexcone.chroma r g b ≤ x → -1 ≤ x / Hexcone.chroma r g b := by
    intro x hx
    rw [le_div_iff₀ hc]
    linarith
  have hr : r ≤ max (max r g) b := (le_max_left _ _).trans (le_max_left _ _)
  have hg : g ≤ max (max r g) b := (le_max_right _ _).trans (le_max_left _ _)
  have hr' : min (min r g) b ≤ r := (min_le_left _ _).trans (min_le_left _ _)
  have hb' : min (min r g) b ≤ b := min_le_right _ _
  have hchroma : Hexcone.chroma r g b = max (max r g) b - min (min r g) b := rfl
  have hraw : rawHue r g b = if max r g < b then 4 + (r - g) / Hexcone.chroma r g b
      else if r < g then 2 + (b - r) / Hexcone.chroma r g b else (g - b) / Hexcone.chroma r g b := by
    -- an equation for the match, as rw needs it, takes seconds to make
    delta rawHue
    rw [extremes_eq]
    dsimp only
    split_ifs <;> rfl
  rw [hraw, Hexcone.hue]
  by_cases hb : max r g < b
  · have hthird : -1 ≤ (r - g) / Hexcone.chroma r g b := hlower _ (by linarith)
    have hrb : r < b := (le_max_left _ _).trans_lt hb
    have hgb : g < b := (le_max_right _ _).trans_lt hb
    have hpos : ¬ 4 + (r - g) / Hexcone.chroma r g b < 0 := by linarith
    rw [if_pos hb, if_neg hpos, if_neg fun h => hrb.not_ge h.2, if_neg hgb.not_ge]
  · rw [if_neg hb]
    have hmax := max_le_iff.1 (le_refl (max r g))
    by_cases hrg : r < g
    · have hsecond : -1 ≤ (b - r) / Hexcone.chroma r g b := hlower _ (by linarith)
      have hbg : b ≤ g := (not_lt.1 hb).trans (max_le hrg.le (le_refl g))
      have hpos : ¬ 2 + (b - r) / Hexcone.chroma r g b < 0 := by linarith
      rw [if_pos hrg, if_neg hpos, if_neg fun h => hrg.not_ge h.1, if_pos hbg]
    · have hgr : g ≤ r := not_lt.1 hrg
      have hbr : b ≤ r := (not_lt.1 hb).trans (max_le (le_refl r) hgr)
      have hfirst : g ≤ r ∧ b ≤ r := ⟨hgr, hbr⟩
      rw [if_neg hrg]
      by_cases hbg : b ≤ g
      · rw [if_neg (div_nonneg (sub_nonneg.2 hbg) hc.le).not_gt, if_pos hfirst, if_pos hbg]
      · rw [if_pos (div_neg_of_neg_of_pos (by linarith) hc), if_pos hfirst, if_neg hbg, add_comm]

theorem rgbToHsv_eq (hc : 0 < Hexcone.chroma r g b) : rgbToHsv r g b =
    (toInt (Hexcone.hue r g b * 60), Hexcone.chroma r g b / max (max r g) b, max (max r g) b) := by
  rw [← hue_eq hc]
  delta rawHue
  rw [rgbToHsv, extremes_eq]
  exact if_neg hc.ne'

theorem rgbToHsv_gray (hc : Hexcone.chroma r g b = 0) : rgbToHsv r g b = (0, 0, max (max r g) b) := by
  rw [rgbToHsv, extremes_eq]
  exact if_pos hc

theorem chroma_nonneg (r g b : ℚ) : 0 ≤ Hexcone.chroma r g b :=
  sub_nonneg.2 ((min_le_right _ _).trans (le_max_right _ _))

/- The hue is one of the 360 degrees, the first ones of its share of the sectors. -/
theorem toInt_hue (hc : 0 < Hexcone.chroma r g b) :
    (0 ≤ toInt (Hexcone.hue r g b * 60) ∧ toInt (Hexcone.hue r g b * 60) < 360) ∧
      |degrees (toInt (Hexcone.hue r g b * 60)) - Hexcone.hue r g b| ≤ 1 / 60 := by
  obtain ⟨-, h₀, h₆⟩ := Hexcone.color_hue hc
  have hnonneg : 0 ≤ Hexcone.hue r g b * 60 := by linarith
  rw [toInt_eq_floor hnonneg]
  have hle := Int.floor_le (Hexcone.hue r g b * 60)
  have hlt := Int.lt_floor_add_one (Hexcone.hue r g b * 60)
  have hfloor : 0 ≤ ⌊Hexcone.hue r g b * 60⌋ := Int.floor_nonneg.2 hnonneg
  have hbound : ⌊Hexcone.hue r g b * 60⌋ < 360 := Int.floor_lt.2 (by push_cast; linarith)
  refine ⟨⟨hfloor, hbound⟩, ?_⟩
  rw [degrees, Int.emod_eq_of_lt hfloor hbound, abs_le]
  constructor
  · linarith
  · linarith

theorem hue_mem (r g b : ℚ) : 0 ≤ (rgbToHsv r g b).1 ∧ (rgbToHsv r g b).1 < 360 := by
  rcases (chroma_nonneg r g b).eq_or_lt with hc | hc
  · rw [rgbToHsv_gray hc.symm]
    exact ⟨le_refl 0, by norm_num⟩
  · rw [rgbToHsv_eq hc]
    exact (toInt_hue hc).1

/- All components are the same. -/
theorem gray_of_chroma (hc : Hexcone.chroma r g b = 0) : r = max (max r g) b ∧ g = max (max r g) b ∧ b = max (max r g) b := by
  have hr : r ≤ max (max r g) b := (le_max_left _ _).trans (le_max_left _ _)
  have hg : g ≤ max (max r g) b := (le_max_right _ _).trans (le_max_left _ _)
  have hb : b ≤ max (max r g) b := le_max_right _ _
  have hr' : min (min r g) b ≤ r := (min_le_left _ _).trans (min_le_left _ _)
  have hg' : min (min r g) b ≤ g := (min_le_left _ _).trans (min_le_right _ _)
  have hb' : min (min r g) b ≤ b := min_le_right _ _
  have hsame : max (max r g) b = min (min r g) b := sub_eq_zero.1 hc
  refine ⟨?_, ?_, ?_⟩
  · linarith
  · linarith
  · linarith

/- The colour, and what comes back, by hues that are close. -/
theorem rgbToHsv_close (hcolor : Shares (r, g, b)) : ∃ H,
    (r, g, b) = Hexcone.color H (max (max r g) b) (Hexcone.chroma r g b) ∧
      |degrees (rgbToHsv r g b).1 - H| ≤ 1 / 60 ∧
      hsvToRgb (rgbToHsv r g b).1 (rgbToHsv r g b).2.1 (rgbToHsv r g b).2.2 =
        Hexcone.color (degrees (rgbToHsv r g b).1) (max (max r g) b) (Hexcone.chroma r g b) := by
  obtain ⟨⟨hr₀, hr₁⟩, ⟨hg₀, hg₁⟩, hb₀, hb₁⟩ := hcolor
  have hv₀ : 0 ≤ max (max r g) b := hb₀.trans (le_max_right _ _)
  have hv₁ : max (max r g) b ≤ 1 := max_le (max_le hr₁ hg₁) hb₁
  rw [hsvToRgb_eq_color (hue_mem r g b).1]
  rcases (chroma_nonneg r g b).eq_or_lt with hc | hc
  · obtain ⟨hr, hg, hb⟩ := gray_of_chroma hc.symm
    rw [rgbToHsv_gray hc.symm, ← hc]
    refine ⟨degrees 0, ?_, ?_, ?_⟩
    · rw [Hexcone.color, zero_mul, zero_mul, zero_mul, sub_zero, ← hr]
      exact Prod.ext rfl (Prod.ext (hg.trans hr.symm) (hb.trans hr.symm))
    · rw [sub_self, abs_zero]
      norm_num
    · rw [clamp_of_mem hv₀ hv₁, clamp_of_mem (le_refl 0) zero_le_one, mul_zero]
  · obtain ⟨hexact, -, -⟩ := Hexcone.color_hue hc
    obtain ⟨-, hclose⟩ := toInt_hue hc
    have hlow : 0 ≤ min (min r g) b := le_min (le_min hr₀ hg₀) hb₀
    have hv : 0 < max (max r g) b := by
      have hchroma : Hexcone.chroma r g b = max (max r g) b - min (min r g) b := rfl
      linarith
    have hle : Hexcone.chroma r g b ≤ max (max r g) b := sub_le_self _ hlow
    rw [rgbToHsv_eq hc]
    refine ⟨Hexcone.hue r g b, hexact.symm, hclose, ?_⟩
    rw [clamp_of_mem hv₀ hv₁, clamp_of_mem (div_nonneg hc.le hv.le) ((div_le_one hv).2 hle), mul_div_cancel₀ _ hv.ne']

/-- A colour that goes through hue, saturation and value comes back with no component farther away
than a sixtieth of its chroma: what the hue loses is the fraction of a degree. -/
theorem hsvToRgb_rgbToHsv (hcolor : Shares (r, g, b)) :
    let hsv := rgbToHsv r g b
    let rgb := hsvToRgb hsv.1 hsv.2.1 hsv.2.2
    |rgb.1 - r| ≤ Hexcone.chroma r g b / 60 ∧ |rgb.2.1 - g| ≤ Hexcone.chroma r g b / 60 ∧
      |rgb.2.2 - b| ≤ Hexcone.chroma r g b / 60 := by
  intro hsv rgb
  obtain ⟨H, hexact, hclose, hback⟩ := rgbToHsv_close hcolor
  have hc := chroma_nonneg r g b
  have hbound : Hexcone.chroma r g b * |degrees hsv.1 - H| ≤ Hexcone.chroma r g b / 60 :=
    calc Hexcone.chroma r g b * |degrees hsv.1 - H| ≤ Hexcone.chroma r g b * (1 / 60) := mul_le_mul_of_nonneg_left hclose hc
      _ = Hexcone.chroma r g b / 60 := by ring
  have hdist := Hexcone.color_dist hc (degrees hsv.1) H (max (max r g) b)
  rw [← hexact, ← hback] at hdist
  exact ⟨hdist.1.trans hbound, hdist.2.1.trans hbound, hdist.2.2.trans hbound⟩

theorem hsvToRgb_rgbToHsv_orange : Shares (1, 2 / 3, 1 / 7) ∧
    |(hsvToRgb (rgbToHsv 1 (2 / 3) (1 / 7)).1 (rgbToHsv 1 (2 / 3) (1 / 7)).2.1 (rgbToHsv 1 (2 / 3) (1 / 7)).2.2).2.1 - 2 / 3| ≤
      Hexcone.chroma 1 (2 / 3) (1 / 7) / 60 := by
  have hshares : Shares (1, 2 / 3, 1 / 7) := by
    unfold Shares
    norm_num
  exact ⟨hshares, (hsvToRgb_rgbToHsv hshares).2.1⟩

/-! ### The ramp -/

/- A colour that is drawn. -/
def Drawable (c : GdkRGBA) : Prop := Shares (c.red, c.green, c.blue) ∧ c.alpha = 1

theorem rampColor_drawable {h₁ h₂ : ℤ} (hh₁ : 0 ≤ h₁) (hh₂ : 0 ≤ h₂) (s₁ v₁ s₂ v₂ : ℚ) {n i : ℕ} (hi : i < n) :
    Drawable (rampColor h₁ s₁ v₁ h₂ s₂ v₂ n i) := by
  have hn : (0 : ℚ) < n := by
    have hpos : 0 < n := by omega
    exact_mod_cast hpos
  have hin : (i : ℚ) ≤ n := by exact_mod_cast hi.le
  have h₁' : (0 : ℚ) ≤ h₁ := by exact_mod_cast hh₁
  have h₂' : (0 : ℚ) ≤ h₂ := by exact_mod_cast hh₂
  have hbetween : (h₁ : ℚ) + i * (((h₂ : ℚ) - h₁) / n) = (h₁ * (n - i) + h₂ * i) / n := by
    field_simp
    ring
  have hnonneg : (0 : ℚ) ≤ h₁ + i * (((h₂ : ℚ) - h₁) / n) := by
    rw [hbetween]
    have hrest : (0 : ℚ) ≤ n - i := sub_nonneg.2 hin
    positivity
  have hhue : 0 ≤ toInt (h₁ + i * (((h₂ : ℚ) - h₁) / n)) := by
    rw [toInt_eq_floor hnonneg]
    exact Int.floor_nonneg.2 hnonneg
  exact ⟨hsvToRgb_shares hhue _ _, rfl⟩

/- The second loop puts only colours that are there already. -/
theorem foldl_mirror {n m k : ℕ} {colors : List GdkRGBA} (hm : colors.length = m) (hk : m + k ≤ n) (hn : n < 2 * m) :
    let closed := (List.range' m k).foldl (fun cs i => cs ++ [cs.getD (n - i) ⟨0, 0, 0, 0⟩]) colors
    closed.length = m + k ∧ ∀ c ∈ closed, c ∈ colors := by
  induction k with
  | zero => exact ⟨hm, fun c hc => hc⟩
  | succ k ih =>
    obtain ⟨hlength, hmem⟩ := ih (by omega)
    rw [List.range'_concat, List.foldl_append]
    generalize (List.range' m k).foldl (fun cs i => cs ++ [cs.getD (n - i) ⟨0, 0, 0, 0⟩]) colors = closed at hlength hmem
    have hindex : n - (m + 1 * k) < closed.length := by omega
    refine ⟨?_, fun c hc => ?_⟩
    · rw [List.foldl_cons, List.foldl_nil, List.length_append, List.length_singleton]
      omega
    · rw [List.foldl_cons, List.foldl_nil, List.getD_eq_getElem?_getD, List.getElem?_eq_getElem hindex,
        Option.getD_some, List.mem_append, List.mem_singleton] at hc
      rcases hc with hold | rfl
      · exact hmem c hold
      · exact hmem _ (List.getElem_mem hindex)

theorem makeColorRamp_drawable {h₁ h₂ : ℤ} (hh₁ : 0 ≤ h₁) (hh₂ : 0 ≤ h₂) (s₁ v₁ s₂ v₂ : ℚ) {n : ℕ} (hn : 2 ≤ n) :
    (makeColorRamp h₁ s₁ v₁ h₂ s₂ v₂ n true).length = n ∧ ∀ c ∈ makeColorRamp h₁ s₁ v₁ h₂ s₂ v₂ n true, Drawable c := by
  have hfirst : ((List.range (n / 2 + 1)).map (rampColor h₁ s₁ v₁ h₂ s₂ v₂ (n / 2 + 1))).length = n / 2 + 1 := by
    rw [List.length_map, List.length_range]
  obtain ⟨hlength, hmem⟩ := foldl_mirror (n := n) (k := n - (n / 2 + 1)) hfirst (by omega) (by omega)
  refine ⟨?_, fun c hc => ?_⟩
  · rw [makeColorRamp, if_pos rfl, if_pos rfl]
    exact hlength.trans (by omega)
  · rw [makeColorRamp, if_pos rfl, if_pos rfl] at hc
    obtain ⟨i, hi, rfl⟩ := List.mem_map.1 (hmem c hc)
    exact rampColor_drawable hh₁ hh₂ s₁ v₁ s₂ v₂ (List.mem_range.1 hi)

theorem colorsOf_drawable (bg : GdkRGBA) : (colorsOf bg).length = ncolors ∧ ∀ c ∈ colorsOf bg, Drawable c :=
  makeColorRamp_drawable (hue_mem _ _ _).1 (hue_mem _ _ _).1 _ _ _ _ (by decide)

/-! ### The squares -/

structure Square where
  x : ℕ
  y : ℕ
  w : ℕ
  h : ℕ
  color : ℕ

/- What is filled, with its colour. -/
structure Tile where
  x : ℤ
  y : ℤ
  w : ℤ
  h : ℤ
  color : GdkRGBA

/- g_random_int_range (0, ncolors) for the square with this index. -/
abbrev ColorDraws := ℕ → Fin ncolors

/- GSTEPopsquaresPrivate without the timer; NULL before the first set-up. The tiles are those of the
last frame, none where the arrays are read and are not there. -/
structure GSTEPopsquares where
  squares : Option (List Square) := none
  colors : Option (List GdkRGBA) := none
  frame : Option (List (Option Tile)) := none

/- The size of the window, if there is one, and the colour of the selection in the style. -/
inductive PopEvent
  | setup (window : Option (ℕ × ℕ)) (bg : GdkRGBA) (draws : ColorDraws)
  | draw (window : Option (ℕ × ℕ)) (draws : ColorDraws)

/- The loops of setup_squares. -/
def gridSquares (width height : ℕ) : List Square :=
  (List.range subdivision).flatMap fun y => (List.range subdivision).map fun x =>
    ⟨x * (width / subdivision), y * (height / subdivision), width / subdivision, height / subdivision, 0⟩

def randomizeSquareColors (squares : List Square) (draws : ColorDraws) : List Square :=
  squares.mapIdx fun i s => { s with color := draws i }

/- The border is one. -/
def tileOf (colors : List GdkRGBA) (s : Square) : Option Tile :=
  colors[s.color]?.map fun color => ⟨s.x, s.y, s.w - 1, s.h - 1, color⟩

/- After it is drawn; twitch is never set. -/
def nextColor (draw : Fin ncolors) (s : Square) : Square :=
  { s with color := if s.color + 1 = ncolors then draw else s.color + 1 }

namespace GSTEPopsquares

/- setup_squares and setup_colors, for show and configure. -/
def setup (window : Option (ℕ × ℕ)) (bg : GdkRGBA) (draws : ColorDraws) (p : GSTEPopsquares) : GSTEPopsquares :=
  match window with
  | none => p
  | some (width, height) =>
    { p with squares := some (randomizeSquareColors (gridSquares width height) draws), colors := some (colorsOf bg) }

/- gste-popsquares.c:505 -/
def drawFrame (window : Option (ℕ × ℕ)) (draws : ColorDraws) (p : GSTEPopsquares) : GSTEPopsquares :=
  match window, p.squares, p.colors with
  | none, _, _ => p
  | some _, some squares, some colors =>
    { p with frame := some (squares.map (tileOf colors)), squares := some (squares.mapIdx fun i s => nextColor (draws i) s) }
  | some _, _, _ => { p with frame := some (List.replicate (subdivision * subdivision) none) }

def step (p : GSTEPopsquares) : PopEvent → GSTEPopsquares
  | .setup window bg draws => p.setup window bg draws
  | .draw window draws => p.drawFrame window draws

/- The size of the window that the last set-up found. -/
def gridSize (size : ℕ × ℕ) : PopEvent → ℕ × ℕ
  | .setup (some window) _ _ => window
  | .setup none _ _ => size
  | .draw _ _ => size

/- The saver once it has been set up with a window, beside the size of the window that it was set up
for: the drawing area is configured before it is drawn. -/
def popping : System (GSTEPopsquares × (ℕ × ℕ)) PopEvent where
  init s := ∃ bg draws, s.1 = setup (some s.2) bg draws {}
  next s e := some (s.1.step e, gridSize s.2 e)

end GSTEPopsquares

/- Two tiles have no point inside both. -/
def Tile.Apart (a b : Tile) : Prop := a.x + a.w ≤ b.x ∨ b.x + b.w ≤ a.x ∨ a.y + a.h ≤ b.y ∨ b.y + b.h ≤ a.y

def Tile.Inside (width height : ℕ) (t : Tile) : Prop :=
  0 ≤ t.x ∧ 0 ≤ t.w ∧ t.x + t.w ≤ width ∧ 0 ≤ t.y ∧ 0 ≤ t.h ∧ t.y + t.h ≤ height

/-- A frame for a window of this size: all its tiles, each in an opaque colour, apart, and inside of
a window that has at least a pixel for each. -/
structure Neat (width height : ℕ) (tiles : List (Option Tile)) : Prop where
  all : tiles.length = subdivision * subdivision
  there : ∀ t ∈ tiles, ∃ tile, t = some tile ∧ Drawable tile.color
  inside : subdivision ≤ width → subdivision ≤ height → ∀ tile, some tile ∈ tiles → tile.Inside width height
  apart : tiles.Pairwise fun s t => ∀ a b, s = some a → t = some b → a.Apart b

/-! ### The grid -/

/- A square without its colour. -/
def Square.blank (s : Square) : Square := { s with color := 0 }

/- One comes before the other, in its row or in a row above. -/
def Square.Before (s t : Square) : Prop := s.x + s.w ≤ t.x ∨ s.y + s.h ≤ t.y

variable {width height : ℕ} {squares : List Square} {colors : List GdkRGBA}

theorem mem_gridSquares {s : Square} (hs : s ∈ gridSquares width height) : ∃ x y, x < subdivision ∧ y < subdivision ∧
    s = ⟨x * (width / subdivision), y * (height / subdivision), width / subdivision, height / subdivision, 0⟩ := by
  obtain ⟨y, hy, hs⟩ := List.mem_flatMap.1 hs
  obtain ⟨x, hx, rfl⟩ := List.mem_map.1 hs
  exact ⟨x, y, List.mem_range.1 hx, List.mem_range.1 hy, rfl⟩

/- The next multiple is at the earliest where this one ends. -/
theorem mul_succ_le {i j n : ℕ} (hij : i < j) : i * n + n ≤ j * n := by
  rw [← Nat.succ_mul]
  exact Nat.mul_le_mul_right n hij

theorem gridSquares_before (width height : ℕ) : (gridSquares width height).Pairwise Square.Before := by
  rw [gridSquares, List.pairwise_flatMap]
  constructor
  · intro y _
    rw [List.pairwise_map]
    apply List.pairwise_lt_range.imp
    intro x x' hx
    exact .inl (mul_succ_le hx)
  · apply List.pairwise_lt_range.imp
    intro y y' hy s hs t ht
    obtain ⟨x, -, rfl⟩ := List.mem_map.1 hs
    obtain ⟨x', -, rfl⟩ := List.mem_map.1 ht
    exact .inr (mul_succ_le hy)

theorem length_gridSquares (width height : ℕ) : (gridSquares width height).length = subdivision * subdivision := rfl

theorem gridSquares_blank (width height : ℕ) : (gridSquares width height).map Square.blank = gridSquares width height := by
  have hsame : ∀ s ∈ gridSquares width height, s.blank = id s := by
    intro s hs
    obtain ⟨x, y, -, -, rfl⟩ := mem_gridSquares hs
    rfl
  rw [List.map_congr_left hsame, List.map_id]

theorem map_blank_mapIdx {f : ℕ → Square → Square} (hf : ∀ i s, (f i s).blank = s.blank) (l : List Square) :
    (l.mapIdx f).map Square.blank = l.map Square.blank := by
  apply List.ext_getElem
  · rw [List.length_map, List.length_mapIdx, List.length_map]
  · intro i h₁ h₂
    rw [List.getElem_map, List.getElem_mapIdx, List.getElem_map]
    exact hf i _

/-- The squares are those of a grid, and their colours are there. -/
structure Ready (p : GSTEPopsquares) (width height : ℕ) (squares : List Square) (colors : List GdkRGBA) : Prop where
  squares_eq : p.squares = some squares
  colors_eq : p.colors = some colors
  grid : squares.map Square.blank = gridSquares width height
  index : ∀ s ∈ squares, s.color < ncolors
  ramp : colors.length = ncolors ∧ ∀ c ∈ colors, Drawable c

/- A frame of such squares. -/
theorem neat_tiles (hgrid : squares.map Square.blank = gridSquares width height) (hindex : ∀ s ∈ squares, s.color < ncolors)
    (hramp : colors.length = ncolors ∧ ∀ c ∈ colors, Drawable c) : Neat width height (squares.map (tileOf colors)) where
  all := by
    have hlength := congrArg List.length hgrid
    rw [List.length_map] at hlength
    rw [List.length_map, hlength, length_gridSquares]
  there t ht := by
    obtain ⟨s, hs, rfl⟩ := List.mem_map.1 ht
    have hcolor : s.color < colors.length := hramp.1 ▸ hindex s hs
    rw [tileOf, List.getElem?_eq_getElem hcolor, Option.map_some]
    exact ⟨_, rfl, hramp.2 _ (List.getElem_mem hcolor)⟩
  inside hw hh tile htile := by
    obtain ⟨s, hs, htile⟩ := List.mem_map.1 htile
    obtain ⟨color, -, rfl⟩ := Option.map_eq_some_iff.1 htile
    have hblank : s.blank ∈ gridSquares width height := hgrid ▸ List.mem_map_of_mem hs
    obtain ⟨x, y, hx, hy, heq⟩ := mem_gridSquares hblank
    have hsx : s.x = x * (width / subdivision) := congrArg Square.x heq
    have hsy : s.y = y * (height / subdivision) := congrArg Square.y heq
    have hsw : s.w = width / subdivision := congrArg Square.w heq
    have hsh : s.h = height / subdivision := congrArg Square.h heq
    have hright : x * (width / subdivision) + width / subdivision ≤ width := (mul_succ_le hx).trans (Nat.mul_div_le _ _)
    have hbottom : y * (height / subdivision) + height / subdivision ≤ height := (mul_succ_le hy).trans (Nat.mul_div_le _ _)
    have hwide : 1 ≤ width / subdivision := (Nat.one_le_div_iff (by decide)).2 hw
    have hhigh : 1 ≤ height / subdivision := (Nat.one_le_div_iff (by decide)).2 hh
    unfold Tile.Inside
    dsimp only
    omega
  apart := by
    have hbefore : squares.Pairwise fun s t => s.blank.Before t.blank := by
      rw [← List.pairwise_map, hgrid]
      exact gridSquares_before width height
    rw [List.pairwise_map]
    apply hbefore.imp
    intro s t hst a b ha hb
    obtain ⟨color, -, rfl⟩ := Option.map_eq_some_iff.1 ha
    obtain ⟨color', -, rfl⟩ := Option.map_eq_some_iff.1 hb
    have hst' : s.x + s.w ≤ t.x ∨ s.y + s.h ≤ t.y := hst
    unfold Tile.Apart
    dsimp only
    omega

namespace GSTEPopsquares

variable {p : GSTEPopsquares} {window : Option (ℕ × ℕ)} {bg : GdkRGBA} {draws : ColorDraws}

theorem ready_setup (p : GSTEPopsquares) (width height : ℕ) (bg : GdkRGBA) (draws : ColorDraws) :
    Ready (p.setup (some (width, height)) bg draws) width height (randomizeSquareColors (gridSquares width height) draws)
      (colorsOf bg) where
  squares_eq := rfl
  colors_eq := rfl
  grid := (map_blank_mapIdx (f := fun i s => { s with color := draws i }) (fun _ _ => rfl) _).trans
    (gridSquares_blank width height)
  index s hs := by
    obtain ⟨i, hi, rfl⟩ := List.mem_mapIdx.1 hs
    exact (draws i).isLt
  ramp := colorsOf_drawable bg

theorem nextColor_index {draw : Fin ncolors} {s : Square} (hs : s.color < ncolors) : (nextColor draw s).color < ncolors := by
  unfold nextColor
  dsimp only
  split
  · exact draw.isLt
  · omega

/- A frame that is neat, and squares for the next one. -/
theorem ready_draw (h : Ready p width height squares colors) (size : ℕ × ℕ) (draws : ColorDraws) :
    Ready (p.drawFrame (some size) draws) width height (squares.mapIdx fun i s => nextColor (draws i) s) colors ∧
      (p.drawFrame (some size) draws).frame = some (squares.map (tileOf colors)) := by
  have hdraw : p.drawFrame (some size) draws = { p with
      frame := some (squares.map (tileOf colors)), squares := some (squares.mapIdx fun i s => nextColor (draws i) s) } := by
    simp only [drawFrame, h.squares_eq, h.colors_eq]
  rw [hdraw]
  refine ⟨⟨rfl, h.colors_eq, ?_, ?_, h.ramp⟩, rfl⟩
  · exact (map_blank_mapIdx (f := fun i s => nextColor (draws i) s) (fun _ _ => rfl) _).trans h.grid
  · intro s hs
    obtain ⟨i, hi, rfl⟩ := List.mem_mapIdx.1 hs
    exact nextColor_index (h.index _ (List.getElem_mem hi))

/- What every state keeps: the squares are those of a grid for this window. -/
def Sound (p : GSTEPopsquares) (size : ℕ × ℕ) : Prop := ∃ squares colors, Ready p size.1 size.2 squares colors

theorem sound_step {size : ℕ × ℕ} (h : p.Sound size) (e : PopEvent) : (p.step e).Sound (gridSize size e) := by
  obtain ⟨squares, colors, hready⟩ := h
  cases e with
  | setup window bg draws =>
    cases window with
    | none => exact ⟨squares, colors, hready⟩
    | some size' => exact ⟨_, _, p.ready_setup size'.1 size'.2 bg draws⟩
  | draw window draws =>
    cases window with
    | none => exact ⟨squares, colors, hready⟩
    | some window => exact ⟨_, _, (ready_draw hready window draws).1⟩

theorem sound_reachable {s : GSTEPopsquares × (ℕ × ℕ)} (h : popping.Reachable s) : s.1.Sound s.2 := by
  induction h with
  | start hs =>
    obtain ⟨bg, draws, hs⟩ := hs
    rw [hs]
    exact ⟨_, _, ready_setup {} _ _ bg draws⟩
  | step _ hnext ih =>
    cases hnext
    exact sound_step ih _

/-- A frame is painted whenever there is a window, and it has all its tiles, each in an opaque colour
of the ramp whose components are shares, no two of them over each other, and within the window of the
last set-up if that has at least a pixel for each: whatever the style, the windows and the draws are. -/
theorem frames_neat {size : ℕ × ℕ} (h : popping.Reachable (p, size)) (window : ℕ × ℕ) (draws : ColorDraws) :
    ∃ tiles, (p.drawFrame (some window) draws).frame = some tiles ∧ Neat size.1 size.2 tiles := by
  obtain ⟨squares, colors, hready⟩ := sound_reachable h
  exact ⟨_, (ready_draw hready window draws).2, neat_tiles hready.grid hready.index hready.ramp⟩

def blueSelection : GdkRGBA := ⟨0, 1 / 4, 3 / 4, 1⟩

/- The window of 640 by 480 becomes one of 1920 by 1080 between two frames, and the second frame is
within the larger one. -/
theorem frames_neat_resized : ∃ p tiles,
    popping.run (setup (some (640, 480)) blueSelection (fun _ => ⟨0, by decide⟩) {}, (640, 480))
      [.draw (some (640, 480)) fun _ => ⟨0, by decide⟩, .setup (some (1920, 1080)) blueSelection fun _ => ⟨3, by decide⟩] =
        some (p, (1920, 1080)) ∧
      (p.drawFrame (some (1920, 1080)) fun _ => ⟨0, by decide⟩).frame = some tiles ∧ Neat 1920 1080 tiles ∧
      ∀ tile, some tile ∈ tiles → tile.Inside 1920 1080 := by
  have hstart : popping.Reachable (setup (some (640, 480)) blueSelection (fun _ => ⟨0, by decide⟩) {}, (640, 480)) :=
    .start ⟨blueSelection, _, rfl⟩
  have hrun : ∃ p, popping.run (setup (some (640, 480)) blueSelection (fun _ => ⟨0, by decide⟩) {}, (640, 480))
      [.draw (some (640, 480)) fun _ => ⟨0, by decide⟩, .setup (some (1920, 1080)) blueSelection fun _ => ⟨3, by decide⟩] =
        some (p, (1920, 1080)) := ⟨_, rfl⟩
  obtain ⟨p, hp⟩ := hrun
  obtain ⟨tiles, htiles, hneat⟩ := frames_neat (System.reachable_run hstart hp) (1920, 1080) fun _ => ⟨0, by decide⟩
  exact ⟨p, tiles, hp, htiles, hneat, hneat.inside (by decide) (by decide)⟩

end GSTEPopsquares

end Popsquares

end MateScreensaver
