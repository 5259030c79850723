import Mathlib.Algebra.Order.Field.Rat
import Mathlib.Data.NNRat.Defs
import Mathlib.Tactic.Linarith
import Mathlib.Tactic.Positivity
import Mathlib.Tactic.Ring
import MateScreensaver.Lib.Runs

/-!
The stars of the starfield saver (gste-starfield.c), in exact rationals: they come nearer
with every frame and are put back into the distance when they have passed.
-/

namespace MateScreensaver
open Runs

/- What g_random_double gives. -/
abbrev UnitDraw := { r : ℚ // 0 ≤ r ∧ r < 1 }

/- The cube root of one less such a number, which is no rational: any depth. -/
abbrev DepthDraw := { z : ℚ // 0 < z ∧ z ≤ 1 }

/- As GLib computes it. -/
def gRandomDoubleRange (r : UnitDraw) (low high : ℚ) : ℚ := r * high - (r - 1) * low

namespace Starfield

def zNear : ℚ := 0
def zFar : ℚ := 1
def xyClipLimit : ℚ := 1 / 2
def speedFactor : ℚ := 1 / 4
def sizeRatio : ℚ := 1 / 1000

structure Point where
  x : ℚ
  y : ℚ
  z : ℚ

/- What is drawn for one star. -/
structure Dot where
  x : ℚ
  y : ℚ
  illum : ℚ
  radius : ℚ

/- A frame that is painted; a dot is none where a division by zero is. -/
structure Frame where
  width : ℕ
  height : ℕ
  dots : List (Option Dot)

/- GSTEStarfieldPrivate without the timer, with the frame that was painted last. -/
structure GSTEStarfield where
  timestamp : ℚ := 0
  count : ℕ := 200
  speed : ℚ := 3
  currentSpeed : ℚ := 0
  acceleration : ℚ := 1
  size : ℚ := 8
  stars : List Point := []
  frame : Option Frame := none

/- What is chosen for a star when the field is set up, and when it is put back. -/
structure SetupDraws where
  depth : DepthDraw
  x : UnitDraw
  y : UnitDraw

structure RespawnDraws where
  depth : UnitDraw
  x : UnitDraw
  y : UnitDraw

/- The window's size, NULL without a window; the microseconds since the clock was read, and
what would be chosen for the i-th star. -/
inductive Event
  | configure (passed : ℚ≥0) (draws : ℕ → SetupDraws)
  | draw (window : Option (ℕ × ℕ)) (passed : ℚ≥0) (draws : ℕ → RespawnDraws)

/- The star after it has come nearer, or been put back. -/
def moveStar (step : ℚ) (d : RespawnDraws) (p : Point) : Point :=
  let p := { p with z := p.z - step }
  if p.z ≤ zNear ∨ p.x > p.z * xyClipLimit ∨ p.x < p.z * -xyClipLimit ∨
      p.y > p.z * xyClipLimit ∨ p.y < p.z * -xyClipLimit then
    let z := zFar - gRandomDoubleRange d.depth 0 (min step (zFar - zNear))
    ⟨z * gRandomDoubleRange d.x (-xyClipLimit) xyClipLimit,
      z * gRandomDoubleRange d.y (-xyClipLimit) xyClipLimit, z⟩
  else p

def divide (a b : ℚ) : Option ℚ := if b = 0 then none else some (a / b)

def dotOf (maxRadius : ℚ) (width height : ℕ) (p : Point) : Option Dot := do
  let x ← divide p.x p.z
  let y ← divide p.y p.z
  let illum ← divide 1 (1 + p.z)
  return { x := (x + xyClipLimit) * width
           y := (y + xyClipLimit) * height
           illum := illum * illum
           radius := maxRadius * (1 - p.z) }

namespace GSTEStarfield

/- g_object_set refuses a value that the property cannot have. -/
def setSpeed (s : GSTEStarfield) (v : ℚ) : GSTEStarfield := if 1 ≤ v ∧ v ≤ 10 then { s with speed := v } else s

def setAcceleration (s : GSTEStarfield) (v : ℚ) : GSTEStarfield :=
  if 1 / 10 ≤ v ∧ v ≤ 10 then { s with acceleration := v } else s

def setSize (s : GSTEStarfield) (v : ℚ) : GSTEStarfield := if 1 ≤ v ∧ v ≤ 20 then { s with size := v } else s

def setCount (s : GSTEStarfield) (v : ℤ) : GSTEStarfield :=
  if 1 ≤ v ∧ v ≤ 500 then { s with count := v.toNat } else s

/- An option that is 0 when it is not given. -/
def applyOption {α : Type} [Zero α] [DecidableEq α] (set : GSTEStarfield → α → GSTEStarfield) (v : α)
    (s : GSTEStarfield) : GSTEStarfield := if v ≠ 0 then set s v else s

/- The saver that main makes of its options (starfield.c). Nothing sets a property later. -/
def starfieldMain (count : ℤ) (speed acceleration size : ℚ) : GSTEStarfield :=
  let s := applyOption setCount count {}
  let s := applyOption setSpeed speed s
  let s := applyOption setAcceleration acceleration s
  applyOption setSize size s

/- gste-starfield.c:165 -/
def setupStars (s : GSTEStarfield) (passed : ℚ≥0) (draws : ℕ → SetupDraws) : GSTEStarfield :=
  let star (i : ℕ) : Point :=
    let z : ℚ := (draws i).depth
    ⟨z * gRandomDoubleRange (draws i).x (-xyClipLimit) xyClipLimit,
      z * gRandomDoubleRange (draws i).y (-xyClipLimit) xyClipLimit, z⟩
  { s with stars := (List.range s.count).map star, timestamp := s.timestamp + passed, currentSpeed := 0, frame := none }

/- gste-starfield.c:186; the time that is returned comes with the state. -/
def getElapsedTime (s : GSTEStarfield) (passed : ℚ≥0) : ℚ × GSTEStarfield :=
  let t := { s with timestamp := s.timestamp + passed }
  ((t.timestamp - s.timestamp) / 1000000, t)

/- The loop over the stars; count is still their number. -/
def paint (s : GSTEStarfield) (width height : ℕ) (elapsed : ℚ) (draws : ℕ → RespawnDraws) : GSTEStarfield :=
  let step := speedFactor * s.currentSpeed * elapsed
  let maxRadius := max (s.size * sizeRatio * height) 1
  let stars := s.stars.mapIdx fun i p => moveStar step (draws i) p
  { s with stars := stars, frame := some ⟨width, height, stars.map (dotOf maxRadius width height)⟩ }

/- What comes after it. -/
def accelerate (s : GSTEStarfield) (elapsed : ℚ) : GSTEStarfield :=
  if s.currentSpeed ≠ s.speed then
    { s with currentSpeed := min (s.currentSpeed + s.acceleration * elapsed) s.speed }
  else s

/- gste-starfield.c:327 -/
def drawFrame (s : GSTEStarfield) (window : Option (ℕ × ℕ)) (passed : ℚ≥0) (draws : ℕ → RespawnDraws) : GSTEStarfield :=
  match window with
  | none => s
  | some (width, height) =>
    let (elapsed, s) := s.getElapsedTime passed
    (s.paint width height elapsed draws).accelerate elapsed

def step (s : GSTEStarfield) : Event → GSTEStarfield
  | .configure passed draws => s.setupStars passed draws
  | .draw window passed draws => s.drawFrame window passed draws

/- The saver once it is shown. -/
def flying : System GSTEStarfield Event where
  init s := ∃ count speed acceleration size passed draws,
    s = (starfieldMain count speed acceleration size).setupStars passed draws
  next s e := some (s.step e)

end GSTEStarfield

/-! ### What always holds -/

def Point.InField (p : Point) : Prop := 0 < p.z ∧ p.z ≤ 1 ∧ |p.x| ≤ p.z / 2 ∧ |p.y| ≤ p.z / 2

/- No division by zero, inside the window, and no negative radius. -/
def Frame.Inside (f : Frame) (d : Option Dot) : Prop :=
  ∃ dot, d = some dot ∧ (0 ≤ dot.x ∧ dot.x ≤ f.width) ∧ (0 ≤ dot.y ∧ dot.y ≤ f.height) ∧ 0 ≤ dot.radius

/-- Every star is in the field and every dot in the window, and the speed is no more than
it should become. -/
structure GSTEStarfield.InField (s : GSTEStarfield) : Prop where
  all : s.stars.length = s.count
  stars : ∀ p ∈ s.stars, p.InField
  frame : ∀ f ∈ s.frame, ∀ d ∈ f.dots, f.Inside d
  currentSpeed : 0 ≤ s.currentSpeed ∧ s.currentSpeed ≤ s.speed

/-! ### A star -/

theorem gRandomDoubleRange_mem (r : UnitDraw) {low high : ℚ} (h : low ≤ high) :
    low ≤ gRandomDoubleRange r low high ∧ gRandomDoubleRange r low high ≤ high := by
  obtain ⟨r, h0, h1⟩ := r
  have hlow : gRandomDoubleRange ⟨r, h0, h1⟩ low high = low + r * (high - low) := by
    simp only [gRandomDoubleRange]
    ring
  have hhigh : gRandomDoubleRange ⟨r, h0, h1⟩ low high = high - (1 - r) * (high - low) := by
    simp only [gRandomDoubleRange]
    ring
  constructor
  · rw [hlow]
    exact le_add_of_nonneg_right (mul_nonneg h0 (sub_nonneg.2 h))
  · rw [hhigh]
    exact sub_le_self _ (mul_nonneg (sub_nonneg.2 h1.le) (sub_nonneg.2 h))

/- Anywhere on the screen, as seen from its depth. -/
theorem abs_mul_draw_le {z : ℚ} (hz : 0 < z) (r : UnitDraw) :
    |z * gRandomDoubleRange r (-xyClipLimit) xyClipLimit| ≤ z / 2 := by
  have hr : |gRandomDoubleRange r (-xyClipLimit) xyClipLimit| ≤ 1 / 2 :=
    abs_le.2 (gRandomDoubleRange_mem r (by norm_num [xyClipLimit]))
  rw [abs_mul, abs_of_pos hz]
  calc z * |gRandomDoubleRange r (-xyClipLimit) xyClipLimit| ≤ z * (1 / 2) := mul_le_mul_of_nonneg_left hr hz.le
    _ = z / 2 := by ring

theorem inField_draw {z : ℚ} (h0 : 0 < z) (h1 : z ≤ 1) (rx ry : UnitDraw) :
    Point.InField ⟨z * gRandomDoubleRange rx (-xyClipLimit) xyClipLimit,
      z * gRandomDoubleRange ry (-xyClipLimit) xyClipLimit, z⟩ :=
  ⟨h0, h1, abs_mul_draw_le h0 rx, abs_mul_draw_le h0 ry⟩

/- The step is no more than the whole depth, and the number drawn less than 1. -/
theorem respawn_depth {step : ℚ} (h : 0 ≤ step) (r : UnitDraw) :
    0 < zFar - gRandomDoubleRange r 0 (min step (zFar - zNear)) ∧
      zFar - gRandomDoubleRange r 0 (min step (zFar - zNear)) ≤ 1 := by
  obtain ⟨r, h0, h1⟩ := r
  have hmin : 0 ≤ min step (zFar - zNear) := le_min h (by norm_num [zFar, zNear])
  have hle : min step (zFar - zNear) ≤ 1 := (min_le_right _ _).trans (by norm_num [zFar, zNear])
  have heq : gRandomDoubleRange ⟨r, h0, h1⟩ 0 (min step (zFar - zNear)) = r * min step (zFar - zNear) := by
    simp only [gRandomDoubleRange]
    ring
  have hlt : r * min step (zFar - zNear) < 1 := (mul_le_of_le_one_right h0 hle).trans_lt h1
  have hge : 0 ≤ r * min step (zFar - zNear) := mul_nonneg h0 hmin
  rw [heq]
  constructor
  · exact sub_pos.2 hlt
  · exact sub_le_self _ hge

theorem inField_moveStar {step : ℚ} (h : 0 ≤ step) (d : RespawnDraws) {p : Point} (hp : p.z ≤ 1) :
    (moveStar step d p).InField := by
  unfold moveStar
  dsimp only
  split
  case isTrue =>
    obtain ⟨h0, h1⟩ := respawn_depth h d.depth
    exact inField_draw h0 h1 d.x d.y
  case isFalse hseen =>
    simp only [not_or, not_le, not_lt, xyClipLimit, zNear, gt_iff_lt] at hseen
    obtain ⟨hz, hxr, hxl, hyr, hyl⟩ := hseen
    refine ⟨hz, by linarith, abs_le.2 ⟨by linarith, by linarith⟩, abs_le.2 ⟨by linarith, by linarith⟩⟩

/-! ### What is painted of it -/

/- A coordinate that is at most half the depth lands within the window's extent. -/
theorem project_mem {c z : ℚ} (hz : 0 < z) (hc : |c| ≤ z / 2) (extent : ℕ) :
    0 ≤ (c / z + xyClipLimit) * extent ∧ (c / z + xyClipLimit) * extent ≤ extent := by
  obtain ⟨hl, hr⟩ := abs_le.1 hc
  have hlow : -(1 / 2) ≤ c / z := (le_div_iff₀ hz).2 (by linarith)
  have hhigh : c / z ≤ 1 / 2 := (div_le_iff₀ hz).2 (by linarith)
  have hextent : (0 : ℚ) ≤ extent := Nat.cast_nonneg extent
  constructor
  · exact mul_nonneg (by rw [xyClipLimit]; linarith) hextent
  · exact mul_le_of_le_one_left hextent (by rw [xyClipLimit]; linarith)

theorem inside_dotOf {maxRadius : ℚ} (hr : 0 ≤ maxRadius) (f : Frame) {p : Point} (hp : p.InField) :
    f.Inside (dotOf maxRadius f.width f.height p) := by
  obtain ⟨hz, hz1, hx, hy⟩ := hp
  have hz0 : p.z ≠ 0 := hz.ne'
  have hillum : 1 + p.z ≠ 0 := by positivity
  simp only [dotOf, divide, if_neg hz0, if_neg hillum, Option.bind_eq_bind, Option.bind_some]
  exact ⟨_, rfl, project_mem hz hx f.width, project_mem hz hy f.height, mul_nonneg hr (sub_nonneg.2 hz1)⟩

/-! ### The saver -/

namespace GSTEStarfield

theorem inField_setupStars {s : GSTEStarfield} (hspeed : 0 ≤ s.speed) (passed : ℚ≥0) (draws : ℕ → SetupDraws) : (s.setupStars passed draws).InField where
  all := by rw [setupStars, List.length_map, List.length_range]
  stars := by
    intro p hp
    obtain ⟨i, -, rfl⟩ := List.mem_map.1 hp
    exact inField_draw (draws i).depth.2.1 (draws i).depth.2.2 (draws i).x (draws i).y
  frame := fun f hf => by cases hf
  currentSpeed := ⟨le_refl 0, hspeed⟩

/- What the properties are, which no step changes. -/
structure Settings (s : GSTEStarfield) : Prop where
  speed : 0 ≤ s.speed
  acceleration : 0 ≤ s.acceleration

theorem settings_setSpeed {s : GSTEStarfield} (h : s.Settings) (v : ℚ) : (s.setSpeed v).Settings := by
  unfold setSpeed
  split
  case isTrue hv => exact ⟨zero_le_one.trans hv.1, h.acceleration⟩
  case isFalse => exact h

theorem settings_setAcceleration {s : GSTEStarfield} (h : s.Settings) (v : ℚ) : (s.setAcceleration v).Settings := by
  unfold setAcceleration
  split
  case isTrue hv => exact ⟨h.speed, by linarith [hv.1]⟩
  case isFalse => exact h

theorem settings_setSize {s : GSTEStarfield} (h : s.Settings) (v : ℚ) : (s.setSize v).Settings := by
  unfold setSize
  split
  · exact ⟨h.speed, h.acceleration⟩
  · exact h

theorem settings_setCount {s : GSTEStarfield} (h : s.Settings) (v : ℤ) : (s.setCount v).Settings := by
  unfold setCount
  split
  · exact ⟨h.speed, h.acceleration⟩
  · exact h

theorem Settings.applyOption {α : Type} [Zero α] [DecidableEq α] {s : GSTEStarfield} (h : s.Settings)
    {set : GSTEStarfield → α → GSTEStarfield} (hset : ∀ s v, Settings s → Settings (set s v)) (v : α) :
    (applyOption set v s).Settings := by
  unfold GSTEStarfield.applyOption
  split
  · exact hset s v h
  · exact h

theorem settings_starfieldMain (count : ℤ) (speed acceleration size : ℚ) :
    (starfieldMain count speed acceleration size).Settings := by
  have hdefault : Settings {} := ⟨by norm_num, by norm_num⟩
  have hcount := hdefault.applyOption (fun _ v h => settings_setCount h v) count
  have hspeed := hcount.applyOption (fun _ v h => settings_setSpeed h v) speed
  have hacceleration := hspeed.applyOption (fun _ v h => settings_setAcceleration h v) acceleration
  exact hacceleration.applyOption (fun _ v h => settings_setSize h v) size

theorem elapsed_nonneg (s : GSTEStarfield) (passed : ℚ≥0) : 0 ≤ (s.getElapsedTime passed).1 := by
  have hpassed : (0 : ℚ) ≤ passed := passed.2
  simp only [getElapsedTime, add_sub_cancel_left]
  positivity

theorem inField_paint {s : GSTEStarfield} (h : s.InField) (width height : ℕ) {elapsed : ℚ} (helapsed : 0 ≤ elapsed)
    (draws : ℕ → RespawnDraws) : (s.paint width height elapsed draws).InField := by
  have hstep : 0 ≤ speedFactor * s.currentSpeed * elapsed :=
    mul_nonneg (mul_nonneg (by norm_num [speedFactor]) h.currentSpeed.1) helapsed
  have hstars : ∀ q ∈ (s.paint width height elapsed draws).stars, q.InField := by
    intro q hq
    obtain ⟨i, hi, rfl⟩ := List.mem_mapIdx.1 hq
    exact inField_moveStar hstep (draws i) (h.stars _ (List.getElem_mem hi)).2.1
  have hradius : 0 ≤ max (s.size * sizeRatio * height) 1 := zero_le_one.trans (le_max_right _ _)
  refine ⟨(List.length_mapIdx ..).trans h.all, hstars, ?_, h.currentSpeed⟩
  rintro f hf d hd
  cases hf
  obtain ⟨q, hq, rfl⟩ := List.mem_map.1 hd
  exact inside_dotOf hradius _ (hstars q hq)

theorem inField_accelerate {s : GSTEStarfield} (h : s.InField) (hs : s.Settings) {elapsed : ℚ} (helapsed : 0 ≤ elapsed) :
    (s.accelerate elapsed).InField := by
  have hfaster : 0 ≤ s.currentSpeed + s.acceleration * elapsed :=
    add_nonneg h.currentSpeed.1 (mul_nonneg hs.acceleration helapsed)
  unfold accelerate
  split
  · exact ⟨h.all, h.stars, h.frame, le_min hfaster hs.speed, min_le_right _ _⟩
  · exact h

theorem settings_step {s : GSTEStarfield} (h : s.Settings) (e : Event) : (s.step e).Settings := by
  cases e with
  | configure passed draws => exact ⟨h.speed, h.acceleration⟩
  | draw window passed draws =>
    cases window with
    | none => exact h
    | some window =>
      simp only [step, drawFrame, accelerate]
      split <;> exact ⟨h.speed, h.acceleration⟩

theorem inField_step {s : GSTEStarfield} (h : s.InField) (hs : s.Settings) (e : Event) : (s.step e).InField := by
  cases e with
  | configure passed draws => exact inField_setupStars hs.speed passed draws
  | draw window passed draws =>
    cases window with
    | none => exact h
    | some window =>
      have helapsed := s.elapsed_nonneg passed
      have hread : (s.getElapsedTime passed).2.InField := ⟨h.all, h.stars, h.frame, h.currentSpeed⟩
      exact inField_accelerate (inField_paint hread window.1 window.2 helapsed draws) ⟨hs.speed, hs.acceleration⟩ helapsed

/-- Whatever the options are and however the numbers are drawn, after every configuration
and every frame. -/
theorem starfield_inField (count : ℤ) (speed acceleration size : ℚ) (passed : ℚ≥0) (draws : ℕ → SetupDraws) (es : List Event) :
    flying.Always InField ((starfieldMain count speed acceleration size).setupStars passed draws) es := by
  have hmain := settings_starfieldMain count speed acceleration size
  have hstart : ((starfieldMain count speed acceleration size).setupStars passed draws).InField :=
    inField_setupStars hmain.speed passed draws
  refine ⟨hstart, System.each_of_step (I := fun s => s.InField ∧ s.Settings) ?_ ⟨hstart, hmain.speed, hmain.acceleration⟩ es⟩
  rintro s e t ⟨h, hs⟩ hn
  cases hn
  exact ⟨inField_step h hs e, inField_step h hs e, settings_step hs e⟩

end GSTEStarfield

end Starfield
end MateScreensaver
