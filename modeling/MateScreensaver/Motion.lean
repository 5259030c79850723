import Mathlib.Algebra.Order.Ring.Abs
import Mathlib.Data.Rat.Lemmas
import Mathlib.Tactic.Linarith
import Mathlib.Tactic.NormNum

/-!
Motion of the pointer over a window (gs-window-x11.c): how far it has to go, from the position
that was kept, before it counts as activity.
-/

namespace MateScreensaver

/- last_x and last_y. -/
structure LastPosition where
  lastX : ℚ
  lastY : ℚ

/- What comes to the window: a motion event, or a dialog that goes down. -/
inductive PointerEvent
  | motion (x y : ℚ)
  | popdownDialog

def PointerEvent.position : PointerEvent → Option (ℚ × ℚ)
  | .motion x y => some (x, y)
  | .popdownDialog => none

theorem PointerEvent.mem_positions {x y : ℚ} {es : List PointerEvent} :
    (x, y) ∈ es.filterMap position ↔ motion x y ∈ es := by
  rw [List.mem_filterMap]
  constructor
  · intro h
    obtain ⟨e, he, heq⟩ := h
    cases e with
    | popdownDialog => cases heq
    | motion x' y' =>
      cases heq
      exact he
  · intro h
    exact ⟨_, h, rfl⟩

/- WidthOfScreen * min_percentage -/
def minDistance (widthOfScreen : ℕ) : ℚ := widthOfScreen * (1 / 10)

namespace LastPosition

/- gs-window-x11.c:1553 and 2454 -/
def reset : LastPosition := ⟨-1, -1⟩

/- The position was not set. -/
def NotSet (l : LastPosition) : Prop := l.lastX < 0 ∨ l.lastY < 0

instance (l : LastPosition) : Decidable l.NotSet := inferInstanceAs (Decidable (_ ∨ _))

def distance (l : LastPosition) (x y : ℚ) : ℚ := max |l.lastX - x| |l.lastY - y|

/- gs-window-x11.c:2104, with whether maybe_handle_activity is called. -/
def motionNotifyEvent (width : ℕ) (x y : ℚ) (l : LastPosition) : LastPosition × Bool :=
  if l.NotSet then (⟨x, y⟩, false)
  else if minDistance width < l.distance x y then (reset, true)
  else (l, false)

def next (width : ℕ) (l : LastPosition) : PointerEvent → LastPosition × Bool
  | .motion x y => l.motionNotifyEvent width x y
  | .popdownDialog => (reset, false)

/- The call of each event. -/
def activity (width : ℕ) : LastPosition → List PointerEvent → List Bool
  | _, [] => []
  | l, e :: es => (l.next width e).2 :: activity width (l.next width e).1 es

/- The position that is kept, if one is. -/
def kept (l : LastPosition) : List (ℚ × ℚ) := if l.NotSet then [] else [(l.lastX, l.lastY)]

/- The kept position and those of the motion events. -/
def positions (l : LastPosition) (es : List PointerEvent) : List (ℚ × ℚ) := l.kept ++ es.filterMap PointerEvent.position

variable {width : ℕ} {l : LastPosition} {x y : ℚ} {es : List PointerEvent}

theorem reset_notSet : reset.NotSet := .inl (by decide)

/-- Of three positions two are the farther apart the farther the third is from one of them. -/
theorem distance_le (l : LastPosition) (x y x' y' : ℚ) :
    (⟨x, y⟩ : LastPosition).distance x' y' ≤ l.distance x y + l.distance x' y' := by
  have hx : |x - x'| ≤ |l.lastX - x| + |l.lastX - x'| := by
    have htriangle := abs_sub_le x l.lastX x'
    rwa [abs_sub_comm x l.lastX] at htriangle
  have hy : |y - y'| ≤ |l.lastY - y| + |l.lastY - y'| := by
    have htriangle := abs_sub_le y l.lastY y'
    rwa [abs_sub_comm y l.lastY] at htriangle
  apply max_le
  · exact hx.trans (add_le_add (le_max_left ..) (le_max_left ..))
  · exact hy.trans (add_le_add (le_max_right ..) (le_max_right ..))

theorem minDistance_nonneg (width : ℕ) : 0 ≤ minDistance width :=
  mul_nonneg (Nat.cast_nonneg width) (by norm_num)

/- A position that is set is kept up to the motion that is far enough from it. -/
theorem reported_of_far (hset : ¬ l.NotSet) (hes : PointerEvent.popdownDialog ∉ es)
    (hfar : minDistance width < l.distance x y) : true ∈ l.activity width (es ++ [.motion x y]) := by
  induction es with
  | nil =>
    rw [List.nil_append, activity, next, motionNotifyEvent, if_neg hset, if_pos hfar]
    exact List.mem_cons_self
  | cons e es ih =>
    rw [List.cons_append, activity]
    cases e with
    | popdownDialog => exact absurd List.mem_cons_self hes
    | motion x' y' =>
      rw [next, motionNotifyEvent, if_neg hset]
      split
      · exact List.mem_cons_self
      · exact List.mem_cons_of_mem _ (ih fun h => hes (List.mem_cons_of_mem _ h))

/- Nothing is far from a position that is kept. -/
theorem quiet_of_near {ps : List (ℚ × ℚ)} (hl : l.NotSet ∨ (l.lastX, l.lastY) ∈ ps)
    (hes : ∀ x y, PointerEvent.motion x y ∈ es → (x, y) ∈ ps)
    (hnear : ∀ p ∈ ps, ∀ q ∈ ps, (⟨p.1, p.2⟩ : LastPosition).distance q.1 q.2 ≤ minDistance width) :
    true ∉ l.activity width es := by
  induction es generalizing l with
  | nil => exact List.not_mem_nil
  | cons e es ih =>
    have hrest : ∀ x y, PointerEvent.motion x y ∈ es → (x, y) ∈ ps := fun x y h => hes x y (List.mem_cons_of_mem _ h)
    rw [activity, List.mem_cons, not_or]
    cases e with
    | popdownDialog => exact ⟨Bool.true_eq_false_eq_False, ih (.inl reset_notSet) hrest⟩
    | motion x y =>
      have hxy : (x, y) ∈ ps := hes x y List.mem_cons_self
      rw [next, motionNotifyEvent]
      by_cases hset : l.NotSet
      · rw [if_pos hset]
        exact ⟨Bool.true_eq_false_eq_False, ih (.inr hxy) hrest⟩
      · have hkept := hl.resolve_left hset
        rw [if_neg hset, if_neg (hnear _ hkept _ hxy).not_gt]
        exact ⟨Bool.true_eq_false_eq_False, ih (.inr hkept) hrest⟩

/- No position is set where one coordinate is negative. -/
theorem quiet_of_negative (hl : l.NotSet) (hes : ∀ x y, PointerEvent.motion x y ∈ es → x < 0 ∨ y < 0) :
    true ∉ l.activity width es := by
  induction es generalizing l with
  | nil => exact List.not_mem_nil
  | cons e es ih =>
    have hrest : ∀ x y, PointerEvent.motion x y ∈ es → x < 0 ∨ y < 0 := fun x y h => hes x y (List.mem_cons_of_mem _ h)
    rw [activity, List.mem_cons, not_or]
    cases e with
    | popdownDialog => exact ⟨Bool.true_eq_false_eq_False, ih reset_notSet hrest⟩
    | motion x y =>
      rw [next, motionNotifyEvent, if_pos hl]
      exact ⟨Bool.true_eq_false_eq_False, ih (hes x y List.mem_cons_self) hrest⟩

theorem notSet_or_kept (l : LastPosition) (es : List PointerEvent) :
    l.NotSet ∨ (l.lastX, l.lastY) ∈ l.positions es := by
  by_cases hset : l.NotSet
  · exact .inl hset
  · rw [positions, kept, if_neg hset]
    exact .inr List.mem_cons_self

theorem mem_positions_of_motion (h : PointerEvent.motion x y ∈ es) : (x, y) ∈ l.positions es :=
  List.mem_append_right _ (PointerEvent.mem_positions.2 h)

/-- What counts as activity, in any sequence of events and from any kept position. A pointer whose
positions, the kept one among them, are all within the least distance of each other never does, and
neither does one that always has a negative coordinate, however far it goes. One that is at a
position of the window, and later more than twice the least distance away with no dialog gone down
in between, does on the way, whatever came before. -/
theorem motion_activity (width : ℕ) (l : LastPosition) :
    (∀ es, (∀ p ∈ l.positions es, ∀ q ∈ l.positions es,
        (⟨p.1, p.2⟩ : LastPosition).distance q.1 q.2 ≤ minDistance width) → true ∉ l.activity width es) ∧
      (∀ es, (∀ p ∈ l.positions es, p.1 < 0 ∨ p.2 < 0) → true ∉ l.activity width es) ∧
      ∀ es x y x' y', 0 ≤ x → 0 ≤ y → PointerEvent.popdownDialog ∉ es →
        2 * minDistance width < (⟨x, y⟩ : LastPosition).distance x' y' →
        true ∈ l.activity width (.motion x y :: es ++ [.motion x' y']) := by
  refine ⟨?_, ?_, ?_⟩
  · intro es hnear
    exact quiet_of_near (notSet_or_kept l es) (fun x y => mem_positions_of_motion) hnear
  · intro es hnegative
    -- a position that is kept is not negative
    have hset : l.NotSet := (notSet_or_kept l es).elim id fun hkept => hnegative _ hkept
    exact quiet_of_negative hset fun x y h => hnegative _ (mem_positions_of_motion h)
  · intro es x y x' y' hx hy hes hfar
    have hnonneg := minDistance_nonneg width
    rw [List.cons_append, activity, next, motionNotifyEvent]
    by_cases hset : l.NotSet
    · rw [if_pos hset]
      have hset' : ¬ (⟨x, y⟩ : LastPosition).NotSet := fun h => h.elim hx.not_gt hy.not_gt
      exact List.mem_cons_of_mem _ (reported_of_far hset' hes (by linarith))
    · rw [if_neg hset]
      by_cases hfirst : minDistance width < l.distance x y
      · rw [if_pos hfirst]
        exact List.mem_cons_self
      · rw [if_neg hfirst]
        have hsecond : minDistance width < l.distance x' y' := by
          have htriangle := distance_le l x y x' y'
          linarith
        exact List.mem_cons_of_mem _ (reported_of_far hset hes hsecond)

/- A pointer that was kept at 500, 500 on a screen of 1920: around it, outside of the window, and
across it. -/
theorem motion_activity_across : (⟨500, 500⟩ : LastPosition).activity 1920
      [.motion 600 450, .popdownDialog, .motion 510 600] = [false, false, false] ∧
    true ∉ (⟨500, 500⟩ : LastPosition).activity 1920 [.motion 600 450, .popdownDialog, .motion 510 600] ∧
    reset.activity 1920 [.motion (-3) 700, .motion 1900 (-1)] = [false, false] ∧
    true ∉ reset.activity 1920 [.motion (-3) 700, .motion 1900 (-1)] ∧
    (⟨500, 500⟩ : LastPosition).activity 1920 [.motion 600 450, .motion 650 500, .motion 1000 500] = [false, false, true] ∧
    true ∈ (⟨500, 500⟩ : LastPosition).activity 1920 [.motion 600 450, .motion 650 500, .motion 1000 500] := by
  refine ⟨by decide +kernel, ?_, by decide +kernel, ?_, by decide +kernel, ?_⟩
  · exact (motion_activity 1920 ⟨500, 500⟩).1 _ (by decide +kernel)
  · exact (motion_activity 1920 reset).2.1 _ (by decide +kernel)
  · exact (motion_activity 1920 ⟨500, 500⟩).2.2 [.motion 650 500] 600 450 1000 500 (by norm_num) (by norm_num)
      (by simp) (by decide +kernel)

end LastPosition

end MateScreensaver
