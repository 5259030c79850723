import MateScreensaver.Geometry

/-!
One layout: the windows that are made for a display, with the geometry that each of them
computes, cover the monitors and nothing else.
-/

namespace MateScreensaver
open Pixels

/- A display with as many monitors as there are rectangles, in this order. -/
def rectOf (rects : List Rectangle) (m : MonitorId) : Rectangle := rects.getD m ⟨0, 0, 0, 0⟩

def displayOf (rects : List Rectangle) : Saver := { display := { monitors := List.range rects.length } }

/- What the rectangles before a place in the list cover. -/
def earlier (rects : List Rectangle) (i : ℕ) : Region := (rects.take i).foldl (fun region r => region ∪ r.region) ∅

variable {rects : List Rectangle} {i : ℕ}

theorem takeWhile_range {n : ℕ} (h : i < n) : (List.range n).takeWhile (· ≠ i) = List.range i := by
  obtain ⟨k, rfl⟩ := Nat.exists_eq_add_of_lt h
  rw [Nat.add_assoc, List.range_add, List.takeWhile_append_of_pos, List.range_succ_eq_map]
  · simp
  · intro m hm
    have hlt := List.mem_range.1 hm
    exact decide_eq_true (Nat.ne_of_lt hlt)

theorem map_rectOf (h : i ≤ rects.length) : (List.range i).map (rectOf rects) = rects.take i := by
  refine List.ext_getElem (by simp [h]) fun k hk hk' => ?_
  have hlt : k < rects.length := by
    rw [List.length_map, List.length_range] at hk
    omega
  simp [rectOf, hlt]

theorem getOutsideRegion_rects (h : i < rects.length) :
    getOutsideRegion (rectOf rects) (List.range rects.length) i = earlier rects i := by
  unfold getOutsideRegion earlier
  rw [takeWhile_range h, ← map_rectOf (Nat.le_of_lt h), List.foldl_map]

/- The monitors of the windows, in the order in which these are made. -/
theorem roster_displayOf (env : SaverEnv) (rects : List Rectangle) :
    ((displayOf rects).gsManagerCreateWindows env).roster = List.range rects.length ∧
      ((displayOf rects).gsManagerCreateWindows env).display.monitors = List.range rects.length := by
  let x : Saver := { displayOf rects with display := { (displayOf rects).display with
    monitorAdded := (displayOf rects).display.monitorAdded + 1
    monitorRemoved := (displayOf rects).display.monitorRemoved + 1 } }
  have hx : x.Housed := by
    refine ⟨fun w => ?_, .nil, fun w hw => ?_⟩
    · exact iff_of_false List.not_mem_nil (by simp [Saver.Live, x, displayOf])
    · exact absurd hw (by simp [Saver.Live, x, displayOf])
  obtain ⟨-, -, hroster, hdisplay⟩ := Saver.create_foldl (p := False) (s := x) env (List.range rects.length) hx rfl
  exact ⟨hroster, congrArg Display.monitors hdisplay⟩

theorem updateGeometry_rects (h : i < rects.length) : ∃ corner,
    updateGeometry (rectOf rects) (List.range rects.length) i = extents corner (rects[i].region \ earlier rects i) := by
  have hrect : rectOf rects i = rects[i] := by simp [rectOf, h]
  refine ⟨if (rects[i]).region = ∅ then (0, 0) else (rects[i].x, rects[i].y), ?_⟩
  unfold updateGeometry
  rw [getOutsideRegion_rects h, hrect]

/-- For every list of rectangles there is one window for each, in this order. Its geometry is
the box around what the earlier rectangles leave of its own, which it does not exceed, and
together the windows cover what the rectangles cover. -/
theorem layout_covered (env : SaverEnv) (rects : List Rectangle) :
    let s := (displayOf rects).gsManagerCreateWindows env
    let geometry m := updateGeometry (rectOf rects) s.display.monitors m
    s.roster = List.range rects.length ∧
    (∀ i : Fin rects.length, (∃ corner, geometry i = extents corner (rects[i].region \ earlier rects i)) ∧
      (geometry i).region ⊆ rects[i].region) ∧
    ∀ p, (∃ w ∈ s.manager.windows, p ∈ (geometry (s.window w).monitor).region) ↔ ∃ r ∈ rects, p ∈ r.region := by
  intro s geometry
  obtain ⟨hroster, hmonitors⟩ : s.roster = List.range rects.length ∧ s.display.monitors = List.range rects.length :=
    roster_displayOf env rects
  have hbox : ∀ i : Fin rects.length, ∃ corner, geometry i = extents corner (rects[i].region \ earlier rects i) := by
    intro i
    obtain ⟨corner, hcorner⟩ := updateGeometry_rects i.isLt
    refine ⟨corner, ?_⟩
    simp only [geometry, hmonitors]
    exact hcorner
  have hinside : ∀ i : Fin rects.length, (geometry i).region ⊆ rects[i].region := by
    intro i
    obtain ⟨corner, hcorner⟩ := hbox i
    rw [hcorner]
    exact extents_subset corner Finset.sdiff_subset
  refine ⟨hroster, fun i => ⟨hbox i, hinside i⟩, fun p => ⟨?_, ?_⟩⟩
  · rintro ⟨w, hw, hp⟩
    have hmem : (s.window w).monitor ∈ List.range rects.length := hroster ▸ List.mem_map.2 ⟨w, hw, rfl⟩
    have hlt := List.mem_range.1 hmem
    exact ⟨rects[(s.window w).monitor], List.getElem_mem hlt, hinside ⟨_, hlt⟩ hp⟩
  · rintro ⟨r, hr, hp⟩
    obtain ⟨k, hk, rfl⟩ := List.mem_iff_getElem.1 hr
    have hrect : rectOf rects k = rects[k] := by simp [rectOf, hk]
    have hfirst : ∃ m ∈ List.range rects.length, p ∈ (rectOf rects m).region :=
      ⟨k, List.mem_range.2 hk, by rwa [hrect]⟩
    obtain ⟨m, hm, hpm⟩ := Desktop.exists_covering (rectOf rects) hfirst
    rw [← hroster] at hm
    obtain ⟨w, hw, rfl⟩ := List.mem_map.1 hm
    refine ⟨w, hw, ?_⟩
    simp only [geometry, hmonitors]
    exact hpm

end MateScreensaver
