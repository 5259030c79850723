import Mathlib.Data.Finset.Max
import Mathlib.Data.Finset.Order
import Mathlib.Data.Finset.Prod

/-!
Regions of pixels and the boxes around them. The box around what a region leaves
of another depends on one thing only: how far in from each side it is covered. A
picture of items painted one over the other is the whole picture though only the
damaged pixels are painted again, if nothing was or is to be seen on the others.
-/

namespace Pixels

structure Rectangle where
  x : ℤ
  y : ℤ
  width : ℤ
  height : ℤ
  deriving DecidableEq, Repr

abbrev Region := Finset (ℤ × ℤ)

def Rectangle.region (r : Rectangle) : Region :=
  (Finset.range r.width.toNat ×ˢ Finset.range r.height.toNat).image fun p => (r.x + p.1, r.y + p.2)

/- The least and the greatest coordinate `f` of a pixel. -/
def lowest (f : ℤ × ℤ → ℤ) (R : Region) (h : R.Nonempty) : ℤ := (R.image f).min' (h.image f)

def highest (f : ℤ × ℤ → ℤ) (R : Region) (h : R.Nonempty) : ℤ := (R.image f).max' (h.image f)

/- The box around a region. Nothing is around an empty one, but a corner is kept. -/
def extents (corner : ℤ × ℤ) (R : Region) : Rectangle :=
  if h : R.Nonempty then
    { x := lowest Prod.fst R h
      y := lowest Prod.snd R h
      width := highest Prod.fst R h + 1 - lowest Prod.fst R h
      height := highest Prod.snd R h + 1 - lowest Prod.snd R h }
  else ⟨corner.1, corner.2, 0, 0⟩

/- `U` covers the same strips of `A` from the side where `f` is low. -/
def SameBelow (f : ℤ × ℤ → ℤ) (A U V : Region) : Prop :=
  ∀ c, (A.filter fun p => f p < c) ⊆ U ↔ (A.filter fun p => f p < c) ⊆ V

def SameAbove (f : ℤ × ℤ → ℤ) (A U V : Region) : Prop :=
  ∀ c, (A.filter fun p => c ≤ f p) ⊆ U ↔ (A.filter fun p => c ≤ f p) ⊆ V

/-- Along each side of `A`, `U` and `V` cover the same strips. -/
structure SameEdges (A U V : Region) : Prop where
  left : SameBelow Prod.fst A U V
  right : SameAbove Prod.fst A U V
  top : SameBelow Prod.snd A U V
  bottom : SameAbove Prod.snd A U V

variable {A R U V : Region} {f : ℤ × ℤ → ℤ} {c : ℤ} {p corner : ℤ × ℤ}

theorem Rectangle.mem_region {r : Rectangle} :
    p ∈ r.region ↔ (r.x ≤ p.1 ∧ p.1 < r.x + r.width) ∧ r.y ≤ p.2 ∧ p.2 < r.y + r.height := by
  obtain ⟨x, y⟩ := p
  simp only [Rectangle.region, Finset.mem_image, Finset.mem_product, Finset.mem_range, Prod.exists, Prod.mk.injEq]
  constructor
  · rintro ⟨i, j, ⟨hi, hj⟩, rfl, rfl⟩
    omega
  · rintro ⟨⟨hx, hx'⟩, hy, hy'⟩
    exact ⟨(x - r.x).toNat, (y - r.y).toNat, by omega, by omega, by omega⟩

/-! ### Coordinates -/

theorem le_lowest (h : R.Nonempty) : c ≤ lowest f R h ↔ ∀ p ∈ R, c ≤ f p := by
  unfold lowest
  rw [Finset.le_min'_iff]
  exact Finset.forall_mem_image

theorem highest_lt (h : R.Nonempty) : highest f R h < c ↔ ∀ p ∈ R, f p < c := by
  unfold highest
  rw [Finset.max'_lt_iff]
  exact Finset.forall_mem_image

theorem lowest_le (h : R.Nonempty) (hp : p ∈ R) : lowest f R h ≤ f p :=
  (le_lowest h).1 (Int.le_refl _) p hp

theorem le_highest (h : R.Nonempty) (hp : p ∈ R) : f p ≤ highest f R h := by
  have hlt := (highest_lt (c := highest f R h + 1) h).1 (Int.lt_succ _) p hp
  omega

theorem lowest_le_highest (h : R.Nonempty) : lowest f R h ≤ highest f R h := by
  obtain ⟨p, hp⟩ := h
  exact Int.le_trans (lowest_le ⟨p, hp⟩ hp) (le_highest ⟨p, hp⟩ hp)

/- A strip is covered when all that is left lies beyond it. -/
theorem below_covered : (A.filter fun p => f p < c) ⊆ U ↔ ∀ p ∈ A \ U, c ≤ f p := by
  constructor
  · intro h p hp
    obtain ⟨hA, hU⟩ := Finset.mem_sdiff.1 hp
    by_contra hlt
    apply hU
    apply h
    exact Finset.mem_filter.2 ⟨hA, by omega⟩
  · intro h p hp
    obtain ⟨hA, hlt⟩ := Finset.mem_filter.1 hp
    by_contra hU
    have hle := h p (Finset.mem_sdiff.2 ⟨hA, hU⟩)
    omega

theorem above_covered : (A.filter fun p => c ≤ f p) ⊆ U ↔ ∀ p ∈ A \ U, f p < c := by
  constructor
  · intro h p hp
    obtain ⟨hA, hU⟩ := Finset.mem_sdiff.1 hp
    by_contra hle
    apply hU
    apply h
    exact Finset.mem_filter.2 ⟨hA, by omega⟩
  · intro h p hp
    obtain ⟨hA, hle⟩ := Finset.mem_filter.1 hp
    by_contra hU
    have hlt := h p (Finset.mem_sdiff.2 ⟨hA, hU⟩)
    omega

theorem sameBelow_iff (hU : (A \ U).Nonempty) (hV : (A \ V).Nonempty) :
    SameBelow f A U V ↔ lowest f (A \ U) hU = lowest f (A \ V) hV := by
  unfold SameBelow
  simp only [below_covered, ← le_lowest hU, ← le_lowest hV]
  constructor
  · intro h
    exact eq_of_forall_le_iff h
  · intro h c
    rw [h]

theorem sameAbove_iff (hU : (A \ U).Nonempty) (hV : (A \ V).Nonempty) :
    SameAbove f A U V ↔ highest f (A \ U) hU = highest f (A \ V) hV := by
  unfold SameAbove
  simp only [above_covered, ← highest_lt hU, ← highest_lt hV]
  constructor
  · intro h
    exact eq_of_forall_gt_iff h
  · intro h c
    rw [h]

/- The strip as wide as `A` is all of it. -/
theorem SameBelow.subset (h : SameBelow f A U V) (hA : A ⊆ U) : A ⊆ V := by
  obtain ⟨c, hc⟩ := Finset.exists_le (A.image f)
  have hall : (A.filter fun p => f p < c + 1) = A := by
    apply Finset.filter_true_of_mem
    intro p hp
    have hle := hc (f p) (Finset.mem_image_of_mem f hp)
    omega
  have hcov := (h (c + 1)).1
  rw [hall] at hcov
  exact hcov hA

/-! ### Boxes -/

theorem extents_empty : extents corner ∅ = ⟨corner.1, corner.2, 0, 0⟩ :=
  dif_neg Finset.not_nonempty_empty

theorem extents_nonempty (h : R.Nonempty) : extents corner R =
    ⟨lowest Prod.fst R h, lowest Prod.snd R h, highest Prod.fst R h + 1 - lowest Prod.fst R h,
      highest Prod.snd R h + 1 - lowest Prod.snd R h⟩ := dif_pos h

theorem extents_width (corner : ℤ × ℤ) (h : R.Nonempty) : 0 < (extents corner R).width := by
  rw [extents_nonempty h]
  have hle := lowest_le_highest (f := Prod.fst) h
  show 0 < highest Prod.fst R h + 1 - lowest Prod.fst R h
  omega

theorem extents_eq (hU : R.Nonempty) (hV : U.Nonempty) : extents corner R = extents corner U ↔
    (lowest Prod.fst R hU = lowest Prod.fst U hV ∧ highest Prod.fst R hU = highest Prod.fst U hV) ∧
    lowest Prod.snd R hU = lowest Prod.snd U hV ∧ highest Prod.snd R hU = highest Prod.snd U hV := by
  rw [extents_nonempty hU, extents_nonempty hV, Rectangle.mk.injEq]
  omega

/-- The box around what is left of `A` is the same exactly when the same strips
along its sides are covered. -/
theorem extents_eq_iff : extents corner (A \ U) = extents corner (A \ V) ↔ SameEdges A U V := by
  rcases (A \ U).eq_empty_or_nonempty with hU | hU
  · have hAU : A ⊆ U := Finset.sdiff_eq_empty_iff_subset.1 hU
    constructor
    · intro h
      have hV : A ⊆ V := by
        by_contra hV
        have hpos := extents_width corner (Finset.sdiff_nonempty.2 hV)
        rw [← h, hU, extents_empty] at hpos
        exact Int.lt_irrefl 0 hpos
      constructor <;> intro c <;>
        exact iff_of_true ((Finset.filter_subset _ _).trans hAU) ((Finset.filter_subset _ _).trans hV)
    · intro h
      have hV := Finset.sdiff_eq_empty_iff_subset.2 (h.left.subset hAU)
      rw [hU, hV]
  · rcases (A \ V).eq_empty_or_nonempty with hV | hV
    · constructor
      · intro h
        have hpos := extents_width corner hU
        rw [h, hV, extents_empty] at hpos
        exact absurd hpos (Int.lt_irrefl 0)
      · intro h
        have hback : SameBelow Prod.fst A V U := fun c => (h.left c).symm
        have hsub := hback.subset (Finset.sdiff_eq_empty_iff_subset.1 hV)
        rw [Finset.sdiff_eq_empty_iff_subset.2 hsub] at hU
        exact absurd hU Finset.not_nonempty_empty
    · rw [extents_eq hU hV]
      constructor
      · rintro ⟨⟨hl, hr⟩, ht, hb⟩
        exact ⟨(sameBelow_iff hU hV).2 hl, (sameAbove_iff hU hV).2 hr, (sameBelow_iff hU hV).2 ht,
          (sameAbove_iff hU hV).2 hb⟩
      · rintro ⟨hl, hr, ht, hb⟩
        exact ⟨⟨(sameBelow_iff hU hV).1 hl, (sameAbove_iff hU hV).1 hr⟩, (sameBelow_iff hU hV).1 ht,
          (sameAbove_iff hU hV).1 hb⟩

theorem mem_extents (hp : p ∈ R) : p ∈ (extents corner R).region := by
  have h : R.Nonempty := ⟨p, hp⟩
  have hx := lowest_le (f := Prod.fst) h hp
  have hx' := le_highest (f := Prod.fst) h hp
  have hy := lowest_le (f := Prod.snd) h hp
  have hy' := le_highest (f := Prod.snd) h hp
  rw [extents_nonempty h, Rectangle.mem_region]
  show (lowest Prod.fst R h ≤ p.1 ∧ p.1 < lowest Prod.fst R h + (highest Prod.fst R h + 1 - lowest Prod.fst R h)) ∧
    lowest Prod.snd R h ≤ p.2 ∧ p.2 < lowest Prod.snd R h + (highest Prod.snd R h + 1 - lowest Prod.snd R h)
  omega

/- A box is no wider than the rectangle its region is in. -/
theorem extents_subset {r : Rectangle} (corner : ℤ × ℤ) (h : R ⊆ r.region) : (extents corner R).region ⊆ r.region := by
  intro p hp
  rcases R.eq_empty_or_nonempty with hempty | hne
  · rw [hempty, extents_empty, Rectangle.mem_region] at hp
    dsimp only at hp
    omega
  · have hmem : ∀ q ∈ R, (r.x ≤ q.1 ∧ q.1 < r.x + r.width) ∧ r.y ≤ q.2 ∧ q.2 < r.y + r.height :=
      fun q hq => Rectangle.mem_region.1 (h hq)
    have hleft : r.x ≤ lowest Prod.fst R hne := (le_lowest hne).2 fun q hq => (hmem q hq).1.1
    have hright : highest Prod.fst R hne < r.x + r.width := (highest_lt hne).2 fun q hq => (hmem q hq).1.2
    have htop : r.y ≤ lowest Prod.snd R hne := (le_lowest hne).2 fun q hq => (hmem q hq).2.1
    have hbottom : highest Prod.snd R hne < r.y + r.height := (highest_lt hne).2 fun q hq => (hmem q hq).2.2
    rw [extents_nonempty hne, Rectangle.mem_region] at hp
    dsimp only at hp
    rw [Rectangle.mem_region]
    omega

/-! ### Regions in order -/

/- Of several regions that hold a pixel one comes first. -/
theorem exists_first {α : Type*} [DecidableEq α] (g : α → Region) {l : List α} (h : ∃ a ∈ l, p ∈ g a) :
    ∃ a ∈ l, p ∈ g a ∧ ∀ b ∈ l.takeWhile (· ≠ a), p ∉ g b := by
  induction l with
  | nil =>
    obtain ⟨a, ha, -⟩ := h
    cases ha
  | cons b l ih =>
    by_cases hb : p ∈ g b
    · exact ⟨b, List.mem_cons_self, hb, by simp⟩
    · have hl : ∃ a ∈ l, p ∈ g a := by
        obtain ⟨a, ha, hpa⟩ := h
        rcases List.mem_cons.1 ha with rfl | ha
        · exact absurd hpa hb
        · exact ⟨a, ha, hpa⟩
      obtain ⟨a, ha, hpa, hfirst⟩ := ih hl
      have hne : b ≠ a := by
        rintro rfl
        exact hb hpa
      refine ⟨a, List.mem_cons_of_mem b ha, hpa, fun x hx => ?_⟩
      rw [List.takeWhile_cons_of_pos (p := fun y => decide (y ≠ a)) (decide_eq_true hne)] at hx
      rcases List.mem_cons.1 hx with rfl | hx
      · exact hb
      · exact hfirst x hx

end Pixels

namespace Damage
variable {π ι γ : Type*}

/- The layers of a pixel, from below. -/
def paint (layer : ι → π → Option γ) (items : List ι) (p : π) : List γ := items.filterMap (layer · p)

def repaint (damaged : π → Bool) (before now : π → List γ) (p : π) : List γ := if damaged p then now p else before p

variable {layer layer' : ι → π → Option γ} {items items' : List ι} {p : π} {damaged : π → Bool} {before now : π → List γ}

theorem paint_eq_nil (h : ∀ i ∈ items, layer i p = none) : paint layer items p = [] := List.filterMap_eq_nil_iff.2 h

theorem paint_congr (h : ∀ i ∈ items, layer i p = layer' i p) : paint layer items p = paint layer' items p :=
  List.filterMap_congr h

theorem repaint_eq (h : ∀ p, damaged p = false → before p = now p) : repaint damaged before now = now := by
  funext p
  rw [repaint]
  cases hp : damaged p with
  | true => exact if_pos rfl
  | false => exact (if_neg Bool.false_ne_true).trans (h p hp)

end Damage
