import Mathlib.Data.List.Basic

/-!
Sorting by an order that is known to be one only among the elements that are sorted.
-/

namespace Sorting
variable {α : Type*} {le : α → α → Bool} {a : α} {l front rest : List α}

structure PreorderOn (le : α → α → Bool) (l : List α) : Prop where
  trans : ∀ a ∈ l, ∀ b ∈ l, ∀ c ∈ l, le a b = true → le b c = true → le a c = true
  total : ∀ a ∈ l, ∀ b ∈ l, le a b = true ∨ le b a = true

theorem PreorderOn.tail (h : PreorderOn le (a :: l)) : PreorderOn le l where
  trans x hx y hy z hz :=
    h.trans x (List.mem_cons_of_mem _ hx) y (List.mem_cons_of_mem _ hy) z (List.mem_cons_of_mem _ hz)
  total x hx y hy := h.total x (List.mem_cons_of_mem _ hx) y (List.mem_cons_of_mem _ hy)

/- The elements themselves form a type on which the order is one everywhere. -/
theorem mergeSort_attach (l : List α) :
    (l.attach.mergeSort fun a b => le a.1 b.1).map Subtype.val = l.mergeSort le := by
  rw [List.map_mergeSort (s := le) fun a _ b _ => rfl, List.attach_map_subtype_val]

theorem PreorderOn.attach_trans (h : PreorderOn le l) (a b c : {x // x ∈ l}) :
    le a.1 b.1 = true → le b.1 c.1 = true → le a.1 c.1 = true :=
  h.trans a.1 a.2 b.1 b.2 c.1 c.2

theorem PreorderOn.attach_total (h : PreorderOn le l) (a b : {x // x ∈ l}) : (le a.1 b.1 || le b.1 a.1) = true := by
  rw [Bool.or_eq_true]
  exact h.total a.1 a.2 b.1 b.2

/- The order, on the elements only. -/
def leOn (le : α → α → Bool) (l : List α) (a b : {x // x ∈ l}) : Bool := le a.1 b.1

/- The rest of the elements, among all of them. -/
def restOf (a : α) (l : List α) : List {x // x ∈ a :: l} := l.attach.map fun b => ⟨b.1, List.mem_cons_of_mem a b.2⟩

theorem map_restOf (a : α) (l : List α) : (restOf a l).map Subtype.val = l := by
  rw [restOf, List.map_map]
  exact List.attach_map_subtype_val l

/- What is below everything else stays in front. -/
theorem mergeSort_cons_least (h : PreorderOn le (a :: l)) (hleast : ∀ b ∈ l, le a b = true) :
    (a :: l).mergeSort le = a :: l.mergeSort le := by
  obtain ⟨l₁, l₂, hsplit, hrest, hbelow⟩ := @List.mergeSort_cons _ (leOn le (a :: l)) h.attach_trans
    h.attach_total ⟨a, List.mem_cons_self⟩ (restOf a l)
  have hl₁ : l₁ = [] := by
    apply List.eq_nil_iff_forall_not_mem.2
    intro b hb
    have hsome : b ∈ (restOf a l).mergeSort (leOn le (a :: l)) := by
      rw [hrest]
      exact List.mem_append_left _ hb
    have hmem : b ∈ restOf a l := List.mem_mergeSort.1 hsome
    have hbl : b.1 ∈ (restOf a l).map Subtype.val := List.mem_map_of_mem hmem
    rw [map_restOf] at hbl
    have hnot : (!le a b.1) = true := hbelow b hb
    rw [hleast b.1 hbl] at hnot
    exact Bool.false_ne_true hnot
  rw [hl₁, List.nil_append] at hsplit hrest
  have hsorted : ((restOf a l).mergeSort (leOn le (a :: l))).map Subtype.val = l.mergeSort le := by
    rw [List.map_mergeSort (r := leOn le (a :: l)) (s := le) (f := Subtype.val) fun b _ c _ => rfl, map_restOf]
  rw [← mergeSort_attach, List.attach_cons]
  calc ((⟨a, List.mem_cons_self⟩ :: restOf a l).mergeSort (leOn le (a :: l))).map Subtype.val
      = a :: l₂.map Subtype.val := by rw [hsplit, List.map_cons]
    _ = a :: l.mergeSort le := by rw [← hrest, hsorted]

theorem mergeSort_pair (le : α → α → Bool) (a b : α) : [a, b].mergeSort le = if le a b then [a, b] else [b, a] := by
  simp [List.mergeSort, List.MergeSort.Internal.splitInTwo, List.merge]

theorem mergeSort_front (h : PreorderOn le (front ++ rest)) (hsorted : front.Pairwise fun a b => le a b = true)
    (hbelow : ∀ a ∈ front, ∀ b ∈ rest, le a b = true) : (front ++ rest).mergeSort le = front ++ rest.mergeSort le := by
  induction front with
  | nil => rfl
  | cons a front ih =>
    obtain ⟨hfirst, hsorted⟩ := List.pairwise_cons.1 hsorted
    have hleast : ∀ b ∈ front ++ rest, le a b = true := by
      intro b hb
      cases List.mem_append.1 hb with
      | inl hfront => exact hfirst b hfront
      | inr hrest => exact hbelow a List.mem_cons_self b hrest
    have htail := ih h.tail hsorted fun x hx => hbelow x (List.mem_cons_of_mem _ hx)
    exact (mergeSort_cons_least h hleast).trans (congrArg (a :: ·) htail)

end Sorting
