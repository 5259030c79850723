import Mathlib.Data.List.Basic
import Mathlib.Data.Nat.Notation

/-!
One-shot timeouts of a main loop with a clock: each has an id that no other one ever gets, and is
gone when it is removed or has been dispatched. The loop dispatches what is due before it waits.
-/

namespace Timeouts

structure Source (κ : Type*) where
  id : ℕ
  due : ℕ
  callback : κ
deriving DecidableEq

/- The clock and the sources; `unknown` counts the removals of ids that have no source. -/
structure Context (κ : Type*) where
  now : ℕ := 0
  sources : List (Source κ) := []
  nextId : ℕ := 1
  unknown : ℕ := 0
deriving DecidableEq

namespace Context

variable {κ : Type*}

def find (c : Context κ) (id : ℕ) : Option (Source κ) := c.sources.find? fun s => s.id = id

def drop (c : Context κ) (id : ℕ) : Context κ := { c with sources := c.sources.filter fun s => s.id ≠ id }

/- g_timeout_add; the new source has the id `c.nextId`. -/
def add (c : Context κ) (interval : ℕ) (callback : κ) : Context κ :=
  { c with sources := c.sources ++ [⟨c.nextId, c.now + interval, callback⟩], nextId := c.nextId + 1 }

/- g_source_remove -/
def remove (c : Context κ) (id : ℕ) : Context κ :=
  match c.find id with
  | some _ => c.drop id
  | none => { c with unknown := c.unknown + 1 }

/- The source that is dispatched next, with the loop without it. -/
def dispatch (c : Context κ) (id : ℕ) : Option (Source κ × Context κ) :=
  match c.find id with
  | some s => if s.due ≤ c.now then some (s, c.drop id) else none
  | none => none

def passes (c : Context κ) (time : ℕ) : Context κ := { c with now := c.now + time }

/- Nothing becomes overdue while the loop waits. -/
def waits (c : Context κ) (time : ℕ) : Bool := c.sources.all fun s => decide (c.now + time ≤ s.due)

/-- Ids tell the sources apart, and none of them is 0 or to be given again. -/
structure Good (c : Context κ) : Prop where
  unique : ∀ s ∈ c.sources, ∀ s' ∈ c.sources, s.id = s'.id → s = s'
  given : ∀ s ∈ c.sources, 0 < s.id ∧ s.id < c.nextId
  positive : 0 < c.nextId

variable {c : Context κ} {s : Source κ} {id interval time : ℕ} {callback : κ}

theorem good_start : ({} : Context κ).Good where
  unique := fun _ h => nomatch h
  given := fun _ h => nomatch h
  positive := Nat.one_pos

theorem find_eq_some (h : c.find id = some s) : s ∈ c.sources ∧ s.id = id := by
  have hid := List.find?_some (p := fun s : Source κ => decide (s.id = id)) h
  exact ⟨List.mem_of_find?_eq_some h, of_decide_eq_true hid⟩

theorem find_eq_none (h : c.find id = none) : ∀ s ∈ c.sources, s.id ≠ id := fun s hs heq =>
  List.find?_eq_none.1 h s hs (decide_eq_true heq)

theorem mem_drop : s ∈ (c.drop id).sources ↔ s ∈ c.sources ∧ s.id ≠ id := by
  simp [drop]

theorem mem_add : s ∈ (c.add interval callback).sources ↔ s ∈ c.sources ∨ s = ⟨c.nextId, c.now + interval, callback⟩ := by
  simp [add]

theorem Good.add (h : c.Good) : (c.add interval callback).Good where
  unique s hs s' hs' heq := by
    have hold : ∀ t ∈ c.sources, t.id ≠ c.nextId := fun t ht => Nat.ne_of_lt (h.given t ht).2
    cases mem_add.1 hs with
    | inl hs =>
      cases mem_add.1 hs' with
      | inl hs' => exact h.unique s hs s' hs' heq
      | inr hs' =>
        subst hs'
        exact absurd heq (hold s hs)
    | inr hs =>
      subst hs
      cases mem_add.1 hs' with
      | inl hs' => exact absurd heq.symm (hold s' hs')
      | inr hs' => exact hs'.symm
  given s hs := by
    cases mem_add.1 hs with
    | inl hs => exact ⟨(h.given s hs).1, Nat.lt_succ_of_lt (h.given s hs).2⟩
    | inr hs =>
      subst hs
      exact ⟨h.positive, Nat.lt_succ_self _⟩
  positive := Nat.succ_pos _

theorem Good.drop (h : c.Good) : (c.drop id).Good where
  unique s hs s' hs' heq := h.unique s (mem_drop.1 hs).1 s' (mem_drop.1 hs').1 heq
  given s hs := h.given s (mem_drop.1 hs).1
  positive := h.positive

theorem Good.remove (h : c.Good) : (c.remove id).Good := by
  rw [Context.remove]
  cases c.find id with
  | none => exact { h with }
  | some s => exact h.drop

theorem Good.passes (h : c.Good) : (c.passes time).Good := { h with }

/- A removal leaves no source with the id, and keeps the rest. -/
theorem mem_remove : s ∈ (c.remove id).sources ↔ s ∈ c.sources ∧ s.id ≠ id := by
  rw [remove]
  cases hf : c.find id with
  | none => exact ⟨fun h => ⟨h, find_eq_none hf s h⟩, And.left⟩
  | some s' => exact mem_drop

@[simp] theorem now_remove : (c.remove id).now = c.now := by
  rw [remove]
  cases c.find id <;> rfl

@[simp] theorem nextId_remove : (c.remove id).nextId = c.nextId := by
  rw [remove]
  cases c.find id <;> rfl

theorem unknown_remove_of_mem (hs : s ∈ c.sources) (hid : s.id = id) : (c.remove id).unknown = c.unknown := by
  rw [remove]
  cases hf : c.find id with
  | none => exact absurd hid (find_eq_none hf s hs)
  | some s' => rfl

theorem unknown_remove_of_not_mem (h : ∀ s ∈ c.sources, s.id ≠ id) : (c.remove id).unknown = c.unknown + 1 := by
  rw [remove]
  cases hf : c.find id with
  | none => rfl
  | some s =>
    obtain ⟨hs, hid⟩ := find_eq_some hf
    exact absurd hid (h s hs)

theorem dispatch_eq_some {c' : Context κ} (h : c.dispatch id = some (s, c')) :
    s ∈ c.sources ∧ s.id = id ∧ s.due ≤ c.now ∧ c' = c.drop id := by
  rw [dispatch] at h
  cases hf : c.find id with
  | none =>
    rw [hf] at h
    cases h
  | some s' =>
    rw [hf] at h
    obtain ⟨hdue, heq⟩ := Option.ite_none_right_eq_some.1 h
    cases heq
    obtain ⟨hs, hid⟩ := find_eq_some hf
    exact ⟨hs, hid, hdue, rfl⟩

theorem le_due_of_waits (h : c.waits time = true) (hs : s ∈ c.sources) : c.now + time ≤ s.due :=
  of_decide_eq_true (List.all_eq_true.1 h s hs)

/-! ### Ids that are kept -/

/-- A variable that is 0 or has the id of the only source with some callback, which may be gone. -/
structure Slot (c : Context κ) (k : κ) (id : ℕ) : Prop where
  own : ∀ s ∈ c.sources, s.callback = k ↔ s.id = id
  lt : id < c.nextId

variable {k : κ} {id' : ℕ}

theorem slot_start (k : κ) : ({} : Context κ).Slot k 0 where
  own := fun _ h => nomatch h
  lt := Nat.one_pos

theorem Slot.drop (h : c.Slot k id) : (c.drop id').Slot k id where
  own s hs := h.own s (mem_drop.1 hs).1
  lt := h.lt

theorem Slot.remove (h : c.Slot k id) : (c.remove id').Slot k id where
  own s hs := h.own s (mem_remove.1 hs).1
  lt := by
    rw [nextId_remove]
    exact h.lt

theorem Slot.passes (h : c.Slot k id) : (c.passes time).Slot k id := { h with }

/- The variable is set to 0 when its source is gone. -/
theorem Slot.clear (h : c.Slot k id) (hgood : c.Good) (hgone : ∀ s ∈ c.sources, s.id ≠ id) : c.Slot k 0 where
  own s hs := by
    constructor
    · intro hk
      exact absurd ((h.own s hs).1 hk) (hgone s hs)
    · intro h0
      exact absurd h0 (Nat.ne_of_gt (hgood.given s hs).1)
  lt := hgood.positive

theorem Slot.callback_ne (h : c.Slot k 0) (hgood : c.Good) (hs : s ∈ c.sources) : s.callback ≠ k := fun hk =>
  Nat.ne_of_gt (hgood.given s hs).1 ((h.own s hs).1 hk)

theorem Slot.remove_self (h : c.Slot k id) (hgood : c.Good) : (c.remove id).Slot k 0 :=
  h.remove.clear hgood.remove fun _ hs => (mem_remove.1 hs).2

theorem Slot.add_self (h : c.Slot k 0) (hgood : c.Good) : (c.add interval k).Slot k c.nextId where
  own s hs := by
    cases mem_add.1 hs with
    | inl hs =>
      exact ⟨fun hk => absurd hk (h.callback_ne hgood hs), fun hid => absurd hid (Nat.ne_of_lt (hgood.given s hs).2)⟩
    | inr hs =>
      subst hs
      exact ⟨fun _ => rfl, fun _ => rfl⟩
  lt := Nat.lt_succ_self _

theorem Slot.add_of_ne (h : c.Slot k id) (hne : callback ≠ k) : (c.add interval callback).Slot k id where
  own s hs := by
    cases mem_add.1 hs with
    | inl hs => exact h.own s hs
    | inr hs =>
      subst hs
      exact ⟨fun hk => absurd hk hne, fun hid => absurd hid (Nat.ne_of_gt h.lt)⟩
  lt := Nat.lt_succ_of_lt h.lt

end Context
end Timeouts
