import Mathlib.Order.Lattice

/-!
A control that shows a stored value and writes it, where it may and where each writing comes back as a
signal. However values and control are changed, the signals come to an end, and then a control whose
value can be written shows what is stored.
-/

namespace Binding

/- How a value is shown. What a control writes is shown as it is. -/
structure View (σ ω : Type*) where
  shown : σ → ω
  written : ω → σ
  shown_written : ∀ w, shown (written w) = w

/- The value and whether the control can write it, the control, and the number of signals on their way. -/
structure Bound (σ ω : Type*) where
  stored : σ
  control : ω
  signals : ℕ
  writable : Bool

namespace View

variable {σ ω : Type*} (v : View σ ω) (b : Bound σ ω)

/- Somebody else writes. -/
def change (s : σ) : Bound σ ω := { b with stored := s, signals := b.signals + 1 }

/- Without a signal on its way the control shows what is stored. -/
def Synced : Prop := b.signals = 0 → b.control = v.shown b.stored

theorem synced_change (s : σ) : v.Synced (change b s) := by
  intro hzero
  exact absurd hzero (Nat.succ_ne_zero _)

variable [DecidableEq ω]

/- The control is set, and writes if it was different; a value that cannot be written stays. -/
def edit (w : ω) : Bound σ ω :=
  if b.control = w then b
  else if b.writable then { b with stored := v.written w, control := w, signals := b.signals + 1 }
  else { b with control := w }

/- A signal comes, and the control is set to what is stored now. -/
def deliver : Bound σ ω := v.edit { b with signals := b.signals - 1 } (v.shown b.stored)

variable {v b}

theorem edit_control (w : ω) : (v.edit b w).control = w := by
  rw [View.edit]
  split
  · next h => exact h
  · split
    · rfl
    · rfl

@[simp] theorem edit_writable (w : ω) : (v.edit b w).writable = b.writable := by
  rw [View.edit]
  split_ifs
  · rfl
  · rfl
  · rfl

theorem deliver_writable : (v.deliver b).writable = b.writable := edit_writable _

theorem Synced.edit (h : v.Synced b) (hb : b.writable = true) (w : ω) : v.Synced (v.edit b w) := by
  rw [View.edit, if_pos hb]
  split
  · exact h
  · intro hzero
    exact (v.shown_written w).symm

theorem deliver_control : (v.deliver b).control = v.shown (v.deliver b).stored := by
  rw [deliver, View.edit]
  split
  · next h => exact h
  · split
    · exact (v.shown_written _).symm
    · rfl

theorem synced_deliver : v.Synced (v.deliver b) := fun _ => deliver_control

end View

/- Values that are shown as they are. -/
def plain (σ : Type*) : View σ σ where
  shown := id
  written := id
  shown_written _ := rfl

/- The numbers of a scale. -/
abbrev Within (low high : ℤ) : Type := { n : ℤ // low ≤ n ∧ n ≤ high }

/- Numbers that are shown within the bounds of a scale. -/
def scale (low high : ℤ) (h : low ≤ high) : View ℤ (Within low high) where
  shown n := ⟨max low (min n high), le_max_left _ _, max_le h (min_le_right _ _)⟩
  written w := w
  shown_written w := by
    obtain ⟨n, hlow, hhigh⟩ := w
    simp [hlow, hhigh]

end Binding
