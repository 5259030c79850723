import Mathlib.Data.List.Induction

/-!
A ledger of grants. A log of actions, of which some accept a grant and some end
grants, says which grants are outstanding; a store is faithful when it holds just
these. Whether a store stays faithful is a matter of one action at a time.
-/

namespace Ledger

structure Rules (α κ ν : Type*) where
  accepts : α → κ → ν → Prop
  ends : α → κ → ν → Prop

variable {α κ ν : Type*} (R : Rules α κ ν)

/- Accepted at some point, and not ended since. -/
def Outstanding (log : List α) (k : κ) (v : ν) : Prop :=
  ∃ before a after, log = before ++ a :: after ∧ R.accepts a k v ∧ ∀ b ∈ after, ¬ R.ends b k v

/- What the store holds is what is outstanding. -/
def Faithful (store : κ → ν → Prop) (log : List α) : Prop := ∀ k v, store k v ↔ Outstanding R log k v

variable {R} {log : List α} {a : α} {k : κ} {v : ν}

theorem not_outstanding_nil : ¬ Outstanding R [] k v := by
  rintro ⟨before, a, after, h, -⟩
  have hlen := congrArg List.length h
  simp at hlen

theorem outstanding_append_one :
    Outstanding R (log ++ [a]) k v ↔ R.accepts a k v ∨ (Outstanding R log k v ∧ ¬ R.ends a k v) := by
  constructor
  · rintro ⟨before, b, after, h, hacc, hend⟩
    rcases List.eq_nil_or_concat after with rfl | ⟨front, c, rfl⟩
    · obtain ⟨-, hb⟩ := List.append_inj' h rfl
      cases hb
      exact .inl hacc
    · rw [List.concat_eq_append] at h hend
      have hcons : before ++ b :: (front ++ [c]) = (before ++ b :: front) ++ [c] := by simp
      rw [hcons] at h
      obtain ⟨hlog, hc⟩ := List.append_inj' h rfl
      cases hc
      refine .inr ⟨⟨before, b, front, hlog, hacc, fun x hx => hend x (List.mem_append_left _ hx)⟩, ?_⟩
      exact hend a (List.mem_append_right _ (List.mem_singleton_self a))
  · rintro (hacc | ⟨⟨before, b, after, rfl, hacc, hend⟩, hno⟩)
    · exact ⟨log, a, [], rfl, hacc, fun b hb => absurd hb List.not_mem_nil⟩
    · refine ⟨before, b, after ++ [a], by simp, hacc, fun c hc => ?_⟩
      rcases List.mem_append.1 hc with hc | hc
      · exact hend c hc
      · rw [List.mem_singleton.1 hc]
        exact hno

/- Actions that neither accept nor end a grant do not matter to it. -/
theorem outstanding_filter {p : α → Bool}
    (h : ∀ a, p a = false → ¬ R.accepts a k v ∧ ¬ R.ends a k v) :
    Outstanding R (log.filter p) k v ↔ Outstanding R log k v := by
  induction log using List.reverseRecOn with
  | nil => rfl
  | append_singleton log a ih =>
    rw [List.filter_append]
    cases hp : p a
    · obtain ⟨hacc, hend⟩ := h a hp
      rw [outstanding_append_one, List.filter_cons_of_neg (by simp [hp]), List.filter_nil, List.append_nil, ih]
      exact ⟨fun ho => .inr ⟨ho, hend⟩, fun ho => ho.elim (fun ha => absurd ha hacc) And.left⟩
    · rw [List.filter_cons_of_pos hp, List.filter_nil, outstanding_append_one, outstanding_append_one, ih]

variable {store store' : κ → ν → Prop}

theorem faithful_nil (h : ∀ k v, ¬ store k v) : Faithful R store [] :=
  fun k v => ⟨fun hs => absurd hs (h k v), fun ho => absurd ho not_outstanding_nil⟩

theorem Faithful.append_one_iff (h : Faithful R store log) : Faithful R store' (log ++ [a]) ↔
    ∀ k v, store' k v ↔ R.accepts a k v ∨ (store k v ∧ ¬ R.ends a k v) := by
  refine forall_congr' fun k => forall_congr' fun v => ?_
  rw [outstanding_append_one, ← h k v]

theorem Faithful.append_nil_iff (h : Faithful R store log) :
    Faithful R store' (log ++ []) ↔ ∀ k v, store' k v ↔ store k v := by
  refine forall_congr' fun k => forall_congr' fun v => ?_
  rw [List.append_nil, ← h k v]

end Ledger
