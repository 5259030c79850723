import Mathlib.Data.List.AList

/-!
A finite table with one value per key, as an association list of Mathlib, with
the bulk removal that a hash table iterator does.
-/

abbrev Table (α β : Type) := AList fun _ : α => β

namespace Table
variable {α β : Type} [DecidableEq α]

/- Remove every value that `p` holds of. -/
def removeIf (p : β → Bool) (t : Table α β) : Table α β :=
  ⟨t.entries.filter fun e => !p e.2, t.nodupKeys.sublist List.filter_sublist⟩

def any (p : β → Bool) (t : Table α β) : Bool := t.entries.any fun e => p e.2

def isEmpty (t : Table α β) : Bool := t.entries.isEmpty

theorem mem_entries_iff {t : Table α β} {k : α} {v : β} :
    (⟨k, v⟩ : Sigma fun _ : α => β) ∈ t.entries ↔ t.lookup k = some v :=
  (AList.mem_lookup_iff (s := t) (a := k) (b := v)).symm

theorem lookup_removeIf_iff {p : β → Bool} {t : Table α β} {k : α} {v : β} :
    (removeIf p t).lookup k = some v ↔ t.lookup k = some v ∧ p v = false := by
  rw [← mem_entries_iff, ← mem_entries_iff]
  simp [removeIf]

theorem lookup_insert_iff {t : Table α β} {k a : α} {v b : β} :
    (t.insert a b).lookup k = some v ↔ (k = a ∧ b = v) ∨ (k ≠ a ∧ t.lookup k = some v) := by
  by_cases h : k = a
  · subst h
    simp [AList.lookup_insert]
  · simp [AList.lookup_insert_ne h, h]

theorem lookup_erase_iff {t : Table α β} {k a : α} {v : β} :
    (t.erase a).lookup k = some v ↔ k ≠ a ∧ t.lookup k = some v := by
  by_cases h : k = a
  · subst h
    simp [AList.lookup_erase]
  · simp [AList.lookup_erase_ne h, h]

theorem lookup_insert_eq (t : Table α β) (a : α) (b : β) :
    (fun k => (t.insert a b).lookup k) = Function.update (fun k => t.lookup k) a (some b) := by
  funext k
  by_cases hk : k = a
  · rw [hk, Function.update_self]
    exact AList.lookup_insert _
  · rw [Function.update_of_ne hk]
    exact AList.lookup_insert_ne hk

theorem lookup_erase_eq (t : Table α β) (a : α) :
    (fun k => (t.erase a).lookup k) = Function.update (fun k => t.lookup k) a none := by
  funext k
  by_cases hk : k = a
  · rw [hk, Function.update_self]
    exact AList.lookup_erase _ _
  · rw [Function.update_of_ne hk]
    exact AList.lookup_erase_ne hk

/- The keys that go are those of the entries that `p` holds of. -/
theorem lookup_removeIf_eq (p : β → Bool) (t : Table α β) :
    (fun k => (removeIf p t).lookup k) =
      fun k => if k ∈ (t.entries.filter fun e => p e.2).map Sigma.fst then none else t.lookup k := by
  have hkeys : ∀ k v, t.lookup k = some v →
      (k ∈ (t.entries.filter fun e => p e.2).map Sigma.fst ↔ p v = true) := by
    intro k v hv
    constructor
    · intro hk
      obtain ⟨e, he, rfl⟩ := List.mem_map.1 hk
      obtain ⟨hmem, hp⟩ := List.mem_filter.1 he
      obtain rfl : e.2 = v := Option.some.inj ((mem_entries_iff.1 hmem).symm.trans hv)
      exact hp
    · intro hp
      exact List.mem_map.2 ⟨⟨k, v⟩, List.mem_filter.2 ⟨mem_entries_iff.2 hv, hp⟩, rfl⟩
  funext k
  refine Option.ext fun v => ?_
  rw [lookup_removeIf_iff]
  constructor
  · rintro ⟨hv, hp⟩
    rw [if_neg]
    · exact hv
    · rw [hkeys k v hv, hp]
      exact Bool.false_ne_true
  · intro hv
    split at hv
    · cases hv
    · next hk =>
      rw [hkeys k v hv] at hk
      exact ⟨hv, Bool.eq_false_iff.2 hk⟩

theorem any_iff {p : β → Bool} {t : Table α β} :
    any p t = true ↔ ∃ k v, t.lookup k = some v ∧ p v = true := by
  simp only [any, List.any_eq_true]
  constructor
  · rintro ⟨⟨k, v⟩, hm, hp⟩
    exact ⟨k, v, mem_entries_iff.1 hm, hp⟩
  · rintro ⟨k, v, hl, hp⟩
    exact ⟨⟨k, v⟩, mem_entries_iff.2 hl, hp⟩

theorem isEmpty_iff {t : Table α β} : isEmpty t = true ↔ ∀ k, t.lookup k = none := by
  rw [isEmpty, List.isEmpty_iff]
  constructor
  · intro h k
    rw [AList.lookup_eq_none, AList.mem_keys, AList.keys, h]
    exact List.not_mem_nil
  · intro h
    refine List.eq_nil_iff_forall_not_mem.2 ?_
    rintro ⟨k, v⟩ hm
    have hl := mem_entries_iff.1 hm
    rw [h k] at hl
    cases hl

omit [DecidableEq α] in
/- Nothing is removed when `p` holds of nothing. -/
theorem removeIf_eq_self {p : β → Bool} {t : Table α β} (h : any p t = false) :
    removeIf p t = t := by
  refine AList.ext (List.filter_eq_self.2 fun e he => ?_)
  have hp := List.any_eq_false.1 h e he
  simpa using hp

end Table
