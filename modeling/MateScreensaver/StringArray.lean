import Mathlib.Data.List.Basic
import MateScreensaver.AuthMessage

/-!
The strings of an answer on the bus (mate-screensaver-command.c): an array that grows by
eight, and by one for the NULL at its end. Every malloc, realloc and strdup can fail.
-/

namespace MateScreensaver

/- What malloc gives: an entry has not been written, or holds NULL or a string. -/
abbrev Entries := List (Option (Option Bytes))

namespace StringArray

def malloc (n : ℕ) : Entries := List.replicate n none

def realloc (buffer : Entries) (n : ℕ) : Entries := buffer.take n ++ List.replicate (n - buffer.length) none

/- buffer[k] = value; none when that is not part of the buffer. -/
def put (buffer : Entries) (k : ℕ) (value : Option Bytes) : Option Entries :=
  if k < buffer.length then some (buffer.set k (some value)) else none

/- A realloc that is made when it is due; none when it fails. The allocations are counted. -/
def reallocIf (alloc : ℕ → Bool) (due : Bool) (n calls : ℕ) (buffer : Entries) : Option (ℕ × Entries) :=
  if due then if alloc calls then some (calls + 1, realloc buffer n) else none
  else some (calls, buffer)

/- What is returned, with what num_elements points to. -/
abbrev Got := Option Entries × ℕ

def oom : Got := (none, 0)

/- After the loop. -/
def finish (alloc : ℕ → Bool) (calls count : ℕ) (buffer : Entries) : Option Got :=
  match reallocIf alloc (count % 8 == 0) (count + 1) calls buffer with
  | none => some oom
  | some (_, buffer) => (put buffer count none).map fun buffer => (some buffer, count)

/- The loop of mate-screensaver-command.c:262 over the strings that are left. -/
def fillFrom (alloc : ℕ → Bool) : List Bytes → ℕ → ℕ → Entries → Option Got
  | [], calls, count, buffer => finish alloc calls count buffer
  | value :: iter, calls, count, buffer =>
    match reallocIf alloc (count % 8 == 0 && count != 0) (count + 8) calls buffer with
    | none => some oom
    | some (calls, buffer) =>
      if alloc calls then (put buffer count (some value)).bind (fillFrom alloc iter (calls + 1) (count + 1))
      else some oom

/- mate-screensaver-command.c:262; none when something is written outside the buffer. -/
def getStringFromIter (alloc : ℕ → Bool) (iter : List Bytes) : Option Got :=
  if alloc 0 then (put (malloc 8) 0 none).bind (fillFrom alloc iter 1 0) else some oom

/-- The strings in order with a NULL after them, and their number; or NULL and none, and
then an allocation has failed. -/
def Returns (alloc : ℕ → Bool) (strings : List Bytes) (got : Got) : Prop :=
  (got = oom ∧ ∃ k, alloc k = false) ∨
    ∃ buffer, got = (some buffer, strings.length) ∧
      buffer.take (strings.length + 1) = strings.map (fun s => some (some s)) ++ [some none]

/- What the buffer holds before another string is read: as many entries as the strings so
far make it have, in whole groups of eight. -/
structure Holds (strings : List Bytes) (buffer : Entries) : Prop where
  length_eq : buffer.length = max 8 ((strings.length + 7) / 8 * 8)
  entries : buffer.take strings.length = strings.map fun s => some (some s)

variable {alloc : ℕ → Bool} {strings : List Bytes} {buffer : Entries}

theorem length_realloc (buffer : Entries) (n : ℕ) : (realloc buffer n).length = n := by
  rw [realloc, List.length_append, List.length_take, List.length_replicate]
  omega

theorem take_realloc {k n : ℕ} (hk : k ≤ n) (hbuffer : k ≤ buffer.length) :
    (realloc buffer n).take k = buffer.take k := by
  rw [realloc, List.take_append_of_le_length (by rw [List.length_take]; omega), List.take_take, Nat.min_eq_left hk]

theorem put_eq {k : ℕ} (h : k < buffer.length) (value : Option Bytes) :
    put buffer k value = some (buffer.set k (some value)) := if_pos h

theorem take_set {k : ℕ} (h : k < buffer.length) (e : Option (Option Bytes)) :
    (buffer.set k e).take (k + 1) = buffer.take k ++ [e] := by
  rw [List.take_add_one, List.take_set_of_le (Nat.le_refl k), List.getElem?_set_self h]
  rfl

theorem reallocIf_cases (alloc : ℕ → Bool) (due : Bool) (n calls : ℕ) (buffer : Entries) :
    (reallocIf alloc due n calls buffer = none ∧ alloc calls = false) ∨
      ∃ calls', reallocIf alloc due n calls buffer = some (calls', if due then realloc buffer n else buffer) := by
  unfold reallocIf
  cases due with
  | false => exact .inr ⟨calls, rfl⟩
  | true =>
    cases halloc : alloc calls with
    | false => exact .inl ⟨rfl, rfl⟩
    | true => exact .inr ⟨calls + 1, rfl⟩

/- A buffer that is made larger when it is due has room at k, and what was before k. -/
theorem room_of_due (due : Bool) (n : ℕ) {k : ℕ} (hk : k ≤ buffer.length) (hn : k < n) (hdue : due = false → k < buffer.length) :
    k < (if due then realloc buffer n else buffer).length ∧
      (if due then realloc buffer n else buffer).take k = buffer.take k := by
  cases due with
  | false => exact ⟨hdue rfl, rfl⟩
  | true =>
    rw [if_pos rfl, length_realloc]
    exact ⟨hn, take_realloc hn.le hk⟩

theorem holds_start : Holds [] ((malloc 8).set 0 (some none)) := ⟨rfl, rfl⟩

theorem Holds.length_le (h : Holds strings buffer) : strings.length ≤ buffer.length := by
  rw [h.length_eq]
  omega

/- Within the loop the buffer grows when the last of eight entries is taken. -/
theorem Holds.next (h : Holds strings buffer) (value : Bytes) :
    ∃ room : Entries, (if strings.length % 8 == 0 && strings.length != 0 then realloc buffer (strings.length + 8) else buffer) = room ∧
      strings.length < room.length ∧ Holds (strings ++ [value]) (room.set strings.length (some (some value))) := by
  have hlen := h.length_eq
  refine ⟨_, rfl, ?_⟩
  obtain ⟨hroom, htake⟩ := room_of_due (strings.length % 8 == 0 && strings.length != 0) (strings.length + 8) h.length_le (by omega) (by
      intro hdue
      simp only [Bool.and_eq_false_iff, beq_eq_false_iff_ne, bne_eq_false_iff_eq] at hdue
      omega)
  refine ⟨hroom, ?_, ?_⟩
  · rw [List.length_set, List.length_append, List.length_singleton]
    cases hdue : strings.length % 8 == 0 && strings.length != 0 with
    | true =>
      simp only [Bool.and_eq_true, beq_iff_eq, bne_iff_ne] at hdue
      rw [if_pos rfl, length_realloc]
      omega
    | false =>
      simp only [Bool.and_eq_false_iff, beq_eq_false_iff_ne, bne_eq_false_iff_eq] at hdue
      rw [if_neg (by decide), hlen]
      omega
  · rw [List.length_append, List.length_singleton, take_set hroom, htake, h.entries, List.map_append]
    rfl

/- After it the buffer grows once more when it is full. -/
theorem Holds.finish (h : Holds strings buffer) (alloc : ℕ → Bool) (calls : ℕ) :
    ∃ got, finish alloc calls strings.length buffer = some got ∧ Returns alloc strings got := by
  have hlen := h.length_eq
  obtain ⟨hroom, htake⟩ := room_of_due (strings.length % 8 == 0) (strings.length + 1) h.length_le (by omega) (by
      intro hdue
      rw [beq_eq_false_iff_ne] at hdue
      omega)
  unfold StringArray.finish
  rcases reallocIf_cases alloc (strings.length % 8 == 0) (strings.length + 1) calls buffer with ⟨hnone, hfail⟩ | ⟨calls', hsome⟩
  · rw [hnone]
    exact ⟨oom, rfl, .inl ⟨rfl, calls, hfail⟩⟩
  · rw [hsome]
    dsimp only
    rw [put_eq hroom]
    refine ⟨_, rfl, .inr ⟨_, rfl, ?_⟩⟩
    rw [take_set hroom, htake, h.entries]

theorem fillFrom_spec (alloc : ℕ → Bool) (iter : List Bytes) (calls : ℕ) (h : Holds strings buffer) :
    ∃ got, fillFrom alloc iter calls strings.length buffer = some got ∧ Returns alloc (strings ++ iter) got := by
  induction iter generalizing strings buffer calls with
  | nil =>
    rw [List.append_nil]
    exact h.finish alloc calls
  | cons value iter ih =>
    obtain ⟨room, hroom, hlt, hnext⟩ := h.next value
    rw [fillFrom]
    rcases reallocIf_cases alloc (strings.length % 8 == 0 && strings.length != 0) (strings.length + 8) calls buffer with
      ⟨hnone, hfail⟩ | ⟨calls', hsome⟩
    · rw [hnone]
      exact ⟨oom, rfl, .inl ⟨rfl, calls, hfail⟩⟩
    · rw [hsome, hroom]
      dsimp only
      cases hstrdup : alloc calls' with
      | false => exact ⟨oom, rfl, .inl ⟨rfl, calls', hstrdup⟩⟩
      | true =>
        rw [if_pos rfl, put_eq hlt, Option.bind_some]
        have hrest := ih (calls' + 1) hnext
        rwa [List.length_append, List.length_singleton, List.append_assoc] at hrest

theorem getStringFromIter_spec (alloc : ℕ → Bool) (iter : List Bytes) :
    ∃ got, getStringFromIter alloc iter = some got ∧ Returns alloc iter got := by
  unfold getStringFromIter
  cases halloc : alloc 0 with
  | false => exact ⟨oom, rfl, .inl ⟨rfl, 0, halloc⟩⟩
  | true => exact fillFrom_spec alloc iter 1 holds_start

end StringArray

end MateScreensaver
