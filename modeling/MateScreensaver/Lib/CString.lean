import Mathlib.Data.List.TakeWhile
import MateScreensaver.Lib.Scan

/-!
C strings in buffers: what fgets puts into one, what string functions see of it, and blocks of
a fixed size that a string is put together in. A write outside of a block has no result.
-/

namespace CString
open Scan (Text)

/- A string ends at the first NUL. -/
def upToNul (l : Text) : Text := l.takeWhile (· ≠ '\x00')

/- At most `room` bytes, and none after a line feed; with what is left. -/
def takeLine : ℕ → Text → Text × Text
  | 0, l => ([], l)
  | _ + 1, [] => ([], [])
  | room + 1, c :: l =>
    if c = '\n' then ([c], l) else (c :: (takeLine room l).1, (takeLine room l).2)

/- fgets (buffer, size, file): NULL at the end of the file. -/
def fgets (size : ℕ) (file : Text) : Option (Text × Text) :=
  if file = [] then none else some (takeLine (size - 1) file)

/- What the calls of fgets give until one gives NULL. -/
def readLines (size : ℕ) : ℕ → Text → List Text
  | 0, _ => []
  | fuel + 1, file =>
    match fgets size file with
    | none => []
    | some (buffer, rest) => buffer :: readLines size fuel rest

/- No call takes nothing, so that there are no more than bytes. -/
def chunks (size : ℕ) (file : Text) : List Text := readLines size file.length file

/- One more byte of a string in a block. -/
def put (capacity : ℕ) (written : Text) (c : Char) : Option Text :=
  if written.length < capacity then some (written ++ [c]) else none

/- The NUL after a string. -/
def terminate (capacity : ℕ) (written : Text) : Option Text :=
  if written.length < capacity then some written else none

/-! ### Reading -/

variable {size fuel room : ℕ} {file line rest : Text}

theorem takeLine_append (room : ℕ) (l : Text) : (takeLine room l).1 ++ (takeLine room l).2 = l := by
  induction room generalizing l with
  | zero => rfl
  | succ room ih =>
    cases l with
    | nil => rfl
    | cons c l =>
      rw [takeLine]
      split
      · rfl
      · rw [List.cons_append, ih]

theorem takeLine_ne_nil {c : Char} {l : Text} : (takeLine (room + 1) (c :: l)).1 ≠ [] := by
  rw [takeLine]
  split <;> exact List.cons_ne_nil _ _

/- A line that there is room for is taken with its line feed, or at the end of the file. -/
theorem takeLine_line (h : '\n' ∉ line) (hroom : line.length < room) :
    takeLine room (line ++ '\n' :: rest) = (line ++ ['\n'], rest) := by
  induction line generalizing room with
  | nil =>
    cases room with
    | zero => exact absurd hroom (Nat.not_lt_zero _)
    | succ room => rfl
  | cons c line ih =>
    cases room with
    | zero => exact absurd hroom (Nat.not_lt_zero _)
    | succ room =>
      have hc : c ≠ '\n' := fun heq => h (heq ▸ List.mem_cons_self)
      have hline := ih (fun hm => h (List.mem_cons_of_mem c hm)) (Nat.lt_of_succ_lt_succ hroom)
      rw [List.cons_append, takeLine, if_neg hc, hline]
      rfl

theorem takeLine_last (h : '\n' ∉ line) (hroom : line.length ≤ room) : takeLine room line = (line, []) := by
  induction line generalizing room with
  | nil => cases room <;> rfl
  | cons c line ih =>
    cases room with
    | zero => exact absurd hroom (Nat.not_succ_le_zero _)
    | succ room =>
      have hc : c ≠ '\n' := fun heq => h (heq ▸ List.mem_cons_self)
      rw [takeLine, if_neg hc, ih (fun hm => h (List.mem_cons_of_mem c hm)) (Nat.le_of_succ_le_succ hroom)]

theorem length_takeLine_le (room : ℕ) (l : Text) : (takeLine room l).1.length ≤ room := by
  induction room generalizing l with
  | zero => exact Nat.le_refl _
  | succ room ih =>
    cases l with
    | nil => exact Nat.zero_le _
    | cons c l =>
      rw [takeLine]
      split
      · exact Nat.succ_le_succ (Nat.zero_le _)
      · exact Nat.succ_le_succ (ih l)

/- One byte of the buffer is for the NUL. -/
theorem length_le_of_mem_readLines {buffer : Text} (h : buffer ∈ readLines size fuel file) : buffer.length ≤ size - 1 := by
  induction fuel generalizing file with
  | zero => cases h
  | succ fuel ih =>
    rw [readLines, fgets] at h
    split at h
    · cases h
    · next first rest heq =>
      split at heq
      · cases heq
      · have hfirst : (takeLine (size - 1) file).1 = first := congrArg Prod.fst (Option.some.inj heq)
        cases List.mem_cons.1 h with
        | inl h => exact h ▸ hfirst ▸ length_takeLine_le _ _
        | inr h => exact ih h

theorem readLines_nil (size fuel : ℕ) : readLines size fuel [] = [] := by
  cases fuel <;> rfl

/- The whole file is read, however long its lines are. -/
theorem readLines_flatten (hsize : 2 ≤ size) (hfuel : file.length ≤ fuel) :
    (readLines size fuel file).flatten = file := by
  induction fuel generalizing file with
  | zero =>
    rw [List.eq_nil_of_length_eq_zero (Nat.le_zero.1 hfuel)]
    rfl
  | succ fuel ih =>
    cases file with
    | nil => rfl
    | cons c file =>
      obtain ⟨room, hroom⟩ : ∃ room, size - 1 = room + 1 := ⟨size - 2, by omega⟩
      have hcut := takeLine_append (size - 1) (c :: file)
      have hlen := congrArg List.length hcut
      have hne : (takeLine (size - 1) (c :: file)).1 ≠ [] := by
        rw [hroom]
        exact takeLine_ne_nil
      have hpos := List.length_pos_iff.2 hne
      rw [List.length_append] at hlen
      rw [readLines, fgets, if_neg (List.cons_ne_nil _ _), List.flatten_cons, ih (by omega), hcut]

theorem chunks_flatten (hsize : 2 ≤ size) (file : Text) : (chunks size file).flatten = file :=
  readLines_flatten hsize (Nat.le_refl _)

/- Lines that fit into the buffer with their line feed and the NUL are read one by one. -/
theorem readLines_line (h : '\n' ∉ line) (hfit : line.length + 2 ≤ size) :
    readLines size (fuel + 1) (line ++ '\n' :: rest) = (line ++ ['\n']) :: readLines size fuel rest := by
  have hne : line ++ '\n' :: rest ≠ [] := by simp
  rw [readLines, fgets, if_neg hne, takeLine_line h (by omega)]

theorem readLines_lines {lines : List Text} (h : ∀ l ∈ lines, '\n' ∉ l ∧ l.length + 2 ≤ size)
    (hlast : '\n' ∉ line ∧ line.length + 2 ≤ size) (hfuel : (Scan.unlines lines ++ line).length ≤ fuel) :
    readLines size fuel (Scan.unlines lines ++ line) =
      lines.map (· ++ ['\n']) ++ if line = [] then [] else [line] := by
  induction lines generalizing fuel with
  | nil =>
    rw [Scan.unlines, List.flatMap_nil, List.nil_append, List.map_nil, List.nil_append]
    cases fuel with
    | zero =>
      have hnil : line = [] := List.eq_nil_of_length_eq_zero (Nat.le_zero.1 hfuel)
      rw [hnil]
      rfl
    | succ fuel =>
      by_cases hnil : line = []
      · rw [hnil]
        rfl
      · rw [readLines, fgets, if_neg hnil, takeLine_last hlast.1 (by omega), if_neg hnil]
        simp only [readLines_nil]
  | cons l lines ih =>
    have hsplit : Scan.unlines (l :: lines) ++ line = l ++ '\n' :: (Scan.unlines lines ++ line) := by
      simp [Scan.unlines]
    rw [hsplit] at hfuel ⊢
    obtain ⟨fuel, rfl⟩ : ∃ n, fuel = n + 1 := ⟨fuel - 1, by
      rw [List.length_append, List.length_cons] at hfuel
      omega⟩
    have hrest : (Scan.unlines lines ++ line).length ≤ fuel := by
      rw [List.length_append, List.length_cons] at hfuel
      omega
    rw [readLines_line (h l List.mem_cons_self).1 (h l List.mem_cons_self).2,
      ih (fun l' hl' => h l' (List.mem_cons_of_mem _ hl')) hrest, List.map_cons, List.cons_append]

theorem chunks_lines {lines : List Text} (h : ∀ l ∈ lines, '\n' ∉ l ∧ l.length + 2 ≤ size)
    (hlast : '\n' ∉ line ∧ line.length + 2 ≤ size) :
    chunks size (Scan.unlines lines ++ line) = lines.map (· ++ ['\n']) ++ if line = [] then [] else [line] :=
  readLines_lines h hlast (Nat.le_refl _)

/-! ### Strings -/

/- strncmp (p, lit, strlen (lit)) == 0 and p += strlen (lit) -/
theorem literal_iff {lit l rest : Text} : Scan.literal lit l = some rest ↔ l = lit ++ rest := by
  unfold Scan.literal
  constructor
  · intro h
    split at h
    · next hp =>
      obtain ⟨t, rfl⟩ := List.isPrefixOf_iff_prefix.1 hp
      rw [List.drop_left] at h
      rw [Option.some.inj h]
    · cases h
  · intro h
    subst h
    rw [if_pos (List.isPrefixOf_iff_prefix.2 (List.prefix_append _ _)), List.drop_left]

/- What stands before the first separator. -/
theorem eq_of_separated {a a' b b' : Text} {c : Char} (ha : c ∉ a) (ha' : c ∉ a') (h : a ++ c :: b = a' ++ c :: b') : a = a' := by
  have hle : a <+: a' := Scan.prefix_of_separated ha (h ▸ List.prefix_append _ _)
  have hge : a' <+: a := Scan.prefix_of_separated (b := b) ha' (h.symm ▸ List.prefix_append _ _)
  exact hle.eq_of_length (Nat.le_antisymm hle.length_le hge.length_le)

theorem literal_append (lit rest : Text) : Scan.literal lit (lit ++ rest) = some rest := literal_iff.2 rfl

theorem upToNul_eq {l : Text} (h : '\x00' ∉ l) : upToNul l = l := by
  refine List.takeWhile_eq_self_iff.2 fun c hc => ?_
  exact decide_eq_true fun heq => h (heq ▸ hc)

theorem length_upToNul_le (l : Text) : (upToNul l).length ≤ l.length := (List.takeWhile_prefix _).length_le

theorem nul_not_mem_upToNul (l : Text) : '\x00' ∉ upToNul l := by
  intro h
  have hne := List.mem_takeWhile_imp h
  exact absurd hne (by decide)

/-! ### Writing -/

variable {capacity : ℕ} {written : Text} {c : Char}

theorem put_eq (h : written.length < capacity) : put capacity written c = some (written ++ [c]) := if_pos h

theorem terminate_eq (h : written.length < capacity) : terminate capacity written = some written := if_pos h

end CString
