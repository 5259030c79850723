import Mathlib.Algebra.Group.Nat.Defs
import Mathlib.Data.List.Infix

/-!
The parts of C text handling that line protocols use: strstr as a test, the
white space, literal and %u directives of scanf, and %u of printf.
-/

namespace Scan

abbrev Text := List Char

/- strstr (line, pattern) != NULL -/
def contains (line pattern : Text) : Bool := decide (pattern <:+: line)

theorem contains_iff {line pattern : Text} : contains line pattern = true ↔ pattern <:+: line := decide_eq_true_iff

/- isspace in the C locale. -/
def isSpace (c : Char) : Bool := c.toNat == 32 || (9 ≤ c.toNat && c.toNat ≤ 13)

/- A white space directive. -/
def skipSpace (l : Text) : Text := l.dropWhile isSpace

/- A run of ordinary characters in a format. -/
def literal (lit l : Text) : Option Text :=
  if lit.isPrefixOf l then some (l.drop lit.length) else none

def splitSign : Text → Bool × Text
  | '+' :: l => (false, l)
  | '-' :: l => (true, l)
  | l => (false, l)

/- strtoul on 64 bits: the largest value stands for overflow. -/
def strtoul (neg : Bool) (n : Nat) : Nat :=
  if 2 ^ 64 ≤ n then 2 ^ 64 - 1 else if neg then (2 ^ 64 - n) % 2 ^ 64 else n

/- %u stored in 32 bits. -/
def unsigned (l : Text) : Option (UInt32 × Text) :=
  let (neg, l) := splitSign (skipSpace l)
  let ds := l.takeWhile Char.isDigit
  if ds = [] then none
  else some (.ofNat (strtoul neg (Nat.ofDigitChars 10 ds 0)), l.dropWhile Char.isDigit)

/- A last " %c" that must find nothing, as in `1 == sscanf (line, "..%u %c", ..)`. -/
def atEnd (l : Text) : Bool := skipSpace l == []

def printUnsigned (n : UInt32) : Text := Nat.toDigits 10 n.toNat

theorem isDigit_not_space {c : Char} (h : c.isDigit = true) : isSpace c = false := by
  have hc : 48 ≤ c.toNat ∧ c.toNat ≤ 57 := by
    simp only [Char.isDigit, Bool.and_eq_true, decide_eq_true_eq, ge_iff_le] at h
    exact h
  simp only [isSpace, Bool.or_eq_false_iff, beq_eq_false_iff_ne, Bool.and_eq_false_iff,
    decide_eq_false_iff_not]
  omega

theorem printUnsigned_digits (n : UInt32) : ∀ c ∈ printUnsigned n, c.isDigit = true :=
  fun _ hc => Nat.isDigit_of_mem_toDigits (by decide) (by decide) hc

theorem printUnsigned_ne_nil (n : UInt32) : printUnsigned n ≠ [] := Nat.toDigits_ne_nil

theorem skipSpace_digits (n : UInt32) (l : Text) :
    skipSpace (printUnsigned n ++ l) = printUnsigned n ++ l := by
  obtain ⟨c, ds, hd⟩ := List.exists_cons_of_ne_nil (printUnsigned_ne_nil n)
  have hc : isSpace c = false :=
    isDigit_not_space (printUnsigned_digits n c (by simp [hd]))
  simp [skipSpace, hd, hc]

theorem splitSign_digits (n : UInt32) (l : Text) :
    splitSign (printUnsigned n ++ l) = (false, printUnsigned n ++ l) := by
  obtain ⟨c, ds, hd⟩ := List.exists_cons_of_ne_nil (printUnsigned_ne_nil n)
  have hc : c.isDigit = true := printUnsigned_digits n c (by simp [hd])
  rw [hd]
  unfold splitSign
  split
  · simp_all
  · simp_all
  · rfl

/- %u reads back what %u printed, and stops there. -/
theorem unsigned_print (n : UInt32) (l : Text) (hl : ∀ c ∈ l.head?, c.isDigit = false) :
    unsigned (printUnsigned n ++ l) = some (n, l) := by
  have hds := printUnsigned_digits n
  have htake : (printUnsigned n ++ l).takeWhile Char.isDigit = printUnsigned n := by
    rw [List.takeWhile_append_of_pos hds]
    cases l with
    | nil => simp
    | cons c l => simp [hl c rfl]
  have hdrop : (printUnsigned n ++ l).dropWhile Char.isDigit = l := by
    rw [List.dropWhile_append_of_pos hds]
    cases l with
    | nil => simp
    | cons c l => simp [hl c rfl]
  have hlt : ¬ 2 ^ 64 ≤ n.toNat := by
    have := n.toNat_lt
    omega
  have hval : Nat.ofDigitChars 10 (printUnsigned n) 0 = n.toNat := Nat.ofDigitChars_ten_toDigits
  simp only [unsigned, skipSpace_digits, splitSign_digits, htake, hdrop, printUnsigned_ne_nil,
    hval, strtoul, hlt, if_false]
  simp

/-! ### Lines -/

/- What is printed line by line, each with its line feed. -/
def unlines (ls : List Text) : Text := ls.flatMap fun l => l ++ ['\n']

variable {p a b : Text} {c : Char}

theorem prefix_of_separated (hc : c ∉ p) (h : p <+: a ++ c :: b) : p <+: a := by
  induction a generalizing p with
  | nil =>
    cases p with
    | nil => exact List.nil_prefix
    | cons x p =>
      obtain ⟨rfl, -⟩ := List.cons_prefix_cons.1 h
      exact absurd List.mem_cons_self hc
  | cons y a ih =>
    cases p with
    | nil => exact List.nil_prefix
    | cons x p =>
      obtain ⟨rfl, hrest⟩ := List.cons_prefix_cons.1 h
      exact List.cons_prefix_cons.2 ⟨rfl, ih (fun hp => hc (List.mem_cons_of_mem x hp)) hrest⟩

theorem infix_of_separated (hc : c ∉ p) (h : p <:+: a ++ c :: b) : p <:+: a ∨ p <:+: b := by
  induction a with
  | nil =>
    rcases List.infix_cons_iff.1 h with h | h
    · exact .inl (prefix_of_separated hc h).isInfix
    · exact .inr h
  | cons y a ih =>
    rcases List.infix_cons_iff.1 h with h | h
    · exact .inl (prefix_of_separated hc h).isInfix
    · rcases ih h with h | h
      · exact .inl (List.infix_cons h)
      · exact .inr h

/- A pattern without a line feed is found within one of the lines. -/
theorem infix_unlines {ls : List Text} (hc : '\n' ∉ p) (hne : p ≠ []) (h : p <:+: unlines ls) :
    ∃ l ∈ ls, p <:+: l := by
  induction ls with
  | nil => exact absurd (List.infix_nil.1 h) hne
  | cons l ls ih =>
    have hsplit : unlines (l :: ls) = l ++ '\n' :: unlines ls := by simp [unlines]
    rw [hsplit] at h
    rcases infix_of_separated hc h with h | h
    · exact ⟨l, List.mem_cons_self, h⟩
    · obtain ⟨x, hx, hp⟩ := ih h
      exact ⟨x, List.mem_cons_of_mem l hx, hp⟩

end Scan
