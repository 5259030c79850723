import MateScreensaver.Lib.Scan

/-!
Numbers in C text: what strtoul and the %lx of scanf read, and that they read what %x and %X have
printed.
-/

namespace Numeral
open Scan

/- The value of a digit, for bases up to 36. -/
def digitValue (c : Char) : Option ℕ :=
  if '0' ≤ c ∧ c ≤ '9' then some (c.toNat - 48)
  else if 'a' ≤ c ∧ c ≤ 'z' then some (c.toNat - 87)
  else if 'A' ≤ c ∧ c ≤ 'Z' then some (c.toNat - 55)
  else none

def isDigitIn (base : ℕ) (c : Char) : Bool := (digitValue c).any (· < base)

/- The digits that a text begins with. -/
def digits (base : ℕ) (l : Text) : Text := l.takeWhile (isDigitIn base)

def value (base : ℕ) (ds : Text) : ℕ := ds.foldl (fun n c => n * base + (digitValue c).getD 0) 0

/- What comes after 0x, when it begins with a digit. -/
def hexPrefix : Text → Option Text
  | '0' :: x :: c :: l => if (x = 'x' ∨ x = 'X') ∧ isDigitIn 16 c then some (c :: l) else none
  | _ => none

/- The value, where the number ends, and whether it was out of range. -/
structure Read where
  value : ℕ
  rest : Text
  erange : Bool

/- The base and the digits that strtoul (.., 0) takes. -/
def based (l : Text) : ℕ × Text :=
  match hexPrefix l with
  | some l => (16, l)
  | none => (if l.head? = some '0' then 8 else 10, l)

/- strtoul (.., 0) with a long of 64 bits. -/
def strtoul (text : Text) : Read :=
  let signed := splitSign (skipSpace text)
  let b := based signed.2
  let ds := digits b.1 b.2
  if ds = [] then ⟨0, text, false⟩
  else ⟨Scan.strtoul signed.1 (value b.1 ds), b.2.drop ds.length, 2 ^ 64 ≤ value b.1 ds⟩

/- %lx of scanf. -/
def scanHex (text : Text) : Option (ℕ × Text) :=
  let signed := splitSign (skipSpace text)
  let l := (hexPrefix signed.2).getD signed.2
  let ds := digits 16 l
  if ds = [] then none else some (Scan.strtoul signed.1 (value 16 ds), l.drop ds.length)

/- %x and %X. -/
def printHex (n : ℕ) : Text := Nat.toDigits 16 n
def printHexUpper (n : ℕ) : Text := (Nat.toDigits 16 n).map Char.toUpper

/-! ### What is printed -/

variable {f : Char → Char} {l : Text} {c : Char}

/- The characters stand for the digits of base 16. -/
def Spells (f : Char → Char) : Prop := ∀ d, d < 16 → digitValue (f (Nat.digitChar d)) = some d

theorem spells_lower : Spells id := by
  unfold Spells
  decide

theorem spells_upper : Spells Char.toUpper := by
  unfold Spells
  decide

theorem spelled_digits (hf : Spells f) (n : ℕ) : ∀ c ∈ (Nat.toDigits 16 n).map f, ∃ d, d < 16 ∧ digitValue c = some d := by
  induction n using Nat.strong_induction_on with
  | h n ih =>
    intro c hc
    rw [Nat.toDigits_eq_if (by decide)] at hc
    split at hc
    · next hlt =>
      rw [List.map_singleton, List.mem_singleton] at hc
      exact ⟨n, hlt, hc ▸ hf n hlt⟩
    · next hge =>
      have hsmaller : n / 16 < n := Nat.div_lt_self (by omega) (by decide)
      have hlast : n % 16 < 16 := Nat.mod_lt _ (by decide)
      rw [List.map_append, List.mem_append] at hc
      cases hc with
      | inl hc => exact ih _ hsmaller c hc
      | inr hc =>
        rw [List.map_singleton, List.mem_singleton] at hc
        exact ⟨n % 16, hlast, hc ▸ hf _ hlast⟩

theorem value_append (base : ℕ) (ds : Text) (c : Char) :
    value base (ds ++ [c]) = value base ds * base + (digitValue c).getD 0 := by
  rw [value, List.foldl_append]
  rfl

theorem value_spelled (hf : Spells f) (n : ℕ) : value 16 ((Nat.toDigits 16 n).map f) = n := by
  induction n using Nat.strong_induction_on with
  | h n ih =>
    rw [Nat.toDigits_eq_if (by decide)]
    split
    · next hlt =>
      have hvalue : value 16 [f (Nat.digitChar n)] = 0 * 16 + (digitValue (f (Nat.digitChar n))).getD 0 := rfl
      rw [List.map_singleton, hvalue, hf n hlt, Option.getD_some]
      omega
    · next hge =>
      have hsmaller : n / 16 < n := Nat.div_lt_self (by omega) (by decide)
      have hlast : n % 16 < 16 := Nat.mod_lt _ (by decide)
      rw [List.map_append, List.map_singleton, value_append, ih _ hsmaller, hf _ hlast, Option.getD_some]
      omega

theorem spelled_ne_nil (n : ℕ) : (Nat.toDigits 16 n).map f ≠ [] := by
  intro h
  exact Nat.toDigits_ne_nil (List.map_eq_nil_iff.1 h)

theorem isDigitIn_spelled (hf : Spells f) (n : ℕ) (hc : c ∈ (Nat.toDigits 16 n).map f) : isDigitIn 16 c = true := by
  obtain ⟨d, hd, hvalue⟩ := spelled_digits hf n c hc
  rw [isDigitIn, hvalue, Option.any_some]
  exact decide_eq_true hd

/- The digits end where no digit follows. -/
theorem digits_spelled (hf : Spells f) (n : ℕ) (hl : ∀ c ∈ l.head?, digitValue c = none) :
    digits 16 ((Nat.toDigits 16 n).map f ++ l) = (Nat.toDigits 16 n).map f := by
  rw [digits, List.takeWhile_append_of_pos fun c hc => isDigitIn_spelled hf n hc]
  cases l with
  | nil => exact List.append_nil _
  | cons c l =>
    have hnot : ¬ isDigitIn 16 c = true := by
      rw [isDigitIn, hl c rfl]
      exact Bool.false_ne_true
    rw [List.takeWhile_cons_of_neg hnot, List.append_nil]

/- No x comes second. -/
theorem hexPrefix_spelled (hf : Spells f) (n : ℕ) (hl : ∀ c ∈ l.head?, digitValue c = none) :
    hexPrefix ((Nat.toDigits 16 n).map f ++ l) = none := by
  have hx : ∀ x, (∃ d, d < 16 ∧ digitValue x = some d) ∨ digitValue x = none → ¬ (x = 'x' ∨ x = 'X') := by
    intro x hx hor
    rcases hor with rfl | rfl
    · rcases hx with ⟨d, hd, hvalue⟩ | hnone
      · have h33 : digitValue 'x' = some 33 := by decide
        rw [h33] at hvalue
        cases hvalue
        omega
      · exact absurd hnone (by decide)
    · rcases hx with ⟨d, hd, hvalue⟩ | hnone
      · have h33 : digitValue 'X' = some 33 := by decide
        rw [h33] at hvalue
        cases hvalue
        omega
      · exact absurd hnone (by decide)
  have hdigits := spelled_digits hf n
  generalize (Nat.toDigits 16 n).map f = ds at hdigits
  unfold hexPrefix
  split
  · next x c rest heq =>
    apply if_neg
    intro h
    apply hx x _ h.1
    cases ds with
    | nil =>
      cases l with
      | nil => cases heq
      | cons c' l =>
        have hzero : c' = '0' := (List.cons.inj heq).1
        have hnone := hl c' rfl
        rw [hzero] at hnone
        exact absurd hnone (by decide)
    | cons c' ds =>
      have htail : ds ++ l = x :: c :: rest := (List.cons.inj heq).2
      cases ds with
      | nil =>
        apply Or.inr
        apply hl
        have hl' : l = x :: c :: rest := htail
        rw [hl']
        rfl
      | cons c'' ds =>
        have hsecond : c'' = x := (List.cons.inj htail).1
        exact .inl (hdigits x (hsecond ▸ List.mem_cons_of_mem _ List.mem_cons_self))
  · rfl

/- A number behind 0x. -/
theorem hexPrefix_printed (hf : Spells f) (n : ℕ) (l : Text) :
    hexPrefix ('0' :: 'x' :: ((Nat.toDigits 16 n).map f ++ l)) = some ((Nat.toDigits 16 n).map f ++ l) := by
  obtain ⟨c, ds, hds⟩ := List.exists_cons_of_ne_nil (spelled_ne_nil (f := f) n)
  have hdigit : isDigitIn 16 c = true := isDigitIn_spelled hf n (hds ▸ List.mem_cons_self)
  rw [hds, List.cons_append, hexPrefix]
  exact if_pos ⟨.inl rfl, hdigit⟩

theorem small (n : ℕ) (hn : n < 2 ^ 64) : Scan.strtoul false n = n := by
  rw [Scan.strtoul, if_neg (by omega)]
  rfl

/-- strtoul reads what was printed with 0x before it, up to what is no digit. -/
theorem strtoul_printed (hf : Spells f) {n : ℕ} (hn : n < 2 ^ 64) (hl : ∀ c ∈ l.head?, digitValue c = none) :
    strtoul ('0' :: 'x' :: ((Nat.toDigits 16 n).map f ++ l)) = ⟨n, l, false⟩ := by
  have hstart : splitSign (skipSpace ('0' :: 'x' :: ((Nat.toDigits 16 n).map f ++ l))) =
      (false, '0' :: 'x' :: ((Nat.toDigits 16 n).map f ++ l)) := rfl
  have hbased : based ('0' :: 'x' :: ((Nat.toDigits 16 n).map f ++ l)) = (16, (Nat.toDigits 16 n).map f ++ l) := by
    rw [based, hexPrefix_printed hf]
  have hsmall : ¬ 2 ^ 64 ≤ n := by omega
  rw [strtoul, hstart]
  dsimp only
  rw [hbased]
  dsimp only
  rw [digits_spelled hf n hl, if_neg (spelled_ne_nil n), value_spelled hf, small n hn, List.drop_left, decide_eq_false hsmall]

/-- %lx reads what %x has printed. -/
theorem scanHex_printed {n : ℕ} (hn : n < 2 ^ 64) (hl : ∀ c ∈ l.head?, digitValue c = none) :
    scanHex (printHex n ++ l) = some (n, l) := by
  have hprint : printHex n = (Nat.toDigits 16 n).map id := (List.map_id _).symm
  have hdigits := spelled_digits spells_lower n
  have hplain : ∀ c, (∃ d, d < 16 ∧ digitValue c = some d) → isSpace c = false ∧ c ≠ '+' ∧ c ≠ '-' := by
    intro c h
    obtain ⟨d, hd, hvalue⟩ := h
    refine ⟨?_, ?_, ?_⟩
    · by_contra hspace
      rw [Bool.not_eq_false, isSpace] at hspace
      have hlow : c.toNat ≤ 32 := by
        simp only [Bool.or_eq_true, beq_iff_eq, Bool.and_eq_true, decide_eq_true_eq] at hspace
        omega
      have hnone : digitValue c = none := by
        have hbelow : ∀ k : Char, 32 < k.toNat → ¬ k ≤ c := by
          intro k hk hle
          have : k.toNat ≤ c.toNat := hle
          omega
        rw [digitValue, if_neg fun h => hbelow _ (by decide) h.1, if_neg fun h => hbelow _ (by decide) h.1,
          if_neg fun h => hbelow _ (by decide) h.1]
      rw [hnone] at hvalue
      cases hvalue
    · rintro rfl
      exact absurd hvalue (by decide +revert)
    · rintro rfl
      exact absurd hvalue (by decide +revert)
  have hstart : splitSign (skipSpace (printHex n ++ l)) = (false, printHex n ++ l) := by
    rw [hprint]
    obtain ⟨c, ds, hds⟩ := List.exists_cons_of_ne_nil (spelled_ne_nil (f := id) n)
    obtain ⟨hspace, hplus, hminus⟩ := hplain c (hdigits c (hds ▸ List.mem_cons_self))
    rw [hds, List.cons_append, skipSpace, List.dropWhile_cons_of_neg (by rw [hspace]; exact Bool.false_ne_true)]
    unfold splitSign
    split
    · next h => exact absurd (List.cons.inj h).1 hplus
    · next h => exact absurd (List.cons.inj h).1 hminus
    · rfl
  rw [scanHex, hstart]
  dsimp only
  rw [hprint, hexPrefix_spelled spells_lower n hl, Option.getD_none, digits_spelled spells_lower n hl,
    if_neg (spelled_ne_nil n), value_spelled spells_lower, small n hn, List.drop_left]

end Numeral
