import Mathlib.Data.List.Basic

/-!
Texts as bytes: the encoding of characters, what is valid, and the character at the start of
some bytes.
-/

namespace Utf8

abbrev Octets := List UInt8

def encode (cs : List Char) : Octets := cs.flatMap String.utf8EncodeChar

def Valid (b : Octets) : Prop := ∃ cs, b = encode cs

/- The character whose encoding the bytes start with. -/
def decode (b : Octets) : Option Char := b.toByteArray.utf8DecodeChar? 0

/- How far the next character is, by the first byte of one. -/
def skip (b : UInt8) : ℕ :=
  if b < 0xC0 then 1
  else if b < 0xE0 then 2
  else if b < 0xF0 then 3
  else if b < 0xF8 then 4
  else if b < 0xFC then 5
  else if b < 0xFE then 6
  else 1

/- How much of some bytes is valid, character by character; no character is empty, so that
the number of bytes is enough fuel. -/
def validLength : ℕ → Octets → ℕ
  | 0, _ => 0
  | fuel + 1, b =>
    match decode b with
    | none => 0
    | some c => (String.utf8EncodeChar c).length + validLength fuel (b.drop (String.utf8EncodeChar c).length)

/-! The encoding of one text after the other -/

theorem encode_cons (c : Char) (cs : List Char) : encode (c :: cs) = String.utf8EncodeChar c ++ encode cs := rfl

theorem encode_singleton (c : Char) : encode [c] = String.utf8EncodeChar c := by
  simp [encode]

theorem encode_append (cs ds : List Char) : encode (cs ++ ds) = encode cs ++ encode ds := by
  simp [encode]

theorem length_encodeChar_pos (c : Char) : 0 < (String.utf8EncodeChar c).length := by
  rw [String.length_utf8EncodeChar]
  exact c.utf8Size_pos

theorem length_le_encode (cs : List Char) : cs.length ≤ (encode cs).length := by
  induction cs with
  | nil => exact Nat.le_refl 0
  | cons c cs ih =>
    have hpos := length_encodeChar_pos c
    rw [encode_cons, List.length_append, List.length_cons]
    omega

theorem valid_nil : Valid [] := ⟨[], rfl⟩

theorem valid_encode (cs : List Char) : Valid (encode cs) := ⟨cs, rfl⟩

theorem Valid.append {a b : Octets} (ha : Valid a) (hb : Valid b) : Valid (a ++ b) := by
  obtain ⟨cs, rfl⟩ := ha
  obtain ⟨ds, rfl⟩ := hb
  exact ⟨cs ++ ds, (encode_append cs ds).symm⟩

theorem toByteArray_inj {a b : Octets} (h : a.toByteArray = b.toByteArray) : a = b := by
  have harray : a.toArray = b.toArray := by
    simpa only [List.data_toByteArray] using congrArg ByteArray.data h
  exact Array.toList_inj.2 harray

/-! The first character of some bytes -/

theorem decode_encodeChar_append (c : Char) (rest : Octets) :
    decode (String.utf8EncodeChar c ++ rest) = some c := by
  rw [decode, List.toByteArray_append]
  exact ByteArray.utf8DecodeChar?_utf8EncodeChar_append

theorem decode_encode_cons_append (c : Char) (cs : List Char) (rest : Octets) :
    decode (encode (c :: cs) ++ rest) = some c := by
  rw [encode_cons, List.append_assoc]
  exact decode_encodeChar_append c _

theorem decode_eq_some {b : Octets} {c : Char} (h : decode b = some c) :
    ∃ rest, b = String.utf8EncodeChar c ++ rest := by
  obtain ⟨l, hl⟩ := ByteArray.exists_of_utf8DecodeChar?_eq_some h
  refine ⟨l.data.toList, toByteArray_inj (hl.trans ?_)⟩
  rw [List.toByteArray_append]
  congr 1
  exact ByteArray.ext (by simp [List.data_toByteArray])

theorem skip_ofNat {n : ℕ} (h : n < 256) :
    skip (UInt8.ofNat n) =
      if n < 0xC0 then 1 else if n < 0xE0 then 2 else if n < 0xF0 then 3
      else if n < 0xF8 then 4 else if n < 0xFC then 5 else if n < 0xFE then 6 else 1 := by
  have hlt : ∀ k : ℕ, k < 256 → (UInt8.ofNat n < UInt8.ofNat k ↔ n < k) := by
    intro k hk
    rw [UInt8.lt_iff_toNat_lt, UInt8.toNat_ofNat_of_lt' h, UInt8.toNat_ofNat_of_lt' hk]
  simp only [skip, ← hlt 0xC0 (by decide), ← hlt 0xE0 (by decide), ← hlt 0xF0 (by decide),
    ← hlt 0xF8 (by decide), ← hlt 0xFC (by decide), ← hlt 0xFE (by decide)]
  rfl

/- The first byte says how many there are. -/
theorem encodeChar_head (c : Char) :
    ∃ b rest, String.utf8EncodeChar c = b :: rest ∧ skip b = (String.utf8EncodeChar c).length := by
  fun_cases String.utf8EncodeChar with
  | case1 v h =>
    refine ⟨_, _, rfl, ?_⟩
    rw [skip_ofNat (by omega), if_pos (by omega)]
    rfl
  | case2 v h1 h2 =>
    refine ⟨_, _, rfl, ?_⟩
    rw [skip_ofNat (by omega), if_neg (by omega), if_pos (by omega)]
    rfl
  | case3 v h1 h2 h3 =>
    refine ⟨_, _, rfl, ?_⟩
    rw [skip_ofNat (by omega), if_neg (by omega), if_neg (by omega), if_pos (by omega)]
    rfl
  | case4 v h1 h2 h3 =>
    refine ⟨_, _, rfl, ?_⟩
    rw [skip_ofNat (by omega), if_neg (by omega), if_neg (by omega), if_neg (by omega), if_pos (by omega)]
    rfl

theorem zero_eq_ofNat {n : ℕ} (h : n < 256) : (0 : UInt8) = UInt8.ofNat n ↔ n = 0 := by
  constructor
  · intro heq
    have htoNat : (0 : UInt8).toNat = (UInt8.ofNat n).toNat := congrArg UInt8.toNat heq
    rw [UInt8.toNat_ofNat_of_lt' h] at htoNat
    exact htoNat.symm
  · rintro rfl
    rfl

/- No character but NUL has a byte of zero. -/
theorem zero_mem_encodeChar {c : Char} (h : (0 : UInt8) ∈ String.utf8EncodeChar c) : c = '\x00' := by
  revert h
  fun_cases String.utf8EncodeChar with
  | case1 v h =>
    intro hmem
    have hv : v = 0 := (zero_eq_ofNat (by omega)).1 (List.mem_singleton.1 hmem)
    exact Char.ext (UInt32.toNat_inj.1 hv)
  | case2 v h1 h2 =>
    intro hmem
    simp only [List.mem_cons, List.not_mem_nil, or_false] at hmem
    rcases hmem with hmem | hmem <;> have := (zero_eq_ofNat (by omega)).1 hmem <;> omega
  | case3 v h1 h2 h3 =>
    intro hmem
    simp only [List.mem_cons, List.not_mem_nil, or_false] at hmem
    rcases hmem with hmem | hmem | hmem <;> have := (zero_eq_ofNat (by omega)).1 hmem <;> omega
  | case4 v h1 h2 h3 =>
    intro hmem
    simp only [List.mem_cons, List.not_mem_nil, or_false] at hmem
    rcases hmem with hmem | hmem | hmem | hmem <;> have := (zero_eq_ofNat (by omega)).1 hmem <;> omega

/-! The valid bytes at the start -/

theorem validLength_encodeChar_append (fuel : ℕ) (c : Char) (rest : Octets) :
    validLength (fuel + 1) (String.utf8EncodeChar c ++ rest) =
      (String.utf8EncodeChar c).length + validLength fuel rest := by
  rw [validLength, decode_encodeChar_append]
  dsimp only
  rw [List.drop_left]

theorem valid_take_validLength (fuel : ℕ) (b : Octets) : Valid (b.take (validLength fuel b)) := by
  induction fuel generalizing b with
  | zero => exact valid_nil
  | succ fuel ih =>
    cases hdec : decode b with
    | none =>
      rw [validLength, hdec]
      exact valid_nil
    | some c =>
      obtain ⟨rest, rfl⟩ := decode_eq_some hdec
      rw [validLength_encodeChar_append, List.take_length_add_append, ← encode_singleton]
      exact (valid_encode [c]).append (ih rest)

theorem validLength_encode {fuel : ℕ} {cs : List Char} (h : (encode cs).length ≤ fuel) :
    validLength fuel (encode cs) = (encode cs).length := by
  induction cs generalizing fuel with
  | nil => cases fuel <;> rfl
  | cons c cs ih =>
    rw [encode_cons, List.length_append] at h ⊢
    have hpos := length_encodeChar_pos c
    obtain ⟨fuel, rfl⟩ : ∃ n, fuel = n + 1 := ⟨fuel - 1, by omega⟩
    rw [validLength_encodeChar_append, ih (by omega)]

theorem valid_iff_validLength (b : Octets) : Valid b ↔ validLength b.length b = b.length := by
  constructor
  · rintro ⟨cs, rfl⟩
    exact validLength_encode (Nat.le_refl _)
  · intro h
    have hvalid := valid_take_validLength b.length b
    rwa [h, List.take_length] at hvalid

end Utf8
