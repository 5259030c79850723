import MateScreensaver.Lib.Utf8
import MateScreensaver.AuthMessage

/-!
The text of a message of PAM that the locale does not explain (gs-auth-pam.c): its copy is
made valid in place, one byte after the other that g_utf8_validate stops at.
-/

namespace MateScreensaver
open Utf8

def questionMark : UInt8 := 63

/- g_utf8_validate with -1 for the length: whether the string is valid, and where the valid
bytes at its start end. -/
structure Validates (validate : Bytes → Bool × ℕ) : Prop where
  valid_iff : ∀ str, (0 : UInt8) ∉ str → ((validate str).1 = true ↔ Valid str)
  before : ∀ str, (0 : UInt8) ∉ str → (validate str).1 = false → Valid (str.take (validate str).2)

def gUtf8Validate (str : Bytes) : Bool × ℕ :=
  (validLength str.length str == str.length, validLength str.length str)

/- The loop of gs-auth-pam.c:265 with p and the buffer it writes to; none when it touches
what is not there, or does not end. -/
def repairFrom (validate : Bytes → Bool × ℕ) : ℕ → Bytes → ℕ → Option Bytes
  | 0, _, _ => none
  | fuel + 1, buffer, p => do
    let c ← buffer[p]?
    if c = 0 then return buffer
    else
      let q := p + (validate (cString (buffer.drop p))).2
      if (validate (cString (buffer.drop p))).1 then return buffer
      else if q < buffer.length then repairFrom validate fuel (buffer.set q questionMark) (q + 1)
      else none

/- On the copy that g_strdup makes. -/
def utf8Repair (validate : Bytes → Bool × ℕ) (msg : Bytes) : Option Bytes :=
  repairFrom validate ((cString msg).length + 1) (cString msg ++ [0]) 0

/-- As long as before, valid, and changed in question marks only, if it had to be. -/
structure Repaired (text : Bytes) (repaired : Bytes) : Prop where
  length_eq : repaired.length = text.length
  valid : Valid repaired
  changed : ∀ i : ℕ, repaired[i]? = text[i]? ∨ repaired[i]? = some questionMark
  unchanged : Valid text → repaired = text
  noNul : (0 : UInt8) ∉ text → (0 : UInt8) ∉ repaired

theorem validates_gUtf8Validate : Validates gUtf8Validate where
  valid_iff str _ := by rw [valid_iff_validLength, gUtf8Validate, beq_iff_eq]
  before str _ _ := valid_take_validLength str.length str

/-! ### One round of the loop -/

theorem valid_questionMark : Valid [questionMark] := ⟨['?'], by decide⟩

theorem repaired_refl {text : Bytes} (h : Valid text) : Repaired text text :=
  ⟨rfl, h, fun _ => .inl rfl, fun _ => rfl, id⟩

/- Valid bytes, one that is replaced, and what is repaired after it. -/
theorem Repaired.round {before after repaired : Bytes} {b : UInt8} (hbefore : Valid before)
    (hnot : ¬ Valid (before ++ b :: after)) (h : Repaired after repaired) :
    Repaired (before ++ b :: after) (before ++ questionMark :: repaired) where
  length_eq := by simp only [List.length_append, List.length_cons, h.length_eq]
  valid := hbefore.append (valid_questionMark.append h.valid)
  changed := by
    intro i
    rcases Nat.lt_trichotomy i before.length with hi | rfl | hi
    · left
      rw [List.getElem?_append_left hi, List.getElem?_append_left hi]
    · right
      rw [List.getElem?_append_right (Nat.le_refl _), Nat.sub_self]
      rfl
    · obtain ⟨k, rfl⟩ : ∃ k, i = before.length + (k + 1) := ⟨i - before.length - 1, by omega⟩
      rw [List.getElem?_append_right (by omega), List.getElem?_append_right (by omega), Nat.add_sub_cancel_left]
      exact h.changed k
  unchanged hvalid := absurd hvalid hnot
  noNul hnul := by
    simp only [List.mem_append, List.mem_cons, not_or] at hnul ⊢
    exact ⟨hnul.1, by decide, h.noNul hnul.2.2⟩

theorem cString_append_nul {text : Bytes} (h : (0 : UInt8) ∉ text) : cString (text ++ [0]) = text := by
  have hall : ∀ b ∈ text, decide (b ≠ 0) = true := fun b hb => decide_eq_true fun h0 => h (h0 ▸ hb)
  rw [cString, List.takeWhile_append_of_pos hall]
  exact List.append_nil text

variable {validate : Bytes → Bool × ℕ}

/- Where an invalid string is split. -/
theorem Validates.split (hv : Validates validate) {str : Bytes} (hnul : (0 : UInt8) ∉ str)
    (h : (validate str).1 = false) :
    ¬ Valid str ∧ ∃ before b after, str = before ++ b :: after ∧ before.length = (validate str).2 ∧ Valid before := by
  have hnot : ¬ Valid str := fun hvalid => by
    rw [(hv.valid_iff str hnul).2 hvalid] at h
    cases h
  have hbefore := hv.before str hnul h
  have hlt : (validate str).2 < str.length := by
    by_contra hle
    rw [List.take_of_length_le (by omega)] at hbefore
    exact hnot hbefore
  refine ⟨hnot, str.take (validate str).2, str[(validate str).2], str.drop ((validate str).2 + 1), ?_,
    List.length_take_of_le hlt.le, hbefore⟩
  rw [← List.drop_eq_getElem_cons hlt, List.take_append_drop]

/- What is before p is left alone, and what is after it is repaired. -/
theorem repairFrom_spec (hv : Validates validate) {fuel : ℕ} {rest : Bytes} (hfuel : rest.length < fuel)
    (hnul : (0 : UInt8) ∉ rest) (before : Bytes) :
    ∃ repaired, repairFrom validate fuel (before ++ (rest ++ [0])) before.length = some (before ++ (repaired ++ [0])) ∧
      Repaired rest repaired := by
  induction fuel generalizing rest before with
  | zero => omega
  | succ fuel ih =>
    have hread : (before ++ (rest ++ [0]))[before.length]? = (rest ++ [0]).head? := by
      rw [List.getElem?_append_right (Nat.le_refl _), Nat.sub_self, List.head?_eq_getElem?]
    cases rest with
    | nil =>
      refine ⟨[], ?_, repaired_refl valid_nil⟩
      rw [repairFrom, hread]
      rfl
    | cons c rest =>
      have hc : c ≠ 0 := fun h0 => hnul (h0 ▸ List.mem_cons_self)
      rw [repairFrom, hread]
      simp only [List.cons_append, List.head?_cons, Option.bind_eq_bind, Option.bind_some, if_neg hc]
      rw [← List.cons_append, List.drop_left, cString_append_nul hnul]
      cases hvalid : (validate (c :: rest)).1 with
      | true =>
        exact ⟨c :: rest, rfl, repaired_refl ((hv.valid_iff _ hnul).1 hvalid)⟩
      | false =>
        obtain ⟨hnot, valid, b, after, hsplit, hlen, hprefix⟩ := hv.split hnul hvalid
        rw [← hlen, hsplit]
        have hlength : rest.length + 1 = valid.length + (after.length + 1) := by
          rw [← List.length_cons (a := c), hsplit, List.length_append, List.length_cons]
        have hset : (before ++ (valid ++ b :: after ++ [0])).set (before.length + valid.length) questionMark =
            (before ++ valid ++ [questionMark]) ++ (after ++ [0]) := by
          rw [List.append_assoc, List.append_assoc before, List.set_append_right _ _ (by omega), Nat.add_sub_cancel_left,
            List.set_append_right _ _ (Nat.le_refl _), Nat.sub_self]
          simp
        have hq : before.length + valid.length < (before ++ (valid ++ b :: after ++ [0])).length := by
          simp only [List.length_append, List.length_cons]
          omega
        have hnul' : (0 : UInt8) ∉ after := fun hmem => hnul (hsplit ▸ by simp [hmem])
        rw [List.length_cons] at hfuel
        obtain ⟨repaired, hloop, hrep⟩ := ih (by omega) hnul' (before ++ valid ++ [questionMark])
        refine ⟨valid ++ questionMark :: repaired, ?_, Repaired.round hprefix (hsplit ▸ hnot) hrep⟩
        rw [if_neg (by decide), if_pos hq, hset]
        simp only [List.length_append, List.length_cons, List.length_nil] at hloop
        rw [hloop]
        simp

theorem utf8Repair_spec (hv : Validates validate) (msg : Bytes) :
    ∃ repaired, utf8Repair validate msg = some (repaired ++ [0]) ∧ Repaired (cString msg) repaired := by
  have hnul : (0 : UInt8) ∉ cString msg := fun hmem => by simpa using List.mem_takeWhile_imp hmem
  exact repairFrom_spec hv (Nat.lt_succ_self _) hnul []

theorem utf8Repair_spec_gUtf8Validate :
    ∃ repaired, utf8Repair gUtf8Validate [80, 0xC3, 58, 0xE2, 0x82] = some (repaired ++ [0]) ∧
      Repaired (cString [80, 0xC3, 58, 0xE2, 0x82]) repaired :=
  utf8Repair_spec validates_gUtf8Validate [80, 0xC3, 58, 0xE2, 0x82]

end MateScreensaver
