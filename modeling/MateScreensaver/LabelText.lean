import MateScreensaver.Lib.Utf8
import MateScreensaver.AuthMessage

/-!
The texts of the labels in the unlock dialog (gs-lock-plug.c), with what they take from the
system put in. A pointer into a text is the bytes from there on, the NUL at its end
included; nothing after that can be read.
-/

namespace MateScreensaver
open Utf8

/- A text as the UTF-8 string that a label holds. -/
structure Template where
  chars : List Char
  noNul : '\x00' ∉ chars

def Template.bytes (t : Template) : Bytes := encode t.chars ++ [0]

/-! ### What GLib does with such a pointer -/

/- The result for bytes that are no character is undefined: none here. -/
def gUtf8GetChar (p : Bytes) : Option Char := decode p

def gUtf8NextChar : Bytes → Option Bytes
  | [] => none
  | b :: rest => some ((b :: rest).drop (skip b))

/- With -1 for the length. -/
def gUtf8Strlen : ℕ → Bytes → Option ℕ
  | 0, _ => none
  | fuel + 1, p => do
    let b ← p.head?
    if b = 0 then return 0
    else
      let p ← gUtf8NextChar p
      let len ← gUtf8Strlen fuel p
      return len + 1

/- What the system says of itself and of the user; none is NULL. -/
structure LabelEnv where
  display : Option Bytes
  hostName : Bytes
  machine : Bytes
  nodename : Bytes
  release : Bytes
  sysname : Bytes
  realName : Option Bytes
  userName : Option Bytes
  localeToUtf8 : Bytes → Option Bytes

namespace LabelEnv
variable (env : LabelEnv)

/- gs-lock-plug.c:1547 -/
def getUserDisplayName : Option Bytes :=
  let name :=
    if env.realName = none ∨ env.realName = some [] ∨ env.realName = some (encode "Unknown".toList) then
      env.userName
    else env.realName
  name.bind env.localeToUtf8

/- gs-lock-plug.c:1571 -/
def getUserName : Option Bytes := env.userName.bind env.localeToUtf8

/- g_string_append refuses NULL. -/
def gStringAppend (str : Bytes) (value : Option Bytes) : Bytes := str ++ value.getD []

/- What a backslash and the character after it become. -/
def backslash (str : Bytes) (ch : Char) : Bytes :=
  if ch = 'n' then str ++ encode ['\n'] else str ++ encode [ch]

/- The switch on the character after a percent sign, without its warnings. -/
def percent (str : Bytes) (ch : Char) : Bytes :=
  match ch with
  | '%' => gStringAppend str (some (encode ['%']))
  | 'c' => str
  | 'd' => gStringAppend str env.display
  | 'h' => gStringAppend str (some env.hostName)
  | 'm' => gStringAppend str (some env.machine)
  | 'n' => gStringAppend str (some env.nodename)
  | 'r' => gStringAppend str (some env.release)
  | 'R' => gStringAppend str env.getUserDisplayName
  | 's' => gStringAppend str (some env.sysname)
  | 'U' => gStringAppend str env.getUserName
  | _ => str

/- p and ch after the first character of an escape; without them the text is over. -/
def escaped (nChars : ℕ) (p : Bytes) (i : ℕ) : Option (Option (Bytes × Char)) := do
  let p ← gUtf8NextChar p
  let ch ← gUtf8GetChar p
  return if nChars ≤ i + 1 ∨ ch = '\x00' then none else some (p, ch)

/- The loop of gs-lock-plug.c:1625; no character is looked at twice, so that their number is
enough fuel. -/
def expandFrom (nChars : ℕ) : ℕ → Bytes → ℕ → Bytes → Option Bytes
  | 0, _, i, str => if i < nChars then none else some str
  | fuel + 1, p, i, str =>
    if i < nChars then do
      let ch ← gUtf8GetChar p
      if ch = '\\' then
        match ← escaped nChars p i with
        | none => return str
        | some (p, ch) => expandFrom nChars fuel (← gUtf8NextChar p) (i + 2) (backslash str ch)
      else if ch = '%' then
        match ← escaped nChars p i with
        | none => return str
        | some (p, ch) => expandFrom nChars fuel (← gUtf8NextChar p) (i + 2) (env.percent str ch)
      else expandFrom nChars fuel (← gUtf8NextChar p) (i + 1) (str ++ encode [ch])
    else some str

/- gs-lock-plug.c:1625 -/
def expandString (text : Bytes) : Option Bytes := do
  let nChars ← gUtf8Strlen text.length text
  env.expandFrom nChars nChars text 0 []

/-! ### What is meant -/

/- The codes that are known. -/
def codes : List (Char × Option Bytes) :=
  [('%', some (encode ['%'])), ('d', env.display), ('h', some env.hostName), ('m', some env.machine),
    ('n', some env.nodename), ('r', some env.release), ('R', env.getUserDisplayName),
    ('s', some env.sysname), ('U', env.getUserName)]

def value (c : Char) : Bytes := ((env.codes.lookup c).getD none).getD []

/-- Every escape stands for its value, and whatever else for itself. An escape that is not
finished ends the text. -/
def expansion : List Char → Bytes
  | [] => []
  | [c] => if c = '\\' ∨ c = '%' then [] else encode [c]
  | c :: d :: rest =>
    if c = '\\' then encode [if d = 'n' then '\n' else d] ++ expansion rest
    else if c = '%' then env.value d ++ expansion rest
    else encode [c] ++ expansion (d :: rest)

end LabelEnv

def doubled (cs : List Char) : List Char := cs.flatMap fun c => if c = '\\' ∨ c = '%' then [c, c] else [c]

theorem noNul_doubled {cs : List Char} (h : '\x00' ∉ cs) : '\x00' ∉ doubled cs := by
  intro hmem
  obtain ⟨c, hc, hin⟩ := List.mem_flatMap.1 hmem
  have heq : c = '\x00' := by
    split at hin <;> simp at hin <;> exact hin.symm
  exact h (heq ▸ hc)

def Template.doubled (t : Template) : Template := ⟨MateScreensaver.doubled t.chars, noNul_doubled t.noNul⟩

/-! ### Pointers into a text -/

theorem gUtf8GetChar_end : gUtf8GetChar (encode [] ++ [0]) = some '\x00' := decode_encode_cons_append '\x00' [] []

theorem gUtf8GetChar_cons (c : Char) (cs : List Char) : gUtf8GetChar (encode (c :: cs) ++ [0]) = some c :=
  decode_encode_cons_append c cs [0]

theorem head?_cons {c : Char} (h : c ≠ '\x00') (cs : List Char) :
    ∃ b, (encode (c :: cs) ++ [0]).head? = some b ∧ b ≠ 0 := by
  obtain ⟨b, rest, hchar, -⟩ := encodeChar_head c
  refine ⟨b, by rw [encode_cons, hchar]; rfl, ?_⟩
  rintro rfl
  exact h (zero_mem_encodeChar (hchar ▸ List.mem_cons_self))

theorem gUtf8NextChar_cons (c : Char) (cs : List Char) :
    gUtf8NextChar (encode (c :: cs) ++ [0]) = some (encode cs ++ [0]) := by
  obtain ⟨b, rest, hchar, hskip⟩ := encodeChar_head c
  have hcons : encode (c :: cs) ++ [0] = b :: (rest ++ (encode cs ++ [0])) := by
    rw [encode_cons, hchar, List.cons_append, List.cons_append, List.append_assoc]
  have hall : encode (c :: cs) ++ [0] = String.utf8EncodeChar c ++ (encode cs ++ [0]) := by
    rw [encode_cons, List.append_assoc]
  rw [hcons, gUtf8NextChar, ← hcons, hskip, hall, List.drop_left]

theorem gUtf8Strlen_encode {cs : List Char} (h : '\x00' ∉ cs) {fuel : ℕ} (hfuel : cs.length < fuel) :
    gUtf8Strlen fuel (encode cs ++ [0]) = some cs.length := by
  induction cs generalizing fuel with
  | nil =>
    obtain ⟨fuel, rfl⟩ : ∃ n, fuel = n + 1 := ⟨fuel - 1, by omega⟩
    rfl
  | cons c cs ih =>
    obtain ⟨fuel, rfl⟩ : ∃ n, fuel = n + 1 := ⟨fuel - 1, by omega⟩
    have hc : c ≠ '\x00' := fun heq => h (heq ▸ List.mem_cons_self)
    have hcs : '\x00' ∉ cs := fun hmem => h (List.mem_cons_of_mem c hmem)
    obtain ⟨b, hhead, hb⟩ := head?_cons hc cs
    rw [List.length_cons] at hfuel
    rw [gUtf8Strlen, hhead]
    simp only [Option.bind_eq_bind, Option.bind_some, if_neg hb, gUtf8NextChar_cons, ih hcs (by omega : cs.length < fuel)]
    rfl

namespace LabelEnv
variable (env : LabelEnv)

/- The two characters of an escape, or the text's end in its middle. -/
theorem escaped_nil (c : Char) {nChars i : ℕ} (h : i + 1 = nChars) :
    escaped nChars (encode [c] ++ [0]) i = some none := by
  rw [escaped, gUtf8NextChar_cons]
  simp only [Option.bind_eq_bind, Option.bind_some, gUtf8GetChar_end, if_pos (Or.inl h.ge : nChars ≤ i + 1 ∨ _)]
  rfl

theorem escaped_cons (c : Char) {d : Char} (hd : d ≠ '\x00') (cs : List Char) {nChars i : ℕ} (h : i + 1 < nChars) :
    escaped nChars (encode (c :: d :: cs) ++ [0]) i = some (some (encode (d :: cs) ++ [0], d)) := by
  have hmore : ¬ (nChars ≤ i + 1 ∨ d = '\x00') := by
    rintro (hle | heq)
    · omega
    · exact hd heq
  rw [escaped, gUtf8NextChar_cons]
  simp only [Option.bind_eq_bind, Option.bind_some, gUtf8GetChar_cons d, if_neg hmore]
  rfl

theorem backslash_eq (str : Bytes) (d : Char) : backslash str d = str ++ encode [if d = 'n' then '\n' else d] := by
  unfold backslash
  split <;> rfl

theorem value_unknown {d : Char} (h : ∀ p ∈ env.codes, d ≠ p.1) : env.value d = [] := by
  have hnone : env.codes.lookup d = none := List.lookup_eq_none_iff.2 fun p hp => by simpa using h p hp
  rw [value, hnone]
  rfl

theorem percent_eq (str : Bytes) (d : Char) : env.percent str d = str ++ env.value d := by
  unfold percent
  split
  case h_2 =>
    exact (List.append_nil str).symm
  case h_11 =>
    have hunknown : env.value d = [] := env.value_unknown (by simp_all [codes])
    rw [hunknown, List.append_nil]
  all_goals rfl

theorem expansion_plain {c : Char} (hback : c ≠ '\\') (hpercent : c ≠ '%') (cs : List Char) :
    env.expansion (c :: cs) = encode [c] ++ env.expansion cs := by
  cases cs with
  | nil =>
    have hplain : ¬ (c = '\\' ∨ c = '%') := fun h => h.elim hback hpercent
    simp only [expansion, if_neg hplain, List.append_nil]
  | cons d cs => simp only [expansion, if_neg hback, if_neg hpercent]

/- What is left of the text is what the loop has not read, and its counter is where it began. -/
theorem expandFrom_encode {fuel : ℕ} {cs : List Char} (hnul : '\x00' ∉ cs) (hfuel : cs.length ≤ fuel)
    {nChars i : ℕ} (hn : i + cs.length = nChars) (str : Bytes) :
    env.expandFrom nChars fuel (encode cs ++ [0]) i str = some (str ++ env.expansion cs) := by
  induction fuel generalizing cs i str with
  | zero =>
    obtain rfl : cs = [] := List.length_eq_zero_iff.1 (Nat.le_zero.1 hfuel)
    rw [expandFrom, if_neg (by simp at hn; omega), expansion, List.append_nil]
  | succ fuel ih =>
    cases cs with
    | nil => rw [expandFrom, if_neg (by simp at hn; omega), expansion, List.append_nil]
    | cons c cs =>
      have hcs : '\x00' ∉ cs := fun hmem => hnul (List.mem_cons_of_mem c hmem)
      rw [List.length_cons] at hn hfuel
      rw [expandFrom, if_pos (by omega), gUtf8GetChar_cons c]
      simp only [Option.bind_eq_bind, Option.bind_some]
      by_cases hescape : c = '\\' ∨ c = '%'
      · cases cs with
        | nil =>
          rw [escaped_nil c hn, expansion, if_pos hescape, List.append_nil]
          rcases hescape with rfl | rfl <;> rfl
        | cons d rest =>
          have hd : d ≠ '\x00' := fun heq => hcs (heq ▸ List.mem_cons_self)
          have hrest : '\x00' ∉ rest := fun hmem => hcs (List.mem_cons_of_mem d hmem)
          rw [List.length_cons] at hn hfuel
          have hnext (str : Bytes) : env.expandFrom nChars fuel (encode rest ++ [0]) (i + 2) str =
              some (str ++ env.expansion rest) := ih hrest (by omega) (by omega) str
          rw [escaped_cons c hd rest (by omega)]
          simp only [Option.bind_some, gUtf8NextChar_cons]
          rcases hescape with rfl | rfl
          · rw [if_pos rfl, hnext, backslash_eq, List.append_assoc]
            rfl
          · rw [if_neg (by decide), if_pos rfl, hnext, percent_eq, List.append_assoc]
            rfl
      · have hback : c ≠ '\\' := fun h => hescape (.inl h)
        have hpercent : c ≠ '%' := fun h => hescape (.inr h)
        rw [if_neg hback, if_neg hpercent, gUtf8NextChar_cons, Option.bind_some, ih hcs (by omega) (by omega),
          expansion_plain env hback hpercent, List.append_assoc]

theorem expandString_encode (cs : List Char) (hnul : '\x00' ∉ cs) :
    env.expandString (encode cs ++ [0]) = some (env.expansion cs) := by
  have hlength := length_le_encode cs
  rw [expandString, gUtf8Strlen_encode hnul (by rw [List.length_append, List.length_singleton]; omega)]
  exact env.expandFrom_encode hnul (Nat.le_refl _) (Nat.zero_add _) []

theorem expansion_doubled (cs : List Char) : env.expansion (doubled cs) = encode cs := by
  induction cs with
  | nil => rfl
  | cons c cs ih =>
    have hcons : doubled (c :: cs) = (if c = '\\' ∨ c = '%' then [c, c] else [c]) ++ doubled cs := rfl
    rw [hcons, encode_cons, ← encode_singleton, ← ih]
    by_cases hescape : c = '\\' ∨ c = '%'
    · rw [if_pos hescape]
      rcases hescape with rfl | rfl <;> rfl
    · have hback : c ≠ '\\' := fun h => hescape (.inl h)
      have hpercent : c ≠ '%' := fun h => hescape (.inr h)
      rw [if_neg hescape]
      exact env.expansion_plain hback hpercent _

/-- The label's text is the expansion of its template, and a template in which every
backslash and percent sign is doubled expands to what it was. Nothing after the NUL is
read. -/
theorem expandString_spec (t : Template) :
    env.expandString t.bytes = some (env.expansion t.chars) ∧
      env.expandString t.doubled.bytes = some (encode t.chars) := by
  constructor
  · exact env.expandString_encode t.chars t.noNul
  · rw [← env.expansion_doubled t.chars]
    exact env.expandString_encode _ t.doubled.noNul

end LabelEnv

end MateScreensaver
