import Mathlib.Data.List.DropRight
import Mathlib.Data.List.Chain
import Mathlib.Data.Nat.Notation
import MateScreensaver.AuthMessage

/-!
Reading the URIs that are dropped on the preferences window (mate-screensaver-preferences.c),
with positions in a text that ends with a NUL. No byte after that can be read.
-/

namespace MateScreensaver

structure UriText where
  bytes : Bytes
  noNul : (0 : UInt8) ∉ bytes

def lf : UInt8 := 10
def cr : UInt8 := 13
def hash : UInt8 := 35

/- g_ascii_isspace, which leaves out the vertical tab. -/
def gAsciiIsspace (b : UInt8) : Bool := b == 32 || b == 9 || b == 10 || b == 12 || b == 13

namespace UriText

def read (t : UriText) (p : ℕ) : Option UInt8 := (t.bytes ++ [0])[p]?

/- A loop that moves a pointer on; none when it reads what is not there, or does not end. -/
def scanWhile (t : UriText) (more : UInt8 → Bool) : ℕ → ℕ → Option ℕ
  | 0, _ => none
  | fuel + 1, p => do
    let c ← t.read p
    if more c then t.scanWhile more fuel (p + 1) else return p

def skipSpace (t : UriText) (p : ℕ) : Option ℕ := t.scanWhile gAsciiIsspace (t.bytes.length + 1) p

def findEnd (t : UriText) (p : ℕ) : Option ℕ :=
  t.scanWhile (fun b => b ≠ 0 && b ≠ lf && b ≠ cr) (t.bytes.length + 1) p

/- strchr (p, '\n') -/
def strchrLf (t : UriText) (p : ℕ) : Option (Option ℕ) := do
  let p ← t.scanWhile (fun b => b ≠ 0 && b ≠ lf) (t.bytes.length + 1) p
  let c ← t.read p
  return if c = lf then some p else none

/- The loop that moves q back to p at most. -/
def trimEnd (t : UriText) (p : ℕ) : ℕ → Option ℕ
  | 0 => some 0
  | q + 1 =>
    if p < q + 1 then do
      let c ← t.read (q + 1)
      if gAsciiIsspace c then t.trimEnd p q else return q + 1
    else some (q + 1)

/- strncpy, up to the NUL that is put after it. -/
def strncpy (t : UriText) : ℕ → ℕ → Option Bytes
  | _, 0 => some []
  | p, n + 1 => do
    let c ← t.read p
    if c = 0 then return [] else (t.strncpy (p + 1) n).map (c :: ·)

/- What is done with a line that is no comment: where p is then, and the URI of the file. -/
def takeLine (t : UriText) (p : ℕ) : Option (ℕ × Option Bytes) := do
  let p ← t.skipSpace p
  let q ← t.findEnd p
  if p < q then
    let q ← t.trimEnd p (q - 1)
    let retval ← t.strncpy p (q - p + 1)
    return (p, some retval)
  else return (p, none)

/- The loop of mate-screensaver-preferences.c:881. A file is its URI: g_file_new_for_uri
gives a file for whatever it is. -/
def parseFrom (t : UriText) : ℕ → ℕ → List Bytes → Option (List Bytes)
  | 0, _, _ => none
  | fuel + 1, p, result => do
    let c ← t.read p
    let (p, file) ← if c ≠ hash then t.takeLine p else some (p, none)
    let result := file.toList ++ result
    let next ← t.strchrLf p
    next.elim (some result.reverse) fun p => t.parseFrom fuel (p + 1) result

/- mate-screensaver-preferences.c:881 -/
def uriListParse (t : UriText) : Option (List Bytes) := t.parseFrom (t.bytes.length + 1) 0 []

end UriText

/-! ### What is meant -/

def isComment (line : Bytes) : Bool := line.head? == some hash

def isBlank (line : Bytes) : Bool := line.all gAsciiIsspace

/- Without white space at its ends; a CR ends it. -/
def uriOf (line : Bytes) : Bytes :=
  ((line.dropWhile gAsciiIsspace).takeWhile (· ≠ cr)).rdropWhile gAsciiIsspace

/-- One file for each line that is no comment and not blank, in order. -/
def expectedUris (text : Bytes) : List Bytes :=
  ((text.splitOn lf).filter fun line => !isComment line && !isBlank line).map uriOf

/-- No comment line comes right after a blank one. -/
def NoCommentAfterBlank (text : Bytes) : Prop :=
  (text.splitOn lf).IsChain fun line next => isBlank line = true → isComment next = false

/- What the code makes of the lines: white space is skipped to the end of the line and on into
the next, which is then not asked whether it is a comment. -/
def urisOf (skipped : Bool) : List Bytes → List Bytes
  | [] => []
  | line :: rest =>
    if isComment line && !skipped then urisOf false rest
    else if isBlank line then urisOf true rest
    else uriOf line :: urisOf false rest

/-! ### Lines -/

theorem isSpace_ne_hash {b : UInt8} (h : gAsciiIsspace b = true) : b ≠ hash := by
  rintro rfl
  cases h

theorem not_isSpace {b : UInt8} (h : gAsciiIsspace b = false) : b ≠ lf ∧ b ≠ cr := by
  constructor <;> (rintro rfl; cases h)

theorem not_comment_of_blank {line : Bytes} (h : isBlank line = true) : isComment line = false := by
  cases line with
  | nil => rfl
  | cons b line =>
    simp only [isBlank, List.all_cons, Bool.and_eq_true] at h
    simpa [isComment] using isSpace_ne_hash h.1

/- Every line that is meant is taken, and maybe more. -/
theorem expected_length_le (skipped : Bool) (lines : List Bytes) :
    (lines.filter fun line => !isComment line && !isBlank line).length ≤ (urisOf skipped lines).length := by
  induction lines generalizing skipped with
  | nil => exact Nat.zero_le _
  | cons line rest ih =>
    rw [urisOf, List.filter_cons]
    cases hcomment : isComment line with
    | true =>
      cases hblank : isBlank line with
      | true => simp [not_comment_of_blank hblank] at hcomment
      | false =>
        cases skipped with
        | true => simpa using Nat.le_succ_of_le (ih false)
        | false => simpa using ih false
    | false =>
      cases hblank : isBlank line with
      | true => simpa using ih true
      | false => simpa using ih false

/- Just what is meant is taken when no comment follows a blank line, nor is the first line one
that is reached by skipping. -/
theorem urisOf_eq_iff (skipped : Bool) (lines : List Bytes) :
    urisOf skipped lines = (lines.filter fun line => !isComment line && !isBlank line).map uriOf ↔
      (skipped = true → ∀ line ∈ lines.head?, isComment line = false) ∧
        lines.IsChain fun line next => isBlank line = true → isComment next = false := by
  induction lines generalizing skipped with
  | nil => simp [urisOf]
  | cons line rest ih =>
    rw [urisOf, List.filter_cons, List.isChain_cons]
    cases hcomment : isComment line with
    | true =>
      have hblank : isBlank line = false := by
        by_contra h
        simp [not_comment_of_blank (by simpa using h)] at hcomment
      cases skipped with
      | false => simp [hblank, ih]
      | true =>
        -- the comment is one file too many
        have hle := expected_length_le false rest
        simp only [hblank, Bool.not_true, Bool.and_false, Bool.false_and, Bool.false_eq_true, if_false]
        refine iff_of_false (fun h => ?_) (by simp [hcomment])
        have hlen := congrArg List.length h
        simp only [List.length_cons, List.length_map] at hlen
        omega
    | false =>
      cases hblank : isBlank line with
      | true => simp [ih, hcomment]
      | false => simp [ih, hcomment]

/- The first line of a text ends before the first LF. -/
theorem splitOn_first (r : Bytes) : r.splitOn lf = r.takeWhile (· ≠ lf) :: (r.splitOn lf).tail := by
  induction r with
  | nil => rfl
  | cons b r ih =>
    rw [List.splitOn_cons_eq_if_modifyHead]
    by_cases hb : b = lf
    · simp [hb]
    · rw [ih]
      simp [hb]

theorem isComment_first (r : Bytes) : isComment (r.takeWhile (· ≠ lf)) = isComment r := by
  cases r with
  | nil => rfl
  | cons b r =>
    by_cases hb : b = lf
    · subst hb
      rfl
    · simp [isComment, hb]

theorem rdropWhile_cons {b : UInt8} (h : gAsciiIsspace b = false) (w : Bytes) :
    (b :: w).rdropWhile gAsciiIsspace = b :: w.rdropWhile gAsciiIsspace := by
  induction w using List.reverseRecOn with
  | nil => simp [List.rdropWhile, h]
  | append_singleton w c ih =>
    rw [← List.cons_append, List.rdropWhile_concat, List.rdropWhile_concat, ih]
    split <;> rfl

/- The URI of a first line that begins with other than white space. -/
theorem uriOf_first {b : UInt8} (h : gAsciiIsspace b = false) (s : Bytes) :
    uriOf ((b :: s).takeWhile (· ≠ lf)) = b :: (s.takeWhile fun b => b ≠ lf && b ≠ cr).rdropWhile gAsciiIsspace := by
  have hb := not_isSpace h
  have hboth : (s.takeWhile (· ≠ lf)).takeWhile (· ≠ cr) = s.takeWhile fun b => b ≠ lf && b ≠ cr := by
    rw [List.takeWhile_takeWhile]
    congr 1
    funext c
    by_cases hlf : c = lf <;> by_cases hcr : c = cr <;> simp [hlf, hcr]
  rw [List.takeWhile_cons, if_pos (by simpa using hb.1), uriOf, List.dropWhile_cons, if_neg (by simp [h]),
    List.takeWhile_cons, if_pos (by simpa using hb.2), hboth, rdropWhile_cons h]

/- White space before a line is not of the line, nor are blank lines. -/
theorem urisOf_skip {b : UInt8} (h : gAsciiIsspace b = true) (r : Bytes) :
    urisOf true ((b :: r).splitOn lf) = urisOf true (r.splitOn lf) := by
  rw [List.splitOn_cons_eq_if_modifyHead]
  split
  · simp [urisOf, isComment, isBlank]
  · cases hlines : r.splitOn lf with
    | nil => exact absurd hlines (List.splitOn_ne_nil lf r)
    | cons line rest => simp [urisOf, isBlank, uriOf, h]

theorem urisOf_dropWhile (r : Bytes) :
    urisOf true (r.splitOn lf) = urisOf true ((r.dropWhile gAsciiIsspace).splitOn lf) := by
  induction r with
  | nil => rfl
  | cons b r ih =>
    cases hb : gAsciiIsspace b with
    | true => rw [urisOf_skip hb, ih, List.dropWhile_cons, if_pos hb]
    | false => simp [hb]

theorem urisOf_comment {line : Bytes} (h : isComment line = true) (rest : List Bytes) :
    urisOf false (line :: rest) = urisOf false rest := by
  simp [urisOf, h]

/- A line that is no comment may be reached in either way. -/
theorem urisOf_line {line : Bytes} (h : isComment line = false) (rest : List Bytes) :
    urisOf false (line :: rest) = urisOf true (line :: rest) := by
  simp [urisOf, h]

theorem urisOf_taken {line : Bytes} (h : isBlank line = false) (rest : List Bytes) :
    urisOf true (line :: rest) = uriOf line :: urisOf false rest := by
  simp [urisOf, h]

theorem not_blank_first {b : UInt8} (h : gAsciiIsspace b = false) (s : Bytes) :
    isBlank ((b :: s).takeWhile (· ≠ lf)) = false := by
  simp [isBlank, (not_isSpace h).1, h]

/-! ### Pointers -/

namespace UriText
variable {t : UriText} {p : ℕ} {r : Bytes}

/- What there is from the pointer on, before the NUL. -/
def From (t : UriText) (p : ℕ) (r : Bytes) : Prop := t.bytes.drop p = r ∧ p + r.length = t.bytes.length

theorem From.drop {w : Bytes} (h : t.From p (w ++ r)) : t.From (p + w.length) r := by
  obtain ⟨hdrop, hlen⟩ := h
  refine ⟨?_, by rw [← hlen, List.length_append]; omega⟩
  rw [← List.drop_drop, hdrop, List.drop_left]

theorem From.next {b : UInt8} (h : t.From p (b :: r)) : t.From (p + 1) r := h.drop (w := [b])

theorem From.read_nil (h : t.From p []) : t.read p = some 0 := by
  obtain ⟨-, hlen⟩ := h
  rw [List.length_nil, Nat.add_zero] at hlen
  rw [read, hlen, List.getElem?_append_right (Nat.le_refl _), Nat.sub_self]
  rfl

theorem From.read_cons {b : UInt8} (h : t.From p (b :: r)) : t.read p = some b := by
  obtain ⟨hdrop, hlen⟩ := h
  have hlt : p < t.bytes.length := by rw [← hlen, List.length_cons]; omega
  rw [read, List.getElem?_append_left hlt]
  have hget : (t.bytes.drop p)[0]? = some b := by rw [hdrop]; rfl
  simpa using hget

theorem From.noNul (h : t.From p r) : (0 : UInt8) ∉ r := by
  obtain ⟨rfl, -⟩ := h
  exact fun h => t.noNul (List.mem_of_mem_drop h)

theorem From.length_lt (h : t.From p r) : r.length < t.bytes.length + 1 := by
  have hlen := h.2
  omega

/- A loop that does not go on at the NUL ends, and reads nothing after that. -/
theorem scanWhile_eq {more : UInt8 → Bool} (hzero : more 0 = false) {fuel : ℕ} (h : t.From p r)
    (hfuel : r.length < fuel) : t.scanWhile more fuel p = some (p + (r.takeWhile more).length) := by
  induction r generalizing fuel p with
  | nil =>
    obtain ⟨fuel, rfl⟩ := Nat.exists_eq_succ_of_ne_zero (Nat.ne_of_gt hfuel)
    simp [scanWhile, h.read_nil, hzero]
  | cons b r ih =>
    obtain ⟨fuel, rfl⟩ := Nat.exists_eq_succ_of_ne_zero (Nat.ne_of_gt (Nat.zero_lt_of_lt hfuel))
    have hrest := ih h.next (Nat.lt_of_succ_lt_succ hfuel)
    cases hb : more b with
    | false => simp [scanWhile, h.read_cons, hb]
    | true =>
      rw [scanWhile, h.read_cons]
      simp only [hb, Option.bind_eq_bind, Option.bind_some, if_true, hrest, List.takeWhile_cons, List.length_cons]
      congr 1
      omega

theorem skipSpace_eq (h : t.From p r) : t.skipSpace p = some (p + (r.takeWhile gAsciiIsspace).length) :=
  scanWhile_eq rfl h h.length_lt

/- In a text without a NUL the end of a line is its LF, or a CR. -/
theorem takeWhile_ne_zero {more : UInt8 → Bool} (h : (0 : UInt8) ∉ r) :
    r.takeWhile (fun b => b ≠ 0 && more b) = r.takeWhile more := by
  induction r with
  | nil => rfl
  | cons b r ih =>
    have hb : b ≠ 0 := fun hb => h (hb ▸ List.mem_cons_self)
    have htail := ih fun hmem => h (List.mem_cons_of_mem _ hmem)
    rw [List.takeWhile_cons, List.takeWhile_cons, htail, decide_eq_true hb, Bool.true_and]

theorem findEnd_eq (h : t.From p r) :
    t.findEnd p = some (p + (r.takeWhile fun b => b ≠ lf && b ≠ cr).length) := by
  have hscan := @scanWhile_eq t p r (fun b => b ≠ 0 && (b ≠ lf && b ≠ cr)) rfl _ h h.length_lt
  rw [takeWhile_ne_zero h.noNul] at hscan
  simpa [findEnd, Bool.and_assoc] using hscan

theorem takeWhile_all {more : UInt8 → Bool} {w rest : Bytes} (hw : ∀ b ∈ w, more b = true)
    (hrest : ∀ b ∈ rest.head?, more b = false) : (w ++ rest).takeWhile more = w := by
  rw [List.takeWhile_append_of_pos hw]
  cases rest with
  | nil => simp
  | cons b rest => simp [hrest b rfl]

/- The text has no LF from here on. -/
theorem strchrLf_none (h : t.From p r) (hlf : lf ∉ r) : t.strchrLf p = some none := by
  have htake : r.takeWhile (fun b => b ≠ 0 && b ≠ lf) = r := by
    rw [takeWhile_ne_zero h.noNul, List.takeWhile_eq_self_iff]
    exact fun b hb => by simpa using fun heq : b = lf => hlf (heq ▸ hb)
  have hend : t.From (p + r.length) [] := From.drop (by simpa using h)
  rw [strchrLf, scanWhile_eq (by decide) h h.length_lt, htake]
  simp [hend.read_nil, show (0 : UInt8) ≠ lf by decide]

/- It goes to the first LF. -/
theorem strchrLf_some {w : Bytes} (h : t.From p (w ++ lf :: r)) (hlf : lf ∉ w) :
    t.strchrLf p = some (some (p + w.length)) := by
  have htake : (w ++ lf :: r).takeWhile (fun b => b ≠ 0 && b ≠ lf) = w := by
    rw [takeWhile_ne_zero h.noNul]
    exact takeWhile_all (fun b hb => by simpa using fun heq : b = lf => hlf (heq ▸ hb)) (by simp)
  rw [strchrLf, scanWhile_eq (by decide) h h.length_lt, htake]
  simp [h.drop.read_cons]

/- Going back over white space stops at what is left of the line without it. -/
theorem trimEnd_eq {b : UInt8} {w rest : Bytes} (h : t.From p (b :: w ++ rest)) :
    t.trimEnd p (p + w.length) = some (p + (w.rdropWhile gAsciiIsspace).length) := by
  induction w using List.reverseRecOn generalizing rest with
  | nil => cases p <;> simp [trimEnd]
  | append_singleton w c ih =>
    have hc : t.From (p + (w.length + 1)) (c :: rest) := From.drop (w := b :: w) (by simpa using h)
    have hback : t.trimEnd p (p + w.length) = some (p + (w.rdropWhile gAsciiIsspace).length) :=
      @ih (c :: rest) (by simpa using h)
    rw [List.length_append, List.length_singleton, List.rdropWhile_concat, ← Nat.add_assoc, trimEnd,
      if_pos (by omega)]
    rw [← Nat.add_assoc] at hc
    cases hspace : gAsciiIsspace c with
    | true => simp [hc.read_cons, hspace, hback]
    | false =>
      rw [hc.read_cons]
      simp [hspace, Nat.add_assoc]

theorem strncpy_eq {w : Bytes} (h : t.From p (w ++ r)) : t.strncpy p w.length = some w := by
  induction w generalizing p with
  | nil => rfl
  | cons b w ih =>
    have hb : b ≠ 0 := fun hb => h.noNul (hb ▸ by simp)
    rw [List.length_cons, strncpy, (From.read_cons (r := w ++ r) (by simpa using h))]
    simp [hb, ih (From.next (b := b) (by simpa using h))]

/- A line that is no comment, from its first byte that is not white space. -/
theorem takeLine_eq {b : UInt8} {s : Bytes} (h : t.From p r) (hs : r.dropWhile gAsciiIsspace = b :: s) :
    ∃ p', t.From p' (b :: s) ∧ t.takeLine p =
      some (p', some (b :: (s.takeWhile fun b => b ≠ lf && b ≠ cr).rdropWhile gAsciiIsspace)) := by
  have hspace : gAsciiIsspace b = false := by
    have hhead := List.head?_dropWhile_not gAsciiIsspace r
    rw [hs] at hhead
    simpa using hhead
  have hp' : t.From (p + (r.takeWhile gAsciiIsspace).length) (b :: s) := by
    refine From.drop ?_
    rwa [← hs, List.takeWhile_append_dropWhile]
  refine ⟨_, hp', ?_⟩
  have hskip := skipSpace_eq h
  generalize p + (r.takeWhile gAsciiIsspace).length = p' at hp' hskip ⊢
  have hline : (b :: s).takeWhile (fun b => b ≠ lf && b ≠ cr) = b :: s.takeWhile fun b => b ≠ lf && b ≠ cr := by
    simp [not_isSpace hspace]
  generalize hw : s.takeWhile (fun b => b ≠ lf && b ≠ cr) = w at hline ⊢
  have hbw : t.From p' (b :: w ++ s.dropWhile fun b => b ≠ lf && b ≠ cr) := by
    rwa [← hw, List.cons_append, List.takeWhile_append_dropWhile]
  obtain ⟨cut, hcut⟩ := List.rdropWhile_prefix (p := gAsciiIsspace) (l := w)
  have hcopy := strncpy_eq (w := b :: w.rdropWhile gAsciiIsspace) (t := t) (p := p')
    (r := cut ++ s.dropWhile fun b => b ≠ lf && b ≠ cr) (by rwa [List.cons_append, ← List.append_assoc, hcut])
  have hend : t.findEnd p' = some (p' + (w.length + 1)) := by rw [findEnd_eq hp', hline, List.length_cons]
  have htrim : t.trimEnd p' (p' + (w.length + 1) - 1) = some (p' + (w.rdropWhile gAsciiIsspace).length) := trimEnd_eq hbw
  have hlen : p' + (w.rdropWhile gAsciiIsspace).length - p' + 1 = (b :: w.rdropWhile gAsciiIsspace).length := by
    rw [List.length_cons]
    omega
  rw [takeLine, hskip]
  simp only [Option.bind_eq_bind, Option.bind_some, hend]
  rw [if_pos (by omega), htrim]
  simp only [Option.bind_some, hlen, hcopy]
  rfl


/- Nothing but white space is left. -/
theorem takeLine_nil (h : t.From p r) (hs : r.dropWhile gAsciiIsspace = []) :
    ∃ p', t.From p' [] ∧ t.takeLine p = some (p', none) := by
  have hp' : t.From (p + (r.takeWhile gAsciiIsspace).length) [] := by
    refine From.drop ?_
    rwa [← hs, List.takeWhile_append_dropWhile]
  refine ⟨_, hp', ?_⟩
  rw [takeLine, skipSpace_eq h]
  simp [findEnd_eq hp']

/- The rest of the loop, from a pointer into a line: the lines after that one. -/
theorem parseNext_eq {fuel : ℕ} {result : List Bytes} (h : t.From p r)
    (ih : ∀ {p r}, t.From p r → r.length < fuel →
      t.parseFrom fuel p result = some (result.reverse ++ urisOf false (r.splitOn lf)))
    (hfuel : r.length < fuel + 1) :
    ((t.strchrLf p).bind fun next => next.elim (some result.reverse) fun p => t.parseFrom fuel (p + 1) result) =
      some (result.reverse ++ urisOf false (r.splitOn lf).tail) := by
  by_cases hlf : lf ∈ r
  · obtain ⟨w, rest, rfl, hw⟩ := List.eq_append_cons_of_mem hlf
    have hrest : t.From (p + w.length + 1) rest := h.drop.next
    have hlen : rest.length < fuel := by
      rw [List.length_append, List.length_cons] at hfuel
      omega
    rw [strchrLf_some h hw, List.splitOn_append_cons_self_of_not_mem hw]
    simpa using ih hrest hlen
  · rw [strchrLf_none h hlf, List.splitOn_eq_singleton hlf]
    simp [urisOf]

/- From the start of a line on, the rest of the text gives the files of its lines. -/
theorem parseFrom_eq {fuel : ℕ} (h : t.From p r) (hfuel : r.length < fuel) (result : List Bytes) :
    t.parseFrom fuel p result = some (result.reverse ++ urisOf false (r.splitOn lf)) := by
  induction fuel generalizing p r result with
  | zero => exact absurd hfuel (Nat.not_lt_zero _)
  | succ fuel ih =>
    have hread : ∃ c, t.read p = some c ∧ (c = hash ↔ isComment r = true) := by
      cases r with
      | nil => exact ⟨0, h.read_nil, by decide⟩
      | cons b r => exact ⟨b, h.read_cons, by simp [isComment]⟩
    obtain ⟨c, hc, hcomment⟩ := hread
    rw [parseFrom, hc, splitOn_first r]
    simp only [Option.bind_eq_bind, Option.bind_some]
    by_cases hhash : c = hash
    · have hfirst : isComment (r.takeWhile (· ≠ lf)) = true := by rw [isComment_first, ← hcomment, hhash]
      rw [if_neg (not_not_intro hhash), urisOf_comment hfirst]
      exact parseNext_eq h (fun hr hlen => ih hr hlen result) hfuel
    · have hfirst : isComment (r.takeWhile (· ≠ lf)) = false := by
        rw [isComment_first]
        simpa [hcomment] using hhash
      rw [if_pos hhash, urisOf_line hfirst, ← splitOn_first, urisOf_dropWhile]
      cases hs : r.dropWhile gAsciiIsspace with
      | nil =>
        obtain ⟨p', hp', hline⟩ := takeLine_nil h hs
        rw [hline]
        exact parseNext_eq hp' (fun hr hlen => ih hr hlen result) (Nat.succ_pos fuel)
      | cons b s =>
        obtain ⟨p', hp', hline⟩ := takeLine_eq h hs
        have hspace : gAsciiIsspace b = false := by
          have hhead := List.head?_dropWhile_not gAsciiIsspace r
          rw [hs] at hhead
          simpa using hhead
        have hlen : (b :: s).length < fuel + 1 := by
          have hle := (List.dropWhile_suffix gAsciiIsspace (l := r)).length_le
          rw [hs] at hle
          omega
        rw [hline, splitOn_first, urisOf_taken (not_blank_first hspace s), uriOf_first hspace]
        generalize b :: (s.takeWhile fun b => b ≠ lf && b ≠ cr).rdropWhile gAsciiIsspace = file
        have hnext := parseNext_eq hp' (fun hr hlen => ih hr hlen (file :: result)) hlen
        refine hnext.trans ?_
        rw [List.reverse_cons, List.append_assoc, List.singleton_append]

end UriText

open UriText

/- Of every text the loop comes to its end, and reads no byte after the NUL. -/
theorem uriListParse_eq (t : UriText) : t.uriListParse = some (urisOf false (t.bytes.splitOn lf)) :=
  parseFrom_eq (t := t) ⟨rfl, Nat.zero_add _⟩ (Nat.lt_succ_self _) []

/-- Of every text the parser makes just the files that are meant, having read no more than the
text and its NUL, if and only if no comment line comes right after a blank one. -/
theorem uriListParse_eq_iff (t : UriText) :
    t.uriListParse = some (expectedUris t.bytes) ↔ NoCommentAfterBlank t.bytes := by
  rw [uriListParse_eq, Option.some_inj, expectedUris, urisOf_eq_iff]
  simp [NoCommentAfterBlank]

/- An empty line, a comment, and a URI: the comment is taken for one. -/
theorem uriListParse_comment_taken :
    let t : UriText := ⟨[10, 35, 99, 10, 102], by decide⟩
    t.uriListParse = some [[35, 99], [102]] ∧ t.uriListParse ≠ some (expectedUris t.bytes) := by
  decide +kernel

end MateScreensaver
