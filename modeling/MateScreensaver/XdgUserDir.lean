import Mathlib.Data.List.Forall2
import MateScreensaver.Lib.CString

/-!
Where the slideshow looks for pictures (savers/xdg-user-dir-lookup.c, slideshow.c): the last line
of user-dirs.dirs that sets the directory, read with a buffer of 512 bytes and written into
blocks of the size that was asked for.
-/

namespace MateScreensaver
open Scan (Text)

/- What the lookup sees around it. -/
structure UserEnv where
  home : Option Text
  configHome : Option Text
  fopen : Text → Option Text

def tmpDir : Text := "/tmp".toList

/- xdg-user-dir-lookup.c:48 -/
def configFile (e : UserEnv) (homeDir : Text) : Text :=
  match e.configHome with
  | none => homeDir ++ "/.config/user-dirs.dirs".toList
  | some configHome =>
    if configHome = [] then homeDir ++ "/.config/user-dirs.dirs".toList
    else configHome ++ "/user-dirs.dirs".toList

def isSpaceOrTab (c : Char) : Bool := c = ' ' || c = '\t'

def skipBlank (p : Text) : Text := p.dropWhile isSpaceOrTab

/- The string in the buffer, without the newline at its end. -/
def bufferLine (buffer : Text) : Text :=
  let s := CString.upToNul buffer
  if s.getLast? = some '\n' then s.dropLast else s

/- xdg-user-dir-lookup.c:77: what comes after the opening quote of a line for `type`. -/
def valueAt (type p : Text) : Option Text := do
  let p ← Scan.literal "XDG_".toList (skipBlank p)
  let p ← Scan.literal type p
  let p ← Scan.literal "_DIR".toList p
  let p ← Scan.literal ['='] (skipBlank p)
  Scan.literal ['"'] (skipBlank p)

/- The copying loop, which writes at d in a block of `capacity` bytes; the NUL comes last. -/
def copyValue (capacity : ℕ) : Text → Text → Option Text
  | [], userDir => CString.terminate capacity userDir
  | '"' :: _, userDir => CString.terminate capacity userDir
  | '\\' :: c :: p, userDir => do copyValue capacity p (← CString.put capacity userDir c)
  | c :: p, userDir => do copyValue capacity p (← CString.put capacity userDir c)

/- xdg-user-dir-lookup.c:100: a directory in the home directory, one from the root, or none. -/
def readValue (homeDir : Text) (userDir : Option Text) (p : Text) : Option (Option Text) :=
  match Scan.literal "$HOME/".toList p with
  | some p => (copyValue (homeDir.length + 1 + p.length + 1) p (homeDir ++ ['/'])).map some
  | none => if p.head? = some '/' then (copyValue (p.length + 1) p []).map some else some userDir

/- One turn of the fgets loop; none when it writes outside of what was allocated. -/
def lookupLine (homeDir type : Text) (userDir : Option Text) (buffer : Text) : Option (Option Text) :=
  match valueAt type (bufferLine buffer) with
  | none => some userDir
  | some p => readValue homeDir userDir p

/- The label error. -/
def defaultDir (homeDir type : Text) : Text :=
  if type = "DESKTOP".toList then homeDir ++ "/Desktop".toList else homeDir

/- xdg-user-dir-lookup.c:36 -/
def xdgUserDirLookup (e : UserEnv) (type : Text) : Option Text :=
  match e.home with
  | none => some tmpDir
  | some homeDir =>
    match e.fopen (configFile e homeDir) with
    | none => some (defaultDir homeDir type)
    | some file => do
      let userDir ← (CString.chunks 512 file).foldlM (lookupLine homeDir type) none
      return userDir.getD (defaultDir homeDir type)

/- slideshow.c:102, with g_get_home_dir and g_build_filename on it as they are told. -/
def slideshowLocation (e : UserEnv) (gGetHomeDir pictures : Text) (location : Option Text) : Option Text :=
  match location with
  | some location => some location
  | none => do
    let location ← xdgUserDirLookup e "PICTURES".toList
    return if location = tmpDir ∨ location = gGetHomeDir then pictures else location

/-! ### Blocks -/

variable {capacity : ℕ} {p q d buffer homeDir type : Text} {userDir : Option Text}

/- No more is written than is read, and nothing that was not there. -/
def Copies (capacity : ℕ) (p d : Text) : Prop :=
  ∃ w, copyValue capacity p d = some (d ++ w) ∧ w.length ≤ p.length ∧ w ⊆ p

theorem copies_put {c : Char} (h : d.length + q.length < capacity) (hp : p.length + 1 ≤ q.length) (hsub : c :: p ⊆ q)
    (heq : copyValue capacity q d = (CString.put capacity d c).bind (copyValue capacity p))
    (ih : (d ++ [c]).length + p.length < capacity → Copies capacity p (d ++ [c])) : Copies capacity q d := by
  have hd : d.length < capacity := by omega
  have hnext : (d ++ [c]).length + p.length < capacity := by
    rw [List.length_append, List.length_singleton]
    omega
  obtain ⟨w, hw, hlen, hmem⟩ := ih hnext
  rw [← List.append_cons] at hw
  have hfit : (c :: w).length ≤ q.length := by
    rw [List.length_cons]
    omega
  have hin : c :: w ⊆ q := List.cons_subset.2 ⟨hsub List.mem_cons_self, List.Subset.trans hmem (List.subset_of_cons_subset hsub)⟩
  exact ⟨c :: w, heq.trans (by rw [CString.put_eq hd, Option.bind_some, hw]), hfit, hin⟩

theorem copies_of_lt (h : d.length + p.length < capacity) : Copies capacity p d := by
  fun_induction copyValue capacity p d with
  | case1 d => exact ⟨[], by rw [List.append_nil, copyValue, CString.terminate_eq h], Nat.le_refl _, List.Subset.refl _⟩
  | case2 p d =>
    have hd : d.length < capacity := by
      rw [List.length_cons] at h
      omega
    exact ⟨[], by rw [List.append_nil, copyValue, CString.terminate_eq hd], Nat.zero_le _, List.nil_subset _⟩
  | case3 c p d ih =>
    apply copies_put h (Nat.le_succ _) (List.subset_cons_self _ _) _ (ih _)
    rw [copyValue]
    rfl
  | case4 c p d hquote hback ih =>
    apply copies_put h (Nat.le_refl _) (List.Subset.refl _) _ (ih _)
    rw [copyValue]
    · rfl
    · exact hquote
    · exact hback

/- The part of a line that a directory is taken from. -/
theorem valueAt_suffix {v : Text} (h : valueAt type p = some v) : v <:+ p := by
  simp only [valueAt, Option.bind_eq_bind, Option.bind_eq_some_iff, CString.literal_iff] at h
  obtain ⟨a, ha, b, hb, c, hc, e, he, hv⟩ := h
  have hab : b <:+ a := ⟨type, hb.symm⟩
  have hbc : c <:+ b := ⟨_, hc.symm⟩
  have hce : e <:+ c := List.IsSuffix.trans ⟨_, he.symm⟩ (List.dropWhile_suffix _)
  have hev : v <:+ e := List.IsSuffix.trans ⟨_, hv.symm⟩ (List.dropWhile_suffix _)
  have hpa : a <:+ p := List.IsSuffix.trans ⟨_, ha.symm⟩ (List.dropWhile_suffix _)
  exact ((hev.trans hce).trans hbc).trans (hab.trans hpa)

theorem bufferLine_begins (buffer : Text) : bufferLine buffer <+: CString.upToNul buffer := by
  rw [bufferLine]
  split
  · exact List.dropLast_prefix _
  · exact List.prefix_rfl

theorem length_bufferLine_le (buffer : Text) : (bufferLine buffer).length ≤ buffer.length :=
  (bufferLine_begins buffer).length_le.trans (CString.length_upToNul_le buffer)

theorem nul_not_mem_bufferLine (buffer : Text) : '\x00' ∉ bufferLine buffer := fun h =>
  CString.nul_not_mem_upToNul buffer ((bufferLine_begins buffer).subset h)

/- A directory that some line gave: in the home directory or from the root, and no longer than
that and the line. -/
structure ReadDir (homeDir : Text) (room : ℕ) (dir : Text) : Prop where
  start : homeDir <+: dir ∨ dir.head? = some '/'
  nul : '\x00' ∉ homeDir → '\x00' ∉ dir
  length : dir.length ≤ homeDir.length + room

variable {room : ℕ}

theorem readDir_home (hlen : p.length ≤ room) (hnul : '\x00' ∉ p) : ReadDir homeDir (room + 1) (homeDir ++ '/' :: p) where
  start := .inl (List.prefix_append _ _)
  nul hhome h := by
    cases List.mem_append.1 h with
    | inl h => exact hhome h
    | inr h =>
      cases List.mem_cons.1 h with
      | inl h => exact absurd h (by decide)
      | inr h => exact hnul h
  length := by
    rw [List.length_append, List.length_cons]
    omega

theorem readDir_root (hlen : p.length ≤ room) (hnul : '\x00' ∉ p) : ReadDir homeDir (room + 1) ('/' :: p) where
  start := .inr rfl
  nul _ h := by
    cases List.mem_cons.1 h with
    | inl h => exact absurd h (by decide)
    | inr h => exact hnul h
  length := by
    rw [List.length_cons]
    omega

theorem readValue_home (r : Text) :
    readValue homeDir userDir ("$HOME/".toList ++ r) =
      (copyValue (homeDir.length + 1 + r.length + 1) r (homeDir ++ ['/'])).map some := by
  rw [readValue, CString.literal_append]

theorem readValue_root (r : Text) :
    readValue homeDir userDir ('/' :: r) = (copyValue (r.length + 1 + 1) ('/' :: r) []).map some := rfl

theorem copyValue_cons {c : Char} (hquote : c ≠ '"') (hback : c ≠ '\\') (h : d.length < capacity) :
    copyValue capacity (c :: p) d = copyValue capacity p (d ++ [c]) := by
  rw [copyValue, CString.put_eq h]
  · rfl
  · exact hquote
  · intro _ _ heq
    exact absurd heq hback

theorem readValue_spec (hp : p.length ≤ room) (hnul : '\x00' ∉ p) (hdir : ∀ dir ∈ userDir, ReadDir homeDir (room + 1) dir) :
    ∃ userDir', readValue homeDir userDir p = some userDir' ∧ ∀ dir ∈ userDir', ReadDir homeDir (room + 1) dir := by
  cases hlit : Scan.literal "$HOME/".toList p with
  | some r =>
    obtain rfl : p = "$HOME/".toList ++ r := CString.literal_iff.1 hlit
    have hcap : (homeDir ++ ['/']).length + r.length < homeDir.length + 1 + r.length + 1 := by
      rw [List.length_append, List.length_singleton]
      omega
    obtain ⟨w, hw, hlen, hsub⟩ := copies_of_lt hcap
    rw [← List.append_cons] at hw
    have hwroom : w.length ≤ room := by
      rw [List.length_append] at hp
      omega
    have hwnul : '\x00' ∉ w := fun h => hnul (List.mem_append_right _ (hsub h))
    rw [readValue_home, hw]
    exact ⟨_, rfl, fun dir h => Option.some.inj h ▸ readDir_home hwroom hwnul⟩
  | none =>
    by_cases hslash : p.head? = some '/'
    · obtain ⟨r, rfl⟩ : ∃ r, p = '/' :: r := ⟨p.tail, List.eq_cons_of_mem_head? hslash⟩
      have hcap : (['/'] : Text).length + r.length < r.length + 1 + 1 := by
        rw [List.length_singleton]
        omega
      obtain ⟨w, hw, hlen, hsub⟩ := copies_of_lt hcap
      have hwroom : w.length ≤ room := by
        rw [List.length_cons] at hp
        omega
      have hwnul : '\x00' ∉ w := fun h => hnul (List.mem_cons_of_mem _ (hsub h))
      rw [readValue_root, copyValue_cons (by decide) (by decide) (Nat.succ_pos _), List.nil_append, hw]
      exact ⟨_, rfl, fun dir h => Option.some.inj h ▸ readDir_root hwroom hwnul⟩
    · refine ⟨userDir, ?_, hdir⟩
      rw [readValue, hlit]
      exact if_neg hslash

theorem lookupLine_spec (type : Text) (hbuffer : buffer.length ≤ room) (hdir : ∀ dir ∈ userDir, ReadDir homeDir (room + 1) dir) :
    ∃ userDir', lookupLine homeDir type userDir buffer = some userDir' ∧ ∀ dir ∈ userDir', ReadDir homeDir (room + 1) dir := by
  rw [lookupLine]
  cases hvalue : valueAt type (bufferLine buffer) with
  | none => exact ⟨userDir, rfl, hdir⟩
  | some v =>
    have hv := valueAt_suffix hvalue
    have hvroom : v.length ≤ room := (hv.length_le.trans (length_bufferLine_le buffer)).trans hbuffer
    exact readValue_spec hvroom (fun h => nul_not_mem_bufferLine buffer (hv.subset h)) hdir

theorem lookupLines_spec (type : Text) {buffers : List Text} (hbuffers : ∀ buffer ∈ buffers, buffer.length ≤ room)
    (hdir : ∀ dir ∈ userDir, ReadDir homeDir (room + 1) dir) :
    ∃ userDir', buffers.foldlM (lookupLine homeDir type) userDir = some userDir' ∧
      ∀ dir ∈ userDir', ReadDir homeDir (room + 1) dir := by
  induction buffers generalizing userDir with
  | nil => exact ⟨userDir, rfl, hdir⟩
  | cons buffer buffers ih =>
    obtain ⟨userDir', hline, hdir'⟩ := lookupLine_spec type (hbuffers buffer List.mem_cons_self) hdir
    rw [List.foldlM_cons, hline]
    exact ih (fun b hb => hbuffers b (List.mem_cons_of_mem _ hb)) hdir'

theorem defaultDir_prefix (homeDir type : Text) : ∃ w, defaultDir homeDir type = homeDir ++ w ∧ '\x00' ∉ w ∧ w.length ≤ 8 := by
  rw [defaultDir]
  split
  · exact ⟨"/Desktop".toList, rfl, by decide, by decide⟩
  · exact ⟨[], (List.append_nil _).symm, List.not_mem_nil, Nat.zero_le _⟩

theorem head?_of_begins {c : Char} {dir : Text} (hhome : homeDir.head? = some c) (h : homeDir <+: dir) : dir.head? = some c := by
  obtain ⟨w, rfl⟩ := h
  rw [List.head?_append, hhome]
  rfl

/-- Whatever is in the file, the lookup reads all of it without a write outside of its blocks,
and a HOME from the root gives a directory from the root. -/
theorem xdg_user_dir_lookup_absolute (e : UserEnv) (type : Text)
    (hhome : ∀ homeDir ∈ e.home, homeDir.head? = some '/' ∧ '\x00' ∉ homeDir) :
    ∃ dir, xdgUserDirLookup e type = some dir ∧ dir.head? = some '/' ∧ '\x00' ∉ dir ∧
      dir.length ≤ (e.home.getD []).length + 512 := by
  rw [xdgUserDirLookup]
  cases hset : e.home with
  | none => exact ⟨tmpDir, rfl, rfl, by decide, by decide⟩
  | some homeDir =>
    obtain ⟨habs, hnul⟩ := hhome homeDir hset
    obtain ⟨w, hdefault, hwnul, hwlen⟩ := defaultDir_prefix homeDir type
    have hdef : (defaultDir homeDir type).head? = some '/' ∧ '\x00' ∉ defaultDir homeDir type ∧
        (defaultDir homeDir type).length ≤ homeDir.length + 512 := by
      rw [hdefault]
      refine ⟨head?_of_begins habs (List.prefix_append _ _), ?_, ?_⟩
      · exact fun h => (List.mem_append.1 h).elim hnul hwnul
      · rw [List.length_append]
        omega
    dsimp only [Option.getD_some]
    cases e.fopen (configFile e homeDir) with
    | none => exact ⟨_, rfl, hdef⟩
    | some file =>
      have hbuffers : ∀ buffer ∈ CString.chunks 512 file, buffer.length ≤ 511 :=
        fun _ h => CString.length_le_of_mem_readLines h
      have hnone : ∀ dir ∈ (none : Option Text), ReadDir homeDir (511 + 1) dir := nofun
      obtain ⟨userDir, hrun, hdir⟩ := lookupLines_spec type hbuffers hnone
      refine ⟨userDir.getD (defaultDir homeDir type), ?_, ?_⟩
      · dsimp only
        rw [hrun]
        rfl
      · cases userDir with
        | none => exact hdef
        | some dir =>
          have hread := hdir dir rfl
          refine ⟨?_, hread.nul hnul, hread.length⟩
          cases hread.start with
          | inl h => exact head?_of_begins habs h
          | inr h => exact h

/-! ### Lines -/

/- A character of a path, with a backslash before it or as it is. -/
def spellChar (s : Bool × Char) : Text := if s.1 then ['\\', s.2] else [s.2]

def spell (path : List (Bool × Char)) : Text := path.flatMap spellChar

/- A line that sets a directory, as it may be written. -/
structure DirEntry where
  type : Text
  inHome : Bool
  path : List (Bool × Char)
  lead : Text
  before : Text
  after : Text
  tail : Text
  typed : '=' ∉ type
  spelled : ∀ s ∈ path, s.1 = false → s.2 ≠ '"' ∧ s.2 ≠ '\\'
  blank : ∀ c ∈ lead ++ before ++ after, isSpaceOrTab c
  closed : tail = [] ∨ tail.head? = some '"'

namespace DirEntry

def value (l : DirEntry) : Text := (if l.inHome then "$HOME/".toList else ['/']) ++ (spell l.path ++ l.tail)

def text (l : DirEntry) : Text :=
  l.lead ++ ("XDG_".toList ++ (l.type ++ ("_DIR".toList ++ (l.before ++ ('=' :: (l.after ++ '"' :: l.value))))))

/- What it stands for. -/
def dir (homeDir : Text) (l : DirEntry) : Text := (if l.inHome then homeDir else []) ++ '/' :: l.path.map Prod.snd

end DirEntry

/- A line of the file: one that sets a directory, or a comment. -/
inductive DirsLine where
  | entry (l : DirEntry)
  | comment (text : Text) (notXdg : Scan.literal "XDG_".toList (skipBlank text) = none)

namespace DirsLine

def text : DirsLine → Text
  | entry l => l.text
  | comment text _ => text

def dirFor (homeDir type : Text) : DirsLine → Option Text
  | entry l => if l.type = type then some (l.dir homeDir) else none
  | comment _ _ => none

/- It is one line, and fits into the buffer. -/
def Fits (l : DirsLine) : Prop := '\x00' ∉ l.text ∧ '\n' ∉ l.text ∧ l.text.length ≤ 510

end DirsLine

theorem skipBlank_append {b : Text} {c : Char} (hb : ∀ x ∈ b, isSpaceOrTab x) (hc : isSpaceOrTab c = false) :
    skipBlank (b ++ c :: p) = c :: p := by
  rw [skipBlank, List.dropWhile_append_of_pos hb, List.dropWhile_cons_of_neg (by rw [hc]; decide)]

/- Blanks at the end do not matter after a character that is none. -/
theorem append_blank_inj {a a' b b' : Text} {c : Char} (hc : isSpaceOrTab c = false) (hb : ∀ x ∈ b, isSpaceOrTab x)
    (hb' : ∀ x ∈ b', isSpaceOrTab x) (h : a ++ (c :: b) = a' ++ (c :: b')) : a = a' := by
  have hrev := congrArg (fun l => skipBlank l.reverse) h
  simp only [List.reverse_append, List.reverse_cons, List.append_assoc, List.singleton_append] at hrev
  rw [skipBlank_append (fun x hx => hb x (List.mem_reverse.1 hx)) hc,
    skipBlank_append (fun x hx => hb' x (List.mem_reverse.1 hx)) hc] at hrev
  exact List.reverse_injective (List.cons.inj hrev).2

/- What the copying loop makes of a path that was written down. -/
theorem copyValue_spell {path : List (Bool × Char)} {tail : Text} (hfit : d.length + (spell path).length < capacity)
    (hspelled : ∀ s ∈ path, s.1 = false → s.2 ≠ '"' ∧ s.2 ≠ '\\') (htail : tail = [] ∨ tail.head? = some '"') :
    copyValue capacity (spell path ++ tail) d = some (d ++ path.map Prod.snd) := by
  induction path generalizing d with
  | nil =>
    have hd : d.length < capacity := hfit
    rw [spell, List.flatMap_nil, List.nil_append, List.map_nil, List.append_nil]
    cases tail with
    | nil => rw [copyValue, CString.terminate_eq hd]
    | cons c tail =>
      have hc : c = '"' := by simpa using htail
      rw [hc, copyValue, CString.terminate_eq hd]
  | cons s path ih =>
    obtain ⟨escaped, c⟩ := s
    have hcons : spell ((escaped, c) :: path) = spellChar (escaped, c) ++ spell path := rfl
    have hpath : ∀ s ∈ path, s.1 = false → s.2 ≠ '"' ∧ s.2 ≠ '\\' := fun s hs => hspelled s (List.mem_cons_of_mem _ hs)
    rw [hcons, List.length_append] at hfit
    have hone : 1 ≤ (spellChar (escaped, c)).length := by
      cases escaped <;> simp [spellChar]
    have hd : d.length < capacity := by omega
    have hnext : (d ++ [c]).length + (spell path).length < capacity := by
      rw [List.length_append, List.length_singleton]
      omega
    rw [hcons, List.append_assoc, List.map_cons, List.append_cons, ← ih hnext hpath]
    cases escaped with
    | true =>
      change copyValue capacity ('\\' :: c :: (spell path ++ tail)) d = _
      rw [copyValue, CString.put_eq hd]
      rfl
    | false =>
      obtain ⟨hquote, hback⟩ := hspelled (false, c) List.mem_cons_self rfl
      exact copyValue_cons hquote hback hd

namespace DirEntry

variable (l : DirEntry)

theorem blank_lead : ∀ c ∈ l.lead, isSpaceOrTab c := fun c h =>
  l.blank c (List.mem_append_left _ (List.mem_append_left _ h))

theorem blank_before : ∀ c ∈ l.before, isSpaceOrTab c := fun c h =>
  l.blank c (List.mem_append_left _ (List.mem_append_right _ h))

theorem blank_after : ∀ c ∈ l.after, isSpaceOrTab c := fun c h => l.blank c (List.mem_append_right _ h)

theorem skipBlank_text :
    skipBlank l.text =
      "XDG_".toList ++ (l.type ++ ("_DIR".toList ++ (l.before ++ '=' :: (l.after ++ '"' :: l.value)))) :=
  skipBlank_append l.blank_lead (c := 'X') rfl

theorem valueAt_text : valueAt l.type l.text = some l.value := by
  rw [valueAt, l.skipBlank_text]
  simp only [Option.bind_eq_bind, CString.literal_append, Option.bind_some,
    skipBlank_append l.blank_before (c := '=') rfl]
  rw [CString.literal_iff.2 (show '=' :: (l.after ++ '"' :: l.value) = ['='] ++ (l.after ++ '"' :: l.value) from rfl),
    Option.bind_some, skipBlank_append l.blank_after (c := '"') rfl, CString.literal_iff]
  rfl

/- A type that is a part of another one is not taken for it. -/
theorem valueAt_text_ne {type : Text} (htype : '=' ∉ type) (hne : type ≠ l.type) : valueAt type l.text = none := by
  rw [Option.eq_none_iff_forall_ne_some]
  intro v hv
  rw [valueAt, l.skipBlank_text] at hv
  simp only [Option.bind_eq_bind, CString.literal_append, Option.bind_some, Option.bind_eq_some_iff,
    CString.literal_iff] at hv
  obtain ⟨a, ha, b, hb, c, hc, -⟩ := hv
  obtain ⟨blanks, hblanks, hbb⟩ : ∃ blanks, b = blanks ++ skipBlank b ∧ ∀ x ∈ blanks, isSpaceOrTab x :=
    ⟨b.takeWhile isSpaceOrTab, List.takeWhile_append_dropWhile.symm, fun _ => List.mem_takeWhile_imp⟩
  rw [hb, hblanks, hc] at ha
  have heq : (l.type ++ "_DI".toList) ++ ('R' :: l.before) = (type ++ "_DI".toList) ++ ('R' :: blanks) := by
    have hnot : ∀ {t bl : Text}, '=' ∉ t → (∀ x ∈ bl, isSpaceOrTab x) → '=' ∉ (t ++ "_DI".toList) ++ ('R' :: bl) := by
      intro t bl ht hbl h
      simp only [List.mem_append, List.mem_cons] at h
      rcases h with (h | h) | h | h
      · exact ht h
      · exact absurd h (by decide)
      · exact absurd h (by decide)
      · exact absurd (hbl _ h) (by decide)
    have hall : ((l.type ++ "_DI".toList) ++ ('R' :: l.before)) ++ '=' :: (l.after ++ '"' :: l.value) =
        ((type ++ "_DI".toList) ++ ('R' :: blanks)) ++ '=' :: c := by
      simpa using ha
    exact CString.eq_of_separated (hnot l.typed l.blank_before) (hnot htype hbb) hall
  have hpart := append_blank_inj (c := 'R') rfl l.blank_before hbb heq
  exact hne (List.append_cancel_right hpart).symm

end DirEntry

theorem bufferLine_line {line : Text} (hnul : '\x00' ∉ line) : bufferLine (line ++ ['\n']) = line := by
  have hall : '\x00' ∉ line ++ ['\n'] := fun h => (List.mem_append.1 h).elim hnul (by decide)
  rw [bufferLine, CString.upToNul_eq hall, List.getLast?_concat, List.dropLast_concat]
  rfl

theorem bufferLine_last {line : Text} (hnul : '\x00' ∉ line) (hlf : '\n' ∉ line) : bufferLine line = line := by
  rw [bufferLine, CString.upToNul_eq hnul]
  exact if_neg fun h => hlf (List.mem_of_getLast? h)

variable {l : DirsLine} {lines : List DirsLine}

theorem readValue_value (l : DirEntry) : readValue homeDir userDir l.value = some (some (l.dir homeDir)) := by
  rw [DirEntry.value, DirEntry.dir]
  cases l.inHome with
  | true =>
    have hfit : (homeDir ++ ['/']).length + (spell l.path).length < homeDir.length + 1 + (spell l.path ++ l.tail).length + 1 := by
      rw [List.length_append, List.length_append, List.length_singleton]
      omega
    rw [if_pos rfl, if_pos rfl, readValue_home, copyValue_spell hfit l.spelled l.closed, ← List.append_cons]
    rfl
  | false =>
    have hfit : (['/'] : Text).length + (spell l.path).length < (spell l.path ++ l.tail).length + 1 + 1 := by
      rw [List.length_append, List.length_singleton]
      omega
    change readValue homeDir userDir ('/' :: (spell l.path ++ l.tail)) = _
    rw [readValue_root, copyValue_cons (by decide) (by decide) (Nat.succ_pos _), List.nil_append,
      copyValue_spell hfit l.spelled l.closed]
    rfl

/- One turn on a line sets what the line stands for, and leaves the rest. -/
theorem lookupLine_text (htype : '=' ∉ type) (hbuffer : bufferLine buffer = l.text) :
    lookupLine homeDir type userDir buffer = some ((l.dirFor homeDir type).or userDir) := by
  rw [lookupLine, hbuffer]
  cases l with
  | entry l =>
    change (match valueAt type l.text with | none => some userDir | some p => readValue homeDir userDir p) =
      some ((if l.type = type then some (l.dir homeDir) else none).or userDir)
    by_cases heq : l.type = type
    · subst heq
      rw [l.valueAt_text, if_pos rfl]
      exact readValue_value l
    · rw [l.valueAt_text_ne htype (Ne.symm heq), if_neg heq]
      rfl
  | comment text notXdg =>
    have hnone : valueAt type text = none := by
      rw [valueAt, notXdg]
      rfl
    change (match valueAt type text with | none => some userDir | some p => readValue homeDir userDir p) = _
    rw [hnone]
    rfl

theorem lookupLines_map {buffers : List Text} (homeDir : Text) (userDir : Option Text) (htype : '=' ∉ type)
    (h : List.Forall₂ (fun buffer l => bufferLine buffer = DirsLine.text l) buffers lines) :
    buffers.foldlM (lookupLine homeDir type) userDir =
      some ((lines.filterMap (DirsLine.dirFor homeDir type)).getLast?.or userDir) := by
  induction h generalizing userDir with
  | nil => rfl
  | @cons buffer l buffers lines hline _ ih =>
    rw [List.foldlM_cons, lookupLine_text htype hline]
    change buffers.foldlM (lookupLine homeDir type) ((l.dirFor homeDir type).or userDir) = _
    rw [ih, List.filterMap_cons]
    cases l.dirFor homeDir type with
    | none => rfl
    | some dir =>
      cases lines.filterMap (DirsLine.dirFor homeDir type) with
      | nil => rfl
      | cons d ds => rw [List.getLast?_cons_cons, List.getLast?_cons]; rfl

theorem chunks_text {file : Text} (hfits : ∀ l ∈ lines, l.Fits) (hfile : file = Scan.unlines (lines.map DirsLine.text)) :
    CString.chunks 512 file = (lines.map DirsLine.text).map (· ++ ['\n']) := by
  have hlines : ∀ t ∈ lines.map DirsLine.text, '\n' ∉ t ∧ t.length + 2 ≤ 512 := by
    intro t ht
    obtain ⟨l, hl, rfl⟩ := List.mem_map.1 ht
    have hfit := hfits l hl
    exact ⟨hfit.2.1, Nat.add_le_add_right hfit.2.2 2⟩
  have hempty : '\n' ∉ ([] : Text) ∧ ([] : Text).length + 2 ≤ 512 := ⟨List.not_mem_nil, by decide⟩
  have h := CString.chunks_lines hlines hempty
  rw [List.append_nil, if_pos rfl, List.append_nil] at h
  rw [hfile, h]

theorem bufferLines_text (hfits : ∀ l ∈ lines, l.Fits) :
    List.Forall₂ (fun buffer l => bufferLine buffer = DirsLine.text l) ((lines.map DirsLine.text).map (· ++ ['\n'])) lines := by
  induction lines with
  | nil => exact .nil
  | cons l lines ih =>
    have hline := bufferLine_line (hfits l List.mem_cons_self).1
    exact .cons hline (ih fun l hl => hfits l (List.mem_cons_of_mem _ hl))

/- The last line may lack its line feed. -/
theorem bufferLines_chunks (homeDir type : Text) {file : Text} (hfits : ∀ l ∈ lines, l.Fits)
    (hfile : file = Scan.unlines (lines.map DirsLine.text) ∨ file ++ ['\n'] = Scan.unlines (lines.map DirsLine.text)) :
    ∃ read, List.Forall₂ (fun buffer l => bufferLine buffer = DirsLine.text l) (CString.chunks 512 file) read ∧
      read.filterMap (DirsLine.dirFor homeDir type) = lines.filterMap (DirsLine.dirFor homeDir type) := by
  cases hfile with
  | inl hfile =>
    rw [chunks_text hfits hfile]
    exact ⟨lines, bufferLines_text hfits, rfl⟩
  | inr hfile =>
    cases List.eq_nil_or_concat' lines with
    | inl hnil => simp [hnil, Scan.unlines] at hfile
    | inr h =>
      obtain ⟨start, last, rfl⟩ := h
      have hstart : ∀ l ∈ start, l.Fits := fun l hl => hfits l (List.mem_append_left _ hl)
      obtain ⟨hnul, hlf, hlen⟩ := hfits last (List.mem_append_right _ List.mem_cons_self)
      obtain rfl : file = Scan.unlines (start.map DirsLine.text) ++ last.text := by
        have hsplit : Scan.unlines ((start ++ [last]).map DirsLine.text) =
            (Scan.unlines (start.map DirsLine.text) ++ last.text) ++ ['\n'] := by
          simp [Scan.unlines]
        exact List.append_cancel_right (hfile.trans hsplit)
      have hlines : ∀ t ∈ start.map DirsLine.text, '\n' ∉ t ∧ t.length + 2 ≤ 512 := by
        intro t ht
        obtain ⟨l, hl, rfl⟩ := List.mem_map.1 ht
        exact ⟨(hstart l hl).2.1, Nat.add_le_add_right (hstart l hl).2.2 2⟩
      rw [CString.chunks_lines hlines ⟨hlf, Nat.add_le_add_right hlen 2⟩]
      have hread := bufferLines_text hstart
      by_cases hempty : last.text = []
      · have hnone : last.dirFor homeDir type = none := by
          cases last with
          | entry l => simp [DirsLine.text, DirEntry.text] at hempty
          | comment text notXdg => rfl
        rw [if_pos hempty, List.append_nil]
        exact ⟨start, hread, by rw [List.filterMap_append, List.filterMap_cons, hnone]; exact (List.append_nil _).symm⟩
      · rw [if_neg hempty]
        exact ⟨start ++ [last], List.rel_append hread (.cons (bufferLine_last hnul hlf) .nil), rfl⟩

/-- The lookup answers with the directory of the last line for the type, however that line is
spaced and escaped, and with the default when there is none. -/
theorem xdg_user_dir_lookup_last (e : UserEnv) {homeDir file type : Text} {lines : List DirsLine} (hhome : e.home = some homeDir)
    (hopen : e.fopen (configFile e homeDir) = some file) (htype : '=' ∉ type) (hfits : ∀ l ∈ lines, l.Fits)
    (hfile : file = Scan.unlines (lines.map DirsLine.text) ∨ file ++ ['\n'] = Scan.unlines (lines.map DirsLine.text)) :
    xdgUserDirLookup e type =
      some ((lines.filterMap (DirsLine.dirFor homeDir type)).getLast?.getD (defaultDir homeDir type)) := by
  obtain ⟨read, hread, hsame⟩ := bufferLines_chunks homeDir type hfits hfile
  have hrun := lookupLines_map homeDir none htype hread
  rw [Option.or_none, hsame] at hrun
  rw [xdgUserDirLookup, hhome]
  dsimp only
  rw [hopen]
  dsimp only
  rw [hrun]
  rfl

def picturesEntry : DirEntry where
  type := "PICTURES".toList
  inHome := true
  path := [(false, 'M'), (false, 'y'), (true, ' '), (true, '"')]
  lead := [' ']
  before := []
  after := ['\t']
  tail := ['"']
  typed := by decide
  spelled := by decide
  blank := List.all_eq_true.1 rfl
  closed := .inr rfl

def someEnv : UserEnv where
  home := some "/home/ann".toList
  configHome := some []
  fopen path :=
    if path = "/home/ann/.config/user-dirs.dirs".toList then
      some "# dirs\n XDG_PICTURES_DIR=\t\"$HOME/My\\ \\\"\"".toList
    else none

theorem xdg_user_dir_lookup_last_pictures :
    xdgUserDirLookup someEnv "PICTURES".toList =
      some (([.comment "# dirs".toList rfl, .entry picturesEntry].filterMap
        (DirsLine.dirFor "/home/ann".toList "PICTURES".toList)).getLast?.getD
          (defaultDir "/home/ann".toList "PICTURES".toList)) :=
  @xdg_user_dir_lookup_last someEnv _ _ _ [.comment "# dirs".toList rfl, .entry picturesEntry] rfl rfl (by decide)
    (by simp only [DirsLine.Fits]; decide) (.inr rfl)

/-- Without a location of its own the slideshow opens some directory from the root, whatever
user-dirs.dirs contains, and not /tmp or the home directory as such; and all of the file is read,
in pieces that the buffer has room for. -/
theorem slideshow_location_of_none (e : UserEnv) {gGetHomeDir pictures : Text}
    (hhome : ∀ homeDir ∈ e.home, homeDir.head? = some '/' ∧ '\x00' ∉ homeDir)
    (hpictures : pictures.head? = some '/' ∧ '\x00' ∉ pictures ∧ pictures ≠ tmpDir ∧ pictures ≠ gGetHomeDir) :
    (∃ location, slideshowLocation e gGetHomeDir pictures none = some location ∧ location.head? = some '/' ∧
      '\x00' ∉ location ∧ location ≠ tmpDir ∧ location ≠ gGetHomeDir) ∧
      ∀ homeDir ∈ e.home, ∀ file ∈ e.fopen (configFile e homeDir),
        (CString.chunks 512 file).flatten = file ∧ ∀ buffer ∈ CString.chunks 512 file, buffer.length ≤ 511 := by
  constructor
  · obtain ⟨dir, hdir, habs, hnul, -⟩ := xdg_user_dir_lookup_absolute e "PICTURES".toList hhome
    rw [slideshowLocation, hdir]
    by_cases h : dir = tmpDir ∨ dir = gGetHomeDir
    · exact ⟨pictures, congrArg some (if_pos h), hpictures⟩
    · rw [not_or] at h
      exact ⟨dir, congrArg some (if_neg (not_or.2 h)), habs, hnul, h⟩
  · intro homeDir _ file _
    exact ⟨CString.chunks_flatten (by decide) file, fun _ h => CString.length_le_of_mem_readLines h⟩

theorem slideshow_location_of_none_ann :
    (∃ location, slideshowLocation someEnv "/home/ann".toList "/home/ann/Pictures".toList none = some location ∧
      location.head? = some '/' ∧ '\x00' ∉ location ∧ location ≠ tmpDir ∧ location ≠ "/home/ann".toList) ∧
      ∀ homeDir ∈ someEnv.home, ∀ file ∈ someEnv.fopen (configFile someEnv homeDir),
        (CString.chunks 512 file).flatten = file ∧ ∀ buffer ∈ CString.chunks 512 file, buffer.length ≤ 511 :=
  slideshow_location_of_none someEnv (fun _ h => Option.some.inj h ▸ ⟨rfl, by decide⟩)
    ⟨rfl, by decide, by decide, by decide⟩

end MateScreensaver
