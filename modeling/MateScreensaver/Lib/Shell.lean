import Mathlib.Data.List.Count
import Mathlib.Data.List.Forall2

/-!
Command lines: how they are split into words and the quotes taken off the words, and a
quoting that survives it (g_shell_parse_argv, g_shell_unquote and g_shell_quote of GLib).
-/

namespace Shell

inductive Error
  | badQuoting
  | emptyString
deriving DecidableEq

/- What current_quote is. A '#' is a comment from the character after it on. -/
inductive Quoting
  | plain
  | backslash
  | single
  | double
  | hash
  | comment
deriving DecidableEq

/- tokenize_command_line: `quoted` counts backslashes in a row, modulo two. -/
structure Lexer where
  quoting : Quoting := .plain
  quoted : Bool := false
  previous : Option Char := none
  token : Option (List Char) := none
  tokens : List (List Char) := []

namespace Lexer

def append (s : Lexer) (t : List Char) : Lexer := { s with token := some (s.token.getD [] ++ t) }

def delimit (s : Lexer) : Lexer :=
  match s.token with
  | some t => { s with token := none, tokens := s.tokens ++ [t] }
  | none => s

def readPlain (s : Lexer) (c : Char) : Lexer :=
  if c = '\n' then s.delimit
  else if c = ' ' ∨ c = '\t' then if s.token.getD [] ≠ [] then s.delimit else s
  else if c = '\'' then { s.append [c] with quoting := .single }
  else if c = '"' then { s.append [c] with quoting := .double }
  else if c = '\\' then { s with quoting := .backslash }
  else if c = '#' ∧ (s.previous = none ∨ s.previous = some ' ' ∨ s.previous = some '\n') then
    { s with quoting := .hash }
  else s.append [c]

def read (s : Lexer) (c : Char) : Lexer :=
  match s.quoting with
  | .plain => s.readPlain c
  | .backslash => { (if c = '\n' then s else s.append ['\\', c]) with quoting := .plain }
  | .single => { s.append [c] with quoting := if c = '\'' then .plain else .single }
  | .double => { s.append [c] with quoting := if c = '"' ∧ !s.quoted then .plain else .double }
  | .hash | .comment => { s with quoting := if c = '\n' then .plain else .comment }

def step (s : Lexer) (c : Char) : Lexer :=
  { s.read c with quoted := c = '\\' && !s.quoted, previous := some c }

end Lexer

def tokenize (line : List Char) : Except Error (List (List Char)) :=
  let s := (line.foldl Lexer.step {}).delimit
  if s.quoting = .plain ∨ s.quoting = .comment then
    if s.tokens = [] then .error .emptyString else .ok s.tokens
  else .error .badQuoting

inductive Unquoting
  | plain
  | escape
  | single
  | double
  | doubleEscape
deriving DecidableEq

/- g_shell_unquote, with the string so far. -/
structure Unquoter where
  mode : Unquoting := .plain
  out : List Char := []

namespace Unquoter

def append (u : Unquoter) (t : List Char) : Unquoter := { u with out := u.out ++ t }

/- What a backslash escapes between double quotes. -/
def escapable : List Char := ['"', '\\', '\x60', '$', '\n']

def step (u : Unquoter) (c : Char) : Unquoter :=
  match u.mode with
  | .plain =>
    if c = '\\' then { u with mode := .escape }
    else if c = '\'' then { u with mode := .single }
    else if c = '"' then { u with mode := .double }
    else u.append [c]
  | .escape => { (if c = '\n' then u else u.append [c]) with mode := .plain }
  | .single => if c = '\'' then { u with mode := .plain } else u.append [c]
  | .double =>
    if c = '"' then { u with mode := .plain }
    else if c = '\\' then { u with mode := .doubleEscape }
    else u.append [c]
  | .doubleEscape => { (if c ∈ escapable then u.append [c] else u.append ['\\', c]) with mode := .double }

end Unquoter

def unquote (s : List Char) : Except Error (List Char) :=
  let u := s.foldl Unquoter.step {}
  if u.mode = .plain ∨ u.mode = .escape then .ok u.out else .error .badQuoting

def parseArgv (line : List Char) : Except Error (List (List Char)) := do
  let tokens ← tokenize line
  tokens.mapM unquote

example : parseArgv "a \"b c\"\\ 'd'#  e # f".toList = .ok ["a".toList, "b c d#".toList, "e".toList] := by decide

def quoteChar (c : Char) : List Char := if c = '\'' then ['\'', '\\', '\'', '\''] else [c]

def quote (s : List Char) : List Char := '\'' :: (s.flatMap quoteChar ++ ['\''])

/-! ### Words that are read as they are meant -/

def special : List Char := [' ', '\t', '\n', '\'', '"', '\\', '#']

/- Nothing in it means anything to the parser. -/
def Plain (s : List Char) : Prop := ∀ c ∈ s, c ∉ special

/- Character by character of the text, not of the alphabet. -/
instance (s : List Char) : Decidable (Plain s) := List.decidableBAll _ _

/- A part of a word, with what becomes of it. -/
inductive Piece : List Char → List Char → Prop
  | bare {c} : c ∉ special → Piece [c] [c]
  | single {s} : '\'' ∉ s → Piece ('\'' :: (s ++ ['\''])) s
  | escaped {c} : c ≠ '\n' → Piece ['\\', c] [c]

inductive Word : List Char → List Char → Prop
  | piece {r v} : Piece r v → Word r v
  | append {r v r' v'} : Word r v → Word r' v' → Word (r ++ r') (v ++ v')

variable {r v s t : List Char}

theorem Word.ne_nil (h : Word r v) : r ≠ [] := by
  induction h with
  | piece h =>
    cases h with
    | bare | single | escaped => exact List.cons_ne_nil _ _
  | append _ _ ih => exact List.append_ne_nil_of_left_ne_nil ih _

theorem word_plain (hs : s ≠ []) (h : Plain s) : Word s s := by
  induction s with
  | nil => exact absurd rfl hs
  | cons c rest ih =>
    obtain ⟨hc, hrest⟩ := List.forall_mem_cons.1 h
    cases rest with
    | nil => exact .piece (.bare hc)
    | cons d rest => exact .append (.piece (.bare hc)) (ih (List.cons_ne_nil _ _) hrest)

theorem word_quoting (ht : '\'' ∉ t) (s : List Char) :
    Word ('\'' :: (t ++ s.flatMap quoteChar ++ ['\''])) (t ++ s) := by
  induction s generalizing t with
  | nil =>
    rw [List.flatMap_nil, List.append_nil]
    exact .piece (.single ht)
  | cons c rest ih =>
    by_cases hc : c = '\''
    · subst hc
      -- the quoted part ends here, and another one begins after the escaped quote
      have hword := (Word.piece (.single ht)).append ((Word.piece (.escaped (c := '\'') (by decide))).append
        (ih List.not_mem_nil))
      simpa [quoteChar] using hword
    · have hword := @ih (t ++ [c]) (by simp [ht, Ne.symm hc])
      simpa [quoteChar, hc] using hword

theorem word_quote (s : List Char) : Word (quote s) s := word_quoting List.not_mem_nil s

/-! ### Reading them -/

namespace Lexer

@[simp] theorem step_quoting (l : Lexer) (c : Char) : (l.step c).quoting = (l.read c).quoting := rfl
@[simp] theorem step_token (l : Lexer) (c : Char) : (l.step c).token = (l.read c).token := rfl
@[simp] theorem step_tokens (l : Lexer) (c : Char) : (l.step c).tokens = (l.read c).tokens := rfl

theorem read_bare {l : Lexer} {c : Char} (hl : l.quoting = .plain) (hc : c ∉ special) : l.read c = l.append [c] := by
  simp only [special, List.mem_cons, List.not_mem_nil, or_false, not_or] at hc
  obtain ⟨hblank, htab, hnewline, hsingle, hdouble, hbackslash, hhash⟩ := hc
  simp [read, hl, readPlain, hblank, htab, hnewline, hsingle, hdouble, hbackslash, hhash]

/- The characters have gone to the current word. -/
structure Gained (l l' : Lexer) (w : List Char) (q : Quoting) : Prop where
  quoting : l'.quoting = q
  token : l'.token = some (l.token.getD [] ++ w)
  tokens : l'.tokens = l.tokens

theorem Gained.trans {l l' l'' : Lexer} {w w' : List Char} {q q' : Quoting} (h : Gained l l' w q)
    (h' : Gained l' l'' w' q') : Gained l l'' (w ++ w') q' :=
  ⟨h'.quoting, by rw [h'.token, h.token, Option.getD_some, List.append_assoc], h'.tokens.trans h.tokens⟩

theorem gained_single {l : Lexer} (hl : l.quoting = .single) (hs : '\'' ∉ s) :
    Gained l ((s ++ ['\'']).foldl step l) (s ++ ['\'']) .plain := by
  induction s generalizing l with
  | nil =>
    have hread : l.read '\'' = { l.append ['\''] with quoting := .plain } := by simp [read, hl]
    exact ⟨by simp [hread], by simp [hread, append], by simp [hread, append]⟩
  | cons c rest ih =>
    obtain ⟨hc, hrest⟩ := not_or.1 (mt List.mem_cons.2 hs)
    have hread : l.read c = { l.append [c] with quoting := .single } := by simp [read, hl, Ne.symm hc]
    have hgained : Gained l (l.step c) [c] .single :=
      ⟨by simp [hread], by simp [hread, append], by simp [hread, append]⟩
    exact hgained.trans (ih hgained.quoting hrest)

theorem gained_piece {l : Lexer} (hl : l.quoting = .plain) (h : Piece r v) : Gained l (r.foldl step l) r .plain := by
  cases h with
  | bare hc =>
    have hread := read_bare hl hc
    exact ⟨by simp [hread, append, hl], by simp [hread, append], by simp [hread, append]⟩
  | single hs =>
    have hread : l.read '\'' = { l.append ['\''] with quoting := .single } := by simp [read, hl, readPlain]
    have hgained : Gained l (l.step '\'') ['\''] .single :=
      ⟨by simp [hread], by simp [hread, append], by simp [hread, append]⟩
    exact hgained.trans (gained_single hgained.quoting hs)
  | @escaped c hc =>
    have hread : l.read '\\' = { l with quoting := .backslash } := by simp [read, hl, readPlain]
    have hmode : (l.step '\\').quoting = .backslash := by rw [step_quoting, hread]
    have hstep : (l.step '\\').read c = { (l.step '\\').append ['\\', c] with quoting := .plain } := by
      unfold read
      rw [hmode]
      simp [hc]
    refine ⟨?_, ?_, ?_⟩
    · simp [hstep]
    · simp [hstep, append, hread]
    · simp [hstep, append, hread]

theorem gained_word {l : Lexer} (hl : l.quoting = .plain) (h : Word r v) : Gained l (r.foldl step l) r .plain := by
  induction h generalizing l with
  | piece h => exact gained_piece hl h
  | append _ _ ih ih' =>
    rw [List.foldl_append]
    exact (ih hl).trans (ih' (ih hl).quoting)

/- A blank ends a word that is not empty. -/
theorem read_blank {l : Lexer} {w : List Char} (hl : l.quoting = .plain) (ht : l.token = some w) (hw : w ≠ []) :
    (l.step ' ').quoting = .plain ∧ (l.step ' ').token = none ∧ (l.step ' ').tokens = l.tokens ++ [w] := by
  have hread : l.read ' ' = { l with token := none, tokens := l.tokens ++ [w] } := by
    simp [read, hl, readPlain, ht, hw, delimit]
  exact ⟨by simp [hread, hl], by simp [hread], by simp [hread]⟩

/- After a word more words follow, a blank before each. -/
theorem words_read {rs vs : List (List Char)} (h : List.Forall₂ Word rs vs) {l : Lexer} {w : List Char}
    (hl : l.quoting = .plain) (ht : l.token = some w) (hw : w ≠ []) :
    ((rs.flatMap fun r => ' ' :: r).foldl step l).quoting = .plain ∧
      ((rs.flatMap fun r => ' ' :: r).foldl step l).delimit.tokens = l.tokens ++ w :: rs := by
  induction h generalizing l w with
  | nil => exact ⟨hl, by simp [delimit, ht]⟩
  | @cons r v rs vs hr _ ih =>
    obtain ⟨hquoting, htoken, htokens⟩ := read_blank hl ht hw
    have hgained := gained_word hquoting hr
    have htoken' : (r.foldl step (l.step ' ')).token = some r := by
      rw [hgained.token, htoken]
      rfl
    have hrest := ih hgained.quoting htoken' hr.ne_nil
    rw [hgained.tokens, htokens] at hrest
    rw [List.flatMap_cons, List.foldl_append, List.foldl_cons]
    simpa using hrest

end Lexer

theorem tokenize_words {rs vs : List (List Char)} (h : Word r v) (hs : List.Forall₂ Word rs vs) :
    tokenize (r ++ rs.flatMap fun r => ' ' :: r) = .ok (r :: rs) := by
  have hgained := Lexer.gained_word (l := {}) rfl h
  obtain ⟨hquoting, htokens⟩ := Lexer.words_read hs hgained.quoting hgained.token h.ne_nil
  rw [hgained.tokens] at htokens
  have hdelimit (l : Lexer) : l.delimit.quoting = l.quoting := by
    unfold Lexer.delimit
    split <;> rfl
  unfold tokenize
  rw [List.foldl_append]
  simp [hdelimit, hquoting, htokens]

namespace Unquoter

theorem single_unquoted {u : Unquoter} (hu : u.mode = .single) (hs : '\'' ∉ s) :
    (s ++ ['\'']).foldl step u = { u.append s with mode := .plain } := by
  induction s generalizing u with
  | nil => simp [step, hu, append]
  | cons c rest ih =>
    obtain ⟨hc, hrest⟩ := not_or.1 (mt List.mem_cons.2 hs)
    have hstep : u.step c = u.append [c] := by simp [step, hu, Ne.symm hc]
    rw [List.cons_append, List.foldl_cons, hstep, ih (u := u.append [c]) hu hrest]
    simp [append]

theorem piece_unquoted {u : Unquoter} (hu : u.mode = .plain) (h : Piece r v) : r.foldl step u = u.append v := by
  cases h with
  | @bare c hc =>
    simp only [special, List.mem_cons, List.not_mem_nil, or_false, not_or] at hc
    obtain ⟨_, _, _, hsingle, hdouble, hbackslash, _⟩ := hc
    simp [step, hu, hsingle, hdouble, hbackslash]
  | single hs =>
    have hstep : u.step '\'' = { u with mode := .single } := by simp [step, hu]
    rw [List.foldl_cons, hstep, single_unquoted rfl hs]
    simp [append, hu]
  | escaped hc => simp [step, hu, hc, append]

theorem word_unquoted {u : Unquoter} (hu : u.mode = .plain) (h : Word r v) : r.foldl step u = u.append v := by
  induction h generalizing u with
  | piece h => exact piece_unquoted hu h
  | append _ _ ih ih' =>
    rw [List.foldl_append, ih hu, ih' (u := u.append _) hu]
    simp [append]

end Unquoter

theorem unquote_word (h : Word r v) : unquote r = .ok v := by
  unfold unquote
  rw [Unquoter.word_unquoted rfl h]
  rfl

theorem mapM_unquote {rs vs : List (List Char)} (h : List.Forall₂ Word rs vs) : rs.mapM unquote = .ok vs := by
  induction h with
  | nil => rfl
  | cons hr _ ih =>
    rw [List.mapM_cons, unquote_word hr, ih]
    rfl

/-- Words with blanks between them are read as they are meant. -/
theorem parseArgv_words {rs vs : List (List Char)} (h : Word r v) (hs : List.Forall₂ Word rs vs) :
    parseArgv (r ++ rs.flatMap fun r => ' ' :: r) = .ok (v :: vs) := by
  rw [parseArgv, tokenize_words h hs]
  exact mapM_unquote (.cons h hs)

/-! ### What is left of quotes and backslashes -/

namespace Lexer

/- All that the words have so far. -/
def held (l : Lexer) : List Char := l.tokens.flatten ++ l.token.getD []

@[simp] theorem held_append (l : Lexer) (t : List Char) : (l.append t).held = l.held ++ t := by
  simp [held, append]

@[simp] theorem held_delimit (l : Lexer) : l.delimit.held = l.held := by
  unfold delimit held
  split
  · next ht => simp [ht]
  · rfl

/- A backslash is kept back until the character after it is there. -/
def heldBack (l : Lexer) : List Char := if l.quoting = .backslash then ['\\'] else []

@[simp] theorem held_quoting (l : Lexer) (q : Quoting) : held { l with quoting := q } = l.held := rfl

@[simp] theorem quoting_append (l : Lexer) (t : List Char) : (l.append t).quoting = l.quoting := rfl

@[simp] theorem quoting_delimit (l : Lexer) : l.delimit.quoting = l.quoting := by
  unfold delimit
  split <;> rfl

theorem readPlain_count {l : Lexer} (hl : l.quoting = .plain) (c d : Char) :
    (l.readPlain d).held.count c + (l.readPlain d).heldBack.count c ≤ l.held.count c + [d].count c := by
  unfold readPlain
  split_ifs with _ _ _ _ _ hbackslash
  · simp [heldBack, hl]
  · simp [heldBack, hl]
  · simp [heldBack, hl]
  · simp [heldBack]
  · simp [heldBack]
  · simp [heldBack, hbackslash]
  · simp [heldBack]
  · simp [heldBack, hl]

/- No character is had twice. -/
theorem step_count (l : Lexer) (c d : Char) : (l.step d).held.count c + (l.step d).heldBack.count c ≤
    l.held.count c + l.heldBack.count c + [d].count c := by
  have hheld : (l.step d).held = (l.read d).held := rfl
  have hback : (l.step d).heldBack = (l.read d).heldBack := rfl
  rw [hheld, hback]
  cases hl : l.quoting with
  | plain =>
    have hread : l.read d = l.readPlain d := by simp only [read, hl]
    have hplain := readPlain_count hl c d
    rw [hread]
    omega
  | backslash =>
    by_cases hd : d = '\n'
    · simp [read, hl, heldBack, hd, Nat.add_assoc]
    · have hpair : ['\\', d].count c = ['\\'].count c + [d].count c := by
        rw [← List.count_append]
        rfl
      simp [read, hl, heldBack, hd, hpair, Nat.add_assoc]
  | single =>
    by_cases hd : d = '\''
    · simp [read, hl, heldBack, hd]
    · simp [read, hl, heldBack, hd]
  | double =>
    by_cases hd : d = '"' ∧ l.quoted = false
    · simp [read, hl, heldBack, hd]
    · simp [read, hl, heldBack, hd]
  | hash | comment =>
    by_cases hd : d = '\n'
    · simp [read, hl, heldBack, hd]
    · simp [read, hl, heldBack, hd]

theorem run_count (line : List Char) (l : Lexer) (c : Char) :
    (line.foldl step l).held.count c ≤ l.held.count c + l.heldBack.count c + line.count c := by
  induction line generalizing l with
  | nil => exact Nat.le_add_right _ _
  | cons d rest ih =>
    have hstep := step_count l c d
    have hrest := ih (l.step d)
    rw [List.foldl_cons, ← List.singleton_append, List.count_append]
    omega

end Lexer

theorem tokenize_count {line : List Char} {tokens : List (List Char)} (h : tokenize line = .ok tokens) (c : Char) :
    tokens.flatten.count c ≤ line.count c := by
  have hrun := Lexer.run_count line {} c
  rw [← Lexer.held_delimit] at hrun
  unfold tokenize at h
  generalize (line.foldl Lexer.step {}).delimit = l at h hrun
  have htokens : l.tokens = tokens := by
    dsimp only at h
    split at h
    · split at h
      · cases h
      · exact Except.ok.inj h
    · cases h
  subst htokens
  have hheld : l.held.count c = l.tokens.flatten.count c + (l.token.getD []).count c := List.count_append
  have hnone : Lexer.held {} = [] := rfl
  have hback : Lexer.heldBack {} = [] := rfl
  rw [hnone, hback, List.count_nil] at hrun
  omega

namespace Unquoter

/- Double quotes are lost where they are syntax. Where none is lost, each quote that is
left has cost a backslash, and so has each backslash that is left. -/
structure Spent (r : List Char) (u : Unquoter) : Prop where
  double : u.out.count '"' ≤ r.count '"'
  single : u.out.count '"' = r.count '"' → u.mode ≠ .double ∧ u.mode ≠ .doubleEscape ∧
    u.out.count '\'' + u.out.count '\\' + (if u.mode = .escape then 1 else 0) ≤ r.count '\\'

variable {u : Unquoter}

theorem Spent.step (h : Spent r u) (c : Char) : Spent (r ++ [c]) (u.step c) := by
  obtain ⟨hdouble, hsingle⟩ := h
  cases hm : u.mode with
  | plain | escape | single | double | doubleEscape =>
    constructor
    · simp only [Unquoter.step, hm]
      grind [append]
    · simp only [Unquoter.step, hm]
      grind [append]

theorem Spent.run (h : Spent r u) (t : List Char) : Spent (r ++ t) (t.foldl Unquoter.step u) := by
  induction t generalizing r u with
  | nil => rwa [List.append_nil]
  | cons c rest ih =>
    rw [List.append_cons]
    exact ih (h.step c)

end Unquoter

theorem unquote_count (h : unquote r = .ok v) : v.count '"' ≤ r.count '"' ∧
    (v.count '"' = r.count '"' → v.count '\'' + v.count '\\' ≤ r.count '\\') := by
  have hstart : Unquoter.Spent [] {} := ⟨Nat.le_refl _, fun _ => ⟨nofun, nofun, Nat.le_refl _⟩⟩
  have hspent := hstart.run r
  rw [List.nil_append] at hspent
  unfold unquote at h
  dsimp only at h
  split at h
  · cases h
    exact ⟨hspent.double, fun heq => Nat.le_of_add_right_le (hspent.single heq).2.2⟩
  · cases h

theorem mapM_unquote_count {tokens argv : List (List Char)} (h : tokens.mapM unquote = .ok argv) :
    argv.flatten.count '"' ≤ tokens.flatten.count '"' ∧ (argv.flatten.count '"' = tokens.flatten.count '"' →
      argv.flatten.count '\'' + argv.flatten.count '\\' ≤ tokens.flatten.count '\\') := by
  induction tokens generalizing argv with
  | nil =>
    cases h
    exact ⟨Nat.le_refl _, fun _ => Nat.le_refl _⟩
  | cons t rest ih =>
    rw [List.mapM_cons] at h
    cases ht : unquote t with
    | error e =>
      rw [ht] at h
      cases h
    | ok v =>
      cases hrest : rest.mapM unquote with
      | error e =>
        rw [ht, hrest] at h
        cases h
      | ok vs =>
        rw [ht, hrest] at h
        cases h
        obtain ⟨hdouble, hsingle⟩ := unquote_count ht
        obtain ⟨hdouble', hsingle'⟩ := ih hrest
        simp only [List.flatten_cons, List.count_append]
        refine ⟨by omega, fun heq => ?_⟩
        have hv := hsingle (by omega)
        have hvs := hsingle' (by omega)
        omega

/-- Whatever the command line: a double quote that is left has cost one, and where none
is lost, the single quotes and the backslashes that are left have cost a backslash each. -/
theorem parseArgv_count {line : List Char} {argv : List (List Char)} (h : parseArgv line = .ok argv) :
    argv.flatten.count '"' ≤ line.count '"' ∧ (argv.flatten.count '"' = line.count '"' →
      argv.flatten.count '\'' + argv.flatten.count '\\' ≤ line.count '\\') := by
  unfold parseArgv at h
  cases htokens : tokenize line with
  | error e =>
    rw [htokens] at h
    cases h
  | ok tokens =>
    rw [htokens] at h
    obtain ⟨hdouble, hsingle⟩ := mapM_unquote_count h
    have hquotes := tokenize_count htokens '"'
    have hbackslashes := tokenize_count htokens '\\'
    exact ⟨Nat.le_trans hdouble hquotes, fun heq => Nat.le_trans (hsingle (by omega)) hbackslashes⟩

/-! ### The quoting -/

theorem count_quoteChar (c d : Char) (hd : d ≠ '\'') (hd' : d ≠ '\\') : (quoteChar c).count d = [c].count d := by
  unfold quoteChar
  split
  · next hc =>
    subst hc
    rw [List.count_eq_zero_of_not_mem (by simp [hd, hd']), List.count_eq_zero_of_not_mem (by simp [hd])]
  · rfl

theorem count_quote {d : Char} (hd : d ≠ '\'') (hd' : d ≠ '\\') (s : List Char) : (quote s).count d = s.count d := by
  have hflat : (s.flatMap quoteChar).count d = s.count d := by
    induction s with
    | nil => rfl
    | cons c rest ih =>
      rw [List.flatMap_cons, List.count_append, ih, count_quoteChar c d hd hd', ← List.count_append]
      rfl
  have hend : ['\''].count d = 0 := List.count_eq_zero_of_not_mem (by simp [hd])
  rw [quote, List.count_cons_of_ne (Ne.symm hd), List.count_append, hflat, hend, Nat.add_zero]

theorem count_quote_backslash (s : List Char) : (quote s).count '\\' = s.count '\\' + s.count '\'' := by
  have hflat : (s.flatMap quoteChar).count '\\' = s.count '\\' + s.count '\'' := by
    induction s with
    | nil => rfl
    | cons c rest ih =>
      rw [List.flatMap_cons, List.count_append, ih]
      by_cases hc : c = '\''
      · subst hc
        simp [quoteChar]
        omega
      · simp [quoteChar, hc, List.count_cons]
        omega
  rw [quote, List.count_cons_of_ne (by decide), List.count_append, hflat]
  rfl

theorem count_blanks {c : Char} (hc : c ≠ ' ') (rs : List (List Char)) :
    (rs.flatMap fun r => ' ' :: r).count c = rs.flatten.count c := by
  induction rs with
  | nil => rfl
  | cons r rest ih =>
    rw [List.flatMap_cons, List.flatten_cons, List.count_append, List.count_append, ih,
      List.count_cons_of_ne (Ne.symm hc)]

end Shell
