import MateScreensaver.Lib.Shell

/-!
Command lines that are made longer: the words that are there stay, and what a further word
becomes depends on where the line has ended.
-/

namespace Shell

variable {line rest r v : List Char} {ts us argv argv' : List (List Char)}

namespace Lexer

variable {l : Lexer} {c : Char}

/- No word is begun before its first character. -/
def Solid (l : Lexer) : Prop := l.token ≠ some []

/- There is a word. -/
def Begun (l : Lexer) : Prop := l.tokens ≠ [] ∨ l.token ≠ none

theorem token_delimit (l : Lexer) : l.delimit.token = none := by
  unfold delimit
  split
  · rfl
  · next h => exact h

theorem tokens_delimit (l : Lexer) : l.delimit.tokens = l.tokens ++ l.token.toList := by
  unfold delimit
  split
  · next h => rw [h, Option.toList_some]
  · next h => rw [h, Option.toList_none, List.append_nil]

/- What one character does to the words: nothing, a word is ended, or the last one is longer. -/
inductive Does (l l' : Lexer) : Prop
  | keeps (token : l'.token = l.token) (tokens : l'.tokens = l.tokens)
  | ends (token : l'.token = none) (tokens : l'.tokens = l.tokens ++ l.token.toList)
  | gains (w : List Char) (ne : w ≠ []) (token : l'.token = some (l.token.getD [] ++ w)) (tokens : l'.tokens = l.tokens)

theorem readPlain_does (l : Lexer) (c : Char) : Does l (l.readPlain c) := by
  unfold readPlain
  split_ifs
  · exact .ends (token_delimit l) (tokens_delimit l)
  · exact .ends (token_delimit l) (tokens_delimit l)
  · exact .keeps rfl rfl
  · exact .gains [c] (List.cons_ne_nil _ _) rfl rfl
  · exact .gains [c] (List.cons_ne_nil _ _) rfl rfl
  · exact .keeps rfl rfl
  · exact .keeps rfl rfl
  · exact .gains [c] (List.cons_ne_nil _ _) rfl rfl

theorem read_does (l : Lexer) (c : Char) : Does l (l.read c) := by
  unfold read
  split
  · exact readPlain_does l c
  · split
    · exact .keeps rfl rfl
    · exact .gains ['\\', c] (List.cons_ne_nil _ _) rfl rfl
  · exact .gains [c] (List.cons_ne_nil _ _) rfl rfl
  · exact .gains [c] (List.cons_ne_nil _ _) rfl rfl
  · exact .keeps rfl rfl
  · exact .keeps rfl rfl

theorem step_does (l : Lexer) (c : Char) : Does l (l.step c) := by
  cases read_does l c with
  | keeps token tokens => exact .keeps token tokens
  | ends token tokens => exact .ends token tokens
  | gains w ne token tokens => exact .gains w ne token tokens

theorem Solid.step (h : l.Solid) (c : Char) : (l.step c).Solid := by
  intro hnone
  cases step_does l c with
  | keeps token tokens => exact h (token.symm.trans hnone)
  | ends token tokens => exact absurd (token.symm.trans hnone) nofun
  | gains w ne token tokens =>
    have hnil := Option.some.inj (token.symm.trans hnone)
    exact ne (List.append_eq_nil_iff.1 hnil).2

theorem Begun.step (h : l.Begun) (c : Char) : (l.step c).Begun := by
  cases step_does l c with
  | keeps token tokens =>
    rw [Begun, token, tokens]
    exact h
  | ends token tokens =>
    apply Or.inl
    rw [tokens]
    cases h with
    | inl h => exact List.append_ne_nil_of_left_ne_nil h _
    | inr h =>
      obtain ⟨t, ht⟩ := Option.ne_none_iff_exists'.1 h
      rw [ht]
      exact List.append_ne_nil_of_right_ne_nil _ (List.cons_ne_nil _ _)
  | gains w ne token tokens =>
    apply Or.inr
    rw [token]
    nofun

theorem solid_run (h : l.Solid) (line : List Char) : (line.foldl step l).Solid := by
  induction line generalizing l with
  | nil => exact h
  | cons c rest ih => exact ih (h.step c)

theorem begun_run (h : l.Begun) (line : List Char) : (line.foldl step l).Begun := by
  induction line generalizing l with
  | nil => exact h
  | cons c rest ih => exact ih (h.step c)

theorem begun_iff : l.Begun ↔ l.delimit.tokens ≠ [] := by
  unfold Begun
  rw [tokens_delimit, ne_eq, ne_eq, ne_eq, List.append_eq_nil_iff, Option.toList_eq_nil_iff, not_and_or]

/- A blank outside quotes ends the word. -/
theorem step_blank (hs : l.Solid) (hl : l.quoting = .plain) :
    (l.step ' ').quoting = .plain ∧ (l.step ' ').token = none ∧ (l.step ' ').tokens = l.delimit.tokens := by
  have hread : l.read ' ' = if l.token.getD [] ≠ [] then l.delimit else l := by simp [read, hl, readPlain]
  rw [step_quoting, step_token, step_tokens, hread]
  cases ht : l.token with
  | none => exact ⟨hl, ht, by rw [tokens_delimit, ht, Option.toList_none, List.append_nil]; rfl⟩
  | some t =>
    have hne : t ≠ [] := fun hnil => hs (by rw [ht, hnil])
    rw [Option.getD_some, if_pos hne]
    exact ⟨(quoting_delimit l).trans hl, token_delimit l, rfl⟩

/- A comment goes on to the end of the line. -/
theorem comment_run (hl : l.quoting = .hash ∨ l.quoting = .comment) (hline : '\n' ∉ line) (hne : line ≠ []) :
    (line.foldl step l).quoting = .comment ∧ (line.foldl step l).token = l.token ∧
      (line.foldl step l).tokens = l.tokens := by
  have hstep {m : Lexer} {d : Char} (hm : m.quoting = .hash ∨ m.quoting = .comment) (hd : d ≠ '\n') :
      (m.step d).quoting = .comment ∧ (m.step d).token = m.token ∧ (m.step d).tokens = m.tokens := by
    rcases hm with hm | hm
    · simp [read, hm, hd]
    · simp [read, hm, hd]
  induction line generalizing l with
  | nil => exact absurd rfl hne
  | cons c rest ih =>
    obtain ⟨hc, hrest⟩ := not_or.1 (mt List.mem_cons.2 hline)
    obtain ⟨hquoting, htoken, htokens⟩ := hstep hl (Ne.symm hc)
    cases rest with
    | nil => exact ⟨hquoting, htoken, htokens⟩
    | cons d rest =>
      obtain ⟨hquoting', htoken', htokens'⟩ := ih (.inr hquoting) hrest (List.cons_ne_nil _ _)
      exact ⟨hquoting', htoken'.trans htoken, htokens'.trans htokens⟩

/- Quotes that are not closed stay open. -/
theorem open_run (hl : l.quoting = .single ∨ l.quoting = .double) (hline : '\'' ∉ line ∧ '"' ∉ line) :
    (line.foldl step l).quoting = .single ∨ (line.foldl step l).quoting = .double := by
  induction line generalizing l with
  | nil => exact hl
  | cons c rest ih =>
    obtain ⟨⟨hc, hrest⟩, hc', hrest'⟩ := hline.imp (fun h => not_or.1 (mt List.mem_cons.2 h))
      (fun h => not_or.1 (mt List.mem_cons.2 h))
    apply ih _ ⟨hrest, hrest'⟩
    rcases hl with hl | hl
    · simp [read, hl, Ne.symm hc]
    · simp [read, hl, Ne.symm hc']

end Lexer

/- Where a line ends. -/
def ending (line : List Char) : Quoting := (line.foldl Lexer.step {}).quoting

theorem solid_line (line : List Char) : (line.foldl Lexer.step {}).Solid := Lexer.solid_run (by nofun) line

theorem tokenize_eq (line : List Char) : tokenize line =
    if ending line = .plain ∨ ending line = .comment then
      if (line.foldl Lexer.step {}).delimit.tokens = [] then .error .emptyString
      else .ok (line.foldl Lexer.step {}).delimit.tokens
    else .error .badQuoting := by
  rw [tokenize, Lexer.quoting_delimit]
  rfl

theorem tokenize_ok_iff : tokenize line = .ok ts ↔ (ending line = .plain ∨ ending line = .comment) ∧ ts ≠ [] ∧
    (line.foldl Lexer.step {}).delimit.tokens = ts := by
  rw [tokenize_eq]
  split_ifs with hending hnil
  · exact ⟨nofun, fun h => absurd (h.2.2.symm.trans hnil) h.2.1⟩
  · exact ⟨fun h => ⟨hending, Except.ok.inj h ▸ hnil, Except.ok.inj h⟩, fun h => congrArg _ h.2.2⟩
  · exact ⟨nofun, fun h => absurd h.1 hending⟩

theorem tokenize_badQuoting_iff : tokenize line = .error .badQuoting ↔ ¬ (ending line = .plain ∨ ending line = .comment) := by
  rw [tokenize_eq]
  split_ifs with hending hnil
  · exact ⟨nofun, fun h => absurd hending h⟩
  · exact ⟨nofun, fun h => absurd hending h⟩
  · exact iff_of_true rfl hending

/- There is a word in a longer line too. -/
theorem tokens_ne_nil (h : tokenize line = .ok ts) (rest : List Char) :
    ((line ++ rest).foldl Lexer.step {}).delimit.tokens ≠ [] := by
  obtain ⟨-, hne, htokens⟩ := tokenize_ok_iff.1 h
  have hbegun : (line.foldl Lexer.step {}).Begun := Lexer.begun_iff.2 (htokens ▸ hne)
  rw [List.foldl_append]
  exact Lexer.begun_iff.1 (Lexer.begun_run hbegun rest)

/-! ### Words -/

theorem mapM_unquote_append (ts us : List (List Char)) :
    (ts ++ us).mapM unquote = (do let vs ← ts.mapM unquote; let ws ← us.mapM unquote; pure (vs ++ ws)) :=
  List.mapM_append

theorem mapM_append_ok (h : (ts ++ us).mapM unquote = .ok argv) :
    ∃ vs ws, ts.mapM unquote = .ok vs ∧ us.mapM unquote = .ok ws ∧ argv = vs ++ ws := by
  rw [mapM_unquote_append] at h
  cases hts : ts.mapM unquote with
  | error e =>
    rw [hts] at h
    cases h
  | ok vs =>
    cases hus : us.mapM unquote with
    | error e =>
      rw [hts, hus] at h
      cases h
    | ok ws =>
      rw [hts, hus] at h
      exact ⟨vs, ws, rfl, rfl, (Except.ok.inj h).symm⟩

theorem parseArgv_ok_iff : parseArgv line = .ok argv ↔ ∃ ts, tokenize line = .ok ts ∧ ts.mapM unquote = .ok argv := by
  rw [parseArgv]
  cases h : tokenize line with
  | error e =>
    constructor
    · intro hbind
      cases hbind
    · intro hex
      obtain ⟨ts, hts, -⟩ := hex
      cases hts
  | ok ts =>
    constructor
    · intro hmap
      exact ⟨ts, rfl, hmap⟩
    · intro hex
      obtain ⟨us, hus, hmap⟩ := hex
      cases hus
      exact hmap

/- What a further word becomes, by where the line has ended. -/
inductive Further (line r : List Char) : Prop
  | plain (h : ending line = .plain) (ending : ending (line ++ ' ' :: r) = .plain)
    (tokens : ((line ++ ' ' :: r).foldl Lexer.step {}).delimit.tokens = (line.foldl Lexer.step {}).delimit.tokens ++ [r])
  | comment (h : ending line = .hash ∨ ending line = .comment) (ending : ending (line ++ ' ' :: r) = .comment)
    (tokens : ((line ++ ' ' :: r).foldl Lexer.step {}).delimit.tokens = (line.foldl Lexer.step {}).delimit.tokens)
  | backslash (h : ending line = .backslash)
  | quotes (h : ending line = .single ∨ ending line = .double)
    (ending : ending (line ++ ' ' :: r) = .single ∨ ending (line ++ ' ' :: r) = .double)

theorem further (line : List Char) (hr : Word r v) (hplain : ∀ c ∈ r, c ≠ '\n' ∧ c ≠ '\'' ∧ c ≠ '"') : Further line r := by
  have hfold : (line ++ ' ' :: r).foldl Lexer.step {} = (' ' :: r).foldl Lexer.step (line.foldl Lexer.step {}) :=
    List.foldl_append
  have hnewline : '\n' ∉ ' ' :: r := by
    intro h
    cases List.mem_cons.1 h with
    | inl h => exact absurd h (by decide)
    | inr h => exact (hplain _ h).1 rfl
  have hquotes : '\'' ∉ ' ' :: r ∧ '"' ∉ ' ' :: r := by
    constructor
    · intro h
      cases List.mem_cons.1 h with
      | inl h => exact absurd h (by decide)
      | inr h => exact (hplain _ h).2.1 rfl
    · intro h
      cases List.mem_cons.1 h with
      | inl h => exact absurd h (by decide)
      | inr h => exact (hplain _ h).2.2 rfl
  have hcases : ending line = .plain ∨ (ending line = .hash ∨ ending line = .comment) ∨ ending line = .backslash ∨
      (ending line = .single ∨ ending line = .double) := by
    cases ending line <;> simp
  rcases hcases with hq | hq | hq | hq
  · obtain ⟨hquoting, htoken, htokens⟩ := Lexer.step_blank (solid_line line) hq
    have hgained := Lexer.gained_word hquoting hr
    apply Further.plain hq
    · rw [ending, hfold]
      exact hgained.quoting
    · rw [hfold, Lexer.tokens_delimit, List.foldl_cons, hgained.token, hgained.tokens, htoken, htokens]
      rfl
  · obtain ⟨hquoting, htoken, htokens⟩ := Lexer.comment_run hq hnewline (List.cons_ne_nil _ _)
    apply Further.comment hq
    · rw [ending, hfold]
      exact hquoting
    · rw [hfold, Lexer.tokens_delimit, htoken, htokens, Lexer.tokens_delimit]
  · exact .backslash hq
  · apply Further.quotes hq
    rw [ending, hfold]
    exact Lexer.open_run hq hquotes

end Shell
