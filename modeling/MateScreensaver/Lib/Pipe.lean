import MateScreensaver.Lib.Process

/-!
Two programs with a pipe between them. The writer's calls may take any part of what is
offered, the reader's calls may give any part of what is there, and the end of the file
is seen when the writer is done and the pipe is empty.
-/

namespace Process

variable {Q : Type} {A : Q → Type} {α β : Type}

structure Link (Q : Type) (A : Q → Type) (α β : Type) where
  writer : Prog Q A α
  pipe : List UInt8
  reader : Prog Q A β

namespace Link

inductive Step : Link Q A α β → Link Q A α β → Prop
  | write {b k n pipe r} : 0 < n → n ≤ b.length →
      Step ⟨.write b k, pipe, r⟩ ⟨k (some n), pipe ++ b.take n, r⟩
  | read {w u v n k} : u ≠ [] → u.length ≤ n → Step ⟨w, u ++ v, .read n k⟩ ⟨w, v, k (some u)⟩
  | eof {a n k} : Step ⟨.done a, [], .read n k⟩ ⟨.done a, [], k (some [])⟩

inductive Steps : ℕ → Link Q A α β → Link Q A α β → Prop
  | zero (l) : Steps 0 l l
  | succ {n l m r} : Step l m → Steps n m r → Steps (n + 1) l r

/- However the calls are cut and interleaved, the two get to their ends in boundedly
many steps, with these results and nothing left in the pipe. -/
def Delivers (l : Link Q A α β) (a : α) (b : β) : Prop := ∃ bound, ∀ n l', Steps n l l' →
  n ≤ bound ∧ ((∀ m, ¬ Step l' m) → l' = ⟨.done a, [], .done b⟩)

end Link

/- What a program does when each of its reads meets the end of the file, and how many
there are. -/
inductive AtEnd : Prog Q A β → ℕ → β → Prop
  | done (b) : AtEnd (.done b) 0 b
  | read {n k d b} : AtEnd (k (some [])) d b → AtEnd (.read n k) (d + 1) b

namespace Link

/- What is still to be written and what is in the pipe make up what is still to be read. -/
def Sent (a : α) (b : β) (bound : ℕ) (l : Link Q A α β) : Prop := ∃ rest q d,
  Produces l.writer rest (.done a) ∧ Consumes l.reader (l.pipe ++ rest) q ∧ AtEnd q d b ∧
    bound = 2 * rest.length + l.pipe.length + d

variable {a : α} {b : β} {bound : ℕ} {l l' : Link Q A α β}

theorem Sent.step (h : Sent a b bound l) (hstep : Step l l') : ∃ bound', bound' < bound ∧ Sent a b bound' l' := by
  obtain ⟨rest, q, d, hwrites, hreads, hend, rfl⟩ := h
  cases hstep with
  | @write bytes k n pipe r hpos hle =>
    obtain ⟨hrest, hcut⟩ := hwrites.chunk nofun hpos hle
    have hlen := congrArg List.length hcut
    rw [List.length_append, List.length_take_of_le hle] at hlen
    refine ⟨_, ?_, rest.drop n, q, d, hrest, ?_, hend, rfl⟩
    · simp only [List.length_append, List.length_take_of_le hle]
      omega
    · dsimp only at hreads ⊢
      rwa [List.append_assoc, hcut]
  | @read w u v n k hu hlen =>
    dsimp only at hreads
    rw [List.append_assoc] at hreads
    have hpos : 0 < u.length := List.length_pos_iff.2 hu
    refine ⟨_, ?_, rest, q, d, hwrites, hreads.chunk hu hlen, hend, rfl⟩
    simp only [List.length_append]
    omega
  | @eof a' n k =>
    obtain ⟨rfl, hdone⟩ := hwrites.stays nofun
    cases hdone
    have hq := hreads.nothing
    subst hq
    cases hend with
    | @read _ _ d _ hend => exact ⟨d, by simp, [], _, d, .nil _, .nil _, hend, by simp⟩

/- As long as the two are not at their ends, one of them can go on. -/
theorem Sent.goes_on (h : Sent a b bound l) : (∃ m, Step l m) ∨ l = ⟨.done a, [], .done b⟩ := by
  obtain ⟨writer, pipe, reader⟩ := l
  obtain ⟨rest, q, d, hwrites, hreads, hend, -⟩ := h
  dsimp only at hwrites hreads
  cases hwrites with
  | @write bytes k _ _ hbytes hpre hrest =>
    have hpos : 0 < bytes.length := List.length_pos_iff.2 hbytes
    exact .inl ⟨_, .write hpos (Nat.le_refl _)⟩
  | nil =>
    rw [List.append_nil] at hreads
    cases pipe with
    | nil =>
      have hq := hreads.nothing
      subst hq
      cases hend with
      | done b => exact .inr rfl
      | read hend => exact .inl ⟨_, .eof⟩
    | cons c pipe =>
      cases hreads with
      | read hpos _ _ => exact .inl ⟨_, .read (u := [c]) (List.cons_ne_nil c []) hpos⟩

theorem Sent.steps {n : ℕ} (h : Sent a b bound l) (hsteps : Steps n l l') :
    n ≤ bound ∧ ∃ bound', Sent a b bound' l' := by
  induction hsteps generalizing bound with
  | zero l => exact ⟨Nat.zero_le _, bound, h⟩
  | succ hstep _ ih =>
    obtain ⟨bound', hlt, h'⟩ := h.step hstep
    obtain ⟨hle, hlast⟩ := ih h'
    exact ⟨by omega, hlast⟩

/- A writer that puts out a string and a reader that takes it in, and knows what to do at
the end of the file, understand each other. -/
theorem delivers {writer : Prog Q A α} {reader q : Prog Q A β} {w : List UInt8} {d : ℕ}
    (hwrites : Produces writer w (.done a)) (hreads : Consumes reader w q) (hend : AtEnd q d b) :
    Delivers ⟨writer, [], reader⟩ a b := by
  refine ⟨2 * w.length + 0 + d, fun n l' hsteps => ?_⟩
  have hsent : Sent a b (2 * w.length + 0 + d) (⟨writer, [], reader⟩ : Link Q A α β) :=
    ⟨w, q, d, hwrites, hreads, hend, rfl⟩
  obtain ⟨hle, bound', hlast⟩ := hsent.steps hsteps
  exact ⟨hle, fun hstuck => hlast.goes_on.resolve_left fun ⟨m, hm⟩ => hstuck m hm⟩

end Link
end Process
