import Mathlib.Data.List.Basic
import Mathlib.Logic.Relation

/-!
Processes as trees: what they read, write and ask of their surroundings. A trace
lists the answers they met; rules carry facts about all traces along a program.
-/

namespace Process

/- `none` answers a read or a write that failed, an empty chunk is the end of the
file, and a write is answered with the number of bytes that went out. -/
inductive Prog (Q : Type) (A : Q → Type) (α : Type)
  | done (a : α)
  | read (count : ℕ) (k : Option (List UInt8) → Prog Q A α)
  | write (bytes : List UInt8) (k : Option ℕ → Prog Q A α)
  | ask (q : Q) (k : A q → Prog Q A α)

inductive Act (Q : Type) (A : Q → Type)
  | read (count : ℕ) (got : Option (List UInt8))
  | write (bytes : List UInt8) (put : Option ℕ)
  | ask (q : Q) (r : A q)

variable {Q : Type} {A : Q → Type} {α β γ : Type}

namespace Prog

def bind : Prog Q A α → (α → Prog Q A β) → Prog Q A β
  | done a, f => f a
  | read n k, f => read n fun r => (k r).bind f
  | write b k, f => write b fun r => (k r).bind f
  | ask q k, f => ask q fun r => (k r).bind f

@[simp] theorem done_bind (a : α) (f : α → Prog Q A β) : (done a).bind f = f a := rfl

protected theorem bind_assoc (p : Prog Q A α) (f : α → Prog Q A β) (g : β → Prog Q A γ) :
    (p.bind f).bind g = p.bind fun a => (f a).bind g := by
  induction p with
  | done a => rfl
  | read n k ih => exact congrArg (Prog.read n) (funext ih)
  | write b k ih => exact congrArg (Prog.write b) (funext ih)
  | ask q k ih => exact congrArg (Prog.ask q) (funext ih)

end Prog

/-! ### Traces -/

/-- With these answers the program ends with this result. -/
inductive Runs : Prog Q A α → List (Act Q A) → α → Prop
  | done (a) : Runs (.done a) [] a
  | read {n k w a} (r) : Runs (k r) w a → Runs (.read n k) (.read n r :: w) a
  | write {b k w a} (r) : Runs (k r) w a → Runs (.write b k) (.write b r :: w) a
  | ask {q k w a} (r : A q) : Runs (k r) w a → Runs (.ask q k) (.ask q r :: w) a

theorem runs_bind {p : Prog Q A α} {f : α → Prog Q A β} {w : List (Act Q A)} {b : β}
    (h : Runs (p.bind f) w b) : ∃ u v a, w = u ++ v ∧ Runs p u a ∧ Runs (f a) v b := by
  induction p generalizing w with
  | done a => exact ⟨[], w, a, rfl, .done a, h⟩
  | read n k ih =>
    cases h with
    | read r h =>
      obtain ⟨u, v, a, rfl, hu, hv⟩ := ih r h
      exact ⟨_, v, a, rfl, .read r hu, hv⟩
  | write b k ih =>
    cases h with
    | write r h =>
      obtain ⟨u, v, a, rfl, hu, hv⟩ := ih r h
      exact ⟨_, v, a, rfl, .write r hu, hv⟩
  | ask q k ih =>
    cases h with
    | ask r h =>
      obtain ⟨u, v, a, rfl, hu, hv⟩ := ih r h
      exact ⟨_, v, a, rfl, .ask r hu, hv⟩

theorem Runs.bind {p : Prog Q A α} {f : α → Prog Q A β} {u v : List (Act Q A)} {a : α} {b : β} (hp : Runs p u a)
    (hf : Runs (f a) v b) : Runs (p.bind f) (u ++ v) b := by
  induction hp with
  | done a => exact hf
  | read r _ ih => exact .read r (ih hf)
  | write r _ ih => exact .write r (ih hf)
  | ask r _ ih => exact .ask r (ih hf)

/- A trace leaves a program no choice. -/
theorem Runs.unique {p : Prog Q A α} {u u' x x' : List (Act Q A)} {a a' : α} (h : Runs p u a) (h' : Runs p u' a')
    (heq : u ++ x = u' ++ x') : a = a' ∧ u = u' ∧ x = x' := by
  induction h generalizing u' with
  | done a =>
    cases h'
    exact ⟨rfl, rfl, heq⟩
  | read r _ ih =>
    cases h' with
    | read r' h' =>
      obtain ⟨hact, hrest⟩ := List.cons.inj heq
      cases hact
      obtain ⟨ha, rfl, hx⟩ := ih h' hrest
      exact ⟨ha, rfl, hx⟩
  | write r _ ih =>
    cases h' with
    | write r' h' =>
      obtain ⟨hact, hrest⟩ := List.cons.inj heq
      cases hact
      obtain ⟨ha, rfl, hx⟩ := ih h' hrest
      exact ⟨ha, rfl, hx⟩
  | ask r _ ih =>
    cases h' with
    | ask r' h' =>
      obtain ⟨hact, hrest⟩ := List.cons.inj heq
      cases hact
      obtain ⟨ha, rfl, hx⟩ := ih h' hrest
      exact ⟨ha, rfl, hx⟩

/-- Whatever the answers are, `P` relates the trace to the result. -/
def Ensures (p : Prog Q A α) (P : List (Act Q A) → α → Prop) : Prop := ∀ w a, Runs p w a → P w a

section Rules

variable {P : List (Act Q A) → α → Prop}

theorem ensures_done {a : α} (h : P [] a) : Ensures (.done a) P := by
  intro w b hr
  cases hr
  exact h

theorem ensures_ask {q : Q} {k : A q → Prog Q A α}
    (h : ∀ r, Ensures (k r) fun w a => P (.ask q r :: w) a) : Ensures (.ask q k) P := by
  intro w a hr
  cases hr with
  | ask r hr => exact h r _ _ hr

theorem Ensures.mono {R : List (Act Q A) → α → Prop} {p : Prog Q A α} (hp : Ensures p R)
    (h : ∀ w a, R w a → P w a) : Ensures p P := fun w a hr => h w a (hp w a hr)

theorem Ensures.bind {R : List (Act Q A) → α → Prop} {S : List (Act Q A) → β → Prop} {p : Prog Q A α}
    {f : α → Prog Q A β} (hp : Ensures p R)
    (h : ∀ u a, R u a → Ensures (f a) fun v b => S (u ++ v) b) : Ensures (p.bind f) S := by
  intro w b hr
  obtain ⟨u, v, a, rfl, hu, hv⟩ := runs_bind hr
  exact h u a (hp u a hu) v b hv

/- Two ways to go on that agree on every result there can be. -/
theorem Ensures.bind_congr {R : α → Prop} {p : Prog Q A α} {f g : α → Prog Q A β} (hp : Ensures p fun _ a => R a)
    (h : ∀ a, R a → f a = g a) : p.bind f = p.bind g := by
  induction p with
  | done a => exact h a (hp _ _ (.done a))
  | read n k ih => exact congrArg (Prog.read n) (funext fun r => ih r fun w a hr => hp _ _ (.read r hr))
  | write b k ih => exact congrArg (Prog.write b) (funext fun r => ih r fun w a hr => hp _ _ (.write r hr))
  | ask q k ih => exact congrArg (Prog.ask q) (funext fun r => ih r fun w a hr => hp _ _ (.ask r hr))

end Rules

/- Whatever the answers, only these questions are asked. -/
def OnlyAsks (S : Q → Prop) : Prog Q A α → Prop
  | .done _ => True
  | .read _ k => ∀ r, OnlyAsks S (k r)
  | .write _ k => ∀ r, OnlyAsks S (k r)
  | .ask q k => S q ∧ ∀ r, OnlyAsks S (k r)

theorem OnlyAsks.bind {S : Q → Prop} {p : Prog Q A α} {f : α → Prog Q A β} (hp : OnlyAsks S p)
    (hf : ∀ a, OnlyAsks S (f a)) : OnlyAsks S (p.bind f) := by
  induction p with
  | done a => exact hf a
  | read n k ih => exact fun r => ih r (hp r)
  | write b k ih => exact fun r => ih r (hp r)
  | ask q k ih => exact ⟨hp.1, fun r => ih r (hp.2 r)⟩

theorem OnlyAsks.runs {S : Q → Prop} {p : Prog Q A α} {w : List (Act Q A)} {a : α} (hp : OnlyAsks S p)
    (h : Runs p w a) : ∀ q r, .ask q r ∈ w → S q := by
  induction h with
  | done a => exact fun q r hm => absurd hm List.not_mem_nil
  | read r _ ih =>
    intro q s hm
    obtain hm | hm := List.mem_cons.1 hm
    · cases hm
    · exact ih (hp r) q s hm
  | write r _ ih =>
    intro q s hm
    obtain hm | hm := List.mem_cons.1 hm
    · cases hm
    · exact ih (hp r) q s hm
  | ask r _ ih =>
    intro q s hm
    obtain hm | hm := List.mem_cons.1 hm
    · cases hm
      exact hp.1
    · exact ih (hp.2 r) q s hm

/-! ### Loops -/

/-- A loop is entered through `start`; its body is run again as long as it gives
nothing. -/
inductive LoopRuns (body : Prog Q A (Option β)) : Prog Q A (Option β) → List (Act Q A) → β → Prop
  | stop {start w b} : Runs start w (some b) → LoopRuns body start w b
  | again {start u v b} : Runs start u none → LoopRuns body body v b → LoopRuns body start (u ++ v) b

/-! ### Programs that take in or put out a byte string

The chunks are the other side's business: the rules hold for all ways to cut. -/

/-- Fed with `w`, and with nothing that comes after it, `p` comes to `q`. -/
inductive Consumes : Prog Q A α → List UInt8 → Prog Q A α → Prop
  | nil (q) : Consumes q [] q
  | read {n k w q} : 0 < n → n ≤ w.length →
      (∀ u v, w = u ++ v → u ≠ [] → u.length ≤ n → Consumes (k (some u)) v q) → Consumes (.read n k) w q

/-- `p` writes `w` and comes to `q`. -/
inductive Produces : Prog Q A α → List UInt8 → Prog Q A α → Prop
  | nil (q) : Produces q [] q
  | write {b k w q} : b ≠ [] → b <+: w →
      (∀ n, 0 < n → n ≤ b.length → Produces (k (some n)) (w.drop n) q) → Produces (.write b k) w q

section Streams

variable {p q r : Prog Q A α} {u v w : List UInt8}

theorem Consumes.append (h : Consumes p u q) (h' : Consumes q v r) : Consumes p (u ++ v) r := by
  induction h with
  | nil => exact h'
  | @read n k w q hpos hn _ ih =>
    refine .read hpos ?_ fun x y hxy hx hlen => ?_
    · rw [List.length_append]
      omega
    -- the chunk lies within the first string, which is at least as long as what is asked for
    · obtain ⟨z, hwz, hyz⟩ : ∃ z, w = x ++ z ∧ y = z ++ v := by
        obtain ⟨z, hx', hv⟩ | ⟨z, hw', hy⟩ := List.append_eq_append_iff.1 hxy
        · have hz : z = [] := by
            have hlength := congrArg List.length hx'
            rw [List.length_append] at hlength
            exact List.eq_nil_of_length_eq_zero (by omega)
          subst hz
          rw [List.append_nil] at hx'
          exact ⟨[], by rw [hx', List.append_nil], hv.symm⟩
        · exact ⟨z, hw', hy⟩
      rw [hyz]
      exact ih x z hwz hx hlen h'

theorem Consumes.bind {f : α → Prog Q A β} (h : Consumes p w q) : Consumes (p.bind f) w (q.bind f) := by
  induction h with
  | nil => exact .nil _
  | read hpos hn _ ih => exact .read hpos hn ih

theorem Consumes.trans_eq (h : Consumes p w q) (he : q = r) : Consumes p w r := he ▸ h

theorem Consumes.stays (h : Consumes p w q) (hp : ∀ n k, p ≠ .read n k) : w = [] ∧ p = q := by
  cases h with
  | nil => exact ⟨rfl, rfl⟩
  | read => exact absurd rfl (hp _ _)

theorem Consumes.chunk {n : ℕ} {k : Option (List UInt8) → Prog Q A α} (h : Consumes (.read n k) (u ++ v) q)
    (hu : u ≠ []) (hlen : u.length ≤ n) : Consumes (k (some u)) v q := by
  generalize hw : u ++ v = w at h
  cases h with
  | nil => exact absurd (List.append_eq_nil_iff.1 hw).1 hu
  | read _ _ h => exact h u v hw.symm hu hlen

theorem Consumes.nothing (h : Consumes p [] q) : p = q := by
  cases h with
  | nil => rfl
  | read hpos hle => exact absurd (Nat.lt_of_lt_of_le hpos hle) (Nat.lt_irrefl 0)

/- What a string leads to does not depend on the cuts. -/
theorem Consumes.unique {a b : α} (h : Consumes p w (.done a)) (h' : Consumes p w (.done b)) : a = b := by
  generalize hq : (Prog.done a : Prog Q A α) = q at h
  induction h with
  | nil =>
    subst hq
    cases h'
    rfl
  | @read n k w q hpos hn _ ih =>
    cases h' with
    | read _ _ h' =>
      have hcut : w = w.take n ++ w.drop n := (List.take_append_drop n w).symm
      have hlen : (w.take n).length = n := List.length_take_of_le hn
      have hne : w.take n ≠ [] := by
        intro h0
        rw [h0, List.length_nil] at hlen
        omega
      exact ih _ _ hcut hne (Nat.le_of_eq hlen) (h' _ _ hcut hne (Nat.le_of_eq hlen)) hq

theorem take_append_drop_within {b : List UInt8} {n : ℕ} (hpre : b <+: w) (hle : n ≤ b.length) :
    b.take n ++ w.drop n = w := by
  obtain ⟨rest, rfl⟩ := hpre
  rw [← List.take_append_of_le_length hle, List.take_append_drop]

theorem Produces.append (h : Produces p u q) (h' : Produces q v r) : Produces p (u ++ v) r := by
  induction h with
  | nil => exact h'
  | @write b k w q hb hpre _ ih =>
    refine .write hb (hpre.trans (List.prefix_append _ _)) fun n hn hle => ?_
    have hlen := hpre.length_le
    rw [List.drop_append_of_le_length (by omega)]
    exact ih n hn hle h'

theorem Produces.bind {f : α → Prog Q A β} (h : Produces p w q) : Produces (p.bind f) w (q.bind f) := by
  induction h with
  | nil => exact .nil _
  | write hb hpre _ ih => exact .write hb hpre ih

theorem Produces.trans_eq (h : Produces p w q) (he : q = r) : Produces p w r := he ▸ h

theorem Produces.stays (h : Produces p w q) (hp : ∀ b k, p ≠ .write b k) : w = [] ∧ p = q := by
  cases h with
  | nil => exact ⟨rfl, rfl⟩
  | write => exact absurd rfl (hp _ _)

theorem Produces.nothing (h : Produces p [] q) : p = q := by
  cases h with
  | nil => rfl
  | write hb hpre => exact absurd (List.prefix_nil.1 hpre) hb

theorem Produces.chunk {b : List UInt8} {k : Option ℕ → Prog Q A α} (h : Produces (.write b k) w q)
    (hq : ∀ b k, q ≠ .write b k) {n : ℕ} (hpos : 0 < n) (hle : n ≤ b.length) :
    Produces (k (some n)) (w.drop n) q ∧ b.take n ++ w.drop n = w := by
  cases h with
  | nil => exact absurd rfl (hq _ _)
  | write _ hpre h => exact ⟨h n hpos hle, take_append_drop_within hpre hle⟩

/-! What a program can do in surroundings that let it go on: `pos` is where it is
with what waits to be read, or with what it has written. -/

variable {σ : Type} {R : σ → σ → Prop} (pos : Prog Q A α → List UInt8 → σ)

theorem Consumes.steps (h : Consumes p w q)
    (hstep : ∀ n k u v, u ≠ [] → u.length ≤ n → R (pos (.read n k) (u ++ v)) (pos (k (some u)) v)) :
    Relation.ReflTransGen R (pos p w) (pos q []) := by
  induction h with
  | nil => exact .refl
  | @read n k w q hpos hn _ ih =>
    have hcut : w.take n ++ w.drop n = w := List.take_append_drop n w
    have hlen : (w.take n).length = n := List.length_take_of_le hn
    have hne : w.take n ≠ [] := by
      intro h0
      rw [h0, List.length_nil] at hlen
      omega
    have hfirst := hstep n k (w.take n) (w.drop n) hne (Nat.le_of_eq hlen)
    rw [hcut] at hfirst
    exact .head hfirst (ih _ _ hcut.symm hne (Nat.le_of_eq hlen))

theorem Produces.steps (h : Produces p w q)
    (hstep : ∀ b k out, b ≠ [] → R (pos (.write b k) out) (pos (k (some b.length)) (out ++ b)))
    (out : List UInt8) : Relation.ReflTransGen R (pos p out) (pos q (out ++ w)) := by
  induction h generalizing out with
  | nil =>
    rw [List.append_nil]
  | @write b k w q hb hpre _ ih =>
    have hpos : 0 < b.length := List.length_pos_iff.2 hb
    have hwhole : b ++ w.drop b.length = w := by
      have hcut := take_append_drop_within hpre (Nat.le_refl b.length)
      rwa [List.take_length] at hcut
    have hrest := ih b.length hpos (Nat.le_refl _) (out ++ b)
    rw [List.append_assoc, hwhole] at hrest
    exact .head (hstep b k out hb) hrest

end Streams

end Process
