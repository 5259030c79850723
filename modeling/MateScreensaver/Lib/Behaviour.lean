import MateScreensaver.Lib.Process

/-!
Programs run against one behaviour of their surroundings: call by call it is settled
beforehand what a read, a write or a question comes back with.
-/

namespace Process

variable {Q : Type} {A : Q → Type} {α β : Type}

/- The answers by the number of the call. No more is read than was asked for, and no
more written than was there. -/
structure Behaviour (Q : Type) (A : Q → Type) where
  read : ℕ → ℕ → Option (List UInt8)
  write : ℕ → List UInt8 → Option ℕ
  answer : ℕ → (q : Q) → A q
  read_le : ∀ i n u, read i n = some u → u.length ≤ n
  write_le : ∀ i b n, write i b = some n → n ≤ b.length

/- What has come of a program: its result, the number of the next call, and the bytes
that went in and out. -/
structure Effect (α : Type) where
  result : α
  next : ℕ
  input : List UInt8
  output : List UInt8

/- First this effect and then that. -/
def Effect.and (e : Effect α) (t : Effect β) : Effect β :=
  ⟨t.result, t.next, e.input ++ t.input, e.output ++ t.output⟩

namespace Prog

def exec (o : Behaviour Q A) : Prog Q A α → ℕ → Effect α
  | done a, i => ⟨a, i, [], []⟩
  | read n k, i =>
    let t := exec o (k (o.read i n)) (i + 1)
    { t with input := (o.read i n).getD [] ++ t.input }
  | write b k, i =>
    let t := exec o (k (o.write i b)) (i + 1)
    { t with output := b.take ((o.write i b).getD 0) ++ t.output }
  | ask q k, i => exec o (k (o.answer i q)) (i + 1)

variable (o : Behaviour Q A)

@[simp] theorem exec_done (a : α) (i : ℕ) : (done a : Prog Q A α).exec o i = ⟨a, i, [], []⟩ := rfl

theorem exec_bind (p : Prog Q A α) (f : α → Prog Q A β) (i : ℕ) :
    (p.bind f).exec o i = (p.exec o i).and ((f (p.exec o i).result).exec o (p.exec o i).next) := by
  induction p generalizing i with
  | done a => simp [bind, Effect.and]
  | read n k ih =>
    simp only [bind, exec, ih, Effect.and, List.append_assoc]
  | write b k ih =>
    simp only [bind, exec, ih, Effect.and, List.append_assoc]
  | ask q k ih =>
    simp only [bind, exec, ih]

/- A behaviour gives one of the traces. -/
theorem exec_runs (p : Prog Q A α) (i : ℕ) : ∃ w, Runs p w (p.exec o i).result := by
  induction p generalizing i with
  | done a => exact ⟨[], .done a⟩
  | read n k ih =>
    obtain ⟨w, hw⟩ := ih (o.read i n) (i + 1)
    exact ⟨_, .read _ hw⟩
  | write b k ih =>
    obtain ⟨w, hw⟩ := ih (o.write i b) (i + 1)
    exact ⟨_, .write _ hw⟩
  | ask q k ih =>
    obtain ⟨w, hw⟩ := ih (o.answer i q) (i + 1)
    exact ⟨_, .ask _ hw⟩

end Prog
end Process
