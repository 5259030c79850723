import Mathlib.Data.List.Infix

/-!
Deterministic labelled systems and facts about their runs. A step may be
refused; a run is a list of labels, followed as far as steps are accepted.
-/

namespace Runs

structure System (σ ε : Type*) where
  init : σ → Prop
  next : σ → ε → Option σ

namespace System
variable {σ ε : Type*} (S : System σ ε)

/- The state after all labels of a run, when every one is accepted. -/
def run (s : σ) : List ε → Option σ
  | [] => some s
  | e :: es => (S.next s e).bind fun t => run t es

inductive Reachable : σ → Prop
  | start {s} : S.init s → Reachable s
  | step {s e t} : Reachable s → S.next s e = some t → Reachable t

/- `R` holds of every step taken along the run. -/
def Each (R : σ → ε → σ → Prop) (s : σ) : List ε → Prop
  | [] => True
  | e :: es => ∀ t, S.next s e = some t → R s e t ∧ Each R t es

/- Every step of the run meets a condition on the state before it. -/
def Meets (C : σ → ε → Prop) : σ → List ε → Prop := S.Each fun s e _ => C s e

/- Whether every step of the run meets a condition that can be computed. -/
def checks (C : σ → ε → Prop) [∀ s e, Decidable (C s e)] (s : σ) : List ε → Bool
  | [] => true
  | e :: es => match S.next s e with
    | none => true
    | some t => decide (C s e) && checks C t es

/- `P` holds in every state the run visits. -/
def Always (P : σ → Prop) (s : σ) (es : List ε) : Prop := P s ∧ S.Each (fun _ _ t => P t) s es

structure Invariant (I : σ → Prop) : Prop where
  start : ∀ s, S.init s → I s
  step : ∀ s e t, I s → S.next s e = some t → I t

variable {S}

/- What always holds holds at the end. -/
theorem Always.run {P : σ → Prop} {s t : σ} {es : List ε} (h : S.Always P s es)
    (hrun : S.run s es = some t) : P t := by
  induction es generalizing s with
  | nil =>
    cases hrun
    exact h.1
  | cons e es ih =>
    obtain ⟨u, hu, hrun⟩ := Option.bind_eq_some_iff.1 hrun
    exact ih (h.2 u hu) hrun

theorem Invariant.reachable {I : σ → Prop} (h : S.Invariant I) {s : σ} (hr : S.Reachable s) :
    I s := by
  induction hr with
  | start hs => exact h.start _ hs
  | step _ hn ih => exact h.step _ _ _ ih hn

/- An invariant may be proved with another one already at hand. -/
theorem Invariant.and {I J : σ → Prop} (hI : S.Invariant I) (h0 : ∀ s, S.init s → J s)
    (h : ∀ s e t, I s → J s → S.next s e = some t → J t) :
    S.Invariant fun s => I s ∧ J s :=
  ⟨fun s hs => ⟨hI.start s hs, h0 s hs⟩,
    fun s e t hs hn => ⟨hI.step s e t hs.1 hn, h s e t hs.1 hs.2 hn⟩⟩

theorem reachable_run {s t : σ} {es : List ε} (hs : S.Reachable s) (h : S.run s es = some t) :
    S.Reachable t := by
  induction es generalizing s with
  | nil => cases h; exact hs
  | cons e es ih =>
    obtain ⟨u, hu, hrun⟩ := Option.bind_eq_some_iff.1 h
    exact ih (hs.step hu) hrun

/- A run that goes on is taken up where its first part ends. -/
theorem run_append (s : σ) (es es' : List ε) : S.run s (es ++ es') = (S.run s es).bind fun t => S.run t es' := by
  induction es generalizing s with
  | nil => rfl
  | cons e es ih =>
    rw [List.cons_append, run, run, Option.bind_assoc]
    exact congrArg _ (funext ih)

/- What each label of a run keeps, the run keeps. -/
theorem run_keeps {I : σ → Prop} {C : ε → Prop}
    (h : ∀ s e t, I s → S.next s e = some t → C e → I t) {s t : σ} {es : List ε} (hs : I s)
    (hrun : S.run s es = some t) (hC : ∀ e ∈ es, C e) : I t := by
  induction es generalizing s with
  | nil =>
    cases hrun
    exact hs
  | cons e es ih =>
    obtain ⟨u, hu, hrun⟩ := Option.bind_eq_some_iff.1 hrun
    have hi := h s e u hs hu (hC e (List.mem_cons_self ..))
    exact ih hi hrun fun e he => hC e (List.mem_cons_of_mem _ he)

theorem Each.mono {R Q : σ → ε → σ → Prop} {s : σ} {es : List ε}
    (h : ∀ s e t, S.next s e = some t → R s e t → Q s e t) (hR : S.Each R s es) :
    S.Each Q s es := by
  induction es generalizing s with
  | nil => trivial
  | cons e es ih =>
    intro t ht
    obtain ⟨hr, hrest⟩ := hR t ht
    exact ⟨h s e t ht hr, ih hrest⟩

theorem Each.and {R Q : σ → ε → σ → Prop} {s : σ} {es : List ε} (hR : S.Each R s es) (hQ : S.Each Q s es) :
    S.Each (fun s e t => R s e t ∧ Q s e t) s es := by
  induction es generalizing s with
  | nil => trivial
  | cons e es ih =>
    intro t ht
    obtain ⟨hr, hrest⟩ := hR t ht
    obtain ⟨hq, hrest'⟩ := hQ t ht
    exact ⟨⟨hr, hq⟩, ih hrest hrest'⟩

/- What holds of a run holds of the rest of it. -/
theorem Each.after {R : σ → ε → σ → Prop} {s t : σ} {es es' : List ε} (h : S.Each R s (es ++ es'))
    (hrun : S.run s es = some t) : S.Each R t es' := by
  induction es generalizing s with
  | nil =>
    cases hrun
    exact h
  | cons e es ih =>
    obtain ⟨u, hu, hrun⟩ := Option.bind_eq_some_iff.1 hrun
    exact ih (h u hu).2 hrun

/- The run rule: what one step from a good state gives, a whole run gives. -/
theorem each_of_step {I : σ → Prop} {R : σ → ε → σ → Prop}
    (h : ∀ s e t, I s → S.next s e = some t → R s e t ∧ I t) {s : σ} (hs : I s) (es : List ε) :
    S.Each R s es := by
  induction es generalizing s with
  | nil => trivial
  | cons e es ih =>
    intro t ht
    obtain ⟨hr, hi⟩ := h s e t hs ht
    exact ⟨hr, ih hi⟩

/- The same under a condition that every step of the run meets. -/
theorem each_of_meets {I : σ → Prop} {C : σ → ε → Prop} {R : σ → ε → σ → Prop}
    (h : ∀ s e t, I s → S.next s e = some t → C s e → R s e t ∧ I t) {s : σ} (hs : I s)
    {es : List ε} (hC : S.Meets C s es) : S.Each R s es := by
  induction es generalizing s with
  | nil => trivial
  | cons e es ih =>
    intro t ht
    obtain ⟨hc, hrest⟩ := hC t ht
    obtain ⟨hr, hi⟩ := h s e t hs ht hc
    exact ⟨hr, ih hi hrest⟩

theorem always_of_meets {I P : σ → Prop} {C : σ → ε → Prop} (hP : ∀ s, I s → P s)
    (h : ∀ s e t, I s → S.next s e = some t → C s e → I t) {s : σ} (hs : I s)
    {es : List ε} (hC : S.Meets C s es) : S.Always P s es :=
  ⟨hP s hs, each_of_meets (I := I) (fun s e t hi hn hc => ⟨hP t (h s e t hi hn hc), h s e t hi hn hc⟩)
    hs hC⟩

/- Exactness of a step condition: from a good state a step does what is
wanted if and only if the condition holds, and then stays good. -/
theorem each_iff_meets {I : σ → Prop} {C : σ → ε → Prop} {R : σ → ε → σ → Prop}
    (hR : ∀ s e t, I s → S.next s e = some t → (R s e t ↔ C s e))
    (hI : ∀ s e t, I s → S.next s e = some t → C s e → I t) {s : σ} (hs : I s) (es : List ε) :
    S.Each R s es ↔ S.Meets C s es := by
  constructor
  · intro h
    induction es generalizing s with
    | nil => trivial
    | cons e es ih =>
      intro t ht
      obtain ⟨hr, hrest⟩ := h t ht
      have hc := (hR s e t hs ht).1 hr
      exact ⟨hc, ih (hI s e t hs ht hc) hrest⟩
  · intro h
    exact each_of_meets (I := I) (fun s e t hi hn hc => ⟨(hR s e t hi hn).2 hc, hI s e t hi hn hc⟩)
      hs h

theorem always_iff_meets {I P : σ → Prop} {C : σ → ε → Prop} (hP : ∀ s, I s → P s)
    (hR : ∀ s e t, I s → S.next s e = some t → (P t ↔ C s e))
    (hI : ∀ s e t, I s → S.next s e = some t → C s e → I t) {s : σ} (hs : I s) (es : List ε) :
    S.Always P s es ↔ S.Meets C s es :=
  ⟨fun h => (each_iff_meets hR hI hs es).1 h.2,
    fun h => ⟨hP s hs, (each_iff_meets hR hI hs es).2 h⟩⟩

theorem meets_of_checks {C : σ → ε → Prop} [∀ s e, Decidable (C s e)] {s : σ} {es : List ε}
    (h : S.checks C s es = true) : S.Meets C s es := by
  induction es generalizing s with
  | nil => trivial
  | cons e es ih =>
    intro t ht
    simp only [checks, ht, Bool.and_eq_true, decide_eq_true_eq] at h
    exact ⟨h.1, ih h.2⟩

/-! ### History -/

variable {α : Type*}

/- The system together with what has been recorded of its steps. -/
def recorded (S : System σ ε) (record : σ → ε → List α) : System (σ × List α) ε where
  init s := S.init s.1 ∧ s.2 = []
  next s e := (S.next s.1 e).map fun t => (t, s.2 ++ record s.1 e)

theorem recorded_next {record : σ → ε → List α} {s t : σ × List α} {e : ε}
    (h : (S.recorded record).next s e = some t) : S.next s.1 e = some t.1 ∧ t.2 = s.2 ++ record s.1 e := by
  obtain ⟨u, hu, rfl⟩ := Option.map_eq_some_iff.1 h
  exact ⟨hu, rfl⟩

theorem recorded_reachable_state {record : σ → ε → List α} {x : σ × List α}
    (h : (S.recorded record).Reachable x) : S.Reachable x.1 := by
  induction h with
  | start hs => exact .start hs.1
  | step _ hn ih => exact ih.step (recorded_next hn).1

/- A condition on the state does not see the history. -/
theorem recorded_meets (record : σ → ε → List α) {C : σ → ε → Prop} {s : σ} (log : List α) (es : List ε) :
    (S.recorded record).Meets (fun s e => C s.1 e) (s, log) es ↔ S.Meets C s es := by
  induction es generalizing s log with
  | nil => exact Iff.rfl
  | cons e es ih =>
    constructor
    · intro h t ht
      obtain ⟨hc, hrest⟩ := h (t, log ++ record s e) (by simp [recorded, ht])
      exact ⟨hc, (ih _).1 hrest⟩
    · rintro h ⟨t, log'⟩ ht
      obtain ⟨hn, hlog⟩ := recorded_next ht
      obtain ⟨hc, hrest⟩ := h t hn
      exact ⟨hc, (ih _).2 hrest⟩

end System
end Runs

/-! ### What a log shows of the moments at which its entries were written -/

namespace History

/- When each entry was written, `Q` held of it and the entries before it. -/
def Upheld {α : Type*} (Q : List α → α → Prop) (log : List α) : Prop :=
  ∀ before x, before ++ [x] <+: log → Q before x

variable {α : Type*} {Q : List α → α → Prop} {log more : List α} {x : α}

theorem upheld_nil : Upheld Q [] := by
  intro before y hy
  exact absurd (List.prefix_nil.1 hy) (by simp)

theorem Upheld.start (h : Upheld Q (log ++ more)) : Upheld Q log :=
  fun before y hy => h before y (hy.trans (List.prefix_append log more))

theorem Upheld.last (h : Upheld Q (log ++ [x])) : Q log x := h log x (List.prefix_refl _)

theorem Upheld.next (h : Upheld Q log) (hx : Q log x) : Upheld Q (log ++ [x]) := by
  intro before y hy
  rcases List.prefix_concat_iff.1 hy with heq | hy
  · obtain ⟨rfl, hyx⟩ := List.append_inj' heq rfl
    cases hyx
    exact hx
  · exact h before y hy

end History
