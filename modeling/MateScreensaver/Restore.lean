import MateScreensaver.ExtRun

/-!
What ext_run leaves behind: the nesting of block_sigchld (subprocs.c), the descriptors of
its two pipes, and the child.
-/

namespace MateScreensaver
open Process Prog

/-! ### subprocs.c -/

/- subprocs.c:62, the counter that block_sigchld_handler is. -/
def blockSigchld (handler : Int) : Int := handler + 1

/- subprocs.c:85 -/
def unblockSigchld (handler : Int) : Int := handler - 1

/- subprocs.c:100: the counter afterwards, or nothing when it aborts. -/
def signalPid (handler : Int) : Option Int :=
  if handler ≠ 0 then none
  else if unblockSigchld (blockSigchld handler) < 0 then none
  else some (unblockSigchld (blockSigchld handler))

/-! ### The account of a trace -/

inductive ForkedChild
  | none
  | unreaped
  | reaped
deriving DecidableEq

/- How things stand: the counter against the one at entry, the pipes opened, the
descriptors that are open, and the child. -/
structure Account where
  block : Int := 0
  pipes : ℕ := 0
  fds : List PipeEnd := []
  child : ForkedChild := .none
deriving DecidableEq

/- pfd is the first pipe, and r_pfd the second. -/
def Account.act (acc : Account) : Act ExtCall ExtCall.Answer → Account
  | .ask .pipe true =>
    { acc with
      pipes := acc.pipes + 1
      fds := acc.fds ++ if acc.pipes = 0 then [.pfdRead, .pfdWrite] else [.rPfdRead, .rPfdWrite] }
  | .ask (.close fd) _ => { acc with fds := acc.fds.erase fd }
  | .ask .blockSigchld _ => { acc with block := blockSigchld acc.block }
  | .ask .unblockSigchld _ => { acc with block := unblockSigchld acc.block }
  | .ask .fork true => { acc with child := .unreaped }
  | .ask .waitpid (.reaped _) => { acc with child := .reaped }
  | _ => acc

def Account.along (acc : Account) (w : ExtTrace) : Account := w.foldl Account.act acc

def account (w : ExtTrace) : Account := Account.along {} w

/- Everything is as it was at entry. `elsewhere` says that the child has been reaped by
somebody else in the meantime. -/
structure Restored (elsewhere : Bool) (w : ExtTrace) : Prop where
  block : (account w).block = 0
  fds : (account w).fds = []
  child : (account w).child = .unreaped → elsewhere = true

/- The first pipe was not made, or a waitpid has ended the loop. -/
def LeavesInOrder (elsewhere : Bool) (w : ExtTrace) : Prop :=
  (∃ v, w = .ask .pipe false :: v) ∨ (∃ status, .ask .waitpid (.reaped status) ∈ w) ∨
    .ask .waitpid .failed ∈ w ∧ elsewhere = true

/- In the loop. -/
def serving : Account := { block := 1, pipes := 2, fds := [.pfdWrite, .rPfdRead], child := .unreaped }

/- After the loop, with the child as it is then. -/
def afterLoop (child : ForkedChild) : Account := { block := 0, pipes := 2, fds := [], child := child }

theorem along_append (acc : Account) (u v : ExtTrace) : acc.along (u ++ v) = (acc.along u).along v :=
  List.foldl_append

/- Reads, writes and calls of func change nothing. -/
theorem along_silent {α : Type} {p : ExtProg α} {w : ExtTrace} {a : α} (acc : Account)
    (hp : OnlyAsks (fun q => q = .uninitialised ∨ ∃ style msg, q = .func style msg) p) (h : Runs p w a) :
    acc.along w = acc := by
  induction h with
  | done a => rfl
  | read r _ ih => exact ih (hp r)
  | write r _ ih => exact ih (hp r)
  | ask r _ ih =>
    obtain ⟨rfl | ⟨style, msg, rfl⟩, hrest⟩ := hp
    · exact ih (hrest r)
    · exact ih (hrest r)

theorem serve_silent :
    OnlyAsks (fun q => q = .uninitialised ∨ ∃ style msg, q = .func style msg) extRunServe := by
  have huninit : OnlyAsks (A := ExtCall.Answer) (fun q => q = .uninitialised ∨ ∃ style msg, q = .func style msg)
      (.ask .uninitialised .done) := ⟨.inl rfl, fun _ => trivial⟩
  refine (onlyAsks_readPrompt huninit _).bind fun (msgType, buf) => ?_
  dsimp only
  split
  · trivial
  split
  · trivial
  refine ⟨.inr ⟨msgType, cString buf, rfl⟩, fun (_, input) => (onlyAsks_writeMsg _ _).bind fun wt => ?_⟩
  split <;> trivial

/- The four ways through the part before the loop. -/
theorem start_runs {w : ExtTrace} {r : Option Bool} (h : Runs extRunStart w r) :
    w = [.ask .pipe false] ∧ r = some false ∨ w = [.ask .pipe true, .ask .pipe false] ∧ r = some false ∨
      w = [.ask .pipe true, .ask .pipe true, .ask .blockSigchld (), .ask .fork false, .ask (.close .pfdRead) (),
        .ask (.close .pfdWrite) (), .ask (.close .rPfdRead) (), .ask (.close .rPfdWrite) ()] ∧ r = some false ∨
      w = forked ∧ r = none := by
  cases h with
  | ask first h =>
    cases first with
    | false =>
      cases h
      exact .inl ⟨rfl, rfl⟩
    | true =>
      cases h with
      | ask second h =>
        cases second with
        | false =>
          cases h
          exact .inr (.inl ⟨rfl, rfl⟩)
        | true =>
          obtain _ | _ | _ | ⟨_, h⟩ := h
          cases h with
          | ask pid h =>
            cases pid with
            | false =>
              obtain _ | _ | _ | ⟨_, h⟩ := h
              obtain _ | _ | _ | ⟨_, h⟩ := h
              obtain _ | _ | _ | ⟨_, h⟩ := h
              obtain _ | _ | _ | ⟨_, h⟩ := h
              cases h
              exact .inr (.inr (.inl ⟨rfl, rfl⟩))
            | true =>
              obtain _ | _ | _ | ⟨_, h⟩ := h
              obtain _ | _ | _ | ⟨_, h⟩ := h
              cases h
              exact .inr (.inr (.inr ⟨rfl, rfl⟩))

/- How a part of the loop can leave things: as they were, or as they are after the loop
with the waitpid that ended it. -/
inductive Left (w : ExtTrace) : Prop
  | serving : serving.along w = serving → (∀ r ∈ waitResults w, r = .running) → Left w
  | reaped (status : WaitStatus) : serving.along w = afterLoop .reaped → .reaped status ∈ waitResults w → Left w
  | failed : serving.along w = afterLoop .unreaped → .failed ∈ waitResults w →
      (∀ status, .reaped status ∉ waitResults w) → Left w

/- One turn: it goes on only with everything as it was. -/
theorem body_left {status : WaitStatus} {w : ExtTrace} {r : Option Bool} (h : Runs (extRunBody status) w r) :
    (r = none → serving.along w = serving ∧ ∀ x ∈ waitResults w, x = .running) ∧ (r ≠ none → Left w) := by
  cases h with
  | @ask _ _ w r result h =>
    have hfirst : waitResults (.ask .waitpid result :: w) = result :: waitResults w := rfl
    cases result with
    | running =>
      have hserve : Runs extRunServe w r := h
      have hrest : serving.along w = serving := along_silent serving serve_silent hserve
      have hkept : serving.along (.ask .waitpid .running :: w) = serving := hrest
      have hnil := waitResults_nil serve_onlyAsks h
      have hrunning : ∀ x ∈ waitResults (.ask .waitpid .running :: w), x = .running := by
        rw [hfirst, hnil]
        exact fun x hx => List.mem_singleton.1 hx
      exact ⟨fun _ => ⟨hkept, hrunning⟩, fun _ => .serving hkept hrunning⟩
    | reaped st =>
      obtain ⟨rfl, rfl⟩ := end_runs h
      exact ⟨nofun, fun _ => .reaped st rfl (by rw [hfirst]; exact List.mem_cons_self)⟩
    | failed =>
      obtain ⟨rfl, rfl⟩ := end_runs h
      refine ⟨nofun, fun _ => .failed rfl (by rw [hfirst]; exact List.mem_cons_self) fun st => ?_⟩
      rw [hfirst]
      simp [waitResults]

theorem loop_left {status : WaitStatus} {start : ExtProg (Option Bool)} {w : ExtTrace} {b : Bool}
    (h : LoopRuns (extRunBody status) start w b) (hstart : start = extRunBody status) : Left w := by
  induction h with
  | stop h =>
    subst hstart
    exact (body_left h).2 nofun
  | @again start u v b hu hv ih =>
    subst hstart
    obtain ⟨hkept, hrunning⟩ := (body_left hu).1 rfl
    have hlater : ∀ x, x ≠ .running → (x ∈ waitResults (u ++ v) ↔ x ∈ waitResults v) := by
      intro x hx
      rw [waitResults_append, List.mem_append]
      exact ⟨fun h => h.resolve_left fun hm => hx (hrunning x hm), .inr⟩
    have halong : serving.along (u ++ v) = serving.along v := by rw [along_append, hkept]
    cases ih rfl with
    | serving hacc hall =>
      refine .serving (halong.trans hacc) fun x hx => ?_
      by_contra hne
      exact hne (hall x ((hlater x hne).1 hx))
    | reaped st hacc hst => exact .reaped st (halong.trans hacc) ((hlater (.reaped st) nofun).2 hst)
    | failed hacc hfailed hno =>
      exact .failed (halong.trans hacc) ((hlater .failed nofun).2 hfailed) fun st hst =>
        hno st ((hlater (.reaped st) nofun).1 hst)

/- A whole run: it has failed before the loop, or it goes through the loop. -/
theorem ext_left {status : WaitStatus} {w : ExtTrace} {b : Bool} (h : ExtRuns status w b) :
    (∃ r, Runs extRunStart w (some r)) ∨ ∃ v, w = forked ++ v ∧ Left v := by
  cases h with
  | stop h => exact .inl ⟨b, h⟩
  | again hu hv =>
    obtain ⟨_, hr⟩ | ⟨_, hr⟩ | ⟨_, hr⟩ | ⟨rfl, _⟩ := start_runs hu
    · cases hr
    · cases hr
    · cases hr
    · exact .inr ⟨_, rfl, loop_left hv rfl⟩

theorem account_forked (v : ExtTrace) : account (forked ++ v) = serving.along v := along_append {} forked v

theorem waitResults_forked (v : ExtTrace) : waitResults (forked ++ v) = waitResults v := rfl

/- Exactly the runs that leave in order have everything restored. -/
theorem restored_iff {status : WaitStatus} {w : ExtTrace} {b : Bool} (elsewhere : Bool) (h : ExtRuns status w b) :
    Restored elsewhere w ↔ LeavesInOrder elsewhere w := by
  unfold LeavesInOrder
  simp only [← mem_waitResults]
  obtain ⟨r, hstart⟩ | ⟨v, rfl, hleft⟩ := ext_left h
  · obtain ⟨rfl, _⟩ | ⟨rfl, _⟩ | ⟨rfl, _⟩ | ⟨_, hr⟩ := start_runs hstart
    · refine ⟨fun _ => .inl ⟨[], rfl⟩, fun _ => ⟨rfl, rfl, fun hchild => ?_⟩⟩
      exact absurd hchild (by decide)
    · refine ⟨fun hw => absurd hw.fds (by decide), fun hw => ?_⟩
      simp [waitResults] at hw
    · refine ⟨fun hw => absurd hw.block (by decide), fun hw => ?_⟩
      simp [waitResults] at hw
    · cases hr
  · rw [waitResults_forked]
    have hfirst : ¬ ∃ x, forked ++ v = .ask .pipe false :: x := by
      rintro ⟨x, hx⟩
      cases hx
    cases hleft with
    | serving hacc hall =>
      refine ⟨fun hw => ?_, fun hw => ?_⟩
      · have hblock := hw.block
        rw [account_forked, hacc] at hblock
        exact absurd hblock (by decide)
      · obtain hw | ⟨st, hst⟩ | ⟨hst, _⟩ := hw
        · exact absurd hw hfirst
        · cases hall _ hst
        · cases hall _ hst
    | reaped st hacc hst =>
      refine ⟨fun _ => .inr (.inl ⟨st, hst⟩), fun _ => ⟨?_, ?_, ?_⟩⟩
      · rw [account_forked, hacc]
        rfl
      · rw [account_forked, hacc]
        rfl
      · rw [account_forked, hacc]
        exact fun hchild => absurd hchild (by decide)
    | failed hacc hfailed hno =>
      refine ⟨fun hw => .inr (.inr ⟨hfailed, hw.child (by rw [account_forked, hacc]; rfl)⟩), fun hw => ?_⟩
      obtain hw | ⟨st, hst⟩ | ⟨_, helse⟩ := hw
      · exact absurd hw hfirst
      · exact absurd hst (hno st)
      · refine ⟨?_, ?_, fun _ => helse⟩
        · rw [account_forked, hacc]
          rfl
        · rw [account_forked, hacc]
          rfl

theorem restored_reaped : Restored false (forked ++ waitedOnce (.reaped (.exited 0))) := by
  have hruns : ExtRuns .other (forked ++ waitedOnce (.reaped (.exited 0))) true :=
    .again forked_runs (.stop (.ask _ (.ask _ (.ask _ (.ask _ (.done _))))))
  exact (restored_iff false hruns).2 (.inr (.inl ⟨.exited 0, by rw [← mem_waitResults]; decide⟩))

/- The first read of a prompt fails. -/
def readFailed : ExtTrace := forked ++ [.ask .waitpid .running, .read 4 none]

theorem readFailed_runs : ExtRuns .other readFailed false := by
  have hserve : Runs extRunServe [.read 4 none] (some false) := by
    rw [extRunServe, readPrompt_eq, readAll_eq, if_neg (by decide)]
    exact .read none (.done _)
  exact .again forked_runs (.stop (.ask _ hserve))

example : signalPid (account readFailed).block = none := by decide

/- The signals stay blocked, so that the next signal_pid aborts, two descriptors stay
open, and the child is not waited for. -/
theorem not_restored : ¬ ∀ status w b, ExtRuns status w b → Restored false w := by
  intro h
  exact absurd (h _ _ _ readFailed_runs).block (by decide)

end MateScreensaver
