import MateScreensaver.Job
import MateScreensaver.Lib.Runs

/-!
A saver job together with the processes it has spawned (gs-job.c): each call runs as a
row of small steps, with the processes doing as they like in between.
-/

namespace MateScreensaver
open Runs

/- What the kernel knows of a child. -/
inductive Life
  | running
  | stopped
  | exited
  | reaped
deriving DecidableEq

/- A child with its history: SIGTERM sent, its end of stderr closed by everybody, how
often it was waited for, and the signals that came after that. -/
structure Child where
  command : String
  life : Life
  termed : Bool
  closed : Bool
  waits : ℕ
  late : ℕ

inductive Signal
  | term
  | stop
  | cont
deriving DecidableEq

/- kill. A stopped child is not ended by SIGTERM before it goes on. -/
def Child.signal (sig : Signal) (c : Child) : Child :=
  if c.life = .reaped then { c with late := c.late + 1 }
  else match sig with
    | .term => { c with termed := true }
    | .stop => { c with life := if c.life = .exited then .exited else .stopped }
    | .cont => { c with life := if c.life = .stopped then .running else c.life }

/- What a child does of its own accord, or is made to do by somebody else. -/
inductive Move
  | exit
  | stop
  | cont
  | closeStderr
deriving DecidableEq

def Child.move (c : Child) : Move → Option Child
  | .exit => if c.life = .running ∨ c.life = .stopped then some { c with life := .exited } else none
  | .stop => if c.life = .running then some { c with life := .stopped } else none
  | .cont => if c.life = .stopped then some { c with life := .running } else none
  | .closeStderr => some { c with closed := true }

/- GSJobPrivate. -/
structure JobObject extends GSJob where
  widget : Option ℕ := none
  watchId : ℕ := 0
deriving DecidableEq

/- What gs_job_start gets from its surroundings: the saved arguments of the saver, whether
they pass the run with --help, and whether the saver could be spawned. -/
structure StartEnv where
  savedArgs : Option String
  argsValid : Bool
  spawns : Bool
deriving DecidableEq

/- A g_io_channel_read_line of the watch. -/
inductive ReadLine
  | normal
  | eof
  | other
deriving DecidableEq

/- The conditions that the watch is called with. -/
structure IOCondition where
  isIn : Option ReadLine
  hup : Bool
deriving DecidableEq

/- gs-job.c:411, the value of done at the end. -/
def IOCondition.done (c : IOCondition) : Bool :=
  match c.isIn with
  | some line => line = .eof
  | none => c.hup

/- The elementary actions the calls are made of. -/
inductive Instr
  | signalPid (sig : Signal)
  | setStatus (status : GSJobStatus)
  | removeCommandWatch
  | waitOnChild
  | waiting
  | forgetPid
  | dropWatch (id : ℕ)
  | start (env : StartEnv)
  | free
deriving DecidableEq

namespace JobObject

/- gs-job.c:125 -/
def gsJobDied (j : JobObject) : List Instr :=
  (if 0 < j.pid then [.waitOnChild, .setStatus .dead] else []) ++ [.forgetPid]

/- gs-job.c:151 -/
def gsJobFinalize (j : JobObject) : List Instr :=
  (if 0 < j.pid then .signalPid .term :: j.gsJobDied else []) ++ [.free]

/- gs-job.c:593 -/
def gsJobSuspend (j : JobObject) (susp : Bool) : List Instr :=
  if j.pid = 0 then []
  else [.signalPid (if susp then .stop else .cont), .setStatus (if susp then .stopped else .running)]

/- gs-job.c:564 -/
def gsJobStop (j : JobObject) : List Instr :=
  if j.pid = 0 then []
  else
    (if j.status = .stopped then j.gsJobSuspend false else []) ++
      [.removeCommandWatch, .signalPid .term, .setStatus .killed] ++ j.gsJobDied

/- gs-job.c:397 -/
def commandWatch (j : JobObject) (id : ℕ) (c : IOCondition) : List Instr :=
  if c.done then j.gsJobDied ++ [.dropWatch id] else []

/- gs-job.c:177 -/
def gsJobSetWidget (j : JobObject) (widget : ℕ) (env : StartEnv) : JobObject × List Instr :=
  if j.widget = some widget then (j, [])
  else
    ({ j with widget := some widget },
      if 0 < j.pid then j.gsJobStop ++ [.start env] else [])

/- gs-job.c:197 -/
def gsJobSetCommand (j : JobObject) (command : Option String) : JobObject := { j with command := command }

/- gs-job.c:466 to 484: the tests of gs_job_start, and whether the spawn succeeds. -/
def starts (env : StartEnv) (j : JobObject) : Bool :=
  j.pid = 0 && j.widget.isSome && j.command.isSome && env.spawns

end JobObject

/- The job, what is left of the call under way, the children by number, the watches that
are attached, each with the child whose stderr it reads, and, for every waitpid that was
entered, whether the child was fit for it. -/
structure JobWorld where
  job : JobObject
  freed : Bool
  todo : List Instr
  children : ℕ → Child
  spawned : ℕ
  sources : List (ℕ × ℕ)
  nextSource : ℕ
  entered : List (Life × Bool)

namespace JobWorld

/- gs_job_new. -/
def new : JobWorld where
  job := {}
  freed := false
  todo := []
  children _ := { command := "", life := .reaped, termed := false, closed := false, waits := 0, late := 0 }
  spawned := 0
  sources := []
  nextSource := 1
  entered := []

def updateChild (p : ℕ) (f : Child → Child) (w : JobWorld) : JobWorld :=
  { w with children := fun q => if q = p then f (w.children q) else w.children q }

def removeSource (id : ℕ) (w : JobWorld) : JobWorld :=
  { w with sources := w.sources.filter fun src => src.1 ≠ id }

/- gs-job.c:491: the saved arguments count when they are there and pass. -/
def commandToRun (env : StartEnv) (command : String) : String :=
  match env.savedArgs with
  | some args => if args ≠ "" ∧ env.argsValid then command ++ " " ++ args else command
  | none => command

/- gs-job.c:459 with spawn_on_widget. A number stands for a process and not for its pid,
which the kernel may give again after the wait. -/
def gsJobStart (env : StartEnv) (w : JobWorld) : JobWorld :=
  if w.job.starts env then
    { w with
      job := { w.job with pid := w.spawned + 1, watchId := w.nextSource, status := .running }
      children := fun q =>
        if q = w.spawned + 1 then
          { command := commandToRun env (w.job.command.getD ""), life := .running, termed := false,
            closed := false, waits := 0, late := 0 }
        else w.children q
      spawned := w.spawned + 1
      sources := (w.nextSource, w.spawned + 1) :: w.sources
      nextSource := w.nextSource + 1 }
  else w

/- The actions up to the next system call, which the processes see nothing of. -/
def settle : List Instr → JobWorld → JobWorld
  | .setStatus status :: rest, w => settle rest { w with job.status := status }
  | .removeCommandWatch :: rest, w =>
    settle rest { w.removeSource w.job.watchId with job.watchId := 0 }
  | .forgetPid :: rest, w => settle rest { w with job.pid := 0 }
  | .dropWatch id :: rest, w => settle rest { w.removeSource id with job.watchId := 0 }
  | .free :: rest, w => settle rest { w with freed := true, job.command := none }
  | todo, w => { w with todo := todo }

/- The next system call of what is left to do. waitpid comes back when the child has
exited, or had been reaped; EINTR starts it again. -/
def exec (w : JobWorld) : Option JobWorld :=
  match w.todo with
  | .signalPid sig :: rest => some (settle rest (w.updateChild w.job.pid (Child.signal sig)))
  | .waitOnChild :: rest =>
    let c := w.children w.job.pid
    some { w with todo := .waiting :: rest, entered := (c.life, c.termed) :: w.entered }
  | .waiting :: rest =>
    match (w.children w.job.pid).life with
    | .exited =>
      some (settle rest (w.updateChild w.job.pid fun c => { c with life := .reaped, waits := c.waits + 1 }))
    | .reaped => some (settle rest w)
    | _ => none
  | .start env :: rest => some (settle rest (w.gsJobStart env))
  | _ => none

/- Calls of the main loop, the watch among them, system calls, and moves of a child. -/
inductive Event
  | start (env : StartEnv)
  | stop
  | suspend (susp : Bool)
  | setCommand (command : Option String)
  | setWidget (widget : ℕ) (env : StartEnv)
  | unref
  | stderr (id : ℕ) (c : IOCondition)
  | exec
  | move (p : ℕ) (m : Move)
deriving DecidableEq

/- What is to be done for a call. -/
def code (w : JobWorld) : Event → List Instr
  | .start env => [.start env]
  | .stop => w.job.gsJobStop
  | .suspend susp => w.job.gsJobSuspend susp
  | .setWidget widget env => (w.job.gsJobSetWidget widget env).2
  | .unref => w.job.gsJobFinalize
  | .stderr id c => w.job.commandWatch id c
  | _ => []

/- The field a call has set when the rest of it starts. -/
def field (w : JobWorld) : Event → JobObject
  | .setCommand command => w.job.gsJobSetCommand command
  | .setWidget widget env => (w.job.gsJobSetWidget widget env).1
  | _ => w.job

/- The main loop takes a call when it is through with the last one and the job is
there; the watch only sees the end of a channel that everybody has closed. -/
def Ready (w : JobWorld) : Event → Prop
  | .stderr id c =>
    w.todo = [] ∧ w.freed = false ∧ ∃ src ∈ w.sources, src.1 = id ∧ (c.done → (w.children src.2).closed)
  | _ => w.todo = [] ∧ w.freed = false

instance (w : JobWorld) (e : Event) : Decidable (w.Ready e) := by
  cases e <;> unfold Ready <;> infer_instance

def next (w : JobWorld) : Event → Option JobWorld
  | .exec => w.exec
  | .move p m =>
    if 0 < p ∧ p ≤ w.spawned then
      ((w.children p).move m).map fun c => w.updateChild p fun _ => c
    else none
  | e => if w.Ready e then some (settle (w.code e) { w with job := w.field e }) else none

def jobs : System JobWorld Event where
  init w := w = new
  next := next

/-! ### What is wanted -/

/- Fit to be waited for: gone already, or about to go. -/
def Fit (life : Life) (termed : Bool) : Prop := life = .exited ∨ termed = true ∧ life ≠ .stopped

instance (life : Life) (termed : Bool) : Decidable (Fit life termed) := by
  unfold Fit
  infer_instance

def Busy (status : GSJobStatus) : Prop := status = .running ∨ status = .stopped ∨ status = .killed

structure Lifecycle (w : JobWorld) : Prop where
  status : w.job.pid = 0 ↔ ¬ Busy w.job.status
  unwatched : w.job.pid = 0 → w.sources = []
  alive : w.todo = [] → 0 < w.job.pid →
    w.job.pid ≤ w.spawned ∧ (w.children w.job.pid).life ≠ .reaped ∧ (w.job.watchId, w.job.pid) ∈ w.sources
  waits : ∀ p, 0 < p → p ≤ w.spawned → (w.children p).waits = if p = w.job.pid then 0 else 1
  late : ∀ p, (w.children p).late = 0
  entered : ∀ e ∈ w.entered, Fit e.1 e.2

/- A wait is ahead, and no SIGCONT before it. -/
def Awaited (todo : List Instr) : Prop := .waitOnChild ∈ todo ∧ .signalPid .cont ∉ todo

instance (todo : List Instr) : Decidable (Awaited todo) := by
  unfold Awaited
  infer_instance

/- A call of gs_job_stop finds no child that has been stopped behind the job's back. -/
def MayStop (w : JobWorld) : Prop :=
  0 < w.job.pid → w.job.status ≠ .stopped → (w.children w.job.pid).life ≠ .stopped

/- The end of stderr only comes from a child that has exited, the last reference goes
when there is no child, and nobody stops the child between its SIGTERM and the wait. -/
def Careful (w : JobWorld) : Event → Prop
  | .stderr _ c => c.done → (w.children w.job.pid).life = .exited
  | .unref => w.job.pid = 0
  | .stop => w.MayStop
  | .setWidget widget _ => w.job.widget ≠ some widget → w.MayStop
  | .move p .stop => p = w.job.pid → ¬ Awaited w.todo
  | _ => True

instance (w : JobWorld) (e : Event) : Decidable (w.Careful e) := by
  unfold Careful MayStop
  split <;> infer_instance

/-! ### The invariant -/

/- What holds at every point of every call. -/
structure Counted (w : JobWorld) : Prop where
  bound : w.job.pid ≤ w.spawned
  status : w.job.pid = 0 ↔ ¬ Busy w.job.status
  reaped : ∀ p, 0 < p → p ≤ w.spawned → ((w.children p).life = .reaped ↔ p ≠ w.job.pid)
  waits : ∀ p, 0 < p → p ≤ w.spawned → (w.children p).waits = if p = w.job.pid then 0 else 1
  late : ∀ p, (w.children p).late = 0
  entered : ∀ e ∈ w.entered, Fit e.1 e.2

/- The watch of the child is attached, and no other. -/
structure Attached (w : JobWorld) : Prop where
  pid : 0 < w.job.pid
  sources : w.sources = [(w.job.watchId, w.job.pid)]

structure Detached (w : JobWorld) : Prop where
  pid : 0 < w.job.pid
  sources : w.sources = []

def Idle (w : JobWorld) : Prop := w.Attached ∨ w.job.pid = 0 ∧ w.sources = []

def waitCode (rest : List Instr) : List Instr := .waitOnChild :: .setStatus .dead :: .forgetPid :: rest

def waitingCode (rest : List Instr) : List Instr := .waiting :: .setStatus .dead :: .forgetPid :: rest

def termCode (rest : List Instr) : List Instr := .signalPid .term :: .setStatus .killed :: waitCode rest

/- After gs_job_stop comes nothing, or the restart of gs_job_set_widget. -/
def Tail (rest : List Instr) : Prop := rest = [] ∨ ∃ env, rest = [.start env]

/- The points at which a call can be between two system calls. -/
inductive Place (w : JobWorld) : List Instr → Prop
  | idle : w.Idle → Place w []
  | start (env : StartEnv) : w.Idle → Place w [.start env]
  | suspend (sig : Signal) (status : GSJobStatus) : w.Attached → Busy status →
      Place w [.signalPid sig, .setStatus status]
  | stopCont {rest} : w.Attached → Tail rest →
      Place w (.signalPid .cont :: .setStatus .running :: .removeCommandWatch :: termCode rest)
  | stopTerm {rest} : w.Detached → (w.children w.job.pid).life ≠ .stopped → Tail rest → Place w (termCode rest)
  | stopWait {rest} : w.Detached → Fit (w.children w.job.pid).life (w.children w.job.pid).termed → Tail rest →
      Place w (waitCode rest)
  | stopWaiting {rest} : w.Detached → Tail rest → Place w (waitingCode rest)
  | watchWait : w.Attached → (w.children w.job.pid).life = .exited →
      Place w (waitCode [.dropWatch w.job.watchId])
  | watchWaiting : w.Attached → Place w (waitingCode [.dropWatch w.job.watchId])

/- Nothing that the counting goes by has changed. -/
structure SameAccount (c c' : Child) : Prop where
  late : c'.late = c.late
  waits : c'.waits = c.waits
  reaped : c'.life = .reaped ↔ c.life = .reaped

theorem signal_sameAccount {c : Child} (h : c.life ≠ .reaped) (sig : Signal) : SameAccount c (c.signal sig) := by
  unfold Child.signal
  rw [if_neg h]
  cases sig with
  | term => exact ⟨rfl, rfl, Iff.rfl⟩
  | stop =>
    refine ⟨rfl, rfl, ?_⟩
    dsimp only
    split <;> simp [h]
  | cont =>
    refine ⟨rfl, rfl, ?_⟩
    dsimp only
    split <;> simp [h]

theorem move_sameAccount {c c' : Child} {m : Move} (h : c.move m = some c') : SameAccount c c' := by
  cases m with
  | exit =>
    obtain ⟨hlife, h⟩ := Option.ite_none_right_eq_some.1 h
    cases h
    refine ⟨rfl, rfl, ?_⟩
    rcases hlife with hlife | hlife <;> simp [hlife]
  | stop | cont =>
    obtain ⟨hlife, h⟩ := Option.ite_none_right_eq_some.1 h
    cases h
    exact ⟨rfl, rfl, by simp [hlife]⟩
  | closeStderr =>
    cases h
    exact ⟨rfl, rfl, Iff.rfl⟩

/- A child that is fit stays so unless it is stopped. -/
theorem move_life {c c' : Child} {m : Move} (h : c.move m = some c') :
    (c.life = .exited → c'.life = .exited) ∧ c'.termed = c.termed ∧
      (m ≠ .stop → c.life ≠ .stopped → c'.life ≠ .stopped) := by
  cases m with
  | exit | stop | cont =>
    obtain ⟨hlife, h⟩ := Option.ite_none_right_eq_some.1 h
    cases h
    simp_all
  | closeStderr =>
    cases h
    simp

variable {w t : JobWorld}

theorem Counted.congr (h : w.Counted) (hpid : t.job.pid = w.job.pid)
    (hstatus : t.job.pid = 0 ↔ ¬ Busy t.job.status) (hchildren : t.children = w.children)
    (hspawned : t.spawned = w.spawned) (hentered : t.entered = w.entered) : t.Counted where
  bound := by rw [hpid, hspawned]; exact h.bound
  status := hstatus
  reaped := by rw [hpid, hspawned, hchildren]; exact h.reaped
  waits := by rw [hpid, hspawned, hchildren]; exact h.waits
  late := by rw [hchildren]; exact h.late
  entered := by rw [hentered]; exact h.entered

theorem Counted.updateChild (h : w.Counted) {p : ℕ} {f : Child → Child}
    (hf : SameAccount (w.children p) (f (w.children p))) : (w.updateChild p f).Counted where
  bound := h.bound
  status := h.status
  reaped q h0 hq := by
    dsimp only [JobWorld.updateChild] at hq ⊢
    by_cases hqp : q = p
    · subst hqp
      rw [if_pos rfl, hf.reaped]
      exact h.reaped q h0 hq
    · rw [if_neg hqp]
      exact h.reaped q h0 hq
  waits q h0 hq := by
    dsimp only [JobWorld.updateChild] at hq ⊢
    by_cases hqp : q = p
    · subst hqp
      rw [if_pos rfl, hf.waits]
      exact h.waits q h0 hq
    · rw [if_neg hqp]
      exact h.waits q h0 hq
  late q := by
    dsimp only [JobWorld.updateChild]
    by_cases hqp : q = p
    · subst hqp
      rw [if_pos rfl, hf.late]
      exact h.late q
    · rw [if_neg hqp]
      exact h.late q
  entered := h.entered

theorem Counted.unreaped (h : w.Counted) (hp : 0 < w.job.pid) : (w.children w.job.pid).life ≠ .reaped :=
  fun hr => (h.reaped w.job.pid hp h.bound).1 hr rfl

theorem Counted.signal (h : w.Counted) (hp : 0 < w.job.pid) (sig : Signal) :
    (w.updateChild w.job.pid (Child.signal sig)).Counted :=
  h.updateChild (signal_sameAccount (h.unreaped hp) sig)

theorem Attached.congr (h : w.Attached) (hpid : t.job.pid = w.job.pid) (hwatch : t.job.watchId = w.job.watchId)
    (hsources : t.sources = w.sources) : t.Attached :=
  ⟨by rw [hpid]; exact h.pid, by rw [hpid, hwatch, hsources]; exact h.sources⟩

theorem Idle.congr (h : w.Idle) (hpid : t.job.pid = w.job.pid) (hwatch : t.job.watchId = w.job.watchId)
    (hsources : t.sources = w.sources) : t.Idle := by
  obtain h | ⟨hp, hs⟩ := h
  · exact .inl (h.congr hpid hwatch hsources)
  · exact .inr ⟨by rw [hpid, hp], by rw [hsources, hs]⟩

/- When waitpid has returned the child, nothing is left to be waited for. -/
theorem Counted.reap (h : w.Counted) (hp : 0 < w.job.pid) (hpid : t.job.pid = 0)
    (hstatus : t.job.status = .dead) (hspawned : t.spawned = w.spawned) (hentered : t.entered = w.entered)
    (hchildren : t.children = (w.updateChild w.job.pid fun c => { c with life := .reaped, waits := c.waits + 1 }).children) :
    t.Counted where
  bound := by omega
  status := by simp [hpid, hstatus, Busy]
  reaped q h0 hq := by
    rw [hchildren, hpid]
    dsimp only [JobWorld.updateChild]
    by_cases hqp : q = w.job.pid
    · simp [hqp, Nat.ne_of_gt hp]
    · rw [if_neg hqp, h.reaped q h0 (hspawned ▸ hq)]
      simp [hqp, Nat.ne_of_gt h0]
  waits q h0 hq := by
    rw [hchildren, hpid, if_neg (Nat.ne_of_gt h0)]
    dsimp only [JobWorld.updateChild]
    have hwaits := h.waits q h0 (hspawned ▸ hq)
    by_cases hqp : q = w.job.pid
    · rw [if_pos hqp, hwaits, if_pos hqp]
    · rw [if_neg hqp, hwaits, if_neg hqp]
  late q := by
    rw [hchildren]
    dsimp only [JobWorld.updateChild]
    by_cases hqp : q = w.job.pid
    · rw [if_pos hqp]
      exact h.late q
    · rw [if_neg hqp]
      exact h.late q
  entered := by rw [hentered]; exact h.entered

structure Good (w : JobWorld) : Prop where
  counted : w.Counted
  place : w.Place w.todo

theorem new_good : new.Good where
  counted :=
    { bound := Nat.le_refl 0
      status := by simp [new, Busy]
      reaped := fun p h0 h => absurd h (Nat.not_le.2 h0)
      waits := fun p h0 h => absurd h (Nat.not_le.2 h0)
      late := fun _ => rfl
      entered := fun _ h => absurd h List.not_mem_nil }
  place := .idle (.inr ⟨rfl, rfl⟩)

theorem settle_tail {rest : List Instr} (h : Tail rest) (w : JobWorld) : settle rest w = { w with todo := rest } := by
  obtain rfl | ⟨env, rfl⟩ := h <;> rfl

theorem place_tail {rest : List Instr} (h : Tail rest) (hw : w.Idle) : w.Place rest := by
  obtain rfl | ⟨env, rfl⟩ := h
  · exact .idle hw
  · exact .start env hw

theorem gsJobStart_good (h : w.Counted) (hw : w.Idle) (env : StartEnv) :
    Good { w.gsJobStart env with todo := [] } := by
  have hsame : Good { w with todo := [] } := ⟨h.congr rfl h.status rfl rfl rfl, .idle (hw.congr rfl rfl rfl)⟩
  unfold gsJobStart
  by_cases hstarts : w.job.starts env
  · rw [if_pos hstarts]
    have hpid : w.job.pid = 0 := by
      simp only [JobObject.starts, Bool.and_eq_true, decide_eq_true_eq] at hstarts
      exact hstarts.1.1.1
    have hsources : w.sources = [] := (hw.resolve_left fun ha => absurd hpid (Nat.ne_of_gt ha.pid)).2
    refine ⟨?_, .idle (.inl ⟨Nat.succ_pos _, by simp [hsources]⟩)⟩
    exact
      { bound := Nat.le_refl _
        status := by simp [Busy]
        reaped := fun q h0 hq => by
          by_cases hnew : q = w.spawned + 1
          · simp [hnew]
          · have hold := h.reaped q h0 (by simp only at hq; omega)
            simp only [if_neg hnew, hold, hpid]
            simp [hnew, Nat.ne_of_gt h0]
        waits := fun q h0 hq => by
          by_cases hnew : q = w.spawned + 1
          · simp [hnew]
          · have hold := h.waits q h0 (by simp only at hq; omega)
            rw [hpid, if_neg (Nat.ne_of_gt h0)] at hold
            simp [hnew, hold]
        late := fun q => by
          dsimp only
          split
          · rfl
          · exact h.late q
        entered := h.entered }
  · rw [if_neg hstarts]
    exact hsame

theorem signal_cont_life (c : Child) (h : c.life ≠ .reaped) : (c.signal .cont).life ≠ .stopped := by
  unfold Child.signal
  rw [if_neg h]
  dsimp only
  split <;> simp_all

theorem signal_term_fit (c : Child) (h : c.life ≠ .reaped) (hlife : c.life ≠ .stopped) :
    Fit (c.signal .term).life (c.signal .term).termed := by
  unfold Child.signal
  rw [if_neg h]
  exact .inr ⟨rfl, hlife⟩

theorem updateChild_self (p : ℕ) (f : Child → Child) (w : JobWorld) :
    (w.updateChild p f).children p = f (w.children p) := if_pos rfl

/- The world after the wait in gs_job_died. -/
def reapedWorld (w : JobWorld) : JobWorld :=
  { w.updateChild w.job.pid fun c => { c with life := .reaped, waits := c.waits + 1 } with
    job := { w.job with status := .dead, pid := 0 } }

theorem exec_waiting (rest : List Instr) (h : w.Counted) (hpid : 0 < w.job.pid) (htodo : w.todo = waitingCode rest)
    (hexec : w.exec = some t) : t = settle rest w.reapedWorld := by
  unfold exec at hexec
  simp only [htodo, waitingCode] at hexec
  split at hexec
  · cases hexec
    rfl
  · exact absurd ‹_› (h.unreaped hpid)
  · cases hexec

/- Each system call of a call under way leads to the next point of it. -/
theorem exec_good (h : w.Good) (hexec : w.exec = some t) : t.Good := by
  obtain ⟨hcount, hplace⟩ := h
  have hwaiting := fun rest hpid htodo => exec_waiting rest hcount hpid htodo hexec
  unfold exec at hexec
  generalize w.todo = todo at hplace hexec hwaiting
  cases hplace with
  | idle => cases hexec
  | start env hidle =>
    cases hexec
    exact gsJobStart_good hcount hidle env
  | suspend sig status hwatch hbusy =>
    cases hexec
    have hstatus : w.job.pid = 0 ↔ ¬ Busy status := by simp [hbusy, Nat.ne_of_gt hwatch.pid]
    exact ⟨(hcount.signal hwatch.pid sig).congr rfl hstatus rfl rfl rfl, .idle (.inl (hwatch.congr rfl rfl rfl))⟩
  | stopCont hwatch htail =>
    cases hexec
    have hpid := hwatch.pid
    have hstatus : w.job.pid = 0 ↔ ¬ Busy .running := by simp [Busy, Nat.ne_of_gt hpid]
    have hsources : (w.removeSource w.job.watchId).sources = [] := by simp [removeSource, hwatch.sources]
    refine ⟨(hcount.signal hpid .cont).congr rfl hstatus rfl rfl rfl, .stopTerm ⟨hpid, hsources⟩ ?_ htail⟩
    have hlife := signal_cont_life _ (hcount.unreaped hpid)
    exact (congrArg (fun c => c.life ≠ Life.stopped) (updateChild_self ..)).mpr hlife
  | stopTerm hwatch hlife htail =>
    cases hexec
    have hpid := hwatch.pid
    have hstatus : w.job.pid = 0 ↔ ¬ Busy .killed := by simp [Busy, Nat.ne_of_gt hpid]
    refine ⟨(hcount.signal hpid .term).congr rfl hstatus rfl rfl rfl, .stopWait ⟨hpid, hwatch.sources⟩ ?_ htail⟩
    have hfit := signal_term_fit _ (hcount.unreaped hpid) hlife
    exact (congrArg (fun c => Fit c.life c.termed) (updateChild_self ..)).mpr hfit
  | stopWait hwatch hfit htail =>
    cases hexec
    refine ⟨⟨hcount.bound, hcount.status, hcount.reaped, hcount.waits, hcount.late, ?_⟩, .stopWaiting ⟨hwatch.pid, hwatch.sources⟩ htail⟩
    exact List.forall_mem_cons.2 ⟨hfit, hcount.entered⟩
  | watchWait hwatch hexited =>
    cases hexec
    refine ⟨⟨hcount.bound, hcount.status, hcount.reaped, hcount.waits, hcount.late, ?_⟩, .watchWaiting (hwatch.congr rfl rfl rfl)⟩
    exact List.forall_mem_cons.2 ⟨.inl hexited, hcount.entered⟩
  | @stopWaiting rest hwatch htail =>
    rw [hwaiting rest hwatch.pid rfl, settle_tail htail]
    exact ⟨hcount.reap hwatch.pid rfl rfl rfl rfl rfl, place_tail htail (.inr ⟨rfl, hwatch.sources⟩)⟩
  | watchWaiting hwatch =>
    rw [hwaiting [.dropWatch w.job.watchId] hwatch.pid rfl]
    refine ⟨hcount.reap hwatch.pid rfl rfl rfl rfl rfl, .idle (.inr ⟨rfl, ?_⟩)⟩
    change (w.removeSource w.job.watchId).sources = []
    simp [removeSource, hwatch.sources]

/- The processes cannot get a call off its way while they keep to the condition. -/
theorem move_good {p : ℕ} {m : Move} {c : Child} (h : w.Good) (hmove : (w.children p).move m = some c)
    (hcareful : w.Careful (.move p m)) : (w.updateChild p fun _ => c).Good := by
  obtain ⟨hcount, hplace⟩ := h
  obtain ⟨hexited, htermed, hstopped⟩ := move_life hmove
  have hself : ∀ {P : Child → Prop}, P (w.children w.job.pid) → (p = w.job.pid → P c) →
      P ((w.updateChild p fun _ => c).children w.job.pid) := by
    intro P hold hnew
    dsimp only [updateChild]
    split
    · exact hnew (Eq.symm ‹_›)
    · exact hold
  have hstop : p = w.job.pid → Awaited w.todo → m ≠ .stop := by
    rintro hp hawaited rfl
    exact hcareful hp hawaited
  refine ⟨hcount.updateChild (move_sameAccount hmove), ?_⟩
  change Place _ w.todo
  generalize w.todo = todo at hplace hstop
  cases hplace with
  | idle hidle => exact .idle (hidle.congr rfl rfl rfl)
  | start env hidle => exact .start env (hidle.congr rfl rfl rfl)
  | suspend sig status hwatch hbusy => exact .suspend sig status (hwatch.congr rfl rfl rfl) hbusy
  | stopCont hwatch htail => exact .stopCont (hwatch.congr rfl rfl rfl) htail
  | stopTerm hwatch hlife htail =>
    refine .stopTerm ⟨hwatch.pid, hwatch.sources⟩ (hself (P := fun c => c.life ≠ .stopped) hlife fun hp => ?_) htail
    subst hp
    refine hstopped (hstop rfl ?_) hlife
    obtain rfl | ⟨env, rfl⟩ := htail <;> simp [Awaited, termCode, waitCode]
  | stopWait hwatch hfit htail =>
    refine .stopWait ⟨hwatch.pid, hwatch.sources⟩ (hself (P := fun c => Fit c.life c.termed) hfit fun hp => ?_) htail
    subst hp
    obtain hgone | ⟨hterm, hlife⟩ := hfit
    · exact .inl (hexited hgone)
    · refine .inr ⟨by rw [htermed, hterm], hstopped (hstop rfl ?_) hlife⟩
      obtain rfl | ⟨env, rfl⟩ := htail <;> simp [Awaited, waitCode]
  | stopWaiting hwatch htail => exact .stopWaiting ⟨hwatch.pid, hwatch.sources⟩ htail
  | watchWait hwatch hgone =>
    refine .watchWait (hwatch.congr rfl rfl rfl) (hself (P := fun c => c.life = .exited) hgone fun hp => ?_)
    subst hp
    exact hexited hgone
  | watchWaiting hwatch => exact .watchWaiting (hwatch.congr rfl rfl rfl)

theorem Good.idle (h : w.Good) (htodo : w.todo = []) : w.Idle := by
  have hplace := h.place
  rw [htodo] at hplace
  cases hplace with
  | idle hidle => exact hidle

/- gs_job_stop with a child, before whatever else is to be done. -/
theorem stop_good {rest : List Instr} (h : w.Counted) (hwatch : w.Attached) (hmay : w.MayStop) (htail : Tail rest) :
    (settle (w.job.gsJobStop ++ rest) w).Good := by
  have hpid := hwatch.pid
  have hsources : (w.removeSource w.job.watchId).sources = [] := by simp [removeSource, hwatch.sources]
  by_cases hstatus : w.job.status = .stopped
  · have hcode : w.job.gsJobStop ++ rest =
        .signalPid .cont :: .setStatus .running :: .removeCommandWatch :: termCode rest := by
      simp [JobObject.gsJobStop, JobObject.gsJobSuspend, JobObject.gsJobDied, termCode, waitCode, hstatus,
        Nat.ne_of_gt hpid, hpid]
    rw [hcode]
    exact ⟨h.congr rfl h.status rfl rfl rfl, .stopCont (hwatch.congr rfl rfl rfl) htail⟩
  · have hcode : w.job.gsJobStop ++ rest = .removeCommandWatch :: termCode rest := by
      simp [JobObject.gsJobStop, JobObject.gsJobDied, termCode, waitCode, hstatus, Nat.ne_of_gt hpid, hpid]
    rw [hcode]
    exact ⟨h.congr rfl h.status rfl rfl rfl, .stopTerm ⟨hpid, hsources⟩ (hmay hpid hstatus) htail⟩

theorem settle_nil_good (h : w.Counted) (hidle : w.Idle) : (settle [] w).Good :=
  ⟨h.congr rfl h.status rfl rfl rfl, .idle (hidle.congr rfl rfl rfl)⟩

/- Every call that may be made starts at a point it can be at. -/
theorem call_good {e : Event} (h : w.Good) (hready : w.Ready e) (hcareful : w.Careful e) :
    (settle (w.code e) { w with job := w.field e }).Good := by
  have htodo : w.todo = [] := by
    cases e <;> exact hready.1
  have hcount := h.counted
  have hidle := h.idle htodo
  have hattached : 0 < w.job.pid → w.Attached := fun hp => hidle.resolve_right fun h0 => by omega
  cases e with
  | start env => exact ⟨hcount.congr rfl hcount.status rfl rfl rfl, .start env (hidle.congr rfl rfl rfl)⟩
  | setCommand command =>
    exact ⟨hcount.congr rfl hcount.status rfl rfl rfl, .idle (hidle.congr rfl rfl rfl)⟩
  | exec | move => exact settle_nil_good hcount hidle
  | stop =>
    rcases Nat.eq_zero_or_pos w.job.pid with hpid | hpid
    · simp only [code, JobObject.gsJobStop, hpid, if_true]
      exact settle_nil_good hcount hidle
    · simpa [code, field] using @stop_good w [] hcount (hattached hpid) hcareful (.inl rfl)
  | suspend susp =>
    rcases Nat.eq_zero_or_pos w.job.pid with hpid | hpid
    · simp only [code, JobObject.gsJobSuspend, hpid, if_true]
      exact settle_nil_good hcount hidle
    · simp only [code, JobObject.gsJobSuspend, if_neg (Nat.ne_of_gt hpid)]
      refine ⟨hcount.congr rfl hcount.status rfl rfl rfl, .suspend _ _ ((hattached hpid).congr rfl rfl rfl) ?_⟩
      cases susp <;> simp [Busy]
  | setWidget widget env =>
    by_cases hwidget : w.job.widget = some widget
    · simp only [code, field, JobObject.gsJobSetWidget, if_pos hwidget]
      exact settle_nil_good hcount hidle
    · simp only [code, field, JobObject.gsJobSetWidget, if_neg hwidget]
      let v : JobWorld := { w with job := { w.job with widget := some widget } }
      have hv : v.Counted := hcount.congr rfl hcount.status rfl rfl rfl
      split
      · exact stop_good (w := v) hv ((hattached ‹_›).congr rfl rfl rfl) (hcareful hwidget) (.inr ⟨env, rfl⟩)
      · exact settle_nil_good (w := v) hv (hidle.congr rfl rfl rfl)
  | unref =>
    have hpid : w.job.pid = 0 := hcareful
    simp only [code, JobObject.gsJobFinalize, hpid, Nat.lt_irrefl, if_false]
    exact ⟨hcount.congr rfl hcount.status rfl rfl rfl, .idle (hidle.congr rfl rfl rfl)⟩
  | stderr id c =>
    obtain ⟨_, _, src, hsrc, rfl, _⟩ := hready
    by_cases hdone : c.done
    · have hwatch : w.Attached := hidle.resolve_right fun h0 => by simp [h0.2] at hsrc
      have hid : src.1 = w.job.watchId := by
        rw [hwatch.sources, List.mem_singleton] at hsrc
        rw [hsrc]
      have hcode : w.job.commandWatch src.1 c = waitCode [.dropWatch w.job.watchId] := by
        simp [JobObject.commandWatch, JobObject.gsJobDied, hdone, hwatch.pid, waitCode, hid]
      simp only [code, hcode]
      exact ⟨hcount.congr rfl hcount.status rfl rfl rfl, .watchWait (hwatch.congr rfl rfl rfl) (hcareful hdone)⟩
    · simp only [code, JobObject.commandWatch, if_neg hdone]
      exact settle_nil_good hcount hidle

theorem next_good {e : Event} (h : w.Good) (hnext : w.next e = some t) (hcareful : w.Careful e) : t.Good := by
  cases e with
  | exec => exact exec_good h hnext
  | move p m =>
    obtain ⟨_, hnext⟩ := Option.ite_none_right_eq_some.1 hnext
    obtain ⟨c, hmove, rfl⟩ := Option.map_eq_some_iff.1 hnext
    exact move_good h hmove hcareful
  | start | stop | suspend | setCommand | setWidget | unref | stderr =>
    obtain ⟨hready, hnext⟩ := Option.ite_none_right_eq_some.1 hnext
    cases hnext
    exact call_good h hready hcareful

theorem Good.lifecycle (h : w.Good) : w.Lifecycle where
  status := h.counted.status
  unwatched hpid := by
    have hplace := h.place
    generalize w.todo = todo at hplace
    cases hplace with
    | idle hidle | start _ hidle => exact hidle.elim (fun ha => absurd hpid (Nat.ne_of_gt ha.pid)) And.right
    | suspend _ _ hwatch | stopCont hwatch | watchWait hwatch | watchWaiting hwatch =>
      exact absurd hpid (Nat.ne_of_gt hwatch.pid)
    | stopTerm hwatch | stopWait hwatch | stopWaiting hwatch => exact hwatch.sources
  alive htodo hpid := by
    have hwatch := (h.idle htodo).resolve_right fun h0 => by omega
    exact ⟨h.counted.bound, h.counted.unreaped hpid, by rw [hwatch.sources]; exact List.mem_singleton.2 rfl⟩
  waits := h.counted.waits
  late := h.counted.late
  entered := h.counted.entered

/- A job whose calls and child keep to the condition has the whole lifecycle. -/
theorem job_lifecycle (es : List Event) (h : jobs.Meets Careful new es) : jobs.Always Lifecycle new es :=
  System.always_of_meets (I := Good) (fun _ hg => hg.lifecycle) (fun _ _ _ hg hn hc => next_good hg hn hc)
    new_good h

/- The saver closes its stderr and runs on; the watch waits for it. -/
def closedStderr : List Event :=
  let env : StartEnv := ⟨none, false, true⟩
  [.setWidget 1 env, .setCommand (some "saver"), .start env, .exec, .move 1 .closeStderr,
    .stderr 1 ⟨some .eof, false⟩, .exec]

theorem job_hangs : ¬ ∀ es, jobs.Always Lifecycle new es := by
  intro h
  obtain ⟨w, hrun, hentered⟩ : ∃ w, jobs.run new closedStderr = some w ∧ w.entered = [(.running, false)] :=
    ⟨_, rfl, rfl⟩
  have hfit := ((h closedStderr).run hrun).entered (.running, false) (by simp [hentered])
  exact absurd hfit (by decide)

/- A start, a suspension, a stop by the manager and the last reference. -/
theorem job_lifecycle_saver :
    let env : StartEnv := ⟨none, false, true⟩
    jobs.Always Lifecycle new
      [.setWidget 1 env, .setCommand (some "saver"), .start env, .exec, .suspend true, .exec, .stop, .exec, .exec,
        .exec, .move 1 .exit, .exec, .unref] := by
  exact job_lifecycle _ (System.meets_of_checks (by decide +kernel))

/-! ### The jobs of the manager -/

/- The job when everything on the list has been done, n children having been spawned. -/
def outcome : List Instr → ℕ → JobObject → GSJob
  | [], _, j => j.toGSJob
  | .setStatus status :: rest, n, j => outcome rest n { j with status := status }
  | .forgetPid :: rest, n, j => outcome rest n { j with pid := 0 }
  | .free :: rest, n, j => outcome rest n { j with command := none }
  | .start env :: rest, n, j =>
    if j.starts env then outcome rest (n + 1) { j with pid := n + 1, status := .running } else outcome rest n j
  | _ :: rest, n, j => outcome rest n j

theorem outcome_watchId (todo : List Instr) (n : ℕ) (j : JobObject) (id : ℕ) :
    outcome todo n { j with watchId := id } = outcome todo n j := by
  induction todo generalizing n j with
  | nil => rfl
  | cons i rest ih =>
    cases i with
    | setStatus status => exact ih n { j with status := status }
    | forgetPid => exact ih n { j with pid := 0 }
    | free => exact ih n { j with command := none }
    | signalPid | waitOnChild | waiting | removeCommandWatch | dropWatch => exact ih n j
    | start env =>
      change (if j.starts env then outcome rest (n + 1) { j with watchId := id, pid := n + 1, status := .running }
        else outcome rest n { j with watchId := id }) = _
      rw [ih n j, ih (n + 1) { j with pid := n + 1, status := .running }]
      rfl

theorem outcome_settle (todo : List Instr) (w : JobWorld) :
    outcome (settle todo w).todo (settle todo w).spawned (settle todo w).job = outcome todo w.spawned w.job := by
  induction todo generalizing w with
  | nil => rfl
  | cons i rest ih =>
    cases i with
    | setStatus | forgetPid | free => exact ih _
    | removeCommandWatch | dropWatch => exact (ih _).trans (outcome_watchId rest w.spawned w.job 0)
    | signalPid | waitOnChild | waiting | start => rfl

/- Where a call is heading does not change on its way. -/
theorem exec_outcome (h : w.exec = some t) :
    outcome t.todo t.spawned t.job = outcome w.todo w.spawned w.job := by
  unfold exec at h
  generalize w.todo = todo at h
  split at h
  · cases h
    exact outcome_settle _ _
  · cases h
    rfl
  · split at h <;> cases h <;> exact outcome_settle _ _
  · cases h
    rename_i env rest
    rw [outcome_settle, outcome, gsJobStart]
    split
    · exact outcome_watchId rest (w.spawned + 1) { w.job with pid := w.spawned + 1, status := .running } w.nextSource
    · rfl
  · cases h

/- The events of a call under way. -/
def Event.inCall : Event → Bool
  | .exec | .move .. => true
  | _ => false

theorem inCall_outcome {e : Event} (h : w.next e = some t) (he : e.inCall = true) :
    outcome t.todo t.spawned t.job = outcome w.todo w.spawned w.job := by
  cases e with
  | exec => exact exec_outcome h
  | move p m =>
    obtain ⟨_, h⟩ := Option.ite_none_right_eq_some.1 h
    obtain ⟨c, _, rfl⟩ := Option.map_eq_some_iff.1 h
    rfl
  | start | stop | suspend | setCommand | setWidget | unref | stderr => cases he

/- What the calls come to are the steps of the manager's model of a job. -/
theorem outcome_gsJobDied (j : JobObject) (n : ℕ) : outcome j.gsJobDied n j = j.toGSJob.died := by
  unfold JobObject.gsJobDied GSJob.died
  split <;> rfl

theorem outcome_gsJobSuspend (j : JobObject) (n : ℕ) (susp : Bool) :
    outcome (j.gsJobSuspend susp) n j = j.toGSJob.suspend susp := by
  unfold JobObject.gsJobSuspend GSJob.suspend
  split <;> cases susp <;> rfl

theorem outcome_gsJobStop (j : JobObject) (n : ℕ) : outcome j.gsJobStop n j = j.toGSJob.stop := by
  unfold JobObject.gsJobStop JobObject.gsJobSuspend JobObject.gsJobDied GSJob.stop GSJob.suspend GSJob.died
  rcases Nat.eq_zero_or_pos j.pid with hpid | hpid
  · simp [hpid, outcome]
  · by_cases hstatus : j.status = .stopped <;> simp [hpid, Nat.ne_of_gt hpid, hstatus, outcome]

theorem outcome_start (j : JobObject) (n : ℕ) (env : StartEnv) (hwidget : j.widget.isSome) :
    outcome [.start env] n j =
      j.toGSJob.start (if env.spawns then .spawned (n + 1) (Nat.succ_pos n) else .spawnError) := by
  unfold outcome JobObject.starts GSJob.start
  cases j.command with
  | none => simp [outcome]
  | some command =>
    by_cases hpid : j.pid = 0
    · cases env.spawns with
      | false | true => simp [hpid, hwidget, outcome]
    · simp [hpid, outcome]

/- However the child behaves, a call that comes to its end has done to the job what the
manager's model of it says. -/
theorem call_refines {e : Event} {es : List Event} (h : w.Ready e) (hcall : e.inCall = false)
    (hrun : jobs.run w (e :: es) = some t) (hes : ∀ e ∈ es, e.inCall = true) (hdone : t.todo = []) :
    t.job.toGSJob = outcome (w.code e) w.spawned (w.field e) := by
  obtain ⟨u, hu, hrun⟩ := Option.bind_eq_some_iff.1 hrun
  have hstart : outcome u.todo u.spawned u.job = outcome (w.code e) w.spawned (w.field e) := by
    cases e with
    | exec | move => cases hcall
    | start | stop | suspend | setCommand | setWidget | unref | stderr =>
      obtain ⟨_, hu⟩ := Option.ite_none_right_eq_some.1 hu
      cases hu
      exact outcome_settle _ _
  have hend := System.run_keeps (C := fun e => e.inCall = true)
    (I := fun v => outcome v.todo v.spawned v.job = outcome (w.code e) w.spawned (w.field e))
    (fun _ _ _ hv hn he => (inCall_outcome hn he).trans hv) hstart hrun hes
  rwa [hdone] at hend

end JobWorld
end MateScreensaver
