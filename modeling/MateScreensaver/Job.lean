import MateScreensaver.State

/-!
Saver jobs (gs-job.c) and how the manager drives them, and the input grab
(gs-grab-x11.c).
-/

namespace MateScreensaver

namespace GSJob

def isRunning (j : GSJob) : Bool := 0 < j.pid

/- gs-job.c:125; the child is waited for here. -/
def died (j : GSJob) : GSJob :=
  { j with pid := 0, status := if j.pid > 0 then .dead else j.status }

/- gs-job.c:596 -/
def suspend (susp : Bool) (j : GSJob) : GSJob :=
  if j.pid = 0 then j else { j with status := if susp then .stopped else .running }

/- gs-job.c:569 -/
def stop (j : GSJob) : GSJob :=
  if j.pid = 0 then j
  else
    let j := if j.status = .stopped then j.suspend false else j
    { j with status := .killed }.died

/- gs-job.c:459; a job without a command is a no-op. -/
def start (r : SpawnResult) (j : GSJob) : GSJob :=
  if j.pid ≠ 0 then j
  else if j.command = none then j
  else match r with
    | .spawned pid _ => { j with pid := pid, status := .running }
    | _ => j

end GSJob

/- gs-grab-x11.c:93, once the seat grab succeeded. -/
def GSGrab.get (target : GrabTarget) (noPointerGrab hideCursor : Bool) (g : GSGrab) : GSGrab :=
  { g with grabWindow := some target, noPointerGrab := noPointerGrab, hideCursor := hideCursor,
           ops := .grab target noPointerGrab :: g.ops }

/- gs-grab-x11.c:173 -/
def GSGrab.release (g : GSGrab) : GSGrab :=
  { g with grabWindow := none, ops := .release :: g.ops }

/- gs-grab-x11.c:384 tries until the move succeeds; an old window is released
first. -/
def GSGrab.moveToWindow (target : GrabTarget) (noPointerGrab hideCursor : Bool) (g : GSGrab) :
    GSGrab :=
  if g.grabWindow = some target ∧ g.noPointerGrab = noPointerGrab then g
  else (if g.grabWindow.isSome then g.release else g).get target noPointerGrab hideCursor

/- gs-grab-x11.c:329 and 356, with the outcome of the twelve tries. -/
def GSGrab.grabWindowOnce (ok : Bool) (target : GrabTarget) (noPointerGrab hideCursor : Bool)
    (g : GSGrab) : Bool × GSGrab :=
  if ok then (true, g.get target noPointerGrab hideCursor) else (false, g)

/- The weak pointer of the grab when the window goes away. -/
def GSGrab.windowGone (w : WindowId) (g : GSGrab) : GSGrab :=
  if g.grabWindow = some (.window w) then { g with grabWindow := none } else g

namespace Saver

def lookupJobForWindow (s : Saver) (w : WindowId) : Option GSJob :=
  s.manager.jobs.bind fun jobs => (jobs.find? fun p => p.1 = w).map Prod.snd

/- g_hash_table_foreach over the jobs. -/
def mapJobs (f : WindowId → GSJob → GSJob) (s : Saver) : Saver :=
  { s with manager :=
      { s.manager with jobs := s.manager.jobs.map fun l => l.map fun p => (p.1, f p.1 p.2) } }

def updateJob (w : WindowId) (f : GSJob → GSJob) (s : Saver) : Saver :=
  s.mapJobs fun v j => if v = w then f j else j

/- gs-manager.c:114; an old job of the window is stopped by the table. -/
def managerAddJobForWindow (w : WindowId) (job : GSJob) (s : Saver) : Saver :=
  { s with manager := { s.manager with
      jobs := s.manager.jobs.map fun l => (w, job) :: l.filter fun p => p.1 ≠ w } }

/- gs-manager.c:176 -/
def managerMaybeStopJobForWindow (w : WindowId) (s : Saver) : Saver := s.updateJob w GSJob.stop

/- gs-manager.c:194: what becomes of a job that may start. -/
def maybeStarted (env : SaverEnv) (s : Saver) (w : WindowId) (job : GSJob) : GSJob :=
  if !s.manager.dialogUp && !s.manager.throttled && !job.isRunning && !(s.window w).obscured then
    job.start (env.spawnJob w)
  else job

def managerMaybeStartJobForWindow (env : SaverEnv) (w : WindowId) (s : Saver) : Saver :=
  s.updateJob w (s.maybeStarted env w)

/- gs-manager.c:125 -/
def selectTheme (env : SaverEnv) (m : GSManager) : Option String :=
  if m.saverMode = .blankOnly then none
  else
    let number := if m.saverMode = .random then env.randomInt % m.themes.length else 0
    m.themes[number]?

/- gs-manager.c:241 -/
def managerSelectThemeForJob (env : SaverEnv) (m : GSManager) (job : GSJob) : GSJob :=
  { job with command := (selectTheme env m).bind fun theme => (env.themeExec theme).join }

/- gs-manager.c:276 -/
def managerCycleJobs (env : SaverEnv) (s : Saver) : Saver :=
  s.mapJobs fun w job => s.maybeStarted env w (managerSelectThemeForJob env s.manager job.stop)

/- gs-manager.c:295 -/
def managerThrottleJobs (env : SaverEnv) (s : Saver) : Saver :=
  s.mapJobs fun w job => if s.manager.throttled then job.stop else s.maybeStarted env w job

/- gs-manager.c:319 -/
def managerResumeJobs (env : SaverEnv) (s : Saver) : Saver :=
  s.mapJobs fun w job => if job.isRunning then job.suspend false else s.maybeStarted env w job

/- gs-manager.c:344 -/
def managerSuspendJobs (s : Saver) : Saver := s.mapJobs fun _ job => job.suspend true

/- gs-manager.c:357; destroying the table stops every job. -/
def managerStopJobs (s : Saver) : Saver := { s with manager := { s.manager with jobs := none } }

end Saver
end MateScreensaver
