import MateScreensaver.HelperProto

/-!
The helper back end of gs_auth_verify_user (gs-auth-helper.c): a child process, a
loop that passes its prompts on, and the verdict of its exit status.
-/

namespace MateScreensaver
open Process Prog

/- What a wait status says. -/
inductive WaitStatus
  | exited (code : UInt8)
  | signaled (signal : UInt8)
  | other
deriving DecidableEq

/- WIFEXITED and WEXITSTATUS 0 -/
def WaitStatus.succeeded (status : WaitStatus) : Bool := status = .exited 0

inductive WaitResult
  | running
  | reaped (status : WaitStatus)
  | failed
deriving DecidableEq

/- The ends of the two pipes. -/
inductive PipeEnd
  | pfdRead
  | pfdWrite
  | rPfdRead
  | rPfdWrite
deriving DecidableEq

/-- What ext_run asks of the system and of its caller. -/
inductive ExtCall
  | pipe
  | blockSigchld
  | unblockSigchld
  | fork
  | close (fd : PipeEnd)
  | waitpid
  | uninitialised
  | func (style : Int) (msg : Bytes)
deriving DecidableEq

/- func answers with its result and with what it has stored in input. -/
@[reducible] def ExtCall.Answer : ExtCall → Type
  | .pipe => Bool
  | .fork => Bool
  | .waitpid => WaitResult
  | .uninitialised => Nat
  | .func _ _ => Bool × Option Bytes
  | _ => Unit

abbrev ExtProg := Prog ExtCall ExtCall.Answer
abbrev ExtTrace := List (Act ExtCall ExtCall.Answer)

/- gs-auth-helper.c:88..138 in the parent; nothing means that the loop is entered. -/
def extRunStart : ExtProg (Option Bool) :=
  .ask .pipe fun ok => if !ok then .done (some false)
  else .ask .pipe fun ok => if !ok then .done (some false)
  else .ask .blockSigchld fun _ => .ask .fork fun ok =>
    if !ok then
      .ask (.close .pfdRead) fun _ => .ask (.close .pfdWrite) fun _ => .ask (.close .rPfdRead) fun _ =>
        .ask (.close .rPfdWrite) fun _ => .done (some false)
    else .ask (.close .pfdRead) fun _ => .ask (.close .rPfdWrite) fun _ => .done none

/- gs-auth-helper.c:158, after func, whose result is not used. -/
def extRunReply : Bool × Option Bytes → ExtProg (Option Bool) := fun (_, input) =>
  (writeMsg ((input.map cString).getD [])).bind fun wt =>
    if wt < 0 then .done (some false) else .done none

/- gs-auth-helper.c:142..169, one turn of the loop. -/
def extRunServe : ExtProg (Option Bool) :=
  (readPrompt (.ask .uninitialised .done) maxLen).bind fun (msgType, buf) =>
    if msgType = 0 then .done none
    else if msgType < 0 then .done (some false)
    else .ask (.func msgType (cString buf)) extRunReply

/- gs-auth-helper.c:171..181 -/
def extRunEnd (status : WaitStatus) : ExtProg (Option Bool) :=
  .ask (.close .pfdWrite) fun _ => .ask (.close .rPfdRead) fun _ => .ask .unblockSigchld fun _ =>
    .done (some status.succeeded)

/- The condition of the loop with what it leads to. `status` is what the variable
holds as long as waitpid has stored nothing in it. -/
def extRunBody (status : WaitStatus) : ExtProg (Option Bool) :=
  .ask .waitpid fun
    | .running => extRunServe
    | .reaped status => extRunEnd status
    | .failed => extRunEnd status

/-- gs-auth-helper.c:84, and gs_auth_verify_user, which only calls it. -/
abbrev ExtRuns (status : WaitStatus) : ExtTrace → Bool → Prop := LoopRuns (extRunBody status) extRunStart

/-! ### The verdict -/

/- A waitpid of the trace reported a child that exited with status 0. -/
def ReportedSuccess (w : ExtTrace) : Prop := .ask .waitpid (.reaped (.exited 0)) ∈ w

/- What the calls of waitpid came back with. -/
def waitResults (w : ExtTrace) : List WaitResult :=
  w.filterMap fun
    | .ask .waitpid r => some r
    | _ => none

theorem mem_waitResults {w : ExtTrace} {r : WaitResult} : r ∈ waitResults w ↔ .ask .waitpid r ∈ w := by
  rw [waitResults, List.mem_filterMap]
  constructor
  · rintro ⟨a, ha, hr⟩
    split at hr
    · cases hr
      exact ha
    · cases hr
  · exact fun h => ⟨_, h, rfl⟩

theorem waitResults_append (u v : ExtTrace) : waitResults (u ++ v) = waitResults u ++ waitResults v :=
  List.filterMap_append

theorem waitResults_nil {α : Type} {p : ExtProg α} {w : ExtTrace} {a : α} (hp : OnlyAsks (fun q => q ≠ .waitpid) p)
    (h : Runs p w a) : waitResults w = [] := by
  refine List.eq_nil_iff_forall_not_mem.2 fun r hr => ?_
  exact hp.runs h .waitpid r (mem_waitResults.1 hr) rfl

theorem start_onlyAsks : OnlyAsks (fun q => q ≠ .waitpid) extRunStart := by
  refine ⟨nofun, fun first => ?_⟩
  cases first with
  | false => trivial
  | true =>
    refine ⟨nofun, fun second => ?_⟩
    cases second with
    | false => trivial
    | true =>
      refine ⟨nofun, fun _ => ⟨nofun, fun pid => ?_⟩⟩
      cases pid with
      | false => exact ⟨nofun, fun _ => ⟨nofun, fun _ => ⟨nofun, fun _ => ⟨nofun, fun _ => trivial⟩⟩⟩⟩
      | true => exact ⟨nofun, fun _ => ⟨nofun, fun _ => trivial⟩⟩

theorem serve_onlyAsks : OnlyAsks (fun q => q ≠ .waitpid) extRunServe := by
  have huninit : OnlyAsks (A := ExtCall.Answer) (fun q => q ≠ .waitpid) (.ask .uninitialised .done) :=
    ⟨nofun, fun _ => trivial⟩
  refine (onlyAsks_readPrompt huninit _).bind fun (msgType, buf) => ?_
  dsimp only
  split
  · trivial
  split
  · trivial
  refine ⟨nofun, fun (_, input) => (onlyAsks_writeMsg _ _).bind fun wt => ?_⟩
  split <;> trivial

/- Neither the part before the loop nor a turn of it has a verdict of its own. -/
theorem start_ensures : Ensures extRunStart fun _ r => r ≠ some true := by
  refine ensures_ask fun ok => ?_
  split
  · exact ensures_done nofun
  refine ensures_ask fun ok => ?_
  split
  · exact ensures_done nofun
  refine ensures_ask fun _ => ensures_ask fun ok => ?_
  split
  · exact ensures_ask fun _ => ensures_ask fun _ => ensures_ask fun _ => ensures_ask fun _ => ensures_done nofun
  · exact ensures_ask fun _ => ensures_ask fun _ => ensures_done nofun

theorem serve_ensures : Ensures extRunServe fun _ r => r ≠ some true := by
  refine Ensures.bind (R := fun _ _ => True) (fun _ _ _ => trivial) fun _ (msgType, buf) _ => ?_
  dsimp only
  split
  · exact ensures_done nofun
  split
  · exact ensures_done nofun
  refine ensures_ask fun (_, input) => Ensures.bind (R := fun _ _ => True) (fun _ _ _ => trivial) fun _ wt _ => ?_
  split
  · exact ensures_done nofun
  · exact ensures_done nofun

theorem end_runs {status : WaitStatus} {w : ExtTrace} {r : Option Bool} (h : Runs (extRunEnd status) w r) :
    w = [.ask (.close .pfdWrite) (), .ask (.close .rPfdRead) (), .ask .unblockSigchld ()] ∧
      r = some status.succeeded := by
  cases h with
  | ask _ h =>
    cases h with
    | ask _ h =>
      cases h with
      | ask _ h =>
        cases h
        exact ⟨rfl, rfl⟩

/- The verdict as far as waitpid accounts for it: either a report stands behind TRUE,
or a call failed and the status variable was never assigned. -/
def Concludes (status : WaitStatus) (waits : List WaitResult) (b : Bool) : Prop :=
  (.failed ∉ waits ∧ (b = true → .reaped (.exited 0) ∈ waits)) ∨
    (.failed ∈ waits ∧ b = status.succeeded ∧ ∀ st, .reaped st ∉ waits)

/- What the part before the loop and each turn of it have in common. -/
def Turn (status : WaitStatus) (p : ExtProg (Option Bool)) : Prop := Ensures p fun w r =>
  match r with
  | none => ∀ x ∈ waitResults w, x = .running
  | some b => Concludes status (waitResults w) b

theorem turn_of_silent {status : WaitStatus} {p : ExtProg (Option Bool)} (ha : OnlyAsks (fun q => q ≠ .waitpid) p)
    (he : Ensures p fun _ r => r ≠ some true) : Turn status p := by
  intro w r h
  have hnil := waitResults_nil ha h
  cases r with
  | none =>
    rw [hnil]
    exact fun x hx => absurd hx List.not_mem_nil
  | some b =>
    rw [hnil]
    exact .inl ⟨List.not_mem_nil, fun hb => absurd (congrArg some hb) (he w _ h)⟩

theorem turn_body (status : WaitStatus) : Turn status (extRunBody status) := by
  refine ensures_ask fun result => fun w r h => ?_
  have hfirst : waitResults (.ask .waitpid result :: w) = result :: waitResults w := rfl
  dsimp only
  rw [hfirst]
  cases result with
  | running =>
    have hnil := waitResults_nil serve_onlyAsks h
    rw [hnil]
    cases r with
    | none => exact fun x hx => List.mem_singleton.1 hx
    | some b => exact .inl ⟨by simp, fun hb => absurd (congrArg some hb) (serve_ensures w _ h)⟩
  | reaped st =>
    obtain ⟨hw, rfl⟩ := end_runs h
    rw [hw]
    refine .inl ⟨by simp [waitResults], fun hb => ?_⟩
    have hst : st = .exited 0 := of_decide_eq_true hb
    simp [hst]
  | failed =>
    obtain ⟨hw, rfl⟩ := end_runs h
    rw [hw]
    exact .inr ⟨List.mem_cons_self, rfl, fun st => by simp [waitResults]⟩

theorem loop_concludes {status : WaitStatus} {start : ExtProg (Option Bool)} {w : ExtTrace} {b : Bool}
    (h : LoopRuns (extRunBody status) start w b) (hs : Turn status start) : Concludes status (waitResults w) b := by
  induction h with
  | stop h => exact hs _ _ h
  | @again start u v b hu _ ih =>
    have hrunning := hs _ _ hu
    have hlater : ∀ x, x ≠ .running → (x ∈ waitResults (u ++ v) ↔ x ∈ waitResults v) := by
      intro x hx
      rw [waitResults_append, List.mem_append]
      exact ⟨fun h => h.resolve_left fun hm => hx (hrunning x hm), .inr⟩
    obtain ⟨hno, hb⟩ | ⟨hyes, hb, hst⟩ := ih (turn_body status)
    · exact .inl ⟨fun h => hno ((hlater .failed nofun).1 h), fun ht => (hlater (.reaped (.exited 0)) nofun).2 (hb ht)⟩
    · exact .inr ⟨(hlater .failed nofun).2 hyes, hb, fun st h => hst st ((hlater (.reaped st) nofun).1 h)⟩

theorem ext_concludes {status : WaitStatus} {w : ExtTrace} {b : Bool} (h : ExtRuns status w b) :
    Concludes status (waitResults w) b :=
  loop_concludes h (turn_of_silent start_onlyAsks start_ensures)

/-! ### Another value in the status variable -/

theorem body_runs_any {status : WaitStatus} {w : ExtTrace} {r : Option Bool} (status' : WaitStatus)
    (h : Runs (extRunBody status) w r) : ∃ r', Runs (extRunBody status') w r' ∧ (r = none ↔ r' = none) := by
  cases h with
  | ask result h =>
    cases result with
    | running => exact ⟨r, .ask _ h, Iff.rfl⟩
    | reaped st => exact ⟨r, .ask _ h, Iff.rfl⟩
    | failed =>
      obtain ⟨rfl, rfl⟩ := end_runs h
      exact ⟨some status'.succeeded, .ask _ (.ask _ (.ask _ (.ask _ (.done _)))), by simp⟩

theorem loop_runs_any {status : WaitStatus} {start start' : ExtProg (Option Bool)} {w : ExtTrace} {b : Bool}
    (status' : WaitStatus) (h : LoopRuns (extRunBody status) start w b)
    (hs : ∀ w r, Runs start w r → ∃ r', Runs start' w r' ∧ (r = none ↔ r' = none)) :
    ∃ b', LoopRuns (extRunBody status') start' w b' := by
  induction h generalizing start' with
  | @stop start w b h =>
    obtain ⟨r', hr', hiff⟩ := hs _ _ h
    cases r' with
    | none => cases hiff.2 rfl
    | some b' => exact ⟨b', .stop hr'⟩
  | @again start u v b hu _ ih =>
    obtain ⟨r', hr', hiff⟩ := hs _ _ hu
    obtain ⟨b', hb'⟩ := ih fun w r h => body_runs_any status' h
    rw [hiff.1 rfl] at hr'
    exact ⟨b', .again hr' hb'⟩

/-- For all that may be in the variable that waitpid was to assign, TRUE rests on a
report of the child's success, exactly when no waitpid failed. -/
theorem verdict_iff {w : ExtTrace} (h : ∃ status b, ExtRuns status w b) :
    (∀ status b, ExtRuns status w b → b = true → ReportedSuccess w) ↔ .ask .waitpid .failed ∉ w := by
  rw [← mem_waitResults]
  constructor
  · intro hall hfailed
    obtain ⟨status, b, hb⟩ := h
    obtain ⟨b', hb'⟩ := loop_runs_any (.exited 0) hb fun w r h => ⟨r, h, Iff.rfl⟩
    obtain ⟨hno, -⟩ | ⟨-, htrue, hst⟩ := ext_concludes hb'
    · exact hno hfailed
    · have hreport := hall (.exited 0) b' hb' (htrue.trans (by decide))
      exact hst _ (mem_waitResults.2 hreport)
  · intro hno status b hb ht
    obtain ⟨-, hreport⟩ | ⟨hyes, -⟩ := ext_concludes hb
    · exact mem_waitResults.1 (hreport ht)
    · exact absurd hyes hno

/- Both pipes and the fork succeed. -/
def forked : ExtTrace :=
  [.ask .pipe true, .ask .pipe true, .ask .blockSigchld (), .ask .fork true, .ask (.close .pfdRead) (),
   .ask (.close .rPfdWrite) ()]

/- The end of ext_run after what its first waitpid came back with. -/
def waitedOnce (result : WaitResult) : ExtTrace :=
  .ask .waitpid result :: [.ask (.close .pfdWrite) (), .ask (.close .rPfdRead) (), .ask .unblockSigchld ()]

theorem forked_runs : Runs extRunStart forked none :=
  .ask _ (.ask _ (.ask _ (.ask _ (.ask _ (.ask _ (.done _))))))

theorem verdict_reaped : ReportedSuccess (forked ++ waitedOnce (.reaped (.exited 0))) := by
  have hruns : ExtRuns .other (forked ++ waitedOnce (.reaped (.exited 0))) true :=
    .again forked_runs (.stop (.ask _ (.ask _ (.ask _ (.ask _ (.done _))))))
  have hno : Act.ask .waitpid .failed ∉ forked ++ waitedOnce (.reaped (.exited 0)) := by
    rw [← mem_waitResults]
    decide
  exact (verdict_iff ⟨_, _, hruns⟩).2 hno _ _ hruns rfl

/- waitpid fails at once, and the variable happens to hold the status of a success. -/
theorem verdict_unreported : ¬ ∀ status w b, ExtRuns status w b → b = true → ReportedSuccess w := by
  intro h
  have hruns : ExtRuns (.exited 0) (forked ++ waitedOnce .failed) true :=
    .again forked_runs (.stop (.ask _ (.ask _ (.ask _ (.ask _ (.done _))))))
  have hreport := mem_waitResults.2 (h _ _ _ hruns rfl)
  exact absurd hreport (by decide)

end MateScreensaver
