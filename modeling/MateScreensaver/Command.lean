import MateScreensaver.Lib.Client
import MateScreensaver.Lock
import MateScreensaver.Parts

/-!
The command line client (mate-screensaver-command.c) with the daemon: what it says was so when the
daemon handled its question, whatever the daemon and the other clients do meanwhile.
-/

namespace MateScreensaver
open Client Runs

/- do_* and the two arguments of --inhibit. -/
structure CommandOptions where
  quit : Bool := false
  lock : Bool := false
  unlock : Bool := false
  cycle : Bool := false
  activate : Bool := false
  deactivate : Bool := false
  poke : Bool := false
  inhibit : Bool := false
  query : Bool := false
  time : Bool := false
  inhibitReason : Option String := none
  inhibitApplication : Option String := none

/- A line that is printed: a description of an entry is the entry. -/
inductive CommandLine
  | active (active : Bool)
  | notInhibited
  | inhibitedBy
  | inhibitor (entry : RefEntry)
  | activeFor (t : Int)
  | notActive
  | noReply

/- How do_command ends: the main loop is left or not, or a reply is read that is none, or that has
another type. -/
inductive CommandEnd
  | quit
  | blocked
  | undefined

abbrev CommandProgram := Program SessionCall Reply CommandLine CommandEnd
abbrev CommandAct := Act SessionCall Reply CommandLine

namespace CommandOptions

def unanswered : CommandProgram := .say .noReply (.stop .quit)

/- screensaver_send_message_void without a reply. -/
def oneWay (flag : Bool) (call : SessionCall) (next : CommandProgram) : CommandProgram :=
  if flag then .send call next else next

/- A reply that is only waited for. -/
def proceed (next : CommandProgram) : Option Reply → CommandProgram
  | none => unanswered
  | some _ => next

def twoWay (flag : Bool) (call : SessionCall) (next : CommandProgram) : CommandProgram :=
  if flag then .ask call (proceed next) else next

/- g_print for each of the inhibitors. -/
def printInhibitors (next : CommandProgram) : List RefEntry → CommandProgram
  | [] => next
  | entry :: rest => .say (.inhibitor entry) (printInhibitors next rest)

/- The reply to GetInhibitors. -/
def queryInhibitors (next : CommandProgram) : Option Reply → CommandProgram
  | none => unanswered
  | some (.inhibitors []) => .say .notInhibited next
  | some (.inhibitors (entry :: rest)) => .say .inhibitedBy (printInhibitors next (entry :: rest))
  | some _ => .stop .undefined

/- The reply to GetActive. -/
def queryActive (next : CommandProgram) : Option Reply → CommandProgram
  | none => unanswered
  | some (.active v) => .say (.active v) (.ask .getInhibitors (queryInhibitors next))
  | some _ => .stop .undefined

/- mate-screensaver-command.c:344 -/
def doQuery (next : CommandProgram) : CommandProgram := .ask .getActive (queryActive next)

/- dbus_message_iter_get_basic (&iter, &t): 32 bits without a sign, read with one. -/
def readTime (secs : ℕ) : Int := Int.bmod secs (2 ^ 32)

/- The reply to GetActiveTime, which is read whether there is one or not. -/
def timeSecs (next : CommandProgram) : Option Reply → CommandProgram
  | some (.activeTime secs) => .say (.activeFor (readTime secs)) next
  | _ => .stop .undefined

/- The reply to GetActive. -/
def timeActive (next : CommandProgram) : Option Reply → CommandProgram
  | none => unanswered
  | some (.active true) => .ask .getActiveTime (timeSecs next)
  | some (.active false) => .say .notActive next
  | some _ => .stop .undefined

/- mate-screensaver-command.c:397 -/
def doTime (next : CommandProgram) : CommandProgram := .ask .getActive (timeActive next)

def inhibitCall (o : CommandOptions) : SessionCall :=
  .inhibit (some (o.inhibitApplication.getD "Unknown", o.inhibitReason.getD "Unknown"))

/- mate-screensaver-command.c:474 -/
def doInhibit (o : CommandOptions) : CommandProgram :=
  if o.inhibit then .ask o.inhibitCall (proceed (.stop .blocked)) else .stop .quit

/- The arguments of the two calls of SetActive. -/
def setActive (value : Bool) : SessionCall := .setActive "/org/mate/ScreenSaver" (some value)

/- What follows --query and --time. -/
def doRest (o : CommandOptions) : CommandProgram :=
  oneWay o.lock .lock <| oneWay o.unlock .unlock <| oneWay o.cycle .cycle <|
    oneWay o.poke .simulateUserActivity <| twoWay o.activate (setActive true) <|
    twoWay o.deactivate (setActive false) o.doInhibit

/-- mate-screensaver-command.c:334 -/
def doCommand (o : CommandOptions) : CommandProgram :=
  if o.quit then .send .quit (.stop .quit)
  else
    let timed := if o.time then doTime o.doRest else o.doRest
    if o.query then doQuery timed else timed

end CommandOptions

/- The reply of a call, among what was sent while it was handled. -/
def replyTo (s t : Screensaver) : Option Reply :=
  (t.sent.drop s.sent.length).findSome? fun
    | .methodReturn r => some r
    | _ => none

/-- The daemon as the client sees it: its calls are events like all others. -/
def daemon (sender : BusName) : Server Screensaver SessionCall Reply Env (Env × Event) where
  answer env call s := (s.step (env, .sessionCall sender call)).map fun t => (t, replyTo s t)
  move label s := s.step label

abbrev CommandLink := Link Screensaver SessionCall Reply CommandLine CommandEnd

/-- Every run of the command with a daemon that is running. -/
def commandSystem (sender : BusName) (o : CommandOptions) : System CommandLink (Client.Event Env (Env × Event)) :=
  Client.system (daemon sender) screensaver.Reachable o.doCommand

/-! ### What it says -/

/- What the program knows by its replies. -/
def CommandLine.Told (past : List CommandAct) : CommandLine → Prop
  | .active b => .asked .getActive (some (.active b)) ∈ past
  | .notInhibited => .asked .getInhibitors (some (.inhibitors [])) ∈ past
  | .inhibitedBy => ∃ l ≠ [], .asked .getInhibitors (some (.inhibitors l)) ∈ past
  | .inhibitor entry => ∃ l, entry ∈ l ∧ .asked .getInhibitors (some (.inhibitors l)) ∈ past
  | .activeFor t => ∃ past₁ past₂ secs, past = past₁ ++ past₂ ∧ .asked .getActive (some (.active true)) ∈ past₁ ∧
      .asked .getActiveTime (some (.activeTime secs)) ∈ past₂ ∧ t = CommandOptions.readTime secs
  | .notActive => .asked .getActive (some (.active false)) ∈ past
  | .noReply => True

/- Each line was known when it was said. -/
def AllTold (acts : List CommandAct) : Prop :=
  ∀ before line after, acts = before ++ .said line :: after → line.Told before

variable {past acts : List CommandAct} {next p : CommandProgram} {o : CommandOptions} {flag : Bool} {call : SessionCall}

theorem AllTold.nil : AllTold [] := by
  intro before line after h
  have hlength := congrArg List.length h
  rw [List.length_append, List.length_cons, List.length_nil] at hlength
  omega

theorem AllTold.said {line : CommandLine} (h : AllTold past) (hline : line.Told past) : AllTold (past ++ [.said line]) := by
  intro before line' after heq
  rcases split_snoc heq with ⟨rfl, hlast⟩ | ⟨after', hbefore⟩
  · cases hlast
    exact hline
  · exact h before line' after' hbefore

theorem AllTold.sent (h : AllTold past) (call : SessionCall) : AllTold (past ++ [.sent call]) := by
  intro before line' after heq
  rcases split_snoc heq with ⟨-, hlast⟩ | ⟨after', hbefore⟩
  · cases hlast
  · exact h before line' after' hbefore

theorem AllTold.asked (h : AllTold past) (call : SessionCall) (answer : Option Reply) :
    AllTold (past ++ [.asked call answer]) := by
  intro before line' after heq
  rcases split_snoc heq with ⟨-, hlast⟩ | ⟨after', hbefore⟩
  · cases hlast
  · exact h before line' after' hbefore

/- The program says only what it was told, whatever it was told before it starts. -/
def Truthful (p : CommandProgram) : Prop := ∀ past, AllTold past → p.Keeps AllTold (fun _ _ => True) past

namespace CommandOptions

theorem truthful_stop (e : CommandEnd) : Truthful (.stop e) := fun _ h => ⟨h, trivial⟩

theorem truthful_unanswered : Truthful unanswered := fun _ h => ⟨h, h.said trivial, trivial⟩

theorem truthful_oneWay (hnext : Truthful next) : Truthful (oneWay flag call next) := by
  rw [oneWay]
  split
  · exact fun past h => ⟨h, hnext _ (h.sent call)⟩
  · exact hnext

theorem truthful_proceed (hnext : Truthful next) (answer : Option Reply) : Truthful (proceed next answer) := by
  cases answer with
  | none => exact truthful_unanswered
  | some reply => exact hnext

theorem truthful_twoWay (hnext : Truthful next) : Truthful (twoWay flag call next) := by
  rw [twoWay]
  split
  · exact fun past h => ⟨h, fun answer => truthful_proceed hnext answer _ (h.asked call answer)⟩
  · exact hnext

theorem truthful_doInhibit (o : CommandOptions) : Truthful o.doInhibit := by
  rw [doInhibit]
  split
  · exact fun past h => ⟨h, fun answer => truthful_proceed (truthful_stop .blocked) answer _ (h.asked _ answer)⟩
  · exact truthful_stop .quit

theorem truthful_doRest (o : CommandOptions) : Truthful o.doRest := by
  apply truthful_oneWay
  apply truthful_oneWay
  apply truthful_oneWay
  apply truthful_oneWay
  apply truthful_twoWay
  apply truthful_twoWay
  exact truthful_doInhibit o

/- The inhibitors that are left are some of those it was told. -/
theorem truthful_printInhibitors {l rest : List RefEntry} (hnext : Truthful next) (hrest : ∀ entry ∈ rest, entry ∈ l)
    (hpast : AllTold past) (hl : .asked .getInhibitors (some (.inhibitors l)) ∈ past) :
    (printInhibitors next rest).Keeps AllTold (fun _ _ => True) past := by
  induction rest generalizing past with
  | nil => exact hnext past hpast
  | cons entry rest ih =>
    have htold : CommandLine.Told past (.inhibitor entry) := ⟨l, hrest entry List.mem_cons_self, hl⟩
    refine ⟨hpast, ih (fun e he => hrest e (List.mem_cons_of_mem _ he)) (hpast.said htold) ?_⟩
    exact List.mem_append_left _ hl

theorem truthful_queryInhibitors {answer : Option Reply} (hnext : Truthful next) (hpast : AllTold past)
    (hanswer : .asked .getInhibitors answer ∈ past) :
    (queryInhibitors next answer).Keeps AllTold (fun _ _ => True) past := by
  unfold queryInhibitors
  split
  · exact truthful_unanswered past hpast
  · exact ⟨hpast, hnext _ (hpast.said hanswer)⟩
  · next entry rest =>
    refine ⟨hpast, truthful_printInhibitors hnext (fun _ he => he) (hpast.said ⟨_, List.cons_ne_nil _ _, hanswer⟩) ?_⟩
    exact List.mem_append_left _ hanswer
  · exact truthful_stop .undefined past hpast

theorem truthful_doQuery (hnext : Truthful next) : Truthful (doQuery next) := by
  intro past h
  refine ⟨h, fun answer => ?_⟩
  have hactive := h.asked .getActive answer
  unfold queryActive
  split
  · exact truthful_unanswered _ hactive
  · next v =>
    refine ⟨hactive, ?_, fun answer => truthful_queryInhibitors hnext (.asked (.said hactive ?_) .getInhibitors answer) ?_⟩
    · exact hactive.said (List.mem_append_right _ (List.mem_singleton_self _))
    · exact List.mem_append_right _ (List.mem_singleton_self _)
    · exact List.mem_append_right _ (List.mem_singleton_self _)
  · exact truthful_stop .undefined _ hactive

theorem truthful_doTime (hnext : Truthful next) : Truthful (doTime next) := by
  intro past h
  refine ⟨h, fun answer => ?_⟩
  have hactive := h.asked .getActive answer
  unfold timeActive
  split
  · exact truthful_unanswered _ hactive
  · refine ⟨hactive, fun answer => ?_⟩
    have htime := hactive.asked .getActiveTime answer
    unfold timeSecs
    split
    · next secs =>
      refine ⟨htime, hnext _ (htime.said ⟨_, _, secs, rfl, ?_, List.mem_singleton_self _, rfl⟩)⟩
      exact List.mem_append_right _ (List.mem_singleton_self _)
    · exact truthful_stop .undefined _ htime
  · exact ⟨hactive, hnext _ (hactive.said (List.mem_append_right _ (List.mem_singleton_self _)))⟩
  · exact truthful_stop .undefined _ hactive

theorem truthful_doCommand (o : CommandOptions) : Truthful o.doCommand := by
  have htimed : Truthful (if o.time then doTime o.doRest else o.doRest) := by
    split
    · exact truthful_doTime (truthful_doRest o)
    · exact truthful_doRest o
  rw [doCommand]
  split
  · exact fun past h => ⟨h, h.sent .quit, trivial⟩
  · dsimp only
    split
    · exact truthful_doQuery htimed
    · exact htimed

end CommandOptions

/-! ### What the daemon answers -/

/- The answer to a question, in the state in which it is handled. -/
def AnswerOf (s : Screensaver) : SessionCall → Reply → Prop
  | .getActive, r => r = .active s.listener.active
  | .getInhibitors, r => r = .inhibitors (s.listener.inhibitors.entries.map fun e => e.2)
  | .getActiveTime, r => ∃ env, r = .activeTime (Screensaver.listenerGetActiveTime env s.listener)
  | _, _ => True

theorem replyTo_send {s t : Screensaver} {r : Reply} (h : t.sent = s.sent ++ [.methodReturn r]) : replyTo s t = some r := by
  rw [replyTo, h, List.drop_left]
  rfl

theorem answerOf_handled {sender : BusName} {env : Env} {s t : Screensaver} {r : Reply}
    (h : (daemon sender).answer env call s = some (t, some r)) : AnswerOf s call r := by
  obtain ⟨u, hu, heq⟩ := Option.map_eq_some_iff.1 h
  obtain ⟨rfl, hr⟩ := Prod.mk.inj heq
  rw [Screensaver.step] at hu
  split at hu
  · cases hu
  · cases call with
    | getActive =>
      cases hu
      exact Option.some.inj (hr.symm.trans (replyTo_send rfl))
    | getInhibitors =>
      cases hu
      exact Option.some.inj (hr.symm.trans (replyTo_send rfl))
    | getActiveTime =>
      cases hu
      exact ⟨env, Option.some.inj (hr.symm.trans (replyTo_send rfl))⟩
    | _ => trivial

/-- The line was so in the state in which the daemon handled the question; the length of time is one
of a later state than the one that was active. -/
def CommandLine.WasSo (handled : List (Handled Screensaver SessionCall Reply)) : CommandLine → Prop
  | .active b => ∃ c ∈ handled, c.call = .getActive ∧ c.before.listener.active = b
  | .notInhibited => ∃ c ∈ handled, c.call = .getInhibitors ∧ c.before.listener.inhibitors.entries = []
  | .inhibitedBy => ∃ c ∈ handled, c.call = .getInhibitors ∧ c.before.listener.inhibitors.entries ≠ []
  | .inhibitor entry => ∃ c ∈ handled, c.call = .getInhibitors ∧ entry ∈ c.before.listener.inhibitors.entries.map fun e => e.2
  | .activeFor t => ∃ (i j : ℕ) (c d : Handled Screensaver SessionCall Reply), i < j ∧
      handled[i]? = some c ∧ handled[j]? = some d ∧ c.call = .getActive ∧ c.before.listener.active = true ∧ d.call = .getActiveTime ∧
      ∃ env, t = CommandOptions.readTime (Screensaver.listenerGetActiveTime env d.before.listener)
  | .notActive => ∃ c ∈ handled, c.call = .getActive ∧ c.before.listener.active = false
  | .noReply => True

variable {sender : BusName} {x : CommandLink} {r : Reply}

theorem commandSystem_keeps (h : (commandSystem sender o).Reachable x) :
    ∀ c ∈ x.handled, screensaver.Reachable c.before ∧ ∀ r, c.answer = some r → AnswerOf c.before c.call r := by
  have hkeeps := handled_keeps (I := screensaver.Reachable) (fun s hs => hs) ?_ ?_ h
  · intro c hc
    obtain ⟨hreach, env, s', hanswer⟩ := hkeeps.2 c hc
    refine ⟨hreach, fun r hr => ?_⟩
    rw [hr] at hanswer
    exact answerOf_handled hanswer
  · intro env call s s' r hs hanswer
    obtain ⟨u, hu, heq⟩ := Option.map_eq_some_iff.1 hanswer
    cases heq
    exact hs.step hu
  · intro label s s' hs hmove
    exact hs.step hmove

/- What the program was told was answered. -/
theorem answered_of_mem (h : (commandSystem sender o).Reachable x) {before after : List CommandAct}
    (hacts : x.acts = before ++ .asked call (some r) :: after) :
    ∃ c, x.handled[(calls before).length]? = some c ∧ c.call = call ∧ AnswerOf c.before call r := by
  obtain ⟨c, hc, hcall, hr⟩ := (accounts_reachable h).handled_of_asked hacts
  have hanswer := (commandSystem_keeps h c (List.mem_of_getElem? hc)).2 r hr
  rw [hcall] at hanswer
  exact ⟨c, hc, hcall, hanswer⟩

theorem wasSo_of_told {line : CommandLine} {before after : List CommandAct} (h : (commandSystem sender o).Reachable x)
    (hacts : x.acts = before ++ after) (htold : line.Told before) : line.WasSo x.handled := by
  have hmem : ∀ {call r}, .asked call (some r) ∈ before → ∃ c ∈ x.handled, c.call = call ∧ AnswerOf c.before call r := by
    intro call r hmem
    obtain ⟨b, a, rfl⟩ := List.append_of_mem hmem
    rw [List.append_assoc, List.cons_append] at hacts
    obtain ⟨c, hc, hcall, hanswer⟩ := answered_of_mem h hacts
    exact ⟨c, List.mem_of_getElem? hc, hcall, hanswer⟩
  cases line with
  | active b =>
    obtain ⟨c, hc, hcall, hanswer⟩ := hmem htold
    exact ⟨c, hc, hcall, (Reply.active.inj hanswer).symm⟩
  | notInhibited =>
    obtain ⟨c, hc, hcall, hanswer⟩ := hmem htold
    exact ⟨c, hc, hcall, List.map_eq_nil_iff.1 (Reply.inhibitors.inj hanswer).symm⟩
  | inhibitedBy =>
    obtain ⟨l, hl, hasked⟩ := htold
    obtain ⟨c, hc, hcall, hanswer⟩ := hmem hasked
    refine ⟨c, hc, hcall, fun hnil => hl ?_⟩
    rw [Reply.inhibitors.inj hanswer, hnil, List.map_nil]
  | inhibitor entry =>
    obtain ⟨l, hl, hasked⟩ := htold
    obtain ⟨c, hc, hcall, hanswer⟩ := hmem hasked
    rw [Reply.inhibitors.inj hanswer] at hl
    exact ⟨c, hc, hcall, hl⟩
  | activeFor t =>
    obtain ⟨past₁, past₂, secs, rfl, hactive, htime, ht⟩ := htold
    obtain ⟨b₁, a₁, rfl⟩ := List.append_of_mem hactive
    obtain ⟨b₂, a₂, rfl⟩ := List.append_of_mem htime
    have hfirst : x.acts = b₁ ++ .asked .getActive (some (.active true)) ::
        (a₁ ++ (b₂ ++ .asked .getActiveTime (some (.activeTime secs)) :: a₂) ++ after) := by
      rw [hacts]
      simp only [List.append_assoc, List.cons_append]
    have hsecond : x.acts = (b₁ ++ .asked .getActive (some (.active true)) :: a₁ ++ b₂) ++
        .asked .getActiveTime (some (.activeTime secs)) :: (a₂ ++ after) := by
      rw [hacts]
      simp only [List.append_assoc, List.cons_append]
    obtain ⟨c, hc, hcall, hcanswer⟩ := answered_of_mem h hfirst
    obtain ⟨d, hd, hdcall, env, hdanswer⟩ := answered_of_mem h hsecond
    refine ⟨_, _, c, d, ?_, hc, hd, hcall, (Reply.active.inj hcanswer).symm, hdcall, env, ?_⟩
    · rw [List.append_assoc, calls_append, List.length_append]
      have hone : calls (.asked .getActive (some (.active true)) :: a₁ ++ b₂) = .getActive :: calls (a₁ ++ b₂) := rfl
      rw [hone, List.length_cons]
      omega
    · rw [ht, Reply.activeTime.inj hdanswer]
  | notActive =>
    obtain ⟨c, hc, hcall, hanswer⟩ := hmem htold
    exact ⟨c, hc, hcall, (Reply.active.inj hanswer).symm⟩
  | noReply => trivial

/-- Every line that the command has printed was so: in a state of the daemon that can be reached, at
the moment when it handled the question, whatever else the daemon did before, between and since, and
however late its answers came. A length of time is that of a later moment than the one at which the
screensaver was active, so it may be that of a screensaver that is so no longer. -/
theorem command_lines_were_so (h : (commandSystem sender o).Reachable x) :
    (∀ c ∈ x.handled, screensaver.Reachable c.before) ∧ ∀ line, .said line ∈ x.acts → line.WasSo x.handled := by
  constructor
  · exact fun c hc => (commandSystem_keeps h c hc).1
  · intro line hline
    obtain ⟨before, after, hacts⟩ := List.append_of_mem hline
    have htold := (keeps_reachable (CommandOptions.truthful_doCommand o [] .nil) h).now
    exact wasSo_of_told h hacts (htold before line after hacts)

def justQuery : CommandOptions := { query := true }

/- A question about a screensaver that has just started. -/
def queryStart : CommandLink := .start (Screensaver.desk.start Screensaver.granted) justQuery.doCommand

theorem command_lines_were_so_query : ∃ x,
    (commandSystem ":1.7" justQuery).run queryStart [.client, .answer Screensaver.granted, .receive, .client] = some x ∧
      .said (.active false) ∈ x.acts ∧ CommandLine.WasSo x.handled (.active false) := by
  have hrun : ∃ x, (commandSystem ":1.7" justQuery).run queryStart
      [.client, .answer Screensaver.granted, .receive, .client] = some x ∧ .said (.active false) ∈ x.acts :=
    ⟨_, rfl, List.mem_cons_of_mem _ List.mem_cons_self⟩
  obtain ⟨x, hx, hsaid⟩ := hrun
  have hstart : (commandSystem ":1.7" justQuery).Reachable queryStart :=
    .start ⟨_, .start ⟨Screensaver.desk, Screensaver.granted, rfl⟩, rfl⟩
  exact ⟨x, hx, hsaid, (command_lines_were_so (System.reachable_run hstart hx)).2 _ hsaid⟩

/-! ### What it asks for -/

def flagged (flag : Bool) (call : SessionCall) : List SessionCall := if flag then [call] else []

namespace CommandOptions

/- The calls of --query and --time; the time is asked for if the screensaver is active. -/
def queryCalls (o : CommandOptions) : List SessionCall := if o.query then [.getActive, .getInhibitors] else []

def timeCalls (o : CommandOptions) (active : Bool) : List SessionCall :=
  if o.time then .getActive :: flagged active .getActiveTime else []

def restCalls (o : CommandOptions) : List SessionCall :=
  flagged o.lock .lock ++ (flagged o.unlock .unlock ++ (flagged o.cycle .cycle ++
    (flagged o.poke .simulateUserActivity ++ (flagged o.activate (setActive true) ++
    (flagged o.deactivate (setActive false) ++ flagged o.inhibit o.inhibitCall)))))

/-- What the command is to ask for, in this order whatever that of the options on its line. -/
def plan (o : CommandOptions) (active : Bool) : List SessionCall :=
  if o.quit then [.quit] else o.queryCalls ++ (o.timeCalls active ++ o.restCalls)

/- The question of --time, which comes after those of --query, has not been answered otherwise. -/
def Agrees (o : CommandOptions) (active : Bool) (acts : List CommandAct) : Prop :=
  ∀ before b after, acts = before ++ .asked .getActive (some (.active b)) :: after →
    (calls before).length = o.queryCalls.length → b = active

/- The calls so far are the first ones of the plan for what the question of --time was answered
with, and for either answer before it is. -/
def OnPlan (o : CommandOptions) (acts : List CommandAct) : Prop :=
  ∀ active, o.Agrees active acts → calls acts <+: o.plan active

/- All calls of the plan were made. -/
def Done (o : CommandOptions) (acts : List CommandAct) : Prop :=
  ∀ active, o.Agrees active acts → calls acts = o.plan active

/- A reply of the type that is read. -/
def Fits : SessionCall → Reply → Prop
  | .getActive, r => ∃ b, r = .active b
  | .getInhibitors, r => ∃ l, r = .inhibitors l
  | .getActiveTime, r => ∃ secs, r = .activeTime secs
  | _, _ => True

/- How the program ends: with all calls made, unless a reply has not come. -/
def Ends (o : CommandOptions) : CommandEnd → List CommandAct → Prop
  | .quit, acts => o.Done acts ∨ .said .noReply ∈ acts
  | .blocked, acts => o.Done acts ∧ ∃ before r, acts = before ++ [.asked o.inhibitCall (some r)]
  | .undefined, acts => .asked .getActiveTime none ∈ acts ∨ ∃ call r, .asked call (some r) ∈ acts ∧ ¬ Fits call r

/- These calls are what is left of the plan. -/
def Left (o : CommandOptions) (rest : Bool → List SessionCall) (past : List CommandAct) : Prop :=
  ∀ active, o.Agrees active past → calls past ++ rest active = o.plan active

/- The program makes the rest of the calls, which may depend on what it is told. -/
def Follows (o : CommandOptions) (rest : Bool → List SessionCall) (p : CommandProgram) : Prop :=
  ∀ past, o.Left rest past → p.Keeps o.OnPlan o.Ends past

variable {rest : Bool → List SessionCall}

theorem Agrees.before {active : Bool} {more : List CommandAct} (h : o.Agrees active (past ++ more)) :
    o.Agrees active past := by
  intro before b after heq hindex
  refine h before b (after ++ more) ?_ hindex
  rw [heq, List.append_assoc, List.cons_append]

theorem Left.onPlan (h : o.Left rest past) : o.OnPlan past := fun active hactive => ⟨rest active, h active hactive⟩

theorem Left.done (h : o.Left (fun _ => []) past) : o.Done past := fun active hactive => by
  have hall := h active hactive
  rwa [List.append_nil] at hall

/- One more call was made. -/
theorem Left.snoc {call : SessionCall} (h : o.Left (fun active => call :: rest active) past) (act : CommandAct)
    (hact : act.call = some call) : o.Left rest (past ++ [act]) := by
  intro active hactive
  have hone : calls [act] = [call] := by rw [calls, List.filterMap_cons_some hact, List.filterMap_nil]
  rw [calls_append, hone, List.append_assoc, List.singleton_append]
  exact h active hactive.before

/- A line is no call. -/
theorem Left.said (h : o.Left rest past) (line : CommandLine) : o.Left rest (past ++ [.said line]) := by
  intro active hactive
  have hsame : calls (past ++ [.said line]) = calls past := (calls_append ..).trans (List.append_nil _)
  rw [hsame]
  exact h active hactive.before

theorem follows_unanswered (h : o.Left rest past) : unanswered.Keeps o.OnPlan o.Ends past :=
  ⟨h.onPlan, (h.said _).onPlan, .inr (List.mem_append_right _ (List.mem_singleton_self _))⟩

theorem follows_proceed {answer : Option Reply} (hnext : o.Follows rest next) (h : o.Left rest past) :
    (proceed next answer).Keeps o.OnPlan o.Ends past := by
  cases answer with
  | none => exact follows_unanswered h
  | some reply => exact hnext past h

theorem follows_oneWay (hnext : o.Follows rest next) :
    o.Follows (fun active => flagged flag call ++ rest active) (oneWay flag call next) := by
  rw [oneWay]
  cases flag with
  | false => exact hnext
  | true => exact fun past h => ⟨h.onPlan, hnext _ (h.snoc _ rfl)⟩

theorem follows_twoWay (hnext : o.Follows rest next) :
    o.Follows (fun active => flagged flag call ++ rest active) (twoWay flag call next) := by
  rw [twoWay]
  cases flag with
  | false => exact hnext
  | true => exact fun past h => ⟨h.onPlan, fun answer => follows_proceed hnext (h.snoc _ rfl)⟩

theorem follows_doInhibit (o : CommandOptions) : o.Follows (fun _ => flagged o.inhibit o.inhibitCall) o.doInhibit := by
  intro past h
  rw [doInhibit]
  cases hflag : o.inhibit with
  | false =>
    rw [hflag] at h
    exact ⟨h.onPlan, .inl h.done⟩
  | true =>
    rw [hflag] at h
    refine ⟨h.onPlan, fun answer => ?_⟩
    have hdone : o.Left (fun _ => []) (past ++ [.asked o.inhibitCall answer]) := Left.snoc h _ rfl
    cases answer with
    | none => exact follows_unanswered hdone
    | some r => exact ⟨hdone.onPlan, hdone.done, past, r, rfl⟩

theorem follows_doRest (o : CommandOptions) : o.Follows (fun _ => o.restCalls) o.doRest :=
  follows_oneWay <| follows_oneWay <| follows_oneWay <| follows_oneWay <| follows_twoWay <| follows_twoWay <|
    follows_doInhibit o

theorem follows_printInhibitors (hnext : o.Follows rest next) (l : List RefEntry) : o.Follows rest (printInhibitors next l) := by
  induction l with
  | nil => exact hnext
  | cons entry l ih => exact fun past h => ⟨h.onPlan, ih _ (h.said _)⟩

/- A reply that is not of its type is not read. -/
theorem ends_undefined {r : Reply} (h : o.OnPlan past) (hr : .asked call (some r) ∈ past) (hfits : ¬ Fits call r) :
    Program.Keeps o.OnPlan o.Ends past (.stop .undefined) :=
  ⟨h, .inr ⟨call, r, hr, hfits⟩⟩

theorem follows_doQuery (hnext : o.Follows rest next) :
    o.Follows (fun active => [.getActive, .getInhibitors] ++ rest active) (doQuery next) := by
  intro past h
  refine ⟨h.onPlan, fun answer => ?_⟩
  have hactive : o.Left (fun active => .getInhibitors :: rest active) (past ++ [.asked .getActive answer]) :=
    h.snoc _ rfl
  have hmem : .asked .getActive answer ∈ past ++ [.asked .getActive answer] :=
    List.mem_append_right _ (List.mem_singleton_self _)
  unfold queryActive
  split
  · exact follows_unanswered hactive
  · next v =>
    refine ⟨hactive.onPlan, (hactive.said _).onPlan, fun answer => ?_⟩
    have hasked := (hactive.said (.active v)).snoc (.asked .getInhibitors answer) rfl
    have hmem' := List.mem_append_right (past ++ [.asked .getActive (some (.active v))] ++ [.said (.active v)])
      (List.mem_singleton_self (Act.asked SessionCall.getInhibitors answer))
    unfold queryInhibitors
    split
    · exact follows_unanswered hasked
    · exact ⟨hasked.onPlan, hnext _ (hasked.said _)⟩
    · exact ⟨hasked.onPlan, follows_printInhibitors hnext _ _ (hasked.said _)⟩
    · next r hnil hcons =>
      refine ends_undefined hasked.onPlan hmem' ?_
      intro hfits
      obtain ⟨l, rfl⟩ := hfits
      cases l with
      | nil => exact hnil rfl
      | cons entry l => exact hcons entry l rfl
  · next r hne =>
    refine ends_undefined hactive.onPlan hmem ?_
    intro hfits
    obtain ⟨b, rfl⟩ := hfits
    exact hne b rfl

/- With its question answered, the plan of --time is that for the answer. -/
theorem Left.answered (htime : o.quit = false ∧ o.time = true)
    (h : o.Left (fun active => .getActive :: flagged active .getActiveTime ++ o.restCalls) past) (b : Bool) :
    o.Left (fun _ => flagged b .getActiveTime ++ o.restCalls) (past ++ [.asked .getActive (some (.active b))]) := by
  intro active hactive
  have hplan := h active hactive.before
  have hsame : b = active := by
    apply hactive past b [] rfl
    have hlengths := congrArg List.length hplan
    simp only [plan, htime.1, timeCalls, htime.2, if_true, Bool.false_eq_true, if_false, List.length_append] at hlengths
    omega
  subst hsame
  exact h.snoc (.asked .getActive (some (.active b))) rfl b hactive

theorem follows_doTime (htime : o.quit = false ∧ o.time = true) (hnext : o.Follows (fun _ => o.restCalls) next) :
    o.Follows (fun active => .getActive :: flagged active .getActiveTime ++ o.restCalls) (doTime next) := by
  intro past h
  refine ⟨h.onPlan, fun answer => ?_⟩
  have hactive : o.Left (fun active => flagged active .getActiveTime ++ o.restCalls)
      (past ++ [.asked .getActive answer]) :=
    h.snoc _ rfl
  have hmem : .asked .getActive answer ∈ past ++ [.asked .getActive answer] :=
    List.mem_append_right _ (List.mem_singleton_self _)
  unfold timeActive
  split
  · exact follows_unanswered hactive
  · refine ⟨hactive.onPlan, fun answer => ?_⟩
    have htold := Left.answered htime h true
    have hasked : o.Left (fun _ => o.restCalls)
        (past ++ [.asked .getActive (some (.active true))] ++ [.asked .getActiveTime answer]) := Left.snoc htold _ rfl
    have hmem' := List.mem_append_right (past ++ [.asked .getActive (some (.active true))])
      (List.mem_singleton_self (Act.asked SessionCall.getActiveTime answer))
    unfold timeSecs
    split
    · exact ⟨hasked.onPlan, hnext _ (hasked.said _)⟩
    · next hne =>
      cases answer with
      | none => exact ⟨hasked.onPlan, .inl hmem'⟩
      | some r =>
        refine ends_undefined hasked.onPlan hmem' ?_
        intro hfits
        obtain ⟨secs, rfl⟩ := hfits
        exact hne secs rfl
  · have htold := Left.answered htime h false
    exact ⟨htold.onPlan, hnext _ (htold.said _)⟩
  · next r htrue hfalse =>
    refine ends_undefined hactive.onPlan hmem ?_
    intro hfits
    obtain ⟨b, rfl⟩ := hfits
    cases b with
    | true => exact htrue rfl
    | false => exact hfalse rfl

theorem follows_doCommand (o : CommandOptions) : o.Follows o.plan o.doCommand := by
  cases hquit : o.quit with
  | true =>
    intro past h
    rw [doCommand, if_pos hquit]
    refine ⟨h.onPlan, ?_⟩
    have hplan : o.plan = fun _ => [SessionCall.quit] := by
      funext active
      rw [plan, if_pos hquit]
    rw [hplan] at h
    have hdone : o.Left (fun _ => []) (past ++ [.sent .quit]) := Left.snoc h _ rfl
    exact ⟨hdone.onPlan, .inl hdone.done⟩
  | false =>
    have htimed : o.Follows (fun active => o.timeCalls active ++ o.restCalls)
        (if o.time then doTime o.doRest else o.doRest) := by
      unfold timeCalls
      cases htime : o.time with
      | true => exact follows_doTime ⟨hquit, htime⟩ (follows_doRest o)
      | false => exact follows_doRest o
    unfold doCommand plan queryCalls
    rw [hquit]
    simp only [Bool.false_eq_true, if_false]
    split
    · exact follows_doQuery htimed
    · exact htimed

/- Whether the screensaver was active when the daemon handled the question of --time. -/
def wasActive (o : CommandOptions) (handled : List (Handled Screensaver SessionCall Reply)) : Bool :=
  handled[o.queryCalls.length]?.any fun c => c.before.listener.active

end CommandOptions

theorem fits_of_answer {s : Screensaver} (h : AnswerOf s call r) : CommandOptions.Fits call r := by
  cases call with
  | getActive => exact ⟨_, h⟩
  | getInhibitors => exact ⟨_, h⟩
  | getActiveTime =>
    obtain ⟨env, hr⟩ := h
    exact ⟨_, hr⟩
  | _ => trivial

theorem agrees_wasActive (h : (commandSystem sender o).Reachable x) : o.Agrees (o.wasActive x.handled) x.acts := by
  intro before b after hacts hindex
  obtain ⟨c, hc, -, hanswer⟩ := answered_of_mem h hacts
  rw [hindex] at hc
  rw [CommandOptions.wasActive, hc]
  exact Reply.active.inj hanswer

/- A question without a reply says nothing. -/
theorem agrees_unanswered {active : Bool} (h : o.Agrees active acts) (call : SessionCall) :
    o.Agrees active (acts ++ [.asked call none]) := by
  intro before b after heq hindex
  rcases split_snoc heq with ⟨-, hlast⟩ | ⟨after', hbefore⟩
  · cases hlast
  · exact h before b after' hbefore hindex

/-- The calls that the daemon has handled are the first ones of the plan, in its order, each once; the
plan is that for what the screensaver was when the question of --time was handled. A command that has
ended without a complaint has made all of them, and one that stays has had all of them handled, the
last being that of its inhibition, which was granted. Nothing else can happen but that the question for
the time, which is put only to an active screensaver, is left without a reply: the one that is missing
is read all the same. -/
theorem command_calls (h : (commandSystem sender o).Reachable x) :
    x.handled.map (·.call) <+: o.plan (o.wasActive x.handled) ∧
      (x.client = .stop .quit → .said .noReply ∈ x.acts ∨
        x.handled.map (·.call) ++ x.calls.map (·.2) = o.plan (o.wasActive x.handled)) ∧
      (x.client = .stop .blocked → x.handled.map (·.call) = o.plan (o.wasActive x.handled) ∧
        ∃ c ∈ x.handled.getLast?, c.call = o.inhibitCall ∧ c.answer.isSome) ∧
      (x.client = .stop .undefined → .asked .getActiveTime none ∈ x.acts) := by
  have haccount := accounts_reachable h
  have hagrees := agrees_wasActive h
  have hstart : o.Left o.plan [] := fun _ _ => rfl
  have hkeeps := keeps_reachable (o.follows_doCommand [] hstart) h
  have horder : ∀ e, x.client = .stop e → calls x.acts = x.handled.map (·.call) ++ x.calls.map (·.2) := by
    intro e he
    exact (Accounts.order_iff (haccount.not_waiting (by rw [he]; rfl))).1 haccount.order
  refine ⟨?_, ?_, ?_, ?_⟩
  · have hposted : calls x.acts ++ x.asking.toList <+: o.plan (o.wasActive x.handled) := by
      cases hasking : x.asking with
      | none =>
        rw [Option.toList_none, List.append_nil]
        exact hkeeps.now _ hagrees
      | some call =>
        obtain ⟨n, -, hclient⟩ := Option.bind_eq_some_iff.1 hasking
        have hnext := hkeeps.asking hclient _ (agrees_unanswered hagrees call)
        rw [calls_append] at hnext
        exact hnext
    rw [haccount.order] at hposted
    exact (List.prefix_append _ _).trans hposted
  · intro hquit
    rcases hkeeps.ended hquit with hall | hnone
    · exact .inr ((horder .quit hquit).symm.trans (hall _ hagrees))
    · exact .inl hnone
  · intro hblocked
    obtain ⟨hall, before, r, hacts⟩ := hkeeps.ended hblocked
    obtain ⟨c, hc, hcall, hr⟩ := haccount.handled_of_asked hacts
    have hcalls : calls x.acts = calls before ++ [o.inhibitCall] := by
      rw [hacts, calls_append]
      rfl
    have hlengths := congrArg List.length (horder .blocked hblocked)
    rw [hcalls, List.length_append, List.length_append, List.length_map, List.length_map, List.length_singleton] at hlengths
    have hlast : (calls before).length < x.handled.length := (List.getElem?_eq_some_iff.1 hc).1
    have hnone : x.calls = [] := List.length_eq_zero_iff.1 (by omega)
    have hplan := (horder .blocked hblocked).symm.trans (hall _ hagrees)
    rw [hnone, List.map_nil, List.append_nil] at hplan
    refine ⟨hplan, c, ?_, hcall, by rw [hr]; rfl⟩
    rw [Option.mem_def, List.getLast?_eq_getElem?, ← hc]
    congr 1
    omega
  · intro hundefined
    rcases hkeeps.ended hundefined with hnone | ⟨call, r, hmem, hfits⟩
    · exact hnone
    · obtain ⟨before, after, hacts⟩ := List.append_of_mem hmem
      obtain ⟨c, -, -, hanswer⟩ := answered_of_mem h hacts
      exact absurd (fits_of_answer hanswer) hfits

def timeUnlock : CommandOptions := { unlock := true, time := true }

def timeStart : CommandLink := .start (Screensaver.desk.start Screensaver.granted) timeUnlock.doCommand

/- The screensaver comes up before the question, and the command has ended before its last call is
handled. -/
def timeRun : List (Client.Event Env (Env × Event)) :=
  [.move Screensaver.turnOn, .client, .answer Screensaver.granted, .receive, .client, .answer Screensaver.granted,
    .receive, .client, .client]

theorem command_calls_time : ∃ x, (commandSystem ":1.7" timeUnlock).run timeStart timeRun = some x ∧
    x.client = .stop .quit ∧ x.handled.map (·.call) = [.getActive, .getActiveTime] ∧
      timeUnlock.wasActive x.handled = true ∧
      (.said .noReply ∈ x.acts ∨
        x.handled.map (·.call) ++ x.calls.map (·.2) = timeUnlock.plan (timeUnlock.wasActive x.handled)) := by
  have hrun : ∃ x, (commandSystem ":1.7" timeUnlock).run timeStart timeRun = some x ∧
      x.client = .stop .quit ∧ x.handled.map (·.call) = [.getActive, .getActiveTime] ∧
        timeUnlock.wasActive x.handled = true := ⟨_, rfl, rfl, rfl, rfl⟩
  obtain ⟨x, hx, hquit, hhandled, hactive⟩ := hrun
  have hstart : (commandSystem ":1.7" timeUnlock).Reachable timeStart :=
    .start ⟨_, .start ⟨Screensaver.desk, Screensaver.granted, rfl⟩, rfl⟩
  exact ⟨x, hx, hquit, hhandled, hactive, (command_calls (System.reachable_run hstart hx)).2.1 hquit⟩

end MateScreensaver
