import MateScreensaver.AuthMessage
import MateScreensaver.Lib.Process

/-!
The in-process back end of gs_auth_verify_user (gs-auth-pam.c): which answers of
PAM add up to TRUE, and what becomes of the handle.
-/

namespace MateScreensaver
open Process Prog

/- PAM_SERVICE_NAME -/
def pamServiceName : String := "mate-screensaver"

abbrev PamHandle := Nat

inductive PamItem
  | tty
  | userPrompt
deriving DecidableEq, Repr

/-- What a call of gs_auth_verify_user asks of the system. -/
inductive PamCall
  | getpwnam (username : String)
  | pamStart (service username : String)
  | pamSetItem (handle : PamHandle) (item : PamItem) (value : String)
  | pamFailDelay (handle : PamHandle)
  | pipe
  | fcntl (index : Fin 2)
  | threadNew
  | gtkMain
  | raiseSigterm
  | pamAuthenticate (handle : PamHandle)
  | pamGetItem (handle : PamHandle)
  | pamAcctMgmt (handle : PamHandle)
  | pamSetcred (handle : PamHandle)
  | pamEnd (handle : PamHandle) (status : Int)

/- pam_start answers with a status and what it stored; gtk_main leaves thread_done
behind; pam_authenticate tells whether its conversation saw a password prompt. No
answer comes back from raise. -/
@[reducible] def PamCall.Answer : PamCall → Type
  | .getpwnam _ => Bool
  | .pamStart _ _ => Int × PamHandle
  | .pipe => Bool
  | .fcntl _ => Bool
  | .threadNew => Bool
  | .gtkMain => Bool
  | .raiseSigterm => Empty
  | .pamAuthenticate _ => Int × Bool
  | _ => Int

abbrev PamProg := Prog PamCall PamCall.Answer
abbrev PamTrace := List (Act PamCall PamCall.Answer)

inductive GSAuthError
  | general
  | authError
  | userUnknown
  | authDenied
deriving DecidableEq, Repr

/- pam_handle and did_we_ask_for_password -/
structure PamGlobals where
  handle : Option PamHandle := none
  askedForPassword : Bool := false

structure Verdict where
  result : Bool
  error : Option (GSAuthError × String)

/- gs-auth-pam.c:339 -/
def closePamHandle (status : Int) : Option PamHandle → PamProg (Option PamHandle)
  | none => .done none
  | some h => .ask (.pamEnd h status) fun _ => .done none

/- gs-auth-pam.c:361: the status, and what pam_handle is afterwards. A stale handle
is cleaned up first. -/
def createPamHandle (username : String) (display : Option String) (handle : Option PamHandle) :
    PamProg (Int × Option PamHandle) :=
  (closePamHandle Pam.success handle).bind fun _ =>
    .ask (.pamStart pamServiceName username) fun (status, h) =>
      if status ≠ Pam.success then .done (status, none)
      else .ask (.pamSetItem h .tty (display.getD ":0.0")) fun status => .done (status, some h)

/- gs-auth-pam.c:432 -/
def setPamError (asked : Bool) (status : Int) : Option (GSAuthError × String) :=
  if status = Pam.authErr ∨ status = Pam.userUnknown then
    some (.authError, if asked then "Incorrect password." else "Authentication failed.")
  else if status = Pam.permDenied then
    some (.authDenied, "Not permitted to gain access at this time.")
  else if status = Pam.acctExpired then
    some (.authDenied, "No longer permitted to access the system.")
  else none

/- gs-auth-pam.c:486. The account modules and the credentials may fail. -/
def gsAuthThreadFunc (h : PamHandle) : PamProg (Int × Bool) :=
  .ask (.pamAuthenticate h) fun (status, asked) =>
    if status ≠ Pam.success then .done (status, asked)
    else .ask (.pamGetItem h) fun status =>
      if status ≠ Pam.success then .done (status, asked)
      else .ask (.pamAcctMgmt h) fun _ => .ask (.pamSetcred h) fun _ => .done (status, asked)

/- gs-auth-pam.c:595. thread_done is set once the thread has closed its end of the
pipe, so its calls come before gtk_main returns with it; here they stand at the join. -/
def gsAuthPamVerifyUser (h : PamHandle) : PamProg (Int × Bool) :=
  .ask .pipe fun ok => if !ok then .done (Pam.authErr, false)
  else .ask (.fcntl 0) fun ok => if !ok then .done (Pam.authErr, false)
  else .ask (.fcntl 1) fun ok => if !ok then .done (Pam.authErr, false)
  else .ask .threadNew fun ok => if !ok then .done (Pam.authErr, false)
  else .ask .gtkMain fun threadDone =>
    if threadDone then gsAuthThreadFunc h else .ask .raiseSigterm Empty.elim

/- The end of gs_auth_verify_user, from its label done on. -/
def finishVerifyUser (status : Int) (g : PamGlobals) : PamProg (Verdict × PamGlobals) :=
  let error := if status ≠ Pam.success then setPamError g.askedForPassword status else none
  (closePamHandle status g.handle).bind fun handle =>
    .done (⟨status = Pam.success, error⟩, { g with handle := handle })

/-- gs-auth-pam.c:678 -/
def gsAuthVerifyUser (username : String) (display : Option String) (g : PamGlobals) :
    PamProg (Verdict × PamGlobals) :=
  .ask (.getpwnam username) fun found =>
    if !found then .done (⟨false, none⟩, g)
    else (createPamHandle username display g.handle).bind fun (status, handle) =>
      let g := { g with handle := handle }
      match handle with
      | none => finishVerifyUser status g
      | some h =>
        if status ≠ Pam.success then finishVerifyUser status g
        else .ask (.pamSetItem h .userPrompt "Username:") fun _ => .ask (.pamFailDelay h) fun _ =>
          (gsAuthPamVerifyUser h).bind fun (status, asked) =>
            finishVerifyUser status { g with askedForPassword := asked }

/-! ### One call -/

inductive HandleEvent
  | started (handle : PamHandle)
  | ended (handle : PamHandle)
deriving DecidableEq, Repr

/- What an answer means for the handles: a start that failed gives none. -/
def handleEvent : Act PamCall PamCall.Answer → Option HandleEvent
  | .ask (.pamStart _ _) (status, h) => if status = Pam.success then some (.started h) else none
  | .ask (.pamEnd h _) _ => some (.ended h)
  | _ => none

def handleEvents (w : PamTrace) : List HandleEvent := w.filterMap handleEvent

theorem handleEvents_append (u v : PamTrace) : handleEvents (u ++ v) = handleEvents u ++ handleEvents v :=
  List.filterMap_append

/- The start of the session and PAM_TTY. -/
def Opened (w : PamTrace) (h : PamHandle) : Prop :=
  (∃ username, .ask (.pamStart pamServiceName username) (Pam.success, h) ∈ w) ∧
    ∃ tty, .ask (.pamSetItem h .tty tty) Pam.success ∈ w

/- What the thread asks for. -/
def Authenticated (w : PamTrace) (h : PamHandle) : Prop :=
  (∃ asked, .ask (.pamAuthenticate h) (Pam.success, asked) ∈ w) ∧ .ask (.pamGetItem h) Pam.success ∈ w

theorem Opened.mono {u w : PamTrace} {h : PamHandle} (ho : Opened u h) (hs : u ⊆ w) : Opened w h :=
  ⟨ho.1.imp fun _ hm => hs hm, ho.2.imp fun _ hm => hs hm⟩

theorem Authenticated.mono {u w : PamTrace} {h : PamHandle} (ha : Authenticated u h) (hs : u ⊆ w) :
    Authenticated w h := ⟨ha.1.imp fun _ hm => hs hm, hs ha.2⟩

theorem close_ensures (status : Int) (handle : Option PamHandle) :
    Ensures (closePamHandle status handle) fun w h =>
      h = none ∧ handleEvents w = (handle.map HandleEvent.ended).toList := by
  cases handle with
  | none => exact ensures_done ⟨rfl, rfl⟩
  | some h => exact ensures_ask fun _ => ensures_done ⟨rfl, rfl⟩

theorem create_ensures (username : String) (display : Option String) :
    Ensures (createPamHandle username display none) fun w r =>
      handleEvents w = (r.2.map HandleEvent.started).toList ∧
        (r.1 = Pam.success → ∃ h, r.2 = some h ∧ Opened w h) := by
  refine (close_ensures _ none).bind fun u _ hu => ensures_ask fun (status, h) => ?_
  have hevents : handleEvents u = [] := hu.2
  dsimp only
  split
  · next hstatus =>
    refine ensures_done ⟨?_, fun h0 => absurd h0 hstatus⟩
    rw [handleEvents_append, hevents]
    simp [handleEvents, handleEvent, hstatus]
  · next hstatus =>
    have hstatus : status = Pam.success := not_not.1 hstatus
    refine ensures_ask fun set => ensures_done ⟨?_, fun h0 => ⟨h, rfl, ⟨username, ?_⟩, display.getD ":0.0", ?_⟩⟩
    · rw [handleEvents_append, hevents]
      simp [handleEvents, handleEvent, hstatus]
    · simp [hstatus]
    · have hset : set = Pam.success := h0
      simp [hset]

theorem thread_ensures (h : PamHandle) : Ensures (gsAuthThreadFunc h) fun w r =>
    handleEvents w = [] ∧ (r.1 = Pam.success → Authenticated w h) := by
  refine ensures_ask fun (status, asked) => ?_
  dsimp only
  split
  · next hstatus => exact ensures_done ⟨rfl, fun h0 => absurd h0 hstatus⟩
  · next hstatus =>
    have hstatus : status = Pam.success := not_not.1 hstatus
    refine ensures_ask fun item => ?_
    split
    · next hitem => exact ensures_done ⟨rfl, fun h0 => absurd h0 hitem⟩
    · next hitem =>
      refine ensures_ask fun _ => ensures_ask fun _ => ensures_done ⟨rfl, fun h0 => ⟨⟨asked, ?_⟩, ?_⟩⟩
      · simp [hstatus]
      · have hitem : item = Pam.success := h0
        simp [hitem]

theorem refused_ensures (h : PamHandle) : Ensures (.done (Pam.authErr, false) : PamProg (Int × Bool)) fun w r =>
    handleEvents w = [] ∧ (r.1 = Pam.success → Authenticated w h) :=
  ensures_done ⟨rfl, fun h0 => absurd h0 (by decide)⟩

theorem verify_ensures (h : PamHandle) : Ensures (gsAuthPamVerifyUser h) fun w r =>
    handleEvents w = [] ∧ (r.1 = Pam.success → Authenticated w h) := by
  -- the calls before the thread concern no handle
  have hask : ∀ {q : PamCall} {k : q.Answer → PamProg (Int × Bool)}, (∀ r, handleEvent (.ask q r) = none) →
      (∀ r, Ensures (k r) fun w r => handleEvents w = [] ∧ (r.1 = Pam.success → Authenticated w h)) →
      Ensures (.ask q k) fun w r => handleEvents w = [] ∧ (r.1 = Pam.success → Authenticated w h) := by
    intro q k hq hk
    refine ensures_ask fun r => (hk r).mono fun w a hw => ⟨?_, fun h0 => (hw.2 h0).mono (List.subset_cons_self _ _)⟩
    rw [← hw.1]
    simp [handleEvents, hq]
  refine hask (fun _ => rfl) fun ok => ?_
  split
  · exact refused_ensures h
  refine hask (fun _ => rfl) fun ok => ?_
  split
  · exact refused_ensures h
  refine hask (fun _ => rfl) fun ok => ?_
  split
  · exact refused_ensures h
  refine hask (fun _ => rfl) fun ok => ?_
  split
  · exact refused_ensures h
  refine hask (fun _ => rfl) fun threadDone => ?_
  split
  · exact thread_ensures h
  · exact hask (fun _ => rfl) fun r => r.elim

theorem finish_ensures (status : Int) (g : PamGlobals) : Ensures (finishVerifyUser status g) fun w r =>
    handleEvents w = (g.handle.map HandleEvent.ended).toList ∧ r.2.handle = none ∧
      (r.1.result = true ↔ status = Pam.success) :=
  (close_ensures status g.handle).bind fun u handle hu =>
    ensures_done ⟨by rw [List.append_nil]; exact hu.2, hu.1, decide_eq_true_iff⟩

/- What one call gives, when no handle was left from before. -/
structure CallRight (w : PamTrace) (r : Verdict × PamGlobals) : Prop where
  handle : r.2.handle = none
  events : handleEvents w = [] ∨ ∃ h, handleEvents w = [.started h, .ended h]
  verdict : r.1.result = true → ∃ h, Opened w h ∧ Authenticated w h

theorem call_right (username : String) (display : Option String) (asked : Bool) :
    Ensures (gsAuthVerifyUser username display ⟨none, asked⟩) CallRight := by
  refine ensures_ask fun found => ?_
  split
  · refine ensures_done ⟨rfl, .inl rfl, fun h => ?_⟩
    cases h
  · refine (create_ensures username display).bind fun u (status, handle) ⟨hevents, hopened⟩ => ?_
    have hfirst : ∀ v : PamTrace, handleEvents (.ask (.getpwnam username) found :: (u ++ v)) =
        (handle.map HandleEvent.started).toList ++ handleEvents v := by
      intro v
      rw [← hevents, ← handleEvents_append]
      rfl
    cases handle with
    | none =>
      refine (finish_ensures status _).mono fun v r hv => ⟨hv.2.1, .inl ?_, fun hr => ?_⟩
      · rw [hfirst, hv.1]
        rfl
      · obtain ⟨h, hh, -⟩ := hopened (hv.2.2.1 hr)
        cases hh
    | some h =>
      dsimp only
      split
      · next hstatus =>
        refine (finish_ensures status _).mono fun v r hv => ⟨hv.2.1, .inr ⟨h, ?_⟩, fun hr => ?_⟩
        · rw [hfirst, hv.1]
          rfl
        · exact absurd (hv.2.2.1 hr) hstatus
      · next hstatus =>
        obtain ⟨h', hh, hopen⟩ := hopened (not_not.1 hstatus)
        obtain rfl : h = h' := Option.some.inj hh
        refine ensures_ask fun _ => ensures_ask fun _ => (verify_ensures h).bind fun x (status, asked) hx => ?_
        refine (finish_ensures status _).mono fun v r hv => ⟨hv.2.1, .inr ⟨h, ?_⟩, fun hr => ⟨h, hopen.mono ?_, ?_⟩⟩
        · have hmiddle : handleEvents (x ++ v) = [.ended h] := by rw [handleEvents_append, hx.1, hv.1]; rfl
          rw [hfirst]
          show [HandleEvent.started h] ++ handleEvents (x ++ v) = _
          rw [hmiddle]
          rfl
        · intro a ha
          simp [ha]
        · refine (hx.2 (hv.2.2.1 hr)).mono fun a ha => ?_
          simp [ha]

/-! ### Sequences of calls -/

structure VerifyCall where
  username : String
  display : Option String
  trace : PamTrace
  verdict : Verdict

/-- The calls of a process one after another, from the globals of its start. -/
inductive PamSession : List VerifyCall → PamGlobals → Prop
  | start : PamSession [] {}
  | call {calls g g'} (c : VerifyCall) : PamSession calls g →
      Runs (gsAuthVerifyUser c.username c.display g) c.trace (c.verdict, g') → PamSession (calls ++ [c]) g'

/- Every handle that is started is ended once, and before the next one is started. -/
def Balanced (events : List HandleEvent) : Prop :=
  ∃ handles : List PamHandle, events = handles.flatMap fun h => [.started h, .ended h]

theorem PamSession.handle {calls : List VerifyCall} {g : PamGlobals} (h : PamSession calls g) : g.handle = none := by
  induction h with
  | start => rfl
  | @call calls g g' c _ hr ih =>
    obtain ⟨handle, asked⟩ := g
    cases ih
    exact (call_right _ _ _ _ _ hr).handle

/-- A verdict of TRUE has had all four of its successes in the same call; every
handle is given back once; and between calls there is none. -/
theorem pam_verdict {calls : List VerifyCall} {g : PamGlobals} (hs : PamSession calls g) :
    g.handle = none ∧ Balanced (handleEvents (calls.flatMap VerifyCall.trace)) ∧
      ∀ c ∈ calls, c.verdict.result = true → ∃ h, Opened c.trace h ∧ Authenticated c.trace h := by
  refine ⟨hs.handle, ?_⟩
  induction hs with
  | start => exact ⟨⟨[], rfl⟩, fun c hc => absurd hc List.not_mem_nil⟩
  | @call calls g g' c hs hr ih =>
    have hright : CallRight c.trace (c.verdict, g') := by
      have hnone := hs.handle
      obtain ⟨handle, asked⟩ := g
      cases hnone
      exact call_right _ _ _ _ _ hr
    obtain ⟨⟨handles, hbalanced⟩, hverdicts⟩ := ih
    refine ⟨?_, fun c' hc' => ?_⟩
    · rw [List.flatMap_append, handleEvents_append, hbalanced, List.flatMap_singleton]
      obtain hnone | ⟨h, hone⟩ := hright.events
      · exact ⟨handles, by rw [hnone, List.append_nil]⟩
      · exact ⟨handles ++ [h], by rw [hone, List.flatMap_append, List.flatMap_singleton]⟩
    · obtain hc' | hc' := List.mem_append.1 hc'
      · exact hverdicts c' hc'
      · obtain rfl := List.mem_singleton.1 hc'
        exact hright.verdict

/- A password that PAM accepts, with the account expired. -/
def accepted : VerifyCall where
  username := "user"
  display := none
  trace :=
    [.ask (.getpwnam "user") true, .ask (.pamStart pamServiceName "user") (Pam.success, 3),
     .ask (.pamSetItem 3 .tty ":0.0") Pam.success, .ask (.pamSetItem 3 .userPrompt "Username:") Pam.success,
     .ask (.pamFailDelay 3) Pam.success, .ask .pipe true, .ask (.fcntl 0) true, .ask (.fcntl 1) true,
     .ask .threadNew true, .ask .gtkMain true, .ask (.pamAuthenticate 3) (Pam.success, true),
     .ask (.pamGetItem 3) Pam.success, .ask (.pamAcctMgmt 3) Pam.acctExpired,
     .ask (.pamSetcred 3) Pam.success, .ask (.pamEnd 3 Pam.success) Pam.success]
  verdict := ⟨true, none⟩

theorem accepted_session : PamSession [accepted] ⟨none, true⟩ := by
  refine PamSession.start.call accepted (.ask _ (.ask _ (.ask _ (.ask _ (.ask _ ?_)))))
  refine .ask _ (.ask _ (.ask _ (.ask _ (.ask _ (.ask _ (.ask _ (.ask _ (.ask _ ?_))))))))
  exact .ask _ (.done _)

theorem pam_verdict_accepted : ∃ h, Opened accepted.trace h ∧ Authenticated accepted.trace h :=
  (pam_verdict accepted_session).2.2 accepted (List.mem_singleton_self _) rfl

end MateScreensaver
