import MateScreensaver.Conversation

/-!
What comes of a conversation: which calls of func and which results for PAM there
must be, and the one style of message with which there are no such calls.
-/

namespace MateScreensaver
open Process Prog Conversation

abbrev Conversation.Run (answer : List Talk → Option ShortText) (status : WaitStatus) :
    Conversation → Conversation → Prop := Relation.ReflTransGen (Step answer status)

/- The replies to a list of messages, after what there was to see. -/
def repliesTo (answer : List Talk → Option ShortText) : List PamMessage → List Talk → PamReplies
  | [], _ => []
  | m :: rest, past =>
    some (replyBytes (answer (past ++ [m.call]))) :: repliesTo answer rest (past ++ [m.call])

/- A list of messages with the result for it. -/
def turn (answer : List Talk → Option ShortText) (msgs : List PamMessage) (past : List Talk) : List Talk :=
  msgs.map PamMessage.call ++ [.result Pam.success (some (repliesTo answer msgs past))]

/-- All there should be to see: every message is passed on once, in order, and every
list of them ends with the replies to it. -/
def expected (answer : List Talk → Option ShortText) : List (List PamMessage) → List Talk → List Talk
  | [], _ => []
  | msgs :: rest, past => turn answer msgs past ++ expected answer rest (past ++ turn answer msgs past)

/-- What is asked of a state of the two processes. -/
structure Faultless (answer : List Talk → Option ShortText) (batches : List (List PamMessage))
    (x : Conversation) : Prop where
  inOrder : x.seen <+: expected answer batches []
  whole : ∀ st, x.helper = .done st → x.seen = expected answer batches []
  free : ¬ x.Blocked

variable {answer : List Talk → Option ShortText} {status : WaitStatus} {x y : Conversation}
  {P : Script WaitStatus}

/-! ### What the script says -/

theorem exchanges_converse (msgs : List PamMessage) (got : PamReplies)
    (F : Int × RespArray → Script WaitStatus) (past : List Talk) :
    ((Script.converse msgs got).bind F).exchanges answer past =
      msgs.map PamMessage.call ++
        (F (Pam.success, .array (got ++ repliesTo answer msgs past))).exchanges answer
          (past ++ msgs.map PamMessage.call) := by
  induction msgs generalizing got past with
  | nil =>
    rw [repliesTo, List.append_nil, List.map_nil, List.append_nil]
    rfl
  | cons m rest ih =>
    show m.call :: ((Script.converse rest _).bind F).exchanges answer (past ++ [m.call]) = _
    rw [ih, List.map_cons, repliesTo]
    simp only [List.append_assoc, List.cons_append, List.nil_append]

theorem exchanges_helperProcess (exit : WaitStatus) (batches : List (List PamMessage)) (past : List Talk) :
    (Script.helperProcess exit batches).exchanges answer past = expected answer batches past := by
  induction batches generalizing past with
  | nil => rfl
  | cons msgs rest ih =>
    rw [Script.helperProcess, exchanges_converse]
    show _ ++ (_ :: (Script.helperProcess exit rest).exchanges answer _) = _
    rw [ih, expected, turn]
    simp only [List.nil_append, List.append_assoc, List.singleton_append, RespArray.given]

theorem withoutEchoOn_bind {α β : Type} {S : Script α} {F : α → Script β} (hS : S.WithoutEchoOn)
    (hF : ∀ a, (F a).WithoutEchoOn) : (S.bind F).WithoutEchoOn := by
  induction S with
  | done a => exact hF a
  | prompt m k ih => exact ⟨hS.1, fun a => ih a (hS.2 a)⟩
  | hand ret resp k ih => exact ih hS

theorem withoutEchoOn_converse {msgs : List PamMessage} (h : ∀ m ∈ msgs, m.style ≠ .promptEchoOn)
    (got : PamReplies) : (Script.converse msgs got).WithoutEchoOn := by
  induction msgs generalizing got with
  | nil => trivial
  | cons m rest ih =>
    obtain ⟨hm, hrest⟩ := List.forall_mem_cons.1 h
    exact ⟨hm, fun a => ih hrest _⟩

theorem withoutEchoOn_helperProcess (exit : WaitStatus) {batches : List (List PamMessage)}
    (h : ∀ msgs ∈ batches, ∀ m ∈ msgs, m.style ≠ .promptEchoOn) :
    (Script.helperProcess exit batches).WithoutEchoOn := by
  induction batches with
  | nil => trivial
  | cons msgs rest ih =>
    obtain ⟨hmsgs, hrest⟩ := List.forall_mem_cons.1 h
    exact withoutEchoOn_bind (withoutEchoOn_converse hmsgs _) fun _ => ih hrest

theorem call_mem_expected {batches : List (List PamMessage)} {msgs : List PamMessage} {m : PamMessage}
    (hb : msgs ∈ batches) (hm : m ∈ msgs) (past : List Talk) : m.call ∈ expected answer batches past := by
  induction batches generalizing past with
  | nil => cases hb
  | cons first rest ih =>
    rw [expected, List.mem_append]
    obtain rfl | hb := List.mem_cons.1 hb
    · exact .inl (List.mem_append_left _ (List.mem_map_of_mem hm))
    · exact .inr (ih hb _)

/-! ### All that can be reached -/

theorem Phase.run (hP : Phase status x P) (h : Run answer status x y) :
    ∃ P', Phase status y P' ∧ Carried answer x P y P' := by
  induction h with
  | refl => exact ⟨P, hP, .same rfl⟩
  | tail _ hstep ih =>
    obtain ⟨P', hP', hcarried⟩ := ih
    obtain ⟨P'', hP'', hcarried'⟩ := hP'.step hstep
    exact ⟨P'', hP'', hcarried.trans hcarried'⟩

theorem phase_start (status exit : WaitStatus) (batches : List (List PamMessage)) :
    Phase status (start exit batches) (Script.helperProcess exit batches) :=
  .received (.inl rfl) rfl (.nil _) (helperProcess_implements exit batches)

theorem Implements.not_read {p : HelperProg WaitStatus} (h : Implements p P) : ¬ IsRead p := by
  cases h with
  | done | mallocReplies | malloc | hand =>
    rintro ⟨n, k, hread⟩
    cases hread
  | prompt after hw =>
    rintro ⟨n, k, rfl⟩
    exact promptFrame_ne_nil _ (hw.stays nofun).1

theorem implements_done {st : WaitStatus} (h : Implements (.done st) P) : P = .done st := by
  cases h with
  | done => rfl
  | prompt after hw => exact absurd (hw.stays nofun).1 (promptFrame_ne_nil _)

/- When the helper has ended, nothing is left of the conversation. -/
theorem Phase.finished (hP : Phase status x P) {st : WaitStatus} (h : x.helper = .done st) : P = .done st := by
  cases hP with
  | received hd hp hc hi =>
    rw [h] at hc
    exact implements_done ((hc.stays nofun).2 ▸ hi)
  | sending hd hr hw ha => exact (ha.not_done (h ▸ hw)).elim
  | hearing hc hr hw ha => exact (ha.not_done (h ▸ hw)).elim
  | stuck hm hd hp hr ha => exact absurd (h ▸ ha.1) IsRead.not_done
  | answering hw hp hc hi =>
    rw [h] at hc
    exact implements_done ((hc.stays nofun).2 ▸ hi)
  | ending hh => cases h.symm.trans hh; rfl

theorem served_not_read (m : PamMessage) : ¬ IsRead (served m) := by
  rw [served]
  split
  · exact IsRead.not_done
  · exact IsRead.not_ask

/- Both read only where the dialog has missed a prompt. -/
theorem Phase.not_blocked (hP : Phase status x P) (hn : P.WithoutEchoOn) : ¬ x.Blocked := by
  rintro ⟨hh, hreplies, hd, hprompts⟩
  cases hP with
  | received _ _ hc hi =>
    rw [hreplies] at hc
    exact hi.not_read (hc.nothing ▸ hh)
  | sending hout =>
    obtain hout | hout := hout
    · exact IsRead.not_done (hout ▸ hd)
    · exact IsRead.not_ask (hout ▸ hd)
  | hearing hc _ hw =>
    obtain ⟨n, k, hread⟩ := hh
    have hu := (hw.stays (by rw [hread]; nofun)).1
    rw [hprompts, hu] at hc
    exact served_not_read _ (hc.nothing ▸ hd)
  | stuck hm => exact hn.1 hm
  | answering hw =>
    obtain ⟨n, k, hread⟩ := hd
    have hdone := (hw.stays (by rw [hread]; nofun)).2
    cases hread.symm.trans hdone
  | ending hdone => exact IsRead.not_done (hdone ▸ hh)

/-- What every state that is reached has seen. -/
theorem seen_inOrder {exit : WaitStatus} {batches : List (List PamMessage)}
    (h : Run answer status (start exit batches) x) : x.seen <+: expected answer batches [] := by
  obtain ⟨P, hP, hcarried⟩ := (phase_start status exit batches).run h
  have hseen := hcarried.seen
  rw [exchanges_helperProcess] at hseen
  exact ⟨_, hseen⟩

theorem seen_whole {exit st : WaitStatus} {batches : List (List PamMessage)}
    (h : Run answer status (start exit batches) x) (hdone : x.helper = .done st) :
    x.seen = expected answer batches [] := by
  obtain ⟨P, hP, hcarried⟩ := (phase_start status exit batches).run h
  have hseen := hcarried.seen
  rw [exchanges_helperProcess, hP.finished hdone] at hseen
  exact (List.append_nil _).symm.trans hseen

theorem seen_audible {exit : WaitStatus} {batches : List (List PamMessage)}
    (h : Run answer status (start exit batches) x) : ∀ e ∈ x.seen, e.Audible := by
  obtain ⟨P, hP, hcarried⟩ := (phase_start status exit batches).run h
  exact hcarried.audible fun e he => absurd he List.not_mem_nil

/-! ### Runs that come to an end -/

theorem helper_sends {p q : HelperProg WaitStatus} {w : Bytes} (h : Produces p w q) (hx : x.helper = p) :
    Run answer status x { x with helper := q, prompts := x.prompts ++ w } := by
  subst hx
  refine h.steps (fun p out => { x with helper := p, prompts := out }) (fun b k out hb => ?_) x.prompts
  have hstep : Step answer status { x with helper := .write b k, prompts := out } _ :=
    .helperWrites b.length rfl (List.length_pos_iff.2 hb) (Nat.le_refl _)
  rwa [List.take_length] at hstep

theorem helper_receives {p q : HelperProg WaitStatus} {w : Bytes} (h : Consumes p w q) (hx : x.helper = p)
    (hr : x.replies = w) : Run answer status x { x with helper := q, replies := [] } := by
  subst hx hr
  exact h.steps (fun p rest => { x with helper := p, replies := rest }) fun n k u v hu hlen =>
    Step.helperReads (x := { x with helper := .read n k, replies := u ++ v }) u v rfl rfl hu hlen

theorem dialog_sends {p q : ExtProg (Option Bool)} {w : Bytes} (h : Produces p w q) (hx : x.dialog = p) :
    Run answer status x { x with dialog := q, replies := x.replies ++ w } := by
  subst hx
  refine h.steps (fun p out => { x with dialog := p, replies := out }) (fun b k out hb => ?_) x.replies
  have hstep : Step answer status { x with dialog := .write b k, replies := out } _ :=
    .dialogWrites b.length rfl (List.length_pos_iff.2 hb) (Nat.le_refl _)
  rwa [List.take_length] at hstep

theorem dialog_receives {p q : ExtProg (Option Bool)} {w : Bytes} (h : Consumes p w q) (hx : x.dialog = p)
    (hp : x.prompts = w) : Run answer status x { x with dialog := q, prompts := [] } := by
  subst hx hp
  exact h.steps (fun p rest => { x with dialog := p, prompts := rest }) fun n k u v hu hlen =>
    Step.dialogReads (x := { x with dialog := .read n k, prompts := u ++ v }) u v rfl rfl hu hlen

/- Into the loop, past waitpid, and to the next prompt. -/
theorem Idle.turns (hd : Idle status x.dialog) : Run answer status x { x with dialog := extRunServe } := by
  have hwaits : Step answer status { x with dialog := extRunBody status } _ := .dialogWaits rfl
  obtain hd | hd | hd := hd
  · exact .head (.dialogAgain hd) (.single hwaits)
  · rw [← hd] at hwaits
    exact .single hwaits
  · rw [← hd]

theorem dialog_hears {m : PamMessage} (hd : Idle status x.dialog)
    (hp : x.prompts = promptFrame m.style.code m.msg.bytes) :
    Run answer status x { x with dialog := served m, prompts := [] } :=
  hd.turns.trans (dialog_receives (x := { x with dialog := extRunServe }) (serve_consumes m) rfl hp)

theorem dialog_replies {m : PamMessage} (hm : m.style ≠ .promptEchoOn) (hd : x.dialog = served m)
    (hr : x.replies = []) : Run answer status x { x with
      dialog := .done none
      replies := replyFrame (replyBytes (answer (x.seen ++ [m.call])))
      seen := x.seen ++ [m.call] } := by
  rw [served, if_neg hm] at hd
  refine .head (.dialogCalls false hd) ?_
  have hsent : Run answer status
      { x with
        dialog := extRunReply (false, (answer (x.seen ++ [m.call])).map ShortText.bytes)
        seen := x.seen ++ [m.call] } _ := dialog_sends (reply_produces false _) rfl
  have hframe (w : Bytes) : x.replies ++ w = w := by rw [hr, List.nil_append]
  dsimp only at hsent
  rw [hframe] at hsent
  exact hsent

variable (answer status) in
/- The helper is done in the end, unless both of them read. -/
def Finishes (x : Conversation) : Prop :=
  ∃ y, Run answer status x y ∧ (y.Blocked ∨ ∃ st, y.helper = .done st)

theorem Finishes.of_run (h : Run answer status x y) : Finishes answer status y → Finishes answer status x
  | ⟨z, hz, hend⟩ => ⟨z, h.trans hz, hend⟩

/- Where a prompt is taken for the end of the file. -/
theorem missed_finishes (hd : Idle status x.dialog) (hh : IsRead x.helper) (hr : x.replies = [])
    (hp : x.prompts = []) : Finishes answer status x :=
  ⟨_, hd.turns, .inl ⟨hh, hr, isRead_serve, hp⟩⟩

/- The dialog has a prompt, and the helper can go on with any reply. -/
theorem heard_finishes {m : PamMessage} {after : Bytes → HelperProg WaitStatus} (hd : x.dialog = served m)
    (hp : x.prompts = []) (hr : x.replies = []) (hh : IsRead x.helper)
    (hc : ∀ a : Bytes, a.length < maxLen → Consumes x.helper (replyFrame a) (after a))
    (hnext : ∀ (a : Bytes) (y : Conversation), a.length < maxLen → y.helper = after a → Idle status y.dialog →
      y.prompts = [] → y.replies = [] → Finishes answer status y) : Finishes answer status x := by
  by_cases hm : m.style = .promptEchoOn
  · rw [served, if_pos hm] at hd
    exact missed_finishes (.inl hd) hh hr hp
  · let a := replyBytes (answer (x.seen ++ [m.call]))
    have hshort : a.length < maxLen := replyBytes_short _
    let replied := { x with dialog := .done none, replies := replyFrame a, seen := x.seen ++ [m.call] }
    have hreplied : Run answer status x replied := dialog_replies hm hd hr
    have hreceived := hreplied.trans (helper_receives (x := replied) (hc a hshort) rfl rfl)
    exact .of_run hreceived (hnext a _ hshort rfl (.inl rfl) hp rfl)

/-- Every conversation can go on to its end. -/
theorem Implements.finishes {p : HelperProg WaitStatus} (hi : Implements p P) (hh : x.helper = p)
    (hd : Idle status x.dialog) (hp : x.prompts = []) (hr : x.replies = []) : Finishes answer status x := by
  induction hi generalizing x with
  | done st => exact ⟨x, .refl, .inr ⟨st, hh⟩⟩
  | @mallocReplies num k P _ ih =>
    have hstep : Step answer status x { x with helper := k true } :=
      .helperAsks (q := .mallocReplies num) true hh nofun rfl
    exact .of_run (.single hstep) (ih rfl hd hp hr)
  | @malloc num size k P _ ih =>
    have hstep : Step answer status x { x with helper := k true } :=
      .helperAsks (q := .malloc num size) true hh nofun rfl
    exact .of_run (.single hstep) (ih rfl hd hp hr)
  | hand _ ih => exact .of_run (.single (.helperHands hh)) (ih rfl hd hp hr)
  | @prompt p m waits K after hw hwait hc _ ih =>
    let sent := { x with helper := waits, prompts := promptFrame m.style.code m.msg.bytes }
    have hsent : Run answer status x sent := by
      have hrun : Run answer status x _ := helper_sends hw hh
      rwa [hp] at hrun
    have hheard := hsent.trans (dialog_hears (x := sent) hd rfl)
    exact .of_run hheard (heard_finishes rfl rfl hr hwait hc fun a y ha hy => ih a ha hy)

/-- So can every conversation that is under way. -/
theorem Phase.finishes (hP : Phase status x P) : Finishes answer status x := by
  cases hP with
  | received hd hp hc hi =>
    exact .of_run (helper_receives hc rfl rfl) (hi.finishes rfl hd hp rfl)
  | @sending u waits m K hd hr hw ha hf =>
    let sent := { x with helper := waits, prompts := x.prompts ++ u }
    have hidle : Idle status sent.dialog := hd.imp id .inl
    have hsent : Run answer status x sent := helper_sends hw rfl
    have hheard := hsent.trans (dialog_hears (x := sent) hidle hf)
    obtain ⟨hread, after, hc, hK⟩ := ha
    exact .of_run hheard (heard_finishes rfl rfl hr hread hc fun a y ha hy => (hK a ha).finishes hy)
  | @hearing u waits m K hc hr hw ha =>
    have hsent : Run answer status x _ := helper_sends hw rfl
    have hheard := hsent.trans (dialog_receives (x := { x with helper := waits, prompts := x.prompts ++ u }) hc rfl rfl)
    obtain ⟨hread, after, hc, hK⟩ := ha
    exact .of_run hheard (heard_finishes rfl rfl hr hread hc fun a y ha hy => (hK a ha).finishes hy)
  | stuck hm hd hp hr ha => exact missed_finishes hd ha.1 hr hp
  | @answering u P after hw hp hc hi =>
    have hsent : Run answer status x _ := dialog_sends hw rfl
    have hreceived := hsent.trans (helper_receives (x := { x with dialog := .done none, replies := x.replies ++ u })
      hc rfl rfl)
    exact .of_run hreceived (hi.finishes rfl (.inl rfl) hp rfl)
  | ending hh => exact ⟨x, .refl, .inr ⟨_, hh⟩⟩

theorem reachable_finishes {exit : WaitStatus} {batches : List (List PamMessage)}
    (h : Run answer status (start exit batches) x) : Finishes answer status x := by
  obtain ⟨P, hP, -⟩ := (phase_start status exit batches).run h
  exact hP.finishes

/-! ### Delivery -/

/- An echoed prompt is never passed on, so the conversation with one cannot end. -/
theorem blocked_of_echoOn (answer : List Talk → Option ShortText) (status exit : WaitStatus)
    {batches : List (List PamMessage)} {msgs : List PamMessage} {m : PamMessage} (hb : msgs ∈ batches)
    (hm : m ∈ msgs) (hecho : m.style = .promptEchoOn) :
    ∃ x, Run answer status (start exit batches) x ∧ x.Blocked := by
  obtain ⟨x, hrun, hx | ⟨st, hdone⟩⟩ : Finishes answer status (start exit batches) := reachable_finishes .refl
  · exact ⟨x, hrun, hx⟩
  · have hcall : m.call ∈ x.seen := seen_whole hrun hdone ▸ call_mem_expected hb hm []
    have hcode : (m.style.code : Int) ≠ 0 := seen_audible hrun _ hcall
    rw [hecho] at hcode
    exact absurd rfl hcode

/- Without such a prompt there is always something to do. -/
theorem not_blocked_of_silent {exit : WaitStatus} {batches : List (List PamMessage)}
    (hsilent : ∀ msgs ∈ batches, ∀ m ∈ msgs, m.msgStyle ≠ Pam.promptEchoOn)
    (h : Run answer status (start exit batches) x) : ¬ x.Blocked := by
  obtain ⟨P, hP, hcarried⟩ := (phase_start status exit batches).run h
  refine hP.not_blocked (hcarried.silent (withoutEchoOn_helperProcess exit fun msgs hb m hm hecho => ?_))
  exact hsilent msgs hb m hm ((style_eq_promptEchoOn m).1 hecho)

/-- Every prompt reaches func once and in order, the replies reach PAM in their order,
and the two processes never wait for each other, if and only if no message has the
style PAM_PROMPT_ECHO_ON. -/
theorem delivered_iff (answer : List Talk → Option ShortText) (status exit : WaitStatus)
    (batches : List (List PamMessage)) :
    (∀ x, Run answer status (start exit batches) x → Faultless answer batches x) ↔
      ∀ msgs ∈ batches, ∀ m ∈ msgs, m.msgStyle ≠ Pam.promptEchoOn := by
  constructor
  · intro h msgs hb m hm hecho
    obtain ⟨x, hrun, hblocked⟩ := blocked_of_echoOn answer status exit hb hm ((style_eq_promptEchoOn m).2 hecho)
    exact (h x hrun).free hblocked
  · intro h x hrun
    exact ⟨seen_inOrder hrun, fun st => seen_whole hrun, not_blocked_of_silent h hrun⟩

/- "login:" of a stack that asks for the name. -/
def nameRequest : PamMessage where
  msgStyle := Pam.promptEchoOn
  msg := ⟨[108, 111, 103, 105, 110, 58], by decide, by decide⟩

theorem name_undelivered :
    ¬ ∀ x, Run (fun _ => none) .other (start (.exited 0) [[nameRequest]]) x →
        Faultless (fun _ => none) [[nameRequest]] x := by
  intro h
  obtain ⟨x, hrun, hblocked⟩ := blocked_of_echoOn (fun _ => none) .other (.exited 0)
    (List.mem_singleton_self [nameRequest]) (List.mem_singleton_self nameRequest) rfl
  exact (h x hrun).free hblocked

end MateScreensaver
