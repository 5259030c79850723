import MateScreensaver.ExtRun
import MateScreensaver.PamHelper
import Mathlib.Logic.Relation

/-!
The dialog and its PAM helper, joined by two pipes: every prompt is passed on and
answered, in order, unless its style is the one that looks like the end of the file.
-/

namespace MateScreensaver
open Process Prog

/- What is to be seen of a conversation: a call of func, and a result for PAM. -/
inductive Talk
  | call (style : Int) (msg : Bytes)
  | result (ret : Int) (resp : Option PamReplies)
deriving DecidableEq

/-- The two processes with what is in their pipes, and all there was to be seen. -/
structure Conversation where
  helper : HelperProg WaitStatus
  dialog : ExtProg (Option Bool)
  prompts : Bytes := []
  replies : Bytes := []
  seen : List Talk := []

/- The memory lasts. -/
def HelperCall.Granted : (q : HelperCall) → q.Answer → Prop
  | .mallocReplies _, ok => ok = true
  | .malloc _ _, ok => ok = true
  | _, _ => True

namespace Conversation

/-- One step of either process. A write puts out any part of what it is given, a read
takes in any part of what is there, and waits when nothing is: the errors of ext_run
leave its ends open. No write has to wait, since one frame at most is under way. What
func stores may depend on all that was seen. -/
inductive Step (answer : List Talk → Option ShortText) (status : WaitStatus) :
    Conversation → Conversation → Prop
  | helperWrites {x b k} (n) (h : x.helper = .write b k) (hpos : 0 < n) (hle : n ≤ b.length) :
      Step answer status x { x with helper := k (some n), prompts := x.prompts ++ b.take n }
  | helperReads {x n k} (u v) (h : x.helper = .read n k) (hr : x.replies = u ++ v) (hu : u ≠ [])
      (hlen : u.length ≤ n) : Step answer status x { x with helper := k (some u), replies := v }
  | helperHands {x ret resp k} (h : x.helper = .ask (.toPam ret resp) k) :
      Step answer status x { x with helper := k (), seen := x.seen ++ [.result ret resp] }
  | helperAsks {x q k} (r) (h : x.helper = .ask q k) (hq : ∀ ret resp, q ≠ .toPam ret resp)
      (hg : q.Granted r) : Step answer status x { x with helper := k r }
  | dialogWrites {x b k} (n) (h : x.dialog = .write b k) (hpos : 0 < n) (hle : n ≤ b.length) :
      Step answer status x { x with dialog := k (some n), replies := x.replies ++ b.take n }
  | dialogReads {x n k} (u v) (h : x.dialog = .read n k) (hp : x.prompts = u ++ v) (hu : u ≠ [])
      (hlen : u.length ≤ n) : Step answer status x { x with dialog := k (some u), prompts := v }
  | dialogReadsEnd {x n k st} (h : x.dialog = .read n k) (hp : x.prompts = []) (hd : x.helper = .done st) :
      Step answer status x { x with dialog := k (some []) }
  | dialogWaits {x k} (h : x.dialog = .ask .waitpid k) :
      Step answer status x { x with dialog := k .running }
  | dialogReaps {x k st} (h : x.dialog = .ask .waitpid k) (hd : x.helper = .done st) :
      Step answer status x { x with dialog := k (.reaped st) }
  | dialogCalls {x style msg k} (res : Bool) (h : x.dialog = .ask (.func style msg) k) :
      Step answer status x { x with
        dialog := k (res, (answer (x.seen ++ [Talk.call style msg])).map ShortText.bytes)
        seen := x.seen ++ [.call style msg] }
  | dialogAsks {x q k} (r) (h : x.dialog = .ask q k) (hw : q ≠ .waitpid) (hf : ∀ style msg, q ≠ .func style msg) :
      Step answer status x { x with dialog := k r }
  | dialogAgain {x} (h : x.dialog = .done none) : Step answer status x { x with dialog := extRunBody status }

/- The loop of ext_run is about to be entered. -/
def start (exit : WaitStatus) (batches : List (List PamMessage)) : Conversation where
  helper := helperProcess exit batches
  dialog := .done none

def Blocked (x : Conversation) : Prop :=
  IsRead x.helper ∧ x.replies = [] ∧ IsRead x.dialog ∧ x.prompts = []

end Conversation

/-! ### What a script comes to -/

def replyBytes (t : Option ShortText) : Bytes := (t.map ShortText.bytes).getD []

theorem replyBytes_short (t : Option ShortText) : (replyBytes t).length < maxLen := by
  cases t with
  | none => decide
  | some t => exact t.short

/- What func is called with for a message. -/
def PamMessage.call (m : PamMessage) : Talk := .call m.style.code m.msg.bytes

namespace Script

variable {α β : Type}

/- What there will be to see, after what there was. -/
def exchanges (answer : List Talk → Option ShortText) : Script α → List Talk → List Talk
  | done _, _ => []
  | prompt m k, past =>
    m.call :: exchanges answer (k (replyBytes (answer (past ++ [m.call])))) (past ++ [m.call])
  | hand ret resp k, past => .result ret resp :: exchanges answer k (past ++ [.result ret resp])

def WithoutEchoOn : Script α → Prop
  | done _ => True
  | prompt m k => m.style ≠ .promptEchoOn ∧ ∀ a, WithoutEchoOn (k a)
  | hand _ _ k => WithoutEchoOn k

end Script

/-! ### One turn of the dialog -/

/- func is about to be called. -/
def called (m : PamMessage) : ExtProg (Option Bool) := .ask (.func m.style.code m.msg.bytes) extRunReply

/- A prompt has been read. The style whose value is 0 ends the turn. -/
def served (m : PamMessage) : ExtProg (Option Bool) :=
  if m.style = .promptEchoOn then .done none else called m

theorem style_code_bounds (s : GSAuthMessageStyle) : -2 ^ 31 ≤ (s.code : Int) ∧ (s.code : Int) < 2 ^ 31 := by
  cases s with
  | promptEchoOn | promptEchoOff | errorMsg | textInfo => decide

theorem serve_consumes (m : PamMessage) :
    Consumes extRunServe (promptFrame m.style.code m.msg.bytes) (served m) := by
  rw [extRunServe, served]
  obtain ⟨hlo, hhi⟩ := style_code_bounds m.style
  refine (readPrompt_consumes hlo hhi m.msg.short (int_of_short m.msg.short)).bind.trans_eq ?_
  rw [done_bind]
  cases hm : m.style with
  | promptEchoOn => rfl
  | promptEchoOff | errorMsg | textInfo =>
    show Prog.ask (.func _ (cString m.msg.bytes)) extRunReply = called m
    rw [m.msg.cString_bytes, called, hm]

theorem isRead_serve : IsRead extRunServe := by
  have hfield : IsRead (readAll (Q := ExtCall) (A := ExtCall.Answer) sizeofInt []) := by
    rw [readAll_eq, if_neg (by decide)]
    exact ⟨_, _, rfl⟩
  exact ((hfield.bind _).bind _).bind _

/- At the end of the file the turn is over. -/
theorem serve_end {n : Nat} {k : Option Bytes → ExtProg (Option Bool)} (h : extRunServe = .read n k) :
    k (some []) = .done none := by
  rw [extRunServe, readPrompt_eq, readAll_eq, if_neg (by decide)] at h
  cases h
  rfl

theorem reply_produces (res : Bool) (t : Option ShortText) :
    Produces (extRunReply (res, t.map ShortText.bytes)) (replyFrame (replyBytes t)) (.done none) := by
  have htext : ((t.map ShortText.bytes).map cString).getD [] = replyBytes t := by
    cases t with
    | none => rfl
    | some t => exact t.cString_bytes
  rw [extRunReply, htext]
  refine (writeMsg_produces _).bind.trans_eq ?_
  have hwritten : ¬ ((replyBytes t).length : Int) < 0 := by omega
  rw [done_bind, if_neg hwritten]

/-! ### Phases

The conversation goes round: the helper sends a prompt, the dialog takes it in and
calls func, sends the reply, and the helper takes that in. It gets stuck where the
dialog takes a prompt for the end of the file. -/

/- The dialog is between two calls of func. -/
def Idle (status : WaitStatus) (d : ExtProg (Option Bool)) : Prop :=
  d = .done none ∨ d = extRunBody status ∨ d = extRunServe

/- The dialog is on its way out of ext_run. -/
inductive Closing : ExtProg (Option Bool) → Prop
  | returned (b) : Closing (.done (some b))
  | close {fd k} : Closing (k ()) → Closing (.ask (.close fd) k)
  | unblock {k} : Closing (k ()) → Closing (.ask .unblockSigchld k)

/-- A program that waits for the reply to a prompt, and can go on with any. -/
def Awaits (waits : HelperProg WaitStatus) (K : Bytes → Script WaitStatus) : Prop :=
  IsRead waits ∧ ∃ after : Bytes → HelperProg WaitStatus,
    (∀ a : Bytes, a.length < maxLen → Consumes waits (replyFrame a) (after a)) ∧
      ∀ a : Bytes, a.length < maxLen → Implements (after a) (K a)

/-- Where both are, and what is left of the conversation. -/
inductive Phase (status : WaitStatus) : Conversation → Script WaitStatus → Prop
  | received {x P after} (hd : Idle status x.dialog) (hp : x.prompts = []) (hc : Consumes x.helper x.replies after)
      (hi : Implements after P) : Phase status x P
  | sending {x u waits m K} (hd : x.dialog = .done none ∨ x.dialog = extRunBody status) (hr : x.replies = [])
      (hw : Produces x.helper u waits) (ha : Awaits waits K)
      (hf : x.prompts ++ u = promptFrame m.style.code m.msg.bytes) : Phase status x (.prompt m K)
  | hearing {x u waits m K} (hc : Consumes x.dialog (x.prompts ++ u) (served m)) (hr : x.replies = [])
      (hw : Produces x.helper u waits) (ha : Awaits waits K) : Phase status x (.prompt m K)
  | stuck {x m K} (hm : m.style = .promptEchoOn) (hd : Idle status x.dialog) (hp : x.prompts = [])
      (hr : x.replies = []) (ha : Awaits x.helper K) : Phase status x (.prompt m K)
  | answering {x u P after} (hw : Produces x.dialog u (.done none)) (hp : x.prompts = [])
      (hc : Consumes x.helper (x.replies ++ u) after) (hi : Implements after P) : Phase status x P
  | ending {x st} (hh : x.helper = .done st) (hd : Closing x.dialog) : Phase status x (.done st)

theorem closing_end (status : WaitStatus) : Closing (extRunEnd status) :=
  .close (.close (.unblock (.returned _)))

theorem promptFrame_ne_nil (m : PamMessage) : promptFrame m.style.code m.msg.bytes ≠ [] :=
  fun h => encodeInt_ne_nil _ (List.append_eq_nil_iff.1 h).1

variable {answer : List Talk → Option ShortText} {status : WaitStatus} {x y : Conversation}
  {P : Script WaitStatus}

/- func was asked with a style that is not 0. -/
def Talk.Audible : Talk → Prop
  | .call style _ => style ≠ 0
  | .result _ _ => True

/- What a step leaves as it was: all there was and will be to see. -/
structure Carried (answer : List Talk → Option ShortText) (x : Conversation) (P : Script WaitStatus)
    (y : Conversation) (P' : Script WaitStatus) : Prop where
  seen : y.seen ++ P'.exchanges answer y.seen = x.seen ++ P.exchanges answer x.seen
  silent : P.WithoutEchoOn → P'.WithoutEchoOn
  audible : (∀ e ∈ x.seen, e.Audible) → ∀ e ∈ y.seen, e.Audible

theorem Carried.same (h : y.seen = x.seen) : Carried answer x P y P := ⟨by rw [h], id, by rw [h]; exact id⟩

theorem Carried.more {P' : Script WaitStatus} {e : Talk} (hy : y.seen = x.seen ++ [e])
    (hP : P.exchanges answer x.seen = e :: P'.exchanges answer (x.seen ++ [e]))
    (hs : P.WithoutEchoOn → P'.WithoutEchoOn) (he : e.Audible) : Carried answer x P y P' where
  seen := by rw [hy, hP, List.append_assoc]; rfl
  silent := hs
  audible := by
    intro h e' he'
    rw [hy] at he'
    obtain he' | he' := List.mem_append.1 he'
    · exact h e' he'
    · exact List.mem_singleton.1 he' ▸ he

theorem Carried.trans {z : Conversation} {P' P'' : Script WaitStatus} (h : Carried answer x P y P')
    (h' : Carried answer y P' z P'') : Carried answer x P z P'' :=
  ⟨h'.seen.trans h.seen, fun hn => h'.silent (h.silent hn), fun ha => h'.audible (h.audible ha)⟩

open Conversation

/-- The frame of the next prompt starts on its way. -/
theorem first_write {b : Bytes} {k : Option Nat → HelperProg WaitStatus} (hi : Implements (.write b k) P)
    (hd : Idle status x.dialog) (hp : x.prompts = []) (hr : x.replies = []) {n : Nat} (hpos : 0 < n)
    (hle : n ≤ b.length) :
    Phase status { x with helper := k (some n), prompts := x.prompts ++ b.take n } P := by
  cases hi with
  | @prompt _ m waits K after hw hread hc hi =>
    have ha : Awaits waits K := ⟨hread, after, hc, hi⟩
    generalize hframe : promptFrame m.style.code m.msg.bytes = w at hw
    cases hw with
    | nil => exact absurd hframe (promptFrame_ne_nil m)
    | @write _ _ _ _ _ hpre h =>
      have hwhole : x.prompts ++ b.take n ++ w.drop n = w := by
        rw [hp, List.nil_append, take_append_drop_within hpre hle]
      obtain hd | hd | hd := hd
      · exact .sending (.inl hd) hr (h n hpos hle) ha (hwhole.trans hframe.symm)
      · exact .sending (.inr hd) hr (h n hpos hle) ha (hwhole.trans hframe.symm)
      · refine .hearing ?_ hr (h n hpos hle) ha
        show Consumes x.dialog (x.prompts ++ b.take n ++ w.drop n) (served m)
        rw [hwhole, hd, ← hframe]
        exact serve_consumes m

theorem Idle.not_write {d : ExtProg (Option Bool)} (h : Idle status d) (b k) : d ≠ .write b k := by
  rintro rfl
  obtain h | h | h := h
  · cases h
  · cases h
  · obtain ⟨n, k, hread⟩ := isRead_serve
    cases h.trans hread

theorem Idle.serves {d : ExtProg (Option Bool)} (h : Idle status d) {n k} (hd : d = .read n k) :
    d = extRunServe := by
  subst hd
  obtain h | h | h := h
  · cases h
  · cases h
  · exact h

theorem Idle.waits {d : ExtProg (Option Bool)} (h : Idle status d) {q k} (hd : d = .ask q k) :
    d = extRunBody status := by
  subst hd
  obtain h | h | h := h
  · cases h
  · exact h
  · obtain ⟨n, k, hread⟩ := isRead_serve
    cases h.trans hread

/- There is nothing to read. -/
theorem nothing_read {pipe v v' : Bytes} (hpipe : pipe = []) (h : pipe = v ++ v') : v = [] :=
  (List.append_eq_nil_iff.1 (h.symm.trans hpipe)).1

/-- A step while the helper takes in a reply, or is past it. -/
theorem received_step {after : HelperProg WaitStatus} (hd : Idle status x.dialog)
    (hp : x.prompts = []) (hc : Consumes x.helper x.replies after) (hi : Implements after P)
    (h : Step answer status x y) : ∃ P', Phase status y P' ∧ Carried answer x P y P' := by
  cases h with
  | helperWrites n h hpos hle =>
    rw [h] at hc
    obtain ⟨hr, rfl⟩ := hc.stays nofun
    exact ⟨P, first_write hi hd hp hr hpos hle, .same rfl⟩
  | helperReads u v h hr hu hlen =>
    rw [h, hr] at hc
    exact ⟨P, .received hd hp (hc.chunk hu hlen) hi, .same rfl⟩
  | helperHands h =>
    rw [h] at hc
    obtain ⟨hr, rfl⟩ := hc.stays nofun
    cases hi with
    | hand hi =>
      exact ⟨_, .received hd hp (hr ▸ .nil _) hi, .more rfl rfl id trivial⟩
    | prompt _ hw => exact absurd (hw.stays nofun).1 (promptFrame_ne_nil _)
  | helperAsks r h hq hg =>
    rw [h] at hc
    obtain ⟨hr, rfl⟩ := hc.stays nofun
    cases hi with
    | mallocReplies hi =>
      cases hg
      exact ⟨P, .received hd hp (hr ▸ .nil _) hi, .same rfl⟩
    | malloc hi =>
      cases hg
      exact ⟨P, .received hd hp (hr ▸ .nil _) hi, .same rfl⟩
    | hand => exact absurd rfl (hq _ _)
    | prompt _ hw => exact absurd (hw.stays nofun).1 (promptFrame_ne_nil _)
  | dialogWrites n h => exact absurd h (hd.not_write _ _)
  | dialogReads u v h hp' hu => exact absurd (nothing_read hp hp') hu
  | dialogReadsEnd h hp' hdone =>
    have hserve := hd.serves h
    exact ⟨P, .received (.inl (serve_end (hserve.symm.trans h))) hp hc hi, .same rfl⟩
  | dialogWaits h =>
    have hbody := hd.waits h
    cases h.symm.trans hbody
    exact ⟨P, .received (.inr (.inr rfl)) hp hc hi, .same rfl⟩
  | dialogReaps h hdone =>
    have hbody := hd.waits h
    cases h.symm.trans hbody
    rw [hdone] at hc
    obtain ⟨hr, rfl⟩ := hc.stays nofun
    cases hi with
    | done => exact ⟨_, .ending hdone (closing_end _), .same rfl⟩
    | prompt _ hw => exact absurd (hw.stays nofun).1 (promptFrame_ne_nil _)
  | dialogCalls res h =>
    have hbody := hd.waits h
    cases h.symm.trans hbody
  | dialogAsks r h hw hf =>
    have hbody := hd.waits h
    cases h.symm.trans hbody
    exact absurd rfl hw
  | dialogAgain h => exact ⟨P, .received (.inr (.inl rfl)) hp hc hi, .same rfl⟩

section Prompt

variable {u : Bytes} {waits : HelperProg WaitStatus} {m : PamMessage} {K : Bytes → Script WaitStatus}

theorem Awaits.not_write (ha : Awaits waits K) (b k) : waits ≠ .write b k := by
  obtain ⟨n, k', hread⟩ := ha.1
  rw [hread]
  nofun

/- The helper cannot be done, nor ask, while its reply is to come. -/
theorem Awaits.reads {p : HelperProg WaitStatus} (ha : Awaits waits K) (hw : Produces p u waits)
    (hp : ∀ b k, p ≠ .write b k) : IsRead p := by
  rw [(hw.stays hp).2]
  exact ha.1

theorem IsRead.not_ask {Q : Type} {A : Q → Type} {α : Type} {q : Q} {k : A q → Prog Q A α} :
    ¬ IsRead (.ask q k) := by
  rintro ⟨n, k, h⟩
  cases h

theorem IsRead.not_done {Q : Type} {A : Q → Type} {α : Type} {a : α} : ¬ IsRead (.done a : Prog Q A α) := by
  rintro ⟨n, k, h⟩
  cases h

theorem Awaits.not_ask {q : HelperCall} {k : q.Answer → HelperProg WaitStatus} (ha : Awaits waits K)
    (hw : Produces (.ask q k) u waits) : False :=
  IsRead.not_ask (ha.reads hw nofun)

theorem Awaits.not_done {st : WaitStatus} (ha : Awaits waits K) (hw : Produces (.done st) u waits) : False :=
  IsRead.not_done (ha.reads hw nofun)

/-- A step while a prompt is on its way and the dialog has not begun to read it. -/
theorem sending_step (hd : x.dialog = .done none ∨ x.dialog = extRunBody status) (hr : x.replies = [])
    (hw : Produces x.helper u waits) (ha : Awaits waits K)
    (hf : x.prompts ++ u = promptFrame m.style.code m.msg.bytes) (h : Step answer status x y) :
    ∃ P', Phase status y P' ∧ Carried answer x (.prompt m K) y P' := by
  cases h with
  | helperWrites n h hpos hle =>
    rw [h] at hw
    obtain ⟨hw', hu⟩ := hw.chunk ha.not_write hpos hle
    refine ⟨_, .sending hd hr hw' ha ?_, .same rfl⟩
    rw [List.append_assoc, hu, hf]
  | helperReads v v' h hr' hv => exact absurd (nothing_read hr hr') hv
  | helperHands h => exact (ha.not_ask (h ▸ hw)).elim
  | helperAsks r h => exact (ha.not_ask (h ▸ hw)).elim
  | dialogWaits h =>
    obtain hd | hd := hd
    · cases h.symm.trans hd
    cases h.symm.trans hd
    refine ⟨_, .hearing ?_ hr hw ha, .same rfl⟩
    rw [hf]
    exact serve_consumes m
  | dialogReaps h hdone => exact (ha.not_done (hdone ▸ hw)).elim
  | dialogAgain h => exact ⟨_, .sending (.inr rfl) hr hw ha hf, .same rfl⟩
  | dialogWrites n h | dialogReads v v' h | dialogReadsEnd h | dialogCalls res h =>
    obtain hd | hd := hd
    · cases h.symm.trans hd
    · cases h.symm.trans hd
  | dialogAsks r h hwait =>
    obtain hd | hd := hd
    · cases h.symm.trans hd
    cases h.symm.trans hd
    exact absurd rfl hwait

/-- Nothing but waiting is left when the helper waits for a reply that nobody sends. -/
theorem stuck_step (hm : m.style = .promptEchoOn) (hd : Idle status x.dialog) (hp : x.prompts = [])
    (hr : x.replies = []) (ha : Awaits x.helper K) (h : Step answer status x y) :
    ∃ P', Phase status y P' ∧ Carried answer x (.prompt m K) y P' := by
  have hread := ha.1
  cases h with
  | helperWrites n h => exact absurd h (ha.not_write _ _)
  | helperReads v v' h hr' hv => exact absurd (nothing_read hr hr') hv
  | helperHands h => exact absurd (h ▸ hread) IsRead.not_ask
  | helperAsks r h => exact absurd (h ▸ hread) IsRead.not_ask
  | dialogWrites n h => exact absurd h (hd.not_write _ _)
  | dialogReads v v' h hp' hv => exact absurd (nothing_read hp hp') hv
  | dialogReadsEnd h hp' hdone => exact absurd (hdone ▸ hread) IsRead.not_done
  | dialogWaits h =>
    cases h.symm.trans (hd.waits h)
    exact ⟨_, .stuck hm (.inr (.inr rfl)) hp hr ha, .same rfl⟩
  | dialogReaps h hdone => exact absurd (hdone ▸ hread) IsRead.not_done
  | dialogCalls res h => cases h.symm.trans (hd.waits h)
  | dialogAsks r h hwait =>
    cases h.symm.trans (hd.waits h)
    exact absurd rfl hwait
  | dialogAgain h => exact ⟨_, .stuck hm (.inr (.inl rfl)) hp hr ha, .same rfl⟩

theorem code_ne_zero (hm : m.style ≠ .promptEchoOn) : m.call.Audible := by
  show (m.style.code : Int) ≠ 0
  cases h : m.style with
  | promptEchoOn => exact absurd h hm
  | promptEchoOff | errorMsg | textInfo => decide

/-- A step of the dialog with the whole prompt taken in. -/
theorem served_step (hd : x.dialog = served m) (hp : x.prompts = []) (hr : x.replies = []) (ha : Awaits x.helper K)
    (h : Step answer status x y) : ∃ P', Phase status y P' ∧ Carried answer x (.prompt m K) y P' := by
  by_cases hm : m.style = .promptEchoOn
  · rw [served, if_pos hm] at hd
    exact stuck_step hm (.inl hd) hp hr ha h
  rw [served, if_neg hm] at hd
  have hread := ha.1
  cases h with
  | helperWrites n h => exact absurd h (ha.not_write _ _)
  | helperReads v v' h hr' hv => exact absurd (nothing_read hr hr') hv
  | helperHands h => exact absurd (h ▸ hread) IsRead.not_ask
  | helperAsks r h => exact absurd (h ▸ hread) IsRead.not_ask
  | dialogCalls res h =>
    cases h.symm.trans hd
    obtain ⟨-, after, hafter, hK⟩ := ha
    let t := answer (x.seen ++ [m.call])
    have hshort := replyBytes_short t
    refine ⟨K (replyBytes t), .answering (reply_produces res t) hp ?_ (hK _ hshort),
      .more rfl rfl (fun hn => hn.2 _) (code_ne_zero hm)⟩
    rw [hr, List.nil_append]
    exact hafter _ hshort
  | dialogAsks r h hwait hfunc =>
    cases h.symm.trans hd
    exact absurd rfl (hfunc _ _)
  | dialogWrites n h | dialogReads v v' h | dialogReadsEnd h | dialogWaits h | dialogReaps h | dialogAgain h =>
    cases h.symm.trans hd

/-- A step while the dialog takes in a prompt. -/
theorem hearing_step (hc : Consumes x.dialog (x.prompts ++ u) (served m)) (hr : x.replies = [])
    (hw : Produces x.helper u waits) (ha : Awaits waits K) (h : Step answer status x y) :
    ∃ P', Phase status y P' ∧ Carried answer x (.prompt m K) y P' := by
  -- the dialog does something else only when it has all of the prompt
  have hserved : (∀ n k, x.dialog ≠ .read n k) →
      ∃ P', Phase status y P' ∧ Carried answer x (.prompt m K) y P' := by
    intro hd
    obtain ⟨hnil, hd⟩ := hc.stays hd
    obtain ⟨hp, hu⟩ := List.append_eq_nil_iff.1 hnil
    subst hu
    exact served_step hd hp hr (hw.nothing ▸ ha) h
  cases h with
  | helperWrites n h hpos hle =>
    rw [h] at hw
    obtain ⟨hw', hu⟩ := hw.chunk ha.not_write hpos hle
    refine ⟨_, .hearing ?_ hr hw' ha, .same rfl⟩
    rw [List.append_assoc, hu]
    exact hc
  | helperReads v v' h hr' hv => exact absurd (nothing_read hr hr') hv
  | helperHands h => exact (ha.not_ask (h ▸ hw)).elim
  | helperAsks r h => exact (ha.not_ask (h ▸ hw)).elim
  | dialogReads v v' h hp hv hlen =>
    rw [h, hp, List.append_assoc] at hc
    exact ⟨_, .hearing (hc.chunk hv hlen) hr hw ha, .same rfl⟩
  | dialogReadsEnd h hp hdone => exact (ha.not_done (hdone ▸ hw)).elim
  | dialogWrites n h | dialogWaits h | dialogReaps h | dialogCalls res h | dialogAsks r h | dialogAgain h =>
    exact hserved (by rw [h]; nofun)

end Prompt

/-- A step while the reply is on its way; once all of it is written the dialog goes
back to its loop while the helper still reads. -/
theorem answering_step {u : Bytes} {after : HelperProg WaitStatus}
    (hw : Produces x.dialog u (.done none)) (hp : x.prompts = []) (hc : Consumes x.helper (x.replies ++ u) after)
    (hi : Implements after P) (h : Step answer status x y) : ∃ P', Phase status y P' ∧ Carried answer x P y P' := by
  have hwritten : u = [] → x.dialog = .done none → ∃ P', Phase status y P' ∧ Carried answer x P y P' := by
    rintro rfl hd
    rw [List.append_nil] at hc
    exact received_step (.inl hd) hp hc hi h
  cases h with
  | dialogWrites n h hpos hle =>
    rw [h] at hw
    obtain ⟨hw', hu⟩ := hw.chunk nofun hpos hle
    refine ⟨P, .answering hw' hp ?_ hi, .same rfl⟩
    rw [List.append_assoc, hu]
    exact hc
  | helperReads v v' h hr hv hlen =>
    rw [h, hr, List.append_assoc] at hc
    exact ⟨P, .answering hw hp (hc.chunk hv hlen) hi, .same rfl⟩
  | helperWrites n h | helperHands h | helperAsks r h =>
    have hnil := (hc.stays (by rw [h]; nofun)).1
    have hu := (List.append_eq_nil_iff.1 hnil).2
    subst hu
    exact hwritten rfl hw.nothing
  | dialogReads v v' h | dialogReadsEnd h | dialogWaits h | dialogReaps h | dialogCalls res h | dialogAsks r h
      | dialogAgain h =>
    obtain ⟨hu, hd⟩ := hw.stays (by rw [h]; nofun)
    exact hwritten hu hd

theorem ending_step {st : WaitStatus} (hh : x.helper = .done st) (hd : Closing x.dialog) (h : Step answer status x y) :
    ∃ P', Phase status y P' ∧ Carried answer x (.done st) y P' := by
  cases h with
  | helperWrites n h | helperReads u v h | helperHands h | helperAsks r h => cases hh.symm.trans h
  | dialogWrites n h | dialogReads u v h | dialogReadsEnd h | dialogWaits h | dialogReaps h | dialogCalls res h
      | dialogAgain h =>
    rw [h] at hd
    cases hd
  | dialogAsks r h =>
    rw [h] at hd
    cases hd with
    | close hd => exact ⟨_, .ending hh hd, .same rfl⟩
    | unblock hd => exact ⟨_, .ending hh hd, .same rfl⟩

theorem Phase.step (hP : Phase status x P) (h : Step answer status x y) :
    ∃ P', Phase status y P' ∧ Carried answer x P y P' := by
  cases hP with
  | received hd hp hc hi => exact received_step hd hp hc hi h
  | sending hd hr hw ha hf => exact sending_step hd hr hw ha hf h
  | hearing hc hr hw ha => exact hearing_step hc hr hw ha h
  | stuck hm hd hp hr ha => exact stuck_step hm hd hp hr ha h
  | answering hw hp hc hi => exact answering_step hw hp hc hi h
  | ending hh hd => exact ending_step hh hd h

end MateScreensaver
