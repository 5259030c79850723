import MateScreensaver.HelperProto

/-!
The conversation function of the PAM helper (pam-helper.c), and what it does when
read as a conversation: a prompt is sent, a reply comes back.
-/

namespace MateScreensaver
open Process Prog

/- The strings of an array of struct pam_response. -/
abbrev PamReplies := List (Option Bytes)

/- A slot of the array that _converse has allocated. -/
inductive ReplySlot
  | unassigned
  | assigned (resp : Option Bytes)
deriving DecidableEq

/- What *resp holds when _converse returns. -/
inductive RespArray
  | untouched
  | null
  | array (replies : PamReplies)
deriving DecidableEq

/- The replies that PAM is given. -/
def RespArray.given : RespArray → Option PamReplies
  | array replies => some replies
  | _ => none

/-- What the helper asks of the system, and what it gives to the PAM stack. -/
inductive HelperCall
  | mallocReplies (num : Nat)
  | malloc (num size : Nat)
  | free (num : Nat) (slot : ReplySlot)
  | freeReplies
  | uninitialised
  | toPam (ret : Int) (resp : Option PamReplies)

@[reducible] def HelperCall.Answer : HelperCall → Type
  | .mallocReplies _ => Bool
  | .malloc _ _ => Bool
  | .uninitialised => Nat
  | _ => Unit

abbrev HelperProg := Prog HelperCall HelperCall.Answer

/- free (reply[num].resp) for the slots from num on. -/
def freeSlots : Nat → List ReplySlot → HelperProg Unit
  | _, [] => .done ()
  | num, slot :: rest => .ask (.free num slot) fun _ => freeSlots (num + 1) rest

/- pam-helper.c:151. After a failure every slot is freed, also those that were never
assigned. -/
def converseEnd (numMsg : Nat) (ret : Int) (got : PamReplies) : HelperProg (Int × RespArray) :=
  if ret ≠ Pam.success then
    (freeSlots 0 (got.map .assigned ++ List.replicate (numMsg - got.length) .unassigned)).bind fun _ =>
      .ask .freeReplies fun _ => .done (ret, .null)
  else .done (ret, .array got)

/- pam-helper.c:143, the reply into its slot, and `next` with the other messages. -/
def converseAfter (next : Int → PamReplies → HelperProg (Int × RespArray)) (ret : Int) (got : PamReplies)
    (buf : Bytes) : HelperProg (Int × RespArray) :=
  .ask (.malloc got.length (buf.length + 1)) fun ok =>
    if !ok then next Pam.bufErr (got ++ [none]) else next ret (got ++ [some buf])

/- pam-helper.c:136, the reply to the prompt that was written. -/
def converseReply (numMsg : Nat) (next : Int → PamReplies → HelperProg (Int × RespArray)) (ret : Int)
    (got : PamReplies) : HelperProg (Int × RespArray) :=
  (readMsg (.ask .uninitialised .done) maxLen).bind fun (rd, buf) =>
    if rd < 0 then converseEnd numMsg Pam.convErr got
    else converseAfter next ret got (buf.take rd.toNat)

/- pam-helper.c:123, from the message after those that have been answered. -/
def converseLoop (numMsg : Nat) : List PamMessage → Int → PamReplies → HelperProg (Int × RespArray)
  | [], ret, got => converseEnd numMsg ret got
  | m :: rest, ret, got =>
    (writePrompt m.style.code m.msg.bytes).bind fun wt =>
      if wt < 0 ∨ wt ≠ m.msg.bytes.length then converseEnd numMsg Pam.convErr got
      else converseReply numMsg (converseLoop numMsg rest) ret got

/-- pam-helper.c:111 -/
def converse (msgs : List PamMessage) : HelperProg (Int × RespArray) :=
  .ask (.mallocReplies msgs.length) fun ok =>
    if !ok then .done (Pam.convErr, .untouched)
    else converseLoop msgs.length msgs Pam.success []

/- The helper as its PAM stack has it talk: lists of messages, one after another, and
an exit status. -/
def helperProcess {α : Type} (exit : α) : List (List PamMessage) → HelperProg α
  | [] => .done exit
  | msgs :: rest => (converse msgs).bind fun (ret, resp) =>
    .ask (.toPam ret resp.given) fun _ => helperProcess exit rest

/-! ### Conversations -/

/-- What a conversation is about: prompts that are answered, and results for PAM. -/
inductive Script (α : Type)
  | done (a : α)
  | prompt (m : PamMessage) (k : Bytes → Script α)
  | hand (ret : Int) (resp : Option PamReplies) (k : Script α)

namespace Script

variable {α β : Type}

def bind : Script α → (α → Script β) → Script β
  | done a, f => f a
  | prompt m k, f => prompt m fun a => (k a).bind f
  | hand ret resp k, f => hand ret resp (k.bind f)

/- One list of messages, with the replies that are there already. -/
def converse : List PamMessage → PamReplies → Script (Int × RespArray)
  | [], got => done (Pam.success, .array got)
  | m :: rest, got => prompt m fun a => converse rest (got ++ [some a])

def helperProcess (exit : α) : List (List PamMessage) → Script α
  | [] => done exit
  | msgs :: rest => (converse msgs []).bind fun (ret, resp) => hand ret resp.given (helperProcess exit rest)

end Script

def IsRead {Q : Type} {A : Q → Type} {α : Type} (p : Prog Q A α) : Prop := ∃ n k, p = .read n k

/-- The program carries the conversation on over its two streams, as long as the
memory lasts: it writes the frame of a prompt and reads the frame of the reply. -/
inductive Implements {α : Type} : HelperProg α → Script α → Prop
  | done (a) : Implements (.done a) (.done a)
  | mallocReplies {num k P} : Implements (k true) P → Implements (.ask (.mallocReplies num) k) P
  | malloc {num size k P} : Implements (k true) P → Implements (.ask (.malloc num size) k) P
  | hand {ret resp k P} : Implements (k ()) P → Implements (.ask (.toPam ret resp) k) (.hand ret resp P)
  | prompt {p m waits K} (after : Bytes → HelperProg α) :
      Produces p (promptFrame m.style.code m.msg.bytes) waits → IsRead waits →
      (∀ a : Bytes, a.length < maxLen → Consumes waits (replyFrame a) (after a)) →
      (∀ a : Bytes, a.length < maxLen → Implements (after a) (K a)) → Implements p (.prompt m K)

section Implements

variable {α β : Type}

theorem IsRead.bind {Q : Type} {A : Q → Type} {p : Prog Q A α} (h : IsRead p) (f : α → Prog Q A β) :
    IsRead (p.bind f) := by
  obtain ⟨n, k, rfl⟩ := h
  exact ⟨n, _, rfl⟩

theorem isRead_readMsg {Q : Type} {A : Q → Type} (uninit : Prog Q A Nat) (length : Nat) :
    IsRead (readMsg uninit length) := by
  have hfield : IsRead (readAll (Q := Q) (A := A) sizeofSize []) := by
    rw [readAll_eq, if_neg (by decide)]
    exact ⟨_, _, rfl⟩
  exact (hfield.bind _).bind _

theorem Implements.bind {p : HelperProg α} {P : Script α} {f : α → HelperProg β} {F : α → Script β}
    (h : Implements p P) (hf : ∀ a, Implements (f a) (F a)) : Implements (p.bind f) (P.bind F) := by
  induction h with
  | done a => exact hf a
  | mallocReplies _ ih => exact .mallocReplies ih
  | malloc _ ih => exact .malloc ih
  | hand _ ih => exact .hand ih
  | prompt after hp hw hc _ ih =>
    exact .prompt (fun a => (after a).bind f) hp.bind (hw.bind f) (fun a ha => (hc a ha).bind) ih

theorem int_of_short {n : Nat} (h : n < maxLen) : n < 2 ^ 31 := by
  unfold maxLen at h
  omega

theorem size_of_short {n : Nat} (h : n < maxLen) : n < 256 ^ sizeofSize :=
  h.trans (by decide)

theorem converseReply_consumes {numMsg : Nat} {next : Int → PamReplies → HelperProg (Int × RespArray)}
    {ret : Int} {got : PamReplies} {a : Bytes} (ha : a.length < maxLen) :
    Consumes (converseReply numMsg next ret got) (replyFrame a) (converseAfter next ret got a) := by
  rw [converseReply]
  refine (readMsg_consumes ha (size_of_short ha)).bind.trans_eq ?_
  have hread : ¬ (a.length : Int) < 0 := by omega
  simp only [done_bind, if_neg hread, Int.toNat_natCast, List.take_length]

theorem converseLoop_produces (numMsg : Nat) (m : PamMessage) (rest : List PamMessage) (ret : Int) (got : PamReplies) :
    Produces (converseLoop numMsg (m :: rest) ret got) (promptFrame m.style.code m.msg.bytes)
      (converseReply numMsg (converseLoop numMsg rest) ret got) := by
  rw [converseLoop]
  refine (writePrompt_produces _ _).bind.trans_eq ?_
  have hshort : m.msg.bytes.length < 2 ^ 31 := int_of_short m.msg.short
  have hkept : intOf m.msg.bytes.length = m.msg.bytes.length := intOf_eq (by omega) (by omega)
  have hwritten : ¬ ((m.msg.bytes.length : Int) < 0 ∨ (m.msg.bytes.length : Int) ≠ m.msg.bytes.length) := by
    omega
  rw [done_bind, hkept, if_neg hwritten]

theorem converseLoop_implements (numMsg : Nat) (msgs : List PamMessage) (got : PamReplies) :
    Implements (converseLoop numMsg msgs Pam.success got) (Script.converse msgs got) := by
  induction msgs generalizing got with
  | nil => exact .done _
  | cons m rest ih =>
    exact .prompt (converseAfter (converseLoop numMsg rest) Pam.success got) (converseLoop_produces _ _ _ _ _)
      ((isRead_readMsg _ _).bind _) (fun a ha => converseReply_consumes ha) fun a _ => .malloc (ih _)

theorem converse_implements (msgs : List PamMessage) :
    Implements (converse msgs) (Script.converse msgs []) :=
  .mallocReplies (converseLoop_implements _ _ _)

theorem helperProcess_implements (exit : α) (batches : List (List PamMessage)) :
    Implements (helperProcess exit batches) (Script.helperProcess exit batches) := by
  induction batches with
  | nil => exact .done _
  | cons msgs rest ih => exact (converse_implements msgs).bind fun _ => .hand ih

end Implements

end MateScreensaver
