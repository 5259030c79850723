import MateScreensaver.PamHelper

/-!
pam_conversation in the dialog's own process (gs-auth-pam.c:236), with what the user
is shown, and with the memory of the messages and the replies.
-/

namespace MateScreensaver.InProcess

/- struct pam_message, with a text of any length -/
structure Message where
  msgStyle : Int
  msg : Bytes

def Message.style (m : Message) : GSAuthMessageStyle := pamStyleToGsStyle m.msgStyle

/- A short message, as the helper gets it. -/
def Message.ofPam (m : PamMessage) : Message := { msgStyle := m.msgStyle, msg := m.msg.bytes }

def Message.isPrompt (m : Message) : Bool := m.style = .promptEchoOn || m.style = .promptEchoOff

/- What the locale makes of texts: utf8_msg, the message translated, and the reply,
which g_locale_from_utf8 may be unable to convert. -/
structure Texts where
  toUtf8 : Bytes → Bytes
  translate : Bytes → Bytes
  fromUtf8 : Bytes → Option Bytes

/- How gs_lock_plug_run ends: with GS_LOCK_PLUG_RESPONSE_OK and a text in the entry, or
in another way. -/
inductive PlugResponse
  | ok (typed : Bytes)
  | cancel
deriving DecidableEq

/- A slot is known by its number, and so is the utf8_msg of its message. -/
inductive PlugEvent
  | newUtf8 (num : ℕ)
  | freeUtf8 (num : ℕ)
  | enablePrompt (message : Bytes) (visible : Bool)
  | response (r : PlugResponse)
  | getText (slot : ℕ) (text : Option Bytes)
  | disablePrompt
  | showMessage (message : Option Bytes)
  | checking
  | freeResp (slot : ℕ) (resp : Option Bytes)
  | freeReply
deriving DecidableEq

/- How often the user has been asked, and what has been done. -/
structure Plug where
  asked : ℕ := 0
  log : List PlugEvent := []

def Plug.does (plug : Plug) (es : List PlugEvent) : Plug := { plug with log := plug.log ++ es }

/-! ### The code -/

section Code

variable (t : Texts) (answers : ℕ → PlugResponse)

/- mate-screensaver-dialog.c:129, with the slot that the text goes to -/
def requestResponse (prompt : Bytes) (visible : Bool) (slot : ℕ) (plug : Plug) : Option Bytes × Plug :=
  let plug := plug.does [.enablePrompt prompt visible]
  let r := answers plug.asked
  let plug := { plug with asked := plug.asked + 1 }.does [.response r]
  match r with
  | .ok typed => (t.fromUtf8 typed, plug.does [.getText slot (t.fromUtf8 typed), .disablePrompt])
  | .cancel => (none, plug.does [.disablePrompt])

/- mate-screensaver-dialog.c:203 -/
def authMessageHandler (style : GSAuthMessageStyle) (msg : Option Bytes) (slot : ℕ) (plug : Plug) :
    Bool × Option Bytes × Plug :=
  let message := msg.map t.translate
  let (response, plug) : Option Bytes × Plug :=
    match style, message with
    | .promptEchoOn, some message => requestResponse t answers message true slot plug
    | .promptEchoOff, some message => requestResponse t answers message false slot plug
    | .promptEchoOn, none | .promptEchoOff, none => (none, plug)
    | .errorMsg, message | .textInfo, message => (none, plug.does [.showMessage message])
  match response with
  | none => (false, none, plug)
  | some text => (true, some text, plug.does [.checking])

/- gs-auth-pam.c:161 and 197. The hand-over gives what cb_func returns. -/
def gsAuthRunMessageHandler (style : GSAuthMessageStyle) (msg : Bytes) (slot : ℕ) (plug : Plug) :
    Bool × Option Bytes × Plug :=
  let (res, resp, plug) := authMessageHandler t answers style (some msg) slot plug
  let shouldInterruptStack := res == false
  (shouldInterruptStack == false, resp, plug)

/- gs-auth-pam.c:321 -/
def freeResps : ℕ → PamReplies → List PlugEvent
  | _, [] => []
  | i, resp :: rest => .freeResp i resp :: freeResps (i + 1) rest

/- gs-auth-pam.c:258, from the message after those that have been answered. The local
handler of this file comes first; it leaves the slot NULL. -/
def pamConversationLoop : List Message → PamReplies → Plug → Int × RespArray × Plug
  | [], reply, plug => (Pam.success, .array reply, plug)
  | m :: rest, reply, plug =>
    let replies := reply.length
    let plug := plug.does [.newUtf8 replies]
    let (res, resp, plug) := gsAuthRunMessageHandler t answers m.style (t.toUtf8 m.msg) replies plug
    if res then pamConversationLoop rest (reply ++ [resp]) (plug.does [.freeUtf8 replies])
    else (Pam.convErr, .null, plug.does (freeResps 0 (reply ++ [resp]) ++ [.freeReply, .freeUtf8 replies]))

/-- gs-auth-pam.c:236, where `ok` tells whether calloc had memory. -/
def pamConversation (ok : Bool) (msgs : List Message) : Int × RespArray × Plug :=
  if !ok then (Pam.convErr, .untouched, {}) else pamConversationLoop t answers msgs [] {}

end Code

/-! ### What is asked of it -/

inductive Shown
  | prompt (message : Bytes) (visible : Bool)
  | notice (message : Option Bytes)
deriving DecidableEq

/- What the user gets to see of a message. -/
def showing : PlugEvent → Option Shown
  | .enablePrompt message visible => some (.prompt message visible)
  | .showMessage message => some (.notice message)
  | _ => none

def responding : PlugEvent → Option PlugResponse
  | .response r => some r
  | _ => none

/- The slot of a string that is allocated, and of one that is freed. -/
def allocating : PlugEvent → Option ℕ
  | .getText slot (some _) => some slot
  | _ => none

def freeing : PlugEvent → Option ℕ
  | .freeResp slot (some _) => some slot
  | _ => none

def newUtf8 : PlugEvent → Option ℕ
  | .newUtf8 num => some num
  | _ => none

def freeUtf8 : PlugEvent → Option ℕ
  | .freeUtf8 num => some num
  | _ => none

def shown (log : List PlugEvent) : List Shown := log.filterMap showing
def responses (log : List PlugEvent) : List PlugResponse := log.filterMap responding
def allocated (log : List PlugEvent) : List ℕ := log.filterMap allocating
def freed (log : List PlugEvent) : List ℕ := log.filterMap freeing
def newUtf8s (log : List PlugEvent) : List ℕ := log.filterMap newUtf8
def freedUtf8s (log : List PlugEvent) : List ℕ := log.filterMap freeUtf8

namespace Texts

variable (t : Texts)

def message (m : Message) : Bytes := t.translate (t.toUtf8 m.msg)

def presented (m : Message) : Shown :=
  if m.isPrompt then .prompt (t.message m) (m.style = .promptEchoOn) else .notice (some (t.message m))

/- What an answer is in the encoding of the locale. -/
def typed : PlugResponse → Option Bytes
  | .ok text => t.fromUtf8 text
  | .cancel => none

/- The answers go to the prompts in their order, and nothing goes to the others. -/
def replies (answers : ℕ → PlugResponse) : List Message → ℕ → PamReplies
  | [], _ => []
  | m :: rest, n =>
    if m.isPrompt then t.typed (answers n) :: replies answers rest (n + 1) else none :: replies answers rest n

end Texts

/- PAM_CONV_ERR is for a cancelled prompt only. Without one all messages are shown, and
the replies are the answers; else the messages are shown up to that prompt, and the
memory is given back. -/
structure Contract (t : Texts) (answers : ℕ → PlugResponse) (msgs : List Message) (ret : Int) (resp : RespArray)
    (log : List PlugEvent) : Prop where
  verdict : ret = Pam.convErr ↔ .cancel ∈ responses log
  uncancelled : .cancel ∉ responses log → ret = Pam.success ∧ shown log = msgs.map t.presented
  cancelled : .cancel ∈ responses log → ∃ k m before after, msgs[k]? = some m ∧ m.isPrompt ∧
    log = before ++ .response .cancel :: after ∧ shown before = (msgs.take (k + 1)).map t.presented ∧ shown after = []
  succeeded : ret = Pam.success → resp = .array (t.replies answers msgs 0) ∧ freed log = [] ∧ .freeReply ∉ log
  failed : ret ≠ Pam.success → resp = .null ∧ freed log = allocated log ∧ (allocated log).Nodup ∧
    log.count .freeReply = 1
  messages : freedUtf8s log = newUtf8s log ∧ (newUtf8s log).Nodup

/- Until one is cancelled, all messages are prompts, and the locale has what is typed. -/
def PromptsOnly (t : Texts) (answers : ℕ → PlugResponse) (msgs : List Message) : Prop :=
  ∀ i m, msgs[i]? = some m → (∀ j < i, answers j ≠ .cancel) →
    m.isPrompt ∧ ∀ text, answers i = .ok text → (t.fromUtf8 text).isSome

/-! ### One message -/

namespace Texts

/- The reply to a message. -/
def reply (t : Texts) (m : Message) (r : PlugResponse) : Option Bytes := if m.isPrompt then t.typed r else none

/- What authMessageHandler does. -/
def handling (t : Texts) (m : Message) (slot : ℕ) (r : PlugResponse) : List PlugEvent :=
  if m.isPrompt then
    [.enablePrompt (t.message m) (m.style = .promptEchoOn), .response r] ++
      match r with
      | .ok text =>
        [.getText slot (t.fromUtf8 text), .disablePrompt] ++ if (t.fromUtf8 text).isSome then [.checking] else []
      | .cancel => [.disablePrompt]
  else [.showMessage (some (t.message m))]

end Texts

/- All that is done about a message that gets its reply. -/
def exchange (t : Texts) (m : Message) (num : ℕ) (r : PlugResponse) : List PlugEvent :=
  .newUtf8 num :: (t.handling m num r ++ [.freeUtf8 num])

/- These are all prompts, and the user types a text at each. -/
inductive Given (t : Texts) (answers : ℕ → PlugResponse) : List Message → ℕ → List Bytes → Prop
  | nil (n) : Given t answers [] n []
  | cons {m rest n text bytes texts} : m.isPrompt → answers n = .ok text → t.fromUtf8 text = some bytes →
      Given t answers rest (n + 1) texts → Given t answers (m :: rest) n (bytes :: texts)

def exchanges (t : Texts) (answers : ℕ → PlugResponse) : List Message → ℕ → List PlugEvent
  | [], _ => []
  | m :: rest, n => exchange t m n (answers n) ++ exchanges t answers rest (n + 1)

/- All that is done about a message that gets no reply. -/
def stopped (t : Texts) (m : Message) (num : ℕ) (r : PlugResponse) (got : List Bytes) : List PlugEvent :=
  .newUtf8 num :: (t.handling m num r ++ (freeResps 0 (got.map some ++ [none]) ++ [.freeReply, .freeUtf8 num]))

theorem handler_eq (slot : ℕ) (plug : Plug) :
    gsAuthRunMessageHandler t answers m.style (t.toUtf8 m.msg) slot plug =
      ((t.reply m (answers plug.asked)).isSome, t.reply m (answers plug.asked),
        { asked := plug.asked + m.isPrompt.toNat, log := plug.log ++ t.handling m slot (answers plug.asked) }) := by
  unfold gsAuthRunMessageHandler authMessageHandler Texts.reply Texts.handling Message.isPrompt
  cases hs : m.style with
  | promptEchoOn | promptEchoOff =>
    cases hr : answers plug.asked with
    | ok text =>
      cases htext : t.fromUtf8 text with
      | none | some => simp [requestResponse, Plug.does, hr, htext, Texts.typed, Texts.message]
    | cancel => simp [requestResponse, Plug.does, hr, Texts.typed, Texts.message]
  | errorMsg | textInfo => simp [Plug.does, Texts.message]

variable {t : Texts} {answers : ℕ → PlugResponse} {msgs pre rest : List Message} {m : Message} {n : ℕ}

theorem Given.length_eq {texts : List Bytes} (h : Given t answers msgs n texts) : texts.length = msgs.length := by
  induction h with
  | nil => rfl
  | cons _ _ _ _ ih => rw [List.length_cons, List.length_cons, ih]

/-! ### The loop -/

theorem loop_given {texts : List Bytes} (h : Given t answers pre n texts) {reply : PamReplies} {plug : Plug}
    (hreply : reply.length = n) (hasked : plug.asked = n) (rest : List Message) :
    pamConversationLoop t answers (pre ++ rest) reply plug =
      pamConversationLoop t answers rest (reply ++ texts.map some)
        { asked := n + pre.length, log := plug.log ++ exchanges t answers pre n } := by
  induction h generalizing reply plug with
  | nil n =>
    rw [List.map_nil, List.append_nil, exchanges, List.append_nil, List.nil_append, List.length_nil, Nat.add_zero,
      ← hasked]
  | @cons m rest' n text bytes texts hm hr hbytes _ ih =>
    have hgiven : t.reply m (answers n) = some bytes := by
      rw [Texts.reply, if_pos hm, hr, Texts.typed, hbytes]
    rw [List.cons_append, pamConversationLoop]
    simp only [handler_eq, Plug.does, hasked, hreply, hgiven, hm, Option.isSome_some, if_true, Bool.toNat_true]
    rw [ih (by rw [List.length_append, hreply]; rfl) rfl]
    simp [exchanges, exchange, Nat.add_right_comm, Nat.add_assoc]

theorem loop_stopped {reply : PamReplies} {plug : Plug} (hreply : reply.length = n) (hasked : plug.asked = n)
    (hstop : t.reply m (answers n) = none) (rest : List Message) :
    pamConversationLoop t answers (m :: rest) reply plug =
      (Pam.convErr, .null, {
        asked := n + m.isPrompt.toNat
        log := plug.log ++ .newUtf8 n :: (t.handling m n (answers n) ++
          (freeResps 0 (reply ++ [none]) ++ [.freeReply, .freeUtf8 n])) }) := by
  rw [pamConversationLoop]
  simp [handler_eq, Plug.does, hasked, hreply, hstop]

theorem given_or_stopped (t : Texts) (answers : ℕ → PlugResponse) (msgs : List Message) (n : ℕ) :
    (∃ texts, Given t answers msgs n texts) ∨
      ∃ pre m rest texts, msgs = pre ++ m :: rest ∧ Given t answers pre n texts ∧
        t.reply m (answers (n + pre.length)) = none := by
  induction msgs generalizing n with
  | nil => exact .inl ⟨[], .nil n⟩
  | cons m rest ih =>
    cases hreply : t.reply m (answers n) with
    | none => exact .inr ⟨[], m, rest, [], rfl, .nil n, hreply⟩
    | some bytes =>
      obtain ⟨hm, text, hr, hbytes⟩ : m.isPrompt ∧ ∃ text, answers n = .ok text ∧ t.fromUtf8 text = some bytes := by
        unfold Texts.reply at hreply
        split at hreply
        · next hm =>
          cases hr : answers n with
          | ok text =>
            rw [hr] at hreply
            exact ⟨hm, text, rfl, hreply⟩
          | cancel =>
            rw [hr] at hreply
            cases hreply
        · cases hreply
      obtain ⟨texts, hgiven⟩ | ⟨pre, m', rest', texts, rfl, hgiven, hstop⟩ := ih (n + 1)
      · exact .inl ⟨_, .cons hm hr hbytes hgiven⟩
      · refine .inr ⟨m :: pre, m', rest', _, rfl, .cons hm hr hbytes hgiven, ?_⟩
        rw [List.length_cons, ← Nat.add_assoc, Nat.add_right_comm]
        exact hstop

theorem pamConversation_given {texts : List Bytes} (h : Given t answers msgs 0 texts) :
    pamConversation t answers true msgs =
      (Pam.success, .array (texts.map some), { asked := msgs.length, log := exchanges t answers msgs 0 }) := by
  have hloop := @loop_given _ _ _ _ _ h [] {} rfl rfl []
  rw [List.append_nil, pamConversationLoop, Nat.zero_add] at hloop
  exact hloop

/-- The two ways it ends. -/
theorem pamConversation_ends (t : Texts) (answers : ℕ → PlugResponse) (msgs : List Message) :
    (∃ texts, Given t answers msgs 0 texts ∧ pamConversation t answers true msgs =
      (Pam.success, .array (texts.map some), { asked := msgs.length, log := exchanges t answers msgs 0 })) ∨
    ∃ pre m rest texts, msgs = pre ++ m :: rest ∧ Given t answers pre 0 texts ∧
      t.reply m (answers pre.length) = none ∧ pamConversation t answers true msgs =
        (Pam.convErr, .null, {
          asked := pre.length + m.isPrompt.toNat
          log := exchanges t answers pre 0 ++ stopped t m pre.length (answers pre.length) texts }) := by
  obtain ⟨texts, hgiven⟩ | ⟨pre, m, rest, texts, rfl, hgiven, hstop⟩ := given_or_stopped t answers msgs 0
  · exact .inl ⟨texts, hgiven, pamConversation_given hgiven⟩
  · rw [Nat.zero_add] at hstop
    refine .inr ⟨pre, m, rest, texts, rfl, hgiven, hstop, ?_⟩
    have hloop := @loop_given _ _ _ _ _ hgiven [] {} rfl rfl (m :: rest)
    rw [Nat.zero_add, loop_stopped (n := pre.length) (by simp [hgiven.length_eq]) rfl hstop] at hloop
    exact hloop

/-! ### What the user sees, and the memory -/

theorem freeResps_silent {α : Type} {f : PlugEvent → Option α} (hf : ∀ slot resp, f (.freeResp slot resp) = none)
    (i : ℕ) (got : PamReplies) : (freeResps i got).filterMap f = [] := by
  induction got generalizing i with
  | nil => rfl
  | cons resp rest ih => rw [freeResps, List.filterMap_cons, hf, ih]

theorem shown_append (u v : List PlugEvent) : shown (u ++ v) = shown u ++ shown v := List.filterMap_append
theorem responses_append (u v : List PlugEvent) : responses (u ++ v) = responses u ++ responses v :=
  List.filterMap_append
theorem allocated_append (u v : List PlugEvent) : allocated (u ++ v) = allocated u ++ allocated v :=
  List.filterMap_append
theorem freed_append (u v : List PlugEvent) : freed (u ++ v) = freed u ++ freed v := List.filterMap_append
theorem newUtf8s_append (u v : List PlugEvent) : newUtf8s (u ++ v) = newUtf8s u ++ newUtf8s v := List.filterMap_append
theorem freedUtf8s_append (u v : List PlugEvent) : freedUtf8s (u ++ v) = freedUtf8s u ++ freedUtf8s v :=
  List.filterMap_append

theorem freed_freeResps (i : ℕ) (got : List Bytes) :
    freed (freeResps i (got.map some ++ [none])) = List.range' i got.length := by
  induction got generalizing i with
  | nil => rfl
  | cons bytes rest ih =>
    rw [List.length_cons, List.range'_succ, ← ih (i + 1)]
    rfl

theorem freeReply_notMem (i : ℕ) (got : PamReplies) : .freeReply ∉ freeResps i got := by
  induction got generalizing i with
  | nil => exact List.not_mem_nil
  | cons resp rest ih =>
    rw [freeResps, List.mem_cons, not_or]
    exact ⟨nofun, ih (i + 1)⟩

/- What is done about messages that all get their replies. -/
structure Exchanged (t : Texts) (msgs : List Message) (n : ℕ) (log : List PlugEvent) : Prop where
  shown : shown log = msgs.map t.presented
  responses : .cancel ∉ responses log
  allocated : allocated log = List.range' n msgs.length
  freed : freed log = []
  freeReply : .freeReply ∉ log
  newUtf8s : newUtf8s log = List.range' n msgs.length
  freedUtf8s : freedUtf8s log = List.range' n msgs.length

theorem exchange_eq {text bytes : Bytes} (hm : m.isPrompt) (hbytes : t.fromUtf8 text = some bytes) (num : ℕ) :
    exchange t m num (.ok text) = [.newUtf8 num, .enablePrompt (t.message m) (m.style = .promptEchoOn),
      .response (.ok text), .getText num (some bytes), .disablePrompt, .checking, .freeUtf8 num] := by
  simp [exchange, Texts.handling, hm, hbytes]

theorem exchanges_given {texts : List Bytes} (h : Given t answers msgs n texts) :
    Exchanged t msgs n (exchanges t answers msgs n) := by
  induction h with
  | nil n => exact ⟨rfl, List.not_mem_nil, rfl, rfl, List.not_mem_nil, rfl, rfl⟩
  | @cons m rest n text bytes texts hm hr hbytes _ ih =>
    have hpresented : t.presented m = .prompt (t.message m) (m.style = .promptEchoOn) := if_pos hm
    rw [exchanges, hr, exchange_eq hm hbytes]
    constructor
    · rw [List.map_cons, hpresented, ← ih.shown]
      rfl
    · intro hcancel
      obtain hcancel | hcancel := List.mem_cons.1 hcancel
      · cases hcancel
      · exact ih.responses hcancel
    · rw [List.length_cons, List.range'_succ, ← ih.allocated]
      rfl
    · exact ih.freed
    · intro hfree
      obtain hfree | hfree := List.mem_append.1 hfree
      · simp at hfree
      · exact ih.freeReply hfree
    · rw [List.length_cons, List.range'_succ, ← ih.newUtf8s]
      rfl
    · rw [List.length_cons, List.range'_succ, ← ih.freedUtf8s]
      rfl

section Stopped

variable {got : List Bytes} {num : ℕ} {r : PlugResponse}

/- The cleaning-up apart. -/
theorem filterMap_stopped {α : Type} {f : PlugEvent → Option α} (hf : ∀ slot resp, f (.freeResp slot resp) = none)
    (hreply : f .freeReply = none) : (stopped t m num r got).filterMap f =
      [PlugEvent.newUtf8 num].filterMap f ++ ((t.handling m num r).filterMap f ++ [PlugEvent.freeUtf8 num].filterMap f) := by
  have hfrees := freeResps_silent hf 0 (got.map some ++ [none])
  rw [stopped, ← List.singleton_append, List.filterMap_append, List.filterMap_append, List.filterMap_append, hfrees,
    List.nil_append, List.filterMap_cons_none hreply]

theorem responses_handling : responses (t.handling m num r) = if m.isPrompt then [r] else [] := by
  unfold responses Texts.handling
  cases m.isPrompt with
  | false => rfl
  | true =>
    cases r with
    | ok text =>
      cases htext : t.fromUtf8 text with
      | none | some => simp [responding, List.filterMap_cons, htext]
    | cancel => rfl

/- Nothing is allocated for a message that gets no reply, and its handling frees nothing. -/
theorem memory_handling (hstop : t.reply m r = none) (num : ℕ) :
    allocated (t.handling m num r) = [] ∧ freed (t.handling m num r) = [] ∧ newUtf8s (t.handling m num r) = [] ∧
      freedUtf8s (t.handling m num r) = [] ∧ .freeReply ∉ t.handling m num r := by
  unfold allocated freed newUtf8s freedUtf8s Texts.handling
  unfold Texts.reply at hstop
  cases hm : m.isPrompt with
  | false => simp [allocating, freeing, newUtf8, freeUtf8]
  | true =>
    cases r with
    | ok text =>
      have htext : t.fromUtf8 text = none := by simpa [hm, Texts.typed] using hstop
      simp [htext, allocating, freeing, newUtf8, freeUtf8]
    | cancel => simp [allocating, freeing, newUtf8, freeUtf8]

theorem responses_stopped : responses (stopped t m num r got) = if m.isPrompt then [r] else [] := by
  rw [← @responses_handling t m num r]
  exact (filterMap_stopped (fun _ _ => rfl) rfl).trans (List.append_nil _)

theorem allocated_stopped (hstop : t.reply m r = none) : allocated (stopped t m num r got) = [] :=
  (filterMap_stopped (fun _ _ => rfl) rfl).trans ((List.append_nil _).trans (memory_handling hstop num).1)

theorem utf8s_stopped (hstop : t.reply m r = none) (num : ℕ) (got : List Bytes) :
    newUtf8s (stopped t m num r got) = [num] ∧ freedUtf8s (stopped t m num r got) = [num] := by
  obtain ⟨_, _, hnew, hold, _⟩ := memory_handling hstop num
  constructor
  · refine (filterMap_stopped (fun _ _ => rfl) rfl).trans ?_
    unfold newUtf8s at hnew
    rw [hnew]
    rfl
  · refine (filterMap_stopped (fun _ _ => rfl) rfl).trans ?_
    unfold freedUtf8s at hold
    rw [hold]
    rfl

theorem freed_stopped (hstop : t.reply m r = none) : freed (stopped t m num r got) = List.range' 0 got.length := by
  obtain ⟨_, hfreed, _⟩ := memory_handling hstop num
  have hresps := freed_freeResps 0 got
  unfold freed at *
  rw [stopped, List.filterMap_cons_none rfl, List.filterMap_append, List.filterMap_append, hfreed, hresps]
  exact List.append_nil _

theorem count_stopped (hstop : t.reply m r = none) : (stopped t m num r got).count .freeReply = 1 := by
  obtain ⟨_, _, _, _, hhandling⟩ := memory_handling hstop num
  have hresps := freeReply_notMem 0 (got.map some ++ [none])
  have hnew : PlugEvent.newUtf8 num ≠ .freeReply := nofun
  rw [stopped, List.count_cons_of_ne hnew, List.count_append, List.count_append,
    List.count_eq_zero_of_not_mem hhandling, List.count_eq_zero_of_not_mem hresps]
  rfl

end Stopped

/-! ### The contract -/

theorem Given.get {texts : List Bytes} (h : Given t answers pre n texts) {i : ℕ} (hi : pre[i]? = some m) :
    m.isPrompt ∧ ∃ text bytes, answers (n + i) = .ok text ∧ t.fromUtf8 text = some bytes := by
  induction h generalizing i with
  | nil => cases hi
  | cons hm hr hbytes _ ih =>
    cases i with
    | zero =>
      cases hi
      exact ⟨hm, _, _, hr, hbytes⟩
    | succ i =>
      rw [← Nat.add_assoc, Nat.add_right_comm]
      exact ih hi

theorem Given.replies {texts : List Bytes} (h : Given t answers msgs n texts) :
    t.replies answers msgs n = texts.map some := by
  induction h with
  | nil => rfl
  | cons hm hr hbytes _ ih => rw [Texts.replies, if_pos hm, hr, ih, Texts.typed, hbytes, List.map_cons]

theorem Given.promptsOnly {texts : List Bytes} (h : Given t answers msgs 0 texts) : PromptsOnly t answers msgs := by
  intro i m hi _
  obtain ⟨hm, text, bytes, hr, hbytes⟩ := h.get hi
  rw [Nat.zero_add] at hr
  refine ⟨hm, fun text' hr' => ?_⟩
  cases hr.symm.trans hr'
  rw [hbytes]
  rfl

theorem contract_given {texts : List Bytes} (h : Given t answers msgs 0 texts) :
    Contract t answers msgs Pam.success (.array (texts.map some)) (exchanges t answers msgs 0) := by
  have hex := exchanges_given h
  refine ⟨⟨fun hret => absurd hret (by decide), fun hc => absurd hc hex.responses⟩, fun _ => ⟨rfl, hex.shown⟩,
    fun hc => absurd hc hex.responses, fun _ => ⟨by rw [h.replies], hex.freed, hex.freeReply⟩,
    fun hret => absurd rfl hret, ?_⟩
  rw [hex.freedUtf8s, hex.newUtf8s]
  exact ⟨rfl, List.nodup_range'⟩

/- A cancelled prompt, after messages that all got their replies. -/
theorem contract_cancelled {texts : List Bytes} (h : Given t answers pre 0 texts) (hm : m.isPrompt) :
    Contract t answers (pre ++ m :: rest) Pam.convErr .null
      (exchanges t answers pre 0 ++ stopped t m pre.length .cancel texts) := by
  have hex := exchanges_given h
  have hstop : t.reply m .cancel = none := if_pos hm
  have hlast : .cancel ∈ responses (exchanges t answers pre 0 ++ stopped t m pre.length .cancel texts) := by
    rw [responses_append, responses_stopped, if_pos hm]
    exact List.mem_append_right _ (List.mem_singleton_self _)
  obtain ⟨hnew, hold⟩ := utf8s_stopped hstop pre.length texts
  refine ⟨⟨fun _ => hlast, fun _ => rfl⟩, fun hc => absurd hlast hc, fun _ => ?_,
    fun hret => absurd hret (by decide), fun _ => ⟨rfl, ?_, ?_, ?_⟩, ?_⟩
  · refine ⟨pre.length, m,
      exchanges t answers pre 0 ++ [.newUtf8 pre.length, .enablePrompt (t.message m) (m.style = .promptEchoOn)],
      .disablePrompt :: (freeResps 0 (texts.map some ++ [none]) ++ [.freeReply, .freeUtf8 pre.length]),
      by simp, hm, by simp [stopped, Texts.handling, hm], ?_, ?_⟩
    · have htake : (pre ++ m :: rest).take (pre.length + 1) = pre ++ [m] := by
        rw [← List.singleton_append, ← List.append_assoc]
        exact List.take_left' (by rw [List.length_append, List.length_singleton])
      have hpresented : t.presented m = .prompt (t.message m) (m.style = .promptEchoOn) := if_pos hm
      rw [htake, List.map_append, shown_append, hex.shown, List.map_singleton, hpresented]
      rfl
    · rw [← List.singleton_append, shown_append, shown_append]
      have hresps := freeResps_silent (f := showing) (fun _ _ => rfl) 0 (texts.map some ++ [none])
      rw [shown, shown, hresps]
      rfl
  · rw [freed_append, allocated_append, hex.freed, hex.allocated, freed_stopped hstop, allocated_stopped hstop,
      h.length_eq, List.nil_append, List.append_nil]
  · rw [allocated_append, hex.allocated, allocated_stopped hstop, List.append_nil]
    exact List.nodup_range'
  · rw [List.count_append, List.count_eq_zero_of_not_mem hex.freeReply, count_stopped hstop]
  · rw [freedUtf8s_append, newUtf8s_append, hex.freedUtf8s, hex.newUtf8s, hnew, hold]
    refine ⟨rfl, ?_⟩
    have hconcat := @List.range'_1_concat 0 pre.length
    rw [Nat.zero_add] at hconcat
    rw [← hconcat]
    exact List.nodup_range'

/- Where it ends at a message, that decides. -/
theorem promptsOnly_append {texts : List Bytes} (h : Given t answers pre 0 texts)
    (hstop : t.reply m (answers pre.length) = none) :
    PromptsOnly t answers (pre ++ m :: rest) ↔ m.isPrompt ∧ answers pre.length = .cancel := by
  have htyped : ∀ j < pre.length, answers j ≠ .cancel := by
    intro j hj
    obtain ⟨_, text, bytes, hr, _⟩ := h.get (List.getElem?_eq_getElem hj)
    rw [Nat.zero_add] at hr
    rw [hr]
    nofun
  constructor
  · intro hprompts
    obtain ⟨hm, htext⟩ := hprompts pre.length m (by simp) htyped
    refine ⟨hm, ?_⟩
    cases hr : answers pre.length with
    | cancel => rfl
    | ok text =>
      rw [Texts.reply, if_pos hm, hr, Texts.typed] at hstop
      have hsome := htext text hr
      rw [hstop] at hsome
      cases hsome
  · rintro ⟨hm, hcancel⟩ i m' hi hbefore
    obtain hlt | rfl | hgt := Nat.lt_trichotomy i pre.length
    · rw [List.getElem?_append_left hlt] at hi
      exact h.promptsOnly i m' hi hbefore
    · rw [List.getElem?_append_right (Nat.le_refl _), Nat.sub_self] at hi
      cases hi
      exact ⟨hm, fun text hr => by rw [hcancel] at hr; cases hr⟩
    · exact absurd hcancel (hbefore _ hgt)

/-- The contract is kept if and only if there is memory and no message that is only
shown comes before the first cancelled prompt, nor an answer that cannot be converted. -/
theorem contract_iff (t : Texts) (ok : Bool) (answers : ℕ → PlugResponse) (msgs : List Message) :
    Contract t answers msgs (pamConversation t answers ok msgs).1 (pamConversation t answers ok msgs).2.1
      (pamConversation t answers ok msgs).2.2.log ↔ ok = true ∧ PromptsOnly t answers msgs := by
  cases ok with
  | false =>
    refine ⟨fun hc => ?_, fun h => absurd h.1 (by decide)⟩
    exact absurd (hc.verdict.1 rfl) List.not_mem_nil
  | true =>
    rw [eq_self_iff_true, true_and]
    obtain ⟨texts, hgiven, heq⟩ | ⟨pre, m, rest, texts, rfl, hgiven, hstop, heq⟩ := pamConversation_ends t answers msgs
    · rw [heq]
      exact ⟨fun _ => hgiven.promptsOnly, fun _ => contract_given hgiven⟩
    · rw [heq, promptsOnly_append hgiven hstop]
      constructor
      · intro hc
        have hcancel := hc.verdict.1 rfl
        rw [responses_append, responses_stopped] at hcancel
        obtain hcancel | hcancel := List.mem_append.1 hcancel
        · exact absurd hcancel (exchanges_given hgiven).responses
        · split at hcancel
          · next hm => exact ⟨hm, (List.mem_singleton.1 hcancel).symm⟩
          · exact absurd hcancel List.not_mem_nil
      · rintro ⟨hm, hcancel⟩
        rw [hcancel]
        exact contract_cancelled hgiven hm

/- A notice of the stack, and nothing to be answered. -/
def notice : Message := { msgStyle := Pam.textInfo, msg := [72, 105] }

theorem notice_interrupts : ¬ ∀ t answers msgs, Contract t answers msgs (pamConversation t answers true msgs).1
    (pamConversation t answers true msgs).2.1 (pamConversation t answers true msgs).2.2.log := by
  intro h
  have hverdict := (h ⟨id, id, some⟩ (fun _ => .cancel) [notice]).verdict
  exact absurd hverdict (by decide)

end MateScreensaver.InProcess
