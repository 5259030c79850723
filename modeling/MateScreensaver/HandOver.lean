import MateScreensaver.AuthMessage
import MateScreensaver.Lib.Runs

/-!
The hand-over of a message from the PAM thread to the main loop and back
(gs-auth-pam.c:161..234): one mutex, one condition, one idle source a message.
-/

namespace MateScreensaver
open Runs System

/- Where the PAM thread is in gs_auth_run_message_handler, with the number of its call. -/
inductive PamPlace
  | out
  | entered (i : Nat)
  | locked (i : Nat)
  | queued (i : Nat)
  | waiting (i : Nat)
  | holding (i : Nat)
  | leaving (i : Nat)
deriving DecidableEq, Repr

/- Where an activation of gs_auth_queued_message_handler is. -/
inductive HandlerPlace
  | entered
  | locked
  | calling
  | answered
  | signalled
deriving DecidableEq, Repr

inductive MutexOwner
  | pam
  | gui
deriving DecidableEq, Repr

/-- Both threads with what they share. A request is known by the number of its
call; the histories list the calls of cb_func that began, the ones that ended and
the results of gs_auth_run_message_handler. -/
structure HandOver where
  pam : PamPlace := .out
  handlers : List (Nat × HandlerPlace) := []
  mutex : Option MutexOwner := none
  signalled : Bool := false
  idle : List Nat := []
  shouldInterruptStack : Nat → Bool := fun _ => true
  messages : List (GSAuthMessageStyle × Bytes) := []
  handed : List Nat := []
  answered : List (Nat × Bool) := []
  returned : List (Nat × Bool) := []

inductive HandOverEvent
  | runMessageHandler (message : GSAuthMessageStyle × Bytes)
  | lock
  | idleAdd
  | condWait
  | condWaitReturns
  | unlock
  | returns
  | dispatch
  | handlerLock
  | cbFunc
  | cbFuncReturns (res : Bool)
  | condSignal
  | handlerUnlock
deriving DecidableEq

namespace HandOver

/- The main loop runs when no handler does, and inside cb_func. -/
def loopRuns (s : HandOver) : Bool :=
  match s.handlers with
  | [] => true
  | (_, p) :: _ => p = .calling

/-- One step of either thread. g_cond_wait lets go of the mutex, and needs only the
mutex to return; a signal is lost on nobody, and remembered for the one who waits. -/
def next (s : HandOver) : HandOverEvent → Option HandOver
  | .runMessageHandler m =>
    match s.pam with
    | .out =>
      let i := s.messages.length
      some { s with pam := .entered i, messages := s.messages ++ [m],
                    shouldInterruptStack := Function.update s.shouldInterruptStack i true }
    | _ => none
  | .lock =>
    match s.pam, s.mutex with
    | .entered i, none => some { s with pam := .locked i, mutex := some .pam }
    | _, _ => none
  | .idleAdd =>
    match s.pam with
    | .locked i => some { s with pam := .queued i, idle := s.idle ++ [i] }
    | _ => none
  | .condWait =>
    match s.pam with
    | .queued i => some { s with pam := .waiting i, mutex := none, signalled := false }
    | _ => none
  | .condWaitReturns =>
    match s.pam, s.mutex with
    | .waiting i, none => some { s with pam := .holding i, mutex := some .pam }
    | _, _ => none
  | .unlock =>
    match s.pam with
    | .holding i => some { s with pam := .leaving i, mutex := none }
    | _ => none
  | .returns =>
    match s.pam with
    | .leaving i => some { s with pam := .out, returned := s.returned ++ [(i, !s.shouldInterruptStack i)] }
    | _ => none
  | .dispatch =>
    match s.loopRuns, s.idle with
    | true, i :: rest => some { s with idle := rest, handlers := (i, .entered) :: s.handlers }
    | _, _ => none
  | .handlerLock =>
    match s.handlers, s.mutex with
    | (i, .entered) :: rest, none => some { s with handlers := (i, .locked) :: rest, mutex := some .gui }
    | _, _ => none
  | .cbFunc =>
    match s.handlers with
    | (i, .locked) :: rest => some { s with handlers := (i, .calling) :: rest, handed := s.handed ++ [i] }
    | _ => none
  | .cbFuncReturns res =>
    match s.handlers with
    | (i, .calling) :: rest =>
      some { s with handlers := (i, .answered) :: rest, answered := s.answered ++ [(i, res)],
                    shouldInterruptStack := Function.update s.shouldInterruptStack i (!res) }
    | _ => none
  | .condSignal =>
    match s.handlers with
    | (i, .answered) :: rest => some { s with handlers := (i, .signalled) :: rest, signalled := true }
    | _ => none
  | .handlerUnlock =>
    match s.handlers with
    | (_, .signalled) :: rest => some { s with handlers := rest, mutex := none }
    | _ => none

/- The call that is under way in the PAM thread, whose request is on its stack. -/
def current (s : HandOver) : Option Nat :=
  match s.pam with
  | .out => none
  | .entered i | .locked i | .queued i | .waiting i | .holding i | .leaving i => some i

end HandOver

def handOver : System HandOver HandOverEvent := ⟨fun s => s = {}, HandOver.next⟩

namespace HandOver

variable {s t : HandOver} {e : HandOverEvent}

/-- What the two threads owe each other. -/
structure HandedOver (s : HandOver) : Prop where
  once : s.handed.Nodup
  finished : ∀ i b, (i, b) ∈ s.returned → i ∈ s.handed ∧ (i, b) ∈ s.answered
  single : ∀ i b b', (i, b) ∈ s.answered → (i, b') ∈ s.answered → b = b'
  alive : ∀ x ∈ s.handlers, s.current = some x.1

/-! ### One request at a time -/

/-- The places both threads can be in together: how many calls have begun, how many
were handed to cb_func, answered by it, and returned. -/
inductive Places : PamPlace → List (Nat × HandlerPlace) → Option MutexOwner → Bool → List Nat →
    (calls handed answered returned : Nat) → Prop
  | out (n sig) : Places .out [] none sig [] n n n n
  | entered (i sig) : Places (.entered i) [] none sig [] (i + 1) i i i
  | locked (i sig) : Places (.locked i) [] (some .pam) sig [] (i + 1) i i i
  | queued (i sig) : Places (.queued i) [] (some .pam) sig [i] (i + 1) i i i
  | early (i sig) : Places (.queued i) [(i, .entered)] (some .pam) sig [] (i + 1) i i i
  | pending (i) : Places (.waiting i) [] none false [i] (i + 1) i i i
  | dispatched (i) : Places (.waiting i) [(i, .entered)] none false [] (i + 1) i i i
  | handlerLocked (i) : Places (.waiting i) [(i, .locked)] (some .gui) false [] (i + 1) i i i
  | calling (i) : Places (.waiting i) [(i, .calling)] (some .gui) false [] (i + 1) (i + 1) i i
  | answered (i) : Places (.waiting i) [(i, .answered)] (some .gui) false [] (i + 1) (i + 1) (i + 1) i
  | signalled (i) : Places (.waiting i) [(i, .signalled)] (some .gui) true [] (i + 1) (i + 1) (i + 1) i
  | finished (i) : Places (.waiting i) [] none true [] (i + 1) (i + 1) (i + 1) i
  | holding (i sig) : Places (.holding i) [] (some .pam) sig [] (i + 1) (i + 1) (i + 1) i
  | leaving (i sig) : Places (.leaving i) [] none sig [] (i + 1) (i + 1) (i + 1) i

theorem Places.answered_le {pam : PamPlace} {handlers : List (Nat × HandlerPlace)} {mutex : Option MutexOwner}
    {signalled : Bool} {idle : List Nat} {calls handed answered returned : Nat}
    (h : Places pam handlers mutex signalled idle calls handed answered returned) : answered ≤ handed := by
  cases h with
  | calling => exact Nat.le_succ _
  | _ => exact Nat.le_refl _

/-- The histories, by how far each has come. -/
structure Books (s : HandOver) (calls handed answered returned : Nat) : Prop where
  messages : s.messages.length = calls
  handed : s.handed = List.range handed
  answered : s.answered.map Prod.fst = List.range answered
  returned : s.returned = s.answered.take returned
  interrupt : ∀ x ∈ s.answered, s.shouldInterruptStack x.1 = !x.2

def Orderly (s : HandOver) : Prop := ∃ calls handed answered returned,
  Places s.pam s.handlers s.mutex s.signalled s.idle calls handed answered returned ∧
    s.Books calls handed answered returned

/- g_cond_wait returns after a signal only. -/
def Prompted (s : HandOver) (e : HandOverEvent) : Prop := e = .condWaitReturns → s.signalled = true

theorem Books.begin {m : GSAuthMessageStyle × Bytes} {pam : PamPlace} {n : Nat} (h : s.Books n n n n) :
    Books { s with pam := pam, messages := s.messages ++ [m],
                   shouldInterruptStack := Function.update s.shouldInterruptStack s.messages.length true }
      (n + 1) n n n where
  messages := by simp [h.messages]
  handed := h.handed
  answered := h.answered
  returned := h.returned
  interrupt := by
    rintro ⟨j, b⟩ hx
    have hj : j < n := by
      rw [← List.mem_range, ← h.answered]
      exact List.mem_map_of_mem hx
    have hne : j ≠ s.messages.length := by
      have hlength := h.messages
      omega
    show Function.update s.shouldInterruptStack s.messages.length true j = !b
    rw [Function.update_of_ne hne]
    exact h.interrupt (j, b) hx

theorem Books.hand {handlers : List (Nat × HandlerPlace)} {i : Nat} (h : s.Books (i + 1) i i i) :
    Books { s with handlers := handlers, handed := s.handed ++ [i] } (i + 1) (i + 1) i i where
  messages := h.messages
  handed := by rw [List.range_succ, ← h.handed]
  answered := h.answered
  returned := h.returned
  interrupt := h.interrupt

theorem Books.answered_length {calls handed answered returned : Nat} (h : s.Books calls handed answered returned) :
    s.answered.length = answered := by
  rw [← List.length_map, h.answered, List.length_range]

theorem Books.answer {handlers : List (Nat × HandlerPlace)} {i : Nat} (res : Bool)
    (h : s.Books (i + 1) (i + 1) i i) :
    Books { s with handlers := handlers, answered := s.answered ++ [(i, res)],
                   shouldInterruptStack := Function.update s.shouldInterruptStack i (!res) }
      (i + 1) (i + 1) (i + 1) i where
  messages := h.messages
  handed := h.handed
  answered := by rw [List.map_append, h.answered, List.range_succ]; rfl
  returned := by
    have hlength := h.answered_length
    rw [List.take_append_of_le_length (Nat.le_of_eq hlength.symm)]
    exact h.returned
  interrupt := by
    intro x hx
    show Function.update s.shouldInterruptStack i (!res) x.1 = !x.2
    obtain hx | hx := List.mem_append.1 hx
    · have hlt : x.1 < i := by
        rw [← List.mem_range, ← h.answered]
        exact List.mem_map_of_mem hx
      rw [Function.update_of_ne (Nat.ne_of_lt hlt)]
      exact h.interrupt x hx
    · obtain rfl := List.mem_singleton.1 hx
      exact Function.update_self _ _ _

theorem Books.return {pam : PamPlace} {i : Nat} (h : s.Books (i + 1) (i + 1) (i + 1) i) :
    Books { s with pam := pam, returned := s.returned ++ [(i, !s.shouldInterruptStack i)] }
      (i + 1) (i + 1) (i + 1) (i + 1) where
  messages := h.messages
  handed := h.handed
  answered := h.answered
  returned := by
    have hlength := h.answered_length
    have hi : i < s.answered.length := by omega
    have hkey : s.answered[i].1 = i := by
      have hget : (s.answered.map Prod.fst)[i]? = (List.range (i + 1))[i]? := by rw [h.answered]
      simpa [hi] using hget
    have hlast : (i, !s.shouldInterruptStack i) = s.answered[i] := by
      have hflag := h.interrupt s.answered[i] (List.getElem_mem hi)
      rw [hkey] at hflag
      rw [hflag, Bool.not_not]
      exact Prod.ext hkey.symm rfl
    show s.returned ++ [_] = s.answered.take (i + 1)
    rw [h.returned, List.take_succ_eq_append_getElem hi, hlast]
  interrupt := h.interrupt

theorem Orderly.handedOver (h : s.Orderly) : s.HandedOver := by
  obtain ⟨calls, handed, answered, returned, hplaces, hbooks⟩ := h
  have hle := hplaces.answered_le
  refine ⟨?_, fun i b hm => ?_, fun i b b' hb hb' => ?_, ?_⟩
  · rw [hbooks.handed]
    exact List.nodup_range
  · rw [hbooks.returned] at hm
    have hanswered : (i, b) ∈ s.answered := List.mem_of_mem_take hm
    have hi : i ∈ List.range answered := by
      rw [← hbooks.answered]
      exact List.mem_map_of_mem hanswered
    have hlt : i < answered := List.mem_range.1 hi
    refine ⟨?_, hanswered⟩
    rw [hbooks.handed, List.mem_range]
    omega
  · have hsame := (hbooks.interrupt (i, b) hb).symm.trans (hbooks.interrupt (i, b') hb')
    exact Bool.not_inj hsame
  · obtain ⟨pam, handlers, mutex, signalled, idle⟩ := s
    cases hplaces with
    | out | entered | locked | queued | pending | finished | holding | leaving =>
      exact fun x hx => absurd hx List.not_mem_nil
    | early | dispatched | handlerLocked | calling | answered | signalled =>
      intro x hx
      obtain rfl := List.mem_singleton.1 hx
      rfl

/- Nothing in the books changes when only places do. -/
theorem Books.moved {u : HandOver} {calls handed answered returned : Nat} (h : s.Books calls handed answered returned)
    (hm : u.messages = s.messages) (hh : u.handed = s.handed) (ha : u.answered = s.answered)
    (hr : u.returned = s.returned) (hi : u.shouldInterruptStack = s.shouldInterruptStack) :
    u.Books calls handed answered returned where
  messages := by rw [hm, h.messages]
  handed := by rw [hh, h.handed]
  answered := by rw [ha, h.answered]
  returned := by rw [hr, ha, h.returned]
  interrupt := by rw [hi, ha]; exact h.interrupt

/-- One step of either thread, when no wait ends without a signal. -/
theorem Orderly.step (h : s.Orderly) (hn : s.next e = some t) (hp : s.Prompted e) : t.Orderly := by
  obtain ⟨calls, handed, answered, returned, hplaces, hbooks⟩ := h
  obtain ⟨pam, handlers, mutex, signalled, idle, flags, messages, handedLog, answeredLog, returnedLog⟩ := s
  cases hplaces with
  | out =>
    cases e with
    | runMessageHandler m =>
      cases hn
      have hlength : messages.length = calls := hbooks.messages
      exact ⟨_, _, _, _, hlength ▸ .entered _ _, hbooks.begin⟩
    | _ => cases hn
  | entered =>
    cases e with
    | lock => cases hn; exact ⟨_, _, _, _, .locked _ _, hbooks.moved rfl rfl rfl rfl rfl⟩
    | _ => cases hn
  | locked =>
    cases e with
    | idleAdd => cases hn; exact ⟨_, _, _, _, .queued _ _, hbooks.moved rfl rfl rfl rfl rfl⟩
    | _ => cases hn
  | queued =>
    cases e with
    | condWait => cases hn; exact ⟨_, _, _, _, .pending _, hbooks.moved rfl rfl rfl rfl rfl⟩
    -- the source may be dispatched before the thread waits, and then finds the mutex taken
    | dispatch => cases hn; exact ⟨_, _, _, _, .early _ _, hbooks.moved rfl rfl rfl rfl rfl⟩
    | _ => cases hn
  | early =>
    cases e with
    | condWait => cases hn; exact ⟨_, _, _, _, .dispatched _, hbooks.moved rfl rfl rfl rfl rfl⟩
    | _ => cases hn
  | pending =>
    cases e with
    | condWaitReturns => exact absurd (hp rfl) Bool.false_ne_true
    | dispatch => cases hn; exact ⟨_, _, _, _, .dispatched _, hbooks.moved rfl rfl rfl rfl rfl⟩
    | _ => cases hn
  | dispatched =>
    cases e with
    | condWaitReturns => exact absurd (hp rfl) Bool.false_ne_true
    | handlerLock => cases hn; exact ⟨_, _, _, _, .handlerLocked _, hbooks.moved rfl rfl rfl rfl rfl⟩
    | _ => cases hn
  | handlerLocked =>
    cases e with
    | cbFunc => cases hn; exact ⟨_, _, _, _, .calling _, hbooks.hand⟩
    | _ => cases hn
  | calling =>
    cases e with
    | cbFuncReturns res => cases hn; exact ⟨_, _, _, _, .answered _, hbooks.answer res⟩
    | _ => cases hn
  | answered =>
    cases e with
    | condSignal => cases hn; exact ⟨_, _, _, _, .signalled _, hbooks.moved rfl rfl rfl rfl rfl⟩
    | _ => cases hn
  | signalled =>
    cases e with
    | handlerUnlock => cases hn; exact ⟨_, _, _, _, .finished _, hbooks.moved rfl rfl rfl rfl rfl⟩
    | _ => cases hn
  | finished =>
    cases e with
    | condWaitReturns => cases hn; exact ⟨_, _, _, _, .holding _ _, hbooks.moved rfl rfl rfl rfl rfl⟩
    | _ => cases hn
  | holding =>
    cases e with
    | unlock => cases hn; exact ⟨_, _, _, _, .leaving _ _, hbooks.moved rfl rfl rfl rfl rfl⟩
    | _ => cases hn
  | leaving =>
    cases e with
    | returns => cases hn; exact ⟨_, _, _, _, .out _ _, hbooks.return⟩
    | _ => cases hn

/- In a run in which g_cond_wait never returns without a signal, every message is
handed over as it should be. -/
theorem handed_over {es : List HandOverEvent} (hp : handOver.Meets Prompted {} es) :
    handOver.Always HandedOver {} es := by
  have hbooks : Books {} 0 0 0 0 := ⟨rfl, rfl, rfl, rfl, fun x hx => absurd hx List.not_mem_nil⟩
  have hstart : Orderly {} := ⟨0, 0, 0, 0, .out 0 false, hbooks⟩
  exact always_of_meets (I := Orderly) (fun s h => h.handedOver) (fun s e t h hn hc => h.step hn hc) hstart hp

/- A message up to the wait, and what follows a wake-up of g_cond_wait. -/
def asked : List HandOverEvent := [.runMessageHandler (.promptEchoOff, []), .lock, .idleAdd, .condWait]
def wokenUp : List HandOverEvent := [.condWaitReturns, .unlock, .returns]

def answeredInTime : List HandOverEvent :=
  asked ++ [.dispatch, .handlerLock, .cbFunc, .cbFuncReturns true, .condSignal, .handlerUnlock] ++ wokenUp

theorem handed_over_in_time : handOver.Always HandedOver {} answeredInTime := by
  apply handed_over
  iterate 13
    intro s hs
    cases hs
    refine ⟨fun he => (by cases he <;> rfl), ?_⟩
  trivial

/- The wait ends before the main loop has dispatched the source. -/
theorem spurious_return : ¬ ∀ s, handOver.Reachable s → s.HandedOver := by
  intro h
  let s := (handOver.run {} (asked ++ wokenUp)).get rfl
  have hs := h s (reachable_run (.start rfl) (Option.some_get _).symm)
  have hanswer := (hs.finished 0 false (List.mem_singleton_self _)).2
  cases hanswer

end HandOver

end MateScreensaver
