import Mathlib.Data.List.Perm.Basic
import MateScreensaver.LockPlugTimers

/-!
The keys of the lock plug over whole runs: each one that is typed comes to the entry once, in the
order in which they were typed as long as none overtakes those that wait, and the answers of the
user are made of them.
-/

namespace MateScreensaver
open Runs System

namespace LockPlug

/- The keys that an answer can have. -/
def text (keys : List PlugKey) : List PlugKey := keys.filter fun k => !k.isReturn

/- What has been typed is in the entry's history or still waits, and in that order. -/
def Ordered (p : LockPlug) : Prop := p.received ++ p.keyEvents.reverse = p.typed

/-- Nothing typed is lost or doubled, and the entry and the answers have keys in a row. -/
structure Keys (p : LockPlug) : Prop where
  all : (p.received ++ p.keyEvents).Perm p.typed
  entry : p.entry <:+ text p.received
  answers : ∀ keys, some keys ∈ p.answers → keys <:+: text p.received

/- The three histories, which most operations leave as they are. -/
def history (p : LockPlug) : List PlugKey × List PlugKey × List PlugKey × List (Option (List PlugKey)) :=
  (p.typed, p.received, p.keyEvents, p.answers)

variable {p p' : LockPlug} {k : PlugKey}

@[simp] theorem history_removeCancelTimeout : p.removeCancelTimeout.history = p.history := by
  rw [removeCancelTimeout]
  split <;> rfl

@[simp] theorem history_removeResponseIdle : p.removeResponseIdle.history = p.history := by
  rw [removeResponseIdle]
  split <;> rfl

@[simp] theorem history_restartCancelTimeout : p.restartCancelTimeout.history = p.history :=
  history_removeCancelTimeout (p := p)

theorem history_dialogTimedOut : p.dialogTimedOut.history = p.history :=
  history_removeResponseIdle (p := { p with fired := p.fired + 1, entrySensitive := false, areaSensitive := false })

theorem entry_removeCancelTimeout : p.removeCancelTimeout.entry = p.entry := by
  rw [removeCancelTimeout]
  split <;> rfl

theorem entry_removeResponseIdle : p.removeResponseIdle.entry = p.entry := by
  rw [removeResponseIdle]
  split <;> rfl

theorem entrySensitive_removeCancelTimeout : p.removeCancelTimeout.entrySensitive = p.entrySensitive := by
  rw [removeCancelTimeout]
  split <;> rfl

theorem entrySensitive_removeResponseIdle : p.removeResponseIdle.entrySensitive = p.entrySensitive := by
  rw [removeResponseIdle]
  split <;> rfl

/- An entry may lose what it has, but get nothing. -/
theorem Keys.congr (h : p.Keys) (hhistory : p'.history = p.history) (hentry : p'.entry = [] ∨ p'.entry = p.entry) : p'.Keys := by
  obtain ⟨htyped, hreceived, hqueue, hanswers⟩ : p'.typed = p.typed ∧ p'.received = p.received ∧
      p'.keyEvents = p.keyEvents ∧ p'.answers = p.answers := by
    simpa [history] using hhistory
  constructor
  · rw [htyped, hreceived, hqueue]
    exact h.all
  · rw [hreceived]
    cases hentry with
    | inl hentry =>
      rw [hentry]
      exact List.nil_suffix
    | inr hentry =>
      rw [hentry]
      exact h.entry
  · rw [hreceived, hanswers]
    exact h.answers

theorem Ordered.congr (h : p.Ordered) (hhistory : p'.history = p.history) : p'.Ordered := by
  obtain ⟨htyped, hreceived, hqueue, -⟩ : p'.typed = p.typed ∧ p'.received = p.received ∧
      p'.keyEvents = p.keyEvents ∧ p'.answers = p.answers := by
    simpa [history] using hhistory
  rw [Ordered, htyped, hreceived, hqueue]
  exact h

end LockPlug

namespace PlugProcess
open LockPlug

variable {x x' : PlugProcess} {r : PlugResponse} {k : PlugKey} {ks : List PlugKey}

theorem history_response : (x.response r).plug.history = x.plug.history := by
  have hremoved : x.plug.removeCancelTimeout.removeResponseIdle.history = x.plug.history :=
    history_removeResponseIdle.trans history_removeCancelTimeout
  cases r with
  | ok => exact hremoved
  | cancel => exact hremoved
  | deleteEvent => rfl

theorem entry_response : (x.response r).plug.entry = [] ∨ (x.response r).plug.entry = x.plug.entry := by
  cases r with
  | ok => exact .inr (entry_removeResponseIdle.trans entry_removeCancelTimeout)
  | cancel => exact .inl rfl
  | deleteEvent => exact .inr rfl

theorem history_activateDefault : x.activateDefault.plug.history = x.plug.history := by
  rcases activateDefault_cases x with heq | heq | heq
  · rw [heq]
  · rw [heq, history_response]
  · rw [heq, history_response]

/- The entry gets the key and the rest of the histories stays. -/
theorem history_deliver :
    (x.deliver k).plug.history = (x.plug.typed, x.plug.received ++ [k], x.plug.keyEvents, x.plug.answers) := by
  rw [deliver]
  split
  · rw [history_activateDefault]
    rfl
  · rfl

theorem history_forward :
    (x.forward ks).plug.history = (x.plug.typed, x.plug.received ++ ks, [], x.plug.answers) := by
  induction ks generalizing x with
  | nil =>
    rw [List.append_nil]
    rfl
  | cons k ks ih =>
    have hdeliver := history_deliver (x := x) (k := k)
    simp only [history, Prod.mk.injEq] at hdeliver
    obtain ⟨htyped, hreceived, -, hanswers⟩ := hdeliver
    rw [forward, ih, htyped, hreceived, hanswers, List.append_assoc]
    rfl

theorem history_widgetShow {id : UInt32} : (x.widgetShow id).plug.history = x.plug.history := by
  rw [widgetShow]
  split
  · rfl
  · exact history_removeCancelTimeout (p := { x.plug with visible := true })

theorem entry_widgetShow {id : UInt32} : (x.widgetShow id).plug.entry = x.plug.entry := by
  rw [widgetShow]
  split
  · rfl
  · exact entry_removeCancelTimeout (p := { x.plug with visible := true })

/- The plug as it is when the keys are forwarded. -/
def enabled (x : PlugProcess) : PlugProcess :=
  (x.onPlug fun p => p.active.setSensitive true).onPlug fun p =>
    { p with unlockSensitive := true, defaultWidget := .unlockButton, entrySensitive := true }

theorem requestResponse_eq (x : PlugProcess) :
    x.requestResponse.plug =
      { (x.enabled.forward x.plug.keyEvents.reverse).plug.restartCancelTimeout with runInfo := some {} } := rfl

theorem history_requestResponse :
    x.requestResponse.plug.history = (x.plug.typed, x.plug.received ++ x.plug.keyEvents.reverse, [], x.plug.answers) := by
  rw [requestResponse_eq]
  exact history_restartCancelTimeout.trans (history_forward (x := x.enabled))

theorem ordered_of_history {typed received queue answers} {p : LockPlug}
    (hhistory : p.history = (typed, received, queue, answers)) : p.Ordered ↔ received ++ queue.reverse = typed := by
  simp only [history, Prod.mk.injEq] at hhistory
  obtain ⟨rfl, rfl, rfl, rfl⟩ := hhistory
  exact Iff.rfl

/- The plug once somebody is heard of, and with a key that was typed for the entry. -/
def restarted (x : PlugProcess) : PlugProcess := x.onPlug fun p => p.active.restartCancelTimeout

def typing (k : PlugKey) (x : PlugProcess) : PlugProcess := x.restarted.onPlug fun p => { p with typed := p.typed ++ [k] }

theorem history_restarted : x.restarted.plug.history = x.plug.history :=
  history_removeCancelTimeout (p := x.plug.active)

theorem entrySensitive_restarted : x.restarted.plug.entrySensitive = x.plug.entrySensitive :=
  entrySensitive_removeCancelTimeout (p := x.plug.active)

/- A key at an entry that takes it goes straight to it. -/
theorem entryKeyPress_sensitive (h : x.plug.entrySensitive = true) :
    x.entryKeyPress k = if k.isEscape then ((x.typing k).deliver k).response .cancel else (x.typing k).deliver k :=
  if_pos (entrySensitive_restarted.trans h)

/- A key at one that does not is left alone or waits. -/
theorem entryKeyPress_queued (h : x.plug.entrySensitive = false) :
    x.entryKeyPress k = if k.string = [] then x.restarted else x.restarted.onPlug (LockPlug.queueKeyEvent k) := by
  have hs : ¬ x.restarted.plug.entrySensitive = true := by
    rw [entrySensitive_restarted, h]
    decide
  exact if_neg hs

theorem history_typing :
    (x.typing k).plug.history = (x.plug.typed ++ [k], x.plug.received, x.plug.keyEvents, x.plug.answers) := by
  have hold := history_restarted (x := x)
  simp only [history, Prod.mk.injEq] at hold
  obtain ⟨htyped, hreceived, hqueue, hanswers⟩ := hold
  exact Prod.ext (congrArg (· ++ [k]) htyped) (Prod.ext hreceived (Prod.ext hqueue hanswers))

theorem history_entryKeyPress_sensitive (h : x.plug.entrySensitive = true) :
    (x.entryKeyPress k).plug.history =
      (x.plug.typed ++ [k], x.plug.received ++ [k], x.plug.keyEvents, x.plug.answers) := by
  have hold := history_typing (k := k) (x := x)
  simp only [history, Prod.mk.injEq] at hold
  obtain ⟨htyped, hreceived, hqueue, hanswers⟩ := hold
  have hkey : ((x.typing k).deliver k).plug.history =
      (x.plug.typed ++ [k], x.plug.received ++ [k], x.plug.keyEvents, x.plug.answers) := by
    rw [history_deliver, htyped, hreceived, hqueue, hanswers]
  rw [entryKeyPress_sensitive h]
  split
  · rw [history_response, hkey]
  · exact hkey

theorem history_entryKeyPress_queued (h : x.plug.entrySensitive = false) :
    (x.entryKeyPress k).plug.history =
      if k.string = [] then x.plug.history
      else (x.plug.typed ++ [k], x.plug.received, k :: x.plug.keyEvents, x.plug.answers) := by
  have hold := history_restarted (x := x)
  rw [entryKeyPress_queued h]
  split
  · exact hold
  · simp only [history, Prod.mk.injEq] at hold
    obtain ⟨htyped, hreceived, hqueue, hanswers⟩ := hold
    exact Prod.ext (congrArg (· ++ [k]) htyped) (Prod.ext hreceived (Prod.ext (congrArg (k :: ·) hqueue) hanswers))

/- The steps that only a key or a prompt can be. -/
theorem history_next {e : PlugEvent} (hn : x.next e = some x') (hkey : ∀ k, e ≠ .keyPress k) (hprompt : ∀ id, e ≠ .prompt id)
    (hreturns : ∀ converts, e ≠ .runReturns converts) :
    x'.plug.history = x.plug.history ∧ (x'.plug.entry = [] ∨ x'.plug.entry = x.plug.entry) := by
  obtain ⟨-, hhandle⟩ := Option.ite_none_right_eq_some.1 hn
  cases e with
  | main e =>
    cases hhandle
    exact ⟨rfl, .inr rfl⟩
  | authCheckIdle =>
    cases hhandle
    exact ⟨rfl, .inr rfl⟩
  | prompt id => exact absurd rfl (hprompt id)
  | message id =>
    cases hhandle
    exact ⟨history_widgetShow, .inr entry_widgetShow⟩
  | runReturns converts => exact absurd rfl (hreturns converts)
  | verifyUserReturns res =>
    cases hhandle
    rw [verifyUserReturns]
    split
    · exact ⟨rfl, .inr rfl⟩
    · exact ⟨rfl, .inr rfl⟩
  | keyPress k => exact absurd rfl (hkey k)
  | unlockButtonClicked =>
    cases hhandle
    exact ⟨history_response, entry_response⟩
  | cancelButtonClicked =>
    cases hhandle
    exact ⟨history_response, entry_response⟩
  | submitNote =>
    cases hhandle
    exact ⟨history_response, entry_response⟩
  | deleteEvent =>
    cases hhandle
    exact ⟨history_response, entry_response⟩
  | switchUserButtonClicked =>
    cases hhandle
    exact ⟨history_removeResponseIdle (p := x.plug.active), .inr (entry_removeResponseIdle (p := x.plug.active))⟩
  | takeNote =>
    cases hhandle
    exact ⟨history_restarted, .inr (entry_removeCancelTimeout (p := x.plug.active))⟩
  | cancelNote =>
    cases hhandle
    exact ⟨history_restarted, .inr (entry_removeCancelTimeout (p := x.plug.active))⟩
  | unmap =>
    cases hhandle
    exact ⟨rfl, .inr rfl⟩
  | dispatch id =>
    obtain ⟨⟨s, c⟩, -, rfl⟩ := Option.map_eq_some_iff.1 hhandle
    cases hk : s.callback with
    | dialogTimedOut =>
      exact ⟨history_dialogTimedOut, .inr (entry_removeResponseIdle (p := { x.plug with
        context := c, fired := x.plug.fired + 1, entrySensitive := false, areaSensitive := false }))⟩
    | responseCancelIdleCb =>
      exact ⟨history_response (x := ⟨x.dialog, { x.plug with context := c, responseIdleId := 0 }⟩), .inl rfl⟩
    | resetIdleCb => exact ⟨rfl, .inr rfl⟩
  | passes time =>
    cases hhandle
    exact ⟨rfl, .inr rfl⟩

/- No key comes to the entry while another one waits. -/
def NotOvertaken (x : PlugProcess) : PlugEvent → Prop
  | .keyPress k => x.plug.entrySensitive = true → ∀ k' ∈ x.plug.keyEvents, k' = k
  | _ => True

theorem concat_eq_cons_iff {α : Type*} {a : α} {l : List α} : a :: l = l ++ [a] ↔ ∀ b ∈ l, b = a := by
  induction l with
  | nil => simp
  | cons b l ih =>
    rw [List.cons_append, List.cons.injEq, List.forall_mem_cons]
    constructor
    · intro ⟨hab, hl⟩
      exact ⟨hab.symm, ih.1 (hab ▸ hl)⟩
    · intro ⟨hba, hl⟩
      exact ⟨hba.symm, hba ▸ ih.2 hl⟩

theorem ordered_next_iff {e : PlugEvent} (h : x.plug.Ordered) (hn : x.next e = some x') : x'.plug.Ordered ↔ x.NotOvertaken e := by
  obtain ⟨-, hhandle⟩ := Option.ite_none_right_eq_some.1 hn
  by_cases hkey : ∃ k, e = .keyPress k
  · obtain ⟨k, rfl⟩ := hkey
    cases hhandle
    cases hs : x.plug.entrySensitive with
    | true =>
      have hnot : x.NotOvertaken (.keyPress k) ↔ ∀ k' ∈ x.plug.keyEvents.reverse, k' = k := by
        simp [NotOvertaken, hs]
      rw [hnot, ← concat_eq_cons_iff, ordered_of_history (history_entryKeyPress_sensitive hs), ← h, List.append_assoc,
        List.append_assoc, List.append_cancel_left_eq]
      rfl
    | false =>
      have hnot : x.NotOvertaken (.keyPress k) := fun htrue => absurd (hs.symm.trans htrue) (by decide)
      refine iff_of_true ?_ hnot
      have hhistory := history_entryKeyPress_queued (k := k) hs
      by_cases hstring : k.string = []
      · rw [if_pos hstring] at hhistory
        exact h.congr hhistory
      · rw [if_neg hstring] at hhistory
        rw [ordered_of_history hhistory, List.reverse_cons, ← List.append_assoc, h]
  · have hnot : x.NotOvertaken e := by
      cases e with
      | keyPress k => exact absurd ⟨k, rfl⟩ hkey
      | _ => trivial
    refine iff_of_true ?_ hnot
    by_cases hprompt : ∃ id, e = .prompt id
    · obtain ⟨id, rfl⟩ := hprompt
      cases hhandle
      have hshown : (x.widgetShow id).plug.Ordered := h.congr history_widgetShow
      rw [ordered_of_history history_requestResponse, List.reverse_nil, List.append_nil]
      exact hshown
    · by_cases hreturns : ∃ converts, e = .runReturns converts
      · obtain ⟨converts, rfl⟩ := hreturns
        obtain ⟨ri, -, rfl⟩ := Option.map_eq_some_iff.1 hhandle
        rw [onPlug, runReturns]
        split
        · split
          · exact h
          · exact h
        · exact h
      · obtain ⟨hhistory, -⟩ := history_next hn (fun k hk => hkey ⟨k, hk⟩) (fun id hid => hprompt ⟨id, hid⟩)
          (fun c hc => hreturns ⟨c, hc⟩)
        exact h.congr hhistory

/- reset_idle_cb, which makes the entry sensitive again, finds no keys that wait. -/
def ResetFindsNoKeys (x : PlugProcess) : PlugEvent → Prop
  | .dispatch id => ∀ s ∈ x.plug.context.sources, s.id = id → s.callback = .resetIdleCb → x.plug.keyEvents = []
  | _ => True

/- Keys only wait for an entry that is not sensitive. -/
def Waiting (p : LockPlug) : Prop := p.entrySensitive = true → p.keyEvents = []

theorem waiting_congr {p p' : LockPlug} (h : Waiting p) (hhistory : p'.history = p.history)
    (hs : p'.entrySensitive = true → p.entrySensitive = true) : Waiting p' := fun htrue =>
  (congrArg (fun t => t.2.2.1) hhistory).trans (h (hs htrue))

theorem entrySensitive_response : (x.response r).plug.entrySensitive = x.plug.entrySensitive := by
  have hremoved : x.plug.removeCancelTimeout.removeResponseIdle.entrySensitive = x.plug.entrySensitive :=
    entrySensitive_removeResponseIdle.trans entrySensitive_removeCancelTimeout
  cases r with
  | ok => exact hremoved
  | cancel => exact hremoved
  | deleteEvent => rfl

theorem waiting_response (h : Waiting x.plug) : Waiting (x.response r).plug :=
  waiting_congr h history_response fun hs => entrySensitive_response.symm.trans hs

theorem waiting_of_insensitive {p : LockPlug} (h : p.entrySensitive = false) : Waiting p := fun htrue =>
  absurd (h.symm.trans htrue) (by decide)

theorem waiting_entryKeyPress (h : Waiting x.plug) : Waiting (x.entryKeyPress k).plug := by
  cases hs : x.plug.entrySensitive with
  | true =>
    intro _
    exact (congrArg (fun t => t.2.2.1) (history_entryKeyPress_sensitive (k := k) hs)).trans (h hs)
  | false =>
    have hfalse := entrySensitive_restarted.trans hs
    apply waiting_of_insensitive
    rw [entryKeyPress_queued hs]
    split
    · exact hfalse
    · exact hfalse

theorem waiting_next {e : PlugEvent} (h : Waiting x.plug) (hn : x.next e = some x') (hc : x.ResetFindsNoKeys e) :
    Waiting x'.plug := by
  obtain ⟨-, hhandle⟩ := Option.ite_none_right_eq_some.1 hn
  cases e with
  | main e =>
    cases hhandle
    exact h
  | authCheckIdle =>
    cases hhandle
    exact waiting_of_insensitive rfl
  | prompt id =>
    cases hhandle
    exact fun _ => congrArg (fun t => t.2.2.1) (history_requestResponse (x := x.widgetShow id))
  | message id =>
    cases hhandle
    apply waiting_congr h history_widgetShow
    intro hs
    rw [widgetShow] at hs
    split at hs
    · exact hs
    · exact (entrySensitive_removeCancelTimeout (p := { x.plug with visible := true })).symm.trans hs
  | runReturns converts =>
    obtain ⟨ri, -, rfl⟩ := Option.map_eq_some_iff.1 hhandle
    apply waiting_of_insensitive
    rw [onPlug, runReturns]
    split
    · split
      · rfl
      · rfl
    · rfl
  | verifyUserReturns res =>
    cases hhandle
    rw [verifyUserReturns]
    split
    · exact h
    · exact h
  | keyPress k =>
    cases hhandle
    exact waiting_entryKeyPress h
  | unlockButtonClicked =>
    cases hhandle
    exact waiting_response h
  | cancelButtonClicked =>
    cases hhandle
    exact waiting_response h
  | submitNote =>
    cases hhandle
    exact waiting_response h
  | deleteEvent =>
    cases hhandle
    exact waiting_response h
  | switchUserButtonClicked =>
    cases hhandle
    exact waiting_of_insensitive rfl
  | takeNote =>
    cases hhandle
    exact waiting_congr h history_restarted fun hs =>
      (entrySensitive_removeCancelTimeout (p := x.plug.active)).symm.trans hs
  | cancelNote =>
    cases hhandle
    exact waiting_congr h history_restarted fun hs =>
      (entrySensitive_removeCancelTimeout (p := x.plug.active)).symm.trans hs
  | unmap =>
    cases hhandle
    exact h
  | dispatch id =>
    obtain ⟨⟨s, c⟩, hdispatch, rfl⟩ := Option.map_eq_some_iff.1 hhandle
    obtain ⟨hs, hid, -, -⟩ := Timeouts.Context.dispatch_eq_some hdispatch
    cases hk : s.callback with
    | dialogTimedOut =>
      exact waiting_of_insensitive (entrySensitive_removeResponseIdle (p := { x.plug with
        context := c, fired := x.plug.fired + 1, entrySensitive := false, areaSensitive := false }))
    | responseCancelIdleCb =>
      exact waiting_response (x := ⟨x.dialog, { x.plug with context := c, responseIdleId := 0 }⟩) h
    | resetIdleCb => exact fun _ => hc s hs hid hk
  | passes time =>
    cases hhandle
    exact h

/- Of all that makes the entry sensitive only reset_idle_cb can let keys overtake others. -/
theorem notOvertaken_of_reset {es : List PlugEvent} (h : system.Meets ResetFindsNoKeys {} es) : system.Meets NotOvertaken {} es := by
  apply each_of_meets (I := fun x : PlugProcess => Waiting x.plug) _ (fun _ => rfl) h
  intro x e x' hwaiting hn hc
  refine ⟨?_, waiting_next hwaiting hn hc⟩
  cases e with
  | keyPress k =>
    intro hs k' hk'
    rw [hwaiting hs] at hk'
    exact nomatch hk'
  | _ => trivial

/-- The keys come to the entry in the order they were typed if and only if none is ever typed into
an entry that takes it while others still wait; and that never happens as long as reset_idle_cb finds
no keys that wait. -/
theorem keys_in_order_iff (es : List PlugEvent) :
    (system.Always (fun x => x.plug.Ordered) {} es ↔ system.Meets NotOvertaken {} es) ∧
      (system.Meets ResetFindsNoKeys {} es → system.Meets NotOvertaken {} es) := by
  have hstart : ({} : PlugProcess).plug.Ordered := rfl
  refine ⟨?_, notOvertaken_of_reset⟩
  apply always_iff_meets (I := fun x : PlugProcess => x.plug.Ordered) (fun _ h => h) _ _ hstart
  · exact fun _ _ _ h hn => ordered_next_iff h hn
  · exact fun _ _ _ h hn hc => (ordered_next_iff h hn).2 hc

/- It can happen: after a wrong password a letter waits, reset_idle_cb lets the next one pass. -/
def overtakingRun : List PlugEvent :=
  [.main (.privilegedInitialization true), .main (.lockInitialization true), .main .popupDialogIdle, .authCheckIdle,
    .prompt 7, .unlockButtonClicked, .runReturns true, .verifyUserReturns false, .authCheckIdle, .keyPress someKey,
    .passes 3000, .dispatch 3, .keyPress ⟨someKey.event, ['b']⟩, .prompt 7]

example : ((system.run {} overtakingRun).map fun x => (x.plug.typed.map (·.string), x.plug.received.map (·.string))) =
    some ([['a'], ['b']], [['b'], ['a']]) := by decide

end PlugProcess
end MateScreensaver
