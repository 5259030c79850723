import MateScreensaver.LockPlugKeys

/-!
The dialog with its plug does what the dialog by itself can do: every step of the plug, its keys,
buttons and timeouts, is at most one response, and so what is printed for the window keeps the
promises that AuthDialog.lean has proved.
-/

namespace MateScreensaver
open Runs System

namespace PlugProcess

/- The dialog by itself. The plug turns a delete event into a response of its own, so that
GTK_RESPONSE_DELETE_EVENT never comes. -/
def dialogSystem : System AuthDialog DialogEvent where
  init d := d = {}
  next d e := if e = .responseCb .deleteEvent then none else d.next e

variable {x x' : PlugProcess} {k : PlugKey} {ks : List PlugKey} {d d' d'' : AuthDialog}

/- At most one step of the dialog. -/
def DialogStep (d d' : AuthDialog) : Prop := d' = d ∨ ∃ e, dialogSystem.next d e = some d'

/- The dialog can get responses. -/
def Responds (d : AuthDialog) : Prop := d.stage = .looping ∧ d.plug = true

theorem dialogStep_response (h : Responds x.dialog) (r : PlugResponse) : DialogStep x.dialog (x.response r).dialog := by
  cases r with
  | ok => exact .inl rfl
  | cancel =>
    refine .inr ⟨.responseCb .cancel, ?_⟩
    have hready : x.dialog.ready (.responseCb .cancel) = true := decide_eq_true h
    change (if x.dialog.ready (.responseCb .cancel) then some (x.dialog.handle (.responseCb .cancel)) else none) = _
    rw [if_pos hready]
    rfl
  | deleteEvent => exact .inl rfl

theorem dialogStep_deliver (h : Responds x.dialog) : DialogStep x.dialog (x.deliver k).dialog := by
  rw [deliver]
  split
  · rcases activateDefault_cases (x.onPlug fun p => { p with received := p.received ++ [k] }) with heq | heq | heq
    · rw [heq]
      exact .inl rfl
    · rw [heq]
      exact .inl rfl
    · rw [heq]
      exact dialogStep_response (x := x.onPlug fun p => { p with received := p.received ++ [k] }) h .cancel
  · exact .inl rfl

theorem activateDefault_unlock (h : x.plug.defaultWidget = .unlockButton) :
    x.activateDefault = x ∨ x.activateDefault = x.response .ok := by
  rw [activateDefault, h]
  dsimp only
  split
  · exact .inr rfl
  · exact .inl rfl

theorem defaultWidget_response_ok : (x.response .ok).plug.defaultWidget = x.plug.defaultWidget := by
  change x.plug.removeCancelTimeout.removeResponseIdle.defaultWidget = _
  rw [LockPlug.removeResponseIdle, LockPlug.removeCancelTimeout]
  split <;> split <;> rfl

/- Keys that are forwarded meet the button of the prompt, which only gives an answer. -/
theorem dialog_deliver (h : x.plug.defaultWidget = .unlockButton) :
    (x.deliver k).dialog = x.dialog ∧ (x.deliver k).plug.defaultWidget = .unlockButton := by
  rw [deliver]
  split
  · rcases activateDefault_unlock (x := x.onPlug fun p => { p with received := p.received ++ [k] }) h with heq | heq
    · rw [heq]
      exact ⟨rfl, h⟩
    · rw [heq]
      exact ⟨rfl, defaultWidget_response_ok.trans h⟩
  · exact ⟨rfl, h⟩

theorem dialog_forward (h : x.plug.defaultWidget = .unlockButton) : (x.forward ks).dialog = x.dialog := by
  induction ks generalizing x with
  | nil => rfl
  | cons k ks ih =>
    obtain ⟨hdialog, hwidget⟩ := dialog_deliver (k := k) h
    exact (ih hwidget).trans hdialog

theorem dialog_requestResponse : x.requestResponse.dialog = x.dialog := dialog_forward (x := x.enabled) rfl

theorem dialogStep_entryKeyPress (h : Responds x.dialog) : DialogStep x.dialog (x.entryKeyPress k).dialog := by
  cases hs : x.plug.entrySensitive with
  | true =>
    rw [entryKeyPress_sensitive hs]
    split
    · next hescape =>
      have hreturn : k.isReturn = false := by
        have hval : k.event.keyval = GdkEventKey.gdkKeyEscape := of_decide_eq_true hescape
        rw [PlugKey.isReturn, hval]
        rfl
      have hsame : ((x.typing k).deliver k).dialog = x.dialog := by
        rw [deliver, hreturn]
        rfl
      have hstep := dialogStep_response (x := (x.typing k).deliver k) (hsame ▸ h) .cancel
      rw [hsame] at hstep
      exact hstep
    · exact dialogStep_deliver (x := x.typing k) h
  | false =>
    rw [entryKeyPress_queued hs]
    split
    · exact .inl rfl
    · exact .inl rfl

theorem dialogStep_widgetShow {id : UInt32} (h : Responds x.dialog) : DialogStep x.dialog (x.widgetShow id).dialog := by
  rw [widgetShow]
  split
  · exact .inl rfl
  · refine .inr ⟨.showCb id, ?_⟩
    have hready : x.dialog.ready (.showCb id) = true := decide_eq_true h
    change (if x.dialog.ready (.showCb id) then some (x.dialog.handle (.showCb id)) else none) = _
    rw [if_pos hready]
    rfl

/- One step of the process is at most one step of the dialog. -/
theorem dialogStep_next {e : PlugEvent} (hn : x.next e = some x') : DialogStep x.dialog x'.dialog := by
  obtain ⟨hready, hhandle⟩ := Option.ite_none_right_eq_some.1 hn
  cases e with
  | main e =>
    cases hhandle
    rw [ready, Bool.and_eq_true, Bool.and_eq_true] at hready
    refine .inr ⟨e, ?_⟩
    have hnot : e ≠ .responseCb .deleteEvent := by
      intro heq
      rw [heq] at hready
      exact absurd hready.1.1 (by decide)
    change (if e = .responseCb .deleteEvent then none else x.dialog.next e) = _
    rw [if_neg hnot, AuthDialog.next, if_pos hready.1.2]
  | authCheckIdle =>
    cases hhandle
    exact .inl rfl
  | prompt id =>
    cases hhandle
    have hresponds : Responds x.dialog := ⟨(of_decide_eq_true hready).1, (of_decide_eq_true hready).2.1⟩
    rw [dialog_requestResponse]
    exact dialogStep_widgetShow hresponds
  | message id =>
    cases hhandle
    exact dialogStep_widgetShow ⟨(of_decide_eq_true hready).1, (of_decide_eq_true hready).2.1⟩
  | runReturns converts =>
    obtain ⟨ri, -, rfl⟩ := Option.map_eq_some_iff.1 hhandle
    exact .inl rfl
  | verifyUserReturns res =>
    cases hhandle
    rw [ready, Bool.and_eq_true, Bool.and_eq_true] at hready
    refine .inr ⟨.authCheckIdle res, ?_⟩
    have hsame : (x.verifyUserReturns res).dialog = x.dialog.authCheckIdle res := by
      rw [verifyUserReturns]
      split <;> rfl
    have hd : x.dialog.ready (.authCheckIdle res) = true := hready.1.1
    change (if x.dialog.ready (.authCheckIdle res) then some (x.dialog.handle (.authCheckIdle res)) else none) = _
    rw [if_pos hd, hsame]
    rfl
  | keyPress k =>
    cases hhandle
    exact dialogStep_entryKeyPress ⟨(of_decide_eq_true hready).1, (of_decide_eq_true hready).2.1⟩
  | unlockButtonClicked =>
    cases hhandle
    exact dialogStep_response ⟨(of_decide_eq_true hready).1, (of_decide_eq_true hready).2.1⟩ .ok
  | cancelButtonClicked =>
    cases hhandle
    exact dialogStep_response ⟨(of_decide_eq_true hready).1, (of_decide_eq_true hready).2.1⟩ .cancel
  | submitNote =>
    cases hhandle
    exact dialogStep_response ⟨(of_decide_eq_true hready).1, (of_decide_eq_true hready).2.1⟩ .cancel
  | deleteEvent =>
    cases hhandle
    exact dialogStep_response ⟨(of_decide_eq_true hready).1, (of_decide_eq_true hready).2.1⟩ .cancel
  | switchUserButtonClicked =>
    cases hhandle
    exact .inl rfl
  | takeNote =>
    cases hhandle
    exact .inl rfl
  | cancelNote =>
    cases hhandle
    exact .inl rfl
  | unmap =>
    cases hhandle
    exact .inl rfl
  | dispatch id =>
    obtain ⟨⟨s, c⟩, -, rfl⟩ := Option.map_eq_some_iff.1 hhandle
    cases hk : s.callback with
    | dialogTimedOut => exact .inl rfl
    | responseCancelIdleCb =>
      exact dialogStep_response (x := ⟨x.dialog, { x.plug with context := c, responseIdleId := 0 }⟩)
        ⟨(of_decide_eq_true hready).1, (of_decide_eq_true hready).2⟩ .cancel
    | resetIdleCb => exact .inl rfl
  | passes time =>
    cases hhandle
    exact .inl rfl

theorem dialog_reachable (h : system.Reachable x) : dialogSystem.Reachable x.dialog := by
  induction h with
  | start hs =>
    cases hs
    exact .start rfl
  | step _ hn ih =>
    cases dialogStep_next hn with
    | inl hsame => exact hsame ▸ ih
    | inr hstep =>
      obtain ⟨e, he⟩ := hstep
      exact ih.step he

theorem honest_reachable (h : dialogSystem.Reachable d) : d.Honest := by
  induction h with
  | start hs =>
    cases hs
    exact AuthDialog.honest_start
  | step _ hn ih => exact ih.next (Option.ite_none_left_eq_some.1 hn).2

/-- Each step of the process with its plug, keys and timeouts is at most one step of the dialog by
itself. What it prints the dialog can print, so that RESPONSE=OK still stands for a verified user or a
failed start and the tries are limited. -/
theorem plug_refines_dialog (h : system.Reachable x) :
    (∀ e x', x.next e = some x' → DialogStep x.dialog x'.dialog) ∧ dialogSystem.Reachable x.dialog ∧
      (.responseOk ∈ x.dialog.printed → x.dialog.verified = true ∨ x.dialog.lockInitFailed = true) ∧
      x.dialog.loopCounter ≤ maxFailures := by
  have hreachable := dialog_reachable h
  have hhonest := honest_reachable hreachable
  exact ⟨fun e x' hn => dialogStep_next hn, hreachable, hhonest.ok, hhonest.tries⟩

theorem plug_refines_dialog_waiting :
    (∀ e x', waitingProcess.next e = some x' → DialogStep waitingProcess.dialog x'.dialog) ∧
      dialogSystem.Reachable waitingProcess.dialog ∧
      (.responseOk ∈ waitingProcess.dialog.printed →
        waitingProcess.dialog.verified = true ∨ waitingProcess.dialog.lockInitFailed = true) ∧
      waitingProcess.dialog.loopCounter ≤ maxFailures :=
  plug_refines_dialog waiting_reachable

end PlugProcess
end MateScreensaver
