import MateScreensaver.AuthDialog
import MateScreensaver.Dispatch
import MateScreensaver.Lock

/-!
The windows and the dialogs they start, joined by the dialogs' pipes. A window takes
what its dialog prints for an answer, but it keeps the answer of an earlier dialog,
and a dialog that ends without one leaves that in place.
-/

namespace MateScreensaver
open Runs System Scan

/-- The screensaver, and for each watch of a dialog the process at the other end. -/
structure Session where
  screensaver : Screensaver
  dialogs : SourceId → Option AuthDialog

inductive SessionEvent
  | screensaver (env : Env) (e : Event)
  | watch (env : Env) (id : SourceId) (input : WatchInput)
  | dialog (id : SourceId) (e : DialogEvent)

namespace Session

abbrev saver (s : Session) : Saver := s.screensaver.saver

/- A watch that was not there before is that of a dialog just started. -/
def started (s t : Screensaver) (id : SourceId) : Bool :=
  (t.saver.loop.lockCommandWatch.any fun x => x.id = id) &&
    !s.saver.loop.lockCommandWatch.any fun x => x.id = id

def follow (s : Session) (t : Screensaver) : Session where
  screensaver := t
  dialogs id := if started s.screensaver t id then some {} else s.dialogs id

def withDialog (s : Session) (id : SourceId) (d : AuthDialog) : Session :=
  { s with dialogs := fun k => if k = id then some d else s.dialogs k }

/- The channel may report an end, an error or nothing at any time; a line it gives was
printed, and not yet read. -/
def read (input : WatchInput) (d : AuthDialog) : Option AuthDialog :=
  if input.gIoIn then
    match input.status with
    | .normal line => d.take line
    | _ => some d
  else some d

def next (s : Session) : SessionEvent → Option Session
  | .screensaver _ (.lockCommandWatch _ _) => none
  | .screensaver env e => (s.screensaver.step (env, e)).map s.follow
  | .watch env id input =>
    (s.dialogs id).bind fun d => (read input d).bind fun d' =>
      (s.screensaver.step (env, .lockCommandWatch id input)).map (s.withDialog id d').follow
  | .dialog id e => (s.dialogs id).bind fun d => (d.next e).map (s.withDialog id)

def start (b : Boot) (env : Env) : Session := ⟨b.start env, fun _ => none⟩

end Session

def session : System Session SessionEvent := ⟨fun s => ∃ b env, s = Session.start b env, Session.next⟩

/- The dialog's run ends, and no answer was read. -/
def WatchInput.hangsUp (input : WatchInput) : Bool :=
  if input.gIoIn then input.status = .eof else input.gIoHup

namespace LockScreen

variable {a : LockScreen} {w : WindowId} {x : WindowSource}

theorem popdown_emit (w : WindowId) (a : LockScreen) : (a.popdown w).emit = a.emit := by
  cases hw : a.window w with
  | none => rw [popdown_dead hw]
  | some d =>
    rw [popdown_of hw]
    rfl

theorem popdown_response (w : WindowId) (a : LockScreen) :
    ((a.popdown w).get w).response = (a.get w).response := by
  cases hw : a.window w with
  | none => rw [popdown_dead hw]
  | some d =>
    rw [get_of (popdown_window hw), get_of hw]
    rfl

theorem respond_response {r : DialogResponse} (h : ((a.respond r w).get w).response = .ok) : r = .ok := by
  cases hw : a.window w with
  | none =>
    rw [get_dead (by simp [respond, LockScreen.modify, put, hw])] at h
    cases h
  | some d =>
    have hwin : (a.respond r w).window w =
        some { d with response := r, okRead := if r = .ok then some a.activation else d.okRead } := by
      simp [respond, LockScreen.modify, put, hw]
    rw [get_of hwin] at h
    exact h

/- The end of a run looks at the answer the window has, from whatever run it is. -/
theorem finish_emit (x : WindowSource) (a : LockScreen) :
    (a.finish x).emit ≠ a.emit ↔ (a.get x.window).response = .ok := by
  simp only [finish, popdown_response]
  split
  · next hok =>
    refine iff_of_true (fun heq => ?_) hok
    have heq' : (a.popdown x.window).emit ++ [_] = a.emit := heq
    rw [popdown_emit] at heq'
    exact absurd heq' (by simp)
  · next hno => exact iff_of_false (fun h => h (popdown_emit x.window a)) hno

end LockScreen

namespace Saver

variable {v : Saver} {x : WindowSource} {env : Env} {input : WatchInput}

theorem view_finished (env : Env) (x : WindowSource) (v : Saver) :
    ((v.lockCommandFinished env.toSaverEnv x.window).modifyLoop fun l =>
      { l with lockCommandWatch := MainLoop.removeId x.id l.lockCommandWatch }).view = v.view.finish x := by
  rw [view_detach, view_lockCommandFinished]

/- Without a line the answer the window has decides. -/
theorem hangsUp_emit (h : input.hangsUp = true) :
    (Screensaver.lockCommandWatch env x input v).loop.emitDeactivatedIdle ≠ v.loop.emitDeactivatedIdle ↔
      (v.window x.window).dialogResponse = .ok := by
  have heq : Screensaver.lockCommandWatch env x input v =
      (v.lockCommandFinished env.toSaverEnv x.window).modifyLoop fun l =>
        { l with lockCommandWatch := MainLoop.removeId x.id l.lockCommandWatch } := by
    unfold WatchInput.hangsUp at h
    unfold Screensaver.lockCommandWatch Saver.lockCommandWatch
    cases hin : input.gIoIn
    · rw [hin] at h
      have hhup : input.gIoHup = true := h
      rw [hhup]
      rfl
    · rw [hin] at h
      have heof : input.status = .eof := of_decide_eq_true h
      rw [heof]
      rfl
  rw [heq]
  have hview := congrArg LockScreen.emit (view_finished env x v)
  have hresponse : (v.view.get x.window).response = (v.window x.window).dialogResponse :=
    congrArg DialogWindow.response (view_get v x.window)
  rw [← hresponse, ← LockScreen.finish_emit x v.view, ← hview]
  exact Iff.rfl

/- And with one, only RESPONSE=OK queues a deactivation. -/
theorem line_emit (h : input.hangsUp = false)
    (hq : (Screensaver.lockCommandWatch env x input v).loop.emitDeactivatedIdle ≠ v.loop.emitDeactivatedIdle) :
    ∃ line, input.gIoIn = true ∧ input.status = .normal line ∧ contains line "RESPONSE=OK".toList = true := by
  unfold WatchInput.hangsUp at h
  unfold Screensaver.lockCommandWatch Saver.lockCommandWatch at hq
  cases hin : input.gIoIn
  · rw [hin] at h hq
    have hhup : input.gIoHup = false := h
    rw [hhup] at hq
    exact absurd rfl hq
  · rw [hin] at h hq
    cases hst : input.status with
    | normal line =>
      rw [hst] at hq
      refine ⟨line, rfl, rfl, ?_⟩
      rcases lockCommandLine_view env.toSaverEnv v x.window x.id line with ⟨answer, hend, hview, hok⟩ | ⟨hgo, hframe⟩
      · simp only [hend, if_true, Bool.false_eq_true, if_false] at hq
        apply hok
        generalize (v.lockCommandLine env.toSaverEnv x.window x.id line).2 = u at hview hq
        have hemit := congrArg LockScreen.emit (view_finished env x u)
        have hsame : u.view.emit = v.view.emit := by
          rw [hview]
          rfl
        apply LockScreen.respond_response (a := v.view) (w := x.window)
        rw [← hview, ← LockScreen.finish_emit x u.view, ← hemit, hsame]
        exact hq
      · simp only [hgo, if_true] at hq
        exact absurd (congrArg LockScreen.emit hframe.view) hq
    | eof =>
      rw [hst] at h
      have hno : decide (ReadStatus.eof = ReadStatus.eof) = false := h
      exact absurd hno (by decide)
    | error =>
      rw [hst] at hq
      exact absurd rfl hq
    | again =>
      rw [hst] at hq
      exact absurd rfl hq

theorem lockCommandLine_windowId (env : SaverEnv) (w : WindowId) (src : SourceId) (id : UInt32) (v : Saver) :
    v.lockCommandLine env w src (Output.windowId id).text = (false, v.createLockSocket env w id) := by
  have hin : "WINDOW ID=".toList <:+: (Output.windowId id).text := by
    rw [AuthDialog.windowId_text]
    exact (List.prefix_append _ _).isInfix
  have hcontains := contains_iff.2 hin
  unfold lockCommandLine
  rw [if_pos hcontains, AuthDialog.sscanfWindowId_text]

end Saver

namespace Session

variable {s t : Session} {e : SessionEvent}

/-- A deactivation is only queued at the end of a dialog's run when that dialog has
printed RESPONSE=OK, after the user was verified or locking failed to initialise. -/
def OwnAnswer (s : Session) (e : SessionEvent) (t : Session) : Prop :=
  match e with
  | .watch _ id _ => t.saver.loop.emitDeactivatedIdle ≠ s.saver.loop.emitDeactivatedIdle →
      ∃ d, s.dialogs id = some d ∧ .responseOk ∈ d.printed ∧ (d.verified = true ∨ d.lockInitFailed = true)
  | _ => True

/- No dialog that has not printed RESPONSE=OK hangs up on a window that still has the OK
of an earlier one. -/
def NoStaleEnd (s : Session) : SessionEvent → Prop
  | .watch _ id input => input.hangsUp = true → ∀ x d,
      MainLoop.findSource id s.saver.loop.lockCommandWatch = some x → s.dialogs id = some d →
      (s.saver.window x.window).dialogResponse = .ok → .responseOk ∈ d.printed
  | _ => True

/-- Behind every watch there is a dialog, and every dialog is honest. -/
structure Honest (s : Session) : Prop where
  watched : ∀ x ∈ s.saver.loop.lockCommandWatch, (s.dialogs x.id).isSome = true
  dialogs : ∀ id d, s.dialogs id = some d → d.Honest

theorem Honest.withDialog (h : s.Honest) {id : SourceId} {d : AuthDialog} (hd : d.Honest) :
    (s.withDialog id d).Honest where
  watched x hx := by
    show (if x.id = id then some d else s.dialogs x.id).isSome = true
    split
    · rfl
    · exact h.watched x hx
  dialogs k d' hk := by
    have hk' : (if k = id then some d else s.dialogs k) = some d' := hk
    split at hk'
    · cases hk'
      exact hd
    · exact h.dialogs k d' hk'

theorem Honest.follow (h : s.Honest) (t : Screensaver) : (s.follow t).Honest where
  watched x hx := by
    show (if started s.screensaver t x.id then some {} else s.dialogs x.id).isSome = true
    split
    · rfl
    · next hold =>
      have hx' : t.saver.loop.lockCommandWatch.any (fun y => y.id = x.id) = true :=
        List.any_eq_true.2 ⟨x, hx, decide_eq_true rfl⟩
      simp only [started, hx', Bool.true_and, Bool.not_eq_true, Bool.not_eq_false'] at hold
      obtain ⟨y, hy, hid⟩ := List.any_eq_true.1 hold
      rw [← of_decide_eq_true hid]
      exact h.watched y hy
  dialogs k d hk := by
    have hk' : (if started s.screensaver t k then some {} else s.dialogs k) = some d := hk
    split at hk'
    · cases hk'
      exact AuthDialog.honest_start
    · exact h.dialogs k d hk'

theorem read_honest {input : WatchInput} {d d' : AuthDialog} (h : d.Honest) (hr : read input d = some d') :
    d'.Honest := by
  unfold read at hr
  split at hr
  · split at hr
    · exact h.take hr
    · cases hr
      exact h
  · cases hr
    exact h

theorem Honest.next (h : s.Honest) (hn : session.next s e = some t) : t.Honest := by
  cases e with
  | screensaver env e =>
    cases e with
    | lockCommandWatch id input => cases hn
    | _ =>
      obtain ⟨u, -, rfl⟩ := Option.map_eq_some_iff.1 hn
      exact h.follow u
  | watch env id input =>
    obtain ⟨d, hd, hn⟩ := Option.bind_eq_some_iff.1 hn
    obtain ⟨d', hd', hn⟩ := Option.bind_eq_some_iff.1 hn
    obtain ⟨u, -, rfl⟩ := Option.map_eq_some_iff.1 hn
    exact (h.withDialog (read_honest (h.dialogs id d hd) hd')).follow u
  | dialog id e =>
    obtain ⟨d, hd, hn⟩ := Option.bind_eq_some_iff.1 hn
    obtain ⟨d', hd', rfl⟩ := Option.map_eq_some_iff.1 hn
    exact h.withDialog ((h.dialogs id d hd).next hd')

theorem ownAnswer_iff (h : s.Honest) (hn : session.next s e = some t) : OwnAnswer s e t ↔ NoStaleEnd s e := by
  cases e with
  | screensaver env e => exact Iff.rfl
  | dialog id e => exact Iff.rfl
  | watch env id input =>
    obtain ⟨d, hd, hn⟩ := Option.bind_eq_some_iff.1 hn
    obtain ⟨d', hd', hn⟩ := Option.bind_eq_some_iff.1 hn
    obtain ⟨u, hstep, rfl⟩ := Option.map_eq_some_iff.1 hn
    have hdispatch := Screensaver.step_dispatch hstep
    simp only [Screensaver.dispatch] at hdispatch
    split at hdispatch
    · cases hdispatch
    · obtain ⟨x, hfind, rfl⟩ := Option.map_eq_some_iff.1 hdispatch
      have hreason : .responseOk ∈ d.printed → ∃ d, s.dialogs id = some d ∧ .responseOk ∈ d.printed ∧
          (d.verified = true ∨ d.lockInitFailed = true) := fun hok => ⟨d, hd, hok, (h.dialogs id d hd).ok hok⟩
      cases hhup : input.hangsUp
      · -- what was read is part of what this dialog printed
        refine iff_of_true (fun hq => ?_) fun hup => absurd (hhup.symm.trans hup) (by decide)
        obtain ⟨line, hin, hst, hok⟩ := Saver.line_emit (v := (s.screensaver.tick env).saver) hhup hq
        refine hreason ?_
        unfold read at hd'
        rw [hin, hst] at hd'
        exact (h.dialogs id d hd).read_ok hd' hok
      · have hemit : (Screensaver.lockCommandWatch env x input (s.screensaver.tick env).saver).loop.emitDeactivatedIdle ≠
            (s.screensaver.tick env).saver.loop.emitDeactivatedIdle ↔ _ := Saver.hangsUp_emit hhup
        constructor
        · intro hown _ y d₀ hy hd₀ hresponse
          have hxy : x = y := Option.some.inj (hfind.symm.trans hy)
          obtain ⟨d₁, hd₁, hok, -⟩ := hown (hemit.2 (hxy ▸ hresponse))
          rw [hd₀] at hd₁
          cases hd₁
          exact hok
        · intro hfresh hq
          exact hreason (hfresh hhup x d hfind hd (hemit.1 hq))

/- At the start the saver is off, and no dialog runs. -/
theorem start_honest (b : Boot) (env : Env) : (start b env).Honest where
  watched x hx := by
    obtain ⟨hs, -, hoff⟩ := Screensaver.start_agreed b env
    obtain ⟨h0, d, hd, hid⟩ := hs.sound.watch x hx
    have hnone := (hs.sound.off hoff x.window d hd).2.1
    exact absurd (hid.symm.trans hnone) h0
  dialogs id d hd := nomatch hd

/-- Every run answers for itself exactly when no dialog without an OK hangs up on a
window that still has an old one. Each dialog prints OK for a reason only, and its
window's id arrives as it was. -/
theorem unlock_decision (b : Boot) (env : Env) (es : List SessionEvent) :
    (session.Each OwnAnswer (start b env) es ↔ session.Meets NoStaleEnd (start b env) es) ∧
    session.Always Honest (start b env) es ∧
    ∀ env w src id (v : Saver),
      v.lockCommandLine env w src (Output.windowId id).text = (false, v.createLockSocket env w id) := by
  refine ⟨?_, ?_, Saver.lockCommandLine_windowId⟩
  · exact each_iff_meets (I := Honest) (R := OwnAnswer) (C := NoStaleEnd)
      (fun s e t hs hn => ownAnswer_iff hs hn) (fun s e t hs hn _ => hs.next hn) (start_honest b env) es
  · exact ⟨start_honest b env, each_of_step (I := Honest) (fun s e t hs hn => ⟨hs.next hn, hs.next hn⟩)
      (start_honest b env) es⟩

/- The first dialog is answered. Before the deactivation it queued has run its course a
second dialog is asked for, and that one dies. -/
def answered : List SessionEvent :=
  [.screensaver Screensaver.turnOn.1 Screensaver.turnOn.2, .screensaver Screensaver.lockNow.1 Screensaver.lockNow.2,
   .screensaver Screensaver.granted (.activity 0), .screensaver Screensaver.granted (.popupDialogIdle 3),
   .dialog 4 (.privilegedInitialization true), .dialog 4 (.lockInitialization true), .dialog 4 .popupDialogIdle,
   .dialog 4 (.authCheckIdle true), .dialog 4 .quitResponseOk,
   .watch Screensaver.granted 4 ⟨true, false, .normal Output.responseOk.text⟩,
   .screensaver Screensaver.granted (.activity 0), .screensaver Screensaver.granted (.popupDialogIdle 6),
   .dialog 7 .died]

theorem answer_kept : ¬ ∀ s, session.Reachable s → ∀ e t, session.next s e = some t → OwnAnswer s e t := by
  intro h
  let s := (session.run (start Screensaver.desk Screensaver.granted) answered).get (by decide)
  have hs : session.Reachable s :=
    reachable_run (.start ⟨Screensaver.desk, Screensaver.granted, rfl⟩)
      (by simp [s] : session.run (start Screensaver.desk Screensaver.granted) answered = some s)
  let e : SessionEvent := .watch Screensaver.granted 7 ⟨false, true, .again⟩
  let t := (session.next s e).get (by decide)
  obtain ⟨d, hd, hok, -⟩ := h s hs e t (by simp [t]) (by decide)
  have hprinted : (s.dialogs 7).map AuthDialog.printed = some [] := by decide
  rw [hd] at hprinted
  rw [Option.some.inj hprinted] at hok
  cases hok

end Session
end MateScreensaver
