import MateScreensaver.Parts
import MateScreensaver.Lock

/-!
Answers to method calls: how many messages a call of the session bus is answered
with. Five members are requests that nobody waits for.
-/

namespace MateScreensaver

/- The members mate-screensaver-command.c:340..445 sends without expecting a reply. -/
def SessionCall.oneWay : SessionCall → Bool
  | .lock => true
  | .unlock => true
  | .quit => true
  | .cycle => true
  | .simulateUserActivity => true
  | _ => false

namespace Screensaver

variable {s t u : Screensaver} {env : Env} {m n : Nat}

/-- Between `s` and `t` exactly `n` answers went out, among whatever else was sent. -/
def Answers (n : Nat) (s t : Screensaver) : Prop :=
  ∃ new, t.sent = s.sent ++ new ∧ new.countP BusMessage.plain = n

theorem Answers.none (h : t.sent = s.sent) : Answers 0 s t := ⟨[], by rw [h, List.append_nil], rfl⟩

theorem Answers.trans (h : Answers m s t) (h' : Answers n t u) : Answers (m + n) s u := by
  obtain ⟨new, hnew, hm⟩ := h
  obtain ⟨new', hnew', hn⟩ := h'
  exact ⟨new ++ new', by rw [hnew', hnew, List.append_assoc], by rw [List.countP_append, hm, hn]⟩

theorem Answers.unique (h : Answers m s t) (h' : Answers n s t) : m = n := by
  obtain ⟨new, hnew, rfl⟩ := h
  obtain ⟨new', hnew', rfl⟩ := h'
  rw [List.append_cancel_left (hnew.symm.trans hnew')]

theorem answers_send {b : BusMessage} (h : b.plain = true) (s : Screensaver) : Answers 1 s (s.send b) :=
  ⟨[b], rfl, by simp [h]⟩

/-- An answer at the end of a call that has sent none. -/
theorem Answers.send {b : BusMessage} (h : Answers 0 s t) (hb : b.plain = true) : Answers 1 s (t.send b) := by
  have hall := h.trans (answers_send hb t)
  rwa [Nat.zero_add] at hall

theorem answers_aside {b : BusMessage} (h : b.plain = false) (s : Screensaver) : Answers 0 s (s.send b) :=
  ⟨[b], rfl, by simp [h]⟩

/-! ### Calls that change the state -/

theorem answers_gsListenerSetActive (env : Env) (b : Bool) (s : Screensaver) :
    Answers 0 s (s.gsListenerSetActive env b).2 := by
  have hcb : (s.listenerActiveChangedCb env b).2.sent = s.sent := by
    simp only [listenerActiveChangedCb]
    split
    · rfl
    · rfl
  simp only [gsListenerSetActive]
  split
  · exact .none rfl
  · split
    · split
      · exact .none hcb
      · exact .none hcb
    · have hchanged : Answers 0 s ((s.listenerActiveChangedCb env b).2.listenerSetActiveInternal env b) := by
        rw [listenerSetActiveInternal_eq]
        exact ⟨[.activeChanged b], by rw [← hcb], rfl⟩
      split
      · exact hchanged
      · exact hchanged

theorem answers_listenerCheckActivation (env : Env) (s : Screensaver) :
    Answers 0 s (s.listenerCheckActivation env).2 := by
  simp only [listenerCheckActivation]
  split
  · exact .none rfl
  · split
    · exact .none rfl
    · split
      · exact .none rfl
      · exact answers_gsListenerSetActive env true s

theorem answers_listenerCheckThrottle (env : Env) (s : Screensaver) : Answers 0 s (s.listenerCheckThrottle env) := by
  simp only [listenerCheckThrottle, gsListenerSetThrottle]
  split
  · split
    · exact .none rfl
    · exact .none rfl
  · exact .none rfl

theorem answers_listenerRefEntryCheck (env : Env) (type : RefType) (s : Screensaver) :
    Answers 0 s (s.listenerRefEntryCheck env type) := by
  cases type with
  | inhibit => exact answers_listenerCheckActivation env s
  | throttle => exact answers_listenerCheckThrottle env s

theorem answers_stored (env : Env) (type : RefType) (entry : RefEntry) (s : Screensaver) :
    Answers 0 s (s.stored env type entry) := by
  cases type with
  | throttle => exact .none rfl
  | inhibit =>
    have htold : ∀ v : Screensaver, Answers 0 v (v.addSessionInhibit env entry) := by
      intro v
      simp only [addSessionInhibit]
      split
      · exact answers_aside rfl v
      · exact answers_aside rfl v
    exact htold _

theorem answers_listenerAddRefEntry (env : Env) (type : RefType) (entry : RefEntry) (s : Screensaver) :
    Answers 0 s (s.listenerAddRefEntry env type entry) :=
  (answers_stored env type entry s).trans (answers_listenerRefEntryCheck env type _)

theorem answers_dropped (type : RefType) (cookie : Nat) (entry : RefEntry) (s : Screensaver) :
    Answers 0 s (s.dropped type cookie entry) := by
  rw [dropped_eq]
  refine ⟨_, rfl, ?_⟩
  unfold farewell
  split
  · split <;> rfl
  · rfl

theorem answers_listenerRemoveRefEntry (env : Env) (type : RefType) (cookie : Nat) (s : Screensaver) :
    Answers 0 s (s.listenerRemoveRefEntry env type cookie).2 := by
  simp only [listenerRemoveRefEntry]
  split
  · exact .none rfl
  · next entry _ => exact (answers_dropped type cookie entry s).trans (answers_listenerRefEntryCheck env type _)

theorem answers_gsMonitorLockScreen (env : Env) (s : Screensaver) : Answers 0 s (s.gsMonitorLockScreen env) := by
  have hset : Answers 0 s ((s.modifySaver (.gsManagerSetLockActive true)).gsListenerSetActive env true).2 :=
    (Answers.none rfl : Answers 0 s (s.modifySaver (.gsManagerSetLockActive true))).trans
      (answers_gsListenerSetActive env true _)
  simp only [gsMonitorLockScreen]
  split
  · split
    · exact hset
    · exact hset
  · exact .none rfl

/-! ### The members -/

theorem answers_listenerDbusAddRefEntry {type : RefType} {sender : BusName} {args : Option (String × String)}
    (h : s.listenerDbusAddRefEntry env type sender args = some t) : Answers 1 s t := by
  cases args with
  | none =>
    cases h
    exact answers_send rfl s
  | some names =>
    obtain ⟨cookie, -, rfl⟩ := Option.map_eq_some_iff.1 h
    exact (answers_listenerAddRefEntry env type _ s).send rfl

theorem answers_listenerDbusRemoveRefEntry (env : Env) (type : RefType) (cookie : Option Nat) (s : Screensaver) :
    Answers 1 s (s.listenerDbusRemoveRefEntry env type cookie) := by
  cases cookie with
  | none => exact answers_send rfl s
  | some cookie => exact (answers_listenerRemoveRefEntry env type cookie s).send rfl

theorem answers_listenerSetProperty (env : Env) (path : String) (value : Option Bool) (s : Screensaver) :
    Answers 1 s (s.listenerSetProperty env path value) := by
  cases value with
  | none => exact answers_send rfl s
  | some v => exact (answers_gsListenerSetActive env v s).send rfl

/- The reply that is made before the arguments are looked at is not sent when
they are wrong. -/
theorem answers_listenerShowMessage {args : Option (String × String × String)}
    (h : s.listenerShowMessage env args = some t) : Answers 1 s t := by
  simp only [listenerShowMessage] at h
  split at h
  · split at h
    · cases h
      exact answers_send rfl s
    · obtain ⟨v, hv, rfl⟩ := Option.map_eq_some_iff.1 h
      obtain ⟨saver, -, rfl⟩ := Option.map_eq_some_iff.1 hv
      exact (Answers.none rfl).send rfl
  · cases h
    exact answers_send rfl s

/-- Every call that is reported as handled is answered exactly once, or not at
all when it is one of the requests nobody waits for. -/
theorem handled_answers {sender : BusName} {call : SessionCall}
    (h : s.listenerDbusHandleSessionMessage env sender call = some (true, t)) :
    Answers (if call.oneWay then 0 else 1) s t := by
  cases call with
  | lock =>
    cases h
    show Answers 0 s (s.listenerLockCb env)
    simp only [listenerLockCb]
    split
    · exact answers_gsMonitorLockScreen env s
    · exact .none rfl
  | unlock => cases h; exact answers_gsListenerSetActive env false s
  | quit => cases h; exact answers_gsListenerSetActive env false s
  | cycle => cases h; exact .none rfl
  | simulateUserActivity => cases h; exact .none rfl
  | inhibit args =>
    obtain ⟨v, hv, heq⟩ := Option.bind_eq_some_iff.1 h
    cases heq
    exact answers_listenerDbusAddRefEntry hv
  | throttle args =>
    obtain ⟨v, hv, heq⟩ := Option.bind_eq_some_iff.1 h
    cases heq
    exact answers_listenerDbusAddRefEntry hv
  | showMessage args =>
    obtain ⟨v, hv, heq⟩ := Option.bind_eq_some_iff.1 h
    cases heq
    exact answers_listenerShowMessage hv
  | unInhibit cookie => cases h; exact answers_listenerDbusRemoveRefEntry env .inhibit cookie s
  | unThrottle cookie => cases h; exact answers_listenerDbusRemoveRefEntry env .throttle cookie s
  | setActive path value => cases h; exact answers_listenerSetProperty env path value s
  | getInhibitors => cases h; exact answers_send rfl s
  | getActive => cases h; exact answers_send rfl s
  | getActiveTime => cases h; exact answers_send rfl s
  | introspect => cases h; exact answers_send rfl s
  | addMatch => cases h; exact answers_send rfl s
  | unknown => cases h

theorem handled_answers_inhibit :
    let s := desk.start granted
    ∃ t, s.listenerDbusHandleSessionMessage granted ":1.1" (.inhibit none) = some (true, t) ∧ Answers 1 s t := by
  intro s
  have h : s.listenerDbusHandleSessionMessage granted ":1.1" (.inhibit none) =
      some (true, s.send (.syntaxError "Inhibit")) := rfl
  exact ⟨_, h, handled_answers h⟩

/- A call of Cycle is handled and nothing at all is sent. -/
theorem cycle_unanswered : ¬ ∀ (env : Env) (sender : BusName) (call : SessionCall) (s t : Screensaver),
    s.listenerDbusHandleSessionMessage env sender call = some (true, t) → Answers 1 s t := by
  intro h
  have hone := h granted ":1.1" .cycle (desk.start granted) _ rfl
  have hnone : Answers 0 (desk.start granted) ((desk.start granted).listenerCycleCb granted) := .none rfl
  exact Nat.one_ne_zero (hone.unique hnone)

end Screensaver
end MateScreensaver
