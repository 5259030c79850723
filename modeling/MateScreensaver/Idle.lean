import MateScreensaver.Lib.Runs
import MateScreensaver.Watcher

/-!
The watcher on its own: statuses, activations and expiries in any order, with
handlers that answer as they like. Idle activation must never act on a status
that is no longer true.
-/

namespace MateScreensaver.Idle
open Runs

/- One emission of idle-changed, with the watcher's state at that moment. -/
structure Emission where
  isIdle : Bool
  active : Bool
  told : Option Nat
  deriving DecidableEq, Repr

/- `told` is the last status heard since the watcher was turned on; `emitted`
is the history of idle-changed. Neither is read by the code. -/
structure WatcherRun where
  watcher : GSWatcher := {}
  pending : List Nat := []
  nextId : Nat := 1
  told : Option Nat := none
  emitted : List Emission := []

def WatcherRun.setActive (active : Bool) (s : WatcherRun) : WatcherRun :=
  let w := (gsWatcherSetActive active s.watcher).2
  { s with watcher := w, told := if w.active then s.told else none }

def WatcherRun.setEnabled (enabled : Bool) (s : WatcherRun) : WatcherRun :=
  let w := gsWatcherSetEnabled enabled s.watcher
  { s with watcher := w, told := if w.active then s.told else none }

def WatcherRun.emit (isIdle : Bool) (s : WatcherRun) : WatcherRun :=
  { s with emitted := s.emitted ++ [⟨isIdle, s.watcher.active, s.told⟩] }

/- What the two handlers answer during one event. A handler that accepts
idle-changed(TRUE) may have activated the saver, which turns the watcher off. -/
structure Answers where
  idleChanged : Bool → Bool
  activates : Bool
  idleNotice : Bool → Bool

def host (a : Answers) : WatcherHost WatcherRun where
  watcher s := s.watcher
  setWatcher w s := { s with watcher := w }
  timeoutAdd _ s := (s.nextId, { s with pending := s.nextId :: s.pending, nextId := s.nextId + 1 })
  sourceRemove id s := { s with pending := s.pending.erase id }
  idleChanged isIdle s :=
    let res := a.idleChanged isIdle
    (res, if isIdle && res && a.activates then (s.emit isIdle).setActive false else s.emit isIdle)
  idleNoticeChanged inEffect s := (a.idleNotice inEffect, s)

inductive WatcherEvent
  | presenceStatus (status : Nat)
  | setActive (active : Bool)
  | setEnabled (enabled : Bool)
  | idleTimeout (id : Nat)

def WatcherRun.hear (status : Nat) (s : WatcherRun) : WatcherRun :=
  if s.watcher.active then { s with told := some status } else s

def next (s : WatcherRun) : Answers × WatcherEvent → Option WatcherRun
  | (a, .presenceStatus status) => some (setStatus (host a) status (s.hear status))
  | (_, .setActive active) => some (s.setActive active)
  | (_, .setEnabled enabled) => some (s.setEnabled enabled)
  | (a, .idleTimeout id) =>
    if id ∈ s.pending then
      let (again, t) := onIdleTimeout (host a) s
      some (if again then t else { t with pending := t.pending.erase id })
    else none

/- gs_watcher_init leaves everything but the defaults at zero. -/
def watcherSystem : System WatcherRun (Answers × WatcherEvent) :=
  ⟨fun s => s = {}, next⟩

/- Idle-changed(TRUE) was only ever emitted by an active watcher last told 3, and
no pending timer could emit it otherwise. -/
structure Fresh (s : WatcherRun) : Prop where
  emitted : ∀ m ∈ s.emitted, m.isIdle = true → m.active = true ∧ m.told = some 3
  pending : ∀ id ∈ s.pending, s.watcher.idle = false →
    s.watcher.active = true ∧ s.told = some 3

/- The two places that forget the timer: the early return of set_status, which
looks at the notice only, and _gs_watcher_reset_state. -/
def TimerCancelled (s : WatcherRun) : Answers × WatcherEvent → Prop
  | (_, .presenceStatus status) => s.watcher.active = true → status ≠ 3 →
      s.watcher.idleNotice = false → s.watcher.idle = false → s.watcher.idleId = 0
  | (_, .setActive active) => active = false → s.watcher.active = true →
      s.watcher.enabled = true → s.watcher.idleId = 0
  | (_, .setEnabled enabled) => enabled = false → s.watcher.active = true →
      s.watcher.enabled = true → s.watcher.idleId = 0
  | (_, .idleTimeout _) => True

/- What holds as long as no timer was forgotten. -/
structure Kept (s : WatcherRun) : Prop extends Fresh s where
  ids : s.pending = if s.watcher.idleId = 0 then [] else [s.watcher.idleId]
  off : s.watcher.active = false → s.watcher.idleId = 0 ∧ s.told = none
  fresh : 0 < s.nextId

section
variable (a : Answers) (s : WatcherRun)

@[simp] theorem host_watcher : (host a).watcher s = s.watcher := rfl
@[simp] theorem host_setWatcher (w : GSWatcher) :
    (host a).setWatcher w s = { s with watcher := w } := rfl
@[simp] theorem host_timeoutAdd (n : Nat) : (host a).timeoutAdd n s
    = (s.nextId, { s with pending := s.nextId :: s.pending, nextId := s.nextId + 1 }) := rfl
@[simp] theorem host_sourceRemove (id : Nat) :
    (host a).sourceRemove id s = { s with pending := s.pending.erase id } := rfl
@[simp] theorem host_idleChanged (b : Bool) : (host a).idleChanged b s = (a.idleChanged b,
    if b && a.idleChanged b && a.activates then (s.emit b).setActive false else s.emit b) := rfl
@[simp] theorem emit_watcher (b : Bool) : (s.emit b).watcher = s.watcher := rfl
@[simp] theorem host_idleNoticeChanged (b : Bool) :
    (host a).idleNoticeChanged b s = (a.idleNotice b, s) := rfl

theorem setNotice_eq (b : Bool) : ∃ v,
    (gsWatcherSetSessionIdleNotice (host a) b s).2
      = { s with watcher := { s.watcher with idleNotice := v } } := by
  unfold gsWatcherSetSessionIdleNotice
  split
  · cases h : a.idleNotice b
    · exact ⟨s.watcher.idleNotice, by simp [h]⟩
    · exact ⟨b, by simp [h]⟩
  · exact ⟨s.watcher.idleNotice, rfl⟩

/- Becoming non-idle never activates anything. -/
theorem setIdle_false_eq : ∃ i l, (∀ m ∈ l, m.isIdle = false) ∧
    (gsWatcherSetSessionIdle (host a) false s).2
      = { s with watcher := { s.watcher with idle := i }, emitted := s.emitted ++ l } := by
  unfold gsWatcherSetSessionIdle
  split
  · refine ⟨if a.idleChanged false then false else s.watcher.idle,
      [⟨false, s.watcher.active, s.told⟩], by simp, ?_⟩
    cases h : a.idleChanged false <;> simp [WatcherRun.emit, h]
  · exact ⟨s.watcher.idle, [], by simp, by simp⟩

/- The timers left when the recorded one is removed. -/
def WatcherRun.rest (s : WatcherRun) : List Nat :=
  if s.watcher.idleId > 0 then s.pending.erase s.watcher.idleId else s.pending

theorem removeIdleTimeout_eq :
    removeIdleTimeout (host a) s = { s with pending := s.rest } := by
  unfold removeIdleTimeout WatcherRun.rest
  by_cases h : s.watcher.idleId > 0 <;> simp [h]

theorem cancelIdleTimeout_eq : cancelIdleTimeout (host a) s
    = { s with watcher := { s.watcher with idleId := 0 }, pending := s.rest } := by
  unfold cancelIdleTimeout WatcherRun.rest
  by_cases h : s.watcher.idleId > 0
  · simp [h]
  · have h0 : s.watcher.idleId = 0 := by omega
    obtain ⟨⟨⟩⟩ := s
    cases h0
    rfl

theorem setStatus_ignored (status : Nat) (h : s.watcher.active = false) :
    setStatus (host a) status s = s := by
  simp [setStatus, h]

theorem setStatus_early (status : Nat) (h3 : status ≠ 3) (hn : s.watcher.idleNotice = false) :
    setStatus (host a) status s = s := by
  simp [setStatus, h3, hn]

/- Status 3 puts a new timer in the place of the old one. -/
theorem setStatus_idle (h : s.watcher.active = true) : ∃ v, setStatus (host a) 3 s
    = { s with watcher := { s.watcher with idleNotice := v, idleId := s.nextId },
               pending := s.nextId :: s.rest, nextId := s.nextId + 1 } := by
  obtain ⟨v, hv⟩ := setNotice_eq a s true
  refine ⟨v, ?_⟩
  simp [setStatus, removeIdleTimeout_eq, WatcherRun.rest, h, hv]

/- A status other than 3 removes the timer when the notice was accepted. -/
theorem setStatus_back (status : Nat) (h : s.watcher.active = true) (h3 : status ≠ 3)
    (hn : s.watcher.idleNotice = true) : ∃ i v l, (∀ m ∈ l, m.isIdle = false) ∧
      setStatus (host a) status s
        = { s with watcher := { s.watcher with idle := i, idleNotice := v, idleId := 0 },
                   pending := s.rest, emitted := s.emitted ++ l } := by
  obtain ⟨i, l, hl, hi⟩ := setIdle_false_eq a (cancelIdleTimeout (host a) s)
  obtain ⟨v, hv⟩ := setNotice_eq a
    (gsWatcherSetSessionIdle (host a) false (cancelIdleTimeout (host a) s)).2 false
  refine ⟨i, v, l, hl, ?_⟩
  have hs : (status == 3) = false := by simpa using h3
  have hsplit : setStatus (host a) status s = (gsWatcherSetSessionIdleNotice (host a) false
      (gsWatcherSetSessionIdle (host a) false (cancelIdleTimeout (host a) s)).2).2 := by
    simp [setStatus, h, hs, hn]
  rw [hsplit, hv, hi, cancelIdleTimeout_eq]

/- The timer's own run. What the handler refused is tried again. -/
theorem onIdleTimeout_kept (h : s.watcher.idle = true ∨ a.idleChanged true = false) :
    ∃ v, onIdleTimeout (host a) s
      = (true, { (if s.watcher.idle then s else s.emit true) with
                   watcher := { s.watcher with idleNotice := v } }) := by
  obtain ⟨v, hv⟩ := setNotice_eq a (if s.watcher.idle then s else s.emit true) false
  refine ⟨v, ?_⟩
  cases hi : s.watcher.idle
  · have hr : a.idleChanged true = false := by simpa [hi] using h
    simp only [hi, Bool.false_eq_true, if_false] at hv
    simp [onIdleTimeout, gsWatcherSetSessionIdle, hi, hr, hv]
  · simp only [hi, if_true] at hv
    simp [onIdleTimeout, gsWatcherSetSessionIdle, hi, hv]

theorem onIdleTimeout_done (hi : s.watcher.idle = false) (hr : a.idleChanged true = true) :
    ∃ v, onIdleTimeout (host a) s = (false,
      let t := if a.activates then (s.emit true).setActive false else s.emit true
      { t with watcher := { t.watcher with idle := true, idleNotice := v, idleId := 0 } }) := by
  obtain ⟨v, hv⟩ := setNotice_eq a (gsWatcherSetSessionIdle (host a) true s).2 false
  refine ⟨v, ?_⟩
  have hs : gsWatcherSetSessionIdle (host a) true s = (true,
      let t := if a.activates then (s.emit true).setActive false else s.emit true
      { t with watcher := { t.watcher with idle := true } }) := by
    simp [gsWatcherSetSessionIdle, hi, hr]
  simp only [onIdleTimeout, hs] at hv ⊢
  simp [hv]

end

/-! ### The step lemma -/

theorem Kept.rest_eq {s : WatcherRun} (h : Kept s) : s.rest = [] := by
  unfold WatcherRun.rest
  by_cases hp : s.watcher.idleId > 0
  · have h0 : s.watcher.idleId ≠ 0 := by omega
    simp [hp, h.ids, h0]
  · have h0 : s.watcher.idleId = 0 := by omega
    simp [h.ids, h0]

theorem Kept.start : Kept {} :=
  ⟨⟨by simp, by simp⟩, by simp, by simp, by decide⟩

/- Turning the watcher off keeps the invariant exactly when no timer is recorded. -/
theorem Kept.turnedOff {s : WatcherRun} (h : Kept s) (w : GSWatcher) (hw : w.active = false)
    (hi : w.idle = false) (hid : w.idleId = s.watcher.idleId) :
    (Fresh { s with watcher := w, told := none } ↔ s.watcher.idleId = 0) ∧
      (s.watcher.idleId = 0 → Kept { s with watcher := w, told := none }) := by
  have hk : s.watcher.idleId = 0 → Kept { s with watcher := w, told := none } := by
    intro h0
    have hp : s.pending = [] := by simpa [h0] using h.ids
    exact ⟨⟨h.emitted, by simp [hp]⟩, by simp [hp, hid, h0], by simp [hid, h0], h.fresh⟩
  refine ⟨⟨fun hf => ?_, fun h0 => (hk h0).toFresh⟩, hk⟩
  by_contra h0
  have hm : s.watcher.idleId ∈ s.pending := by simp [h.ids, h0]
  simpa [hw] using (hf.pending _ hm hi).1

/- What a step must satisfy: it is good exactly when no timer is forgotten. -/
def StepOk (s : WatcherRun) (e : Answers × WatcherEvent) (t : WatcherRun) : Prop :=
  (Fresh t ↔ TimerCancelled s e) ∧ (TimerCancelled s e → Kept t)

theorem StepOk.of_kept {s t : WatcherRun} {e : Answers × WatcherEvent} (h : Kept t)
    (hc : TimerCancelled s e) : StepOk s e t :=
  ⟨⟨fun _ => hc, fun _ => h.toFresh⟩, fun _ => h⟩

theorem Kept.setActive_same {s : WatcherRun} (h : Kept s) :
    { s with watcher := s.watcher, told := if s.watcher.active then s.told else none } = s := by
  cases ha : s.watcher.active
  · have ht := (h.off ha).2
    obtain ⟨⟩ := s
    simp_all
  · rfl

theorem Kept.turnedOn {s : WatcherRun} (h : Kept s) (ha : s.watcher.active = false)
    (w : GSWatcher) (hw : w.active = true) (hid : w.idleId = s.watcher.idleId) :
    Kept { s with watcher := w, told := if w.active then s.told else none } := by
  have h0 := (h.off ha).1
  have hp : s.pending = [] := by simpa [h0] using h.ids
  exact ⟨⟨h.emitted, by simp [hp]⟩, by simp [hp, hid, h0], by simp [hw], h.fresh⟩

theorem setActive_ok {s : WatcherRun} (h : Kept s) (a : Answers) (active : Bool) :
    StepOk s (a, .setActive active) (s.setActive active) := by
  unfold WatcherRun.setActive gsWatcherSetActive
  by_cases hs : s.watcher.active = active
  · simp only [hs, if_true]
    have hk := h.setActive_same
    rw [hs] at hk
    rw [hk]
    exact .of_kept h fun hf ht => by simp_all
  cases he : s.watcher.enabled
  · simp only [hs, if_false, Bool.not_false, if_true]
    rw [h.setActive_same]
    exact .of_kept h fun _ _ h' => by simp [he] at h'
  · simp only [hs, if_false, Bool.not_true, Bool.false_eq_true]
    cases ha : active
    · have hsa : s.watcher.active = true := by simpa [ha] using hs
      have hoff := h.turnedOff (s.watcher.setActiveInternal false) (by simp [GSWatcher.setActiveInternal, hsa])
        (by simp [GSWatcher.setActiveInternal, hsa, GSWatcher.resetState])
        (by simp [GSWatcher.setActiveInternal, hsa, GSWatcher.resetState])
      have hc : TimerCancelled s (a, .setActive false) ↔ s.watcher.idleId = 0 := by
        simp [TimerCancelled, hsa, he]
      simpa [StepOk, hc, GSWatcher.setActiveInternal, hsa] using hoff
    · have hsa : s.watcher.active = false := by simpa [ha] using hs
      refine .of_kept (h.turnedOn hsa _ ?_ ?_) (by simp [TimerCancelled])
      · simp [GSWatcher.setActiveInternal, hsa]
      · simp [GSWatcher.setActiveInternal, hsa, GSWatcher.resetState]

theorem Kept.configured {s : WatcherRun} (h : Kept s) (enabled : Bool) :
    Kept { s with watcher := { s.watcher with enabled := enabled },
                  told := if s.watcher.active then s.told else none } := by
  have hk := h.setActive_same
  have ht : (if s.watcher.active then s.told else none) = s.told := congrArg WatcherRun.told hk
  rw [ht]
  exact ⟨⟨h.emitted, h.pending⟩, h.ids, h.off, h.fresh⟩

theorem setEnabled_ok {s : WatcherRun} (h : Kept s) (a : Answers) (enabled : Bool) :
    StepOk s (a, .setEnabled enabled) (s.setEnabled enabled) := by
  unfold WatcherRun.setEnabled gsWatcherSetEnabled
  by_cases hs : s.watcher.enabled = enabled
  · simp only [hs, ne_eq, not_true_eq_false, if_false]
    rw [h.setActive_same]
    exact .of_kept h fun hf ha he => by simp_all
  simp only [ne_eq, hs, not_false_eq_true, if_true]
  by_cases hoff : enabled = false ∧ s.watcher.active = true
  · obtain ⟨rfl, hsa⟩ := hoff
    have he : s.watcher.enabled = true := by simpa using hs
    have ht := h.turnedOff ({ s.watcher with enabled := false }.setActiveInternal false)
      (by simp [GSWatcher.setActiveInternal, hsa])
      (by simp [GSWatcher.setActiveInternal, hsa, GSWatcher.resetState])
      (by simp [GSWatcher.setActiveInternal, hsa, GSWatcher.resetState])
    have hc : TimerCancelled s (a, .setEnabled false) ↔ s.watcher.idleId = 0 := by
      simp [TimerCancelled, hsa, he]
    simpa [StepOk, hc, GSWatcher.setActiveInternal, hsa] using ht
  · have hb : (!enabled && s.watcher.active) = false := by
      simpa using hoff
    simp only [hb, Bool.false_eq_true, if_false]
    exact .of_kept (h.configured enabled) fun hf ha _ => absurd ⟨hf, ha⟩ hoff

theorem presenceStatus_ok {s : WatcherRun} (h : Kept s) (a : Answers) (status : Nat) :
    StepOk s (a, .presenceStatus status) (setStatus (host a) status (s.hear status)) := by
  cases ha : s.watcher.active
  · have hs : s.hear status = s := by simp [WatcherRun.hear, ha]
    rw [hs, setStatus_ignored a s status ha]
    exact .of_kept h fun h' => by simp [ha] at h'
  have hs : s.hear status = { s with told := some status } := by simp [WatcherRun.hear, ha]
  rw [hs]
  have hrest : ({ s with told := some status } : WatcherRun).rest = [] := h.rest_eq
  by_cases h3 : status = 3
  · subst h3
    obtain ⟨v, hv⟩ := setStatus_idle a { s with told := some 3 } ha
    rw [hv, hrest]
    have hf := h.fresh
    refine .of_kept ⟨⟨h.emitted, fun _ _ _ => ⟨ha, rfl⟩⟩, ?_, fun h' => ?_, by simp⟩
      fun _ h' => absurd rfl h'
    · have hn : s.nextId ≠ 0 := by omega
      simp [hn]
    · simp [ha] at h'
  cases hn : s.watcher.idleNotice
  · rw [setStatus_early a { s with told := some status } status h3 hn]
    have hc : TimerCancelled s (a, .presenceStatus status) ↔
        (s.watcher.idle = false → s.watcher.idleId = 0) := by
      simp [TimerCancelled, ha, h3, hn]
    have hk : (s.watcher.idle = false → s.watcher.idleId = 0) →
        Kept { s with told := some status } := by
      intro h0
      refine ⟨⟨h.emitted, fun id hm hi => ?_⟩, h.ids, fun h' => ?_, h.fresh⟩
      · have := h.ids
        simp_all
      · simp [ha] at h'
    rw [StepOk, hc]
    refine ⟨⟨fun hf hi => ?_, fun h0 => (hk h0).toFresh⟩, hk⟩
    by_contra h0
    have hm : s.watcher.idleId ∈ s.pending := by simp [h.ids, h0]
    have h3' := (hf.pending _ hm hi).2
    exact h3 (by simpa using h3')
  · obtain ⟨i, v, l, hl, hv⟩ := setStatus_back a { s with told := some status } status ha h3 hn
    rw [hv, hrest]
    refine .of_kept ⟨⟨fun m hm hi => ?_, by simp⟩, by simp, fun h' => ?_, h.fresh⟩
      fun _ _ h' => by simp [hn] at h'
    · rcases List.mem_append.1 hm with hm | hm
      · exact h.emitted m hm hi
      · simp [hl m hm] at hi
    · simp [ha] at h'

theorem Kept.pending_eq {s : WatcherRun} (h : Kept s) {id : Nat} (hm : id ∈ s.pending) :
    s.watcher.idleId ≠ 0 ∧ s.pending = [id] ∧ s.watcher.active = true := by
  have h0 : s.watcher.idleId ≠ 0 := fun h0 => by simp [h.ids, h0] at hm
  have hp : s.pending = [s.watcher.idleId] := by simp [h.ids, h0]
  have hid : id = s.watcher.idleId := by simpa [hp] using hm
  refine ⟨h0, by rw [hp, hid], ?_⟩
  by_contra ha
  exact h0 (h.off (by simpa using ha)).1

theorem idleTimeout_kept {s t : WatcherRun} (h : Kept s) (a : Answers) (id : Nat)
    (hn : next s (a, .idleTimeout id) = some t) : Kept t := by
  by_cases hm : id ∈ s.pending
  swap
  · simp [next, hm] at hn
  obtain ⟨h0, hp, ha⟩ := h.pending_eq hm
  have hem : s.watcher.idle = false → ∀ m ∈ (s.emit true).emitted, m.isIdle = true →
      m.active = true ∧ m.told = some 3 := by
    intro hi m hm'
    rcases List.mem_append.1 hm' with hm' | hm'
    · exact h.emitted m hm'
    · have := h.pending id hm hi
      simp_all
  by_cases hk : s.watcher.idle = true ∨ a.idleChanged true = false
  · obtain ⟨v, hv⟩ := onIdleTimeout_kept a s hk
    simp only [next, hm, if_true, hv] at hn
    cases hi : s.watcher.idle <;> simp only [hi, Bool.false_eq_true, if_false, if_true] at hn <;>
      cases hn
    · exact ⟨⟨hem hi, fun id' hm' _ => h.pending id' hm' hi⟩, h.ids, h.off, h.fresh⟩
    · exact ⟨⟨h.emitted, fun _ _ h' => by simp at h'⟩, h.ids, h.off, h.fresh⟩
  · have hi : s.watcher.idle = false := by simpa using fun hi => hk (.inl hi)
    have hr : a.idleChanged true = true := by simpa using fun hr => hk (.inr hr)
    obtain ⟨v, hv⟩ := onIdleTimeout_done a s hi hr
    simp only [next, hm, if_true, hv, Bool.false_eq_true, if_false] at hn
    cases hact : a.activates <;> simp only [hact, Bool.false_eq_true, if_false, if_true] at hn <;>
      cases hn
    · refine ⟨⟨hem hi, ?_⟩, ?_, ?_, h.fresh⟩
      · simp [WatcherRun.emit, hp]
      · simp [WatcherRun.emit, hp]
      · simp [ha]
    · refine ⟨⟨hem hi, ?_⟩, ?_, ?_, h.fresh⟩
      · simp [WatcherRun.setActive, WatcherRun.emit, hp]
      · simp [WatcherRun.setActive, WatcherRun.emit, hp]
      · intro h'
        refine ⟨rfl, ?_⟩
        simp only [WatcherRun.setActive, emit_watcher] at h' ⊢
        simp [h']

theorem step_ok {s t : WatcherRun} {e : Answers × WatcherEvent} (h : Kept s)
    (hn : next s e = some t) : StepOk s e t := by
  obtain ⟨a, e⟩ := e
  cases e with
  | presenceStatus status => cases hn; exact presenceStatus_ok h a status
  | setActive active => cases hn; exact setActive_ok h a active
  | setEnabled enabled => cases hn; exact setEnabled_ok h a enabled
  | idleTimeout id => exact .of_kept (idleTimeout_kept h a id hn) trivial

/- Idle activation stays fresh along a run exactly when no step of it forgets a
pending timer. -/
theorem idle_fresh_iff (es : List (Answers × WatcherEvent)) :
    watcherSystem.Always Fresh {} es ↔ watcherSystem.Meets TimerCancelled {} es :=
  System.always_iff_meets (I := Kept) (fun _ h => h.toFresh)
    (fun _ _ _ h hn => (step_ok h hn).1) (fun _ _ _ h hn => (step_ok h hn).2) Kept.start es

/- A refused notice (activation is inhibited), the user comes back, and the
timer that the early return kept still reports the session idle. -/
def refuses : Answers := ⟨fun _ => false, false, fun _ => false⟩

def staleRun : List (Answers × WatcherEvent) :=
  [(refuses, .setActive true), (refuses, .presenceStatus 3), (refuses, .presenceStatus 0),
   (refuses, .idleTimeout 1)]

theorem idle_stale : ∃ s, watcherSystem.run {} staleRun = some s ∧
    ⟨true, true, some 0⟩ ∈ s.emitted ∧ ¬ watcherSystem.Always Fresh {} staleRun := by
  refine ⟨_, rfl, by decide, ?_⟩
  intro h
  have h4 := ((((h.2 _ rfl).2 _ rfl).2 _ rfl).2 _ rfl).1
  exact absurd (h4.emitted ⟨true, true, some 0⟩ (by decide) rfl).2 (by decide)

end MateScreensaver.Idle
