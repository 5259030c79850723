import MateScreensaver.LockPlug

/-!
The timeouts of the lock plug over whole runs: whoever is asked is never left waiting, and what
the ids of the two timeouts refer to.
-/

namespace MateScreensaver
open Runs Timeouts

namespace LockPlug

/- The source of the cancel timeout is there. -/
def CancelLive (p : LockPlug) : Prop := ∃ s ∈ p.context.sources, s.id = p.cancelTimeoutId

/-- Each id is 0 or that of the plug's own source. The cancel timeout's stays behind when the time
has expired, and is then once removed in vain. -/
structure Timers (p : LockPlug) : Prop where
  good : p.context.Good
  cancel : p.context.Slot .dialogTimedOut p.cancelTimeoutId
  response : p.context.Slot .responseCancelIdleCb p.responseIdleId
  responseLive : 0 < p.responseIdleId → ∃ s ∈ p.context.sources, s.id = p.responseIdleId
  responseDue : ∀ s ∈ p.context.sources, s.callback = .responseCancelIdleCb → s.due ≤ p.context.now + responseIdleMsec
  known : p.CancelLive ∨ p.cancelTimeoutId = 0 → p.context.unknown = p.fired
  stale : ¬ (p.CancelLive ∨ p.cancelTimeoutId = 0) → p.context.unknown + 1 = p.fired
  activity : p.lastActivity ≤ p.context.now

/-- While somebody is asked a timeout is there that ends in an answer. -/
structure Armed (p : LockPlug) : Prop where
  live : ∃ s ∈ p.context.sources, s.callback = .dialogTimedOut ∨ s.callback = .responseCancelIdleCb
  cancel : ∀ s ∈ p.context.sources, s.callback = .dialogTimedOut →
    p.context.now ≤ s.due ∧ s.due ≤ p.lastActivity + dialogTimeoutMsec
  response : ∀ s ∈ p.context.sources, s.callback = .responseCancelIdleCb →
    (p.context.now ≤ s.due ∨ p.context.now ≤ p.lastActivity) ∧
      s.due ≤ p.lastActivity + dialogTimeoutMsec + responseIdleMsec

variable {p : LockPlug} {s : Source PlugCallback} {time : ℕ} {k : PlugKey}

theorem timers_start : ({} : LockPlug).Timers where
  good := Context.good_start
  cancel := Context.slot_start _
  response := Context.slot_start _
  responseLive := fun h => absurd h (Nat.lt_irrefl 0)
  responseDue := fun _ h => nomatch h
  known := fun _ => rfl
  stale := fun h => absurd (.inr rfl) h
  activity := Nat.le_refl 0

theorem Armed.bound (h : p.Armed) : p.context.now ≤ p.lastActivity + dialogTimeoutMsec + responseIdleMsec := by
  obtain ⟨s, hs, hc | hr⟩ := h.live
  · have := h.cancel s hs hc
    omega
  · have := h.response s hs hr
    omega

/-! ### Operations -/

theorem removeCancelTimeout_pos (h : 0 < p.cancelTimeoutId) :
    p.removeCancelTimeout = { p with context := p.context.remove p.cancelTimeoutId, cancelTimeoutId := 0 } := if_pos h

theorem removeResponseIdle_pos (h : 0 < p.responseIdleId) :
    p.removeResponseIdle = { p with context := p.context.remove p.responseIdleId, responseIdleId := 0 } := if_pos h

@[simp] theorem cancelTimeoutId_removeCancelTimeout : p.removeCancelTimeout.cancelTimeoutId = 0 := by
  rw [removeCancelTimeout]
  split
  · rfl
  · next h => exact Nat.eq_zero_of_not_pos h

@[simp] theorem responseIdleId_removeResponseIdle : p.removeResponseIdle.responseIdleId = 0 := by
  rw [removeResponseIdle]
  split
  · rfl
  · next h => exact Nat.eq_zero_of_not_pos h

/- The counts stay right where neither they nor the cancel timeout change. -/
theorem Timers.counts {q : LockPlug} (h : p.Timers) (hlive : q.CancelLive ↔ p.CancelLive)
    (hid : q.cancelTimeoutId = p.cancelTimeoutId) (hunknown : q.context.unknown = p.context.unknown) (hfired : q.fired = p.fired) :
    (q.CancelLive ∨ q.cancelTimeoutId = 0 → q.context.unknown = q.fired) ∧
      (¬ (q.CancelLive ∨ q.cancelTimeoutId = 0) → q.context.unknown + 1 = q.fired) := by
  rw [hlive, hid, hunknown, hfired]
  exact ⟨h.known, h.stale⟩

theorem cancelLive_add (h : p.Timers) (delay : ℕ) (callback : PlugCallback) :
    ({ p with context := p.context.add delay callback } : LockPlug).CancelLive ↔ p.CancelLive := by
  constructor
  · intro ⟨s, hs, hid⟩
    cases Context.mem_add.1 hs with
    | inl hs => exact ⟨s, hs, hid⟩
    | inr hs =>
      subst hs
      exact absurd hid (Nat.ne_of_gt h.cancel.lt)
  · intro ⟨s, hs, hid⟩
    exact ⟨s, Context.mem_add.2 (.inl hs), hid⟩

theorem Timers.removeCancelTimeout (h : p.Timers) : p.removeCancelTimeout.Timers := by
  by_cases hpos : 0 < p.cancelTimeoutId
  · rw [removeCancelTimeout_pos hpos]
    have hunknown : (p.context.remove p.cancelTimeoutId).unknown = p.fired := by
      by_cases hlive : p.CancelLive
      · obtain ⟨s, hs, hid⟩ := hlive
        rw [Context.unknown_remove_of_mem hs hid]
        exact h.known (.inl ⟨s, hs, hid⟩)
      · have hgone : ∀ s ∈ p.context.sources, s.id ≠ p.cancelTimeoutId := fun s hs hid => hlive ⟨s, hs, hid⟩
        rw [Context.unknown_remove_of_not_mem hgone]
        exact h.stale fun hl => hl.elim hlive (Nat.ne_of_gt hpos)
    exact {
      good := h.good.remove
      cancel := h.cancel.remove_self h.good
      response := h.response.remove
      responseLive := fun hr => by
        obtain ⟨s, hs, hid⟩ := h.responseLive hr
        have hk := (h.response.own s hs).2 hid
        refine ⟨s, Context.mem_remove.2 ⟨hs, fun heq => ?_⟩, hid⟩
        have hk' := (h.cancel.own s hs).2 heq
        rw [hk] at hk'
        cases hk'
      responseDue := fun s hs hk => by
        rw [Context.now_remove]
        exact h.responseDue s (Context.mem_remove.1 hs).1 hk
      known := fun _ => hunknown
      stale := fun hs => absurd (.inr rfl) hs
      activity := by
        rw [Context.now_remove]
        exact h.activity }
  · rw [LockPlug.removeCancelTimeout, if_neg hpos]
    exact h

theorem Timers.removeResponseIdle (h : p.Timers) : p.removeResponseIdle.Timers := by
  by_cases hpos : 0 < p.responseIdleId
  · rw [removeResponseIdle_pos hpos]
    obtain ⟨s0, hs0, hid0⟩ := h.responseLive hpos
    have hunknown := Context.unknown_remove_of_mem hs0 hid0
    have hlive : ({ p with context := p.context.remove p.responseIdleId, responseIdleId := 0 } : LockPlug).CancelLive ↔
        p.CancelLive := by
      constructor
      · intro ⟨s, hs, hid⟩
        exact ⟨s, (Context.mem_remove.1 hs).1, hid⟩
      · intro ⟨s, hs, hid⟩
        refine ⟨s, Context.mem_remove.2 ⟨hs, fun heq => ?_⟩, hid⟩
        have hk := (h.cancel.own s hs).2 hid
        have hk' := (h.response.own s hs).2 heq
        rw [hk] at hk'
        cases hk'
    obtain ⟨hknown, hstale⟩ := h.counts hlive rfl hunknown rfl
    exact {
      good := h.good.remove
      cancel := h.cancel.remove
      response := h.response.remove_self h.good
      responseLive := fun hr => absurd hr (Nat.lt_irrefl 0)
      responseDue := fun s hs hk => by
        rw [Context.now_remove]
        exact h.responseDue s (Context.mem_remove.1 hs).1 hk
      known := hknown
      stale := hstale
      activity := by
        rw [Context.now_remove]
        exact h.activity }
  · rw [LockPlug.removeResponseIdle, if_neg hpos]
    exact h

theorem Timers.addCancelTimeout (h : p.Timers) (h0 : p.cancelTimeoutId = 0) : p.addCancelTimeout.Timers where
  good := h.good.add
  cancel := Context.Slot.add_self (h0 ▸ h.cancel) h.good
  response := h.response.add_of_ne (fun hk => nomatch hk)
  responseLive hr := by
    obtain ⟨s, hs, hid⟩ := h.responseLive hr
    exact ⟨s, Context.mem_add.2 (.inl hs), hid⟩
  responseDue s hs hk := by
    cases Context.mem_add.1 hs with
    | inl hs => exact h.responseDue s hs hk
    | inr hs =>
      subst hs
      cases hk
  known _ := h.known (.inr h0)
  stale hl := absurd (.inl ⟨_, Context.mem_add.2 (.inr rfl), rfl⟩) hl
  activity := h.activity

theorem Timers.addResponseIdle (h : p.Timers) (h0 : p.responseIdleId = 0) : p.addResponseIdle.Timers := by
  obtain ⟨hknown, hstale⟩ := h.counts (q := p.addResponseIdle) (cancelLive_add h responseIdleMsec _) rfl rfl rfl
  exact {
    good := h.good.add
    cancel := h.cancel.add_of_ne (fun hk => nomatch hk)
    response := Context.Slot.add_self (h0 ▸ h.response) h.good
    responseLive := fun _ => ⟨_, Context.mem_add.2 (.inr rfl), rfl⟩
    responseDue := fun s hs hk => by
      cases Context.mem_add.1 hs with
      | inl hs => exact h.responseDue s hs hk
      | inr hs =>
        subst hs
        exact Nat.le_refl _
    known := hknown
    stale := hstale
    activity := h.activity }

theorem Timers.restartCancelTimeout (h : p.Timers) : p.restartCancelTimeout.Timers :=
  h.removeCancelTimeout.addCancelTimeout cancelTimeoutId_removeCancelTimeout

theorem Timers.active (h : p.Timers) : p.active.Timers := { h with activity := Nat.le_refl _ }

theorem Timers.passes (h : p.Timers) : ({ p with context := p.context.passes time } : LockPlug).Timers := by
  have hnow : p.context.now ≤ p.context.now + time := Nat.le_add_right _ _
  exact { h with
    good := h.good.passes
    cancel := h.cancel.passes
    response := h.response.passes
    responseDue := fun s hs hk => (h.responseDue s hs hk).trans (Nat.add_le_add_right hnow _)
    activity := h.activity.trans hnow }

/-! ### Sources that are dispatched -/

theorem id_ne_of_callback_ne {s' : Source PlugCallback} {k : PlugCallback} {id : ℕ} (h : p.context.Slot k id)
    (hs : s ∈ p.context.sources) (hid : s'.id = id) (hne : s.callback ≠ k) : s'.id ≠ s.id := by
  intro heq
  exact hne ((h.own s hs).2 (heq.symm.trans hid))

/- The time is over: the source is gone, and its id stays. -/
theorem Timers.dropCancel (h : p.Timers) (hs : s ∈ p.context.sources) (hk : s.callback = .dialogTimedOut) :
    ({ p with context := p.context.drop s.id, fired := p.fired + 1 } : LockPlug).Timers := by
  have hid := (h.cancel.own s hs).1 hk
  have hne : s.callback ≠ .responseCancelIdleCb := by
    rw [hk]
    decide
  have hgone : ¬ ((∃ s' ∈ (p.context.drop s.id).sources, s'.id = p.cancelTimeoutId) ∨ p.cancelTimeoutId = 0) := by
    intro hl
    cases hl with
    | inl hl =>
      obtain ⟨s', hs', hid'⟩ := hl
      exact (Context.mem_drop.1 hs').2 (hid'.trans hid.symm)
    | inr h0 => exact Nat.ne_of_gt (h.good.given s hs).1 (hid.trans h0)
  exact {
    good := h.good.drop
    cancel := h.cancel.drop
    response := h.response.drop
    responseLive := fun hr => by
      obtain ⟨s', hs', hid'⟩ := h.responseLive hr
      exact ⟨s', Context.mem_drop.2 ⟨hs', id_ne_of_callback_ne h.response hs hid' hne⟩, hid'⟩
    responseDue := fun s' hs' => h.responseDue s' (Context.mem_drop.1 hs').1
    known := fun hl => absurd hl hgone
    stale := fun _ => congrArg (· + 1) (h.known (.inl ⟨s, hs, hid⟩))
    activity := h.activity }

theorem cancelLive_drop (h : p.Timers) (hs : s ∈ p.context.sources) (hne : s.callback ≠ .dialogTimedOut) :
    ({ p with context := p.context.drop s.id } : LockPlug).CancelLive ↔ p.CancelLive := by
  constructor
  · intro ⟨s', hs', hid'⟩
    exact ⟨s', (Context.mem_drop.1 hs').1, hid'⟩
  · intro ⟨s', hs', hid'⟩
    exact ⟨s', Context.mem_drop.2 ⟨hs', id_ne_of_callback_ne h.cancel hs hid' hne⟩, hid'⟩

theorem Timers.dropResponse (h : p.Timers) (hs : s ∈ p.context.sources) (hk : s.callback = .responseCancelIdleCb) :
    ({ p with context := p.context.drop s.id, responseIdleId := 0 } : LockPlug).Timers := by
  have hid := (h.response.own s hs).1 hk
  have hlive := cancelLive_drop h hs (by rw [hk]; decide)
  obtain ⟨hknown, hstale⟩ := h.counts (q := { p with context := p.context.drop s.id, responseIdleId := 0 }) hlive rfl rfl rfl
  exact {
    good := h.good.drop
    cancel := h.cancel.drop
    response := (h.response.drop).clear h.good.drop fun s' hs' heq => (Context.mem_drop.1 hs').2 (heq.trans hid.symm)
    responseLive := fun hr => absurd hr (Nat.lt_irrefl 0)
    responseDue := fun s' hs' => h.responseDue s' (Context.mem_drop.1 hs').1
    known := hknown
    stale := hstale
    activity := h.activity }

theorem Timers.dropReset (h : p.Timers) (hs : s ∈ p.context.sources) (hk : s.callback = .resetIdleCb) :
    ({ p with context := p.context.drop s.id } : LockPlug).Timers := by
  have hlive := cancelLive_drop h hs (by rw [hk]; decide)
  obtain ⟨hknown, hstale⟩ := h.counts hlive rfl rfl rfl
  have hne : s.callback ≠ .responseCancelIdleCb := by
    rw [hk]
    decide
  exact {
    good := h.good.drop
    cancel := h.cancel.drop
    response := h.response.drop
    responseLive := fun hr => by
      obtain ⟨s', hs', hid'⟩ := h.responseLive hr
      exact ⟨s', Context.mem_drop.2 ⟨hs', id_ne_of_callback_ne h.response hs hid' hne⟩, hid'⟩
    responseDue := fun s' hs' => h.responseDue s' (Context.mem_drop.1 hs').1
    known := hknown
    stale := hstale
    activity := h.activity }

theorem Timers.addReset (h : p.Timers) : ({ p with context := p.context.add resetIdleMsec .resetIdleCb } : LockPlug).Timers := by
  obtain ⟨hknown, hstale⟩ := h.counts (cancelLive_add h resetIdleMsec .resetIdleCb) rfl rfl rfl
  exact {
    good := h.good.add
    cancel := h.cancel.add_of_ne (fun hk => nomatch hk)
    response := h.response.add_of_ne (fun hk => nomatch hk)
    responseLive := fun hr => by
      obtain ⟨s, hs, hid⟩ := h.responseLive hr
      exact ⟨s, Context.mem_add.2 (.inl hs), hid⟩
    responseDue := fun s hs hk => by
      cases Context.mem_add.1 hs with
      | inl hs => exact h.responseDue s hs hk
      | inr hs =>
        subst hs
        cases hk
    known := hknown
    stale := hstale
    activity := h.activity }

/-! ### Whoever is asked -/

/- The timeouts are in order, and somebody who is asked has one. -/
structure Watched (p : LockPlug) : Prop where
  timers : p.Timers
  armed : p.asked = true → p.Armed

theorem watched_of_not_asked (h : p.Timers) (hasked : p.asked = false) : p.Watched :=
  ⟨h, fun ha => absurd (hasked.symm.trans ha) (by decide)⟩

/- Where only other fields change. -/
theorem Watched.congr {p' : LockPlug} (h : p.Watched) (hcontext : p'.context = p.context)
    (hcancel : p'.cancelTimeoutId = p.cancelTimeoutId) (hresponse : p'.responseIdleId = p.responseIdleId)
    (hrun : p'.asked = true → p.asked = true) (hactivity : p'.lastActivity = p.lastActivity) (hfired : p'.fired = p.fired) :
    p'.Watched := by
  obtain ⟨ht, ha⟩ := h
  constructor
  · constructor
    · rw [hcontext]
      exact ht.good
    · rw [hcontext, hcancel]
      exact ht.cancel
    · rw [hcontext, hresponse]
      exact ht.response
    · rw [hcontext, hresponse]
      exact ht.responseLive
    · rw [hcontext]
      exact ht.responseDue
    · rw [CancelLive, hcontext, hcancel, hfired]
      exact ht.known
    · rw [CancelLive, hcontext, hcancel, hfired]
      exact ht.stale
    · rw [hcontext, hactivity]
      exact ht.activity
  · intro hasked
    obtain ⟨hlive, hc, hr⟩ := ha (hrun hasked)
    constructor
    · rw [hcontext]
      exact hlive
    · rw [hcontext, hactivity]
      exact hc
    · rw [hcontext, hactivity]
      exact hr

theorem asked_runResponseHandler (r : PlugResponse) (p : LockPlug) : (p.runResponseHandler r).asked = false := by
  rw [runResponseHandler, asked]
  cases p.runInfo <;> rfl

theorem now_removeCancelTimeout : p.removeCancelTimeout.context.now = p.context.now := by
  rw [removeCancelTimeout]
  split
  · exact Context.now_remove
  · rfl

theorem lastActivity_removeCancelTimeout : p.removeCancelTimeout.lastActivity = p.lastActivity := by
  rw [removeCancelTimeout]
  split <;> rfl

theorem runInfo_removeCancelTimeout : p.removeCancelTimeout.runInfo = p.runInfo := by
  rw [removeCancelTimeout]
  split <;> rfl

theorem runInfo_removeResponseIdle : p.removeResponseIdle.runInfo = p.runInfo := by
  rw [removeResponseIdle]
  split <;> rfl

theorem asked_of_runInfo {p q : LockPlug} (h : p.runInfo = q.runInfo) : p.asked = q.asked := by
  rw [asked, asked, h]

theorem now_removeResponseIdle : p.removeResponseIdle.context.now = p.context.now := by
  rw [removeResponseIdle]
  split
  · exact Context.now_remove
  · rfl

theorem lastActivity_removeResponseIdle : p.removeResponseIdle.lastActivity = p.lastActivity := by
  rw [removeResponseIdle]
  split <;> rfl

/- With a cancel timeout that has just been started. -/
theorem armed_restart (h : p.Timers) (hactive : p.lastActivity = p.context.now) : p.restartCancelTimeout.Armed := by
  have hgone := h.removeCancelTimeout
  have hslot := hgone.cancel
  rw [cancelTimeoutId_removeCancelTimeout] at hslot
  have hnow : p.restartCancelTimeout.context.now = p.context.now := now_removeCancelTimeout
  have hlast : p.restartCancelTimeout.lastActivity = p.context.now := lastActivity_removeCancelTimeout.trans hactive
  constructor
  · exact ⟨_, Context.mem_add.2 (.inr rfl), .inl rfl⟩
  · intro s hs hk
    rw [hnow, hlast]
    cases Context.mem_add.1 hs with
    | inl hs => exact absurd hk (hslot.callback_ne hgone.good hs)
    | inr hs =>
      subst hs
      rw [now_removeCancelTimeout]
      exact ⟨Nat.le_add_right _ _, Nat.le_refl _⟩
  · intro s hs hk
    rw [hnow, hlast]
    cases Context.mem_add.1 hs with
    | inl hs =>
      have hdue := hgone.responseDue s hs hk
      rw [now_removeCancelTimeout] at hdue
      exact ⟨.inr (Nat.le_refl _), by omega⟩
    | inr hs =>
      subst hs
      cases hk

/- With a response that is on its way, and no time passed that the others would forbid. -/
theorem armed_addResponseIdle (h : p.Timers) (h0 : p.responseIdleId = 0) (hnow : p.context.now ≤ p.lastActivity + dialogTimeoutMsec)
    (hcancel : ∀ s ∈ p.context.sources, s.callback = .dialogTimedOut →
      p.context.now ≤ s.due ∧ s.due ≤ p.lastActivity + dialogTimeoutMsec) : p.addResponseIdle.Armed := by
  have hslot : p.context.Slot .responseCancelIdleCb 0 := h0 ▸ h.response
  constructor
  · exact ⟨_, Context.mem_add.2 (.inr rfl), .inr rfl⟩
  · intro s hs hk
    cases Context.mem_add.1 hs with
    | inl hs => exact hcancel s hs hk
    | inr hs =>
      subst hs
      cases hk
  · intro s hs hk
    cases Context.mem_add.1 hs with
    | inl hs => exact absurd hk (hslot.callback_ne h.good hs)
    | inr hs =>
      subst hs
      exact ⟨.inl (Nat.le_add_right _ _), Nat.add_le_add_right hnow _⟩

end LockPlug

namespace PlugProcess
open LockPlug

variable {x x' : PlugProcess} {r : PlugResponse} {k : PlugKey} {ks : List PlugKey}

/- An answer ends the loop, whatever it is. -/
theorem asked_response (hr : r = .ok ∨ r = .cancel) : (x.response r).plug.asked = false := by
  rw [response, if_pos hr]
  exact asked_runResponseHandler _ _

theorem timers_response (h : x.plug.Timers) : (x.response r).plug.Timers := by
  have hgone := h.removeCancelTimeout.removeResponseIdle
  cases r with
  | ok => exact { hgone with }
  | cancel => exact { hgone with }
  | deleteEvent => exact h

theorem watched_response (h : x.plug.Timers) (hr : r = .ok ∨ r = .cancel) : (x.response r).plug.Watched :=
  watched_of_not_asked (timers_response h) (asked_response hr)

/- What activating the default widget does, if anything. -/
theorem activateDefault_cases (x : PlugProcess) :
    x.activateDefault = x ∨ x.activateDefault = x.response .ok ∨ x.activateDefault = x.response .cancel := by
  rw [activateDefault]
  cases x.plug.defaultWidget with
  | unlockButton =>
    dsimp only
    split
    · exact .inr (.inl rfl)
    · exact .inl rfl
  | cancelButton =>
    dsimp only
    split
    · exact .inr (.inr rfl)
    · exact .inl rfl

theorem watched_deliver (h : x.plug.Watched) : (x.deliver k).plug.Watched := by
  have hkey : (x.onPlug fun p => { p with received := p.received ++ [k] }).plug.Watched :=
    h.congr rfl rfl rfl id rfl rfl
  rw [deliver]
  split
  · rcases activateDefault_cases (x.onPlug fun p => { p with received := p.received ++ [k] }) with heq | heq | heq
    · rw [heq]
      exact hkey
    · rw [heq]
      exact watched_response hkey.timers (.inl rfl)
    · rw [heq]
      exact watched_response hkey.timers (.inr rfl)
  · exact hkey.congr rfl rfl rfl id rfl rfl

/- A key asks nobody. -/
theorem asked_deliver (h : x.plug.asked = false) : (x.deliver k).plug.asked = false := by
  rw [deliver]
  split
  · rcases activateDefault_cases (x.onPlug fun p => { p with received := p.received ++ [k] }) with heq | heq | heq
    · rw [heq]
      exact h
    · rw [heq]
      exact asked_response (.inl rfl)
    · rw [heq]
      exact asked_response (.inr rfl)
  · exact h

theorem watched_forward (ks : List PlugKey) (h : x.plug.Watched) (hasked : x.plug.asked = false) :
    (x.forward ks).plug.Watched ∧ (x.forward ks).plug.asked = false := by
  induction ks generalizing x with
  | nil => exact ⟨h.congr rfl rfl rfl id rfl rfl, hasked⟩
  | cons k ks ih => exact ih (watched_deliver h) (asked_deliver hasked)

/- Neither the clock nor the time of the last activity. -/
def SameClock (x x' : PlugProcess) : Prop :=
  x'.plug.context.now = x.plug.context.now ∧ x'.plug.lastActivity = x.plug.lastActivity

theorem sameClock_response (r : PlugResponse) (x : PlugProcess) : x.SameClock (x.response r) := by
  have hnow : x.plug.removeCancelTimeout.removeResponseIdle.context.now = x.plug.context.now :=
    now_removeResponseIdle.trans now_removeCancelTimeout
  have hlast : x.plug.removeCancelTimeout.removeResponseIdle.lastActivity = x.plug.lastActivity :=
    lastActivity_removeResponseIdle.trans lastActivity_removeCancelTimeout
  cases r with
  | ok => exact ⟨hnow, hlast⟩
  | cancel => exact ⟨hnow, hlast⟩
  | deleteEvent => exact ⟨rfl, rfl⟩

theorem sameClock_deliver (k : PlugKey) (x : PlugProcess) : x.SameClock (x.deliver k) := by
  rw [deliver]
  split
  · rcases activateDefault_cases (x.onPlug fun p => { p with received := p.received ++ [k] }) with heq | heq | heq
    · rw [heq]
      exact ⟨rfl, rfl⟩
    · rw [heq]
      exact sameClock_response .ok _
    · rw [heq]
      exact sameClock_response .cancel _
  · exact ⟨rfl, rfl⟩

theorem sameClock_forward (ks : List PlugKey) (x : PlugProcess) : x.SameClock (x.forward ks) := by
  induction ks generalizing x with
  | nil => exact ⟨rfl, rfl⟩
  | cons k ks ih =>
    obtain ⟨hnow, hlast⟩ := sameClock_deliver k x
    obtain ⟨hnow', hlast'⟩ := ih (x.deliver k)
    exact ⟨hnow'.trans hnow, hlast'.trans hlast⟩

/-! ### Steps -/

theorem watched_restart {p : LockPlug} (h : p.Timers) (hactive : p.lastActivity = p.context.now) :
    p.restartCancelTimeout.Watched := ⟨h.restartCancelTimeout, fun _ => armed_restart h hactive⟩

theorem watched_requestResponse (h : x.plug.Timers) (hasked : x.plug.asked = false) : x.requestResponse.plug.Watched := by
  have hready : ({ x.plug.active.setSensitive true with
      unlockSensitive := true, defaultWidget := .unlockButton, entrySensitive := true } : LockPlug).Watched :=
    watched_of_not_asked { h.active with } hasked
  obtain ⟨hforward, -⟩ := watched_forward (x := ⟨x.dialog, _⟩) x.plug.keyEvents.reverse hready hasked
  have hclock := sameClock_forward x.plug.keyEvents.reverse ⟨x.dialog, { x.plug.active.setSensitive true with
      unlockSensitive := true, defaultWidget := .unlockButton, entrySensitive := true }⟩
  have harmed := armed_restart hforward.timers (hclock.2.trans hclock.1.symm)
  exact ⟨{ hforward.timers.restartCancelTimeout with }, fun _ => { harmed with }⟩

theorem watched_entryKeyPress (h : x.plug.Timers) : (x.entryKeyPress k).plug.Watched := by
  have hrestart := watched_restart h.active rfl
  rw [entryKeyPress]
  split
  · have hdeliver := watched_deliver (x := ⟨x.dialog, { x.plug.active.restartCancelTimeout with
      typed := x.plug.active.restartCancelTimeout.typed ++ [k] }⟩) (k := k) (hrestart.congr rfl rfl rfl id rfl rfl)
    split
    · exact watched_response hdeliver.timers (.inr rfl)
    · exact hdeliver
  · split
    · exact hrestart
    · exact hrestart.congr rfl rfl rfl id rfl rfl

theorem watched_dialogTimedOut {p : LockPlug} {s : Source PlugCallback} (h : p.Watched) (hs : s ∈ p.context.sources)
    (hk : s.callback = .dialogTimedOut) (hdue : s.due ≤ p.context.now) :
    ({ p with context := p.context.drop s.id } : LockPlug).dialogTimedOut.Watched := by
  have hdrop : ({ p with
      context := p.context.drop s.id, fired := p.fired + 1, entrySensitive := false, areaSensitive := false } : LockPlug).Timers :=
    { h.timers.dropCancel hs hk with }
  have hremoved := hdrop.removeResponseIdle
  refine ⟨hremoved.addResponseIdle responseIdleId_removeResponseIdle, fun hasked => ?_⟩
  have hp : p.asked = true := by
    have hinfo : ({ p with context := p.context.drop s.id } : LockPlug).dialogTimedOut.runInfo = p.runInfo :=
      runInfo_removeResponseIdle
    exact (asked_of_runInfo hinfo).symm.trans hasked
  have harmed := h.armed hp
  obtain ⟨hnow, hbound⟩ := harmed.cancel s hs hk
  apply armed_addResponseIdle hremoved responseIdleId_removeResponseIdle
  · rw [now_removeResponseIdle, lastActivity_removeResponseIdle]
    exact (Nat.le_antisymm hnow hdue) ▸ hbound
  · intro s' hs' hk'
    rw [now_removeResponseIdle, lastActivity_removeResponseIdle]
    have hmem : s' ∈ (p.context.drop s.id).sources := by
      rw [LockPlug.removeResponseIdle] at hs'
      split at hs'
      · exact (Context.mem_remove.1 hs').1
      · exact hs'
    exact harmed.cancel s' (Context.mem_drop.1 hmem).1 hk'

theorem watched_dropReset {p : LockPlug} {s : Source PlugCallback} (h : p.Watched) (hs : s ∈ p.context.sources)
    (hk : s.callback = .resetIdleCb) : ({ p with context := p.context.drop s.id } : LockPlug).Watched := by
  refine ⟨h.timers.dropReset hs hk, fun hasked => ?_⟩
  obtain ⟨⟨s', hs', hk'⟩, hcancel, hresponse⟩ := h.armed hasked
  constructor
  · refine ⟨s', Context.mem_drop.2 ⟨hs', fun hid => ?_⟩, hk'⟩
    have heq := h.timers.good.unique s' hs' s hs hid
    rw [heq, hk] at hk'
    cases hk' with
    | inl hk' => cases hk'
    | inr hk' => cases hk'
  · exact fun s' hs' => hcancel s' (Context.mem_drop.1 hs').1
  · exact fun s' hs' => hresponse s' (Context.mem_drop.1 hs').1

theorem watched_dispatch {s : Source PlugCallback} (h : x.plug.Watched) (hs : s ∈ x.plug.context.sources)
    (hdue : s.due ≤ x.plug.context.now) :
    ((x.onPlug fun p => { p with context := p.context.drop s.id }).callback s.callback).plug.Watched := by
  cases hk : s.callback with
  | dialogTimedOut => exact watched_dialogTimedOut h hs hk hdue
  | responseCancelIdleCb =>
    exact watched_response (x := ⟨x.dialog, { x.plug with context := x.plug.context.drop s.id, responseIdleId := 0 }⟩)
      (h.timers.dropResponse hs hk) (.inr rfl)
  | resetIdleCb => exact (watched_dropReset h hs hk).congr rfl rfl rfl id rfl rfl

/- Time passes, and what is due comes first for somebody who waits. -/
theorem watched_passes {p : LockPlug} {time : ℕ} (h : p.Watched) (hw : p.asked = true → p.context.waits time = true) :
    ({ p with context := p.context.passes time } : LockPlug).Watched := by
  refine ⟨h.timers.passes, fun hasked => ?_⟩
  obtain ⟨hlive, hcancel, hresponse⟩ := h.armed hasked
  have hwaits := hw hasked
  constructor
  · exact hlive
  · exact fun s hs hk => ⟨Context.le_due_of_waits hwaits hs, (hcancel s hs hk).2⟩
  · exact fun s hs hk => ⟨.inl (Context.le_due_of_waits hwaits hs), (hresponse s hs hk).2⟩

theorem watched_switchUser (h : x.plug.Watched) : x.switchUserButtonClicked.plug.Watched := by
  have hremoved := h.timers.active.removeResponseIdle
  have hready : (x.plug.active.removeResponseIdle.setSensitive false).Timers := { hremoved with }
  refine ⟨hready.addResponseIdle responseIdleId_removeResponseIdle, fun hasked => ?_⟩
  have hp : x.plug.asked = true := by
    have hinfo : x.switchUserButtonClicked.plug.runInfo = x.plug.runInfo := runInfo_removeResponseIdle
    exact (asked_of_runInfo hinfo).symm.trans hasked
  have harmed := h.armed hp
  have hactivity := h.timers.activity
  have hclock : x.plug.active.removeResponseIdle.context.now = x.plug.context.now := now_removeResponseIdle
  have hlast : x.plug.active.removeResponseIdle.lastActivity = x.plug.context.now := lastActivity_removeResponseIdle
  apply armed_addResponseIdle hready responseIdleId_removeResponseIdle
  · change x.plug.active.removeResponseIdle.context.now ≤ x.plug.active.removeResponseIdle.lastActivity + dialogTimeoutMsec
    omega
  · intro s hs hk
    change x.plug.active.removeResponseIdle.context.now ≤ s.due ∧ s.due ≤ x.plug.active.removeResponseIdle.lastActivity + dialogTimeoutMsec
    have hmem : s ∈ x.plug.context.sources := by
      change s ∈ x.plug.active.removeResponseIdle.context.sources at hs
      rw [LockPlug.removeResponseIdle] at hs
      split at hs
      · exact (Context.mem_remove.1 hs).1
      · exact hs
    have hold := harmed.cancel s hmem hk
    omega

theorem timers_widgetShow {id : UInt32} (h : x.plug.Timers) : (x.widgetShow id).plug.Timers := by
  rw [widgetShow]
  split
  · exact h
  · exact Timers.restartCancelTimeout { h with }

theorem asked_widgetShow {id : UInt32} : (x.widgetShow id).plug.asked = x.plug.asked := by
  rw [widgetShow]
  split
  · rfl
  · have hrun : x.plug.onShow.runInfo = x.plug.runInfo := runInfo_removeCancelTimeout
    rw [asked, asked, hrun]

theorem timers_verifyUserReturns {res : Bool} (h : x.plug.Timers) : (x.verifyUserReturns res).plug.Timers := by
  have hdone : ({ x.plug with verifying := false } : LockPlug).Timers := { h with }
  rw [verifyUserReturns]
  split
  · exact hdone.addReset
  · exact hdone

theorem asked_of_runInfo_none {p : LockPlug} (h : p.runInfo = none) : p.asked = false := by
  rw [asked, h]

theorem watched_next {e : PlugEvent} (h : x.plug.Watched) (hn : x.next e = some x') : x'.plug.Watched := by
  obtain ⟨hready, hhandle⟩ := Option.ite_none_right_eq_some.1 hn
  cases e with
  | main e =>
    cases hhandle
    exact h
  | authCheckIdle =>
    cases hhandle
    exact h.congr rfl rfl rfl id rfl rfl
  | prompt id =>
    cases hhandle
    have hnone := asked_of_runInfo_none (of_decide_eq_true hready).2.2.2
    exact watched_requestResponse (timers_widgetShow h.timers) (asked_widgetShow.trans hnone)
  | message id =>
    cases hhandle
    have hnone := asked_of_runInfo_none (of_decide_eq_true hready).2.2.2
    exact watched_of_not_asked (timers_widgetShow h.timers) (asked_widgetShow.trans hnone)
  | runReturns converts =>
    obtain ⟨ri, -, rfl⟩ := Option.map_eq_some_iff.1 hhandle
    rw [onPlug, LockPlug.runReturns]
    split
    · split
      · exact watched_of_not_asked { h.timers with } rfl
      · exact watched_of_not_asked { h.timers with } rfl
    · exact watched_of_not_asked { h.timers with } rfl
  | verifyUserReturns res =>
    cases hhandle
    rw [ready, Bool.and_eq_true, decide_eq_true_eq] at hready
    have hnone : (x.verifyUserReturns res).plug.asked = false := by
      apply asked_of_runInfo_none
      rw [verifyUserReturns]
      split
      · exact hready.2
      · exact hready.2
    exact watched_of_not_asked (timers_verifyUserReturns h.timers) hnone
  | keyPress k =>
    cases hhandle
    exact watched_entryKeyPress h.timers
  | unlockButtonClicked =>
    cases hhandle
    exact watched_response h.timers (.inl rfl)
  | cancelButtonClicked =>
    cases hhandle
    exact watched_response h.timers (.inr rfl)
  | submitNote =>
    cases hhandle
    exact watched_response h.timers (.inr rfl)
  | deleteEvent =>
    cases hhandle
    exact watched_response h.timers (.inr rfl)
  | switchUserButtonClicked =>
    cases hhandle
    exact watched_switchUser h
  | takeNote =>
    cases hhandle
    exact watched_restart h.timers.active rfl
  | cancelNote =>
    cases hhandle
    exact (watched_restart h.timers.active rfl).congr rfl rfl rfl id rfl rfl
  | unmap =>
    cases hhandle
    have hasked : x.plug.runUnmapHandler.asked = false := by
      rw [runUnmapHandler, asked]
      cases x.plug.runInfo <;> rfl
    exact watched_of_not_asked { h.timers with } hasked
  | dispatch id =>
    obtain ⟨⟨s, c⟩, hdispatch, rfl⟩ := Option.map_eq_some_iff.1 hhandle
    obtain ⟨hs, rfl, hdue, rfl⟩ := Context.dispatch_eq_some hdispatch
    exact watched_dispatch h hs hdue
  | passes time =>
    cases hhandle
    apply watched_passes h
    intro hasked
    rw [ready, hasked] at hready
    exact hready

theorem watched_reachable (h : system.Reachable x) : x.plug.Watched := by
  induction h with
  | start hs =>
    cases hs
    exact watched_of_not_asked timers_start rfl
  | step _ hn ih => exact watched_next ih hn

/-- Whatever happens, a prompt is not left open: as long as somebody is asked, a timeout is there
that answers for them, and no more than 62 seconds have passed since they were asked, pressed a
key or a button. -/
theorem prompt_not_left_open (h : system.Reachable x) (hasked : x.plug.asked = true) :
    (∃ s ∈ x.plug.context.sources, s.callback = .dialogTimedOut ∨ s.callback = .responseCancelIdleCb) ∧
      x.plug.context.now ≤ x.plug.lastActivity + 62000 := by
  have harmed := (watched_reachable h).armed hasked
  exact ⟨harmed.live, harmed.bound⟩

def someKey : PlugKey := ⟨⟨0x61, 38, 0⟩, ['a']⟩

/- Somebody is asked, types one letter after 59 seconds, and then nothing. -/
def waitingRun : List PlugEvent :=
  [.main (.privilegedInitialization true), .main (.lockInitialization true), .main .popupDialogIdle, .authCheckIdle,
    .prompt 7, .passes 59000, .keyPress someKey, .passes 60000, .dispatch 3, .passes 2000]

def waitingProcess : PlugProcess := (system.run {} waitingRun).getD {}

theorem waiting_run : system.run {} waitingRun = some waitingProcess := rfl

theorem waiting_reachable : system.Reachable waitingProcess := System.reachable_run (.start rfl) waiting_run

theorem prompt_not_left_open_waiting :
    (∃ s ∈ waitingProcess.plug.context.sources, s.callback = .dialogTimedOut ∨ s.callback = .responseCancelIdleCb) ∧
      waitingProcess.plug.context.now ≤ waitingProcess.plug.lastActivity + 62000 :=
  prompt_not_left_open waiting_reachable (by decide)

/-- The plug never removes a timeout that is not its own. The id that dialog_timed_out leaves
behind is removed in vain once each time the time has expired, and that is all. -/
theorem cancel_timeout_removed_in_vain (h : system.Reachable x) :
    (∀ s ∈ x.plug.context.sources, s.id = x.plug.cancelTimeoutId ↔ s.callback = .dialogTimedOut) ∧
      (∀ s ∈ x.plug.context.sources, s.id = x.plug.responseIdleId ↔ s.callback = .responseCancelIdleCb) ∧
      x.plug.context.unknown + (if x.plug.cancelTimeoutId ≠ 0 ∧ ∀ s ∈ x.plug.context.sources, s.id ≠ x.plug.cancelTimeoutId
        then 1 else 0) = x.plug.fired := by
  have ht := (watched_reachable h).timers
  refine ⟨fun s hs => (ht.cancel.own s hs).symm, fun s hs => (ht.response.own s hs).symm, ?_⟩
  split
  · next hgone =>
    apply ht.stale
    intro hl
    cases hl with
    | inl hl =>
      obtain ⟨s, hs, hid⟩ := hl
      exact hgone.2 s hs hid
    | inr h0 => exact hgone.1 h0
  · next hthere =>
    apply ht.known
    by_cases h0 : x.plug.cancelTimeoutId = 0
    · exact .inr h0
    · exact .inl (Classical.byContradiction fun hnone => hthere ⟨h0, fun s hs hid => hnone ⟨s, hs, hid⟩⟩)

theorem cancel_timeout_removed_in_vain_waiting :
    (∀ s ∈ waitingProcess.plug.context.sources,
        s.id = waitingProcess.plug.cancelTimeoutId ↔ s.callback = .dialogTimedOut) ∧
      (∀ s ∈ waitingProcess.plug.context.sources,
        s.id = waitingProcess.plug.responseIdleId ↔ s.callback = .responseCancelIdleCb) ∧
      waitingProcess.plug.context.unknown + (if waitingProcess.plug.cancelTimeoutId ≠ 0 ∧
          ∀ s ∈ waitingProcess.plug.context.sources, s.id ≠ waitingProcess.plug.cancelTimeoutId then 1 else 0) =
        waitingProcess.plug.fired :=
  cancel_timeout_removed_in_vain waiting_reachable

end PlugProcess
end MateScreensaver
