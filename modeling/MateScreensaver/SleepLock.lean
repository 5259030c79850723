import MateScreensaver.Apart
import MateScreensaver.Lock

/-!
The delay lock of logind: the descriptor that holds a suspend back, taken at the
start and at every resume, and let go of when the system is about to sleep.
-/

namespace MateScreensaver
open Runs System

namespace Screensaver

variable {env : Env} {s t : Screensaver} {e : Event}

/- The open descriptors that logind's Inhibit has given. gs-listener-dbus.c:1794
closes the recorded one, and :1801 has one more unless the call fails; no other
event opens or closes any. -/
def descriptors (env : Env) (s : Screensaver) (fds : List Nat) : Event → List Nat
  | .systemSignal _ (.prepareForSleep active) =>
    if !s.hearsLogind then fds
    else if active then
      if s.listener.logindInhibitLock = 0 then fds else fds.erase s.listener.logindInhibitLock
    else if env.logindInhibit = 0 then fds else env.logindInhibit :: fds
  | _ => fds

def recordedLock (fd : Nat) : List Nat := if fd = 0 then [] else [fd]

/-- The screensaver with its open descriptors; gs_listener_acquire takes the first. -/
def withDescriptors : System (Screensaver × List Nat) (Env × Event) where
  init x := ∃ b env, x = (Boot.start b env, recordedLock b.logindInhibitLock)
  next x label := (screensaver.next x.1 label).map fun t => (t, descriptors label.1 x.1 x.2 label.2)

/-- At most one descriptor is open, and it is the recorded one. -/
def Accounted (x : Screensaver × List Nat) : Prop :=
  x.2.length ≤ 1 ∧ ∀ fd ∈ x.2, fd = x.1.listener.logindInhibitLock

/- What is wanted of a step: the account stays right, and falling asleep leaves
nothing open. -/
def LetsGo (x : Screensaver × List Nat) (label : Env × Event) (y : Screensaver × List Nat) : Prop :=
  Accounted y ∧ ∀ sender, label.2 = .systemSignal sender (.prepareForSleep true) →
    x.1.hearsLogind = true → y.2 = []

/- Exactly the recorded descriptor is open. -/
def Held (x : Screensaver × List Nat) : Prop := x.2 = recordedLock x.1.listener.logindInhibitLock

theorem Held.accounted {x : Screensaver × List Nat} (h : Held x) : Accounted x := by
  rw [Accounted, h, recordedLock]
  split
  · exact ⟨Nat.zero_le 1, fun fd hfd => absurd hfd List.not_mem_nil⟩
  · exact ⟨Nat.le_refl 1, fun fd hfd => List.mem_singleton.1 hfd⟩

theorem start_held (b : Boot) (env : Env) : Held (b.start env, recordedLock b.logindInhibitLock) := by
  have hlock : (b.start env).listener.logindInhibitLock = b.logindInhibitLock := by
    rw [Boot.start, updateFromPrefs_eq]
    dsimp only
    have hsettle : ∀ v : Screensaver, v.settle.listener.logindInhibitLock = v.listener.logindInhibitLock := by
      intro v
      simp only [settle]
      split
      · rfl
      · rfl
    split
    · exact hsettle _
    · exact hsettle _
  rw [Held, hlock]

/-! ### One signal -/

theorem prepareForSleepCb_listener (h : s.listenerPrepareForSleepCb env = some t) : t.listener = s.listener := by
  simp only [listenerPrepareForSleepCb] at h
  split at h
  · obtain ⟨v, -, rfl⟩ := Option.map_eq_some_iff.1 h
    rfl
  · cases h
    rfl

theorem sleep_handled {sender : BusName} {b : Bool} (hl : s.hearsLogind = true)
    (h : s.step (env, .systemSignal sender (.prepareForSleep b)) = some t) :
    (s.tick env).prepareForSleep env b = some t := by
  have hdispatch : (s.tick env).listenerDbusHandleSystemMessage env sender (.prepareForSleep b) = some t :=
    step_dispatch h
  have hl' : (s.config.withSystemd && s.listener.haveSystemd) = true := hl
  rw [listenerDbusHandleSystemMessage] at hdispatch
  exact (if_pos hl').symm.trans hdispatch

theorem asleep_lock {sender : BusName} (hl : s.hearsLogind = true)
    (h : s.step (env, .systemSignal sender (.prepareForSleep true)) = some t) :
    t.listener.logindInhibitLock = 0 := by
  obtain ⟨v, -, rfl⟩ := Option.map_eq_some_iff.1 (sleep_handled hl h)
  rfl

/-- A resume records what Inhibit gives, whatever was recorded before. -/
theorem awake_lock {sender : BusName} (hl : s.hearsLogind = true)
    (h : s.step (env, .systemSignal sender (.prepareForSleep false)) = some t) :
    t.listener.logindInhibitLock = env.logindInhibit :=
  congrArg GSListener.logindInhibitLock (prepareForSleepCb_listener (sleep_handled hl h))

theorem descriptors_awake {sender : BusName} (fds : List Nat) (hl : s.hearsLogind = true) :
    descriptors env s fds (.systemSignal sender (.prepareForSleep false)) =
      recordedLock env.logindInhibit ++ fds := by
  simp only [descriptors, hl, recordedLock]
  by_cases h0 : env.logindInhibit = 0
  · simp [h0]
  · simp [h0]

theorem descriptors_asleep {sender : BusName} (hl : s.hearsLogind = true) :
    descriptors env s (recordedLock s.listener.logindInhibitLock)
      (.systemSignal sender (.prepareForSleep true)) = [] := by
  simp only [descriptors, hl, recordedLock]
  by_cases h0 : s.listener.logindInhibitLock = 0
  · simp [h0]
  · simp [h0]

theorem descriptors_silent (env : Env) (fds : List Nat) (h : ¬ s.Sleeps e) : descriptors env s fds e = fds := by
  unfold descriptors
  split
  · next sender b =>
    have hl : s.hearsLogind = false := by
      by_contra hne
      exact h ⟨Bool.not_eq_false _ ▸ hne, sender, b, rfl⟩
    rw [hl]
    rfl
  · rfl

/-- The descriptor of the last lock and the new one are both accounted for only
when there was no last one. -/
theorem accounted_awake {fd : Nat} (old : Nat) (h : t.listener.logindInhibitLock = fd) :
    Accounted (t, recordedLock fd ++ recordedLock old) ↔ old = 0 := by
  constructor
  · rintro ⟨hlen, hmem⟩
    by_contra hne
    have hold : recordedLock old = [old] := if_neg hne
    by_cases h0 : fd = 0
    · have hfd := hmem old (by rw [hold]; simp)
      exact hne (hfd.trans (h.trans h0))
    · have hnew : recordedLock fd = [fd] := if_neg h0
      have htwo : ([fd] ++ [old]).length ≤ 1 := by rw [← hnew, ← hold]; exact hlen
      exact absurd htwo (Nat.not_succ_le_self 1)
  · rintro rfl
    have hheld : Held (t, recordedLock fd) := by rw [Held, h]
    have hnone : recordedLock 0 = [] := rfl
    rw [hnone, List.append_nil]
    exact hheld.accounted

/-! ### Runs -/

/- A resume comes while no descriptor is recorded. -/
def Resumes (s : Screensaver) (e : Event) : Prop :=
  ∀ sender, e = .systemSignal sender (.prepareForSleep false) → s.hearsLogind = true →
    s.listener.logindInhibitLock = 0

theorem descriptors_step {x y : Screensaver × List Nat} {label : Env × Event}
    (hs : x.1.Agreed ∧ x.1.saver.Housed) (hx : Held x) (h : withDescriptors.next x label = some y) :
    (LetsGo x label y ↔ x.1.Resumes label.2) ∧ (x.1.Resumes label.2 → Held y) := by
  obtain ⟨t, ht, rfl⟩ := Option.map_eq_some_iff.1 h
  obtain ⟨s, fds⟩ := x
  obtain ⟨env, e⟩ := label
  have hfds : fds = recordedLock s.listener.logindInhibitLock := hx
  subst hfds
  have ht' : s.step (env, e) = some t := ht
  by_cases hsleeps : s.Sleeps e
  · obtain ⟨hl, sender, b, rfl⟩ := hsleeps
    cases b
    · -- the descriptor of before stays open
      have hlock := awake_lock hl ht'
      dsimp only
      rw [descriptors_awake _ hl]
      have hiff := accounted_awake s.listener.logindInhibitLock hlock
      refine ⟨⟨fun hgo sender' _ _ => hiff.1 hgo.1, fun hc => ⟨hiff.2 (hc sender rfl hl), ?_⟩⟩, fun hc => ?_⟩
      · intro sender' he
        cases he
      · rw [hc sender rfl hl, Held, hlock]
        exact List.append_nil _
    · have hlock := asleep_lock hl ht'
      dsimp only
      rw [descriptors_asleep hl]
      have hheld : Held (t, []) := by rw [Held, hlock]; rfl
      refine ⟨⟨fun _ sender' he => ?_, fun _ => ⟨hheld.accounted, fun _ _ _ => rfl⟩⟩, fun _ => hheld⟩
      cases he
  · have hlock := (parts_step (p := False) hs.1 hs.2 False.elim ht').apart.delayLock hsleeps
    dsimp only
    rw [descriptors_silent env _ hsleeps]
    have hheld : Held (t, recordedLock s.listener.logindInhibitLock) := by
      rw [Held, hlock]
      rfl
    refine ⟨⟨fun _ sender he hl => absurd ⟨hl, sender, false, he⟩ hsleeps, fun _ => ⟨hheld.accounted, ?_⟩⟩,
      fun _ => hheld⟩
    exact fun sender he hl => absurd ⟨hl, sender, true, he⟩ hsleeps

/-- Along a run the open descriptors are accounted for, and none is left open
when the system falls asleep, exactly when no step of the run is a resume with a
descriptor still recorded. -/
theorem delay_lock_iff (b : Boot) (env : Env) (es : List (Env × Event)) :
    let x := (b.start env, recordedLock b.logindInhibitLock)
    Accounted x ∧ withDescriptors.Each LetsGo x es ↔
      withDescriptors.Meets (fun x label => x.1.Resumes label.2) x es := by
  intro x
  have hstart : Held x := start_held b env
  have hiff := each_iff_meets (S := withDescriptors) (R := LetsGo)
    (I := fun x => (x.1.Agreed ∧ x.1.saver.Housed) ∧ Held x) (C := fun x label => x.1.Resumes label.2)
    (fun x label y h hn => (descriptors_step h.1 h.2 hn).1) (fun x label y h hn hc => ?_)
    ⟨start_housed b env, hstart⟩ es
  · exact ⟨fun h => hiff.1 h.2, fun h => ⟨hstart.accounted, hiff.2 h⟩⟩
  · obtain ⟨t, ht, hy⟩ := Option.map_eq_some_iff.1 hn
    subst hy
    exact ⟨housed_invariant.step x.1 label t h.1 ht, (descriptors_step h.1 h.2 hn).2 hc⟩

/- A resume without a suspend before it: the lock of the start is never closed. -/
def wokenTwice : List (Env × Event) :=
  [({ granted with logindInhibit := 7 }, .systemSignal ":1.2" (.prepareForSleep false))]

theorem delay_lock_leaked : ¬ ∀ x, withDescriptors.Reachable x → Accounted x := by
  intro h
  let x := (withDescriptors.run (desk.start granted, recordedLock 1) wokenTwice).get (by decide)
  have hrun : withDescriptors.run (desk.start granted, recordedLock 1) wokenTwice = some x := by simp [x]
  have hx := h x (reachable_run (.start ⟨desk, granted, rfl⟩) hrun)
  exact absurd hx.1 (by decide)

end Screensaver
end MateScreensaver
