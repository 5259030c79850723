import MateScreensaver.Roster

/-!
find_window_at_pointer falls back on the first window of the list. Of its two
callers gs_manager_show_message does not ask whether there is one.
-/

namespace MateScreensaver
open Runs

namespace Saver

theorem findWindowAtPointer_none {env : SaverEnv} {s : Saver} :
    s.findWindowAtPointer env = none ↔ s.manager.windows = [] := by
  simp only [findWindowAtPointer]
  split
  · next w hw =>
    have hmem : w ∈ s.manager.windows := List.mem_of_mem_filter (List.mem_of_getLast? hw)
    constructor
    · intro h
      cases h
    · intro h
      rw [h] at hmem
      cases hmem
  · exact List.head?_eq_none_iff

end Saver

namespace Screensaver

variable {p : Prop} {s t s₀ : Screensaver} {env : Env} {e : Event} {v u : Saver}

/-! ### Messages -/

/-- The events whose handler calls gs_manager_show_message: ShowMessage while the
listener is active, and PrepareForSleep of logind while the screen is locked. -/
def showsMessage (s : Screensaver) : Event → Bool
  | .sessionCall _ (.showMessage args) => s.listener.active && args.isSome
  | .systemSignal _ (.prepareForSleep _) => s.hearsLogind && s.saver.manager.lockActive
  | _ => false

/-- The message finds no window: the step of the model has no result. -/
def Crashes (env : Env) (s : Screensaver) (e : Event) : Prop :=
  s.showsMessage e = true ∧ (s.tick env).dispatch env e = none

theorem showMessageCb_none : s.listenerShowMessageCb env = none ↔ s.saver.manager.windows = [] := by
  rw [listenerShowMessageCb, Option.map_eq_none_iff, Saver.gsManagerShowMessage, Option.map_eq_none_iff]
  exact Saver.findWindowAtPointer_none

theorem prepareForSleepCb_none (hlock : s.saver.manager.lockActive = true) :
    s.listenerPrepareForSleepCb env = none ↔ s.saver.manager.windows = [] := by
  rw [listenerPrepareForSleepCb, if_pos hlock]
  exact showMessageCb_none

theorem dispatch_none (hm : s.showsMessage e = true) :
    (s.tick env).dispatch env e = none ↔ s.saver.manager.windows = [] := by
  cases e with
  | sessionCall sender call =>
    cases call with
    | showMessage args =>
      obtain ⟨hactive, hargs⟩ := Bool.and_eq_true_iff.1 hm
      have hactive' : (s.tick env).listener.active = true := hactive
      obtain ⟨a, rfl⟩ := Option.isSome_iff_exists.1 hargs
      have hcb : (s.tick env).listenerShowMessageCb env = none ↔ (s.tick env).saver.manager.windows = [] :=
        showMessageCb_none
      simp only [dispatch, listenerDbusHandleSessionMessage, listenerShowMessage, hactive', if_true]
      rw [Option.map_eq_none_iff, Option.bind_eq_none_iff]
      constructor
      · intro h
        refine hcb.1 ?_
        cases hshow : (s.tick env).listenerShowMessageCb env with
        | none => rfl
        | some u => exact absurd (h (u.send (.methodReturn .empty)) (by rw [hshow]; rfl)) (Option.some_ne_none _)
      · intro h u hu
        rw [hcb.2 h] at hu
        cases hu
    | _ => cases hm
  | systemSignal sender signal =>
    cases signal with
    | prepareForSleep b =>
      obtain ⟨hl, hlock⟩ := Bool.and_eq_true_iff.1 hm
      have hl' : ((s.tick env).config.withSystemd && (s.tick env).listener.haveSystemd) = true := hl
      have hlock' : (s.tick env).saver.manager.lockActive = true := hlock
      simp only [dispatch, listenerDbusHandleSystemMessage, hl', if_true, handleLogindSignal, prepareForSleep]
      split
      · rw [Option.map_eq_none_iff]
        exact prepareForSleepCb_none hlock'
      · exact prepareForSleepCb_none hlock'
    | _ => cases hm
  | _ => cases hm

theorem showsMessage_active (hs : s.Agreed) (hm : s.showsMessage e = true) : s.saver.manager.active = true := by
  cases e with
  | sessionCall sender call =>
    cases call with
    | showMessage args =>
      have hactive := (Bool.and_eq_true_iff.1 hm).1
      rw [← hs.listener]
      exact hactive
    | _ => cases hm
  | systemSignal sender signal =>
    cases signal with
    | prepareForSleep b => exact hs.lock (Bool.and_eq_true_iff.1 hm).2
    | _ => cases hm
  | _ => cases hm

/- In every reachable state a message is safe exactly when a monitor is connected. -/
theorem message_safe_iff (hr : screensaver.Reachable s) (env : Env) (e : Event) :
    ¬ s.Crashes env e ↔ (s.showsMessage e = true → s.saver.display.monitors ≠ []) := by
  obtain ⟨⟨hs, -⟩, hroster⟩ := rostered_invariant.reachable hr
  have hsame : s.showsMessage e = true →
      (s.saver.manager.windows = [] ↔ s.saver.display.monitors = []) := by
    intro hm
    have hmembers := hroster.members (hroster.on (showsMessage_active hs hm))
    rw [← roster_nil, List.eq_nil_iff_forall_not_mem, List.eq_nil_iff_forall_not_mem]
    exact forall_congr' fun m => not_congr (hmembers m)
  constructor
  · intro hsafe hm hmon
    exact hsafe ⟨hm, (dispatch_none hm).2 ((hsame hm).2 hmon)⟩
  · rintro hsome ⟨hm, hnone⟩
    exact hsome hm ((hsame hm).1 ((dispatch_none hm).1 hnone))

def sleep : Event := .systemSignal "org.freedesktop.login1" (.prepareForSleep true)

theorem sleep_safe : ∃ s, screensaver.run (desk.start granted) [lockNow] = some s ∧
    s.showsMessage sleep = true ∧ ¬ s.Crashes granted sleep := by
  let s := (screensaver.run (desk.start granted) [lockNow]).get (by decide)
  have hrun : screensaver.run (desk.start granted) [lockNow] = some s := by simp [s]
  exact ⟨s, hrun, by decide, (message_safe_iff (desk_reachable _ hrun) granted sleep).2 fun _ => by decide⟩

/- Locked, the only monitor goes away, the machine falls asleep. -/
theorem sleep_crashes : ¬ ∀ s env e, screensaver.Reachable s → ¬ s.Crashes env e := by
  intro h
  let s := (screensaver.run (desk.start granted) [lockNow, (granted, .monitorRemoved 0)]).get (by decide)
  have hs : screensaver.Reachable s := desk_reachable [lockNow, (granted, .monitorRemoved 0)] (by simp [s])
  refine h s granted sleep hs ⟨by decide, (dispatch_none (by decide)).2 ?_⟩
  decide

end Screensaver
end MateScreensaver
