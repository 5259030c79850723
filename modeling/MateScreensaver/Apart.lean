import MateScreensaver.Dispatch

/-!
What a step leaves alone beside the saver: the preferences, the text of the
presence and the delay lock are each written on one or two paths only, and who
is listened to on the system bus never changes.
-/

namespace MateScreensaver
namespace Screensaver

variable {p : Prop} {env : Env} {s₀ s t u : Screensaver} {e : Event}

/- PrepareForSleep, when the listener hears logind. -/
def Sleeps (s : Screensaver) (e : Event) : Prop :=
  s.hearsLogind = true ∧ ∃ sender b, e = .systemSignal sender (.prepareForSleep b)

/-- The event has to be one of the few for any of the first three to change. -/
structure Apart (s₀ : Screensaver) (e : Event) (s t : Screensaver) : Prop where
  prefs : ¬ Tells e → t.prefs = s.prefs
  text : ¬ Tells e → t.watcher.statusMessage = s.watcher.statusMessage
  delayLock : ¬ s₀.Sleeps e → t.listener.logindInhibitLock = s.listener.logindInhibitLock
  config : t.config = s.config
  haveSystemd : t.listener.haveSystemd = s.listener.haveSystemd

theorem Apart.of (prefs : t.prefs = s.prefs) (text : t.watcher.statusMessage = s.watcher.statusMessage)
    (delayLock : t.listener.logindInhibitLock = s.listener.logindInhibitLock) (config : t.config = s.config)
    (haveSystemd : t.listener.haveSystemd = s.listener.haveSystemd) : Apart s₀ e s t :=
  ⟨fun _ => prefs, fun _ => text, fun _ => delayLock, config, haveSystemd⟩

theorem Apart.refl : Apart s₀ e s s := .of rfl rfl rfl rfl rfl

theorem Apart.trans (h : Apart s₀ e s t) (h' : Apart s₀ e t u) : Apart s₀ e s u where
  prefs hq := (h'.prefs hq).trans (h.prefs hq)
  text hq := (h'.text hq).trans (h.text hq)
  delayLock hq := (h'.delayLock hq).trans (h.delayLock hq)
  config := h'.config.trans h.config
  haveSystemd := h'.haveSystemd.trans h.haveSystemd

theorem setActive_text (b : Bool) (w : GSWatcher) :
    (gsWatcherSetActive b w).2.statusMessage = w.statusMessage := by
  simp only [gsWatcherSetActive, GSWatcher.setActiveInternal, GSWatcher.resetState]
  split
  · rfl
  · split
    · rfl
    · split
      · rfl
      · rfl

theorem apart_gsListenerSetActive (env : Env) (b : Bool) (s : Screensaver) :
    Apart s₀ e s (s.gsListenerSetActive env b).2 := by
  have hcb : Apart s₀ e s (s.listenerActiveChangedCb env b).2 := by
    simp only [listenerActiveChangedCb]
    split
    · exact .of rfl (setActive_text _ _) rfl rfl rfl
    · exact .of rfl rfl rfl rfl rfl
  simp only [gsListenerSetActive]
  split
  · exact .refl
  · split
    · split
      · exact hcb.trans (.of rfl rfl rfl rfl rfl)
      · exact hcb
    · have hset : Apart s₀ e s ((s.listenerActiveChangedCb env b).2.listenerSetActiveInternal env b) := by
        rw [listenerSetActiveInternal_eq]
        exact hcb.trans (.of rfl rfl rfl rfl rfl)
      split
      · exact hset.trans (.of rfl rfl rfl rfl rfl)
      · exact hset

theorem apart_gsListenerSetSessionIdle (env : Env) (b : Bool) (s : Screensaver) :
    Apart s₀ e s (s.gsListenerSetSessionIdle env b).2 := by
  let v := s.modifyListener fun l => { l with sessionIdle := b }
  have hfirst : Apart s₀ e s v := .of rfl rfl rfl rfl rfl
  have hcheck : Apart s₀ e s (v.listenerCheckActivation env).2 := by
    simp only [listenerCheckActivation]
    split
    · exact hfirst
    · split
      · exact hfirst
      · split
        · exact hfirst
        · exact hfirst.trans (apart_gsListenerSetActive env true v)
  simp only [gsListenerSetSessionIdle]
  split
  · exact .refl
  · split
    · exact .refl
    · split
      · exact hcheck.trans (.of rfl rfl rfl rfl rfl)
      · exact hcheck.trans (.of rfl rfl rfl rfl rfl)

theorem setTable_delayLock (type : RefType) (t : Table Nat RefEntry) (l : GSListener) :
    (l.setTable type t).logindInhibitLock = l.logindInhibitLock := by
  cases type with
  | inhibit => rfl
  | throttle => rfl

theorem setTable_haveSystemd (type : RefType) (t : Table Nat RefEntry) (l : GSListener) :
    (l.setTable type t).haveSystemd = l.haveSystemd := by
  cases type with
  | inhibit => rfl
  | throttle => rfl

theorem Part.apart (h : Part p env s₀ e s t) : Apart s₀ e s t := by
  cases h with
  | watcher w enabled active silent notice => exact ⟨fun _ => rfl, fun hq => silent.resolve_right hq, fun _ => rfl, rfl, rfl⟩
  | prefs k he => exact ⟨fun hq => absurd (.inr ⟨k, he⟩) hq, fun _ => rfl, fun _ => rfl, rfl, rfl⟩
  | delayLock fd heard he => exact ⟨fun _ => rfl, fun _ => rfl, fun hq => absurd ⟨heard, he⟩ hq, rfl, rfl⟩
  | activate why => exact apart_gsListenerSetActive env true s
  | deactivate ends first => exact apart_gsListenerSetActive env false s
  | idle b off => exact apart_gsListenerSetSessionIdle env b s
  | stored type entry new own fresh =>
    obtain ⟨_, _, _, heq⟩ := stored_eq env type entry s
    rw [heq]
    exact .of rfl rfl rfl rfl rfl
  | dropped type cookie entry found =>
    rw [dropped_eq]
    exact .of rfl rfl (setTable_delayLock _ _ _) rfl (setTable_haveSystemd _ _ _)
  | purged type name =>
    rw [purged_eq]
    exact .of rfl rfl (setTable_delayLock _ _ _) rfl (setTable_haveSystemd _ _ _)
  | throttle b first =>
    simp only [gsListenerSetThrottle]
    split
    · exact .of rfl rfl rfl rfl rfl
    · exact .refl
  | saver | releaseGrab | quit | enable | reply | ckCookie => exact .of rfl rfl rfl rfl rfl

theorem Parts.apart (h : Parts p env s₀ e s t) : Apart s₀ e s t := by
  induction h with
  | refl => exact .refl
  | tail _ h ih => exact ih.trans h.apart

end Screensaver
end MateScreensaver
