import MateScreensaver.Apart
import MateScreensaver.Lock

/-!
What the windows show of the settings, over whole runs: every window mirrors the
manager, and the private status message follows the presence and its preference.
-/

namespace MateScreensaver
open Runs System

namespace Screensaver
open Saver (HandsOn)

variable {p : Prop} {env : Env} {s₀ s t : Screensaver} {e : Event}

/-! ### The windows mirror the manager -/

/-- Apart from the setters, whatever happens to the saver hands the settings on. -/
theorem Does.handsOn {v u : Saver} (h : Does p env s₀ e v u) (hs : s₀.saver.view.Sound) (hh : v.Housed) :
    HandsOn v u ∨ (v.Mirrored → u.Mirrored) ∧ (u.manager.handed = v.manager.handed ∨ Tells e) := by
  cases h with
  | tune h mirrors silent cycle release => exact .inr ⟨mirrors hh, silent⟩
  | calm h => exact .inl h.handsOn
  | activate off granted => exact .inl (Saver.gsManagerActivate_acts (p := p) hh off granted).1.handsOn
  | deactivate ends first on => exact .inl (Saver.handsOn_gsManagerDeactivate env.toSaverEnv v)
  | added m he first new =>
    subst first
    have hsound : (s₀.tick env).saver.view.Sound := hs
    exact .inl (Saver.monitorAdded_spec (p := p) env m hsound hh).1.handsOn
  | removed m he first => exact .inl (Saver.monitorRemoved_spec (p := False) env m hh False.elim).1.handsOn
  | lock request allowed => exact .inl (Saver.locking_gsManagerSetLockActive true hh).handsOn
  | unlock off => exact .inl (Saver.locking_gsManagerSetLockActive false hh).handsOn
  | lockTimer id he first due =>
    exact .inl ((Saver.locking_activateLockTimeout hh).handsOn.trans (Saver.handsOn_of rfl rfl))
  | lockSettings k he first =>
    exact .inl (Saver.locking_lockSettings env.toSaverEnv _ _ hh).handsOn
  | throttle b first =>
    obtain ⟨jobs, hjobs⟩ := throttled_eq env.toSaverEnv v b
    rw [hjobs]
    exact .inl (Saver.handsOn_of rfl rfl)

theorem AllDone.mirrored {v u : Saver} (h : AllDone p env s₀ e v u) (hs : s₀.saver.view.Sound) (hh : v.Housed)
    (hm : v.Mirrored) : u.Mirrored := by
  induction h with
  | refl => exact hm
  | tail hbefore h ih =>
    rcases h.handsOn hs (AllDone.housed hbefore hs hh) with hon | ⟨hmirrors, -⟩
    · exact hon.mirrored ih
    · exact hmirrors ih

/- Off the two paths no setting of the manager changes. -/
theorem AllDone.handed {v u : Saver} (h : AllDone p env s₀ e v u) (hs : s₀.saver.view.Sound) (hh : v.Housed)
    (hquiet : ¬ Tells e) : u.manager.handed = v.manager.handed := by
  induction h with
  | refl => rfl
  | tail hbefore h ih =>
    rcases h.handsOn hs (AllDone.housed hbefore hs hh) with hon | ⟨-, hsame | htells⟩
    · exact hon.manager.trans ih
    · exact hsame.trans ih
    · exact absurd htells hquiet

theorem start_mirrored (b : Boot) (env : Env) : (b.start env).saver.Mirrored := by
  obtain ⟨v, hlock, -, htuned⟩ := start_saver True b env
  intro w win hw
  obtain ⟨win', hw', -⟩ := htuned.window hw
  obtain ⟨_, _, hnone, -⟩ := hlock.window hw'
  cases hnone

theorem mirrored_invariant : screensaver.Invariant fun s => (s.Agreed ∧ s.saver.Housed) ∧ s.saver.Mirrored := by
  refine housed_invariant.and (fun s hs => ?_) fun s label t hs hm h => ?_
  · obtain ⟨b, env, rfl⟩ := hs
    exact start_mirrored b env
  · have hdone := (parts_step (p := False) hs.1 hs.2 False.elim h).done
    exact AllDone.mirrored hdone hs.1.sound (tick_housed hs.2 label.1) hm

/-- Every window there is has the manager's settings, a timeout that is not
negative, and is locked when the manager's lock is on. -/
theorem windows_mirror (hr : screensaver.Reachable s) {w : WindowId} {win : GSWindow}
    (hw : s.saver.windows w = some win) :
    win.userSwitchEnabled = s.saver.manager.userSwitchEnabled ∧
    win.logoutEnabled = s.saver.manager.logoutEnabled ∧
    win.logoutCommand = s.saver.manager.logoutCommand ∧
    win.keyboardEnabled = s.saver.manager.keyboardEnabled ∧
    win.keyboardCommand = s.saver.manager.keyboardCommand ∧
    win.statusMessage = s.saver.manager.statusMessage ∧
    win.lockEnabled = s.saver.manager.lockActive ∧
    (win.logoutTimeout : Int) = max s.saver.manager.logoutTimeout 0 := by
  obtain ⟨⟨hs, -⟩, hm⟩ := mirrored_invariant.reachable hr
  have hwin := hm w win hw
  have hview : s.saver.view.window w = some win.view := by simp [Saver.view, hw]
  have htimeout : win.logoutTimeout = s.saver.manager.logoutTimeout.toNat := congrArg Handed.logoutTimeout hwin
  refine ⟨congrArg Handed.userSwitchEnabled hwin, congrArg Handed.logoutEnabled hwin,
    congrArg Handed.logoutCommand hwin, congrArg Handed.keyboardEnabled hwin,
    congrArg Handed.keyboardCommand hwin, congrArg Handed.statusMessage hwin,
    hs.sound.lock w win.view hview, ?_⟩
  rw [htimeout, Int.toNat_eq_max]

/- The settings for logging out change, then there is a second monitor, and the screen is locked. -/
def mirroring : List (Env × Event) :=
  [turnOn, (granted, .keyChanged (.logoutEnabled true)), (granted, .keyChanged (.logoutDelay 5)),
    (granted, .keyChanged (.logoutCommand "mate-session-save")), (granted, .monitorAdded 1), lockNow]

theorem windows_mirror_shown : ∃ s, screensaver.run (desk.start granted) mirroring = some s ∧
    s.saver.manager.windows = [0, 1] ∧ ∀ w ∈ s.saver.manager.windows, ∃ win, s.saver.windows w = some win ∧
      win.logoutEnabled = true ∧ win.logoutCommand = some "mate-session-save" ∧ (win.logoutTimeout : Int) = 300000 ∧
      win.userSwitchEnabled = true ∧ win.lockEnabled = true := by
  let s := (screensaver.run (desk.start granted) mirroring).get (by decide)
  have hrun : screensaver.run (desk.start granted) mirroring = some s := by simp [s]
  have hlogout : s.saver.manager.logoutEnabled = true ∧ s.saver.manager.logoutCommand = some "mate-session-save" ∧
      s.saver.manager.logoutTimeout = 300000 ∧ s.saver.manager.userSwitchEnabled = true ∧
      s.saver.manager.lockActive = true := by decide
  obtain ⟨henabled, hcommand, htimeout, hswitch, hlock⟩ := hlogout
  have hreach := desk_reachable mirroring hrun
  refine ⟨s, hrun, by decide, fun w hw => ?_⟩
  obtain ⟨win, hwin, -⟩ := (agreed_invariant.reachable hreach).windows w hw
  obtain ⟨hswitch', henabled', hcommand', -, -, -, hlock', htimeout'⟩ := windows_mirror hreach hwin
  refine ⟨win, hwin, henabled'.trans henabled, hcommand'.trans hcommand, ?_, hswitch'.trans hswitch, hlock'.trans hlock⟩
  rw [htimeout', htimeout]
  rfl

/- A window is made with lock_active, and the manager's lock_enabled is only what
its lock timer goes by. -/
theorem lock_enabled_apart : ¬ ∀ s, screensaver.Reachable s → ∀ w win, s.saver.windows w = some win →
    win.handed = s.saver.manager.handed ∧ win.lockEnabled = s.saver.manager.lockEnabled := by
  intro h
  let s := (screensaver.run (desk.start granted) [turnOn]).get (by decide)
  let win := (s.saver.windows 0).get (by decide)
  have hlock := (h s (desk_reachable [turnOn] (by simp [s])) 0 win (by simp [win])).2
  exact absurd hlock (by decide)

/-! ### The status message -/

/- What may be shown. -/
def shownMessage (s : Screensaver) : Option String :=
  if s.prefs.statusMessageEnabled then s.watcher.statusMessage else none

/-- The manager and every window show the presence's text when the preference
asks for it, and otherwise nothing. -/
structure Discreet (s : Screensaver) : Prop where
  manager : s.saver.manager.statusMessage = s.shownMessage
  windows : ∀ w win, s.saver.windows w = some win → win.statusMessage = s.shownMessage

theorem discreet_iff (hm : s.saver.Mirrored) : s.Discreet ↔ s.saver.manager.statusMessage = s.shownMessage :=
  ⟨fun h => h.manager, fun h => ⟨h, fun w win hw => (congrArg Handed.statusMessage (hm w win hw)).trans h⟩⟩

/- Every other event leaves the message, the text and the preference alone. -/
theorem quiet_step (hs : s.Agreed) (hh : s.saver.Housed) (hquiet : ¬ Tells e) (h : s.step (env, e) = some t) :
    t.saver.manager.statusMessage = s.saver.manager.statusMessage ∧ t.shownMessage = s.shownMessage := by
  have hparts := parts_step (p := False) hs hh False.elim h
  have hprefs := hparts.apart.prefs hquiet
  have htext := hparts.apart.text hquiet
  have hhanded := AllDone.handed hparts.done hs.sound (tick_housed hh env) hquiet
  refine ⟨congrArg Handed.statusMessage hhanded, ?_⟩
  rw [shownMessage, shownMessage, hprefs, htext]
  rfl

theorem setStatusMessage_manager (c : Option String) (v : Saver) :
    (v.gsManagerSetStatusMessage c).manager.statusMessage = c := by
  obtain ⟨hrec, -, -⟩ := Saver.modifyWindow_foldl (fun win => { win with statusMessage := c }) (fun _ => rfl)
    v.manager.windows (v.modifyManager fun m => { m with statusMessage := c })
  exact congrArg GSManager.statusMessage hrec.manager

theorem updateFromPrefs_message (env : Env) (s : Screensaver) :
    (s.updateFromPrefs env).saver.manager.statusMessage = (s.updateFromPrefs env).shownMessage := by
  rw [updateFromPrefs_eq]
  dsimp only
  split
  · next hon =>
    have hshown : ∀ v : Screensaver, v.prefs.statusMessageEnabled = true →
        v.updateStatusMessage.shownMessage = v.watcher.statusMessage := fun v hv => if_pos hv
    rw [hshown _ hon]
    exact setStatusMessage_manager _ _
  · next hoff =>
    have hshown : ∀ v : Screensaver, ¬ v.prefs.statusMessageEnabled = true →
        (v.modifySaver (.gsManagerSetStatusMessage none)).shownMessage = none := fun v hv => if_neg hv
    rw [hshown _ hoff]
    exact setStatusMessage_manager _ _

/-- The text of the presence goes straight to the manager. -/
theorem told_step {text : Option String} (h : s.step (env, .presenceStatusText text) = some t) :
    t.saver.manager.statusMessage = text ∧
    t.shownMessage = if s.prefs.statusMessageEnabled then text else none := by
  cases step_dispatch h
  exact ⟨setStatusMessage_manager _ _, rfl⟩

/- The text is published while it is not wanted. -/
def Leaks (s : Screensaver) (e : Event) : Prop :=
  ∃ text, e = .presenceStatusText (some text) ∧ s.prefs.statusMessageEnabled = false

theorem message_step_iff (hs : s.Agreed) (hh : s.saver.Housed)
    (hm : s.saver.manager.statusMessage = s.shownMessage) (h : s.step (env, e) = some t) :
    t.saver.manager.statusMessage = t.shownMessage ↔ ¬ s.Leaks e := by
  by_cases htells : Tells e
  · rcases htells with ⟨text, rfl⟩ | ⟨k, rfl⟩
    · obtain ⟨hmanager, hshown⟩ := told_step h
      rw [hmanager, hshown]
      cases hon : s.prefs.statusMessageEnabled
      · cases text with
        | none => exact ⟨fun _ ⟨_, he, _⟩ => (by cases he), fun _ => rfl⟩
        | some text => exact ⟨fun hnone => (by cases hnone), fun hno => absurd ⟨text, rfl, hon⟩ hno⟩
      · exact ⟨fun _ ⟨_, _, hoff⟩ => Bool.false_ne_true (hoff.symm.trans hon), fun _ => rfl⟩
    · cases step_dispatch h
      exact ⟨fun _ ⟨_, he, _⟩ => (by cases he), fun _ => updateFromPrefs_message env _⟩
  · obtain ⟨hmanager, hshown⟩ := quiet_step hs hh htells h
    rw [hmanager, hshown]
    exact ⟨fun _ ⟨text, he, _⟩ => htells (.inl ⟨some text, he⟩), fun _ => hm⟩

/-- In every state of a run the status message is shown as the preference asks,
exactly when no step of the run publishes a text while it is not wanted. -/
theorem discreet_always (b : Boot) (env : Env) (es : List (Env × Event)) :
    screensaver.Always Discreet (b.start env) es ↔
      screensaver.Meets (fun s label => ∀ text, label.2 = .presenceStatusText (some text) →
        s.prefs.statusMessageEnabled = true) (b.start env) es := by
  have hcond : ∀ (s : Screensaver) (e : Event), (∀ text, e = .presenceStatusText (some text) →
      s.prefs.statusMessageEnabled = true) ↔ ¬ s.Leaks e := by
    intro s e
    constructor
    · rintro h ⟨text, he, hoff⟩
      exact Bool.false_ne_true (hoff.symm.trans (h text he))
    · intro h text he
      by_contra hoff
      exact h ⟨text, he, Bool.not_eq_true _ ▸ hoff⟩
  refine always_iff_meets (I := fun s => ((s.Agreed ∧ s.saver.Housed) ∧ s.saver.Mirrored) ∧
      s.saver.manager.statusMessage = s.shownMessage)
    (fun s h => (discreet_iff h.1.2).2 h.2) (fun s label t h ht => ?_) (fun s label t h ht hc => ?_)
    ⟨mirrored_invariant.start _ ⟨b, env, rfl⟩, updateFromPrefs_message env b.unsettled⟩ es
  · have hmirrored := (mirrored_invariant.step s label t h.1 ht).2
    rw [discreet_iff hmirrored, hcond]
    exact message_step_iff h.1.1.1 h.1.1.2 h.2 ht
  · exact ⟨mirrored_invariant.step s label t h.1 ht,
      (message_step_iff h.1.1.1 h.1.1.2 h.2 ht).2 ((hcond s label.2).1 hc)⟩

/- The preference goes off, and then the presence changes its text. -/
def muted : List (Env × Event) :=
  [turnOn, (granted, .keyChanged (.statusMessageEnabled false)), (granted, .presenceStatusText (some "at lunch"))]

theorem message_leaked : ¬ ∀ s, screensaver.Reachable s → s.Discreet := by
  intro h
  let s := (screensaver.run (desk.start granted) muted).get (by decide)
  have hs := (h s (desk_reachable muted (by simp [s]))).manager
  exact absurd hs (by decide)

end Screensaver
end MateScreensaver
