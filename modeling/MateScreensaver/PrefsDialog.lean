import MateScreensaver.Lib.Binding
import MateScreensaver.SettingsStore

/-!
The controls of the preferences (mate-screensaver-preferences.c) and the settings they show: what is
written by the user, by others and by the dialog itself when a signal comes in, where the keys can be
written.
-/

namespace MateScreensaver
open Runs Binding

def checkBox : View Bool Bool := Binding.plain Bool

/- The adjustments of mate-screensaver-preferences.ui. -/
def activateScale : View ℤ (Within 1 120) := Binding.scale 1 120 (by decide)
def lockScale : View ℤ (Within 0 120) := Binding.scale 0 120 (by decide)

/- The keys that key_changed_cb sets controls for. -/
inductive DialogKey
  | idleActivationEnabled
  | lockEnabled
  | lockDisable
  | idleDelay
  | lockDelay
deriving DecidableEq

/- The controls with the values of their keys; the lockdown is not for the dialog to write. -/
structure PrefsDialog where
  enabled : Bound Bool Bool
  enabledSensitive : Bool
  lock : Bound Bool Bool
  lockSensitive : Bool
  activateDelay : Bound ℤ (Within 1 120)
  activateDelaySensitive : Bool
  lockDelay : Bound ℤ (Within 0 120)
  lockDelaySensitive : Bool
  lockDisable : Bool
  lockDisableSignals : ℕ

/- The user, other programs or the administrator of the keys that cannot be written, and a signal for
a key. -/
inductive PrefsDialogEvent
  | toggleEnabled
  | toggleLock
  | slideActivateDelay (w : Within 1 120)
  | slideLockDelay (w : Within 0 120)
  | writeEnabled (b : Bool)
  | writeLock (b : Bool)
  | writeActivateDelay (n : ℤ)
  | writeLockDelay (n : ℤ)
  | writeLockDisable (b : Bool)
  | keyChanged (key : DialogKey)

/- The values of the keys when the dialog is opened, and which of them can be written. -/
structure DialogSettings where
  enabled : Bool
  lock : Bool
  activateDelay : ℤ
  lockDelay : ℤ
  lockDisable : Bool
  isWritable : DialogKey → Bool

/- mate-screensaver-preferences.c:97 and 122 -/
def configGetActivateDelay (delay : ℤ) : ℤ := if delay < 1 then 1 else delay
def configGetLockDelay (delay : ℤ) : ℤ := if delay < 1 then 0 else delay

namespace PrefsDialog

/- mate-screensaver-preferences.c:1117 -/
def uiDisableLock (d : PrefsDialog) (disable : Bool) : PrefsDialog :=
  let d := { d with lockSensitive := !disable }
  if disable then { d with lock := checkBox.edit d.lock false } else d

/- mate-screensaver-preferences.c:1130 -/
def uiSetLock (d : PrefsDialog) (enabled : Bool) : PrefsDialog :=
  let d := { d with lock := checkBox.edit d.lock enabled }
  d.uiDisableLock d.lockDisable

/- mate-screensaver-preferences.c:1148. The box for the lock becomes sensitive again where it cannot be
written, if there is no lockdown. -/
def uiSetEnabled (d : PrefsDialog) (enabled : Bool) : PrefsDialog :=
  let d := { d with
    enabled := checkBox.edit d.enabled enabled
    lockSensitive := if d.lock.writable then enabled else d.lockSensitive }
  d.uiDisableLock d.lockDisable

/- The signals for a key that are on their way. -/
def waiting (d : PrefsDialog) : DialogKey → ℕ
  | .idleActivationEnabled => d.enabled.signals
  | .lockEnabled => d.lock.signals
  | .lockDisable => d.lockDisableSignals
  | .idleDelay => d.activateDelay.signals
  | .lockDelay => d.lockDelay.signals

/- mate-screensaver-preferences.c:1182, and the signal is gone. -/
def keyChangedCb (d : PrefsDialog) : DialogKey → PrefsDialog
  | .idleActivationEnabled =>
    { d with enabled := { d.enabled with signals := d.enabled.signals - 1 } }.uiSetEnabled d.enabled.stored
  | .lockEnabled => { d with lock := { d.lock with signals := d.lock.signals - 1 } }.uiSetLock d.lock.stored
  | .lockDisable => { d with lockDisableSignals := d.lockDisableSignals - 1 }.uiDisableLock d.lockDisable
  | .idleDelay => { d with activateDelay := activateScale.deliver d.activateDelay }
  | .lockDelay => { d with lockDelay := lockScale.deliver d.lockDelay }

def next (d : PrefsDialog) : PrefsDialogEvent → Option PrefsDialog
  | .toggleEnabled =>
    if d.enabledSensitive then some { d with enabled := checkBox.edit d.enabled !d.enabled.control } else none
  | .toggleLock => if d.lockSensitive then some { d with lock := checkBox.edit d.lock !d.lock.control } else none
  | .slideActivateDelay w =>
    if d.activateDelaySensitive then some { d with activateDelay := activateScale.edit d.activateDelay w } else none
  | .slideLockDelay w => if d.lockDelaySensitive then some { d with lockDelay := lockScale.edit d.lockDelay w } else none
  | .writeEnabled b => some { d with enabled := View.change d.enabled b }
  | .writeLock b => some { d with lock := View.change d.lock b }
  | .writeActivateDelay n => some { d with activateDelay := View.change d.activateDelay n }
  | .writeLockDelay n => some { d with lockDelay := View.change d.lockDelay n }
  | .writeLockDisable b => some { d with lockDisable := b, lockDisableSignals := d.lockDisableSignals + 1 }
  | .keyChanged key => if 0 < d.waiting key then some (d.keyChangedCb key) else none

/- The controls as init_capplet sets them before they write anything, sensitive where their keys can be
written. -/
def opened (s : DialogSettings) : PrefsDialog where
  enabled := ⟨s.enabled, s.enabled, 0, s.isWritable .idleActivationEnabled⟩
  enabledSensitive := s.isWritable .idleActivationEnabled
  lock := ⟨s.lock, s.lock, 0, s.isWritable .lockEnabled⟩
  lockSensitive := s.isWritable .lockEnabled
  activateDelay :=
    ⟨s.activateDelay, activateScale.shown (configGetActivateDelay s.activateDelay), 0, s.isWritable .idleDelay⟩
  activateDelaySensitive := s.isWritable .idleDelay
  lockDelay := ⟨s.lockDelay, lockScale.shown (configGetLockDelay s.lockDelay), 0, s.isWritable .lockDelay⟩
  lockDelaySensitive := s.isWritable .lockDelay
  lockDisable := s.lockDisable
  lockDisableSignals := 0

/- mate-screensaver-preferences.c:1616, with setup_for_root_user. -/
def initCapplet (root : Bool) (s : DialogSettings) : PrefsDialog :=
  let d := (opened s).uiSetEnabled s.enabled
  if root then { d with lock := checkBox.edit d.lock false, lockSensitive := false } else d

def system (root : Bool) : System PrefsDialog PrefsDialogEvent where
  init d := ∃ s, d = initCapplet root s
  next := PrefsDialog.next

/- All signals that are on their way. -/
def signals (d : PrefsDialog) : ℕ :=
  d.enabled.signals + d.lock.signals + d.activateDelay.signals + d.lockDelay.signals + d.lockDisableSignals

/- What the dialog shows is what is stored, but for a lock that cannot be written, and under a lockdown
nothing is locked. -/
structure Settled (d : PrefsDialog) : Prop where
  enabled : d.enabled.control = d.enabled.stored
  lock : d.lock.writable = true → d.lock.control = d.lock.stored
  activateDelay : (d.activateDelay.control : ℤ) = max 1 (min d.activateDelay.stored 120)
  lockDelay : (d.lockDelay.control : ℤ) = max 0 (min d.lockDelay.stored 120)
  disabled : d.lockDisable = true → d.lock.control = false ∧ d.lockSensitive = false
  cleared : d.lockDisable = true → d.lock.writable = true → d.lock.stored = false

/-! ### The end of the signals -/

variable {d d' : PrefsDialog} {e : PrefsDialogEvent} {key : DialogKey} {root : Bool}

theorem uiDisableLock_same (d : PrefsDialog) (disable : Bool) : (d.uiDisableLock disable).enabled = d.enabled ∧
    (d.uiDisableLock disable).activateDelay = d.activateDelay ∧ (d.uiDisableLock disable).lockDelay = d.lockDelay ∧
    (d.uiDisableLock disable).lockDisable = d.lockDisable ∧
    (d.uiDisableLock disable).lockDisableSignals = d.lockDisableSignals := by
  rw [uiDisableLock]
  cases disable with
  | false => exact ⟨rfl, rfl, rfl, rfl, rfl⟩
  | true => exact ⟨rfl, rfl, rfl, rfl, rfl⟩

/- Whether the box for the lock is sensitive is then up to the lockdown. -/
theorem keyChangedCb_enabled (d : PrefsDialog) : ∃ sensitive, d.keyChangedCb .idleActivationEnabled =
    { d with enabled := checkBox.deliver d.enabled, lockSensitive := sensitive }.uiDisableLock d.lockDisable := ⟨_, rfl⟩

/-- A control without a signal on its way shows what is stored, if the user cannot set it without that
it is written, and a lockdown that has been heard of has unset the box for the lock and keeps the user
from it. -/
structure Coherent (root : Bool) (d : PrefsDialog) : Prop where
  enabled : checkBox.Synced d.enabled
  lock : d.lock.writable = true → checkBox.Synced d.lock
  activateDelay : activateScale.Synced d.activateDelay
  lockDelay : lockScale.Synced d.lockDelay
  disabled : d.lockDisableSignals = 0 → d.lockDisable = true → d.lock.control = false ∧ d.lockSensitive = false
  sensitive : root = false → d.lockDisableSignals = 0 → d.lockSensitive = !d.lockDisable

/- Controls that are sensitive can be written, but for the box of the lock. -/
structure Usable (d : PrefsDialog) : Prop where
  enabled : d.enabledSensitive = d.enabled.writable
  activateDelay : d.activateDelaySensitive = d.activateDelay.writable
  lockDelay : d.lockDelaySensitive = d.lockDelay.writable

theorem uiDisableLock_control (d : PrefsDialog) : d.lockDisable = true →
    (d.uiDisableLock d.lockDisable).lock.control = false := by
  intro hdisable
  rw [uiDisableLock, hdisable]
  exact View.edit_control false

theorem uiDisableLock_sensitive (d : PrefsDialog) (disable : Bool) : (d.uiDisableLock disable).lockSensitive = !disable := by
  rw [uiDisableLock]
  cases disable <;> rfl

theorem uiDisableLock_writable (d : PrefsDialog) (disable : Bool) :
    (d.uiDisableLock disable).lock.writable = d.lock.writable := by
  rw [uiDisableLock]
  cases disable with
  | false => rfl
  | true => exact View.edit_writable false

theorem Usable.uiDisableLock (hd : d.Usable) (disable : Bool) : (d.uiDisableLock disable).Usable := by
  rw [PrefsDialog.uiDisableLock]
  cases disable with
  | false => exact ⟨hd.enabled, hd.activateDelay, hd.lockDelay⟩
  | true => exact ⟨hd.enabled, hd.activateDelay, hd.lockDelay⟩

/- However the lock came to be set, afterwards the lockdown has its way. -/
theorem Coherent.uiDisableLock (henabled : checkBox.Synced d.enabled)
    (hlock : d.lock.writable = true → checkBox.Synced d.lock) (hactivate : activateScale.Synced d.activateDelay)
    (hdelay : lockScale.Synced d.lockDelay) : (d.uiDisableLock d.lockDisable).Coherent root := by
  obtain ⟨hsame, hactivate', hdelay', hdisable, -⟩ := uiDisableLock_same d d.lockDisable
  refine ⟨?_, ?_, ?_, ?_, ?_, ?_⟩
  · rw [hsame]
    exact henabled
  · rw [uiDisableLock_writable]
    intro hwritable
    rw [PrefsDialog.uiDisableLock]
    dsimp only
    split
    · exact (hlock hwritable).edit hwritable false
    · exact hlock hwritable
  · rw [hactivate']
    exact hactivate
  · rw [hdelay']
    exact hdelay
  · intro _ htrue
    rw [hdisable] at htrue
    refine ⟨uiDisableLock_control d htrue, ?_⟩
    rw [uiDisableLock_sensitive, htrue]
    rfl
  · intro _ _
    rw [uiDisableLock_sensitive, hdisable]

theorem Coherent.keyChangedCb (hd : d.Coherent root) (key : DialogKey) : (d.keyChangedCb key).Coherent root := by
  obtain ⟨henabled, hlock, hactivate, hdelay, hdisabled, hsensitive⟩ := hd
  cases key with
  | idleActivationEnabled =>
    exact .uiDisableLock (View.synced_deliver (v := checkBox) (b := d.enabled)) hlock hactivate hdelay
  | lockEnabled =>
    exact .uiDisableLock henabled (fun _ => View.synced_deliver (v := checkBox) (b := d.lock)) hactivate hdelay
  | lockDisable =>
    exact .uiDisableLock (d := { d with lockDisableSignals := d.lockDisableSignals - 1 }) henabled hlock hactivate hdelay
  | idleDelay => exact ⟨henabled, hlock, View.synced_deliver, hdelay, hdisabled, hsensitive⟩
  | lockDelay => exact ⟨henabled, hlock, hactivate, View.synced_deliver, hdisabled, hsensitive⟩

theorem Usable.keyChangedCb (hd : d.Usable) (key : DialogKey) : (d.keyChangedCb key).Usable := by
  cases key with
  | idleActivationEnabled =>
    obtain ⟨sensitive, hsensitive⟩ := keyChangedCb_enabled d
    have husable : { d with enabled := checkBox.deliver d.enabled, lockSensitive := sensitive }.Usable :=
      ⟨hd.enabled.trans View.deliver_writable.symm, hd.activateDelay, hd.lockDelay⟩
    rw [hsensitive]
    exact husable.uiDisableLock _
  | lockEnabled =>
    apply Usable.uiDisableLock
    exact ⟨hd.enabled, hd.activateDelay, hd.lockDelay⟩
  | lockDisable =>
    apply Usable.uiDisableLock
    exact ⟨hd.enabled, hd.activateDelay, hd.lockDelay⟩
  | idleDelay => exact ⟨hd.enabled, hd.activateDelay.trans View.deliver_writable.symm, hd.lockDelay⟩
  | lockDelay => exact ⟨hd.enabled, hd.activateDelay, hd.lockDelay.trans View.deliver_writable.symm⟩

theorem Usable.next (hd : d.Usable) (h : d.next e = some d') : d'.Usable := by
  have ⟨henabled, hactivate, hdelay⟩ := hd
  cases e with
  | keyChanged key =>
    obtain ⟨-, hnext⟩ := Option.ite_none_right_eq_some.1 h
    cases hnext
    exact hd.keyChangedCb key
  | toggleEnabled =>
    obtain ⟨-, hnext⟩ := Option.ite_none_right_eq_some.1 h
    cases hnext
    exact ⟨henabled.trans (View.edit_writable _).symm, hactivate, hdelay⟩
  | toggleLock =>
    obtain ⟨-, hnext⟩ := Option.ite_none_right_eq_some.1 h
    cases hnext
    exact ⟨henabled, hactivate, hdelay⟩
  | slideActivateDelay w =>
    obtain ⟨-, hnext⟩ := Option.ite_none_right_eq_some.1 h
    cases hnext
    exact ⟨henabled, hactivate.trans (View.edit_writable _).symm, hdelay⟩
  | slideLockDelay w =>
    obtain ⟨-, hnext⟩ := Option.ite_none_right_eq_some.1 h
    cases hnext
    exact ⟨henabled, hactivate, hdelay.trans (View.edit_writable _).symm⟩
  | writeEnabled b =>
    cases h
    exact ⟨henabled, hactivate, hdelay⟩
  | writeLock b =>
    cases h
    exact ⟨henabled, hactivate, hdelay⟩
  | writeActivateDelay n =>
    cases h
    exact ⟨henabled, hactivate, hdelay⟩
  | writeLockDelay n =>
    cases h
    exact ⟨henabled, hactivate, hdelay⟩
  | writeLockDisable b =>
    cases h
    exact ⟨henabled, hactivate, hdelay⟩

theorem Coherent.next (hd : d.Coherent root) (husable : d.Usable) (h : d.next e = some d') : d'.Coherent root := by
  have ⟨henabled, hlock, hactivate, hdelay, hdisabled, hsensitive⟩ := hd
  cases e with
  | keyChanged key =>
    obtain ⟨-, hnext⟩ := Option.ite_none_right_eq_some.1 h
    cases hnext
    exact hd.keyChangedCb key
  | toggleEnabled =>
    obtain ⟨hset, hnext⟩ := Option.ite_none_right_eq_some.1 h
    cases hnext
    exact ⟨henabled.edit (husable.enabled ▸ hset) _, hlock, hactivate, hdelay, hdisabled, hsensitive⟩
  | toggleLock =>
    obtain ⟨hset, hnext⟩ := Option.ite_none_right_eq_some.1 h
    cases hnext
    refine ⟨henabled, fun hwritable => ?_, hactivate, hdelay, fun hzero hdisable => ?_, hsensitive⟩
    · rw [View.edit_writable] at hwritable
      exact (hlock hwritable).edit hwritable _
    · obtain ⟨-, hunset⟩ := hdisabled hzero hdisable
      rw [hset] at hunset
      cases hunset
  | slideActivateDelay w =>
    obtain ⟨hset, hnext⟩ := Option.ite_none_right_eq_some.1 h
    cases hnext
    exact ⟨henabled, hlock, hactivate.edit (husable.activateDelay ▸ hset) w, hdelay, hdisabled, hsensitive⟩
  | slideLockDelay w =>
    obtain ⟨hset, hnext⟩ := Option.ite_none_right_eq_some.1 h
    cases hnext
    exact ⟨henabled, hlock, hactivate, hdelay.edit (husable.lockDelay ▸ hset) w, hdisabled, hsensitive⟩
  | writeEnabled b =>
    cases h
    exact ⟨View.synced_change checkBox d.enabled b, hlock, hactivate, hdelay, hdisabled, hsensitive⟩
  | writeLock b =>
    cases h
    exact ⟨henabled, fun _ => View.synced_change checkBox d.lock b, hactivate, hdelay, hdisabled, hsensitive⟩
  | writeActivateDelay n =>
    cases h
    exact ⟨henabled, hlock, View.synced_change activateScale d.activateDelay n, hdelay, hdisabled, hsensitive⟩
  | writeLockDelay n =>
    cases h
    exact ⟨henabled, hlock, hactivate, View.synced_change lockScale d.lockDelay n, hdisabled, hsensitive⟩
  | writeLockDisable b =>
    cases h
    refine ⟨henabled, hlock, hactivate, hdelay, fun hzero => ?_, fun _ hzero => ?_⟩
    · exact absurd hzero (Nat.succ_ne_zero _)
    · exact absurd hzero (Nat.succ_ne_zero _)

theorem shown_configGet (delay : ℤ) : activateScale.shown (configGetActivateDelay delay) = activateScale.shown delay ∧
    lockScale.shown (configGetLockDelay delay) = lockScale.shown delay := by
  constructor
  · apply Subtype.ext
    change max 1 (min (configGetActivateDelay delay) 120) = max 1 (min delay 120)
    rw [configGetActivateDelay]
    split <;> omega
  · apply Subtype.ext
    change max 0 (min (configGetLockDelay delay) 120) = max 0 (min delay 120)
    rw [configGetLockDelay]
    split <;> omega

/- The boxes and scales when the handlers are connected. -/
theorem opened_eq (s : DialogSettings) : ∃ sensitive, (opened s).uiSetEnabled s.enabled =
    { opened s with lockSensitive := sensitive }.uiDisableLock s.lockDisable := by
  have hsame : checkBox.edit (opened s).enabled s.enabled = (opened s).enabled := if_pos rfl
  rw [uiSetEnabled, hsame]
  exact ⟨_, rfl⟩

theorem initCapplet_coherent (root : Bool) (s : DialogSettings) : (initCapplet root s).Coherent root := by
  obtain ⟨sensitive, hopened⟩ := opened_eq s
  have hcoherent : ({ opened s with lockSensitive := sensitive }.uiDisableLock s.lockDisable).Coherent root :=
    .uiDisableLock (fun _ => rfl) (fun _ _ => rfl) (fun _ => (shown_configGet s.activateDelay).1)
      (fun _ => (shown_configGet s.lockDelay).2)
  rw [initCapplet, hopened]
  cases root with
  | false => exact hcoherent
  | true =>
    obtain ⟨henabled, hlock, hactivate, hdelay, -, -⟩ := hcoherent
    refine ⟨henabled, fun hwritable => ?_, hactivate, hdelay, fun _ _ => ⟨View.edit_control false, rfl⟩, fun hroot => ?_⟩
    · change (checkBox.edit _ false).writable = true at hwritable
      rw [View.edit_writable] at hwritable
      exact (hlock hwritable).edit hwritable false
    · cases hroot

theorem initCapplet_usable (root : Bool) (s : DialogSettings) : (initCapplet root s).Usable := by
  obtain ⟨sensitive, hopened⟩ := opened_eq s
  have husable : { opened s with lockSensitive := sensitive }.Usable := ⟨rfl, rfl, rfl⟩
  have hafter := husable.uiDisableLock s.lockDisable
  rw [initCapplet, hopened]
  cases root with
  | false => exact hafter
  | true => exact ⟨hafter.enabled, hafter.activateDelay, hafter.lockDelay⟩

theorem coherent_invariant (root : Bool) : (system root).Invariant fun d => d.Coherent root ∧ d.Usable where
  start d hd := by
    obtain ⟨s, rfl⟩ := hd
    exact ⟨initCapplet_coherent root s, initCapplet_usable root s⟩
  step d e d' hd h := ⟨hd.1.next hd.2 h, hd.2.next h⟩

end PrefsDialog
end MateScreensaver
