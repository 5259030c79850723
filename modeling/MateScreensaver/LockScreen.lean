import MateScreensaver.State
import Mathlib.Data.List.Basic

/-!
What the lock is about, without jobs, grabs, timers and drawing: which windows
exist, whether each is locked and has a dialog, and which idles and watches can
still end the activation. The operations are those of the windows and the
manager, in these terms.
-/

namespace MateScreensaver

structure DialogWindow where
  visible : Bool
  lockEnabled : Bool
  dialogUp : Bool
  popupId : SourceId
  watchId : SourceId
  response : DialogResponse
  okRead : Option Nat
  deriving DecidableEq

/- The record of a window whose dialog is gone. -/
def DialogWindow.down (d : DialogWindow) : DialogWindow :=
  { d with dialogUp := false, popupId := 0, watchId := 0 }

structure LockScreen where
  active : Bool
  lockActive : Bool
  throttled : Bool
  dialogUp : Bool
  windows : List WindowId
  window : WindowId → Option DialogWindow
  nextWindow : WindowId
  nextId : SourceId
  activation : Nat
  popup : List WindowSource
  watch : List WindowSource
  emit : List EmitDeactivated
  deactivated : List WindowDeactivated
  timerId : SourceId
  timers : List SourceId

namespace LockScreen

def get (a : LockScreen) (w : WindowId) : DialogWindow :=
  (a.window w).getD ⟨false, false, false, 0, 0, .cancel, none⟩

def put (w : WindowId) (d : Option DialogWindow) (a : LockScreen) : LockScreen :=
  { a with window := fun v => if v = w then d else a.window v }

def modify (w : WindowId) (f : DialogWindow → DialogWindow) (a : LockScreen) : LockScreen :=
  a.put w ((a.window w).map f)

def without (id : SourceId) (l : List WindowSource) : List WindowSource := l.filter fun x => x.id ≠ id

/- notify::dialog-up keeps the manager's flag in step. -/
def setDialogUp (w : WindowId) (up : Bool) (a : LockScreen) : LockScreen :=
  if (a.get w).dialogUp = up then a
  else if (a.window w).isNone then { a with dialogUp := false }
  else { a.modify w (fun d => { d with dialogUp := up }) with dialogUp := up }

def dropPopup (w : WindowId) (a : LockScreen) : LockScreen :=
  if (a.get w).popupId = 0 then a
  else { a.modify w (fun d => { d with popupId := 0 }) with popup := without (a.get w).popupId a.popup }

def dropWatch (w : WindowId) (a : LockScreen) : LockScreen :=
  if (a.get w).watchId = 0 then a
  else { a.modify w (fun d => { d with watchId := 0 }) with watch := without (a.get w).watchId a.watch }

/- The end of a dialog, whether it was wanted or not. -/
def popdown (w : WindowId) (a : LockScreen) : LockScreen :=
  ((a.setDialogUp w false).dropPopup w).dropWatch w

def queueEmit (w : WindowId) (cause : Cause) (a : LockScreen) : LockScreen :=
  { a with nextId := a.nextId + 1, emit := a.emit ++ [⟨a.nextId, w, cause⟩] }

def addPopup (w : WindowId) (a : LockScreen) : LockScreen :=
  { a.modify w (fun d => { d with popupId := a.nextId }) with
    nextId := a.nextId + 1, popup := a.popup ++ [⟨a.nextId, w⟩] }

def addWatch (w : WindowId) (a : LockScreen) : LockScreen :=
  { a.modify w (fun d => { d with watchId := a.nextId }) with
    nextId := a.nextId + 1, watch := a.watch ++ [⟨a.nextId, w⟩] }

/- gs_window_request_unlock -/
def requestUnlock (w : WindowId) (a : LockScreen) : LockScreen :=
  if !(a.get w).visible then a
  else if (a.get w).watchId > 0 then a
  else if !(a.get w).lockEnabled then a.queueEmit w .notLocked
  else (if (a.get w).popupId = 0 then a.addPopup w else a).setDialogUp w true

/- The run of popup_dialog_idle, with or without a dialog in the end. -/
def popupRun (spawned : Bool) (x : WindowSource) (a : LockScreen) : LockScreen :=
  let a := if spawned then a.addWatch x.window else a
  { a.modify x.window (fun d => { d with popupId := 0 }) with popup := without x.id a.popup }

def respond (r : DialogResponse) (w : WindowId) (a : LockScreen) : LockScreen :=
  a.modify w fun d =>
    { d with response := r, okRead := if r = .ok then some a.activation else d.okRead }

/- The main loop drops the watch, whatever the window still knows of it. -/
def detach (id : SourceId) (a : LockScreen) : LockScreen := { a with watch := without id a.watch }

/- The end of a run of lock_command_watch. -/
def finish (x : WindowSource) (a : LockScreen) : LockScreen :=
  let a := a.popdown x.window
  let a := if (a.get x.window).response = .ok then
      a.queueEmit x.window (.response (a.get x.window).okRead)
    else a
  (a.modify x.window fun d => { d with watchId := 0 }).detach x.id

def destroy (w : WindowId) (a : LockScreen) : LockScreen := (a.popdown w).put w none

/- The window of a monitor that is gone. -/
def remove (w : WindowId) (a : LockScreen) : LockScreen :=
  let a := a.destroy w
  { a with windows := a.windows.filter fun v => v ≠ w }

def create (a : LockScreen) : LockScreen :=
  { a.put a.nextWindow (some ⟨false, a.lockActive, false, 0, 0, .cancel, none⟩) with
    nextWindow := a.nextWindow + 1, windows := a.windows ++ [a.nextWindow] }

def reveal (w : WindowId) (a : LockScreen) : LockScreen := a.modify w fun d => { d with visible := true }

def setLock (b : Bool) (a : LockScreen) : LockScreen :=
  { a with lockActive := b,
           window := fun w => if w ∈ a.windows then (a.window w).map fun d => { d with lockEnabled := b }
                              else a.window w }

/- The run of emit_deactivated_idle. -/
def emitRun (x : EmitDeactivated) (a : LockScreen) : LockScreen :=
  let a := if (a.window x.window).isSome then
      { a with nextId := a.nextId + 1, deactivated := a.deactivated ++ [⟨a.nextId, x.cause⟩] }
    else a
  { a with emit := a.emit.filter fun y => y.id ≠ x.id }

/- The timer that locks. -/
def dropTimer (a : LockScreen) : LockScreen :=
  if a.timerId = 0 then a
  else { a with timers := a.timers.filter fun t => t ≠ a.timerId, timerId := 0 }

def addTimer (a : LockScreen) : LockScreen :=
  { a with nextId := a.nextId + 1, timers := a.timers ++ [a.nextId], timerId := a.nextId }

def activate (a : LockScreen) : LockScreen := { a with active := true, activation := a.activation + 1 }

/- The windows go one after the other. -/
def destroyAll (a : LockScreen) : LockScreen :=
  { a.windows.foldl (fun a w => a.destroy w) a with windows := [] }

def deactivate (a : LockScreen) : LockScreen :=
  { a.dropTimer.destroyAll with active := false, lockActive := false, dialogUp := false }

/-! ### Soundness -/

/-- What holds of every state: the ids a window keeps are those of the attached
sources, locks agree, and an OK answer was read in this activation. -/
structure Sound (a : LockScreen) : Prop where
  live : ∀ w d, a.window w = some d → w ∈ a.windows ∧ w < a.nextWindow
  lock : ∀ w d, a.window w = some d → d.lockEnabled = a.lockActive
  popup : ∀ x ∈ a.popup, x.id ≠ 0 ∧ ∃ d, a.window x.window = some d ∧ d.popupId = x.id
  watch : ∀ x ∈ a.watch, x.id ≠ 0 ∧ ∃ d, a.window x.window = some d ∧ d.watchId = x.id
  queued : ∀ w d, a.window w = some d → d.popupId ≠ 0 →
    ⟨d.popupId, w⟩ ∈ a.popup ∧ d.dialogUp = true ∧ d.watchId = 0
  bound : ∀ w d, a.window w = some d → d.popupId < a.nextId ∧ d.watchId < a.nextId
  popupOne : ∀ v w dv dw, a.window v = some dv → a.window w = some dw → dv.popupId ≠ 0 →
    dv.popupId = dw.popupId → v = w
  watchOne : ∀ v w dv dw, a.window v = some dv → a.window w = some dw → dv.watchId ≠ 0 →
    dv.watchId = dw.watchId → v = w
  response : ∀ w d, a.window w = some d → d.response = .ok →
    a.active = true ∧ d.okRead = some a.activation
  off : a.active = false → ∀ w d, a.window w = some d →
    d.popupId = 0 ∧ d.watchId = 0 ∧ d.dialogUp = false
  dialog : a.dialogUp = true ↔ ∃ w d, a.window w = some d ∧ d.dialogUp = true
  one : ∀ v w dv dw, a.window v = some dv → a.window w = some dw → dv.dialogUp = true →
    dw.dialogUp = true → v = w
  emit : ∀ x ∈ a.emit, x.window < a.nextWindow
  listed : ∀ w ∈ a.windows, w < a.nextWindow
  timer : ∀ t ∈ a.timers, t ≠ 0 ∧ t = a.timerId ∧ a.active = true
  pos : 0 < a.nextId

/- No window of the list has been destroyed. -/
def Listed (a : LockScreen) : Prop := ∀ w ∈ a.windows, (a.window w).isSome = true

/-- While the screen is locked, what is queued comes from an OK answer of this
activation. -/
def Guarded (a : LockScreen) : Prop :=
  a.active = true → a.lockActive = true →
    (∀ x ∈ a.emit, (a.window x.window).isSome = true → x.cause = .response (some a.activation)) ∧
    ∀ x ∈ a.deactivated, x.cause = .response (some a.activation)

/-- A dialog that is up is still going to report, and a recorded watch is attached. -/
def Reports (a : LockScreen) : Prop :=
  ∀ w d, a.window w = some d →
    (d.dialogUp = true → d.popupId ≠ 0 ∨ d.watchId ≠ 0) ∧ (d.watchId ≠ 0 → ⟨d.watchId, w⟩ ∈ a.watch)

/- What is the same after a step that neither starts, locks nor ends the activation. -/
structure Same (a b : LockScreen) : Prop where
  active : b.active = a.active
  lockActive : b.lockActive = a.lockActive
  throttled : b.throttled = a.throttled
  activation : b.activation = a.activation

/- What such a step keeps. Only under `r` is every dialog still going to report. -/
structure Kept (r : Prop) (a b : LockScreen) : Prop extends Same a b where
  sound : b.Sound
  listed : a.Listed → b.Listed
  guarded : a.Guarded → b.Guarded
  reports : r → a.Reports → b.Reports

def Keeps (r : Prop) (a b : LockScreen) : Prop := a.Sound → Kept r a b

variable {r : Prop} {a b c : LockScreen}

theorem Same.refl : Same a a := ⟨rfl, rfl, rfl, rfl⟩

theorem Same.trans (h : Same a b) (h' : Same b c) : Same a c :=
  ⟨h'.active.trans h.active, h'.lockActive.trans h.lockActive, h'.throttled.trans h.throttled,
    h'.activation.trans h.activation⟩

theorem Keeps.refl : Keeps r a a := fun h => ⟨.refl, h, id, id, fun _ => id⟩

theorem Keeps.trans (h : Keeps r a b) (h' : Keeps r b c) : Keeps r a c := by
  intro hs
  have h1 := h hs
  have h2 := h' h1.sound
  exact ⟨h1.toSame.trans h2.toSame, h2.sound, fun hl => h2.listed (h1.listed hl),
    fun hg => h2.guarded (h1.guarded hg), fun hr hrep => h2.reports hr (h1.reports hr hrep)⟩

/- Sources of other kinds use up ids. -/
def bump (m : SourceId) (a : LockScreen) : LockScreen := { a with nextId := m }

theorem Keeps.bump {m : SourceId} (hm : a.nextId ≤ m) : Keeps r a (a.bump m) := by
  intro h
  refine ⟨⟨rfl, rfl, rfl, rfl⟩, { h with bound := fun w d hd => ?_, pos := ?_ }, id, id,
    fun _ => id⟩
  · have hb := h.bound w d hd
    exact ⟨Nat.lt_of_lt_of_le hb.1 hm, Nat.lt_of_lt_of_le hb.2 hm⟩
  · exact Nat.lt_of_lt_of_le h.pos hm

/-! ### One window at a time -/

variable {w : WindowId} {d d' : DialogWindow}

theorem get_of (hw : a.window w = some d) : a.get w = d := by simp [get, hw]

theorem get_dead (hw : a.window w = none) : a.get w = ⟨false, false, false, 0, 0, .cancel, none⟩ := by
  simp [get, hw]

@[simp] theorem put_window (v : WindowId) (e : Option DialogWindow) :
    (a.put w e).window v = if v = w then e else a.window v := rfl

theorem put_self (hw : a.window w = some d) : a.put w (some d) = a := by
  have hf : (fun v => if v = w then some d else a.window v) = a.window := by
    funext v
    split
    · next h => rw [h, hw]
    · rfl
  simp only [put, hf]

theorem modify_dead (hw : a.window w = none) {f : DialogWindow → DialogWindow} :
    a.modify w f = a := by
  have hf : (fun v => if v = w then none else a.window v) = a.window := by
    funext v
    split
    · next h => rw [h, hw]
    · rfl
  simp only [modify, put, hw, Option.map_none, hf]

theorem modify_of (hw : a.window w = some d) (f : DialogWindow → DialogWindow) :
    a.modify w f = a.put w (some (f d)) := by
  simp [modify, hw]

theorem mem_without {id : SourceId} {l : List WindowSource} {x : WindowSource} :
    x ∈ without id l ↔ x ∈ l ∧ x.id ≠ id := by
  simp [without]

/- Window `w` and the sources that belong to it are exchanged; `m` is the next
source id afterwards. -/
def replace (w : WindowId) (d : DialogWindow) (up : Bool) (ps ws : List WindowSource) (m : SourceId)
    (a : LockScreen) : LockScreen :=
  { a.put w (some d) with dialogUp := up, popup := ps, watch := ws, nextId := m }

/- What the new record `d'` of a window must satisfy. An id it keeps is its own
or a new one. -/
structure Fits (a : LockScreen) (w : WindowId) (d d' : DialogWindow) (up : Bool)
    (ps ws : List WindowSource) (m : SourceId) : Prop where
  lock : d'.lockEnabled = d.lockEnabled
  popup : ∀ x, x ∈ ps ↔ (x ∈ a.popup ∧ x.window ≠ w) ∨ (d'.popupId ≠ 0 ∧ x = ⟨d'.popupId, w⟩)
  watch : ∀ x ∈ ws, (x ∈ a.watch ∧ x.window ≠ w) ∨ (d'.watchId ≠ 0 ∧ x = ⟨d'.watchId, w⟩)
  others : ∀ x ∈ a.watch, x.window ≠ w → x ∈ ws
  queued : d'.popupId ≠ 0 → d'.dialogUp = true ∧ d'.watchId = 0
  popupId : d'.popupId = 0 ∨ d'.popupId = d.popupId ∨ (a.nextId ≤ d'.popupId ∧ d'.popupId < m)
  watchId : d'.watchId = 0 ∨ d'.watchId = d.watchId ∨ (a.nextId ≤ d'.watchId ∧ d'.watchId < m)
  response : d'.response = .ok → a.active = true ∧ d'.okRead = some a.activation
  off : a.active = false → d'.popupId = 0 ∧ d'.watchId = 0 ∧ d'.dialogUp = false
  up : up = (d'.dialogUp || (!d.dialogUp && a.dialogUp))
  one : d'.dialogUp = true → d.dialogUp = true ∨ a.dialogUp = false
  next : a.nextId ≤ m

variable {up : Bool} {ps ws : List WindowSource} {m : SourceId}

theorem replace_same : (a.replace w d' up ps ws m).window w = some d' := if_pos rfl

theorem replace_other {v : WindowId} (hv : v ≠ w) : (a.replace w d' up ps ws m).window v = a.window v :=
  if_neg hv

/- Only the last exchange of a window counts. -/
theorem replace_replace {up' : Bool} {ps' ws' : List WindowSource} {m' : SourceId} :
    (a.replace w d up ps ws m).replace w d' up' ps' ws' m' = a.replace w d' up' ps' ws' m' := by
  have hwin : (fun v => if v = w then some d' else (a.replace w d up ps ws m).window v) =
      fun v => if v = w then some d' else a.window v := by
    funext v
    split
    · rfl
    · next hv => exact replace_other hv
  simp only [LockScreen.replace, put] at hwin ⊢
  rw [hwin]

theorem replace_some {v : WindowId} {e : DialogWindow} (hv : (a.replace w d' up ps ws m).window v = some e) :
    v = w ∧ e = d' ∨ v ≠ w ∧ a.window v = some e := by
  by_cases hvw : v = w
  · rw [hvw, replace_same] at hv
    exact .inl ⟨hvw, (Option.some.inj hv).symm⟩
  · rw [replace_other hvw] at hv
    exact .inr ⟨hvw, hv⟩

/- An id that is kept or new is below the next one. -/
theorem id_below {i j n m : Nat} (hi : i = 0 ∨ i = j ∨ n ≤ i ∧ i < m) (hj : j < n) (hm : n ≤ m) : i < m := by
  omega

/- Two windows do not share an id: not two of the others, and none the one that is
replaced, whose id is its own or a new one. -/
theorem replace_one {id : DialogWindow → SourceId}
    (one : ∀ v w dv dw, a.window v = some dv → a.window w = some dw → id dv ≠ 0 → id dv = id dw → v = w)
    (bound : ∀ v e, a.window v = some e → id e < a.nextId) (hw : a.window w = some d)
    (hid : id d' = 0 ∨ id d' = id d ∨ (a.nextId ≤ id d' ∧ id d' < m)) {v x : WindowId} {dv dx : DialogWindow}
    (hv : (a.replace w d' up ps ws m).window v = some dv) (hx : (a.replace w d' up ps ws m).window x = some dx)
    (h0 : id dv ≠ 0) (heq : id dv = id dx) : v = x := by
  have hapart : ∀ y e, y ≠ w → a.window y = some e → id d' ≠ 0 → id d' ≠ id e := by
    intro y e hne he hd0 hsame
    rcases hid with hnone | hkept | ⟨hnew, -⟩
    · exact hd0 hnone
    · exact hne (one w y d e hw he (hkept ▸ hd0) (hkept.symm.trans hsame)).symm
    · exact absurd (hsame ▸ bound y e he) (Nat.not_lt.2 hnew)
  rcases replace_some hv with ⟨rfl, rfl⟩ | ⟨hvw, hv'⟩
  · rcases replace_some hx with ⟨rfl, -⟩ | ⟨hxw, hx'⟩
    · rfl
    · exact absurd heq (hapart x dx hxw hx' h0)
  · rcases replace_some hx with ⟨rfl, rfl⟩ | ⟨hxw, hx'⟩
    · exact absurd heq.symm (hapart v dv hvw hv' (heq ▸ h0))
    · exact one v x dv dx hv' hx' h0 heq

theorem Sound.replace (h : a.Sound) (hw : a.window w = some d)
    (hf : Fits a w d d' up ps ws m) : (a.replace w d' up ps ws m).Sound where
  live v e hv := by
    rcases replace_some hv with ⟨rfl, rfl⟩ | ⟨-, hv'⟩
    · exact h.live v d hw
    · exact h.live v e hv'
  lock v e hv := by
    rcases replace_some hv with ⟨rfl, rfl⟩ | ⟨-, hv'⟩
    · exact hf.lock.trans (h.lock v d hw)
    · exact h.lock v e hv'
  popup x hx := by
    rcases (hf.popup x).1 hx with ⟨hold, hne⟩ | ⟨h0, rfl⟩
    · obtain ⟨h0, e, he, hid⟩ := h.popup x hold
      exact ⟨h0, e, (replace_other hne).trans he, hid⟩
    · exact ⟨h0, d', replace_same, rfl⟩
  watch x hx := by
    rcases hf.watch x hx with ⟨hold, hne⟩ | ⟨h0, rfl⟩
    · obtain ⟨h0, e, he, hid⟩ := h.watch x hold
      exact ⟨h0, e, (replace_other hne).trans he, hid⟩
    · exact ⟨h0, d', replace_same, rfl⟩
  queued v e hv h0 := by
    rcases replace_some hv with ⟨rfl, rfl⟩ | ⟨hne, hv'⟩
    · exact ⟨(hf.popup _).2 (.inr ⟨h0, rfl⟩), hf.queued h0⟩
    · obtain ⟨hmem, hrest⟩ := h.queued v e hv' h0
      exact ⟨(hf.popup _).2 (.inl ⟨hmem, hne⟩), hrest⟩
  bound v e hv := by
    rcases replace_some hv with ⟨rfl, rfl⟩ | ⟨-, hv'⟩
    · obtain ⟨hp, hq⟩ := h.bound v d hw
      exact ⟨id_below hf.popupId hp hf.next, id_below hf.watchId hq hf.next⟩
    · obtain ⟨hp, hq⟩ := h.bound v e hv'
      exact ⟨Nat.lt_of_lt_of_le hp hf.next, Nat.lt_of_lt_of_le hq hf.next⟩
  popupOne _ _ _ _ hv hx := replace_one h.popupOne (fun v e he => (h.bound v e he).1) hw hf.popupId hv hx
  watchOne _ _ _ _ hv hx := replace_one h.watchOne (fun v e he => (h.bound v e he).2) hw hf.watchId hv hx
  response v e hv := by
    rcases replace_some hv with ⟨rfl, rfl⟩ | ⟨-, hv'⟩
    · exact hf.response
    · exact h.response v e hv'
  off ha v e hv := by
    rcases replace_some hv with ⟨rfl, rfl⟩ | ⟨-, hv'⟩
    · exact hf.off ha
    · exact h.off ha v e hv'
  dialog := by
    show up = true ↔ _
    constructor
    · intro hup
      rw [hf.up, Bool.or_eq_true] at hup
      rcases hup with hup | hup
      · exact ⟨w, d', replace_same, hup⟩
      · obtain ⟨hdown, hany⟩ := Bool.and_eq_true_iff.1 hup
        obtain ⟨v, e, hv, hvup⟩ := h.dialog.1 hany
        have hne : v ≠ w := by
          rintro rfl
          rw [hw] at hv
          cases hv
          rw [hvup] at hdown
          cases hdown
        exact ⟨v, e, (replace_other hne).trans hv, hvup⟩
    · rintro ⟨v, e, hv, hup⟩
      rw [hf.up, Bool.or_eq_true]
      rcases replace_some hv with ⟨rfl, rfl⟩ | ⟨hne, hv'⟩
      · exact .inl hup
      · refine .inr (Bool.and_eq_true_iff.2 ⟨?_, h.dialog.2 ⟨v, e, hv', hup⟩⟩)
        cases hd : d.dialogUp
        · rfl
        · exact absurd (h.one v w e d hv' hw hup hd) hne
  one v x dv dx hv hx hvup hxup := by
    -- a dialog that is up at another window leaves this one none to raise
    have hnone : ∀ y e, y ≠ w → a.window y = some e → e.dialogUp = true → d'.dialogUp ≠ true := by
      intro y e hne he heup hup
      rcases hf.one hup with hd | hno
      · exact hne (h.one y w e d he hw heup hd)
      · rw [h.dialog.2 ⟨y, e, he, heup⟩] at hno
        cases hno
    rcases replace_some hv with ⟨rfl, rfl⟩ | ⟨hvw, hv'⟩
    · rcases replace_some hx with ⟨rfl, -⟩ | ⟨hxw, hx'⟩
      · rfl
      · exact absurd hvup (hnone x dx hxw hx' hxup)
    · rcases replace_some hx with ⟨rfl, rfl⟩ | ⟨hxw, hx'⟩
      · exact absurd hxup (hnone v dv hvw hv' hvup)
      · exact h.one v x dv dx hv' hx' hvup hxup
  emit := h.emit
  listed := h.listed
  timer := h.timer
  pos := Nat.lt_of_lt_of_le h.pos hf.next

/- A window whose dialog is as before leaves the manager's flag as it is. -/
theorem Sound.dialogUp_kept (h : a.Sound) (hw : a.window w = some d) :
    a.dialogUp = (d.dialogUp || (!d.dialogUp && a.dialogUp)) := by
  cases hd : d.dialogUp
  · rfl
  · exact h.dialog.2 ⟨w, d, hw, hd⟩

theorem Listed.replace (h : a.Listed) : (a.replace w d' up ps ws m).Listed := by
  intro v hv
  have hs := h v hv
  simp only [LockScreen.replace, put]
  split
  · rfl
  · exact hs

/- The part of `Reports` about one window. -/
def ReportsAt (w : WindowId) (d : DialogWindow) (ws : List WindowSource) : Prop :=
  (d.dialogUp = true → d.popupId ≠ 0 ∨ d.watchId ≠ 0) ∧ (d.watchId ≠ 0 → ⟨d.watchId, w⟩ ∈ ws)

theorem Reports.replace (h : a.Reports) (hf : Fits a w d d' up ps ws m)
    (hr : ReportsAt w d' ws) : (a.replace w d' up ps ws m).Reports := by
  intro v e he
  simp only [LockScreen.replace, put] at he ⊢
  by_cases hv : v = w
  · subst hv
    obtain rfl : d' = e := by simpa using he
    exact hr
  · rw [if_neg hv] at he
    obtain ⟨h1, h2⟩ := h v e he
    exact ⟨h1, fun h0 => hf.others _ (h2 h0) hv⟩

theorem Guarded.replace (h : a.Guarded) (hw : a.window w = some d) :
    (a.replace w d' up ps ws m).Guarded := by
  intro ha hl
  obtain ⟨h1, h2⟩ := h ha hl
  refine ⟨fun x hx hs => h1 x hx ?_, h2⟩
  simp only [LockScreen.replace, put] at hs
  split at hs
  · next hv => simp [hv, hw]
  · exact hs

theorem Keeps.replace (hw : a.window w = some d)
    (hf : a.Sound → Fits a w d d' up ps ws m)
    (hr : r → a.Sound → ReportsAt w d a.watch → ReportsAt w d' ws) :
    Keeps r a (a.replace w d' up ps ws m) := by
  intro h
  exact ⟨⟨rfl, rfl, rfl, rfl⟩, h.replace hw (hf h), fun hl => hl.replace,
    fun hg => hg.replace hw, fun h0 hrep => hrep.replace (hf h) (hr h0 h (hrep w d hw))⟩

/-! ### The operations -/

theorem dialogDown_of (hw : a.window w = some d) : a.setDialogUp w false =
    a.replace w { d with dialogUp := false } (!d.dialogUp && a.dialogUp) a.popup a.watch a.nextId := by
  cases hu : d.dialogUp
  · have hd : { d with dialogUp := false } = d := by rw [← hu]
    simp [setDialogUp, get_of hw, hu, hd, LockScreen.replace, put_self hw]
  · rw [setDialogUp, if_neg (by simp [get_of hw, hu]), if_neg (by simp [hw]), modify_of hw]
    rfl

theorem dialogUp_of (hw : a.window w = some d) (hd : d.dialogUp = false) : a.setDialogUp w true =
    a.replace w { d with dialogUp := true } true a.popup a.watch a.nextId := by
  rw [setDialogUp, if_neg (by simp [get_of hw, hd]), if_neg (by simp [hw]), modify_of hw]
  rfl

theorem dropPopup_of (hw : a.window w = some d) : a.dropPopup w =
    a.replace w { d with popupId := 0 } a.dialogUp
      (if d.popupId = 0 then a.popup else without d.popupId a.popup) a.watch a.nextId := by
  rw [dropPopup, get_of hw]
  split
  · next hp =>
    have hd : { d with popupId := 0 } = d := by rw [← hp]
    rw [hd, LockScreen.replace, put_self hw]
  · rw [modify_of hw]
    rfl

theorem dropWatch_of (hw : a.window w = some d) : a.dropWatch w =
    a.replace w { d with watchId := 0 } a.dialogUp a.popup
      (if d.watchId = 0 then a.watch else without d.watchId a.watch) a.nextId := by
  rw [dropWatch, get_of hw]
  split
  · next hp =>
    have hd : { d with watchId := 0 } = d := by rw [← hp]
    rw [hd, LockScreen.replace, put_self hw]
  · rw [modify_of hw]
    rfl

theorem addPopup_of (hw : a.window w = some d) : a.addPopup w =
    a.replace w { d with popupId := a.nextId } a.dialogUp (a.popup ++ [⟨a.nextId, w⟩]) a.watch
      (a.nextId + 1) := by
  rw [addPopup, modify_of hw]
  rfl

theorem addWatch_of (hw : a.window w = some d) : a.addWatch w =
    a.replace w { d with watchId := a.nextId } a.dialogUp a.popup (a.watch ++ [⟨a.nextId, w⟩])
      (a.nextId + 1) := by
  rw [addWatch, modify_of hw]
  rfl

theorem popdown_dead (hw : a.window w = none) : a.popdown w = a := by
  simp [popdown, setDialogUp, dropPopup, dropWatch, get_dead hw]

theorem popdown_of (hw : a.window w = some d) : a.popdown w = a.replace w d.down
    (!d.dialogUp && a.dialogUp) (if d.popupId = 0 then a.popup else without d.popupId a.popup)
    (if d.watchId = 0 then a.watch else without d.watchId a.watch) a.nextId := by
  rw [popdown, dialogDown_of hw, dropPopup_of replace_same, dropWatch_of replace_same, replace_replace,
    replace_replace]
  rfl

section Attached
variable {id : DialogWindow → SourceId} {q : List WindowSource}

/- The sources of a window are those with the id it keeps. -/
theorem own_iff (attached : ∀ x ∈ q, x.id ≠ 0 ∧ ∃ d, a.window x.window = some d ∧ id d = x.id)
    (one : ∀ v w dv dw, a.window v = some dv → a.window w = some dw → id dv ≠ 0 → id dv = id dw → v = w)
    (hw : a.window w = some d) {x : WindowSource} (hx : x ∈ q) : x.window = w ↔ x.id = id d := by
  obtain ⟨h0, e, he, hid⟩ := attached x hx
  constructor
  · rintro rfl
    rw [hw] at he
    cases he
    exact hid.symm
  · intro heq
    exact one x.window w e d he hw (hid ▸ h0) (hid.trans heq)

theorem mem_taken (attached : ∀ x ∈ q, x.id ≠ 0 ∧ ∃ d, a.window x.window = some d ∧ id d = x.id)
    (one : ∀ v w dv dw, a.window v = some dv → a.window w = some dw → id dv ≠ 0 → id dv = id dw → v = w)
    (hw : a.window w = some d) (x : WindowSource) :
    x ∈ (if id d = 0 then q else without (id d) q) ↔ x ∈ q ∧ x.window ≠ w := by
  split
  · next h0 =>
    refine ⟨fun hx => ⟨hx, fun hxw => ?_⟩, And.left⟩
    exact (attached x hx).1 (((own_iff attached one hw hx).1 hxw).trans h0)
  · rw [mem_without]
    exact and_congr_right fun hx => not_congr (own_iff attached one hw hx).symm

theorem mem_kept (attached : ∀ x ∈ q, x.id ≠ 0 ∧ ∃ d, a.window x.window = some d ∧ id d = x.id)
    (hw : a.window w = some d) {x : WindowSource} (hx : x ∈ q) :
    (x ∈ q ∧ x.window ≠ w) ∨ (id d ≠ 0 ∧ x = ⟨id d, w⟩) := by
  obtain ⟨h0, e, he, hid⟩ := attached x hx
  obtain ⟨i, v⟩ := x
  by_cases hv : v = w
  · subst hv
    rw [hw] at he
    cases he
    cases hid
    exact .inr ⟨h0, rfl⟩
  · exact .inl ⟨hx, hv⟩

/- A window without an id has no source. -/
theorem mem_others (attached : ∀ x ∈ q, x.id ≠ 0 ∧ ∃ d, a.window x.window = some d ∧ id d = x.id)
    (hw : a.window w = some d) (h0 : id d = 0) {x : WindowSource} (hx : x ∈ q) : x.window ≠ w := by
  rcases mem_kept attached hw hx with ⟨-, hne⟩ | ⟨hno, -⟩
  · exact hne
  · exact absurd h0 hno

end Attached

theorem popdown_fits (h : a.Sound) (hw : a.window w = some d) : Fits a w d d.down
    (!d.dialogUp && a.dialogUp) (if d.popupId = 0 then a.popup else without d.popupId a.popup)
    (if d.watchId = 0 then a.watch else without d.watchId a.watch) a.nextId where
  lock := rfl
  popup x := (mem_taken h.popup h.popupOne hw x).trans (or_iff_left fun hno => hno.1 rfl).symm
  watch x hx := .inl ((mem_taken h.watch h.watchOne hw x).1 hx)
  others x hx hv := (mem_taken h.watch h.watchOne hw x).2 ⟨hx, hv⟩
  queued h0 := absurd rfl h0
  popupId := .inl rfl
  watchId := .inl rfl
  response hr := h.response w d hw hr
  off _ := ⟨rfl, rfl, rfl⟩
  up := rfl
  one hu := by simp [DialogWindow.down] at hu
  next := Nat.le_refl _

theorem Keeps.popdown (a : LockScreen) (w : WindowId) : Keeps r a (a.popdown w) := by
  cases hw : a.window w with
  | none => rw [popdown_dead hw]; exact .refl
  | some d =>
    rw [popdown_of hw]
    exact .replace hw (fun h => popdown_fits h hw) fun _ _ _ => by
      simp [ReportsAt, DialogWindow.down]

theorem popdown_window (hw : a.window w = some d) : (a.popdown w).window w = some d.down := by
  rw [popdown_of hw]
  simp [replace, put]

theorem Keeps.queueEmit {cause : Cause} (hw : a.window w = some d)
    (hc : a.Sound → a.lockActive = true → cause = .response (some a.activation)) :
    Keeps r a (a.queueEmit w cause) := by
  intro h
  refine ⟨⟨rfl, rfl, rfl, rfl⟩, { h with bound := ?_, emit := ?_, pos := Nat.succ_pos _ }, id,
    fun hg ha hl => ?_, fun _ => id⟩
  · intro v e he
    have hb := h.bound v e he
    exact ⟨Nat.lt_succ_of_lt hb.1, Nat.lt_succ_of_lt hb.2⟩
  · intro x hx
    rcases List.mem_append.1 hx with hx | hx
    · exact h.emit x hx
    · obtain rfl := List.mem_singleton.1 hx
      exact (h.live w d hw).2
  · obtain ⟨h1, h2⟩ := hg ha hl
    refine ⟨fun x hx hs => ?_, h2⟩
    rcases List.mem_append.1 hx with hx | hx
    · exact h1 x hx hs
    · obtain rfl := List.mem_singleton.1 hx
      exact hc h hl

/- Unlocking a window that is not locked only queues its deactivation. -/
theorem Keeps.queueUnlocked (hw : a.window w = some d) (hl : d.lockEnabled = false) :
    Keeps r a (a.queueEmit w .notLocked) := by
  refine .queueEmit hw fun h hlock => ?_
  have hd := h.lock w d hw
  rw [hl, hlock] at hd
  cases hd

/- A locked window gets its dialog queued, and counts as up at once. -/
theorem Keeps.addDialog (hw : a.window w = some d) (ha : a.active = true) (hu : a.dialogUp = false)
    (hq : d.watchId = 0) :
    Keeps r a ((if d.popupId = 0 then a.addPopup w else a).setDialogUp w true) := by
  intro h
  have hd : d.dialogUp = false := by
    by_contra hd
    have hup := h.dialog.2 ⟨w, d, hw, by simpa using hd⟩
    simp [hu] at hup
  have hp : d.popupId = 0 := by
    by_contra hp
    have hup := (h.queued w d hw hp).2.1
    simp [hd] at hup
  have he : (if d.popupId = 0 then a.addPopup w else a).setDialogUp w true
      = a.replace w { d with popupId := a.nextId, dialogUp := true } true
          (a.popup ++ [⟨a.nextId, w⟩]) a.watch (a.nextId + 1) := by
    rw [if_pos hp, addPopup_of hw, dialogUp_of (d := { d with popupId := a.nextId }) replace_same hd,
      replace_replace]
    rfl
  rw [he]
  have hn := h.pos
  refine Keeps.replace hw (fun h => ?_) (fun _ _ _ => ?_) h
  · refine ⟨rfl, fun x => ?_, fun x hx => ?_, fun x hx _ => hx, fun _ => ⟨rfl, hq⟩,
      .inr (.inr ⟨Nat.le_refl _, Nat.lt_succ_self _⟩), .inl hq, h.response w d hw, fun ha' => ?_,
      by simp, fun _ => .inr hu, Nat.le_succ _⟩
    · rw [List.mem_append, List.mem_singleton]
      constructor
      · rintro (hx | rfl)
        · exact .inl ⟨hx, mem_others h.popup hw hp hx⟩
        · exact .inr ⟨Nat.ne_of_gt hn, rfl⟩
      · rintro (⟨hx, -⟩ | ⟨-, rfl⟩)
        · exact .inl hx
        · exact .inr rfl
    · exact .inl ⟨hx, mem_others h.watch hw hq hx⟩
    · simp [ha] at ha'
  · exact ⟨fun _ => .inl (Nat.ne_of_gt hn), fun h0 => absurd hq h0⟩

/- The manager only asks a window when no dialog is up. -/
theorem Keeps.requestUnlock (w : WindowId) (ha : a.active = true) (hu : a.dialogUp = false) :
    Keeps r a (a.requestUnlock w) := by
  cases hw : a.window w with
  | none =>
    have hg := get_dead hw
    simpa [LockScreen.requestUnlock, hg] using Keeps.refl
  | some d =>
    simp only [LockScreen.requestUnlock, get_of hw]
    split
    · exact .refl
    · split
      · exact .refl
      · next hq =>
        split
        · next hl => exact .queueUnlocked hw (by simpa using hl)
        · exact .addDialog hw ha hu (Nat.eq_zero_of_not_pos hq)

/- A window whose ids stay can change in what it shows and what it was answered. -/
theorem Keeps.put (hw : a.window w = some d) (hl : d'.lockEnabled = d.lockEnabled)
    (hu : d'.dialogUp = d.dialogUp) (hp : d'.popupId = d.popupId) (hq : d'.watchId = d.watchId)
    (hr : a.Sound → d'.response = .ok → a.active = true ∧ d'.okRead = some a.activation) :
    Keeps r a (a.put w (some d')) := by
  show Keeps r a (a.replace w d' a.dialogUp a.popup a.watch a.nextId)
  refine Keeps.replace hw (fun h => ?_) (fun _ _ hrep => ?_)
  · refine ⟨hl, fun ⟨i, v⟩ => ?_, fun ⟨i, v⟩ hx => ?_, fun x hx _ => hx, fun h0 => ?_, .inr (.inl hp),
      .inr (.inl hq), hr h, fun ha => ?_, ?_, fun h0 => .inl (hu ▸ h0), Nat.le_refl _⟩
    · rw [hp]
      constructor
      · exact mem_kept h.popup hw
      · rintro (⟨hx, -⟩ | ⟨h0, heq⟩)
        · exact hx
        · rw [heq]
          exact (h.queued w d hw h0).1
    · rw [hq]
      exact mem_kept h.watch hw hx
    · rw [hp] at h0
      have hd := h.queued w d hw h0
      rw [hu, hq]
      exact hd.2
    · rw [hp, hq, hu]
      exact h.off ha w d hw
    · rw [hu]
      exact h.dialogUp_kept hw
  · rwa [ReportsAt, hu, hp, hq]

theorem Keeps.reveal (a : LockScreen) (w : WindowId) : Keeps r a (a.reveal w) := by
  cases hw : a.window w with
  | none => rw [LockScreen.reveal, modify_dead hw]; exact .refl
  | some d =>
    rw [LockScreen.reveal, modify_of hw]
    exact .put hw rfl rfl rfl rfl fun h => h.response w d hw

theorem Keeps.respond {x : WindowSource} {answer : DialogResponse} (hx : x ∈ a.watch) :
    Keeps r a (a.respond answer x.window) := by
  intro h
  obtain ⟨h0, d, hw, hd⟩ := h.watch x hx
  have ha : a.active = true := by
    by_contra ha
    have hoff := h.off (by simpa using ha) x.window d hw
    exact h0 (hd.symm.trans hoff.2.1)
  rw [LockScreen.respond, modify_of hw]
  refine Keeps.put hw rfl rfl rfl rfl (fun _ hr => ⟨ha, ?_⟩) h
  have hr' : answer = .ok := hr
  simp [hr']

/- Of a popup that runs, only the watch of a started dialog is left to report. -/
theorem Keeps.popupRun {x : WindowSource} {spawned : Bool} (hx : x ∈ a.popup) :
    Keeps (spawned = true) a (a.popupRun spawned x) := by
  intro h
  obtain ⟨h0, d, hw, hd⟩ := h.popup x hx
  obtain ⟨hmem, hup, hq⟩ := h.queued x.window d hw (hd ▸ h0)
  have ha : a.active = true := by
    by_contra ha
    exact h0 (hd.symm.trans (h.off (by simpa using ha) x.window d hw).1)
  have he : a.popupRun spawned x = a.replace x.window
      { d with popupId := 0, watchId := if spawned then a.nextId else 0 } a.dialogUp
      (without x.id a.popup) (if spawned then a.watch ++ [⟨a.nextId, x.window⟩] else a.watch)
      (if spawned then a.nextId + 1 else a.nextId) := by
    cases spawned
    · simp [LockScreen.popupRun, modify_of hw, LockScreen.replace, LockScreen.put, ← hq]
    · have hdone : (a.addWatch x.window).modify x.window (fun d => { d with popupId := 0 }) =
          a.replace x.window { d with popupId := 0, watchId := a.nextId } a.dialogUp a.popup
            (a.watch ++ [⟨a.nextId, x.window⟩]) (a.nextId + 1) := by
        rw [addWatch_of hw, modify_of replace_same]
        exact replace_replace
      simp only [LockScreen.popupRun, if_true]
      rw [hdone, addWatch_of hw]
      rfl
  rw [he]
  refine Keeps.replace hw (fun h => ?_) (fun hr _ _ => ?_) h
  · refine ⟨rfl, fun y => ?_, fun y hy => ?_, fun y hy _ => ?_, fun hp => absurd rfl hp, .inl rfl,
      ?_, h.response x.window d hw, fun ha' => ?_, ?_, fun _ => .inl hup, ?_⟩
    · rw [mem_without, or_iff_left fun hno => hno.1 rfl]
      exact and_congr_right fun hy => not_congr (hd ▸ own_iff h.popup h.popupOne hw hy).symm
    · cases spawned
      · exact .inl ⟨hy, mem_others h.watch hw hq hy⟩
      · rcases List.mem_append.1 hy with hy | hy
        · exact .inl ⟨hy, mem_others h.watch hw hq hy⟩
        · exact .inr ⟨Nat.ne_of_gt h.pos, List.mem_singleton.1 hy⟩
    · cases spawned
      · exact hy
      · exact List.mem_append_left _ hy
    · cases spawned
      · exact .inl rfl
      · exact .inr (.inr ⟨Nat.le_refl _, Nat.lt_succ_self _⟩)
    · simp [ha] at ha'
    · exact (h.dialogUp_kept hw :)
    · cases spawned
      · exact Nat.le_refl _
      · exact Nat.le_succ _
  · subst hr
    exact ⟨fun _ => .inr (Nat.ne_of_gt h.pos), fun _ => by simp⟩

/- Taking the watch off the loop under the window leaves it waiting for nothing. -/
theorem Keeps.detach {x : WindowSource} : Keeps False a (a.detach x.id) := by
  intro h
  have hsub : ∀ y ∈ (a.detach x.id).watch, y ∈ a.watch := fun y hy => (mem_without.1 hy).1
  exact ⟨⟨rfl, rfl, rfl, rfl⟩, { h with watch := fun y hy => h.watch y (hsub y hy) }, id, id,
    fun hf => hf.elim⟩

/- What is left to do after the popdown has been done by it. -/
theorem finish_done {x : WindowSource} (hw : a.window w = some d) (hq : d.watchId = 0)
    (hno : ∀ y ∈ a.watch, y.id ≠ x.id) :
    (a.modify w fun d => { d with watchId := 0 }).detach x.id = a := by
  have hd : { d with watchId := 0 } = d := by rw [← hq]
  have hl : without x.id a.watch = a.watch := by
    refine List.filter_eq_self.2 fun y hy => ?_
    simpa using hno y hy
  rw [modify_of hw, hd, put_self hw, LockScreen.detach, hl]

theorem Keeps.finish {x : WindowSource} (hx : x ∈ a.watch) : Keeps r a (a.finish x) := by
  intro h
  obtain ⟨h0, d, hw, hd⟩ := h.watch x hx
  have hdown := popdown_window hw
  have hno : ∀ y ∈ (a.popdown x.window).watch, y.id ≠ x.id := by
    rw [popdown_of hw, ← hd]
    intro y hy
    simp only [LockScreen.replace, hd, if_neg h0] at hy
    rw [hd]
    exact (mem_without.1 hy).2
  have hk := Keeps.popdown (r := r) a x.window
  simp only [LockScreen.finish, get_of hdown]
  split
  · next hr =>
    rw [finish_done (a := (a.popdown x.window).queueEmit x.window _) hdown rfl hno]
    refine hk.trans (Keeps.queueEmit hdown fun h _ => ?_) h
    rw [(h.response x.window d.down hdown hr).2]
  · rw [finish_done hdown rfl hno]
    exact hk h

/-! ### Windows that come and go -/

theorem popdown_windows (a : LockScreen) (w : WindowId) : (a.popdown w).windows = a.windows := by
  cases hw : a.window w with
  | none => rw [popdown_dead hw]
  | some d => rw [popdown_of hw]; rfl

theorem popdown_other {v : WindowId} (hv : v ≠ w) : (a.popdown w).window v = a.window v := by
  cases hw : a.window w with
  | none => rw [popdown_dead hw]
  | some d => rw [popdown_of hw]; simp [LockScreen.replace, LockScreen.put, hv]

/- No dialog of the list is up afterwards, and none that was down has come up. -/
theorem popdown_all (l : List WindowId) (a : LockScreen) :
    (l.foldl (fun a w => a.popdown w) a).windows = a.windows ∧ Keeps True a (l.foldl (fun a w => a.popdown w) a) ∧
    ∀ w d, (l.foldl (fun a w => a.popdown w) a).window w = some d → d.dialogUp = true →
      w ∉ l ∧ ∃ d', a.window w = some d' ∧ d'.dialogUp = true := by
  induction l generalizing a with
  | nil => exact ⟨rfl, .refl, fun w d hd hup => ⟨by simp, d, hd, hup⟩⟩
  | cons x l ih =>
    obtain ⟨hwin, hkeeps, hup⟩ := ih (a.popdown x)
    refine ⟨hwin.trans (popdown_windows a x), (Keeps.popdown a x).trans hkeeps, fun w d hd hd' => ?_⟩
    obtain ⟨hl, d', hw, hup'⟩ := hup w d hd hd'
    by_cases hx : w = x
    · subst hx
      cases ha : a.window w with
      | none =>
        rw [popdown_dead ha, ha] at hw
        cases hw
      | some e =>
        rw [popdown_window ha] at hw
        cases hw
        cases hup'
    · rw [popdown_other hx] at hw
      exact ⟨by simp [hx, hl], d', hw, hup'⟩

theorem popdown_all_down {a : LockScreen} (h : a.Sound) :
    (a.windows.foldl (fun a w => a.popdown w) a).dialogUp = false := by
  obtain ⟨hwin, hkeeps, hup⟩ := popdown_all a.windows a
  have hsound := (hkeeps h).sound
  cases hd : (a.windows.foldl (fun a w => a.popdown w) a).dialogUp
  · rfl
  · obtain ⟨w, d, hw, hdup⟩ := hsound.dialog.1 hd
    have hlisted := (hsound.live w d hw).1
    rw [hwin] at hlisted
    exact absurd hlisted (hup w d hw hdup).1

theorem destroy_window (a : LockScreen) (w v : WindowId) :
    (a.destroy w).window v = if v = w then none else a.window v := by
  simp only [destroy, put_window]
  split
  · rfl
  · next hv => exact popdown_other hv

/- The windows that are left were there before. -/
theorem putNone_some {v : WindowId} {e : DialogWindow} (hv : (a.put w none).window v = some e) :
    v ≠ w ∧ a.window v = some e := by
  rw [put_window] at hv
  split at hv
  · cases hv
  · next hne => exact ⟨hne, hv⟩

/- A window with no source and no dialog goes. -/
theorem Sound.putNone (h : a.Sound)
    (hd : ∀ d, a.window w = some d → d.popupId = 0 ∧ d.watchId = 0 ∧ d.dialogUp = false) :
    (a.put w none).Sound where
  live v e hv := h.live v e (putNone_some hv).2
  lock v e hv := h.lock v e (putNone_some hv).2
  popup x hx := by
    obtain ⟨h0, e, he, hid⟩ := h.popup x hx
    have hne : x.window ≠ w := by
      rintro rfl
      exact h0 (hid.symm.trans (hd e he).1)
    exact ⟨h0, e, (if_neg hne).trans he, hid⟩
  watch x hx := by
    obtain ⟨h0, e, he, hid⟩ := h.watch x hx
    have hne : x.window ≠ w := by
      rintro rfl
      exact h0 (hid.symm.trans (hd e he).2.1)
    exact ⟨h0, e, (if_neg hne).trans he, hid⟩
  queued v e hv := h.queued v e (putNone_some hv).2
  bound v e hv := h.bound v e (putNone_some hv).2
  popupOne v x dv dx hv hx := h.popupOne v x dv dx (putNone_some hv).2 (putNone_some hx).2
  watchOne v x dv dx hv hx := h.watchOne v x dv dx (putNone_some hv).2 (putNone_some hx).2
  response v e hv := h.response v e (putNone_some hv).2
  off ha v e hv := h.off ha v e (putNone_some hv).2
  dialog := by
    show a.dialogUp = true ↔ _
    rw [h.dialog]
    constructor
    · rintro ⟨v, e, hv, hup⟩
      have hne : v ≠ w := by
        rintro rfl
        rw [(hd e hv).2.2] at hup
        cases hup
      exact ⟨v, e, (if_neg hne).trans hv, hup⟩
    · rintro ⟨v, e, hv, hup⟩
      exact ⟨v, e, (putNone_some hv).2, hup⟩
  one v x dv dx hv hx := h.one v x dv dx (putNone_some hv).2 (putNone_some hx).2
  emit := h.emit
  listed := h.listed
  timer := h.timer
  pos := h.pos

/- All but `Listed`: the manager still has the window in its list. -/
theorem destroy_keeps (h : a.Sound) : Same a (a.destroy w) ∧ (a.destroy w).Sound ∧
    (a.Guarded → (a.destroy w).Guarded) ∧ (a.Reports → (a.destroy w).Reports) := by
  have hk := Keeps.popdown (r := True) a w h
  refine ⟨⟨hk.active, hk.lockActive, hk.throttled, hk.activation⟩, hk.sound.putNone fun d hd => ?_,
    fun hg ha hl => ?_, fun hrep v d hv => ?_⟩
  · cases hw : a.window w with
    | none =>
      rw [popdown_dead hw, hw] at hd
      cases hd
    | some e =>
      rw [popdown_window hw] at hd
      cases hd
      exact ⟨rfl, rfl, rfl⟩
  · obtain ⟨h1, h2⟩ := hk.guarded hg ha hl
    refine ⟨fun x hx hs => h1 x hx ?_, h2⟩
    simp only [destroy, put_window] at hs
    split at hs
    · cases hs
    · exact hs
  · simp only [destroy, put_window] at hv
    split at hv
    · cases hv
    · exact hk.reports trivial hrep v d hv

theorem destroy_windows (a : LockScreen) (w : WindowId) : (a.destroy w).windows = a.windows :=
  popdown_windows a w

theorem Keeps.remove (a : LockScreen) (w : WindowId) : Keeps r a (a.remove w) := by
  intro h
  obtain ⟨hsame, hs, hg, hrep⟩ := destroy_keeps (w := w) h
  have hwin : ∀ v d, (a.destroy w).window v = some d → v ≠ w := by
    intro v d hv
    rw [destroy_window] at hv
    split at hv
    · cases hv
    · assumption
  refine ⟨⟨hsame.active, hsame.lockActive, hsame.throttled, hsame.activation⟩,
    { hs with live := fun v d hv => ⟨?_, (hs.live v d hv).2⟩, listed := fun v hv => ?_ }, ?_, hg,
    fun _ => hrep⟩
  · exact List.mem_filter.2 ⟨(hs.live v d hv).1, by simpa using hwin v d hv⟩
  · exact hs.listed v (List.mem_filter.1 hv).1
  · intro hl v hv
    obtain ⟨hmem, hne⟩ := List.mem_filter.1 hv
    have hne' : v ≠ w := by simpa using hne
    show ((a.destroy w).window v).isSome = true
    rw [destroy_window, if_neg hne']
    exact hl v (destroy_windows a w ▸ hmem)

theorem create_some {v : WindowId} {e : DialogWindow} (hv : a.create.window v = some e) :
    v = a.nextWindow ∧ e = ⟨false, a.lockActive, false, 0, 0, .cancel, none⟩ ∨ a.window v = some e := by
  have hv' : (if v = a.nextWindow then some ⟨false, a.lockActive, false, 0, 0, .cancel, none⟩
      else a.window v) = some e := hv
  split at hv'
  · next heq => exact .inl ⟨heq, (Option.some.inj hv').symm⟩
  · exact .inr hv'

theorem create_other {v : WindowId} (hv : v ≠ a.nextWindow) : a.create.window v = a.window v := if_neg hv

theorem Sound.create_old (h : a.Sound) {v : WindowId} {e : DialogWindow} (hv : a.window v = some e) :
    a.create.window v = some e :=
  (create_other (Nat.ne_of_lt (h.live v e hv).2)).trans hv

/- A new window has neither a source nor a dialog. -/
theorem Sound.create (h : a.Sound) : a.create.Sound where
  live v e hv := by
    show v ∈ a.windows ++ [a.nextWindow] ∧ v < a.nextWindow + 1
    rcases create_some hv with ⟨rfl, -⟩ | hv'
    · exact ⟨List.mem_append_right _ (List.mem_singleton_self _), Nat.lt_succ_self _⟩
    · obtain ⟨hmem, hlt⟩ := h.live v e hv'
      exact ⟨List.mem_append_left _ hmem, Nat.lt_succ_of_lt hlt⟩
  lock v e hv := by
    rcases create_some hv with ⟨-, rfl⟩ | hv'
    · rfl
    · exact h.lock v e hv'
  popup x hx := by
    obtain ⟨h0, e, he, hid⟩ := h.popup x hx
    exact ⟨h0, e, h.create_old he, hid⟩
  watch x hx := by
    obtain ⟨h0, e, he, hid⟩ := h.watch x hx
    exact ⟨h0, e, h.create_old he, hid⟩
  queued v e hv h0 := by
    rcases create_some hv with ⟨-, rfl⟩ | hv'
    · exact absurd rfl h0
    · exact h.queued v e hv' h0
  bound v e hv := by
    rcases create_some hv with ⟨-, rfl⟩ | hv'
    · exact ⟨h.pos, h.pos⟩
    · exact h.bound v e hv'
  popupOne v x dv dx hv hx h0 heq := by
    rcases create_some hv with ⟨-, rfl⟩ | hv'
    · exact absurd rfl h0
    · rcases create_some hx with ⟨-, rfl⟩ | hx'
      · exact absurd heq h0
      · exact h.popupOne v x dv dx hv' hx' h0 heq
  watchOne v x dv dx hv hx h0 heq := by
    rcases create_some hv with ⟨-, rfl⟩ | hv'
    · exact absurd rfl h0
    · rcases create_some hx with ⟨-, rfl⟩ | hx'
      · exact absurd heq h0
      · exact h.watchOne v x dv dx hv' hx' h0 heq
  response v e hv hr := by
    rcases create_some hv with ⟨-, rfl⟩ | hv'
    · cases hr
    · exact h.response v e hv' hr
  off ha v e hv := by
    rcases create_some hv with ⟨-, rfl⟩ | hv'
    · exact ⟨rfl, rfl, rfl⟩
    · exact h.off ha v e hv'
  dialog := by
    show a.dialogUp = true ↔ _
    rw [h.dialog]
    constructor
    · rintro ⟨v, e, hv, hup⟩
      exact ⟨v, e, h.create_old hv, hup⟩
    · rintro ⟨v, e, hv, hup⟩
      rcases create_some hv with ⟨-, rfl⟩ | hv'
      · cases hup
      · exact ⟨v, e, hv', hup⟩
  one v x dv dx hv hx hvup hxup := by
    rcases create_some hv with ⟨-, rfl⟩ | hv'
    · cases hvup
    · rcases create_some hx with ⟨-, rfl⟩ | hx'
      · cases hxup
      · exact h.one v x dv dx hv' hx' hvup hxup
  emit x hx := Nat.lt_succ_of_lt (h.emit x hx)
  listed v hv := by
    show v < a.nextWindow + 1
    rcases List.mem_append.1 hv with hv | hv
    · exact Nat.lt_succ_of_lt (h.listed v hv)
    · rw [List.mem_singleton.1 hv]
      exact Nat.lt_succ_self _
  timer := h.timer
  pos := h.pos

theorem Keeps.create (a : LockScreen) : Keeps r a a.create := by
  intro h
  refine ⟨⟨rfl, rfl, rfl, rfl⟩, h.create, fun hl v hv => ?_, fun hg ha hl => ?_, fun _ hrep v d hv => ?_⟩
  · rcases List.mem_append.1 hv with hv | hv
    · obtain ⟨e, he⟩ := Option.isSome_iff_exists.1 (hl v hv)
      rw [h.create_old he]
      rfl
    · rw [List.mem_singleton.1 hv]
      exact congrArg Option.isSome (if_pos rfl)
  · obtain ⟨h1, h2⟩ := hg ha hl
    refine ⟨fun x hx hs => h1 x hx ?_, h2⟩
    rw [create_other (Nat.ne_of_lt (h.emit x hx))] at hs
    exact hs
  · rcases create_some hv with ⟨-, rfl⟩ | hv'
    · exact ⟨fun hup => absurd hup Bool.false_ne_true, fun h0 => absurd rfl h0⟩
    · exact hrep v d hv'

theorem Keeps.emitRun {x : EmitDeactivated} (hx : x ∈ a.emit) : Keeps r a (a.emitRun x) := by
  intro h
  simp only [LockScreen.emitRun]
  split
  · next hlive =>
    refine ⟨⟨rfl, rfl, rfl, rfl⟩,
      { h with bound := fun v e he => ?_, emit := fun y hy => ?_, pos := Nat.succ_pos _ }, id,
      fun hg ha hl => ?_, fun _ => id⟩
    · have hb := h.bound v e he
      exact ⟨Nat.lt_succ_of_lt hb.1, Nat.lt_succ_of_lt hb.2⟩
    · exact h.emit y (List.mem_filter.1 hy).1
    · obtain ⟨h1, h2⟩ := hg ha hl
      refine ⟨fun y hy => h1 y (List.mem_filter.1 hy).1, fun y hy => ?_⟩
      rcases List.mem_append.1 hy with hy | hy
      · exact h2 y hy
      · rw [List.mem_singleton.1 hy]
        exact h1 x hx hlive
  · refine ⟨⟨rfl, rfl, rfl, rfl⟩, { h with emit := fun y hy => h.emit y (List.mem_filter.1 hy).1 },
      id, fun hg ha hl => ?_, fun _ => id⟩
    obtain ⟨h1, h2⟩ := hg ha hl
    exact ⟨fun y hy => h1 y (List.mem_filter.1 hy).1, h2⟩

/- A queued deactivation that has run. -/
theorem Keeps.forget (f : WindowDeactivated → Bool) :
    Keeps r a { a with deactivated := a.deactivated.filter f } := by
  intro h
  refine ⟨⟨rfl, rfl, rfl, rfl⟩, { h with }, id, fun hg ha hl => ?_, fun _ => id⟩
  obtain ⟨h1, h2⟩ := hg ha hl
  exact ⟨h1, fun x hx => h2 x (List.mem_filter.1 hx).1⟩

/-! ### Locking, starting and ending -/

theorem setLock_window (h : a.Sound) (b : Bool) (w : WindowId) :
    (a.setLock b).window w = (a.window w).map fun d => { d with lockEnabled := b } := by
  simp only [setLock]
  split
  · rfl
  · next hn =>
    cases hw : a.window w with
    | none => rfl
    | some d => exact absurd (h.live w d hw).1 hn

theorem setLock_some (h : a.Sound) {b : Bool} (hv : (a.setLock b).window w = some d) :
    ∃ e, a.window w = some e ∧ d = { e with lockEnabled := b } := by
  rw [setLock_window h] at hv
  obtain ⟨e, he, rfl⟩ := Option.map_eq_some_iff.1 hv
  exact ⟨e, he, rfl⟩

theorem setLock_of (h : a.Sound) (b : Bool) (hw : a.window w = some d) :
    (a.setLock b).window w = some { d with lockEnabled := b } := by
  rw [setLock_window h, hw]
  rfl

theorem Sound.setLock (h : a.Sound) (b : Bool) : (a.setLock b).Sound where
  live v e hv := by
    obtain ⟨e, he, rfl⟩ := setLock_some h hv
    exact h.live v e he
  lock v e hv := by
    obtain ⟨e, he, rfl⟩ := setLock_some h hv
    rfl
  popup x hx := by
    obtain ⟨h0, e, he, hid⟩ := h.popup x hx
    exact ⟨h0, _, setLock_of h b he, hid⟩
  watch x hx := by
    obtain ⟨h0, e, he, hid⟩ := h.watch x hx
    exact ⟨h0, _, setLock_of h b he, hid⟩
  queued v e hv := by
    obtain ⟨e, he, rfl⟩ := setLock_some h hv
    exact h.queued v e he
  bound v e hv := by
    obtain ⟨e, he, rfl⟩ := setLock_some h hv
    exact h.bound v e he
  popupOne v x dv dx hv hx := by
    obtain ⟨ev, hev, rfl⟩ := setLock_some h hv
    obtain ⟨ex, hex, rfl⟩ := setLock_some h hx
    exact h.popupOne v x ev ex hev hex
  watchOne v x dv dx hv hx := by
    obtain ⟨ev, hev, rfl⟩ := setLock_some h hv
    obtain ⟨ex, hex, rfl⟩ := setLock_some h hx
    exact h.watchOne v x ev ex hev hex
  response v e hv := by
    obtain ⟨e, he, rfl⟩ := setLock_some h hv
    exact h.response v e he
  off ha v e hv := by
    obtain ⟨e, he, rfl⟩ := setLock_some h hv
    exact h.off ha v e he
  dialog := by
    show a.dialogUp = true ↔ _
    rw [h.dialog]
    constructor
    · rintro ⟨v, e, hv, hup⟩
      exact ⟨v, _, setLock_of h b hv, hup⟩
    · rintro ⟨v, e, hv, hup⟩
      obtain ⟨e, he, rfl⟩ := setLock_some h hv
      exact ⟨v, e, he, hup⟩
  one v x dv dx hv hx := by
    obtain ⟨ev, hev, rfl⟩ := setLock_some h hv
    obtain ⟨ex, hex, rfl⟩ := setLock_some h hx
    exact h.one v x ev ex hev hex
  emit := h.emit
  listed := h.listed
  timer := h.timer
  pos := h.pos

theorem Listed.setLock (hl : a.Listed) (h : a.Sound) (b : Bool) : (a.setLock b).Listed := by
  intro w hw
  rw [setLock_window h, Option.isSome_map]
  exact hl w hw

theorem Reports.setLock (hrep : a.Reports) (h : a.Sound) (b : Bool) : (a.setLock b).Reports := by
  intro w d hd
  obtain ⟨e, he, rfl⟩ := setLock_some h hd
  exact hrep w e he

/- Nothing that could still end the activation is under way. -/
def Quiet (a : LockScreen) : Prop :=
  (∀ x ∈ a.emit, a.window x.window = none) ∧ a.deactivated = []

theorem Quiet.guarded (h : a.Sound) (hq : a.Quiet) (b : Bool) : (a.setLock b).Guarded := by
  intro _ _
  refine ⟨fun x hx hs => ?_, fun x hx => ?_⟩
  · rw [setLock_window h, hq.1 x hx] at hs
    cases hs
  · have hx' : x ∈ a.deactivated := hx
    rw [hq.2] at hx'
    cases hx'

/- An activation finds no dialog and no answer of an earlier one. -/
theorem Sound.activate (h : a.Sound) (ha : a.active = false) : a.activate.Sound where
  __ := h
  response w d hw hr := by
    have hact := (h.response w d hw hr).1
    rw [ha] at hact
    cases hact
  off hoff := by cases hoff
  timer t ht := ⟨(h.timer t ht).1, (h.timer t ht).2.1, rfl⟩

theorem foldDestroy (l : List WindowId) (h : a.Sound) :
    let b := l.foldl (fun a w => a.destroy w) a
    Same a b ∧ b.Sound ∧ b.windows = a.windows ∧
      ∀ w, b.window w = if w ∈ l then none else a.window w := by
  induction l generalizing a with
  | nil => exact ⟨.refl, h, rfl, fun w => by simp⟩
  | cons v l ih =>
    obtain ⟨hsame, hs, -, -⟩ := destroy_keeps (w := v) h
    obtain ⟨h1, h2, h3, h4⟩ := ih hs
    refine ⟨hsame.trans h1, h2, h3.trans (destroy_windows a v), fun w => ?_⟩
    rw [List.foldl_cons, h4, destroy_window]
    by_cases hl : w ∈ l <;> by_cases hv : w = v <;> simp [hl, hv]

theorem destroyAll_window (h : a.Sound) (w : WindowId) : a.destroyAll.window w = none := by
  obtain ⟨-, -, -, hwin⟩ := foldDestroy a.windows h
  show (a.windows.foldl (fun a w => a.destroy w) a).window w = none
  rw [hwin]
  split
  · rfl
  · next hn =>
    cases hw : a.window w with
    | none => rfl
    | some d => exact absurd (h.live w d hw).1 hn

theorem destroy_timers (a : LockScreen) (w : WindowId) : (a.destroy w).timers = a.timers := by
  cases hw : a.window w with
  | none => simp [destroy, popdown_dead hw, LockScreen.put]
  | some d => simp [destroy, popdown_of hw, LockScreen.put, LockScreen.replace]

theorem destroyAll_timers (a : LockScreen) : a.destroyAll.timers = a.timers := by
  show (a.windows.foldl (fun a w => a.destroy w) a).timers = a.timers
  generalize a.windows = l
  induction l generalizing a with
  | nil => rfl
  | cons w l ih => rw [List.foldl_cons, ih, destroy_timers]

theorem dropTimer_timers (h : a.Sound) : a.dropTimer.timers = [] := by
  refine List.eq_nil_iff_forall_not_mem.2 fun t ht => ?_
  simp only [dropTimer] at ht
  split at ht
  · next h0 => exact (h.timer t ht).1 ((h.timer t ht).2.1.trans h0)
  · obtain ⟨hmem, hne⟩ := List.mem_filter.1 ht
    exact (of_decide_eq_true hne) (h.timer t hmem).2.1

theorem Keeps.dropTimer (a : LockScreen) : Keeps r a a.dropTimer := by
  intro h
  have hnil := dropTimer_timers h
  simp only [LockScreen.dropTimer] at hnil ⊢
  split
  · exact Keeps.refl h
  · next h0 =>
    rw [if_neg h0] at hnil
    refine ⟨⟨rfl, rfl, rfl, rfl⟩, { h with timer := fun t ht => ?_ }, id, id, fun _ => id⟩
    have ht' : t ∈ ([] : List SourceId) := hnil ▸ ht
    cases ht'

/- The timer is armed while the saver is active, after the old one is dropped. -/
theorem Keeps.addTimer (ha : a.active = true) (h0 : a.timers = []) : Keeps r a a.addTimer := by
  intro h
  refine ⟨⟨rfl, rfl, rfl, rfl⟩,
    { h with bound := fun w d hd => ?_, timer := fun t ht => ?_, pos := Nat.succ_pos _ }, id, id,
    fun _ => id⟩
  · have hb := h.bound w d hd
    exact ⟨Nat.lt_succ_of_lt hb.1, Nat.lt_succ_of_lt hb.2⟩
  · simp only [LockScreen.addTimer, h0, List.nil_append, List.mem_singleton] at ht
    exact ⟨ht ▸ Nat.ne_of_gt h.pos, ht, ha⟩

theorem Keeps.rearm (ha : a.active = true) : Keeps r a a.dropTimer.addTimer := by
  intro h
  have hd := Keeps.dropTimer (r := r) a
  exact hd.trans (Keeps.addTimer ((hd h).active.trans ha) (dropTimer_timers h)) h

/- The id is forgotten when no timer is left. -/
theorem Keeps.clearTimer (h0 : a.timers = []) : Keeps r a { a with timerId := 0 } := by
  intro h
  refine ⟨⟨rfl, rfl, rfl, rfl⟩, { h with timer := fun t ht => ?_ }, id, id, fun _ => id⟩
  have ht' : t ∈ a.timers := ht
  rw [h0] at ht'
  cases ht'

theorem deactivate_window (h : a.Sound) (w : WindowId) : a.deactivate.window w = none :=
  destroyAll_window (Keeps.dropTimer (r := True) a h).sound w

/- Of a deactivated manager nothing is left but queued deactivations. -/
theorem Sound.deactivate (h : a.Sound) : a.deactivate.Sound := by
  have hd := (Keeps.dropTimer (r := True) a h).sound
  obtain ⟨-, hs, -, -⟩ := foldDestroy a.dropTimer.windows hd
  have hnone : ∀ w d, a.deactivate.window w ≠ some d := by
    intro w d hw
    rw [deactivate_window h] at hw
    cases hw
  refine ⟨?_, ?_, ?_, ?_, ?_, ?_, ?_, ?_, ?_, ?_, ?_, ?_, hs.emit, ?_, ?_, hs.pos⟩
  · exact fun w d hd => absurd hd (hnone w d)
  · exact fun w d hd => absurd hd (hnone w d)
  · intro x hx
    obtain ⟨-, d, hd, -⟩ := hs.popup x hx
    exact absurd hd (hnone x.window d)
  · intro x hx
    obtain ⟨-, d, hd, -⟩ := hs.watch x hx
    exact absurd hd (hnone x.window d)
  · exact fun w d hd => absurd hd (hnone w d)
  · exact fun w d hd => absurd hd (hnone w d)
  · exact fun v w d e hd => absurd hd (hnone v d)
  · exact fun v w d e hd => absurd hd (hnone v d)
  · exact fun w d hd => absurd hd (hnone w d)
  · exact fun _ w d hd => absurd hd (hnone w d)
  · refine ⟨fun hup => ?_, fun ⟨w, d, hd, _⟩ => absurd hd (hnone w d)⟩
    cases hup
  · exact fun v w d e hd => absurd hd (hnone v d)
  · intro w hw
    cases hw
  · intro t ht
    have ht' : t ∈ a.dropTimer.destroyAll.timers := ht
    rw [destroyAll_timers, dropTimer_timers h] at ht'
    cases ht'

theorem deactivate_throttled (h : a.Sound) : a.deactivate.throttled = a.throttled := by
  have hd := Keeps.dropTimer (r := True) a h
  obtain ⟨hsame, -⟩ := foldDestroy a.dropTimer.windows hd.sound
  exact hsame.throttled.trans hd.throttled

theorem deactivate_listed (a : LockScreen) : a.deactivate.Listed := by
  intro w hw
  cases hw

theorem deactivate_reports (h : a.Sound) : a.deactivate.Reports := by
  intro w d hd
  rw [deactivate_window h] at hd
  cases hd

end LockScreen
end MateScreensaver
