import MateScreensaver.Behaviour

/-!
Windows come and go: with the monitors, and with the activation as a whole.
-/

namespace MateScreensaver
namespace Saver

variable {p : Prop} {env : SaverEnv} {s t u : Saver} {w : WindowId}

/- gs-manager.c:1536, up to the show of the window. -/
def withWindow (monitor : MonitorId) (s : Saver) : Saver :=
  ({ s.setWindow s.nextWindow (some (gsWindowNew monitor s.manager)) with
      nextWindow := s.nextWindow + 1 } : Saver).modifyManager fun m =>
    { m with windows := m.windows ++ [s.nextWindow] }

/- The job of a window leaves the table. -/
def withoutJob (w : WindowId) (s : Saver) : Saver :=
  s.modifyManager fun m => { m with jobs := m.jobs.map fun l => l.filter fun x => x.1 ≠ w }

/- The end of a window of which the dialog is down, as far as the record of it goes. -/
def forgotten (w : WindowId) (s : Saver) : Saver :=
  let s := s.modifyLoop fun l =>
    { l with infoBarTimeout := MainLoop.removeId (s.window w).infoBarTimerId l.infoBarTimeout }
  (s.modifyGrab (.windowGone w)).setWindow w none

def unlisted (w : WindowId) (s : Saver) : Saver :=
  s.modifyManager fun m => { m with windows := m.windows.filter fun v => v ≠ w }

/- No queued deactivation and no shaking dialog is left for the window. -/
def Unused (w : WindowId) (s : Saver) : Prop :=
  (∀ x ∈ s.loop.emitDeactivatedIdle, x.window ≠ w) ∧ ∀ x ∈ s.loop.shaking, x.window ≠ w

inductive Act (p : Prop) (env : SaverEnv) : Saver → Saver → Prop
  | calm {s t : Saver} (h : Calm p env s t) : Act p env s t
  | plug {s : Saver} (d : Display) : Act p env s { s with display := d }
  | create {s : Saver} (monitor : MonitorId)
      (down : s.manager.active = true → s.manager.dialogUp = false) : Act p env s (s.withWindow monitor)
  | turnOn {s : Saver} (off : s.manager.active = false) : Act p env s s.turnedOn
  | dropJob {s : Saver} (w : WindowId) : Act p env s (s.withoutJob w)
  | gone {s : Saver} (w : WindowId) (down : (s.window w).dialogUp = false)
      (silent : (s.window w).keyboardWatchId = 0) (unused : p → s.Unused w) :
      Act p env s ((s.forgotten w).unlisted w)

abbrev Acts (p : Prop) (env : SaverEnv) : Saver → Saver → Prop := Relation.ReflTransGen (Act p env)

theorem Acts.refl : Acts p env s s := Relation.ReflTransGen.refl

theorem Acts.trans (h : Acts p env s t) (h' : Acts p env t u) : Acts p env s u :=
  Relation.ReflTransGen.trans h h'

theorem Act.acts (h : Act p env s t) : Acts p env s t := Relation.ReflTransGen.single h

theorem Calms.acts (h : Calms p env s t) : Acts p env s t := by
  induction h with
  | refl => exact .refl
  | tail _ h ih => exact Acts.trans ih (Act.calm h).acts

/-! ### No source is left behind -/

theorem windowSetDialogUp_loop (env : SaverEnv) (s : Saver) (w : WindowId) :
    (s.windowSetDialogUp env w false).loop = s.loop := by
  cases h : (s.window w).dialogUp
  · rw [windowSetDialogUp, if_pos h]
  · exact (lowered_windowSetDialogUp env h).loop

/- Queued deactivations and shaking dialogs outlive the dialog. -/
theorem popdownDialog_outlived (env : SaverEnv) (s : Saver) (w : WindowId) :
    (s.popdownDialog env w).loop.emitDeactivatedIdle = s.loop.emitDeactivatedIdle ∧
    (s.popdownDialog env w).loop.shaking = s.loop.shaking := by
  let same (a b : Saver) : Prop :=
    b.loop.emitDeactivatedIdle = a.loop.emitDeactivatedIdle ∧ b.loop.shaking = a.loop.shaking
  have htrans : ∀ {a b c : Saver}, same a b → same b c → same a c :=
    fun h h' => ⟨h'.1.trans h.1, h'.2.trans h.2⟩
  have hdown : same s ((s.gsWindowDialogFinish w).windowSetDialogUp env w false) := by
    have hloop : ((s.gsWindowDialogFinish w).windowSetDialogUp env w false).loop = s.loop :=
      (windowSetDialogUp_loop env _ w).trans (modifyWindow_loop s w _)
    exact ⟨by rw [hloop], by rw [hloop]⟩
  have hbox : ∀ v : Saver, same v (v.removeLockBox w) := by
    intro v
    simp only [removeLockBox]
    split <;> exact ⟨by simp, by simp⟩
  have hidle : ∀ v : Saver, same v (v.removePopupDialogIdle w) := by
    intro v
    simp only [removePopupDialogIdle]
    split
    · exact ⟨by simp [modifyLoop], by simp [modifyLoop]⟩
    · exact ⟨rfl, rfl⟩
  have hlock : ∀ v : Saver, same v (v.removeLockWatch w) := by
    intro v
    simp only [removeLockWatch]
    split
    · exact ⟨by simp [modifyLoop], by simp [modifyLoop]⟩
    · exact ⟨rfl, rfl⟩
  have hkeyboard : ∀ v : Saver, same v (v.removeKeyboardWatch w) := by
    intro v
    simp only [removeKeyboardWatch]
    split
    · exact ⟨by simp [modifyLoop], by simp [modifyLoop]⟩
    · exact ⟨rfl, rfl⟩
  exact htrans hdown (htrans (hbox _) (htrans (hidle _) (htrans (hlock _) (hkeyboard _))))

theorem removeKeyboardWatch_silent (s : Saver) (w : WindowId) :
    ((s.removeKeyboardWatch w).window w).keyboardWatchId = 0 := by
  simp only [removeKeyboardWatch]
  split
  · rw [window, modifyWindow_windows, if_pos rfl]
    show (((s.windows w).map fun win : GSWindow => { win with keyboardWatchId := 0 }).getD _).keyboardWatchId = 0
    cases s.windows w <;> rfl
  · next h => exact not_not.1 h

theorem popdownDialog_down (env : SaverEnv) (s : Saver) (w : WindowId) :
    ((s.popdownDialog env w).window w).dialogUp = false ∧
    ((s.popdownDialog env w).window w).keyboardWatchId = 0 := by
  refine ⟨?_, removeKeyboardWatch_silent _ w⟩
  have hview : ((s.popdownDialog env w).window w).view = (s.view.popdown w).get w := by
    rw [← view_get, view_popdownDialog]
  have hup := congrArg DialogWindow.dialogUp hview
  cases hw : s.view.window w with
  | none =>
    rw [LockScreen.popdown_dead hw, LockScreen.get_dead hw] at hup
    exact hup
  | some d =>
    rw [LockScreen.get_of (LockScreen.popdown_window hw)] at hup
    exact hup

theorem Intact.forgotten (h : s.Intact) (silent : (s.window w).keyboardWatchId = 0) (unused : s.Unused w) :
    (s.forgotten w).Intact := by
  have hwin : ∀ v, (s.forgotten w).windows v = if v = w then none else s.windows v := fun _ => rfl
  have hlive : ∀ v, v ≠ w → s.Live v → (s.forgotten w).Live v := by
    intro v hv hl
    rw [Live, hwin, if_neg hv]
    exact hl
  have htied : ∀ {q q' : List WindowSource} {id : GSWindow → SourceId}, Tied q id s →
      (∀ x ∈ q', x ∈ q ∧ x.window ≠ w) → Tied q' id (s.forgotten w) := by
    intro q q' id ht hq x hx
    obtain ⟨hxq, hxw⟩ := hq x hx
    obtain ⟨h0, win, hw, hid⟩ := ht x hxq
    exact ⟨h0, win, by rw [hwin, if_neg hxw, hw], hid⟩
  refine ⟨h.used, fun x hx => hlive _ (unused.1 x hx) (h.emit x hx),
    fun x hx => hlive _ (unused.2 x hx) (h.shaking x hx), htied h.keyboard fun x hx => ⟨hx, fun hxw => ?_⟩,
    htied h.infoBar fun x hx => h.infoBar.removed hx, h.pos⟩
  have hid := tied_window h.keyboard hx
  rw [hxw, silent] at hid
  exact (h.keyboard x hx).1 hid.symm

theorem Intact.withWindow (h : s.Intact) (hh : s.Housed) (monitor : MonitorId) :
    (s.withWindow monitor).Intact := by
  have hwin : ∀ v, (s.withWindow monitor).windows v =
      if v = s.nextWindow then some (gsWindowNew monitor s.manager) else s.windows v := fun _ => rfl
  have hfresh : ∀ v, s.Live v → v ≠ s.nextWindow := fun v hv => Nat.ne_of_lt (hh.bound v hv)
  have hlive : ∀ v, s.Live v → (s.withWindow monitor).Live v := by
    intro v hv
    rw [Live, hwin, if_neg (hfresh v hv)]
    exact hv
  have htied : ∀ {q : List WindowSource} {id : GSWindow → SourceId}, Tied q id s →
      Tied q id (s.withWindow monitor) := by
    intro q id ht x hx
    obtain ⟨h0, win, hw, hid⟩ := ht x hx
    exact ⟨h0, win, by rw [hwin, if_neg (hfresh _ (ht.live hx)), hw], hid⟩
  exact ⟨h.used, fun x hx => hlive _ (h.emit x hx), fun x hx => hlive _ (h.shaking x hx),
    htied h.keyboard, htied h.infoBar, h.pos⟩

theorem Housed.withWindow (h : s.Housed) (monitor : MonitorId) : (s.withWindow monitor).Housed := by
  have hlist : (s.withWindow monitor).manager.windows = s.manager.windows ++ [s.nextWindow] := rfl
  have hlive : ∀ v, (s.withWindow monitor).Live v ↔ v = s.nextWindow ∨ s.Live v := by
    intro v
    show (if v = s.nextWindow then some (gsWindowNew monitor s.manager) else s.windows v).isSome = true ↔ _
    by_cases hv : v = s.nextWindow <;> simp [hv, Live]
  refine ⟨fun v => ?_, ?_, fun v hv => ?_⟩
  · rw [hlist, hlive, ← h.listed v]
    simp [or_comm]
  · rw [hlist]
    refine List.nodup_append.2 ⟨h.nodup, List.nodup_singleton _, fun v hv x hx => ?_⟩
    cases List.mem_singleton.1 hx
    exact Nat.ne_of_lt (h.bound v ((h.listed v).1 hv))
  · show v < s.nextWindow + 1
    rcases (hlive v).1 hv with hv | hv
    · exact hv ▸ Nat.lt_succ_self _
    · exact Nat.lt_succ_of_lt (h.bound v hv)

theorem Housed.gone (h : s.Housed) (w : WindowId) : ((s.forgotten w).unlisted w).Housed := by
  have hlive : ∀ v, ((s.forgotten w).unlisted w).Live v ↔ s.Live v ∧ v ≠ w := by
    intro v
    show (if v = w then none else s.windows v).isSome = true ↔ _
    by_cases hv : v = w <;> simp [hv, Live]
  refine ⟨fun v => ?_, h.nodup.filter _, fun v hv => h.bound v ((hlive v).1 hv).1⟩
  rw [hlive, ← h.listed v]
  show v ∈ s.manager.windows.filter _ ↔ _
  simp

theorem Act.housed (h : Act p env s t) (hh : s.Housed) : t.Housed := by
  cases h with
  | calm h => exact hh.steady h.steady
  | plug d => exact { hh with }
  | create monitor down => exact hh.withWindow monitor
  | turnOn off => exact { hh with }
  | dropJob w => exact { hh with }
  | gone w down silent unused => exact hh.gone w

theorem Acts.housed (h : Acts p env s t) (hh : s.Housed) : t.Housed := by
  induction h with
  | refl => exact hh
  | tail _ h ih => exact h.housed ih

theorem Act.intact (h : Act p env s t) (hh : s.Housed) (hp : p) (hs : s.Intact) : t.Intact := by
  cases h with
  | calm h => exact h.intact hh hp hs
  | plug d => exact { hs with }
  | create monitor down => exact hs.withWindow hh monitor
  | turnOn off => exact { hs with }
  | dropJob w => exact { hs with }
  | gone w down silent unused => exact { hs.forgotten silent (unused hp) with }

theorem Acts.intact (h : Acts p env s t) (hh : s.Housed) (hp : p) (hs : s.Intact) : t.Intact := by
  have hboth : t.Housed ∧ t.Intact := by
    induction h with
    | refl => exact ⟨hh, hs⟩
    | tail _ h ih => exact ⟨h.housed ih.1, h.intact ih.1 hp ih.2⟩
  exact hboth.2

/-! ### Monitors -/

theorem acts_removeMonitorWindow (env : SaverEnv) (hw : p → s.Live w) (unused : p → s.Unused w) :
    Acts p env s (s.removeMonitorWindow env w) := by
  have hstop : Acts p env s (s.managerMaybeStopJobForWindow w) := (calms_maybeStop env s w).acts
  have hjob : Acts p env s ((s.managerMaybeStopJobForWindow w).withoutJob w) := hstop.trans (Act.dropJob w).acts
  generalize hv : (s.managerMaybeStopJobForWindow w).withoutJob w = v at hjob
  have hlive : p → v.Live w := fun hp => by
    rw [← hv]
    exact hw hp
  have hdown : Acts p env s (v.popdownDialog env w) := hjob.trans (calms_popdownDialog env hlive).acts
  obtain ⟨hup, hsilent⟩ := popdownDialog_down env v w
  obtain ⟨hemit, hshaking⟩ := popdownDialog_outlived env v w
  have hgone : Act p env (v.popdownDialog env w) (((v.popdownDialog env w).forgotten w).unlisted w) := by
    refine .gone w hup hsilent fun hp => ⟨?_, ?_⟩
    · rw [hemit, ← hv]
      exact (unused hp).1
    · rw [hshaking, ← hv]
      exact (unused hp).2
  have heq : s.removeMonitorWindow env w = ((v.popdownDialog env w).forgotten w).unlisted w := by
    rw [← hv]
    rfl
  rw [heq]
  exact hdown.trans hgone.acts

def monitorOf (s : Saver) (w : WindowId) : Option MonitorId := (s.windows w).map GSWindow.monitor

/-- Some windows are gone, and the others and the manager are as they were. -/
structure Shrunk (gone : WindowId → Bool) (s t : Saver) : Prop where
  windows : t.manager.windows = s.manager.windows.filter fun w => !gone w
  lost : ∀ w, gone w = true → t.windows w = none
  records : ∀ w, gone w = false → (t.windows w).map (fun win => (win.monitor, win.lockEnabled)) =
    (s.windows w).map fun win => (win.monitor, win.lockEnabled)
  active : t.manager.active = s.manager.active
  display : t.display = s.display
  emit : t.loop.emitDeactivatedIdle = s.loop.emitDeactivatedIdle
  shaking : t.loop.shaking = s.loop.shaking

theorem Shrunk.refl : Shrunk (fun _ => false) s s :=
  ⟨by simp, fun _ h => absurd h Bool.false_ne_true, fun _ _ => rfl, rfl, rfl, rfl, rfl⟩

theorem Shrunk.trans {g g' : WindowId → Bool} (h : Shrunk g s t) (h' : Shrunk g' t u) :
    Shrunk (fun w => g w || g' w) s u := by
  refine ⟨?_, fun w hw => ?_, fun w hw => ?_, h'.active.trans h.active, h'.display.trans h.display,
    h'.emit.trans h.emit, h'.shaking.trans h.shaking⟩
  · rw [h'.windows, h.windows, List.filter_filter]
    refine List.filter_congr fun w _ => ?_
    rw [Bool.not_or, Bool.and_comm]
  · cases hg' : g' w
    · have hg : g w = true := by simpa [hg'] using hw
      have hrec := h'.records w hg'
      rw [h.lost w hg] at hrec
      simpa using hrec
    · exact h'.lost w hg'
  · obtain ⟨hg, hg'⟩ := Bool.or_eq_false_iff.1 hw
    exact (h'.records w hg').trans (h.records w hg)

theorem Shrunk.monitorOf {g : WindowId → Bool} (h : Shrunk g s t) (hw : g w = false) :
    t.monitorOf w = s.monitorOf w := by
  have hrec := congrArg (Option.map Prod.fst) (h.records w hw)
  simpa [Saver.monitorOf, Option.map_map, Function.comp_def] using hrec

theorem monitorOf_live (s : Saver) (w : WindowId) : (s.monitorOf w).isSome = true ↔ s.Live w := by
  rw [monitorOf, Option.isSome_map, Live]

theorem monitorOf_window (h : s.Live w) (m : MonitorId) : s.monitorOf w = some m ↔ (s.window w).monitor = m := by
  obtain ⟨win, hwin⟩ := Option.isSome_iff_exists.1 h
  simp [monitorOf, window, hwin]

theorem removeMonitorWindow_eq (env : SaverEnv) (s : Saver) (w : WindowId) : s.removeMonitorWindow env w =
    ((((s.managerMaybeStopJobForWindow w).withoutJob w).popdownDialog env w).forgotten w).unlisted w := rfl

theorem shrunk_gone (s : Saver) (w : WindowId) : Shrunk (fun v => v = w) s ((s.forgotten w).unlisted w) := by
  refine ⟨List.filter_congr fun x _ => ?_, fun x hx => ?_, fun x hx => ?_, rfl, rfl, rfl, rfl⟩
  · simp
  · exact if_pos (of_decide_eq_true hx)
  · exact congrArg (Option.map _) (if_neg (of_decide_eq_false hx))

theorem shrunk_removeMonitorWindow (env : SaverEnv) (s : Saver) (w : WindowId) :
    Shrunk (fun v => v = w) s (s.removeMonitorWindow env w) := by
  rw [removeMonitorWindow_eq]
  have hjob : Steady s ((s.managerMaybeStopJobForWindow w).withoutJob w) :=
    ⟨rfl, rfl, rfl, rfl, rfl, rfl, fun _ => rfl, rfl, rfl, rfl⟩
  have hloop : ((s.managerMaybeStopJobForWindow w).withoutJob w).loop = s.loop := rfl
  generalize (s.managerMaybeStopJobForWindow w).withoutJob w = v at hjob hloop
  have hsteady : Steady v (v.popdownDialog env w) := steady_popdownDialog env v w
  obtain ⟨hemit, hshaking⟩ := popdownDialog_outlived env v w
  have hall := hjob.trans hsteady
  have hdown : Shrunk (fun _ => false) s (v.popdownDialog env w) :=
    ⟨by simp [hall.windows], fun _ h => absurd h Bool.false_ne_true, fun x _ => hall.records x, hall.active,
      hall.display, hemit.trans (congrArg _ hloop), hshaking.trans (congrArg _ hloop)⟩
  simpa using hdown.trans (shrunk_gone (v.popdownDialog env w) w)

theorem removeMonitor_foldl (env : SaverEnv) (m : MonitorId) (l : List WindowId) (hl : ∀ w ∈ l, s.Live w)
    (hn : l.Nodup) :
    let t := l.foldl (fun s w => if (s.window w).monitor = m then s.removeMonitorWindow env w else s) s
    Shrunk (fun w => w ∈ l ∧ s.monitorOf w = some m) s t ∧
    ((p → ∀ w ∈ l, s.monitorOf w = some m → s.Unused w) → Acts p env s t) := by
  induction l generalizing s with
  | nil => exact ⟨by simpa using Shrunk.refl, fun _ => .refl⟩
  | cons x l ih =>
    obtain ⟨hxl, hn⟩ := List.nodup_cons.1 hn
    have hlive : s.Live x := hl x List.mem_cons_self
    have hne : ∀ w ∈ l, w ≠ x := fun w hw hx => hxl (hx ▸ hw)
    rw [List.foldl_cons]
    by_cases hx : (s.window x).monitor = m
    · rw [if_pos hx]
      have hone := shrunk_removeMonitorWindow env s x
      have hmon : ∀ w ∈ l, (s.removeMonitorWindow env x).monitorOf w = s.monitorOf w := fun w hw =>
        hone.monitorOf (decide_eq_false (hne w hw))
      obtain ⟨hshrunk, hacts⟩ := ih (s := s.removeMonitorWindow env x) (fun w hw => by
        rw [← monitorOf_live, hmon w hw, monitorOf_live]
        exact hl w (List.mem_cons_of_mem x hw)) hn
      refine ⟨?_, fun hunused => ?_⟩
      · have hset : (fun w => decide (w ∈ x :: l ∧ s.monitorOf w = some m)) = fun w =>
            decide (w = x) || decide (w ∈ l ∧ (s.removeMonitorWindow env x).monitorOf w = some m) := by
          funext w
          by_cases hw : w = x
          · subst hw
            simp [(monitorOf_window hlive m).2 hx]
          · by_cases hwl : w ∈ l
            · simp [hw, hwl, hmon w hwl]
            · simp [hw, hwl]
        rw [hset]
        exact hone.trans hshrunk
      · refine (acts_removeMonitorWindow env (fun _ => hlive) fun hp =>
          hunused hp x List.mem_cons_self ((monitorOf_window hlive m).2 hx)).trans (hacts fun hp w hw hm => ?_)
        rw [hmon w hw] at hm
        have h0 := hunused hp w (List.mem_cons_of_mem x hw) hm
        exact ⟨by rw [hone.emit]; exact h0.1, by rw [hone.shaking]; exact h0.2⟩
    · rw [if_neg hx]
      obtain ⟨hshrunk, hacts⟩ := ih (fun w hw => hl w (List.mem_cons_of_mem x hw)) hn
      have hset : (fun w => decide (w ∈ x :: l ∧ s.monitorOf w = some m)) = fun w =>
          decide (w ∈ l ∧ s.monitorOf w = some m) := by
        funext w
        by_cases hw : w = x
        · subst hw
          have hno : ¬ s.monitorOf w = some m := fun h => hx ((monitorOf_window hlive m).1 h)
          simp [hno]
        · simp [hw]
      exact ⟨hset ▸ hshrunk, fun hunused => hacts fun hp w hw => hunused hp w (List.mem_cons_of_mem x hw)⟩

/-! ### The monitors of the windows -/

def roster (s : Saver) : List MonitorId := s.manager.windows.map fun w => (s.window w).monitor

theorem window_monitor (s : Saver) (w : WindowId) : (s.window w).monitor = (s.monitorOf w).getD 0 := by
  simp only [window, monitorOf]
  cases s.windows w <;> rfl

theorem Steady.monitorOf (h : Steady s t) (w : WindowId) : t.monitorOf w = s.monitorOf w := by
  have hrec := congrArg (Option.map Prod.fst) (h.records w)
  simpa [Saver.monitorOf, Option.map_map, Function.comp_def] using hrec

theorem Steady.roster (h : Steady s t) : t.roster = s.roster := by
  simp only [Saver.roster, h.windows, window_monitor, h.monitorOf]

theorem Housed.roster_withWindow (h : s.Housed) (m : MonitorId) : (s.withWindow m).roster = s.roster ++ [m] := by
  have hlist : (s.withWindow m).manager.windows = s.manager.windows ++ [s.nextWindow] := rfl
  have hmon : ∀ w, (s.withWindow m).monitorOf w = if w = s.nextWindow then some m else s.monitorOf w := by
    intro w
    show (if w = s.nextWindow then some (gsWindowNew m s.manager) else s.windows w).map GSWindow.monitor = _
    split <;> rfl
  simp only [Saver.roster, hlist, List.map_append, List.map_cons, List.map_nil, window_monitor, hmon]
  refine congrArg (· ++ [m]) (List.map_congr_left fun w hw => ?_)
  rw [if_neg (Nat.ne_of_lt (h.bound w ((h.listed w).1 hw)))]

theorem Housed.roster_removed (h : s.Housed) {m : MonitorId}
    (hs : Shrunk (fun w => w ∈ s.manager.windows ∧ s.monitorOf w = some m) s t) :
    t.roster = s.roster.filter fun x => x ≠ m := by
  have hgone : ∀ w ∈ s.manager.windows, (decide (w ∈ s.manager.windows ∧ s.monitorOf w = some m)) =
      decide ((s.window w).monitor = m) := by
    intro w hw
    simp only [hw, true_and]
    exact decide_eq_decide.2 (monitorOf_window ((h.listed w).1 hw) m)
  simp only [Saver.roster, hs.windows, List.filter_map]
  have hlist : (s.manager.windows.filter fun w => !decide (w ∈ s.manager.windows ∧ s.monitorOf w = some m)) =
      s.manager.windows.filter ((fun x => decide (x ≠ m)) ∘ fun w => (s.window w).monitor) := by
    refine List.filter_congr fun w hw => ?_
    rw [hgone w hw]
    simp
  rw [hlist]
  refine List.map_congr_left fun w hw => ?_
  obtain ⟨hw, hm⟩ := List.mem_filter.1 hw
  rw [window_monitor, window_monitor, hs.monitorOf]
  rw [hgone w hw]
  simpa using hm

/-! ### A monitor is added -/

theorem calms_foldl {f : Saver → WindowId → Saver} {l : List WindowId}
    (hf : ∀ t w, w ∈ l → (p → t.Live w) → Calms p env t (f t w)) (hl : p → ∀ w ∈ l, s.Live w) :
    Calms p env s (l.foldl f s) := by
  induction l generalizing s with
  | nil => exact .refl
  | cons x l ih =>
    have hone : Calms p env s (f s x) := hf s x List.mem_cons_self fun hp => hl hp x List.mem_cons_self
    refine hone.trans (ih (fun t w hw => hf t w (List.mem_cons_of_mem x hw)) fun hp w hw => ?_)
    exact (hone.steady.live w).2 (hl hp w (List.mem_cons_of_mem x hw))

theorem calms_cancelAll (env : SaverEnv) (hl : p → ∀ w ∈ s.manager.windows, s.Live w) :
    Calms p env s (s.forWindows fun w s => s.gsWindowCancelUnlockRequest env w) :=
  calms_foldl (fun _ _ _ hw => calms_popdownDialog env hw) hl

theorem view_cancelAll (env : SaverEnv) (l : List WindowId) (s : Saver) :
    (l.foldl (fun s w => s.gsWindowCancelUnlockRequest env w) s).view = l.foldl (fun a w => a.popdown w) s.view := by
  induction l generalizing s with
  | nil => rfl
  | cons x l ih =>
    rw [List.foldl_cons, ih, List.foldl_cons]
    have hone : (s.gsWindowCancelUnlockRequest env x).view = s.view.popdown x := view_popdownDialog env s x
    rw [hone]

theorem cancelAll_down (env : SaverEnv) (hs : s.view.Sound) :
    (s.forWindows fun w s => s.gsWindowCancelUnlockRequest env w).manager.dialogUp = false := by
  have hview := congrArg LockScreen.dialogUp (view_cancelAll env s.manager.windows s)
  exact hview.trans (LockScreen.popdown_all_down hs)

/- One window more, with its dialog down and nothing else changed. -/
theorem createWindow_split (env : SaverEnv) (m : MonitorId) (hh : s.Housed) :
    Calms p env (s.withWindow m) (s.gsManagerCreateWindowForMonitor env m) := by
  have heq : s.gsManagerCreateWindowForMonitor env m =
      if (s.withWindow m).manager.active then (s.withWindow m).gtkWidgetShow env s.nextWindow
      else s.withWindow m := rfl
  rw [heq]
  split
  · next hon =>
    refine calms_gtkWidgetShow env hon ?_
    exact ((hh.withWindow m).listed _).1 (List.mem_append_right _ (List.mem_singleton_self _))
  · exact .refl

theorem added_split (env : SaverEnv) (m : MonitorId) (hs : s.view.Sound) (hh : s.Housed) :
    ∃ u, Calms p env s u ∧ u.manager.dialogUp = false ∧ u.Housed ∧
      Calms p env (u.withWindow m) (s.onDisplayMonitorAdded env m) := by
  let u := s.forWindows fun w s => s.gsWindowCancelUnlockRequest env w
  have hcancel : Calms p env s u := calms_cancelAll env fun _ w hw => (hh.listed w).1 hw
  have hhu : u.Housed := hh.steady hcancel.steady
  have hcreate : Calms p env (u.withWindow m) (u.gsManagerCreateWindowForMonitor env m) :=
    createWindow_split env m hhu
  exact ⟨u, hcancel, cancelAll_down env hs, hhu, hcreate.trans (calms_gsManagerRequestUnlock env _)⟩

theorem acts_onDisplayMonitorAdded (env : SaverEnv) (m : MonitorId) (hs : s.view.Sound) (hh : s.Housed) :
    Acts p env s (s.onDisplayMonitorAdded env m) := by
  obtain ⟨u, hcancel, hdown, -, hrest⟩ := added_split (p := p) env m hs hh
  exact (hcancel.acts.trans (Act.create m fun _ => hdown).acts).trans hrest.acts

/-- What the roster and the display make of a monitor that is added or removed. -/
structure Plugged (f : List MonitorId → List MonitorId) (s t : Saver) : Prop where
  active : t.manager.active = s.manager.active
  roster : t.roster = f s.roster
  display : t.display = s.display

theorem plugged_onDisplayMonitorAdded (env : SaverEnv) (m : MonitorId) (hs : s.view.Sound) (hh : s.Housed) :
    Plugged (· ++ [m]) s (s.onDisplayMonitorAdded env m) := by
  obtain ⟨u, hcancel, -, hhu, hrest⟩ := added_split (p := False) env m hs hh
  refine ⟨hrest.steady.active.trans hcancel.steady.active, ?_, hrest.steady.display.trans hcancel.steady.display⟩
  rw [hrest.steady.roster, hhu.roster_withWindow, hcancel.steady.roster]

end Saver
end MateScreensaver
