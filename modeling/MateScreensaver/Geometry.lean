import MateScreensaver.Lit
import MateScreensaver.Lib.Pixels

/-!
The geometry of the windows. A window takes the part of its monitor that no monitor
before it in the list covers, and measures it when it is first shown and when its
own monitor changes. A change of an earlier monitor is not its business, although
the part it should take is then another one.
-/

namespace MateScreensaver
open Runs System Pixels

/- gs-window-x11.c:294, the loop up to the window's own monitor. -/
def getOutsideRegion (rect : MonitorId → Rectangle) (monitors : List MonitorId) (m : MonitorId) : Region :=
  (monitors.takeWhile (· ≠ m)).foldl (fun region mon => region ∪ (rect mon).region) ∅

/- gs-window-x11.c:333 for a window on monitor `m`. cairo keeps the corner of a
region of which nothing is left. -/
def updateGeometry (rect : MonitorId → Rectangle) (monitors : List MonitorId) (m : MonitorId) : Rectangle :=
  let monitorRegion := (rect m).region
  let corner := if monitorRegion = ∅ then (0, 0) else ((rect m).x, (rect m).y)
  extents corner (monitorRegion \ getOutsideRegion rect monitors m)

/-- The screensaver and the screen it is on: where each monitor is, the geometry
each window has stored, and the windows that GTK is still to ask for their size. -/
structure Desktop where
  screensaver : Screensaver
  rect : MonitorId → Rectangle
  geometry : WindowId → Rectangle
  resize : List WindowId

inductive Change
  | dispatch (env : Env) (e : Event)
  | notifyGeometry (m : MonitorId) (r : Rectangle)
  | layout

namespace Desktop

abbrev saver (d : Desktop) : Saver := d.screensaver.saver

abbrev monitors (d : Desktop) : List MonitorId := d.saver.display.monitors

/- gs-window-x11.c:2168 for the windows whose size GTK asks for. -/
def sizeRequest (d : Desktop) (due : WindowId → Bool) : Desktop :=
  { d with geometry := fun w =>
      if due w then updateGeometry d.rect d.monitors (d.saver.window w).monitor else d.geometry w }

/- A window is asked for its size when it is first shown. -/
def dispatch (d : Desktop) (env : Env) (e : Event) : Option Desktop :=
  (d.screensaver.step (env, e)).map fun t =>
    { d with screensaver := t }.sizeRequest fun w => t.visible w && !d.screensaver.visible w

def moved (rect : MonitorId → Rectangle) (m : MonitorId) (r : Rectangle) : MonitorId → Rectangle :=
  fun k => if k = m then r else rect k

/- gs-window-x11.c:367, connected while a window is realized. -/
def monitorGeometryNotify (d : Desktop) (m : MonitorId) (r : Rectangle) : Desktop :=
  { d with
    rect := moved d.rect m r
    resize := d.resize ++ d.saver.manager.windows.filter fun w =>
      d.screensaver.visible w && (d.saver.window w).monitor = m }

def layout (d : Desktop) : Desktop :=
  { d with resize := [] }.sizeRequest fun w => w ∈ d.resize && d.screensaver.visible w

def next (d : Desktop) : Change → Option Desktop
  | .dispatch env e => d.dispatch env e
  | .notifyGeometry m r => some (d.monitorGeometryNotify m r)
  | .layout => some d.layout

/- gs-window-x11.c:2449 gives every window the geometry -1. -/
def start (b : Boot) (env : Env) (rect : MonitorId → Rectangle) : Desktop :=
  ⟨b.start env, rect, fun _ => ⟨-1, -1, -1, -1⟩, []⟩

end Desktop

def desktop : System Desktop Change :=
  ⟨fun d => ∃ b env rect, d = Desktop.start b env rect, Desktop.next⟩

namespace Saver
open Screensaver (repeated)

variable {p : Prop} {env : SaverEnv} {s t u : Saver} {w : WindowId} {m k : MonitorId}

/-! ### The windows that were there before -/

/- A window is never moved to another monitor, and a new one has a new number. -/
structure Descends (s t : Saver) : Prop where
  next : s.nextWindow ≤ t.nextWindow
  monitor : ∀ w m, w < s.nextWindow → t.monitorOf w = some m → s.monitorOf w = some m

theorem Descends.same (next : t.nextWindow = s.nextWindow) (monitor : ∀ w, t.monitorOf w = s.monitorOf w) :
    Descends s t := by
  refine ⟨Nat.le_of_eq next.symm, fun w m _ hm => ?_⟩
  rw [monitor] at hm
  exact hm

theorem Descends.refl : Descends s s := .same rfl fun _ => rfl

theorem Descends.trans (h : Descends s t) (h' : Descends t u) : Descends s u where
  next := Nat.le_trans h.next h'.next
  monitor w m hw hm := h.monitor w m hw (h'.monitor w m (Nat.lt_of_lt_of_le hw h.next) hm)

theorem Act.descends (h : Act p env s t) : Descends s t := by
  cases h with
  | calm h => exact .same h.steady.nextWindow h.steady.monitorOf
  | plug d => exact .same rfl fun _ => rfl
  | create monitor down =>
    refine ⟨Nat.le_succ _, fun w m hw hm => ?_⟩
    have hm' : (if w = s.nextWindow then some (gsWindowNew monitor s.manager) else s.windows w).map
        GSWindow.monitor = some m := hm
    rw [if_neg (Nat.ne_of_lt hw)] at hm'
    exact hm'
  | turnOn off => exact .same rfl fun _ => rfl
  | dropJob w => exact .same rfl fun _ => rfl
  | gone x down silent unused =>
    refine ⟨Nat.le_refl _, fun w m _ hm => ?_⟩
    have hm' : (if w = x then none else s.windows w).map GSWindow.monitor = some m := hm
    split at hm'
    · cases hm'
    · exact hm'

theorem Acts.descends (h : Acts p env s t) : Descends s t := by
  induction h with
  | refl => exact .refl
  | tail _ h ih => exact ih.trans h.descends

theorem Locking.monitorOf (h : Locking s t) (w : WindowId) : t.monitorOf w = s.monitorOf w := by
  obtain ⟨l, hl⟩ := h.windows w
  rw [Saver.monitorOf, Saver.monitorOf, hl]
  cases s.windows w <;> rfl

/- The windows of the other monitors stay. -/
theorem repeatedRemoved_kept (env : SaverEnv) (n : Nat) (hh : s.Housed) (hm : s.monitorOf w = some k)
    (hne : k ≠ m) : (repeated (.onDisplayMonitorRemoved env m) n s).monitorOf w = some k := by
  induction n generalizing s with
  | zero => exact hm
  | succ n ih =>
    obtain ⟨hshrunk, hacts⟩ := removed_spec (p := False) env m hh
    have hone := hacts False.elim
    refine ih (hone.housed hh) ?_
    rw [hshrunk.monitorOf, hm]
    rw [decide_eq_false_iff_not, hm]
    rintro ⟨-, hk⟩
    exact hne (Option.some.inj hk)

end Saver

namespace Screensaver
open Saver (Housed Descends)

variable {p : Prop} {s t s₀ : Screensaver} {env : Env} {e : Event} {v u : Saver} {m : MonitorId}

theorem Kind.descends (hs : s₀.saver.view.Sound) (hh : v.Housed) (hk : Kind p env s₀ e v u) : Descends v u := by
  cases hk with
  | calm hc => exact (Saver.Act.calm hc).descends
  | tune ht => exact .same ht.nextWindow ht.steady.monitorOf
  | locking hl => exact .same hl.nextWindow hl.monitorOf
  | activate off granted => exact (Saver.gsManagerActivate_acts (p := p) hh off granted).1.descends
  | deactivate ends first on =>
    have hended := Saver.gsManagerDeactivate_ended env.toSaverEnv hh on
    refine ⟨Nat.le_of_eq hended.nextWindow.symm, fun w m _ hm => ?_⟩
    rw [Saver.monitorOf, hended.lost] at hm
    cases hm
  | added m he first new =>
    subst first
    exact (Saver.monitorAdded_spec (p := p) (s := (s₀.tick env).saver) env m hs hh).1.descends
  | removed m he first => exact (Saver.monitorRemoved_spec (p := False) env m hh False.elim).1.descends
  | throttle b first =>
    obtain ⟨jobs, hjobs⟩ := throttled_eq env.toSaverEnv v b
    rw [hjobs]
    exact .same rfl fun _ => rfl

/- Only the display itself adds and removes monitors. -/
theorem Kind.monitors (hs : s₀.saver.view.Sound) (hh : v.Housed) (hk : Kind p env s₀ e v u)
    (hadd : ∀ m, e ≠ .monitorAdded m) (hremove : ∀ m, e ≠ .monitorRemoved m) :
    u.display.monitors = v.display.monitors := by
  cases hk.plugs hs hh with
  | same active windows roster display => rw [display]
  | activate off hact hroster hdisplay =>
    rw [hdisplay]
    split
    · rfl
    · rfl
  | deactivate ends first on hact hwindows hdisplay =>
    rw [hdisplay]
    split
    · rfl
    · rfl
  | added m he new hact hroster hdisplay => exact absurd he (hadd m)
  | removed m he hact hroster hdisplay => exact absurd he (hremove m)

/-! ### The windows and the monitors -/

/-- What the windows of a settled screensaver have to do with its monitors. -/
structure Paned (s : Screensaver) : Prop where
  agreed : s.Agreed
  housed : s.saver.Housed
  lit : s.saver.Lit
  rostered : Rostered s.saver

theorem start_paned (b : Boot) (env : Env) : (b.start env).Paned := by
  obtain ⟨hagreed, hhouse⟩ := start_housed b env
  exact ⟨hagreed, hhouse, start_lit b env, start_rostered b env⟩

theorem Paned.step (h : s.Paned) (hstep : s.step (env, e) = some t) : t.Paned ∧ Descends s.saver t.saver := by
  have hs : s.Agreed ∧ s.saver.Housed := ⟨h.agreed, h.housed⟩
  have hroster : Rostered (s.tick env).saver := h.rostered.same rfl rfl rfl rfl
  have hlit : (s.tick env).saver.Lit := h.lit
  obtain ⟨hagreed, hhouse⟩ := housed_invariant.step s (env, e) t hs hstep
  refine ⟨⟨hagreed, hhouse, ?_, ?_⟩, ?_⟩
  · exact step_induct (p := False) hs False.elim hstep hlit fun v u hv hI hk => lit_kind h.agreed.sound hv hI hk
  · exact step_induct (p := False) hs False.elim hstep hroster
      fun v u hv hI hk => rostered_kind h.agreed.sound hv hI hk
  · have hsame : Descends s.saver (s.tick env).saver := ⟨Nat.le_refl _, fun _ _ _ hm => hm⟩
    exact step_induct (p := False) (I := fun v => Descends s.saver v) hs False.elim hstep hsame
      fun v u hv hI hk => hI.trans (hk.descends h.agreed.sound hv)

theorem Paned.visible (h : s.Paned) {w : WindowId} : s.visible w = true ↔ s.saver.Live w ∧ s.saver.manager.active = true := by
  show ((s.saver.window w).visible && decide (s.saver.Live w)) = true ↔ _
  rw [Bool.and_eq_true, decide_eq_true_iff]
  constructor
  · rintro ⟨hvis, hlive⟩
    obtain ⟨win, hwin⟩ := Option.isSome_iff_exists.1 hlive
    rw [Saver.window_of_some hwin, h.lit w win hwin] at hvis
    exact ⟨hlive, hvis⟩
  · rintro ⟨hlive, hon⟩
    obtain ⟨win, hwin⟩ := Option.isSome_iff_exists.1 hlive
    rw [Saver.window_of_some hwin, h.lit w win hwin]
    exact ⟨hon, hlive⟩

/- On an active saver the monitors with a window are those connected. -/
theorem Paned.connected (h : s.Paned) (on : s.saver.manager.active = true) :
    m ∈ s.saver.display.monitors ↔ ∃ w, s.saver.monitorOf w = some m := by
  rw [← h.rostered.members (h.rostered.on on) m]
  exact h.housed.mem_roster

end Screensaver

namespace Desktop
open Screensaver (Paned)

variable {d d' : Desktop} {w : WindowId} {m k : MonitorId}

/-- Once the resizes that are queued have been processed, the geometry stored for each
window of an active saver is what it would compute now. -/
def Fresh (d : Desktop) : Prop :=
  d.saver.manager.active = true → ∀ w m, d.saver.monitorOf w = some m →
    d.layout.geometry w = updateGeometry d.rect d.monitors m

/-- And no pixel of a connected monitor is outside of all windows. -/
def NoGap (d : Desktop) : Prop :=
  d.saver.manager.active = true → ∀ m ∈ d.monitors, ∀ p ∈ (d.rect m).region,
    ∃ w, d.saver.Live w ∧ p ∈ (d.layout.geometry w).region

/-- For the windows on other monitors than `m` that are not to be resized anyway, the
monitors before theirs cover the same strips along the sides of theirs. -/
def KeepsStrips (d : Desktop) (m : MonitorId) (rect : MonitorId → Rectangle) (monitors : List MonitorId) : Prop :=
  d.saver.manager.active = true → ∀ w k, d.saver.monitorOf w = some k → k ≠ m → w ∉ d.resize →
    SameEdges (d.rect k).region (getOutsideRegion d.rect d.monitors k) (getOutsideRegion rect monitors k)

def StripsStay (d : Desktop) : Change → Prop
  | .dispatch _ (.monitorRemoved m) => d.KeepsStrips m d.rect (d.monitors.filter fun x => x ≠ m)
  | .notifyGeometry m r => d.KeepsStrips m (moved d.rect m r) d.monitors
  | _ => True

/- The windows that are not to be resized have measured what they would measure now. -/
def Measured (d : Desktop) : Prop :=
  d.saver.manager.active = true → ∀ w m, d.saver.monitorOf w = some m → w ∉ d.resize →
    d.geometry w = updateGeometry d.rect d.monitors m

/-! ### What a window measures -/

theorem updateGeometry_eq_iff {rect rect' : MonitorId → Rectangle} {l l' : List MonitorId} (h : rect' k = rect k) :
    updateGeometry rect l k = updateGeometry rect' l' k ↔
      SameEdges (rect k).region (getOutsideRegion rect l k) (getOutsideRegion rect' l' k) := by
  unfold updateGeometry
  rw [h]
  exact extents_eq_iff

theorem mem_unions {α : Type*} (f : α → Region) (l : List α) (U : Region) (p : ℤ × ℤ) :
    p ∈ l.foldl (fun region x => region ∪ f x) U ↔ p ∈ U ∨ ∃ x ∈ l, p ∈ f x := by
  induction l generalizing U with
  | nil => simp
  | cons x l ih =>
    rw [List.foldl_cons, ih, Finset.mem_union]
    constructor
    · rintro ((hU | hx) | ⟨y, hy, hp⟩)
      · exact .inl hU
      · exact .inr ⟨x, List.mem_cons_self, hx⟩
      · exact .inr ⟨y, List.mem_cons_of_mem x hy, hp⟩
    · rintro (hU | ⟨y, hy, hp⟩)
      · exact .inl (.inl hU)
      · rcases List.mem_cons.1 hy with rfl | hy
        · exact .inl (.inr hp)
        · exact .inr ⟨y, hy, hp⟩

theorem mem_getOutsideRegion {rect : MonitorId → Rectangle} {l : List MonitorId} {p : ℤ × ℤ} :
    p ∈ getOutsideRegion rect l k ↔ ∃ x ∈ l.takeWhile (· ≠ k), p ∈ (rect x).region := by
  unfold getOutsideRegion
  rw [mem_unions]
  simp

/- A monitor that is added comes last, behind the monitor of every window. -/
theorem updateGeometry_append (rect : MonitorId → Rectangle) {l : List MonitorId} (l' : List MonitorId) (h : k ∈ l) :
    updateGeometry rect (l ++ l') k = updateGeometry rect l k := by
  have hbefore : (l ++ l').takeWhile (· ≠ k) = l.takeWhile (· ≠ k) := by
    induction l with
    | nil => cases h
    | cons x l ih =>
      by_cases hx : x = k
      · simp [hx]
      · have hl : k ∈ l := (List.mem_cons.1 h).resolve_left (Ne.symm hx)
        simp only [List.cons_append, List.takeWhile_cons, hx, ne_eq, not_false_eq_true, decide_true, if_true]
        exact congrArg _ (ih hl)
  unfold updateGeometry getOutsideRegion
  rw [hbefore]

/- Every pixel is in the part that the first monitor on which it is leaves to its window. -/
theorem exists_covering (rect : MonitorId → Rectangle) {l : List MonitorId} {p : ℤ × ℤ}
    (h : ∃ m ∈ l, p ∈ (rect m).region) : ∃ m ∈ l, p ∈ (updateGeometry rect l m).region := by
  obtain ⟨m, hm, hp, hfirst⟩ := exists_first (fun m => (rect m).region) h
  refine ⟨m, hm, mem_extents (Finset.mem_sdiff.2 ⟨hp, fun hout => ?_⟩)⟩
  obtain ⟨x, hx, hpx⟩ := mem_getOutsideRegion.1 hout
  exact hfirst x hx hpx

/-! ### Settled windows -/

theorem fresh_iff (hp : d.screensaver.Paned) : d.Fresh ↔ d.Measured := by
  unfold Fresh Measured
  refine forall_congr' fun on => forall_congr' fun w => forall_congr' fun m => forall_congr' fun hm => ?_
  have hlive : d.saver.Live w := (Saver.monitorOf_live _ w).1 (by rw [hm]; rfl)
  have hvis : d.screensaver.visible w = true := hp.visible.2 ⟨hlive, on⟩
  have hmon : (d.saver.window w).monitor = m := (Saver.monitorOf_window hlive m).1 hm
  have hlayout : d.layout.geometry w =
      if (w ∈ d.resize && d.screensaver.visible w) = true then updateGeometry d.rect d.monitors (d.saver.window w).monitor
      else d.geometry w := rfl
  rw [hlayout, hvis, hmon, Bool.and_true]
  by_cases hw : w ∈ d.resize
  · rw [if_pos (decide_eq_true hw)]
    exact iff_of_true rfl fun h => absurd hw h
  · rw [if_neg (by simpa using hw)]
    exact ⟨fun h _ => h, fun h => h hw⟩

theorem noGap_of_fresh (hp : d.screensaver.Paned) (h : d.Fresh) : d.NoGap := by
  intro on m hm p hpm
  obtain ⟨k, hk, hpk⟩ := exists_covering d.rect ⟨m, hm, hpm⟩
  obtain ⟨w, hw⟩ := (hp.connected on).1 hk
  refine ⟨w, (Saver.monitorOf_live _ w).1 (by rw [hw]; rfl), ?_⟩
  rw [h on w k hw]
  exact hpk

/-! ### One change -/

theorem other_monitors {s t : Screensaver} {env : Env} {e : Event} (h : s.Paned) (hstep : s.step (env, e) = some t)
    (hadd : ∀ m, e ≠ .monitorAdded m) (hremove : ∀ m, e ≠ .monitorRemoved m) :
    t.saver.display.monitors = s.saver.display.monitors := by
  exact Screensaver.step_induct (p := False) (I := fun v => v.display.monitors = s.saver.display.monitors)
    ⟨h.agreed, h.housed⟩ False.elim hstep rfl fun v u hv hI hk => (hk.monitors h.agreed.sound hv hadd hremove).trans hI

theorem added_monitors {s t : Screensaver} {env : Env} (h : s.Paned)
    (hstep : s.step (env, .monitorAdded m) = some t) :
    t.saver.display.monitors = s.saver.display.monitors ++ [m] := by
  have hdispatch : (if m ∈ (s.tick env).saver.display.monitors then none
      else some ((s.tick env).modifySaver (Screensaver.monitorAdded env m))) = some t :=
    Screensaver.step_dispatch hstep
  split at hdispatch
  · cases hdispatch
  · cases hdispatch
    have hsound : (s.tick env).saver.view.Sound := h.agreed.sound
    have hhouse := Screensaver.tick_housed h.housed env
    exact congrArg Display.monitors (Saver.monitorAdded_spec (p := False) env m hsound hhouse).2.2.2

theorem removed_monitors {s t : Screensaver} {env : Env} (h : s.Paned)
    (hstep : s.step (env, .monitorRemoved m) = some t) :
    t.saver.display.monitors = (s.saver.display.monitors.filter fun x => x ≠ m) ∧
    t.saver.manager.active = s.saver.manager.active ∧
    ∀ w k, s.saver.monitorOf w = some k → k ≠ m → t.saver.monitorOf w = some k := by
  have hdispatch : (if m ∈ (s.tick env).saver.display.monitors then
      some ((s.tick env).modifySaver (Screensaver.monitorRemoved env m)) else none) = some t :=
    Screensaver.step_dispatch hstep
  split at hdispatch
  · cases hdispatch
    have hhouse := Screensaver.tick_housed h.housed env
    obtain ⟨-, hact, -, hdisplay⟩ := Saver.monitorRemoved_spec (p := False) env m hhouse False.elim
    refine ⟨congrArg Display.monitors hdisplay, hact, fun w k hk hne => ?_⟩
    let x : Saver := { (s.tick env).saver with display :=
      { (s.tick env).saver.display with monitors := (s.tick env).saver.display.monitors.filter fun y => y ≠ m } }
    have hx : x.Housed := hhouse.same rfl rfl rfl
    exact Saver.repeatedRemoved_kept (s := x) env.toSaverEnv _ hx hk hne
  · cases hdispatch

/- Of the windows that are shown only those shown before have not measured just now. -/
theorem measured_dispatch {t : Screensaver} (hp : d.screensaver.Paned) (hd : d.Measured) (ht : t.Paned)
    (hdesc : Saver.Descends d.saver t.saver)
    (hd' : d' = { d with screensaver := t }.sizeRequest fun w => t.visible w && !d.screensaver.visible w) :
    d'.Measured ↔ (t.saver.manager.active = true → ∀ w k, d.saver.manager.active = true →
      d.saver.monitorOf w = some k → t.saver.monitorOf w = some k → w ∉ d.resize →
      updateGeometry d.rect d.monitors k = updateGeometry d.rect t.saver.display.monitors k) := by
  subst hd'
  have hgeometry : ∀ w, ({ d with screensaver := t }.sizeRequest fun w =>
      t.visible w && !d.screensaver.visible w).geometry w =
      if (t.visible w && !d.screensaver.visible w) = true then
        updateGeometry d.rect t.saver.display.monitors (t.saver.window w).monitor else d.geometry w := fun _ => rfl
  constructor
  · intro h on w k son hs hk hw
    have hlive : d.saver.Live w := (Saver.monitorOf_live _ w).1 (by rw [hs]; rfl)
    have hvis : d.screensaver.visible w = true := hp.visible.2 ⟨hlive, son⟩
    have hnow := h on w k hk hw
    rw [hgeometry, hvis, if_neg (by simp)] at hnow
    rw [← hd son w k hs hw]
    exact hnow
  · intro h on w k hkt hw
    have hk : t.saver.monitorOf w = some k := hkt
    have hlive : t.saver.Live w := (Saver.monitorOf_live _ w).1 (by rw [hk]; rfl)
    have hvis : t.visible w = true := ht.visible.2 ⟨hlive, on⟩
    have hmon : (t.saver.window w).monitor = k := (Saver.monitorOf_window hlive k).1 hk
    rw [hgeometry, hvis, hmon]
    cases hs : d.screensaver.visible w
    · rfl
    · obtain ⟨hslive, son⟩ := hp.visible.1 hs
      have hsk := hdesc.monitor w k (hp.housed.bound w hslive) hk
      rw [if_neg (by simp), hd son w k hsk hw]
      exact h on w k son hsk hk hw

theorem dispatch_measured {env : Env} {e : Event} (hp : d.screensaver.Paned) (hd : d.Measured)
    (h : d.dispatch env e = some d') :
    d'.screensaver.Paned ∧ (d'.Measured ↔ d.StripsStay (.dispatch env e)) := by
  obtain ⟨t, hstep, hd'⟩ := Option.map_eq_some_iff.1 h
  obtain ⟨ht, hdesc⟩ := hp.step hstep
  have hiff := measured_dispatch hp hd ht hdesc hd'.symm
  refine ⟨?_, hiff.trans ?_⟩
  · rw [← hd']
    exact ht
  have hsame : (∀ k ∈ d.monitors, d.saver.manager.active = true →
      updateGeometry d.rect d.monitors k = updateGeometry d.rect t.saver.display.monitors k) →
      (t.saver.manager.active = true → ∀ w k, d.saver.manager.active = true →
        d.saver.monitorOf w = some k → t.saver.monitorOf w = some k → w ∉ d.resize →
        updateGeometry d.rect d.monitors k = updateGeometry d.rect t.saver.display.monitors k) :=
    fun hall _ w k son hk _ _ => hall k ((hp.connected son).2 ⟨w, hk⟩) son
  cases e with
  | monitorAdded m =>
    refine iff_of_true (hsame fun k hk _ => ?_) trivial
    rw [added_monitors hp hstep]
    exact (updateGeometry_append d.rect [m] hk).symm
  | monitorRemoved m =>
    obtain ⟨hmonitors, hact, hkept⟩ := removed_monitors hp hstep
    rw [hmonitors, hact]
    constructor
    · intro hall son w k hk hne hw
      exact (updateGeometry_eq_iff rfl).1 (hall son w k son hk (hkept w k hk hne) hw)
    · intro hstrips son w k _ hk hkt hw
      refine (updateGeometry_eq_iff rfl).2 (hstrips son w k hk ?_ hw)
      -- the window's own monitor is among those left
      have hmem := (ht.connected (hact.trans son)).2 ⟨w, hkt⟩
      rw [hmonitors] at hmem
      exact of_decide_eq_true (List.mem_filter.1 hmem).2
  | _ =>
    refine iff_of_true (hsame fun k _ _ => ?_) trivial
    rw [other_monitors hp hstep (by intro m hm; cases hm) (by intro m hm; cases hm)]

theorem notify_measured {r : Rectangle} (hp : d.screensaver.Paned) (hd : d.Measured) :
    (d.monitorGeometryNotify m r).Measured ↔ d.StripsStay (.notifyGeometry m r) := by
  have hother : ∀ {k}, k ≠ m → moved d.rect m r k = d.rect k := fun hne => if_neg hne
  have hqueued : ∀ w k, d.saver.manager.active = true → d.saver.monitorOf w = some k →
      (w ∉ (d.monitorGeometryNotify m r).resize ↔ k ≠ m ∧ w ∉ d.resize) := by
    intro w k on hk
    have hlive : d.saver.Live w := (Saver.monitorOf_live _ w).1 (by rw [hk]; rfl)
    have hvis : d.screensaver.visible w = true := hp.visible.2 ⟨hlive, on⟩
    have hmon : (d.saver.window w).monitor = k := (Saver.monitorOf_window hlive k).1 hk
    have hlisted := (hp.housed.listed w).2 hlive
    show w ∉ d.resize ++ d.saver.manager.windows.filter _ ↔ _
    rw [List.mem_append, List.mem_filter, not_or, hvis, hmon]
    simp only [hlisted, true_and, Bool.true_and, decide_eq_true_iff]
    exact and_comm
  constructor
  · intro h on w k hk hne hw
    have hnow : d.geometry w = updateGeometry (moved d.rect m r) d.monitors k :=
      h on w k hk ((hqueued w k on hk).2 ⟨hne, hw⟩)
    rw [hd on w k hk hw] at hnow
    exact (updateGeometry_eq_iff (hother hne)).1 hnow
  · intro h on w k hk hw
    obtain ⟨hne, hw'⟩ := (hqueued w k on hk).1 hw
    show d.geometry w = updateGeometry (moved d.rect m r) d.monitors k
    rw [hd on w k hk hw']
    exact (updateGeometry_eq_iff (hother hne)).2 (h on w k hk hne hw')

theorem layout_measured (hp : d.screensaver.Paned) (hd : d.Measured) : d.layout.Measured := by
  intro on w m hm _
  exact (fresh_iff hp).2 hd on w m hm

theorem next_measured {c : Change} (hp : d.screensaver.Paned) (hd : d.Measured) (h : desktop.next d c = some d') :
    d'.screensaver.Paned ∧ (d'.Measured ↔ d.StripsStay c) := by
  cases c with
  | dispatch env e => exact dispatch_measured hp hd h
  | notifyGeometry m r =>
    cases h
    exact ⟨hp, notify_measured hp hd⟩
  | layout =>
    cases h
    exact ⟨hp, iff_of_true (layout_measured hp hd) trivial⟩

theorem start_measured (b : Boot) (env : Env) (rect : MonitorId → Rectangle) : (start b env rect).Measured := by
  intro on
  have hoff : (b.start env).saver.manager.active = false := (Screensaver.start_agreed b env).2.2
  have on' : (b.start env).saver.manager.active = true := on
  rw [hoff] at on'
  cases on'

/-- The geometries are fresh and leave no gap in every state of a run exactly when no
change of a monitor alters what the monitors before another one cover along its sides. -/
theorem geometry_fresh_iff (b : Boot) (env : Env) (rect : MonitorId → Rectangle) (cs : List Change) :
    desktop.Always (fun d => d.Fresh ∧ d.NoGap) (start b env rect) cs ↔
      desktop.Meets StripsStay (start b env rect) cs := by
  have hgood : ∀ d : Desktop, d.screensaver.Paned → d.Measured → d.Fresh ∧ d.NoGap := fun d hp hd =>
    ⟨(fresh_iff hp).2 hd, noGap_of_fresh hp ((fresh_iff hp).2 hd)⟩
  refine always_iff_meets (I := fun d => d.screensaver.Paned ∧ d.Measured) (fun d hd => hgood d hd.1 hd.2)
    (fun d c d' hd h => ?_) (fun d c d' hd h hc => ?_)
    ⟨Screensaver.start_paned b env, start_measured b env rect⟩ cs
  · obtain ⟨hp, hiff⟩ := next_measured hd.1 hd.2 h
    exact ⟨fun hfresh => hiff.1 ((fresh_iff hp).1 hfresh.1), fun hc => hgood d' hp (hiff.2 hc)⟩
  · obtain ⟨hp, hiff⟩ := next_measured hd.1 hd.2 h
    exact ⟨hp, hiff.2 hc⟩

/- Two monitors of which the second shows the right half of the first again. -/
def overlapping (m : MonitorId) : Rectangle := if m = 0 then ⟨0, 0, 1280, 1024⟩ else ⟨640, 0, 1280, 1024⟩

def twoMonitors : Boot := { Screensaver.desk with monitors := [0, 1], nodup := by decide }

/- The strip up to 1280 is covered by the first monitor, and by none without it. -/
theorem overlapping_edges : ¬ SameEdges (overlapping 1).region (getOutsideRegion overlapping [0, 1] 1)
    (getOutsideRegion overlapping [1] 1) := by
  intro hedges
  have hleft := hedges.left 1280
  rw [below_covered, below_covered] at hleft
  have hfirst : ∀ p : ℤ × ℤ, p ∈ (overlapping 0).region ↔ (0 ≤ p.1 ∧ p.1 < 0 + 1280) ∧ 0 ≤ p.2 ∧ p.2 < 0 + 1024 :=
    fun _ => Rectangle.mem_region
  have hsecond : ∀ p : ℤ × ℤ,
      p ∈ (overlapping 1).region ↔ (640 ≤ p.1 ∧ p.1 < 640 + 1280) ∧ 0 ≤ p.2 ∧ p.2 < 0 + 1024 :=
    fun _ => Rectangle.mem_region
  have hout : ∀ p : ℤ × ℤ, p ∈ getOutsideRegion overlapping [0, 1] 1 ↔ p ∈ (overlapping 0).region := by
    intro p
    have hbefore : ([0, 1] : List MonitorId).takeWhile (· ≠ 1) = [0] := by decide
    rw [mem_getOutsideRegion, hbefore]
    simp only [List.mem_singleton, exists_eq_left]
  have hnone : ∀ p : ℤ × ℤ, p ∉ getOutsideRegion overlapping [1] 1 := by
    intro p
    have hbefore : ([1] : List MonitorId).takeWhile (· ≠ 1) = [] := by decide
    rw [mem_getOutsideRegion, hbefore]
    simp only [List.not_mem_nil, false_and, exists_false, not_false_eq_true]
  generalize (overlapping 1).region = A at hleft hsecond
  generalize getOutsideRegion overlapping [0, 1] 1 = U at hleft hout
  generalize getOutsideRegion overlapping [1] 1 = V at hleft hnone
  have hbefore : ∀ p ∈ A \ U, 1280 ≤ p.1 := by
    intro p hp
    rw [Finset.mem_sdiff, hout, hfirst, hsecond] at hp
    omega
  have hcorner : ((640, 0) : ℤ × ℤ) ∈ A \ V := by
    rw [Finset.mem_sdiff, hsecond]
    exact ⟨by decide, hnone _⟩
  exact absurd (hleft.1 hbefore _ hcorner) (by decide)

/- The first monitor is unplugged, and the window of the second does not notice. -/
theorem geometry_stale : ¬ ∀ d, desktop.Reachable d → d.Fresh ∧ d.NoGap := by
  intro h
  let d₀ := start twoMonitors Screensaver.granted overlapping
  let d₁ := (desktop.next d₀ (.dispatch Screensaver.turnOn.1 Screensaver.turnOn.2)).get (by decide)
  let d₂ := (desktop.next d₁ (.dispatch Screensaver.granted (.monitorRemoved 0))).get (by decide)
  have h₁ : desktop.next d₀ (.dispatch Screensaver.turnOn.1 Screensaver.turnOn.2) = some d₁ := by simp [d₁]
  have h₂ : desktop.next d₁ (.dispatch Screensaver.granted (.monitorRemoved 0)) = some d₂ := by simp [d₂]
  have hp₀ : d₀.screensaver.Paned := Screensaver.start_paned twoMonitors Screensaver.granted
  have hm₀ : d₀.Measured := start_measured twoMonitors Screensaver.granted overlapping
  obtain ⟨hp₁, hm₁⟩ := next_measured (d := d₀) hp₀ hm₀ h₁
  obtain ⟨hp₂, hm₂⟩ := next_measured hp₁ (hm₁.2 trivial) h₂
  have hreach : desktop.Reachable d₂ :=
    .step (.step (.start ⟨twoMonitors, Screensaver.granted, overlapping, rfl⟩) h₁) h₂
  have hstrips : d₁.KeepsStrips 0 d₁.rect (d₁.monitors.filter fun x => x ≠ 0) :=
    hm₂.1 ((fresh_iff hp₂).1 (h d₂ hreach).1)
  have hedges := hstrips (by decide) 1 1 (by decide) (by decide) (by decide)
  have hmonitors : d₁.monitors = [0, 1] := by decide
  have hrect : d₁.rect = overlapping := rfl
  rw [hmonitors, hrect] at hedges
  exact overlapping_edges hedges

end Desktop
end MateScreensaver
