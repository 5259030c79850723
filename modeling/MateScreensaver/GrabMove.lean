import Mathlib.Data.Nat.Notation
import MateScreensaver.Job

/-!
The grab of the devices (gs-grab-x11.c) with every answer of the seat: what is recorded of
a grab, what the seat really holds, and how a move to another window goes when the seat
refuses.
-/

namespace MateScreensaver

abbrev GdkWindow := ℕ
abbrev GdkDisplay := ℕ

inductive GdkGrabStatus
  | success
  | alreadyGrabbed
  | invalidTime
  | notViewable
  | frozen
  | failed
deriving DecidableEq

inductive GdkSeatCapabilities
  | all
  | keyboard
deriving DecidableEq

/- The windows to which the devices of the seat are grabbed. -/
structure GdkSeat where
  pointer : Option GdkWindow := none
  keyboard : Option GdkWindow := none
deriving DecidableEq

/- What gdk_seat_grab answers. When it is the keyboard that it does not get, it lets go of
the pointer it has got just before. -/
structure SeatAnswer where
  status : GdkGrabStatus
  pointerTaken : Bool
deriving DecidableEq

/- The answers during one gs_grab_get: the second is used only when the pointer is still
grabbed, which GDK may also say of a grab whose end it has not yet heard of. -/
structure GrabAnswers where
  first : SeatAnswer
  stale : Bool
  again : SeatAnswer
deriving DecidableEq

structure MoveAnswers where
  first : GrabAnswers
  second : GrabAnswers
  resumed : GrabAnswers
deriving DecidableEq

namespace GdkSeat

def grab (answer : SeatAnswer) (window : GdkWindow) (caps : GdkSeatCapabilities) (seat : GdkSeat) : GdkSeat :=
  match answer.status, caps with
  | .success, .all => ⟨some window, some window⟩
  | .success, .keyboard => { seat with keyboard := some window }
  | _, .all => if answer.pointerTaken then { seat with pointer := none } else seat
  | _, .keyboard => seat

/- What is grabbed in one of the two pointer modes. -/
def ofWindow (window : GdkWindow) (noPointerGrab : Bool) : GdkSeat :=
  ⟨if noPointerGrab then none else some window, some window⟩

end GdkSeat

/-- GSGrabPrivate and the seat. A window is only recorded together with its display; the
weak pointer may clear the window alone. -/
structure GrabState where
  grabWindow : Option GdkWindow
  grabDisplay : Option GdkDisplay
  noPointerGrab : Bool
  hideCursor : Bool
  seat : GdkSeat
  displayed : grabWindow.isSome = true → grabDisplay.isSome = true
deriving DecidableEq

namespace GrabState

/- gs-grab-x11.c:161 -/
def gsGrabReset (s : GrabState) : GrabState :=
  { s with grabWindow := none, grabDisplay := none, displayed := id }

/- gs-grab-x11.c:173 -/
def gsGrabRelease (s : GrabState) : GrabState := { s with seat := {} }.gsGrabReset

/- The end of gs-grab-x11.c:93, once the seat is grabbed. -/
def recordGrab (window : GdkWindow) (display : GdkDisplay) (noPointerGrab hideCursor : Bool) (s : GrabState) :
    GrabState where
  grabWindow := some window
  grabDisplay := some display
  noPointerGrab := noPointerGrab
  hideCursor := hideCursor
  seat := s.seat
  displayed _ := rfl

def capsOf (noPointerGrab : Bool) : GdkSeatCapabilities := if noPointerGrab then .keyboard else .all

def seatGrab (answer : SeatAnswer) (window : GdkWindow) (noPointerGrab : Bool) (s : GrabState) : GrabState :=
  { s with seat := s.seat.grab answer window (capsOf noPointerGrab) }

/- The seat's part of gs-grab-x11.c:93: a pointer that is still grabbed is let go, together
with the keyboard, which is then grabbed again. -/
def grabDevices (a : GrabAnswers) (window : GdkWindow) (noPointerGrab : Bool) (s : GrabState) :
    GrabState × GdkGrabStatus :=
  let t := s.seatGrab a.first window noPointerGrab
  if a.first.status = .success ∧ noPointerGrab ∧ (t.seat.pointer.isSome || a.stale) then
    (t.gsGrabRelease.seatGrab a.again window noPointerGrab, a.again.status)
  else (t, a.first.status)

/- gs-grab-x11.c:93 -/
def gsGrabGet (a : GrabAnswers) (window : GdkWindow) (display : GdkDisplay) (noPointerGrab hideCursor : Bool)
    (s : GrabState) : GrabState × GdkGrabStatus :=
  let (t, status) := s.grabDevices a window noPointerGrab
  if status = .success then (t.recordGrab window display noPointerGrab hideCursor, status) else (t, status)

/- The parts of gs-grab-x11.c:199: an old window is let go, the new one is tried twice, and
when that has failed the old one is grabbed again. -/
def letGo (s : GrabState) : GrabState := if s.grabWindow.isSome then s.gsGrabRelease else s

def tryTwice (a : MoveAnswers) (window : GdkWindow) (display : GdkDisplay) (noPointerGrab hideCursor : Bool)
    (s : GrabState) : GrabState × GdkGrabStatus :=
  let (t, result) := s.gsGrabGet a.first window display noPointerGrab hideCursor
  if result ≠ .success then t.gsGrabGet a.second window display noPointerGrab hideCursor else (t, result)

/-- gs-grab-x11.c:199. The last component is `old_result`, which the code only prints. -/
def gsGrabMove (a : MoveAnswers) (window : GdkWindow) (display : GdkDisplay) (noPointerGrab hideCursor : Bool)
    (s : GrabState) : GrabState × Bool × Option GdkGrabStatus :=
  if s.grabWindow = some window ∧ s.noPointerGrab = noPointerGrab then (s, true, none)
  else
    let (oldWindow, oldDisplay, oldHideCursor) := (s.grabWindow, s.grabDisplay, s.hideCursor)
    let (t, result) := s.letGo.tryTwice a window display noPointerGrab hideCursor
    if result ≠ .success then
      match oldWindow, oldDisplay with
      | some oldWindow, some oldDisplay =>
        -- the pointer mode is the new one here
        let (t, oldResult) := t.gsGrabGet a.resumed oldWindow oldDisplay noPointerGrab oldHideCursor
        (t, false, some oldResult)
      | _, _ => (t, false, none)
    else (t, true, none)

/- gs-grab-x11.c:384, as far as these answers go. -/
def gsGrabMoveToWindow (window : GdkWindow) (display : GdkDisplay) (noPointerGrab hideCursor : Bool) :
    List MoveAnswers → GrabState → GrabState × Bool
  | [], s => (s, false)
  | a :: rest, s =>
    let (t, result, _) := s.gsGrabMove a window display noPointerGrab hideCursor
    if result then (t, true) else gsGrabMoveToWindow window display noPointerGrab hideCursor rest t

end GrabState

/- Whether these answers grant a grab, when the pointer is grabbed to begin with or not. -/
def GrabAnswers.grants (a : GrabAnswers) (noPointerGrab pointer : Bool) : Bool :=
  a.first.status = .success && (!(noPointerGrab && (pointer || a.stale)) || a.again.status = .success)

/- Both attempts on the new window are refused, and the old one is granted again. -/
def MoveAnswers.resumes (a : MoveAnswers) (noPointerGrab : Bool) : Bool :=
  !a.first.grants noPointerGrab false && !a.second.grants noPointerGrab false && a.resumed.grants noPointerGrab false

namespace GrabState

variable {a : GrabAnswers} {window old : GdkWindow} {display : GdkDisplay} {noPointerGrab hideCursor : Bool}
  {s : GrabState}

theorem grab_keyboard_pointer (answer : SeatAnswer) (window : GdkWindow) (seat : GdkSeat) :
    (seat.grab answer window .keyboard).pointer = seat.pointer := by
  unfold GdkSeat.grab
  cases answer.status <;> rfl

theorem grab_success {answer : SeatAnswer} (h : answer.status = .success) {seat : GdkSeat} (hfree : seat.pointer = none)
    (window : GdkWindow) (noPointerGrab : Bool) :
    seat.grab answer window (capsOf noPointerGrab) = .ofWindow window noPointerGrab := by
  unfold GdkSeat.grab
  rw [h]
  cases noPointerGrab with
  | false => rfl
  | true =>
    show GdkSeat.mk seat.pointer (some window) = ⟨none, some window⟩
    rw [hfree]

theorem grab_refused {answer : SeatAnswer} (h : answer.status ≠ .success) {seat : GdkSeat} (hfree : seat.pointer = none)
    (window : GdkWindow) (caps : GdkSeatCapabilities) : (seat.grab answer window caps).pointer = none := by
  unfold GdkSeat.grab
  cases hstatus : answer.status with
  | success => exact absurd hstatus h
  | _ =>
    cases caps with
    | all =>
      dsimp only
      split
      · rfl
      · exact hfree
    | keyboard => exact hfree

/- Whether the devices are granted depends on the answers and the pointer only. -/
theorem grabDevices_status (a : GrabAnswers) (window : GdkWindow) (noPointerGrab : Bool) (s : GrabState) :
    (s.grabDevices a window noPointerGrab).2 = .success ↔ a.grants noPointerGrab s.seat.pointer.isSome = true := by
  unfold grabDevices GrabAnswers.grants
  cases noPointerGrab with
  | false => by_cases hfirst : a.first.status = .success <;> simp [hfirst]
  | true =>
    have hpointer : (s.seatGrab a.first window true).seat.pointer = s.seat.pointer := grab_keyboard_pointer _ _ _
    by_cases hfirst : a.first.status = .success
    · by_cases hheld : (s.seat.pointer.isSome || a.stale) = true
      · simp [hfirst, hpointer, hheld]
      · simp [hfirst, hpointer, hheld]
    · simp [hfirst]

/- From a free pointer the seat has what was asked for, or the pointer stays free. -/
theorem grabDevices_seat (a : GrabAnswers) (window : GdkWindow) (noPointerGrab : Bool) (hfree : s.seat.pointer = none) :
    ((s.grabDevices a window noPointerGrab).2 = .success →
      (s.grabDevices a window noPointerGrab).1.seat = .ofWindow window noPointerGrab) ∧
    ((s.grabDevices a window noPointerGrab).2 ≠ .success →
      (s.grabDevices a window noPointerGrab).1.seat.pointer = none) := by
  unfold grabDevices
  dsimp only
  split
  · exact ⟨fun h => grab_success h rfl window noPointerGrab, fun h => grab_refused h rfl window _⟩
  · exact ⟨fun h => grab_success h hfree window noPointerGrab, fun h => grab_refused h hfree window _⟩

theorem gsGrabGet_status (a : GrabAnswers) (window : GdkWindow) (display : GdkDisplay) (noPointerGrab hideCursor : Bool)
    (s : GrabState) : (s.gsGrabGet a window display noPointerGrab hideCursor).2 =
      (s.grabDevices a window noPointerGrab).2 := by
  unfold gsGrabGet
  dsimp only
  split <;> rfl

theorem gsGrabGet_recorded (h : (s.gsGrabGet a window display noPointerGrab hideCursor).2 = .success) :
    (s.gsGrabGet a window display noPointerGrab hideCursor).1 =
      (s.grabDevices a window noPointerGrab).1.recordGrab window display noPointerGrab hideCursor := by
  rw [gsGrabGet_status] at h
  unfold gsGrabGet
  dsimp only
  rw [if_pos h]

theorem gsGrabGet_refused (h : (s.gsGrabGet a window display noPointerGrab hideCursor).2 ≠ .success) :
    (s.gsGrabGet a window display noPointerGrab hideCursor).1 = (s.grabDevices a window noPointerGrab).1 := by
  rw [gsGrabGet_status] at h
  unfold gsGrabGet
  dsimp only
  rw [if_neg h]

/- From a free pointer the answers decide, and a refusal leaves it free. -/
theorem gsGrabGet_free (a : GrabAnswers) (window : GdkWindow) (display : GdkDisplay) (noPointerGrab hideCursor : Bool)
    (hfree : s.seat.pointer = none) :
    ((s.gsGrabGet a window display noPointerGrab hideCursor).2 = .success ↔ a.grants noPointerGrab false = true) ∧
    ((s.gsGrabGet a window display noPointerGrab hideCursor).2 ≠ .success →
      (s.gsGrabGet a window display noPointerGrab hideCursor).1.seat.pointer = none) := by
  constructor
  · rw [gsGrabGet_status, grabDevices_status, hfree]
    rfl
  · intro h
    rw [gsGrabGet_refused h]
    rw [gsGrabGet_status] at h
    exact (grabDevices_seat a window noPointerGrab hfree).2 h

/-! ### Moving the grab -/

variable {m : MoveAnswers}

theorem letGo_free (h : s.grabWindow = some old) : s.letGo.seat.pointer = none := by
  unfold letGo
  rw [h]
  rfl

theorem tryTwice_recorded (h : (s.tryTwice m window display noPointerGrab hideCursor).2 = .success) :
    ∃ t : GrabState, (s.tryTwice m window display noPointerGrab hideCursor).1 =
      t.recordGrab window display noPointerGrab hideCursor := by
  unfold tryTwice at h ⊢
  dsimp only at h ⊢
  split at h
  · next hfirst =>
    rw [if_pos hfirst]
    exact ⟨_, gsGrabGet_recorded h⟩
  · next hfirst =>
    rw [if_neg hfirst]
    exact ⟨_, gsGrabGet_recorded h⟩

/- From a free pointer: both attempts are refused, and the pointer stays free, or not. -/
theorem tryTwice_free (m : MoveAnswers) (window : GdkWindow) (display : GdkDisplay) (noPointerGrab hideCursor : Bool)
    (hfree : s.seat.pointer = none) :
    ((s.tryTwice m window display noPointerGrab hideCursor).2 = .success ↔
      m.first.grants noPointerGrab false = true ∨ m.second.grants noPointerGrab false = true) ∧
    ((s.tryTwice m window display noPointerGrab hideCursor).2 ≠ .success →
      (s.tryTwice m window display noPointerGrab hideCursor).1.seat.pointer = none) := by
  obtain ⟨hfirst, hleft⟩ := gsGrabGet_free m.first window display noPointerGrab hideCursor hfree
  unfold tryTwice
  dsimp only
  split
  · next hrefused =>
    obtain ⟨hsecond, hleft'⟩ := gsGrabGet_free m.second window display noPointerGrab hideCursor (hleft hrefused)
    refine ⟨hsecond.trans ⟨.inr, fun h => h.resolve_left fun hgrants => hrefused (hfirst.2 hgrants)⟩, hleft'⟩
  · next hgranted =>
    have hgranted' := Decidable.not_not.1 hgranted
    exact ⟨⟨fun _ => .inl (hfirst.1 hgranted'), fun _ => hgranted'⟩, fun h => absurd hgranted' h⟩

theorem gsGrabMove_skipped (m : MoveAnswers) (display : GdkDisplay) (hideCursor : Bool)
    (h : s.grabWindow = some window ∧ s.noPointerGrab = noPointerGrab) :
    s.gsGrabMove m window display noPointerGrab hideCursor = (s, true, none) := if_pos h

/- A move that is not skipped succeeds just when one of the attempts does. -/
theorem gsGrabMove_moved (m : MoveAnswers) (display : GdkDisplay) (hideCursor : Bool)
    (hskip : ¬ (s.grabWindow = some window ∧ s.noPointerGrab = noPointerGrab))
    (h : (s.letGo.tryTwice m window display noPointerGrab hideCursor).2 = .success) :
    s.gsGrabMove m window display noPointerGrab hideCursor =
      ((s.letGo.tryTwice m window display noPointerGrab hideCursor).1, true, none) := by
  unfold gsGrabMove
  rw [if_neg hskip]
  dsimp only
  rw [if_neg (Decidable.not_not.2 h)]

theorem gsGrabMove_refused (m : MoveAnswers) (display : GdkDisplay) (hideCursor : Bool)
    (hskip : ¬ (s.grabWindow = some window ∧ s.noPointerGrab = noPointerGrab))
    (h : (s.letGo.tryTwice m window display noPointerGrab hideCursor).2 ≠ .success) :
    (s.gsGrabMove m window display noPointerGrab hideCursor).2.1 = false := by
  unfold gsGrabMove
  rw [if_neg hskip]
  dsimp only
  rw [if_pos h]
  split <;> rfl

theorem gsGrabMove_resumed (m : MoveAnswers) (display : GdkDisplay) (hideCursor : Bool) {oldDisplay : GdkDisplay}
    (hskip : ¬ (s.grabWindow = some window ∧ s.noPointerGrab = noPointerGrab))
    (h : (s.letGo.tryTwice m window display noPointerGrab hideCursor).2 ≠ .success)
    (hwindow : s.grabWindow = some old) (hdisplay : s.grabDisplay = some oldDisplay) :
    s.gsGrabMove m window display noPointerGrab hideCursor =
      let (t, oldResult) := (s.letGo.tryTwice m window display noPointerGrab hideCursor).1.gsGrabGet m.resumed old
        oldDisplay noPointerGrab s.hideCursor
      (t, false, some oldResult) := by
  unfold gsGrabMove
  rw [if_neg hskip]
  dsimp only
  rw [if_pos h, hwindow, hdisplay]

/-- What a move owes: after a failure that could go back to the old window all is as it was;
after a success the record says what was asked for. -/
def MoveKeeps (m : MoveAnswers) (window : GdkWindow) (display : GdkDisplay) (noPointerGrab hideCursor : Bool)
    (s : GrabState) : Prop :=
  let (t, result, oldResult) := s.gsGrabMove m window display noPointerGrab hideCursor
  (result = false → s.grabWindow.isSome = true → oldResult = some .success → t = s) ∧
  (result = true → t.grabWindow = some window ∧ t.noPointerGrab = noPointerGrab ∧ t.hideCursor = hideCursor)

/-- A move that is skipped asks for the cursor that is there; one that goes back to the old
window asks for the pointer mode that was there, and the seat held what the record said. -/
def SameModes (m : MoveAnswers) (window : GdkWindow) (noPointerGrab hideCursor : Bool) (s : GrabState) : Prop :=
  if s.grabWindow = some window ∧ s.noPointerGrab = noPointerGrab then s.hideCursor = hideCursor
  else ∀ old, s.grabWindow = some old → m.resumes noPointerGrab = true →
    s.noPointerGrab = noPointerGrab ∧ s.seat = .ofWindow old noPointerGrab

theorem recordGrab_eq {t : GrabState} (hwindow : s.grabWindow = some old) (hdisplay : s.grabDisplay = some display)
    (hmode : s.noPointerGrab = noPointerGrab) (hseat : t.seat = s.seat) :
    t.recordGrab old display noPointerGrab s.hideCursor = s := by
  obtain ⟨grabWindow, grabDisplay, mode, cursor, seat, displayed⟩ := s
  cases hwindow
  cases hdisplay
  cases hmode
  cases hseat
  rfl

theorem resumes_iff : m.resumes noPointerGrab = true ↔
    ¬ (m.first.grants noPointerGrab false = true ∨ m.second.grants noPointerGrab false = true) ∧
      m.resumed.grants noPointerGrab false = true := by
  unfold MoveAnswers.resumes
  simp [not_or]

/- A move that fails with a window to go back to. -/
theorem gsGrabMove_back_iff (m : MoveAnswers) (display : GdkDisplay) (hideCursor : Bool)
    (hskip : ¬ (s.grabWindow = some window ∧ s.noPointerGrab = noPointerGrab))
    (hmoved : (s.letGo.tryTwice m window display noPointerGrab hideCursor).2 ≠ .success)
    (hwindow : s.grabWindow = some old) :
    MoveKeeps m window display noPointerGrab hideCursor s ↔
      (m.resumes noPointerGrab = true → s.noPointerGrab = noPointerGrab ∧ s.seat = .ofWindow old noPointerGrab) := by
  obtain ⟨oldDisplay, hdisplay⟩ := Option.isSome_iff_exists.1 (s.displayed (by rw [hwindow]; rfl))
  unfold MoveKeeps
  rw [gsGrabMove_resumed m display hideCursor hskip hmoved hwindow hdisplay]
  obtain ⟨hstatus, hleft⟩ := tryTwice_free m window display noPointerGrab hideCursor (letGo_free hwindow)
  have hfree := hleft hmoved
  generalize (s.letGo.tryTwice m window display noPointerGrab hideCursor).1 = t at hfree
  obtain ⟨hold, -⟩ := gsGrabGet_free m.resumed old oldDisplay noPointerGrab s.hideCursor hfree
  have hrefused : ¬ (m.first.grants noPointerGrab false = true ∨ m.second.grants noPointerGrab false = true) :=
    fun hgranted => hmoved (hstatus.2 hgranted)
  dsimp only
  constructor
  · intro h hresumes
    have hsuccess := hold.2 (resumes_iff.1 hresumes).2
    have hback := h.1 rfl (by rw [hwindow]; rfl) (congrArg some hsuccess)
    rw [gsGrabGet_recorded hsuccess] at hback
    rw [gsGrabGet_status] at hsuccess
    refine ⟨(congrArg GrabState.noPointerGrab hback).symm, ?_⟩
    rw [← (grabDevices_seat m.resumed old noPointerGrab hfree).1 hsuccess]
    exact (congrArg GrabState.seat hback).symm
  · intro h
    refine ⟨fun _ _ hresult => ?_, fun hfalse => by cases hfalse⟩
    have hsuccess := Option.some.inj hresult
    obtain ⟨hmode, hseat⟩ := h (resumes_iff.2 ⟨hrefused, hold.1 hsuccess⟩)
    rw [gsGrabGet_recorded hsuccess]
    rw [gsGrabGet_status] at hsuccess
    refine recordGrab_eq hwindow hdisplay hmode ?_
    rw [hseat]
    exact (grabDevices_seat m.resumed old noPointerGrab hfree).1 hsuccess

theorem gsGrabMove_keeps_iff (m : MoveAnswers) (window : GdkWindow) (display : GdkDisplay)
    (noPointerGrab hideCursor : Bool) (s : GrabState) :
    MoveKeeps m window display noPointerGrab hideCursor s ↔ SameModes m window noPointerGrab hideCursor s := by
  unfold SameModes
  by_cases hskip : s.grabWindow = some window ∧ s.noPointerGrab = noPointerGrab
  · unfold MoveKeeps
    rw [gsGrabMove_skipped m display hideCursor hskip, if_pos hskip]
    simp [hskip]
  rw [if_neg hskip]
  by_cases hmoved : (s.letGo.tryTwice m window display noPointerGrab hideCursor).2 = .success
  · unfold MoveKeeps
    rw [gsGrabMove_moved m display hideCursor hskip hmoved]
    obtain ⟨t, ht⟩ := tryTwice_recorded hmoved
    refine iff_of_true ⟨fun h => absurd h (by simp), fun _ => by rw [ht]; exact ⟨rfl, rfl, rfl⟩⟩ fun old hold hresumes => ?_
    have hfree := tryTwice_free m window display noPointerGrab hideCursor (letGo_free hold)
    exact absurd (hfree.1.1 hmoved) (resumes_iff.1 hresumes).1
  cases hwindow : s.grabWindow with
  | none =>
    have hfailed := gsGrabMove_refused m display hideCursor hskip hmoved
    unfold MoveKeeps
    generalize s.gsGrabMove m window display noPointerGrab hideCursor = after at hfailed
    obtain ⟨t, result, oldResult⟩ := after
    cases hfailed
    simp [hwindow]
  | some old =>
    rw [gsGrabMove_back_iff m display hideCursor hskip hmoved hwindow]
    constructor
    · intro h old' hold'
      cases hold'
      exact h
    · intro h
      exact h old rfl

/- The pointer is grabbed too; the dialog's window, without it, is refused twice. -/
def grabbed : GrabState := ⟨some 1, some 0, false, false, .ofWindow 1 false, fun _ => rfl⟩

def refusedThenResumed : MoveAnswers :=
  let yes : SeatAnswer := ⟨.success, false⟩
  let no : SeatAnswer := ⟨.alreadyGrabbed, false⟩
  ⟨⟨no, false, no⟩, ⟨no, false, no⟩, ⟨yes, false, yes⟩⟩

theorem gsGrabMove_loses_pointer : ¬ ∀ m window display noPointerGrab hideCursor s,
    MoveKeeps m window display noPointerGrab hideCursor s := by
  intro h
  have hback := (h refusedThenResumed 2 0 true false grabbed).1 (by decide) (by decide) (by decide)
  exact absurd (congrArg GrabState.noPointerGrab hback) (by decide)

/-! ### The move that does not fail -/

theorem gsGrabMove_true (h : (s.gsGrabMove m window display noPointerGrab hideCursor).2.1 = true) :
    (s.gsGrabMove m window display noPointerGrab hideCursor).1.grabWindow = some window ∧
      (s.gsGrabMove m window display noPointerGrab hideCursor).1.noPointerGrab = noPointerGrab := by
  by_cases hskip : s.grabWindow = some window ∧ s.noPointerGrab = noPointerGrab
  · rw [gsGrabMove_skipped m display hideCursor hskip]
    exact hskip
  · by_cases hmoved : (s.letGo.tryTwice m window display noPointerGrab hideCursor).2 = .success
    · rw [gsGrabMove_moved m display hideCursor hskip hmoved]
      obtain ⟨t, ht⟩ := tryTwice_recorded hmoved
      rw [ht]
      exact ⟨rfl, rfl⟩
    · rw [gsGrabMove_refused m display hideCursor hskip hmoved] at h
      cases h

/- Once it is through, the record is that of the move that the rest of the saver sees. -/
theorem gsGrabMoveToWindow_refines {answers : List MoveAnswers} (target : GdkWindow → GrabTarget) (g : GSGrab)
    (h : (s.gsGrabMoveToWindow window display noPointerGrab hideCursor answers).2 = true) :
    let t := (s.gsGrabMoveToWindow window display noPointerGrab hideCursor answers).1
    t.grabWindow.map target = (g.moveToWindow (target window) noPointerGrab hideCursor).grabWindow ∧
      t.noPointerGrab = (g.moveToWindow (target window) noPointerGrab hideCursor).noPointerGrab := by
  have habstract : (g.moveToWindow (target window) noPointerGrab hideCursor).grabWindow = some (target window) ∧
      (g.moveToWindow (target window) noPointerGrab hideCursor).noPointerGrab = noPointerGrab := by
    unfold GSGrab.moveToWindow
    split
    · next hskip => exact hskip
    · exact ⟨rfl, rfl⟩
  rw [habstract.1, habstract.2]
  induction answers generalizing s with
  | nil => cases h
  | cons a rest ih =>
    unfold gsGrabMoveToWindow at h ⊢
    dsimp only at h ⊢
    split at h
    · next hresult =>
      rw [if_pos hresult]
      obtain ⟨hwindow, hmode⟩ := gsGrabMove_true hresult
      exact ⟨by rw [hwindow]; rfl, hmode⟩
    · next hresult =>
      rw [if_neg hresult]
      exact ih h

end GrabState
end MateScreensaver
