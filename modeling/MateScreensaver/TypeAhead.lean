import MateScreensaver.Window
import MateScreensaver.Lib.Runs
import Mathlib.Data.List.Nodup

/-!
The keys typed ahead of the lock dialog (gs-window-x11.c). A window copies the key presses
it gets into a queue, forwards them when the socket of its dialog is shown, and throws them
away when the dialog is finished.
-/

namespace MateScreensaver
open Runs

structure GdkEventKey where
  keyval : UInt32
  hardwareKeycode : UInt16
  state : UInt32
deriving DecidableEq

namespace GdkEventKey

def gdkKeyTab : UInt32 := 0xff09
def gdkKeyReturn : UInt32 := 0xff0d
def gdkKeyEscape : UInt32 := 0xff1b
def gdkKeyUp : UInt32 := 0xff52
def gdkKeyDown : UInt32 := 0xff54
def gdkKeyKPEnter : UInt32 := 0xff8d
def gdkKeySpace : UInt32 := 0x20

/- The keys that are eaten as long as the queue is empty. -/
def isEaten (e : GdkEventKey) : Bool :=
  e.keyval = gdkKeyReturn || e.keyval = gdkKeyKPEnter || e.keyval = gdkKeyEscape || e.keyval = gdkKeySpace

/- The keys that may move the focus in the dialog. -/
def isNavigation (e : GdkEventKey) : Bool :=
  e.keyval = gdkKeyTab || e.keyval = gdkKeyUp || e.keyval = gdkKeyDown

def isBrightness (e : GdkEventKey) : Bool := e.hardwareKeycode = 101 || e.hardwareKeycode = 212

end GdkEventKey

def maxQueuedEvents : ℕ := 16

/- What gdk_event_copy gives; the copies are numbered. -/
structure KeyCopy where
  copy : ℕ
  event : GdkEventKey
deriving DecidableEq

/- What happens to key presses, and the dialogs that start and finish. -/
inductive KeyAction
  | pressed (e : GdkEventKey)
  | queued (c : KeyCopy)
  | forwarded (dialog : ℕ) (c : KeyCopy)
  | freed (copy : ℕ)
  | shown
  | started (dialog : ℕ)
  | finished
deriving DecidableEq

/- A window, as far as its queue and its dialogs go. A dialog has the number of the watch on
its output; the socket remembers for which dialog it was made. -/
structure KeyWindow where
  keyEvents : List KeyCopy := []
  lockPid : ℕ := 0
  lockWatchId : SourceId := 0
  lockCommandWatch : List SourceId := []
  popupDialogIdleId : SourceId := 0
  lockSocket : Option SourceId := none
  lockBox : Bool := false
  nextId : SourceId := 1
  nextCopy : ℕ := 0
  finalized : Bool := false
  log : List KeyAction := []
deriving DecidableEq

namespace KeyWindow

def record (a : KeyAction) (s : KeyWindow) : KeyWindow := { s with log := s.log ++ [a] }

/- gs-window-x11.c:2034 -/
def queueKeyEvent (event : GdkEventKey) (s : KeyWindow) : KeyWindow :=
  if s.keyEvents = [] ∧ event.isEaten then s
  else if s.keyEvents.length < maxQueuedEvents ∧ !event.isNavigation then
    let c : KeyCopy := ⟨s.nextCopy, event⟩
    { s with keyEvents := c :: s.keyEvents, nextCopy := s.nextCopy + 1 }.record (.queued c)
  else s

/- The loops of gs-window-x11.c:1187 and 1204 over a queue that has been reversed. -/
def forwardLoop (dialog : ℕ) : List KeyCopy → KeyWindow → KeyWindow
  | [], s => s
  | c :: rest, s =>
    forwardLoop dialog rest
      { (s.record (.forwarded dialog c)).record (.freed c.copy) with keyEvents := rest }

def removeLoop : List KeyCopy → KeyWindow → KeyWindow
  | [], s => s
  | c :: rest, s => removeLoop rest { s.record (.freed c.copy) with keyEvents := rest }

def reversed (s : KeyWindow) : KeyWindow := { s with keyEvents := s.keyEvents.reverse }

def forwardKeyEvents (dialog : ℕ) (s : KeyWindow) : KeyWindow :=
  forwardLoop dialog s.reversed.keyEvents s.reversed

def removeKeyEvents (s : KeyWindow) : KeyWindow := removeLoop s.reversed.keyEvents s.reversed

/- gs-window-x11.c:1219; the socket has the focus then. -/
def lockSocketShow (dialog : ℕ) (s : KeyWindow) : KeyWindow := (s.forwardKeyEvents dialog).record .shown

/- gs-window-x11.c:1447 -/
def gsWindowDialogFinish (s : KeyWindow) : KeyWindow :=
  { s with lockPid := 0 }.removeKeyEvents.record .finished

/- gs-window-x11.c:1540; removing the box destroys the socket in it. -/
def popdownDialog (s : KeyWindow) : KeyWindow :=
  let s := s.gsWindowDialogFinish
  let s := if s.lockBox then { s with lockBox := false, lockSocket := none } else s
  let s := { s with popupDialogIdleId := 0 }
  { s with lockCommandWatch := s.lockCommandWatch.filter fun id => id ≠ s.lockWatchId, lockWatchId := 0 }

/- gs-window-x11.c:1761, for a window that is visible and locked. -/
def gsWindowRequestUnlock (s : KeyWindow) : KeyWindow :=
  if s.lockWatchId > 0 then s
  else if s.popupDialogIdleId = 0 then { s with popupDialogIdleId := s.nextId, nextId := s.nextId + 1 }
  else s

/- gs-window-x11.c:1751 -/
def popupDialogIdle (spawn : SpawnResult) (s : KeyWindow) : KeyWindow :=
  match spawn with
  | .spawned pid _ =>
    { s with
      lockPid := pid, lockWatchId := s.nextId, lockCommandWatch := s.lockCommandWatch ++ [s.nextId]
      popupDialogIdleId := 0, nextId := s.nextId + 1 }.record (.started s.nextId)
  | _ => { s with popupDialogIdleId := 0 }

/- gs-window-x11.c:1415 -/
def createLockSocket (dialog : SourceId) (s : KeyWindow) : KeyWindow :=
  { s with lockSocket := some dialog, lockBox := true }

/- The end of gs-window-x11.c:1567 once the dialog is finished. -/
def lockCommandFinished (id : SourceId) (s : KeyWindow) : KeyWindow :=
  let s := s.popdownDialog
  { s with lockWatchId := 0, lockCommandWatch := s.lockCommandWatch.filter fun i => i ≠ id }

/- gs-window-x11.c:1567 for the dialog with this watch. What shake_dialog lets the main loop
do comes as further events; a read error takes the watch off without a word. -/
def lockCommandWatchCb (id : SourceId) (input : WatchInput) (s : KeyWindow) : KeyWindow :=
  if input.gIoIn then
    match input.status with
    | .normal line =>
      if Scan.contains line "WINDOW ID=".toList then
        if (sscanfWindowId line).isSome then s.createLockSocket id else s
      else if Scan.contains line "NOTICE=".toList then s
      else if Scan.contains line "RESPONSE=".toList then s.lockCommandFinished id
      else s
    | .eof => s.lockCommandFinished id
    | .error => { s with lockCommandWatch := s.lockCommandWatch.filter fun i => i ≠ id }
    | .again => s
  else if input.gIoHup then s.lockCommandFinished id
  else s

/- gs-window-x11.c:2083. The manager may answer the activity with a request to unlock; that GTK
then hands the key to the widget with the focus has nothing to do with the queue. -/
def gsWindowRealKeyPressEvent (event : GdkEventKey) (asked : Bool) (s : KeyWindow) : KeyWindow :=
  if event.isBrightness then s
  else
    let s := if s.lockSocket.isNone && asked then s.gsWindowRequestUnlock else s
    (s.record (.pressed event)).queueKeyEvent event

/- gs-window-x11.c:2502 -/
def gsWindowFinalize (s : KeyWindow) : KeyWindow :=
  let s := { s with popupDialogIdleId := 0 }.removeKeyEvents
  let s := { s with lockCommandWatch := [], lockWatchId := 0 }
  { s.gsWindowDialogFinish with finalized := true }

inductive KeyEvent
  | keyPress (event : GdkEventKey) (asked : Bool)
  | requestUnlock
  | popupDialogIdle (spawn : SpawnResult)
  | lockCommandWatch (id : SourceId) (input : WatchInput)
  | lockSocketShow
  | lockPlugRemoved
  | cancelUnlockRequest
  | finalize

/- The key that is pressed, unless it is for the brightness. -/
def KeyEvent.key : KeyEvent → Option GdkEventKey
  | .keyPress event _ => if event.isBrightness then none else some event
  | _ => none

def KeyEvent.shows : KeyEvent → Bool
  | .lockSocketShow => true
  | _ => false

def dispatch (s : KeyWindow) : KeyEvent → Option KeyWindow
  | .keyPress event asked => some (s.gsWindowRealKeyPressEvent event asked)
  | .requestUnlock => some s.gsWindowRequestUnlock
  | .popupDialogIdle spawn => if s.popupDialogIdleId ≠ 0 then some (s.popupDialogIdle spawn) else none
  | .lockCommandWatch id input =>
    if id ∈ s.lockCommandWatch then some (s.lockCommandWatchCb id input) else none
  | .lockSocketShow => s.lockSocket.map fun dialog => s.lockSocketShow dialog
  | .lockPlugRemoved => if s.lockBox then some { s with lockBox := false, lockSocket := none } else none
  | .cancelUnlockRequest => some s.popdownDialog
  | .finalize => some s.gsWindowFinalize

def step (s : KeyWindow) (e : KeyEvent) : Option KeyWindow := if s.finalized then none else s.dispatch e

/- Every life of a window. -/
def keyWindow : System KeyWindow KeyEvent := ⟨fun s => s = {}, step⟩

end KeyWindow

/-! ### What is typed ahead -/

/-- What the dialog is to get of the keys that were pressed. -/
def typedAhead (keys : List GdkEventKey) : List GdkEventKey :=
  ((keys.filter fun e => !e.isNavigation).dropWhile GdkEventKey.isEaten).take maxQueuedEvents

/- The keys pressed since the socket was last shown or a dialog finished. -/
def typedAfter (keys : List GdkEventKey) : KeyAction → List GdkEventKey
  | .pressed e => keys ++ [e]
  | .shown | .finished => []
  | _ => keys

def typed (log : List KeyAction) : List GdkEventKey := log.foldl typedAfter []

def pressedKeys (log : List KeyAction) : List GdkEventKey := log.filterMap fun
  | .pressed e => some e
  | _ => none

def queuedCopies (log : List KeyAction) : List KeyCopy := log.filterMap fun
  | .queued c => some c
  | _ => none

def forwardedKeys (log : List KeyAction) : List GdkEventKey := log.filterMap fun
  | .forwarded _ c => some c.event
  | _ => none

@[simp] theorem typed_append_one (log : List KeyAction) (a : KeyAction) :
    typed (log ++ [a]) = typedAfter (typed log) a := by
  simp [typed]

/- A bounded list takes one more at its end as long as there is room. -/
theorem take_append_one {α : Type*} (n : ℕ) (l : List α) (x : α) :
    (l ++ [x]).take n = if (l.take n).length < n then l.take n ++ [x] else l.take n := by
  rw [List.length_take]
  by_cases h : l.length < n
  · have hall : l.take n = l := List.take_of_length_le (Nat.le_of_lt h)
    rw [if_pos (by omega), hall]
    apply List.take_of_length_le
    rw [List.length_append, List.length_singleton]
    exact h
  · rw [if_neg (by omega)]
    exact List.take_append_of_le_length (Nat.le_of_not_lt h)

/- One more key: it is eaten, or there is no room, or it is kept at the end. -/
theorem typedAhead_append_one (keys : List GdkEventKey) (e : GdkEventKey) :
    typedAhead (keys ++ [e]) =
      if typedAhead keys = [] ∧ e.isEaten then typedAhead keys
      else if (typedAhead keys).length < maxQueuedEvents ∧ !e.isNavigation then typedAhead keys ++ [e]
      else typedAhead keys := by
  cases hnav : e.isNavigation with
  | true =>
    have hsame : typedAhead (keys ++ [e]) = typedAhead keys := by simp [typedAhead, hnav]
    simp [hsame]
  | false =>
    have hsplit : (keys ++ [e]).filter (fun e => !e.isNavigation) = (keys.filter fun e => !e.isNavigation) ++ [e] := by
      simp [hnav]
    unfold typedAhead
    rw [hsplit, List.dropWhile_append]
    generalize (keys.filter fun e => !e.isNavigation).dropWhile GdkEventKey.isEaten = kept
    cases kept with
    | nil =>
      -- the leading run goes on
      cases he : e.isEaten <;> simp [he, maxQueuedEvents]
    | cons x kept =>
      rw [List.isEmpty_cons, if_neg (by decide), take_append_one]
      simp [maxQueuedEvents]

namespace KeyWindow

variable {s t : KeyWindow} {e : KeyEvent}

/- Every copy has a number of its own and is freed when it leaves the queue; what is queued
when a dialog finishes is not forwarded later. -/
structure Accounted (s : KeyWindow) : Prop where
  numbers : (queuedCopies s.log).map KeyCopy.copy = List.range s.nextCopy
  listed : ∀ c ∈ s.keyEvents, c ∈ queuedCopies s.log
  nodup : (s.keyEvents.map KeyCopy.copy).Nodup
  freed : ∀ n, s.log.count (.freed n) = if n < s.nextCopy ∧ n ∉ s.keyEvents.map KeyCopy.copy then 1 else 0
  apart : ∀ before after, s.log = before ++ .finished :: after →
    ∀ c ∈ queuedCopies before, c ∉ s.keyEvents ∧ ∀ dialog, .forwarded dialog c ∉ after

/- The last dialog that finished did so before these actions. -/
theorem finished_before {log more before after : List KeyAction} (h : log ++ more = before ++ .finished :: after)
    (hmore : .finished ∉ more) : ∃ rest, after = rest ++ more ∧ log = before ++ .finished :: rest := by
  rcases List.append_eq_append_iff.1 h with ⟨mid, -, hmid⟩ | ⟨mid, hlog, hmid⟩
  · exact absurd (by simp [hmid]) hmore
  · cases mid with
    | nil =>
      rw [List.nil_append] at hmid
      rw [← hmid] at hmore
      exact absurd List.mem_cons_self hmore
    | cons a rest =>
      obtain ⟨rfl, hafter⟩ := List.cons_eq_cons.1 hmid
      exact ⟨rest, hafter, hlog⟩

/- Actions that queue nothing, and after which just what they freed has left the queue. -/
theorem Accounted.left {more : List KeyAction} (h : s.Accounted) (hlog : t.log = s.log ++ more)
    (hnext : t.nextCopy = s.nextCopy) (hkeys : t.keyEvents.Sublist s.keyEvents) (hqueued : queuedCopies more = [])
    (hfinished : .finished ∉ more) (hforwarded : ∀ dialog c, .forwarded dialog c ∈ more → c ∈ s.keyEvents)
    (hfreed : ∀ n, more.count (.freed n) =
      if n ∈ s.keyEvents.map KeyCopy.copy ∧ n ∉ t.keyEvents.map KeyCopy.copy then 1 else 0) : t.Accounted where
  numbers := by
    rw [hlog, queuedCopies, List.filterMap_append]
    show (queuedCopies s.log ++ queuedCopies more).map _ = _
    rw [hqueued, List.append_nil, hnext]
    exact h.numbers
  listed c hc := by
    rw [hlog, queuedCopies, List.filterMap_append]
    exact List.mem_append_left _ (h.listed c (hkeys.subset hc))
  nodup := h.nodup.sublist (hkeys.map _)
  freed n := by
    have hsub : n ∈ t.keyEvents.map KeyCopy.copy → n ∈ s.keyEvents.map KeyCopy.copy :=
      fun hn => (hkeys.map _).subset hn
    have hlt : n ∈ s.keyEvents.map KeyCopy.copy → n < s.nextCopy := by
      intro hn
      obtain ⟨c, hc, rfl⟩ := List.mem_map.1 hn
      rw [← List.mem_range, ← h.numbers]
      exact List.mem_map_of_mem (h.listed c hc)
    rw [hlog, List.count_append, h.freed, hfreed, hnext]
    by_cases hs : n ∈ s.keyEvents.map KeyCopy.copy
    · rw [if_neg (fun hn => hn.2 hs), Nat.zero_add]
      simp only [hs, hlt hs, true_and]
    · have ht : n ∉ t.keyEvents.map KeyCopy.copy := fun ht => hs (hsub ht)
      simp only [hs, ht, not_false_eq_true, and_true, if_false, Nat.add_zero]
  apart before after hsplit c hc := by
    rw [hlog] at hsplit
    obtain ⟨rest, rfl, hrest⟩ := finished_before hsplit hfinished
    obtain ⟨hout, hno⟩ := h.apart before rest hrest c hc
    refine ⟨fun hin => hout (hkeys.subset hin), fun dialog hin => ?_⟩
    rcases List.mem_append.1 hin with hin | hin
    · exact hno dialog hin
    · exact hout (hforwarded dialog c hin)

theorem Accounted.noted {a : KeyAction} (h : s.Accounted) (ha : queuedCopies [a] = []) (hfinished : a ≠ .finished)
    (hforwarded : ∀ dialog c, a ≠ .forwarded dialog c) (hfreed : ∀ n, a ≠ .freed n) : (s.record a).Accounted := by
  have hlog : (s.record a).log = s.log ++ [a] := rfl
  refine h.left hlog rfl (List.Sublist.refl _) ha ?_ ?_ ?_
  · simpa using hfinished.symm
  · intro dialog c hc
    exact absurd (List.mem_singleton.1 hc).symm (hforwarded dialog c)
  · intro n
    simp [hfreed n, record]

/- Nothing is left of a queue when the dialog has finished. -/
theorem Accounted.finished (h : s.Accounted) (hkeys : s.keyEvents = []) : (s.record .finished).Accounted where
  numbers := by simpa [record, queuedCopies] using h.numbers
  listed c hc := by
    have hc' : c ∈ s.keyEvents := hc
    rw [hkeys] at hc'
    cases hc'
  nodup := h.nodup
  freed n := by
    show (s.log ++ [KeyAction.finished]).count _ = _
    rw [List.count_append, h.freed]
    simp [record]
  apart before after hsplit c hc := by
    have hout : c ∉ s.keyEvents := by simp [hkeys]
    rcases List.eq_nil_or_concat after with rfl | ⟨rest, last, rfl⟩
    · exact ⟨hout, fun _ hin => absurd hin List.not_mem_nil⟩
    · have hcons : before ++ .finished :: rest.concat last = (before ++ .finished :: rest) ++ [last] := by simp
      rw [hcons] at hsplit
      obtain ⟨hlog, hlast⟩ := List.append_inj' hsplit rfl
      refine ⟨hout, fun dialog hin => ?_⟩
      rw [List.concat_eq_append, ← hlast] at hin
      rcases List.mem_append.1 hin with hin | hin
      · exact (h.apart before rest hlog c hc).2 dialog hin
      · cases List.mem_singleton.1 hin

theorem Accounted.queued (h : s.Accounted) (event : GdkEventKey) :
    ({ s with keyEvents := ⟨s.nextCopy, event⟩ :: s.keyEvents, nextCopy := s.nextCopy + 1 }.record
      (.queued ⟨s.nextCopy, event⟩)).Accounted := by
  have hold : ∀ c ∈ queuedCopies s.log, c.copy < s.nextCopy := by
    intro c hc
    rw [← List.mem_range, ← h.numbers]
    exact List.mem_map_of_mem hc
  have hnew : s.nextCopy ∉ s.keyEvents.map KeyCopy.copy := by
    intro hn
    obtain ⟨c, hc, hcopy⟩ := List.mem_map.1 hn
    have hlt := hold c (h.listed c hc)
    omega
  have hqueued : queuedCopies (s.log ++ [.queued ⟨s.nextCopy, event⟩]) =
      queuedCopies s.log ++ [⟨s.nextCopy, event⟩] := by simp [queuedCopies]
  constructor
  · show (queuedCopies (s.log ++ [.queued ⟨s.nextCopy, event⟩])).map _ = List.range (s.nextCopy + 1)
    rw [hqueued, List.map_append, h.numbers, List.range_succ]
    rfl
  · intro c hc
    show c ∈ queuedCopies (s.log ++ [.queued ⟨s.nextCopy, event⟩])
    rw [hqueued]
    rcases List.mem_cons.1 hc with rfl | hc
    · exact List.mem_append_right _ (List.mem_singleton_self _)
    · exact List.mem_append_left _ (h.listed c hc)
  · exact List.nodup_cons.2 ⟨hnew, h.nodup⟩
  · intro n
    show (s.log ++ [KeyAction.queued ⟨s.nextCopy, event⟩]).count _ =
      if n < s.nextCopy + 1 ∧ n ∉ s.nextCopy :: s.keyEvents.map KeyCopy.copy then 1 else 0
    rw [List.count_append, h.freed]
    by_cases hn : n = s.nextCopy
    · simp [hn]
    · have hlt : n < s.nextCopy + 1 ↔ n < s.nextCopy := by omega
      simp [hn, hlt]
  · intro before after hsplit c hc
    have hsplit' : s.log ++ [.queued ⟨s.nextCopy, event⟩] = before ++ .finished :: after := hsplit
    obtain ⟨rest, rfl, hrest⟩ := finished_before hsplit' (by simp)
    obtain ⟨hout, hno⟩ := h.apart before rest hrest c hc
    have hlt : c.copy < s.nextCopy := by
      apply hold
      rw [hrest, queuedCopies, List.filterMap_append]
      exact List.mem_append_left _ hc
    refine ⟨fun hin => ?_, fun dialog hin => ?_⟩
    · rcases List.mem_cons.1 hin with rfl | hin
      · exact Nat.lt_irrefl _ hlt
      · exact hout hin
    · rcases List.mem_append.1 hin with hin | hin
      · exact hno dialog hin
      · cases List.mem_singleton.1 hin

theorem Accounted.queueKeyEvent (h : s.Accounted) (event : GdkEventKey) : (s.queueKeyEvent event).Accounted := by
  unfold KeyWindow.queueKeyEvent
  split
  · exact h
  · split
    · exact h.queued event
    · exact h

/-! ### The loops -/

theorem forwardLoop_eq (dialog : ℕ) (l : List KeyCopy) (s : KeyWindow) (h : s.keyEvents = l) :
    forwardLoop dialog l s =
      { s with keyEvents := [], log := s.log ++ l.flatMap fun c => [.forwarded dialog c, .freed c.copy] } := by
  induction l generalizing s with
  | nil =>
    obtain ⟨⟩ := s
    cases h
    simp [forwardLoop]
  | cons c rest ih =>
    rw [forwardLoop, ih _ rfl]
    simp [record]

theorem removeLoop_eq (l : List KeyCopy) (s : KeyWindow) (h : s.keyEvents = l) :
    removeLoop l s = { s with keyEvents := [], log := s.log ++ l.map fun c => .freed c.copy } := by
  induction l generalizing s with
  | nil =>
    obtain ⟨⟩ := s
    cases h
    simp [removeLoop]
  | cons c rest ih =>
    rw [removeLoop, ih _ rfl]
    simp [record]

theorem forwardKeyEvents_eq (dialog : ℕ) (s : KeyWindow) : s.forwardKeyEvents dialog =
    { s with
      keyEvents := []
      log := s.log ++ s.keyEvents.reverse.flatMap fun c => [.forwarded dialog c, .freed c.copy] } :=
  forwardLoop_eq dialog _ s.reversed rfl

theorem removeKeyEvents_eq (s : KeyWindow) : s.removeKeyEvents =
    { s with keyEvents := [], log := s.log ++ s.keyEvents.reverse.map fun c => .freed c.copy } :=
  removeLoop_eq _ s.reversed rfl

/- A copy in the queue is freed once on the way. -/
theorem count_freed {l : List KeyCopy} (h : (l.map KeyCopy.copy).Nodup) (n : ℕ) :
    (l.map fun c => KeyAction.freed c.copy).count (.freed n) = if n ∈ l.map KeyCopy.copy then 1 else 0 := by
  have hmap : (l.map fun c => KeyAction.freed c.copy) = (l.map KeyCopy.copy).map KeyAction.freed := by simp
  have hinj : Function.Injective KeyAction.freed := fun _ _ h => KeyAction.freed.inj h
  rw [hmap, (h.map hinj).count]
  simp only [List.mem_map_of_injective hinj]

theorem count_forwarded (dialog : ℕ) (l : List KeyCopy) (n : ℕ) :
    (l.flatMap fun c => [KeyAction.forwarded dialog c, .freed c.copy]).count (.freed n) =
      (l.map fun c => KeyAction.freed c.copy).count (.freed n) := by
  induction l with
  | nil => rfl
  | cons c rest ih => simp [List.flatMap_cons, List.count_cons, ih]

theorem Accounted.removeKeyEvents (h : s.Accounted) : s.removeKeyEvents.Accounted := by
  rw [removeKeyEvents_eq]
  refine h.left rfl rfl (List.nil_sublist _) ?_ ?_ ?_ ?_
  · simp [queuedCopies]
  · simp
  · simp
  · intro n
    have hnodup : (s.keyEvents.reverse.map KeyCopy.copy).Nodup := by
      rw [List.map_reverse, List.nodup_reverse]
      exact h.nodup
    rw [count_freed hnodup]
    simp

theorem Accounted.lockSocketShow (h : s.Accounted) (dialog : ℕ) : (s.lockSocketShow dialog).Accounted := by
  have hforward : (s.forwardKeyEvents dialog).Accounted := by
    rw [forwardKeyEvents_eq]
    refine h.left rfl rfl (List.nil_sublist _) ?_ ?_ ?_ ?_
    · refine List.filterMap_eq_nil_iff.2 fun a ha => ?_
      obtain ⟨c, -, ha⟩ := List.mem_flatMap.1 ha
      simp only [List.mem_cons, List.not_mem_nil, or_false] at ha
      rcases ha with rfl | rfl <;> rfl
    · simp
    · simp only [List.mem_flatMap, List.mem_reverse]
      rintro d c ⟨c', hc', hc⟩
      simp only [List.mem_cons, KeyAction.forwarded.injEq, List.not_mem_nil, or_false, reduceCtorEq] at hc
      rw [hc.2]
      exact hc'
    · intro n
      have hnodup : (s.keyEvents.reverse.map KeyCopy.copy).Nodup := by
        rw [List.map_reverse, List.nodup_reverse]
        exact h.nodup
      rw [count_forwarded, count_freed hnodup]
      simp
  exact hforward.noted rfl (by simp) (by simp) (by simp)

/- The two states agree on all that is about keys. -/
structure SameKeys (s t : KeyWindow) : Prop where
  keyEvents : t.keyEvents = s.keyEvents
  nextCopy : t.nextCopy = s.nextCopy
  log : t.log = s.log

theorem SameKeys.refl (s : KeyWindow) : SameKeys s s := ⟨rfl, rfl, rfl⟩

theorem SameKeys.record (h : SameKeys s t) (a : KeyAction) : SameKeys (s.record a) (t.record a) :=
  ⟨h.keyEvents, h.nextCopy, congrArg (· ++ [a]) h.log⟩

theorem SameKeys.queueKeyEvent (h : SameKeys s t) (event : GdkEventKey) :
    SameKeys (s.queueKeyEvent event) (t.queueKeyEvent event) := by
  unfold KeyWindow.queueKeyEvent
  rw [h.keyEvents, h.nextCopy]
  split
  · exact h
  · split
    · exact ⟨rfl, rfl, congrArg (· ++ [_]) h.log⟩
    · exact h

theorem sameKeys_gsWindowRequestUnlock (s : KeyWindow) : SameKeys s s.gsWindowRequestUnlock := by
  unfold gsWindowRequestUnlock
  split
  · exact .refl s
  · split
    · exact ⟨rfl, rfl, rfl⟩
    · exact .refl s

theorem gsWindowDialogFinish_keys (s : KeyWindow) :
    s.gsWindowDialogFinish.keyEvents = [] ∧ s.gsWindowDialogFinish.nextCopy = s.nextCopy ∧
      s.gsWindowDialogFinish.log = (s.log ++ s.keyEvents.reverse.map fun c => .freed c.copy) ++ [.finished] := by
  unfold gsWindowDialogFinish
  rw [removeKeyEvents_eq]
  exact ⟨rfl, rfl, rfl⟩

theorem sameKeys_popdownDialog (s : KeyWindow) : SameKeys s.gsWindowDialogFinish s.popdownDialog := by
  unfold popdownDialog
  cases hbox : s.gsWindowDialogFinish.lockBox <;> simp only [hbox, if_true, if_false, Bool.false_eq_true] <;>
    exact ⟨rfl, rfl, rfl⟩

theorem sameKeys_gsWindowFinalize (s : KeyWindow) : SameKeys s.gsWindowDialogFinish s.gsWindowFinalize := by
  obtain ⟨hkeys, hnext, hlog⟩ := gsWindowDialogFinish_keys s
  unfold gsWindowFinalize
  rw [removeKeyEvents_eq]
  obtain ⟨hkeys', hnext', hlog'⟩ := gsWindowDialogFinish_keys
    { s with
      popupDialogIdleId := 0, lockCommandWatch := [], lockWatchId := 0, keyEvents := []
      log := s.log ++ s.keyEvents.reverse.map fun c => .freed c.copy }
  -- the second removal finds nothing
  refine ⟨hkeys'.trans hkeys.symm, hnext'.trans hnext.symm, hlog'.trans ?_⟩
  rw [hlog]
  simp

/- All that an event can do about keys. -/
inductive KeyMove (e : KeyEvent) (s t : KeyWindow) : Prop
  | same (key : e.key = none) (shows : e.shows = false) (h : SameKeys s t)
  | started (key : e.key = none) (shows : e.shows = false) (dialog : ℕ) (h : SameKeys (s.record (.started dialog)) t)
  | pressed (event : GdkEventKey) (key : e.key = some event) (shows : e.shows = false)
      (h : SameKeys ((s.record (.pressed event)).queueKeyEvent event) t)
  | shown (key : e.key = none) (shows : e.shows = true) (dialog : ℕ) (h : SameKeys (s.lockSocketShow dialog) t)
  | finished (key : e.key = none) (shows : e.shows = false) (h : SameKeys s.gsWindowDialogFinish t)

theorem keyMove_lockCommandWatch (id : SourceId) (input : WatchInput) (s : KeyWindow) :
    KeyMove (.lockCommandWatch id input) s (s.lockCommandWatchCb id input) := by
  have hfinish : KeyMove (.lockCommandWatch id input) s (s.lockCommandFinished id) := by
    obtain ⟨hkeys, hnext, hlog⟩ := sameKeys_popdownDialog s
    exact .finished rfl rfl ⟨hkeys, hnext, hlog⟩
  have hquiet : KeyMove (.lockCommandWatch id input) s s := .same rfl rfl (.refl s)
  unfold lockCommandWatchCb
  split
  · split
    · split
      · split
        · exact .same rfl rfl ⟨rfl, rfl, rfl⟩
        · exact hquiet
      · split
        · exact hquiet
        · split
          · exact hfinish
          · exact hquiet
    · exact hfinish
    · exact .same rfl rfl ⟨rfl, rfl, rfl⟩
    · exact hquiet
  · split
    · exact hfinish
    · exact hquiet

theorem keyMove_keyPress (event : GdkEventKey) (asked : Bool) (s : KeyWindow) :
    KeyMove (.keyPress event asked) s (s.gsWindowRealKeyPressEvent event asked) := by
  unfold gsWindowRealKeyPressEvent
  split
  · next hbright => exact .same (if_pos hbright) rfl (.refl s)
  · next hbright =>
    refine .pressed event (if_neg hbright) rfl (SameKeys.queueKeyEvent (SameKeys.record ?_ _) event)
    split
    · exact sameKeys_gsWindowRequestUnlock s
    · exact .refl s

theorem keyMove_step (h : keyWindow.next s e = some t) : KeyMove e s t := by
  obtain ⟨-, h⟩ := Option.ite_none_left_eq_some.1 h
  cases e with
  | keyPress event asked =>
    cases h
    exact keyMove_keyPress event asked s
  | requestUnlock =>
    cases h
    exact .same rfl rfl (sameKeys_gsWindowRequestUnlock s)
  | popupDialogIdle spawn =>
    obtain ⟨-, h⟩ := Option.ite_none_right_eq_some.1 h
    cases h
    unfold KeyWindow.popupDialogIdle
    split
    · exact .started rfl rfl _ ⟨rfl, rfl, rfl⟩
    · exact .same rfl rfl ⟨rfl, rfl, rfl⟩
  | lockCommandWatch id input =>
    obtain ⟨-, h⟩ := Option.ite_none_right_eq_some.1 h
    cases h
    exact keyMove_lockCommandWatch id input s
  | lockSocketShow =>
    obtain ⟨dialog, -, rfl⟩ := Option.map_eq_some_iff.1 h
    exact .shown rfl rfl dialog (.refl _)
  | lockPlugRemoved =>
    obtain ⟨-, h⟩ := Option.ite_none_right_eq_some.1 h
    cases h
    exact .same rfl rfl ⟨rfl, rfl, rfl⟩
  | cancelUnlockRequest =>
    cases h
    exact .finished rfl rfl (sameKeys_popdownDialog s)
  | finalize =>
    cases h
    exact .finished rfl rfl (sameKeys_gsWindowFinalize s)

/-! ### Every step -/

theorem Accounted.same (h : s.Accounted) (hst : SameKeys s t) : t.Accounted := by
  obtain ⟨numbers, listed, nodup, freed, apart⟩ := h
  constructor <;> simp only [hst.keyEvents, hst.nextCopy, hst.log] <;> assumption

theorem Accounted.gsWindowDialogFinish (h : s.Accounted) : s.gsWindowDialogFinish.Accounted := by
  have hsame : { s with lockPid := 0 }.Accounted := h.same ⟨rfl, rfl, rfl⟩
  exact hsame.removeKeyEvents.finished (by rw [removeKeyEvents_eq])

theorem Accounted.move (h : s.Accounted) (hm : KeyMove e s t) : t.Accounted := by
  cases hm with
  | same _ _ hst => exact h.same hst
  | started _ _ dialog hst => exact (h.noted rfl (by simp) (by simp) (by simp)).same hst
  | pressed event _ _ hst =>
    have hpressed : (s.record (.pressed event)).Accounted := h.noted rfl (by simp) (by simp) (by simp)
    exact (hpressed.queueKeyEvent event).same hst
  | shown _ _ dialog hst => exact (h.lockSocketShow dialog).same hst
  | finished _ _ hst => exact h.gsWindowDialogFinish.same hst

/- The queue, oldest first, is what is typed ahead. -/
def Kept (s : KeyWindow) : Prop := s.keyEvents.reverse.map KeyCopy.event = typedAhead (typed s.log)

theorem typed_queueKeyEvent (event : GdkEventKey) (s : KeyWindow) :
    typed (s.queueKeyEvent event).log = typed s.log := by
  unfold queueKeyEvent
  split
  · rfl
  · split
    · exact typed_append_one _ _
    · rfl

theorem Kept.pressed (h : s.Kept) (event : GdkEventKey) :
    ((s.record (.pressed event)).queueKeyEvent event).Kept := by
  have hlen : s.keyEvents.length = (typedAhead (typed s.log)).length := by
    rw [← h, List.length_map, List.length_reverse]
  have hnil : s.keyEvents = [] ↔ typedAhead (typed s.log) = [] := by
    rw [← List.length_eq_zero_iff, hlen, List.length_eq_zero_iff]
  have htyped : typed (s.record (.pressed event)).log = typed s.log ++ [event] := typed_append_one _ _
  unfold Kept
  rw [typed_queueKeyEvent, htyped, typedAhead_append_one]
  unfold queueKeyEvent
  simp only [record, hnil, hlen]
  split
  · exact h
  · split
    · rw [← h]
      simp
    · exact h

theorem Kept.move (h : s.Kept) (hm : KeyMove e s t) : t.Kept := by
  cases hm with
  | same _ _ hst =>
    unfold Kept
    rw [hst.keyEvents, hst.log]
    exact h
  | started _ _ dialog hst =>
    unfold Kept
    rw [hst.keyEvents, hst.log]
    show _ = typedAhead (typed (s.log ++ [_]))
    rw [typed_append_one]
    exact h
  | pressed event _ _ hst =>
    have hkept := h.pressed event
    unfold Kept at hkept ⊢
    rw [hst.keyEvents, hst.log]
    exact hkept
  | shown _ _ dialog hst =>
    unfold Kept
    rw [hst.keyEvents, hst.log, lockSocketShow, forwardKeyEvents_eq]
    show _ = typedAhead (typed (_ ++ [_]))
    rw [typed_append_one]
    rfl
  | finished _ _ hst =>
    obtain ⟨hkeys, -, hlog⟩ := gsWindowDialogFinish_keys s
    unfold Kept
    rw [hst.keyEvents, hst.log, hkeys, hlog, typed_append_one]
    rfl

/- What an event adds to the keys pressed and the keys forwarded. -/
theorem pressedKeys_move (hm : KeyMove e s t) : pressedKeys t.log = pressedKeys s.log ++ e.key.toList := by
  cases hm with
  | same key _ hst => simp [hst.log, key]
  | started key _ dialog hst => simp [hst.log, key, record, pressedKeys]
  | pressed event key _ hst =>
    have hqueue : pressedKeys ((s.record (.pressed event)).queueKeyEvent event).log =
        pressedKeys (s.record (.pressed event)).log := by
      unfold queueKeyEvent
      split
      · rfl
      · split
        · simp [record, pressedKeys]
        · rfl
    rw [hst.log, hqueue, key]
    simp [record, pressedKeys]
  | shown key _ dialog hst =>
    rw [hst.log, lockSocketShow, forwardKeyEvents_eq, key]
    simp [record, pressedKeys, List.filterMap_flatMap]
  | finished key _ hst =>
    rw [hst.log, (gsWindowDialogFinish_keys s).2.2, key]
    simp [pressedKeys]

theorem forwardedKeys_move (h : s.Kept) (hm : KeyMove e s t) :
    forwardedKeys t.log = forwardedKeys s.log ++ if e.shows then typedAhead (typed s.log) else [] := by
  cases hm with
  | same _ shows hst => simp [hst.log, shows]
  | started _ shows dialog hst => simp [hst.log, shows, record, forwardedKeys]
  | pressed event _ shows hst =>
    have hqueue : forwardedKeys ((s.record (.pressed event)).queueKeyEvent event).log =
        forwardedKeys (s.record (.pressed event)).log := by
      unfold queueKeyEvent
      split
      · rfl
      · split
        · simp [record, forwardedKeys]
        · rfl
    rw [hst.log, hqueue, shows]
    simp [record, forwardedKeys]
  | shown _ shows dialog hst =>
    rw [hst.log, lockSocketShow, forwardKeyEvents_eq, shows, if_pos rfl, ← h, List.map_eq_flatMap]
    simp [record, forwardedKeys, List.filterMap_flatMap]
  | finished _ shows hst =>
    rw [hst.log, (gsWindowDialogFinish_keys s).2.2, shows]
    simp [forwardedKeys]

theorem start_accounted : Accounted {} where
  numbers := rfl
  listed c hc := by cases hc
  nodup := .nil
  freed n := by simp
  apart before after h := by
    have hlen := congrArg List.length h
    simp at hlen

theorem run_keys {es : List KeyEvent} (hs : s.Accounted) (hk : s.Kept) (h : keyWindow.run s es = some t) :
    t.Accounted ∧ t.Kept ∧ pressedKeys t.log = pressedKeys s.log ++ es.filterMap KeyEvent.key := by
  induction es generalizing s with
  | nil =>
    cases h
    exact ⟨hs, hk, by simp⟩
  | cons e es ih =>
    obtain ⟨u, hu, h⟩ := Option.bind_eq_some_iff.1 h
    have hm := keyMove_step hu
    obtain ⟨ht, hk', hpressed⟩ := ih (hs.move hm) (hk.move hm) h
    refine ⟨ht, hk', ?_⟩
    rw [hpressed, pressedKeys_move hm, List.append_assoc]
    cases hkey : e.key <;> simp [hkey]

theorem popdownDialog_finalized (s : KeyWindow) : s.popdownDialog.finalized = s.finalized := by
  have hfinish : s.gsWindowDialogFinish.finalized = s.finalized := by
    unfold gsWindowDialogFinish
    rw [removeKeyEvents_eq]
    rfl
  unfold popdownDialog
  cases hbox : s.gsWindowDialogFinish.lockBox <;> simp only [hbox, if_true, if_false, Bool.false_eq_true, hfinish]

theorem lockCommandWatchCb_finalized (id : SourceId) (input : WatchInput) (s : KeyWindow) :
    (s.lockCommandWatchCb id input).finalized = s.finalized := by
  have hfinish : (s.lockCommandFinished id).finalized = s.finalized := popdownDialog_finalized s
  unfold lockCommandWatchCb createLockSocket
  repeat' split
  all_goals first | rfl | exact hfinish

theorem gsWindowRequestUnlock_finalized (s : KeyWindow) : s.gsWindowRequestUnlock.finalized = s.finalized := by
  unfold gsWindowRequestUnlock
  repeat' split
  all_goals rfl

theorem queueKeyEvent_finalized (event : GdkEventKey) (s : KeyWindow) :
    (s.queueKeyEvent event).finalized = s.finalized := by
  unfold queueKeyEvent
  repeat' split
  all_goals rfl

theorem gsWindowRealKeyPressEvent_finalized (event : GdkEventKey) (asked : Bool) (s : KeyWindow) :
    (s.gsWindowRealKeyPressEvent event asked).finalized = s.finalized := by
  unfold gsWindowRealKeyPressEvent
  split
  · rfl
  · rw [queueKeyEvent_finalized]
    show (if s.lockSocket.isNone && asked then s.gsWindowRequestUnlock else s).finalized = s.finalized
    split
    · exact gsWindowRequestUnlock_finalized s
    · rfl

theorem finalized_step (h : keyWindow.next s e = some t) (hf : t.finalized = true) : e = .finalize := by
  obtain ⟨hs, h⟩ := Option.ite_none_left_eq_some.1 h
  suffices hsame : e ≠ .finalize → t.finalized = s.finalized by
    by_contra hne
    exact hs ((hsame hne).symm.trans hf)
  intro hne
  cases e with
  | keyPress event asked =>
    cases h
    exact gsWindowRealKeyPressEvent_finalized event asked s
  | requestUnlock =>
    cases h
    exact gsWindowRequestUnlock_finalized s
  | popupDialogIdle spawn =>
    obtain ⟨-, h⟩ := Option.ite_none_right_eq_some.1 h
    cases h
    unfold KeyWindow.popupDialogIdle
    split <;> rfl
  | lockCommandWatch id input =>
    obtain ⟨-, h⟩ := Option.ite_none_right_eq_some.1 h
    cases h
    exact lockCommandWatchCb_finalized id input s
  | lockSocketShow =>
    obtain ⟨dialog, -, rfl⟩ := Option.map_eq_some_iff.1 h
    unfold KeyWindow.lockSocketShow
    rw [forwardKeyEvents_eq]
    rfl
  | lockPlugRemoved =>
    obtain ⟨-, h⟩ := Option.ite_none_right_eq_some.1 h
    cases h
    rfl
  | cancelUnlockRequest =>
    cases h
    exact popdownDialog_finalized s
  | finalize => exact absurd rfl hne

/- A window that is gone has no queue. -/
theorem finalized_keys (h : keyWindow.Reachable s) (hf : s.finalized = true) : s.keyEvents = [] := by
  cases h with
  | start hs =>
    rw [hs] at hf
    cases hf
  | step _ hn =>
    cases finalized_step hn hf
    obtain ⟨-, hn⟩ := Option.ite_none_left_eq_some.1 hn
    cases hn
    rw [(sameKeys_gsWindowFinalize _).keyEvents]
    exact (gsWindowDialogFinish_keys _).1

/-- In every life of a window: showing the socket forwards what has been typed ahead of it,
and nothing else forwards a key; a copy is freed once, when it leaves the queue, and no queue
outlives the window; and no key that was queued before a dialog finished is forwarded later. -/
theorem typed_ahead {es : List KeyEvent} (h : keyWindow.run {} es = some s) :
    pressedKeys s.log = es.filterMap KeyEvent.key ∧
    (∀ e t, keyWindow.next s e = some t →
      forwardedKeys t.log = forwardedKeys s.log ++ if e.shows then typedAhead (typed s.log) else []) ∧
    ((queuedCopies s.log).map KeyCopy.copy).Nodup ∧
    (∀ c ∈ queuedCopies s.log, s.log.count (.freed c.copy) = if c ∈ s.keyEvents then 0 else 1) ∧
    (s.finalized = true → s.keyEvents = []) ∧
    ∀ before after, s.log = before ++ .finished :: after →
      ∀ c ∈ queuedCopies before, ∀ dialog, .forwarded dialog c ∉ after := by
  obtain ⟨hs, hk, hpressed⟩ := run_keys start_accounted rfl h
  have hnodup : ((queuedCopies s.log).map KeyCopy.copy).Nodup := by
    rw [hs.numbers]
    exact List.nodup_range
  refine ⟨hpressed, fun e t ht => forwardedKeys_move hk (keyMove_step ht), hnodup, fun c hc => ?_,
    finalized_keys (System.reachable_run (.start rfl) h),
    fun before after hsplit c hc => (hs.apart before after hsplit c hc).2⟩
  have hlt : c.copy < s.nextCopy := by
    rw [← List.mem_range, ← hs.numbers]
    exact List.mem_map_of_mem hc
  have hmem : c.copy ∈ s.keyEvents.map KeyCopy.copy ↔ c ∈ s.keyEvents := by
    refine ⟨fun hn => ?_, List.mem_map_of_mem⟩
    obtain ⟨c', hc', hcopy⟩ := List.mem_map.1 hn
    rwa [← List.inj_on_of_nodup_map hnodup (hs.listed c' hc') hc hcopy]
  rw [hs.freed]
  simp only [hlt, hmem, true_and]
  by_cases hin : c ∈ s.keyEvents <;> simp [hin]

/- Escape, a, Tab and b before the dialog is up; c while it is up; then it is cancelled. -/
def hasty : List KeyEvent :=
  let key (keyval : UInt32) : KeyEvent := .keyPress ⟨keyval, 9, 0⟩ true
  [key 0xff1b, key 0x61, .popupDialogIdle (.spawned 7 (by decide)), key 0xff09, key 0x62,
    .lockCommandWatch 2 ⟨true, false, .normal "WINDOW ID= 4660\n".toList⟩, .lockSocketShow, key 0x63,
    .lockCommandWatch 2 ⟨true, false, .normal "RESPONSE=CANCEL\n".toList⟩]

theorem typed_ahead_hasty : ∃ s, keyWindow.run {} hasty = some s ∧
    (forwardedKeys s.log).map GdkEventKey.keyval = [0x61, 0x62] ∧ (queuedCopies s.log).length = 3 ∧
    ∀ c ∈ queuedCopies s.log, s.log.count (.freed c.copy) = 1 := by
  let s := (keyWindow.run {} hasty).get (by decide +kernel)
  have hrun : keyWindow.run {} hasty = some s := by simp [s]
  have hempty : s.keyEvents = [] := by decide +kernel
  refine ⟨s, hrun, by decide +kernel, by decide +kernel, fun c hc => ?_⟩
  have hfreed := (typed_ahead hrun).2.2.2.1 c hc
  rwa [if_neg (by simp [hempty])] at hfreed

end KeyWindow
end MateScreensaver
