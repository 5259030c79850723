import Mathlib.Data.List.Nodup
import MateScreensaver.Lib.Runs
import MateScreensaver.Slideshow

/-!
The main loop and the load thread of the slideshow, in any interleaving. What each does
to a queue between taking and giving back its lock is one step or several.
-/

namespace MateScreensaver
open Runs
namespace Slideshow

/- op_load_image holds the lock of the results from the end of the load on. -/
def Loader.holdsLock : Loader → Bool
  | .waiting | .loading _ => false
  | .locked _ | .pushed | .sourced _ | .noted => true

inductive Event
  | loadTimer (k : ℕ)
  | clearUpdateId
  | pullResults (k : ℕ)
  | pullNext
  | fadeTick (elapsed : ℚ≥0)
  | popOp
  | loaded (hasImage : Bool)
  | pushResult
  | addPull
  | setPullId
  | unlockResults

namespace GSTESlideshow

def lockFree (s : GSTESlideshow) : Bool := s.mainLoop ≠ .pulling && !s.loader.holdsLock

/- The first result has to be there. -/
def pullFirst (s : GSTESlideshow) : GSTESlideshow :=
  match s.resultsQ with
  | [] => { s with assertFailed := true }
  | result :: rest => { s with resultsQ := rest }.processNewPixbuf result

/- What can happen next: the main loop in its callbacks, from gste-slideshow.c:109 and
gste-slideshow.c:427, and the thread in gste-slideshow.c:661. -/
def next (s : GSTESlideshow) : Event → Option GSTESlideshow
  | .loadTimer k =>
    if s.mainLoop = .idle ∧ k < s.timers.length then some { s with timers := s.timers.eraseIdx k }.pushLoadImage
    else none
  | .clearUpdateId =>
    if s.mainLoop = .pushed then some { s with updateImageId := 0, mainLoop := .idle } else none
  | .pullResults k =>
    if s.mainLoop = .idle ∧ k < s.pulls.length ∧ s.lockFree = true then
      some { s with pulls := s.pulls.eraseIdx k, mainLoop := .pulling }.pullFirst
    else none
  | .pullNext =>
    if s.mainLoop = .pulling then
      match s.resultsQ with
      | [] => some { s with resultsPullId := 0, mainLoop := .idle }
      | result :: rest => some ({ s with resultsQ := rest }.processNewPixbuf result)
    else none
  | .fadeTick elapsed => if s.mainLoop = .idle then some (s.drawIter elapsed) else none
  | .popOp =>
    match s.loader, s.opQ with
    | .waiting, number :: rest => some { s with loader := .loading number, opQ := rest }
    | _, _ => none
  | .loaded hasImage =>
    match s.loader with
    | .loading number => if s.lockFree then some { s with loader := .locked ⟨number, hasImage⟩ } else none
    | _ => none
  | .pushResult =>
    match s.loader with
    | .locked result => some { s with loader := .pushed, resultsQ := s.resultsQ ++ [result] }
    | _ => none
  | .addPull =>
    match s.loader with
    | .pushed =>
      if s.resultsPullId = 0 then
        some { s with
          loader := .sourced s.nextSource
          pulls := s.pulls ++ [s.nextSource]
          nextSource := s.nextSource + 1 }
      else some { s with loader := .noted }
    | _ => none
  | .setPullId =>
    match s.loader with
    | .sourced id => some { s with loader := .noted, resultsPullId := id }
    | _ => none
  | .unlockResults =>
    match s.loader with
    | .noted => some { s with loader := .waiting }
    | _ => none

/- The slideshow when it has been shown. -/
def shown : GSTESlideshow := ({} : GSTESlideshow).startNewLoad 10

def pipeline : System GSTESlideshow Event where
  init s := s = shown
  next := next

end GSTESlideshow

/-! ### Where the work is -/

/- How many loads are under way in the thread. -/
def Loader.loads : Loader → List ℕ
  | .loading number => [number]
  | .locked result => [result.number]
  | .waiting | .pushed | .sourced _ | .noted => []

/-- One thing is going on: a timer, a load that is queued or under way, a result, or a fade.
An observer who could take the lock sees an id of the pull exactly when there are results;
they are processed once, and none comes while an image is fading. -/
structure GSTESlideshow.OneAtATime (s : GSTESlideshow) : Prop where
  one : s.timers.length + (s.opQ.length + s.loader.loads.length) + s.resultsQ.length + s.pat2.toList.length = 1
  pullId : s.lockFree = true → (s.resultsPullId ≠ 0 ↔ s.resultsQ ≠ [])
  asserted : s.assertFailed = false
  once : s.processed.Nodup
  kept : s.replaced = false

/- In the hand of the main loop only within a callback. -/
inductive Place
  | hand
  | timer
  | queued (number : ℕ)
  | loading (number : ℕ)
  | result (result : OpResult)
  | fade (image : ℕ)
deriving DecidableEq

namespace Place

@[simp] def timers : Place → ℕ
  | .timer => 1
  | _ => 0

@[simp] def ops : Place → List ℕ
  | .queued number => [number]
  | _ => []

@[simp] def loads : Place → List ℕ
  | .loading number => [number]
  | _ => []

@[simp] def results : Place → List OpResult
  | .result r => [r]
  | _ => []

@[simp] def fades : Place → Option ℕ
  | .fade image => some image
  | _ => none

/- A load between its timer and its processing. -/
@[simp] def pending : Place → Option ℕ
  | .queued number | .loading number => some number
  | .result r => some r.number
  | .hand | .timer | .fade _ => none

end Place

/- The work goes round. -/
inductive Place.Moves : Place → Place → Prop
  | stays (p : Place) : Moves p p
  | pushed (number : ℕ) : Moves .timer (.queued number)
  | popped (number : ℕ) : Moves (.queued number) (.loading number)
  | loaded (result : OpResult) : Moves (.loading result.number) (.result result)
  | shown (result : OpResult) : Moves (.result result) (.fade result.number)
  | failed (result : OpResult) : Moves (.result result) .timer
  | faded (image : ℕ) : Moves (.fade image) .timer

/- The state when the work is at this place: what the two threads have in hand there, and
which of their ids are set. -/
structure GSTESlideshow.At (p : Place) (s : GSTESlideshow) : Prop where
  timers : s.timers.length = p.timers
  opQ : s.opQ = p.ops
  loads : s.loader.loads = p.loads
  resultsQ : s.resultsQ = p.results
  pat2 : s.pat2 = p.fades
  updateId : s.updateImageId ≠ 0 ↔ p = .timer ∨ s.mainLoop = .pushed
  pushed : s.mainLoop = .pushed → p.pending.isSome = true
  pulling : s.mainLoop = .pulling → p.pending = none
  holding : s.loader = .pushed ∨ (∃ id, s.loader = .sourced id) ∨ s.loader = .noted → p.results ≠ []
  pulls : s.pulls.length = if s.loader = .pushed then 0 else p.results.length
  pullId : s.resultsPullId ≠ 0 ↔
    s.mainLoop = .pulling ∨ (p.results ≠ [] ∧ s.loader ≠ .pushed ∧ ∀ id, s.loader ≠ .sourced id)
  sources : s.nextSource ≠ 0 ∧ ∀ id, s.loader = .sourced id → id ≠ 0
  fresh : ∀ n ∈ p.pending, n < s.nextOp ∧ n ∉ s.processed
  processed : (∀ n ∈ s.processed, n < s.nextOp) ∧ s.processed.Nodup
  unharmed : s.assertFailed = false ∧ s.replaced = false

namespace GSTESlideshow
variable {p : Place} {s t : GSTESlideshow}

theorem at_shown : At .timer shown where
  timers := rfl
  opQ := rfl
  loads := rfl
  resultsQ := rfl
  pat2 := rfl
  updateId := by decide
  pushed := by decide
  pulling := by decide
  holding := by simp [shown, startNewLoad]
  pulls := rfl
  pullId := by simp [shown, startNewLoad, Place.results]
  sources := by simp [shown, startNewLoad]
  fresh := by simp [Place.pending]
  processed := by simp [shown, startNewLoad]
  unharmed := ⟨rfl, rfl⟩

theorem At.lengths (h : At p s) (hp : p ≠ .hand) :
    s.timers.length + (s.opQ.length + s.loader.loads.length) + s.resultsQ.length + s.pat2.toList.length = 1 := by
  rw [h.timers, h.opQ, h.loads, h.resultsQ, h.pat2]
  cases p with
  | hand => exact absurd rfl hp
  | _ => rfl

theorem At.oneAtATime (h : At p s) (hp : p ≠ .hand) : s.OneAtATime where
  one := h.lengths hp
  pullId := by
    intro hfree
    simp only [lockFree, Bool.and_eq_true, decide_eq_true_eq, Bool.not_eq_true'] at hfree
    obtain ⟨hmain, hloader⟩ := hfree
    rw [h.pullId, h.resultsQ]
    constructor
    · rintro (hpulling | ⟨hresults, -⟩)
      · exact absurd hpulling hmain
      · exact hresults
    · intro hresults
      refine .inr ⟨hresults, ?_, ?_⟩
      · intro heq
        rw [heq] at hloader
        cases hloader
      · intro id heq
        rw [heq] at hloader
        cases hloader
  asserted := h.unharmed.1
  once := h.processed.2
  kept := h.unharmed.2

/-! ### What each callback does with the work -/

/- Nothing but the fade is changed. -/
def Repainted (s u : GSTESlideshow) : Prop :=
  ∃ alpha2 fadeTicks fadeDisabled alphas dividedByZero, u = { s with
    alpha2 := alpha2, fadeTicks := fadeTicks, fadeDisabled := fadeDisabled, alphas := alphas
    dividedByZero := dividedByZero }

theorem Repainted.trans {u : GSTESlideshow} (h : Repainted s t) (h' : Repainted t u) : Repainted s u := by
  obtain ⟨_, _, _, _, _, rfl⟩ := h
  obtain ⟨_, _, _, _, _, rfl⟩ := h'
  exact ⟨_, _, _, _, _, rfl⟩

theorem Repainted.at (hu : Repainted s t) (h : At p s) : At p t := by
  obtain ⟨_, _, _, _, _, rfl⟩ := hu
  exact ⟨h.timers, h.opQ, h.loads, h.resultsQ, h.pat2, h.updateId, h.pushed, h.pulling, h.holding, h.pulls, h.pullId,
    h.sources, h.fresh, h.processed, h.unharmed⟩

theorem repainted_updateDisplay (s : GSTESlideshow) : Repainted s s.updateDisplay := by
  unfold updateDisplay
  split <;> exact ⟨_, _, _, _, _, rfl⟩

theorem repainted_setAlpha (s : GSTESlideshow) (oldOpacity newOpacity : ℚ) : Repainted s (s.setAlpha oldOpacity newOpacity) := by
  unfold setAlpha
  split <;> exact ⟨_, _, _, _, _, rfl⟩

theorem repainted_paintTick (s : GSTESlideshow) : Repainted s s.paintTick := by
  have htick : Repainted s { s with fadeTicks := s.fadeTicks + 1 } := ⟨_, _, _, _, _, rfl⟩
  exact (htick.trans (repainted_setAlpha _ _ _)).trans (repainted_updateDisplay _)

theorem repainted_checkFps (s : GSTESlideshow) (elapsed : ℚ≥0) : Repainted s (s.checkFps elapsed) := by
  unfold checkFps
  split <;> exact ⟨_, _, _, _, _, rfl⟩

/- A call of draw_iter changes the fade only, or ends it. -/
theorem drawIter_cases (s : GSTESlideshow) (elapsed : ℚ≥0) (hpat : s.pat2.isSome = true) :
    ∃ u, Repainted s u ∧ (s.drawIter elapsed = u ∨ s.drawIter elapsed = u.finishFade) := by
  rw [drawIter, if_pos hpat]
  by_cases hdisabled : s.fadeDisabled = true
  · have hcover : Repainted s { s with alpha2 := 1 } := ⟨_, _, _, _, _, rfl⟩
    exact ⟨_, hcover.trans (repainted_updateDisplay _), .inr (if_pos hdisabled)⟩
  · refine ⟨_, (repainted_paintTick s).trans (repainted_checkFps _ elapsed), ?_⟩
    rw [if_neg hdisabled]
    dsimp only
    split
    · exact .inr rfl
    · exact .inl rfl

theorem At.startNewLoad (h : At .hand s) (hmain : s.mainLoop ≠ .pushed) (timeout : ℕ) : At .timer (s.startNewLoad timeout) := by
  have hid : s.updateImageId = 0 := by
    by_contra hne
    rcases h.updateId.1 hne with hp | hp
    · cases hp
    · exact hmain hp
  have htimers : s.timers = [] := List.length_eq_zero_iff.1 h.timers
  rw [GSTESlideshow.startNewLoad, if_pos hid, htimers]
  exact ⟨rfl, h.opQ, h.loads, h.resultsQ, h.pat2, ⟨fun _ => .inl rfl, fun _ => h.sources.1⟩, fun hp => absurd hp hmain,
    h.pulling, h.holding, h.pulls, h.pullId, ⟨Nat.succ_ne_zero _, h.sources.2⟩, h.fresh, h.processed, h.unharmed⟩

/- No image is fading, so that none is replaced. -/
theorem At.startFade (h : At .hand s) (hmain : s.mainLoop ≠ .pushed) (image : ℕ) : At (.fade image) (s.startFade image) := by
  have hpat : s.pat2.isSome = false := by rw [h.pat2]; rfl
  refine ⟨h.timers, h.opQ, h.loads, h.resultsQ, rfl, ?_, fun hp => absurd hp hmain, h.pulling, h.holding, h.pulls, h.pullId,
    h.sources, h.fresh, h.processed, h.unharmed.1, ?_⟩
  · exact h.updateId.trans (by simp [GSTESlideshow.startFade])
  · rw [GSTESlideshow.startFade, hpat, Bool.or_false]
    exact h.unharmed.2

/- The end of a fade starts the next load. -/
theorem At.finishFade {image : ℕ} (h : At (.fade image) s) (hmain : s.mainLoop ≠ .pushed) : At .timer s.finishFade := by
  have hid : s.updateImageId ≠ 0 ↔ Place.hand = .timer ∨ s.mainLoop = .pushed := h.updateId.trans (by simp)
  have hhand : At .hand { s with pat1 := s.pat2, pat2 := none } :=
    ⟨h.timers, h.opQ, h.loads, h.resultsQ, rfl, hid, fun hp => absurd hp hmain, h.pulling, h.holding, h.pulls, h.pullId,
      h.sources, h.fresh, h.processed, h.unharmed⟩
  exact hhand.startNewLoad hmain imageLoadTimeout

theorem At.drawIter (h : At p s) (hp : p ≠ .hand) (hmain : s.mainLoop = .idle) (elapsed : ℚ≥0) :
    ∃ q, p.Moves q ∧ q ≠ .hand ∧ At q (s.drawIter elapsed) := by
  have hnot : s.mainLoop ≠ .pushed := by rw [hmain]; decide
  cases hpat : s.pat2.isSome with
  | false =>
    refine ⟨p, .stays p, hp, ?_⟩
    rwa [GSTESlideshow.drawIter, if_neg (by rw [hpat]; decide)]
  | true =>
    obtain ⟨image, rfl⟩ : ∃ image, p = .fade image := by
      rw [h.pat2] at hpat
      cases p with
      | fade image => exact ⟨image, rfl⟩
      | _ => cases hpat
    obtain ⟨u, hrepainted, hu⟩ := drawIter_cases s elapsed hpat
    have hmainu : u.mainLoop = s.mainLoop := by
      obtain ⟨_, _, _, _, _, rfl⟩ := hrepainted
      rfl
    rcases hu with hu | hu
    · exact ⟨.fade image, .stays _, by simp, hu ▸ hrepainted.at h⟩
    · exact ⟨.timer, .faded image, by simp, hu ▸ (hrepainted.at h).finishFade (hmainu ▸ hnot)⟩

/- A result of a load that was in hand. -/
theorem At.processNewPixbuf {r : OpResult} (h : At .hand s) (hmain : s.mainLoop ≠ .pushed) (hlt : r.number < s.nextOp)
    (hnew : r.number ∉ s.processed) : ∃ q, Place.Moves (.result r) q ∧ q ≠ .hand ∧ At q (s.processNewPixbuf r) := by
  have hhand : At .hand { s with processed := s.processed ++ [r.number] } := by
    refine ⟨h.timers, h.opQ, h.loads, h.resultsQ, h.pat2, h.updateId, h.pushed, h.pulling, h.holding, h.pulls, h.pullId,
      h.sources, (fun n hn => by cases hn), ⟨?_, ?_⟩, h.unharmed⟩
    · intro n hn
      rcases List.mem_append.1 hn with hn | hn
      · exact h.processed.1 n hn
      · rwa [List.mem_singleton.1 hn]
    · exact List.nodup_append.2 ⟨h.processed.2, List.nodup_singleton _, fun a ha b hb => by
        rintro rfl
        exact hnew (List.mem_singleton.1 hb ▸ ha)⟩
  unfold GSTESlideshow.processNewPixbuf
  cases r.hasImage with
  | true => exact ⟨_, .shown r, by simp, hhand.startFade hmain r.number⟩
  | false => exact ⟨_, .failed r, by simp, hhand.startNewLoad hmain 10⟩

/-! ### What each step does -/

/- The work is at the timer when one is pending. -/
theorem At.loadTimer (h : At p s) {k : ℕ} (hk : k < s.timers.length) (hidle : s.mainLoop = .idle) :
    p = .timer ∧ At (.queued s.nextOp) { s with timers := s.timers.eraseIdx k }.pushLoadImage := by
  have hlength := h.timers
  obtain rfl : p = .timer := by
    have hpos := hk
    rw [hlength] at hpos
    cases p with
    | timer => rfl
    | _ => exact absurd hpos (Nat.not_lt_zero k)
  have hopQ : s.opQ = [] := h.opQ
  have hpulls : s.resultsPullId ≠ 0 ↔ False := h.pullId.trans (by simp [hidle])
  refine ⟨rfl, ?_, ?_, h.loads, h.resultsQ, h.pat2, ?_, fun _ => rfl, (fun hp => by cases hp), h.holding, h.pulls, ?_, h.sources,
    ?_, ⟨fun n hn => (h.processed.1 n hn).trans (Nat.lt_succ_self _), h.processed.2⟩, h.unharmed⟩
  · exact (List.length_eraseIdx_of_lt hk).trans (by rw [hlength]; rfl)
  · simp [pushLoadImage, hopQ]
  · exact ⟨fun _ => .inr rfl, fun _ => h.updateId.2 (.inl rfl)⟩
  · exact hpulls.trans (by simp [pushLoadImage])
  · rintro n ⟨⟩
    exact ⟨Nat.lt_succ_self _, fun hmem => Nat.lt_irrefl _ (h.processed.1 _ hmem)⟩

theorem At.clearUpdateId (h : At p s) (hmain : s.mainLoop = .pushed) :
    At p { s with updateImageId := 0, mainLoop := .idle } := by
  have hpending := h.pushed hmain
  have hpull : s.resultsPullId ≠ 0 ↔ MainLoop.idle = .pulling ∨
      (p.results ≠ [] ∧ s.loader ≠ .pushed ∧ ∀ id, s.loader ≠ .sourced id) := h.pullId.trans (by simp [hmain])
  refine ⟨h.timers, h.opQ, h.loads, h.resultsQ, h.pat2, ?_, (fun hp => by cases hp), (fun hp => by cases hp), h.holding, h.pulls,
    hpull, h.sources, h.fresh, h.processed, h.unharmed⟩
  constructor
  · exact fun hne => absurd rfl hne
  · rintro (rfl | hp)
    · cases hpending
    · cases hp

theorem Place.eq_result (h : p.results ≠ []) : ∃ r, p = .result r := by
  cases p with
  | result r => exact ⟨r, rfl⟩
  | _ => exact absurd rfl h

theorem Loader.eq_waiting {l : Loader} (hlock : l.holdsLock = false) (hloads : l.loads = []) : l = .waiting := by
  cases l with
  | waiting => rfl
  | loading number => cases hloads
  | _ => cases hlock

/- With the lock free a pull is pending only for a result. -/
theorem At.pullFirst (h : At p s) {k : ℕ} (hk : k < s.pulls.length) (hidle : s.mainLoop = .idle) (hfree : s.lockFree = true) :
    ∃ q, p.Moves q ∧ q ≠ .hand ∧ At q { s with pulls := s.pulls.eraseIdx k, mainLoop := .pulling }.pullFirst := by
  have hlength := h.pulls
  have hpushed : s.loader ≠ .pushed := by
    intro heq
    rw [if_pos heq] at hlength
    omega
  rw [if_neg hpushed] at hlength
  obtain ⟨r, rfl⟩ := Place.eq_result (List.ne_nil_of_length_pos (by omega : 0 < p.results.length))
  have hlock : s.loader.holdsLock = false := by
    simp only [lockFree, Bool.and_eq_true, Bool.not_eq_true'] at hfree
    exact hfree.2
  have hwaiting := Loader.eq_waiting hlock h.loads
  have hid : s.updateImageId ≠ 0 ↔ Place.hand = .timer ∨ MainLoop.pulling = .pushed := h.updateId.trans (by simp [hidle])
  have hpull : s.resultsPullId ≠ 0 := h.pullId.2 (.inr ⟨by simp, hpushed, by simp [hwaiting]⟩)
  have herase : (s.pulls.eraseIdx k).length = if s.loader = .pushed then 0 else Place.hand.results.length := by
    rw [List.length_eraseIdx_of_lt hk, hlength, if_neg hpushed]
    rfl
  have hhand : At .hand { s with pulls := s.pulls.eraseIdx k, mainLoop := .pulling, resultsQ := [] } :=
    ⟨h.timers, h.opQ, h.loads, rfl, h.pat2, hid, (fun hp => by cases hp), fun _ => rfl, by simp [hwaiting], herase,
      ⟨fun _ => .inl rfl, fun _ => hpull⟩, h.sources, (fun n hn => by cases hn), h.processed, h.unharmed⟩
  obtain ⟨hlt, hnew⟩ := h.fresh r.number rfl
  have hresults : s.resultsQ = [r] := h.resultsQ
  have hfirst : { s with pulls := s.pulls.eraseIdx k, mainLoop := .pulling }.pullFirst =
      { s with pulls := s.pulls.eraseIdx k, mainLoop := .pulling, resultsQ := [] }.processNewPixbuf r := by
    simp only [GSTESlideshow.pullFirst, hresults]
  rw [hfirst]
  have hmain : MainLoop.pulling ≠ .pushed := by decide
  exact hhand.processNewPixbuf hmain hlt hnew

theorem At.pullNext (h : At p s) (hmain : s.mainLoop = .pulling) :
    s.resultsQ = [] ∧ At p { s with resultsPullId := 0, mainLoop := .idle } := by
  have hnone := h.pulling hmain
  have hresults : p.results = [] := by
    cases p with
    | result r => cases hnone
    | _ => rfl
  have hid : s.updateImageId ≠ 0 ↔ p = .timer ∨ MainLoop.idle = .pushed := h.updateId.trans (by simp [hmain])
  refine ⟨h.resultsQ.trans hresults, h.timers, h.opQ, h.loads, h.resultsQ, h.pat2, hid, (fun hp => by cases hp),
    (fun hp => by cases hp), h.holding, h.pulls, ?_, h.sources, h.fresh, h.processed, h.unharmed⟩
  constructor
  · exact fun hne => absurd rfl hne
  · rintro (hp | ⟨hne, -⟩)
    · cases hp
    · exact absurd hresults hne

theorem At.popOp (h : At p s) {number : ℕ} {rest : List ℕ} (hloader : s.loader = .waiting) (hop : s.opQ = number :: rest) :
    p = .queued number ∧ At (.loading number) { s with loader := .loading number, opQ := rest } := by
  have hops := h.opQ.symm.trans hop
  cases p with
  | queued n =>
    cases hops
    have hlength := h.pulls
    have hpull : s.resultsPullId ≠ 0 ↔ s.mainLoop = .pulling := h.pullId.trans (by simp)
    refine ⟨rfl, h.timers, rfl, rfl, h.resultsQ, h.pat2, ?_, fun _ => rfl, h.pulling, by simp, ?_, ?_, ?_, h.fresh, h.processed,
      h.unharmed⟩
    · exact h.updateId.trans (by simp)
    · rw [if_neg (by simp [hloader])] at hlength
      exact hlength.trans (by simp)
    · exact hpull.trans (by simp)
    · exact ⟨h.sources.1, by simp⟩
  | _ => cases hops

theorem At.loaded (h : At p s) {number : ℕ} (hloader : s.loader = .loading number) (hasImage : Bool) :
    At p { s with loader := .locked ⟨number, hasImage⟩ } := by
  have hloads := h.loads
  have hlength := h.pulls
  rw [hloader] at hloads
  rw [if_neg (by simp [hloader])] at hlength
  refine ⟨h.timers, h.opQ, hloads, h.resultsQ, h.pat2, h.updateId, h.pushed, h.pulling, by simp, ?_, ?_, ?_, h.fresh, h.processed,
    h.unharmed⟩
  · exact hlength.trans (by simp)
  · exact h.pullId.trans (by simp [hloader])
  · exact ⟨h.sources.1, by simp⟩

theorem At.pushResult (h : At p s) {r : OpResult} (hloader : s.loader = .locked r) :
    p = .loading r.number ∧ At (.result r) { s with loader := .pushed, resultsQ := s.resultsQ ++ [r] } := by
  have hloads := h.loads
  rw [hloader] at hloads
  cases p with
  | loading n =>
    cases hloads
    have hlength := h.pulls
    have hresults : s.resultsQ = [] := h.resultsQ
    rw [if_neg (by simp [hloader])] at hlength
    refine ⟨rfl, h.timers, h.opQ, rfl, by simp [hresults], h.pat2, ?_, fun _ => rfl, ?_, by simp, hlength, ?_, ?_, h.fresh,
      h.processed, h.unharmed⟩
    · exact h.updateId.trans (by simp)
    · exact fun hp => absurd (h.pulling hp) (by simp)
    · exact h.pullId.trans (by simp)
    · exact ⟨h.sources.1, by simp⟩
  | _ => cases hloads

theorem At.addPull (h : At p s) (hloader : s.loader = .pushed) :
    s.resultsPullId = 0 ∧ At p { s with
      loader := .sourced s.nextSource, pulls := s.pulls ++ [s.nextSource], nextSource := s.nextSource + 1 } := by
  obtain ⟨r, rfl⟩ := Place.eq_result (h.holding (.inl hloader))
  have hmain : s.mainLoop ≠ .pulling := fun hp => absurd (h.pulling hp) (by simp)
  have hzero : s.resultsPullId = 0 := by
    by_contra hne
    rcases h.pullId.1 hne with hp | ⟨-, hp, -⟩
    · exact hmain hp
    · exact hp hloader
  have hlength := h.pulls
  rw [if_pos hloader] at hlength
  have hloads : [] = Place.loads (.result r) := rfl
  refine ⟨hzero, h.timers, h.opQ, hloads, h.resultsQ, h.pat2, h.updateId, h.pushed, h.pulling, by simp, ?_, ?_, ?_, h.fresh,
    h.processed, h.unharmed⟩
  · simp [hlength]
  · simp [hzero, hmain]
  · exact ⟨Nat.succ_ne_zero _, by rintro id ⟨⟩; exact h.sources.1⟩

theorem At.setPullId (h : At p s) {id : ℕ} (hloader : s.loader = .sourced id) :
    At p { s with loader := .noted, resultsPullId := id } := by
  have hresults := h.holding (.inr (.inl ⟨id, hloader⟩))
  have hlength := h.pulls
  have hloads := h.loads
  rw [hloader] at hloads
  rw [if_neg (by simp [hloader])] at hlength
  refine ⟨h.timers, h.opQ, hloads, h.resultsQ, h.pat2, h.updateId, h.pushed, h.pulling, fun _ => hresults, ?_, ?_, ?_, h.fresh,
    h.processed, h.unharmed⟩
  · exact hlength.trans (by simp)
  · exact ⟨fun _ => .inr ⟨hresults, by simp, by simp⟩, fun _ => h.sources.2 id hloader⟩
  · exact ⟨h.sources.1, by simp⟩

theorem At.unlockResults (h : At p s) (hloader : s.loader = .noted) : At p { s with loader := .waiting } := by
  have hlength := h.pulls
  have hloads := h.loads
  rw [hloader] at hloads
  rw [if_neg (by simp [hloader])] at hlength
  refine ⟨h.timers, h.opQ, hloads, h.resultsQ, h.pat2, h.updateId, h.pushed, h.pulling, by simp, ?_, ?_, ?_, h.fresh,
    h.processed, h.unharmed⟩
  · exact hlength.trans (by simp)
  · exact h.pullId.trans (by simp [hloader])
  · exact ⟨h.sources.1, by simp⟩

/- Every step leaves the work where it is or moves it on. -/
theorem At.step (h : At p s) (hp : p ≠ .hand) {e : Event} (hn : s.next e = some t) : ∃ q, p.Moves q ∧ q ≠ .hand ∧ At q t := by
  cases e with
  | loadTimer k =>
    obtain ⟨⟨hidle, hk⟩, heq⟩ := Option.ite_none_right_eq_some.1 hn
    cases heq
    obtain ⟨rfl, ht⟩ := h.loadTimer hk hidle
    exact ⟨_, .pushed _, by simp, ht⟩
  | clearUpdateId =>
    obtain ⟨hmain, heq⟩ := Option.ite_none_right_eq_some.1 hn
    cases heq
    exact ⟨p, .stays p, hp, h.clearUpdateId hmain⟩
  | pullResults k =>
    obtain ⟨⟨hidle, hk, hfree⟩, heq⟩ := Option.ite_none_right_eq_some.1 hn
    cases heq
    exact h.pullFirst hk hidle hfree
  | pullNext =>
    obtain ⟨hmain, heq⟩ := Option.ite_none_right_eq_some.1 hn
    obtain ⟨hempty, ht⟩ := h.pullNext hmain
    split at heq
    case h_1 =>
      cases heq
      exact ⟨p, .stays p, hp, ht⟩
    case h_2 result rest hresults => cases hempty.symm.trans hresults
  | fadeTick elapsed =>
    obtain ⟨hidle, heq⟩ := Option.ite_none_right_eq_some.1 hn
    cases heq
    exact h.drawIter hp hidle elapsed
  | popOp =>
    simp only [next] at hn
    split at hn
    case h_1 number rest hloader hop =>
      cases hn
      obtain ⟨rfl, ht⟩ := h.popOp hloader hop
      exact ⟨_, .popped number, by simp, ht⟩
    case h_2 => cases hn
  | loaded hasImage =>
    simp only [next] at hn
    split at hn
    case h_1 number hloader =>
      obtain ⟨-, heq⟩ := Option.ite_none_right_eq_some.1 hn
      cases heq
      exact ⟨p, .stays p, hp, h.loaded hloader hasImage⟩
    case h_2 => cases hn
  | pushResult =>
    simp only [next] at hn
    split at hn
    case h_1 r hloader =>
      cases hn
      obtain ⟨rfl, ht⟩ := h.pushResult hloader
      exact ⟨_, .loaded r, by simp, ht⟩
    case h_2 => cases hn
  | addPull =>
    simp only [next] at hn
    split at hn
    case h_1 hloader =>
      obtain ⟨hzero, ht⟩ := h.addPull hloader
      rw [if_pos hzero] at hn
      cases hn
      exact ⟨p, .stays p, hp, ht⟩
    case h_2 => cases hn
  | setPullId =>
    simp only [next] at hn
    split at hn
    case h_1 id hloader =>
      cases hn
      exact ⟨p, .stays p, hp, h.setPullId hloader⟩
    case h_2 => cases hn
  | unlockResults =>
    simp only [next] at hn
    split at hn
    case h_1 hloader =>
      cases hn
      exact ⟨p, .stays p, hp, h.unlockResults hloader⟩
    case h_2 => cases hn

theorem at_invariant : pipeline.Invariant fun s => ∃ p, p ≠ Place.hand ∧ At p s where
  start := by
    rintro s rfl
    exact ⟨.timer, by simp, at_shown⟩
  step := by
    rintro s e t ⟨p, hp, h⟩ hn
    obtain ⟨q, -, hq, ht⟩ := h.step hp hn
    exact ⟨q, hq, ht⟩

/- The two threads together do nothing but pass the work round. -/
theorem pipeline_moves (hr : pipeline.Reachable s) {e : Event} (hn : s.next e = some t) :
    ∃ p q, At p s ∧ p.Moves q ∧ At q t := by
  obtain ⟨p, hp, h⟩ := at_invariant.reachable hr
  obtain ⟨q, hmoves, -, ht⟩ := h.step hp hn
  exact ⟨p, q, h, hmoves, ht⟩

/-- In any interleaving, however the loads end and whenever the fade is disabled. -/
theorem pipeline_oneAtATime (es : List Event) : pipeline.Always OneAtATime shown es := by
  refine ⟨at_shown.oneAtATime (by simp), System.each_of_step (I := fun s => ∃ p, p ≠ Place.hand ∧ At p s) ?_
    ⟨.timer, by simp, at_shown⟩ es⟩
  rintro s e t ⟨p, hp, h⟩ hn
  obtain ⟨q, -, hq, ht⟩ := h.step hp hn
  exact ⟨ht.oneAtATime hq, q, hq, ht⟩

end GSTESlideshow

end Slideshow
end MateScreensaver
