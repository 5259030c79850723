import Mathlib.Algebra.Order.Field.Rat
import Mathlib.Data.NNRat.Defs

/-!
The slideshow saver (gste-slideshow.c): one image is faded over the other, while a thread
loads the next. Images are known by the number of the load they come from; the fade is in
exact rationals.
-/

namespace MateScreensaver
namespace Slideshow

def nFadeTicks : ℤ := 10
def minimumFps : ℚ := 3
def imageLoadTimeout : ℕ := 10000

/- A source of the main loop that will call push_load_image_func. -/
structure LoadTimer where
  id : ℕ
  timeout : ℕ
deriving DecidableEq

/- A load that has ended; without an image the pixbuf is NULL. -/
structure OpResult where
  number : ℕ
  hasImage : Bool
deriving DecidableEq

/- The callback that the main loop is in: push_load_image_func after its push, or
results_pull_func. -/
inductive MainLoop
  | idle
  | pushed
  | pulling
deriving DecidableEq

/- Where the thread is: op_load_image from the load on. -/
inductive Loader
  | waiting
  | loading (number : ℕ)
  | locked (result : OpResult)
  | pushed
  | sourced (id : ℕ)
  | noted
deriving DecidableEq

/-- GSTESlideshowPrivate, with the sources that are pending and where the two threads are.
The alphas are those that pat2 has been painted with since its fade began. -/
structure GSTESlideshow where
  pat1 : Option ℕ := none
  pat2 : Option ℕ := none
  alpha2 : ℚ := 0
  fadeTicks : ℤ := 0
  fadeDisabled : Bool := false
  opQ : List ℕ := []
  resultsQ : List OpResult := []
  resultsPullId : ℕ := 0
  updateImageId : ℕ := 0
  timers : List LoadTimer := []
  pulls : List ℕ := []
  nextSource : ℕ := 1
  nextOp : ℕ := 0
  mainLoop : MainLoop := .idle
  loader : Loader := .waiting
  alphas : List ℚ := []
  processed : List ℕ := []
  replaced : Bool := false
  assertFailed : Bool := false
  dividedByZero : Bool := false

namespace GSTESlideshow

/- gste-slideshow.c:129 -/
def startNewLoad (s : GSTESlideshow) (timeout : ℕ) : GSTESlideshow :=
  if s.updateImageId = 0 then
    { s with
      updateImageId := s.nextSource
      timers := s.timers ++ [⟨s.nextSource, timeout⟩]
      nextSource := s.nextSource + 1 }
  else s

/- gste-slideshow.c:143; an image that is still fading is replaced. -/
def startFade (s : GSTESlideshow) (image : ℕ) : GSTESlideshow :=
  { s with
    pat2 := some image
    fadeTicks := 0
    alphas := []
    replaced := s.replaced || s.pat2.isSome }

/- gste-slideshow.c:211 -/
def finishFade (s : GSTESlideshow) : GSTESlideshow :=
  { s with pat1 := s.pat2, pat2 := none }.startNewLoad imageLoadTimeout

/- gste-slideshow.c:229; the areas around the image are painted with the same alpha. -/
def updateDisplay (s : GSTESlideshow) : GSTESlideshow :=
  if s.pat2.isSome then { s with alphas := s.alphas ++ [s.alpha2] } else s

/- A rate over no time is infinite. -/
def isBelowMinimumFps (ticks : ℤ) (elapsed : ℚ≥0) : Bool :=
  elapsed ≠ 0 && (ticks : ℚ) / elapsed < minimumFps

/- The alpha with which an image of the old opacity gets the new one. -/
def setAlpha (s : GSTESlideshow) (oldOpacity newOpacity : ℚ) : GSTESlideshow :=
  if 1 - oldOpacity = 0 then { s with dividedByZero := true }
  else { s with alpha2 := 1 - (1 - newOpacity) / (1 - oldOpacity) }

/- One more tick of a fade, painted. -/
def paintTick (s : GSTESlideshow) : GSTESlideshow :=
  let s := { s with fadeTicks := s.fadeTicks + 1 }
  (s.setAlpha ((s.fadeTicks - 1) / nFadeTicks) (s.fadeTicks / nFadeTicks)).updateDisplay

/- The guard of the frame rate. -/
def checkFps (s : GSTESlideshow) (elapsed : ℚ≥0) : GSTESlideshow :=
  if isBelowMinimumFps s.fadeTicks elapsed then { s with fadeTicks := nFadeTicks - 1, fadeDisabled := true } else s

/- gste-slideshow.c:326 -/
def drawIter (s : GSTESlideshow) (elapsed : ℚ≥0) : GSTESlideshow :=
  if s.pat2.isSome then
    if s.fadeDisabled then { s with alpha2 := 1 }.updateDisplay.finishFade
    else
      let s := s.paintTick.checkFps elapsed
      if nFadeTicks ≤ s.fadeTicks then s.finishFade else s
  else s

/- gste-slideshow.c:391 -/
def processNewPixbuf (s : GSTESlideshow) (result : OpResult) : GSTESlideshow :=
  let s := { s with processed := s.processed ++ [result.number] }
  if result.hasImage then s.startFade result.number else s.startNewLoad 10

/- gste-slideshow.c:109, up to its push. -/
def pushLoadImage (s : GSTESlideshow) : GSTESlideshow :=
  { s with opQ := s.opQ ++ [s.nextOp], nextOp := s.nextOp + 1, mainLoop := .pushed }

/- How opaque the new image is over the old one. -/
def opacity (s : GSTESlideshow) : ℚ := s.alphas.foldl (fun o a => 1 - (1 - a) * (1 - o)) 0

end GSTESlideshow
end Slideshow
end MateScreensaver
