import Mathlib.Data.Int.Interval
import Mathlib.Data.List.Sort
import MateScreensaver.Lib.Bezier
import MateScreensaver.Lib.Pixels
import MateScreensaver.Popsquares
import MateScreensaver.Starfield

/-!
The pictures of the floaters saver (floaters.c), in exact rationals: they go along Bezier curves, are
painted from a cache with one entry for each size, and only what has changed is painted again.
-/

namespace MateScreensaver
open Runs

namespace Floaters
open Popsquares

def floaterMaxSize : ℚ := 128
def floaterMinSize : ℚ := 16
def optimalFrameRate : ℚ := 25
def gMinDouble : ℚ := 1 / 2 ^ 1022
def gPi : ℚ := 31415926535897932384626433832795028841971693993751 / 10 ^ 49
def gSqrt2 : ℚ := 14142135623730950488016887242096980785696718753769 / 10 ^ 49
def smallAngle : ℚ := 25 / 1000 * gPi
def bigAngle : ℚ := 125 / 1000 * gPi

structure Point where
  x : ℚ
  y : ℚ

structure Path where
  startPoint : Point
  startControlPoint : Point
  endControlPoint : Point
  endPoint : Point
  xCoefficients : Bezier.Coefficients ℚ
  yCoefficients : Bezier.Coefficients ℚ
  duration : ℚ

/- A picture of the cache; its pixels go by a number. -/
structure CachedSource where
  pattern : ℕ
  width : ℕ
  height : ℕ
deriving DecidableEq

structure Rectangle where
  topLeftPoint : Point
  bottomRightPoint : Point

/- The opacity is a power of the scale, always the same one. -/
structure ScreenSaverFloater where
  bounds : Pixels.Rectangle := ⟨0, 0, 0, 0⟩
  position : Point
  scale : ℚ
  path : Option Path := none
  pathStartTime : ℚ := 0
  pathStartScale : ℚ := 1
  pathEndScale : ℚ := 0
  angle : ℚ := 0
  angleIncrement : ℚ := 0

/- What of which picture is on a pixel, and the scale for its opacity. -/
structure Layer where
  pattern : ℕ
  x : ℤ
  y : ℤ
  scale : ℚ
deriving DecidableEq

/- The pictures that are cached, and how often the file has been read for them. -/
structure Cache where
  sources : List (ℤ × CachedSource) := []
  reads : ℕ := 0

/- The saver with its window: the pixels that GTK is to have painted again, and those that are seen. -/
structure ScreenSaver where
  canvasRectangle : Rectangle
  cachedSources : Cache := {}
  firstUpdateTime : ℚ
  currentCalculatedStatsTime : ℚ := 0
  updateCount : ℕ := 0
  frameCount : ℕ := 0
  updatesPerSecond : ℚ := 0
  framesPerSecond : ℚ := 0
  floaters : List ScreenSaverFloater := []
  maxFloaterCount : ℤ
  shouldDoRotations : Bool
  shouldShowPaths : Bool
  damage : ℤ × ℤ → Bool := fun _ => false
  screen : ℤ × ℤ → List Layer := fun _ => []
  quit : Bool := false

/- What the calls for a new floater draw. -/
structure CreateDraws where
  x : UnitDraw
  y : UnitDraw
  scale : UnitDraw

/- What the calls in an update of a floater draw, as far as they are made. -/
structure UpdateDraws where
  bubbleSlow : UnitDraw
  bubbleSmall : UnitDraw
  onScreen : UnitDraw
  duration : UnitDraw
  endX : UnitDraw
  endY : UnitDraw
  rescale : UnitDraw
  endScale : UnitDraw
  rotate : UnitDraw
  kind : Fin 100
  rotation : UnitDraw

/- The loader of a picture with its width given, and the clock in microseconds. -/
inductive Event
  | sizeAllocate (x y width height : ℤ)
  | draw (exposed : ℤ × ℤ → Bool) (decode : ℤ → Option CachedSource) (draws : ℕ → CreateDraws)
  | updateState (now : ℤ) (draws : ℕ → UpdateDraws)
  | updateStats (now : ℤ)

/- floaters.c:275 -/
def pathNew (startPoint startControlPoint endControlPoint endPoint : Point) (duration : ℚ) : Path where
  startPoint := startPoint
  startControlPoint := startControlPoint
  endControlPoint := endControlPoint
  endPoint := endPoint
  xCoefficients := Bezier.coefficients startPoint.x startControlPoint.x endControlPoint.x endPoint.x
  yCoefficients := Bezier.coefficients startPoint.y startControlPoint.y endControlPoint.y endPoint.y
  duration := duration

namespace Path

/- floaters.c:417 -/
def positionFromTime (path : Path) (time : ℚ) : Point where
  x := Bezier.eval path.xCoefficients path.startPoint.x (time / path.duration)
  y := Bezier.eval path.yCoefficients path.startPoint.y (time / path.duration)

end Path

namespace ScreenSaverFloater

/- (int) of the scaled size, clamped. -/
def size (f : ScreenSaverFloater) : ℤ :=
  let scaled := toInt (floaterMaxSize * f.scale)
  toInt (if (scaled : ℚ) > floaterMaxSize then floaterMaxSize else if (scaled : ℚ) < floaterMinSize then floaterMinSize
    else scaled)

/- floaters.c:438 -/
def scaleFromTime (f : ScreenSaverFloater) (path : Path) (time : ℚ) : ℚ :=
  clamp (f.pathStartScale + (f.pathEndScale - f.pathStartScale) * (time / path.duration))

/- floaters.c:452 -/
def angleFromTime (f : ScreenSaverFloater) (path : Path) (time : ℚ) : ℚ :=
  f.angle + f.angleIncrement * path.duration * (time / path.duration)

/- floaters.c:356 -/
def isOffCanvas (canvas : Rectangle) (f : ScreenSaverFloater) : Bool :=
  f.position.x < canvas.topLeftPoint.x ∨ f.position.x > canvas.bottomRightPoint.x ∨
    f.position.y < canvas.topLeftPoint.y ∨ f.position.y > canvas.bottomRightPoint.y

/- floaters.c:369, with the duration. -/
def shouldComeOnScreen (canvas : Rectangle) (f : ScreenSaverFloater) (ratio : ℚ) (d : UpdateDraws) : Option ℚ :=
  if ¬ f.isOffCanvas canvas then none
  else if gMinDouble ≤ |ratio - 1 / 2| ∧ 1 / 2 < d.onScreen.1 then some (gRandomDoubleRange d.duration 3 7)
  else none

/- floaters.c:391, with the duration. -/
def shouldBubbleUp (f : ScreenSaverFloater) (ratio : ℚ) (d : UpdateDraws) : Option ℚ :=
  if ratio < 1 / 2 ∧ 1 / 2 < d.bubbleSlow.1 then some (ratio * 30)
  else if f.scale < 3 / 10 ∧ 6 / 10 < d.bubbleSmall.1 then some 30
  else none

def along (a b : Point) (share : ℚ) : Point := ⟨a.x + share * (b.x - a.x), a.y + share * (b.y - a.y)⟩

/- floaters.c:466 -/
def createPathToOnScreen (canvas : Rectangle) (f : ScreenSaverFloater) (duration : ℚ) (d : UpdateDraws) : Path :=
  let endPosition : Point :=
    ⟨gRandomDoubleRange d.endX (1 / 4) (3 / 4) * (canvas.topLeftPoint.x + canvas.bottomRightPoint.x),
      gRandomDoubleRange d.endY (1 / 4) (3 / 4) * (canvas.topLeftPoint.y + canvas.bottomRightPoint.y)⟩
  pathNew f.position (along f.position endPosition (9 / 10)) (along f.position endPosition 1) endPosition duration

/- floaters.c:491 -/
def createPathToBubbleUp (canvas : Rectangle) (f : ScreenSaverFloater) (duration : ℚ) : Path :=
  let endPosition : Point := ⟨f.position.x, canvas.topLeftPoint.y - floaterMaxSize⟩
  pathNew f.position ⟨1 / 2 * f.position.x, 1 / 2 * f.position.y⟩ ⟨3 / 2 * endPosition.x, 1 / 2 * endPosition.y⟩ endPosition
    duration

/- floaters.c:510 -/
def createPathToRandomPoint (f : ScreenSaverFloater) (duration : ℚ) (d : UpdateDraws) : Path :=
  let endPosition : Point :=
    ⟨f.position.x + gRandomDoubleRange d.endX (-1 / 2) (1 / 2) * 4 * floaterMaxSize,
      f.position.y + gRandomDoubleRange d.endY (-1 / 2) (1 / 2) * 4 * floaterMaxSize⟩
  pathNew f.position (along f.position endPosition (95 / 100)) (along f.position endPosition 1) endPosition duration

/- floaters.c:534 -/
def createPath (canvas : Rectangle) (ratio : ℚ) (f : ScreenSaverFloater) (d : UpdateDraws) : Path :=
  let ratio := if |ratio| ≤ gMinDouble then 1 else ratio
  match f.shouldBubbleUp ratio d with
  | some duration => f.createPathToBubbleUp canvas duration
  | none =>
    match f.shouldComeOnScreen canvas ratio d with
    | some duration => f.createPathToOnScreen canvas duration d
    | none => f.createPathToRandomPoint (gRandomDoubleRange d.duration 3 7) d

/- floaters.c:566, where the floater has no path. -/
def startPath (canvas : Rectangle) (rotations : Bool) (ratio time : ℚ) (d : UpdateDraws) (f : ScreenSaverFloater) :
    ScreenSaverFloater :=
  { f with
    path := some (f.createPath canvas ratio d)
    pathStartTime := time
    pathStartScale := f.scale
    pathEndScale := if 1 / 2 < d.rescale.1 then gRandomDoubleRange d.endScale (1 / 10) ratio else f.pathEndScale
    angleIncrement :=
      if rotations ∧ d.rotate.1 < 3 / 4 * ratio then
        if d.kind.1 < 80 then 0
        else if d.kind.1 < 95 then gRandomDoubleRange d.rotation (-smallAngle) smallAngle
        else gRandomDoubleRange d.rotation (-bigAngle) bigAngle
      else f.angleIncrement }

/- floaters.c:592 -/
def followPath (time : ℚ) (path : Path) (f : ScreenSaverFloater) : ScreenSaverFloater :=
  if time < f.pathStartTime + path.duration then
    let pathTime := time - f.pathStartTime
    { f with
      position := path.positionFromTime pathTime
      scale := f.scaleFromTime path pathTime
      angle := f.angleFromTime path pathTime }
  else { f with path := none, pathStartTime := 0 }

/- floaters.c:557 -/
def updateState (canvas : Rectangle) (rotations : Bool) (ratio time : ℚ) (d : UpdateDraws) (f : ScreenSaverFloater) :
    ScreenSaverFloater :=
  match f.path with
  | some path => f.followPath time path
  | none => (f.startPath canvas rotations ratio time d).followPath time (f.createPath canvas ratio d)

end ScreenSaverFloater

def covers (r : Pixels.Rectangle) (p : ℤ × ℤ) : Bool :=
  r.x ≤ p.1 ∧ p.1 < r.x + r.width ∧ r.y ≤ p.2 ∧ p.2 < r.y + r.height

namespace ScreenSaverFloater

/- Where the picture is painted, as long as it is not rotated. -/
def pictureRectangle (f : ScreenSaverFloater) (source : CachedSource) : Pixels.Rectangle where
  x := toInt (f.position.x - 1 / 2 * source.width)
  y := toInt (f.position.y - 1 / 2 * source.height)
  width := source.width
  height := source.height

def layer (sources : List (ℤ × CachedSource)) (f : ScreenSaverFloater) (p : ℤ × ℤ) : Option Layer :=
  match sources.lookup f.size with
  | none => none
  | some source =>
    let r := f.pictureRectangle source
    if covers r p then some ⟨source.pattern, p.1 - r.x, p.2 - r.y, f.scale⟩ else none

/- floaters.c:695 and 710: the bounds that are kept for the next update. -/
def drawn (rotations : Bool) (source : CachedSource) (f : ScreenSaverFloater) : ScreenSaverFloater :=
  { f with
    bounds :=
      if rotations ∧ gMinDouble < |f.angle| then
        ⟨toInt (f.position.x - 1 / 2 * gSqrt2 * source.width) - 1, toInt (f.position.y - 1 / 2 * gSqrt2 * source.height) - 1,
          toInt (gSqrt2 * source.width + 2), toInt (gSqrt2 * source.height + 2)⟩
      else
        ⟨toInt (f.position.x - 1 / 2 * source.width) - 1, toInt (f.position.y - 1 / 2 * source.height) - 1,
          source.width + 2, source.height + 2⟩ }

/- floaters.c:1022 and 1030: where the picture comes to be. -/
def area (rotations : Bool) (f : ScreenSaverFloater) : Pixels.Rectangle :=
  if rotations then
    ⟨toInt (f.position.x - 1 / 2 * gSqrt2 * f.size), toInt (f.position.y - 1 / 2 * gSqrt2 * f.size),
      toInt (gSqrt2 * f.size + 2), toInt (gSqrt2 * f.size + 2)⟩
  else
    ⟨toInt (f.position.x - 1 / 2 * f.size), toInt (f.position.y - 1 / 2 * f.size), f.size + 2, f.size + 2⟩

/- What an update has painted again for a floater that has been painted before. -/
def damages (rotations paths : Bool) (f : ScreenSaverFloater) (p : ℤ × ℤ) : Bool :=
  (0 < f.bounds.width ∧ 0 < f.bounds.height) ∧ (covers f.bounds p ∨ covers (f.area rotations) p ∨ paths)

/- floaters.c:950 -/
def compareFloaters (a b : ScreenSaverFloater) : ℤ :=
  if a.scale > b.scale then 1 else if |a.scale - b.scale| ≤ gMinDouble then 0 else -1

end ScreenSaverFloater

/- The picture for a size, which is loaded where it is not cached; none where it cannot be. -/
def Cache.source (decode : ℤ → Option CachedSource) (c : Cache) (size : ℤ) : Cache × Option CachedSource :=
  match c.sources.lookup size with
  | some source => (c, some source)
  | none =>
    match decode size with
    | none => ({ c with reads := c.reads + 1 }, none)
    | some source => (⟨(size, source) :: c.sources, c.reads + 1⟩, some source)

/- The floaters that are drawn, and those that are left when one cannot be. -/
structure Drawn where
  cache : Cache
  done : List ScreenSaverFloater
  rest : List ScreenSaverFloater

/- The loop of screen_saver_on_draw. -/
def drawFloaters (rotations : Bool) (decode : ℤ → Option CachedSource) : Cache → List ScreenSaverFloater → Drawn
  | cache, [] => ⟨cache, [], []⟩
  | cache, f :: fs =>
    match cache.source decode f.size with
    | (cache, none) => ⟨cache, [], f :: fs⟩
    | (cache, some source) =>
      let r := drawFloaters rotations decode cache fs
      ⟨r.cache, f.drawn rotations source :: r.done, r.rest⟩

namespace ScreenSaver

/- floaters.c:795, at the first update, which has no floaters to update. -/
def screenSaverNew (now : ℤ) (canvas : Rectangle) (maxFloaterCount : ℤ) (rotations paths : Bool) : ScreenSaver where
  canvasRectangle := canvas
  firstUpdateTime := now / 10 ^ 6
  maxFloaterCount := maxFloaterCount
  shouldDoRotations := rotations
  shouldShowPaths := paths

/- floaters.c:935 -/
def onSizeAllocate (s : ScreenSaver) (x y width height : ℤ) : ScreenSaver :=
  { s with canvasRectangle := ⟨⟨x - 1 / 10 * width, y - 1 / 10 * height⟩, ⟨x + 11 / 10 * width, y + 11 / 10 * height⟩⟩ }

def newFloater (canvas : Rectangle) (d : CreateDraws) : ScreenSaverFloater where
  position := ⟨gRandomDoubleRange d.x canvas.topLeftPoint.x canvas.bottomRightPoint.x,
    gRandomDoubleRange d.y canvas.topLeftPoint.y canvas.bottomRightPoint.y⟩
  scale := d.scale.1

/- floaters.c:877 -/
def createFloaters (s : ScreenSaver) (draws : ℕ → CreateDraws) : List ScreenSaverFloater :=
  (List.range s.maxFloaterCount.toNat).foldl (fun floaters i => newFloater s.canvasRectangle (draws i) :: floaters) s.floaters

def performanceRatio (s : ScreenSaver) : ℚ := s.framesPerSecond / optimalFrameRate

/- What is seen when all floaters are painted. -/
def picture (s : ScreenSaver) : ℤ × ℤ → List Layer :=
  Damage.paint (ScreenSaverFloater.layer s.cachedSources.sources) s.floaters

/- The floaters that are drawn next, from the smallest to the largest. -/
def sortedFloaters (s : ScreenSaver) (draws : ℕ → CreateDraws) : List ScreenSaverFloater :=
  (if s.floaters.isEmpty then s.createFloaters draws else s.floaters).insertionSort fun a b => a.compareFloaters b ≤ 0

def drawnBy (s : ScreenSaver) (decode : ℤ → Option CachedSource) (draws : ℕ → CreateDraws) : Drawn :=
  drawFloaters s.shouldDoRotations decode s.cachedSources (s.sortedFloaters draws)

/- floaters.c:962 -/
def onDraw (s : ScreenSaver) (exposed : ℤ × ℤ → Bool) (decode : ℤ → Option CachedSource) (draws : ℕ → CreateDraws) :
    ScreenSaver :=
  let r := s.drawnBy decode draws
  { s with
    floaters := r.done ++ r.rest
    cachedSources := r.cache
    frameCount := s.frameCount + 1
    damage := fun _ => false
    screen := Damage.repaint (fun p => s.damage p || exposed p) s.screen
      (Damage.paint (ScreenSaverFloater.layer r.cache.sources) r.done)
    quit := !r.rest.isEmpty }

/- floaters.c:991, called with the clock. -/
def updateState (s : ScreenSaver) (now : ℤ) (draws : ℕ → UpdateDraws) : ScreenSaver :=
  let time := now / 10 ^ 6 - s.firstUpdateTime
  let floaters := s.floaters.mapIdx fun i f =>
    f.updateState s.canvasRectangle s.shouldDoRotations s.performanceRatio time (draws i)
  { s with
    floaters := floaters
    updateCount := s.updateCount + 1
    damage := fun p => s.damage p || floaters.any (·.damages s.shouldDoRotations s.shouldShowPaths p) }

/- floaters.c:1078 -/
def doUpdateStats (s : ScreenSaver) (now : ℤ) : ScreenSaver :=
  let last := s.currentCalculatedStatsTime
  let s := { s with currentCalculatedStatsTime := now / 10 ^ 6 }
  if |last| ≤ gMinDouble then s
  else
    let seconds := s.currentCalculatedStatsTime - last
    { s with
      updatesPerSecond := s.updateCount / seconds
      framesPerSecond := s.frameCount / seconds
      updateCount := 0
      frameCount := 0 }

/- floaters.c:914 -/
def imageCacheUsage (s : ScreenSaver) : ℚ := s.cachedSources.sources.length / (floaterMaxSize - floaterMinSize + 1)

def next (s : ScreenSaver) (e : Event) : Option ScreenSaver :=
  if s.quit then none
  else
    match e with
    | .sizeAllocate x y width height => some (s.onSizeAllocate x y width height)
    | .draw exposed decode draws => some (s.onDraw exposed decode draws)
    | .updateState now draws => some (s.updateState now draws)
    | .updateStats now => some (s.doUpdateStats now)

def system : System ScreenSaver Event where
  init s := ∃ now canvas count rotations paths, s = screenSaverNew now canvas count rotations paths
  next := ScreenSaver.next

end ScreenSaver

variable {q q' : ℚ} {n : ℤ} {f : ScreenSaverFloater} {c : Cache} {source : CachedSource}
  {decode : ℤ → Option CachedSource} {sources : List (ℤ × CachedSource)} {p : ℤ × ℤ}

/-! ### Towards zero -/

theorem toInt_neg (q : ℚ) : toInt (-q) = -toInt q := by
  rw [toInt, toInt, Rat.num_neg_eq_neg_num, Rat.den_neg_eq_den, Int.neg_tdiv]

theorem toInt_intCast (n : ℤ) : toInt n = n := by
  rw [toInt, Rat.num_intCast, Rat.den_intCast, Int.ofNat_one, Int.tdiv_one]

theorem toInt_cases (q : ℚ) : 0 ≤ q ∧ toInt q = ⌊q⌋ ∨ q < 0 ∧ toInt q = -⌊-q⌋ := by
  rcases le_or_gt 0 q with h | h
  · exact .inl ⟨h, toInt_eq_floor h⟩
  · right
    have hneg := toInt_eq_floor (neg_nonneg.2 h.le)
    rw [toInt_neg] at hneg
    exact ⟨h, by omega⟩

/- Less than a pixel is lost. -/
theorem toInt_near (q : ℚ) : (toInt q : ℚ) < q + 1 ∧ q < toInt q + 1 := by
  rcases toInt_cases q with ⟨hq, h⟩ | ⟨hq, h⟩
  · have hle := Int.floor_le q
    have hlt := Int.lt_floor_add_one q
    rw [h]
    constructor <;> linarith
  · have hle := Int.floor_le (-q)
    have hlt := Int.lt_floor_add_one (-q)
    rw [h, Int.cast_neg]
    constructor <;> linarith

theorem toInt_mono (h : q ≤ q') : toInt q ≤ toInt q' := by
  rcases toInt_cases q with ⟨hq, hint⟩ | ⟨hq, hint⟩
  · rw [hint, toInt_eq_floor (hq.trans h)]
    exact Int.floor_mono h
  · rcases toInt_cases q' with ⟨hq', hint'⟩ | ⟨hq', hint'⟩
    · have hfloor : 0 ≤ ⌊-q⌋ := Int.floor_nonneg.2 (by linarith)
      have hfloor' : 0 ≤ ⌊q'⌋ := Int.floor_nonneg.2 hq'
      omega
    · have hfloor : ⌊-q'⌋ ≤ ⌊-q⌋ := Int.floor_mono (neg_le_neg h)
      omega

/-! ### The cache -/

theorem size_mem (f : ScreenSaverFloater) : 16 ≤ f.size ∧ f.size ≤ 128 := by
  have hmax : toInt floaterMaxSize = 128 := toInt_intCast 128
  have hmin : toInt floaterMinSize = 16 := toInt_intCast 16
  rw [ScreenSaverFloater.size]
  split
  · omega
  · next hhigh =>
    split
    · omega
    · next hlow =>
      rw [toInt_intCast]
      rw [floaterMaxSize] at hhigh
      rw [floaterMinSize] at hlow
      constructor
      · exact_mod_cast not_lt.1 hlow
      · exact_mod_cast not_lt.1 hhigh

/-- One picture for each of the sizes, and one reading of the file for each picture and for each of the
`failed` readings. -/
structure Cache.Fits (c : Cache) (failed : ℕ) : Prop where
  sizes : ∀ e ∈ c.sources, 16 ≤ e.1 ∧ e.1 ≤ 128
  distinct : (c.sources.map Prod.fst).Nodup
  reads : c.reads = c.sources.length + failed

theorem Cache.Fits.length_le {failed : ℕ} (h : c.Fits failed) : c.sources.length ≤ 113 := by
  have hcard : (c.sources.map Prod.fst).toFinset.card ≤ (Finset.Icc (16 : ℤ) 128).card := by
    apply Finset.card_le_card
    intro size hsize
    rw [List.mem_toFinset] at hsize
    obtain ⟨e, he, rfl⟩ := List.mem_map.1 hsize
    exact Finset.mem_Icc.2 (h.sizes e he)
  rw [List.toFinset_card_of_nodup h.distinct, List.length_map] at hcard
  exact hcard

theorem lookup_eq_none (h : sources.lookup n = none) : n ∉ sources.map Prod.fst := by
  intro hmem
  obtain ⟨e, he, rfl⟩ := List.mem_map.1 hmem
  rw [List.lookup_eq_none_iff] at h
  have hne := h e he
  simp at hne

/- What a lookup does to the cache. -/
inductive Cache.Sourced (decode : ℤ → Option CachedSource) (c : Cache) (size : ℤ) : Cache → Option CachedSource → Prop
  | cached {source : CachedSource} : c.sources.lookup size = some source → Sourced decode c size c (some source)
  | loaded {source : CachedSource} : c.sources.lookup size = none → decode size = some source →
      Sourced decode c size ⟨(size, source) :: c.sources, c.reads + 1⟩ (some source)
  | failed : c.sources.lookup size = none → decode size = none →
      Sourced decode c size { c with reads := c.reads + 1 } none

theorem Cache.sourced (decode : ℤ → Option CachedSource) (c : Cache) (size : ℤ) :
    Cache.Sourced decode c size (c.source decode size).1 (c.source decode size).2 := by
  rw [Cache.source]
  cases hlookup : c.sources.lookup size with
  | some source => exact .cached hlookup
  | none =>
    cases hdecode : decode size with
    | none => exact .failed hlookup hdecode
    | some source => exact .loaded hlookup hdecode

theorem Cache.Fits.sourced {d : Cache} {size : ℤ} {found : Option CachedSource} (h : c.Fits 0) (hsize : 16 ≤ size ∧ size ≤ 128)
    (hd : Cache.Sourced decode c size d found) : d.Fits (if found.isNone then 1 else 0) := by
  cases hd with
  | cached hlookup => exact h
  | loaded hlookup hdecode =>
    refine ⟨?_, ?_, ?_⟩
    · intro e he
      cases he with
      | head => exact hsize
      | tail _ he => exact h.sizes e he
    · exact List.nodup_cons.2 ⟨lookup_eq_none hlookup, h.distinct⟩
    · have hreads := h.reads
      simp only [List.length_cons, Option.isNone_some]
      simp
      omega
  | failed hlookup hdecode => exact ⟨h.sizes, h.distinct, congrArg (· + 1) h.reads⟩

theorem Cache.Fits.drawFloaters (rotations : Bool) (decode : ℤ → Option CachedSource) (fs : List ScreenSaverFloater)
    (h : c.Fits 0) :
    (drawFloaters rotations decode c fs).cache.Fits (if (drawFloaters rotations decode c fs).rest.isEmpty then 0 else 1) := by
  induction fs generalizing c with
  | nil => exact h
  | cons f fs ih =>
    have hsourced := h.sourced (size_mem f) (c.sourced decode f.size)
    rw [Floaters.drawFloaters]
    cases hsource : c.source decode f.size with
    | mk d found =>
      rw [hsource] at hsourced
      cases found with
      | none => exact hsourced
      | some source => exact ih hsourced

namespace ScreenSaver

variable {s t : ScreenSaver} {e : Event}

/- Neither the floaters nor the window are touched. -/
structure Still (s t : ScreenSaver) : Prop where
  floaters : t.floaters = s.floaters
  cachedSources : t.cachedSources = s.cachedSources
  damage : t.damage = s.damage
  screen : t.screen = s.screen
  quit : t.quit = s.quit
  shouldDoRotations : t.shouldDoRotations = s.shouldDoRotations
  firstUpdateTime : t.firstUpdateTime = s.firstUpdateTime

theorem doUpdateStats_still (s : ScreenSaver) (now : ℤ) : Still s (s.doUpdateStats now) := by
  rw [doUpdateStats]
  dsimp only
  split
  · exact ⟨rfl, rfl, rfl, rfl, rfl, rfl, rfl⟩
  · exact ⟨rfl, rfl, rfl, rfl, rfl, rfl, rfl⟩

/- What a step can do. -/
theorem next_cases (h : s.next e = some t) : s.quit = false ∧
    ((∃ exposed decode draws, e = .draw exposed decode draws ∧ t = s.onDraw exposed decode draws) ∨
      (∃ now draws, e = .updateState now draws ∧ t = s.updateState now draws) ∨
      Still s t ∧ (∀ exposed decode draws, e ≠ .draw exposed decode draws) ∧ ∀ now draws, e ≠ .updateState now draws) := by
  unfold next at h
  cases hquit : s.quit with
  | true =>
    rw [if_pos hquit] at h
    cases h
  | false =>
    rw [hquit, if_neg Bool.false_ne_true] at h
    refine ⟨rfl, ?_⟩
    cases e with
    | draw exposed decode draws => exact .inl ⟨exposed, decode, draws, rfl, (Option.some.inj h).symm⟩
    | updateState now draws => exact .inr (.inl ⟨now, draws, rfl, (Option.some.inj h).symm⟩)
    | sizeAllocate x y width height =>
      obtain rfl := Option.some.inj h
      refine .inr (.inr ⟨⟨rfl, rfl, rfl, rfl, rfl, rfl, rfl⟩, ?_, ?_⟩)
      · intro exposed decode draws he
        cases he
      · intro now draws he
        cases he
    | updateStats now =>
      obtain rfl := Option.some.inj h
      refine .inr (.inr ⟨s.doUpdateStats_still now, ?_, ?_⟩)
      · intro exposed decode draws he
        cases he
      · intro now draws he
        cases he

theorem cache_invariant : system.Invariant fun s => s.cachedSources.Fits (if s.quit then 1 else 0) where
  start s hs := by
    obtain ⟨now, canvas, count, rotations, paths, rfl⟩ := hs
    refine ⟨?_, List.nodup_nil, rfl⟩
    intro e he
    cases he
  step s e t hs hn := by
    obtain ⟨hquit, hcases⟩ := next_cases hn
    rcases hcases with ⟨exposed, decode, draws, -, rfl⟩ | ⟨now, draws, -, rfl⟩ | ⟨hstill, -⟩
    · rw [hquit, if_neg Bool.false_ne_true] at hs
      have hdrawn := hs.drawFloaters s.shouldDoRotations decode (s.sortedFloaters draws)
      change (s.drawnBy decode draws).cache.Fits (if !(s.drawnBy decode draws).rest.isEmpty then 1 else 0)
      change (s.drawnBy decode draws).cache.Fits (if (s.drawnBy decode draws).rest.isEmpty then 0 else 1) at hdrawn
      cases hempty : (s.drawnBy decode draws).rest.isEmpty with
      | true =>
        rw [hempty] at hdrawn
        exact hdrawn
      | false =>
        rw [hempty] at hdrawn
        exact hdrawn
    · exact hs
    · rw [hstill.cachedSources, hstill.quit]
      exact hs

/-- However long the saver runs, whatever it draws and loads: the cache has at most one picture for each
of the sizes from 16 to 128 and so is never more than full, and the file has been read once for each
picture in it, and once more only where a reading failed and the saver ends. -/
theorem image_cache_bounded (h : system.Reachable s) : s.imageCacheUsage ≤ 1 ∧
    (∀ e ∈ s.cachedSources.sources, 16 ≤ e.1 ∧ e.1 ≤ 128) ∧ (s.cachedSources.sources.map Prod.fst).Nodup ∧
    s.cachedSources.reads = s.cachedSources.sources.length + (if s.quit then 1 else 0) ∧ s.cachedSources.reads ≤ 114 := by
  have hfits := cache_invariant.reachable h
  have hlength := hfits.length_le
  refine ⟨?_, hfits.sizes, hfits.distinct, hfits.reads, ?_⟩
  · rw [imageCacheUsage, floaterMaxSize, floaterMinSize, div_le_one (by norm_num)]
    have hcast : (s.cachedSources.sources.length : ℚ) ≤ 113 := by exact_mod_cast hlength
    linarith
  · have hreads := hfits.reads
    split at hreads <;> omega

/- One floater in the corner of a small window, smaller than any picture is. -/
def smallSaver : ScreenSaver := screenSaverNew 0 ⟨⟨0, 0⟩, ⟨100, 100⟩⟩ 1 false false

def noDraw : UnitDraw := ⟨0, le_refl 0, zero_lt_one⟩

def squareDecode (size : ℤ) : Option CachedSource := if 0 ≤ size then some ⟨7, size.toNat, size.toNat⟩ else none

def firstDraw : Event := .draw (fun _ => true) squareDecode fun _ => ⟨noDraw, noDraw, noDraw⟩

def noDraws : UpdateDraws := ⟨noDraw, noDraw, noDraw, noDraw, noDraw, noDraw, noDraw, noDraw, noDraw, 0, noDraw⟩

def secondsLater (n : ℤ) : Event := .updateState (n * 10 ^ 6) fun _ => noDraws

theorem image_cache_bounded_small : ∃ t, system.run smallSaver [firstDraw, secondsLater 1, firstDraw] = some t ∧
    t.cachedSources.sources = [(16, ⟨7, 16, 16⟩)] ∧ t.imageCacheUsage ≤ 1 := by
  have hsome : ((system.run smallSaver [firstDraw, secondsLater 1, firstDraw]).map fun t => t.cachedSources.sources) =
      some [(16, ⟨7, 16, 16⟩)] := by
    decide +kernel
  obtain ⟨t, ht, hsources⟩ := Option.map_eq_some_iff.1 hsome
  have hreach : system.Reachable t := System.reachable_run (.start ⟨0, _, 1, false, false, rfl⟩) ht
  exact ⟨t, ht, hsources, (image_cache_bounded hreach).1⟩

end ScreenSaver

end Floaters
end MateScreensaver
