import MateScreensaver.Floaters

/-!
How the floaters move: along Bezier curves, each of which begins where the one before was left.
-/

namespace MateScreensaver
open Runs

namespace Floaters
open Popsquares

namespace Path

/- The coefficients are those of the points. -/
def Sound (path : Path) : Prop :=
  path = pathNew path.startPoint path.startControlPoint path.endControlPoint path.endPoint path.duration

/- The point is on the curve through the four points of the path, before its end. -/
def Carries (path : Path) (point : Point) : Prop :=
  ∃ t : ℚ, 0 ≤ t ∧ t < 1 ∧
    point.x = Bezier.curve path.startPoint.x path.startControlPoint.x path.endControlPoint.x path.endPoint.x t ∧
    point.y = Bezier.curve path.startPoint.y path.startControlPoint.y path.endControlPoint.y path.endPoint.y t

end Path

/- A scale is a share, and the path is one that has been made for its points. -/
structure ScreenSaverFloater.Sound (f : ScreenSaverFloater) : Prop where
  scale : 0 ≤ f.scale ∧ f.scale ≤ 1
  path : ∀ path, f.path = some path → path.Sound

/-- From one update to the next: on a path the floater is on its curve, a path begins where the floater
is, is followed as it is, and at its end the floater rests. -/
structure Moves (f g : ScreenSaverFloater) : Prop where
  carried : ∀ path, g.path = some path → path.Carries g.position
  begins : f.path = none → g.position = f.position ∧ g.scale = f.scale ∧
    ∀ path, g.path = some path → path.startPoint = f.position
  keeps : ∀ path, f.path = some path → g.path = none ∨ g.path = some path
  rests : g.path = none → g.position = f.position ∧ g.scale = f.scale

variable {f g : ScreenSaverFloater} {path : Path} {canvas : Rectangle} {rotations : Bool} {ratio time : ℚ} {d : UpdateDraws}

namespace ScreenSaver

variable {s t : ScreenSaver} {e : Event} {draws : ℕ → CreateDraws}

/- The clock has not gone back behind the beginning of a path that is followed. -/
def OnTime (s : ScreenSaver) : Event → Prop
  | .updateState now _ => ∀ f ∈ s.floaters, f.path ≠ none → f.pathStartTime ≤ now / 10 ^ 6 - s.firstUpdateTime
  | _ => True

instance decidableOnTime (s : ScreenSaver) : ∀ e, Decidable (s.OnTime e)
  | .updateState now _ =>
    inferInstanceAs (Decidable (∀ f ∈ s.floaters, f.path ≠ none → f.pathStartTime ≤ now / 10 ^ 6 - s.firstUpdateTime))
  | .sizeAllocate _ _ _ _ => .isTrue trivial
  | .draw _ _ _ => .isTrue trivial
  | .updateStats _ => .isTrue trivial

end ScreenSaver

end Floaters
end MateScreensaver
