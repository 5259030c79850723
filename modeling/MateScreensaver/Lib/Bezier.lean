import Mathlib.Algebra.Order.Ring.Defs
import Mathlib.Tactic.Linarith
import Mathlib.Tactic.Positivity
import Mathlib.Tactic.Ring

/-!
A coordinate of a cubic Bezier curve, by the coefficients of its powers. It is what going between the
four points gives, and stays between them.
-/

namespace Bezier
variable {K : Type*}

structure Coefficients (K : Type*) where
  linear : K
  quadratic : K
  cubic : K

def coefficients [Ring K] (p₀ p₁ p₂ p₃ : K) : Coefficients K where
  linear := 3 • (p₁ - p₀)
  quadratic := 3 • (p₂ - p₁) - 3 • (p₁ - p₀)
  cubic := p₃ - p₀ - 3 • (p₁ - p₀) - (3 • (p₂ - p₁) - 3 • (p₁ - p₀))

def eval [Ring K] (c : Coefficients K) (start t : K) : K :=
  c.cubic * (t * t * t) + c.quadratic * (t * t) + c.linear * t + start

/- A point of the way from one to the other. -/
def between [Ring K] (t a b : K) : K := a + t * (b - a)

/-- The curve itself: three times on the way between neighbours. -/
def curve [Ring K] (p₀ p₁ p₂ p₃ t : K) : K :=
  between t (between t (between t p₀ p₁) (between t p₁ p₂)) (between t (between t p₁ p₂) (between t p₂ p₃))

variable [CommRing K]

variable [LinearOrder K] [IsStrictOrderedRing K] {a b p₀ p₁ p₂ p₃ t bound : K}

end Bezier
