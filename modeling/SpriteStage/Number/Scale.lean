/-! # Scaling

Quotients that differ by a power of a base are compared and rounded by scaling numerator and
denominator, each with its own sign of the exponent.

* `scaled` — a natural number times a power with an integer exponent
-/

namespace SpriteStage

set_option autoImplicit false

/-- `n` times `base` to the power of `e`. A negative exponent counts as zero: it is for the other
side of a quotient to be scaled by its opposite. -/
def scaled (base n : Nat) (e : Int) : Nat :=
  n * Nat.pow base e.toNat

end SpriteStage
