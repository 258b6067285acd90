/-! # The version of the library -/

namespace SpriteStage

set_option autoImplicit false

/-- The version, as three numbers. -/
def version : String :=
  "0.1.0"

end SpriteStage
