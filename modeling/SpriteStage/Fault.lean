import SpriteStage.Sprite

/-! # Faults

What can be wrong with a request. Performing blocks never fails; these are the faults of the
operations around it.

* `Fault` — the causes
* `Fault.message` — the wording
-/

namespace SpriteStage

set_option autoImplicit false

/-- Why the text of a file is not to be had. -/
inductive FileFault where
  | notFound
  | notUtf8
  | other (reason : String)
deriving DecidableEq

/-- Why an operation is refused. -/
inductive Fault where
  /-- There is no sprite with this id. -/
  | spriteNotFound (id : SpriteId)
  /-- A list of this length has no block with this index. -/
  | blockIndexOutOfRange (index length : Nat)
  /-- A collision threshold has to be a number of at least zero. -/
  | badThreshold (threshold : Float)
  /-- The two sprites of the hero scene are one and the same. -/
  | sameHeroSprites (id : SpriteId)
  /-- The name of this sprite of a scene is blank. -/
  | blankName (index : Nat)
  /-- A file has no text. -/
  | file (fault : FileFault)
  /-- A text is not JSON, or not of what it should describe. -/
  | malformedJson
deriving DecidableEq

namespace FileFault

def message : FileFault → String
  | notFound => "no such file"
  | notUtf8 => "the file does not hold UTF-8 text"
  | other reason => reason

end FileFault

namespace Fault

def message : Fault → String
  | spriteNotFound id => "Sprite " ++ id.text ++ " not found"
  | blockIndexOutOfRange index length =>
    "Block index " ++ toString index ++ " out of range for action list of length "
      ++ toString length
  | badThreshold threshold =>
    "Configuration error: collision_threshold must be a non-negative number, got "
      ++ plainText threshold
  | sameHeroSprites id => "Configuration error: hero sprites must differ, both are " ++ id.text
  | blankName index => "Scene error: sprite " ++ toString index ++ " has an empty name"
  | file fault => "IO error: " ++ fault.message
  | malformedJson => "JSON error: the text does not have the expected form"

end Fault

end SpriteStage
