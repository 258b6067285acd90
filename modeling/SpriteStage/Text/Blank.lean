/-! # Blank characters

The characters with the Unicode property White_Space, and the texts made of nothing else.

* `isBlank` — the property, as a table of ranges
* `isAllBlank` — a text is empty once blanks are trimmed off both ends
-/

namespace SpriteStage

set_option autoImplicit false

/-- The ranges of code points with the property White_Space. -/
def blankRanges : List (Nat × Nat) :=
  [(0x09, 0x0D), (0x20, 0x20), (0x85, 0x85), (0xA0, 0xA0), (0x1680, 0x1680), (0x2000, 0x200A),
    (0x2028, 0x2029), (0x202F, 0x202F), (0x205F, 0x205F), (0x3000, 0x3000)]

/-- A character lies in one of the given ranges of code points, both ends included. -/
def inRanges (ranges : List (Nat × Nat)) (c : Char) : Bool :=
  ranges.any fun r => decide (r.1 ≤ c.toNat) && decide (c.toNat ≤ r.2)

/-- White space in the sense of Unicode. -/
def isBlank (c : Char) : Bool :=
  inRanges blankRanges c

/-- Nothing but white space: the text is empty once it is trimmed. -/
def isAllBlank (text : String) : Bool :=
  text.toList.all isBlank

end SpriteStage
