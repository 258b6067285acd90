import SpriteStage.Json.Reader

/-! # JSON out of bytes

A file holds bytes, and not all bytes spell characters in UTF-8. A byte that spells none does no
harm inside a string that nobody reads, such as the value of a member that is not asked for.
Anywhere else it spoils the text.

* `charactersFrom` — the characters that bytes spell, and the places where they spell none
* `misspelling` — what stands for such a place in a text
* `textOfBytes` — the text that bytes spell
-/

namespace SpriteStage.Json

set_option autoImplicit false

/-- The characters from a place on; a byte with which no character begins counts as none. -/
def charactersFrom (bytes : ByteArray) (place : Nat) : List (Option Char) :=
  if place < bytes.size then
    match bytes.utf8DecodeChar? place with
    | some c => some c :: charactersFrom bytes (place + c.utf8Size)
    | none => none :: charactersFrom bytes (place + 1)
  else []
termination_by bytes.size - place
decreasing_by
  · have := c.utf8Size_pos
    omega
  · omega

/--
A row of characters that is refused outside strings and behind a backslash, where its first one
has no meaning. Inside a string it is let through, but holds half a pair, so that the literal
around it has no characters.
-/
def misspelling : List Char :=
  ['x', '\\', 'u', 'd', '8', '0', '0', ' ']

/-- The text that bytes spell, with `misspelling` for every byte that spells nothing. -/
def textOfBytes (bytes : ByteArray) : String :=
  match String.fromUTF8? bytes with
  | some text => text
  | none => String.ofList ((charactersFrom bytes 0).flatMap fun c => (c.map ([·])).getD misspelling)

end SpriteStage.Json
