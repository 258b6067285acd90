import SpriteStage.Json.Token

/-! # Writing JSON

A value is written as a row of pieces, which are its tokens and, in the layout for people, gaps
between them. The gaps are the only difference between the two layouts.

* `Json.tokens` — the tokens of a value
* `Json.compact` — the text without any white space
* `Json.pretty` — the text with one member or item a line, two spaces a level
-/

namespace SpriteStage.Json

set_option autoImplicit false

/-- A token, or white space between tokens. -/
inductive Piece where
  | token (t : Token)
  | space
  | newline (level : Nat)

def Piece.chars : Piece → List Char
  | .token t => t.chars
  | .space => [' ']
  | .newline level => '\n' :: List.replicate (2 * level) ' '

/-! ## Without white space -/

mutual

def tokens : Json → List Token
  | .null => [.null]
  | .bool b => [.bool b]
  | .num n => [.num n]
  | .str s => [.str s]
  | .arr [] => [.openBracket, .closeBracket]
  | .arr (item :: rest) => .openBracket :: tokens item ++ moreItems rest
  | .obj [] => [.openBrace, .closeBrace]
  | .obj (member :: rest) => .openBrace :: memberTokens member ++ moreMembers rest
termination_by structural j => j

/-- The tokens of the items after the first, up to the end of the array. -/
def moreItems : List Json → List Token
  | [] => [.closeBracket]
  | item :: rest => .comma :: tokens item ++ moreItems rest
termination_by structural items => items

/-- The tokens of the members after the first, up to the end of the object. -/
def moreMembers : List (Literal × Json) → List Token
  | [] => [.closeBrace]
  | member :: rest => .comma :: memberTokens member ++ moreMembers rest
termination_by structural members => members

def memberTokens : Literal × Json → List Token
  | (key, value) => .str key :: .colon :: tokens value
termination_by structural member => member

end

/-- The text of a value without white space. -/
def compact (j : Json) : String :=
  String.ofList (j.tokens.flatMap Token.chars)

/-! ## With a line for every item and member -/

mutual

/-- The pieces of a value that begins at the given level. -/
def pieces (level : Nat) : Json → List Piece
  | .null => [.token .null]
  | .bool b => [.token (.bool b)]
  | .num n => [.token (.num n)]
  | .str s => [.token (.str s)]
  | .arr [] => [.token .openBracket, .token .closeBracket]
  | .arr (item :: rest) =>
    .token .openBracket :: .newline (level + 1) :: pieces (level + 1) item ++ morePieces level rest
  | .obj [] => [.token .openBrace, .token .closeBrace]
  | .obj (member :: rest) =>
    .token .openBrace :: .newline (level + 1) :: memberPieces (level + 1) member
      ++ moreMemberPieces level rest
termination_by structural j => j

/-- The pieces of the items after the first of an array that began at the given level. -/
def morePieces (level : Nat) : List Json → List Piece
  | [] => [.newline level, .token .closeBracket]
  | item :: rest =>
    .token .comma :: .newline (level + 1) :: pieces (level + 1) item ++ morePieces level rest
termination_by structural items => items

/-- The pieces of the members after the first of an object that began at the given level. -/
def moreMemberPieces (level : Nat) : List (Literal × Json) → List Piece
  | [] => [.newline level, .token .closeBrace]
  | member :: rest =>
    .token .comma :: .newline (level + 1) :: memberPieces (level + 1) member
      ++ moreMemberPieces level rest
termination_by structural members => members

def memberPieces (level : Nat) : Literal × Json → List Piece
  | (key, value) => .token (.str key) :: .token .colon :: .space :: pieces level value
termination_by structural member => member

end

/-- The text of a value with a line for every item and member. -/
def pretty (j : Json) : String :=
  String.ofList ((j.pieces 0).flatMap Piece.chars)

end SpriteStage.Json
