import Mathlib.Data.List.Chain
import SpriteStage.Json.Printer
import SpriteStage.Json.Reader
import SpriteStage.Proofs.Json.Literals

/-! # Texts of values

Both layouts of a value read back as that value, whatever its strings and however deeply it is
nested. White space only has to keep numbers apart, and no value puts two numbers side by side.

* `readToken_chars` — a token at the front of a text
* `Spaced`, `Spaced.reads` — a row of tokens with any white space between them
* `foldlM_tokens` — the tokens of a value, read inside any frames
* `parse?_spaced` — the text of a value with any white space
* `parse?_compact`, `parse?_pretty` — the two layouts
-/

namespace SpriteStage.Json

set_option autoImplicit false

/-! ## Single tokens -/

/-- A number ends where something follows that could not go on with it; other tokens just end. -/
def Token.endsBefore : Token → List Char → Prop
  | .num _, rest => EndsNumeral rest
  | _, _ => True

theorem numeralChars_eq_cons (n : Numeral) :
    ∃ c cs, numeralChars n = c :: cs ∧ (c = '-' ∨ c.isDigit = true) := by
  cases sign : n.negative with
  | true => exact ⟨'-', _, by rw [numeralChars, sign]; rfl, .inl rfl⟩
  | false =>
    obtain ⟨c, cs, digits, first⟩ := toDigits_first n.whole
    exact ⟨c, _, by rw [numeralChars, sign, digits]; rfl, .inr first⟩

theorem readToken_numeralChars (n : Numeral) {rest : List Char} (ends : EndsNumeral rest) :
    readToken (numeralChars n ++ rest) = some (.num n, rest) := by
  have read := readNumeral_numeralChars n ends
  obtain ⟨c, cs, chars, first⟩ := numeralChars_eq_cons n
  rw [chars, List.cons_append] at read ⊢
  unfold readToken
  -- no other token starts with a digit or a minus sign
  split
  case h_11 => rw [read, Option.map_some]
  all_goals
    next same =>
    obtain ⟨rfl, -⟩ := List.cons.inj same
    rcases first with first | first <;> cases first

theorem readToken_chars (t : Token) {rest : List Char} (ends : t.endsBefore rest) :
    readToken (t.chars ++ rest) = some (t, rest) := by
  cases t with
  | num n => exact readToken_numeralChars n ends
  | str s =>
    obtain ⟨cs, chars, read⟩ := readLiteral_literalChars s rest
    rw [Token.chars, chars, readToken, read, Option.map_some]
  | bool b => cases b <;> rfl
  | _ => rfl

theorem chars_eq_cons (t : Token) : ∃ c cs, t.chars = c :: cs ∧ isSpace c = false := by
  cases t with
  | num n =>
    obtain ⟨c, cs, chars, first⟩ := numeralChars_eq_cons n
    refine ⟨c, cs, chars, ?_⟩
    have other {d : Char} (dash : d ≠ '-') (digit : d.isDigit = false) : c ≠ d := by
      rintro rfl
      rcases first with rfl | first
      · exact dash rfl
      · rw [digit] at first
        cases first
    simp [isSpace, other (d := ' '), other (d := '\t'), other (d := '\n'), other (d := '\r')]
  | str s => cases s <;> exact ⟨_, _, rfl, rfl⟩
  | bool b => cases b <;> exact ⟨_, _, rfl, rfl⟩
  | _ => exact ⟨_, _, rfl, rfl⟩

/-! ## Rows of tokens -/

/-- A text has the given tokens, as any bound on the steps that is long enough shows. -/
def Reads (cs : List Char) (ts : List Token) : Prop :=
  ∀ fuel, cs.length ≤ fuel → tokensWithin? fuel cs = some ts

theorem reads_nil : Reads [] [] := by
  intro fuel _
  cases fuel <;> rfl

theorem Reads.space {c : Char} {cs : List Char} {ts : List Token} (space : isSpace c = true)
    (reads : Reads cs ts) : Reads (c :: cs) ts := by
  intro fuel enough
  obtain _ | fuel := fuel
  · cases enough
  · rw [tokensWithin?, if_pos space]
    exact reads fuel (Nat.le_of_succ_le_succ enough)

theorem Reads.token {t : Token} {cs : List Char} {ts : List Token} (ends : t.endsBefore cs)
    (reads : Reads cs ts) : Reads (t.chars ++ cs) (t :: ts) := by
  have read := readToken_chars t ends
  obtain ⟨c, front, chars, visible⟩ := chars_eq_cons t
  intro fuel enough
  rw [chars, List.cons_append] at read enough ⊢
  obtain _ | fuel := fuel
  · cases enough
  · have shorter : cs.length ≤ fuel := by
      simp only [List.length_cons, List.length_append] at enough
      omega
    rw [tokensWithin?, if_neg (Bool.eq_false_iff.mp visible), read]
    simp [reads fuel shorter]

/-- The token that a piece is, unless it is white space. -/
def Piece.token? : Piece → Option Token
  | .token t => some t
  | .space => none
  | .newline _ => none

/-- A token is a number. -/
def Token.isNumber : Token → Bool
  | .num _ => true
  | _ => false

/-- Two tokens that may stand side by side without white space: one of them is no number. -/
def Token.Apart (t next : Token) : Prop :=
  t.isNumber = false ∨ next.isNumber = false

theorem endsNumeral_chars {t : Token} (other : t.isNumber = false) (cs : List Char) :
    EndsNumeral (t.chars ++ cs) := by
  cases t with
  | num n => cases other
  | str s => cases s <;> (rintro c ⟨⟩; decide)
  | bool b => cases b <;> (rintro c ⟨⟩; decide)
  | _ => rintro c ⟨⟩; decide

/-- The tokens of a row in their order, each as it is written, with any white space around them. -/
inductive Spaced : List Token → List Char → Prop
  | nil : Spaced [] []
  | space {ts : List Token} {c : Char} {cs : List Char} (space : isSpace c = true)
      (rest : Spaced ts cs) : Spaced ts (c :: cs)
  | token (t : Token) {ts : List Token} {cs : List Char} (rest : Spaced ts cs) :
      Spaced (t :: ts) (t.chars ++ cs)

theorem Spaced.spaces {gap cs : List Char} {ts : List Token}
    (spaces : ∀ c ∈ gap, isSpace c = true) (spaced : Spaced ts cs) : Spaced ts (gap ++ cs) := by
  induction gap with
  | nil => exact spaced
  | cons c gap ih =>
    exact (ih fun d member => spaces d (List.mem_cons_of_mem c member)).space
      (spaces c List.mem_cons_self)

theorem endsNumeral_space {c : Char} (space : isSpace c = true) (cs : List Char) :
    EndsNumeral (c :: cs) := by
  simp only [isSpace, Bool.or_eq_true, decide_eq_true_eq] at space
  rintro _ ⟨⟩
  rcases space with ((rfl | rfl) | rfl) | rfl <;> decide

theorem Spaced.endsBefore {t : Token} {ts : List Token} {cs : List Char} (spaced : Spaced ts cs)
    (apart : ∀ next ∈ ts.head?, t.Apart next) : t.endsBefore cs := by
  cases t with
  | num n =>
    cases spaced with
    | nil => rintro c ⟨⟩
    | space space => exact endsNumeral_space space _
    | token next =>
      have other : next.isNumber = false := (apart next rfl).resolve_left Bool.noConfusion
      exact endsNumeral_chars other _
  | _ => trivial

theorem Spaced.reads {ts : List Token} {cs : List Char} (spaced : Spaced ts cs)
    (apart : ts.IsChain Token.Apart) : Reads cs ts := by
  induction spaced with
  | nil => exact reads_nil
  | space space _ ih => exact (ih apart).space space
  | token t rest ih =>
    have ⟨first, later⟩ := List.isChain_cons.mp apart
    exact (ih later).token (rest.endsBefore first)

theorem spaced_pieces (ps : List Piece) :
    Spaced (ps.filterMap Piece.token?) (ps.flatMap Piece.chars) := by
  induction ps with
  | nil => exact .nil
  | cons p ps ih =>
    rw [List.flatMap_cons]
    cases p with
    | token t => exact .token t ih
    | space => exact ih.spaces (by simp [Piece.chars, isSpace])
    | newline level =>
      refine ih.spaces fun c member => ?_
      rcases List.mem_cons.mp member with rfl | member
      · rfl
      · rw [List.eq_of_mem_replicate member]
        rfl

/-! ## The tokens of a layout -/

mutual

theorem filterMap_pieces (level : Nat) :
    ∀ j : Json, (pieces level j).filterMap Piece.token? = tokens j
  | .null => rfl
  | .bool _ => rfl
  | .num _ => rfl
  | .str _ => rfl
  | .arr [] => rfl
  | .arr (item :: rest) => by
    simp [pieces, tokens, List.filterMap_cons, Piece.token?,
      filterMap_pieces (level + 1) item,
      filterMap_morePieces level rest]
  | .obj [] => rfl
  | .obj (member :: rest) => by
    simp [pieces, tokens, List.filterMap_cons, Piece.token?,
      filterMap_memberPieces (level + 1) member,
      filterMap_moreMemberPieces level rest]

theorem filterMap_morePieces (level : Nat) :
    ∀ items : List Json, (morePieces level items).filterMap Piece.token? = moreItems items
  | [] => rfl
  | item :: rest => by
    simp [morePieces, moreItems, List.filterMap_cons, Piece.token?,
      filterMap_pieces (level + 1) item,
      filterMap_morePieces level rest]

theorem filterMap_moreMemberPieces (level : Nat) :
    ∀ members : List (Literal × Json),
      (moreMemberPieces level members).filterMap Piece.token? = moreMembers members
  | [] => rfl
  | member :: rest => by
    simp [moreMemberPieces, moreMembers, List.filterMap_cons, Piece.token?,
      filterMap_memberPieces (level + 1) member,
      filterMap_moreMemberPieces level rest]

theorem filterMap_memberPieces (level : Nat) :
    ∀ member : Literal × Json,
      (memberPieces level member).filterMap Piece.token? = memberTokens member
  | (_, value) => by
    simp [memberPieces, memberTokens, List.filterMap_cons, Piece.token?,
      filterMap_pieces level value]

end

/-! ## No two numbers side by side -/

/-- A row of tokens that may follow a number. -/
structure FollowsNumber (ts : List Token) : Prop where
  chain : ts.IsChain Token.Apart
  first : ∀ t ∈ ts.head?, t.isNumber = false

theorem followsNumber_cons {t : Token} {ts : List Token} (other : t.isNumber = false)
    (chain : ts.IsChain Token.Apart) : FollowsNumber (t :: ts) where
  chain := List.isChain_cons.mpr ⟨fun _ _ => .inl other, chain⟩
  first := by
    rintro _ ⟨⟩
    exact other

theorem FollowsNumber.cons {ts : List Token} (follows : FollowsNumber ts) (t : Token) :
    (t :: ts).IsChain Token.Apart :=
  List.isChain_cons.mpr ⟨fun next first => .inr (follows.first next first), follows.chain⟩

-- The tokens of a value may end in a number, so that what comes after them must be fit to follow
-- one. The rows of further items and members are: they start with a comma or a bracket.
mutual

theorem chain_tokens : ∀ (j : Json) {rest : List Token}, FollowsNumber rest →
    (tokens j ++ rest).IsChain Token.Apart
  | .null, _, follows => follows.cons .null
  | .bool b, _, follows => follows.cons (.bool b)
  | .num n, _, follows => follows.cons (.num n)
  | .str s, _, follows => follows.cons (.str s)
  | .arr [], _, follows =>
    (followsNumber_cons rfl follows.chain).cons .openBracket
  | .arr (item :: items), _, follows => by
    rw [tokens, List.cons_append, List.cons_append, List.append_assoc]
    exact (followsNumber_cons rfl (chain_tokens item (follows_moreItems items follows))).chain
  | .obj [], _, follows =>
    (followsNumber_cons rfl follows.chain).cons .openBrace
  | .obj (member :: members), _, follows => by
    rw [tokens, List.cons_append, List.cons_append, List.append_assoc]
    exact (followsNumber_cons rfl
      (chain_memberTokens member (follows_moreMembers members follows))).chain

theorem follows_moreItems : ∀ (items : List Json) {rest : List Token}, FollowsNumber rest →
    FollowsNumber (moreItems items ++ rest)
  | [], _, follows => followsNumber_cons rfl follows.chain
  | item :: items, _, follows => by
    rw [moreItems, List.cons_append, List.cons_append, List.append_assoc]
    exact followsNumber_cons rfl (chain_tokens item (follows_moreItems items follows))

theorem follows_moreMembers : ∀ (members : List (Literal × Json)) {rest : List Token},
    FollowsNumber rest → FollowsNumber (moreMembers members ++ rest)
  | [], _, follows => followsNumber_cons rfl follows.chain
  | member :: members, _, follows => by
    rw [moreMembers, List.cons_append, List.cons_append, List.append_assoc]
    exact followsNumber_cons rfl (chain_memberTokens member (follows_moreMembers members follows))

theorem chain_memberTokens : ∀ (member : Literal × Json) {rest : List Token},
    FollowsNumber rest → (memberTokens member ++ rest).IsChain Token.Apart
  | (key, value), _, follows =>
    (followsNumber_cons rfl (chain_tokens value follows)).cons (.str key)

end

/-! ## The value of a row of tokens -/

namespace Reader

theorem tokens_eq_cons (j : Json) : ∃ t ts, tokens j = t :: ts ∧ t ≠ .closeBracket := by
  cases j with
  | arr items => cases items <;> exact ⟨_, _, rfl, Token.noConfusion⟩
  | obj members => cases members <;> exact ⟨_, _, rfl, Token.noConfusion⟩
  | _ => exact ⟨_, _, rfl, Token.noConfusion⟩

/-- A first item is read like any value that waits inside an empty array. -/
theorem foldlM_firstItem (j : Json) (frames : List Frame) :
    (tokens j).foldlM step? (.firstItem frames) =
      (tokens j).foldlM step? (.value (.item [] :: frames)) := by
  obtain ⟨t, ts, eq, other⟩ := tokens_eq_cons j
  rw [eq, List.foldlM_cons, List.foldlM_cons]
  cases t with
  | closeBracket => exact absurd rfl other
  | _ => rfl

-- The frames are arbitrary, because an item is read inside the frame of its array.
mutual

theorem foldlM_tokens : ∀ (j : Json) (frames : List Frame),
    (tokens j).foldlM step? (.value frames) = some (deliver j frames)
  | .null, _ => rfl
  | .bool _, _ => rfl
  | .num _, _ => rfl
  | .str _, _ => rfl
  | .arr [], _ => rfl
  | .arr (item :: rest), frames => by
    rw [tokens, List.cons_append, List.foldlM_cons]
    show (tokens item ++ moreItems rest).foldlM step? (.firstItem frames) = _
    rw [List.foldlM_append, foldlM_firstItem, foldlM_tokens item]
    exact foldlM_moreItems rest [item] frames
  | .obj [], _ => rfl
  | .obj ((key, j) :: rest), frames => by
    rw [tokens, List.cons_append, List.foldlM_cons]
    show (memberTokens (key, j) ++ moreMembers rest).foldlM step? (.firstKey frames) = _
    rw [List.foldlM_append, memberTokens]
    show ((tokens j).foldlM step? (.value (.member [] key :: frames)) >>= _) = _
    rw [foldlM_tokens j]
    exact foldlM_moreMembers rest [(key, j)] frames

theorem foldlM_moreItems : ∀ (items done : List Json) (frames : List Frame),
    (moreItems items).foldlM step? (.afterItem done frames) =
      some (deliver (.arr (done.reverse ++ items)) frames)
  | [], done, frames => by
    rw [List.append_nil]
    rfl
  | item :: rest, done, frames => by
    rw [moreItems, List.cons_append, List.foldlM_cons]
    show (tokens item ++ moreItems rest).foldlM step? (.value (.item done :: frames)) = _
    rw [List.foldlM_append, foldlM_tokens item]
    show (moreItems rest).foldlM step? (.afterItem (item :: done) frames) = _
    rw [foldlM_moreItems rest, List.reverse_cons, List.append_assoc, List.singleton_append]

theorem foldlM_moreMembers : ∀ (members done : List (Literal × Json)) (frames : List Frame),
    (moreMembers members).foldlM step? (.afterMember done frames) =
      some (deliver (.obj (done.reverse ++ members)) frames)
  | [], done, frames => by
    rw [List.append_nil]
    rfl
  | (key, j) :: rest, done, frames => by
    rw [moreMembers, List.cons_append, List.foldlM_cons]
    show (memberTokens (key, j) ++ moreMembers rest).foldlM step? (.nextKey done frames) = _
    rw [List.foldlM_append, memberTokens]
    show ((tokens j).foldlM step? (.value (.member done key :: frames)) >>= _) = _
    rw [foldlM_tokens j]
    show (moreMembers rest).foldlM step? (.afterMember ((key, j) :: done) frames) = _
    rw [foldlM_moreMembers rest, List.reverse_cons, List.append_assoc, List.singleton_append]

end

end Reader

theorem ofTokens?_tokens (j : Json) : ofTokens? (tokens j) = some j := by
  rw [ofTokens?, Reader.foldlM_tokens]
  rfl

/-! ## Texts -/

/-- A text that consists of the tokens of a value and white space reads back as that value. -/
theorem parse?_spaced {j : Json} {text : String} (spaced : Spaced (tokens j) text.toList) :
    parse? text = some j := by
  have follows : FollowsNumber [] := ⟨.nil, fun _ first => by cases first⟩
  have apart : (tokens j).IsChain Token.Apart := by
    rw [← List.append_nil (tokens j)]
    exact chain_tokens j follows
  have read := spaced.reads apart _ (Nat.le_refl _)
  rw [parse?, tokens?, read]
  exact ofTokens?_tokens j

theorem parse?_pieces {ps : List Piece} {j : Json} (same : ps.filterMap Piece.token? = tokens j) :
    parse? (String.ofList (ps.flatMap Piece.chars)) = some j := by
  refine parse?_spaced ?_
  rw [← same, String.toList_ofList]
  exact spaced_pieces ps

theorem parse?_compact (j : Json) : parse? j.compact = some j := by
  have same : (j.tokens.map Piece.token).filterMap Piece.token? = tokens j := by
    simp [List.filterMap_map, Function.comp_def, Piece.token?]
  have read := parse?_pieces same
  rwa [List.flatMap_map] at read

theorem parse?_pretty (j : Json) : parse? j.pretty = some j :=
  parse?_pieces (filterMap_pieces 0 j)

end SpriteStage.Json
