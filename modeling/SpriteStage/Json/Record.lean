import SpriteStage.Json.Value

/-! # Records in JSON

A record is written as an object, and may also be read from an array of its fields in order. This
module settles what that means once, for all records of the library.

* `Json.record?` — the fields of a record with the given names, wherever they stand
* `Json.strictRecord?` — the same for a record that takes no other members
* `Record.require?`, `Record.default?`, `Record.optional?` — a field that has to be there, one with
  a default, and one whose absence from an object means nothing
* `Json.name?` — a name out of a fixed choice, as a string or as the key of an object holding null
* `Json.tagged?` — a record with a tag among its fields that says which record it is
-/

namespace SpriteStage.Json

set_option autoImplicit false

/-- The fields found for a record; `named` when they came from an object. -/
structure Record where
  named : Bool
  fields : List (String × Json)

/-- Every key has characters. -/
def keys? (members : List (Literal × Json)) : Option (List (String × Json)) :=
  members.mapM fun (key, value) => key.map (·, value)

/-- The members with the given names, unless one of the names occurs twice. -/
def selectFields? (names : List String) (members : List (String × Json)) :
    Option (List (String × Json)) :=
  let known := members.filter fun member => names.contains member.1
  if (known.map Prod.fst).Nodup then some known else none

/--
The fields of a record. In an object, members with other names are passed over and a name may occur
once; in an array, the fields stand in the order of the names and there are no others.
-/
def record? (names : List String) : Json → Option Record
  | .obj members => do
    let fields ← selectFields? names (← keys? members)
    return ⟨true, fields⟩
  | .arr items => if items.length ≤ names.length then some ⟨false, names.zip items⟩ else none
  | _ => none

/-- The fields of a record that takes no members with other names. -/
def strictRecord? (names : List String) : Json → Option Record
  | .obj members => do
    let fields ← keys? members
    if fields.all fun field => names.contains field.1 then record? names (.obj members) else none
  | j => record? names j

namespace Record

/-- The field with the given name, if it is there. -/
def find? (r : Record) (name : String) : Option Json :=
  (r.fields.find? fun field => field.1 == name).map Prod.snd

/-- A field that has to be there. -/
def require? {α : Type} (r : Record) (name : String) (read : Json → Option α) : Option α := do
  read (← r.find? name)

/-- A field with a default, which stands in for it when it is absent. -/
def default? {α : Type} (r : Record) (name : String) (default : α) (read : Json → Option α) :
    Option α :=
  match r.find? name with
  | some value => read value
  | none => some default

/-- A value, or null for none. -/
def nullable? {α : Type} (read : Json → Option α) : Json → Option (Option α)
  | .null => some none
  | value => (read value).map some

/-- A field that may hold null, and that an object may leave out; an array may not. -/
def optional? {α : Type} (r : Record) (name : String) (read : Json → Option α) :
    Option (Option α) :=
  match r.find? name with
  | some value => nullable? read value
  | none => if r.named then some none else none

end Record

/-! ## Plain values -/

def toBool? : Json → Option Bool
  | .bool b => some b
  | _ => none

/-- A string that has characters. -/
def toString? : Json → Option String
  | .str s => s
  | _ => none

/-- Any number that is not too large for a double. -/
def toFloat? : Json → Option Float
  | .num n => n.toFloat?
  | _ => none

/-- An integer between the given bounds. -/
def toIntWithin? (least greatest : Int) : Json → Option Int
  | .num n => n.toInt?.filter fun i => least ≤ i ∧ i ≤ greatest
  | _ => none

def toInt64? (j : Json) : Option Int64 :=
  (j.toIntWithin? leastInt64 greatestInt64).map Int64.ofInt

def toUInt64? (j : Json) : Option UInt64 :=
  (j.toIntWithin? 0 greatestUInt64).map fun i => UInt64.ofNat i.toNat

/-- An array, each item read in turn. -/
def toList? {α : Type} (read : Json → Option α) : Json → Option (List α)
  | .arr items => items.mapM read
  | _ => none

def ofInt64 (n : Int64) : Json :=
  .ofInt n.toInt

def ofUInt64 (n : UInt64) : Json :=
  .ofInt n.toNat

/-- A value, or null for none, written. -/
def ofOption {α : Type} (write : α → Json) : Option α → Json
  | none => .null
  | some value => write value

/-- A name out of a fixed choice: a string, or an object with that one key, which holds null. -/
def name? : Json → Option String
  | .str s => s
  | .obj [(key, .null)] => key
  | _ => none

/-! ## Tagged records -/

/-- How deep arrays and objects may be nested in a text that holds a tagged record. -/
def greatestDepth : Nat :=
  127

/--
The tag of a record and its other fields. In an object the tag may stand anywhere, but only once; in
an array it comes first. Since the tag decides what the other fields are, they all have to be
definite, also those that turn out to be of no interest.
-/
def tagged? (tag : String) (room : Nat) (j : Json) : Option (String × Json) :=
  if j.isDefinite room then
    match j with
    | .obj members =>
      match members.partition fun member => member.1 == some tag with
      | ([(_, .str name)], fields) => name.map fun name => (name, .obj fields)
      | _ => none
    | .arr (.str name :: fields) => name.map fun name => (name, .arr fields)
    | _ => none
  else none

end SpriteStage.Json
