import SpriteStage.Block.Kind
import SpriteStage.Block.Param

/-! # Block instances

A block as it stands in a program: its kind, and the values entered for its parameters, under any
names whatever.

* `Values` — values by name, in the order of the names
* `BlockInstance` — a kind with values
* `BlockInstance.moveBy` and its companions — instances with all parameters given
-/

namespace SpriteStage

set_option autoImplicit false

/-! ## Values by name -/

namespace Values

/-- Puts a value under a name, in place of the value that was there. -/
def insertEntry (name : String) (value : Param) : List (String × Param) → List (String × Param)
  | [] => [(name, value)]
  | entry :: rest =>
    if name < entry.1 then (name, value) :: entry :: rest
    else if name = entry.1 then (name, value) :: rest
    else entry :: insertEntry name value rest

/-- An inserted name is the only one that can be new. -/
theorem mem_keys_insertEntry {name : String} {value : Param} {entries : List (String × Param)}
    {e : String × Param} (h : e ∈ insertEntry name value entries) : e.1 = name ∨ e ∈ entries := by
  induction entries with
  | nil => simp_all [insertEntry]
  | cons entry rest ih =>
    unfold insertEntry at h
    split at h
    · rcases List.mem_cons.1 h with rfl | h
      · exact .inl rfl
      · exact .inr h
    · split at h
      · rcases List.mem_cons.1 h with rfl | h
        · exact .inl rfl
        · exact .inr (List.mem_cons_of_mem _ h)
      · rcases List.mem_cons.1 h with rfl | h
        · exact .inr List.mem_cons_self
        · exact (ih h).imp_right (List.mem_cons_of_mem _)

/-- Insertion keeps the names in order. -/
theorem pairwise_insertEntry {name : String} {value : Param} {entries : List (String × Param)}
    (h : entries.Pairwise fun a b => a.1 < b.1) :
    (insertEntry name value entries).Pairwise fun a b => a.1 < b.1 := by
  induction entries with
  | nil => simp [insertEntry]
  | cons entry rest ih =>
    have ⟨first, later⟩ := List.pairwise_cons.1 h
    unfold insertEntry
    split
    · rename_i before
      refine List.pairwise_cons.2 ⟨fun e he => ?_, h⟩
      rcases List.mem_cons.1 he with rfl | he
      · exact before
      · exact String.lt_trans before (first e he)
    · rename_i before
      split
      · rename_i same
        exact List.pairwise_cons.2 ⟨fun e he => same ▸ first e he, later⟩
      · rename_i other
        refine List.pairwise_cons.2 ⟨fun e he => ?_, ih later⟩
        rcases mem_keys_insertEntry he with he | he
        · rw [he]
          exact Std.lt_of_le_of_ne (String.not_lt.1 before) (Ne.symm other)
        · exact first e he

end Values

/-- Values by name. No name occurs twice, and the names are in the order of their code points. -/
structure Values where
  entries : List (String × Param)
  ordered : entries.Pairwise fun a b => a.1 < b.1

namespace Values

def empty : Values :=
  ⟨[], .nil⟩

def get? (values : Values) (name : String) : Option Param :=
  (values.entries.find? fun entry => entry.1 == name).map Prod.snd

/-- Puts a value under a name, in place of the value that was there. -/
def insert (values : Values) (name : String) (value : Param) : Values :=
  ⟨insertEntry name value values.entries, pairwise_insertEntry values.ordered⟩

/-- Of several values under one name the last counts. -/
def ofList (entries : List (String × Param)) : Values :=
  entries.foldl (fun values entry => values.insert entry.1 entry.2) empty

def toJson (values : Values) : Json :=
  .ofMembers (values.entries.map fun (name, value) => (name, value.toJson))

/-- The members of an object, whatever their names; of several with one name the last counts. -/
def ofJson? : Json → Option Values
  | .obj members => do
    let entries ← members.mapM fun (key, value) => do return (← key, ← Param.ofJson? value)
    return ofList entries
  | _ => none

end Values

/-! ## Instances -/

/-- A block as it stands in a program. -/
structure BlockInstance where
  kind : BlockKind
  values : Values

namespace BlockInstance

/-- A block for which nothing has been entered. -/
def ofKind (kind : BlockKind) : BlockInstance :=
  ⟨kind, .empty⟩

def value? (block : BlockInstance) (name : String) : Option Param :=
  block.values.get? name

def withValue (block : BlockInstance) (name : String) (value : Param) : BlockInstance :=
  { block with values := block.values.insert name value }

def moveBy (steps : Param) : BlockInstance :=
  (ofKind .move).withValue "steps" steps

def turnBy (degrees : Param) : BlockInstance :=
  (ofKind .turn).withValue "degrees" degrees

def goTo (x y : Param) : BlockInstance :=
  ((ofKind .goTo).withValue "x" x).withValue "y" y

def again (times : Param) : BlockInstance :=
  (ofKind .again).withValue "times" times

def speak (text time : Param) : BlockInstance :=
  ((ofKind .speak).withValue "text" text).withValue "time" time

def think (text time : Param) : BlockInstance :=
  ((ofKind .think).withValue "text" text).withValue "time" time

def toJson (block : BlockInstance) : Json :=
  .ofMembers [("kind", block.kind.toJson), ("values", block.values.toJson)]

/-- A block; its values may be left out. -/
def ofJson? (j : Json) : Option BlockInstance := do
  let r ← j.record? ["kind", "values"]
  let kind ← r.require? "kind" BlockKind.ofJson?
  let values ← r.default? "values" .empty Values.ofJson?
  return ⟨kind, values⟩

end BlockInstance

end SpriteStage
