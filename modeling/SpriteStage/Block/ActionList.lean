import SpriteStage.Block.Instance
import SpriteStage.Fault

/-! # Action lists

The program of one sprite: its blocks, in order.

* `push`, `remove`, `setValue`, `clear` — the edits; an index outside the list is refused
-/

namespace SpriteStage

set_option autoImplicit false

/-- The blocks of one sprite, in order. -/
structure ActionList where
  blocks : List BlockInstance

namespace ActionList

def empty : ActionList :=
  ⟨[]⟩

def size (list : ActionList) : Nat :=
  list.blocks.length

def isEmpty (list : ActionList) : Bool :=
  list.blocks.isEmpty

/-- The value of a parameter of the block with the given index. -/
def value? (list : ActionList) (index : Nat) (name : String) : Option Param := do
  (← list.blocks[index]?).value? name

/-! ## Edits -/

/-- Appends a block; its index comes with the new list. -/
def push (list : ActionList) (block : BlockInstance) : Nat × ActionList :=
  (list.size, ⟨list.blocks ++ [block]⟩)

/-- The index lies outside the list. -/
def outOfRange (list : ActionList) (index : Nat) : Fault :=
  .blockIndexOutOfRange index list.size

def remove (list : ActionList) (index : Nat) : Except Fault (BlockInstance × ActionList) :=
  match list.blocks[index]? with
  | some block => .ok (block, ⟨list.blocks.eraseIdx index⟩)
  | none => .error (list.outOfRange index)

def setValue (list : ActionList) (index : Nat) (name : String) (value : Param) :
    Except Fault ActionList :=
  if index < list.size then .ok ⟨list.blocks.modify index fun block => block.withValue name value⟩
  else .error (list.outOfRange index)

def clear (_ : ActionList) : ActionList :=
  empty

/-! ## In JSON -/

def toJson (list : ActionList) : Json :=
  .arr (list.blocks.map BlockInstance.toJson)

def ofJson? (j : Json) : Option ActionList :=
  (j.toList? BlockInstance.ofJson?).map ActionList.mk

end ActionList

end SpriteStage
