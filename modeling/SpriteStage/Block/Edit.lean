import SpriteStage.Block.ActionList

/-! # Edits of a program

What is done to a list of blocks, one thing after the other.

* `Edit` — the edits
* `Edit.answer` — what is answered to an edit
* `Edit.perform` — the list afterwards; an edit that is refused changes nothing
-/

namespace SpriteStage

set_option autoImplicit false

/-- Something that is done to a list of blocks. -/
inductive Edit where
  /-- Appends a block for which nothing has been entered. -/
  | push (kind : BlockKind)
  /-- Appends a block with its values. -/
  | pushInstance (block : BlockInstance)
  | remove (index : Nat)
  | setValue (index : Nat) (name : String) (value : Param)
  | clear

namespace Edit

/-- What an edit is answered with when it is not refused. -/
inductive Answer where
  /-- The index of a new block. -/
  | index (index : Nat)
  /-- A block that has been taken out. -/
  | block (block : BlockInstance)
  | done

/-- The answer together with the new list. -/
def run (list : ActionList) : Edit → Except Fault (Answer × ActionList)
  | push kind => .ok (Prod.map Answer.index id (list.push (.ofKind kind)))
  | pushInstance block => .ok (Prod.map Answer.index id (list.push block))
  | remove index => (list.remove index).map (Prod.map Answer.block id)
  | setValue index name value => (list.setValue index name value).map (Prod.mk Answer.done)
  | clear => .ok (Answer.done, list.clear)

def answer (list : ActionList) (edit : Edit) : Except Fault Answer :=
  (edit.run list).map Prod.fst

/-- The new list, or the old one if the edit was refused. -/
def perform (list : ActionList) (edit : Edit) : ActionList :=
  match edit.run list with
  | .ok changed => changed.2
  | .error _ => list

end Edit

/-- The list after some edits, in order. -/
def ActionList.after (list : ActionList) (edits : List Edit) : ActionList :=
  edits.foldl Edit.perform list

end SpriteStage
