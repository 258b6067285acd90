import Mathlib.Data.List.InsertIdx
import SpriteStage.Block.Edit
import SpriteStage.Proofs.Block.Parameters

/-! # Edits and the blocks that are made

A program is edited as what has been entered, and performed as the blocks made from that. Every edit
does to the blocks what it does to the list, so that whoever keeps the blocks can edit them too.

* `ActionList.compile_modify` — a change of one block that has been entered
* `Edit.perform_remove`, `Edit.perform_setValue` — edits at an index, refused or not
* `Edit.revise` — an edit of blocks that are ready to be performed
* `Edit.compile_perform`, `ActionList.compile_after` — one edit, and any number of them
* `ActionList.blocks_of_edits` — the blocks and the answers after any edits
-/

namespace SpriteStage

set_option autoImplicit false

/-! ## Lists of blocks -/

namespace ActionList

variable {list : ActionList} {index : Nat} {block : BlockInstance} {name : String} {value : Param}

@[simp] theorem length_compile (list : ActionList) : list.compile.length = list.size :=
  List.length_map _

theorem compile_append (list : ActionList) (block : BlockInstance) :
    (mk (list.blocks ++ [block])).compile = list.compile ++ [.ofInstance block] :=
  List.map_append

theorem compile_eraseIdx (list : ActionList) (index : Nat) :
    (mk (list.blocks.eraseIdx index)).compile = list.compile.eraseIdx index :=
  (List.eraseIdx_map _ _ _).symm

theorem compile_modify (list : ActionList) (index : Nat) (name : String) (value : Param) :
    (mk (list.blocks.modify index fun block => block.withValue name value)).compile =
      list.compile.modify index (Block.withParameter name value) := by
  -- Index by index, so that an index outside the list needs no case of its own.
  refine List.ext_getElem? fun other => ?_
  rw [compile, compile, List.getElem?_map, List.getElem?_modify, List.getElem?_modify,
    List.getElem?_map]
  cases list.blocks[other]? with
  | none => rfl
  | some block =>
    by_cases here : index = other
    · simp [here, Block.ofInstance_withValue]
    · simp [here]

theorem lt_size (there : list.blocks[index]? = some block) : index < list.size :=
  (List.getElem?_eq_some_iff.mp there).1

theorem getElem?_compile (there : list.blocks[index]? = some block) :
    list.compile[index]? = some (.ofInstance block) := by
  rw [compile, List.getElem?_map, there, Option.map_some]

theorem compile_modify_eq_set (there : list.blocks[index]? = some block) (name : String)
    (value : Param) :
    list.compile.modify index (Block.withParameter name value) =
      list.compile.set index (.ofInstance (block.withValue name value)) := by
  obtain ⟨inside, made⟩ := List.getElem?_eq_some_iff.mp (getElem?_compile there)
  rw [List.modify_eq_take_cons_drop inside, List.set_eq_take_append_cons_drop, if_pos inside, made,
    Block.ofInstance_withValue]

theorem compile_set_self (there : list.blocks[index]? = some block) :
    list.compile.set index (.ofInstance block) = list.compile := by
  obtain ⟨inside, made⟩ := List.getElem?_eq_some_iff.mp (getElem?_compile there)
  rw [← made, List.set_getElem_self inside]

theorem remove_of_getElem? (there : list.blocks[index]? = some block) :
    list.remove index = .ok (block, ⟨list.blocks.eraseIdx index⟩) := by
  rw [remove, there]

theorem remove_of_le (beyond : list.size ≤ index) :
    list.remove index = .error (list.outOfRange index) := by
  rw [remove, List.getElem?_eq_none beyond]

theorem setValue_of_lt (inside : index < list.size) :
    list.setValue index name value =
      .ok ⟨list.blocks.modify index fun block => block.withValue name value⟩ :=
  if_pos inside

theorem setValue_of_le (beyond : list.size ≤ index) :
    list.setValue index name value = .error (list.outOfRange index) :=
  if_neg (Nat.not_lt.mpr beyond)

end ActionList

/-! ## Single edits -/

namespace Edit

variable {list : ActionList} {edit : Edit} {index : Nat} {block : BlockInstance}

/-- The block that an edit appends. -/
def appended? : Edit → Option BlockInstance
  | push kind => some (.ofKind kind)
  | pushInstance block => some block
  | _ => none

/-- The index that an edit asks for. -/
def index? : Edit → Option Nat
  | remove index => some index
  | setValue index _ _ => some index
  | _ => none

theorem answer_of_run {answer : Answer} {next : ActionList} (run : edit.run list = .ok (answer, next)) :
    edit.answer list = .ok answer := by
  rw [Edit.answer, run]
  rfl

theorem answer_of_refused {fault : Fault} (refused : edit.run list = .error fault) :
    edit.answer list = .error fault := by
  rw [answer, refused]
  rfl

theorem perform_of_run {answer : Answer} {next : ActionList}
    (run : edit.run list = .ok (answer, next)) : edit.perform list = next := by
  rw [perform, run]

theorem run_of_appended? (new : edit.appended? = some block) :
    edit.run list = .ok (.index list.size, ⟨list.blocks ++ [block]⟩) := by
  cases edit with
  | push kind => cases new; rfl
  | pushInstance block => cases new; rfl
  | _ => cases new

theorem run_remove (there : list.blocks[index]? = some block) :
    (remove index).run list = .ok (.block block, ⟨list.blocks.eraseIdx index⟩) := by
  rw [run, ActionList.remove_of_getElem? there]
  rfl

theorem run_setValue (inside : index < list.size) (name : String) (value : Param) :
    (setValue index name value).run list =
      .ok (.done, ⟨list.blocks.modify index fun block => block.withValue name value⟩) := by
  rw [run, ActionList.setValue_of_lt inside]
  rfl

theorem run_of_le (asks : edit.index? = some index) (beyond : list.size ≤ index) :
    edit.run list = .error (.blockIndexOutOfRange index list.size) := by
  cases edit with
  | remove other => cases asks; rw [run, ActionList.remove_of_le beyond]; rfl
  | setValue other name value => cases asks; rw [run, ActionList.setValue_of_le beyond]; rfl
  | _ => cases asks

theorem perform_of_le (asks : edit.index? = some index) (beyond : list.size ≤ index) :
    edit.perform list = list := by
  rw [perform, run_of_le asks beyond]

/-- Outside the list there is nothing to take out: what is refused would have done nothing. -/
theorem perform_remove (list : ActionList) (index : Nat) :
    (remove index).perform list = ⟨list.blocks.eraseIdx index⟩ := by
  cases there : list.blocks[index]? with
  | some block => exact perform_of_run (run_remove there)
  | none =>
    have beyond := List.getElem?_eq_none_iff.mp there
    rw [perform_of_le rfl beyond, List.eraseIdx_of_length_le beyond]

theorem perform_setValue (list : ActionList) (index : Nat) (name : String) (value : Param) :
    (setValue index name value).perform list =
      ⟨list.blocks.modify index fun block => block.withValue name value⟩ := by
  by_cases inside : index < list.size
  · exact perform_of_run (run_setValue inside name value)
  · have beyond := Nat.not_lt.mp inside
    rw [perform_of_le rfl beyond, List.modify_eq_self beyond]

/-! ## Edits of blocks that are ready to be performed -/

/-- What an edit does to blocks that are ready to be performed. -/
def revise (blocks : List Block) : Edit → List Block
  | push kind => blocks ++ [.ofInstance (.ofKind kind)]
  | pushInstance block => blocks ++ [.ofInstance block]
  | remove index => blocks.eraseIdx index
  | setValue index name value => blocks.modify index (Block.withParameter name value)
  | clear => []

theorem compile_perform (list : ActionList) (edit : Edit) :
    (edit.perform list).compile = edit.revise list.compile := by
  cases edit with
  | push kind => exact list.compile_append _
  | pushInstance block => exact list.compile_append _
  | remove index => rw [perform_remove, ActionList.compile_eraseIdx, revise]
  | setValue index name value => rw [perform_setValue, ActionList.compile_modify, revise]
  | clear => rfl

end Edit

/-! ## Programs after any edits -/

namespace ActionList

/-- Making the blocks may wait until after the edits, or come first. -/
theorem compile_after (list : ActionList) (edits : List Edit) :
    (list.after edits).compile = edits.foldl Edit.revise list.compile :=
  (List.foldl_hom compile fun list edit => (edit.compile_perform list).symm).symm

variable {list : ActionList} {index : Nat} {block : BlockInstance}

/-- A value that is entered leaves the other blocks alone, and the kind of this one. -/
theorem map_kind_compile_setValue (there : list.blocks[index]? = some block) (name : String)
    (value : Param) :
    (((Edit.setValue index name value).perform list).compile).map Block.kind =
      list.compile.map Block.kind := by
  have sameKind : (block.withValue name value).kind = block.kind := rfl
  calc (((Edit.setValue index name value).perform list).compile).map Block.kind
      = (list.compile.set index (.ofInstance (block.withValue name value))).map Block.kind := by
        rw [Edit.compile_perform, Edit.revise, compile_modify_eq_set there]
    _ = (list.compile.set index (.ofInstance block)).map Block.kind := by
        rw [List.map_set, List.map_set, Block.kind_ofInstance, Block.kind_ofInstance, sameKind]
    _ = list.compile.map Block.kind := by rw [compile_set_self there]

/--
The blocks that are made from a program after any edits, some of which may have been refused. They
are what the edits make of the blocks of the program at first. A new block comes last, and its index
is the answer. A block that is taken out is the answer, and the others stay in order. A value that
is entered changes one block at most, never its kind, and nothing at all under a name that the
catalog does not give to that kind. An index outside the list is refused, and the list stays. The
parameters in the catalog are those that count: blocks with the same values of these are the same,
and each of these has values that make a difference.
-/
theorem blocks_of_edits (start : ActionList) (edits : List Edit) :
    let list := start.after edits
    let blocks := list.compile
    blocks = edits.foldl Edit.revise start.compile ∧
    (∀ (edit : Edit) block, edit.appended? = some block →
      edit.answer list = .ok (.index blocks.length) ∧
      (edit.perform list).compile = blocks ++ [.ofInstance block]) ∧
    (∀ index block, list.blocks[index]? = some block →
      (Edit.remove index).answer list = .ok (.block block) ∧
      ((Edit.remove index).perform list).compile =
        blocks.take index ++ blocks.drop (index + 1)) ∧
    (∀ index block name value, list.blocks[index]? = some block →
      let edit := Edit.setValue index name value
      let changed := (edit.perform list).compile
      edit.answer list = .ok .done ∧
      changed = blocks.set index (.ofInstance (block.withValue name value)) ∧
      changed.map Block.kind = blocks.map Block.kind ∧
      (name ∉ block.kind.blockType.parameters → changed = blocks)) ∧
    (Edit.clear.answer list = .ok .done ∧ (Edit.clear.perform list).compile = []) ∧
    (∀ (edit : Edit) index, edit.index? = some index → list.size ≤ index →
      edit.answer list = .error (.blockIndexOutOfRange index list.size) ∧
      edit.perform list = list) ∧
    (∀ kind entry, entry ∈ catalog ∧ entry.kind = kind ↔ entry = kind.blockType) ∧
    (∀ first second : BlockInstance, first.kind = second.kind →
      (∀ name ∈ first.kind.blockType.parameters, first.value? name = second.value? name) →
      Block.ofInstance first = .ofInstance second) ∧
    ∀ (block : BlockInstance) (name : String), name ∈ block.kind.blockType.parameters →
      ∃ value other, Block.ofInstance (block.withValue name value) ≠
        .ofInstance (block.withValue name other) := by
  intro list blocks
  refine ⟨start.compile_after edits, ?_, ?_, ?_, ⟨rfl, rfl⟩, ?_, mem_catalog_iff, ?_, ?_⟩
  · intro edit block new
    have run : edit.run list = _ := Edit.run_of_appended? new
    rw [Edit.answer_of_run run, Edit.perform_of_run run, compile_append, length_compile]
    exact ⟨rfl, rfl⟩
  · intro index block there
    refine ⟨Edit.answer_of_run (Edit.run_remove there), ?_⟩
    rw [Edit.compile_perform, Edit.revise, List.eraseIdx_eq_take_drop_succ]
  · intro index block name value there edit changed
    have changed_eq : changed = blocks.set index (.ofInstance (block.withValue name value)) := by
      rw [← compile_modify_eq_set there]
      exact edit.compile_perform list
    refine ⟨Edit.answer_of_run (Edit.run_setValue (lt_size there) name value), changed_eq,
      map_kind_compile_setValue there name value, fun unnamed => ?_⟩
    rw [changed_eq, Block.ofInstance_withValue_of_not_mem unnamed, compile_set_self there]
  · intro edit index asks beyond
    exact ⟨Edit.answer_of_refused (Edit.run_of_le asks beyond), Edit.perform_of_le asks beyond⟩
  · exact fun first second same agree => Block.ofInstance_congr same agree
  · exact fun block name named => ⟨_, _, Block.ofInstance_withValue_ne named⟩

/-- Blocks come and go, and two of the edits ask for a block that is not there. -/
def rehearsal : List Edit :=
  [.push .move, .push .goTo, .setValue 2 "x" (.text "3"), .setValue 1 "x" (.text "12px"), .remove 0,
    .remove 1, .pushInstance (.speak (.text "hi") (.text "")), .setValue 0 "note" (.text "left")]

/-- Two jumps with the same target, one of them with a note. -/
theorem blocks_of_edits_rehearsal :
    let list := empty.after rehearsal
    let jump : BlockInstance := (BlockInstance.ofKind .goTo).withValue "x" (.text "12px")
    let noted := jump.withValue "note" (.text "left")
    list.compile = [.goTo 12 0, .bubble .speech "hi" 1000] ∧
      ((Edit.push .think).appended? = some (.ofKind .think) ∧
        (Edit.push .think).answer list = .ok (.index 2)) ∧
      (list.blocks[0]? = some noted ∧
        (Edit.remove 0).answer list = .ok (.block noted) ∧
        ((Edit.remove 0).perform list).compile = [.bubble .speech "hi" 1000]) ∧
      ("x" ∈ noted.kind.blockType.parameters ∧ "note" ∉ noted.kind.blockType.parameters ∧
        ((Edit.setValue 0 "note" (.text "right")).perform list).compile = list.compile ∧
        ((Edit.setValue 0 "x" (.text "7")).perform list).compile =
          [.goTo 7 0, .bubble .speech "hi" 1000]) ∧
      ((Edit.remove 2).index? = some 2 ∧ list.size ≤ 2 ∧
        (Edit.remove 2).answer list = .error (.blockIndexOutOfRange 2 2) ∧
        (Edit.remove 2).perform list = list) ∧
      (BlockKind.goTo.blockType ∈ catalog ∧ BlockKind.goTo.blockType.kind = .goTo) ∧
      ((∀ name ∈ noted.kind.blockType.parameters, noted.value? name = jump.value? name) ∧
        Block.ofInstance noted = .ofInstance jump) ∧
      ∃ value other, Block.ofInstance (noted.withValue "x" value) ≠
        .ofInstance (noted.withValue "x" other) := by
  intro list jump noted
  obtain ⟨made, appended, removed, entered, -, refused, inCatalog, agree, counts⟩ :=
    blocks_of_edits empty rehearsal
  have blocks : list.compile = [.goTo 12 0, .bubble .speech "hi" 1000] :=
    made.trans (by decide +kernel)
  have first : list.blocks[0]? = some noted := rfl
  have listed : "x" ∈ noted.kind.blockType.parameters := by decide
  have unlisted : "note" ∉ noted.kind.blockType.parameters := by decide
  have two : list.size = 2 := by rw [← length_compile, blocks]; rfl
  have same : ∀ name ∈ noted.kind.blockType.parameters, noted.value? name = jump.value? name := by
    intro name named
    have different : "note" ≠ name := fun same => unlisted (same ▸ named)
    exact (jump.value?_withValue "note" (.text "left") name).trans (if_neg different)
  refine ⟨blocks, ⟨rfl, ?_⟩, ⟨first, ?_⟩, ⟨listed, unlisted, ?_, ?_⟩, ⟨rfl, two.le, ?_⟩,
    (inCatalog .goTo _).mpr rfl, ⟨same, agree noted jump rfl same⟩, counts noted "x" listed⟩
  · rw [(appended (.push .think) _ rfl).1]
    exact congrArg (Except.ok ∘ Edit.Answer.index) (congrArg List.length blocks)
  · obtain ⟨answer, rest⟩ := removed 0 noted first
    refine ⟨answer, rest.trans ?_⟩
    rw [show (empty.after rehearsal).compile = _ from blocks]
    rfl
  · exact (entered 0 noted "note" (.text "right") first).2.2.2 unlisted
  · refine (entered 0 noted "x" (.text "7") first).2.1.trans ?_
    rw [show (empty.after rehearsal).compile = _ from blocks]
    decide +kernel
  · have answer := refused (.remove 2) 2 rfl two.le
    rwa [two] at answer

end ActionList

end SpriteStage
