import Mathlib.Data.List.Basic
import Std.Data.HashMap.Lemmas
import SpriteStage.Proofs.Store.Snapshot
import SpriteStage.Proofs.Store.Sound

/-! # A store in three parts

A store can be kept as records under their ids, a roster of ids, and the last id given out. Every
operation then changes the parts one after the other, and nothing but the operations ties them
together. Such an arena stands for a store throughout, and whatever is read from the one is what is
read from the other.

* `Arena` — the three parts, and the operations on them
* `Arena.Represents` — the arena stands for the store, and `Arena.Represents.perform`
* `Arena.ReadsAs` — everything that is read is the same
* `Arena.Keyed`, `Arena.Consistent` — the parts fit together, and so do the things read from them
-/

namespace SpriteStage

set_option autoImplicit false

instance : Hashable SpriteId :=
  ⟨fun id => hash id.number⟩

/-- The parts of a store: records under their ids, the roster, and the last id given out. -/
structure Arena where
  issued : UInt64
  roster : List SpriteId
  records : Std.HashMap SpriteId Sprite

namespace Arena

def empty : Arena :=
  ⟨0, [], ∅⟩

/-! ## Looking -/

def get (arena : Arena) (id : SpriteId) : Except Fault Sprite :=
  match arena.records[id]? with
  | some sprite => .ok sprite
  | none => .error (.spriteNotFound id)

def contains (arena : Arena) (id : SpriteId) : Bool :=
  arena.records.contains id

/-- The records in the order of the roster; an id without a record is passed over. -/
def list (arena : Arena) : List Sprite :=
  arena.roster.filterMap fun id => arena.records[id]?

def size (arena : Arena) : Nat :=
  arena.roster.length

def isEmpty (arena : Arena) : Bool :=
  arena.size == 0

def snapshot (arena : Arena) : Std.HashMap SpriteId Position :=
  arena.records.map fun _ sprite => sprite.position

/-! ## Operations -/

def add (arena : Arena) (name : String) (position : Position) : SpriteId × Arena :=
  let id : SpriteId := ⟨arena.issued + 1⟩
  (id, ⟨arena.issued + 1, arena.roster ++ [id],
    arena.records.insert id (.fresh id name position)⟩)

def remove (arena : Arena) (id : SpriteId) : Except Fault (Sprite × Arena) :=
  match arena.records[id]? with
  | some sprite =>
    .ok (sprite, { arena with
      roster := arena.roster.filter fun other => other ≠ id
      records := arena.records.erase id })
  | none => .error (.spriteNotFound id)

def modify (arena : Arena) (id : SpriteId) (change : Sprite → Sprite) : Arena :=
  { arena with records := arena.records.modify id change }

def update (arena : Arena) (id : SpriteId) (change : Sprite → Sprite) : Except Fault Arena :=
  if arena.records.contains id then .ok (arena.modify id change) else .error (.spriteNotFound id)

def drag (arena : Arena) (id : SpriteId) (position : Position) : Except Fault Arena :=
  arena.update id fun sprite => sprite.withPosition position

def setAngle (arena : Arena) (id : SpriteId) (angle : Float) : Except Fault Arena :=
  arena.update id fun sprite => sprite.withAngle angle

def publish (arena : Arena) (poses : List (SpriteId × Pose)) : Arena :=
  poses.foldl (fun arena entry => arena.modify entry.1 fun sprite => sprite.withPose entry.2) arena

def unlessRefused (arena : Arena) : Except Fault Arena → Arena
  | .ok changed => changed
  | .error _ => arena

def perform (arena : Arena) : Request → Arena
  | .look => arena
  | .add name position => (arena.add name position).2
  | .remove id => arena.unlessRefused ((arena.remove id).map Prod.snd)
  | .drag id position => arena.unlessRefused (arena.drag id position)
  | .setAngle id angle => arena.unlessRefused (arena.setAngle id angle)
  | .commitPose id pose => arena.modify id fun sprite => sprite.withPose pose
  | .setBubble id bubble => arena.modify id fun sprite => sprite.withBubble bubble
  | .publish poses => arena.publish poses

/-! ## Standing for a store -/

/-- The arena has the roster of the store, and under each id the sprite of this id. -/
structure Represents (arena : Arena) (store : Store) : Prop where
  issued : arena.issued = store.issued
  roster : arena.roster = store.ids
  records : ∀ id, arena.records[id]? = store.find? id

theorem represents_empty : empty.Represents .empty :=
  ⟨rfl, rfl, fun _ => Std.HashMap.getElem?_empty⟩

namespace Represents

variable {arena : Arena} {store : Store} (h : arena.Represents store)

include h

theorem contains (id : SpriteId) : arena.records.contains id = store.contains id := by
  rw [Std.HashMap.contains_eq_isSome_getElem?, h.records, Store.contains]

theorem modify (id : SpriteId) {change : Sprite → Sprite}
    (keeps : ∀ sprite, (change sprite).id = sprite.id) :
    (arena.modify id change).Represents (store.modify id change) := by
  refine ⟨h.issued, h.roster.trans (store.ids_modify id keeps).symm, fun other => ?_⟩
  rw [store.find?_modify id other keeps, Arena.modify, Std.HashMap.getElem?_modify, h.records,
    h.records]
  by_cases same : id = other
  · subst same
    simp
  · simp [same, Ne.symm same]

theorem unlessRefused_update (id : SpriteId) {change : Sprite → Sprite}
    (keeps : ∀ sprite, (change sprite).id = sprite.id) :
    (arena.unlessRefused (arena.update id change)).Represents
      (Request.unlessRefused store (store.update id change)) := by
  rw [Arena.update, Store.update, h.contains]
  split
  · exact h.modify id keeps
  · exact h

theorem publish (poses : List (SpriteId × Pose)) :
    (arena.publish poses).Represents (store.publish poses) := by
  induction poses generalizing arena store with
  | nil => exact h
  | cons entry rest ih => exact ih (h.modify entry.1 fun sprite => sprite.id_withPose entry.2)

theorem add (sound : store.Sound) (room : store.issued.toNat + 1 < UInt64.size) (name : String)
    (position : Position) :
    (arena.add name position).2.Represents (store.add name position).2 := by
  have fresh : store.find? ⟨store.issued + 1⟩ = none := by
    rw [store.find?_eq_none_iff]
    intro there
    exact UInt64.not_le.mpr (Store.lt_next_issued room) (sound.issued _ there)
  refine ⟨congrArg (· + 1) h.issued, ?_, fun id => ?_⟩
  · have roster : (store.add name position).2.ids = store.ids ++ [⟨store.issued + 1⟩] :=
      Request.ids_perform store (.add name position)
    rw [roster, ← h.roster, ← h.issued]
    rfl
  · rw [store.find?_add id, Arena.add, Std.HashMap.getElem?_insert, h.records, h.issued]
    by_cases new : (⟨store.issued + 1⟩ : SpriteId) = id
    · subst new
      simp [fresh]
    · simp [new]

theorem remove (id : SpriteId) :
    (arena.perform (.remove id)).Represents (Request.perform store (.remove id)) := by
  rw [Arena.perform, Request.perform, Arena.remove, Store.remove, h.records]
  cases store.find? id with
  | none => exact h
  | some sprite =>
    refine ⟨h.issued, ?_, fun other => ?_⟩
    · exact (congrArg _ h.roster).trans (store.ids_without id).symm
    · refine Eq.trans ?_ (store.find?_without id other).symm
      rw [← h.records]
      refine Std.HashMap.getElem?_erase.trans ?_
      simp only [beq_iff_eq, eq_comm (a := other)]

theorem perform (sound : store.Sound) (request : Request)
    (room : request.isAdd = true → store.issued.toNat + 1 < UInt64.size) :
    (arena.perform request).Represents (request.perform store) := by
  cases request with
  | look => exact h
  | add name position => exact h.add sound (room rfl) name position
  | remove id => exact h.remove id
  | drag id position =>
    exact h.unlessRefused_update id fun sprite => sprite.id_withPosition position
  | setAngle id angle => exact h.unlessRefused_update id fun sprite => sprite.id_withAngle angle
  | commitPose id pose => exact h.modify id fun sprite => sprite.id_withPose pose
  | setBubble id bubble => exact h.modify id fun sprite => sprite.id_withBubble bubble
  | publish poses => exact h.publish poses

end Represents

/-! ## The parts fit together -/

/-- There are records under the ids of the roster only, each of the sprite of this id. -/
structure Keyed (arena : Arena) : Prop where
  distinct : arena.roster.Nodup
  keys : ∀ id, id ∈ arena.records ↔ id ∈ arena.roster
  named : ∀ (id : SpriteId) (sprite : Sprite), arena.records[id]? = some sprite → sprite.id = id

theorem Represents.keyed {arena : Arena} {store : Store} (h : arena.Represents store)
    (distinct : store.ids.Nodup) : arena.Keyed := by
  refine ⟨h.roster ▸ distinct, fun id => ?_, fun id sprite found => ?_⟩
  · rw [← Std.HashMap.contains_iff_mem, h.contains, store.contains_iff, h.roster]
  · rw [h.records] at found
    simpa using List.find?_some found

/-- The things that are read from an arena agree with one another. -/
structure Consistent (arena : Arena) : Prop where
  /-- No id of the roster is passed over. -/
  list : arena.list.map Sprite.id = arena.roster
  size : arena.list.length = arena.size
  isEmpty : arena.isEmpty = true ↔ arena.list = []
  contains : ∀ id, arena.contains id = true ↔ id ∈ arena.roster
  get : ∀ id sprite, arena.get id = .ok sprite ↔ sprite ∈ arena.list ∧ sprite.id = id
  position : ∀ sprite ∈ arena.list, arena.snapshot[sprite.id]? = some sprite.position
  captured : ∀ id, id ∈ arena.snapshot ↔ id ∈ arena.roster
  snapshotSize : arena.snapshot.size = arena.size

theorem get_eq_ok_iff_records (arena : Arena) (id : SpriteId) (sprite : Sprite) :
    arena.get id = .ok sprite ↔ arena.records[id]? = some sprite := by
  rw [get]
  cases arena.records[id]? <;> simp

namespace Keyed

variable {arena : Arena} (h : arena.Keyed)

include h

theorem map_id_list : arena.list.map Sprite.id = arena.roster := by
  have each : ∀ id ∈ arena.roster, (arena.records[id]?).map Sprite.id = some id := by
    intro id mem
    have there := (h.keys id).mpr mem
    rw [Std.HashMap.getElem?_eq_some_getElem there, Option.map_some,
      h.named id _ (Std.HashMap.getElem?_eq_some_getElem there)]
  rw [list, List.map_filterMap, List.filterMap_congr each, List.filterMap_some]

theorem get_eq_ok_iff (id : SpriteId) (sprite : Sprite) :
    arena.get id = .ok sprite ↔ sprite ∈ arena.list ∧ sprite.id = id := by
  rw [arena.get_eq_ok_iff_records, list, List.mem_filterMap]
  constructor
  · intro there
    refine ⟨⟨id, (h.keys id).mp ?_, there⟩, h.named id sprite there⟩
    rw [Std.HashMap.mem_iff_isSome_getElem?, there]
    rfl
  · rintro ⟨⟨key, -, there⟩, rfl⟩
    rw [h.named key sprite there]
    exact there

theorem size_records : arena.records.size = arena.size := by
  have same : arena.records.keys.Perm arena.roster := by
    rw [List.perm_ext_iff_of_nodup Std.HashMap.nodup_keys h.distinct]
    intro id
    rw [Std.HashMap.mem_keys, h.keys]
  rw [← Std.HashMap.length_keys, same.length_eq, size]

theorem consistent : arena.Consistent := by
  have list := h.map_id_list
  have size : arena.list.length = arena.size := by
    rw [Arena.size, ← list, List.length_map]
  refine ⟨list, size, ?_, fun id => ?_, h.get_eq_ok_iff, fun sprite mem => ?_, fun id => ?_, ?_⟩
  · rw [Arena.isEmpty, beq_iff_eq, ← size, List.length_eq_zero_iff]
  · rw [Arena.contains, Std.HashMap.contains_iff_mem, h.keys]
  · have got := (h.get_eq_ok_iff sprite.id sprite).mpr ⟨mem, rfl⟩
    rw [get_eq_ok_iff_records] at got
    rw [snapshot, Std.HashMap.getElem?_map, got, Option.map_some]
  · rw [snapshot, Std.HashMap.mem_map, h.keys]
  · rw [snapshot, Std.HashMap.size_map, h.size_records]

end Keyed

/-! ## Reading the same -/

/-- Whatever is read from the store, or comes of an operation on it, is what the arena gives. -/
structure ReadsAs (arena : Arena) (store : Store) : Prop where
  ids : arena.roster = store.ids
  list : arena.list = store.sprites
  size : arena.size = store.size
  isEmpty : arena.isEmpty = store.isEmpty
  contains : ∀ id, arena.contains id = store.contains id
  get : ∀ id, arena.get id = store.get id
  position : ∀ id, arena.snapshot[id]? = store.snapshot.position? id
  snapshotSize : arena.snapshot.size = store.snapshot.size
  added : ∀ name position, (arena.add name position).1 = (store.add name position).1
  removed : ∀ id, (arena.remove id).map Prod.fst = (store.remove id).map Prod.fst
  /-- A change is refused for the same reason. -/
  updated : ∀ id change, (arena.update id change).map (fun _ => ()) =
    (store.update id change).map fun _ => ()

theorem Represents.list {arena : Arena} {store : Store} (h : arena.Represents store)
    (distinct : store.ids.Nodup) : arena.list = store.sprites := by
  have each : ∀ sprite ∈ store.sprites,
      ((fun id => arena.records[id]?) ∘ Sprite.id) sprite = some sprite := by
    intro sprite mem
    exact (h.records sprite.id).trans (Store.find?_of_mem distinct mem)
  rw [Arena.list, h.roster, Store.ids, List.filterMap_map, List.filterMap_congr each,
    List.filterMap_some]

theorem Represents.readsAs {arena : Arena} {store : Store} (h : arena.Represents store)
    (distinct : store.ids.Nodup) : arena.ReadsAs store := by
  have list := h.list distinct
  have size : arena.size = store.size := by
    rw [Arena.size, h.roster, Store.ids, List.length_map, Store.size]
  refine ⟨h.roster, list, size, ?_, h.contains, fun id => ?_, fun id => ?_, ?_, ?_, fun id => ?_,
    fun id change => ?_⟩
  · rw [Arena.isEmpty, size, Store.size, Store.isEmpty]
    cases store.sprites <;> rfl
  · rw [Arena.get, h.records]
    rfl
  · rw [snapshot, Std.HashMap.getElem?_map, h.records]
    cases found : store.find? id with
    | none =>
      exact (Store.position?_snapshot_of_absent distinct ((store.find?_eq_none_iff id).mp found)).symm
    | some sprite =>
      have same : sprite.id = id := by simpa using List.find?_some found
      rw [← same]
      exact (Store.position?_snapshot distinct (List.mem_of_find?_eq_some found)).symm
  · rw [snapshot, Std.HashMap.size_map, (h.keyed distinct).size_records, size, Snapshot.size,
      Store.positions_snapshot distinct, List.length_map, Store.size]
  · intro name position
    rw [Arena.add, Store.add, h.issued]
  · rw [Arena.remove, Store.remove, h.records]
    cases store.find? id <;> rfl
  · rw [Arena.update, Store.update, h.contains]
    split <;> rfl

end Arena

end SpriteStage
