import SpriteStage.Store.Request

/-! # Looking up sprites after a request

What is found under an id afterwards depends on what was found under it before, and on the last id
given out. The roster of ids changes only when a sprite comes or goes.

* `Store.find?_modify`, `Store.find?_publish` — changes to sprites of the roster
* `Store.find?_add`, `Store.find?_without` — sprites that come and go
* `Request.perform_remove`, `Request.perform_drag` — a request that is refused has nothing to change
-/

namespace SpriteStage

set_option autoImplicit false

namespace Sprite

@[simp] theorem id_withPosition (sprite : Sprite) (position : Position) :
    (sprite.withPosition position).id = sprite.id := rfl

@[simp] theorem id_withAngle (sprite : Sprite) (angle : Float) :
    (sprite.withAngle angle).id = sprite.id := rfl

@[simp] theorem id_withPose (sprite : Sprite) (pose : Pose) :
    (sprite.withPose pose).id = sprite.id := rfl

@[simp] theorem id_withBubble (sprite : Sprite) (bubble : Option Bubble) :
    (sprite.withBubble bubble).id = sprite.id := rfl

end Sprite

namespace Store

variable (store : Store) (id other : SpriteId) (change : Sprite → Sprite)

theorem find?_eq_none_iff : store.find? id = none ↔ id ∉ store.ids := by
  simp [find?, ids]

theorem contains_iff : store.contains id = true ↔ id ∈ store.ids := by
  rw [contains, Option.isSome_iff_ne_none, ne_eq, find?_eq_none_iff, Decidable.not_not]

variable {id} in
theorem exists_find?_of_mem (mem : id ∈ store.ids) : ∃ sprite, store.find? id = some sprite := by
  rw [← Option.ne_none_iff_exists', ne_eq, find?_eq_none_iff, Decidable.not_not]
  exact mem

variable {store id} in
theorem mem_ids_of_find? {sprite : Sprite} (found : store.find? id = some sprite) :
    id ∈ store.ids := by
  have there := mt (store.find?_eq_none_iff id).mpr
  simpa [found] using there

variable {store} in
theorem find?_of_mem (distinct : store.ids.Nodup) {sprite : Sprite}
    (mem : sprite ∈ store.sprites) : store.find? sprite.id = some sprite := by
  obtain ⟨before, after, split⟩ := List.append_of_mem mem
  rw [ids, split, List.map_append, List.map_cons, List.nodup_append] at distinct
  have notBefore : (before.find? fun other => other.id == sprite.id) = none := by
    rw [List.find?_eq_none]
    intro other there same
    exact distinct.2.2 _ (List.mem_map_of_mem there) _ List.mem_cons_self (beq_iff_eq.mp same)
  rw [find?, split, List.find?_append, notBefore, Option.none_or, List.find?_cons, beq_self_eq_true]

/-! ## Changes to one sprite -/

variable {change} in
theorem ids_modify (keeps : ∀ sprite, (change sprite).id = sprite.id) :
    (store.modify id change).ids = store.ids := by
  rw [ids, modify, List.map_map, ids]
  refine List.map_congr_left fun sprite _ => ?_
  rw [Function.comp_apply]
  split
  · exact keeps sprite
  · rfl

variable {change} in
theorem find?_modify (keeps : ∀ sprite, (change sprite).id = sprite.id) :
    (store.modify id change).find? other =
      (store.find? other).map fun sprite => if other = id then change sprite else sprite := by
  have sameTest : ((fun sprite : Sprite => sprite.id == other) ∘
      fun sprite => if sprite.id = id then change sprite else sprite) =
      fun sprite => sprite.id == other := by
    funext sprite
    by_cases here : sprite.id = id <;> simp [here, keeps]
  rw [find?, modify, List.find?_map, sameTest, find?]
  cases found : store.sprites.find? fun sprite => sprite.id == other with
  | none => rfl
  | some sprite =>
    have same : sprite.id = other := by simpa using List.find?_some found
    simp only [Option.map_some, same]

variable {id} in
theorem modify_of_absent (absent : id ∉ store.ids) : store.modify id change = store := by
  have same : (store.sprites.map fun s => if s.id = id then change s else s)
      = store.sprites.map fun s => s := by
    refine List.map_congr_left fun sprite mem => ?_
    rw [if_neg]
    exact fun here => absent (here ▸ List.mem_map_of_mem mem)
  rw [modify, same, List.map_id']

theorem modify_modify {first second : Sprite → Sprite}
    (keeps : ∀ sprite, (first sprite).id = sprite.id) :
    (store.modify id first).modify id second =
      store.modify id fun sprite => second (first sprite) := by
  simp only [modify, List.map_map, mk.injEq, true_and]
  congr 1
  funext sprite
  by_cases here : sprite.id = id <;> simp [here, keeps]

variable {id other} in
theorem modify_comm {first second : Sprite → Sprite}
    (keepsFirst : ∀ sprite, (first sprite).id = sprite.id)
    (keepsSecond : ∀ sprite, (second sprite).id = sprite.id) (different : id ≠ other) :
    (store.modify id first).modify other second = (store.modify other second).modify id first := by
  simp only [modify, List.map_map, mk.injEq, true_and]
  congr 1
  funext sprite
  by_cases here : sprite.id = id
  · simp [here, keepsFirst, different]
  · by_cases there : sprite.id = other <;> simp [here, there, keepsSecond, Ne.symm different]

/-! ## Coming and going -/

theorem find?_add (name : String) (position : Position) :
    (store.add name position).2.find? id = (store.find? id).or
      (if (⟨store.issued + 1⟩ : SpriteId) = id then
        some (.fresh ⟨store.issued + 1⟩ name position) else none) := by
  rw [find?, add, List.find?_append, find?]
  by_cases fresh : (⟨store.issued + 1⟩ : SpriteId) = id <;> simp [Sprite.fresh, fresh]

/-- The store without a sprite. -/
def without (store : Store) (id : SpriteId) : Store :=
  { store with sprites := store.sprites.filter fun s => s.id ≠ id }

theorem find?_without :
    (store.without id).find? other = if other = id then none else store.find? other := by
  rw [find?, without, List.find?_filter]
  by_cases gone : other = id
  · subst gone
    rw [if_pos rfl, List.find?_eq_none]
    simp
  · rw [if_neg gone, find?]
    refine congrArg (store.sprites.find? ·) (funext fun sprite => ?_)
    by_cases here : sprite.id = other <;> simp [here, gone]

variable {id} in
theorem without_of_absent (absent : id ∉ store.ids) : store.without id = store := by
  have everyone : (store.sprites.filter fun s => s.id ≠ id) = store.sprites := by
    refine List.filter_eq_self.mpr fun sprite mem => decide_eq_true fun here => ?_
    exact absent (here ▸ List.mem_map_of_mem mem)
  rw [without, everyone]

theorem ids_without : (store.without id).ids = store.ids.filter fun other => other ≠ id := by
  rw [ids, without, ids, List.filter_map]
  rfl

/-! ## Several poses -/

/-- A sprite after some poses have been made known, of which some may be its own. -/
def posed (poses : List (SpriteId × Pose)) (sprite : Sprite) : Sprite :=
  poses.foldl (fun sprite entry => if sprite.id = entry.1 then sprite.withPose entry.2 else sprite)
    sprite

@[simp] theorem id_posed (poses : List (SpriteId × Pose)) (sprite : Sprite) :
    (posed poses sprite).id = sprite.id := by
  unfold posed
  induction poses generalizing sprite with
  | nil => rfl
  | cons entry rest ih =>
    rw [List.foldl_cons, ih]
    split
    · rfl
    · rfl

theorem publish_eq (poses : List (SpriteId × Pose)) :
    store.publish poses = { store with sprites := store.sprites.map (posed poses) } := by
  unfold publish
  induction poses generalizing store with
  | nil =>
    have none : posed [] = fun sprite => sprite := rfl
    rw [List.foldl_nil, none, List.map_id']
  | cons entry rest ih =>
    rw [List.foldl_cons, ih, commitPose, modify, List.map_map]
    rfl

theorem posed_of_absent {poses : List (SpriteId × Pose)} {sprite : Sprite}
    (absent : sprite.id ∉ poses.map Prod.fst) : posed poses sprite = sprite := by
  unfold posed
  induction poses with
  | nil => rfl
  | cons entry rest ih =>
    rw [List.map_cons, List.mem_cons, not_or] at absent
    rw [List.foldl_cons, if_neg absent.1, ih absent.2]

/-- Of several sprites, each takes its own pose. -/
theorem posed_of_mem {poses : List (SpriteId × Pose)} (distinct : (poses.map Prod.fst).Nodup)
    {sprite : Sprite} {pose : Pose} (mem : (sprite.id, pose) ∈ poses) :
    posed poses sprite = sprite.withPose pose := by
  induction poses with
  | nil => cases mem
  | cons entry rest ih =>
    rw [List.map_cons, List.nodup_cons] at distinct
    rcases List.mem_cons.mp mem with rfl | later
    · have others : (sprite.withPose pose).id ∉ rest.map Prod.fst := distinct.1
      rw [posed, List.foldl_cons, if_pos rfl]
      exact posed_of_absent others
    · have other : sprite.id ≠ entry.1 := by
        intro same
        exact distinct.1 (same ▸ List.mem_map_of_mem later)
      rw [posed, List.foldl_cons, if_neg other]
      exact ih distinct.2 later

/-- A sprite of which a pose has been made known is in this pose. -/
theorem mem_of_publish {store : Store} {poses : List (SpriteId × Pose)}
    (distinct : (poses.map Prod.fst).Nodup) {sprite : Sprite}
    (there : sprite ∈ (store.publish poses).sprites) (known : sprite.id ∈ poses.map Prod.fst) :
    (sprite.id, sprite.pose) ∈ poses := by
  rw [publish_eq] at there
  obtain ⟨before, -, rfl⟩ := List.mem_map.mp there
  rw [id_posed] at known ⊢
  obtain ⟨⟨id, pose⟩, mem, rfl⟩ := List.mem_map.mp known
  rw [posed_of_mem distinct mem]
  exact mem

theorem ids_publish (poses : List (SpriteId × Pose)) : (store.publish poses).ids = store.ids := by
  rw [publish_eq, ids, List.map_map, ids]
  exact List.map_congr_left fun sprite _ => id_posed poses sprite

theorem find?_publish (poses : List (SpriteId × Pose)) :
    (store.publish poses).find? id = (store.find? id).map (posed poses) := by
  have sameTest : ((fun sprite : Sprite => sprite.id == id) ∘ posed poses) =
      fun sprite => sprite.id == id := by
    funext sprite
    rw [Function.comp_apply, id_posed]
  rw [publish_eq, find?, List.find?_map, sameTest, find?]

end Store

/-! ## Requests -/

namespace Request

variable (store : Store) (id : SpriteId)

theorem unlessRefused_update (change : Sprite → Sprite) :
    unlessRefused store (store.update id change) = store.modify id change := by
  rw [Store.update]
  split
  · rfl
  · rename_i absent
    rw [Store.contains_iff] at absent
    exact (store.modify_of_absent change absent).symm

theorem perform_remove : perform store (remove id) = store.without id := by
  rw [perform, Store.remove]
  split
  · rfl
  · rename_i absent
    exact (store.without_of_absent ((store.find?_eq_none_iff id).mp absent)).symm

theorem perform_drag (position : Position) :
    perform store (drag id position) = store.modify id fun sprite => sprite.withPosition position :=
  unlessRefused_update store id _

theorem perform_setAngle (angle : Float) :
    perform store (setAngle id angle) = store.modify id fun sprite => sprite.withAngle angle :=
  unlessRefused_update store id _

theorem ids_perform (request : Request) :
    (request.perform store).ids =
      match request with
      | add _ _ => store.ids ++ [⟨store.issued + 1⟩]
      | remove id => store.ids.filter fun other => other ≠ id
      | _ => store.ids := by
  cases request with
  | look => rfl
  | add name position => simp [perform, Store.add, Store.ids, Sprite.fresh]
  | remove id => rw [perform_remove, Store.ids_without]
  | drag id position =>
    rw [perform_drag]
    exact store.ids_modify id fun sprite => sprite.id_withPosition position
  | setAngle id angle =>
    rw [perform_setAngle]
    exact store.ids_modify id fun sprite => sprite.id_withAngle angle
  | commitPose id pose => exact store.ids_modify id fun sprite => sprite.id_withPose pose
  | setBubble id bubble => exact store.ids_modify id fun sprite => sprite.id_withBubble bubble
  | publish poses => exact store.ids_publish poses

theorem issued_perform (request : Request) :
    (request.perform store).issued =
      match request with
      | add _ _ => store.issued + 1
      | _ => store.issued := by
  cases request with
  | remove id => rw [perform_remove, Store.without]
  | drag id position => rw [perform_drag, Store.modify]
  | setAngle id angle => rw [perform_setAngle, Store.modify]
  | publish poses => rw [perform, Store.publish_eq]
  | _ => rfl

end Request

end SpriteStage
