import SpriteStage.Proofs.Store.Lookup

/-! # Stores that agree

Two stores may have the same roster and differ in some sprites only. They still do after the same
requests to both, and after any changes to these sprites in one of them.

* `Store.AgreesBut` — the stores agree but for some sprites
* `Store.AgreesBut.modify`, `Store.AgreesBut.perform` — how agreement is kept
-/

namespace SpriteStage

set_option autoImplicit false

namespace Store

/-! ## Agreement -/

/-- The stores have the same roster, and agree on all sprites but those with the given ids. -/
structure AgreesBut (cast : List SpriteId) (a b : Store) : Prop where
  issued : a.issued = b.issued
  ids : a.ids = b.ids
  found : ∀ id, id ∉ cast → a.find? id = b.find? id

namespace AgreesBut

variable {cast : List SpriteId} {a b : Store}

theorem refl (cast : List SpriteId) (a : Store) : AgreesBut cast a a :=
  ⟨rfl, rfl, fun _ _ => rfl⟩

theorem modify (h : AgreesBut cast a b) {id : SpriteId} (member : id ∈ cast)
    {change : Sprite → Sprite} (keeps : ∀ sprite, (change sprite).id = sprite.id) :
    AgreesBut cast (a.modify id change) b := by
  refine ⟨h.issued, (a.ids_modify id keeps).trans h.ids, fun other absent => ?_⟩
  have notThis : other ≠ id := fun same => absent (same ▸ member)
  rw [a.find?_modify id other keeps, ← h.found other absent]
  simp only [if_neg notThis, Option.map_id']

theorem publish (h : AgreesBut cast a b) {poses : List (SpriteId × Pose)}
    (members : ∀ id ∈ poses.map Prod.fst, id ∈ cast) : AgreesBut cast (a.publish poses) b := by
  refine ⟨?_, (a.ids_publish poses).trans h.ids, fun other absent => ?_⟩
  · rw [publish_eq]
    exact h.issued
  · rw [find?_publish, ← h.found other absent]
    cases found : a.find? other with
    | none => rfl
    | some sprite =>
      have same : sprite.id = other := by simpa using List.find?_some found
      rw [Option.map_some, posed_of_absent]
      exact fun mem => absent (members other (same ▸ mem))

theorem both_modify (h : AgreesBut cast a b) (id : SpriteId) {change : Sprite → Sprite}
    (keeps : ∀ sprite, (change sprite).id = sprite.id) :
    AgreesBut cast (a.modify id change) (b.modify id change) := by
  refine ⟨h.issued, ?_, fun other absent => ?_⟩
  · rw [a.ids_modify id keeps, b.ids_modify id keeps, h.ids]
  · rw [a.find?_modify id other keeps, b.find?_modify id other keeps, h.found other absent]

theorem perform (h : AgreesBut cast a b) (request : Request) :
    AgreesBut cast (request.perform a) (request.perform b) := by
  cases request with
  | look => exact h
  | add name position =>
    refine ⟨?_, ?_, fun id absent => ?_⟩
    · exact congrArg (· + 1) h.issued
    · have ids := h.ids
      simp only [Request.perform, Store.ids, Store.add, List.map_append] at ids ⊢
      rw [ids, h.issued]
    · rw [Request.perform, Request.perform, find?_add, find?_add, h.found id absent, h.issued]
  | remove id =>
    rw [Request.perform_remove, Request.perform_remove]
    refine ⟨h.issued, ?_, fun other absent => ?_⟩
    · rw [ids_without, ids_without, h.ids]
    · rw [find?_without, find?_without, h.found other absent]
  | drag id position =>
    rw [Request.perform_drag, Request.perform_drag]
    exact h.both_modify id fun sprite => sprite.id_withPosition position
  | setAngle id angle =>
    rw [Request.perform_setAngle, Request.perform_setAngle]
    exact h.both_modify id fun sprite => sprite.id_withAngle angle
  | commitPose id pose => exact h.both_modify id fun sprite => sprite.id_withPose pose
  | setBubble id bubble => exact h.both_modify id fun sprite => sprite.id_withBubble bubble
  | publish poses =>
    refine ⟨?_, ?_, fun other absent => ?_⟩
    · rw [Request.perform, Request.perform, publish_eq, publish_eq]
      exact h.issued
    · rw [Request.perform, Request.perform, ids_publish, ids_publish, h.ids]
    · rw [Request.perform, Request.perform, find?_publish, find?_publish, h.found other absent]

end AgreesBut

end Store

end SpriteStage
