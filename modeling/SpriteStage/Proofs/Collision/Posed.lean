import SpriteStage.Proofs.Collision.Reconcile
import SpriteStage.Proofs.Store.Lookup

/-! # Poses that are made known

What it means for the poses of a roster that some sprites are put back: their own positions are where
they were before, and all other poses are the same.

* `posed_modify_rollBack` — the sprite at one place is put back
* `posed_resolve` — the sprites of a collision are
-/

namespace SpriteStage

set_option autoImplicit false

open Store (posed posed_of_absent)

variable {snapshot : Snapshot}

/-- A sprite where it was before; with no position to go back to it stays. -/
def Sprite.backIn (snapshot : Snapshot) (sprite : Sprite) : Sprite :=
  sprite.withPosition ((snapshot.position? sprite.id).getD sprite.position)

theorem posed_cons (entry : SpriteId × Pose) (rest : List (SpriteId × Pose)) (sprite : Sprite) :
    posed (entry :: rest) sprite =
      posed rest (if sprite.id = entry.1 then sprite.withPose entry.2 else sprite) := rfl

theorem posed_modify_rollBack {poses : List (SpriteId × Pose)}
    (distinct : (poses.map Prod.fst).Nodup) {place : Nat} {id : SpriteId}
    (here : (poses.map Prod.fst)[place]? = some id) (sprite : Sprite) :
    posed (poses.modify place (rollBack snapshot)) sprite =
      if sprite.id = id then (posed poses sprite).backIn snapshot else posed poses sprite := by
  induction poses generalizing place sprite with
  | nil => cases here
  | cons entry rest ih =>
    rw [List.map_cons, List.nodup_cons] at distinct
    cases place with
    | zero =>
      obtain rfl : entry.1 = id := Option.some.inj here
      rw [List.modify_zero_cons, posed_cons, posed_cons]
      by_cases own : sprite.id = entry.1
      · -- no other entry is about this sprite
        have others : ∀ pose, posed rest (sprite.withPose pose) = sprite.withPose pose := fun pose =>
          posed_of_absent (own ▸ distinct.1)
        have same : sprite.id = (rollBack snapshot entry).1 := own
        rw [if_pos same, if_pos own, if_pos own, others, others, Sprite.backIn, Sprite.id_withPose,
          own]
        rfl
      · have other : sprite.id ≠ (rollBack snapshot entry).1 := own
        rw [if_neg other, if_neg own, if_neg own]
    | succ place =>
      have same : (if sprite.id = entry.1 then sprite.withPose entry.2 else sprite).id =
          sprite.id := by
        split
        · rfl
        · rfl
      rw [List.modify_succ_cons, posed_cons, posed_cons, ih distinct.2 here, same]

theorem posed_resolve {threshold : Float} {pause : Int64} {r : Reconciliation}
    (distinct : (r.poses.map Prod.fst).Nodup) {pair : Nat × Nat} {collision : Collision}
    (found : collisionAt? threshold r.poses pair = some collision) {sprite : Sprite}
    {home : Position} (known : snapshot.position? sprite.id = some home) :
    posed (r.resolve pause snapshot pair collision).poses sprite =
      if sprite.id = collision.first ∨ sprite.id = collision.second then
        (posed r.poses sprite).withPosition home
      else posed r.poses sprite := by
  obtain ⟨first, second⟩ := isAt_of_collisionAt? found
  have ids := Session.map_fst_modify_rollBack snapshot r.poses pair.1
  have back : ∀ other : Sprite, other.id = sprite.id →
      other.backIn snapshot = other.withPosition home := by
    intro other same
    rw [Sprite.backIn, same, known, Option.getD_some]
  have own := Store.id_posed r.poses sprite
  rw [Reconciliation.resolve, posed_modify_rollBack (ids ▸ distinct) (ids ▸ second),
    posed_modify_rollBack distinct first]
  by_cases isSecond : sprite.id = collision.second
  · rw [if_pos isSecond, if_pos (Or.inr isSecond)]
    by_cases isFirst : sprite.id = collision.first
    · have again : ((posed r.poses sprite).withPosition home).id = sprite.id := own
      rw [if_pos isFirst, back _ own, back _ again]
      rfl
    · rw [if_neg isFirst, back _ own]
  · rw [if_neg isSecond]
    by_cases isFirst : sprite.id = collision.first
    · rw [if_pos isFirst, if_pos (Or.inl isFirst), back _ own]
    · rw [if_neg isFirst, if_neg fun either => either.elim isFirst isSecond]

end SpriteStage
