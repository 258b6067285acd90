import SpriteStage.Session

/-! # Collisions

When everyone has performed, sprites that overlap are put back to where they were before. Pairs are
taken in the order of the roster; one that has been put back counts from then on as it stands.

* `collides` — two positions are close along both axes
* `pairs` — the pairs of a roster, in the order in which they are tested
* `Session.reconcile` — puts the overlapping pairs back, one pair at a time
-/

namespace SpriteStage

set_option autoImplicit false

/-- Two positions are closer than the threshold along both axes. -/
def collides (a b : Position) (threshold : Float) : Bool :=
  decide ((a.x - b.x).abs < threshold) && decide ((a.y - b.y).abs < threshold)

/-- Two sprites that were put back, the earlier one of the roster first. -/
structure Collision where
  first : SpriteId
  second : SpriteId
deriving DecidableEq

namespace Collision

def toJson (collision : Collision) : Json :=
  .ofMembers [("first", collision.first.toJson), ("second", collision.second.toJson)]

/-- A collision, both of whose sprites have to be there. -/
def ofJson? (j : Json) : Option Collision := do
  let r ← j.record? ["first", "second"]
  let first ← r.require? "first" SpriteId.ofJson?
  let second ← r.require? "second" SpriteId.ofJson?
  return ⟨first, second⟩

end Collision

/-- The pairs of places below `count`, each with the smaller place first, in lexicographic order. -/
def pairs (count : Nat) : List (Nat × Nat) :=
  (List.range count).flatMap fun i => (List.range' (i + 1) (count - (i + 1))).map fun j => (i, j)

/-- A sprite where it was before, facing as it does now; with no position to go back to it stays. -/
def rollBack (snapshot : Snapshot) (entry : SpriteId × Pose) : SpriteId × Pose :=
  (entry.1, { entry.2 with position := (snapshot.position? entry.1).getD entry.2.position })

/-- The collision of the sprites at two places, if they overlap. -/
def collisionAt? (threshold : Float) (poses : List (SpriteId × Pose)) (pair : Nat × Nat) :
    Option Collision :=
  match poses[pair.1]?, poses[pair.2]? with
  | some (first, a), some (second, b) =>
    if collides a.position b.position threshold then some ⟨first, second⟩ else none
  | _, _ => none

/-- How far the sprites have been put back. -/
structure Reconciliation where
  session : Session
  poses : List (SpriteId × Pose)
  collisions : List Collision

/-- Puts the sprites at two places back after a pause, and announces it. -/
def Reconciliation.resolve (pause : Int64) (snapshot : Snapshot) (r : Reconciliation)
    (pair : Nat × Nat) (collision : Collision) : Reconciliation :=
  let session := r.session.pause pause
  { session :=
      session.emit (.collisionResolved collision.first collision.second session.elapsed)
    poses := (r.poses.modify pair.1 (rollBack snapshot)).modify pair.2 (rollBack snapshot)
    collisions := r.collisions ++ [collision] }

namespace Session

/-- Tests one pair and puts it back if it overlaps. -/
def reconcilePair (threshold : Float) (pause : Int64) (snapshot : Snapshot) (r : Reconciliation)
    (pair : Nat × Nat) : Reconciliation :=
  match collisionAt? threshold r.poses pair with
  | some collision => r.resolve pause snapshot pair collision
  | none => r

/-- Puts the overlapping pairs of a roster back, one pair at a time. -/
def reconcile (s : Session) (threshold : Float) (pause : Int64) (snapshot : Snapshot)
    (poses : List (SpriteId × Pose)) : Reconciliation :=
  (pairs poses.length).foldl (reconcilePair threshold pause snapshot) ⟨s, poses, []⟩

end Session

end SpriteStage
