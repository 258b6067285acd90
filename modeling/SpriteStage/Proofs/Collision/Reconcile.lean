import SpriteStage.Collision
import SpriteStage.Proofs.Session.Journal

/-! # Putting sprites back

Sprites are put back pair by pair. What holds at first and is kept whenever a pair is put back holds
in the end.

* `Session.foldl_reconcilePair_induction` — the principle
* `Collision.IsAt` — a collision of the sprites at two places
* `Session.reconcile_events` — each collision of the result has been announced, and nothing else
* `Session.now_reconcile` — each of them takes a pause
* `Session.ids_reconcile` — the sprites and their order stay the same
* `Session.reconcile_congr` — who is put back, and where to, is the same in any session
-/

namespace SpriteStage

set_option autoImplicit false

/-! ## The principle -/

namespace Session

variable {threshold : Float} {pause : Int64} {snapshot : Snapshot}

theorem reconcilePair_of_some {r : Reconciliation} {pair : Nat × Nat} {collision : Collision}
    (found : collisionAt? threshold r.poses pair = some collision) :
    reconcilePair threshold pause snapshot r pair = r.resolve pause snapshot pair collision := by
  rw [reconcilePair, found]

theorem reconcilePair_of_none {r : Reconciliation} {pair : Nat × Nat}
    (found : collisionAt? threshold r.poses pair = none) :
    reconcilePair threshold pause snapshot r pair = r := by
  rw [reconcilePair, found]

theorem foldl_reconcilePair_induction {P : Reconciliation → Prop} (places : List (Nat × Nat))
    {r : Reconciliation} (start : P r)
    (resolve : ∀ (r : Reconciliation) (pair : Nat × Nat) (collision : Collision), pair ∈ places →
      P r → collisionAt? threshold r.poses pair = some collision →
      P (r.resolve pause snapshot pair collision)) :
    P (places.foldl (reconcilePair threshold pause snapshot) r) := by
  induction places generalizing r with
  | nil => exact start
  | cons pair rest ih =>
    refine ih ?_ fun r other collision mem => resolve r other collision (List.mem_cons_of_mem _ mem)
    cases found : collisionAt? threshold r.poses pair with
    | none =>
      rw [reconcilePair_of_none found]
      exact start
    | some collision =>
      rw [reconcilePair_of_some found]
      exact resolve r pair collision List.mem_cons_self start found

end Session

/-! ## Tests -/

/-- The collision is one of the sprites at the two places. -/
def Collision.IsAt (ids : List SpriteId) (pair : Nat × Nat) (collision : Collision) : Prop :=
  ids[pair.1]? = some collision.first ∧ ids[pair.2]? = some collision.second

theorem collisionAt?_eq_some {threshold : Float} {poses : List (SpriteId × Pose)} {pair : Nat × Nat}
    {collision : Collision} :
    collisionAt? threshold poses pair = some collision ↔
      ∃ a b, poses[pair.1]? = some (collision.first, a) ∧
        poses[pair.2]? = some (collision.second, b) ∧
        collides a.position b.position threshold = true := by
  unfold collisionAt?
  constructor
  · intro found
    split at found
    · rename_i first a second b atFirst atSecond
      split at found
      · rename_i close
        cases found
        exact ⟨a, b, atFirst, atSecond, close⟩
      · cases found
    · cases found
  · rintro ⟨a, b, atFirst, atSecond, close⟩
    simp only [atFirst, atSecond, close, if_true]

theorem isAt_of_collisionAt? {threshold : Float} {poses : List (SpriteId × Pose)} {pair : Nat × Nat}
    {collision : Collision} (found : collisionAt? threshold poses pair = some collision) :
    collision.IsAt (poses.map Prod.fst) pair := by
  obtain ⟨a, b, atFirst, atSecond, -⟩ := collisionAt?_eq_some.mp found
  simp [Collision.IsAt, atFirst, atSecond]

/-! ## Events -/

/-- The collision that an event tells of. -/
def Event.collision? : Event → Option Collision
  | collisionResolved first second _ => some ⟨first, second⟩
  | _ => none

theorem Event.collision?_of_sprite? {event : Event} {id : SpriteId}
    (h : event.sprite? = some id) : event.collision? = none := by
  cases event with
  | collisionResolved first second time => cases h
  | _ => rfl

/-- Events that tell of collisions tell of no single sprite. -/
theorem sprite?_of_resolved {resolved : List Event} {collisions : List Collision}
    (same : resolved.map Event.collision? = collisions.map some) {event : Event}
    (mem : event ∈ resolved) : event.sprite? = none := by
  have told : event.collision? ∈ resolved.map Event.collision? := List.mem_map_of_mem mem
  rw [same] at told
  obtain ⟨collision, -, eq⟩ := List.mem_map.mp told
  cases event with
  | collisionResolved first second time => rfl
  | _ => cases eq

namespace Session

variable (threshold : Float) (pause : Int64) (snapshot : Snapshot)

theorem events_resolve (r : Reconciliation) (pair : Nat × Nat) (collision : Collision) :
    (r.resolve pause snapshot pair collision).session.events = r.session.events ++
      [.collisionResolved collision.first collision.second (r.session.pause pause).elapsed] := by
  rw [Reconciliation.resolve, events_emit, events_pause]

/-- The collisions are announced one after the other, and nothing else is. -/
theorem reconcile_events (s : Session) (poses : List (SpriteId × Pose)) :
    ∃ resolved : List Event,
      (s.reconcile threshold pause snapshot poses).session.events = s.events ++ resolved ∧
      resolved.map Event.collision? =
        (s.reconcile threshold pause snapshot poses).collisions.map some := by
  refine foldl_reconcilePair_induction (P := fun r => ∃ resolved : List Event,
    r.session.events = s.events ++ resolved ∧
      resolved.map Event.collision? = r.collisions.map some) (pairs poses.length)
    ⟨[], by simp, rfl⟩ ?_
  rintro r pair collision - ⟨resolved, events, same⟩ -
  refine ⟨resolved ++
    [.collisionResolved collision.first collision.second (r.session.pause pause).elapsed], ?_, ?_⟩
  · rw [events_resolve, events, List.append_assoc]
  · rw [List.map_append, same, Reconciliation.resolve, List.map_append]
    rfl

/-- Putting sprites back takes a pause for each collision. -/
theorem now_reconcile (s : Session) (poses : List (SpriteId × Pose)) :
    (s.reconcile threshold pause snapshot poses).session.now =
      s.now + delayLength pause * (s.reconcile threshold pause snapshot poses).collisions.length := by
  refine foldl_reconcilePair_induction
    (P := fun r => r.session.now = s.now + delayLength pause * r.collisions.length)
    (pairs poses.length) (by simp) ?_
  intro r pair collision _ before _
  have now : (r.resolve pause snapshot pair collision).session.now =
      r.session.now + delayLength pause := now_pause r.session pause
  have count : (r.resolve pause snapshot pair collision).collisions.length =
      r.collisions.length + 1 := List.length_append
  rw [now, count, before, Nat.mul_succ, Nat.add_assoc]

/-! ## Sprites -/

theorem map_fst_modify_rollBack (poses : List (SpriteId × Pose)) (place : Nat) :
    (poses.modify place (rollBack snapshot)).map Prod.fst = poses.map Prod.fst := by
  induction poses generalizing place with
  | nil => rw [List.modify_nil]
  | cons entry rest ih =>
    cases place with
    | zero => rfl
    | succ place => rw [List.modify_succ_cons, List.map_cons, ih, List.map_cons]

theorem ids_resolve (r : Reconciliation) (pair : Nat × Nat) (collision : Collision) :
    (r.resolve pause snapshot pair collision).poses.map Prod.fst = r.poses.map Prod.fst := by
  rw [Reconciliation.resolve, map_fst_modify_rollBack, map_fst_modify_rollBack]

theorem ids_foldl_reconcilePair (places : List (Nat × Nat)) (r : Reconciliation) :
    (places.foldl (reconcilePair threshold pause snapshot) r).poses.map Prod.fst =
      r.poses.map Prod.fst := by
  refine foldl_reconcilePair_induction
    (P := fun later => later.poses.map Prod.fst = r.poses.map Prod.fst) places rfl ?_
  intro later pair collision _ same _
  rw [ids_resolve, same]

theorem ids_reconcile (s : Session) (poses : List (SpriteId × Pose)) :
    (s.reconcile threshold pause snapshot poses).poses.map Prod.fst = poses.map Prod.fst :=
  ids_foldl_reconcilePair threshold pause snapshot (pairs poses.length) ⟨s, poses, []⟩

/-! ## Sessions -/

variable {threshold pause snapshot} in
theorem reconcilePair_congr {r r' : Reconciliation} (poses : r.poses = r'.poses)
    (collisions : r.collisions = r'.collisions) (pair : Nat × Nat) :
    (reconcilePair threshold pause snapshot r pair).poses =
        (reconcilePair threshold pause snapshot r' pair).poses ∧
      (reconcilePair threshold pause snapshot r pair).collisions =
        (reconcilePair threshold pause snapshot r' pair).collisions := by
  cases found : collisionAt? threshold r.poses pair with
  | none =>
    rw [reconcilePair_of_none found, reconcilePair_of_none (poses ▸ found)]
    exact ⟨poses, collisions⟩
  | some collision =>
    rw [reconcilePair_of_some found, reconcilePair_of_some (poses ▸ found)]
    simp only [Reconciliation.resolve, poses, collisions, and_self]

/-- Who is put back, and where to, depends on the poses alone and not on the session. -/
theorem reconcile_congr (s t : Session) (poses : List (SpriteId × Pose)) :
    (s.reconcile threshold pause snapshot poses).poses =
        (t.reconcile threshold pause snapshot poses).poses ∧
      (s.reconcile threshold pause snapshot poses).collisions =
        (t.reconcile threshold pause snapshot poses).collisions :=
  List.foldl_rel (r := fun r r' : Reconciliation => r.poses = r'.poses ∧
    r.collisions = r'.collisions) ⟨rfl, rfl⟩
    fun pair _ _ _ same => reconcilePair_congr same.1 same.2 pair

/-- Every collision of the result is one of two sprites at places that have been tested. -/
theorem isAt_reconcile (s : Session) (poses : List (SpriteId × Pose)) :
    ∀ collision ∈ (s.reconcile threshold pause snapshot poses).collisions,
      ∃ pair ∈ pairs poses.length, collision.IsAt (poses.map Prod.fst) pair := by
  refine (foldl_reconcilePair_induction
    (P := fun r => r.poses.map Prod.fst = poses.map Prod.fst ∧
      ∀ collision ∈ r.collisions, ∃ pair ∈ pairs poses.length,
        collision.IsAt (poses.map Prod.fst) pair) (pairs poses.length)
    ⟨rfl, fun _ mem => absurd mem List.not_mem_nil⟩ ?_).2
  rintro r pair collision tested ⟨ids, before⟩ found
  refine ⟨(ids_resolve pause snapshot r pair collision).trans ids, fun other mem => ?_⟩
  rcases List.mem_append.mp mem with mem | mem
  · exact before other mem
  · rw [List.mem_singleton.mp mem]
    exact ⟨pair, tested, ids ▸ isAt_of_collisionAt? found⟩

end Session

end SpriteStage
