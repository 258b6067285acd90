import SpriteStage.Proofs.Collision.Recorded

/-! # What becomes of a roster

Once all pairs have been tested, the sprites of those that were put back are where they were before,
and all others are where they finished. It makes no difference how often and with whom a sprite was
put back.

* `putBackAt_congr` — only the places that belong to some pair make a difference
* `Collision.IsAt.hasPlace_iff`, `Session.occurs_recorded_iff` — from places to ids
* `Session.poses_reconcile` — the roster in the end
-/

namespace SpriteStage

set_option autoImplicit false

variable {snapshot : Snapshot} {poses : List (SpriteId × Pose)}

/-! ## Rosters -/

theorem putBackAt_congr {first later : List (Nat × Nat)}
    (same : ∀ place entry, poses[place]? = some entry → (Occurs first place ↔ Occurs later place)) :
    putBackAt snapshot first poses = putBackAt snapshot later poses := by
  apply List.ext_getElem?
  intro place
  rw [getElem?_putBackAt, getElem?_putBackAt]
  refine Option.map_congr fun entry here => ?_
  have occurs := same place entry here
  simp only [occurs]

theorem map_angle_putBackAt (recorded : List (Nat × Nat)) :
    (putBackAt snapshot recorded poses).map (fun entry => entry.2.angle) =
      poses.map fun entry => entry.2.angle := by
  apply List.ext_getElem?
  intro place
  rw [List.getElem?_map, List.getElem?_map, getElem?_putBackAt, Option.map_map]
  refine Option.map_congr fun entry _ => ?_
  simp only [Function.comp_apply]
  split
  · rfl
  · rfl

/-! ## Places and ids -/

theorem exists_mem_iff_of_forall₂ {α β : Type} {R : α → β → Prop} {p : α → Prop} {q : β → Prop}
    {as : List α} {bs : List β} (h : List.Forall₂ R as bs)
    (same : ∀ a b, R a b → (p a ↔ q b)) : (∃ a ∈ as, p a) ↔ ∃ b ∈ bs, q b := by
  induction h with
  | nil => simp only [List.not_mem_nil, false_and, exists_false]
  | cons related _ ih => simp only [List.mem_cons, exists_eq_or_imp, same _ _ related, ih]

/-- If no id occurs twice, a sprite collides just where its place belongs to the pair. -/
theorem Collision.IsAt.hasPlace_iff {ids : List SpriteId} (distinct : ids.Nodup) {pair : Nat × Nat}
    {collision : Collision} (h : collision.IsAt ids pair) {place : Nat} {id : SpriteId}
    (here : ids[place]? = some id) : HasPlace pair place ↔ collision.Involves id := by
  refine ⟨h.involves here, ?_⟩
  obtain ⟨atFirst, atSecond⟩ := h
  have unique : ∀ other, ids[other]? = some id → other = place := fun other there =>
    (List.getElem?_inj (List.getElem?_eq_some_iff.mp there).1 distinct).mp (there.trans here.symm)
  rintro (rfl | rfl)
  · exact .inl (unique _ atFirst)
  · exact .inr (unique _ atSecond)

namespace Session

variable (threshold : Float) (pause : Int64) (snapshot : Snapshot) (s : Session)

theorem occurs_recorded_iff (distinct : (poses.map Prod.fst).Nodup) {place : Nat}
    {entry : SpriteId × Pose} (here : poses[place]? = some entry) :
    Occurs (s.recorded threshold pause snapshot poses) place ↔
      ∃ collision ∈ (s.reconcile threshold pause snapshot poses).collisions,
        collision.Involves entry.1 := by
  have id : (poses.map Prod.fst)[place]? = some entry.1 := by
    rw [List.getElem?_map, here]
    rfl
  exact exists_mem_iff_of_forall₂ (isAt_recorded threshold pause snapshot s poses)
    fun pair collision isAt => isAt.hasPlace_iff distinct id

/--
Only positions change, and only those of sprites that were put back: they are where they were
before, if this is known. So the roster in the end does not depend on anything but which places
belong to some pair that was put back; and if no id occurs twice, on anything but which sprites
collided.
-/
theorem poses_reconcile (poses : List (SpriteId × Pose)) :
    let r := s.reconcile threshold pause snapshot poses
    let recorded := s.recorded threshold pause snapshot poses
    r.poses.length = poses.length ∧ r.poses.map Prod.fst = poses.map Prod.fst ∧
    (r.poses.map fun entry => entry.2.angle) = (poses.map fun entry => entry.2.angle) ∧
    (∀ place, (r.poses[place]?.map fun entry => entry.2.position) =
      poses[place]?.map fun entry =>
        if ∃ pair ∈ recorded, HasPlace pair place then
          (snapshot.position? entry.1).getD entry.2.position
        else entry.2.position) ∧
    List.Forall₂ (fun pair collision => collision.IsAt (poses.map Prod.fst) pair) recorded
      r.collisions ∧
    (∀ (t : Session) (other : Float) (delay : Int64),
      (∀ place, Occurs (t.recorded other delay snapshot poses) place ↔ Occurs recorded place) →
      (t.reconcile other delay snapshot poses).poses = r.poses) ∧
    ((poses.map Prod.fst).Nodup → ∀ (t : Session) (other : Float) (delay : Int64),
      (∀ id, (∃ collision ∈ (t.reconcile other delay snapshot poses).collisions,
        collision.Involves id) ↔ ∃ collision ∈ r.collisions, collision.Involves id) →
      (t.reconcile other delay snapshot poses).poses = r.poses) := by
  intro r recorded
  have ends : r.poses = putBackAt snapshot recorded poses :=
    reconcile_poses threshold pause snapshot s poses
  refine ⟨?_, s.ids_reconcile threshold pause snapshot poses, ?_, fun place => ?_,
    isAt_recorded threshold pause snapshot s poses, fun t other delay same => ?_,
    fun distinct t other delay same => ?_⟩
  · rw [ends, putBackAt, List.length_mapIdx]
  · rw [ends, map_angle_putBackAt]
  · rw [ends]
    exact position_putBackAt snapshot recorded poses place
  · rw [ends, reconcile_poses]
    exact putBackAt_congr fun place _ _ => same place
  · rw [ends, reconcile_poses]
    refine putBackAt_congr fun place entry here => ?_
    rw [t.occurs_recorded_iff other delay snapshot distinct here, same]
    exact (s.occurs_recorded_iff threshold pause snapshot distinct here).symm

/-- The third sprite has nowhere to go back to. It collides once or twice, and stays where it is. -/
theorem poses_reconcile_newcomer :
    let snapshot : Snapshot := ⟨[(⟨1⟩, ⟨200, 0⟩), (⟨2⟩, ⟨0, 0⟩)]⟩
    let poses : List (SpriteId × Pose) :=
      [(⟨1⟩, ⟨⟨50, 50⟩, 90⟩), (⟨2⟩, ⟨⟨52, 52⟩, 0⟩), (⟨3⟩, ⟨⟨201, 1⟩, 45⟩)]
    let near := (start .empty []).reconcile 10 1000 snapshot poses
    let far := (start .empty []).reconcile 300 0 snapshot poses
    (poses.map Prod.fst).Nodup ∧ near.collisions = [⟨⟨1⟩, ⟨2⟩⟩, ⟨⟨1⟩, ⟨3⟩⟩] ∧
      far.collisions = [⟨⟨1⟩, ⟨2⟩⟩, ⟨⟨1⟩, ⟨3⟩⟩, ⟨⟨2⟩, ⟨3⟩⟩] ∧ far.poses = near.poses ∧
      near.poses = [(⟨1⟩, ⟨⟨200, 0⟩, 90⟩), (⟨2⟩, ⟨⟨0, 0⟩, 0⟩), (⟨3⟩, ⟨⟨201, 1⟩, 45⟩)] := by
  intro snapshot poses near far
  have distinct : (poses.map Prod.fst).Nodup := by decide
  have two : near.collisions = [⟨⟨1⟩, ⟨2⟩⟩, ⟨⟨1⟩, ⟨3⟩⟩] := by decide +kernel
  have three : far.collisions = [⟨⟨1⟩, ⟨2⟩⟩, ⟨⟨1⟩, ⟨3⟩⟩, ⟨⟨2⟩, ⟨3⟩⟩] := by decide +kernel
  have alike : ∀ id, (∃ collision ∈ far.collisions, collision.Involves id) ↔
      ∃ collision ∈ near.collisions, collision.Involves id := by
    intro id
    rw [two, three]
    simp only [List.mem_cons, List.not_mem_nil, or_false, exists_eq_or_imp, exists_eq_left,
      Collision.Involves]
    grind
  refine ⟨distinct, two, three, ?_, by decide +kernel⟩
  obtain ⟨-, -, -, -, -, -, same⟩ := poses_reconcile 10 1000 snapshot (start .empty []) poses
  exact same distinct (start .empty []) 300 0 alike

end Session

end SpriteStage
