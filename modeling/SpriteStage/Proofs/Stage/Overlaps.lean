import SpriteStage.Proofs.Collision.Pairs
import SpriteStage.Proofs.Number.Distance
import SpriteStage.Proofs.Stage.Visitors

/-! # Overlaps that a play leaves behind

When a pair is put back, its sprites may come to overlap with others that have been tested before.
This is the only way in which sprites overlap after a play.

* `Stage.overlap_playIn` — sprites that overlap in the report were put back, or one of them later
-/

namespace SpriteStage

set_option autoImplicit false

/-! ## Places and ids -/

theorem getElem?_of_id {poses : List (SpriteId × Pose)} (distinct : (poses.map Prod.fst).Nodup)
    {entry : SpriteId × Pose} (mem : entry ∈ poses) {place : Nat}
    (here : (poses.map Prod.fst)[place]? = some entry.1) : poses[place]? = some entry := by
  obtain ⟨other, there⟩ := List.mem_iff_getElem?.mp mem
  have same : (poses.map Prod.fst)[place]? = (poses.map Prod.fst)[other]? := by
    rw [here, List.getElem?_map, there]
    rfl
  have inside := (List.getElem?_eq_some_iff.mp here).1
  rw [(List.getElem?_inj inside distinct).mp same]
  exact there

namespace Stage

variable {stage : Stage} (order : TurnOrder) (limit : Option Nat) (runId : RunId)
  (startedAt : Timestamp) (script : List Visit)

/-! ## The report -/

theorem getElem?_putBack (distinct : stage.store.ids.Nodup) {sprite : Sprite}
    (reported : sprite ∈ (stage.playIn order limit runId startedAt script).outcome.sprites)
    {place : Nat} (here : stage.store.ids[place]? = some sprite.id) :
    (stage.putBack (stage.performed order limit runId script)).poses[place]? =
      some (sprite.id, sprite.pose) := by
  have known := stage.pose_playIn order limit runId startedAt script distinct reported
    (List.mem_of_getElem? here)
  rw [← stage.ids_putBack (stage.performed order limit runId script)] at distinct here
  exact getElem?_of_id distinct known here

/-- Sprites that overlap in the report have been put back together, or one of them later. -/
theorem accounted_playIn (distinct : stage.store.ids.Nodup) {i j : Nat} {a b : Sprite}
    (less : i < j)
    (firstReported : a ∈ (stage.playIn order limit runId startedAt script).outcome.sprites)
    (secondReported : b ∈ (stage.playIn order limit runId startedAt script).outcome.sprites)
    (atFirst : stage.store.ids[i]? = some a.id) (atSecond : stage.store.ids[j]? = some b.id)
    (close : collides a.position b.position stage.config.collisionThreshold = true) :
    ⟨a.id, b.id⟩ ∈ (stage.playIn order limit runId startedAt script).outcome.collisions ∨
      ∃ collision ∈ (stage.playIn order limit runId startedAt script).outcome.collisions,
        (collision.Involves a.id ∨ collision.Involves b.id) ∧
          ∃ pair, collision.IsAt stage.store.ids pair ∧ PairBefore (i, j) pair := by
  obtain ⟨pair, -, collision, known, isAt, when⟩ := Session.overlap_reconcile
    (stage.performed order limit runId script) less
    (getElem?_putBack order limit runId startedAt script distinct firstReported atFirst)
    (getElem?_putBack order limit runId startedAt script distinct secondReported atSecond) close
  rw [ids_finalPoses] at isAt
  rcases when with rfl | ⟨later, belongs⟩
  · obtain ⟨first, second⟩ := isAt
    rw [atFirst, Option.some_inj] at first
    rw [atSecond, Option.some_inj] at second
    rw [first, second]
    exact .inl known
  · exact .inr ⟨collision, known, belongs.imp (isAt.involves atFirst) (isAt.involves atSecond),
      pair, isAt, later⟩

/-- Sprites that have not been put back do not overlap in the report. -/
theorem not_collides_playIn (distinct : stage.store.ids.Nodup) {i j : Nat} {a b : Sprite}
    (less : i < j)
    (firstReported : a ∈ (stage.playIn order limit runId startedAt script).outcome.sprites)
    (secondReported : b ∈ (stage.playIn order limit runId startedAt script).outcome.sprites)
    (atFirst : stage.store.ids[i]? = some a.id) (atSecond : stage.store.ids[j]? = some b.id)
    (untouched : ∀ collision ∈ (stage.playIn order limit runId startedAt script).outcome.collisions,
      ¬collision.Involves a.id ∧ ¬collision.Involves b.id) :
    collides a.position b.position stage.config.collisionThreshold = false := by
  rw [← Bool.not_eq_true]
  intro close
  rcases accounted_playIn order limit runId startedAt script distinct less firstReported
    secondReported atFirst atSecond close with together | ⟨collision, known, involved, -⟩
  · exact (untouched _ together).1 (.inl rfl)
  · exact involved.elim (untouched collision known).1 (untouched collision known).2

/--
Two sprites of a play may overlap in its report, whatever visitors have done and in any order of
turns. Then they have been put back together, or one of them has been put back with another sprite
after the two had been tested. So two sprites that have not been put back do not overlap.
-/
theorem overlap_playIn (distinct : stage.store.ids.Nodup) (order : TurnOrder) (limit : Option Nat)
    (runId : RunId) (startedAt : Timestamp) (script : List Visit) :
    let report := (stage.playIn order limit runId startedAt script).outcome
    (∀ {i j : Nat} {a b : Sprite}, i < j → a ∈ report.sprites → b ∈ report.sprites →
      stage.store.ids[i]? = some a.id → stage.store.ids[j]? = some b.id →
      collides a.position b.position stage.config.collisionThreshold = true →
      ⟨a.id, b.id⟩ ∈ report.collisions ∨
        ∃ collision ∈ report.collisions, (collision.Involves a.id ∨ collision.Involves b.id) ∧
          ∃ pair, collision.IsAt stage.store.ids pair ∧ PairBefore (i, j) pair) ∧
    (∀ {a b : Sprite}, a ∈ report.sprites → b ∈ report.sprites → a.id ∈ stage.store.ids →
      b.id ∈ stage.store.ids → a.id ≠ b.id →
      (∀ collision ∈ report.collisions, ¬collision.Involves a.id ∧ ¬collision.Involves b.id) →
      collides a.position b.position stage.config.collisionThreshold = false) := by
  intro report
  refine ⟨accounted_playIn order limit runId startedAt script distinct, ?_⟩
  intro a b aReported bReported aThere bThere different untouched
  obtain ⟨i, atFirst⟩ := List.mem_iff_getElem?.mp aThere
  obtain ⟨j, atSecond⟩ := List.mem_iff_getElem?.mp bThere
  rcases Nat.lt_trichotomy i j with less | rfl | greater
  · exact not_collides_playIn order limit runId startedAt script distinct less aReported bReported
      atFirst atSecond untouched
  · rw [atFirst, Option.some_inj] at atSecond
    exact absurd atSecond different
  · rw [collides_comm]
    exact not_collides_playIn order limit runId startedAt script distinct greater bReported
      aReported atSecond atFirst fun collision known => (untouched collision known).symm

/-- Three sprites, of which the second walks away from the first until it stands on the third. -/
def walkingAway : Stage where
  config := .standard
  store := ⟨3, [.fresh ⟨1⟩ "Cat" ⟨0, 0⟩, .fresh ⟨2⟩ "Dog" ⟨5, 0⟩, .fresh ⟨3⟩ "Owl" ⟨105, 0⟩]⟩
  programs := [(⟨2⟩, ⟨[.moveBy (.number 100)]⟩)]

/-- The second has been put back with the third, and overlaps with the first again. -/
theorem overlap_playIn_walkingAway :
    let report := (walkingAway.playIn .byRoster none .nil ⟨0, 0⟩ []).outcome
    let cat : Sprite := .fresh ⟨1⟩ "Cat" ⟨0, 0⟩
    let dog : Sprite := .fresh ⟨2⟩ "Dog" ⟨5, 0⟩
    walkingAway.store.ids.Nodup ∧ cat ∈ report.sprites ∧ dog ∈ report.sprites ∧
      walkingAway.store.ids[0]? = some cat.id ∧ walkingAway.store.ids[1]? = some dog.id ∧
      collides cat.position dog.position walkingAway.config.collisionThreshold = true ∧
      (⟨cat.id, dog.id⟩ ∈ report.collisions ∨
        ∃ collision ∈ report.collisions, (collision.Involves cat.id ∨ collision.Involves dog.id) ∧
          ∃ pair, collision.IsAt walkingAway.store.ids pair ∧ PairBefore (0, 1) pair) ∧
      report.collisions = [⟨⟨2⟩, ⟨3⟩⟩] := by
  intro report cat dog
  have distinct : walkingAway.store.ids.Nodup := by decide
  have catReported : cat ∈ report.sprites := by decide +kernel
  have dogReported : dog ∈ report.sprites := by decide +kernel
  have close : collides cat.position dog.position walkingAway.config.collisionThreshold = true := by
    decide +kernel
  have accounted := (overlap_playIn distinct .byRoster none .nil ⟨0, 0⟩ []).1 Nat.zero_lt_one
    catReported dogReported rfl rfl close
  exact ⟨distinct, catReported, dogReported, rfl, rfl, close, accounted, by decide +kernel⟩

end Stage

end SpriteStage
