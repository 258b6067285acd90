import SpriteStage.Proofs.Stage.Requests
import SpriteStage.Proofs.Stage.Visitors
import SpriteStage.Proofs.Store.History

/-! # The programs of a stage after any requests

The programs are kept apart from the roster, and a store that is asked behind the back of its stage
makes the two differ. A play looks programs up by the ids of the roster, and ids are not given out
again, so a program that was left behind is never performed.

* `Stage.Recalls` — the programs tell of the requests, and `Stage.recalls_after`
* `Stage.playIn_congr` — a play reads no programs but those of the roster
* `Stage.Paired` — the sprites with programs are those of the roster
* `Stage.programs_of_requests` — the programs, the plays and the refusals after any requests
-/

namespace SpriteStage

set_option autoImplicit false

open Request (adds)
open StageRequest (storeRequests lastGiven given)

/-! ## What the programs tell of the requests -/

namespace StageRequest

/-- A sprite came with one of the requests and has not gone since. -/
structure Came (config : StageConfig) (id : SpriteId) (history before : List StageRequest)
    (arrival : StageRequest) (since : List StageRequest) : Prop where
  split : history = before ++ arrival :: since
  isAdd : (arrival.toRequest config).isAdd = true
  number : id.number.toNat = adds (storeRequests config before) + 1
  stayed : .remove id ∉ storeRequests config since

variable {config : StageConfig} {id : SpriteId}

theorem exists_came {history : List StageRequest}
    (kept : Request.Kept (storeRequests config history) id) :
    ∃ before arrival since, Came config id history before arrival since := by
  obtain ⟨_, name, position, _, split, number, stayed⟩ := kept
  obtain ⟨before, rest, rfl, rfl, later⟩ := List.map_eq_append_iff.mp split
  obtain ⟨arrival, since, rfl, new, rfl⟩ := List.map_eq_cons_iff.mp later
  exact ⟨before, arrival, since, rfl, by rw [new]; rfl, number, stayed⟩

theorem Came.kept {history before since : List StageRequest} {arrival : StageRequest}
    (h : Came config id history before arrival since) :
    Request.Kept (storeRequests config history) id := by
  have isAdd := h.isAdd
  cases new : arrival.toRequest config with
  | add name position =>
    refine ⟨storeRequests config before, name, position, storeRequests config since, ?_, h.number,
      h.stayed⟩
    rw [h.split, storeRequests, List.map_append, List.map_cons, new]
    rfl
  | _ => rw [new] at isAdd; cases isAdd

/-- With one more request, either a sprite comes, or one that was there stays. -/
theorem Came.cases_concat {history before since : List StageRequest} {request arrival : StageRequest}
    (h : Came config id (history ++ [request]) before arrival since) :
    (history = before ∧ request = arrival ∧ since = []) ∨
      ∃ earlier, since = earlier ++ [request] ∧ Came config id history before arrival earlier ∧
        request.toRequest config ≠ .remove id := by
  obtain ⟨split, isAdd, number, stayed⟩ := h
  rcases List.eq_nil_or_concat since with rfl | ⟨earlier, last, rfl⟩
  · obtain ⟨rfl, same⟩ := List.append_inj' split rfl
    exact .inl ⟨rfl, List.singleton_inj.mp same, rfl⟩
  · rw [List.concat_eq_append, ← List.cons_append, ← List.append_assoc] at split
    obtain ⟨rfl, same⟩ := List.append_inj' split rfl
    obtain rfl := List.singleton_inj.mp same
    rw [List.concat_eq_append, storeRequests, List.map_append, List.mem_append, not_or] at stayed
    refine .inr ⟨earlier, List.concat_eq_append, ⟨rfl, isAdd, number, stayed.1⟩, ?_⟩
    exact fun gone => stayed.2 (List.mem_singleton.mpr gone.symm)

end StageRequest

namespace Stage

open StageRequest (Came toRequest)

def after (config : StageConfig) (history : List StageRequest) : Stage :=
  history.foldl StageRequest.perform (.empty config)

theorem after_concat (config : StageConfig) (history : List StageRequest)
    (request : StageRequest) :
    after config (history ++ [request]) = request.perform (after config history) := by
  rw [after, List.foldl_append, after]
  rfl

/-- The roster and the programs are those that the requests lead to. -/
structure Recalls (config : StageConfig) (history : List StageRequest) (stage : Stage) : Prop where
  sameConfig : stage.config = config
  store : stage.store.Tells (storeRequests config history)
  kept : ∀ {id before arrival since}, Came config id history before arrival since →
    stage.program? id = lastGiven id arrival since
  unknown : ∀ id, adds (storeRequests config history) < id.number.toNat → stage.program? id = none

namespace Recalls

variable {config : StageConfig} {history : List StageRequest} {stage : Stage}

theorem empty (config : StageConfig) : (Stage.empty config).Recalls config [] := by
  have nothing : adds [] < UInt64.size := by decide
  refine ⟨rfl, Store.tells_after nothing, ?_, fun _ _ => rfl⟩
  intro id before arrival since came
  cases before <;> cases came.split

theorem perform (h : stage.Recalls config history) (request : StageRequest)
    (few : adds (storeRequests config (history ++ [request])) < UInt64.size) :
    (request.perform stage).Recalls config (history ++ [request]) := by
  have asked : storeRequests config (history ++ [request]) =
      storeRequests config history ++ [request.toRequest config] := List.map_append
  rw [asked] at few
  have counted := Request.adds_concat (storeRequests config history) (request.toRequest config)
  have eq_new : (request.toRequest config).isAdd = true → ∀ id : SpriteId,
      id = ⟨stage.store.issued + 1⟩ ↔
        id.number.toNat = adds (storeRequests config history) + 1 := by
    intro new
    rw [counted, if_pos new] at few
    exact h.store.eq_add_iff few "" ⟨0, 0⟩
  refine ⟨?_, ?_, ?_, ?_⟩
  · rw [StageRequest.config_perform, h.sameConfig]
  · rw [asked, StageRequest.store_perform, h.sameConfig]
    exact h.store.perform _ few
  · intro id before arrival since came
    rcases came.cases_concat with ⟨rfl, rfl, rfl⟩ | ⟨earlier, rfl, there, stays⟩
    · -- the sprite comes now, and nothing was kept for its id
      have number := came.number
      refine StageRequest.program?_arrival came.isAdd ((eq_new came.isAdd id).mpr number) ?_
      exact h.unknown id (by omega)
    · have old : id.number.toNat ≤ adds (storeRequests config history) :=
        h.store.number_le_of_mem ((h.store.roster id).mpr there.kept)
      rw [StageRequest.lastGiven_concat, ← h.kept there]
      refine StageRequest.program?_stay (fun new same => ?_) stays
      have := (eq_new new id).mp same
      omega
  · intro id above
    rw [asked, counted] at above
    have old : (request.toRequest config).isAdd = true → id ≠ ⟨stage.store.issued + 1⟩ := by
      intro new same
      rw [if_pos new, (eq_new new id).mp same] at above
      exact Nat.lt_irrefl _ above
    exact StageRequest.program?_unknown old (h.unknown id (by omega))

end Recalls

theorem recalls_after {config : StageConfig} {history : List StageRequest}
    (few : adds (storeRequests config history) < UInt64.size) :
    (after config history).Recalls config history := by
  induction history using List.reverseRecOn with
  | nil => exact .empty config
  | append_singleton history request ih =>
    rw [after_concat]
    refine (ih (Nat.lt_of_le_of_lt (Request.adds_le_of_prefix ?_) few)).perform request few
    exact (List.prefix_append history [request]).map _

/-! ## Plays -/

/-- A play reads no programs but those of the roster. -/
theorem playIn_congr {stage other : Stage} (config : other.config = stage.config)
    (store : other.store = stage.store)
    (programs : ∀ id ∈ stage.store.ids, other.program? id = stage.program? id)
    (order : TurnOrder) (limit : Option Nat) (runId : RunId) (startedAt : Timestamp)
    (visits : List Visit) :
    other.playIn order limit runId startedAt visits =
      stage.playIn order limit runId startedAt visits := by
  have performances : ∀ sprite ∈ stage.store.sprites,
      other.performanceOf sprite = stage.performanceOf sprite := by
    intro sprite member
    rw [performanceOf_eq, performanceOf_eq, config,
      programs sprite.id (List.mem_map_of_mem member)]
  have performers : other.performersOf other.store.sprites =
      stage.performersOf stage.store.sprites := by
    rw [store, performersOf, performersOf]
    refine List.ext_getElem (by simp) fun place there _ => ?_
    simp only [List.getElem_mapIdx]
    rw [performances _ (List.getElem_mem _)]
  have finalPoses : other.finalPoses = stage.finalPoses := by
    rw [Stage.finalPoses, Stage.finalPoses, store]
    exact List.map_congr_left fun sprite member => by rw [performances sprite member]
  rw [playIn, playIn, putBack, putBack, performed, performed, performers, finalPoses, store, config]

/--
The sprite performs the program, in any play: what is told of it is what it announces when it performs
the program alone.
-/
def Performs (stage : Stage) (sprite : Sprite) (list : ActionList) : Prop :=
  stage.performanceOf sprite =
    performance stage.config.repeatDelay list.compile sprite.pose ∧
  ∀ order limit runId startedAt visits,
    ((stage.playIn order limit runId startedAt visits).session.events.filter
      fun event => event.sprite? = some sprite.id) =
    ((Session.start stage.store []).performAlone sprite.id stage.config.repeatDelay list.compile
      sprite.pose).1.events

theorem performs_program {stage : Stage} (distinct : stage.store.ids.Nodup) {sprite : Sprite}
    (member : sprite ∈ stage.store.sprites) :
    stage.Performs sprite ((stage.program? sprite.id).getD .empty) :=
  ⟨stage.performanceOf_eq sprite, fun order limit runId startedAt visits =>
    own_playIn order limit runId startedAt visits distinct member⟩

/-! ## Stages that hear of everyone -/

/-- The sprites with programs are those of the roster. -/
def Paired (stage : Stage) : Prop :=
  ∀ id, (stage.program? id).isSome = true ↔ id ∈ stage.store.ids

theorem paired_perform {stage : Stage} (h : stage.Paired) {request : StageRequest}
    (heard : request.bypasses = false) : (request.perform stage).Paired := by
  intro id
  rw [StageRequest.program?_perform, StageRequest.store_perform, Request.ids_perform]
  have paired := h id
  cases request with
  | addSprite name => by_cases new : id = ⟨stage.store.issued + 1⟩ <;> simp [toRequest, new, paired]
  | addSpriteAt name position =>
    by_cases new : id = ⟨stage.store.issued + 1⟩ <;> simp [toRequest, new, paired]
  | removeSprite other =>
    by_cases here : id = other
    · subst here
      by_cases there : id ∈ stage.store.ids <;> simp [toRequest, there, paired]
    · simp [toRequest, here, paired]
  | ofStore request =>
    cases request with
    | add name position => cases heard
    | remove other => cases heard
    | _ => simpa [toRequest] using paired
  | _ => simpa [toRequest] using paired

theorem paired_after (config : StageConfig) {history : List StageRequest}
    (heard : ∀ request ∈ history, request.bypasses = false) : (after config history).Paired := by
  induction history using List.reverseRecOn with
  | nil => exact fun id => ⟨nofun, fun mem => absurd mem List.not_mem_nil⟩
  | append_singleton history request ih =>
    rw [after_concat]
    refine paired_perform (ih fun earlier mem => heard earlier ?_) (heard request ?_)
    · exact List.mem_append_left [request] mem
    · exact List.mem_append_right history (List.mem_singleton_self request)

theorem refused_map {α β : Type} {there : Prop} {id : SpriteId} {result : Except Fault α}
    (h : Store.RefusedUnless there id result) (f : α → β) :
    Store.RefusedUnless there id (result.map f) := by
  refine ⟨fun mem => ?_, fun absent => ?_⟩
  · obtain ⟨value, ok⟩ := h.1 mem
    exact ⟨f value, by rw [ok]; rfl⟩
  · rw [h.2 absent]
    rfl

namespace Paired

variable {stage : Stage} (h : stage.Paired) (id : SpriteId)

include h

theorem refused_actions : Store.RefusedUnless (id ∈ stage.store.ids) id (stage.actions id) := by
  rw [← h id, actions_eq]
  cases stage.program? id <;> simp [Store.RefusedUnless]

theorem refused_editActions (edit : ActionList → ActionList) :
    Store.RefusedUnless (id ∈ stage.store.ids) id (stage.editActions id edit) := by
  rw [editActions_eq]
  exact refused_map (h.refused_actions id) _

theorem perform_editActions_of_absent (absent : id ∉ stage.store.ids)
    (edit : ActionList → ActionList) : StageRequest.perform stage (.editActions id edit) = stage := by
  rw [← h id, Option.not_isSome_iff_eq_none] at absent
  rw [StageRequest.perform_editActions, absent]

end Paired

theorem refused_removeSprite (stage : Stage) (id : SpriteId) :
    Store.RefusedUnless (id ∈ stage.store.ids) id (stage.removeSprite id) := by
  rw [removeSprite_eq]
  exact refused_map (stage.store.refused_get id) _

/-! ## Any requests -/

/--
What has become of the programs of a stage. In any play a sprite of the roster performs the program
it was given last since it came; one that came to the store alone performs nothing. A sprite that has
gone stays away, and nothing depends on the program it may have left behind. If all coming and going
went through the stage, the sprites with programs are those of the roster, and only what is about
another sprite is refused.
-/
theorem programs_of_requests (config : StageConfig) (history : List StageRequest) :
    let stage := after config history
    (adds (storeRequests config history) < UInt64.size →
      (∀ sprite ∈ stage.store.sprites, ∃ before arrival since,
        Came config sprite.id history before arrival since ∧
          stage.program? sprite.id = lastGiven sprite.id arrival since ∧
          stage.Performs sprite ((lastGiven sprite.id arrival since).getD .empty)) ∧
      ∀ before request since id, history = before ++ request :: since →
        request.toRequest config = .remove id → id ∈ (after config before).store.ids →
          id ∉ stage.store.ids) ∧
    (∀ order limit runId startedAt visits,
      let run := stage.playIn order limit runId startedAt visits
      (∀ event ∈ run.session.events, ∀ id, event.sprite? = some id → id ∈ stage.store.ids) ∧
      ∀ other : Stage, other.config = stage.config → other.store = stage.store →
        (∀ id ∈ stage.store.ids, other.program? id = stage.program? id) →
          other.playIn order limit runId startedAt visits = run) ∧
    ((∀ request ∈ history, request.bypasses = false) →
      (∀ id, (stage.program? id).isSome = true ↔ id ∈ stage.store.ids) ∧
      ∀ id edit list,
        Store.RefusedUnless (id ∈ stage.store.ids) id (stage.actions id) ∧
        Store.RefusedUnless (id ∈ stage.store.ids) id (stage.editActions id edit) ∧
        Store.RefusedUnless (id ∈ stage.store.ids) id (stage.setActions id list) ∧
        Store.RefusedUnless (id ∈ stage.store.ids) id (stage.removeSprite id) ∧
        (id ∉ stage.store.ids →
          StageRequest.perform stage (.editActions id edit) = stage ∧
          StageRequest.perform stage (.setActions id list) = stage ∧
          StageRequest.perform stage (.removeSprite id) = stage)) := by
  intro stage
  refine ⟨fun few => ?_, fun order limit runId startedAt visits => ⟨?_, ?_⟩, fun heard => ?_⟩
  · have recalls := recalls_after few
    refine ⟨fun sprite member => ?_, fun before request since id split gone there => ?_⟩
    · have kept := (recalls.store.roster sprite.id).mp (List.mem_map_of_mem member)
      obtain ⟨before, arrival, since, came⟩ := StageRequest.exists_came kept
      refine ⟨before, arrival, since, came, recalls.kept came, ?_⟩
      rw [← recalls.kept came]
      exact performs_program recalls.store.sound.distinct member
    · have asked : storeRequests config history =
          storeRequests config before ++ .remove id :: storeRequests config since := by
        rw [split, storeRequests, List.map_append, List.map_cons, gone]
        rfl
      have earlier : adds (storeRequests config before) < UInt64.size := by
        refine Nat.lt_of_le_of_lt (Request.adds_le_of_prefix ?_) few
        exact asked ▸ List.prefix_append _ _
      have below := (recalls_after earlier).store.number_le_of_mem there
      rw [recalls.store.roster, asked]
      exact Request.not_kept_of_removed below _
  · exact fun event shown id => stage.sprite?_playIn order limit runId startedAt visits shown
  · exact fun other config store programs =>
      playIn_congr config store programs order limit runId startedAt visits
  · have paired := paired_after config heard
    refine ⟨paired, fun id edit list => ⟨paired.refused_actions id, paired.refused_editActions id edit,
      paired.refused_editActions id _, stage.refused_removeSprite id, fun absent => ⟨?_, ?_, ?_⟩⟩⟩
    · exact paired.perform_editActions_of_absent id absent edit
    · exact paired.perform_editActions_of_absent id absent fun _ => list
    · rw [StageRequest.perform_removeSprite, if_neg absent]

/-- The first of three sprites goes behind the back of the stage, and the second comes so. -/
def bypassed : List StageRequest :=
  [.addSprite "Cat", .setActions ⟨1⟩ ⟨[.moveBy (.number 4)]⟩, .ofStore (.remove ⟨1⟩),
    .ofStore (.add "Owl" ⟨0, 0⟩), .setActions ⟨2⟩ ⟨[.turnBy (.number 90)]⟩,
    .addSpriteAt "Dog" ⟨9, 9⟩, .editActions ⟨3⟩ fun list => (list.push (.moveBy (.number 5))).2]

theorem programs_of_requests_bypassed :
    let stage := after .standard bypassed
    adds (storeRequests .standard bypassed) < UInt64.size ∧
      stage.program? ⟨1⟩ = some ⟨[.moveBy (.number 4)]⟩ ∧ ⟨1⟩ ∉ stage.store.ids ∧
      stage.Performs (.fresh ⟨2⟩ "Owl" ⟨0, 0⟩) .empty ∧
      stage.Performs (.fresh ⟨3⟩ "Dog" ⟨9, 9⟩) ⟨[.moveBy (.number 5)]⟩ := by
  intro stage
  have few : adds (storeRequests .standard bypassed) < UInt64.size := by decide
  have roster : stage.store.sprites = [.fresh ⟨2⟩ "Owl" ⟨0, 0⟩, .fresh ⟨3⟩ "Dog" ⟨9, 9⟩] := by
    decide +kernel
  obtain ⟨performed, gone⟩ := (programs_of_requests .standard bypassed).1 few
  refine ⟨few, rfl, ?_, ?_, ?_⟩
  · have there : ⟨1⟩ ∈ (after .standard (bypassed.take 2)).store.ids := by decide +kernel
    exact gone (bypassed.take 2) (.ofStore (.remove ⟨1⟩)) (bypassed.drop 3) ⟨1⟩ rfl rfl there
  · have member : .fresh ⟨2⟩ "Owl" ⟨0, 0⟩ ∈ stage.store.sprites := by simp [roster]
    obtain ⟨_, _, _, -, kept, performs⟩ := performed _ member
    rw [← kept] at performs
    exact performs
  · have member : .fresh ⟨3⟩ "Dog" ⟨9, 9⟩ ∈ stage.store.sprites := by simp [roster]
    obtain ⟨_, _, _, -, kept, performs⟩ := performed _ member
    rw [← kept] at performs
    exact performs

end Stage

end SpriteStage
