import SpriteStage.Proofs.Store.History

/-! # What becomes of a sprite

A sprite is what its arrival and the later requests about it have made of it; requests about others
leave it alone. So two requests in a row that are about different sprites may change places.

* `Request.names`, `Request.about` — the sprites a request is about, and what is asked about one
* `Sprite.rewritten` — a sprite after some requests, of which the last to give a part counts
* `Request.fate` — what a request does to any one sprite
* `Request.answer` — what is answered to a request
* `Store.record_of_requests` — the sprite that is found, and requests that change places
-/

namespace SpriteStage

set_option autoImplicit false

/-! ## What is asked about a sprite -/

namespace Request

/-- The sprites that a request is about. A new sprite is not one of them. -/
def names : Request → List SpriteId
  | look => []
  | add _ _ => []
  | remove id => [id]
  | drag id _ => [id]
  | setAngle id _ => [id]
  | commitPose id _ => [id]
  | setBubble id _ => [id]
  | publish poses => poses.map Prod.fst

/-- A request without what it says about other sprites. -/
def only (id : SpriteId) : Request → Request
  | publish poses => publish (poses.filter fun entry => entry.1 = id)
  | request => request

/-- The requests that are about a sprite, each without what it says about others. -/
def about (id : SpriteId) (requests : List Request) : List Request :=
  (requests.filter fun request => id ∈ request.names).map (only id)

/-- The positions that a request gives, one after the other. -/
def positions : Request → List Position
  | drag _ position => [position]
  | commitPose _ pose => [pose.position]
  | publish poses => poses.map fun entry => entry.2.position
  | _ => []

def angles : Request → List Float
  | setAngle _ angle => [angle]
  | commitPose _ pose => [pose.angle]
  | publish poses => poses.map fun entry => entry.2.angle
  | _ => []

def bubbles : Request → List (Option Bubble)
  | setBubble _ bubble => [bubble]
  | _ => []

theorem about_append (id : SpriteId) (first later : List Request) :
    about id (first ++ later) = about id first ++ about id later := by
  simp [about]

theorem about_of_not_mem {id : SpriteId} {request : Request} (absent : id ∉ request.names) :
    about id [request] = [] := by
  simp [about, absent]

end Request

open Request (about positions angles bubbles adds Kept)

namespace Sprite

/-- A sprite after some requests about it; of each part the last that was given counts. -/
def rewritten (sprite : Sprite) (requests : List Request) : Sprite :=
  { sprite with
    position := (requests.flatMap positions).getLastD sprite.position
    angle := (requests.flatMap angles).getLastD sprite.angle
    message := ((requests.flatMap bubbles).map (Option.map Bubble.text)).getLastD sprite.message
    messageKind :=
      ((requests.flatMap bubbles).map (Option.map Bubble.kind)).getLastD sprite.messageKind }

@[simp] theorem rewritten_nil (sprite : Sprite) : sprite.rewritten [] = sprite := rfl

@[simp] theorem id_rewritten (sprite : Sprite) (requests : List Request) :
    (sprite.rewritten requests).id = sprite.id := rfl

theorem rewritten_append (sprite : Sprite) (first later : List Request) :
    sprite.rewritten (first ++ later) = (sprite.rewritten first).rewritten later := by
  simp [rewritten]

end Sprite

/-! ## What a request does to a sprite -/

namespace Request

/-- What becomes of a sprite of the roster at a request: it may be taken off. -/
def fate (request : Request) (sprite : Sprite) : Option Sprite :=
  if request = remove sprite.id then none
  else some (sprite.rewritten (about sprite.id [request]))

theorem id_of_fate {request : Request} {sprite after : Sprite}
    (h : request.fate sprite = some after) : after.id = sprite.id := by
  unfold fate at h
  split at h
  · cases h
  · cases h
    rfl

theorem fate_of_not_mem {request : Request} {sprite : Sprite} (absent : sprite.id ∉ request.names) :
    request.fate sprite = some sprite := by
  have stays : request ≠ remove sprite.id := by
    rintro rfl
    exact absent List.mem_cons_self
  rw [fate, if_neg stays, about_of_not_mem absent, Sprite.rewritten_nil]

/-- Of several poses the last one that is the sprite's own counts. -/
theorem posed_eq (poses : List (SpriteId × Pose)) (sprite : Sprite) :
    Store.posed poses sprite =
      let own := poses.filter fun entry => entry.1 = sprite.id
      { sprite with
        position := (own.map fun entry => entry.2.position).getLastD sprite.position
        angle := (own.map fun entry => entry.2.angle).getLastD sprite.angle } := by
  unfold Store.posed
  induction poses generalizing sprite with
  | nil => rfl
  | cons entry rest ih =>
    rw [List.foldl_cons, ih]
    by_cases own : entry.1 = sprite.id
    · rw [if_pos own.symm, List.filter_cons_of_pos (by simpa using own)]
      simp only [List.map_cons, List.getLastD_cons]
      rfl
    · rw [if_neg (Ne.symm own), List.filter_cons_of_neg (by simpa using own)]

theorem fate_publish (poses : List (SpriteId × Pose)) (sprite : Sprite) :
    (publish poses).fate sprite = some (Store.posed poses sprite) := by
  by_cases named : sprite.id ∈ poses.map Prod.fst
  · rw [posed_eq]
    simp [fate, about, names, only, named, Sprite.rewritten, positions, angles, bubbles]
  · rw [fate_of_not_mem named, Store.posed_of_absent named]

theorem filterMap_fate {request : Request} {change : Sprite → Sprite}
    (each : ∀ sprite, request.fate sprite = some (change sprite)) (sprites : List Sprite) :
    sprites.filterMap request.fate = sprites.map change := by
  rw [show request.fate = some ∘ change from funext each, List.filterMap_eq_map]

theorem fate_of_names {request : Request} {id : SpriteId} {change : Sprite → Sprite}
    (names : request.names = [id]) (same : request.only id = request)
    (stays : request ≠ remove id) (effect : ∀ sprite, sprite.rewritten [request] = change sprite)
    (sprite : Sprite) :
    request.fate sprite = some (if sprite.id = id then change sprite else sprite) := by
  by_cases own : sprite.id = id
  · rw [fate, own, if_neg stays, if_pos rfl, ← effect]
    simp [about, names, same]
  · rw [if_neg own, fate_of_not_mem]
    simpa [names] using own

theorem modify_of_names (request : Request) {id : SpriteId} {change : Sprite → Sprite}
    (names : request.names = [id]) (same : request.only id = request)
    (stays : request ≠ remove id) (effect : ∀ sprite, sprite.rewritten [request] = change sprite)
    (store : Store) :
    store.modify id change = { store with sprites := store.sprites.filterMap request.fate } := by
  rw [filterMap_fate (fate_of_names names same stays effect)]
  rfl

theorem fate_remove (id : SpriteId) (sprite : Sprite) :
    (remove id).fate sprite = if sprite.id = id then none else some sprite := by
  by_cases own : sprite.id = id
  · rw [fate, own, if_pos rfl, if_pos rfl]
  · rw [if_neg own, fate_of_not_mem]
    simpa [names] using own

/-- A request does to each sprite what it does to this one alone. -/
theorem sprites_perform {request : Request} (old : request.isAdd = false) (store : Store) :
    request.perform store = { store with sprites := store.sprites.filterMap request.fate } := by
  cases request with
  | add name position => cases old
  | look =>
    have each (sprite : Sprite) : look.fate sprite = some (id sprite) :=
      fate_of_not_mem List.not_mem_nil
    rw [filterMap_fate each, List.map_id]
    rfl
  | remove id =>
    rw [perform_remove, Store.without, ← List.filterMap_eq_filter]
    congr 2
    funext sprite
    rw [fate_remove, Option.guard]
    by_cases own : sprite.id = id <;> simp [own]
  | drag id position =>
    rw [perform_drag]
    exact modify_of_names (drag id position) rfl rfl (by simp) (fun _ => rfl) store
  | setAngle id angle =>
    rw [perform_setAngle]
    exact modify_of_names (setAngle id angle) rfl rfl (by simp) (fun _ => rfl) store
  | commitPose id pose =>
    exact modify_of_names (commitPose id pose) rfl rfl (by simp) (fun _ => rfl) store
  | setBubble id bubble =>
    exact modify_of_names (setBubble id bubble) rfl rfl (by simp) (fun _ => rfl) store
  | publish poses => rw [perform, Store.publish_eq, filterMap_fate (fate_publish poses)]

theorem find?_filterMap_fate {request : Request} {id : SpriteId} (stays : request ≠ remove id)
    (sprites : List Sprite) :
    (sprites.filterMap request.fate).find? (fun sprite => sprite.id == id) =
      (sprites.find? fun sprite => sprite.id == id).map fun sprite =>
        sprite.rewritten (about id [request]) := by
  induction sprites with
  | nil => rfl
  | cons sprite rest ih =>
    by_cases own : sprite.id = id
    · have kept : request.fate sprite = some (sprite.rewritten (about id [request])) := by
        rw [fate, own, if_neg stays]
      rw [List.filterMap_cons_some kept]
      simp [own]
    · rw [List.find?_cons_of_neg (by simpa using own), ← ih]
      cases becomes : request.fate sprite with
      | none => rw [List.filterMap_cons_none becomes]
      | some after =>
        rw [List.filterMap_cons_some becomes, List.find?_cons_of_neg]
        simpa [id_of_fate becomes] using own

variable (store : Store) {id : SpriteId}

/-- Unless it takes the sprite off the roster, a request rewrites what is found under its id. -/
theorem find?_perform_of_some {request : Request} (stays : request ≠ remove id) {sprite : Sprite}
    (found : store.find? id = some sprite) :
    (request.perform store).find? id = some (sprite.rewritten (about id [request])) := by
  cases old : request.isAdd with
  | true =>
    cases request with
    | add name position =>
      rw [perform, Store.find?_add, found]
      rfl
    | _ => cases old
  | false =>
    rw [sprites_perform old, Store.find?, find?_filterMap_fate stays, ← Store.find?, found]
    rfl

theorem find?_perform_of_not_mem {request : Request} (old : request.isAdd = false)
    (absent : id ∉ request.names) : (request.perform store).find? id = store.find? id := by
  have stays : request ≠ remove id := by
    rintro rfl
    exact absent List.mem_cons_self
  rw [sprites_perform old, Store.find?, find?_filterMap_fate stays, about_of_not_mem absent]
  simp [Store.find?]

theorem fate_comm {first second : Request} {sprite : Sprite}
    (apart : ∀ id ∈ first.names, id ∉ second.names) :
    (first.fate sprite).bind second.fate = (second.fate sprite).bind first.fate := by
  by_cases named : sprite.id ∈ first.names
  · rw [fate_of_not_mem (apart sprite.id named), Option.bind_some]
    cases becomes : first.fate sprite with
    | none => rfl
    | some after =>
      rw [Option.bind_some, fate_of_not_mem]
      rw [id_of_fate becomes]
      exact apart sprite.id named
  · rw [fate_of_not_mem named, Option.bind_some]
    cases becomes : second.fate sprite with
    | none => rfl
    | some after =>
      rw [Option.bind_some, fate_of_not_mem]
      rwa [id_of_fate becomes]

theorem perform_comm {first second : Request} (oldFirst : first.isAdd = false)
    (oldSecond : second.isAdd = false) (apart : ∀ id ∈ first.names, id ∉ second.names) :
    second.perform (first.perform store) = first.perform (second.perform store) := by
  rw [sprites_perform oldFirst, sprites_perform oldSecond, sprites_perform oldSecond,
    sprites_perform oldFirst, List.filterMap_filterMap, List.filterMap_filterMap]
  congr 2
  funext sprite
  exact fate_comm apart

/-! ## Answers -/

/-- What one learns from a request that is not refused. -/
inductive Answer where
  | done
  | issued (id : SpriteId)
  | removed (sprite : Sprite)

/-- What is answered to a request, which may be refused. -/
def answer (store : Store) : Request → Except Fault Answer
  | look => .ok .done
  | add name position => .ok (.issued (store.add name position).1)
  | remove id => (store.remove id).map fun removed => .removed removed.1
  | drag id position => (store.drag id position).map fun _ => .done
  | setAngle id angle => (store.setAngle id angle).map fun _ => .done
  | commitPose _ _ => .ok .done
  | setBubble _ _ => .ok .done
  | publish _ => .ok .done

/-- The answer depends on the sprites that the request is about. -/
theorem answer_congr {store other : Store} {request : Request} (old : request.isAdd = false)
    (same : ∀ id ∈ request.names, store.find? id = other.find? id) :
    request.answer store = request.answer other := by
  have update (id : SpriteId) (change : Sprite → Sprite) (found : store.find? id = other.find? id) :
      (store.update id change).map (fun _ => Answer.done) =
        (other.update id change).map fun _ => Answer.done := by
    rw [Store.update, Store.update, Store.contains, Store.contains, found]
    split <;> rfl
  cases request with
  | add name position => cases old
  | remove id =>
    rw [answer, answer, Store.remove, Store.remove, same id List.mem_cons_self]
    split <;> rfl
  | drag id position => exact update id _ (same id List.mem_cons_self)
  | setAngle id angle => exact update id _ (same id List.mem_cons_self)
  | _ => rfl

theorem answer_perform {first second : Request} (oldFirst : first.isAdd = false)
    (oldSecond : second.isAdd = false) (apart : ∀ id ∈ second.names, id ∉ first.names) :
    second.answer (first.perform store) = second.answer store :=
  answer_congr oldSecond fun id named => find?_perform_of_not_mem store oldFirst (apart id named)

end Request

/-! ## After any requests -/

namespace Store

/-- A sprite from its arrival on, until it is taken off the roster. -/
theorem find?_after_add {before : List Request} (few : adds before + 1 < UInt64.size)
    (name : String) (position : Position) {since : List Request}
    (stays : .remove ((after before).add name position).1 ∉ since) :
    let id := ((after before).add name position).1
    (after (before ++ .add name position :: since)).find? id =
      some ((Sprite.fresh id name position).rewritten (about id since)) := by
  intro id
  induction since using List.reverseRecOn with
  | nil =>
    have tells := tells_after (Nat.lt_of_succ_lt few)
    have absent : (after before).find? id = none := by
      rw [find?_eq_none_iff]
      intro mem
      have given : id.number.toNat = adds before + 1 := tells.number_add few name position
      have := tells.number_le_of_mem mem
      omega
    rw [after_concat, Request.perform, find?_add, absent, Option.none_or]
    exact if_pos rfl
  | append_singleton since request ih =>
    rw [List.mem_append, not_or, List.mem_singleton] at stays
    rw [← List.cons_append, ← List.append_assoc, after_concat, Request.about_append,
      Sprite.rewritten_append]
    exact Request.find?_perform_of_some _ (Ne.symm stays.2) (ih stays.1)

theorem after_swap {first second : Request} (oldFirst : first.isAdd = false)
    (oldSecond : second.isAdd = false) (apart : ∀ id ∈ first.names, id ∉ second.names)
    (before later : List Request) :
    after (before ++ first :: second :: later) = after (before ++ second :: first :: later) := by
  simp only [after, List.foldl_append, List.foldl_cons]
  rw [Request.perform_comm _ oldFirst oldSecond apart]

/--
What is found under an id that was given out and has not been taken back. The name is the one the
sprite came with, and every other part is the last one that was given in a request about the sprite.
So requests in a row that are about different sprites may change places: the store afterwards is the
same, and so are the answers to both.
-/
theorem record_of_requests (requests : List Request) (few : adds requests < UInt64.size) :
    (∀ before name position since, requests = before ++ .add name position :: since →
      let id := ((after before).add name position).1
      .remove id ∉ since →
      let own := about id since
      let bubble := (own.flatMap bubbles).getLastD none
      (after requests).get id = .ok {
        id := id
        name := name
        position := (own.flatMap positions).getLastD position
        angle := (own.flatMap angles).getLastD 0
        message := bubble.map Bubble.text
        messageKind := bubble.map Bubble.kind }) ∧
    ∀ before first second later, requests = before ++ first :: second :: later →
      first.isAdd = false → second.isAdd = false → (∀ id ∈ first.names, id ∉ second.names) →
      after requests = after (before ++ second :: first :: later) ∧
        first.answer (after (before ++ [second])) = first.answer (after before) ∧
        second.answer (after (before ++ [first])) = second.answer (after before) := by
  refine ⟨fun before name position since split => ?_, fun before first second later split => ?_⟩
  · intro id stays own bubble
    subst split
    have room : adds before + 1 < UInt64.size := by
      refine Nat.lt_of_le_of_lt ?_ few
      simp [adds, Request.isAdd]
    rw [get, find?_after_add room name position stays]
    simp only [Sprite.rewritten, Sprite.fresh, List.getLastD_eq_getLast?, List.getLast?_map, bubble,
      own]
    rw [← Option.getD_map (Option.map Bubble.text), ← Option.getD_map (Option.map Bubble.kind)]
    rfl
  · subst split
    intro oldFirst oldSecond apart
    refine ⟨after_swap oldFirst oldSecond apart before later, ?_, ?_⟩
    · rw [after_concat]
      exact Request.answer_perform _ oldSecond oldFirst apart
    · rw [after_concat]
      exact Request.answer_perform _ oldFirst oldSecond fun id named there => apart id there named

/-- Poses for a dog come twice in one request, and others come and go meanwhile. -/
def dogLife : List Request :=
  [.add "Cat" ⟨0, 0⟩, .add "Dog" ⟨10, 0⟩, .setBubble ⟨2⟩ (some ⟨.thought, "bone"⟩), .remove ⟨1⟩,
    .publish [(⟨2⟩, ⟨⟨1, 1⟩, 10⟩), (⟨1⟩, ⟨⟨9, 9⟩, 9⟩), (⟨2⟩, ⟨⟨2, 2⟩, 20⟩)], .drag ⟨2⟩ ⟨7, 7⟩,
    .add "Fox" ⟨20, 0⟩, .setBubble ⟨3⟩ none]

theorem record_of_requests_dogLife :
    adds dogLife < UInt64.size ∧
      (after dogLife).get ⟨2⟩ = .ok ⟨⟨2⟩, "Dog", ⟨7, 7⟩, 20, some "bone", some .thought⟩ ∧
      after dogLife = after (dogLife.take 2 ++ .remove ⟨1⟩ ::
        .setBubble ⟨2⟩ (some ⟨.thought, "bone"⟩) :: dogLife.drop 4) := by
  have few : adds dogLife < UInt64.size := by decide
  obtain ⟨found, swapped⟩ := record_of_requests dogLife few
  have own : about ⟨2⟩ (dogLife.drop 2) =
      [.setBubble ⟨2⟩ (some ⟨.thought, "bone"⟩),
        .publish [(⟨2⟩, ⟨⟨1, 1⟩, 10⟩), (⟨2⟩, ⟨⟨2, 2⟩, 20⟩)], .drag ⟨2⟩ ⟨7, 7⟩] := by decide +kernel
  have dog := found [.add "Cat" ⟨0, 0⟩] "Dog" ⟨10, 0⟩ (dogLife.drop 2) rfl (by decide +kernel)
  refine ⟨few, dog.trans ?_, ?_⟩
  · rw [show ((after [.add "Cat" ⟨0, 0⟩]).add "Dog" ⟨10, 0⟩).1 = ⟨2⟩ by decide +kernel, own]
    rfl
  · exact (swapped (dogLife.take 2) _ _ (dogLife.drop 4) rfl rfl rfl (by decide)).1

end Store

end SpriteStage
