import Mathlib.Data.List.Induction
import SpriteStage.Proofs.Store.Arena

/-! # The history of a store

A store that has been empty once is known by the requests since. The roster has the ids that were
given out and not taken back, in the order in which they were given out, and the last id given out
is the number of sprites who came. All of this holds until there are no ids left.

* `Request.Kept` — an id was given out and has not been taken back
* `Store.Tells` — the roster and the last id tell of the requests, and `Store.tells_after`
* `Store.whole_after` — every sprite shows a bubble or none
* `Store.account_of_requests` — the roster, the ids, the parts and the refusals after any requests
-/

namespace SpriteStage

set_option autoImplicit false

/-! ## Requests and ids -/

namespace Request

def adds (requests : List Request) : Nat :=
  requests.countP isAdd

/-- The id was given out, and has not been taken back since. -/
def Kept (requests : List Request) (id : SpriteId) : Prop :=
  ∃ before name position since, requests = before ++ .add name position :: since ∧
    id.number.toNat = adds before + 1 ∧ .remove id ∉ since

theorem adds_concat (requests : List Request) (request : Request) :
    adds (requests ++ [request]) = adds requests + if request.isAdd then 1 else 0 := by
  rw [adds, List.countP_append, List.countP_singleton, adds]

theorem adds_le_of_prefix {earlier requests : List Request} (h : earlier <+: requests) :
    adds earlier ≤ adds requests :=
  h.sublist.countP_le

theorem kept_concat (requests : List Request) (request : Request) (id : SpriteId) :
    Kept (requests ++ [request]) id ↔ (Kept requests id ∧ request ≠ .remove id) ∨
      (request.isAdd = true ∧ id.number.toNat = adds requests + 1) := by
  constructor
  · rintro ⟨before, name, position, since, split, number, kept⟩
    rcases List.eq_nil_or_concat since with rfl | ⟨earlier, last, rfl⟩
    · obtain ⟨rfl, same⟩ := List.append_inj' split rfl
      cases same
      exact .inr ⟨rfl, number⟩
    · rw [List.concat_eq_append, ← List.cons_append, ← List.append_assoc] at split
      obtain ⟨rfl, same⟩ := List.append_inj' split rfl
      cases same
      rw [List.concat_eq_append, List.mem_append, not_or] at kept
      refine .inl ⟨⟨before, name, position, earlier, rfl, number, kept.1⟩, fun same => ?_⟩
      exact kept.2 (List.mem_singleton.mpr same.symm)
  · rintro (⟨⟨before, name, position, since, rfl, number, kept⟩, other⟩ | ⟨new, number⟩)
    · refine ⟨before, name, position, since ++ [request], ?_, number, ?_⟩
      · rw [List.append_assoc, List.cons_append]
      · rw [List.mem_append, not_or, List.mem_singleton]
        exact ⟨kept, other.symm⟩
    · cases request with
      | add name position => exact ⟨requests, name, position, [], rfl, number, List.not_mem_nil⟩
      | _ => cases new

/-- Who has gone does not come back. -/
theorem not_kept_of_removed {before : List Request} {id : SpriteId}
    (below : id.number.toNat ≤ adds before) (since : List Request) :
    ¬Kept (before ++ .remove id :: since) id := by
  induction since using List.reverseRecOn with
  | nil =>
    rw [kept_concat]
    rintro (⟨-, other⟩ | ⟨new, -⟩)
    · exact other rfl
    · cases new
  | append_singleton since request ih =>
    rw [← List.cons_append, ← List.append_assoc, kept_concat]
    rintro (⟨kept, -⟩ | ⟨-, number⟩)
    · exact ih kept
    · have := adds_le_of_prefix (List.prefix_append before (.remove id :: since))
      omega

end Request

open Request (adds Kept)

/-! ## The roster -/

namespace Store

def after (requests : List Request) : Store :=
  requests.foldl Request.perform .empty

theorem after_concat (requests : List Request) (request : Request) :
    after (requests ++ [request]) = request.perform (after requests) := by
  rw [after, List.foldl_append, after]
  rfl

/-- The roster and the last id given out are those that the requests lead to. -/
structure Tells (requests : List Request) (store : Store) : Prop where
  sound : store.Sound
  issued : store.issued.toNat = adds requests
  roster : ∀ id, id ∈ store.ids ↔ Kept requests id

namespace Tells

variable {requests : List Request} {store : Store} (h : store.Tells requests)

include h

theorem room (few : adds requests + 1 < UInt64.size) : store.issued.toNat + 1 < UInt64.size :=
  h.issued ▸ few

theorem number_add (few : adds requests + 1 < UInt64.size) (name : String) (position : Position) :
    (store.add name position).1.number.toNat = adds requests + 1 := by
  rw [← h.issued]
  exact toNat_next_issued (h.room few)

theorem eq_add_iff (few : adds requests + 1 < UInt64.size) (name : String) (position : Position)
    (id : SpriteId) :
    id = (store.add name position).1 ↔ id.number.toNat = adds requests + 1 := by
  rw [← h.number_add few name position, UInt64.toNat_inj]
  constructor
  · rintro rfl
    rfl
  · intro same
    cases id
    exact congrArg SpriteId.mk same

theorem number_le_of_mem {id : SpriteId} (mem : id ∈ store.ids) : id.number.toNat ≤ adds requests := by
  rw [← h.issued, ← UInt64.le_iff_toNat_le]
  exact h.sound.issued id mem

theorem perform (request : Request) (few : adds (requests ++ [request]) < UInt64.size) :
    (request.perform store).Tells (requests ++ [request]) := by
  rw [Request.adds_concat] at few
  have room : request.isAdd = true → adds requests + 1 < UInt64.size := by
    intro new
    rwa [if_pos new] at few
  have ids := Request.ids_perform store request
  refine ⟨(follows_perform_of_room h.sound request fun new => h.room (room new)).sound, ?_,
    fun id => ?_⟩
  · rw [Request.issued_perform, Request.adds_concat]
    cases request with
    | add name position => exact h.number_add (room rfl) name position
    | _ => exact h.issued
  · rw [ids, Request.kept_concat, ← h.roster]
    cases request with
    | add name position =>
      rw [← h.eq_add_iff (room rfl) name position id]
      simp [Store.add, Request.isAdd]
    | remove other => simp [Request.isAdd, eq_comm (a := other)]
    | _ => simp [Request.isAdd]

end Tells

theorem tells_after {requests : List Request} (few : adds requests < UInt64.size) :
    (after requests).Tells requests := by
  induction requests using List.reverseRecOn with
  | nil =>
    refine ⟨sound_empty, rfl, fun id => ⟨fun mem => absurd mem List.not_mem_nil, ?_⟩⟩
    rintro ⟨before, name, position, since, split, -⟩
    cases before <;> cases split
  | append_singleton requests request ih =>
    rw [after_concat]
    refine (ih (Nat.lt_of_le_of_lt ?_ few)).perform request few
    exact Request.adds_le_of_prefix (List.prefix_append requests [request])

end Store

/-! ## Bubbles -/

/-- The sprite shows a bubble, of which text and kind are known, or it shows none. -/
def Sprite.Whole (sprite : Sprite) : Prop :=
  sprite.message.isSome = sprite.messageKind.isSome

namespace Sprite.Whole

variable {sprite : Sprite} (h : sprite.Whole)

include h

theorem withPosition (position : Position) : (sprite.withPosition position).Whole := h

theorem withAngle (angle : Float) : (sprite.withAngle angle).Whole := h

theorem withPose (pose : Pose) : (sprite.withPose pose).Whole := h

end Sprite.Whole

theorem Sprite.whole_withBubble (sprite : Sprite) (bubble : Option Bubble) :
    (sprite.withBubble bubble).Whole := by
  cases bubble <;> rfl

namespace Store

variable {store : Store}

theorem forall_modify {P : Sprite → Prop} {change : Sprite → Sprite}
    (h : ∀ sprite ∈ store.sprites, P sprite) (keeps : ∀ sprite, P sprite → P (change sprite))
    (id : SpriteId) : ∀ sprite ∈ (store.modify id change).sprites, P sprite := by
  intro sprite mem
  obtain ⟨before, there, rfl⟩ := List.mem_map.mp mem
  split
  · exact keeps before (h before there)
  · exact h before there

theorem whole_publish (h : ∀ sprite ∈ store.sprites, sprite.Whole) (poses : List (SpriteId × Pose)) :
    ∀ sprite ∈ (store.publish poses).sprites, sprite.Whole := by
  induction poses generalizing store with
  | nil => exact h
  | cons entry rest ih => exact ih (forall_modify h (fun _ whole => whole.withPose entry.2) entry.1)

theorem whole_perform (h : ∀ sprite ∈ store.sprites, sprite.Whole) (request : Request) :
    ∀ sprite ∈ (request.perform store).sprites, sprite.Whole := by
  cases request with
  | look => exact h
  | add name position =>
    intro sprite mem
    rcases List.mem_append.mp mem with old | new
    · exact h sprite old
    · rw [List.mem_singleton.mp new]
      rfl
  | remove id =>
    rw [Request.perform_remove]
    exact fun sprite mem => h sprite (List.mem_of_mem_filter mem)
  | drag id position =>
    rw [Request.perform_drag]
    exact forall_modify h (fun _ whole => whole.withPosition position) id
  | setAngle id angle =>
    rw [Request.perform_setAngle]
    exact forall_modify h (fun _ whole => whole.withAngle angle) id
  | commitPose id pose => exact forall_modify h (fun _ whole => whole.withPose pose) id
  | setBubble id bubble => exact forall_modify h (fun sprite _ => sprite.whole_withBubble bubble) id
  | publish poses => exact whole_publish h poses

theorem whole_after (requests : List Request) :
    ∀ sprite ∈ (after requests).sprites, sprite.Whole := by
  induction requests using List.reverseRecOn with
  | nil => exact List.forall_mem_nil _
  | append_singleton requests request ih =>
    rw [after_concat]
    exact whole_perform ih request

/-! ## Refusals -/

/-- Something about a sprite is refused if the sprite is not there, and only then. -/
def RefusedUnless {α : Type} (there : Prop) (id : SpriteId) (result : Except Fault α) : Prop :=
  (there → ∃ value, result = .ok value) ∧ (¬there → result = .error (.spriteNotFound id))

variable (store) (id : SpriteId)

theorem refused_get : RefusedUnless (id ∈ store.ids) id (store.get id) := by
  rw [← store.contains_iff, contains, get]
  cases store.find? id <;> simp [RefusedUnless]

theorem refused_remove : RefusedUnless (id ∈ store.ids) id (store.remove id) := by
  rw [← store.contains_iff, contains, remove]
  cases store.find? id <;> simp [RefusedUnless]

theorem refused_update (change : Sprite → Sprite) :
    RefusedUnless (id ∈ store.ids) id (store.update id change) := by
  rw [← store.contains_iff, update]
  cases store.contains id <;> simp [RefusedUnless]

end Store

/-! ## The parts -/

namespace Arena

def after (requests : List Request) : Arena :=
  requests.foldl perform .empty

theorem represents_after {requests : List Request} (few : adds requests < UInt64.size) :
    (after requests).Represents (Store.after requests) := by
  induction requests using List.reverseRecOn with
  | nil => exact represents_empty
  | append_singleton requests request ih =>
    have before : adds requests < UInt64.size :=
      Nat.lt_of_le_of_lt (Request.adds_le_of_prefix (List.prefix_append requests [request])) few
    have tells := Store.tells_after before
    have step : after (requests ++ [request]) = (after requests).perform request := by
      rw [after, List.foldl_append, after]
      rfl
    rw [step, Store.after_concat]
    refine (ih before).perform tells.sound request fun new => tells.room ?_
    rwa [Request.adds_concat, if_pos new] at few

end Arena

/-! ## Any requests -/

/--
What has become of an empty store. The roster rises and has the ids that were given out and not taken
back; the ids are given out in order, and none for a second time. The parts of the store fit together,
whatever is read from them agrees, and only what is about a missing sprite is refused.
-/
theorem Store.account_of_requests (requests : List Request)
    (few : adds requests < UInt64.size) :
    let store := after requests
    let arena := Arena.after requests
    store.ids.Pairwise (fun a b => a.number < b.number) ∧
    (∀ id, id ∈ store.ids ↔ Kept requests id) ∧
    (∀ before name position, before ++ [.add name position] <+: requests →
      ((after before).add name position).1.number.toNat = adds before + 1 ∧
        ∀ earlier, earlier <+: before →
          ((after before).add name position).1 ∉ (after earlier).ids) ∧
    (∀ sprite ∈ store.sprites, sprite.message.isSome = sprite.messageKind.isSome) ∧
    arena.Keyed ∧ arena.Consistent ∧ arena.ReadsAs store ∧
    ∀ id position angle,
      RefusedUnless (id ∈ store.ids) id (store.get id) ∧
      RefusedUnless (id ∈ store.ids) id (store.remove id) ∧
      RefusedUnless (id ∈ store.ids) id (store.drag id position) ∧
      RefusedUnless (id ∈ store.ids) id (store.setAngle id angle) ∧
      (id ∉ store.ids → Request.perform store (.remove id) = store ∧
        Request.perform store (.drag id position) = store ∧
        Request.perform store (.setAngle id angle) = store) := by
  intro store arena
  have tells := tells_after few
  have represents := Arena.represents_after few
  have keyed := represents.keyed tells.sound.distinct
  refine ⟨tells.sound.rising, tells.roster, fun before name position within => ?_,
    whole_after requests, keyed, keyed.consistent, represents.readsAs tells.sound.distinct,
    fun id position angle => ?_⟩
  · have room : adds before + 1 < UInt64.size := by
      have counted := Request.adds_le_of_prefix within
      rw [Request.adds_concat] at counted
      exact Nat.lt_of_le_of_lt counted few
    have earlyTells := tells_after (Nat.lt_of_succ_lt room)
    have number := earlyTells.number_add room name position
    refine ⟨number, fun earlier within there => ?_⟩
    have before := Request.adds_le_of_prefix within
    have still := (tells_after (Nat.lt_of_le_of_lt before (Nat.lt_of_succ_lt room))).number_le_of_mem there
    omega
  · refine ⟨store.refused_get id, store.refused_remove id, store.refused_update id _,
      store.refused_update id _, fun absent => ⟨?_, ?_, ?_⟩⟩
    · rw [Request.perform_remove, store.without_of_absent absent]
    · rw [Request.perform_drag, store.modify_of_absent _ absent]
    · rw [Request.perform_setAngle, store.modify_of_absent _ absent]

/-- The first of three sprites goes before the last one comes, and is asked for in vain. -/
def turnover : List Request :=
  [.add "Cat" ⟨0, 0⟩, .add "Dog" ⟨10, 0⟩, .remove ⟨1⟩, .drag ⟨1⟩ ⟨5, 5⟩, .add "Fox" ⟨20, 0⟩,
    .publish [(⟨1⟩, ⟨⟨5, 5⟩, 0⟩), (⟨2⟩, ⟨⟨11, 0⟩, 90⟩), (⟨2⟩, ⟨⟨12, 0⟩, 90⟩)]]

theorem Store.account_of_requests_turnover :
    adds turnover < UInt64.size ∧ (Arena.after turnover).roster = [⟨2⟩, ⟨3⟩] ∧
      Kept turnover ⟨3⟩ ∧ ¬Kept turnover ⟨1⟩ ∧
      (after turnover).drag ⟨1⟩ ⟨5, 5⟩ = .error (.spriteNotFound ⟨1⟩) := by
  have few : adds turnover < UInt64.size := by decide
  have ids : (after turnover).ids = [⟨2⟩, ⟨3⟩] := by decide +kernel
  obtain ⟨-, kept, -, -, -, -, reads, refused⟩ := account_of_requests turnover few
  have third : (⟨3⟩ : SpriteId) ∈ (after turnover).ids := by decide +kernel
  have first : (⟨1⟩ : SpriteId) ∉ (after turnover).ids := by decide +kernel
  refine ⟨few, reads.ids.trans ids, (kept ⟨3⟩).mp third, mt (kept ⟨1⟩).mpr first, ?_⟩
  exact (refused ⟨1⟩ ⟨5, 5⟩ 0).2.2.1.2 first

end SpriteStage
