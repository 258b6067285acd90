import SpriteStage.Proofs.Store.Lookup

/-! # Sound stores

New sprites come to the end of the roster, each with the next id. So the ids of a roster rise, and
all of them have been given out, until there are no ids left.

* `Store.Sound` — the invariant, and `Store.Sound.distinct`
* `Store.Follows` — a store after some requests to another
* `Store.follows_perform`, `Store.Follows.trans` — one request, and several
-/

namespace SpriteStage

set_option autoImplicit false

/-- A new sprite is asked for. -/
def Request.isAdd : Request → Bool
  | add .. => true
  | _ => false

namespace Store

/-! ## The invariant -/

/-- The ids of the roster rise, and all of them have been given out. -/
structure Sound (store : Store) : Prop where
  rising : store.ids.Pairwise fun a b => a.number < b.number
  issued : ∀ id ∈ store.ids, id.number ≤ store.issued

theorem sound_empty : Store.empty.Sound :=
  ⟨.nil, List.forall_mem_nil _⟩

theorem Sound.distinct {store : Store} (h : store.Sound) : store.ids.Nodup := by
  refine h.rising.imp ?_
  rintro a b less rfl
  exact UInt64.lt_irrefl _ less

/-! ## Requests -/

/--
A sound store that has come of another by at most `count` requests: no id is given out twice, so that
a sprite who is gone does not come back.
-/
structure Follows (count : Nat) (before after : Store) : Prop where
  sound : after.Sound
  issued : before.issued ≤ after.issued
  few : after.issued.toNat ≤ before.issued.toNat + count
  old : ∀ id ∈ after.ids, id.number ≤ before.issued → id ∈ before.ids

theorem Follows.refl {store : Store} (sound : store.Sound) : Follows 0 store store :=
  ⟨sound, UInt64.le_refl _, Nat.le_refl _, fun _ mem _ => mem⟩

theorem Follows.trans {few more : Nat} {before between after : Store}
    (h₁ : Follows few before between) (h₂ : Follows more between after) :
    Follows (few + more) before after := by
  refine ⟨h₂.sound, UInt64.le_trans h₁.issued h₂.issued, ?_, fun id mem le => ?_⟩
  · have := h₁.few
    have := h₂.few
    omega
  · exact h₁.old id (h₂.old id mem (UInt64.le_trans le h₁.issued)) le

theorem follows_of_sublist {before after : Store} (sound : before.Sound)
    (issued : after.issued = before.issued) (ids : after.ids.Sublist before.ids) :
    Follows 0 before after := by
  refine ⟨⟨sound.rising.sublist ids, fun id mem => ?_⟩, ?_, ?_, fun id mem _ => ids.subset mem⟩
  · rw [issued]
    exact sound.issued id (ids.subset mem)
  · rw [issued]
    exact UInt64.le_refl _
  · rw [issued]
    exact Nat.le_refl _

theorem Follows.mono {few more : Nat} {before after : Store} (h : Follows few before after)
    (le : few ≤ more) : Follows more before after :=
  ⟨h.sound, h.issued, Nat.le_trans h.few (Nat.add_le_add_left le _), h.old⟩

theorem toNat_next_issued {store : Store} (room : store.issued.toNat + 1 < UInt64.size) :
    (store.issued + 1).toNat = store.issued.toNat + 1 := by
  rw [UInt64.toNat_add]
  exact Nat.mod_eq_of_lt room

theorem lt_next_issued {store : Store} (room : store.issued.toNat + 1 < UInt64.size) :
    store.issued < store.issued + 1 := by
  rw [UInt64.lt_iff_toNat_lt, toNat_next_issued room]
  exact Nat.lt_succ_self _

theorem follows_add {store : Store} (sound : store.Sound)
    (room : store.issued.toNat + 1 < UInt64.size) (name : String) (position : Position) :
    Follows 1 store (store.add name position).2 := by
  have above := lt_next_issued room
  have ids : (store.add name position).2.ids = store.ids ++ [⟨store.issued + 1⟩] :=
    Request.ids_perform store (.add name position)
  refine ⟨⟨?_, ?_⟩, UInt64.le_of_lt above, Nat.le_of_eq (toNat_next_issued room), ?_⟩
  · rw [ids]
    refine List.pairwise_append.mpr ⟨sound.rising, List.pairwise_singleton _ _, ?_⟩
    intro id mem new here
    rw [List.mem_singleton.mp here]
    exact UInt64.lt_of_le_of_lt (sound.issued id mem) above
  · intro id mem
    rw [ids, List.mem_append, List.mem_singleton] at mem
    rcases mem with mem | rfl
    · exact UInt64.le_trans (sound.issued id mem) (UInt64.le_of_lt above)
    · exact UInt64.le_refl _
  · intro id mem le
    rw [ids, List.mem_append, List.mem_singleton] at mem
    rcases mem with mem | rfl
    · exact mem
    · exact absurd above (UInt64.not_lt.mpr le)

theorem follows_perform_of_room {store : Store} (sound : store.Sound) (request : Request)
    (room : request.isAdd = true → store.issued.toNat + 1 < UInt64.size) :
    Follows 1 store (request.perform store) := by
  have ids := Request.ids_perform store request
  have issued := Request.issued_perform store request
  cases request with
  | add name position => exact follows_add sound (room rfl) name position
  | remove id =>
    refine (follows_of_sublist sound issued ?_).mono (Nat.zero_le 1)
    rw [ids]
    exact List.filter_sublist
  | _ => exact (follows_of_sublist sound issued (ids ▸ List.Sublist.refl _)).mono (Nat.zero_le 1)

/-- A request keeps a store sound as long as there are ids left. -/
theorem follows_perform {store : Store} (sound : store.Sound)
    (room : store.issued.toNat + 1 < UInt64.size) (request : Request) :
    Follows 1 store (request.perform store) :=
  follows_perform_of_room sound request fun _ => room

end Store

end SpriteStage
