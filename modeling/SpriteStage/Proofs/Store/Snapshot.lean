import SpriteStage.Store.Basic

/-! # Snapshots of a store

Where the ids of a roster are distinct, its snapshot has the position of each of its sprites.

* `lookup_of_mem` — of distinct ids, each is found with what belongs to it
* `Snapshot.positions_ofList` — of distinct ids, all entries are put down
* `Store.position?_snapshot` — the position of a sprite of the roster
-/

namespace SpriteStage

set_option autoImplicit false

theorem lookup_of_mem {α : Type} {entries : List (SpriteId × α)}
    (distinct : (entries.map Prod.fst).Nodup) {id : SpriteId} {value : α}
    (mem : (id, value) ∈ entries) : entries.lookup id = some value := by
  obtain ⟨before, after, split⟩ := List.append_of_mem mem
  rw [split, List.map_append, List.map_cons, List.nodup_append] at distinct
  rw [List.lookup_eq_some_iff]
  refine ⟨before, after, split, fun entry there => ?_⟩
  rw [bne_iff_ne]
  exact (distinct.2.2 entry.1 (List.mem_map_of_mem there) id List.mem_cons_self).symm

namespace Snapshot

theorem position?_of_absent {snapshot : Snapshot} {id : SpriteId}
    (absent : id ∉ snapshot.positions.map Prod.fst) : snapshot.position? id = none := by
  rw [position?, List.lookup_eq_none_iff]
  intro entry mem
  rw [bne_iff_ne]
  rintro rfl
  exact absent (List.mem_map_of_mem mem)

theorem positions_foldl_insert (entries : List (SpriteId × Position)) (snapshot : Snapshot)
    (distinct : ((snapshot.positions ++ entries).map Prod.fst).Nodup) :
    (entries.foldl (fun snapshot entry => snapshot.insert entry.1 entry.2) snapshot).positions =
      snapshot.positions ++ entries := by
  induction entries generalizing snapshot with
  | nil => exact (List.append_nil _).symm
  | cons entry rest ih =>
    have absent : entry.1 ∉ snapshot.positions.map Prod.fst := by
      rw [List.map_append, List.map_cons, List.nodup_append] at distinct
      intro there
      exact distinct.2.2 entry.1 there entry.1 List.mem_cons_self rfl
    have added : snapshot.insert entry.1 entry.2 = ⟨snapshot.positions ++ [entry]⟩ := by
      rw [insert, position?_of_absent absent]
      rfl
    have regroup : (snapshot.positions ++ [entry]) ++ rest = snapshot.positions ++ entry :: rest := by
      rw [List.append_assoc, List.singleton_append]
    rw [List.foldl_cons, added, ih, regroup]
    rw [regroup]
    exact distinct

theorem positions_ofList {entries : List (SpriteId × Position)}
    (distinct : (entries.map Prod.fst).Nodup) : (ofList entries).positions = entries :=
  positions_foldl_insert entries empty distinct

end Snapshot

namespace Store

theorem map_fst_positions (store : Store) :
    (store.sprites.map fun sprite => (sprite.id, sprite.position)).map Prod.fst = store.ids := by
  rw [List.map_map]
  rfl

theorem positions_snapshot {store : Store} (distinct : store.ids.Nodup) :
    store.snapshot.positions = store.sprites.map fun sprite => (sprite.id, sprite.position) :=
  Snapshot.positions_ofList (store.map_fst_positions ▸ distinct)

theorem position?_snapshot {store : Store} (distinct : store.ids.Nodup) {sprite : Sprite}
    (mem : sprite ∈ store.sprites) : store.snapshot.position? sprite.id = some sprite.position := by
  refine lookup_of_mem ?_ ?_
  · rw [positions_snapshot distinct, map_fst_positions]
    exact distinct
  · rw [positions_snapshot distinct]
    exact List.mem_map_of_mem mem

theorem position?_snapshot_of_absent {store : Store} (distinct : store.ids.Nodup) {id : SpriteId}
    (absent : id ∉ store.ids) : store.snapshot.position? id = none := by
  refine Snapshot.position?_of_absent ?_
  rw [positions_snapshot distinct, map_fst_positions]
  exact absent

end Store

end SpriteStage
