import SpriteStage.Proofs.Session.Journal
import SpriteStage.Proofs.Store.Agreement
import SpriteStage.Proofs.Store.Sound

/-! # Visits

What visitors make of a store when nobody else uses it, and which of them have come at some time.

* `Store.visited` — a store after some visits
* `Store.not_mem_visited` — whoever has been taken off the roster does not come back
* `Store.add_not_mem` — whoever comes to the roster is new
* `arrivals`, `remaining` — the visits before some time, and those after them
* `Session.store_advanceTo`, `Session.visits_advanceTo` — who comes while time goes by
-/

namespace SpriteStage

set_option autoImplicit false

/-! ## Visits to a store -/

namespace Store

/-- The store after some visits, with nobody else using it. -/
def visited (store : Store) (visits : List Visit) : Store :=
  visits.foldl (fun store visit => visit.request.perform store) store

theorem visited_append (store : Store) (first later : List Visit) :
    store.visited (first ++ later) = (store.visited first).visited later :=
  List.foldl_append

theorem AgreesBut.visited {cast : List SpriteId} {a b : Store} (h : AgreesBut cast a b)
    (visits : List Visit) : AgreesBut cast (a.visited visits) (b.visited visits) := by
  induction visits generalizing a b with
  | nil => exact h
  | cons visit rest ih => exact ih (h.perform visit.request)

theorem follows_visited {store : Store} (sound : store.Sound) (visits : List Visit)
    (room : store.issued.toNat + visits.length < UInt64.size) :
    Follows visits.length store (store.visited visits) := by
  induction visits generalizing store with
  | nil => exact .refl sound
  | cons visit rest ih =>
    rw [List.length_cons] at room ⊢
    have first := follows_perform sound (by omega) visit.request
    have few := first.few
    have later := ih first.sound (by omega)
    exact (first.trans later).mono (by omega)

/-- Whoever has been taken off the roster does not come back. -/
theorem not_mem_visited {store : Store} (sound : store.Sound) {before after : List Visit}
    {time : Nat} {id : SpriteId}
    (room : store.issued.toNat + (before ++ ⟨time, .remove id⟩ :: after).length < UInt64.size)
    (there : id ∈ (store.visited before).ids) :
    id ∉ (store.visited (before ++ ⟨time, .remove id⟩ :: after)).ids := by
  rw [List.length_append, List.length_cons] at room
  have first := follows_visited sound before (by omega)
  have few := first.few
  have removal := follows_perform first.sound (by omega) (.remove id)
  have gone : id ∉ (Request.perform (store.visited before) (.remove id)).ids := by
    rw [Request.ids_perform]
    simp
  have fewer := removal.few
  have later := follows_visited removal.sound after (by omega)
  rw [visited_append]
  intro back
  refine gone (later.old id back ?_)
  exact UInt64.le_trans (first.sound.issued id there) removal.issued

/-- Whoever comes to the roster was not on it at the beginning. -/
theorem add_not_mem {store : Store} (sound : store.Sound) {before after : List Visit} {time : Nat}
    {name : String} {position : Position}
    (room : store.issued.toNat + (before ++ ⟨time, .add name position⟩ :: after).length
      < UInt64.size) :
    ((store.visited before).add name position).1 ∉ store.ids := by
  rw [List.length_append, List.length_cons] at room
  have first := follows_visited sound before (by omega)
  have few := first.few
  have above : (store.visited before).issued < (store.visited before).issued + 1 :=
    lt_next_issued (by omega)
  intro there
  have le : (store.visited before).issued + 1 ≤ store.issued := sound.issued _ there
  exact UInt64.lt_irrefl _ (UInt64.lt_of_lt_of_le above (UInt64.le_trans le first.issued))

end Store

/-! ## Times of visits -/

/-- The visits that have taken place when a run comes to some time. -/
def arrivals (time : Nat) (visits : List Visit) : List Visit :=
  visits.takeWhile fun visit => decide (visit.time < time)

/-- The visits that have not. -/
def remaining (time : Nat) (visits : List Visit) : List Visit :=
  visits.dropWhile fun visit => decide (visit.time < time)

@[simp] theorem arrivals_zero (visits : List Visit) : arrivals 0 visits = [] := by
  cases visits <;> rfl

@[simp] theorem remaining_zero (visits : List Visit) : remaining 0 visits = visits := by
  cases visits <;> rfl

theorem arrivals_append {early late : Nat} (le : early ≤ late) (visits : List Visit) :
    arrivals early visits ++ arrivals late (remaining early visits) = arrivals late visits ∧
      remaining late (remaining early visits) = remaining late visits := by
  induction visits with
  | nil => exact ⟨rfl, rfl⟩
  | cons visit rest ih =>
    unfold arrivals remaining at ih ⊢
    by_cases come : visit.time < early
    · have comeLate : visit.time < late := Nat.lt_of_lt_of_le come le
      simp only [List.takeWhile_cons, List.dropWhile_cons, come, comeLate, decide_true, if_true,
        List.cons_append, ih, and_self]
    · simp [List.takeWhile_cons, List.dropWhile_cons, come]

namespace Session

theorem store_foldl_receive (visits : List Visit) (s : Session) :
    (visits.foldl receive s).store = s.store.visited visits := by
  induction visits generalizing s with
  | nil => rfl
  | cons visit rest ih => exact ih (s.receive visit)

theorem visits_foldl_receive (visits : List Visit) (s : Session) :
    (visits.foldl receive s).visits = s.visits := by
  induction visits generalizing s with
  | nil => rfl
  | cons visit rest ih => exact ih (s.receive visit)

theorem store_advanceTo (s : Session) (time : Nat) :
    (s.advanceTo time).store = s.store.visited (arrivals time s.visits) :=
  store_foldl_receive _ _

theorem visits_advanceTo (s : Session) (time : Nat) :
    (s.advanceTo time).visits = remaining time s.visits :=
  visits_foldl_receive _ _

end Session

end SpriteStage
