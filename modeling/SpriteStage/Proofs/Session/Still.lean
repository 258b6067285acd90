import SpriteStage.Proofs.Collision.Reconcile
import SpriteStage.Proofs.Session.Visits

/-! # A store that nobody changes

Visitors who only look leave the store as it is, while time goes by and while sprites are put back.

* `Session.Still` — nothing has changed in the store from one moment to another
* `Session.still_advanceTo`, `Session.still_reconcile` — nothing does as long as others only look
-/

namespace SpriteStage

set_option autoImplicit false

namespace Session

/--
The store has not changed from one moment to another, and it was the same at every event and for
every visitor in between.
-/
structure Still (s t : Session) : Prop where
  store : t.store = s.store
  visits : ∀ visit ∈ t.visits, visit ∈ s.visits
  journal : ∃ entries, t.journal.toList = s.journal.toList ++ entries ∧
    ∀ entry ∈ entries, entry.store = s.store
  sights : ∃ sights, t.sights.toList = s.sights.toList ++ sights ∧
    ∀ sight ∈ sights, sight.store = s.store

namespace Still

theorem refl (s : Session) : Still s s :=
  ⟨rfl, fun _ mem => mem, ⟨[], (List.append_nil _).symm, List.forall_mem_nil _⟩,
    ⟨[], (List.append_nil _).symm, List.forall_mem_nil _⟩⟩

theorem trans {s t u : Session} (h₁ : Still s t) (h₂ : Still t u) : Still s u := by
  obtain ⟨entries, journal, entriesSame⟩ := h₁.journal
  obtain ⟨later, journalLater, laterSame⟩ := h₂.journal
  obtain ⟨sights, seen, sightsSame⟩ := h₁.sights
  obtain ⟨more, seenMore, moreSame⟩ := h₂.sights
  refine ⟨h₂.store.trans h₁.store, fun visit mem => h₁.visits visit (h₂.visits visit mem),
    ⟨entries ++ later, ?_, ?_⟩, ⟨sights ++ more, ?_, ?_⟩⟩
  · rw [journalLater, journal, List.append_assoc]
  · intro entry mem
    rcases List.mem_append.mp mem with mem | mem
    · exact entriesSame entry mem
    · exact (laterSame entry mem).trans h₁.store
  · rw [seenMore, seen, List.append_assoc]
  · intro sight mem
    rcases List.mem_append.mp mem with mem | mem
    · exact sightsSame sight mem
    · exact (moreSame sight mem).trans h₁.store

end Still

theorem still_emit (s : Session) (event : Event) : Still s (s.emit event) := by
  refine ⟨rfl, fun _ mem => mem, ⟨[⟨event, s.store⟩], Array.toList_push, ?_⟩,
    ⟨[], (List.append_nil _).symm, List.forall_mem_nil _⟩⟩
  intro entry mem
  rw [List.mem_singleton.mp mem]

theorem still_receive (s : Session) {visit : Visit} (look : visit.request = .look) :
    Still s (s.receive visit) := by
  refine ⟨?_, fun _ mem => mem, ⟨[], (List.append_nil _).symm, List.forall_mem_nil _⟩,
    ⟨[⟨s.store, s.states⟩], Array.toList_push, ?_⟩⟩
  · rw [receive, look]
    rfl
  · intro sight mem
    rw [List.mem_singleton.mp mem]

theorem still_foldl_receive {visits : List Visit} (looks : ∀ visit ∈ visits, visit.request = .look)
    (s : Session) : Still s (visits.foldl receive s) := by
  induction visits generalizing s with
  | nil => exact .refl s
  | cons visit rest ih =>
    have first := s.still_receive (looks visit List.mem_cons_self)
    exact first.trans (ih (fun later mem => looks later (List.mem_cons_of_mem _ mem)) _)

variable {s : Session}

theorem still_advanceTo (looks : ∀ visit ∈ s.visits, visit.request = .look) (time : Nat) :
    Still s (s.advanceTo time) := by
  have due : ∀ visit ∈ s.visits.takeWhile (fun visit => decide (visit.time < time)),
      visit.request = .look := fun visit mem =>
        looks visit ((List.takeWhile_sublist _).subset mem)
  obtain ⟨store, visits, journal, sights⟩ := still_foldl_receive due
    { s with visits := s.visits.dropWhile fun visit => decide (visit.time < time) }
  refine ⟨store, fun visit mem => ?_, journal, sights⟩
  exact (List.dropWhile_sublist _).subset (visits visit mem)

theorem still_pause (looks : ∀ visit ∈ s.visits, visit.request = .look) (ms : Int64) :
    Still s (s.pause ms) := by
  unfold pause
  split
  · exact .refl s
  · exact still_advanceTo looks _

theorem still_reconcile (looks : ∀ visit ∈ s.visits, visit.request = .look) (threshold : Float)
    (pause : Int64) (snapshot : Snapshot) (poses : List (SpriteId × Pose)) :
    Still s (s.reconcile threshold pause snapshot poses).session := by
  refine foldl_reconcilePair_induction (P := fun r => Still s r.session) (pairs poses.length)
    (.refl s) ?_
  intro r pair collision _ still _
  have paused := still_pause (fun visit mem => looks visit (still.visits visit mem)) pause
  exact still.trans (paused.trans (still_emit _ _))

end Session

end SpriteStage
