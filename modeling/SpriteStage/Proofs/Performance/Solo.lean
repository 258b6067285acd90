import SpriteStage.Proofs.Performance.Ensemble
import SpriteStage.Proofs.Performance.FinalPose

/-! # Performing alone

A sprite that performs alone announces its whole trace, whoever looks on or uses the store meanwhile.

* `distinct_of_strict` — performers in the strict order of places stand at distinct places
* `Session.events_performAlone`, `Session.finalPose_performAlone` — what a performance alone comes to
-/

namespace SpriteStage

set_option autoImplicit false

/-! ## Performers at distinct places -/

theorem distinct_of_strict {ps : List Performer}
    (strict : ps.Pairwise fun p q => p.place < q.place) : Distinct ps := by
  intro place
  induction ps with
  | nil => exact Nat.zero_le _
  | cons p rest ih =>
    obtain ⟨before, restStrict⟩ := List.pairwise_cons.mp strict
    by_cases here : p.place = place
    · have nobody : headcount place rest = 0 :=
        headcount_eq_zero fun q mem => here ▸ Nat.ne_of_gt (before q mem)
      rw [headcount, List.countP_cons_of_pos (by simpa using here)]
      exact Nat.succ_le_succ (Nat.le_of_eq nobody)
    · rw [headcount, List.countP_cons_of_neg (by simpa using here)]
      exact ih restStrict

theorem agenda_of_mem {ps : List Performer} (strict : ps.Pairwise fun p q => p.place < q.place)
    {p : Performer} (mem : p ∈ ps) (now : Nat) : agenda p.place now ps = p.trace now := by
  induction ps with
  | nil => cases mem
  | cons q rest ih =>
    obtain ⟨before, restStrict⟩ := List.pairwise_cons.mp strict
    rw [← List.singleton_append, agenda_append]
    rcases List.mem_cons.mp mem with rfl | later
    · have nobody : headcount p.place rest = 0 :=
        headcount_eq_zero fun r mem => Nat.ne_of_gt (before r mem)
      rw [agenda_singleton, if_pos rfl, agenda_of_headcount nobody, List.append_nil]
    · rw [agenda_singleton, if_neg (Nat.ne_of_lt (before p later)), List.nil_append,
        ih restStrict later]

/-! ## One performer -/

namespace Session

variable (s : Session) (id : SpriteId) (delay : Int64) (blocks : List Block) (pose : Pose)

theorem events_performAlone :
    (s.performAlone id delay blocks pose).1.events =
      s.events ++ trace id s.now none (performance delay blocks pose).1 := by
  let p : Performer := ⟨id, 0, none, (performance delay blocks pose).1⟩
  have strict : [p].Pairwise fun p q => p.place < q.place := List.pairwise_singleton _ _
  obtain ⟨turns, shows, -⟩ := performAll_shows (.ofCount 1) none (s := s)
    (distinct_of_strict strict) (by simp [p]) (strict.imp Nat.le_of_lt)
  -- all events come from the one place that there is
  have all : turns.filter (fun turn => turn.1 = 0) = turns := by
    refine List.filter_eq_self.mpr fun turn mem => ?_
    obtain ⟨q, only, place, -⟩ := shows.mem_trace mem
    rw [List.mem_singleton.mp only] at place
    exact decide_eq_true place.symm
  have own := shows.agenda 0
  rw [agenda_singleton, if_pos rfl, fromPlace, all] at own
  refine shows.events.trans (congrArg (s.events ++ ·) ?_)
  rw [show agenda 0 _ [] = [] from rfl, List.append_nil] at own
  exact own.symm

/-- The pose that comes with a performance alone is the last that the sprite has made known. -/
theorem finalPose_performAlone :
    (s.performAlone id delay blocks pose).2 =
      (trace id s.now none (performance delay blocks pose).1).foldl Event.poseAfter pose := by
  rw [poseAfter_trace, poseAfter_performance]
  rfl

end Session

end SpriteStage
