import SpriteStage.Proofs.Performance.Ensemble

/-! # Merging logs

Several logs come together in one, in which every event has its place: the number of the log that it
comes from. Merged by time and place, they come together in one way only.

* `MergedBy` — a log in which each of several logs has been kept
* `MergedBy.unique` — there is one log merged by time and place
-/

namespace SpriteStage

set_option autoImplicit false

/--
A log in which several logs have come together, in the order of time. Each of them has been kept,
with all of its events in their own order, and there are no others. Events of one time come in the
order of places if `byPlace` holds.
-/
def MergedBy (byPlace : Prop) (logs : List (List Event)) (merged : List Event) : Prop :=
  ∃ turns : List (Nat × Event), merged = turns.map Prod.snd ∧
    turns.Pairwise (ComesBefore byPlace) ∧
    ∀ place, fromPlace place turns = (logs[place]?).getD []

theorem MergedBy.imp {byPlace other : Prop} {logs : List (List Event)} {merged : List Event}
    (forget : other → byPlace) (h : MergedBy byPlace logs merged) : MergedBy other logs merged := by
  obtain ⟨turns, same, ordered, own⟩ := h
  refine ⟨turns, same, ordered.imp fun before => ?_, own⟩
  exact before.imp_right fun present => ⟨present.1, fun h => present.2 (forget h)⟩

/-! ## Uniqueness -/

theorem fromPlace_cons (place : Nat) (turn : Nat × Event) (rest : List (Nat × Event)) :
    fromPlace place (turn :: rest) =
      if turn.1 = place then turn.2 :: fromPlace place rest else fromPlace place rest := by
  by_cases here : turn.1 = place <;> simp [fromPlace, here]

theorem eq_nil_of_fromPlace {turns : List (Nat × Event)}
    (h : ∀ place, fromPlace place turns = []) : turns = [] := by
  cases turns with
  | nil => rfl
  | cons turn rest =>
    have := h turn.1
    rw [fromPlace_cons, if_pos rfl] at this
    cases this

/-- The event that comes first is the same in any other order by time and place. -/
theorem head_eq_of_fromPlace {a b : Nat × Event} {as bs : List (Nat × Event)}
    (aFirst : ∀ x ∈ as, ComesBefore True a x) (bFirst : ∀ x ∈ bs, ComesBefore True b x)
    (same : ∀ place, fromPlace place (a :: as) = fromPlace place (b :: bs)) : a = b := by
  by_cases here : a.1 = b.1
  · have heads := same a.1
    rw [fromPlace_cons, fromPlace_cons, if_pos rfl, if_pos here.symm] at heads
    exact Prod.ext here (List.cons.inj heads).1
  · -- each of the two stands behind the other one in the other list
    have aBehind : a ∈ bs := by
      have mem : (a.1, a.2) ∈ b :: bs := by
        rw [← mem_fromPlace, ← same, mem_fromPlace]
        exact List.mem_cons_self
      exact (List.mem_cons.mp mem).resolve_left fun eq => here (congrArg Prod.fst eq)
    have bBehind : b ∈ as := by
      have mem : (b.1, b.2) ∈ a :: as := by
        rw [← mem_fromPlace, same, mem_fromPlace]
        exact List.mem_cons_self
      exact (List.mem_cons.mp mem).resolve_left fun eq => here (congrArg Prod.fst eq).symm
    rcases aFirst b bBehind with earlier | ⟨time, place⟩
    · rcases bFirst a aBehind with earlier' | ⟨time', -⟩
      · omega
      · rw [time'] at earlier
        omega
    · rcases bFirst a aBehind with earlier' | ⟨-, place'⟩
      · rw [time] at earlier'
        omega
      · exact absurd (Nat.le_antisymm (place trivial) (place' trivial)) here

theorem eq_of_fromPlace {as bs : List (Nat × Event)} (aOrdered : as.Pairwise (ComesBefore True))
    (bOrdered : bs.Pairwise (ComesBefore True))
    (same : ∀ place, fromPlace place as = fromPlace place bs) : as = bs := by
  induction as generalizing bs with
  | nil => exact (eq_nil_of_fromPlace fun place => (same place).symm).symm
  | cons a as ih =>
    cases bs with
    | nil => exact eq_nil_of_fromPlace same
    | cons b bs =>
      obtain ⟨aFirst, aRest⟩ := List.pairwise_cons.mp aOrdered
      obtain ⟨bFirst, bRest⟩ := List.pairwise_cons.mp bOrdered
      obtain rfl := head_eq_of_fromPlace aFirst bFirst same
      refine congrArg (a :: ·) (ih aRest bRest fun place => ?_)
      have both := same place
      rw [fromPlace_cons, fromPlace_cons] at both
      split at both
      · exact (List.cons.inj both).2
      · exact both

/-- There is one log only that is merged by time and place. -/
theorem MergedBy.unique {logs : List (List Event)} {merged other : List Event}
    (h : MergedBy True logs merged) (h' : MergedBy True logs other) : merged = other := by
  obtain ⟨turns, rfl, ordered, own⟩ := h
  obtain ⟨turns', rfl, ordered', own'⟩ := h'
  rw [eq_of_fromPlace ordered ordered' fun place => (own place).trans (own' place).symm]

end SpriteStage
