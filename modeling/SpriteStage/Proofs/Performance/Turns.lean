import SpriteStage.Performance.Ensemble
import SpriteStage.Proofs.Performance.Trace

/-! # Turns of several performers

Whatever the order of the turns and the limit of waits, what a performer announces among others is
its own trace: what it has announced and what it has still to announce are together what it had to
announce at first. This balance is kept by a turn, a round, the rounds at one time and the whole
performance.

* `fromPlace`, `agenda` — what performers at one place have announced, and what they have to
* `Shows` — the balance between two moments of a session
* `Shows.trans`, `Shows.frame`, `Shows.perm` — how balances are put together
-/

namespace SpriteStage

set_option autoImplicit false

/-! ## Events by place -/

/-- The events that come from one place, in their order. -/
def fromPlace (place : Nat) (turns : List (Nat × Event)) : List Event :=
  (turns.filter fun turn => turn.1 = place).map Prod.snd

theorem fromPlace_append (place : Nat) (first later : List (Nat × Event)) :
    fromPlace place (first ++ later) = fromPlace place first ++ fromPlace place later := by
  simp [fromPlace]

theorem mem_fromPlace {place : Nat} {event : Event} {turns : List (Nat × Event)} :
    event ∈ fromPlace place turns ↔ (place, event) ∈ turns := by
  simp [fromPlace]

theorem fromPlace_map_pair (place other : Nat) (events : List Event) :
    fromPlace place (events.map fun event => (other, event)) =
      if other = place then events else [] := by
  induction events with
  | nil => simp [fromPlace]
  | cons event rest ih =>
    unfold fromPlace at ih ⊢
    rw [List.map_cons, List.filter_cons]
    by_cases same : other = place
    · simp only [same, decide_true, if_true, List.map_cons] at ih ⊢
      rw [ih]
    · simp [same]

/-- What the performers at one place have still to announce from time `now` on. -/
def agenda (place now : Nat) (performers : List Performer) : List Event :=
  (performers.filter fun p => p.place = place).flatMap fun p => p.trace now

theorem agenda_append (place now : Nat) (ps qs : List Performer) :
    agenda place now (ps ++ qs) = agenda place now ps ++ agenda place now qs := by
  simp [agenda]

theorem mem_agenda {place now : Nat} {ps : List Performer} {event : Event} :
    event ∈ agenda place now ps ↔ ∃ p ∈ ps, p.place = place ∧ event ∈ p.trace now := by
  simp [agenda, and_assoc]

/-- How many performers there are at one place. -/
def headcount (place : Nat) (performers : List Performer) : Nat :=
  performers.countP fun p => p.place = place

theorem headcount_append (place : Nat) (ps qs : List Performer) :
    headcount place (ps ++ qs) = headcount place ps + headcount place qs :=
  List.countP_append

theorem headcount_perm {ps qs : List Performer} (h : ps.Perm qs) (place : Nat) :
    headcount place ps = headcount place qs :=
  h.countP_eq _

theorem headcount_eq_zero {place : Nat} {ps : List Performer} (h : ∀ p ∈ ps, p.place ≠ place) :
    headcount place ps = 0 :=
  List.countP_eq_zero.mpr fun p mem here => h p mem (of_decide_eq_true here)

theorem agenda_of_headcount {place : Nat} {ps : List Performer} (h : headcount place ps = 0)
    (now : Nat) : agenda place now ps = [] := by
  have nobody : ps.filter (fun p => p.place = place) = [] := by
    rw [← List.length_eq_zero_iff, ← List.countP_eq_length_filter]
    exact h
  rw [agenda, nobody, List.flatMap_nil]

theorem agenda_of_place {place : Nat} {ps : List Performer} (h : ∀ p ∈ ps, p.place = place)
    (now : Nat) : agenda place now ps = ps.flatMap fun p => p.trace now := by
  have everyone : ps.filter (fun p => p.place = place) = ps :=
    List.filter_eq_self.mpr fun p mem => decide_eq_true (h p mem)
  rw [agenda, everyone]

theorem agenda_singleton (place now : Nat) (p : Performer) :
    agenda place now [p] = if p.place = place then p.trace now else [] := by
  by_cases here : p.place = place <;> simp [agenda, here]

/-- No two performers stand at the same place. -/
def Distinct (performers : List Performer) : Prop :=
  ∀ place, headcount place performers ≤ 1

theorem Distinct.perm {ps qs : List Performer} (h : Distinct ps) (perm : ps.Perm qs) :
    Distinct qs := by
  intro place
  rw [← headcount_perm perm]
  exact h place

theorem Distinct.of_append {ps qs : List Performer} (h : Distinct (ps ++ qs)) : Distinct ps :=
  fun place => Nat.le_trans (Nat.le_add_right _ _) (headcount_append place ps qs ▸ h place)

/-- At distinct places, the order of the performers is nothing to their agendas. -/
theorem Distinct.agenda_perm {ps qs : List Performer} (distinct : Distinct ps) (h : ps.Perm qs)
    (place now : Nat) : agenda place now ps = agenda place now qs := by
  have perm := h.filter fun p => p.place = place
  have one : (ps.filter fun p => p.place = place).length ≤ 1 := by
    rw [← List.countP_eq_length_filter]
    exact distinct place
  have same : (ps.filter fun p => p.place = place) = qs.filter fun p => p.place = place := by
    cases eq : ps.filter fun p => p.place = place with
    | nil =>
      rw [eq] at perm
      exact perm.nil_eq
    | cons p rest =>
      rw [eq, List.length_cons] at one
      have nobody : rest = [] := List.length_eq_zero_iff.mp (by omega)
      rw [eq, nobody] at perm
      rw [nobody]
      exact (List.perm_singleton.mp perm.symm).symm
  rw [agenda, same, agenda]

theorem agenda_of_waits {ps : List Performer} {time : Nat} (waits : ∀ p ∈ ps, p.WaitsFrom time)
    (place now later : Nat) : agenda place now ps = agenda place later ps := by
  simp only [agenda, List.flatMap_def]
  refine congrArg List.flatten (List.map_congr_left fun p mem => ?_)
  exact (waits p (List.mem_filter.mp mem).1).trace_eq now later

/-! ## The balance -/

/--
Between two moments of a session, the events of `turns` have been announced, and what `ps` had to
announce at first is what `qs` have still to announce.
-/
structure Shows (turns : List (Nat × Event)) (ps qs : List Performer) (s t : Session) : Prop where
  events : t.events = s.events ++ turns.map Prod.snd
  agenda : ∀ place, agenda place s.now ps = fromPlace place turns ++ agenda place t.now qs
  places : ∀ place, headcount place qs ≤ headcount place ps

namespace Shows

theorem refl (ps : List Performer) (s : Session) : Shows [] ps ps s s :=
  ⟨by simp, fun _ => by simp [fromPlace], fun _ => Nat.le_refl _⟩

theorem trans {first later : List (Nat × Event)} {ps qs rs : List Performer} {s t u : Session}
    (h₁ : Shows first ps qs s t) (h₂ : Shows later qs rs t u) :
    Shows (first ++ later) ps rs s u := by
  constructor
  · rw [h₂.events, h₁.events, List.map_append, List.append_assoc]
  · intro place
    rw [h₁.agenda, h₂.agenda, fromPlace_append, List.append_assoc]
  · exact fun place => Nat.le_trans (h₂.places place) (h₁.places place)

theorem distinct {turns : List (Nat × Event)} {ps qs : List Performer} {s t : Session}
    (h : Shows turns ps qs s t) (distinct : Distinct ps) : Distinct qs :=
  fun place => Nat.le_trans (h.places place) (distinct place)

/-- Those who look on while others have their turns change nothing. -/
theorem frame {turns : List (Nat × Event)} {ps qs : List Performer} {s t : Session}
    (h : Shows turns ps qs s t) (now : t.now = s.now) (others : List Performer) :
    Shows turns (ps ++ others) (qs ++ others) s t := by
  refine ⟨h.events, fun place => ?_, fun place => ?_⟩
  · rw [agenda_append, agenda_append, h.agenda, now, List.append_assoc]
  · rw [headcount_append, headcount_append]
    exact Nat.add_le_add_right (h.places place) _

theorem perm {turns : List (Nat × Event)} {ps ps' qs qs' : List Performer} {s t : Session}
    (h : Shows turns ps qs s t) (distinct : Distinct ps) (before : ps.Perm ps')
    (after : qs.Perm qs') : Shows turns ps' qs' s t := by
  refine ⟨h.events, fun place => ?_, fun place => ?_⟩
  · rw [← distinct.agenda_perm before, ← (h.distinct distinct).agenda_perm after]
    exact h.agenda place
  · rw [← headcount_perm before, ← headcount_perm after]
    exact h.places place

theorem advanceTo {ps : List Performer} {early : Nat} (waits : ∀ p ∈ ps, p.WaitsFrom early)
    (s : Session) (time : Nat) : Shows [] ps ps s (s.advanceTo time) :=
  ⟨by simp, fun place => by simpa [fromPlace] using agenda_of_waits waits place _ _,
    fun _ => Nat.le_refl _⟩

/-- What has been announced when everyone has finished was on somebody's agenda. -/
theorem mem_trace {turns : List (Nat × Event)} {ps : List Performer} {s t : Session}
    (h : Shows turns ps [] s t) {turn : Nat × Event} (mem : turn ∈ turns) :
    ∃ p ∈ ps, p.place = turn.1 ∧ turn.2 ∈ p.trace s.now := by
  have shown : turn.2 ∈ fromPlace turn.1 turns := mem_fromPlace.mpr mem
  refine mem_agenda.mp ?_
  rw [h.agenda]
  exact List.mem_append_left _ shown

end Shows

end SpriteStage
