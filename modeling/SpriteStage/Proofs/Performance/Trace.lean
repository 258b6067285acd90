import SpriteStage.Proofs.Session.Journal

/-! # The trace of a performer

What a performer has still to announce follows from its steps and from the time at which it comes to
them. A turn announces a first part of this trace, all of it at the present time, and leaves the rest.

* `trace` — the events of some steps, each with its time
* `Performer.WaitsFrom` — a performer waits, and not for a time that is over
* `Performer.takeSteps_shows`, `Performer.rest_takeSteps` — what a turn announces and what it leaves
-/

namespace SpriteStage

set_option autoImplicit false

/-! ## Traces -/

/--
The events that a sprite announces with some steps when it comes to them at time `now`. If it waits
in front of them already, `deadline` is the end of this wait.
-/
def trace (id : SpriteId) : Nat → Option Nat → List Step → List Event
  | _, _, [] => []
  | now, deadline, .wait ms :: rest => trace id (deadline.getD (now + delayLength ms)) none rest
  | now, _, step :: rest => (step.event? id now).toList ++ trace id now none rest

theorem sprite?_trace {id : SpriteId} {now : Nat} {deadline : Option Nat} {steps : List Step}
    {event : Event} (h : event ∈ trace id now deadline steps) : event.sprite? = some id := by
  fun_induction trace id now deadline steps with
  | case1 => cases h
  | case2 now deadline ms rest ih => exact ih h
  | case3 now deadline step rest other ih =>
    rcases List.mem_append.mp h with first | later
    · exact Step.sprite?_event (Option.mem_toList.mp first)
    · exact ih later

/-- The event happens at a time of the clock that is not before `now`. -/
def Event.IsFrom (now : Nat) (event : Event) : Prop :=
  ∃ time, now ≤ time ∧ event.time = .ofMillis time

theorem Event.IsFrom.mono {early late : Nat} {event : Event} (h : event.IsFrom late)
    (le : early ≤ late) : event.IsFrom early := by
  obtain ⟨time, later, eq⟩ := h
  exact ⟨time, Nat.le_trans le later, eq⟩

/-- Nothing is announced before the time at which the steps begin. -/
theorem isFrom_trace {id : SpriteId} {now : Nat} {steps : List Step} {event : Event}
    (h : event ∈ trace id now none steps) : event.IsFrom now := by
  induction steps generalizing now with
  | nil => cases h
  | cons step rest ih =>
    by_cases waits : ∃ ms, step = .wait ms
    · obtain ⟨ms, rfl⟩ := waits
      exact (ih h).mono (Nat.le_add_right _ _)
    · rw [trace] at h
      · rcases List.mem_append.mp h with first | later
        · exact ⟨now, Nat.le_refl _, Step.time_event (Option.mem_toList.mp first)⟩
        · exact ih later
      · exact fun ms eq => waits ⟨ms, eq⟩

namespace Performer

/-- What a performer announces from time `now` on, if nobody else keeps it from going on. -/
def trace (p : Performer) (now : Nat) : List Event :=
  SpriteStage.trace p.sprite now p.deadline p.steps

/-! ## Waiting -/

/-- The wait of the performer, if it has begun, does not end before `now`. -/
def NotOverdue (now : Nat) (p : Performer) : Prop :=
  ∀ due ∈ p.deadline, now ≤ due

/-- The performer waits for a time not before `time`. -/
def WaitsFrom (time : Nat) (p : Performer) : Prop :=
  ∃ due ms rest, p.deadline = some due ∧ time ≤ due ∧ p.steps = .wait ms :: rest

theorem WaitsFrom.mono {early late : Nat} {p : Performer} (h : p.WaitsFrom late)
    (le : early ≤ late) : p.WaitsFrom early := by
  obtain ⟨due, ms, rest, deadline, later, steps⟩ := h
  exact ⟨due, ms, rest, deadline, Nat.le_trans le later, steps⟩

theorem WaitsFrom.notOverdue {time : Nat} {p : Performer} (h : p.WaitsFrom time) :
    p.NotOverdue time := by
  obtain ⟨due, ms, rest, deadline, later, steps⟩ := h
  intro other eq
  rw [deadline, Option.mem_some_iff] at eq
  exact eq ▸ later

theorem WaitsFrom.trace_eq {time : Nat} {p : Performer} (h : p.WaitsFrom time) (now later : Nat) :
    p.trace now = p.trace later := by
  obtain ⟨due, ms, rest, deadline, _, steps⟩ := h
  simp only [trace, deadline, steps, SpriteStage.trace, Option.getD_some]

/-- A performer announces nothing before its wait is over. -/
theorem WaitsFrom.isFrom_trace {time now : Nat} {p : Performer} {event : Event}
    (h : p.WaitsFrom time) (shown : event ∈ p.trace now) : event.IsFrom time := by
  obtain ⟨due, ms, rest, deadline, later, steps⟩ := h
  simp only [trace, deadline, steps, SpriteStage.trace, Option.getD_some] at shown
  exact (SpriteStage.isFrom_trace shown).mono later

/-! ## Turns -/

@[simp] theorem now_takeSteps (sprite : SpriteId) (place : Nat) (allowance : Allowance)
    (deadline : Option Nat) (steps : List Step) (s : Session) :
    (takeSteps sprite place allowance deadline steps s).session.now = s.now := by
  fun_induction takeSteps sprite place allowance deadline steps s with
  | case1 => rfl
  | case2 allowance deadline ms rest s time ended ih => exact ih
  | case3 => rfl
  | case4 allowance deadline step rest s other ih => rw [ih, Session.now_performStep]

/-- A turn announces the first part of the trace at once and leaves the rest to be announced. -/
theorem takeSteps_shows (sprite : SpriteId) (place : Nat) (allowance : Allowance)
    {deadline : Option Nat} (steps : List Step) {s : Session}
    (notOverdue : ∀ due ∈ deadline, s.now ≤ due) :
    ∃ shown : List Event,
      (takeSteps sprite place allowance deadline steps s).session.events = s.events ++ shown ∧
      (∀ event ∈ shown, event.time = .ofMillis s.now) ∧
      SpriteStage.trace sprite s.now deadline steps = shown ++
        (takeSteps sprite place allowance deadline steps s).rest.toList.flatMap
          fun q => q.trace s.now := by
  fun_induction takeSteps sprite place allowance deadline steps s with
  | case1 => exact ⟨[], by simp, by simp, by simp [SpriteStage.trace]⟩
  | case2 allowance deadline ms rest s time ended ih =>
    -- a wait that is over ends just now, so that the trace goes on at this time
    have now : time = s.now := by
      refine Nat.le_antisymm ended.2 ?_
      cases deadline with
      | none => exact Nat.le_add_right _ _
      | some due => exact notOverdue due rfl
    obtain ⟨shown, events, times, same⟩ := ih (by simp)
    refine ⟨shown, events, times, ?_⟩
    rw [← same, SpriteStage.trace]
    exact congrArg (fun t => SpriteStage.trace sprite t none rest) now
  | case3 allowance deadline ms rest s time ended =>
    exact ⟨[], by simp, by simp, by simp [trace, SpriteStage.trace, time]⟩
  | case4 allowance deadline step rest s other ih =>
    obtain ⟨shown, events, times, same⟩ := ih (by simp)
    rw [Session.now_performStep] at times same
    refine ⟨(step.event? sprite s.now).toList ++ shown, ?_, ?_, ?_⟩
    · rw [events, Session.events_performStep, List.append_assoc]
    · intro event mem
      rcases List.mem_append.mp mem with first | later
      · exact Step.time_event (Option.mem_toList.mp first)
      · exact times event later
    · rw [SpriteStage.trace, same, List.append_assoc]
      exact other

/-- Who has not finished waits; with some allowance left, for a time to come. -/
theorem rest_takeSteps {sprite : SpriteId} {place : Nat} {allowance : Allowance}
    {deadline : Option Nat} {steps : List Step} {s : Session} {q : Performer}
    (notOverdue : ∀ due ∈ deadline, s.now ≤ due)
    (h : (takeSteps sprite place allowance deadline steps s).rest = some q) :
    q.sprite = sprite ∧ q.place = place ∧ q.WaitsFrom s.now ∧
      ((takeSteps sprite place allowance deadline steps s).allowance ≠ some 0 →
        q.WaitsFrom (s.now + 1)) := by
  fun_induction takeSteps sprite place allowance deadline steps s with
  | case1 => cases h
  | case2 allowance deadline ms rest s time ended ih => exact ih (by simp) h
  | case3 allowance deadline ms rest s time ended =>
    cases h
    have later : s.now ≤ time := by
      cases deadline with
      | none => exact Nat.le_add_right _ _
      | some due => exact notOverdue due rfl
    refine ⟨rfl, rfl, ⟨time, ms, rest, rfl, later, rfl⟩, ?_⟩
    intro left
    exact ⟨time, ms, rest, rfl, Nat.lt_of_not_le fun now => ended ⟨left, now⟩, rfl⟩
  | case4 allowance deadline step rest s other ih =>
    simpa only [Session.now_performStep] using ih (by simp) h

end Performer

end SpriteStage
