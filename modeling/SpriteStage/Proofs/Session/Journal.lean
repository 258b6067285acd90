import SpriteStage.Performance.Performer

/-! # What goes into the journal

Only announcing an event adds to the journal, and only the clock's own moves change the time. Visits
change neither, so that they can be seen in the stores of later entries alone.

* `Session.journal_advanceTo`, `Session.events_pause` — time goes by without an event
* `Step.event?` — the event that a step of a sprite announces
* `Session.events_performStep` — a step announces this event and nothing else
-/

namespace SpriteStage

set_option autoImplicit false

/-! ## Events and changes -/

theorem Duration.ofMillis_zero : Duration.ofMillis 0 = .zero := by
  rw [ofMillis, Nat.zero_mul, zero]

namespace Session

@[simp] theorem events_start (store : Store) (visits : List Visit) :
    (start store visits).events = [] := rfl

@[simp] theorem events_emit (s : Session) (event : Event) :
    (s.emit event).events = s.events ++ [event] := by
  simp [emit, events]

@[simp] theorem now_emit (s : Session) (event : Event) : (s.emit event).now = s.now := rfl

@[simp] theorem events_changeStore (s : Session) (change : Store → Store) :
    (s.changeStore change).events = s.events := rfl

@[simp] theorem now_changeStore (s : Session) (change : Store → Store) :
    (s.changeStore change).now = s.now := rfl

@[simp] theorem events_enter (s : Session) (id : SpriteId) (state : PerformerState) :
    (s.enter id state).events = s.events := rfl

@[simp] theorem now_enter (s : Session) (id : SpriteId) (state : PerformerState) :
    (s.enter id state).now = s.now := rfl

/-! ## Visits and the clock -/

theorem journal_foldl_receive (visits : List Visit) (s : Session) :
    (visits.foldl receive s).journal = s.journal := by
  induction visits generalizing s with
  | nil => rfl
  | cons visit rest ih => exact ih (s.receive visit)

@[simp] theorem journal_advanceTo (s : Session) (time : Nat) :
    (s.advanceTo time).journal = s.journal :=
  journal_foldl_receive _ _

@[simp] theorem events_advanceTo (s : Session) (time : Nat) :
    (s.advanceTo time).events = s.events := by
  rw [events, journal_advanceTo, events]

@[simp] theorem now_advanceTo (s : Session) (time : Nat) : (s.advanceTo time).now = time := rfl

@[simp] theorem events_pause (s : Session) (ms : Int64) : (s.pause ms).events = s.events := by
  unfold pause
  split
  · rfl
  · exact events_advanceTo s _

@[simp] theorem now_pause (s : Session) (ms : Int64) :
    (s.pause ms).now = s.now + delayLength ms := by
  unfold pause
  split
  · rename_i none
    rw [none, Nat.add_zero]
  · rfl

@[simp] theorem journal_settle (s : Session) : s.settle.journal = s.journal :=
  journal_foldl_receive _ _

@[simp] theorem events_settle (s : Session) : s.settle.events = s.events := by
  rw [events, journal_settle, events]

end Session

/-! ## Steps -/

/-- The event that a step of a sprite announces at a time in milliseconds. -/
def Step.event? (id : SpriteId) (now : Nat) : Step → Option Event
  | enter _ => none
  | showBubble bubble time =>
    some (.messageShown id bubble.kind bubble.text (.ofMillis now) (.ofDelay time))
  | clearBubble => some (.messageCleared id (.ofMillis now))
  | commit pose => some (.poseCommitted id pose (.ofMillis now))
  | wait _ => none

theorem Step.time_event {id : SpriteId} {now : Nat} {step : Step} {event : Event}
    (h : event ∈ step.event? id now) : event.time = .ofMillis now := by
  cases step <;> simp only [event?, Option.mem_def, Option.some.injEq, reduceCtorEq] at h
  all_goals
    subst h
    rfl

theorem Step.sprite?_event {id : SpriteId} {now : Nat} {step : Step} {event : Event}
    (h : event ∈ step.event? id now) : event.sprite? = some id := by
  cases step <;> simp only [event?, Option.mem_def, Option.some.injEq, reduceCtorEq] at h
  all_goals
    subst h
    rfl

namespace Session

theorem events_performStep (s : Session) (id : SpriteId) (step : Step) :
    (s.performStep id step).events = s.events ++ (step.event? id s.now).toList := by
  cases step <;> simp [performStep, Step.event?, elapsed]

@[simp] theorem now_performStep (s : Session) (id : SpriteId) (step : Step) :
    (s.performStep id step).now = s.now := by
  cases step <;> rfl

end Session

end SpriteStage
