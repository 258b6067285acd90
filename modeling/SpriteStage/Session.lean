import SpriteStage.Event.Basic
import SpriteStage.Performance.State
import SpriteStage.Store.Request

/-! # Sessions

A session is a run on a stage as it unfolds: a clock in milliseconds, the store, the journal of what
has been announced, and the visits of others who use the store meanwhile. At any one time the run
comes first and the visits of that time after it.

* `Session.pause` — lets time go by, and with it the visits that fall into it
* `Session.emit` — announces an event
* `Session.settle` — lets the remaining visits take place
-/

namespace SpriteStage

set_option autoImplicit false

/-! ## Delays -/

/-- No delay lasts longer than thirty years. -/
def longestDelay : Nat :=
  946080000000

/-- The milliseconds that a delay lasts; less than none is none. -/
def delayLength (ms : Int64) : Nat :=
  min ms.toInt.toNat longestDelay

/-! ## Sessions -/

/-- A request that someone else makes at some time of a session. -/
structure Visit where
  time : Nat
  request : Request
deriving DecidableEq

/-- What a visitor finds just before making a request. -/
structure Sight where
  store : Store
  states : List (SpriteId × PerformerState)
deriving DecidableEq

/-- An event, and the store as it was when the event was announced. -/
structure Entry where
  event : Event
  store : Store
deriving DecidableEq

/-- A run on a stage as it unfolds. -/
structure Session where
  /-- Milliseconds since the run began. -/
  now : Nat
  store : Store
  journal : Array Entry
  /-- The state of every performer that has begun. -/
  states : List (SpriteId × PerformerState)
  /-- The visits to come, in the order of their times. -/
  visits : List Visit
  /-- What those who came have found. -/
  sights : Array Sight
deriving DecidableEq

namespace Session

def start (store : Store) (visits : List Visit) : Session :=
  ⟨0, store, #[], [], visits, #[]⟩

/-- The time since the run began. -/
def elapsed (s : Session) : Duration :=
  .ofMillis s.now

def events (s : Session) : List Event :=
  s.journal.toList.map Entry.event

/-! ## What the run does -/

def emit (s : Session) (event : Event) : Session :=
  { s with journal := s.journal.push ⟨event, s.store⟩ }

def changeStore (s : Session) (change : Store → Store) : Session :=
  { s with store := change s.store }

/-- The state of a performer; one that has not begun is idle. -/
def stateOf (s : Session) (id : SpriteId) : PerformerState :=
  (s.states.lookup id).getD .idle

/-- A performer comes into a new state. -/
def enter (s : Session) (id : SpriteId) (state : PerformerState) : Session :=
  { s with states := (id, state) :: s.states.filter fun entry => entry.1 ≠ id }

/-! ## What others do -/

def receive (s : Session) (visit : Visit) : Session :=
  { s with
    store := visit.request.perform s.store
    sights := s.sights.push ⟨s.store, s.states⟩ }

/-- The visits of times before `time` take place. -/
def receiveBefore (s : Session) (time : Nat) : Session :=
  let due := s.visits.takeWhile fun visit => decide (visit.time < time)
  let later := s.visits.dropWhile fun visit => decide (visit.time < time)
  due.foldl receive { s with visits := later }

def settle (s : Session) : Session :=
  s.visits.foldl receive { s with visits := [] }

/-! ## Time -/

/-- The clock moves on to `time`. Visits of that very time have to wait for the run. -/
def advanceTo (s : Session) (time : Nat) : Session :=
  { s.receiveBefore time with now := time }

/-- Lets a delay go by. One of no length lets nobody else come first. -/
def pause (s : Session) (ms : Int64) : Session :=
  if delayLength ms = 0 then s else s.advanceTo (s.now + delayLength ms)

end Session

end SpriteStage
