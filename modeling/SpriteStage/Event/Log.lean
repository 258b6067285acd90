import SpriteStage.Event.Basic

/-! # Where events go

* `EventLog` — keeps all events
* `Mailbox` — hands events on, one by one
-/

namespace SpriteStage

set_option autoImplicit false

/-- All events in the order in which they happened. -/
structure EventLog where
  events : List Event
deriving DecidableEq

namespace EventLog

def empty : EventLog :=
  ⟨[]⟩

def emit (log : EventLog) (event : Event) : EventLog :=
  ⟨log.events ++ [event]⟩

/-- The events about the bubbles and poses of one sprite. -/
def forSprite (log : EventLog) (id : SpriteId) : List Event :=
  log.events.filter fun event => event.sprite? = some id

def clear (_ : EventLog) : EventLog :=
  empty

end EventLog

/-- Events on their way to a reader, who may stop taking new ones. -/
structure Mailbox where
  pending : List Event
  closed : Bool
deriving DecidableEq

namespace Mailbox

/-- An empty mailbox that takes events. -/
def empty : Mailbox :=
  ⟨[], false⟩

/-- Puts an event into the mailbox, or drops it if the mailbox is closed. -/
def send (mailbox : Mailbox) (event : Event) : Mailbox :=
  if mailbox.closed then mailbox else { mailbox with pending := mailbox.pending ++ [event] }

/-- Takes the oldest event out. -/
def receive (mailbox : Mailbox) : Option Event × Mailbox :=
  (mailbox.pending.head?, { mailbox with pending := mailbox.pending.tail })

/-- Takes no more events; those already there can still be taken out. -/
def close (mailbox : Mailbox) : Mailbox :=
  { mailbox with closed := true }

end Mailbox

end SpriteStage
