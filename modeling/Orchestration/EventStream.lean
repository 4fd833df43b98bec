import Orchestration.Event

/-!
# The event stream

Published events go to every subscriber.  The stream keeps only the latest events, as many as its
capacity rounded up to a power of two.  A subscriber that has fallen further behind is told once
how many events it has missed, and goes on with the oldest that is kept.  A subscriber sees only
what is published after it subscribed.

Main definitions: `EventStream.ofCapacity?`, `EventStream.publish`, `EventStream.receive`.
-/

namespace Orchestration

/-- What a subscriber receives. -/
inductive Receipt where
  | event (e : LifecycleEvent)
  | empty
  | lagged (missed : Nat)
  deriving DecidableEq, Repr

/-- The stream: its room, the number of events so far, the kept events with the oldest first, and
the place in the stream that each subscriber has reached. -/
structure EventStream where
  room : Nat
  total : Nat := 0
  kept : List LifecycleEvent := []
  subscribers : SortedMap String Nat := ∅

namespace EventStream

/-- The number of events that no stream has room for. -/
def roomLimit : Nat :=
  1 <<< 56

/-- The number of events that a stream of a capacity keeps; there is no stream with no room at all,
nor with more than there can be. -/
def room? (capacity : Nat) : Option Nat :=
  let room := capacity.nextPowerOfTwo
  if capacity = 0 ∨ roomLimit ≤ room then none else some room

/-- What a stream of a capacity still keeps of a list of events: the latest, as many as it has room
for. -/
def latest (capacity : Nat) (events : List LifecycleEvent) : List LifecycleEvent :=
  events.drop (events.length - (room? capacity).getD 0)

/-- A stream with a capacity. -/
def ofCapacity? (capacity : Nat) : Option EventStream :=
  (room? capacity).map (fun room => { room := room })

/-- Subscribes under a name, in place of an earlier subscription of that name. -/
def subscribe (s : EventStream) (name : String) : EventStream :=
  { s with subscribers := s.subscribers.insert name s.total }

/-- Ends the subscription of a name. -/
def unsubscribe (s : EventStream) (name : String) : EventStream :=
  { s with subscribers := s.subscribers.erase name }

/-- Publishes an event. -/
def publish (s : EventStream) (e : LifecycleEvent) : EventStream :=
  let kept := s.kept ++ [e]
  { s with total := s.total + 1, kept := kept.drop (kept.length - s.room) }

/-- Gives a subscriber what comes next; there is nothing for a name that did not subscribe. -/
def receive (s : EventStream) (name : String) : EventStream × Option Receipt :=
  match s.subscribers.find? name with
  | none => (s, none)
  | some place =>
    let oldest := s.total - s.kept.length
    if place < oldest then
      ({ s with subscribers := s.subscribers.insert name oldest }, some (.lagged (oldest - place)))
    else
      match s.kept[place - oldest]? with
      | some e => ({ s with subscribers := s.subscribers.insert name (place + 1) }, some (.event e))
      | none => (s, some .empty)

end EventStream
end Orchestration
