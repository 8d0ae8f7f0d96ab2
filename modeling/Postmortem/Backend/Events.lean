import Postmortem.Backend.Domain
import Postmortem.Lib.Run

/-!
# The event broker

`events.py`: publishers append to a ring buffer and put into the queues of the subscribers, and a stream
replays the buffer before it reads its queue. Any number of threads do so at once, and a step is what one of
them does without giving way: a critical section, one turn of the loop of `publish`, or one resumption of a
generator. A run is any list of such steps. A step that its thread cannot take changes nothing.
-/

namespace Postmortem

/-- `EventBroker.__init__`; a queue limit that is not positive is none. -/
structure BrokerLimits where
  historyLimit : Nat := 500
  subscriberQueueLimit : Int := 1000

/-- A generator that `stream` returned, from its first resumption on. -/
structure EventStream where
  incidentId : Uuid
  /-- What is left of `yield from history`. -/
  replay : List AgentEvent
  /-- The contents of `subscriber`. -/
  queue : List AgentEvent := []
  /-- The events it has yielded. -/
  delivered : List AgentEvent := []
  closed : Bool := false
deriving DecidableEq

/-- A call of `publish` that has left the lock. -/
structure Publication where
  publisher : Nat
  event : AgentEvent
  /-- The part of `subscribers` the loop has not reached. -/
  remaining : List Nat
deriving DecidableEq

/-- The broker, with the calls that are running: `publications` in the order of their appends. -/
structure Broker where
  history : List (Uuid × List AgentEvent) := []
  subscribers : List (Uuid × List Nat) := []
  streams : List (Nat × EventStream) := []
  publications : List Publication := []

/-- `append` of a deque with `maxlen`. -/
def push (maxlen : Nat) (h : List AgentEvent) (e : AgentEvent) : List AgentEvent :=
  (h ++ [e]).drop (h.length + 1 - maxlen)

namespace EventStream

variable (limits : BrokerLimits) (e : AgentEvent) (s : EventStream)

/-- `put_nowait` raises `Full`. -/
def full : Bool := 0 < limits.subscriberQueueLimit ∧ limits.subscriberQueueLimit ≤ s.queue.length

/-- `put_nowait`, with the event shed where the queue is full. -/
def put : EventStream := if s.full limits then s else { s with queue := s.queue ++ [e] }

/-- The next value of the generator. Where there is nothing to read it yields `None`, a heartbeat. -/
def next : EventStream :=
  if s.closed then s
  else
    match s.replay, s.queue with
    | e :: replay, _ => { s with replay, delivered := s.delivered ++ [e] }
    | [], e :: queue => { s with queue, delivered := s.delivered ++ [e] }
    | [], [] => s

end EventStream

namespace Broker

variable (limits : BrokerLimits) (b : Broker)

/-- `history` -/
def historyOf (i : Uuid) : List AgentEvent := (Assoc.get b.history i).getD []

/-- `_subscribers[incident_id]` -/
def subscribersOf (i : Uuid) : List Nat := (Assoc.get b.subscribers i).getD []

def stream (n : Nat) : Option EventStream := Assoc.get b.streams n

/-- What happens to a stream. -/
def onStream (n : Nat) (f : EventStream → EventStream) : Broker :=
  match b.stream n with
  | some s => { b with streams := Assoc.set b.streams n (f s) }
  | none => b

/-- The call of `publish` that the publisher is in. -/
def publishing (p : Nat) : Option Publication := b.publications.find? fun x => x.publisher = p

/-- The publications after a turn of the loop of one publisher, which returns when nothing is left. -/
def advance (p : Nat) : List Publication → List Publication
  | [] => []
  | x :: xs =>
    if x.publisher = p then
      match x.remaining with
      | [] => xs
      | _ :: remaining => { x with remaining } :: xs
    else x :: advance p xs

end Broker

/-- The steps of the threads. -/
inductive BrokerOp where
  /-- The critical section of `publish`; the order is that of the tuple made of the set. -/
  | append (publisher : Nat) (event : AgentEvent) (order : List Nat)
  /-- A turn of the loop of `publish`. -/
  | put (publisher : Nat)
  /-- The critical section of `stream`. -/
  | subscribe (stream : Nat) (incidentId : Uuid)
  /-- A resumption of the generator. -/
  | next (stream : Nat)
  /-- The generator is closed: the `finally` clause. -/
  | close (stream : Nat)
deriving DecidableEq

namespace Broker

variable (limits : BrokerLimits) (b : Broker)

/-- The publisher is not in a call, and the order is one of the incident's subscribers. -/
def Appends (publisher : Nat) (event : AgentEvent) (order : List Nat) : Prop :=
  b.publishing publisher = none ∧ order.Perm (b.subscribersOf event.incidentId)

instance {p e order} : Decidable (b.Appends p e order) := inferInstanceAs (Decidable (_ ∧ _))

/-- The subscriber is discarded, and the key with the last one. -/
def discard (i : Uuid) (n : Nat) : List (Uuid × List Nat) :=
  let rest := (b.subscribersOf i).erase n
  if rest.isEmpty then Assoc.erase b.subscribers i else Assoc.set b.subscribers i rest

/-- One step of one thread. -/
def step : BrokerOp → Broker
  | .append publisher event order =>
    if b.Appends publisher event order then
      { b with
        history := Assoc.set b.history event.incidentId
          (push limits.historyLimit (b.historyOf event.incidentId) event)
        publications := b.publications ++ [⟨publisher, event, order⟩] }
    else b
  | .put publisher =>
    match b.publishing publisher with
    | none => b
    | some x =>
      match x.remaining with
      | [] => { b with publications := advance publisher b.publications }
      | n :: _ =>
        { b with publications := advance publisher b.publications }.onStream n (EventStream.put limits x.event)
  | .subscribe n i =>
    match b.stream n with
    | some _ => b
    | none =>
      { b with
        subscribers := Assoc.set b.subscribers i (b.subscribersOf i ++ [n])
        streams := Assoc.set b.streams n { incidentId := i, replay := b.historyOf i } }
  | .next n => b.onStream n EventStream.next
  | .close n =>
    match b.stream n with
    | none => b
    | some s =>
      { b with
        subscribers := b.discard s.incidentId n
        streams := Assoc.set b.streams n { s with closed := true } }

/-- The event the step appends to the history of the incident. -/
def appended (i : Uuid) : BrokerOp → List AgentEvent
  | .append publisher event order =>
    if b.Appends publisher event order ∧ event.incidentId = i then [event] else []
  | _ => []

end Broker

end Postmortem
