/-
# Delivering to many

Every value that is sent goes to the queue of each subscriber.  A send takes a
snapshot of the subscribers, offers the value to one after the other and waits at
each queue that is full; afterwards, if it met a queue whose receiver is gone, it
strikes all such subscribers off the list.

Each of these steps is a function on its own, so that sends may be interleaved with
each other and with everything else.  `send` runs the steps of one send as far as
they go.
-/

import ApiGraph.Delivery.Queue

namespace ApiGraph

/-- Subscribers and their queues. -/
structure FanOut (α : Type) where
  /-- The capacity of new queues. -/
  capacity : Nat
  /-- The queues of all subscriptions that were ever made, by number. -/
  queues : Array (Queue α) := #[]
  /-- The subscriptions that sends go to. -/
  subscribers : List Nat := []
  /-- How many handles there are to send with. -/
  handles : Nat := 1
  deriving DecidableEq, Repr

/-- The capacity of queues where none is given. -/
def FanOut.standardCapacity : Nat := 1000

/-- A send on its way. -/
structure Sending (α : Type) where
  value : α
  /-- The subscriptions of the snapshot that are still to be served. -/
  pending : List Nat
  /-- How many queues have the value. -/
  delivered : Nat := 0
  /-- A queue refused the value. -/
  refused : Bool := false
  deriving DecidableEq, Repr

namespace FanOut

variable {α : Type}

/-- A new subscription, with its number, if there can be queues of the capacity. -/
def subscribe? (f : FanOut α) : Option (Nat × FanOut α) := do
  let queue ← Queue.ofCapacity? f.capacity
  return (f.queues.size,
    { f with
      queues := f.queues.push queue
      subscribers := f.subscribers ++ [f.queues.size] })

/-- How many subscribers there are, as far as is known. -/
def count (f : FanOut α) : Nat :=
  f.subscribers.length

/-- The start of a send: a snapshot of the subscribers. -/
def start (f : FanOut α) (value : α) : Sending α :=
  { value, pending := f.subscribers }

/-- The receiver of a subscription takes further values. -/
def isOpen (f : FanOut α) (subscription : Nat) : Bool :=
  (f.queues[subscription]?).any (!·.closed)

/-- Strikes off the subscribers whose receivers take no further values. -/
def prune (f : FanOut α) : FanOut α :=
  { f with subscribers := f.subscribers.filter f.isOpen }

/-- Where a send stands after a step. -/
inductive Progress (α : Type) where
  /-- It goes on. -/
  | moved (f : FanOut α) (s : Sending α)
  /-- It waits for room. -/
  | waiting
  /-- It is over; so many queues have the value. -/
  | finished (f : FanOut α) (delivered : Nat)

/-- The next step of a send. -/
def advance (f : FanOut α) (s : Sending α) : Progress α :=
  match s.pending with
  | [] => .finished (if s.refused then f.prune else f) s.delivered
  | subscription :: rest =>
    match f.queues[subscription]? with
    | none => .moved f { s with pending := rest, refused := true }
    | some q =>
      match q.offer s.value with
      | .taken q =>
        .moved { f with queues := f.queues.setIfInBounds subscription q }
          { s with pending := rest, delivered := s.delivered + 1 }
      | .full => .waiting
      | .refused => .moved f { s with pending := rest, refused := true }

/-- Runs a send for at most so many steps, until it is over or has to wait.  A send
that has to wait gives no number and stays where it is. -/
def runSend : Nat → FanOut α → Sending α → Option Nat × FanOut α
  | 0, f, _ => (none, f)
  | steps + 1, f, s =>
    match f.advance s with
    | .moved f s => runSend steps f s
    | .waiting => (none, f)
    | .finished f delivered => (some delivered, f)

/-- Sends a value while nothing else happens: how many queues have it, or nothing if
the send was given up at a full queue.  Each step serves one subscriber. -/
def send (f : FanOut α) (value : α) : Option Nat × FanOut α :=
  runSend (f.subscribers.length + 1) f (f.start value)

/-- Changes the queue of a subscription. -/
def modifyQueue (f : FanOut α) (subscription : Nat) (change : Queue α → Queue α) : FanOut α :=
  { f with queues := f.queues.modify subscription change }

/-- The receiver of a subscription refuses further values. -/
def close (f : FanOut α) (subscription : Nat) : FanOut α :=
  f.modifyQueue subscription Queue.close

/-- The receiver of a subscription is gone. -/
def abandon (f : FanOut α) (subscription : Nat) : FanOut α :=
  f.modifyQueue subscription Queue.abandon

/-- Receives from the queue of a subscription, which has senders as long as it is on
the list and there is a handle. -/
def receive (f : FanOut α) (subscription : Nat) : Receipt α × FanOut α :=
  match f.queues[subscription]? with
  | none => (.closed, f)
  | some q =>
    let (receipt, q) := q.receive (f.handles != 0 && f.subscribers.contains subscription)
    (receipt, { f with queues := f.queues.setIfInBounds subscription q })

/-- One more handle. -/
def clone (f : FanOut α) : FanOut α :=
  { f with handles := f.handles + 1 }

/-- One handle less. -/
def release (f : FanOut α) : FanOut α :=
  { f with handles := f.handles - 1 }

end FanOut
end ApiGraph
