/-
# Bounded queues

A queue of values on their way from senders to one receiver.  It holds at most
`capacity` values and gives them out in the order in which they came.  The receiver
may refuse further values, and still takes those that are there.
-/

namespace ApiGraph

/-- A bounded queue. -/
structure Queue (α : Type) where
  /-- How many values may wait. -/
  capacity : Nat
  /-- The values that wait, oldest first. -/
  items : List α := []
  /-- The receiver takes no further values. -/
  closed : Bool := false
  deriving DecidableEq, Repr

namespace Queue

variable {α : Type}

/-- The greatest capacity that a queue can have. -/
def limit : Nat := Nat.pow 2 61 - 1

/-- An empty queue of a capacity.  It has room for one value at least. -/
def ofCapacity? (capacity : Nat) : Option (Queue α) :=
  if 0 < capacity && capacity ≤ limit then some { capacity } else none

/-- There is room for a value. -/
def hasRoom (q : Queue α) : Bool :=
  q.items.length < q.capacity

/-- What offering a value comes to. -/
inductive Offer (α : Type) where
  /-- The value waits now. -/
  | taken (q : Queue α)
  /-- There is no room. -/
  | full
  /-- The receiver takes no further values. -/
  | refused

/-- Offers a value. -/
def offer (q : Queue α) (value : α) : Offer α :=
  if q.closed then .refused
  else if q.hasRoom then .taken { q with items := q.items ++ [value] }
  else .full

/-- Takes the oldest value. -/
def take? (q : Queue α) : Option (α × Queue α) :=
  match q.items with
  | [] => none
  | value :: rest => some (value, { q with items := rest })

/-- The receiver refuses further values. -/
def close (q : Queue α) : Queue α :=
  { q with closed := true }

/-- The receiver is gone, and with it what waited. -/
def abandon (q : Queue α) : Queue α :=
  { q with items := [], closed := true }

end Queue

/-- What a receiver gets. -/
inductive Receipt (α : Type) where
  | value (x : α)
  /-- Nothing waits. -/
  | empty
  /-- Nothing waits, and nothing will come. -/
  | closed
  deriving DecidableEq, Repr

/-- Receives from a queue; `hasSender` says whether anyone may still send. -/
def Queue.receive {α : Type} (q : Queue α) (hasSender : Bool) : Receipt α × Queue α :=
  match q.take? with
  | some (x, q) => (.value x, q)
  | none => (if q.closed || !hasSender then .closed else .empty, q)

end ApiGraph
