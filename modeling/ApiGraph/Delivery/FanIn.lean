/-
# Merging many sources

Every source has a forwarder that takes values out of the source one at a time and
puts each into the output.  A forwarder that finds the output full keeps its value
in hand and waits; those that wait are served in the order in which they began to.
A forwarder ends when its source has ended and is drained, or when the output
refuses its value.

The output is closed to its receiver once nobody is left who could send: neither
the handle, nor a direct sender, nor a forwarder.
-/

import ApiGraph.Delivery.Queue

namespace ApiGraph

/-- The forwarder of a source. -/
structure Forwarder (α : Type) where
  /-- What was sent to the source. -/
  source : Queue α
  /-- The source has no sender any more. -/
  ended : Bool := false
  /-- The value on its way to the output. -/
  hand : Option α := none
  /-- The forwarder has ended. -/
  finished : Bool := false
  deriving DecidableEq, Repr

/-- Sources, their forwarders and the output. -/
structure FanIn (α : Type) where
  output : Queue α
  forwarders : List (Forwarder α) := []
  /-- The forwarders that wait for room in the output, in order. -/
  waiting : List Nat := []
  /-- The handle to add sources with is there. -/
  handle : Bool := true
  /-- How many direct senders there are. -/
  senders : Nat := 0
  deriving DecidableEq, Repr

namespace FanIn

variable {α : Type}

/-- A fan-in with an output of a capacity, if there can be one. -/
def ofCapacity? (capacity : Nat) : Option (FanIn α) := do
  return { output := ← Queue.ofCapacity? capacity }

/-- A new source of a capacity, if there can be one. -/
def addSource? (f : FanIn α) (capacity : Nat) : Option (Nat × FanIn α) := do
  let source ← Queue.ofCapacity? capacity
  return (f.forwarders.length, { f with forwarders := f.forwarders ++ [{ source }] })

/-- It is the forwarder's turn to put a value: nobody waits, or it waits longest. -/
def hasTurn (f : FanIn α) (i : Nat) : Bool :=
  match f.waiting with
  | [] => true
  | first :: _ => first == i

/-- Changes a forwarder. -/
def setForwarder (f : FanIn α) (i : Nat) (w : Forwarder α) : FanIn α :=
  { f with forwarders := f.forwarders.set i w }

/-- A forwarder ends and takes no further values from its source. -/
def finish (f : FanIn α) (i : Nat) (w : Forwarder α) : FanIn α :=
  { f.setForwarder i { w with hand := none, finished := true, source := w.source.abandon } with
    waiting := f.waiting.erase i }

/-- The next step of a forwarder, unless it has ended or cannot go on. -/
def forward? (f : FanIn α) (i : Nat) : Option (FanIn α) := do
  let w ← f.forwarders[i]?
  if w.finished then none
  else
    match w.hand with
    | none =>
      match w.source.take? with
      | some (value, source) => some (f.setForwarder i { w with hand := some value, source })
      | none => if w.ended then some (f.finish i w) else none
    | some value =>
      if f.output.closed then some (f.finish i w)
      else if f.output.hasRoom && f.hasTurn i then
        some { f.setForwarder i { w with hand := none } with
          output := { f.output with items := f.output.items ++ [value] }
          waiting := f.waiting.erase i }
      else if f.waiting.contains i then none
      else some { f with waiting := f.waiting ++ [i] }

/-- The next step of the first forwarder that can go on. -/
def forwardAny? (f : FanIn α) : Option (FanIn α) :=
  (List.range f.forwarders.length).findSome? f.forward?

/-- Lets the forwarders go on for at most so many steps. -/
def settleWithin : Nat → FanIn α → FanIn α
  | 0, f => f
  | steps + 1, f =>
    match f.forwardAny? with
    | some f => settleWithin steps f
    | none => f

/-- A bound on the steps that are left: a value is taken, waits and is put, and in the
end the forwarder ends. -/
def stepsLeft (f : FanIn α) : Nat :=
  f.forwarders.foldr (fun w n => 3 * w.source.items.length + 4 + n) 0

/-- Lets the forwarders go on until none can. -/
def settle (f : FanIn α) : FanIn α :=
  f.settleWithin f.stepsLeft

/-- There is somebody who could send to the output. -/
def hasSender (f : FanIn α) : Bool :=
  f.handle || f.senders != 0 || f.forwarders.any (!·.finished)

/-- Offers a value to a source. -/
def offerSource (f : FanIn α) (i : Nat) (value : α) : Queue.Offer α × FanIn α :=
  match f.forwarders[i]? with
  | none => (.refused, f)
  | some w =>
    match w.source.offer value with
    | .taken source => (.taken source, f.setForwarder i { w with source })
    | other => (other, f)

/-- A source loses its sender. -/
def endSource (f : FanIn α) (i : Nat) : FanIn α :=
  { f with forwarders := f.forwarders.modify i ({ · with ended := true }) }

/-- The forwarder of a source has ended. -/
def isFinished (f : FanIn α) (i : Nat) : Bool :=
  (f.forwarders[i]?).any (·.finished)

/-- Offers a value to the output.  Room that somebody waits for is not given away. -/
def offerOutput (f : FanIn α) (value : α) : Queue.Offer α × FanIn α :=
  match f.output.offer value with
  | .taken output =>
    if f.waiting.isEmpty then (.taken output, { f with output }) else (.full, f)
  | other => (other, f)

/-- Receives from the output. -/
def receive (f : FanIn α) : Receipt α × FanIn α :=
  let (receipt, output) := f.output.receive f.hasSender
  (receipt, { f with output })

end FanIn
end ApiGraph
