/-
# Delivery sessions

A session runs commands on a fan-out or a fan-in, one after the other: after each,
every forwarder goes on until all wait.  Subscriptions and sources go by names, and
a name that is used again stands for the newer one.
-/

import ApiGraph.Delivery.FanIn
import ApiGraph.Delivery.FanOut
import ApiGraph.Table

namespace ApiGraph

/-! ## Fan-out -/

namespace FanOut

/-- A command to a fan-out. -/
inductive Command where
  | subscribe (name : String)
  | send (value : Int)
  | receive (name : String)
  | close (name : String)
  | abandon (name : String)
  | count
  | clone
  | releaseFirst
  | releaseCopy
  deriving DecidableEq, Repr

/-- The answer to a command. -/
inductive Answer where
  | nothing
  | flag (b : Bool)
  | number (n : Nat)
  | received (r : Receipt Int)
  /-- A send was given up at a full queue. -/
  | blocked
  deriving DecidableEq, Repr

/-- A fan-out whose receivers have names, with at most two handles: the one it was made
with and a copy of it. -/
structure Session where
  fan : FanOut Int
  /-- The subscriptions by name. -/
  names : Table Nat := []
  /-- The first handle is still there. -/
  first : Bool := true
  /-- There is a copy of the handle. -/
  copy : Bool := false

namespace Session

/-- Subscribes.  An older receiver of the name is gone then. -/
def subscribe? (s : Session) (name : String) : Option (Answer × Session) := do
  let (subscription, fan) ← s.fan.subscribe?
  let fan := match s.names.get? name with
    | some older => fan.abandon older
    | none => fan
  return (.number fan.count, { s with fan, names := s.names.insert name subscription })

/-- Copies the handle, if that was not done already. -/
def clone (s : Session) : Session :=
  if s.first && !s.copy then { s with fan := s.fan.clone, copy := true } else s

/-- The first handle is given up. -/
def releaseFirst (s : Session) : Session :=
  if s.first then { s with fan := s.fan.release, first := false } else s

/-- The copy of the handle is given up. -/
def releaseCopy (s : Session) : Session :=
  if s.copy then { s with fan := s.fan.release, copy := false } else s

/-- Runs a command.  There is no answer where there can be no queue of the capacity. -/
def run? (s : Session) : Command → Option (Answer × Session)
  | .subscribe name => s.subscribe? name
  | .send value =>
    match s.fan.send value with
    | (some n, fan) => some (.number n, { s with fan })
    | (none, fan) => some (.blocked, { s with fan })
  | .receive name =>
    match s.names.get? name with
    | some subscription =>
      let (receipt, fan) := s.fan.receive subscription
      some (.received receipt, { s with fan })
    | none => some (.nothing, s)
  | .close name =>
    match s.names.get? name with
    | some subscription => some (.nothing, { s with fan := s.fan.close subscription })
    | none => some (.nothing, s)
  | .abandon name =>
    match s.names.get? name with
    | some subscription =>
      some (.flag true,
        { s with fan := s.fan.abandon subscription, names := s.names.erase name })
    | none => some (.flag false, s)
  | .count => some (.number s.fan.count, s)
  | .clone => some (.nothing, s.clone)
  | .releaseFirst => some (.nothing, s.releaseFirst)
  | .releaseCopy => some (.nothing, s.releaseCopy)

/-- The answers to commands. -/
def answers? : Session → List Command → Option (List Answer)
  | _, [] => some []
  | s, command :: rest => do
    let (answer, s) ← s.run? command
    return answer :: (← answers? s rest)

end Session
end FanOut

/-! ## Fan-in -/

namespace FanIn

/-- A command to a fan-in. -/
inductive Command where
  | source (name : String) (capacity : Nat)
  | send (name : String) (value : Int)
  | endSource (name : String)
  | isFinished (name : String)
  | sender
  | direct (value : Int)
  | releaseSender
  | release
  | receive
  | closeOutput
  | abandonOutput
  deriving DecidableEq, Repr

/-- The answer to a command. -/
inductive Answer where
  | nothing
  | flag (b : Bool)
  | received (r : Receipt Int)
  /-- The value was taken. -/
  | taken
  /-- There was no room. -/
  | full
  /-- Values are refused. -/
  | refused
  /-- There is no sender. -/
  | noSender
  /-- There is no receiver. -/
  | noReceiver
  deriving DecidableEq, Repr

/-- The answer to an offer. -/
def Answer.ofOffer {α : Type} : Queue.Offer α → Answer
  | .taken _ => taken
  | .full => full
  | .refused => refused

/-- A fan-in whose sources have names. -/
structure Session where
  fan : FanIn Int
  /-- The sources by name. -/
  names : Table Nat := []
  /-- The sources that have a sender, by name. -/
  senders : Table Nat := []
  /-- The receiver of the output is there. -/
  receiver : Bool := true

namespace Session

/-- The session after the fan-in changed and has settled. -/
def settled (s : Session) (fan : FanIn Int) : Session :=
  { s with fan := fan.settle }

/-- Adds a source.  The sender of an older source of the name is gone then. -/
def source? (s : Session) (name : String) (capacity : Nat) : Option (Answer × Session) := do
  let (source, fan) ← s.fan.addSource? capacity
  let fan := match s.senders.get? name with
    | some older => fan.endSource older
    | none => fan
  return (.nothing, { s with
    fan := fan.settle, names := s.names.insert name source
    senders := s.senders.insert name source })

/-- Runs a command.  There is no answer where there can be no queue of the capacity. -/
def run? (s : Session) : Command → Option (Answer × Session)
  | .source name capacity => s.source? name capacity
  | .send name value =>
    match s.senders.get? name with
    | some source =>
      let (offer, fan) := s.fan.offerSource source value
      some (.ofOffer offer, s.settled fan)
    | none => some (.noSender, s)
  | .endSource name =>
    match s.senders.get? name with
    | some source =>
      some (.flag true, { s.settled (s.fan.endSource source) with
        senders := s.senders.erase name })
    | none => some (.flag false, s)
  | .isFinished name =>
    some (.flag ((s.names.get? name).any s.fan.isFinished), s)
  | .sender =>
    some (.nothing, if s.fan.handle then { s with fan := { s.fan with senders := 1 } } else s)
  | .direct value =>
    if s.fan.senders = 0 then some (.noSender, s)
    else
      let (offer, fan) := s.fan.offerOutput value
      some (.ofOffer offer, s.settled fan)
  | .releaseSender => some (.nothing, s.settled { s.fan with senders := 0 })
  | .release => some (.nothing, s.settled { s.fan with handle := false })
  | .receive =>
    if s.receiver then
      let (receipt, fan) := s.fan.receive
      some (.received receipt, s.settled fan)
    else some (.noReceiver, s)
  | .closeOutput => some (.nothing, s.settled { s.fan with output := s.fan.output.close })
  | .abandonOutput =>
    some (.nothing, { s.settled { s.fan with output := s.fan.output.abandon } with
      receiver := false })

/-- The answers to commands. -/
def answers? : Session → List Command → Option (List Answer)
  | _, [] => some []
  | s, command :: rest => do
    let (answer, s) ← s.run? command
    return answer :: (← answers? s rest)

end Session
end FanIn
end ApiGraph
