/-
# The traffic of a fan-in

Everything that may happen around a fan-in, in any order: sources are added, filled and ended,
forwarders go a step further, values are sent directly, handles and senders come and go, and the
receiver of the output takes values or is dropped.  A source that is filled before it is added is
one whose forwarder takes its first step later.

Whom a full output lets in first is left open.  Those that wait stand in a line, but nothing makes
the tasks that were let in go on in the order of the line, and a direct send may stand in it too.
So the line may change its order at any time (`Event.overtake`), and a direct send takes room
whoever waits.

The inflow keeps a log of what went through the queues.  Nothing that happens depends on the log;
`Moves` says of each event what it does and what it writes into the log.
-/

import ApiGraph.Delivery.FanIn
import ApiGraph.Proofs.Correspondence
import Mathlib.Data.List.Count

namespace ApiGraph

/-- A queue that takes a value is open, and has it behind the others. -/
theorem Queue.of_offer_eq_taken {α : Type} {q q' : Queue α} {value : α}
    (h : q.offer value = .taken q') :
    q.closed = false ∧ q' = { q with items := q.items ++ [value] } := by
  rw [offer] at h
  split at h
  case isTrue => cases h
  case isFalse isOpen =>
    split at h <;> cases h
    exact ⟨Bool.not_eq_true _ ▸ isOpen, rfl⟩

namespace FanIn

variable {α : Type}

/-- What is noted of a run. -/
inductive Entry (α : Type) where
  /-- A source took a value. -/
  | sent (source : Nat) (value : α)
  /-- A value was put into the output, by the forwarder of a source or directly. -/
  | put (origin : Option Nat) (value : α)
  /-- The receiver of the output took a value. -/
  | received (value : α)
  deriving DecidableEq, Repr

/-- A fan-in and all that goes on around it. -/
structure Inflow (α : Type) where
  fan : FanIn α
  /-- The receiver of the output has not been dropped. -/
  receiver : Bool := true
  /-- What was noted, the oldest first. -/
  log : List (Entry α) := []
  deriving DecidableEq, Repr

/-- What may happen. -/
inductive Event (α : Type) where
  /-- A source is added through the handle. -/
  | addSource (capacity : Nat)
  /-- A sender of a source offers a value. -/
  | send (source : Nat) (value : α)
  /-- The last sender of a source is dropped. -/
  | endSource (source : Nat)
  /-- A forwarder goes on by a step. -/
  | forward (source : Nat)
  /-- Those that wait for room stand in another order. -/
  | overtake (line : List Nat)
  /-- One more direct sender. -/
  | clone
  /-- A direct sender is dropped. -/
  | dropSender
  /-- A direct sender offers a value. -/
  | direct (value : α)
  /-- The handle is dropped. -/
  | release
  | receive
  /-- The receiver of the output is dropped. -/
  | drop
  deriving DecidableEq, Repr

/-- There is a sender of the source. -/
def hasSourceSender (f : FanIn α) (i : Nat) : Bool :=
  (f.forwarders[i]?).any (!·.ended)

namespace Inflow

/-- Nothing has happened yet. -/
def ofCapacity (capacity : Nat) : Inflow α :=
  { fan := { output := { capacity } } }

/-- A forwarder has gone on by a step; what is new in the output it has put there. -/
def forwarded (t : Inflow α) (i : Nat) (fan : FanIn α) : Inflow α :=
  { t with
    fan
    log := t.log ++ (fan.output.items.drop t.fan.output.items.length).map (.put (some i)) }

/-- What an event makes of it.  An event that cannot happen leaves everything as it is: without
the handle no source is added, without a sender nothing is sent, a queue that is full or closed
takes nothing, and without the receiver nothing is received. -/
def step (t : Inflow α) : Event α → Inflow α
  | .addSource capacity =>
    if t.fan.handle then (t.fan.addSource? capacity).elim t fun (_, fan) => { t with fan } else t
  | .send i value =>
    if t.fan.hasSourceSender i then
      match t.fan.offerSource i value with
      | (.taken _, fan) => { t with fan, log := t.log ++ [.sent i value] }
      | _ => t
    else t
  | .endSource i => { t with fan := t.fan.endSource i }
  | .forward i => (t.fan.forward? i).elim t (t.forwarded i)
  | .overtake line =>
    if line.isPerm t.fan.waiting then { t with fan := { t.fan with waiting := line } } else t
  | .clone =>
    if t.fan.handle || t.fan.senders != 0 then
      { t with fan := { t.fan with senders := t.fan.senders + 1 } }
    else t
  | .dropSender => { t with fan := { t.fan with senders := t.fan.senders - 1 } }
  | .direct value =>
    if t.fan.senders = 0 then t
    else
      match t.fan.output.offer value with
      | .taken output => { t with fan := { t.fan with output }, log := t.log ++ [.put none value] }
      | _ => t
  | .release => { t with fan := { t.fan with handle := false } }
  | .receive =>
    if t.receiver then
      match t.fan.receive with
      | (.value x, fan) => { t with fan, log := t.log ++ [.received x] }
      | (_, fan) => { t with fan }
    else t
  | .drop =>
    if t.receiver then
      { t with fan := { t.fan with output := t.fan.output.abandon }, receiver := false }
    else t

/-- What a sequence of events makes of it. -/
def run (t : Inflow α) (events : List (Event α)) : Inflow α :=
  events.foldl step t

/-! ## What one event can do -/

/-- What one event can make of the inflow. -/
inductive Moves (t : Inflow α) : Inflow α → Prop where
  | idle : Moves t t
  | counted (handle : Bool) (senders : Nat) (waiting : List Nat) :
      Moves t { t with fan := { t.fan with handle, senders, waiting } }
  | added (source : Queue α) (fresh : source.items = []) :
      Moves t { t with
        fan := { t.fan with forwarders := t.fan.forwarders ++ [{ source }] } }
  | sent (i : Nat) (w : Forwarder α) (value : α) (lookup : t.fan.forwarders[i]? = some w)
      (lives : w.ended = false) :
      Moves t { t with
        fan := t.fan.setForwarder i
          { w with source := { w.source with items := w.source.items ++ [value] } }
        log := t.log ++ [.sent i value] }
  | ended (i : Nat) (w : Forwarder α) (lookup : t.fan.forwarders[i]? = some w) :
      Moves t { t with fan := t.fan.setForwarder i { w with ended := true } }
  | taken (i : Nat) (w : Forwarder α) (value : α) (rest : List α)
      (lookup : t.fan.forwarders[i]? = some w) (goesOn : w.finished = false)
      (free : w.hand = none) (items : w.source.items = value :: rest) :
      Moves t { t with
        fan := t.fan.setForwarder i
          { w with hand := some value, source := { w.source with items := rest } } }
  | finished (i : Nat) (w : Forwarder α) (lookup : t.fan.forwarders[i]? = some w)
      (reason : t.fan.output.closed = true ∨
        w.ended = true ∧ w.hand = none ∧ w.source.items = []) :
      Moves t { t with fan := t.fan.finish i w }
  | put (i : Nat) (w : Forwarder α) (value : α) (waiting : List Nat)
      (lookup : t.fan.forwarders[i]? = some w) (goesOn : w.finished = false)
      (hand : w.hand = some value) (isOpen : t.fan.output.closed = false) :
      Moves t { t with
        fan := { t.fan.setForwarder i { w with hand := none } with
          output := { t.fan.output with items := t.fan.output.items ++ [value] }
          waiting }
        log := t.log ++ [.put (some i) value] }
  | direct (value : α) (isOpen : t.fan.output.closed = false) :
      Moves t { t with
        fan := { t.fan with
          output := { t.fan.output with items := t.fan.output.items ++ [value] } }
        log := t.log ++ [.put none value] }
  | received (x : α) (rest : List α) (items : t.fan.output.items = x :: rest) :
      Moves t { t with
        fan := { t.fan with output := { t.fan.output with items := rest } }
        log := t.log ++ [.received x] }
  | dropped :
      Moves t { t with fan := { t.fan with output := t.fan.output.abandon }, receiver := false }

variable {t : Inflow α}

/-- Adding a source is a move. -/
theorem moves_addSource (capacity : Nat) : t.Moves (t.step (.addSource capacity)) := by
  simp only [step]
  split
  case isFalse => exact .idle
  case isTrue =>
    simp only [addSource?, Queue.ofCapacity?]
    split
    · exact .added _ rfl
    · exact .idle

/-- Sending to a source is a move. -/
theorem moves_send (i : Nat) (value : α) : t.Moves (t.step (.send i value)) := by
  simp only [step]
  split
  case isFalse => exact .idle
  case isTrue sender =>
    obtain ⟨w, lookup, lives⟩ := (Option.any_eq_true _ _).1 sender
    simp only [offerSource, lookup]
    cases offer : w.source.offer value with
    | taken source =>
      obtain ⟨-, rfl⟩ := Queue.of_offer_eq_taken offer
      exact .sent i w value lookup (by simpa using lives)
    | full | refused => exact .idle

/-- Ending a source is a move. -/
theorem moves_endSource (i : Nat) : t.Moves (t.step (.endSource i)) := by
  simp only [step, endSource, List.modify_eq_set_getElem?]
  cases lookup : t.fan.forwarders[i]? with
  | none => exact .idle
  | some w => exact .ended i w lookup

/-- A step of a forwarder that leaves the output as it is. -/
theorem Moves.forwarded {i : Nat} {fan : FanIn α} (same : fan.output = t.fan.output)
    (moves : t.Moves { t with fan }) : t.Moves (t.forwarded i fan) := by
  simpa [Inflow.forwarded, same] using moves

/-- What a step of a forwarder is: it takes a value, it puts the one in hand, it begins to wait, or
it ends, because its source is drained or because the output takes no more. -/
theorem moves_forward (i : Nat) : t.Moves (t.step (.forward i)) := by
  simp only [step]
  cases h : t.fan.forward? i with
  | none => exact .idle
  | some fan =>
    obtain ⟨w, lookup, h⟩ := Option.bind_eq_some_iff.1 h
    rw [Option.elim_some]
    split at h
    case isTrue => cases h
    case isFalse goesOn =>
      rw [Bool.not_eq_true] at goesOn
      cases hand : w.hand with
      | none =>
        simp only [hand, Queue.take?] at h
        cases items : w.source.items with
        | cons value rest =>
          simp only [items, Option.some.injEq] at h
          subst h
          exact .forwarded rfl (.taken i w value rest lookup goesOn hand items)
        | nil =>
          simp only [items, Option.ite_none_right_eq_some, Option.some.injEq] at h
          obtain ⟨ended, rfl⟩ := h
          exact .forwarded rfl (.finished i w lookup (.inr ⟨ended, hand, items⟩))
      | some value =>
        simp only [hand] at h
        split at h
        case isTrue closed =>
          cases h
          exact .forwarded rfl (.finished i w lookup (.inl closed))
        case isFalse isOpen =>
          rw [Bool.not_eq_true] at isOpen
          split at h
          case isTrue =>
            have moves := Moves.put i w value (t.fan.waiting.erase i) lookup goesOn hand isOpen
            cases h
            simpa [Inflow.forwarded] using moves
          case isFalse =>
            split at h <;> cases h
            exact .forwarded rfl (.counted _ _ _)

/-- Receiving is a move. -/
theorem moves_receive : t.Moves (t.step .receive) := by
  simp only [step]
  split
  case isFalse => exact .idle
  case isTrue =>
    cases items : t.fan.output.items with
    | nil =>
      -- Whether anything is still to come makes no difference to what is there.
      have stays : t.fan.receive =
          (if t.fan.output.closed || !t.fan.hasSender then .closed else .empty, t.fan) := by
        simp only [receive, Queue.receive, Queue.take?, items]
      rw [stays]
      cases t.fan.output.closed || !t.fan.hasSender <;> exact .idle
    | cons x rest =>
      have moves := Moves.received x rest items
      simpa [receive, Queue.receive, Queue.take?, items] using moves

/-- **Every event is a move.** -/
theorem moves_step (t : Inflow α) (event : Event α) : t.Moves (t.step event) := by
  cases event with
  | addSource capacity => exact moves_addSource capacity
  | send i value => exact moves_send i value
  | endSource i => exact moves_endSource i
  | forward i => exact moves_forward i
  | receive => exact moves_receive
  | overtake line =>
    simp only [step]
    split
    · exact .counted _ _ _
    · exact .idle
  | clone =>
    simp only [step]
    split
    · exact .counted _ _ _
    · exact .idle
  | dropSender => exact .counted _ _ _
  | release => exact .counted _ _ _
  | direct value =>
    simp only [step]
    split
    case isTrue => exact .idle
    case isFalse =>
      cases offer : t.fan.output.offer value with
      | taken output =>
        obtain ⟨isOpen, rfl⟩ := Queue.of_offer_eq_taken offer
        exact .direct value isOpen
      | full | refused => exact .idle
  | drop =>
    simp only [step]
    split
    · exact .dropped
    · exact .idle

/-- **What every move keeps holds of a whole run.** -/
theorem run_induction {P : Inflow α → Prop} (moves : ∀ t t', Moves t t' → P t → P t')
    (events : List (Event α)) : ∀ t, P t → P (t.run events) := by
  induction events with
  | nil => exact fun t h => h
  | cons event events ih => exact fun t h => ih _ (moves t _ (moves_step t event) h)

/-! ## A fan-in while nothing else happens -/

/-- A fan-in begins as an inflow does. -/
theorem fan_ofCapacity {capacity : Nat} {f : FanIn α} (h : ofCapacity? capacity = some f) :
    (ofCapacity capacity).fan = f := by
  obtain ⟨output, created, h⟩ := Option.bind_eq_some_iff.1 h
  cases (Option.ite_none_right_eq_some.1 created).2
  exact Option.some.inj h

/-- Settling is a run of events, by induction on the steps that it may take. -/
theorem exists_run_of_settleWithin : ∀ (steps : Nat) (t : Inflow α), ∃ events : List (Event α),
    (t.run events).fan = t.fan.settleWithin steps
  | 0, _ => ⟨[], rfl⟩
  | steps + 1, t => by
    rw [settleWithin]
    cases next : t.fan.forwardAny? with
    | none => exact ⟨[], rfl⟩
    | some fan =>
      obtain ⟨i, -, step⟩ := List.exists_of_findSome?_eq_some next
      obtain ⟨events, course⟩ := exists_run_of_settleWithin steps (t.forwarded i fan)
      refine ⟨.forward i :: events, ?_⟩
      have cons : t.run (.forward i :: events) = (t.forwarded i fan).run events := by
        rw [run, List.foldl_cons, Inflow.step, step, Option.elim_some]
        rfl
      rw [cons]
      exact course

/-- **Forwarders that go on until none can** are a course of the inflow. -/
theorem exists_run_of_settle (t : Inflow α) : ∃ events : List (Event α),
    (t.run events).fan = t.fan.settle :=
  exists_run_of_settleWithin _ t

end Inflow
end FanIn
end ApiGraph
