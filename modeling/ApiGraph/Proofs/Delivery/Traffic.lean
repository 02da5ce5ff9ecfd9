/-
# The traffic of a fan-out

Everything that may happen around a fan-out, in any order: subscriptions are made, tasks begin
sends, a send goes a step further or is given up, receivers take values and are dropped.  Any
number of sends may be on their way, and between two steps of one of them anything may happen.

The traffic keeps a log of what went through the queues.  Nothing that happens depends on the log:
it only says what to think of a run, and `Moves` says of each event what it does to the queues and
what it writes into the log.
-/

import ApiGraph.Delivery.FanOut

namespace ApiGraph
namespace FanOut

variable {α : Type}

/-- How it stands with a send. -/
inductive Fate where
  /-- Its task waits for it. -/
  | going
  /-- It is over, and told its task how many queues have the value. -/
  | completed (delivered : Nat)
  /-- Its task dropped it. -/
  | givenUp
  deriving DecidableEq, Repr

/-- A send of a task. -/
structure Flight (α : Type) where
  task : Nat
  /-- The subscribers when the send began. -/
  snapshot : List Nat
  sending : Sending α
  fate : Fate := .going
  deriving DecidableEq, Repr

/-- What is noted of a run. -/
inductive Entry (α : Type) where
  /-- A send put a value into the queue of a subscription. -/
  | put (send subscription : Nat) (value : α)
  /-- A send passed over a subscription. -/
  | refused (send subscription : Nat)
  /-- A receiver took a value. -/
  | received (subscription : Nat) (value : α)
  /-- A receiver was dropped. -/
  | dropped (subscription : Nat)
  deriving DecidableEq, Repr

/-- A fan-out and all that goes on around it. -/
structure Traffic (α : Type) where
  fan : FanOut α
  /-- All sends that ever began, by number. -/
  flights : List (Flight α) := []
  /-- What was noted, the oldest first. -/
  log : List (Entry α) := []
  deriving DecidableEq, Repr

/-- What may happen. -/
inductive Event (α : Type) where
  | subscribe
  | clone
  | release
  /-- A task begins a send. -/
  | start (task : Nat) (value : α)
  /-- A send goes on by a step. -/
  | advance (send : Nat)
  /-- A send is dropped on its way. -/
  | giveUp (send : Nat)
  | receive (subscription : Nat)
  /-- The receiver of a subscription is dropped. -/
  | drop (subscription : Nat)
  deriving DecidableEq, Repr

/-- How many values wait in the queue of a subscription. -/
def backlog (f : FanOut α) (q : Nat) : Nat :=
  (f.queues[q]?).elim 0 (·.items.length)

/-- What is noted of a send that has been to a subscription: it put its value there if the queue
grew. -/
def entryOf (before after : FanOut α) (n q : Nat) (value : α) : Entry α :=
  if before.backlog q < after.backlog q then .put n q value else .refused n q

namespace Traffic

/-- Nothing has happened yet. -/
def ofCapacity (capacity : Nat) : Traffic α :=
  { fan := { capacity } }

/-- The next step of a send that is on its way. -/
def goOn (t : Traffic α) (n : Nat) (f : Flight α) : Traffic α :=
  match t.fan.advance f.sending with
  | .moved fan sending =>
    { fan
      flights := t.flights.set n { f with sending }
      log := t.log ++ (f.sending.pending.take 1).map fun q =>
        entryOf t.fan fan n q f.sending.value }
  | .waiting => t
  | .finished fan delivered =>
    { t with fan, flights := t.flights.set n { f with fate := .completed delivered } }

/-- The send of a number that is on its way. -/
def going? (t : Traffic α) (n : Nat) : Option (Flight α) :=
  (t.flights[n]?).filter (·.fate == .going)

/-- A task waits for one of its sends. -/
def isSending (t : Traffic α) (task : Nat) : Bool :=
  t.flights.any fun f => f.task == task && f.fate == .going

/-- What an event makes of it.  An event that cannot happen leaves everything as it is: a task
begins no send while it waits for another one, a send that is over does not go on, no receiver is
dropped twice, and where there can be no queue there is no subscription. -/
def step (t : Traffic α) : Event α → Traffic α
  | .subscribe => (t.fan.subscribe?).elim t fun (_, fan) => { t with fan }
  | .clone => { t with fan := t.fan.clone }
  | .release => { t with fan := t.fan.release }
  | .start task value =>
    if t.isSending task then t
    else
      { t with
        flights := t.flights ++
          [{ task, snapshot := t.fan.subscribers, sending := t.fan.start value }] }
  | .advance n => (t.going? n).elim t (t.goOn n)
  | .giveUp n =>
    (t.going? n).elim t fun f => { t with flights := t.flights.set n { f with fate := .givenUp } }
  | .receive q =>
    match t.fan.receive q with
    | (.value x, fan) => { t with fan, log := t.log ++ [.received q x] }
    | (_, fan) => { t with fan }
  | .drop q =>
    if t.fan.isOpen q then { t with fan := t.fan.abandon q, log := t.log ++ [.dropped q] } else t

/-- What a sequence of events makes of it. -/
def run (t : Traffic α) (events : List (Event α)) : Traffic α :=
  events.foldl step t

/-! ## What one event can do -/

/-- What one event can make of the traffic. -/
inductive Moves (t : Traffic α) : Traffic α → Prop where
  | idle : Moves t t
  | counted (handles : Nat) : Moves t { t with fan := { t.fan with handles } }
  | subscribed (queue : Queue α) (fresh : queue.items = []) (isOpen : queue.closed = false) :
      Moves t { t with
        fan := { t.fan with
          queues := t.fan.queues.push queue
          subscribers := t.fan.subscribers ++ [t.fan.queues.size] } }
  | started (task : Nat) (value : α)
      (free : ∀ f ∈ t.flights, f.task = task → f.fate ≠ .going) :
      Moves t { t with
        flights := t.flights ++
          [{ task, snapshot := t.fan.subscribers, sending := t.fan.start value }] }
  | put (n : Nat) (f : Flight α) (q : Nat) (rest : List Nat) (queue : Queue α)
      (flight : t.flights[n]? = some f) (going : f.fate = .going)
      (pending : f.sending.pending = q :: rest) (lookup : t.fan.queues[q]? = some queue)
      (isOpen : queue.closed = false) :
      Moves t
        { fan := { t.fan with
            queues := t.fan.queues.setIfInBounds q
              { queue with items := queue.items ++ [f.sending.value] } }
          flights := t.flights.set n { f with
            sending := { f.sending with
              pending := rest, delivered := f.sending.delivered + 1 } }
          log := t.log ++ [.put n q f.sending.value] }
  | refused (n : Nat) (f : Flight α) (q : Nat) (rest : List Nat)
      (flight : t.flights[n]? = some f) (going : f.fate = .going)
      (pending : f.sending.pending = q :: rest) (isClosed : t.fan.isOpen q = false) :
      Moves t { t with
        flights := t.flights.set n { f with
          sending := { f.sending with pending := rest, refused := true } }
        log := t.log ++ [.refused n q] }
  | finished (n : Nat) (f : Flight α) (flight : t.flights[n]? = some f)
      (going : f.fate = .going) (pending : f.sending.pending = []) :
      Moves t { t with
        fan := if f.sending.refused then t.fan.prune else t.fan
        flights := t.flights.set n { f with fate := .completed f.sending.delivered } }
  | givenUp (n : Nat) (f : Flight α) (flight : t.flights[n]? = some f)
      (going : f.fate = .going) :
      Moves t { t with flights := t.flights.set n { f with fate := .givenUp } }
  | received (q : Nat) (queue : Queue α) (x : α) (rest : List α)
      (lookup : t.fan.queues[q]? = some queue) (items : queue.items = x :: rest) :
      Moves t { t with
        fan := { t.fan with
          queues := t.fan.queues.setIfInBounds q { queue with items := rest } }
        log := t.log ++ [.received q x] }
  | dropped (q : Nat) (queue : Queue α) (lookup : t.fan.queues[q]? = some queue) :
      Moves t { t with
        fan := { t.fan with queues := t.fan.queues.setIfInBounds q queue.abandon }
        log := t.log ++ [.dropped q] }

variable {t : Traffic α}

/-- A send that goes on has its flight. -/
theorem going?_eq_some {n : Nat} {f : Flight α} (h : t.going? n = some f) :
    t.flights[n]? = some f ∧ f.fate = .going := by
  simpa [going?, Option.filter_eq_some_iff] using h

/-- The backlog of a subscription is what its queue holds. -/
theorem backlog_of_lookup {f : FanOut α} {q : Nat} {queue : Queue α}
    (lookup : f.queues[q]? = some queue) : f.backlog q = queue.items.length := by
  rw [backlog, lookup, Option.elim_some]

/-- A send that has been to a subscription either put its value into an open queue or was refused
because there is none. -/
theorem moves_goOn {n : Nat} {f : Flight α} (flight : t.flights[n]? = some f)
    (going : f.fate = .going) : t.Moves (t.goOn n f) := by
  obtain ⟨task, snapshot, ⟨value, pending, delivered, refused⟩, fate⟩ := f
  cases pending with
  | nil => exact .finished n _ flight going rfl
  | cons q rest =>
    cases lookup : t.fan.queues[q]? with
    | none =>
      have moves := Moves.refused n _ q rest flight going rfl (by simp [FanOut.isOpen, lookup])
      simpa [goOn, advance, lookup, entryOf] using moves
    | some queue =>
      cases closed : queue.closed with
      | true =>
        have moves := Moves.refused n _ q rest flight going rfl
          (by simp [FanOut.isOpen, lookup, closed])
        simpa [goOn, advance, lookup, Queue.offer, closed, entryOf] using moves
      | false =>
        by_cases room : queue.hasRoom
        case neg =>
          simpa [goOn, advance, lookup, Queue.offer, closed, room] using Moves.idle
        have moves := Moves.put n _ q rest queue flight going rfl lookup closed
        have inside : q < t.fan.queues.size := (Array.getElem?_eq_some_iff.1 lookup).1
        have offer : queue.offer value =
            .taken { queue with items := queue.items ++ [value] } := by
          simp [Queue.offer, closed, room]
        -- The queue is longer than before, so the log says that the value was put.
        have grown : t.fan.backlog q < ({ t.fan with
            queues := t.fan.queues.setIfInBounds q
              { queue with items := queue.items ++ [value] } } : FanOut α).backlog q := by
          rw [backlog_of_lookup lookup, backlog_of_lookup (Array.getElem?_setIfInBounds_self_of_lt
            inside), List.length_append]
          exact Nat.lt_succ_self _
        simpa only [goOn, advance, lookup, offer, entryOf, grown, List.take_succ_cons,
          List.take_zero, List.map_cons, List.map_nil, if_true] using moves

/-- Receiving is a move. -/
theorem moves_receive (q : Nat) : t.Moves (t.step (.receive q)) := by
  cases lookup : t.fan.queues[q]? with
  | none => simpa [step, FanOut.receive, lookup] using Moves.idle
  | some queue =>
    cases items : queue.items with
    | nil =>
      have same : t.fan.queues.setIfInBounds q queue = t.fan.queues := by
        obtain ⟨inside, rfl⟩ := Array.getElem?_eq_some_iff.1 lookup
        simp [Array.setIfInBounds, inside]
      -- Whether anything is still to come makes no difference to what is there.
      have stays : t.fan.receive q =
          (if queue.closed || !(t.fan.handles != 0 && t.fan.subscribers.contains q) then .closed
            else .empty, t.fan) := by
        simp only [FanOut.receive, lookup, Queue.receive, Queue.take?, items, same]
      rw [step, stays]
      cases queue.closed || !(t.fan.handles != 0 && t.fan.subscribers.contains q) <;> exact .idle
    | cons x rest =>
      have moves := Moves.received q queue x rest lookup items
      simpa [step, FanOut.receive, lookup, Queue.receive, Queue.take?, items] using moves

/-- Abandoning a subscription empties and closes its queue, and changes nothing else. -/
theorem abandon_of_lookup {f : FanOut α} {q : Nat} {queue : Queue α}
    (lookup : f.queues[q]? = some queue) :
    f.abandon q = { f with queues := f.queues.setIfInBounds q queue.abandon } := by
  rw [abandon, modifyQueue, FanOut.mk.injEq]
  refine ⟨rfl, Array.ext_getElem? fun p => ?_, rfl, rfl⟩
  rw [Array.getElem?_modify, Array.getElem?_setIfInBounds]
  split
  case isTrue here =>
    subst here
    rw [lookup, if_pos (Array.getElem?_eq_some_iff.1 lookup).1]
    rfl
  case isFalse => rfl

/-- **Every event is a move.** -/
theorem moves_step (t : Traffic α) (event : Event α) : t.Moves (t.step event) := by
  cases event with
  | subscribe =>
    simp only [step, subscribe?, Queue.ofCapacity?]
    split
    · exact .subscribed _ rfl rfl
    · exact .idle
  | clone => exact .counted _
  | release => exact .counted _
  | start task value =>
    simp only [step]
    split
    case isTrue => exact .idle
    case isFalse h =>
      refine .started task value fun f hf same going => h ?_
      simpa [isSending] using ⟨f, hf, same, going⟩
  | advance n =>
    simp only [step]
    cases h : t.going? n with
    | none => exact .idle
    | some f => exact moves_goOn (going?_eq_some h).1 (going?_eq_some h).2
  | giveUp n =>
    simp only [step]
    cases h : t.going? n with
    | none => exact .idle
    | some f => exact .givenUp n f (going?_eq_some h).1 (going?_eq_some h).2
  | receive q => exact moves_receive q
  | drop q =>
    simp only [step]
    split
    case isFalse => exact .idle
    case isTrue h =>
      obtain ⟨queue, lookup, -⟩ := (Option.any_eq_true _ _).1 h
      rw [abandon_of_lookup lookup]
      exact .dropped q queue lookup

/-- **What every move keeps holds of a whole run.** -/
theorem run_induction {P : Traffic α → Prop} (moves : ∀ t t', Moves t t' → P t → P t')
    (events : List (Event α)) : ∀ t, P t → P (t.run events) := by
  induction events with
  | nil => exact fun t h => h
  | cons event events ih => exact fun t h => ih _ (moves t _ (moves_step t event) h)

/-! ## A send while nothing else happens -/

/-- A send that goes on is taken one subscription further. -/
theorem step_advance {n : Nat} {f : Flight α} (flight : t.flights[n]? = some f)
    (going : f.fate = .going) : t.step (.advance n) = t.goOn n f := by
  simp [step, going?, flight, Option.filter, going]

/-- Running a send is one course of the traffic: that in which only the send goes on. -/
theorem exists_run_of_runSend (n : Nat) : ∀ (steps : Nat) (t : Traffic α) (f : Flight α),
    t.flights[n]? = some f → f.fate = .going → ∃ events : List (Event α),
      (t.run events).fan = (t.fan.runSend steps f.sending).2 ∧
      ∀ k, (t.fan.runSend steps f.sending).1 = some k →
        ((t.run events).flights[n]?).map Flight.fate = some (.completed k)
  | 0, t, f, _, _ => ⟨[], rfl, fun _ h => nomatch h⟩
  | steps + 1, t, f, flight, going => by
    have inside := (List.getElem?_eq_some_iff.1 flight).1
    have next := step_advance flight going
    rw [runSend]
    cases progress : t.fan.advance f.sending with
    | moved fan sending =>
      simp only [goOn, progress] at next
      obtain ⟨events, course⟩ := exists_run_of_runSend n steps (t.step (.advance n))
        { f with sending } (by rw [next]; exact List.getElem?_set_self inside) going
      have cons : t.run (.advance n :: events) = (t.step (.advance n)).run events := rfl
      refine ⟨.advance n :: events, ?_⟩
      rw [cons]
      simpa only [next] using course
    | waiting => exact ⟨[], rfl, fun _ h => nomatch h⟩
    | finished fan delivered =>
      simp only [goOn, progress] at next
      have single : t.run [.advance n] = t.step (.advance n) := rfl
      refine ⟨[.advance n], by rw [single, next], fun k h => ?_⟩
      cases h
      simp [single, next, inside]

/-- **A send while nothing else happens** is a course of the traffic, with the same count. -/
theorem exists_run_of_send (t : Traffic α) (task : Nat) (value : α)
    (free : t.isSending task = false) : ∃ events : List (Event α),
      (t.run (.start task value :: events)).fan = (t.fan.send value).2 ∧
      ∀ k, (t.fan.send value).1 = some k →
        ((t.run (.start task value :: events)).flights[t.flights.length]?).map Flight.fate =
          some (.completed k) := by
  have start : t.step (.start task value) = { t with
      flights := t.flights ++
        [{ task, snapshot := t.fan.subscribers, sending := t.fan.start value }] } := by
    simp [step, free]
  obtain ⟨events, course⟩ := exists_run_of_runSend t.flights.length
    (t.fan.subscribers.length + 1) (t.step (.start task value)) _
    (by rw [start]; exact List.getElem?_concat_length) rfl
  have cons : t.run (.start task value :: events) = (t.step (.start task value)).run events := rfl
  refine ⟨events, ?_⟩
  rw [cons]
  simpa only [start, send] using course

end Traffic
end FanOut
end ApiGraph
