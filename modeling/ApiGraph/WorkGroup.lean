/-
# Work groups

Named tasks that fail independently of each other.  A task that fails or breaks
down never takes the group with it: its failure is kept, and the group reports all
failures when every task is over.  The group has one cancellation flag, which tasks
may look at and wait for, and which a failure raises if the group is told so.

A task is given by the actions that it goes through.  `step?` is one action of one
task, so that tasks may be interleaved in any way; `turn` is what a task does before
another one goes on.

A task may break down when it is opened (`give`), at its work, or over the report of its
own failure (`Ending`).  Only its work is guarded.
-/

namespace ApiGraph

/-- What a task does next. -/
inductive Action where
  /-- Notes a text. -/
  | note (text : String)
  /-- Notes whether the group is cancelled. -/
  | check
  /-- Lets the other tasks go on. -/
  | pause
  /-- Waits until the group is cancelled. -/
  | await
  /-- Cancels the group. -/
  | cancel
  /-- Ends well if the group is cancelled. -/
  | stopIfCancelled
  /-- Fails for a reason. -/
  | fail (reason : String)
  /-- Breaks down, with last words or without. -/
  | breakDown (words : Option String)
  /-- Fails for a reason that cannot even be reported. -/
  | failUnreported
  deriving DecidableEq, Repr

/-- Why a task did not end well. -/
inductive TaskFault where
  /-- It failed for a reason. -/
  | failed (reason : String)
  /-- It broke down. -/
  | brokeDown (words : Option String)
  /-- It was lost before it could say how it ended. -/
  | lost
  deriving DecidableEq, Repr

/-- How the work of a task ends. -/
inductive Ending where
  /-- Well. -/
  | finished
  /-- In a failure, and its report gives a reason or breaks down, with last words or
  without. -/
  | failed (report : Except (Option String) String)
  /-- In a breakdown, with last words or without. -/
  | brokeDown (words : Option String)
  deriving Repr

/-- What becomes of a task whose work ended so.  The report of a failure is not guarded:
if it breaks down, the task is lost. -/
def Ending.outcome : Ending → Except TaskFault Unit
  | finished => .ok ()
  | failed (.ok reason) => .error (.failed reason)
  | failed (.error _) => .error .lost
  | brokeDown words => .error (.brokeDown words)

/-- The group notices a fault at once, unless the task was lost: that is noticed only
when the group waits for it. -/
def TaskFault.isNoticed : TaskFault → Bool
  | failed _ => true
  | brokeDown _ => true
  | lost => false

/-- What a task noted. -/
inductive Note where
  | text (s : String)
  | cancelled (b : Bool)
  deriving DecidableEq, Repr

/-- A task. -/
structure Task where
  name : String
  /-- What is still to be done. -/
  actions : List Action
  notes : List Note := []
  /-- How the task ended, once it is over. -/
  outcome : Option (Except TaskFault Unit) := none

/-- The task is over. -/
def Task.isOver (t : Task) : Bool :=
  t.outcome.isSome

/-- A failure of a group. -/
structure TaskFailure where
  task : String
  fault : TaskFault
  deriving DecidableEq, Repr

/-- A group of tasks. -/
structure WorkGroup where
  /-- A failure cancels the group. -/
  cancelOnFailure : Bool := true
  cancelled : Bool := false
  /-- The tasks in the order in which they came. -/
  tasks : List Task := []

namespace WorkGroup

/-- Adds a task. -/
def spawn (g : WorkGroup) (name : String) (actions : List Action) : WorkGroup :=
  { g with tasks := g.tasks ++ [{ name, actions }] }

/-- Gives the group a task that has still to be opened, which gives its actions.  It is
opened before the group knows of it: a breakdown strikes the one who gives the task. -/
def give (g : WorkGroup) (name : String) (opening : Except (Option String) (List Action)) :
    Except (Option String) Unit × WorkGroup :=
  match opening with
  | .ok actions => (.ok (), g.spawn name actions)
  | .error words => (.error words, g)

/-- Cancels the group. -/
def cancel (g : WorkGroup) : WorkGroup :=
  { g with cancelled := true }

/-- How many tasks there are. -/
def size (g : WorkGroup) : Nat :=
  g.tasks.length

/-- Changes the task of a number. -/
def setTask (g : WorkGroup) (i : Nat) (t : Task) : WorkGroup :=
  { g with tasks := g.tasks.set i t }

/-- The group after a task ended so. -/
def conclude (g : WorkGroup) (i : Nat) (t : Task) (outcome : Except TaskFault Unit) : WorkGroup :=
  let g := g.setTask i { t with actions := [], outcome := some outcome }
  match outcome with
  | .ok _ => g
  | .error fault => if g.cancelOnFailure && fault.isNoticed then g.cancel else g

/-- The group after the work of a task ended so. -/
def settle (g : WorkGroup) (i : Nat) (t : Task) (ending : Ending) : WorkGroup :=
  g.conclude i t ending.outcome

/-- The next action of a task, unless it is over or waits.  A task without further
actions ends well. -/
def step? (g : WorkGroup) (i : Nat) : Option WorkGroup := do
  let t ← g.tasks[i]?
  if t.isOver then none
  else
    match t.actions with
    | [] => some (g.settle i t .finished)
    | action :: rest =>
      let t := { t with actions := rest }
      match action with
      | .note text => some (g.setTask i { t with notes := t.notes ++ [.text text] })
      | .check => some (g.setTask i { t with notes := t.notes ++ [.cancelled g.cancelled] })
      | .pause => some (g.setTask i t)
      | .await => if g.cancelled then some (g.setTask i t) else none
      | .cancel => some (g.setTask i t).cancel
      | .stopIfCancelled =>
        some (if g.cancelled then g.settle i t .finished else g.setTask i t)
      | .fail reason => some (g.settle i t (.failed (.ok reason)))
      | .breakDown words => some (g.settle i t (.brokeDown words))
      | .failUnreported => some (g.settle i t (.failed (.error none)))

/-- The next action of a task is a pause. -/
def pausesNext (g : WorkGroup) (i : Nat) : Bool :=
  match g.tasks[i]? with
  | some t => t.actions.head? == some .pause
  | none => false

/-- Lets a task go on until it pauses, waits or is over, for at most so many actions;
also says whether it paused. -/
def turnWithin : Nat → WorkGroup → Nat → WorkGroup × Bool
  | 0, g, _ => (g, false)
  | limit + 1, g, i =>
    match g.step? i with
    | none => (g, false)
    | some next => if g.pausesNext i then (next, true) else turnWithin limit next i

/-- Lets a task go on until it pauses, waits or is over; also says whether it paused. -/
def turn (g : WorkGroup) (i : Nat) : WorkGroup × Bool :=
  match g.tasks[i]? with
  | some t => g.turnWithin (t.actions.length + 1) i
  | none => (g, false)

/-- How many actions are left, counting the end of each task as one. -/
def actionsLeft (g : WorkGroup) : Nat :=
  g.tasks.foldr (fun t n => t.actions.length + 1 + n) 0

/-- Every task is over. -/
def isOver (g : WorkGroup) : Bool :=
  g.tasks.all Task.isOver

/-- The failures, in the order of the tasks. -/
def failures (g : WorkGroup) : List TaskFailure :=
  g.tasks.filterMap fun t =>
    match t.outcome with
    | some (.error fault) => some ⟨t.name, fault⟩
    | _ => none

/-- What waiting for the group gives, once every task is over. -/
def result? (g : WorkGroup) : Option (Except (List TaskFailure) Unit) :=
  if g.isOver then
    match g.failures with
    | [] => some (.ok ())
    | failures => some (.error failures)
  else none

end WorkGroup

/-- The task broke down. -/
def TaskFailure.isBreakdown (f : TaskFailure) : Bool :=
  match f.fault with
  | .brokeDown _ => true
  | _ => false

/-- The wording of a failure. -/
def TaskFailure.message (f : TaskFailure) : String :=
  match f.fault with
  | .failed reason => "task " ++ f.task ++ " failed: " ++ reason
  | .brokeDown words =>
    "task " ++ f.task ++ " panicked: " ++ words.getD "unknown panic payload"
  | .lost => "task " ++ f.task ++ " was aborted before completing"

/-- The wording of all failures of a group. -/
def TaskFailure.summary (failures : List TaskFailure) : String :=
  toString failures.length ++ " task(s) failed: " ++
    ", ".intercalate (failures.map (·.task))

end ApiGraph
