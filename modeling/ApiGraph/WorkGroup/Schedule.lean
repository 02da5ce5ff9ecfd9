/-
# The schedule of a single thread

A single thread gives the tasks of a group their turns.  Tasks that can go on stand in
line.  A task that pauses in its turn stands aside: those who paused join the line when
nobody is left in it, and also after every `turnsBetween` turns, the last to pause before
the others.  A task that waits for the cancellation joins the line when the group is
cancelled.
-/

import ApiGraph.WorkGroup

namespace ApiGraph

/-- A group of tasks, and who goes on when.  Tasks go by their numbers. -/
structure Schedule where
  group : WorkGroup
  /-- Those in line. -/
  ready : List Nat
  /-- Those that paused, the last one first. -/
  paused : List Nat := []
  /-- Those that wait for the cancellation. -/
  waiting : List Nat := []
  /-- How many turns there are before those that paused join the line. -/
  turns : Nat

namespace Schedule

/-- How many turns are given before tasks that paused join a line that is not empty. -/
def turnsBetween : Nat := 61

/-- The schedule of a group whose tasks all stand in line. -/
def ofGroup (group : WorkGroup) : Schedule :=
  { group, ready := List.range group.size, turns := turnsBetween }

/-- Where a task goes after its turn. -/
def dismiss (s : Schedule) (i : Nat) (paused : Bool) : Schedule :=
  if paused then { s with paused := i :: s.paused }
  else if (s.group.tasks[i]?).any Task.isOver then s
  else { s with waiting := s.waiting ++ [i] }

/-- Those that wait join the line once the group is cancelled. -/
def wake (s : Schedule) : Schedule :=
  if s.group.cancelled then { s with ready := s.ready ++ s.waiting, waiting := [] } else s

/-- Gives a task its turn. -/
def giveTurn (s : Schedule) (i : Nat) : Schedule :=
  let (group, paused) := s.group.turn i
  { s with group }.wake.dismiss i paused

/-- Those that paused join the line. -/
def letIn (s : Schedule) : Schedule :=
  { s with ready := s.ready ++ s.paused, paused := [], turns := turnsBetween }

/-- What the thread does next, if any task can go on. -/
def next? (s : Schedule) : Option Schedule :=
  match s.turns, s.ready with
  | turns + 1, i :: ready => some ({ s with turns, ready }.giveTurn i)
  | _, [] => if s.paused.isEmpty then none else some s.letIn
  | 0, _ :: _ => some s.letIn

/-- Goes on for at most so many steps, until no task can go on. -/
def runWithin : Nat → Schedule → Schedule
  | 0, s => s
  | limit + 1, s =>
    match s.next? with
    | none => s
    | some s => runWithin limit s

end Schedule

/-- Runs the tasks of a group until all are over or wait.  In its turn a task goes through
an action or ends, or it begins to wait, which it does but once; and tasks join the line
at most once for each turn and once more. -/
def WorkGroup.run (g : WorkGroup) : WorkGroup :=
  ((Schedule.ofGroup g).runWithin (4 * g.actionsLeft + 2)).group

end ApiGraph
