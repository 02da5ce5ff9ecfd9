/-
# Histories of a work group

What happens to a group in the course of time, in any order: tasks come, go on and end, someone
cancels the group, and at some point it is handed over to someone who waits for it.  What a task
does is left to the task: it may end at any time and in any way.  Who waits asks one task after the
other, in the order in which they came, and goes on when the task is over (`Collecting.next?`).

A history lists what happened.  The group is cancelled exactly if the history says that someone
cancelled it, or that a task failed or broke down while the group is told to mind that.  What comes
of waiting can be read off the history as well: every task ended, and each fault stands there once,
in the order of the tasks (`Course.accounted`).

A task may also be lost, when it breaks down over the report of its own failure.  Nobody notices
that before the group is waited for, so it cancels nothing, but it is reported like the others.
-/

import ApiGraph.WorkGroup
import ApiGraph.Proofs.Correspondence

namespace ApiGraph
namespace WorkGroup

/-- Someone waits for a group. -/
structure Collecting where
  /-- How many tasks were asked. -/
  asked : Nat := 0
  /-- What was found on the way. -/
  found : List TaskFailure := []
  /-- What came of it in the end. -/
  result : Option (Except (List TaskFailure) Unit) := none

/-- A group in use. -/
structure Course where
  group : WorkGroup
  /-- Who waits for the group, once it was handed over. -/
  collecting : Option Collecting := none

/-- What may happen. -/
inductive Happening where
  /-- A task came. -/
  | spawned (name : String) (actions : List Action)
  /-- Someone cancelled the group. -/
  | cancelled
  /-- A task did something. -/
  | went (i : Nat) (actions : List Action) (notes : List Note)
  /-- A task ended. -/
  | ended (i : Nat) (outcome : Except TaskFault Unit)
  /-- The group was handed over to someone who waits for it. -/
  | awaited
  /-- Who waits asked the next task, or came to the end. -/
  | asked

/-- The task of a number, unless it is over. -/
def running? (g : WorkGroup) (i : Nat) : Option Task :=
  (g.tasks[i]?).filter (!·.isOver)

/-- The failure of a task. -/
def taskFailure? (t : Task) : Option TaskFailure :=
  match t.outcome with
  | some (.error fault) => some ⟨t.name, fault⟩
  | _ => none

/-- What comes of waiting, by the failures. -/
def resultOf (failures : List TaskFailure) : Except (List TaskFailure) Unit :=
  match failures with
  | [] => .ok ()
  | failures => .error failures

/-- Who waits asks the next task, unless it has still to end.  After the last one it is over. -/
def Collecting.next? (w : Collecting) (tasks : List Task) : Option Collecting :=
  if w.result.isSome then none
  else
    match tasks[w.asked]? with
    | none => some { w with result := some (resultOf w.found) }
    | some t =>
      if t.isOver then
        some { w with asked := w.asked + 1, found := w.found ++ (taskFailure? t).toList }
      else none

namespace Course

/-- A group without tasks. -/
def ofFlag (cancelOnFailure : Bool) : Course :=
  { group := { cancelOnFailure } }

/-- What comes of something that happens, if it can happen: a task that is over does nothing more,
and a group that was handed over gets no further tasks. -/
def happen? (c : Course) : Happening → Option Course
  | .spawned name actions =>
    if c.collecting.isSome then none else some { c with group := c.group.spawn name actions }
  | .cancelled => some { c with group := c.group.cancel }
  | .went i actions notes => do
    let t ← c.group.running? i
    return { c with group := c.group.setTask i { t with actions, notes } }
  | .ended i outcome => do
    let t ← c.group.running? i
    return { c with group := c.group.conclude i t outcome }
  | .awaited => if c.collecting.isSome then none else some { c with collecting := some {} }
  | .asked => do
    let w ← c.collecting
    let w ← w.next? c.group.tasks
    return { c with collecting := some w }

/-- What comes of a history, if it can happen. -/
def run? (c : Course) (history : List Happening) : Option Course :=
  history.foldlM happen? c

end Course

/-! ## Reading a history -/

/-- The name of a task that came. -/
def Happening.spawned? : Happening → Option String
  | spawned name _ => some name
  | _ => none

/-- The names of the tasks, in the order in which they came. -/
def names (history : List Happening) : List String :=
  history.filterMap Happening.spawned?

/-- A task ended in a fault. -/
def Faulted (history : List Happening) (i : Nat) (fault : TaskFault) : Prop :=
  .ended i (.error fault) ∈ history

/-- Every task that came ended. -/
def AllEnded (history : List Happening) : Prop :=
  ∀ i < (names history).length, ∃ outcome, .ended i outcome ∈ history

/-- The failures are those of the history, one for each task that ended in a fault, in the order of
the tasks, with the fault under the name of the task. -/
def Lists (history : List Happening) (failures : List TaskFailure) : Prop :=
  ∃ order : List Nat, order.Pairwise (· < ·) ∧
    (∀ i, i ∈ order ↔ ∃ fault, Faulted history i fault) ∧
    List.Forall₂ (fun i failure => (names history)[i]? = some failure.task ∧
      Faulted history i failure.fault) order failures

/-! ## What is true at every time -/

/-- Who waits has asked the first tasks, which are over, and knows their failures. -/
structure Collecting.Sound (w : Collecting) (tasks : List Task) : Prop where
  asked_le : w.asked ≤ tasks.length
  ended : ∀ i t, tasks[i]? = some t → i < w.asked → t.isOver = true
  found : w.found = (tasks.take w.asked).filterMap taskFailure?
  result : ∀ r, w.result = some r → w.asked = tasks.length ∧ r = resultOf w.found

/-- What is true of a course after a history. -/
structure Course.Sound (cancelOnFailure : Bool) (history : List Happening) (c : Course) :
    Prop where
  flag : c.group.cancelOnFailure = cancelOnFailure
  names : c.group.tasks.map Task.name = names history
  outcome : ∀ i outcome, (c.group.tasks[i]?).bind Task.outcome = some outcome ↔
    .ended i outcome ∈ history
  cancelled : c.group.cancelled = true ↔ .cancelled ∈ history ∨
    cancelOnFailure = true ∧ ∃ i fault, Faulted history i fault ∧ fault.isNoticed = true
  collecting : ∀ w, c.collecting = some w → w.Sound c.group.tasks

variable {g : WorkGroup} {c c' : Course} {history : List Happening} {flag : Bool} {i : Nat}
  {t : Task} {w : Collecting}

/-- A task that goes on has no outcome yet. -/
theorem running?_eq_some (h : g.running? i = some t) :
    g.tasks[i]? = some t ∧ t.outcome = none := by
  simpa [running?, Option.filter_eq_some_iff, Task.isOver] using h

/-- Where a task ends, it has no more to do, and its outcome is kept. -/
@[simp] theorem conclude_tasks (g : WorkGroup) (i : Nat) (t : Task)
    (outcome : Except TaskFault Unit) : (g.conclude i t outcome).tasks =
      g.tasks.set i { t with actions := [], outcome := some outcome } := by
  unfold conclude
  cases outcome with
  | ok => rfl
  | error fault => dsimp only; split <;> rfl

/-- Whether the group minds failures does not change. -/
@[simp] theorem conclude_cancelOnFailure (g : WorkGroup) (i : Nat) (t : Task)
    (outcome : Except TaskFault Unit) :
    (g.conclude i t outcome).cancelOnFailure = g.cancelOnFailure := by
  unfold conclude
  cases outcome with
  | ok => rfl
  | error fault => dsimp only; split <;> rfl

/-- The end of a task cancels the group if the task failed or broke down and the group minds. -/
theorem conclude_cancelled (g : WorkGroup) (i : Nat) (t : Task)
    (outcome : Except TaskFault Unit) : (g.conclude i t outcome).cancelled = true ↔
      g.cancelled = true ∨ g.cancelOnFailure = true ∧
        ∃ fault, outcome = .error fault ∧ fault.isNoticed = true := by
  unfold conclude
  cases outcome with
  | ok => simp [setTask]
  | error fault =>
    dsimp only
    split
    case isTrue h => simpa [cancel, setTask] using .inr (by simpa [setTask] using h)
    case isFalse h =>
      have quiet : ¬(g.cancelOnFailure = true ∧ fault.isNoticed = true) := by
        simpa [setTask] using h
      simpa [setTask] using fun flag noticed => absurd ⟨flag, noticed⟩ quiet

section Set

variable {tasks : List Task} {u : Task}

/-- A change of one task changes the outcome of no other. -/
theorem bind_outcome_set (lookup : tasks[i]? = some t) (j : Nat) :
    ((tasks.set i u)[j]?).bind Task.outcome =
      if j = i then u.outcome else (tasks[j]?).bind Task.outcome := by
  split
  case isTrue same =>
    subst same
    rw [List.getElem?_set_self (List.getElem?_eq_some_iff.1 lookup).1, Option.bind_some]
  case isFalse other => rw [List.getElem?_set_ne (Ne.symm other)]

/-- Who waits has not asked a task yet that is not over. -/
theorem Collecting.Sound.set (h : w.Sound tasks) (lookup : tasks[i]? = some t)
    (running : t.outcome = none) : w.Sound (tasks.set i u) := by
  -- The tasks that were asked are over, and this one is not.
  have ahead : w.asked ≤ i := by
    by_contra behind
    have isOver := h.ended i t lookup (Nat.lt_of_not_le behind)
    rw [Task.isOver, running] at isOver
    cases isOver
  refine ⟨by rw [List.length_set]; exact h.asked_le, fun j v hv hj => ?_, ?_, fun r hr => ?_⟩
  · rw [List.getElem?_set_ne (Nat.ne_of_gt (Nat.lt_of_lt_of_le hj ahead))] at hv
    exact h.ended j v hv hj
  · rw [List.take_set_of_le ahead]; exact h.found
  · rw [List.length_set]; exact h.result r hr

end Set

/-- Who waits goes on to the next task, or comes to the end. -/
theorem Collecting.Sound.next {w' : Collecting} {tasks : List Task} (h : w.Sound tasks)
    (next : w.next? tasks = some w') : w'.Sound tasks := by
  unfold Collecting.next? at next
  split at next
  case isTrue => cases next
  case isFalse unfinished =>
    have noResult : w.result = none := by simpa using unfinished
    split at next
    case h_1 last =>
      cases next
      refine ⟨h.asked_le, h.ended, h.found, fun r hr => ⟨?_, (Option.some.inj hr).symm⟩⟩
      exact Nat.le_antisymm h.asked_le (List.getElem?_eq_none_iff.1 last)
    case h_2 t lookup =>
      split at next
      case isFalse => cases next
      case isTrue isOver =>
        cases next
        have inside := (List.getElem?_eq_some_iff.1 lookup).1
        refine ⟨inside, fun j u hu hj => ?_, ?_, fun r hr => ?_⟩
        · rcases Nat.lt_succ_iff_lt_or_eq.1 hj with hj | rfl
          · exact h.ended j u hu hj
          · rw [lookup] at hu
            cases hu
            exact isOver
        · rw [List.take_add_one, lookup, Option.toList_some, filterMap_concat, ← h.found]
        · rw [show w.result = some r from hr] at noResult
          cases noResult

/-! ## One happening -/

/-- What happens adds a name where a task comes. -/
theorem names_append (history : List Happening) (x : Happening) :
    names (history ++ [x]) = names history ++ x.spawned?.toList :=
  filterMap_concat _ history x

/-- What happens adds a fault where a task ends with one. -/
theorem faulted_append {x : Happening} {fault : TaskFault} :
    Faulted (history ++ [x]) i fault ↔ Faulted history i fault ∨ x = .ended i (.error fault) := by
  rw [Faulted, List.mem_append, List.mem_singleton, eq_comm (a := Happening.ended ..)]
  rfl

namespace Course.Sound

/-- A new group is sound: nothing happened to it. -/
theorem ofFlag (flag : Bool) : Sound flag [] (ofFlag flag) where
  flag := rfl
  names := rfl
  outcome i outcome := by simp [Course.ofFlag]
  cancelled := by simp [Course.ofFlag, Faulted]
  collecting w h := nomatch h

/-- What happens without a task coming or ending. -/
theorem quiet (s : Sound flag history c) {x : Happening} (noTask : x.spawned? = none)
    (noEnd : ∀ i outcome, x ≠ .ended i outcome)
    (sameFlag : c'.group.cancelOnFailure = c.group.cancelOnFailure)
    (sameNames : c'.group.tasks.map Task.name = c.group.tasks.map Task.name)
    (sameOutcome : ∀ i : Nat, (c'.group.tasks[i]?).bind Task.outcome =
      (c.group.tasks[i]?).bind Task.outcome)
    (cancelled : c'.group.cancelled = true ↔ c.group.cancelled = true ∨ x = .cancelled)
    (collecting : ∀ w, c'.collecting = some w → w.Sound c'.group.tasks) :
    Sound flag (history ++ [x]) c' where
  flag := sameFlag.trans s.flag
  names := by
    rw [names_append, noTask, Option.toList_none, List.append_nil, sameNames, s.names]
  outcome i outcome := by
    rw [sameOutcome, s.outcome, List.mem_append, List.mem_singleton]
    exact ⟨.inl, fun h => h.resolve_right fun same => noEnd i outcome same.symm⟩
  cancelled := by
    have faults : ∀ i fault, Faulted (history ++ [x]) i fault ↔ Faulted history i fault :=
      fun i fault => faulted_append.trans (or_iff_left (noEnd i _))
    rw [cancelled, s.cancelled, List.mem_append, List.mem_singleton, or_right_comm,
      eq_comm (a := x)]
    simp only [faults]
  collecting := collecting

/-- A task that comes keeps the group sound. -/
theorem spawned (s : Sound flag history c) (notHandedOver : c.collecting = none) (name : String)
    (actions : List Action) :
    Sound flag (history ++ [.spawned name actions]) { c with group := c.group.spawn name actions }
    where
  flag := s.flag
  names := by rw [names_append, spawn, List.map_append, s.names]; rfl
  outcome i outcome := by
    have same : ((c.group.spawn name actions).tasks[i]?).bind Task.outcome =
        (c.group.tasks[i]?).bind Task.outcome := by
      rw [spawn]
      dsimp only
      rw [List.getElem?_append]
      split
      case isTrue => rfl
      case isFalse outside =>
        rw [List.getElem?_eq_none (Nat.not_lt.1 outside), List.getElem?_singleton]
        split <;> rfl
    rw [same, s.outcome]
    simp
  cancelled := by
    simp only [faulted_append, reduceCtorEq, or_false]
    rw [show (c.group.spawn name actions).cancelled = c.group.cancelled from rfl, s.cancelled]
    simp
  collecting w hw := by rw [notHandedOver] at hw; cases hw

/-- A task that ends keeps the group sound, also where its failure cancels the others. -/
theorem ended (s : Sound flag history c) {t : Task} (running : c.group.running? i = some t)
    (outcome : Except TaskFault Unit) :
    Sound flag (history ++ [.ended i outcome])
      { c with group := c.group.conclude i t outcome } := by
  obtain ⟨lookup, still⟩ := running?_eq_some running
  refine ⟨?_, ?_, fun j outcome' => ?_, ?_, fun w hw => ?_⟩
  · rw [conclude_cancelOnFailure]; exact s.flag
  · have same := map_set_of_eq (f := Task.name)
      (b := { t with actions := [], outcome := some outcome }) lookup rfl
    rw [names_append, conclude_tasks, same, s.names]
    exact (List.append_nil _).symm
  · have before := s.outcome j outcome'
    rw [conclude_tasks, bind_outcome_set lookup, List.mem_append, List.mem_singleton, ← before]
    split
    case isTrue same =>
      subst same
      simp [lookup, still, eq_comm]
    case isFalse other =>
      exact ⟨.inl, fun h => h.resolve_right fun same => other (by cases same; rfl)⟩
  · simp only [conclude_cancelled, s.cancelled, s.flag, faulted_append, List.mem_append,
      List.mem_singleton, reduceCtorEq, or_false, Happening.ended.injEq, or_assoc]
    refine or_congr_right ⟨?_, ?_⟩
    · rintro (⟨hf, j, fault, faulted, noticed⟩ | ⟨hf, fault, rfl, noticed⟩)
      · exact ⟨hf, j, fault, .inl faulted, noticed⟩
      · exact ⟨hf, i, fault, .inr ⟨rfl, rfl⟩, noticed⟩
    · rintro ⟨hf, j, fault, faulted | ⟨rfl, rfl⟩, noticed⟩
      · exact .inl ⟨hf, j, fault, faulted, noticed⟩
      · exact .inr ⟨hf, fault, rfl, noticed⟩
  · rw [conclude_tasks]
    exact (s.collecting w hw).set lookup still

/-- **One happening keeps everything.** -/
theorem of_happen (s : Sound flag history c) {x : Happening} (h : c.happen? x = some c') :
    Sound flag (history ++ [x]) c' := by
  cases x with
  | spawned name actions =>
    simp only [happen?, Option.ite_none_left_eq_some, Option.some.injEq] at h
    obtain ⟨notHandedOver, rfl⟩ := h
    exact s.spawned (by simpa using notHandedOver) name actions
  | cancelled =>
    cases h
    exact s.quiet rfl nofun rfl rfl (fun _ => rfl) (by simp [cancel]) s.collecting
  | went i actions notes =>
    obtain ⟨t, running, h⟩ := Option.bind_eq_some_iff.1 h
    cases h
    obtain ⟨lookup, still⟩ := running?_eq_some running
    refine s.quiet rfl nofun rfl (map_set_of_eq (b := { t with actions, notes }) lookup rfl)
      (fun j => ?_) (by simp [setTask]) fun w hw => (s.collecting w hw).set lookup still
    rw [setTask, bind_outcome_set lookup]
    split
    case isTrue same => rw [same, lookup]; rfl
    case isFalse => rfl
  | ended i outcome =>
    obtain ⟨t, running, h⟩ := Option.bind_eq_some_iff.1 h
    cases h
    exact s.ended running outcome
  | awaited =>
    simp only [happen?, Option.ite_none_left_eq_some, Option.some.injEq] at h
    obtain ⟨-, rfl⟩ := h
    refine s.quiet rfl nofun rfl rfl (fun _ => rfl) (by simp) fun w hw => ?_
    cases hw
    exact ⟨Nat.zero_le _, fun _ _ _ h => absurd h (Nat.not_lt_zero _), rfl, nofun⟩
  | asked =>
    obtain ⟨w, handedOver, h⟩ := Option.bind_eq_some_iff.1 h
    obtain ⟨w', next, h⟩ := Option.bind_eq_some_iff.1 h
    cases h
    refine s.quiet rfl nofun rfl rfl (fun _ => rfl) (by simp) fun v hv => ?_
    cases hv
    exact (s.collecting w handedOver).next next

end Course.Sound

/-! ## The account -/

/-- **A history keeps everything.** -/
theorem Course.Sound.of_run (more : List Happening) :
    ∀ (history : List Happening) (c : Course), c.Sound flag history → c.run? more = some c' →
      c'.Sound flag (history ++ more) := by
  induction more with
  | nil => rintro history c s ⟨⟩; rwa [List.append_nil]
  | cons x more ih =>
    intro history c s h
    obtain ⟨next, happens, h⟩ := Option.bind_eq_some_iff.1 h
    rw [List.append_cons]
    exact ih _ next (s.of_happen happens) h

/-- Waiting comes out well if there are no failures. -/
theorem resultOf_eq_ok {failures : List TaskFailure} :
    resultOf failures = .ok () ↔ failures = [] := by
  cases failures <;> simp [resultOf]

/-- Otherwise it gives all of them. -/
theorem resultOf_eq_error {failures failures' : List TaskFailure}
    (h : resultOf failures = .error failures') : failures ≠ [] ∧ failures' = failures := by
  cases failures with
  | nil => cases h
  | cons => cases h; exact ⟨List.cons_ne_nil _ _, rfl⟩

namespace Course.Sound

variable (s : c.Sound flag history)
include s

/-- The failure of a task is the fault that it ended in, under its own name. -/
theorem taskFailure?_eq_some {i : Nat} {failure : TaskFailure} :
    (c.group.tasks[i]?).bind taskFailure? = some failure ↔
      (WorkGroup.names history)[i]? = some failure.task ∧ Faulted history i failure.fault := by
  rw [Faulted, ← s.outcome, ← s.names, List.getElem?_map]
  cases c.group.tasks[i]? with
  | none => simp
  | some t =>
    obtain ⟨name, actions, notes, _ | _ | fault⟩ := t
    case error =>
      obtain ⟨task, fault'⟩ := failure
      simp [taskFailure?]
    all_goals simp [taskFailure?]

/-- Only tasks that came can end. -/
theorem lt_length_of_ended {i : Nat} {outcome : Except TaskFault Unit}
    (h : .ended i outcome ∈ history) : i < c.group.tasks.length := by
  by_contra outside
  have known := (s.outcome i _).2 h
  rw [List.getElem?_eq_none (Nat.not_lt.1 outside)] at known
  cases known

/-- A task has a failure to report if the history says that it faulted. -/
theorem faulted_iff {i : Nat} : (∃ fault, Faulted history i fault) ↔
    i < c.group.tasks.length ∧ ((c.group.tasks[i]?).bind taskFailure?).isSome = true := by
  rw [Option.isSome_iff_exists]
  constructor
  · rintro ⟨fault, h⟩
    have inside := s.lt_length_of_ended h
    have name := List.getElem?_eq_getElem (l := WorkGroup.names history) (i := i)
      (by rwa [← s.names, List.length_map])
    exact ⟨inside, ⟨_, fault⟩, s.taskFailure?_eq_some.2 ⟨name, h⟩⟩
  · rintro ⟨-, failure, h⟩
    exact ⟨failure.fault, (s.taskFailure?_eq_some.1 h).2⟩

/-- The failures of the tasks are those of the history. -/
theorem lists : Lists history (c.group.tasks.filterMap taskFailure?) := by
  rw [filterMap_eq_filterMap_range]
  refine ⟨_, List.Pairwise.filter _ List.pairwise_lt_range, fun i => ?_,
    (forall₂_filter_filterMap (fun i => (c.group.tasks[i]?).bind taskFailure?) _).imp
      fun _ _ => s.taskFailure?_eq_some.1⟩
  rw [List.mem_filter, List.mem_range, s.faulted_iff]

/-- There are no failures exactly if no task ended in a fault. -/
theorem failures_eq_nil_iff :
    c.group.tasks.filterMap taskFailure? = [] ↔ ∀ i fault, ¬ Faulted history i fault := by
  rw [filterMap_eq_filterMap_range, List.filterMap_eq_nil_iff]
  constructor
  · intro none i fault h
    obtain ⟨inside, failure⟩ := s.faulted_iff.1 ⟨fault, h⟩
    rw [none i (List.mem_range.2 inside)] at failure
    cases failure
  · intro none i hi
    rw [← Option.not_isSome_iff_eq_none]
    exact fun failure =>
      (s.faulted_iff.2 ⟨List.mem_range.1 hi, failure⟩).elim fun fault h => none i fault h

/-- Every task is over exactly if the history says so. -/
theorem isOver_iff : c.group.isOver = true ↔ AllEnded history := by
  have length : (WorkGroup.names history).length = c.group.tasks.length := by
    rw [← s.names, List.length_map]
  simp only [isOver, List.all_eq_true, AllEnded, length, List.forall_mem_iff_forall_getElem,
    Task.isOver, Option.isSome_iff_exists]
  refine forall₂_congr fun i inside => exists_congr fun outcome => ?_
  rw [← s.outcome, List.getElem?_eq_getElem inside, Option.bind_some]

end Course.Sound

/-- The failures are those of the tasks, in the order in which these came. -/
theorem failures_eq (g : WorkGroup) : g.failures = g.tasks.filterMap taskFailure? :=
  rfl

/-- What waiting gives, once every task is over. -/
theorem result?_of_isOver (allOver : g.isOver = true) :
    g.result? = some (resultOf (g.tasks.filterMap taskFailure?)) := by
  rw [result?, if_pos allOver, failures_eq]
  cases g.tasks.filterMap taskFailure? <;> rfl

/-- When all tasks are over, who waits needs but to ask those that are left. -/
theorem Course.exists_run_of_isOver : ∀ (left : Nat) (c : Course) (w : Collecting),
    c.collecting = some w → w.result = none → w.asked + left = c.group.tasks.length →
    c.group.isOver = true → ∃ c' w' r, c.run? (List.replicate (left + 1) .asked) = some c' ∧
      c'.collecting = some w' ∧ w'.result = some r
  | 0, c, w, handedOver, unfinished, last, _ => by
    have none : c.group.tasks[w.asked]? = none := List.getElem?_eq_none (Nat.le_of_eq last.symm)
    let w' : Collecting := { w with result := some (resultOf w.found) }
    have next : w.next? c.group.tasks = some w' := by
      simp [Collecting.next?, unfinished, none, w']
    refine ⟨{ c with collecting := some w' }, w', resultOf w.found, ?_, rfl, rfl⟩
    simp [run?, happen?, handedOver, next]
  | left + 1, c, w, handedOver, unfinished, more, allOver => by
    have inside : w.asked < c.group.tasks.length := by omega
    have taskOver := List.all_eq_true.1 allOver _ (List.getElem_mem inside)
    obtain ⟨w', next, unfinished', asked⟩ : ∃ w', w.next? c.group.tasks = some w' ∧
        w'.result = none ∧ w'.asked = w.asked + 1 := by
      simp [Collecting.next?, unfinished, inside, taskOver]
    obtain ⟨c', w'', r, run, rest⟩ := exists_run_of_isOver left
      { c with collecting := some w' } w' rfl unfinished'
      (show w'.asked + left = c.group.tasks.length by omega) allOver
    refine ⟨c', w'', r, ?_, rest⟩
    rw [run?] at run ⊢
    simpa [List.replicate_succ, happen?, handedOver, next] using run

/-- What a group accounts for. -/
structure Course.Accounts (cancelOnFailure : Bool) (history : List Happening) (c : Course) :
    Prop where
  /-- The group is cancelled exactly if someone cancelled it, or a task failed or broke down and
  the group is told to mind. -/
  cancelled : c.group.cancelled = true ↔ .cancelled ∈ history ∨
    cancelOnFailure = true ∧ ∃ i fault, Faulted history i fault ∧ fault.isNoticed = true
  /-- A task ends once. -/
  once : ∀ i outcome outcome', .ended i outcome ∈ history → .ended i outcome' ∈ history →
    outcome = outcome'
  /-- Waiting is over only when every task ended.  It gives what the group gives: that all is well
  if no task ended in a fault, and otherwise the failures, each one once and in their order. -/
  returned : ∀ w r, c.collecting = some w → w.result = some r →
    AllEnded history ∧ c.group.result? = some r ∧
      (r = .ok () ↔ ∀ i fault, ¬ Faulted history i fault) ∧
      ∀ failures, r = .error failures → failures ≠ [] ∧ Lists history failures
  /-- When every task ended, waiting comes to its end. -/
  returns : ∀ w, c.collecting = some w → w.result = none → AllEnded history →
    ∃ steps c' w' r, c.run? (List.replicate steps .asked) = some c' ∧
      c'.collecting = some w' ∧ w'.result = some r

/-- **Every task is accounted for, once.**  Whatever tasks come, in whatever order and in whatever
way they end, and whoever cancels the group when. -/
theorem Course.accounted (cancelOnFailure : Bool) (history : List Happening)
    (h : (ofFlag cancelOnFailure).run? history = some c) :
    c.Accounts cancelOnFailure history := by
  have s : c.Sound cancelOnFailure history := (Sound.ofFlag cancelOnFailure).of_run history _ _ h
  refine ⟨s.cancelled, fun i outcome outcome' ended ended' => ?_, fun w r handedOver result => ?_,
    fun w handedOver unfinished allOver => ?_⟩
  · rw [← s.outcome] at ended ended'
    exact Option.some.inj (ended.symm.trans ended')
  · have collecting := s.collecting w handedOver
    obtain ⟨all, rfl⟩ := collecting.result r result
    have found : w.found = c.group.tasks.filterMap taskFailure? := by
      rw [collecting.found, all, List.take_length]
    have allOver : c.group.isOver = true := by
      refine List.all_eq_true.2 fun t ht => ?_
      obtain ⟨i, lookup⟩ := List.mem_iff_getElem?.1 ht
      exact collecting.ended i t lookup (all ▸ (List.getElem?_eq_some_iff.1 lookup).1)
    refine ⟨s.isOver_iff.1 allOver, found ▸ result?_of_isOver allOver, ?_, fun failures error => ?_⟩
    · rw [resultOf_eq_ok, found, s.failures_eq_nil_iff]
    · obtain ⟨some, rfl⟩ := resultOf_eq_error error
      exact ⟨some, found ▸ s.lists⟩
  · have collecting := s.collecting w handedOver
    obtain ⟨left, length⟩ := Nat.exists_eq_add_of_le collecting.asked_le
    obtain ⟨c', w', r, run⟩ :=
      exists_run_of_isOver left c w handedOver unfinished length.symm (s.isOver_iff.2 allOver)
    exact ⟨left + 1, c', w', r, run⟩

/-- Two tasks of three fail, the later one first, while someone waits for the group. -/
def rescue : List Happening :=
  [.spawned "reader" [], .spawned "parser" [], .spawned "writer" [], .awaited,
    .ended 1 (.error (.brokeDown (some "bad frame"))), .went 0 [] [.cancelled true],
    .ended 2 (.ok ()), .ended 0 (.error (.failed "no more")), .asked, .asked, .asked, .asked]

theorem Course.accounted_rescue : ∃ c, (ofFlag true).run? rescue = some c ∧
    c.Accounts true rescue ∧ c.group.cancelled = true ∧
      c.collecting.bind Collecting.result = some (.error
        [⟨"reader", .failed "no more"⟩, ⟨"parser", .brokeDown (some "bad frame")⟩]) := by
  exact ⟨_, rfl, accounted true rescue rfl, rfl, rfl⟩

end WorkGroup
end ApiGraph
