/-
# Breakdowns in a work group

A task may break down at three places: when it is opened, at its work, and over the report of its
own failure.

A group is meant to contain breakdowns: nobody who gives a task is struck, the group is cancelled
as by any other failure, who waits is told of the breakdown once, and the other tasks are as they
would be without it (`Affair.Contains`).  It contains them exactly if all of them are breakdowns at
work.  One at an opening strikes the one who gives the task and leaves no trace in the group, and
one over a report cancels nothing and is told as a loss (`Affair.breakdowns_by_place`).
-/

import ApiGraph.Proofs.WorkGroup.Incidents

namespace ApiGraph

/-- The last words of a breakdown at work or over a report. -/
def Ending.breakdown? : Ending → Option (Option String)
  | brokeDown words => some words
  | failed (.error words) => some words
  | _ => none

/-- Work breaks down by itself, or while its failure is turned into an error. -/
theorem Ending.breakdown?_eq_some_iff {ending : Ending} {words : Option String} :
    ending.breakdown? = some words ↔
      ending = .brokeDown words ∨ ending = .failed (.error words) := by
  cases ending with
  | finished => simp [breakdown?]
  | failed report => cases report <;> simp [breakdown?]
  | brokeDown words => simp [breakdown?]

/-- A failure that is reported and a breakdown at work are noticed at once. -/
theorem Ending.exists_isNoticed_iff {ending : Ending} :
    (∃ fault, ending.outcome = .error fault ∧ fault.isNoticed = true) ↔
      (∃ reason, ending = .failed (.ok reason)) ∨ ∃ words, ending = .brokeDown words := by
  cases ending with
  | finished => simp [outcome]
  | failed report => cases report <;> simp [outcome, TaskFault.isNoticed]
  | brokeDown words => simp [outcome, TaskFault.isNoticed]

namespace WorkGroup

/-! ## What is asked of a group -/

/-- A task fails, or breaks down at one of the three places. -/
def Incident.goesWrong : Incident → Bool
  | given _ (.error _) => true
  | settled _ .finished => false
  | settled _ _ => true
  | _ => false

/-- It goes wrong where a task breaks down while it is opened, or its work does not finish. -/
theorem Incident.goesWrong_iff {x : Incident} : x.goesWrong = true ↔
    (∃ name words, x = .given name (.error words)) ∨
      ∃ i ending, x = .settled i ending ∧ ending ≠ .finished := by
  cases x with
  | given name opening => cases opening <;> simp [goesWrong]
  | settled i ending => cases ending <;> simp [goesWrong]
  | _ => simp [goesWrong]

/-- A task ended in a fault, and who waits is told so in one place, between the failures of the
tasks before it and those of the tasks behind it. -/
def Course.Tells (c : Course) (i : Nat) (fault : TaskFault) : Prop :=
  ∃ t, c.group.tasks[i]? = some t ∧ t.outcome = some (.error fault) ∧
    ∀ w r, c.collecting = some w → w.result = some r →
      r = .error ((c.group.tasks.take i).filterMap taskFailure? ++
        ⟨t.name, fault⟩ :: (c.group.tasks.drop (i + 1)).filterMap taskFailure?)

/-- How a task ends is nothing to the others: had it ended well, all else could have happened as
it did, and they would be as they are. -/
def Affair.Spares (cancelOnFailure : Bool) (incidents : List Incident) (a : Affair) : Prop :=
  ∀ before i ending after, incidents = before ++ .settled i ending :: after →
    ∃ b, (ofFlag cancelOnFailure).meets? (before ++ .settled i .finished :: after) = some b ∧
      ∀ j, j ≠ i → b.group.tasks[j]? = a.group.tasks[j]?

/-- Every breakdown stays in the group. -/
structure Affair.Contains (cancelOnFailure : Bool) (incidents : List Incident) (a : Affair) :
    Prop where
  /-- Nobody who gives a task is struck. -/
  returns : a.escaped = []
  /-- A task that breaks down, wherever it does, cancels the group as any other failure does. -/
  cancels : a.group.cancelled = true ↔ .cancelled ∈ incidents ∨
    cancelOnFailure = true ∧ ∃ x ∈ incidents, x.goesWrong = true
  /-- A task that breaks down when it is opened has a place in the group, and who waits is told of
  the breakdown there, under the name of the task and with its last words. -/
  tellsOpening : ∀ name words, .given name (.error words) ∈ incidents →
    ∃ i t, a.group.tasks[i]? = some t ∧ t.name = name ∧ a.Tells i (.brokeDown words)
  /-- So is who waits of a task that breaks down later. -/
  tells : ∀ i ending words, .settled i ending ∈ incidents → ending.breakdown? = some words →
    a.Tells i (.brokeDown words)
  /-- The other tasks are unaffected. -/
  spares : a.Spares cancelOnFailure incidents

/-- No task broke down but at its work. -/
structure AllAtWork (incidents : List Incident) : Prop where
  opened : ∀ name words, .given name (.error words) ∉ incidents
  reported : ∀ i words, .settled i (.failed (.error words)) ∉ incidents

/-- A failure was reported, or a task broke down at its work. -/
def FaultNoticed (incidents : List Incident) : Prop :=
  ∃ i, (∃ reason, .settled i (.failed (.ok reason)) ∈ incidents) ∨
    ∃ words, .settled i (.brokeDown words) ∈ incidents

/-- What goes wrong is noticed if no task breaks down but at its work. -/
theorem AllAtWork.exists_goesWrong_iff {incidents : List Incident} (h : AllAtWork incidents) :
    (∃ x ∈ incidents, x.goesWrong = true) ↔ FaultNoticed incidents := by
  constructor
  · rintro ⟨x, mem, wrong⟩
    rcases Incident.goesWrong_iff.1 wrong with ⟨name, words, rfl⟩ | ⟨i, ending, rfl, bad⟩
    · exact absurd mem (h.opened name words)
    · match ending with
      | .finished => exact absurd rfl bad
      | .failed (.ok reason) => exact ⟨i, .inl ⟨reason, mem⟩⟩
      | .failed (.error words) => exact absurd mem (h.reported i words)
      | .brokeDown words => exact ⟨i, .inr ⟨words, mem⟩⟩
  · rintro ⟨i, ⟨reason, mem⟩ | ⟨words, mem⟩⟩
    · exact ⟨_, mem, rfl⟩
    · exact ⟨_, mem, rfl⟩

/-! ## The other tasks -/

/-- How far waiting has come. -/
def Collecting.progress (w : Collecting) : Nat × Bool :=
  (w.asked, w.result.isSome)

/-- How waiting goes on depends on which tasks are over, and not on how they ended. -/
theorem Collecting.map_progress_next? {w v : Collecting} {tasks tasks' : List Task}
    (same : v.progress = w.progress)
    (sameOver : (tasks'[w.asked]?).map Task.isOver = (tasks[w.asked]?).map Task.isOver) :
    (v.next? tasks').map progress = (w.next? tasks).map progress := by
  obtain ⟨sameAsked, sameResult⟩ := Prod.mk.inj same
  simp only [next?, sameAsked, sameResult]
  split
  · rfl
  · cases lookup : tasks[w.asked]? with
    | none =>
      rw [lookup, Option.map_none, Option.map_eq_none_iff] at sameOver
      simp [sameOver, progress]
    | some t =>
      rw [lookup, Option.map_some, Option.map_eq_some_iff] at sameOver
      obtain ⟨u, lookup', sameOver⟩ := sameOver
      simp only [lookup', sameOver]
      split <;> simp [progress, sameResult]

namespace Course

/-- Courses that differ in how one task ended, in what was found on the way, and in whether the
group is cancelled. -/
structure AlikeBut (i : Nat) (c d : Course) : Prop where
  size : d.group.tasks.length = c.group.tasks.length
  isOver : ∃ t u, c.group.tasks[i]? = some t ∧ d.group.tasks[i]? = some u ∧
    t.isOver = true ∧ u.isOver = true
  others : ∀ j, j ≠ i → d.group.tasks[j]? = c.group.tasks[j]?
  collecting : d.collecting.map Collecting.progress = c.collecting.map Collecting.progress

namespace AlikeBut

variable {i : Nat} {c c' d : Course}

/-- Either both groups are handed over or neither is. -/
theorem notHandedOver (h : AlikeBut i c d) : d.collecting.isSome = c.collecting.isSome := by
  simpa using congrArg Option.isSome h.collecting

/-- Which tasks are over is the same. -/
theorem map_isOver (h : AlikeBut i c d) (j : Nat) :
    (d.group.tasks[j]?).map Task.isOver = (c.group.tasks[j]?).map Task.isOver := by
  by_cases same : j = i
  · obtain ⟨t, u, ht, hu, tOver, uOver⟩ := h.isOver
    rw [same, ht, hu, Option.map_some, Option.map_some, tOver, uOver]
  · rw [h.others j same]

/-- A task that still runs in one course is another one, and runs in the other course. -/
theorem running? (h : AlikeBut i c d) {j : Nat} {t : Task} (running : c.group.running? j = some t) :
    j ≠ i ∧ d.group.running? j = some t := by
  obtain ⟨lookup, still⟩ := running?_eq_some running
  have other : j ≠ i := by
    rintro rfl
    obtain ⟨u, -, hu, -, uOver, -⟩ := h.isOver
    obtain rfl := Option.some.inj (lookup.symm.trans hu)
    rw [Task.isOver, still] at uOver
    cases uOver
  rw [WorkGroup.running?] at running ⊢
  exact ⟨other, h.others j other ▸ running⟩

/-- Another task comes to be the same in both courses. -/
theorem set (h : AlikeBut i c d) {j : Nat} {t : Task} {g g' : WorkGroup} (other : j ≠ i)
    (tasks : g.tasks = c.group.tasks.set j t) (tasks' : g'.tasks = d.group.tasks.set j t) :
    AlikeBut i { c with group := g } { d with group := g' } := by
  refine ⟨?_, ?_, fun k hk => ?_, h.collecting⟩
  · simp only [tasks, tasks', List.length_set]
    exact h.size
  · simpa only [tasks, tasks', List.getElem?_set_ne other] using h.isOver
  · simp only [tasks, tasks', List.getElem?_set, h.size, h.others k hk]

/-- A task comes to both courses. -/
theorem spawned (h : AlikeBut i c d) (name : String) (actions : List Action) :
    AlikeBut i { c with group := c.group.spawn name actions }
      { d with group := d.group.spawn name actions } := by
  obtain ⟨t, u, ht, hu, bothOver⟩ := h.isOver
  refine ⟨?_, ⟨t, u, ?_, ?_, bothOver⟩, fun k hk => ?_, h.collecting⟩
  · simp [spawn, h.size]
  · exact getElem?_concat_eq_some.2 (.inl ht)
  · exact getElem?_concat_eq_some.2 (.inl hu)
  · simp only [spawn, List.getElem?_append, h.size, h.others k hk]

/-- **What can happen in one course can happen in the other**, and they stay alike. -/
theorem happen (h : AlikeBut i c d) {x : Happening} (happens : c.happen? x = some c') :
    ∃ d', d.happen? x = some d' ∧ AlikeBut i c' d' := by
  cases x with
  | spawned name actions =>
    simp only [happen?, Option.ite_none_left_eq_some, Option.some.injEq, h.notHandedOver]
      at happens ⊢
    obtain ⟨free, rfl⟩ := happens
    exact ⟨_, ⟨free, rfl⟩, h.spawned name actions⟩
  | cancelled =>
    cases happens
    exact ⟨_, rfl, h.size, h.isOver, h.others, h.collecting⟩
  | went j actions notes =>
    obtain ⟨t, running, happens⟩ := Option.bind_eq_some_iff.1 happens
    cases happens
    obtain ⟨other, running'⟩ := h.running? running
    exact ⟨_, Option.bind_eq_some_iff.2 ⟨t, running', rfl⟩, h.set other rfl rfl⟩
  | ended j outcome =>
    obtain ⟨t, running, happens⟩ := Option.bind_eq_some_iff.1 happens
    cases happens
    obtain ⟨other, running'⟩ := h.running? running
    exact ⟨_, Option.bind_eq_some_iff.2 ⟨t, running', rfl⟩,
      h.set other (conclude_tasks ..) (conclude_tasks ..)⟩
  | awaited =>
    simp only [happen?, Option.ite_none_left_eq_some, Option.some.injEq, h.notHandedOver]
      at happens ⊢
    obtain ⟨free, rfl⟩ := happens
    exact ⟨_, ⟨free, rfl⟩, h.size, h.isOver, h.others, rfl⟩
  | asked =>
    obtain ⟨w, handedOver, happens⟩ := Option.bind_eq_some_iff.1 happens
    obtain ⟨w', next, happens⟩ := Option.bind_eq_some_iff.1 happens
    cases happens
    obtain ⟨v, handedOver', same⟩ := Option.map_eq_some_iff.1
      (h.collecting.trans (congrArg (Option.map Collecting.progress) handedOver))
    -- The task that is asked may be the one that ended otherwise, but it is over in both courses.
    have goesOn := Collecting.map_progress_next? same (h.map_isOver w.asked)
    rw [next, Option.map_some, Option.map_eq_some_iff] at goesOn
    obtain ⟨v', next', same'⟩ := goesOn
    refine ⟨{ d with collecting := some v' }, ?_, h.size, h.isOver, h.others, ?_⟩
    · exact Option.bind_eq_some_iff.2
        ⟨v, handedOver', Option.bind_eq_some_iff.2 ⟨v', next', rfl⟩⟩
    · exact congrArg some same'

end AlikeBut
end Course

namespace Affair

variable {a b : Affair} {i : Nat}

/-- **What can be in one affair can be in the other.** -/
theorem exists_meets_of_alikeBut {incidents : List Incident} : ∀ {a a' b : Affair},
    a.AlikeBut i b.toCourse → a.meets? incidents = some a' →
    ∃ b', b.meets? incidents = some b' ∧ a'.AlikeBut i b'.toCourse := by
  induction incidents with
  | nil =>
    rintro a a' b alike ⟨⟩
    exact ⟨b, rfl, alike⟩
  | cons x more ih =>
    intro a a' b alike h
    obtain ⟨next, first, rest⟩ := meets?_cons.1 h
    obtain ⟨next', first', alike'⟩ : ∃ next', b.meet? x = some next' ∧
        next.AlikeBut i next'.toCourse := by
      cases seen : x.happening? with
      | none =>
        -- An opening broke down, which can be if the group was not handed over.
        obtain ⟨name, words, rfl⟩ := Incident.happening?_eq_none_iff.1 seen
        simp only [meet?_given_error, Option.ite_none_left_eq_some, Option.some.injEq,
          alike.notHandedOver] at first ⊢
        obtain ⟨free, rfl⟩ := first
        exact ⟨_, ⟨free, rfl⟩, alike⟩
      | some y =>
        simp only [meet?_of_happening seen, happen?_eq_some_iff] at first ⊢
        obtain ⟨d', happens, alike'⟩ := alike.happen first.1
        exact ⟨{ b with toCourse := d' }, ⟨happens, rfl⟩, alike'⟩
    obtain ⟨b', rest', alike''⟩ := ih alike' rest
    exact ⟨b', meets?_cons.2 ⟨next', first', rest'⟩, alike''⟩

/-- The ends of a task, one way or another, are alike. -/
theorem exists_settled_finished {ending : Ending} (h : a.meet? (.settled i ending) = some b) :
    ∃ b', a.meet? (.settled i .finished) = some b' ∧ b.AlikeBut i b'.toCourse := by
  obtain ⟨t, running, h⟩ := Option.bind_eq_some_iff.1 h
  cases h
  have inside := (List.getElem?_eq_some_iff.1 (running?_eq_some running).1).1
  refine ⟨_, Option.bind_eq_some_iff.2 ⟨t, running, rfl⟩, ?_, ?_, fun j hj => ?_, rfl⟩
  · simp [settle]
  · simp [settle, inside, Task.isOver]
  · simp [settle, List.getElem?_set_ne (Ne.symm hj)]

/-- **How a task ends is nothing to the others.** -/
theorem spares_of_meets? {flag : Bool} {incidents : List Incident}
    (h : (ofFlag flag).meets? incidents = some a) : a.Spares flag incidents := by
  rintro before i ending after rfl
  obtain ⟨first, hbefore, h⟩ := meets?_append.1 h
  obtain ⟨second, settled, hafter⟩ := meets?_cons.1 h
  obtain ⟨second', finished, alike⟩ := exists_settled_finished settled
  obtain ⟨b, rest, alike⟩ := exists_meets_of_alikeBut alike hafter
  exact ⟨b, meets?_append.2 ⟨first, hbefore, meets?_cons.2 ⟨second', finished, rest⟩⟩,
    alike.others⟩

end Affair

/-! ## Breakdowns by their place -/

section Tells

variable {c : Course} {flag : Bool} {happened : List Happening} {i : Nat} {t : Task}
  {fault : TaskFault}

/-- The failures of a group, where one of its tasks ended in a fault. -/
theorem resultOf_eq_error_of_getElem? {tasks : List Task} (lookup : tasks[i]? = some t)
    (ended : t.outcome = some (.error fault)) :
    resultOf (tasks.filterMap taskFailure?) = .error ((tasks.take i).filterMap taskFailure? ++
      ⟨t.name, fault⟩ :: (tasks.drop (i + 1)).filterMap taskFailure?) := by
  obtain ⟨inside, rfl⟩ := List.getElem?_eq_some_iff.1 lookup
  have failure : taskFailure? tasks[i] = some ⟨tasks[i].name, fault⟩ := by
    rw [taskFailure?, ended]
  have failures : tasks.filterMap taskFailure? = (tasks.take i).filterMap taskFailure? ++
      ⟨tasks[i].name, fault⟩ :: (tasks.drop (i + 1)).filterMap taskFailure? := by
    conv_lhs => rw [← List.take_append_drop i tasks, List.drop_eq_getElem_cons inside]
    rw [List.filterMap_append, List.filterMap_cons_some failure]
  rw [failures]
  cases (tasks.take i).filterMap taskFailure? <;> rfl

/-- Who waits is told of every fault in its place. -/
theorem Course.Sound.tells (s : c.Sound flag happened) (faulted : Faulted happened i fault) :
    c.Tells i fault := by
  obtain ⟨t, lookup, ended⟩ := Option.bind_eq_some_iff.1 ((s.outcome i _).2 faulted)
  refine ⟨t, lookup, ended, fun w r handedOver result => ?_⟩
  have collecting := s.collecting w handedOver
  obtain ⟨all, rfl⟩ := collecting.result r result
  rw [collecting.found, all, List.take_length]
  exact resultOf_eq_error_of_getElem? lookup ended

end Tells

/-- What becomes of breakdowns. -/
structure Affair.ByPlace (cancelOnFailure : Bool) (incidents : List Incident) (a : Affair) :
    Prop where
  /-- Every breakdown stays in the group exactly if all of them are breakdowns at work. -/
  contains_iff : a.Contains cancelOnFailure incidents ↔ AllAtWork incidents
  /-- The group has the tasks that were opened. -/
  names : a.group.tasks.map Task.name = incidents.filterMap Incident.opened?
  /-- Breakdowns at openings, and no others, strike those who give the tasks. -/
  escaped : a.escaped = incidents.filterMap Incident.escape?
  /-- They leave no trace in the group. -/
  traceless : (ofFlag cancelOnFailure).meets? (incidents.filter (·.escape?.isNone)) =
    some { a with escaped := [] }
  /-- A breakdown at work cancels the group as a failure does, and one over a report does not. -/
  cancelled : a.group.cancelled = true ↔
    .cancelled ∈ incidents ∨ cancelOnFailure = true ∧ FaultNoticed incidents
  /-- Who waits is told of a breakdown at work, with its last words. -/
  atWork : ∀ i words, .settled i (.brokeDown words) ∈ incidents → a.Tells i (.brokeDown words)
  /-- A task that broke down over its report is told as lost. -/
  overReport : ∀ i words, .settled i (.failed (.error words)) ∈ incidents → a.Tells i .lost
  /-- No breakdown keeps the others from what they do. -/
  spares : a.Spares cancelOnFailure incidents
  /-- When the work of every task ended, in whatever way, waiting comes to its end. -/
  answers : ∀ w, a.collecting = some w → w.result = none →
    (∀ i < a.group.size, ∃ ending, .settled i ending ∈ incidents) →
    ∃ steps b w' r, a.meets? (List.replicate steps .asked) = some b ∧
      b.collecting = some w' ∧ w'.result = some r

namespace Affair

variable {a : Affair} {flag : Bool} {incidents : List Incident}

/-- The group is cancelled by someone, by a failure that is reported or by a breakdown at work. -/
theorem cancelled_iff_of_meets? (h : (ofFlag flag).meets? incidents = some a) :
    a.group.cancelled = true ↔ .cancelled ∈ incidents ∨ flag = true ∧ FaultNoticed incidents := by
  rw [(sound_of_meets? h).cancelled, cancelled_mem_history_iff]
  refine or_congr_right (and_congr_right fun _ => exists_congr fun i => ?_)
  simp only [Faulted, ended_mem_history_iff]
  constructor
  · rintro ⟨fault, ⟨ending, mem, outcome⟩, noticed⟩
    have cause := Ending.exists_isNoticed_iff.1 ⟨fault, outcome, noticed⟩
    rcases cause with ⟨reason, rfl⟩ | ⟨words, rfl⟩
    · exact .inl ⟨reason, mem⟩
    · exact .inr ⟨words, mem⟩
  · rintro (⟨reason, mem⟩ | ⟨words, mem⟩)
    · exact ⟨_, ⟨_, mem, rfl⟩, rfl⟩
    · exact ⟨_, ⟨_, mem, rfl⟩, rfl⟩

/-- Who waits is told of the fault that the end of a task comes to. -/
theorem tells_of_meets? (h : (ofFlag flag).meets? incidents = some a) {i : Nat} {ending : Ending}
    {fault : TaskFault} (mem : .settled i ending ∈ incidents)
    (outcome : ending.outcome = .error fault) : a.Tells i fault :=
  (sound_of_meets? h).tells (ended_mem_history_iff.2 ⟨ending, mem, outcome⟩)

/-- What got out is what the tasks broke down with while they were opened. -/
theorem escaped_of_meets? (h : (ofFlag flag).meets? incidents = some a) :
    a.escaped = incidents.filterMap Incident.escape? :=
  (of_meets? h).2

/-- Nothing got out if no task broke down while it was opened. -/
theorem escaped_eq_nil_iff_of_meets? (h : (ofFlag flag).meets? incidents = some a) :
    a.escaped = [] ↔ ∀ name words, .given name (.error words) ∉ incidents := by
  rw [escaped_of_meets? h, List.filterMap_eq_nil_iff]
  constructor
  · intro none name words mem
    cases none _ mem
  · intro opened x mem
    refine Option.eq_none_iff_forall_ne_some.2 fun words escape => ?_
    obtain ⟨name, rfl⟩ := Incident.escape?_eq_some_iff.1 escape
    exact opened name words mem

/-- Without breakdowns at openings the group is the same. -/
theorem meets?_filter_of_meets? (h : (ofFlag flag).meets? incidents = some a) :
    (ofFlag flag).meets? (incidents.filter (·.escape?.isNone)) = some { a with escaped := [] } := by
  have sameHistory : history (incidents.filter (·.escape?.isNone)) = history incidents := by
    rw [history, List.filterMap_filter]
    refine List.filterMap_congr fun x _ => ?_
    cases seen : x.happening? with
    | none => simp
    | some y => simp [Incident.escape?_eq_none_of_happening seen]
  refine meets?_of_run? (fun x mem => ?_) (sameHistory ▸ (of_meets? h).1)
  exact Option.isNone_iff_eq_none.1 (List.mem_filter.1 mem).2

/-- Every breakdown stays in the group exactly if all of them are breakdowns at work. -/
theorem contains_iff_of_meets? (h : (ofFlag flag).meets? incidents = some a) :
    a.Contains flag incidents ↔ AllAtWork incidents := by
  constructor
  · intro contains
    refine ⟨(escaped_eq_nil_iff_of_meets? h).1 contains.returns, fun i words mem => ?_⟩
    -- The task would have ended in a breakdown, and it was lost.
    obtain ⟨t, lookup, outcome, -⟩ := contains.tells i _ words mem rfl
    obtain ⟨u, lookup', outcome', -⟩ := tells_of_meets? h mem rfl
    obtain rfl := Option.some.inj (lookup.symm.trans lookup')
    cases outcome.symm.trans outcome'
  · intro atWork
    refine ⟨(escaped_eq_nil_iff_of_meets? h).2 atWork.opened, ?_,
      fun name words mem => absurd mem (atWork.opened name words),
      fun i ending words mem breakdown => ?_, spares_of_meets? h⟩
    · rw [atWork.exists_goesWrong_iff]
      exact cancelled_iff_of_meets? h
    · rcases Ending.breakdown?_eq_some_iff.1 breakdown with rfl | rfl
      · exact tells_of_meets? h mem rfl
      · exact absurd mem (atWork.reported i words)

/-- When the work of every task ended, waiting comes to its end. -/
theorem exists_meets_of_allSettled (h : (ofFlag flag).meets? incidents = some a) {w : Collecting}
    (handedOver : a.collecting = some w) (unfinished : w.result = none)
    (settled : ∀ i < a.group.size, ∃ ending, .settled i ending ∈ incidents) :
    ∃ steps b w' r, a.meets? (List.replicate steps .asked) = some b ∧
      b.collecting = some w' ∧ w'.result = some r := by
  have s := sound_of_meets? h
  have allEnded : AllEnded (history incidents) := by
    intro i inside
    rw [← s.names, List.length_map] at inside
    obtain ⟨ending, mem⟩ := settled i inside
    exact ⟨_, ended_mem_history_iff.2 ⟨ending, mem, rfl⟩⟩
  obtain ⟨left, length⟩ := Nat.exists_eq_add_of_le (s.collecting w handedOver).asked_le
  obtain ⟨c, w', r, run, handedOver', result⟩ := Course.exists_run_of_isOver left a.toCourse w
    handedOver unfinished length.symm (s.isOver_iff.2 allEnded)
  refine ⟨left + 1, { a with toCourse := c }, w', r, meets?_of_run? (fun x mem => ?_) ?_,
    handedOver', result⟩
  · rw [List.eq_of_mem_replicate mem]
    rfl
  · have seen : Incident.asked.happening? = some .asked := rfl
    rwa [history, List.filterMap_replicate_of_some seen]

/-- **What becomes of a breakdown depends on its place.**  Whatever tasks are given, whatever they
do and however they end, and whoever cancels the group or waits for it. -/
theorem breakdowns_by_place (cancelOnFailure : Bool) (incidents : List Incident)
    (h : (ofFlag cancelOnFailure).meets? incidents = some a) :
    a.ByPlace cancelOnFailure incidents where
  contains_iff := contains_iff_of_meets? h
  names := (sound_of_meets? h).names.trans (names_history incidents)
  escaped := escaped_of_meets? h
  traceless := meets?_filter_of_meets? h
  cancelled := cancelled_iff_of_meets? h
  atWork _ _ mem := tells_of_meets? h mem rfl
  overReport _ _ mem := tells_of_meets? h mem rfl
  spares := spares_of_meets? h
  answers _ handedOver unfinished settled :=
    exists_meets_of_allSettled h handedOver unfinished settled

/-- Tasks that break down at each of the three places, and one that ends well. -/
def mishaps : List Incident :=
  [.given "reader" (.ok []), .given "opener" (.error (some "no port")), .given "parser" (.ok []),
    .given "writer" (.ok []), .awaited, .settled 2 (.failed (.error (some "no reason"))),
    .settled 1 (.brokeDown (some "bad frame")), .went 0 [] [.cancelled true],
    .settled 0 .finished, .asked, .asked, .asked, .asked]

theorem breakdowns_by_place_mishaps : ∃ a, (ofFlag true).meets? mishaps = some a ∧
    a.ByPlace true mishaps ∧ a.escaped = [some "no port"] ∧ a.group.cancelled = true ∧
      a.collecting.bind Collecting.result = some (.error
        [⟨"parser", .brokeDown (some "bad frame")⟩, ⟨"writer", .lost⟩]) :=
  ⟨_, rfl, breakdowns_by_place true mishaps rfl, rfl, rfl, rfl⟩

/-- A task that breaks down over the report of its failure. -/
def unreported : List Incident :=
  [.given "x" (.ok []), .settled 0 (.failed (.error (some "no reason"))), .awaited, .asked, .asked]

/-- A task that breaks down when it is opened. -/
def unopened : List Incident :=
  [.given "x" (.error (some "no port")), .awaited, .asked]

/-- **Not every breakdown stays in the group**, neither one over a report nor one at an opening. -/
theorem exists_not_contains :
    (∃ a, (ofFlag true).meets? unreported = some a ∧ ¬ a.Contains true unreported) ∧
      ∃ a, (ofFlag true).meets? unopened = some a ∧ ¬ a.Contains true unopened := by
  refine ⟨⟨_, rfl, fun contains => ?_⟩, ⟨_, rfl, fun contains => ?_⟩⟩
  · have cancelled := contains.cancels.2 (.inr ⟨rfl, _, .tail _ (.head _), rfl⟩)
    cases cancelled
  · cases contains.returns

end Affair
end WorkGroup
end ApiGraph
