/-
# Incidents in a work group

What happens to a group together with what comes of its tasks: how opening a task ends, which is
before the group knows of it, and how its work ends.  An affair is a group in use and the
breakdowns that got out of it.

The group sees a history of it (`Incident.happening?`), which says nothing of tasks that broke down
when they were opened.  So incidents are a history and the breakdowns that got out
(`Affair.of_meets?`), and what is true after a history is true after incidents
(`Affair.sound_of_meets?`).

The single thread (`WorkGroup.run`) makes one list of incidents of many
(`Affair.exists_meets_of_run`).
-/

import ApiGraph.WorkGroup.Schedule
import ApiGraph.Proofs.WorkGroup.Histories

namespace ApiGraph
namespace WorkGroup

/-- What may happen to a group, with what comes of its tasks. -/
inductive Incident where
  /-- Someone gave a task, and opening it came to this. -/
  | given (name : String) (opening : Except (Option String) (List Action))
  /-- The work of a task ended. -/
  | settled (i : Nat) (ending : Ending)
  /-- Someone cancelled the group. -/
  | cancelled
  /-- A task did something. -/
  | went (i : Nat) (actions : List Action) (notes : List Note)
  /-- The group was handed over to someone who waits for it. -/
  | awaited
  /-- Who waits asked the next task, or came to the end. -/
  | asked

/-- What happens to the group, if anything does. -/
def Incident.happening? : Incident → Option Happening
  | given name (.ok actions) => some (.spawned name actions)
  | given _ (.error _) => none
  | settled i ending => some (.ended i ending.outcome)
  | cancelled => some .cancelled
  | went i actions notes => some (.went i actions notes)
  | awaited => some .awaited
  | asked => some .asked

/-- The last words of a task that broke down when it was opened. -/
def Incident.escape? : Incident → Option (Option String)
  | given _ (.error words) => some words
  | _ => none

/-- The name of a task that was opened. -/
def Incident.opened? : Incident → Option String
  | given name (.ok _) => some name
  | _ => none

/-- A group in use, and the breakdowns that got out of it. -/
structure Affair extends Course where
  /-- The last words of those that struck someone who gave a task. -/
  escaped : List (Option String) := []

namespace Affair

/-- A group without tasks. -/
def ofFlag (cancelOnFailure : Bool) : Affair :=
  { toCourse := .ofFlag cancelOnFailure }

/-- What comes of something that happens to the group. -/
def happen? (a : Affair) (x : Happening) : Option Affair :=
  (a.toCourse.happen? x).map fun c => { a with toCourse := c }

/-- What comes of an incident, if there can be one: a group that was handed over gets no further
tasks, and the work of a task ends once. -/
def meet? (a : Affair) : Incident → Option Affair
  | .given name opening =>
    if a.collecting.isSome then none
    else
      match a.group.give name opening with
      | (.ok (), group) => some { a with group }
      | (.error words, group) => some { a with group, escaped := a.escaped ++ [words] }
  | .settled i ending => do
    let t ← a.group.running? i
    return { a with group := a.group.settle i t ending }
  | .cancelled => a.happen? .cancelled
  | .went i actions notes => a.happen? (.went i actions notes)
  | .awaited => a.happen? .awaited
  | .asked => a.happen? .asked

/-- What comes of incidents, if there can be such. -/
def meets? (a : Affair) (incidents : List Incident) : Option Affair :=
  incidents.foldlM meet? a

end Affair

/-! ## Incidents as the group sees them -/

/-- What happens to the group. -/
def history (incidents : List Incident) : List Happening :=
  incidents.filterMap Incident.happening?

namespace Incident

variable {x : Incident} {i : Nat} {outcome : Except TaskFault Unit}

/-- Something happens to the group unless an opening broke down. -/
theorem happening?_eq_none_iff :
    x.happening? = none ↔ ∃ name words, x = .given name (.error words) := by
  cases x with
  | given name opening => cases opening <;> simp [happening?]
  | _ => simp [happening?]

/-- A breakdown gets out of the group only where a task is opened. -/
theorem escape?_eq_some_iff {words : Option String} :
    x.escape? = some words ↔ ∃ name, x = .given name (.error words) := by
  cases x with
  | given name opening => cases opening <;> simp [escape?]
  | _ => simp [escape?]

/-- What the group sees of an incident, no breakdown gets out of. -/
theorem escape?_eq_none_of_happening {y : Happening} (h : x.happening? = some y) :
    x.escape? = none := by
  cases x with
  | given name opening =>
    cases opening with
    | ok actions => rfl
    | error words => cases h
  | _ => rfl

/-- The group sees every incident that no breakdown gets out of. -/
theorem exists_happening (h : x.escape? = none) : ∃ y, x.happening? = some y := by
  refine Option.ne_none_iff_exists'.1 fun unseen => ?_
  obtain ⟨name, words, rfl⟩ := happening?_eq_none_iff.1 unseen
  cases h

/-- The group sees an end of a task just where its work settles. -/
theorem happening?_eq_ended_iff : x.happening? = some (.ended i outcome) ↔
    ∃ ending, x = .settled i ending ∧ ending.outcome = outcome := by
  cases x with
  | given name opening => cases opening <;> simp [happening?]
  | settled j ending =>
    simp only [happening?, Option.some.injEq, Happening.ended.injEq, settled.injEq]
    constructor
    · rintro ⟨rfl, h⟩
      exact ⟨ending, ⟨rfl, rfl⟩, h⟩
    · rintro ⟨_, ⟨rfl, rfl⟩, h⟩
      exact ⟨rfl, h⟩
  | _ => simp [happening?]

/-- The group sees a cancellation just where someone cancels. -/
theorem happening?_eq_cancelled_iff : x.happening? = some .cancelled ↔ x = .cancelled := by
  cases x with
  | given name opening => cases opening <;> simp [happening?]
  | _ => simp [happening?]

/-- The tasks that the group has are those that were opened. -/
theorem bind_spawned?_happening? (x : Incident) :
    x.happening?.bind Happening.spawned? = x.opened? := by
  cases x with
  | given name opening => cases opening <;> rfl
  | _ => rfl

end Incident

section History

variable {incidents : List Incident} {i : Nat} {outcome : Except TaskFault Unit}

/-- The history has the ends of the tasks whose work settled. -/
theorem ended_mem_history_iff : .ended i outcome ∈ history incidents ↔
    ∃ ending, .settled i ending ∈ incidents ∧ ending.outcome = outcome := by
  simp only [history, List.mem_filterMap, Incident.happening?_eq_ended_iff]
  constructor
  · rintro ⟨_, mem, ending, rfl, h⟩
    exact ⟨ending, mem, h⟩
  · rintro ⟨ending, mem, h⟩
    exact ⟨_, mem, ending, rfl, h⟩

/-- The history has a cancellation if the incidents have one. -/
theorem cancelled_mem_history_iff : .cancelled ∈ history incidents ↔ .cancelled ∈ incidents := by
  simp [history, List.mem_filterMap, Incident.happening?_eq_cancelled_iff]

/-- The names of the tasks are in the order in which the tasks were opened. -/
theorem names_history (incidents : List Incident) :
    names (history incidents) = incidents.filterMap Incident.opened? := by
  simp only [names, history, List.filterMap_filterMap, Incident.bind_spawned?_happening?]

end History

namespace Affair

variable {a b : Affair} {x : Incident} {y : Happening}

/-- What the group sees of an incident is what happens to it. -/
theorem meet?_of_happening (h : x.happening? = some y) : a.meet? x = a.happen? y := by
  cases x with
  | given name opening =>
    cases opening with
    | error words => cases h
    | ok actions =>
      cases h
      simp only [meet?, give, happen?, Course.happen?]
      split <;> rfl
  | settled i ending =>
    cases h
    simp only [meet?, happen?, Course.happen?, settle]
    cases a.group.running? i <;> rfl
  | _ => cases h; rfl

/-- A task that breaks down while it is opened leaves the group as it was.  Only the breakdown
gets out. -/
theorem meet?_given_error (name : String) (words : Option String) :
    a.meet? (.given name (.error words)) =
      if a.collecting.isSome then none else some { a with escaped := a.escaped ++ [words] } :=
  rfl

/-- What happens to a group adds no breakdown to those that got out. -/
theorem happen?_eq_some_iff : a.happen? y = some b ↔
    a.toCourse.happen? y = some b.toCourse ∧ b.escaped = a.escaped := by
  rw [happen?, Option.map_eq_some_iff]
  constructor
  · rintro ⟨c, h, rfl⟩
    exact ⟨h, rfl⟩
  · rintro ⟨h, same⟩
    exact ⟨_, h, same ▸ rfl⟩

/-- Incidents are met one after the other. -/
theorem meets?_cons {incidents : List Incident} :
    a.meets? (x :: incidents) = some b ↔ ∃ next, a.meet? x = some next ∧
      next.meets? incidents = some b := by
  rw [meets?, List.foldlM_cons]
  exact Option.bind_eq_some_iff

/-- Incidents may be met in two parts. -/
theorem meets?_append {before after : List Incident} :
    a.meets? (before ++ after) = some b ↔ ∃ next, a.meets? before = some next ∧
      next.meets? after = some b := by
  rw [meets?, List.foldlM_append]
  exact Option.bind_eq_some_iff

/-- **One incident is what happens to the group, or an escape.** -/
theorem of_meet? (h : a.meet? x = some b) :
    a.toCourse.run? x.happening?.toList = some b.toCourse ∧
      b.escaped = a.escaped ++ x.escape?.toList := by
  cases seen : x.happening? with
  | none =>
    obtain ⟨name, words, rfl⟩ := Incident.happening?_eq_none_iff.1 seen
    rw [meet?_given_error, Option.ite_none_left_eq_some, Option.some.injEq] at h
    obtain ⟨-, rfl⟩ := h
    exact ⟨rfl, rfl⟩
  | some y =>
    have quiet : x.escape? = none := Incident.escape?_eq_none_of_happening seen
    rw [meet?_of_happening seen, happen?_eq_some_iff] at h
    obtain ⟨happens, same⟩ := h
    rw [quiet, same]
    exact ⟨by simp [Course.run?, happens], (List.append_nil _).symm⟩

/-- **Incidents are a history of the group, and escapes.** -/
theorem of_meets? {incidents : List Incident} : ∀ {a b : Affair}, a.meets? incidents = some b →
    a.toCourse.run? (history incidents) = some b.toCourse ∧
      b.escaped = a.escaped ++ incidents.filterMap Incident.escape? := by
  induction incidents with
  | nil =>
    rintro a b ⟨⟩
    exact ⟨rfl, (List.append_nil _).symm⟩
  | cons x more ih =>
    intro a b h
    obtain ⟨next, first, rest⟩ := meets?_cons.1 h
    obtain ⟨run, escaped⟩ := of_meet? first
    obtain ⟨run', escaped'⟩ := ih rest
    have histories : history (x :: more) = x.happening?.toList ++ history more := by
      cases seen : x.happening? <;> simp [history, seen]
    have escapes : (x :: more).filterMap Incident.escape? =
        x.escape?.toList ++ more.filterMap Incident.escape? := by
      cases seen : x.escape? <;> simp [seen]
    constructor
    · rw [histories, Course.run?, List.foldlM_append]
      exact Option.bind_eq_some_iff.2 ⟨_, run, run'⟩
    · rw [escaped', escaped, escapes, List.append_assoc]

/-- Without escapes, incidents can be whenever the group can see what it would see. -/
theorem meets?_of_run? {incidents : List Incident} : ∀ {a : Affair} {c : Course},
    (∀ x ∈ incidents, x.escape? = none) → a.toCourse.run? (history incidents) = some c →
    a.meets? incidents = some { a with toCourse := c } := by
  induction incidents with
  | nil =>
    rintro a c - ⟨⟩
    rfl
  | cons x more ih =>
    intro a c none run
    obtain ⟨noEscape, none⟩ := List.forall_mem_cons.1 none
    obtain ⟨y, seen⟩ := Incident.exists_happening noEscape
    rw [show history (x :: more) = y :: history more by simp [history, seen]] at run
    obtain ⟨next, happens, rest⟩ := Option.bind_eq_some_iff.1 run
    exact meets?_cons.2 ⟨{ a with toCourse := next },
      (meet?_of_happening seen).trans (happen?_eq_some_iff.2 ⟨happens, rfl⟩), ih none rest⟩

/-- What a group makes of a history is true of it in an affair. -/
theorem sound_of_meets? {flag : Bool} {incidents : List Incident}
    (h : (ofFlag flag).meets? incidents = some a) :
    a.toCourse.Sound flag (history incidents) :=
  (Course.Sound.ofFlag flag).of_run (history incidents) _ _ (of_meets? h).1

end Affair

/-! ## The single thread -/

/-- A group can come to be another one, whoever waits for it and whatever got out of it. -/
def Reaches (g g' : WorkGroup) : Prop :=
  ∀ w escaped, ∃ incidents,
    (Affair.mk ⟨g, w⟩ escaped).meets? incidents = some ⟨⟨g', w⟩, escaped⟩

namespace Reaches

variable {g g' g'' : WorkGroup} {i : Nat} {t : Task}

/-- Without any incident a group is where it was. -/
theorem refl (g : WorkGroup) : g.Reaches g :=
  fun _ _ => ⟨[], rfl⟩

/-- Incidents after incidents are incidents. -/
theorem trans (h : g.Reaches g') (h' : g'.Reaches g'') : g.Reaches g'' := fun w escaped => by
  obtain ⟨incidents, run⟩ := h w escaped
  obtain ⟨more, run'⟩ := h' w escaped
  exact ⟨incidents ++ more, Affair.meets?_append.2 ⟨_, run, run'⟩⟩

/-- One incident is a list of incidents. -/
theorem of_meet {x : Incident}
    (h : ∀ w escaped, (Affair.mk ⟨g, w⟩ escaped).meet? x = some ⟨⟨g', w⟩, escaped⟩) :
    g.Reaches g' :=
  fun w escaped => ⟨[x], Affair.meets?_cons.2 ⟨_, h w escaped, rfl⟩⟩

/-- A task does something. -/
theorem went (running : g.running? i = some t) (actions : List Action) (notes : List Note) :
    g.Reaches (g.setTask i { t with actions, notes }) :=
  of_meet (x := .went i actions notes) fun _ _ => by
    simp [Affair.meet?, Affair.happen?, Course.happen?, running]

/-- The work of a task ends. -/
theorem settled (running : g.running? i = some t) (ending : Ending) :
    g.Reaches (g.settle i t ending) :=
  of_meet (x := .settled i ending) fun _ _ => by simp [Affair.meet?, running]

/-- Cancelling is an incident. -/
theorem cancelled (g : WorkGroup) : g.Reaches g.cancel :=
  of_meet (x := .cancelled) fun _ _ => rfl

end Reaches

/-- The next action of a task is something that the task does, and perhaps a cancellation. -/
theorem reaches_step {g g' : WorkGroup} {i : Nat} (h : g.step? i = some g') : g.Reaches g' := by
  obtain ⟨t, lookup, h⟩ := Option.bind_eq_some_iff.1 h
  dsimp only at h
  split at h
  case isTrue => cases h
  case isFalse still =>
    have running : g.running? i = some t := by simp [running?, lookup, still]
    split at h
    case h_1 => cases h; exact .settled running _
    case h_2 action rest _ =>
      have go := Reaches.went running rest t.notes
      have stop (ending) : g.Reaches (g.settle i { t with actions := rest } ending) :=
        .settled running ending
      cases action with
      | note text => cases h; exact .went running rest _
      | check => cases h; exact .went running rest _
      | pause => cases h; exact go
      | await =>
        simp only [Option.ite_none_right_eq_some, Option.some.injEq] at h
        exact h.2 ▸ go
      | cancel => cases h; exact go.trans (.cancelled _)
      | stopIfCancelled =>
        simp only [Option.some.injEq] at h
        split at h
        case isTrue => cases h; exact stop _
        case isFalse => cases h; exact go
      | fail | breakDown | failUnreported => cases h; exact stop _

/-- The turn of one task is a list of incidents, by induction on the steps that it may take. -/
theorem reaches_turnWithin : ∀ (limit : Nat) (g : WorkGroup) (i : Nat),
    g.Reaches (g.turnWithin limit i).1
  | 0, g, _ => .refl g
  | limit + 1, g, i => by
    rw [turnWithin]
    cases h : g.step? i with
    | none => exact .refl g
    | some next =>
      dsimp only
      split
      · exact reaches_step h
      · exact (reaches_step h).trans (reaches_turnWithin limit next i)

/-- The same without a bound, since a turn takes no more steps than its task has. -/
theorem reaches_turn (g : WorkGroup) (i : Nat) : g.Reaches (g.turn i).1 := by
  unfold turn
  split
  · exact reaches_turnWithin _ g i
  · exact .refl g

/-- The thread itself does nothing to the group. -/
theorem reaches_next {s s' : Schedule} (h : s.next? = some s') : s.group.Reaches s'.group := by
  have turn (s : Schedule) (i : Nat) : (s.giveTurn i).group = (s.group.turn i).1 := by
    unfold Schedule.giveTurn Schedule.wake Schedule.dismiss
    dsimp only
    repeat' split
    all_goals rfl
  unfold Schedule.next? at h
  split at h
  · cases h
    rw [turn]
    exact reaches_turn _ _
  · simp only [Option.ite_none_left_eq_some, Option.some.injEq] at h
    exact h.2 ▸ .refl _
  · cases h
    exact .refl _

/-- A run is a list of incidents, by induction on its turns. -/
theorem reaches_runWithin : ∀ (limit : Nat) (s : Schedule),
    s.group.Reaches (s.runWithin limit).group
  | 0, s => .refl _
  | limit + 1, s => by
    rw [Schedule.runWithin]
    cases h : s.next? with
    | none => exact .refl _
    | some next => exact (reaches_next h).trans (reaches_runWithin limit next)

/-- **The single thread makes one list of incidents of many.** -/
theorem Affair.exists_meets_of_run (g : WorkGroup) (w : Option Collecting)
    (escaped : List (Option String)) :
    ∃ incidents, (Affair.mk ⟨g, w⟩ escaped).meets? incidents = some ⟨⟨g.run, w⟩, escaped⟩ :=
  reaches_runWithin _ (Schedule.ofGroup g) w escaped

/-- The single thread makes one history of many. -/
theorem Course.exists_run_of_run (g : WorkGroup) (w : Option Collecting) :
    ∃ history, (Course.mk g w).run? history = some ⟨g.run, w⟩ := by
  obtain ⟨incidents, run⟩ := Affair.exists_meets_of_run g w []
  exact ⟨history incidents, (Affair.of_meets? run).1⟩

end WorkGroup
end ApiGraph
