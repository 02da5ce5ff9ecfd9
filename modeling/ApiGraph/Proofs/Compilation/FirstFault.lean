/-
# The first fault decides

A document is compiled by a walk that enters a key before what is under it and leaves it behind
(`Outline.traverse`), so that the frames that it has entered are the way to the entity that is
being compiled, however many other ones came before (`exec_traverse`).

What stops the compilation of one entity does not depend on the entities before it, and so it is
known from the entity alone (`Document.halt?`).  The walk ends with the first entity that is
stopped, and there (`ensures_halts_first`): the document fails with what stopped it, and if that
was a hook that broke down, the problem says where (`compile_eq_error_iff`).
-/

import ApiGraph.Proofs.Compilation.Faults
import ApiGraph.Proofs.Compilation.Locations

namespace ApiGraph

open Document (Entity Outline Tags)
open Compile

/-! ## Entering and leaving -/

namespace Document.Outline

mutual

/-- Walks through an outline from the current place: an entity is compiled before what is inside
it, and a key is entered before what is under it and left behind it. -/
def traverse : Outline → Compile Unit
  | .map entries => traverseEntries entries
  | .sequence items => traverseItems 0 items
  | .union none => pure ()
  | .union (some active) => traverse active
  | .record none fields => traverseFields fields
  | .record (some entity) fields => do
    entity.compile
    traverseFields fields
  | .scalar entity => entity.compile

/-- Walks through the entries of a map. -/
def traverseEntries : List (String × Outline) → Compile Unit
  | [] => pure ()
  | (key, node) :: rest => do
    modify (·.push key {})
    traverse node
    modify (·.pop)
    traverseEntries rest

/-- Walks through the items of a sequence from an index on. -/
def traverseItems (index : Nat) : List Outline → Compile Unit
  | [] => pure ()
  | node :: rest => do
    modify (·.push (toString index) {})
    traverse node
    modify (·.pop)
    traverseItems (index + 1) rest

/-- Walks through the fields of a record. -/
def traverseFields : List (String × Tags × Outline) → Compile Unit
  | [] => pure ()
  | (name, tags, node) :: rest => do
    modify (·.push name tags)
    traverse node
    modify (·.pop)
    traverseFields rest

end

end Document.Outline

section Traversal

variable {S : Settings}

/-- Compiles visited entities, and goes to a place. -/
def Visit.compileAll (frames : List Frame) (vs : List Visit) : Compile Unit := do
  vs.forM Visit.compile
  modify ({ · with frames })

namespace Visit

variable {frames : List Frame} {vs ws : List Visit} {c : Context}

/-- A visit compiles its entity at its frames. -/
theorem exec_compile (v : Visit) :
    v.compile.exec S c = v.entity.compile.exec S { c with frames := v.frames } := rfl

/-- Without a visit the frames are set back. -/
theorem exec_compileAll_nil :
    (compileAll frames []).exec S c = (.ok (), { c with frames }) := rfl

/-- Visits are made one after the other, until one stops. -/
theorem exec_compileAll_cons (v : Visit) :
    (compileAll frames (v :: vs)).exec S c =
      match v.entity.compile.exec S { c with frames := v.frames } with
      | (.ok _, c') => (compileAll frames vs).exec S c'
      | (.error stop, c') => (.error stop, c') := by
  rw [compileAll, List.forM_eq_forM, List.forM_cons, bind_assoc, exec_bind, exec_compile]
  rcases v.entity.compile.exec S { c with frames := v.frames } with ⟨stop | u, c'⟩ <;> rfl

/-- Where a walk stood before does not matter to the entities that it visits. -/
theorem exec_compileAll_frames (frames' : List Frame) :
    (compileAll frames vs).exec S { c with frames := frames' } =
      (compileAll frames vs).exec S c := by
  cases vs with
  | nil => rfl
  | cons v rest => rw [exec_compileAll_cons, exec_compileAll_cons]

/-- A walk may go to any place in between. -/
theorem exec_compileAll_append (frames' : List Frame) :
    (compileAll frames (vs ++ ws)).exec S c =
      match (compileAll frames' vs).exec S c with
      | (.ok _, c') => (compileAll frames ws).exec S c'
      | (.error stop, c') => (.error stop, c') := by
  induction vs generalizing c with
  | nil => exact (exec_compileAll_frames frames').symm
  | cons v rest ih =>
    rw [List.cons_append, exec_compileAll_cons, exec_compileAll_cons]
    rcases v.entity.compile.exec S { c with frames := v.frames } with ⟨stop | u, c'⟩
    · rfl
    · exact ih

/-- A walk ends where it is to go. -/
theorem frames_of_exec_compileAll {u : Unit} {c' : Context}
    (h : (compileAll frames vs).exec S c = (.ok u, c')) : c'.frames = frames := by
  have ensures : (compileAll frames vs).Ensures S c (fun _ c' => c'.frames = frames) AnyStop :=
    .skip fun _ _ => ensures_modify rfl
  exact ensures.of_exec_ok h

end Visit

namespace Document.Outline

/-- An entity is compiled where the walk stands, and the walk stays there. -/
theorem exec_compile_entity (e : Entity) (c : Context) :
    e.compile.exec S c = (Visit.compileAll c.frames [⟨c.frames, e⟩]).exec S c := by
  rw [Visit.exec_compileAll_cons]
  rcases run : e.compile.exec S c with ⟨stop | u, c'⟩
  · rfl
  · obtain ⟨a, deposits⟩ := (ensures_compile e).of_exec_ok run
    simp only [Visit.exec_compileAll_nil, ← deposits.gains.frames]

/-- Going into a key, through what is under it and out again, and then on. -/
theorem exec_enter {x y : Compile Unit} {key : String} {tags : Tags}
    {vs ws : List Visit} {c : Context}
    (inside : ∀ c', c'.frames = Frame.enter c.frames key tags →
      x.exec S c' = (Visit.compileAll c'.frames vs).exec S c')
    (behind : ∀ c', c'.frames = c.frames →
      y.exec S c' = (Visit.compileAll c.frames ws).exec S c') :
    (do modify (·.push key tags); x; modify (·.pop); y : Compile Unit).exec S c =
      (Visit.compileAll c.frames (vs ++ ws)).exec S c := by
  rw [exec_bind]
  change (x >>= fun _ => _).exec S (c.push key tags) = _
  rw [exec_bind, inside _ rfl, Visit.exec_compileAll_append (Frame.enter c.frames key tags)]
  have moved : (Visit.compileAll (Frame.enter c.frames key tags) vs).exec S (c.push key tags) =
      (Visit.compileAll (Frame.enter c.frames key tags) vs).exec S c :=
    Visit.exec_compileAll_frames _
  rw [show (c.push key tags).frames = Frame.enter c.frames key tags from rfl, moved]
  rcases run : (Visit.compileAll (Frame.enter c.frames key tags) vs).exec S c with ⟨stop | u, c'⟩
  · rfl
  · have stands := Visit.frames_of_exec_compileAll run
    have left : c'.pop.frames = c.frames := by
      rw [Context.pop, stands]
      rfl
    change y.exec S c'.pop = _
    rw [behind _ left]
    exact Visit.exec_compileAll_frames _

mutual

/-- **Entering and leaving keys** leads to every entity on the way that is its own, and nowhere
else. -/
theorem exec_traverse : ∀ (o : Outline) (c : Context),
    o.traverse.exec S c = (Visit.compileAll c.frames (o.visits c.frames)).exec S c
  | .map entries, c => by rw [traverse, visits, exec_traverseEntries entries]
  | .sequence items, c => by rw [traverse, visits, exec_traverseItems 0 items]
  | .union none, c => rfl
  | .union (some active), c => by rw [traverse, visits, exec_traverse active]
  | .record none fields, c => by rw [traverse, visits, exec_traverseFields fields]
  | .record (some entity) fields, c => by
    have entered : (Outline.record (some entity) fields).visits c.frames =
        [⟨c.frames, entity⟩] ++ fieldVisits c.frames fields := by
      rw [visits, List.singleton_append]
    rw [traverse, exec_bind, entered, Visit.exec_compileAll_append c.frames, exec_compile_entity]
    rcases run : (Visit.compileAll c.frames [⟨c.frames, entity⟩]).exec S c with ⟨stop | u, c'⟩
    · rfl
    · have stands := Visit.frames_of_exec_compileAll run
      simp only [exec_traverseFields fields c', stands]
  | .scalar entity, c => by rw [traverse, visits, exec_compile_entity]

/-- Traversing entries makes the visits to them. -/
theorem exec_traverseEntries : ∀ (entries : List (String × Outline)) (c : Context),
    (traverseEntries entries).exec S c =
      (Visit.compileAll c.frames (entryVisits c.frames entries)).exec S c
  | [], c => rfl
  | (key, node) :: rest, c => by
    rw [traverseEntries, entryVisits]
    refine exec_enter (fun c' h => ?_) fun c' h => ?_
    · rw [exec_traverse node c', h]
    · rw [exec_traverseEntries rest c', h]

/-- Traversing items makes the visits to them. -/
theorem exec_traverseItems : ∀ (index : Nat) (items : List Outline) (c : Context),
    (traverseItems index items).exec S c =
      (Visit.compileAll c.frames (itemVisits c.frames index items)).exec S c
  | _, [], c => rfl
  | index, node :: rest, c => by
    rw [traverseItems, itemVisits]
    refine exec_enter (fun c' h => ?_) fun c' h => ?_
    · rw [exec_traverse node c', h]
    · rw [exec_traverseItems (index + 1) rest c', h]

/-- Traversing fields makes the visits to them. -/
theorem exec_traverseFields : ∀ (fields : List (String × Tags × Outline)) (c : Context),
    (traverseFields fields).exec S c =
      (Visit.compileAll c.frames (fieldVisits c.frames fields)).exec S c
  | [], c => rfl
  | (name, tags, node) :: rest, c => by
    rw [traverseFields, fieldVisits]
    refine exec_enter (fun c' h => ?_) fun c' h => ?_
    · rw [exec_traverse node c', h]
    · rw [exec_traverseFields rest c', h]

end

/-- **The walk of an outline** enters and leaves its keys one by one. -/
theorem exec_traverse_eq_compile (o : Outline) (S : Settings) (c : Context) :
    o.traverse.exec S c = o.compile.exec S c :=
  exec_traverse o c

end Document.Outline

end Traversal

/-! ## The first fault -/

namespace Document

variable {d : Document} {S : Settings} {index : Nat} {name : String}

/-- Where a walk visits an entity of the document, with nothing compiled so far. -/
def contextOf (d : Document) (name : String) (v : Visit) : Context where
  frames := v.frames
  store := .empty 0 name
  contentType := d.defaultContentType

/-- How the compilation of a visited entity is stopped, if no other one was compiled. -/
def halt? (d : Document) (S : Settings) (name : String) (v : Visit) : Option Stop :=
  match v.entity.compile.exec S (d.contextOf name v) with
  | (.ok _, _) => none
  | (.error stop, _) => some stop

/-- An entity that is compiled alone is stopped by its fault. -/
theorem halt?_eq_fault? (d : Document) (S : Settings) (name : String) (v : Visit) :
    d.halt? S name v = v.entity.fault? S (d.contextOf name v) := by
  have found : v.entity.compile.Finds S _ (d.contextOf name v) _ := finds_fault v.entity
  have stops : v.entity.compile.Ensures S (d.contextOf name v) _ _ := ensures_compile v.entity
  rw [halt?]
  rcases run : v.entity.compile.exec S (d.contextOf name v) with ⟨stop | u, c'⟩
  · rcases (found.of_exec_error run).2 with fault | ⟨-, l, rfl⟩
    · exact fault.symm
    · -- there is no artifact that could be in the way
      obtain ⟨-, a, ha, -⟩ := stops.of_exec_error run l rfl
      cases ha
  · exact (found.of_exec_ok run).2.symm

/-- Where the walk has come to, the fault of a visited entity is that of the entity alone. -/
theorem fault?_eq_halt? {v : Visit} {c : Context} (document : c.store.document = name)
    (contentType : (∃ d', v.entity = .document d') ∨ c.contentType = d.defaultContentType) :
    v.entity.fault? S { c with frames := v.frames } = d.halt? S name v := by
  rw [halt?_eq_fault?]
  rcases contentType with ⟨d', root⟩ | same
  · rw [root]
    rfl
  · have stays : (d.contextOf name v).Stays { c with frames := v.frames } := ⟨rfl, document, same⟩
    exact Context.fault?_congr stays S v.entity

/-- The walk has compiled the visited entities `done` of a document. -/
structure Passed (d : Document) (S : Settings) (name : String) (done : List Visit)
    (c : Context) : Prop where
  halt : ∀ v ∈ done, d.halt? S name v = none
  document : c.store.document = name
  contentType : done ≠ [] → c.contentType = d.defaultContentType

/-- The walk of a document is stopped at the first of its entities that can be stopped. -/
structure HaltsFirst (d : Document) (S : Settings) (name : String) (before : List Visit) (v : Visit)
    (stop : Stop) (c : Context) : Prop where
  before : ∀ w ∈ before, d.halt? S name w = none
  location : c.location = v.place name
  blames : Blames (d.halt? S name v) stop

/-- The root is visited first. -/
theorem visits_eq_cons (d : Document) :
    ∃ rest, d.outline.visits [] = ⟨[], .document d⟩ :: rest := by
  rw [Document.outline, Outline.visits]
  exact ⟨_, rfl⟩

/-- Behind an entity of the document, the content type is the one that the document names. -/
theorem contentType_after {v : Visit} {c : Context} (visited : v ∈ d.outline.visits [])
    (h : (∃ d', v.entity = .document d') ∨ c.contentType = d.defaultContentType) :
    (c.after v.entity).contentType = d.defaultContentType := by
  obtain ⟨frames, entity⟩ := v
  cases entity with
  | document d' =>
    obtain rfl := eq_of_contains_document (exists_visit_iff.1 ⟨_, visited, rfl⟩)
    rfl
  | _ => exact h.resolve_left fun ⟨d', other⟩ => by cases other

/-- One entity more is compiled, or stops the walk. -/
theorem Passed.ensures_visit {done rest : List Visit} {v : Visit} {c : Context}
    (split : d.outline.visits [] = done ++ v :: rest) (h : d.Passed S name done c) :
    v.compile.Ensures S c (fun _ c' => d.Passed S name (done ++ [v]) c')
      fun stop c' => d.HaltsFirst S name done v stop c' := by
  have visited : v ∈ d.outline.visits [] := split ▸ List.mem_append_right _ (List.mem_cons_self ..)
  have first : (∃ d', v.entity = .document d') ∨ c.contentType = d.defaultContentType := by
    rcases done with _ | ⟨w, done⟩
    · obtain ⟨others, root⟩ := d.visits_eq_cons
      rw [root] at split
      exact .inl ⟨d, (List.cons.inj split).1 ▸ rfl⟩
    · exact .inr (h.contentType (List.cons_ne_nil _ _))
  have fault := fault?_eq_halt? (S := S) h.document first
  have found : v.entity.compile.Finds S _ { c with frames := v.frames } _ := finds_fault v.entity
  rw [fault] at found
  refine found.mono ?_ ?_
  · rintro u c' ⟨stays, none⟩
    refine ⟨fun w hw => ?_, ?_, fun _ => ?_⟩
    · rcases List.mem_append.1 hw with hw | hw
      · exact h.halt w hw
      · rw [List.mem_singleton.1 hw]
        exact none
    · rw [stays.document, Context.document_after]
      exact h.document
    · rw [stays.contentType]
      exact contentType_after visited first
  · rintro stop c' ⟨stays, blames⟩
    refine ⟨h.halt, ?_, blames⟩
    rw [stays.location, Context.location_after, Context.location, h.document]
    rfl

/-- **The walk of a document** compiles every entity, or is stopped at the first one that can be
stopped. -/
theorem ensures_halts_first (d : Document) :
    d.outline.compile.Ensures S { store := .empty index name }
      (fun _ _ => ∀ v ∈ d.outline.visits [], d.halt? S name v = none)
      (fun stop c' => ∃ before v after, d.outline.visits [] = before ++ v :: after ∧
        d.HaltsFirst S name before v stop c') := by
  refine ensures_get_bind (Ensures.bind (ensures_forM (I := d.Passed S name) _ ?_ ?_) ?_)
  · exact ⟨by simp, rfl, fun nonempty => absurd rfl nonempty⟩
  · intro done v rest c' split h
    exact (h.ensures_visit split).mono (fun _ _ h => h)
      fun stop c'' halts => ⟨done, v, rest, split, halts⟩
  · exact fun _ c' h => ensures_modify h.halt

/-- What is reported of the first entity of a document that can be stopped. -/
def firstProblem? (d : Document) (S : Settings) (name : String) : Option CompileError :=
  (d.outline.visits []).findSome? fun v => (d.halt? S name v).map (Stop.problem (v.place name))

/-- A document has no problem if no visit has to halt. -/
theorem firstProblem?_eq_none_iff :
    d.firstProblem? S name = none ↔ ∀ v ∈ d.outline.visits [], d.halt? S name v = none := by
  simp [firstProblem?]

/-- The first problem is that of the first visit that has to halt. -/
theorem firstProblem?_of_split {before after : List Visit} {v : Visit} {stop : Stop}
    (split : d.outline.visits [] = before ++ v :: after)
    (passed : ∀ w ∈ before, d.halt? S name w = none) (halt : d.halt? S name v = some stop) :
    d.firstProblem? S name = some (stop.problem (v.place name)) := by
  have skipped : before.findSome? (fun w => (d.halt? S name w).map (Stop.problem (w.place name))) =
      none := List.findSome?_eq_none_iff.2 fun w hw => by rw [passed w hw]; rfl
  rw [firstProblem?, split, List.findSome?_append, skipped, Option.none_or, List.findSome?_cons,
    halt]
  rfl

/-- A document that is compiled has no entity that could be stopped. -/
theorem firstProblem?_of_compile {store : DocumentStore}
    (h : d.compile S index name = .ok store) : d.firstProblem? S name = none := by
  obtain ⟨c, none, -⟩ := of_compile (ensures_halts_first d) h
  exact firstProblem?_eq_none_iff.2 none

/-- A document that is not compiled fails with the problem of the first entity that can be
stopped, unless two entities have one place. -/
theorem firstProblem?_of_compile_error {e : CompileError}
    (h : d.compile S index name = .error e) : d.firstProblem? S name = some e ∨
      (∃ l, e = .duplicateLocation l) ∧ DocumentStore.Clash name (d.outline.visits []) := by
  obtain ⟨stop, c, ⟨⟨before, v, after, split, halt⟩, clash⟩, rfl⟩ := of_compile_error
    ((ensures_halts_first d).and (DocumentStore.ensures_outline d.outline)) h
  rcases halt.blames with fault | ⟨-, l, rfl⟩
  · left
    rw [firstProblem?_of_split split halt.before fault, halt.location]
  · exact .inr ⟨⟨l, rfl⟩, clash l rfl⟩

/-- **What becomes of a document** is decided by the first of its entities that can be stopped. -/
theorem compile_eq_error_iff (distinct : ((d.outline.visits []).map (Visit.place name)).Nodup)
    {e : CompileError} : d.compile S index name = .error e ↔ d.firstProblem? S name = some e := by
  constructor
  · intro h
    exact (firstProblem?_of_compile_error h).resolve_right fun ⟨_, clash⟩ => clash distinct
  · intro h
    cases hc : d.compile S index name with
    | ok store => rw [firstProblem?_of_compile hc] at h; cases h
    | error e' =>
      rcases firstProblem?_of_compile_error hc with h' | ⟨-, clash⟩
      · rw [h] at h'
        exact congrArg _ (Option.some.inj h').symm
      · exact absurd distinct clash

/-- **A document without such an entity** is compiled. -/
theorem exists_compile_iff (distinct : ((d.outline.visits []).map (Visit.place name)).Nodup) :
    (∃ store, d.compile S index name = .ok store) ↔
      ∀ v ∈ d.outline.visits [], d.halt? S name v = none := by
  rw [← firstProblem?_eq_none_iff]
  constructor
  · rintro ⟨store, h⟩
    exact firstProblem?_of_compile h
  · intro none
    cases hc : d.compile S index name with
    | ok store => exact ⟨store, rfl⟩
    | error e =>
      rw [(compile_eq_error_iff distinct).1 hc] at none
      cases none

end Document
end ApiGraph
