/-
# What a compilation adds to its store

A compilation only ever adds to the store of its document: artifacts, and cells of the three
sorts, each behind those that are there (`DocumentStore.Gains`).  So what a cell was when it
was made, it stays, and the promises that are made for edges are the numbers of the cells that
come next (`DocumentStore.handles`).

What the cells lead to in other documents is noted in the order in which the cells are made.
-/

import ApiGraph.Proofs.Compilation.Edges
import ApiGraph.Proofs.Compilation.Execution
import ApiGraph.Proofs.FirstOccurrence

namespace ApiGraph

open Document (Entity)

namespace DocumentStore

section NoteExternal

variable (d : DocumentStore) (target : Location)

@[simp] theorem index_noteExternal : (d.noteExternal target).index = d.index := by
  rw [noteExternal]; split <;> rfl

@[simp] theorem document_noteExternal : (d.noteExternal target).document = d.document := by
  rw [noteExternal]; split <;> rfl

@[simp] theorem artifacts_noteExternal : (d.noteExternal target).artifacts = d.artifacts := by
  rw [noteExternal]; split <;> rfl

@[simp] theorem promises_noteExternal : (d.noteExternal target).promises = d.promises := by
  rw [noteExternal]; split <;> rfl

@[simp] theorem lists_noteExternal : (d.noteExternal target).lists = d.lists := by
  rw [noteExternal]; split <;> rfl

@[simp] theorem references_noteExternal :
    (d.noteExternal target).references = d.references := by
  rw [noteExternal]; split <;> rfl

end NoteExternal

end DocumentStore

/-- The place that a promise asks for, if it asks for one. -/
def PromiseCell.target? (p : PromiseCell) : Option Location :=
  match p.query with
  | .path target => some target
  | .condition _ _ => none

/-- The places that cells lead to. -/
def cellTargets (ps : List PromiseCell) (rs : List ReferenceSlot) : List Location :=
  ps.filterMap PromiseCell.target? ++ rs.map (·.target)

/-- The other documents, as seen from `document`, that places are in. -/
def otherDocuments (document : String) (targets : List Location) : List String :=
  (targets.map (·.document)).filter (· ≠ document)

/-- The other documents of more targets come behind those of the first ones. -/
theorem otherDocuments_append (document : String) (targets targets' : List Location) :
    otherDocuments document (targets ++ targets') =
      otherDocuments document targets ++ otherDocuments document targets' := by
  simp [otherDocuments]

/-- The other documents are those of the targets, but for the document itself. -/
theorem mem_otherDocuments {document name : String} {targets : List Location} :
    name ∈ otherDocuments document targets ↔
      name ≠ document ∧ ∃ target ∈ targets, target.document = name := by
  simp [otherDocuments, and_comm]

/-- Where an edge leads is noted, unless it is in the document itself. -/
theorem DocumentStore.externals_noteExternal (d : DocumentStore) (target : Location) :
    (d.noteExternal target).externals =
      noted d.externals (otherDocuments d.document [target]) := by
  rw [noteExternal]
  by_cases own : target.document = d.document
  · simp [otherDocuments, own]
  · by_cases known : d.externals.contains target.document
    · have member : target.document ∈ d.externals := by simpa using known
      simp [otherDocuments, own, noted_singleton_of_mem member, member]
    · have fresh : target.document ∉ d.externals := by simpa using known
      simp [otherDocuments, own, noted_singleton_of_notMem fresh, fresh]

/-- The store `d'` has what `d` has, and behind it what is listed. -/
structure DocumentStore.Gains (d : DocumentStore) (as : List Artifact) (ps : List PromiseCell)
    (ls : List ListCell) (rs : List ReferenceSlot) (d' : DocumentStore) : Prop where
  index : d'.index = d.index
  document : d'.document = d.document
  artifacts : d'.artifacts.toList = d.artifacts.toList ++ as
  promises : d'.promises.toList = d.promises.toList ++ ps
  lists : d'.lists.toList = d.lists.toList ++ ls
  references : d'.references.toList = d.references.toList ++ rs
  externals : ps = [] ∨ rs = [] →
    d'.externals = noted d.externals (otherDocuments d.document (cellTargets ps rs))

/-- The store of `c'` has gained what is listed, and the walk stands where it stood. -/
structure Context.Gains (c : Context) (as : List Artifact) (ps : List PromiseCell)
    (ls : List ListCell) (rs : List ReferenceSlot) (c' : Context) : Prop where
  frames : c'.frames = c.frames
  store : c.store.Gains as ps ls rs c'.store

/-- The promises that are made for edges when they are asked for next. -/
def DocumentStore.handles (d : DocumentStore) (es : List Edge) : List Handle :=
  es.mapIdx fun i e => ⟨e.label, ⟨⟨d.index, d.promises.size + i⟩⟩⟩

/-- The promise that is made for a list cell when it is asked for next. -/
def DocumentStore.listHandles (d : DocumentStore) (ls : List ListCell) : List ListHandle :=
  ls.map fun _ => ⟨.server, ⟨⟨d.index, d.lists.size⟩⟩⟩

section Gains

variable {c c' c'' : Context} {as as' : List Artifact} {ps ps' : List PromiseCell}
  {ls ls' : List ListCell} {rs rs' : List ReferenceSlot}

/-- A compilation that only adds to the store stays at its place. -/
theorem Context.Gains.location (h : c.Gains as ps ls rs c') : c'.location = c.location := by
  rw [Context.location, h.frames, h.store.document]
  rfl

/-- Nothing is gained where nothing is done. -/
theorem Context.Gains.refl (c : Context) : c.Gains [] [] [] [] c where
  frames := rfl
  store := ⟨rfl, rfl, by simp, by simp, by simp, by simp, fun _ => (noted_nil _).symm⟩

/-- Where the cells of one sort lead that are made one after the other. -/
theorem cellTargets_append (h : ps ++ ps' = [] ∨ rs ++ rs' = []) :
    cellTargets (ps ++ ps') (rs ++ rs') = cellTargets ps rs ++ cellTargets ps' rs' := by
  rcases h with none | none
  · obtain ⟨rfl, rfl⟩ := List.append_eq_nil_iff.1 none
    simp [cellTargets]
  · obtain ⟨rfl, rfl⟩ := List.append_eq_nil_iff.1 none
    simp [cellTargets]

/-- Gains come one behind the other. -/
theorem Context.Gains.trans (h : c.Gains as ps ls rs c') (h' : c'.Gains as' ps' ls' rs' c'') :
    c.Gains (as ++ as') (ps ++ ps') (ls ++ ls') (rs ++ rs') c'' where
  frames := h'.frames.trans h.frames
  store := {
    index := h'.store.index.trans h.store.index
    document := h'.store.document.trans h.store.document
    artifacts := by rw [h'.store.artifacts, h.store.artifacts, List.append_assoc]
    promises := by rw [h'.store.promises, h.store.promises, List.append_assoc]
    lists := by rw [h'.store.lists, h.store.lists, List.append_assoc]
    references := by rw [h'.store.references, h.store.references, List.append_assoc]
    externals := fun one => by
      have first : ps = [] ∨ rs = [] := one.imp (fun h => (List.append_eq_nil_iff.1 h).1)
        fun h => (List.append_eq_nil_iff.1 h).1
      have second : ps' = [] ∨ rs' = [] := one.imp (fun h => (List.append_eq_nil_iff.1 h).2)
        fun h => (List.append_eq_nil_iff.1 h).2
      rw [h'.store.externals second, h.store.externals first, h.store.document, ← noted_append,
        ← otherDocuments_append, cellTargets_append one] }

/-- Of edges that are asked for one after the other, the later ones get the cells behind those
of the earlier ones. -/
theorem Context.Gains.handles_append {es es' : List Edge}
    (h : c.Gains as (es.map (Edge.cell c.location)) ls rs c') :
    c.store.handles (es ++ es') = c.store.handles es ++ c'.store.handles es' := by
  have count : c'.store.promises.size = c.store.promises.size + es.length := by
    simpa using congrArg List.length h.store.promises
  simp only [DocumentStore.handles, List.mapIdx_append, h.store.index, count]
  congr 2
  funext i e
  rw [Nat.add_assoc, Nat.add_comm i]

/-- The edges were asked for, and the promises made for them are `hs`. -/
structure Context.Requested (c : Context) (es : List Edge) (c' : Context) (hs : List Handle) :
    Prop where
  gains : c.Gains [] (es.map (Edge.cell c.location)) [] [] c'
  handles : hs = c.store.handles es

variable {es es' : List Edge} {hs hs' : List Handle}

/-- No edges, no handles. -/
theorem Context.Requested.nil (h : c.Gains [] [] [] [] c') : c.Requested [] c' [] :=
  ⟨h, rfl⟩

/-- A walk that makes promises stays at its place. -/
theorem Context.Requested.location (h : c.Requested es c' hs) : c'.location = c.location :=
  h.gains.location

/-- Edges that are asked for one after the other. -/
theorem Context.Requested.append (h : c.Requested es c' hs) (h' : c'.Requested es' c'' hs') :
    c.Requested (es ++ es') c'' (hs ++ hs') where
  gains := by
    have := h.gains.trans h'.gains
    rwa [h.location, ← List.map_append] at this
  handles := by rw [h.handles, h'.handles, h.gains.handles_append]

end Gains

/-! ## What the steps ensure -/

namespace Compile

open Context (Requested)

variable {α : Type} {settings : Settings} {c : Context} {E : Stop → Context → Prop}

/-- One promise is made for one edge, and its handle is the number of the next cell. -/
theorem requested_promiseTo (c : Context) (e : Edge) :
    c.Requested [e] (c.promiseTo e.label e.target).2
      (Body.handlesOf [(c.promiseTo e.label e.target).1]) := by
  refine ⟨⟨rfl, ?_⟩, rfl⟩
  simp only [Context.promiseTo, DocumentStore.promise, DocumentStore.noteQuery]
  exact ⟨by simp, by simp, by simp, by simp [Edge.cell], by simp, by simp,
    fun _ => DocumentStore.externals_noteExternal c.store e.target⟩

variable {place : Location}

/-- Promising a target requests the edge to it. -/
theorem ensures_promiseTo (l : Label) (target : Location) (sort : Edge.Sort) :
    (promiseTo l target).Ensures settings c
      (fun p c' => c.Requested [⟨l, target, sort⟩] c' (Body.handlesOf [p])) E :=
  ensures_modifyGet (requested_promiseTo c ⟨l, target, sort⟩)

/-- Promising an entity below requests the edge to this part. -/
theorem ensures_promiseChild (h : c.location = place) (l : Label) (path : List String) :
    (promiseChild l path).Ensures settings c
      (fun p c' => c.Requested [Edge.part l place path] c' (Body.handlesOf [p])) E := by
  subst h
  exact ensures_modifyGet (requested_promiseTo c (.part l c.location path))

/-- Promising a part requests an edge if the part is there. -/
theorem ensures_promisePart (h : c.location = place) (l : Label) (key : String) (x : Option α) :
    (promisePart l key x).Ensures settings c
      (fun p c' => c.Requested (Edge.ofPart l place key x) c' (Body.handlesOf p.toList)) E := by
  cases x with
  | none => exact ensures_pure (.nil (.refl c))
  | some x => exact (ensures_promiseChild h l [key]).map

/-- A promise for each item, in order. -/
theorem ensures_mapM_promise {β γ : Type} {l : Label} (edge : β → Edge) (promise : γ → Promise l)
    {f : β → Compile γ} (items : List β)
    (step : ∀ item c', c'.location = c.location → (f item).Ensures settings c'
      (fun v c'' => c'.Requested [edge item] c'' (Body.handlesOf [promise v])) E) :
    (items.mapM f).Ensures settings c
      (fun vs c' => c.Requested (items.map edge) c' (Body.handlesOf (vs.map promise))) E := by
  refine ensures_mapM (I := fun done values c' => c.Requested (done.map edge) c'
    (Body.handlesOf (values.map promise))) items (.nil (.refl c)) fun done item values c' h => ?_
  refine (step item c' h.gains.location).mono (fun v c'' h' => ?_) fun _ _ h => h
  simpa [Body.handlesOf] using h.append h'

/-- The same where the promises are all that is made. -/
theorem ensures_mapM_promise_only {β : Type} {l : Label} (edge : β → Edge)
    {f : β → Compile (Promise l)} (items : List β)
    (step : ∀ item c', c'.location = c.location → (f item).Ensures settings c'
      (fun p c'' => c'.Requested [edge item] c'' (Body.handlesOf [p])) E) :
    (items.mapM f).Ensures settings c
      (fun ps c' => c.Requested (items.map edge) c' (Body.handlesOf ps)) E := by
  simpa using ensures_mapM_promise edge id items step

/-- Promising the entries of a table requests an edge for each of them, in the table's order. -/
theorem ensures_promiseEntries (h : c.location = place) (l : Label) (key : String)
    (entries : Table α) :
    (promiseEntries l key entries).Ensures settings c
      (fun t c' => c.Requested (Edge.ofEntries l place key entries) c'
        (Body.handlesOf (t.map (·.2)))) E := by
  refine ensures_mapM_promise _ Prod.snd entries ?_
  rintro ⟨name, x⟩ c' h'
  exact (ensures_promiseChild (h'.trans h) l [key, name]).bind fun _ _ h'' => ensures_pure h''

/-- Promising the items of a list requests an edge for each number. -/
theorem ensures_promiseItems (h : c.location = place) (l : Label) (path : List String)
    (count : Nat) :
    (promiseItems l path count).Ensures settings c
      (fun ps c' => c.Requested (Edge.ofItems l place path count) c' (Body.handlesOf ps)) E :=
  ensures_mapM_promise_only (fun i => .part l place (path ++ [toString i])) (List.range count)
    fun i _ h' => ensures_promiseChild (h'.trans h) l (path ++ [toString i])

/-- Promising security schemes requests an edge for each name, in order. -/
theorem ensures_promiseSchemes (h : c.location = place) (rs : Document.Requirements) :
    (promiseSchemes rs).Ensures settings c
      (fun ps c' => c.Requested (Edge.ofSchemes place.document (rs.flatMap Table.keys)) c'
        (Body.handlesOf ps)) E := by
  refine ensures_mapM_promise_only (fun name =>
    ⟨.securityScheme, ⟨place.document, ["components", "securitySchemes", name]⟩, .scheme⟩)
    (rs.flatMap Table.keys) fun name c' h' => ?_
  rw [← h, ← h']
  exact ensures_modifyGet (requested_promiseTo c' ⟨_, _, .scheme⟩)

/-- A diagnostic requests nothing. -/
theorem ensures_diagnose (d : Diagnostic) :
    (diagnose d).Ensures settings c (fun _ c' => c.Requested [] c' []) E :=
  ensures_modify (.nil ⟨rfl, rfl, rfl, (List.append_nil _).symm, (List.append_nil _).symm,
    (List.append_nil _).symm, (List.append_nil _).symm, fun _ => (noted_nil _).symm⟩)

/-- A step that asks for edges, after others were asked for. -/
theorem Ensures.after {c₀ : Context} {es es' : List Edge} {hs : List Handle} {x : Compile α}
    {out : α → List Handle} (h : c₀.Requested es c hs)
    (hx : x.Ensures settings c (fun v c' => c.Requested es' c' (out v)) E) :
    x.Ensures settings c (fun v c' => c₀.Requested (es ++ es') c' (hs ++ out v)) E :=
  hx.mono (fun _ _ h' => h.append h') fun _ _ h => h

end Compile
end ApiGraph
