/-
# What compiling an entity deposits

Every entity is compiled to one artifact, at its place and of its kind.  An entity that is
written as a reference gets a slot of its own, and the artifact refers to it; any other gets
the promises of its edges, and the body of the artifact holds them and no others
(`Entity.Deposits`, `ensures_compile`).

A compilation that stops because there is an artifact at the location of the new one stops at
the place of the entity, and the artifact was there before (`Context.Stops`).
-/

import ApiGraph.Proofs.Compilation.Gains

namespace ApiGraph

open Document (Entity Tags)

/-- The body that an entity gets when it is compiled into a store. -/
def Document.Entity.Fills (e : Entity) (d : DocumentStore) (place : Location) (b : Body) : Prop :=
  match e.reference? with
  | some reference => ∃ r, b = .reference r ∧ r.slot = ⟨d.index, d.references.size⟩ ∧
      Location.ofReference place.document reference = .ok r.target
  | none => b.label? = some e.label ∧ b.handles = d.handles (e.edges place) ∧
      b.listHandles = d.listHandles (e.lists place)

/-- From `c` to `c'` the entity was compiled to `a`, and its cells were made. -/
structure Document.Entity.Deposits (e : Entity) (c : Context) (a : Artifact) (c' : Context) :
    Prop where
  location : a.location = c.location
  fresh : ∀ b ∈ c.store.artifacts.toList, b.location ≠ a.location
  kind : a.kind = e.label.kind
  body : e.Fills c.store c.location a.body
  gains : c.Gains [a] (e.promises c.location) (e.lists c.location) (e.slots c.location) c'

/-- What stops the compilation of an entity is no artifact at its location, unless there is
one. -/
def Context.Stops (c : Context) (stop : Stop) (_ : Context) : Prop :=
  ∀ l, stop = .error (.duplicateLocation l) →
    l = c.location ∧ ∃ a ∈ c.store.artifacts.toList, a.location = c.location

namespace Compile

open Context (Requested)
open Document

variable {settings : Settings} {c c' : Context}

/-- Adding an artifact gains it, if no other one is at the place. -/
theorem ensures_add {a : Artifact} (h : a.location = c.location) :
    (add a).Ensures settings c (fun _ c' => c.Gains [a] [] [] [] c' ∧
      ∀ b ∈ c.store.artifacts.toList, b.location ≠ a.location) c.Stops := by
  refine ensures_get_bind ?_
  simp only [Context.add, DocumentStore.add]
  by_cases taken : c.store.artifacts.any (·.location == a.location)
  · simp only [taken, if_true]
    refine ensures_fail fun l hl => ?_
    rw [← Array.any_toList, List.any_eq_true] at taken
    obtain ⟨b, hb, same⟩ := taken
    cases hl
    exact ⟨h, b, hb, by rw [← h]; simpa using same⟩
  · simp only [taken, Bool.false_eq_true, if_false]
    refine ensures_set ⟨⟨rfl, rfl, rfl, by simp, by simp, by simp, by simp,
      fun _ => (noted_nil _).symm⟩, fun b hb same => taken ?_⟩
    rw [← Array.any_toList, List.any_eq_true]
    exact ⟨b, hb, by simpa using same⟩

/-- A stop where the store has no more artifacts than before is one from the beginning. -/
theorem stops_of_gains {as : List Artifact} {ps : List PromiseCell} {ls : List ListCell}
    {rs : List ReferenceSlot} (h : c.Gains as ps ls rs c') (none : as = []) {stop : Stop}
    {c'' : Context} (stops : c'.Stops stop c'') : c.Stops stop c'' := by
  intro l hl
  obtain ⟨rfl, a, ha, same⟩ := stops l hl
  rw [h.location] at same ⊢
  rw [h.store.artifacts, none, List.append_nil] at ha
  exact ⟨rfl, a, ha, same⟩

/-- The cells of an entity, and then its artifact. -/
theorem deposits_of_added {e : Entity} {ps : List PromiseCell} {ls : List ListCell}
    {rs : List ReferenceSlot} {a : Artifact} {c'' : Context} (h : c.Gains [] ps ls rs c')
    (added : c'.Gains [a] [] [] [] c'' ∧ ∀ b ∈ c'.store.artifacts.toList,
      b.location ≠ a.location) (promises : e.promises c.location = ps)
    (lists : e.lists c.location = ls) (references : e.slots c.location = rs)
    (location : a.location = c.location) (kind : a.kind = e.label.kind)
    (body : e.Fills c.store c.location a.body) : e.Deposits c a c'' := by
  subst promises lists references
  refine ⟨location, fun b hb => added.2 b ?_, kind, body, by simpa using h.trans added.1⟩
  rwa [h.store.artifacts, List.append_nil]

/-- The last step of an entity that is no reference. -/
theorem ensures_addEntity (e : Entity) {l : Label} {name : String} {selectable visible : Bool}
    {body : Body} (h : c.Gains [] (e.promises c.location) (e.lists c.location) [] c')
    (label : l = e.label) (own : e.reference? = none) (typed : body.label? = some e.label)
    (handles : body.handles = c.store.handles (e.edges c.location))
    (lists : body.listHandles = c.store.listHandles (e.lists c.location)) :
    (addEntity l name selectable visible body).Ensures settings c'
      (fun _ c'' => ∃ a, e.Deposits c a c'') c.Stops := by
  subst label
  refine ensures_get_bind ?_
  refine (ensures_add rfl).mono (fun _ c'' added => ?_) fun _ _ => stops_of_gains h rfl
  have slots : e.slots c.location = [] := by rw [Entity.slots, own]
  refine ⟨_, deposits_of_added h added rfl rfl slots h.location rfl ?_⟩
  rw [Entity.Fills, own]
  exact ⟨typed, handles, lists⟩

/-- The same for an entity without a promise of several artifacts. -/
theorem ensures_addEntity_of_requested (e : Entity) {l : Label} {name : String}
    {selectable visible : Bool} {body : Body}
    (h : c.Requested (e.edges c.location) c' body.handles) (label : l = e.label)
    (own : e.reference? = none) (typed : body.label? = some e.label)
    (lists : e.lists c.location = []) (none : body.listHandles = []) :
    (addEntity l name selectable visible body).Ensures settings c'
      (fun _ c'' => ∃ a, e.Deposits c a c'') c.Stops := by
  refine ensures_addEntity e ?_ label own typed h.handles ?_
  · rw [lists]
    exact h.gains
  · rw [none, lists]
    rfl

/-- An entity that is written as a reference gets a slot and refers to it. -/
theorem ensures_compileReference (e : Entity) {reference : String} {kind : Kind}
    {shownAs : Option String} (href : e.reference? = some reference) (hk : kind = e.label.kind)
    (lists : e.lists c.location = []) :
    (compileReference reference kind shownAs).Ensures settings c
      (fun _ c' => ∃ a, e.Deposits c a c') c.Stops := by
  subst hk
  refine ensures_get_bind ?_
  cases target : Location.ofReference c.store.document reference with
  | error reason => exact ensures_fail fun l hl => by cases hl
  | ok place =>
    have slots := Entity.slots_of_reference c.location href target
    refine ensures_modifyGet_bind ?_
    have gains : c.Gains [] [] [] (e.slots c.location)
        { c with store := (c.store.reference c.location place e.label.kind).2 } := by
      rw [slots]
      refine ⟨rfl, ?_⟩
      simp only [DocumentStore.reference]
      exact ⟨by simp, by simp, by simp, by simp, by simp, by simp,
        fun _ => DocumentStore.externals_noteExternal c.store place⟩
    refine (ensures_add gains.location.symm).mono (fun _ c'' added => ?_)
      fun _ _ => stops_of_gains gains rfl
    have promises : e.promises c.location = [] := by
      rw [Entity.promises, Entity.edges, href]
      rfl
    refine ⟨_, deposits_of_added gains added promises lists rfl rfl rfl ?_⟩
    rw [Entity.Fills, href]
    exact ⟨_, rfl, rfl, target⟩

/-! ## Steps that leave the store as it is -/

/-- The fault of a hook is no artifact that is in the way. -/
theorem ensures_failHook {α : Type} {Q : α → Context → Prop} {c₀ : Context} {place : Location}
    {protocol : String} (fault : HookFault) :
    (failHook place protocol fault : Compile α).Ensures settings c Q c₀.Stops := by
  cases fault with
  | rejected reason => exact ensures_fail fun l hl => by cases hl
  | brokeDown words => exact ensures_throw fun l hl => by cases hl

/-- Variants are derived without touching the store. -/
theorem ensures_variants {c₀ : Context} {role : Role} {name address : String}
    {b : Option Bindings} :
    (variants role name address b).Ensures settings c (fun _ c' => c' = c) c₀.Stops := by
  refine ensures_read_bind ?_
  split
  · exact ensures_pure rfl
  · exact ensures_get_bind (ensures_failHook _)

/-! ## The entities -/

/-- A server deposits its artifact. -/
theorem ensures_server (s : Server) :
    s.compile.Ensures settings c (fun _ c' => ∃ a, (Entity.server s).Deposits c a c') c.Stops := by
  rw [Server.compile]
  split
  · exact ensures_compileReference (.server s) ‹_› rfl rfl
  · rename_i own
    refine ensures_get_bind ?_
    refine (ensures_promiseEntries rfl ..).bind fun serverVariables c₁ h => ?_
    refine ((ensures_promiseSchemes h.location _).after h).bind fun security c₂ h => ?_
    refine ((ensures_promisePart h.location ..).after h).bind fun bindings c₃ h => ?_
    refine ensures_read_bind ?_
    -- with a diagnostic or without one
    refine ensures_ite (fun _ => ?_) fun _ => ((ensures_diagnose _).after h).bind fun _ c₄ h => ?_
    all_goals
      refine ensures_variants.bind fun variants _ same => ?_
      subst same
      refine ensures_addEntity_of_requested (.server s) ?_ rfl own rfl rfl rfl
      simpa [Entity.edges, Entity.reference?, own, Entity.ownEdges, Entity.schemes, Body.handles]
        using h

/-- A server variable deposits its artifact. -/
theorem ensures_serverVariable (v : ServerVariable) :
    v.compile.Ensures settings c (fun _ c' => ∃ a, (Entity.serverVariable v).Deposits c a c')
      c.Stops := by
  rw [ServerVariable.compile]
  split
  · exact ensures_compileReference (.serverVariable v) ‹_› rfl rfl
  · rename_i own
    refine ensures_get_bind ?_
    refine ensures_addEntity_of_requested (.serverVariable v) ?_ rfl own rfl rfl rfl
    rw [Entity.edges, Entity.reference?, own]
    exact .nil (.refl c)

/-- The servers of a channel: promises of those that it names, or one of all. -/
theorem ensures_compileServers (ch : Channel) (own : ch.reference = none) :
    ch.compileServers.Ensures settings c
      (fun servers c' =>
        c.Gains [] ((Edge.ofServers c.location.document (ch.servers.getD [])).map
          (Edge.cell c.location)) ((Entity.channel ch).lists c.location) [] c' ∧
        servers.handles = c.store.handles (Edge.ofServers c.location.document
          (ch.servers.getD [])) ∧
        ∀ b : Body.Channel, b.servers = servers → (Body.channel b).listHandles =
          c.store.listHandles ((Entity.channel ch).lists c.location)) c.Stops := by
  refine ensures_get_bind ?_
  cases named : ch.servers with
  | some names =>
    refine Ensures.bind (ensures_mapM_promise_only (l := .server) (fun name =>
      ⟨.server, ⟨c.location.document, ["servers", name]⟩, .server⟩) names fun name c' h => ?_)
      fun servers c' h => ensures_pure ?_
    · exact ensures_promiseTo _ _ _
    · have none : (Entity.channel ch).lists c.location = [] := by
        simp only [Entity.lists, named]
        split <;> simp_all
      rw [none]
      refine ⟨h.gains, h.handles, fun b hb => ?_⟩
      rw [Body.listHandles, hb]
      rfl
  | none =>
    refine ensures_modifyGet_bind (ensures_pure ?_)
    have one : (Entity.channel ch).lists c.location = [{
        origin := c.location, description := "every visible server"
        accepts := isVisibleServer c.location.document, expects := .entity .server }] := by
      simp only [Entity.lists, named, own]
    rw [one]
    refine ⟨⟨rfl, rfl, rfl, ?_, ?_, ?_, ?_, fun _ => (noted_nil _).symm⟩, rfl, fun b hb => ?_⟩
    · simp [DocumentStore.listPromise]
    · simp [DocumentStore.listPromise, Edge.ofServers]
    · simp [DocumentStore.listPromise, Context.location]
    · simp [DocumentStore.listPromise]
    · rw [Body.listHandles, hb]
      rfl

/-- A channel deposits its artifact. -/
theorem ensures_channel (ch : Channel) :
    ch.compile.Ensures settings c (fun _ c' => ∃ a, (Entity.channel ch).Deposits c a c')
      c.Stops := by
  rw [Channel.compile]
  split
  · rename_i reference own
    refine ensures_compileReference (.channel ch) own rfl ?_
    simp [Entity.lists, own]
  · rename_i own
    refine ensures_get_bind ?_
    refine (ensures_compileServers ch own).bind ?_
    rintro servers c₁ ⟨gains, handles, lists⟩
    refine (ensures_promiseEntries gains.location ..).bind fun parameters c₂ h => ?_
    have at₂ := h.location.trans gains.location
    refine ((ensures_promisePart at₂ ..).after h).bind fun publish c₃ h => ?_
    have at₃ := h.location.trans gains.location
    refine ((ensures_promisePart at₃ ..).after h).bind fun subscribe c₄ h => ?_
    have at₄ := h.location.trans gains.location
    refine ((ensures_promisePart at₄ ..).after h).bind fun bindings c₅ h => ?_
    refine ensures_variants.bind fun variants _ same => ?_
    subst same
    have edges : (Entity.channel ch).edges c.location =
        Edge.ofServers c.location.document (ch.servers.getD []) ++ ch.partEdges c.location := by
      simp only [Entity.edges, Entity.reference?, own, Entity.ownEdges, Entity.serverNames]
    have total := gains.trans h.gains
    rw [gains.location, ← List.map_append] at total
    refine ensures_addEntity (.channel ch) ?_ rfl own rfl ?_ (lists _ rfl)
    · rw [Entity.promises, edges]
      simpa [Channel.partEdges] using total
    · rw [edges, gains.handles_append, ← handles, Channel.partEdges, ← h.handles]
      simp [Body.handles]

/-- A parameter deposits its artifact. -/
theorem ensures_parameter (p : Parameter) :
    p.compile.Ensures settings c (fun _ c' => ∃ a, (Entity.parameter p).Deposits c a c')
      c.Stops := by
  rw [Parameter.compile]
  split
  · exact ensures_compileReference (.parameter p) ‹_› rfl rfl
  · rename_i own
    refine ensures_get_bind ?_
    refine (ensures_promisePart rfl ..).bind fun schema c₁ h => ?_
    refine ensures_addEntity_of_requested (.parameter p) ?_ rfl own rfl rfl rfl
    simpa [Entity.edges, Entity.reference?, own, Entity.ownEdges, Body.handles] using h

/-- The messages of an operation are requested as its edges say. -/
theorem ensures_compileMessages (o : Operation) {place : Location} (h : c.location = place)
    {E : Stop → Context → Prop} :
    o.compileMessages.Ensures settings c
      (fun ps c' => c.Requested (o.messageEdges place) c' (Body.handlesOf ps)) E := by
  rw [Operation.compileMessages, Operation.messageEdges]
  rcases o.message with _ | (messages | message)
  · exact ensures_pure (.nil (.refl c))
  · exact ensures_promiseItems h _ _ _
  · exact (ensures_promiseChild h _ _).bind fun _ _ h' => ensures_pure h'

/-- An operation deposits its artifact. -/
theorem ensures_operation (o : Operation) :
    o.compile.Ensures settings c (fun _ c' => ∃ a, (Entity.operation o).Deposits c a c')
      c.Stops := by
  rw [Operation.compile]
  refine ensures_get_bind ?_
  split
  · rename_i direction _
    split
    · rename_i owner howner
      refine (ensures_promiseTo .channel owner .owner).bind fun channel c₁ h => ?_
      refine ((ensures_compileMessages o h.location).after h).bind fun messages c₂ h => ?_
      refine ((ensures_promiseSchemes h.location _).after h).bind fun security c₃ h => ?_
      refine ((ensures_promisePart h.location ..).after h).bind fun bindings c₄ h => ?_
      refine ensures_read_bind ?_
      refine ensures_addEntity_of_requested (.operation o) ?_ rfl rfl rfl rfl rfl
      simpa [Entity.edges, Entity.reference?, Entity.ownEdges, Entity.schemes, Body.handles,
        howner] using h
    · exact ensures_fail fun l hl => by cases hl
  · exact ensures_fail fun l hl => by cases hl

/-- A message deposits its artifact. -/
theorem ensures_message (m : Message) :
    m.compile.Ensures settings c (fun _ c' => ∃ a, (Entity.message m).Deposits c a c')
      c.Stops := by
  rw [Message.compile]
  split
  · exact ensures_compileReference (.message m) ‹_› rfl rfl
  · rename_i own
    refine ensures_get_bind (ensures_read_bind ?_)
    refine (ensures_promisePart rfl ..).bind fun headers c₁ h => ?_
    refine ((ensures_promisePart h.location ..).after h).bind fun payload c₂ h => ?_
    refine ((ensures_promisePart h.location ..).after h).bind fun correlationId c₃ h => ?_
    refine ((ensures_promisePart h.location ..).after h).bind fun bindings c₄ h => ?_
    refine ensures_variants.bind fun variants _ same => ?_
    subst same
    refine ensures_addEntity_of_requested (.message m) ?_ rfl own rfl rfl rfl
    simpa [Entity.edges, Entity.reference?, own, Entity.ownEdges, Body.handles] using h

/-- A correlation id deposits its artifact. -/
theorem ensures_correlationId (i : CorrelationId) :
    i.compile.Ensures settings c (fun _ c' => ∃ a, (Entity.correlationId i).Deposits c a c')
      c.Stops := by
  rw [CorrelationId.compile]
  split
  · exact ensures_compileReference (.correlationId i) ‹_› rfl rfl
  · rename_i own
    refine ensures_get_bind ?_
    refine ensures_addEntity_of_requested (.correlationId i) ?_ rfl own rfl rfl rfl
    rw [Entity.edges, Entity.reference?, own]
    exact .nil (.refl c)

/-- A security scheme deposits its artifact. -/
theorem ensures_securityScheme (s : SecurityScheme) :
    s.compile.Ensures settings c (fun _ c' => ∃ a, (Entity.securityScheme s).Deposits c a c')
      c.Stops := by
  rw [SecurityScheme.compile]
  split
  · exact ensures_compileReference (.securityScheme s) ‹_› rfl rfl
  · rename_i own
    refine ensures_get_bind ?_
    refine ensures_addEntity_of_requested (.securityScheme s) ?_ rfl own rfl rfl rfl
    rw [Entity.edges, Entity.reference?, own]
    exact .nil (.refl c)

/-- Decoding the entries of a bindings section adds diagnostics at most. -/
theorem ensures_decodeBindings {c₀ : Context} (kind : BindingsKind) (entries : Table Json) :
    (decodeBindings kind entries).Ensures settings c
      (fun _ c' => c.Requested [] c' []) c₀.Stops := by
  induction entries generalizing c with
  | nil => exact ensures_pure (.nil (.refl c))
  | cons entry rest ih =>
    obtain ⟨protocol, raw⟩ := entry
    rw [decodeBindings]
    refine ensures_ite (fun _ => ih) fun _ => ensures_get_bind (ensures_read_bind ?_)
    split
    · refine (ensures_diagnose _).bind fun _ c' h => ?_
      exact ih.mono (fun _ _ h' => h.append h') fun _ _ h => h
    · split
      · exact ensures_failHook _
      · exact ih.bind fun _ _ h => ensures_pure h

/-- A bindings section deposits its artifact. -/
theorem ensures_bindings (kind : BindingsKind) (b : Bindings) :
    (b.compile kind).Ensures settings c (fun _ c' => ∃ a, (Entity.bindings kind b).Deposits c a c')
      c.Stops := by
  rw [Bindings.compile]
  split
  · exact ensures_compileReference (.bindings kind b) ‹_› rfl rfl
  · rename_i own
    refine ensures_get_bind ?_
    refine (ensures_decodeBindings kind _).bind fun values c₁ h => ?_
    refine ensures_addEntity_of_requested (.bindings kind b) ?_ rfl own rfl rfl rfl
    rw [Entity.edges, Entity.reference?, own]
    exact h

section Shapes

variable {place : Location} {E : Stop → Context → Prop}

/-- The properties of a schema are requested in their order. -/
theorem ensures_compileProperties (h : c.location = place) (s : Schema) :
    s.compileProperties.Ensures settings c
      (fun ps c' => c.Requested (Edge.ofEntries .schema place "properties" s.properties) c'
        (Body.handlesOf (ps.map (·.schema)))) E := by
  refine ensures_mapM_promise _ Body.Property.schema s.properties ?_
  rintro ⟨name, x⟩ c' h'
  exact (ensures_promiseChild (h'.trans h) .schema ["properties", name]).bind
    fun _ _ h'' => ensures_pure h''

/-- The parts of an object schema are requested, additional properties first. -/
theorem ensures_compileObject (h : c.location = place) (s : Schema) :
    s.compileObject.Ensures settings c
      (fun shape c' => c.Requested
        (Edge.ofPart .schema place "additionalProperties" s.additionalSchema? ++
          Edge.ofEntries .schema place "properties" s.properties) c' shape.handles) E := by
  rw [Schema.compileObject]
  refine (ensures_promisePart h ..).bind fun additional c₁ hr => ?_
  have properties : s.compileProperties.Ensures settings c₁ _ E :=
    (ensures_compileProperties (hr.location.trans h) s).after hr
  cases additional with
  | none =>
    refine properties.bind fun ps c₂ hr => ensures_pure ?_
    simpa [Body.Shape.handles] using hr
  | some values =>
    refine ensures_ite (fun empty => ensures_pure ?_) fun _ =>
      properties.bind fun ps c₂ hr => ensures_pure ?_
    · rw [List.isEmpty_iff.1 empty]
      simpa [Body.Shape.handles, Edge.ofEntries] using hr
    · simpa [Body.Shape.handles] using hr

/-- The shape of a schema holds the promises of the schema's edges. -/
theorem ensures_compileShape (h : c.location = place) (s : Schema) :
    s.compileShape.Ensures settings c
      (fun shape c' => c.Requested (s.edges place) c' shape.handles) E := by
  rw [Schema.compileShape, Schema.edges]
  cases s.form with
  | oneOf => exact (ensures_promiseItems h ..).bind fun _ _ hr => ensures_pure hr
  | anyOf => exact (ensures_promiseItems h ..).bind fun _ _ hr => ensures_pure hr
  | allOf => exact (ensures_promiseItems h ..).bind fun _ _ hr => ensures_pure hr
  | object => exact ensures_compileObject h s
  | array => exact (ensures_promisePart h ..).bind fun _ _ hr => ensures_pure hr
  | primitive name => exact ensures_pure (.nil (.refl c))
  | mixed names => exact ensures_pure (.nil (.refl c))
  | any => exact ensures_pure (.nil (.refl c))

end Shapes

/-- A schema deposits its artifact. -/
theorem ensures_schema (s : Schema) :
    s.compile.Ensures settings c (fun _ c' => ∃ a, (Entity.schema s).Deposits c a c') c.Stops := by
  rw [Schema.compile]
  split
  · exact ensures_compileReference (.schema s) ‹_› rfl rfl
  · rename_i own
    refine ensures_get_bind ?_
    refine (ensures_compileShape rfl s).bind fun shape c₁ h => ?_
    refine ensures_addEntity_of_requested (.schema s) ?_ rfl own rfl rfl rfl
    rw [Entity.edges, Entity.reference?, own]
    exact h

/-- The root deposits its artifact. -/
theorem ensures_document (d : Document) :
    d.compileRoot.Ensures settings c (fun _ c' => ∃ a, (Entity.document d).Deposits c a c')
      c.Stops := by
  refine (ensures_modify (Q := fun _ c' => c.Requested [] c' []) ?_).bind fun _ c₁ h => ?_
  · exact .nil ⟨rfl, rfl, rfl, by simp, by simp, by simp, by simp,
      fun _ => (noted_nil _).symm⟩
  · refine ensures_get_bind ?_
    exact ensures_addEntity_of_requested (.document d) h rfl rfl rfl rfl rfl

/-- **Compiling an entity deposits it:** one artifact at its place, and the cells of its
edges. -/
theorem ensures_compile (e : Entity) :
    e.compile.Ensures settings c (fun _ c' => ∃ a, e.Deposits c a c') c.Stops := by
  cases e with
  | document d => exact ensures_document d
  | server s => exact ensures_server s
  | serverVariable v => exact ensures_serverVariable v
  | channel ch => exact ensures_channel ch
  | operation o => exact ensures_operation o
  | message m => exact ensures_message m
  | correlationId i => exact ensures_correlationId i
  | parameter p => exact ensures_parameter p
  | securityScheme s => exact ensures_securityScheme s
  | schema s => exact ensures_schema s
  | bindings kind b => exact ensures_bindings kind b

end Compile
end ApiGraph
