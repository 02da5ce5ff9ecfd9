/-
# What is wrong with an entity

An entity cannot be compiled if it is a reference that cannot be read, if a builder derives no
variant from it, or if it is a bindings section with an entry that its builder does not take
(`Entity.fault?`).  Whether it is so, and what is said of it, depends on where the entity stands,
in which document, and on the content type that the document names, but on nothing that is in the
store (`Context.fault?_congr`).

Compiling the entity finds just this fault (`finds_fault`).  It may only fail in one more way,
which is not the entity's own fault: with an artifact that is at its place already.
-/

import ApiGraph.Proofs.Compilation.Derivation

namespace ApiGraph

open Document (Entity BindingsKind)

/-- How the fault of a hook for a protocol stops a compilation. -/
def HookFault.stop (place : Location) (protocol : String) : HookFault → Stop
  | rejected reason => .error (.protocolDecode place protocol reason)
  | brokeDown words => .brokeDown words

/-- The fault of the first builder that derives no variant. -/
def Registry.variantsFault? (r : Registry) (role : Role) (place : Location)
    (seed : Builder → Seed) : Option Stop :=
  match Registry.variants role seed r with
  | .ok _ => none
  | .error (protocol, fault) => some (fault.stop place protocol)

namespace Document

/-- The fault of an entry of a bindings section: none if it is an extension, if its protocol is
unknown, and if the builder takes it. -/
def entryFault? (r : Registry) (kind : BindingsKind) (place : Location) (entry : String × Json) :
    Option Stop :=
  if "x-".isPrefixOf entry.1 then none
  else match Table.get? r entry.1 with
    | none => none
    | some builder =>
      match builder.bindings kind entry.2 with
      | .ok _ => none
      | .error fault => some (fault.stop place entry.1)

/-- The fault of the first entry that has one. -/
def Bindings.fault? (r : Registry) (kind : BindingsKind) (place : Location) (b : Bindings) :
    Option Stop :=
  b.protocols.findSome? (entryFault? r kind place)

/-- The fault of an operation that does not stand where operations do. -/
def Operation.fault? (c : Context) : Option Stop :=
  match c.key?.bind Direction.ofKey?, c.location.parent? with
  | none, _ => some (.error (.malformed c.location "operation outside a publish or subscribe slot"))
  | some _, none => some (.error (.malformed c.location "operation without an owning channel"))
  | some _, some _ => none

/-- The role, the name and the address that the variants of an entity are derived from. -/
def Entity.variety? (o : Options) (c : Context) : Entity → Option (Role × String × String)
  | server s => some (.server, c.entityName s.shownAs (some "servers"), s.url)
  | channel ch =>
    some (.channel, c.entityName ch.shownAs (some "channels"), c.location.last?.getD "")
  | message m =>
    some (.message, c.entityName (m.shownAs.or m.name) none,
      m.contentType.getD (c.messageContentType o))
  | _ => none

/-- What a builder derives the variant of an entity from. -/
def Entity.seed (e : Entity) (name address : String) (b : Builder) : Seed :=
  ⟨name, address, e.bindings?.bind (·.protocols.get? b.protocol)⟩

/-- The fault of an entity that is no reference. -/
def Entity.ownFault? (S : Settings) (c : Context) (e : Entity) : Option Stop :=
  match e with
  | operation _ => Operation.fault? c
  | bindings kind b => b.fault? S.registry kind c.location
  | e => (e.variety? S.options c).bind fun (role, name, address) =>
    S.registry.variantsFault? role (c.location.join "bindings") (e.seed name address)

/-- The fault of a reference that cannot be read. -/
def referenceFault? (place : Location) (reference : String) : Option Stop :=
  match Location.ofReference place.document reference with
  | .ok _ => none
  | .error reason => some (.error (.invalidReference place reference reason))

/-- What stops the compilation of an entity where a walk stands. -/
def Entity.fault? (S : Settings) (c : Context) (e : Entity) : Option Stop :=
  match e.reference? with
  | some reference => referenceFault? c.location reference
  | none => e.ownFault? S c

end Document

/-! ## What does not change the place of a walk -/

/-- The walk stands where it stood, in the same document. -/
structure Context.Stays (c c' : Context) : Prop where
  frames : c'.frames = c.frames
  document : c'.store.document = c.store.document
  contentType : c'.contentType = c.contentType

namespace Context

variable {c c' c'' : Context}

/-- Every context stays where it is. -/
theorem Stays.refl (c : Context) : c.Stays c := ⟨rfl, rfl, rfl⟩

/-- Staying twice is staying. -/
theorem Stays.trans (h : c.Stays c') (h' : c'.Stays c'') : c.Stays c'' :=
  ⟨h'.frames.trans h.frames, h'.document.trans h.document, h'.contentType.trans h.contentType⟩

/-- A context with the content type that an entity sets, which only a document does. -/
def after (c : Context) : Entity → Context
  | .document d => { c with contentType := d.defaultContentType }
  | _ => c

/-- The content type of a document does not move the walk. -/
theorem location_after (c : Context) (e : Entity) : (c.after e).location = c.location := by
  cases e <;> rfl

/-- The content type of a document does not lead to another document. -/
theorem document_after (c : Context) (e : Entity) :
    (c.after e).store.document = c.store.document := by
  cases e <;> rfl

/-- A walk that stays has its location still. -/
theorem Stays.location (h : c.Stays c') : c'.location = c.location := by
  rw [Context.location, h.frames, h.document]
  rfl

/-- The fault of an entity depends on the place of the walk alone. -/
theorem fault?_congr (h : c.Stays c') (S : Settings) (e : Entity) :
    e.fault? S c' = e.fault? S c := by
  have place : c'.location = c.location := h.location
  obtain ⟨frames, store, contentType⟩ := c
  obtain ⟨frames', store', contentType'⟩ := c'
  obtain ⟨rfl, -, rfl⟩ := h
  cases e <;> simp only [Entity.fault?, Entity.ownFault?, Entity.variety?,
    Document.Operation.fault?, Context.entityName, Context.messageContentType, place] <;> rfl

end Context

namespace Compile

open Document

variable {α β : Type} {S : Settings} {c c₀ c' : Context}

/-- A computation that does not stop, and stays where the walk stands. -/
def Quiet (x : Compile α) : Prop :=
  ∀ S c, x.Ensures S c (fun _ c' => c.Stays c') fun _ _ => False

section Quiet

variable {x : Compile α} {f : α → Compile β}

/-- What follows a quiet computation starts where that one did. -/
theorem Quiet.then {Q : β → Context → Prop} {E : Stop → Context → Prop} (hx : x.Quiet)
    (hf : ∀ v c', c.Stays c' → (f v).Ensures S c' Q E) : (x >>= f).Ensures S c Q E :=
  ((hx S c).mono (fun _ _ h => h) fun _ _ h => h.elim).bind hf

/-- Giving a value is quiet. -/
theorem quiet_pure (v : α) : (pure v : Compile α).Quiet := fun _ c => ensures_pure (.refl c)

/-- Quiet computations are quiet one after the other. -/
theorem Quiet.bind (hx : x.Quiet) (hf : ∀ v, (f v).Quiet) : (x >>= f).Quiet := fun S _ =>
  hx.then fun v c' h => (hf v S c').mono (fun _ _ h' => h.trans h') fun _ _ h => h

/-- Looking at the context is quiet. -/
theorem quiet_get : (get : Compile Context).Quiet := fun _ c => Context.Stays.refl c

/-- A step is quiet if it stays at every context. -/
theorem quiet_modifyGet {step : Context → α × Context} (h : ∀ c : Context, c.Stays (step c).2) :
    (modifyGet step : Compile α).Quiet := fun _ c => ensures_modifyGet (h c)

/-- Going through items quietly is quiet. -/
theorem quiet_mapM {f : α → Compile β} (hf : ∀ v, (f v).Quiet) (items : List α) :
    (items.mapM f).Quiet := by
  induction items with
  | nil =>
    rw [List.mapM_nil]
    exact quiet_pure _
  | cons item rest ih =>
    rw [List.mapM_cons]
    exact (hf item).bind fun _ => ih.bind fun _ => quiet_pure _

end Quiet

/-- A promise changes the store alone. -/
theorem stays_promiseTo (c : Context) (l : Label) (target : Location) :
    c.Stays (c.promiseTo l target).2 :=
  ⟨rfl, DocumentStore.document_noteExternal _ target, rfl⟩

/-- Making a promise is quiet. -/
theorem quiet_promiseTo (l : Label) (target : Location) : (promiseTo l target).Quiet :=
  quiet_modifyGet fun c => stays_promiseTo c l target

/-- Promising an entity below is quiet. -/
theorem quiet_promiseChild (l : Label) (path : List String) : (promiseChild l path).Quiet :=
  quiet_modifyGet fun c => stays_promiseTo c l _

/-- Promising a part is quiet, if it is there or not. -/
theorem quiet_promisePart (l : Label) (key : String) (part : Option α) :
    (promisePart l key part).Quiet := by
  cases part with
  | none => exact quiet_pure _
  | some _ =>
    rw [promisePart, map_eq_pure_bind]
    exact (quiet_promiseChild l [key]).bind fun _ => quiet_pure _

/-- Promising the entries of a table is quiet. -/
theorem quiet_promiseEntries (l : Label) (key : String) (entries : Table α) :
    (promiseEntries l key entries).Quiet :=
  quiet_mapM (fun _ => (quiet_promiseChild l _).bind fun _ => quiet_pure _) entries

/-- Promising the items of a list is quiet. -/
theorem quiet_promiseItems (l : Label) (path : List String) (count : Nat) :
    (promiseItems l path count).Quiet :=
  quiet_mapM (fun _ => quiet_promiseChild l _) _

/-- Promising security schemes is quiet. -/
theorem quiet_promiseSchemes (requirements : Requirements) :
    (promiseSchemes requirements).Quiet :=
  quiet_mapM (fun _ => quiet_modifyGet fun c => stays_promiseTo c _ _) _

/-- A diagnostic is written down quietly. -/
theorem quiet_diagnose (d : Diagnostic) : (diagnose d).Quiet :=
  quiet_modifyGet fun _ => ⟨rfl, rfl, rfl⟩

/-- The servers of a channel are promised quietly. -/
theorem quiet_compileServers (ch : Channel) : ch.compileServers.Quiet := by
  refine quiet_get.bind fun c => ?_
  cases ch.servers with
  | some names => exact (quiet_mapM (fun _ => quiet_promiseTo _ _) names).bind fun _ => quiet_pure _
  | none => exact (quiet_modifyGet fun _ => ⟨rfl, rfl, rfl⟩).bind fun _ => quiet_pure _

/-- The messages of an operation are promised quietly. -/
theorem quiet_compileMessages (o : Operation) : o.compileMessages.Quiet := by
  rw [Operation.compileMessages]
  rcases o.message with _ | (messages | message)
  · exact quiet_pure _
  · exact quiet_promiseItems _ _ _
  · exact (quiet_promiseChild _ _).bind fun _ => quiet_pure _

/-- The properties of a schema are promised quietly. -/
theorem quiet_compileProperties (s : Schema) : s.compileProperties.Quiet :=
  quiet_mapM (fun _ => (quiet_promiseChild _ _).bind fun _ => quiet_pure _) _

/-- The parts of an object schema are promised quietly. -/
theorem quiet_compileObject (s : Schema) : s.compileObject.Quiet := by
  refine (quiet_promisePart _ _ _).bind fun additional => ?_
  cases additional with
  | none => exact (quiet_compileProperties s).bind fun _ => quiet_pure _
  | some values =>
    simp only
    split
    · exact quiet_pure _
    · exact (quiet_compileProperties s).bind fun _ => quiet_pure _

/-- The shape of a schema is compiled quietly: nothing in a schema can be wrong. -/
theorem quiet_compileShape (s : Schema) : s.compileShape.Quiet := by
  rw [Schema.compileShape]
  cases s.form with
  | oneOf | anyOf | allOf => exact (quiet_promiseItems _ _ _).bind fun _ => quiet_pure _
  | object => exact quiet_compileObject s
  | array => exact (quiet_promisePart _ _ _).bind fun _ => quiet_pure _
  | primitive | mixed | any => exact quiet_pure _

/-! ## What stops a compilation -/

/-- What stops a compilation is the fault, or else an artifact that is in the way. -/
def Blames (fault : Option Stop) (stop : Stop) : Prop :=
  fault = some stop ∨ fault = none ∧ ∃ l, stop = .error (.duplicateLocation l)

/-- A computation finds the fault, or there is none, and stays where the walk stood at `c₀`. -/
def Finds (x : Compile α) (S : Settings) (c₀ c : Context) (fault : Option Stop) : Prop :=
  x.Ensures S c (fun _ c' => c₀.Stays c' ∧ fault = none)
    (fun stop c' => c₀.Stays c' ∧ Blames fault stop)

variable {fault : Option Stop}

/-- What stops at once finds just that fault. -/
theorem finds_throw {stop : Stop} (h : c₀.Stays c) :
    (throw stop : Compile α).Finds S c₀ c (some stop) :=
  ensures_throw ⟨h, .inl rfl⟩

/-- A quiet computation finds nothing, so the fault is the one of what follows. -/
theorem Quiet.finds {x : Compile α} {f : α → Compile β} (hx : x.Quiet) (h : c₀.Stays c)
    (hf : ∀ v c', c₀.Stays c' → (f v).Finds S c₀ c' fault) : (x >>= f).Finds S c₀ c fault :=
  hx.then fun v c' h' => hf v c' (h.trans h')

/-- Adding an artifact finds no fault.  It may stop at one that is at the place already, for
which no entity is blamed. -/
theorem finds_add (a : Artifact) (h : c₀.Stays c) : (add a).Finds S c₀ c none := by
  refine ensures_get_bind ?_
  simp only [Context.add, DocumentStore.add]
  by_cases taken : c.store.artifacts.any (·.location == a.location)
  · simp only [taken, if_true]
    exact ensures_fail ⟨h, .inr ⟨rfl, _, rfl⟩⟩
  · simp only [taken, Bool.false_eq_true, if_false]
    exact ensures_set ⟨h.trans ⟨rfl, rfl, rfl⟩, trivial⟩

/-- The same of an artifact that is made from an entity. -/
theorem finds_addEntity {l : Label} {name : String} {selectable visible : Bool} {body : Body}
    (h : c₀.Stays c) : (addEntity l name selectable visible body).Finds S c₀ c none :=
  ensures_get_bind (finds_add _ h)

/-- The fault of a hook is found as it was given. -/
theorem finds_failHook {place : Location} {protocol : String} (hook : HookFault)
    (h : c₀.Stays c) :
    (failHook place protocol hook : Compile α).Finds S c₀ c (some (hook.stop place protocol)) := by
  cases hook with
  | rejected reason => exact finds_throw h
  | brokeDown words => exact finds_throw h

/-- A reference's fault is that it cannot be read. -/
theorem finds_compileReference {reference : String} {kind : Kind} {shownAs : Option String} :
    (compileReference reference kind shownAs).Finds S c c
      (referenceFault? c.location reference) := by
  refine ensures_get_bind ?_
  rw [referenceFault?, show c.location.document = c.store.document from rfl]
  cases Location.ofReference c.store.document reference with
  | error reason => exact finds_throw (.refl c)
  | ok target =>
    exact ensures_modifyGet_bind
      (finds_add _ ⟨rfl, DocumentStore.document_noteExternal c.store target, rfl⟩)

/-- The last steps of an entity that gets variants. -/
theorem finds_variants (e : Entity) {role : Role} {name address : String} {l : Label}
    {selectable visible : Bool} {body : Table Variant → Body} (h : c₀.Stays c) :
    (variants role name address e.bindings? >>= fun vs =>
      addEntity l name selectable visible (body vs)).Finds S c₀ c
        (S.registry.variantsFault? role (c₀.location.join "bindings") (e.seed name address)) := by
  refine Ensures.bind (Q := fun _ c' => c₀.Stays c' ∧ S.registry.variantsFault? role
    (c₀.location.join "bindings") (e.seed name address) = none) (ensures_read_bind ?_) ?_
  · rw [Registry.variantsFault?]
    split
    · rename_i vs derived
      rw [show Registry.variants role (e.seed name address) S.registry = _ from derived]
      exact ensures_pure ⟨h, rfl⟩
    · rename_i protocol hook failed
      rw [show Registry.variants role (e.seed name address) S.registry = _ from failed,
        ← h.location]
      refine ensures_get_bind ((finds_failHook hook h).mono ?_ fun _ _ h => h)
      rintro _ _ ⟨_, ⟨⟩⟩
  · rintro vs c' ⟨stays, none⟩
    rw [none]
    exact finds_addEntity stays

/-- Decoding finds the first entry with a fault. -/
theorem finds_decodeBindings (kind : BindingsKind) (entries : Table Json) (h : c₀.Stays c) :
    (decodeBindings kind entries).Finds S c₀ c
      (entries.findSome? (entryFault? S.registry kind c₀.location)) := by
  induction entries generalizing c with
  | nil => exact ensures_pure ⟨h, rfl⟩
  | cons entry rest ih =>
    obtain ⟨protocol, raw⟩ := entry
    rw [decodeBindings, List.findSome?_cons, entryFault?]
    by_cases extension : "x-".isPrefixOf protocol
    · simp only [extension, if_true]
      exact ih h
    · simp only [extension, Bool.false_eq_true, if_false]
      refine ensures_get_bind (ensures_read_bind ?_)
      cases Table.get? S.registry protocol with
      | none => exact (quiet_diagnose _).finds h fun _ _ h => ih h
      | some builder =>
        simp only
        cases builder.bindings kind raw with
        | error hook =>
          rw [← h.location]
          exact finds_failHook hook h
        | ok value => exact (ih h).bind fun _ _ h => ensures_pure h

/-! ## The entities -/

/-- A server that is no reference has the fault of a builder that derives no variant. -/
theorem finds_server (s : Server) :
    s.compile.Finds S c c ((Entity.server s).fault? S c) := by
  rw [Server.compile, Entity.fault?, Entity.reference?]
  cases s.reference with
  | some reference => exact finds_compileReference
  | none =>
    refine ensures_get_bind ?_
    refine (quiet_promiseEntries _ _ _).finds (.refl c) fun _ _ h => ?_
    refine (quiet_promiseSchemes _).finds h fun _ _ h => ?_
    refine (quiet_promisePart _ _ _).finds h fun _ _ h => ensures_read_bind ?_
    -- with a diagnostic or without one
    refine ensures_ite (fun _ => ?_) fun _ => (quiet_diagnose _).finds h fun _ _ h => ?_
    all_goals exact finds_variants (.server s) h

/-- A channel that is no reference has the fault of a builder that derives no variant. -/
theorem finds_channel (ch : Channel) :
    ch.compile.Finds S c c ((Entity.channel ch).fault? S c) := by
  rw [Channel.compile, Entity.fault?, Entity.reference?]
  cases ch.reference with
  | some reference => exact finds_compileReference
  | none =>
    refine ensures_get_bind ?_
    refine (quiet_compileServers ch).finds (.refl c) fun _ _ h => ?_
    refine (quiet_promiseEntries _ _ _).finds h fun _ _ h => ?_
    refine (quiet_promisePart _ _ _).finds h fun _ _ h => ?_
    refine (quiet_promisePart _ _ _).finds h fun _ _ h => ?_
    refine (quiet_promisePart _ _ _).finds h fun _ _ h => ?_
    exact finds_variants (.channel ch) h

/-- A message that is no reference has the fault of a builder that derives no variant. -/
theorem finds_message (m : Message) :
    m.compile.Finds S c c ((Entity.message m).fault? S c) := by
  rw [Message.compile, Entity.fault?, Entity.reference?]
  cases m.reference with
  | some reference => exact finds_compileReference
  | none =>
    refine ensures_get_bind (ensures_read_bind ?_)
    refine (quiet_promisePart _ _ _).finds (.refl c) fun _ _ h => ?_
    refine (quiet_promisePart _ _ _).finds h fun _ _ h => ?_
    refine (quiet_promisePart _ _ _).finds h fun _ _ h => ?_
    refine (quiet_promisePart _ _ _).finds h fun _ _ h => ?_
    exact finds_variants (.message m) h

/-- An operation is at fault where it does not stand in a slot of a channel. -/
theorem finds_operation (o : Operation) :
    o.compile.Finds S c c ((Entity.operation o).fault? S c) := by
  rw [Operation.compile, Entity.fault?, Entity.reference?, Entity.ownFault?, Operation.fault?]
  refine ensures_get_bind ?_
  cases c.key?.bind Direction.ofKey? with
  | none => exact finds_throw (.refl c)
  | some direction =>
    cases c.location.parent? with
    | none => exact finds_throw (.refl c)
    | some owner =>
      refine (quiet_promiseTo _ _).finds (.refl c) fun _ _ h => ?_
      refine (quiet_compileMessages o).finds h fun _ _ h => ?_
      refine (quiet_promiseSchemes _).finds h fun _ _ h => ?_
      refine (quiet_promisePart _ _ _).finds h fun _ _ h => ensures_read_bind ?_
      exact finds_addEntity h

/-- A bindings section that is no reference has the fault of its first entry that a builder does
not take. -/
theorem finds_bindings (kind : BindingsKind) (b : Bindings) :
    (b.compile kind).Finds S c c ((Entity.bindings kind b).fault? S c) := by
  rw [Bindings.compile, Entity.fault?, Entity.reference?]
  cases b.reference with
  | some reference => exact finds_compileReference
  | none =>
    refine ensures_get_bind (Ensures.bind (finds_decodeBindings kind b.protocols (.refl c)) ?_)
    rintro values c' ⟨stays, none⟩
    rw [Entity.ownFault?, Bindings.fault?, none]
    exact finds_addEntity stays

/-- A server variable can be at fault as a reference only. -/
theorem finds_serverVariable (v : ServerVariable) :
    v.compile.Finds S c c ((Entity.serverVariable v).fault? S c) := by
  rw [ServerVariable.compile, Entity.fault?, Entity.reference?]
  cases v.reference with
  | some reference => exact finds_compileReference
  | none => exact ensures_get_bind (finds_addEntity (.refl c))

/-- A parameter can be at fault as a reference only. -/
theorem finds_parameter (p : Parameter) :
    p.compile.Finds S c c ((Entity.parameter p).fault? S c) := by
  rw [Parameter.compile, Entity.fault?, Entity.reference?]
  cases p.reference with
  | some reference => exact finds_compileReference
  | none =>
    refine ensures_get_bind ?_
    exact (quiet_promisePart _ _ _).finds (.refl c) fun _ _ h => finds_addEntity h

/-- A correlation id can be at fault as a reference only. -/
theorem finds_correlationId (i : CorrelationId) :
    i.compile.Finds S c c ((Entity.correlationId i).fault? S c) := by
  rw [CorrelationId.compile, Entity.fault?, Entity.reference?]
  cases i.reference with
  | some reference => exact finds_compileReference
  | none => exact ensures_get_bind (finds_addEntity (.refl c))

/-- A security scheme can be at fault as a reference only. -/
theorem finds_securityScheme (s : SecurityScheme) :
    s.compile.Finds S c c ((Entity.securityScheme s).fault? S c) := by
  rw [SecurityScheme.compile, Entity.fault?, Entity.reference?]
  cases s.reference with
  | some reference => exact finds_compileReference
  | none => exact ensures_get_bind (finds_addEntity (.refl c))

/-- A schema can be at fault as a reference only. -/
theorem finds_schema (s : Schema) :
    s.compile.Finds S c c ((Entity.schema s).fault? S c) := by
  rw [Schema.compile, Entity.fault?, Entity.reference?]
  cases s.reference with
  | some reference => exact finds_compileReference
  | none =>
    refine ensures_get_bind ?_
    exact (quiet_compileShape s).finds (.refl c) fun _ _ h => finds_addEntity h

/-- The root has no fault. -/
theorem finds_document (d : Document) :
    d.compileRoot.Finds S (c.after (.document d)) c ((Entity.document d).fault? S c) := by
  refine (ensures_modify (Q := fun _ c' => c' = c.after (.document d)) rfl).bind ?_
  rintro - c' rfl
  exact ensures_get_bind (finds_addEntity (.refl _))

/-- **Compiling an entity finds its fault,** and stays where the walk stands. -/
theorem finds_fault (e : Entity) : e.compile.Finds S (c.after e) c (e.fault? S c) := by
  cases e with
  | document d => exact finds_document d
  | server s => exact finds_server s
  | serverVariable v => exact finds_serverVariable v
  | channel ch => exact finds_channel ch
  | operation o => exact finds_operation o
  | message m => exact finds_message m
  | correlationId i => exact finds_correlationId i
  | parameter p => exact finds_parameter p
  | securityScheme s => exact finds_securityScheme s
  | schema s => exact finds_schema s
  | bindings kind b => exact finds_bindings kind b

end Compile
end ApiGraph
