/-
# What is derived when an entity is compiled

Servers, channels and messages get their variants when they are compiled, from their own name and
address and from what their bindings section holds itself; a bindings section that is no reference
is decoded, protocol by protocol (`Entity.Derives`, `grants_derives`).  What every entity grants to
its artifact, every artifact of a compiled document has (`granted_of_compile`).

This says nothing of the other edges and cells, which `Entity.Deposits` is about, and so only the
steps that derive something are followed here.
-/

import ApiGraph.Proofs.Compilation.Stores
import ApiGraph.Proofs.Protocol.Builders

namespace ApiGraph

open Document (Entity)

/-- What has variants: what they are derived from besides a name, and the variants. -/
structure Body.Varied where
  role : Role
  address : String
  bindings : Option (Promise .bindings)
  variants : Table Variant

/-- Servers, channels and messages have variants. -/
def Body.varied? : Body → Option Body.Varied
  | .server b => some ⟨.server, b.url, b.bindings, b.variants⟩
  | .channel b => some ⟨.channel, b.address, b.bindings, b.variants⟩
  | .message b => some ⟨.message, b.contentType, b.bindings, b.variants⟩
  | _ => none

/-- The bindings section of an entity that gets variants. -/
def Document.Entity.bindings? : Entity → Option Document.Bindings
  | .server s => s.bindings
  | .channel c => c.bindings
  | .message m => m.bindings
  | _ => none

/-- The entry of every protocol that has a builder is decoded by it. -/
def Registry.Decodes (r : Registry) (kind : Document.BindingsKind) (entries : Table Json)
    (values : Table BindingsValue) : Prop :=
  ∀ protocol b, Table.get? r protocol = some b → "x-".isPrefixOf protocol = false →
    match Table.get? entries protocol with
    | none => Table.get? values protocol = none
    | some raw => ∃ value, b.bindings kind raw = .ok value ∧
        Table.get? values protocol = some value

namespace Registry

variable {r : Registry} {kind : Document.BindingsKind} {name : String} {raw : Json}
  {rest : Table Json} {values : Table BindingsValue}

/-- No entries are decoded to no values. -/
theorem Decodes.nil : r.Decodes kind [] [] := fun _ _ _ _ => rfl

/-- An entry that is left out is none that has to be decoded. -/
theorem Decodes.leave (h : r.Decodes kind rest values)
    (other : "x-".isPrefixOf name = true ∨ Table.get? r name = none) :
    r.Decodes kind ((name, raw) :: rest) values := by
  intro protocol b hb extension
  have different : name ≠ protocol := by
    rintro rfl
    rcases other with prefixed | unknown
    · rw [extension] at prefixed
      cases prefixed
    · rw [unknown] at hb
      cases hb
  rw [Table.get?, if_neg different]
  exact h protocol b hb extension

/-- An entry of a known protocol is decoded by its builder. -/
theorem Decodes.keep (h : r.Decodes kind rest values) {b : Builder} {value : BindingsValue}
    (hb : Table.get? r name = some b) (hv : b.bindings kind raw = .ok value) :
    r.Decodes kind ((name, raw) :: rest) ((name, value) :: values) := by
  intro protocol b' hb' extension
  rw [Table.get?, Table.get?]
  by_cases same : name = protocol
  · subst same
    obtain rfl := Option.some.inj (hb.symm.trans hb')
    rw [if_pos rfl, if_pos rfl]
    exact ⟨value, hv, rfl⟩
  · rw [if_neg same, if_neg same]
    exact h protocol b' hb' extension

end Registry

/-- What is derived for the artifact that an entity is compiled to. -/
structure Document.Entity.Derives (e : Entity) (r : Registry) (a : Artifact) : Prop where
  variants : ∀ x, a.body.varied? = some x → Registry.variants x.role (fun b =>
    ⟨a.name, x.address, e.bindings?.bind (·.protocols.get? b.protocol)⟩) r = .ok x.variants
  values : ∀ kind b data, e = .bindings kind b → a.body = .bindings data →
    data.kind = kind ∧ r.Decodes kind b.protocols data.values

/-- The artifact that was added last. -/
def Context.Added (P : Artifact → Prop) (c : Context) : Prop :=
  ∃ before a, c.store.artifacts.toList = before ++ [a] ∧ P a

namespace Compile

open Document

variable {settings : Settings} {c : Context} {P : Entity → Artifact → Prop}

/-- Any way to end. -/
def AnyStop (_ : Stop) (_ : Context) : Prop := True

/-- Every entity is compiled to an artifact that has `P`. -/
def Grants (settings : Settings) (P : Entity → Artifact → Prop) : Prop :=
  ∀ (e : Entity) (c : Context), e.compile.Ensures settings c
    (fun _ c' => ∃ a, e.Deposits c a c' ∧ P e a) AnyStop

/-- Every entity is compiled to an artifact that has `P`, which may speak of the frames where the
walk stands. -/
def GrantsAt (settings : Settings) (P : List Frame → Entity → Artifact → Prop) : Prop :=
  ∀ (e : Entity) (c : Context), e.compile.Ensures settings c
    (fun _ c' => ∃ a, e.Deposits c a c' ∧ P c.frames e a) AnyStop

/-- Every computation ends somehow. -/
theorem ensures_any {α : Type} (x : Compile α) :
    x.Ensures settings c (fun _ _ => True) AnyStop := by
  unfold Ensures
  rcases x.exec settings c with ⟨stop | v, c'⟩ <;> trivial

/-- A step that nothing of interest depends on. -/
theorem Ensures.skip {α β : Type} {x : Compile α} {f : α → Compile β} {Q : β → Context → Prop}
    (h : ∀ v c', (f v).Ensures settings c' Q AnyStop) :
    (x >>= f).Ensures settings c Q AnyStop :=
  (ensures_any x).bind fun v c' _ => h v c'

/-- A computation ensures both of what it ensures. -/
theorem Ensures.and {α : Type} {x : Compile α} {Q Q' : α → Context → Prop}
    {E E' : Stop → Context → Prop} (h : x.Ensures settings c Q E)
    (h' : x.Ensures settings c Q' E') :
    x.Ensures settings c (fun v c' => Q v c' ∧ Q' v c')
      (fun stop c' => E stop c' ∧ E' stop c') := by
  unfold Ensures at h h' ⊢
  rcases hx : x.exec settings c with ⟨stop | v, c'⟩ <;> rw [hx] at h h' <;> exact ⟨h, h'⟩

/-- The artifact that is added has what it was made with. -/
theorem ensures_add_added {P : Artifact → Prop} {a : Artifact} (h : P a) :
    (add a).Ensures settings c (fun _ c' => c'.Added P) AnyStop := by
  refine ensures_get_bind ?_
  simp only [Context.add, DocumentStore.add]
  by_cases taken : c.store.artifacts.any (·.location == a.location)
  · simp only [taken, if_true]
    exact ensures_fail trivial
  · simp only [taken, Bool.false_eq_true, if_false]
    exact ensures_set ⟨_, a, Array.toList_push, h⟩

/-- The same of an artifact that is made from an entity: its name, its visibility and its body
are the ones given. -/
theorem ensures_addEntity_added {P : Artifact → Prop} {l : Label} {name : String}
    {selectable visible : Bool} {body : Body}
    (h : ∀ a : Artifact, a.name = name → a.visible = visible → a.body = body → P a) :
    (addEntity l name selectable visible body).Ensures settings c
      (fun _ c' => c'.Added P) AnyStop :=
  ensures_get_bind (ensures_add_added (h _ rfl rfl rfl))

/-- The fault of a hook leaves nothing to ensure. -/
theorem ensures_failHook_any {α : Type} {Q : α → Context → Prop} {place : Location}
    {protocol : String} (fault : HookFault) :
    (failHook place protocol fault : Compile α).Ensures settings c Q AnyStop := by
  have stops : (failHook place protocol fault : Compile α).Ensures settings c Q c.Stops :=
    ensures_failHook fault
  exact stops.mono (fun _ _ h => h) fun _ _ _ => trivial

/-- The variants are what the registry derives from the name, the address and the section's own
entries. -/
theorem ensures_variants_derived {role : Role} {name address : String} {b : Option Bindings} :
    (variants role name address b).Ensures settings c
      (fun vs _ => Registry.variants role (fun builder =>
        ⟨name, address, b.bind (·.protocols.get? builder.protocol)⟩) settings.registry = .ok vs)
      AnyStop := by
  refine ensures_read_bind ?_
  split
  · exact ensures_pure ‹_›
  · exact ensures_get_bind (ensures_failHook_any _)

/-- The values are what the registry decodes of the entries. -/
theorem ensures_decodes (kind : BindingsKind) (entries : Table Json) :
    (decodeBindings kind entries).Ensures settings c
      (fun values _ => settings.registry.Decodes kind entries values) AnyStop := by
  induction entries generalizing c with
  | nil => exact ensures_pure .nil
  | cons entry rest ih =>
    obtain ⟨name, raw⟩ := entry
    rw [decodeBindings]
    refine ensures_ite (fun extension => ?_) fun _ => ensures_get_bind (ensures_read_bind ?_)
    · exact ih.mono (fun _ _ h => h.leave (.inl extension)) fun _ _ h => h
    · split
      · rename_i unknown
        refine .skip fun _ _ => ?_
        exact ih.mono (fun _ _ h => h.leave (.inr unknown)) fun _ _ h => h
      · rename_i b hb
        split
        · exact ensures_failHook_any _
        · rename_i value hv
          exact ih.bind fun _ _ h => ensures_pure (h.keep hb hv)

/-! ## The entities -/

/-- The last steps of an entity that gets variants. -/
theorem ensures_varied {e : Entity} {x : Body.Varied} {l : Label} {name : String}
    {selectable visible : Bool} {body : Table Variant → Body} (varied : ∀ vs, (body vs).varied? =
      some { x with variants := vs }) (other : ∀ vs data, body vs ≠ .bindings data) :
    (variants x.role name x.address e.bindings? >>= fun vs =>
      addEntity l name selectable visible (body vs)).Ensures settings c
        (fun _ c' => c'.Added (e.Derives settings.registry)) AnyStop := by
  refine ensures_variants_derived.bind fun vs _ hv => ?_
  refine ensures_addEntity_added fun a named _ filled =>
    ⟨fun y hy => ?_, fun kind b data _ hd => ?_⟩
  · rw [filled, varied] at hy
    cases hy
    rw [named]
    exact hv
  · exact absurd (filled.symm.trans hd) (other vs data)

/-- A server derives its variants. -/
theorem ensures_server_derives (s : Server) (own : s.reference = none) :
    s.compile.Ensures settings c
      (fun _ c' => c'.Added ((Entity.server s).Derives settings.registry)) AnyStop := by
  rw [Server.compile, own]
  refine .skip fun _ _ => .skip fun _ _ => .skip fun _ _ => .skip fun bindings _ => ?_
  refine ensures_read_bind ?_
  refine ensures_ite (fun _ => ?_) fun _ => .skip fun _ _ => ?_
  all_goals
    exact ensures_varied (e := .server s) (x := ⟨.server, s.url, bindings, []⟩) (fun _ => rfl)
      fun _ _ h => by cases h

/-- A channel derives its variants. -/
theorem ensures_channel_derives (ch : Channel) (own : ch.reference = none) :
    ch.compile.Ensures settings c
      (fun _ c' => c'.Added ((Entity.channel ch).Derives settings.registry)) AnyStop := by
  rw [Channel.compile, own]
  refine .skip fun c₀ _ => .skip fun _ _ => .skip fun _ _ => .skip fun _ _ => .skip fun _ _ =>
    .skip fun bindings _ => ?_
  exact ensures_varied (e := .channel ch)
    (x := ⟨.channel, c₀.location.last?.getD "", bindings, []⟩) (fun _ => rfl)
    fun _ _ h => by cases h

/-- A message derives its variants. -/
theorem ensures_message_derives (m : Message) (own : m.reference = none) :
    m.compile.Ensures settings c
      (fun _ c' => c'.Added ((Entity.message m).Derives settings.registry)) AnyStop := by
  rw [Message.compile, own]
  refine .skip fun c₀ _ => ensures_read_bind ?_
  refine .skip fun _ _ => .skip fun _ _ => .skip fun _ _ => .skip fun bindings _ => ?_
  exact ensures_varied (e := .message m)
    (x := ⟨.message, m.contentType.getD (c₀.messageContentType settings.options), bindings, []⟩)
    (fun _ => rfl) fun _ _ h => by cases h

/-- A bindings section derives its values. -/
theorem ensures_bindings_derives (kind : BindingsKind) (b : Bindings) (own : b.reference = none) :
    (b.compile kind).Ensures settings c
      (fun _ c' => c'.Added ((Entity.bindings kind b).Derives settings.registry)) AnyStop := by
  rw [Bindings.compile, own]
  refine .skip fun _ _ => (ensures_decodes kind b.protocols).bind fun values _ decodes => ?_
  refine ensures_addEntity_added fun a _ _ filled => ⟨fun x hx => ?_, ?_⟩
  · rw [filled] at hx
    cases hx
  · rintro kind b data ⟨⟩ hd
    rw [filled] at hd
    cases hd
    exact ⟨rfl, decodes⟩

/-- What was added is what was deposited. -/
theorem ensures_deposited (e : Entity) {P : Artifact → Prop}
    (h : e.compile.Ensures settings c (fun _ c' => c'.Added P) AnyStop) :
    e.compile.Ensures settings c (fun _ c' => ∃ a, e.Deposits c a c' ∧ P a) AnyStop := by
  refine ((ensures_compile e).and h).mono ?_ fun _ _ _ => trivial
  rintro - c' ⟨⟨a, dep⟩, before, b, last, hb⟩
  have same := dep.gains.store.artifacts.symm.trans last
  obtain ⟨-, one⟩ := List.append_inj' same rfl
  obtain rfl := (List.cons.inj one).1
  exact ⟨a, dep, hb⟩

/-- Nothing is derived for references and for entities of other types. -/
theorem ensures_nothing_derived {e : Entity} (other : e.reference?.isSome ∨
    e.label ∉ [.server, .channel, .message, .bindings]) :
    e.compile.Ensures settings c
      (fun _ c' => ∃ a, e.Deposits c a c' ∧ e.Derives settings.registry a) AnyStop := by
  refine (ensures_compile e).mono ?_ fun _ _ _ => trivial
  rintro - c' ⟨a, dep⟩
  have label : a.body.label? ∉ [some .server, some .channel, some .message, some .bindings] := by
    have body := dep.body
    rw [Entity.Fills] at body
    split at body
    · obtain ⟨r, hb, -⟩ := body
      rw [hb]
      simp [Body.label?]
    · rw [body.1]
      simpa [*] using other
  refine ⟨a, dep, fun x hx => ?_, fun kind b data _ hb => ?_⟩
  · cases hb : a.body <;> rw [hb] at hx label <;> cases hx <;> simp [Body.label?] at label
  · rw [hb] at label
    simp [Body.label?] at label

/-- **What an entity derives** when it is compiled. -/
theorem grants_derives : Grants settings fun e a => e.Derives settings.registry a := by
  intro e c
  cases href : e.reference? with
  | some reference => exact ensures_nothing_derived (.inl (by rw [href]; rfl))
  | none =>
    cases e with
    | server s => exact ensures_deposited (.server s) (ensures_server_derives s href)
    | channel ch => exact ensures_deposited (.channel ch) (ensures_channel_derives ch href)
    | message m => exact ensures_deposited (.message m) (ensures_message_derives m href)
    | bindings kind b =>
      exact ensures_deposited (.bindings kind b) (ensures_bindings_derives kind b href)
    | _ => exact ensures_nothing_derived (.inr (by simp [Entity.label]))

section GrantsAt

variable {P : List Frame → Entity → Artifact → Prop}

/-- A visit adds one artifact, with what its entity grants. -/
theorem GrantsAt.ensures_visit (h : GrantsAt settings P) (v : Visit) :
    v.compile.Ensures settings c (fun _ c' => ∃ a,
      c'.store.artifacts.toList = c.store.artifacts.toList ++ [a] ∧ P v.frames v.entity a)
      AnyStop := by
  refine (ensures_modify (Q := fun _ c' => c' = { c with frames := v.frames }) rfl).bind ?_
  rintro - c' rfl
  refine (h v.entity _).mono ?_ fun _ _ h => h
  rintro - c' ⟨a, dep, granted⟩
  exact ⟨a, dep.gains.store.artifacts, granted⟩

/-- A walk adds one artifact for each visit, in order, each with what its entity grants. -/
theorem GrantsAt.ensures_outline (h : GrantsAt settings P) {index : Nat} {document : String}
    (o : Outline) : o.compile.Ensures settings { store := .empty index document }
      (fun _ c' => List.Forall₂ (fun v a => P v.frames v.entity a) (o.visits [])
        c'.store.artifacts.toList) AnyStop := by
  refine ensures_get_bind ?_
  refine Ensures.bind (ensures_forM (I := fun done c' =>
    List.Forall₂ (fun v a => P v.frames v.entity a) done
      c'.store.artifacts.toList) (o.visits []) .nil fun done v rest c' _ before => ?_)
    fun _ c' h => ensures_modify h
  refine (h.ensures_visit v).mono ?_ fun _ _ h => h
  rintro - c'' ⟨a, added, granted⟩
  rw [added]
  exact List.rel_append before (.cons granted .nil)

end GrantsAt

end Compile

namespace Document

variable {settings : Settings} {index : Nat} {name : String}

/-- **Every artifact of a compiled document** has what its entity is granted where it stands. -/
theorem granted_at_of_compile {P : List Frame → Entity → Artifact → Prop}
    (h : Compile.GrantsAt settings P) {d : Document} {store : DocumentStore}
    (hc : d.compile settings index name = .ok store) :
    List.Forall₂ (fun v a => P v.frames v.entity a) (d.outline.visits [])
      store.artifacts.toList := by
  obtain ⟨c, granted, rfl⟩ := of_compile (h.ensures_outline d.outline) hc
  exact granted

/-- **What every entity grants, every artifact of a compiled document has.** -/
theorem granted_of_compile {P : Entity → Artifact → Prop} (h : Compile.Grants settings P)
    {d : Document} {store : DocumentStore} (hc : d.compile settings index name = .ok store) :
    List.Forall₂ (fun v a => P v.entity a) (d.outline.visits []) store.artifacts.toList :=
  granted_at_of_compile (P := fun _ => P) h hc

end Document
end ApiGraph
