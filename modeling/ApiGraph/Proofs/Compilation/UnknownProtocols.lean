/-
# Entries for unknown protocols

An entry of a bindings section that no builder is registered for.  Wherever it stands in the
section, it is passed over when the section is decoded, with one warning unless its key is an
extension (`exists_decodeBindings_insertEntry`), and a builder that derives a variant from the
section does not look it up (`Bindings.alike_insertEntry`).  Nothing else reads it.  So a document
with one such entry more compiles to the same store, up to the warning
(`Document.exists_compile_insertEntry`).
-/

import ApiGraph.Proofs.Compilation.Comparison
import ApiGraph.Proofs.Compilation.Stores
import ApiGraph.Proofs.Document.Sections

namespace ApiGraph

open Document (Entity Bindings BindingsKind)

/-- The registry has a builder under the name, or one that looks the name up. -/
def Registry.Knows (r : Registry) (protocol : String) : Prop :=
  ∃ e ∈ r, e.1 = protocol ∨ e.2.protocol = protocol

/-- A key is looked up in the first table, and then in the second one. -/
theorem Table.get?_append {α : Type} (t u : Table α) (key : String) :
    Table.get? (t ++ u) key = (Table.get? t key).or (Table.get? u key) := by
  induction t with
  | nil => rfl
  | cons entry rest ih =>
    obtain ⟨k, v⟩ := entry
    rw [List.cons_append, Table.get?, Table.get?, ih]
    split <;> rfl

/-! ## Diagnostics -/

/-- The warning about an entry for an unknown protocol. -/
def Diagnostic.unknownProtocol (place : Location) (key : String) : Diagnostic where
  location := place
  protocol := some key
  message := "bindings for an unknown protocol were ignored"

/-- What is warned of an entry that no builder is registered for: the entry, unless it is an
extension. -/
def Diagnostic.ofUnknown (place : Location) (key : String) : List Diagnostic :=
  if "x-".isPrefixOf key then [] else [.unknownProtocol place key]

/-- The diagnostics `ds'` are `ds` with `more` among them. -/
def Diagnostic.Inserted (more ds ds' : List Diagnostic) : Prop :=
  ∃ before after, ds = before ++ after ∧ ds' = before ++ more ++ after

/-- Nothing differs but that there are more diagnostics. -/
def Margin.warned (more : String → List Diagnostic) : Margin where
  diagnostics name := Diagnostic.Inserted (more name)

/-- Whatever the settings are, one store may have more diagnostics than the other. -/
theorem Margin.admits_warned (more : String → List Diagnostic) (S : Settings) :
    (Margin.warned more).Admits S S := by
  refine Margin.admits_of_registry rfl rfl (fun _ _ => rfl) fun d name ds ds' h => ?_
  obtain ⟨before, after, rfl, rfl⟩ := h
  exact ⟨before, after ++ [d], by simp, by simp⟩

/-! ## The entry -/

namespace Document

/-- One entry more, at a position of the section. -/
def Bindings.insertEntry (position : Nat) (key : String) (value : Json) (b : Bindings) : Bindings :=
  { b with protocols := b.protocols.take position ++ (key, value) :: b.protocols.drop position }

/-- One entry more, if the section stands at the path. -/
def Bindings.insertEntryAt (path : List String) (position : Nat) (key : String) (value : Json)
    (p : List String) (b : Bindings) : Bindings :=
  if p = path then b.insertEntry position key value else b

/-- One entry more in the bindings section at the path. -/
def insertEntry (path : List String) (position : Nat) (key : String) (value : Json)
    (d : Document) : Document :=
  d.mapSections (Bindings.insertEntryAt path position key value)

/-- Lookups of other keys do not see the entry. -/
theorem Bindings.get?_insertEntry {key name : String} (h : key ≠ name) (position : Nat)
    (value : Json) (b : Bindings) :
    (b.insertEntry position key value).protocols.get? name = b.protocols.get? name := by
  rw [insertEntry, Table.get?_append, Table.get?, if_neg h, ← Table.get?_append,
    List.take_append_drop]

/-- Builders that look other names up find what they found. -/
theorem Bindings.alike_insertEntry {r : Registry} {key : String} (unknown : ¬ r.Knows key)
    (path p : List String) (position : Nat) (value : Json) (b : Option Bindings) :
    Bindings.Alike r b (mapSection (Bindings.insertEntryAt path position key value) p b) where
  isSome := Option.isSome_map ..
  get? e he := by
    have other : key ≠ e.2.protocol := fun same => unknown ⟨e, he, .inr same.symm⟩
    cases b with
    | none => rfl
    | some b =>
      simp only [mapSection, Option.map_some, Option.bind_some, insertEntryAt]
      split
      · exact Bindings.get?_insertEntry other position value b
      · rfl

/-- Other bindings sections leave the messages of an operation alike. -/
theorem OperationMessage.alike_mapSections (f : List String → Bindings → Bindings)
    (path : List String) (message : Option OperationMessage) :
    OperationMessage.Alike message (message.map (·.mapSections f path)) := by
  rcases message with _ | messages | message
  · trivial
  · exact List.length_mapIdx
  · trivial

/-- **Entities agree** with one entry more in a section that is not the entity itself. -/
theorem Entity.agrees_insertEntry {r : Registry} {key : String} (unknown : ¬ r.Knows key)
    (path p : List String) (position : Nat) (value : Json) (e : Entity)
    (other : ∀ kind b, e = .bindings kind b → p ≠ path) :
    e.Agrees r (e.mapSections (Bindings.insertEntryAt path position key value) p) := by
  have alike := Bindings.alike_insertEntry unknown path p position value
  cases e with
  | document d => exact .document rfl rfl rfl
  | server s => exact .server s (alike _)
  | channel c =>
    exact .channel c (Option.isSome_map ..) (Option.isSome_map ..) (alike _)
  | operation o =>
    exact .operation o (OperationMessage.alike_mapSections _ _ _) (alike _).isSome
  | message m => exact .message m (alike _)
  | bindings kind b =>
    rw [Entity.mapSections, Bindings.insertEntryAt, if_neg (other kind b rfl)]
    exact .refl _
  | serverVariable | correlationId | parameter | securityScheme | schema => exact .refl _

end Document

/-! ## Decoding -/

namespace Document

open Compile

/-- Entries are decoded in two parts. -/
theorem decodeBindings_append (kind : BindingsKind) (t u : Table Json) :
    decodeBindings kind (t ++ u) = do
      let values ← decodeBindings kind t
      return values ++ (← decodeBindings kind u) := by
  induction t with
  | nil => simp [decodeBindings]
  | cons entry rest ih =>
    obtain ⟨protocol, raw⟩ := entry
    rw [List.cons_append, decodeBindings, decodeBindings]
    split
    · exact ih
    · rw [bind_assoc]
      refine bind_congr fun c => ?_
      rw [bind_assoc]
      refine bind_congr fun settings => ?_
      cases settings.registry.get? protocol with
      | none => simp only [ih, bind_assoc]
      | some builder =>
        simp only
        cases builder.bindings kind raw with
        | error fault => cases fault <;> rfl
        | ok value => simp [ih]

variable {S : Settings} {kind : BindingsKind} {key : String} {c c' c₁ : Context}

/-- What the registry does not know has no builder. -/
theorem Registry.get?_eq_none {r : Registry} (unknown : ¬ r.Knows key) :
    Table.get? r key = none := by
  cases found : Table.get? r key with
  | none => rfl
  | some b => exact absurd ⟨_, Table.mem_of_get? found, .inl rfl⟩ unknown

/-- The entry itself is passed over. -/
theorem exists_decodeBindings_cons (kind : BindingsKind) (unknown : ¬ S.registry.Knows key)
    (value : Json) (same : c.Matches {} c') :
    ∃ c₁', (∀ rest, (decodeBindings kind ((key, value) :: rest)).exec S c' =
        (decodeBindings kind rest).exec S c₁') ∧
      c.Matches (.warned fun _ => Diagnostic.ofUnknown c.location key) c₁' := by
  have silent : c'.store.diagnostics = c.store.diagnostics := same.store.diagnostics.symm
  by_cases extension : "x-".isPrefixOf key
  · have inserted : Diagnostic.Inserted (Diagnostic.ofUnknown c.location key)
        c.store.diagnostics c'.store.diagnostics := by
      rw [Diagnostic.ofUnknown, if_pos extension, silent]
      exact ⟨c.store.diagnostics, [], by simp, by simp⟩
    refine ⟨c', fun rest => ?_, same.frames, same.contentType,
      same.store.of_diagnostics (D := fun _ => Diagnostic.Inserted _) inserted⟩
    rw [decodeBindings, if_pos extension]
  · have inserted : Diagnostic.Inserted (Diagnostic.ofUnknown c.location key)
        c.store.diagnostics (c'.store.diagnostics ++ [.unknownProtocol c.location key]) := by
      rw [Diagnostic.ofUnknown, if_neg extension, silent]
      exact ⟨c.store.diagnostics, [], by simp, by simp⟩
    refine ⟨c'.diagnose (.unknownProtocol c.location key), fun rest => ?_, same.frames,
      same.contentType, same.store.of_diagnostics (D := fun _ => Diagnostic.Inserted _) inserted⟩
    rw [decodeBindings, if_neg extension, exec_get_bind, exec_read_bind,
      Registry.get?_eq_none unknown, same.location]
    rfl

/-- **Decoding passes the entry over**, with a warning at the place of the section. -/
theorem exists_decodeBindings_insertEntry (unknown : ¬ S.registry.Knows key) (position : Nat)
    (value : Json) (b : Bindings) {values : Table BindingsValue} (same : c.Matches {} c')
    (run : (decodeBindings kind b.protocols).exec S c = (.ok values, c₁)) :
    ∃ c₁', (decodeBindings kind (b.insertEntry position key value).protocols).exec S c' =
        (.ok values, c₁') ∧
      c₁.Matches (.warned fun _ => Diagnostic.ofUnknown c.location key) c₁' := by
  -- what is before the entry is decoded as it was, and the walk stays where it is
  rw [← List.take_append_drop position b.protocols, decodeBindings_append, exec_bind] at run
  rcases first : (decodeBindings kind (b.protocols.take position)).exec S c with
    ⟨stop | before, c₂⟩ <;> rw [first] at run
  · cases run
  obtain ⟨_, c₂', first', rfl, same₂⟩ := parallel_decodeBindings (Margin.admits_refl S) kind
    (b.protocols.take position) c c' before c₂ same first
  have ensured : (decodeBindings kind (b.protocols.take position)).Ensures S c
      (fun _ c' => c.Requested [] c' []) c.Stops := ensures_decodeBindings kind _
  have stays : c₂.location = c.location := (ensured.of_exec_ok first).location
  -- then comes the entry, and what is behind it
  obtain ⟨c₃', skip, same₃⟩ := exists_decodeBindings_cons kind unknown value same₂
  rw [stays] at same₃
  let margin : Margin := .warned fun _ => Diagnostic.ofUnknown c.location key
  have behind : Parallel S S margin margin Eq
      (decodeBindings kind (b.protocols.drop position) >>= fun after => pure (before ++ after))
      (decodeBindings kind (b.protocols.drop position) >>= fun after =>
        pure (before ++ after)) := by
    refine (parallel_decodeBindings (Margin.admits_warned _ S) kind _).bind ?_
    rintro after - rfl
    exact parallel_pure rfl
  obtain ⟨_, c₁', last, rfl, same₁⟩ := behind c₂ c₃' values c₁ same₃ run
  refine ⟨c₁', ?_, same₁⟩
  rw [Bindings.insertEntry, decodeBindings_append, exec_bind, first']
  simp only
  rw [exec_bind] at last ⊢
  rw [skip, last]

/-- Diagnostics of the same document are warned of. -/
theorem matches_warned_congr {more more' : String → List Diagnostic}
    (h : c.Matches (.warned more) c')
    (same : more' c.store.document = more c.store.document) : c.Matches (.warned more') c' := by
  have inserted : Diagnostic.Inserted (more' c.store.document) c.store.diagnostics
      c'.store.diagnostics := same ▸ h.store.diagnostics
  exact ⟨h.frames, h.contentType,
    h.store.of_diagnostics (D := fun name => Diagnostic.Inserted (more' name)) inserted⟩

/-- **The section with the entry** is compiled in parallel, and warned of where it stands. -/
theorem parallel_insertEntry (unknown : ¬ S.registry.Knows key) {b : Bindings}
    (own : b.reference = none) (frames : List Frame) (position : Nat) (value : Json) :
    Parallel S S {} (.warned fun name => Diagnostic.ofUnknown ⟨name, Frame.path frames⟩ key) Eq
      (Visit.compile ⟨frames, .bindings kind b⟩)
      (Visit.compile ⟨frames, .bindings kind (b.insertEntry position key value)⟩) := by
  intro c c' v c₂ same run
  have moved : Context.Matches {} { c with frames := frames } { c' with frames := frames } :=
    ⟨rfl, same.contentType, same.store⟩
  replace run : (b.compile kind).exec S { c with frames := frames } = (.ok v, c₂) := run
  obtain ⟨_, deposits⟩ := (ensures_bindings kind b).of_exec_ok run
  have document : c₂.store.document = c.store.document := deposits.gains.store.document
  rw [Bindings.compile] at run
  simp only [own] at run
  rw [exec_get_bind, exec_bind] at run
  rcases first : (decodeBindings kind b.protocols).exec S { c with frames := frames } with
    ⟨stop | values, c₁⟩ <;> rw [first] at run
  · cases run
  obtain ⟨c₁', second, same₁⟩ :=
    exists_decodeBindings_insertEntry unknown position value b moved first
  have added (more : String → List Diagnostic) (name : String) (selectable : Bool) :
      Parallel S S (.warned more) (.warned more) Eq
      (addEntity .bindings name selectable true (.bindings ⟨kind, values⟩))
      (addEntity .bindings name selectable true (.bindings ⟨kind, values⟩)) :=
    parallel_addEntity rfl ⟨values, rfl, rfl⟩
  obtain ⟨_, c₂', last, rfl, same₂⟩ := added _ _ _ c₁ c₁' v c₂ same₁ run
  refine ⟨v, c₂', ?_, rfl, matches_warned_congr same₂ (by rw [document]; rfl)⟩
  have own' : (b.insertEntry position key value).reference = none := own
  change ((b.insertEntry position key value).compile kind).exec S { c' with frames := frames } = _
  rw [Bindings.compile]
  simp only [own']
  rw [exec_get_bind, exec_bind, second]
  simp only
  rw [moved.entityName, moved.isDefinition]
  exact last

/-- **One entry more for an unknown protocol** changes nothing in the store of a document but its
diagnostics. -/
theorem exists_compile_insertEntry {d : Document} {index : Nat} {name : String}
    {store : DocumentStore} {path : List String} {b : Bindings}
    (h : d.compile S index name = .ok store)
    (contains : (Entity.document d).Contains path (.bindings kind b)) (own : b.reference = none)
    (unknown : ¬ S.registry.Knows key) (position : Nat) (value : Json) :
    ∃ store', (d.insertEntry path position key value).compile S index name = .ok store' ∧
      store.Matches (.warned fun name => Diagnostic.ofUnknown ⟨name, path⟩ key) store' := by
  obtain ⟨v, hv, placed⟩ := exists_visit_iff.2 contains
  obtain ⟨before, after, split⟩ := List.append_of_mem hv
  have distinct : ((before ++ v :: after).map (Visit.place name)).Nodup := by
    obtain ⟨-, document, compiled⟩ := compiledFrom_of_compile h
    have places : (before ++ v :: after).map (Visit.place name) =
        store.artifacts.toList.map Artifact.location :=
      split ▸ map_eq_of_forall₂ compiled.artifacts fun v a rep => by rw [rep.location, document]
    rw [places]
    exact compiled.places_nodup
  -- only one visit stands at the path, and it is that of the section
  have agrees : ∀ w ∈ before ++ after, w.entity.Agrees S.registry
      (w.mapSections (Bindings.insertEntryAt path position key value)).entity := by
    intro w hw
    refine Entity.agrees_insertEntry unknown path _ position value w.entity fun _ _ _ at_ => ?_
    rw [List.map_append, List.map_cons, List.nodup_middle, ← List.map_append] at distinct
    refine (List.nodup_cons.1 distinct).1 (List.mem_map.2 ⟨w, hw, ?_⟩)
    rw [Visit.place, Visit.place, at_, ← (Prod.mk.inj placed).1]
  obtain ⟨frames, entity⟩ := v
  obtain ⟨rfl, rfl⟩ : Frame.path frames = path ∧ entity = .bindings kind b := Prod.mk.inj placed
  let f := Bindings.insertEntryAt (Frame.path frames) position key value
  have others (margin : Margin) (admits : margin.Admits S S) (vs : List Visit)
      (part : ∀ w ∈ vs, w ∈ before ++ after) : Parallel S S margin margin Eq
        (vs.forM Visit.compile) ((vs.map (Visit.mapSections f)).forM Visit.compile) :=
    parallel_forM (P := fun w w' => w ∈ vs ∧ w' = w.mapSections f)
      (List.forall₂_map_right_iff.2 (List.forall₂_same.2 fun w hw => ⟨hw, rfl⟩))
      fun w _ ⟨hw, mapped⟩ => mapped ▸ parallel_visit admits rfl (agrees w (part w hw))
  have entry : Visit.mapSections f ⟨frames, .bindings kind b⟩ =
      ⟨frames, .bindings kind (b.insertEntry position key value)⟩ := by
    rw [Visit.mapSections, Entity.mapSections]
    simp only [f, Bindings.insertEntryAt, if_true]
  refine exists_compile_of_parallel (M := {}) rfl ?_ h
  rw [insertEntry, visits_mapSections, split, List.map_append, List.map_cons, entry,
    List.forM_eq_forM, List.forM_append, List.forM_append]
  refine (others {} (Margin.admits_refl S) before fun w hw => List.mem_append_left _ hw).bind
    fun _ _ _ => ?_
  refine (parallel_insertEntry unknown own frames position value).bind fun _ _ _ => ?_
  exact others _ (Margin.admits_warned _ S) after fun w hw => List.mem_append_right _ hw

end Document
end ApiGraph
