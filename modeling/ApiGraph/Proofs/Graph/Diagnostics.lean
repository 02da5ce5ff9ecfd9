/-
# Diagnostics are not read

A store without its diagnostics (`ArtifactStore.silent`) has the same artifacts and the same
cells.  Linking it gives the same outcome without the diagnostics (`ArtifactStore.link_silent`),
and every read of the graph, and so every answer of a selection, is the same
(`Selection.answers_silent`).  So graphs that differ in diagnostics only have selections that give
the same answers (`Selection.exists_ofGraph_of_silent`).
-/

import ApiGraph.Proofs.Correspondence
import ApiGraph.Selection

namespace ApiGraph

/-- The store of a document without its diagnostics. -/
def DocumentStore.silent (d : DocumentStore) : DocumentStore :=
  { d with diagnostics := [] }

namespace ArtifactStore

/-- A store without its diagnostics. -/
def silent (s : ArtifactStore) : ArtifactStore :=
  ⟨s.documents.map DocumentStore.silent⟩

variable (s : ArtifactStore)

/-- Everything but the diagnostics is kept, so artifacts and cells are read in a store without
them as in the store. -/
@[simp] theorem catalog_silent : s.silent.catalog = s.catalog := by
  rw [catalog, catalog, silent, List.map_map]
  rfl

@[simp] theorem promises_silent : s.silent.promises = s.promises := by
  rw [promises, promises, silent, List.flatMap_map]
  rfl

@[simp] theorem lists_silent : s.silent.lists = s.lists := by
  rw [lists, lists, silent, List.flatMap_map]
  rfl

@[simp] theorem references_silent : s.silent.references = s.references := by
  rw [references, references, silent, List.flatMap_map]
  rfl

@[simp] theorem promise?_silent (cell : CellId) : s.silent.promise? cell = s.promise? cell := by
  rw [promise?, promise?, silent, List.getElem?_map, Option.bind_map]
  rfl

@[simp] theorem list?_silent (cell : CellId) : s.silent.list? cell = s.list? cell := by
  rw [list?, list?, silent, List.getElem?_map, Option.bind_map]
  rfl

@[simp] theorem reference?_silent (cell : CellId) :
    s.silent.reference? cell = s.reference? cell := by
  rw [reference?, reference?, silent, List.getElem?_map, Option.bind_map]
  rfl

end ArtifactStore

/-! ## Linking -/

namespace Linking

/-- The outcome without diagnostics. -/
def Outcome.silent : Outcome → Outcome
  | linked s => linked s.silent
  | failed errors => failed errors
  | boundTwice origin => boundTwice origin
  | astray id => astray id

variable (s : ArtifactStore)

/-- The linker sees a store without its diagnostics. -/
theorem view_silent : view s.silent = view s := by
  have raw (find : Location → Option ArtifactId) :
      rawReferences s.silent find = rawReferences s find := by
    simp only [rawReferences, ArtifactStore.silent, List.map_toArray, List.map_map]
    rfl
  simp only [view, ArtifactStore.catalog_silent, raw]

/-- So it finds the same in the store with them and without. -/
theorem findings_silent : findings s.silent = findings s := by
  simp only [findings, astray?, verdicts, missingReferences, missingPromises, cycles, narrowReferences,
    narrowPromises, narrowLists, view_silent, ArtifactStore.references_silent,
    ArtifactStore.promises_silent, ArtifactStore.lists_silent]

/-- And it comes to the same outcome, where the diagnostics are kept as they were. -/
theorem run_silent : run s.silent = (run s).silent := by
  have before (f : Findings) : boundBefore? f s.silent = boundBefore? f s := by
    simp only [boundBefore?, ArtifactStore.references_silent, ArtifactStore.promises_silent,
      ArtifactStore.lists_silent]
  have assigned (f : Findings) : s.silent.documents.map (assignDocument f) =
      (s.documents.map (assignDocument f)).map DocumentStore.silent := by
    rw [ArtifactStore.silent, List.map_map, List.map_map]
    rfl
  simp only [run, findings_silent, before, assigned]
  split
  · rfl
  · split
    · split <;> rfl
    · rfl

end Linking

/-- **Linking** does not read diagnostics. -/
theorem ArtifactStore.link_silent (s : ArtifactStore) : s.silent.link = s.link.silent :=
  Linking.run_silent s

/-! ## Graphs -/

namespace Graph

/-- A graph without its diagnostics. -/
def silent (g : Graph) : Graph :=
  ⟨g.store.silent⟩

variable (g : Graph)

@[simp] theorem catalog_silent : g.silent.catalog = g.catalog := g.store.catalog_silent

/-- An artifact is read the same without diagnostics. -/
@[simp] theorem artifact_silent (id : ArtifactId) : g.silent.artifact id = g.artifact id := by
  rw [artifact, artifact, catalog_silent]

@[simp] theorem size_silent : g.silent.size = g.size := by rw [size, size, catalog_silent]

@[simp] theorem binding_silent {l : Label} (p : Promise l) : g.silent.binding p = g.binding p := by
  rw [binding, binding, silent, ArtifactStore.promise?_silent]

@[simp] theorem listBindings_silent {l : Label} (p : ListPromise l) :
    g.silent.listBindings p = g.listBindings p := by
  rw [listBindings, listBindings, silent, ArtifactStore.list?_silent]

@[simp] theorem referenceBinding_silent (slot : CellId) :
    g.silent.referenceBinding slot = g.referenceBinding slot := by
  rw [referenceBinding, referenceBinding, silent, ArtifactStore.reference?_silent]

/-- A chain of references is followed the same without diagnostics, by induction on its steps. -/
@[simp] theorem followFrom_silent (steps : Nat) (id : ArtifactId) :
    g.silent.followFrom steps id = g.followFrom steps id := by
  induction steps generalizing id with
  | zero => rw [followFrom, followFrom, artifact_silent]
  | succ steps ih =>
    rw [followFrom, followFrom, artifact_silent]
    simp only [referenceBinding_silent, ih]

@[simp] theorem follow_silent (id : ArtifactId) : g.silent.follow id = g.follow id := by
  rw [follow, follow, followFrom_silent, size_silent]

@[simp] theorem narrow_silent (l : Label) (id : ArtifactId) :
    g.silent.narrow l id = g.narrow l id := by
  rw [narrow, narrow, artifact_silent]

@[simp] theorem resolve_silent {l : Label} (p : Promise l) : g.silent.resolve p = g.resolve p := by
  simp only [resolve, binding_silent, follow_silent, narrow_silent]

@[simp] theorem resolveList_silent {l : Label} (p : ListPromise l) :
    g.silent.resolveList p = g.resolveList p := by
  simp only [resolveList, listBindings_silent, follow_silent, narrow_silent]

@[simp] theorem servers_silent (c : Body.Channel) : g.silent.servers c = g.servers c := by
  rw [servers, servers]
  cases c.servers with
  | named promises => simp only [funext (resolve_silent g)]
  | all promise => exact resolveList_silent g promise

@[simp] theorem isVisible_silent (id : ArtifactId) : g.silent.isVisible id = g.isVisible id := by
  simp only [isVisible, follow_silent, artifact_silent]

/-- The protocols of visible servers are the same without diagnostics. -/
@[simp] theorem visibleProtocols_silent (servers : List (ArtifactId × Body.Server)) :
    g.silent.visibleProtocols servers = g.visibleProtocols servers := by
  induction servers with
  | nil => rfl
  | cons found rest ih => rw [visibleProtocols, visibleProtocols, isVisible_silent, ih]

@[simp] theorem messages_silent (operations : List (Promise .operation)) :
    g.silent.messages operations = g.messages operations := by
  simp only [messages, resolve_silent]

@[simp] theorem route_silent (id : ArtifactId) (c : Body.Channel) :
    g.silent.route id c = g.route id c := by
  simp only [route, servers_silent, visibleProtocols_silent, messages_silent]

/-- The routes of a graph are the same without its diagnostics. -/
@[simp] theorem routes_silent : g.silent.routes = g.routes := by
  simp only [routes, channels, artifacts, catalog_silent, route_silent]

end Graph

/-! ## Selections -/

namespace Selection

/-- What a selection answers. -/
structure Answers where
  routes : List Route
  channelProtocols : ArtifactId → Except Defect (List String)
  serverChannels : ArtifactId → Except Defect (List ArtifactId)
  messageProtocols : ArtifactId → Except Defect (List String)
  protocols : ArtifactId → Except Defect (List String)
  variants : ArtifactId → Except Defect (Table Variant)
  variant? : ArtifactId → String → Except Defect (Option Variant)
  applies : ArtifactId → String → Except Defect Bool
  units : Kind → List ArtifactId
  protocolUnits : Kind → String → Except Defect (List (ArtifactId × Variant))

/-- Every answer of a selection. -/
def answers (s : Selection) : Answers where
  routes := s.routes
  channelProtocols := s.channelProtocols
  serverChannels := s.serverChannels
  messageProtocols := s.messageProtocols
  protocols := s.protocols
  variants := s.variants
  variant? := s.variant?
  applies := s.applies
  units := s.units
  protocolUnits := s.protocolUnits

/-- The selection of the graph without its diagnostics. -/
def silent (s : Selection) : Selection :=
  ⟨s.graph.silent, s.routes⟩

/-- **A selection is made of a graph without its diagnostics** just as of the graph itself. -/
theorem ofGraph_silent (g : Graph) : ofGraph g.silent = silent <$> ofGraph g := by
  rw [ofGraph, ofGraph, Graph.routes_silent]
  cases g.routes <;> rfl

/-- **Answers** do not come from diagnostics. -/
theorem answers_silent (s : Selection) : s.silent.answers = s.answers := by
  have channelProtocols (id : ArtifactId) :
      s.silent.channelProtocols id = s.channelProtocols id := by
    simp only [Selection.channelProtocols, silent, Graph.follow_silent]
  have serverChannels (id : ArtifactId) : s.silent.serverChannels id = s.serverChannels id := by
    simp only [Selection.serverChannels, silent, Graph.follow_silent]
  have messageProtocols (id : ArtifactId) :
      s.silent.messageProtocols id = s.messageProtocols id := by
    simp only [Selection.messageProtocols, silent, Graph.follow_silent]
  have protocols (id : ArtifactId) : s.silent.protocols id = s.protocols id := by
    simp only [Selection.protocols, channelProtocols, messageProtocols]
    simp only [silent, Graph.follow_silent, Graph.artifact_silent]
  have variants (id : ArtifactId) : s.silent.variants id = s.variants id := by
    simp only [Selection.variants, silent, Graph.follow_silent, Graph.artifact_silent]
  have variant? (id : ArtifactId) (protocol : String) :
      s.silent.variant? id protocol = s.variant? id protocol := by
    rw [Selection.variant?, Selection.variant?, variants]
  have applies (id : ArtifactId) (protocol : String) :
      s.silent.applies id protocol = s.applies id protocol := by
    simp only [Selection.applies, variant?, protocols]
  have units (kind : Kind) : s.silent.units kind = s.units kind := by
    rw [Selection.units, Selection.units, silent, Graph.catalog_silent]
  have protocolUnits (kind : Kind) (protocol : String) :
      s.silent.protocolUnits kind protocol = s.protocolUnits kind protocol := by
    simp only [Selection.protocolUnits, units, applies, variant?]
  rw [answers, answers, Answers.mk.injEq]
  exact ⟨rfl, funext channelProtocols, funext serverChannels, funext messageProtocols,
    funext protocols, funext variants, funext fun id => funext (variant? id),
    funext fun id => funext (applies id), funext units,
    funext fun kind => funext (protocolUnits kind)⟩

/-- **Graphs that differ in diagnostics only** have selections that give the same answers. -/
theorem exists_ofGraph_of_silent {g g' : Graph} (same : g'.silent = g.silent) {s : Selection}
    (h : ofGraph g = .ok s) : ∃ s', ofGraph g' = .ok s' ∧ s'.answers = s.answers := by
  have silenced : silent <$> ofGraph g' = .ok s.silent := by
    rw [← ofGraph_silent, same, ofGraph_silent, h]
    rfl
  obtain ⟨s', h', heq⟩ := map_eq_ok_iff.1 silenced
  refine ⟨s', h', ?_⟩
  rw [← answers_silent s', heq, answers_silent]

end Selection
end ApiGraph
