/-
# Documents under another number

The number of a document is in its store, in the numbers of its artifacts and in those of its
cells.  Its artifacts hold the numbers of cells of their own document only, and so a store that is
renumbered throughout (`DocumentStore.renumber`) is as good as the one before: it is compiled from
the same visits (`CompiledFrom.renumber`), with the same promises added to it (`Extends.renumber`).
-/

import ApiGraph.Proofs.Compilation.Assembled

namespace ApiGraph

variable {n : Nat}

/-- The promise in a document with another number. -/
def Promise.renumber {l : Label} (n : Nat) (p : Promise l) : Promise l :=
  ⟨⟨n, p.cell.index⟩⟩

/-- The promise of several artifacts in a document with another number. -/
def ListPromise.renumber {l : Label} (n : Nat) (p : ListPromise l) : ListPromise l :=
  ⟨⟨n, p.cell.index⟩⟩

/-- A table of promises in a document with another number. -/
def Table.renumber {l : Label} (n : Nat) (t : Table (Promise l)) : Table (Promise l) :=
  t.map fun (name, p) => (name, p.renumber n)

namespace Body

/-- The shape in a document with another number. -/
def Shape.renumber (n : Nat) : Shape → Shape
  | object properties additional =>
    object (properties.map fun p => { p with schema := p.schema.renumber n })
      (additional.map (·.renumber n))
  | map values => map (values.renumber n)
  | array items => array (items.map (·.renumber n))
  | union variants exclusive => union (variants.map (·.renumber n)) exclusive
  | allOf parts => allOf (parts.map (·.renumber n))
  | shape => shape

/-- The servers of a channel in a document with another number. -/
def ChannelServers.renumber (n : Nat) : ChannelServers → ChannelServers
  | named servers => named (servers.map (·.renumber n))
  | all servers => all (servers.renumber n)

/-- The body in a document with another number. -/
def renumber (n : Nat) : Body → Body
  | server b => server { b with
      serverVariables := b.serverVariables.renumber n
      security := b.security.map (·.renumber n)
      bindings := b.bindings.map (·.renumber n) }
  | channel b => channel { b with
      servers := b.servers.renumber n
      parameters := b.parameters.renumber n
      publish := b.publish.map (·.renumber n)
      subscribe := b.subscribe.map (·.renumber n)
      bindings := b.bindings.map (·.renumber n) }
  | operation b => operation { b with
      channel := b.channel.renumber n
      messages := b.messages.map (·.renumber n)
      security := b.security.map (·.renumber n)
      bindings := b.bindings.map (·.renumber n) }
  | message b => message { b with
      headers := b.headers.map (·.renumber n)
      payload := b.payload.map (·.renumber n)
      correlationId := b.correlationId.map (·.renumber n)
      bindings := b.bindings.map (·.renumber n) }
  | parameter b => parameter { b with schema := b.schema.map (·.renumber n) }
  | schema b => schema { b with shape := b.shape.renumber n }
  | reference b => reference { b with slot := ⟨n, b.slot.index⟩ }
  | body => body

/-- A new number does not change the type of a body. -/
@[simp] theorem label?_renumber (b : Body) : (b.renumber n).label? = b.label? := by
  cases b <;> rfl

/-- The promise of a handle in a document with another number. -/
def renumberHandle (n : Nat) (h : Handle) : Handle :=
  ⟨h.1, h.2.renumber n⟩

/-- The promise of a list handle in a document with another number. -/
def renumberListHandle (n : Nat) (h : ListHandle) : ListHandle :=
  ⟨h.1, h.2.renumber n⟩

/-- The handles of promises are renumbered one by one. -/
theorem handlesOf_renumber {l : Label} (ps : List (Promise l)) :
    handlesOf (ps.map (·.renumber n)) = (handlesOf ps).map (renumberHandle n) := by
  rw [handlesOf, handlesOf, List.map_map, List.map_map]
  rfl

/-- The same of a promise that may be missing. -/
theorem handlesOf_renumber_toList {l : Label} (p : Option (Promise l)) :
    handlesOf (p.map (·.renumber n)).toList = (handlesOf p.toList).map (renumberHandle n) := by
  cases p <;> rfl

/-- The same of a table of promises. -/
theorem handlesOf_renumber_table {l : Label} (t : Table (Promise l)) :
    handlesOf ((t.renumber n).map (·.2)) = (handlesOf (t.map (·.2))).map (renumberHandle n) := by
  rw [← handlesOf_renumber, Table.renumber, List.map_map, List.map_map]
  rfl

/-- The handles of a shape are renumbered, wherever the shape has them. -/
theorem Shape.handles_renumber (s : Shape) :
    (s.renumber n).handles = s.handles.map (renumberHandle n) := by
  cases s with
  | object properties additional =>
    simp only [renumber, handles, List.map_append, handlesOf_renumber_toList, List.map_map,
      ← handlesOf_renumber]
    rfl
  | array items => exact handlesOf_renumber_toList items
  | union variants exclusive => exact handlesOf_renumber variants
  | allOf parts => exact handlesOf_renumber parts
  | _ => rfl

/-- A body holds the same promises under another number. -/
theorem handles_renumber (b : Body) :
    (b.renumber n).handles = b.handles.map (renumberHandle n) := by
  cases b with
  | channel b =>
    obtain ⟨-, -, -, servers, -⟩ := b
    cases servers <;>
    simp only [renumber, handles, ChannelServers.renumber, ChannelServers.handles,
      List.map_append, handlesOf_renumber, handlesOf_renumber_toList, handlesOf_renumber_table,
      List.map_nil]
  | schema b => exact Shape.handles_renumber b.shape
  | operation b =>
    simp only [renumber, handles, List.map_append, handlesOf_renumber, handlesOf_renumber_toList]
    rfl
  | _ =>
    simp only [renumber, handles, List.map_append, handlesOf_renumber, handlesOf_renumber_toList,
      handlesOf_renumber_table, List.map_nil]

/-- The list handles of a body are renumbered. -/
theorem listHandles_renumber (b : Body) :
    (b.renumber n).listHandles = b.listHandles.map (renumberListHandle n) := by
  cases b with
  | channel b =>
    obtain ⟨-, -, -, servers, -⟩ := b
    cases servers <;> rfl
  | _ => rfl

end Body

/-- The artifact in a document with another number. -/
def Artifact.renumber (n : Nat) (a : Artifact) : Artifact :=
  { a with body := a.body.renumber n }

namespace DocumentStore

/-- The store of the document under another number. -/
def renumber (n : Nat) (d : DocumentStore) : DocumentStore :=
  { d with index := n, artifacts := d.artifacts.map (·.renumber n) }

variable {d d₀ : DocumentStore} {place : Location}

/-- A promise that was made for an edge is made for it under the new number. -/
theorem Wired.renumber {h : Handle} {e : Edge} (w : d.Wired place h e) :
    (d.renumber n).Wired place (Body.renumberHandle n h) e :=
  ⟨w.1, rfl, w.2.2⟩

/-- The same of a list. -/
theorem ListWired.renumber {h : ListHandle} {l : ListCell} (w : d.ListWired h l) :
    (d.renumber n).ListWired (Body.renumberListHandle n h) l :=
  ⟨w.1, rfl, w.2.2⟩

/-- A body that stands for an entity stands for it under the new number. -/
theorem Embodies.renumber {e : Document.Entity} {b : Body} (h : d.Embodies place e b) :
    (d.renumber n).Embodies place e (b.renumber n) := by
  rw [Embodies] at h ⊢
  split at h
  · obtain ⟨r, slot, rfl, target, -, hslot, rest⟩ := h
    exact ⟨_, slot, rfl, target, rfl, hslot, rest⟩
  · obtain ⟨label, wired, lists⟩ := h
    rw [Body.label?_renumber, Body.handles_renumber, Body.listHandles_renumber,
      List.forall₂_map_left_iff, List.forall₂_map_left_iff]
    exact ⟨label, wired.imp fun _ _ w => w.renumber, lists.imp fun _ _ w => w.renumber⟩

/-- An artifact that represents a visit does so under the new number. -/
theorem Represents.renumber {v : Visit} {a : Artifact} (h : d.Represents v a) :
    (d.renumber n).Represents v (a.renumber n) :=
  ⟨h.location, h.kind, h.body.renumber⟩

/-- The artifacts are renumbered one by one. -/
theorem toList_artifacts_renumber (d : DocumentStore) :
    (d.renumber n).artifacts.toList = d.artifacts.toList.map (·.renumber n) :=
  Array.toList_map

/-- **A renumbered store is compiled from the same visits.** -/
theorem CompiledFrom.renumber {vs : List Visit} (h : d.CompiledFrom vs) :
    (d.renumber n).CompiledFrom vs where
  artifacts := by
    rw [toList_artifacts_renumber, List.forall₂_map_right_iff]
    exact h.artifacts.imp fun _ _ rep => rep.renumber
  promises := h.promises
  lists := h.lists
  references := h.references
  owned i slot hslot := by
    obtain ⟨a, ha, r, hr, cell, at_⟩ := h.owned i slot hslot
    refine ⟨a.renumber n, ?_, { r with slot := ⟨n, r.slot.index⟩ }, ?_, ?_, at_⟩
    · rw [toList_artifacts_renumber]
      exact List.mem_map_of_mem ha
    · rw [Artifact.renumber, hr]
      rfl
    · rw [cell]
      rfl
  places_nodup := by
    rw [toList_artifacts_renumber, List.map_map]
    exact h.places_nodup
  externals := h.externals

/-- Promises that were added are added under the new number. -/
theorem Extends.renumber (h : d₀.Extends d) : (d₀.renumber n).Extends (d.renumber n) where
  shelf := by
    have artifacts : d₀.artifacts = d.artifacts := congrArg Shelf.artifacts h.shelf
    have document : d₀.document = d.document := congrArg Shelf.document h.shelf
    simp only [DocumentStore.renumber, artifacts, document]
  references := h.references
  promises := h.promises
  lists := h.lists

end DocumentStore
end ApiGraph
