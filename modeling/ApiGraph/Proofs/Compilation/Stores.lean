/-
# The store of a compiled document

Compiling a document runs through the visits of its outline and compiles each entity where it
stands.  What one entity deposits (`Entity.Deposits`) is what keeps, for the entities that were
compiled so far, that the store holds their artifacts and their cells, in the order of the
visits, and nothing else (`DocumentStore.CompiledFrom`).  A compilation that succeeds has done
so for every visit (`compiledFrom_of_compile`).

It does not stop for two artifacts at one location, if no two visits have one place
(`compile_ne_duplicateLocation`).
-/

import ApiGraph.Proofs.Compilation.Entities
import ApiGraph.Proofs.Correspondence
import Mathlib.Data.List.Nodup

namespace ApiGraph

open Document (Entity Outline)
open Compile

namespace Visit

/-- Where an entity stands in a document. -/
def place (document : String) (v : Visit) : Location :=
  ⟨document, Frame.path v.frames⟩

/-- The edges of the visited entity. -/
def edges (document : String) (v : Visit) : List Edge :=
  v.entity.edges (v.place document)

/-- The cells of its edges. -/
def promises (document : String) (v : Visit) : List PromiseCell :=
  v.entity.promises (v.place document)

/-- Its cells for several artifacts. -/
def lists (document : String) (v : Visit) : List ListCell :=
  v.entity.lists (v.place document)

/-- Its slot, if it is written as a reference. -/
def slots (document : String) (v : Visit) : List ReferenceSlot :=
  v.entity.slots (v.place document)

/-- The places that its edges and its slot lead to. -/
def targets (document : String) (v : Visit) : List Location :=
  (v.edges document).map (·.target) ++ (v.slots document).map (·.target)

/-- The promises of the edges lead where these lead. -/
theorem filterMap_promises (document : String) (v : Visit) :
    (v.promises document).filterMap PromiseCell.target? =
      (v.edges document).map (·.target) := by
  rw [Visit.promises, Entity.promises, List.filterMap_map, ← List.filterMap_eq_map]
  rfl

/-- They are those that its cells lead to. -/
theorem cellTargets_eq (document : String) (v : Visit) :
    cellTargets (v.promises document) (v.slots document) = v.targets document := by
  rw [cellTargets, filterMap_promises, targets]

end Visit

/-- The artifact is what an entity at the place was compiled to: a reference, or data of its
type. -/
structure Artifact.Depicts (a : Artifact) (place : Location) (e : Entity) : Prop where
  location : a.location = place
  kind : a.kind = e.label.kind
  label : a.body.label? = if e.reference?.isSome then none else some e.label

namespace DocumentStore

variable {d d' : DocumentStore} {as : List Artifact} {ps : List PromiseCell}
  {ls : List ListCell} {rs : List ReferenceSlot}

/-- The promise is for the edge, and its cell is in the store. -/
def Wired (d : DocumentStore) (origin : Location) (h : Handle) (e : Edge) : Prop :=
  h.1 = e.label ∧ h.2.cell.document = d.index ∧
    d.promises[h.2.cell.index]? = some (e.cell origin)

/-- The promise is for the cell, which is in the store. -/
def ListWired (d : DocumentStore) (h : ListHandle) (l : ListCell) : Prop :=
  l.expects = .entity h.1 ∧ h.2.cell.document = d.index ∧ d.lists[h.2.cell.index]? = some l

/-- The body of an artifact that an entity was compiled to, with the cells that it holds. -/
def Embodies (d : DocumentStore) (place : Location) (e : Entity) (b : Body) : Prop :=
  match e.reference? with
  | some reference => ∃ r slot, b = .reference r ∧
      Location.ofReference place.document reference = .ok r.target ∧
      r.slot.document = d.index ∧ d.references[r.slot.index]? = some slot ∧
      slot.origin = place ∧ slot.target = r.target ∧ slot.expects = .kind e.label.kind
  | none => b.label? = some e.label ∧
      List.Forall₂ (d.Wired place) b.handles (e.edges place) ∧
      List.Forall₂ d.ListWired b.listHandles (e.lists place)

/-- The artifact is what the visited entity was compiled to. -/
structure Represents (d : DocumentStore) (v : Visit) (a : Artifact) : Prop where
  location : a.location = v.place d.document
  kind : a.kind = v.entity.label.kind
  body : d.Embodies (v.place d.document) v.entity a.body

/-- What represents a visit depicts its entity. -/
theorem Represents.depicts {v : Visit} {a : Artifact} (h : d.Represents v a) :
    a.Depicts (v.place d.document) v.entity where
  location := h.location
  kind := h.kind
  label := by
    have body := h.body
    rw [Embodies] at body
    split at body
    · obtain ⟨r, slot, hb, -⟩ := body
      simp [*, Body.label?]
    · simp [*]

/-- The store holds what the visits were compiled to, and nothing else. -/
structure CompiledFrom (d : DocumentStore) (vs : List Visit) : Prop where
  artifacts : List.Forall₂ d.Represents vs d.artifacts.toList
  promises : d.promises.toList = vs.flatMap (Visit.promises d.document)
  lists : d.lists.toList = vs.flatMap (Visit.lists d.document)
  references : d.references.toList = vs.flatMap (Visit.slots d.document)
  /-- Every slot has a reference of its own. -/
  owned : ∀ i slot, d.references[i]? = some slot → ∃ a ∈ d.artifacts.toList, ∃ r,
    a.body = .reference r ∧ r.slot = ⟨d.index, i⟩ ∧ a.location = slot.origin
  places_nodup : (d.artifacts.toList.map Artifact.location).Nodup
  /-- The other documents that the visited entities lead to, in the order of first mention. -/
  externals : d.externals =
    (otherDocuments d.document (vs.flatMap (Visit.targets d.document))).eraseDups

namespace CompiledFrom

variable {vs : List Visit} {i : Nat}

/-- Every artifact has its visit. -/
theorem exists_visit (h : d.CompiledFrom vs) {a : Artifact} (ha : d.artifacts[i]? = some a) :
    ∃ v ∈ vs, d.Represents v a := by
  have mem : a ∈ d.artifacts.toList := Array.mem_toList_iff.2 (Array.mem_of_getElem? ha)
  exact exists_left_of_forall₂ h.artifacts mem

/-- No two visits are at one place. -/
theorem visit_inj (h : d.CompiledFrom vs) {v v' : Visit} (hv : v ∈ vs) (hv' : v' ∈ vs)
    (same : v.place d.document = v'.place d.document) : v = v' := by
  have places : vs.map (Visit.place d.document) = d.artifacts.toList.map Artifact.location :=
    map_eq_of_forall₂ h.artifacts fun v a rep => rep.location.symm
  exact List.inj_on_of_nodup_map (places ▸ h.places_nodup) hv hv' same

/-- Every promise has its edge. -/
theorem exists_edge (h : d.CompiledFrom vs) {p : PromiseCell} (hp : d.promises[i]? = some p) :
    ∃ v ∈ vs, ∃ e ∈ v.edges d.document, p = e.cell (v.place d.document) := by
  have mem : p ∈ d.promises.toList := Array.mem_toList_iff.2 (Array.mem_of_getElem? hp)
  rw [h.promises] at mem
  obtain ⟨v, hv, hp⟩ := List.mem_flatMap.1 mem
  obtain ⟨e, he, rfl⟩ := List.mem_map.1 hp
  exact ⟨v, hv, e, he, rfl⟩

/-- Every promise of several artifacts has its entity. -/
theorem exists_list (h : d.CompiledFrom vs) {l : ListCell} (hl : d.lists[i]? = some l) :
    ∃ v ∈ vs, l ∈ v.lists d.document := by
  have mem : l ∈ d.lists.toList := Array.mem_toList_iff.2 (Array.mem_of_getElem? hl)
  rw [h.lists] at mem
  exact List.mem_flatMap.1 mem

/-- Every slot has its reference. -/
theorem exists_slot (h : d.CompiledFrom vs) {slot : ReferenceSlot}
    (hs : d.references[i]? = some slot) : ∃ v ∈ vs, slot ∈ v.slots d.document := by
  have mem : slot ∈ d.references.toList := Array.mem_toList_iff.2 (Array.mem_of_getElem? hs)
  rw [h.references] at mem
  exact List.mem_flatMap.1 mem

end CompiledFrom

/-! ## What is in a store stays there -/

/-- What is added at the end changes no entry before. -/
theorem getElem?_of_toList_append {α : Type} {xs ys : Array α} {zs : List α}
    (h : ys.toList = xs.toList ++ zs) {i : Nat} {x : α} (hx : xs[i]? = some x) :
    ys[i]? = some x := by
  rw [← Array.getElem?_toList] at hx ⊢
  rw [h, List.getElem?_append_left (List.getElem?_eq_some_iff.1 hx).1, hx]

section Gains

variable (g : d.Gains as ps ls rs d') {place : Location}

include g

/-- A promise that was made stays made for its edge. -/
theorem Gains.wired {h : Handle} {e : Edge} (w : d.Wired place h e) : d'.Wired place h e :=
  ⟨w.1, g.index ▸ w.2.1, getElem?_of_toList_append g.promises w.2.2⟩

/-- The same of a list. -/
theorem Gains.listWired {h : ListHandle} {l : ListCell} (w : d.ListWired h l) :
    d'.ListWired h l :=
  ⟨w.1, g.index ▸ w.2.1, getElem?_of_toList_append g.lists w.2.2⟩

/-- An artifact that represents a visit goes on doing so. -/
theorem Gains.represents {v : Visit} {a : Artifact} (h : d.Represents v a) :
    d'.Represents v a where
  location := g.document ▸ h.location
  kind := h.kind
  body := by
    rw [g.document]
    have body := h.body
    rw [Embodies] at body ⊢
    split at body
    · obtain ⟨r, slot, hb, target, hd, hi, hs⟩ := body
      exact ⟨r, slot, hb, target, g.index ▸ hd, getElem?_of_toList_append g.references hi, hs⟩
    · exact ⟨body.1, body.2.1.imp fun _ _ => g.wired, body.2.2.imp fun _ _ => g.listWired⟩

end Gains

/-! ## What an entity deposits is found again -/

/-- The promises that are made for edges have the cells that the store gains for them. -/
theorem wired_handles {es : List Edge} {place : Location}
    (g : d.Gains as (es.map (Edge.cell place)) ls rs d') :
    List.Forall₂ (d'.Wired place) (d.handles es) es := by
  refine List.forall₂_iff_get.2 ⟨by simp [handles], fun i h₁ h₂ => ?_⟩
  simp only [handles, List.get_eq_getElem, List.getElem_mapIdx]
  refine ⟨rfl, g.index.symm, ?_⟩
  rw [← Array.getElem?_toList, g.promises, List.getElem?_append_right (by simp)]
  simp [List.getElem?_eq_getElem h₂]

/-- The next list cell is the one for the list that is gained. -/
theorem listWired_listHandles {l : ListCell} (hl : l.expects = .entity .server)
    (g : d.Gains as ps [l] rs d') : List.Forall₂ d'.ListWired (d.listHandles [l]) [l] := by
  refine .cons ⟨hl, g.index.symm, ?_⟩ .nil
  rw [← Array.getElem?_toList, g.lists, List.getElem?_append_right (by simp)]
  simp

/-- What an entity deposits represents the visit to it. -/
theorem represents_of_deposits {e : Entity} {c c' : Context} {a : Artifact}
    (h : e.Deposits c a c') : c'.store.Represents ⟨c.frames, e⟩ a where
  location := by rw [h.location, h.gains.store.document]; rfl
  kind := h.kind
  body := by
    have place : Visit.place c'.store.document ⟨c.frames, e⟩ = c.location := by
      rw [h.gains.store.document]; rfl
    have g := h.gains.store
    have body := h.body
    rw [place]
    cases href : e.reference? with
    | some reference =>
      simp only [Entity.Fills, href] at body
      obtain ⟨r, hb, hslot, target⟩ := body
      have slots := Entity.slots_of_reference c.location href target
      simp only [Embodies, href]
      refine ⟨r, { origin := c.location, target := r.target, expects := .kind e.label.kind },
        hb, target, ?_, ?_, rfl, rfl, rfl⟩
      · rw [hslot, g.index]
      · rw [hslot, ← Array.getElem?_toList, g.references, slots,
          List.getElem?_append_right (by simp)]
        simp
    | none =>
      simp only [Entity.Fills, href] at body
      obtain ⟨label, handles, lists⟩ := body
      simp only [Embodies, href]
      refine ⟨label, handles ▸ wired_handles g, ?_⟩
      rw [lists]
      rcases e.lists_eq c.location with none | ⟨l, one, servers⟩
      · rw [none]
        exact .nil
      · rw [one] at g ⊢
        exact listWired_listHandles servers g

/-- The slot that an entity deposits is the one that its artifact refers to. -/
theorem owned_of_deposits {e : Entity} {c c' : Context} {a : Artifact} (h : e.Deposits c a c')
    {slot : ReferenceSlot} (hslot : slot ∈ e.slots c.location) :
    ∃ r, a.body = .reference r ∧ r.slot = ⟨c.store.index, c.store.references.size⟩ ∧
      a.location = slot.origin ∧ e.slots c.location = [slot] := by
  have body := h.body
  cases href : e.reference? with
  | none =>
    rw [Entity.slots, href] at hslot
    cases hslot
  | some reference =>
    simp only [Entity.Fills, href] at body
    obtain ⟨r, hb, hr, target⟩ := body
    have slots := Entity.slots_of_reference c.location href target
    rw [slots] at hslot ⊢
    obtain rfl := List.mem_singleton.1 hslot
    exact ⟨r, hb, hr, h.location, rfl⟩

/-! ## The run -/

/-- **One entity more.**  What was compiled before stays, and the entity is added. -/
theorem CompiledFrom.step {vs : List Visit} {v : Visit} {c c' : Context} {a : Artifact}
    (h : c.store.CompiledFrom vs) (frames : c.frames = v.frames)
    (dep : v.entity.Deposits c a c') : c'.store.CompiledFrom (vs ++ [v]) := by
  have g := dep.gains.store
  have place : c.location = v.place c.store.document := by
    rw [Context.location, frames]; rfl
  have doc := g.document
  have targets : cellTargets (v.entity.promises c.location) (v.entity.slots c.location) =
      v.targets c.store.document := by
    rw [place]
    exact Visit.cellTargets_eq c.store.document v
  constructor
  · rw [g.artifacts]
    refine List.rel_append (h.artifacts.imp fun _ _ => g.represents) (.cons ?_ .nil)
    cases v
    cases frames
    exact represents_of_deposits dep
  · rw [g.promises, h.promises, doc, List.flatMap_append, List.flatMap_singleton, place]
    rfl
  · rw [g.lists, h.lists, doc, List.flatMap_append, List.flatMap_singleton, place]
    rfl
  · rw [g.references, h.references, doc, List.flatMap_append, List.flatMap_singleton, place]
    rfl
  · intro i slot hi
    rw [g.artifacts, g.index]
    rw [← Array.getElem?_toList, g.references] at hi
    rcases Nat.lt_or_ge i c.store.references.toList.length with lt | ge
    · rw [List.getElem?_append_left lt, Array.getElem?_toList] at hi
      obtain ⟨b, hb, r, hr⟩ := h.owned i slot hi
      exact ⟨b, List.mem_append_left _ hb, r, hr⟩
    · rw [List.getElem?_append_right ge] at hi
      obtain ⟨r, hb, hr, hl, one⟩ := owned_of_deposits dep (List.mem_of_getElem? hi)
      rw [one, List.getElem?_singleton] at hi
      split at hi
      · refine ⟨a, by simp, r, hb, ?_, hl⟩
        rw [hr]
        congr 1
        rw [Array.length_toList] at *
        omega
      · cases hi
  · rw [g.artifacts, List.map_append, List.nodup_append]
    refine ⟨h.places_nodup, by simp, ?_⟩
    rintro l hl l' hl' rfl
    obtain ⟨b, hb, rfl⟩ := List.mem_map.1 hl
    exact dep.fresh b hb (by simpa using hl')
  · rw [g.externals (v.entity.promises_or_slots_eq_nil c.location), h.externals, targets, doc,
      List.flatMap_append, List.flatMap_singleton, otherDocuments_append, ← nil_noted, ← nil_noted,
      noted_append]

/-- An empty store is compiled from no visits. -/
theorem compiledFrom_empty (index : Nat) (document : String) :
    (DocumentStore.empty index document).CompiledFrom [] where
  artifacts := .nil
  promises := rfl
  lists := rfl
  references := rfl
  owned i slot h := by simp [DocumentStore.empty] at h
  places_nodup := List.nodup_nil
  externals := rfl

/-- Compiling an entity where it stands deposits it. -/
theorem ensures_visit {settings : Settings} {c : Context} (v : Visit) :
    v.compile.Ensures settings c
      (fun _ c' => ∃ a, v.entity.Deposits { c with frames := v.frames } a c')
      (Context.Stops { c with frames := v.frames }) :=
  (ensures_modify (Q := fun _ c' => c' = { c with frames := v.frames }) rfl).bind
    fun _ _ same => same ▸ ensures_compile v.entity

/-- Two of the visits have one place. -/
def Clash (document : String) (vs : List Visit) : Prop :=
  ¬ (vs.map (Visit.place document)).Nodup

/-- **Compiling an outline** goes through its visits one after the other. -/
theorem ensures_outline {settings : Settings} {index : Nat} {document : String} (o : Outline) :
    o.compile.Ensures settings { store := .empty index document }
      (fun _ c' => c'.store.index = index ∧ c'.store.document = document ∧
        c'.store.CompiledFrom (o.visits []))
      (fun stop _ => ∀ l, stop = .error (.duplicateLocation l) →
        Clash document (o.visits [])) := by
  refine ensures_get_bind ?_
  refine Ensures.bind (ensures_forM (I := fun done c' => c'.store.index = index ∧
    c'.store.document = document ∧ c'.store.CompiledFrom done) (o.visits [])
    ⟨rfl, rfl, compiledFrom_empty index document⟩ fun done v rest c' split h => ?_)
    fun _ c' h => ensures_modify h
  obtain ⟨hi, hd, h⟩ := h
  refine (ensures_visit v).mono ?_ fun stop c'' stops l hl => ?_
  · rintro - c'' ⟨a, dep⟩
    exact ⟨dep.gains.store.index.trans hi, dep.gains.store.document.trans hd,
      CompiledFrom.step (c := { c' with frames := v.frames }) h rfl dep⟩
  · -- the artifact in the way was compiled from an earlier visit
    obtain ⟨-, a, ha, same⟩ := stops l hl
    obtain ⟨w, hw, rep⟩ := exists_left_of_forall₂ h.artifacts ha
    rw [Clash, split, List.map_append, List.nodup_append]
    rintro ⟨-, -, differ⟩
    refine differ _ (List.mem_map_of_mem hw) (v.place document) (by simp) ?_
    rw [← hd, ← rep.location, same]
    rfl

end DocumentStore

namespace Document

variable {d : Document} {settings : Settings} {index : Nat} {name : String}

/-- **A compiled document** holds what its visits were compiled to. -/
theorem compiledFrom_of_compile {store : DocumentStore}
    (h : d.compile settings index name = .ok store) :
    store.index = index ∧ store.document = name ∧
      store.CompiledFrom (d.outline.visits []) := by
  obtain ⟨c, compiled, rfl⟩ := of_compile (DocumentStore.ensures_outline d.outline) h
  exact compiled

/-- Where no two visits have one place, no two artifacts have one location. -/
theorem compile_ne_duplicateLocation
    (distinct : ((d.outline.visits []).map (Visit.place name)).Nodup) (l : Location) :
    d.compile settings index name ≠ .error (.duplicateLocation l) := by
  intro h
  obtain ⟨stop, c, clash, problem⟩ := of_compile_error (DocumentStore.ensures_outline d.outline) h
  cases stop with
  | error e => exact clash l (congrArg Stop.error problem.symm) distinct
  | brokeDown words => cases problem

end Document
end ApiGraph
