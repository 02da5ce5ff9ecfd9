/-
# Well-formed stores

What linking may rely on.  Documents and artifacts are found where their numbers and
locations say, and references and slots belong together in pairs: every slot has its
own reference artifact, at the place where the slot begins, and every reference
artifact has a slot (`ArtifactStore.WellFormed`).

In terms of such a store it is said here, without speaking of the run of the linker,
where a reference leads (`Leads`), where a chain of references ends (`EndsAt`), what
a query asks for (`Answers`), what a promise is to be bound to (`Candidate`) and which
lists of references are cycles (`IsCycle`).  The view that the linker works on says the
same (`step_view`, `ends_view_iff`, `ask_eq_some_iff`, `cycle?_view_iff`).

What is asked for is an artifact of the store.  What a transform makes of it need not be:
numbers are handles, and a transform may have one from elsewhere (`Astray`).
-/

import ApiGraph.Proofs.Linking.Following

namespace ApiGraph

open Relation (ReflTransGen TransGen)
open Linking (view ask)

namespace ArtifactStore

/-- What holds of every store that documents were compiled into. -/
structure WellFormed (s : ArtifactStore) : Prop where
  /-- Every document stands at the place that its number says. -/
  numbered : s.Numbered
  /-- Names of documents and locations in a document are different, and every artifact is
  located in its own document. -/
  located : s.catalog.Located
  /-- A reference has a slot, which begins where the reference stands. -/
  slot_of_reference : ∀ id a r, s.catalog.get? id = some a → a.body = .reference r →
    ∃ slot, s.reference? r.slot = some slot ∧ slot.origin = a.location
  /-- A slot has its own reference. -/
  reference_of_slot : ∀ cell slot, s.reference? cell = some slot →
    ∃ id a r, s.catalog.get? id = some a ∧ a.body = .reference r ∧ r.slot = cell ∧
      a.location = slot.origin

/-- No cell is bound. -/
structure Unbound (s : ArtifactStore) : Prop where
  references : ∀ cell slot, s.reference? cell = some slot → slot.binding = none
  promises : ∀ cell p, s.promise? cell = some p → p.binding = none
  lists : ∀ cell l, s.list? cell = some l → l.binding = none

/-- There is an artifact at the location. -/
def Holds (s : ArtifactStore) (l : Location) : Prop :=
  ∃ id a, s.catalog.get? id = some a ∧ a.location = l

/-- The artifact `id` is a reference, and `next` stands at the target of its slot. -/
def Leads (s : ArtifactStore) (id next : ArtifactId) : Prop :=
  ∃ a r slot b, s.catalog.get? id = some a ∧ a.body = .reference r ∧
    s.reference? r.slot = some slot ∧ s.catalog.get? next = some b ∧ b.location = slot.target

/-- The chain of references from `id` ends at the artifact `a` with the number `t`, which is
no reference. -/
structure EndsAt (s : ArtifactStore) (id t : ArtifactId) (a : Artifact) : Prop where
  reaches : ReflTransGen s.Leads id t
  artifact : s.catalog.get? t = some a
  concrete : a.body.isReference = false

/-- The artifact that a query asks for: the one at a location, or the only one that a
condition holds of. -/
def Answers (s : ArtifactStore) : Query → ArtifactId → Prop
  | .path target, id => ∃ a, s.catalog.get? id = some a ∧ a.location = target
  | .condition _ accepts, id => ∀ i, i = id ↔ ∃ a, s.catalog.get? i = some a ∧ accepts a = true

/-- The artifact that a promise is to be bound to: what its transform makes of what its query
asks for. -/
def Candidate (s : ArtifactStore) (p : PromiseCell) (id : ArtifactId) : Prop :=
  ∃ raw, s.Answers p.query raw ∧
    match p.transform with
    | none => id = raw
    | some f => f (view s) raw = .ok id

/-- A transform leads out of the store: the number that it makes of what a promise asks for is
that of no artifact. -/
def Astray (s : ArtifactStore) (id : ArtifactId) : Prop :=
  ∃ cell p, s.promise? cell = some p ∧ s.Candidate p id ∧ s.catalog.get? id = none

/-- The references of a cycle, each once and in the order in which they lead to each other,
from the least one on. -/
structure IsCycle (s : ArtifactStore) (members : List ArtifactId) : Prop where
  nodup : members.Nodup
  leads : members.IsChain s.Leads
  closed : ∃ first last, members.head? = some first ∧ members.getLast? = some last ∧
    s.Leads last first ∧ ∀ m ∈ members, first.le m = true

variable {s : ArtifactStore} {id t u : ArtifactId} {a b : Artifact} {l : Location}

/-- Looking a location up finds the artifact that stands there. -/
theorem WellFormed.find?_eq_some_iff (hs : s.WellFormed) :
    s.catalog.find? l = some id ↔ ∃ a, s.catalog.get? id = some a ∧ a.location = l :=
  Catalog.find?_eq_some_iff hs.located hs.numbered.catalog

/-- Something is found where the store holds something. -/
theorem WellFormed.isSome_find?_iff (hs : s.WellFormed) :
    (s.catalog.find? l).isSome ↔ s.Holds l := by
  rw [Option.isSome_iff_exists]
  exact exists_congr fun _ => hs.find?_eq_some_iff

/-- A location is held by one artifact only. -/
theorem WellFormed.location_inj (hs : s.WellFormed) (ha : s.catalog.get? id = some a)
    (hb : s.catalog.get? u = some b) (same : a.location = b.location) : id = u := by
  have found := Catalog.find?_of_get? hs.located hs.numbered.catalog ha
  rw [same, Catalog.find?_of_get? hs.located hs.numbered.catalog hb] at found
  exact (Option.some.inj found).symm

/-! ## The view of the linker -/

@[simp] theorem catalog_view (s : ArtifactStore) : (view s).catalog = s.catalog := rfl

/-- The linker looks locations up in the catalog. -/
theorem find_view (s : ArtifactStore) : (view s).find = s.catalog.find? :=
  Catalog.findIndexed_indexed s.catalog

/-- Before anything is bound, the linker follows a reference to what stands at its target. -/
theorem bound_view (s : ArtifactStore) (cell : CellId) :
    (view s).bound cell = (s.reference? cell).bind fun slot => s.catalog.find? slot.target := by
  have shelves : (fun l => Catalog.findIndexed s.catalog.indexed l) = s.catalog.find? :=
    Catalog.findIndexed_indexed s.catalog
  simp only [view, shelves, Linking.rawReferences, reference?, bind, Option.bind_assoc]
  rw [Array.getElem?_map, List.getElem?_toArray]
  cases s.documents[cell.document]? with
  | none => rfl
  | some d =>
    simp only [Option.map_some, Option.bind_some, Array.getElem?_map]
    cases d.references[cell.index]? <;> rfl

/-- What the linker follows leads to artifacts of the store. -/
theorem WellFormed.closed_view (hs : s.WellFormed) : (view s).Closed where
  numbered := hs.numbered.catalog
  bound cell id h := by
    rw [bound_view] at h
    obtain ⟨slot, -, h⟩ := Option.bind_eq_some_iff.1 h
    obtain ⟨a, ha, -⟩ := hs.find?_eq_some_iff.1 h
    rw [catalog_view, ha]
    rfl

/-- The view leads where the store leads. -/
theorem WellFormed.step_view (hs : s.WellFormed) : Step (view s).next? = s.Leads := by
  funext id next
  refine propext ⟨fun h => ?_, ?_⟩
  · simp only [Step, View.next?] at h
    split at h
    · rename_i a ha
      split at h
      · rename_i r hr
        rw [bound_view] at h
        obtain ⟨slot, hslot, h⟩ := Option.bind_eq_some_iff.1 h
        obtain ⟨b, hb, hl⟩ := hs.find?_eq_some_iff.1 h
        exact ⟨a, r, slot, b, ha, hr, hslot, hb, hl⟩
      · cases h
    · cases h
  · rintro ⟨a, r, slot, b, ha, hr, hslot, hb, hl⟩
    rw [Step, View.next?_of_reference ha hr, bound_view, hslot]
    exact hs.find?_eq_some_iff.2 ⟨b, hb, hl⟩

/-- Chains end for the linker where they end in the store. -/
theorem WellFormed.ends_view_iff (hs : s.WellFormed) : (view s).Ends id t a ↔ s.EndsAt id t a := by
  constructor
  · exact fun h => ⟨hs.step_view ▸ h.reaches, h.artifact, h.concrete⟩
  · exact fun h => ⟨hs.step_view.symm ▸ h.reaches, h.artifact, h.concrete⟩

/-- A chain has one end. -/
theorem WellFormed.endsAt_unique (hs : s.WellFormed) (h : s.EndsAt id t a) (h' : s.EndsAt id u b) :
    t = u ∧ a = b :=
  (hs.ends_view_iff.2 h).unique (hs.ends_view_iff.2 h')

/-- **Following a chain finds its end**, if there is one. -/
theorem WellFormed.follow_eq_ok_iff (hs : s.WellFormed) :
    (view s).follow id = .ok t ↔ ∃ a, s.EndsAt id t a := by
  rw [View.follow_eq_ok_iff hs.closed_view]
  exact exists_congr fun _ => hs.ends_view_iff

/-- The number of artifacts that a query's condition holds of decides whether it is answered. -/
theorem ask_condition_eq_some_iff {c : Catalog} (hc : c.Numbered) {description : String}
    {accepts : Artifact → Bool} {v : View} (hv : v.catalog = c) :
    ask v (.condition description accepts) = some id ↔
      ∀ i, i = id ↔ ∃ a, c.get? i = some a ∧ accepts a = true := by
  have mem : ∀ i, i ∈ c.select accepts ↔ ∃ a, c.get? i = some a ∧ accepts a = true :=
    fun _ => Catalog.mem_select_iff hc
  have distinct := Catalog.nodup_select hc accepts
  subst hv
  simp only [ask, ← mem]
  generalize v.catalog.select accepts = selected at distinct ⊢
  rcases selected with _ | ⟨x, _ | ⟨y, rest⟩⟩
  · simp
  · simp [eq_comm]
  · -- two different members cannot both be the only one
    have differ : x ≠ y := fun e => (List.nodup_cons.1 distinct).1 (by simp [e])
    refine iff_of_false (by simp) fun all => differ ?_
    exact ((all x).2 (by simp)).trans ((all y).2 (by simp)).symm

/-- **What a query finds is what it asks for.** -/
theorem WellFormed.ask_eq_some_iff (hs : s.WellFormed) {q : Query} :
    ask (view s) q = some id ↔ s.Answers q id := by
  cases q with
  | path target => rw [ask, find_view]; exact hs.find?_eq_some_iff
  | condition description accepts =>
    exact ask_condition_eq_some_iff hs.numbered.catalog rfl

/-- What a query asks for is an artifact of the store. -/
theorem Answers.isSome_get? {q : Query} (h : s.Answers q id) : (s.catalog.get? id).isSome := by
  cases q with
  | path target => obtain ⟨a, ha, -⟩ := h; rw [ha]; rfl
  | condition description accepts => obtain ⟨a, ha, -⟩ := (h id).1 rfl; rw [ha]; rfl

/-- Only a transform leads out of the store. -/
theorem not_astray_of_untransformed
    (untransformed : ∀ cell p, s.promise? cell = some p → p.transform = none) : ¬ s.Astray id := by
  rintro ⟨cell, p, hp, ⟨raw, hraw, hid⟩, absent⟩
  rw [untransformed cell p hp] at hid
  obtain rfl : id = raw := hid
  simpa [absent] using hraw.isSome_get?

/-- What a promise is to be bound to is an artifact of the store, unless it is led out of it. -/
theorem Candidate.isSome_get? {cell : CellId} {p : PromiseCell} (h : s.Candidate p id)
    (hp : s.promise? cell = some p) (inside : ¬ s.Astray id) : (s.catalog.get? id).isSome := by
  rw [← Option.ne_none_iff_isSome]
  exact fun absent => inside ⟨cell, p, hp, h, absent⟩

end ArtifactStore
end ApiGraph
