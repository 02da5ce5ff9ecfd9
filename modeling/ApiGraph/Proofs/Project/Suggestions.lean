/-
# What is suggested for a target that is not there

Where linking finds nothing at the target of an edge, it looks at the artifacts that stand beside
the target, in all documents, and suggests the name of one of them.  None of them has the name that
was asked for, since otherwise the target would have been found.

So a suggestion always leads to an artifact, with a name other than the one asked for, and it is the
nearest of them: the first one in the order of the store among those at the least distance
(`suggestion_of_notFound`).
-/

import ApiGraph.Proofs.Project.Sources
import ApiGraph.Proofs.Project.Structure
import ApiGraph.Proofs.Text.Suggestions
import Mathlib

namespace ApiGraph

namespace Location

variable {l parent : Location} {name : String}

/-- What is joined to a location has it as its parent. -/
theorem parent?_join (parent : Location) (name : String) :
    (parent.join name).parent? = some parent := by
  simp [parent?, join]

/-- What is joined to a location is its last segment. -/
theorem last?_join (parent : Location) (name : String) : (parent.join name).last? = some name := by
  simp [last?, join]

/-- A location is its parent with its last segment. -/
theorem eq_join (hp : l.parent? = some parent) (hl : l.last? = some name) :
    l = parent.join name := by
  rw [parent?] at hp
  split at hp
  · cases hp
  · cases hp
    rw [join, List.dropLast_append_getLast? name hl]

/-- Every location but a root is one step below another one. -/
theorem exists_eq_join (inside : l.segments ≠ []) :
    ∃ (parent : Location) (name : String), l = parent.join name :=
  ⟨⟨l.document, l.segments.dropLast⟩, l.segments.getLast inside,
    by rw [join, List.dropLast_append_getLast]⟩

end Location

open Text

namespace Catalog

variable {c : Catalog} {parent : Location} {name found : String}

/-- An artifact of the name `found` stands below `parent`, and no other artifact there has a name
that is nearer to `name`, nor, if it comes before, one that is as near. -/
def NearestBelow (c : Catalog) (parent : Location) (name found : String) : Prop :=
  ∃ n before id a after, c.entries = before ++ (id, a) :: after ∧ a.location = parent.join found ∧
    Distance name found n ∧
    (∀ x ∈ before, ∀ other m, x.2.location = parent.join other → Distance name other m → n < m) ∧
    ∀ x ∈ after, ∀ other m, x.2.location = parent.join other → Distance name other m → n ≤ m

/-- The name of an artifact if it stands beside a location. -/
def beside? (target : Location) (x : ArtifactId × Artifact) : Option String :=
  if x.2.location.parent? == target.parent? then x.2.location.last? else none

/-- An artifact stands beside a name if it is right below the same parent. -/
theorem beside?_eq_some_iff {x : ArtifactId × Artifact} {other : String} :
    beside? (parent.join name) x = some other ↔ x.2.location = parent.join other := by
  rw [beside?, Option.ite_none_right_eq_some, beq_iff_eq, Location.parent?_join]
  constructor
  · exact fun h => Location.eq_join h.1 h.2
  · intro h
    rw [h]
    exact ⟨Location.parent?_join parent other, Location.last?_join parent other⟩

/-- The siblings of a target are what stands beside it, in the order of the store. -/
theorem siblings_eq (c : Catalog) (target : Location) :
    Linking.siblings c target = c.entries.filterMap (beside? target) := by
  rw [Linking.siblings, List.filterMap_filter]
  rfl

/-- The first suggestion for a name below a location. -/
theorem suggestion?_join (c : Catalog) (parent : Location) (name : String) :
    Linking.suggestion? c (parent.join name) =
      (suggestions name (c.entries.filterMap (beside? (parent.join name)))
        Linking.suggestionLimit).head?.map (·.candidate) := by
  rw [Linking.suggestion?, Location.last?_join, siblings_eq, Option.map_eq_bind]
  rfl

/-- What is suggested for a name is the nearest one below the location. -/
theorem nearestBelow_of_suggestion? (absent : ∀ x ∈ c.entries, x.2.location ≠ parent.join name)
    (h : Linking.suggestion? c (parent.join name) = some found) :
    found ≠ name ∧ c.NearestBelow parent name found := by
  rw [suggestion?_join, Option.map_eq_some_iff] at h
  obtain ⟨⟨_, n⟩, first, rfl⟩ := h
  obtain ⟨other, distance, -, before, after, candidates, nearer, near⟩ :=
    nearest_of_head? (by decide) first
  obtain ⟨front, back, hentries, rfl, hback⟩ := List.filterMap_eq_append_iff.1 candidates
  obtain ⟨skipped, ⟨id, a⟩, rest, rfl, far, named, rfl⟩ := List.filterMap_eq_cons_iff.1 hback
  have unlike (x : ArtifactId × Artifact) (hx : x ∈ c.entries) (other : String)
      (at_ : x.2.location = parent.join other) : other ≠ name := by
    rintro rfl
    exact absent x hx at_
  refine ⟨other, n, front ++ skipped, id, a, rest, by rw [hentries, List.append_assoc],
    beside?_eq_some_iff.1 named, distance, fun x hx other m at_ hm => ?_,
    fun x hx other m at_ hm => ?_⟩
  · have beside : beside? (parent.join name) x = some other := beside?_eq_some_iff.2 at_
    rcases List.mem_append.1 hx with hx | hx
    · exact nearer other (List.mem_filterMap.2 ⟨x, hx, beside⟩)
        (unlike x (by simp [hentries, hx]) other at_) m hm
    · rw [far x hx] at beside
      cases beside
  · exact near other (List.mem_filterMap.2 ⟨x, hx, beside?_eq_some_iff.2 at_⟩)
      (unlike x (by simp [hentries, hx]) other at_) m hm

/-- Nothing is suggested only where no name below the location is near. -/
theorem far_of_suggestion?_eq_none (absent : ∀ x ∈ c.entries, x.2.location ≠ parent.join name)
    (h : Linking.suggestion? c (parent.join name) = none) :
    ∀ x ∈ c.entries, ∀ other m, x.2.location = parent.join other → Distance name other m →
      Linking.suggestionLimit < m := by
  rw [suggestion?_join, Option.map_eq_none_iff, List.head?_eq_none_iff,
    suggestions_eq_nil_iff (by decide)] at h
  intro x hx other m at_ hm
  refine h other (List.mem_filterMap.2 ⟨x, hx, beside?_eq_some_iff.2 at_⟩) ?_ m hm
  rintro rfl
  exact absent x hx at_

end Catalog

namespace Project

variable {p : Project} {rootId : String} {root : Document} {s : ArtifactStore}
  {errors : List LinkError} {origin target : Location} {suggestion : Option String}

/-- **What is suggested for a target that is not there is there, and is the nearest.**  If a name is
suggested, an artifact of this name stands beside the target, and the name is another one than the
target's.  It is at the least distance of all names beside the target, and the first of those in the
order of the store.  Nothing is suggested only for a document's root, or if no name beside the
target has a distance of at most three. -/
theorem suggestion_of_notFound (hc : p.compile rootId root = .ok s) (hl : s.link = .failed errors)
    (mem : .notFound origin target suggestion ∈ errors) :
    (∀ found, suggestion = some found → ∃ (parent : Location) (name : String),
      target = parent.join name ∧ found ≠ name ∧ s.catalog.NearestBelow parent name found) ∧
    (suggestion = none → target.segments = [] ∨ ∃ (parent : Location) (name : String),
      target = parent.join name ∧ ∀ id a other m, s.catalog.get? id = some a →
        a.location = parent.join other → Distance name other m → 3 < m) := by
  have hs := (sources_of_compile hc).store
  obtain ⟨absent, given⟩ : ¬ s.Holds target ∧ suggestion = Linking.suggestion? s.catalog target := by
    obtain ⟨culprit, reports⟩ :=
      ArtifactStore.exists_reports_of_failed hs.wellFormed hs.unbound hl mem
    cases reports with
    | missing _ none => exact ⟨none, rfl⟩
    | notFound _ _ none => exact ⟨none, rfl⟩
  have unlisted : ∀ x ∈ s.catalog.entries, x.2.location ≠ target := fun x hx at_ =>
    absent ⟨x.1, x.2, (Catalog.mem_entries_iff hs.numbered.catalog).1 hx, at_⟩
  by_cases top : target.segments = []
  · have unnamed : Linking.suggestion? s.catalog target = none := by
      simp [Linking.suggestion?, Location.last?, top]
    rw [unnamed] at given
    exact ⟨fun found h => absurd (given.symm.trans h) nofun, fun _ => .inl top⟩
  · obtain ⟨parent, name, rfl⟩ := Location.exists_eq_join top
    refine ⟨fun found h => ?_, fun h => .inr ⟨parent, name, rfl, fun id a other m ha at_ hm => ?_⟩⟩
    · obtain ⟨other, nearest⟩ := Catalog.nearestBelow_of_suggestion? unlisted (given.symm.trans h)
      exact ⟨parent, name, rfl, other, nearest⟩
    · exact Catalog.far_of_suggestion?_eq_none unlisted (given.symm.trans h) (id, a)
        ((Catalog.mem_entries_iff hs.numbered.catalog).2 ha) other m at_ hm

/-- A document with a reference to a channel that is not there, and two that are near. -/
def misspelt : Document where
  channels := [("c", { reference := some "#/components/channels/order" })]
  components := some { channels := [("orders", {}), ("Order", {})] }

/-- The name that differs in case only is nearer than the one before it. -/
theorem suggestion_of_notFound_misspelt : ∃ s errors, plain.compile "a" misspelt = .ok s ∧
    s.link = .failed errors ∧
    .notFound ⟨"a", ["channels", "c"]⟩ ⟨"a", ["components", "channels", "order"]⟩ (some "Order") ∈
      errors ∧
    s.catalog.NearestBelow ⟨"a", ["components", "channels"]⟩ "order" "Order" := by
  have compiled : (plain.compile "a" misspelt).toOption.map (fun s =>
      (s.references.map fun x => (x.2.origin, x.2.target, s.plainView.bound x.1),
        Linking.siblings s.catalog ⟨"a", ["components", "channels", "order"]⟩)) =
      some ([(⟨"a", ["channels", "c"]⟩, ⟨"a", ["components", "channels", "order"]⟩, none)],
        ["orders", "Order"]) := by
    decide +kernel
  have sorted : suggestions "order" ["orders", "Order"] 3 = [⟨"Order", 0⟩, ⟨"orders", 1⟩] := by
    cbv
  obtain ⟨s, hc, found⟩ := Option.map_eq_some_iff.1 compiled
  rw [toOption_eq_some_iff] at hc
  obtain ⟨slots, siblings⟩ := Prod.mk.inj found
  obtain ⟨⟨cell, slot⟩, only, at_⟩ := List.map_eq_singleton_iff.1 slots
  simp only [Prod.mk.injEq] at at_
  obtain ⟨origin, target, unbound⟩ := at_
  have suggested : Linking.suggestion? s.catalog slot.target = some "Order" := by
    rw [target, Linking.suggestion?, siblings, Linking.suggestionLimit]
    simp only [Location.last?, List.getLast?_cons_cons, List.getLast?_singleton]
    rw [Option.bind_eq_bind, Option.bind_some, sorted]
    rfl
  have missing : Linking.missingReferences s.plainView s =
      [.notFound slot.origin slot.target (some "Order")] := by
    rw [Linking.missingReferences, only, List.filterMap_cons_some, List.filterMap_nil]
    show (if (s.plainView.bound cell).isSome then none
      else some (Linking.nothingAt s.plainView.catalog slot.origin slot.target)) = _
    rw [unbound, if_neg (by simp), Linking.nothingAt, ← suggested]
    rfl
  have mem : .notFound slot.origin slot.target (some "Order") ∈ (Linking.findings s).errors := by
    rw [ArtifactStore.findings_eq, ArtifactStore.findingsIn]
    simp only [missing, List.mem_append, List.mem_singleton, true_or]
  have hs := (sources_of_compile hc).store
  have hl : s.link = .failed (Linking.findings s).errors := by
    have inside := hs.wellFormed.astray_eq_none_iff.2 fun _ => hs.not_astray
    rw [ArtifactStore.link_eq hs.numbered hs.unbound, inside]
    split
    · cases ‹none = some _›
    · rename_i none
      rw [none] at mem
      cases mem
    · rfl
  rw [origin, target] at mem
  obtain ⟨parent, name, whole, -, nearest⟩ := (suggestion_of_notFound hc hl mem).1 "Order" rfl
  obtain ⟨rfl, rfl⟩ : parent = ⟨"a", ["components", "channels"]⟩ ∧ name = "order" :=
    ⟨Option.some.inj ((Location.parent?_join parent name).symm.trans
      (congrArg Location.parent? whole.symm)),
      Option.some.inj ((Location.last?_join parent name).symm.trans
        (congrArg Location.last? whole.symm))⟩
  exact ⟨s, _, hc, hl, mem, nearest⟩

end Project
end ApiGraph
