/-
# Root documents that are given by URL

A reference that names a URL leads to the document under just this URL
(`Location.document_of_ofReference`), and the library is asked for it under this name.  The root
document is known by its normalized name, and that is never a URL.  So a root document that is
given by URL is another document than the one that its own references reach by the URL: the
document that the library has there is compiled behind it (`Project.url_names_another_document`),
and a root document does not keep the identity that its URL gives it (`Project.not_forall_keepsUrl`).
-/

import ApiGraph.Proofs.Location.Paths
import ApiGraph.Proofs.Project.Discovery
import ApiGraph.Proofs.Project.Structure

namespace ApiGraph

open Document (Entity)

/-- What a reference names a document by; empty where it names none. -/
def Location.documentPart (reference : String) : String :=
  String.ofList ((Text.cutAt? '#' reference.toList).getD (reference.toList, [])).1

/-- Where a URL stands does not matter. -/
theorem Location.document_of_ofReference {current reference : String} {target : Location}
    (h : Location.ofReference current reference = .ok target)
    (url : Path.isUrl (Location.documentPart reference).toList = true) :
    target.document = Location.documentPart reference := by
  rw [documentPart, String.toList_ofList] at url
  rw [documentPart]
  rw [Location.ofReference] at h
  generalize (Text.cutAt? '#' reference.toList).getD (reference.toList, []) = parts at h url ⊢
  obtain ⟨path, fragment⟩ := parts
  have filled : path.isEmpty = false := by
    cases path with
    | nil => cases url
    | cons c rest => rfl
  simp only [filled, Path.resolve, String.toList_ofList, url] at h
  split at h <;> cases h
  rfl

namespace Project

variable {p : Project} {rootId : String} {root : Document} {s : ArtifactStore} {e : Entity}
  {place : Location} {reference : String}

/-- A reference that was compiled can be read, and its document has a cell for it. -/
theorem Sources.exists_target (h : p.Sources rootId root s) (hp : p.Stands rootId root s place e)
    (href : e.reference? = some reference) :
    ∃ store ∈ s.documents, ∃ target ∈ store.targets, store.document = place.document ∧
      Location.ofReference place.document reference = .ok target := by
  obtain ⟨i, store, vs, v, hi, -, compiled, hv, rfl, rfl⟩ := h.exists_visit hp
  obtain ⟨a, -, rep⟩ := exists_right_of_forall₂ compiled.artifacts hv
  have body := rep.body
  rw [DocumentStore.Embodies, href] at body
  obtain ⟨r, slot, -, read, -, hslot, -, same, -⟩ := body
  have mem : slot ∈ store.references.toList := Array.mem_toList_iff.2 (Array.mem_of_getElem? hslot)
  refine ⟨store, List.mem_of_getElem? hi, r.target, ?_, rfl, read⟩
  rw [DocumentStore.targets, ← same]
  exact List.mem_append_right _ (List.mem_map_of_mem mem)

/-- Where an edge of the store leads, there is a document. -/
theorem Sources.mem_names (h : p.Sources rootId root s) {asked : List String}
    (run : p.Runs rootId root asked (.ok s)) {store : DocumentStore} (hs : store ∈ s.documents)
    {target : Location} (ht : target ∈ store.targets) :
    target.document ∈ s.documents.map (·.document) := by
  obtain ⟨order, -⟩ := breadthFirst_of_runs run h
  by_cases own : target.document = store.document
  · rw [own]
    exact List.mem_map_of_mem hs
  · refine order.mem_of_mentions (List.mem_map_of_mem hs) ?_
    rw [(h.mentions_eq hs).1, (h.mentions_eq hs).2]
    exact ⟨own, target, ht, rfl⟩

/-- **The URL of a root document names another document.**  The root is known by its normalized
name, which is not the URL.  A reference to the URL, wherever it stands in the project, leads to the
document under the URL: it is another document for the root that the reference stands in, the
library was asked for it, and what the library has there was compiled behind the root. -/
theorem url_names_another_document (url : Path.isUrl rootId.toList = true)
    (h : p.compile rootId root = .ok s) :
    (∃ first, s.documents[0]? = some first ∧ first.document = Path.normalize rootId ∧
      first.document ≠ rootId) ∧
    ∀ place e reference, p.Stands rootId root s place e → e.reference? = some reference →
      Location.documentPart reference = rootId →
      (∃ target, Location.ofReference place.document reference = .ok target ∧
        target.document = rootId) ∧
      (∃ store ∈ s.documents, store.document = place.document ∧
        (place.document ≠ rootId → rootId ∈ store.externals)) ∧
      (∀ asked, p.Runs rootId root asked (.ok s) → rootId ∈ asked) ∧
      ∃ i store d, 0 < i ∧ s.documents[i]? = some store ∧ store.document = rootId ∧
        p.library.resolve rootId = .ok d ∧ d.compile p.settings i rootId = .ok store := by
  have sources := sources_of_compile h
  have other : Path.normalize rootId ≠ rootId := Path.normalize_ne_of_isUrl url
  obtain ⟨asked, run⟩ := exists_runs_compile p rootId root
  rw [h] at run
  obtain ⟨-, names⟩ := breadthFirst_of_runs run sources
  obtain ⟨first, hfirst, named⟩ : ∃ first, s.documents[0]? = some first ∧
      first.document = Path.normalize rootId := by
    have top : (s.documents.map (·.document))[0]? = some (Path.normalize rootId) := by
      rw [names]
      rfl
    rwa [List.getElem?_map, Option.map_eq_some_iff] at top
  refine ⟨⟨first, hfirst, named, named ▸ other⟩, fun place e reference hp href part => ?_⟩
  obtain ⟨store, hs, target, ht, at_, read⟩ := sources.exists_target hp href
  have leads : target.document = rootId := by
    rw [Location.document_of_ofReference read (part ▸ url), part]
  have present : rootId ∈ s.documents.map (·.document) := leads ▸ sources.mem_names run hs ht
  refine ⟨⟨target, read, leads⟩, ⟨store, hs, at_, fun differ => ?_⟩, fun asked' run' => ?_, ?_⟩
  · rw [(sources.mentions_eq hs).2, at_]
    exact ⟨differ.symm, target, ht, leads⟩
  · rw [(breadthFirst_of_runs run' sources).2] at present
    exact (List.mem_cons.1 present).resolve_left other.symm
  · obtain ⟨found, hf, rfl⟩ := List.mem_map.1 present
    obtain ⟨i, hi⟩ := List.mem_iff_getElem?.1 hf
    obtain ⟨d, source, compiled⟩ := sources.compiled i found hi
    have behind : i ≠ 0 := by
      rintro rfl
      obtain rfl := Option.some.inj (hfirst.symm.trans hi)
      exact other named.symm
    rw [Source, if_neg behind] at source
    exact ⟨i, found, d, Nat.pos_of_ne_zero behind, hi, rfl, source, compiled⟩

/-- A library that has an empty document under a URL. -/
def hosted : Project where
  settings := {}
  library := ofTable [("https://h/a", {})]

/-- A root document that refers to itself by its URL. -/
def hostedRoot : Document :=
  pointing ["https://h/a#/info"]

/-- The reference of the root document. -/
def hostedChannel : Document.Channel where
  reference := some "https://h/a#/info"

theorem exists_store_hosted : ∃ s, hosted.compile "https://h/a" hostedRoot = .ok s ∧
    s.documents.map (·.document) = ["https:/h/a", "https://h/a"] ∧
    hosted.Stands "https://h/a" hostedRoot s ⟨"https:/h/a", ["channels", "https://h/a#/info"]⟩
      (.channel hostedChannel) := by
  have compiled : (hosted.compile "https://h/a" hostedRoot).toOption.map
      (fun s => s.documents.map (·.document)) = some ["https:/h/a", "https://h/a"] := by
    decide +kernel
  cases h : hosted.compile "https://h/a" hostedRoot with
  | error e => rw [h] at compiled; cases compiled
  | ok s =>
    rw [h] at compiled
    have names : s.documents.map (·.document) = ["https:/h/a", "https://h/a"] :=
      Option.some.inj compiled
    have top := congrArg (·[0]?) names
    simp only [List.getElem?_map, List.getElem?_cons_zero, Option.map_eq_some_iff] at top
    obtain ⟨first, hfirst, named⟩ := top
    have contains : (Entity.document hostedRoot).Contains ["channels", "https://h/a#/info"]
        (.channel hostedChannel) := by
      refine .of_part ?_
      simp [Entity.parts, Entity.reference?, Entity.ownParts, Entity.partFields,
        Document.Placed.ofFields, Document.Placed.under, Document.entryParts, hostedRoot, pointing,
        hostedChannel]
    exact ⟨s, rfl, names, 0, first, hostedRoot, hfirst, named, ⟨by decide +kernel, rfl⟩, contains⟩

/-- The root document refers to its URL, and the document that the library has there is compiled
as well. -/
theorem url_names_another_document_hosted : ∃ s, hosted.compile "https://h/a" hostedRoot = .ok s ∧
    Path.isUrl "https://h/a".toList = true ∧
    (∀ asked, hosted.Runs "https://h/a" hostedRoot asked (.ok s) → "https://h/a" ∈ asked) ∧
    ∃ i store d, 0 < i ∧ s.documents[i]? = some store ∧ store.document = "https://h/a" ∧
      hosted.library.resolve "https://h/a" = .ok d ∧
      d.compile hosted.settings i "https://h/a" = .ok store := by
  obtain ⟨s, hc, -, stands⟩ := exists_store_hosted
  have url : Path.isUrl "https://h/a".toList = true := by decide +kernel
  obtain ⟨-, each⟩ := url_names_another_document url hc
  obtain ⟨-, -, asked, compiled⟩ := each _ _ _ stands rfl (by decide +kernel)
  exact ⟨s, hc, url, asked, compiled⟩

/-- A reference to the URL of a root document that has no fragment leads to the first document of
the store. -/
def KeepsUrl (p : Project) (rootId : String) (root : Document) : Prop :=
  Path.isUrl rootId.toList = true → '#' ∉ rootId.toList → ∀ s, p.compile rootId root = .ok s →
    ∀ place e reference target, p.Stands rootId root s place e → e.reference? = some reference →
      Location.documentPart reference = rootId →
      Location.ofReference place.document reference = .ok target →
      (s.documents.map (·.document)).head? = some target.document

/-- **A root document does not keep the identity that its URL gives it.** -/
theorem not_forall_keepsUrl :
    ¬ ∀ (p : Project) (rootId : String) (root : Document), p.KeepsUrl rootId root := by
  intro keeps
  obtain ⟨s, hc, names, stands⟩ := exists_store_hosted
  have read : Location.ofReference "https:/h/a" "https://h/a#/info" =
      .ok ⟨"https://h/a", ["info"]⟩ := by decide +kernel
  have same := keeps hosted "https://h/a" hostedRoot (by decide +kernel) (by decide +kernel) s hc
    _ _ _ _ stands rfl (by decide +kernel) read
  rw [names] at same
  exact absurd same (by decide)

end Project
end ApiGraph
