/-
# The documents of a project

A project compiles its root document, and then the documents that are mentioned, each once.
What keeps each name from being compiled twice is the agenda: a name that was compiled or is
pending was seen, and what was seen is not put on it again (`Agenda.Fits`).

So the first document of the store is the root, every other one is the document that the
library has under its name, all were compiled with the settings of the project under the
number of their place, and no two have one name (`Project.Sources`).
-/

import ApiGraph.Project
import ApiGraph.Proofs.Compilation.Assembled
import ApiGraph.Proofs.Linking.Evaluation

namespace ApiGraph

namespace Agenda

/-- What was seen are the names that are compiled and those that are pending, each once. -/
structure Fits (a : Agenda) (compiled : List String) : Prop where
  nodup : (compiled ++ a.pending).Nodup
  seen : ∀ name, name ∈ a.seen ↔ name ∈ compiled ++ a.pending

variable {a : Agenda} {compiled : List String}

/-- A name that is mentioned leaves the agenda fitting. -/
theorem Fits.mention (h : a.Fits compiled) (name : String) : (a.mention name).Fits compiled := by
  rw [Agenda.mention]
  split
  · exact h
  · rename_i fresh
    replace fresh : name ∉ compiled ++ a.pending := by
      rw [← h.seen]
      simpa using fresh
    constructor
    · rw [← List.append_assoc, List.nodup_append]
      refine ⟨h.nodup, by simp, ?_⟩
      rintro x hx y hy rfl
      exact fresh (List.mem_singleton.1 hy ▸ hx)
    · intro x
      simp only [List.mem_append, h.seen, List.mem_singleton, or_assoc]

/-- So do many. -/
theorem Fits.mentionAll (h : a.Fits compiled) (names : List String) :
    (a.mentionAll names).Fits compiled := by
  rw [Agenda.mentionAll]
  induction names generalizing a with
  | nil => exact h
  | cons name rest ih => exact ih (h.mention name)

end Agenda

namespace Project

variable {p : Project} {rootId : String} {root : Document} {s : ArtifactStore}

/-- The document that is compiled at a place of the store, and its name. -/
def Source (p : Project) (rootId : String) (root : Document) (i : Nat) (name : String)
    (d : Document) : Prop :=
  if i = 0 then name = Path.normalize rootId ∧ d = root else p.library.resolve name = .ok d

/-- What the documents of a store were compiled from. -/
structure Sources (p : Project) (rootId : String) (root : Document) (s : ArtifactStore) :
    Prop where
  names_nodup : (s.documents.map (·.document)).Nodup
  compiled : ∀ (i : Nat) (store : DocumentStore), s.documents[i]? = some store →
    ∃ d, p.Source rootId root i store.document d ∧
      d.compile p.settings i store.document = .ok store

/-- One document more. -/
theorem Sources.append {name : String} {d : Document} {store : DocumentStore}
    (h : p.Sources rootId root s) (source : p.Source rootId root s.documents.length name d)
    (fresh : name ∉ s.documents.map (·.document))
    (hc : d.compile p.settings s.documents.length name = .ok store) :
    p.Sources rootId root ⟨s.documents ++ [store]⟩ := by
  have hname := (Document.compiledFrom_of_compile hc).2.1
  constructor
  · rw [List.map_append, List.nodup_append]
    refine ⟨h.names_nodup, by simp, ?_⟩
    rintro x hx y hy rfl
    rw [List.map_singleton, List.mem_singleton, hname] at hy
    exact fresh (hy ▸ hx)
  · intro i st hi
    rcases Nat.lt_or_ge i s.documents.length with lt | ge
    · rw [List.getElem?_append_left lt] at hi
      exact h.compiled i st hi
    · rw [List.getElem?_append_right ge, List.getElem?_singleton] at hi
      split at hi
      · obtain rfl := Option.some.inj hi
        obtain rfl : i = s.documents.length := by omega
        rw [hname]
        exact ⟨d, source, hc⟩
      · cases hi

/-- Compiling the next document adds its store, and the agenda fits again. -/
theorem compileNext_eq_ok {name : String} {d : Document} {a a' : Agenda} {s' : ArtifactStore}
    (h : p.compileNext name d s a = .ok (s', a'))
    (fits : a.Fits (s.documents.map (·.document) ++ [name])) :
    ∃ store, d.compile p.settings s.documents.length name = .ok store ∧
      s' = ⟨s.documents ++ [store]⟩ ∧ a' = a.mentionAll store.externals ∧
      a'.Fits (s'.documents.map (·.document)) := by
  rw [compileNext] at h
  cases hc : d.compile p.settings s.nextIndex name with
  | error e => rw [hc] at h; cases h
  | ok store =>
    rw [hc] at h
    cases h
    refine ⟨store, hc, rfl, rfl, ?_⟩
    rw [List.map_append, List.map_singleton, (Document.compiledFrom_of_compile hc).2.1]
    exact fits.mentionAll store.externals

/-- **One document more.**  When the next pending document is compiled, it is one of the library
and new, and the agenda fits again. -/
theorem Sources.next {name : String} {rest : List String} {d : Document} {a a' : Agenda}
    {s' : ArtifactStore} (h : p.Sources rootId root s) (started : s.documents ≠ [])
    (fits : a.Fits (s.documents.map (·.document))) (pending : a.pending = name :: rest)
    (resolved : p.library.resolve name = .ok d)
    (hn : p.compileNext name d s { a with pending := rest } = .ok (s', a')) :
    p.Sources rootId root s' ∧ a'.Fits (s'.documents.map (·.document)) ∧
      ∃ store, d.compile p.settings s.documents.length name = .ok store ∧
        s' = ⟨s.documents ++ [store]⟩ ∧
        a' = Agenda.mentionAll { a with pending := rest } store.externals := by
  have fits' : Agenda.Fits { a with pending := rest }
      (s.documents.map (·.document) ++ [name]) := by
    obtain ⟨nodup, seen⟩ := fits
    rw [pending] at nodup seen
    exact ⟨by simpa using nodup, by simpa using seen⟩
  obtain ⟨store, hc, rfl, ha, fits''⟩ := compileNext_eq_ok hn fits'
  have source : p.Source rootId root s.documents.length name d := by
    rw [Source, if_neg (by simpa using started)]
    exact resolved
  have fresh : name ∉ s.documents.map (·.document) := fun hx =>
    (List.nodup_append.1 (List.nodup_append.1 fits'.nodup).1).2.2 _ hx name (by simp) rfl
  exact ⟨h.append source fresh hc, fits'', store, hc, rfl, ha⟩

/-- Compiling what is pending keeps the documents' sources, by induction on the documents that
may still come. -/
theorem sources_compilePending :
    ∀ (limit : Nat) (s : ArtifactStore) (a : Agenda) {s' : ArtifactStore},
      p.Sources rootId root s → s.documents ≠ [] → a.Fits (s.documents.map (·.document)) →
      p.compilePending limit s a = .ok s' → p.Sources rootId root s'
  | 0, s, a, s', sources, _, _, h => by
    cases h
    exact sources
  | limit + 1, s, a, s', sources, started, fits, h => by
    rw [compilePending] at h
    split at h
    · cases h
      exact sources
    · rename_i name rest pending
      split at h
      · cases h
      · rename_i d resolved
        cases hn : p.compileNext name d s { a with pending := rest } with
        | error e => rw [hn] at h; cases h
        | ok next =>
          obtain ⟨s₁, a₁⟩ := next
          rw [hn] at h
          obtain ⟨sources₁, fits₁, store, -, rfl, -⟩ :=
            sources.next started fits pending resolved hn
          exact sources_compilePending limit _ a₁ sources₁ (by simp) fits₁ h

/-- The root document is the first one. -/
theorem sources_compileNext {a : Agenda}
    (hn : p.compileNext (Path.normalize rootId) root {} ⟨[Path.normalize rootId], []⟩ =
      .ok (s, a)) :
    p.Sources rootId root s ∧ a.Fits (s.documents.map (·.document)) ∧
      ∃ store, root.compile p.settings 0 (Path.normalize rootId) = .ok store ∧ s = ⟨[store]⟩ ∧
        a = Agenda.mentionAll ⟨[Path.normalize rootId], []⟩ store.externals := by
  obtain ⟨store, hc, rfl, ha, fits⟩ := compileNext_eq_ok hn ⟨by simp, by simp⟩
  exact ⟨Sources.append ⟨by simp, by simp⟩ ⟨rfl, rfl⟩ (by simp) hc, fits, store, hc, rfl, ha⟩

/-- **The documents of a compiled project** are its root and documents of its library. -/
theorem sources_of_compile (h : p.compile rootId root = .ok s) : p.Sources rootId root s := by
  rw [Project.compile] at h
  cases hn : p.compileNext (Path.normalize rootId) root {} ⟨[Path.normalize rootId], []⟩ with
  | error e => rw [hn] at h; cases h
  | ok next =>
    obtain ⟨s₁, a₁⟩ := next
    rw [hn] at h
    obtain ⟨sources, fits, store, -, rfl, -⟩ := sources_compileNext hn
    exact sources_compilePending _ _ a₁ sources (by simp) fits h

/-- A store that is linked is the graph of its project. -/
theorem build_of_linked {t : ArtifactStore} (hc : p.compile rootId root = .ok s)
    (hl : s.link = .linked t) : p.build rootId root = .ok ⟨t⟩ := by
  simp only [build, hc, hl]

/-- The store of a project is ready to be linked. -/
theorem Sources.store (h : p.Sources rootId root s) : s.Compiled where
  numbered i store hi := by
    obtain ⟨d, -, hc⟩ := h.compiled i store hi
    exact (Document.compiledFrom_of_compile hc).1
  names_nodup := h.names_nodup
  compiled store hs := by
    obtain ⟨i, hi⟩ := List.mem_iff_getElem?.1 hs
    obtain ⟨d, -, hc⟩ := h.compiled i store hi
    exact ⟨_, (Document.compiledFrom_of_compile hc).2.2⟩

/-- It is one that no promise was added to. -/
theorem Sources.assembled (h : p.Sources rootId root s) : s.Assembled where
  numbered := h.store.numbered
  names_nodup := h.names_nodup
  made store hs := by
    obtain ⟨i, hi⟩ := List.mem_iff_getElem?.1 hs
    obtain ⟨d, -, hc⟩ := h.compiled i store hi
    exact .compiled hc

/-- What was compiled is linked where nothing is found to be wrong in it. -/
theorem linked_of_clean {p : Project} {rootId : String} {root : Document} {s : ArtifactStore}
    (hc : p.compile rootId root = .ok s)
    (clean : (s.findingsIn s.plainView).errors.isEmpty = true) :
    s.link = .linked s.withBindings := by
  have hs := (sources_of_compile hc).store
  exact ArtifactStore.link_of_errors_eq_nil hs.wellFormed hs.unbound (fun _ => hs.not_astray)
    (List.isEmpty_iff.1 clean)

/-- A project without findings is linked. -/
theorem exists_linked_of_clean {p : Project} {rootId : String} {root : Document}
    (clean : (p.compile rootId root).toOption.map
      (fun s => (s.findingsIn s.plainView).errors.isEmpty) = some true) :
    ∃ s, p.compile rootId root = .ok s ∧ s.link = .linked s.withBindings := by
  obtain ⟨s, hc, none⟩ := Option.map_eq_some_iff.1 clean
  rw [toOption_eq_some_iff] at hc
  exact ⟨s, hc, linked_of_clean hc none⟩

end Project
end ApiGraph
