/-
# Which documents a project compiles

A project goes on compiling documents as long as one is pending.  Said without a bound, this is
a run (`Project.Runs`): it ends when none is pending, or with the first document that the library
does not have or that cannot be compiled, and it records what the library was asked for.  Every
project has exactly one run, and what comes of it is what the project compiles to, because the
names that the library answers to are finitely many and none is asked for twice.

A document mentions the other documents that its references and promises lead to
(`Document.mentions`), and a store that is compiled from it notes just these as its externals.
What keeps the order is that the names that were seen are those of the compiled documents and,
behind them, the pending ones, and are what the compiled documents mention, in the order of first
mention (`Project.Gathered`).  So the documents of a project come in the breadth-first order of
what can be reached from its root (`Project.compile_collects`).
-/

import ApiGraph.Proofs.FirstOccurrence
import ApiGraph.Proofs.Project.Sources

namespace ApiGraph

/-! ## Mentions -/

/-- The other documents that the references and promises of a document lead to, each once, in
the order of first mention. -/
def Document.mentions (name : String) (d : Document) : List String :=
  (otherDocuments name ((d.outline.visits []).flatMap (Visit.targets name))).eraseDups

/-- The places that the references and promises of a compiled document lead to. -/
def DocumentStore.targets (d : DocumentStore) : List Location :=
  cellTargets d.promises.toList d.references.toList

/-- A compiled document notes what it mentions. -/
theorem Document.externals_of_compile {d : Document} {settings : Settings} {index : Nat}
    {name : String} {store : DocumentStore} (h : d.compile settings index name = .ok store) :
    store.externals = d.mentions name := by
  obtain ⟨-, hname, compiled⟩ := Document.compiledFrom_of_compile h
  rw [compiled.externals, hname, Document.mentions]

/-- What the visited entities lead to is what the cells of the store lead to. -/
theorem DocumentStore.CompiledFrom.mem_targets {d : DocumentStore} {vs : List Visit}
    (h : d.CompiledFrom vs) {target : Location} :
    target ∈ vs.flatMap (Visit.targets d.document) ↔ target ∈ d.targets := by
  have promises : ∀ v : Visit, (v.promises d.document).filterMap PromiseCell.target? =
      (v.edges d.document).map (·.target) := fun v => v.filterMap_promises d.document
  simp only [DocumentStore.targets, cellTargets, h.promises, h.references, Visit.targets,
    List.filterMap_flatMap, promises, List.map_flatMap, List.mem_append, List.mem_flatMap,
    and_or_left, exists_or]

/-- What a compiled document mentions are the other documents that its cells lead to. -/
theorem Document.mem_mentions_iff {d : Document} {settings : Settings} {index : Nat}
    {name other : String} {store : DocumentStore}
    (h : d.compile settings index name = .ok store) : other ∈ d.mentions name ↔
      other ≠ name ∧ ∃ target ∈ store.targets, target.document = other := by
  obtain ⟨-, rfl, compiled⟩ := Document.compiledFrom_of_compile h
  simp only [Document.mentions, List.mem_eraseDups, mem_otherDocuments, compiled.mem_targets]

namespace Agenda

variable {a : Agenda} {compiled : List String}

theorem seen_mention (a : Agenda) (name : String) : (a.mention name).seen = noted a.seen [name] := by
  rw [mention]
  by_cases known : name ∈ a.seen
  · simp [known, noted_singleton_of_mem known]
  · simp [known, noted_singleton_of_notMem known]

/-- Mentioned names are noted. -/
theorem seen_mentionAll (a : Agenda) (names : List String) :
    (a.mentionAll names).seen = noted a.seen names := by
  rw [mentionAll]
  induction names generalizing a with
  | nil => exact (noted_nil _).symm
  | cons name rest ih => rw [List.foldl_cons, ih, seen_mention, ← noted_append]; rfl

/-- What comes to be seen comes to be pending. -/
theorem seen_eq_mention (h : a.seen = compiled ++ a.pending) (name : String) :
    (a.mention name).seen = compiled ++ (a.mention name).pending := by
  rw [mention]
  split
  · exact h
  · simp [h]

theorem seen_eq_mentionAll (h : a.seen = compiled ++ a.pending) (names : List String) :
    (a.mentionAll names).seen = compiled ++ (a.mentionAll names).pending := by
  rw [mentionAll]
  induction names generalizing a with
  | nil => exact h
  | cons name rest ih => exact ih (seen_eq_mention h name)

end Agenda

namespace Project

variable {p : Project} {rootId : String} {root : Document} {s s' : ArtifactStore}
  {a a' : Agenda} {asked asked' : List String} {r r' : Except CompileError ArtifactStore}

/-! ## Runs -/

/-- How it goes on from a store and an agenda: what the library is asked for, in this order,
and what comes of it. -/
inductive Collects (p : Project) : ArtifactStore → Agenda → List String →
    Except CompileError ArtifactStore → Prop
  /-- No document is pending. -/
  | done {s : ArtifactStore} {a : Agenda} : a.pending = [] → Collects p s a [] (.ok s)
  /-- The library does not have the document. -/
  | unresolved {s : ArtifactStore} {a : Agenda} {name : String} {rest : List String}
      {e : ResolveError} : a.pending = name :: rest → p.library.resolve name = .error e →
      Collects p s a [name] (.error (.unresolved e))
  /-- The document cannot be compiled. -/
  | failed {s : ArtifactStore} {a : Agenda} {name : String} {rest : List String} {d : Document}
      {e : CompileError} : a.pending = name :: rest → p.library.resolve name = .ok d →
      p.compileNext name d s { a with pending := rest } = .error e →
      Collects p s a [name] (.error e)
  /-- The document is compiled, and so on. -/
  | next {s s' : ArtifactStore} {a a' : Agenda} {name : String} {rest : List String}
      {d : Document} {asked : List String} {r : Except CompileError ArtifactStore} :
      a.pending = name :: rest → p.library.resolve name = .ok d →
      p.compileNext name d s { a with pending := rest } = .ok (s', a') →
      Collects p s' a' asked r → Collects p s a (name :: asked) r

/-- How it goes from the root document. -/
inductive Runs (p : Project) (rootId : String) (root : Document) :
    List String → Except CompileError ArtifactStore → Prop
  /-- The root document cannot be compiled. -/
  | failed {e : CompileError} :
      p.compileNext (Path.normalize rootId) root {} ⟨[Path.normalize rootId], []⟩ = .error e →
      Runs p rootId root [] (.error e)
  /-- The root document is compiled, and so on. -/
  | started {s : ArtifactStore} {a : Agenda} {asked : List String}
      {r : Except CompileError ArtifactStore} :
      p.compileNext (Path.normalize rootId) root {} ⟨[Path.normalize rootId], []⟩ = .ok (s, a) →
      p.Collects s a asked r → Runs p rootId root asked r

/-- It goes on in one way only. -/
theorem Collects.unique (h : p.Collects s a asked r) (h' : p.Collects s a asked' r') :
    asked = asked' ∧ r = r' := by
  induction h generalizing asked' r' with
  | done pending => cases h' <;> simp_all
  | unresolved pending found => cases h' <;> simp_all
  | failed pending found compiled => cases h' <;> simp_all
  | next pending found compiled _ ih =>
    cases h' with
    | done pending' => simp_all
    | unresolved pending' found' => simp_all
    | failed pending' found' compiled' => simp_all
    | next pending' found' compiled' rest' =>
      obtain ⟨rfl, rfl⟩ := List.cons.inj (pending.symm.trans pending')
      obtain rfl := Except.ok.inj (found.symm.trans found')
      obtain ⟨rfl, rfl⟩ := Prod.mk.inj (Except.ok.inj (compiled.symm.trans compiled'))
      obtain ⟨rfl, rfl⟩ := ih rest'
      exact ⟨rfl, rfl⟩

theorem Runs.unique (h : p.Runs rootId root asked r) (h' : p.Runs rootId root asked' r') :
    asked = asked' ∧ r = r' := by
  cases h with
  | failed first =>
    cases h' with
    | failed first' =>
      obtain rfl := Except.error.inj (first.symm.trans first')
      exact ⟨rfl, rfl⟩
    | started first' rest' => rw [first] at first'; cases first'
  | started first rest =>
    cases h' with
    | failed first' => rw [first] at first'; cases first'
    | started first' rest' =>
      obtain ⟨rfl, rfl⟩ := Prod.mk.inj (Except.ok.inj (first.symm.trans first'))
      exact rest.unique rest'

/-- There are not more documents than the root and what the library has. -/
theorem Sources.length_le (h : p.Sources rootId root s) :
    s.documents.length ≤ p.library.size + 1 := by
  have found : ∀ name ∈ (s.documents.map (·.document)).tail,
      ∃ d, p.library.resolve name = .ok d := by
    intro name hname
    obtain ⟨i, hi⟩ := List.mem_iff_getElem?.1 hname
    rw [List.getElem?_tail, List.getElem?_map, Option.map_eq_some_iff] at hi
    obtain ⟨store, hstore, rfl⟩ := hi
    obtain ⟨d, source, -⟩ := h.compiled (i + 1) store hstore
    exact ⟨d, by simpa [Source] using source⟩
  have bound := p.library.length_le_size _ h.names_nodup.tail found
  rw [List.length_tail, List.length_map] at bound
  omega

/-- As many documents as may be compiled are as many as can come, and one more. -/
theorem exists_collects_compilePending :
    ∀ (limit : Nat) (s : ArtifactStore) (a : Agenda), p.Sources rootId root s →
      s.documents ≠ [] → a.Fits (s.documents.map (·.document)) →
      p.library.size + 2 ≤ limit + s.documents.length →
      ∃ asked, p.Collects s a asked (p.compilePending limit s a)
  | 0, s, a, sources, _, _, enough => by
    have few := sources.length_le
    omega
  | limit + 1, s, a, sources, started, fits, enough => by
    rw [compilePending]
    split
    · exact ⟨[], .done ‹_›⟩
    · rename_i name rest pending
      split
      · exact ⟨[name], .unresolved pending ‹_›⟩
      · rename_i d resolved
        cases hn : p.compileNext name d s { a with pending := rest } with
        | error e => exact ⟨[name], .failed pending resolved hn⟩
        | ok next =>
          obtain ⟨s₁, a₁⟩ := next
          obtain ⟨sources₁, fits₁, store, -, rfl, -⟩ :=
            sources.next started fits pending resolved hn
          have enough₁ : p.library.size + 2 ≤ limit + (s.documents ++ [store]).length := by
            rw [List.length_append, List.length_singleton]
            omega
          obtain ⟨asked, run⟩ :=
            exists_collects_compilePending limit _ a₁ sources₁ (by simp) fits₁ enough₁
          exact ⟨name :: asked, .next pending resolved hn run⟩

/-- **What a project compiles to is what comes of its run.** -/
theorem exists_runs_compile (p : Project) (rootId : String) (root : Document) :
    ∃ asked, p.Runs rootId root asked (p.compile rootId root) := by
  rw [Project.compile]
  cases hn : p.compileNext (Path.normalize rootId) root {} ⟨[Path.normalize rootId], []⟩ with
  | error e => exact ⟨[], .failed hn⟩
  | ok next =>
    obtain ⟨s₁, a₁⟩ := next
    obtain ⟨sources, fits, store, -, rfl, -⟩ := sources_compileNext hn
    have enough : p.library.size + 2 ≤ p.library.size + 1 + [store].length := by
      simp
    obtain ⟨asked, run⟩ := exists_collects_compilePending _ _ a₁ sources (by simp) fits enough
    exact ⟨asked, .started hn run⟩

/-! ## The order of the documents -/

/-- The names that were seen are those of the compiled documents and the pending ones, and they
are what the compiled documents mention, in the order of first mention. -/
structure Gathered (rootName : String) (s : ArtifactStore) (a : Agenda) : Prop where
  seen : a.seen = s.documents.map (·.document) ++ a.pending
  order : a.seen = noted [rootName] (s.documents.flatMap (·.externals))
  earlier : ∀ (i : Nat) (name : String), (s.documents.map (·.document))[i]? = some name →
    name = rootName ∨ ∃ d ∈ s.documents.take i, name ∈ d.externals

/-- **One document more.**  It was mentioned before, and what it mentions is noted. -/
theorem Gathered.next {rootName name : String} {rest : List String} {store : DocumentStore}
    (h : Gathered rootName s a) (pending : a.pending = name :: rest)
    (named : store.document = name) :
    Gathered rootName ⟨s.documents ++ [store]⟩
      (Agenda.mentionAll { a with pending := rest } store.externals) := by
  have names : (s.documents ++ [store]).map (·.document) =
      s.documents.map (·.document) ++ [name] := by
    rw [List.map_append, List.map_singleton, named]
  have seen : a.seen = (s.documents.map (·.document) ++ [name]) ++ rest := by
    rw [h.seen, pending, List.append_assoc]
    rfl
  constructor
  · rw [names]
    exact Agenda.seen_eq_mentionAll (a := { a with pending := rest }) seen store.externals
  · rw [Agenda.seen_mentionAll, List.flatMap_append, List.flatMap_singleton, noted_append,
      ← h.order]
  · intro i x hi
    change ((s.documents ++ [store]).map (·.document))[i]? = some x at hi
    rw [names] at hi
    rcases Nat.lt_or_ge i (s.documents.map (·.document)).length with lt | ge
    · rw [List.getElem?_append_left lt] at hi
      rw [List.length_map] at lt
      rw [List.take_append_of_le_length (Nat.le_of_lt lt)]
      exact h.earlier i x hi
    · -- the new one was pending, so it was seen, and so it was mentioned
      rw [List.getElem?_append_right ge, List.getElem?_singleton] at hi
      split at hi
      · obtain rfl := Option.some.inj hi
        have known : name ∈ a.seen := by rw [seen]; simp
        rw [h.order, mem_noted, List.mem_singleton, List.mem_flatMap] at known
        refine known.imp_right fun ⟨d, hd, mention⟩ => ⟨d, ?_, mention⟩
        rw [List.length_map] at ge
        rw [List.take_append, List.take_of_length_le ge]
        exact List.mem_append_left _ hd
      · cases hi

/-- A run that ends with a store has nothing pending, and compiled what it asked for. -/
theorem Collects.gathered {rootName : String} (h : p.Collects s a asked (.ok s'))
    (gathered : Gathered rootName s a) :
    (∃ a', Gathered rootName s' a' ∧ a'.pending = []) ∧
      s'.documents.map (·.document) = s.documents.map (·.document) ++ asked := by
  generalize result : (Except.ok s' : Except CompileError ArtifactStore) = r at h
  induction h with
  | done pending =>
    obtain rfl := Except.ok.inj result
    exact ⟨⟨_, gathered, pending⟩, (List.append_nil _).symm⟩
  | unresolved pending found => cases result
  | failed pending found compiled => cases result
  | @next s s₁ a a₁ name rest d asked r pending found compiled _ ih =>
    rw [compileNext] at compiled
    cases hc : d.compile p.settings s.nextIndex name with
    | error e => rw [hc] at compiled; cases compiled
    | ok store =>
      rw [hc] at compiled
      cases compiled
      have named := (Document.compiledFrom_of_compile hc).2.1
      obtain ⟨final, names⟩ := ih (gathered.next pending named) result
      refine ⟨final, ?_⟩
      rw [names, List.map_append, List.map_singleton, named, List.append_assoc]
      rfl

/-- Where the root document is compiled, it is the only one that was seen and is not pending. -/
theorem gathered_compileNext
    (hn : p.compileNext (Path.normalize rootId) root {} ⟨[Path.normalize rootId], []⟩ =
      .ok (s, a)) :
    Gathered (Path.normalize rootId) s a ∧
      s.documents.map (·.document) = [Path.normalize rootId] := by
  obtain ⟨-, -, store, hc, rfl, rfl⟩ := sources_compileNext hn
  have named := (Document.compiledFrom_of_compile hc).2.1
  have names : [store].map (·.document) = [Path.normalize rootId] := by
    rw [List.map_singleton, named]
  refine ⟨⟨?_, ?_, ?_⟩, names⟩
  · rw [names]
    exact Agenda.seen_eq_mentionAll (a := ⟨[Path.normalize rootId], []⟩) rfl store.externals
  · rw [Agenda.seen_mentionAll, List.flatMap_singleton]
  · intro i name hi
    change ([store].map (·.document))[i]? = some name at hi
    rw [names, List.getElem?_singleton] at hi
    split at hi
    · exact .inl (Option.some.inj hi).symm
    · cases hi

/-! ## The documents of a project -/

/-- The document of a name: the root, or one of the library. -/
def document? (p : Project) (rootId : String) (root : Document) (name : String) :
    Option Document :=
  if name = Path.normalize rootId then some root else (p.library.resolve name).toOption

/-- The other documents that a document of the project mentions. -/
def mentions (p : Project) (rootId : String) (root : Document) (name : String) : List String :=
  ((p.document? rootId root name).map (·.mentions name)).getD []

/-- A document of the store is compiled from the document of its name. -/
theorem Sources.document?_eq (h : p.Sources rootId root s) {i : Nat} {store : DocumentStore}
    {d : Document} (hi : s.documents[i]? = some store)
    (source : p.Source rootId root i store.document d) :
    p.document? rootId root store.document = some d := by
  rw [Source] at source
  by_cases first : i = 0
  · rw [if_pos first] at source
    rw [document?, if_pos source.1, source.2]
  · rw [if_neg first] at source
    -- only the first document has the name of the root
    have other : store.document ≠ Path.normalize rootId := by
      intro same
      have lt := (List.getElem?_eq_some_iff.1 hi).1
      obtain ⟨top, htop⟩ : ∃ top, s.documents[0]? = some top :=
        ⟨_, List.getElem?_eq_getElem (Nat.zero_lt_of_lt lt)⟩
      obtain ⟨d', source', -⟩ := h.compiled 0 top htop
      have named : top.document = Path.normalize rootId := by
        rw [Source, if_pos rfl] at source'
        exact source'.1
      have twice : (s.documents.map (·.document))[0]? = (s.documents.map (·.document))[i]? := by
        rw [List.getElem?_map, List.getElem?_map, htop, hi, Option.map_some, Option.map_some,
          named, same]
      have short : 0 < (s.documents.map (·.document)).length := by
        rw [List.length_map]
        exact Nat.zero_lt_of_lt lt
      exact first ((List.getElem?_inj short h.names_nodup).1 twice).symm
    rw [document?, if_neg other, source]
    rfl

/-- What a document of the store mentions is what it notes. -/
theorem Sources.mentions_eq (h : p.Sources rootId root s) {store : DocumentStore}
    (hs : store ∈ s.documents) : p.mentions rootId root store.document = store.externals ∧
      ∀ name, name ∈ store.externals ↔
        name ≠ store.document ∧ ∃ target ∈ store.targets, target.document = name := by
  obtain ⟨i, hi⟩ := List.mem_iff_getElem?.1 hs
  obtain ⟨d, source, hc⟩ := h.compiled i store hi
  have externals := Document.externals_of_compile hc
  refine ⟨?_, fun name => ?_⟩
  · rw [mentions, h.document?_eq hi source, Option.map_some, Option.getD_some, externals]
  · rw [externals]
    exact Document.mem_mentions_iff hc

/-- What comes of it when the documents of a project are collected and the library is asked for
the names `asked`. -/
structure Collected (p : Project) (rootId : String) (root : Document) (asked : List String)
    (s : ArtifactStore) : Prop where
  /-- The root document comes first, and behind it each document that the library was asked
  for, in this order. -/
  names : s.documents.map (·.document) = Path.normalize rootId :: asked
  names_nodup : (s.documents.map (·.document)).Nodup
  /-- The documents are those that can be reached from the root, and no others. -/
  reachable : ∀ name, name ∈ s.documents.map (·.document) ↔
    Relation.ReflTransGen (fun name other => other ∈ p.mentions rootId root name)
      (Path.normalize rootId) name
  /-- They come in breadth-first order. -/
  order : ∀ names, BreadthFirst (p.mentions rootId root) (Path.normalize rootId) names ↔
    names = s.documents.map (·.document)
  /-- What a document mentions are the other documents that its cells lead to. -/
  mentions : ∀ d ∈ s.documents, ∀ name, name ∈ p.mentions rootId root d.document ↔
    name ≠ d.document ∧ ∃ target ∈ d.targets, target.document = name
  /-- The documents that references and promises lead to are there. -/
  closed : ∀ d ∈ s.documents, ∀ target ∈ d.targets,
    target.document ∈ s.documents.map (·.document)

/-- **The documents come in breadth-first order.** -/
theorem breadthFirst_of_runs (h : p.Runs rootId root asked (.ok s))
    (sources : p.Sources rootId root s) :
    BreadthFirst (p.mentions rootId root) (Path.normalize rootId)
        (s.documents.map (·.document)) ∧
      s.documents.map (·.document) = Path.normalize rootId :: asked := by
  cases h with
  | started first rest =>
    obtain ⟨gathered, rootFirst⟩ := gathered_compileNext first
    obtain ⟨⟨final, gathered', nothing⟩, names⟩ := rest.gathered gathered
    refine ⟨⟨?_, ?_⟩, ?_⟩
    · have mentioned : (s.documents.map (·.document)).flatMap (p.mentions rootId root) =
          s.documents.flatMap (·.externals) := by
        rw [List.flatMap_map]
        exact List.flatMap_congr fun d hd => (sources.mentions_eq hd).1
      have seen := gathered'.seen
      rw [nothing, List.append_nil] at seen
      rw [mentioned, ← List.singleton_append,
        ← noted_eq_eraseDups (List.nodup_singleton _), ← gathered'.order, seen]
    · intro i name hi
      refine (gathered'.earlier i name hi).imp_right fun ⟨d, hd, mention⟩ => ?_
      refine ⟨d.document, ?_, ?_⟩
      · rw [← List.map_take]
        exact List.mem_map_of_mem hd
      · rw [(sources.mentions_eq (List.mem_of_mem_take hd)).1]
        exact mention
    · rw [names, rootFirst]
      rfl

/-- **A project collects what can be reached, each document once.**  There is exactly one run,
and it comes to what the project compiles to.  If that is a store, its first document is the root,
its documents are those that can be reached from the root by following references and promises, in
breadth-first order of first mention; the library was asked for each of them but the root, once
and in this order; and every document that a reference or a promise leads to is in the store. -/
theorem compile_collects (p : Project) (rootId : String) (root : Document) :
    ∃ asked, (∀ asked' r, p.Runs rootId root asked' r ↔
        asked' = asked ∧ r = p.compile rootId root) ∧
      ∀ s, p.compile rootId root = .ok s → p.Collected rootId root asked s := by
  obtain ⟨asked, run⟩ := exists_runs_compile p rootId root
  refine ⟨asked, fun asked' r => ⟨fun run' => run'.unique run, ?_⟩, fun s h => ?_⟩
  · rintro ⟨rfl, rfl⟩
    exact run
  · have sources := sources_of_compile h
    rw [h] at run
    obtain ⟨order, names⟩ := breadthFirst_of_runs run sources
    refine ⟨names, order.nodup, fun _ => order.mem_iff, fun others => ?_, ?_, ?_⟩
    · exact ⟨fun order' => order'.unique order, fun same => same ▸ order⟩
    · intro d hd name
      rw [(sources.mentions_eq hd).1]
      exact (sources.mentions_eq hd).2 name
    · intro d hd target ht
      by_cases own : target.document = d.document
      · rw [own]
        exact List.mem_map_of_mem hd
      · refine order.mem_of_mentions (List.mem_map_of_mem hd) ?_
        rw [(sources.mentions_eq hd).1, (sources.mentions_eq hd).2]
        exact ⟨own, target, ht, rfl⟩

/-- The library that holds the documents of a table. -/
def ofTable (documents : Table Document) : Library where
  resolve name := (documents.get? name).elim (.error (.notFound name)) .ok
  size := documents.keys.length
  length_le_size names distinct found := by
    refine distinct.length_le_of_subset fun name member => ?_
    obtain ⟨d, hd⟩ := found name member
    cases present : documents.get? name with
    | none => rw [present] at hd; cases hd
    | some d' => exact Table.mem_keys_of_get? present

/-- A document whose channels are references. -/
def pointing (references : List String) : Document where
  channels := references.map fun reference => (reference, { reference := some reference })

/-- Two documents that refer to one another, and a third one that refers to itself. -/
def circle : Project where
  settings := {}
  library := ofTable [("a", pointing ["b#/channels", "c"]), ("b", pointing ["./a#", "main#/info"]),
    ("c", pointing ["#/info"]), ("d", {})]

/-- The root document refers to itself, to `b` and to `a`, by different spellings. -/
def circleRoot : Document :=
  pointing ["#/info", "x/../b#/channels", "a#/info", "./b"]

/-- The circle is collected from `main`, once around; `d` is left out, which nothing mentions. -/
theorem compile_collects_circle : ∃ s, circle.compile "./main" circleRoot = .ok s ∧
    s.documents.map (·.document) = ["main", "b", "a", "c"] ∧
    circle.Collected "./main" circleRoot ["b", "a", "c"] s := by
  have compiled : (circle.compile "./main" circleRoot).toOption.map
      (fun s => s.documents.map (·.document)) = some ["main", "b", "a", "c"] := by decide +kernel
  cases h : circle.compile "./main" circleRoot with
  | error e => rw [h] at compiled; cases compiled
  | ok s =>
    rw [h] at compiled
    have names : s.documents.map (·.document) = ["main", "b", "a", "c"] :=
      Option.some.inj compiled
    obtain ⟨asked, -, collected⟩ := compile_collects circle "./main" circleRoot
    have asked_eq := (collected s h).names
    rw [names] at asked_eq
    obtain rfl := (List.cons.inj asked_eq).2
    exact ⟨s, rfl, names, collected s h⟩

end Project
end ApiGraph
