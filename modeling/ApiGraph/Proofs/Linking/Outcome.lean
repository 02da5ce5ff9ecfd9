/-
# What linking comes to

A store is linkable if every query is answered, no reference leads back to itself, every
transform succeeds and every edge ends at what it is expected to end at.  Linking succeeds
on exactly these stores.  It breaks down on those where a transform leads out of the store,
and on any other it fails with one error for each culprit of the store (`link_outcome`).

In a linked store every cell is bound, to what its query and its transform say
(`exists_binding_reference`, `exists_binding_promise`, `exists_binding_list`), and nothing
else has changed.
-/

import ApiGraph.Graph
import ApiGraph.Proofs.Correspondence
import ApiGraph.Proofs.Linking.Faults

namespace ApiGraph

open Relation (ReflTransGen TransGen)
open Linking

namespace ArtifactStore

/-- Every edge of the store leads to what it is expected to lead to. -/
structure Linkable (s : ArtifactStore) : Prop where
  /-- There is an artifact at the target of every reference. -/
  targets_held : ∀ cell slot, s.reference? cell = some slot → s.Holds slot.target
  /-- There is one at the target of every promise of a path. -/
  paths_held : ∀ cell p target, s.promise? cell = some p → p.query = .path target →
    s.Holds target
  /-- The condition of a promise holds of one artifact, and of no other. -/
  conditions_unique : ∀ cell p description accepts, s.promise? cell = some p →
    p.query = .condition description accepts →
    ∃! id, ∃ a, s.catalog.get? id = some a ∧ accepts a = true
  /-- References do not lead back to themselves. -/
  acyclic : ∀ id, ¬ TransGen s.Leads id id
  /-- No transform refuses. -/
  transforms_succeed : ∀ cell p f raw, s.promise? cell = some p → p.transform = some f →
    s.Answers p.query raw → ∃ id, f (view s) raw = .ok id
  /-- A reference ends at what it is expected to end at. -/
  references_accepted : ∀ cell slot raw, s.reference? cell = some slot →
    s.Answers (.path slot.target) raw → ∃ t a, s.EndsAt raw t a ∧ slot.expects.accepts a = true
  /-- So does a promise. -/
  promises_accepted : ∀ cell p id, s.promise? cell = some p → s.Candidate p id →
    ∃ t a, s.EndsAt id t a ∧ p.expects.accepts a = true
  /-- So does every hit of a promise of several artifacts. -/
  hits_accepted : ∀ cell l id b, s.list? cell = some l → s.catalog.get? id = some b →
    l.accepts b = true → ∃ t a, s.EndsAt id t a ∧ l.expects.accepts a = true

variable {s t : ArtifactStore} {id : ArtifactId} {cell : CellId}

/-! ## Nobody is at fault in a linkable store -/

/-- What is expected at the end of an edge and what is refused there are not the same. -/
theorem WellFormed.not_refused (hs : s.WellFormed) {expects : Expectation} {u : ArtifactId}
    {b : Artifact} (accepted : ∃ t a, s.EndsAt id t a ∧ expects.accepts a = true)
    (ends : s.EndsAt id u b) : ¬ expects.accepts b = false := by
  obtain ⟨t, a, ends', hacc⟩ := accepted
  obtain ⟨rfl, rfl⟩ := hs.endsAt_unique ends ends'
  simp [hacc]

/-- The head of a cycle leads back to itself. -/
theorem IsCycle.transGen (hs : s.WellFormed) {members : List ArtifactId}
    (cycle : s.IsCycle members) (head : members.head? = some id) : TransGen s.Leads id id := by
  obtain ⟨xs, rfl⟩ := List.head?_eq_some_iff.1 head
  obtain ⟨-, w, -⟩ := hs.isCycle_cons_iff.1 cycle
  exact hs.step_view ▸ w.transGen

/-- There is no culprit in a linkable store. -/
theorem Linkable.not_reports (h : s.Linkable) (hs : s.WellFormed) {c : Culprit} {e : LinkError} :
    ¬ s.Reports c e := by
  intro hr
  cases hr with
  | missing hslot none => exact none (h.targets_held _ _ hslot)
  | notFound hp hq none => exact none (h.paths_held _ _ _ hp hq)
  | noMatch hp hq none =>
    obtain ⟨id, ⟨a, ha, hacc⟩, -⟩ := h.conditions_unique _ _ _ _ hp hq
    rw [none id a ha] at hacc
    cases hacc
  | @ambiguous _ _ _ _ ids hp hq distinct mem many =>
    obtain ⟨id, -, only⟩ := h.conditions_unique _ _ _ _ hp hq
    have sub : ids ⊆ [id] := fun i hi => List.mem_singleton.2 (only i ((mem i).1 hi))
    have := distinct.length_le_of_subset sub
    rw [List.length_singleton] at this
    omega
  | cycle hcycle head ha => exact h.acyclic _ (hcycle.transGen hs head)
  | reference hslot hraw ends hacc =>
    exact hs.not_refused (h.references_accepted _ _ _ hslot hraw) ends hacc
  | transform hp hraw hf herr =>
    obtain ⟨id, hid⟩ := h.transforms_succeed _ _ _ _ hp hf hraw
    rw [herr] at hid
    cases hid
  | promise hp hcand ends hacc =>
    exact hs.not_refused (h.promises_accepted _ _ _ hp hcand) ends hacc
  | hit hl hb accepted ends hacc =>
    exact hs.not_refused (h.hits_accepted _ _ _ _ hl hb accepted) ends hacc

/-! ## A store without culprits is linkable -/

/-- The number of a cycle's least member finds an artifact. -/
theorem IsCycle.exists_reports (hs : s.WellFormed) {members : List ArtifactId}
    (cycle : s.IsCycle members) : ∃ e, s.Reports (.cycle members) e := by
  obtain ⟨first, _, head, -, -, -⟩ := cycle.closed
  obtain ⟨next, hnext, -⟩ := TransGen.head'_iff.1 (cycle.transGen hs head)
  obtain ⟨a, -, -, -, ha, -⟩ := hnext
  exact ⟨_, .cycle cycle head ha⟩

/-- **Where nobody is at fault every chain ends.**  A chain that does not end breaks off at a
slot whose target is missing, or runs into a cycle. -/
theorem WellFormed.exists_endsAt (hs : s.WellFormed) (clean : ∀ c e, ¬ s.Reports c e)
    (present : (s.catalog.get? id).isSome) : ∃ t a, s.EndsAt id t a := by
  cases h : (view s).follow id with
  | ok t => exact ⟨t, hs.follow_eq_ok_iff.1 h⟩
  | error e =>
    exfalso
    rcases View.exists_of_follow_error hs.closed_view present h with ⟨d, -, hd⟩ | ⟨c, -, hc⟩
    · obtain ⟨a, r, ha, hr, unbound⟩ := hd
      obtain ⟨slot, hslot, -⟩ := hs.slot_of_reference d a r ha hr
      rw [bound_view, hslot, Option.bind_some, ← Option.not_isSome_iff_eq_none,
        hs.isSome_find?_iff] at unbound
      exact clean _ _ (.missing hslot unbound)
    · rw [hs.step_view] at hc
      obtain ⟨members, cycle⟩ := hs.exists_isCycle hc
      obtain ⟨e, he⟩ := cycle.exists_reports hs
      exact clean _ _ he

/-- **A store is linkable if nobody is at fault** and no transform leads out of it.  For what is
missing or refused somewhere, somebody is to blame. -/
theorem WellFormed.linkable_of_clean (hs : s.WellFormed) (inside : ∀ id, ¬ s.Astray id)
    (clean : ∀ c e, ¬ s.Reports c e) : s.Linkable where
  targets_held cell slot hslot := by
    by_contra none
    exact clean _ _ (.missing hslot none)
  paths_held cell p target hp hq := by
    by_contra none
    exact clean _ _ (.notFound hp hq none)
  conditions_unique cell p description accepts hp hq := by
    have mem : ∀ i, i ∈ s.catalog.select accepts ↔
        ∃ a, s.catalog.get? i = some a ∧ accepts a = true :=
      fun _ => Catalog.mem_select_iff hs.numbered.catalog
    have distinct := Catalog.nodup_select hs.numbered.catalog accepts
    generalize s.catalog.select accepts = ids at mem distinct
    rcases ids with _ | ⟨x, _ | ⟨y, rest⟩⟩
    · refine absurd (Reports.noMatch hp hq fun id a ha => ?_) (clean _ _)
      by_contra hacc
      exact List.not_mem_nil ((mem id).2 ⟨a, ha, by simpa using hacc⟩)
    · exact ⟨x, (mem x).1 (List.mem_singleton_self x),
        fun i hi => List.mem_singleton.1 ((mem i).2 hi)⟩
    · exact absurd (Reports.ambiguous hp hq distinct mem (by simp)) (clean _ _)
  acyclic id hid := by
    obtain ⟨members, cycle⟩ := hs.exists_isCycle hid
    obtain ⟨e, he⟩ := cycle.exists_reports hs
    exact clean _ _ he
  transforms_succeed cell p f raw hp hf hraw := by
    cases h : f (view s) raw with
    | ok id => exact ⟨id, rfl⟩
    | error reason => exact absurd (Reports.transform hp hraw hf h) (clean _ _)
  references_accepted cell slot raw hslot hraw := by
    obtain ⟨t, a, ends⟩ := hs.exists_endsAt clean hraw.isSome_get?
    refine ⟨t, a, ends, ?_⟩
    by_contra hacc
    exact clean _ _ (.reference hslot hraw ends (by simpa using hacc))
  promises_accepted cell p id hp hcand := by
    obtain ⟨t, a, ends⟩ := hs.exists_endsAt clean (hcand.isSome_get? hp (inside id))
    refine ⟨t, a, ends, ?_⟩
    by_contra hacc
    exact clean _ _ (.promise hp hcand ends (by simpa using hacc))
  hits_accepted cell l id b hl hb accepted := by
    obtain ⟨t, a, ends⟩ := hs.exists_endsAt clean (by rw [hb]; rfl)
    refine ⟨t, a, ends, ?_⟩
    by_contra hacc
    exact clean _ _ (.hit hl hb accepted ends (by simpa using hacc))

/-- In a linkable store no transform leads out of it. -/
theorem Linkable.not_astray (h : s.Linkable) : ¬ s.Astray id := by
  rintro ⟨cell, p, hp, candidate, absent⟩
  obtain ⟨t, a, ends, -⟩ := h.promises_accepted cell p id hp candidate
  rcases ReflTransGen.cases_head ends.reaches with rfl | ⟨next, ⟨b, -, -, -, hb, -⟩, -⟩
  · simpa [absent] using ends.artifact
  · simp [absent] at hb

/-- **The linkable stores** are those where nobody is at fault and no transform leads out. -/
theorem WellFormed.linkable_iff (hs : s.WellFormed) :
    s.Linkable ↔ (∀ id, ¬ s.Astray id) ∧ ∀ c e, ¬ s.Reports c e :=
  ⟨fun h => ⟨fun _ => h.not_astray, fun _ _ => h.not_reports hs⟩,
    fun ⟨inside, clean⟩ => hs.linkable_of_clean inside clean⟩

/-! ## The run -/

/-- No cell is bound before linking binds it. -/
theorem boundBefore?_eq_none (hs : s.Numbered) (hu : s.Unbound) (f : Findings) :
    boundBefore? f s = none := by
  rw [boundBefore?, Option.or_eq_none_iff, Option.or_eq_none_iff]
  refine ⟨List.findSome?_eq_none_iff.2 fun x hx => ?_, List.findSome?_eq_none_iff.2 fun x hx => ?_,
    List.findSome?_eq_none_iff.2 fun x hx => ?_⟩
  · simp [hu.references x.1 x.2 ((mem_references_iff hs).1 hx)]
  · simp [hu.promises x.1 x.2 ((mem_promises_iff hs).1 hx)]
  · simp [hu.lists x.1 x.2 ((mem_lists_iff hs).1 hx)]

/-- What linking comes to, by what it finds. -/
theorem link_eq (hs : s.Numbered) (hu : s.Unbound) :
    s.link = match (findings s).astray, (findings s).errors with
      | some id, _ => .astray id
      | none, [] => .linked ⟨s.documents.map (assignDocument (findings s))⟩
      | none, errors => .failed errors := by
  rw [link, run]
  cases (findings s).astray with
  | some id => rfl
  | none =>
    cases (findings s).errors with
    | nil => simp only [boundBefore?_eq_none hs hu]
    | cons e rest => rfl

/-- A run succeeds if it finds nothing wrong. -/
theorem link_eq_linked_iff (hs : s.Numbered) (hu : s.Unbound) :
    s.link = .linked t ↔ (findings s).astray = none ∧ (findings s).errors = [] ∧
      t = ⟨s.documents.map (assignDocument (findings s))⟩ := by
  rw [link_eq hs hu]
  cases (findings s).astray <;> cases (findings s).errors <;> simp [eq_comm]

/-- A run that does not break down finds no error exactly in a linkable store. -/
theorem WellFormed.linkable_iff_findings (hs : s.WellFormed) :
    s.Linkable ↔ (findings s).astray = none ∧ (findings s).errors = [] := by
  obtain ⟨culprits, -, -, each, complete⟩ := accounts_findings hs
  rw [hs.linkable_iff, hs.astray_eq_none_iff]
  refine and_congr_right fun _ => ⟨fun clean => ?_, fun none c e hr => ?_⟩
  · generalize (findings s).errors = errors at each
    cases each with
    | nil => rfl
    | cons hr _ => exact absurd hr (clean _ _)
  · rw [none, List.forall₂_nil_right_iff] at each
    exact List.not_mem_nil (each ▸ complete c e trivial hr)

/-- **Linking succeeds exactly on linkable stores, breaks down exactly where a transform leads out
of the store, and otherwise reports everything that is at fault.**  The errors are those of the
culprits of the store: each culprit has one, and every error has its culprit. -/
theorem link_outcome (hs : s.WellFormed) (hu : s.Unbound) :
    ((∃ t, s.link = .linked t) ↔ s.Linkable) ∧
      ((∃ id, s.link = .astray id) ↔ ∃ id, s.Astray id) ∧
      (∀ id, s.link = .astray id → s.Astray id) ∧
      (¬ s.Linkable → (∀ id, ¬ s.Astray id) →
        ∃ errors culprits, s.link = .failed errors ∧ errors ≠ [] ∧
          List.Forall₂ s.Reports culprits errors ∧ culprits.Nodup ∧
          ∀ c e, s.Reports c e → c ∈ culprits) := by
  obtain ⟨culprits, distinct, -, each, complete⟩ := accounts_findings hs
  have outside := hs.astray_eq_none_iff
  rw [link_eq hs.numbered hu, hs.linkable_iff_findings, ← outside]
  cases ha : (findings s).astray with
  | some id =>
    have astray := hs.astray_of_findings ha
    exact ⟨by simp, ⟨fun _ => ⟨id, astray⟩, fun _ => ⟨id, rfl⟩⟩,
      fun id' same => Outcome.astray.inj same ▸ astray, by simp⟩
  | none =>
    have inside := outside.1 ha
    cases h : (findings s).errors with
    | nil => simp [inside]
    | cons e rest =>
      refine ⟨by simp, by simp [inside], by simp, fun _ _ => ⟨e :: rest, culprits, ?_⟩⟩
      exact ⟨rfl, by simp, h ▸ each, distinct, fun c e hr => complete c e trivial hr⟩

/-- An error of a run is that of a culprit. -/
theorem exists_reports_of_failed (hs : s.WellFormed) (hu : s.Unbound) {errors : List LinkError}
    (h : s.link = .failed errors) {e : LinkError} (he : e ∈ errors) : ∃ c, s.Reports c e := by
  obtain ⟨culprits, -, -, each, -⟩ := accounts_findings hs
  rw [link_eq hs.numbered hu] at h
  split at h <;> cases h
  obtain ⟨c, -, hr⟩ := exists_left_of_forall₂ each he
  exact ⟨c, hr⟩

/-- A linkable store is linked. -/
theorem Linkable.exists_linked (h : s.Linkable) (hs : s.WellFormed) (hu : s.Unbound) :
    ∃ t, s.link = .linked t := by
  obtain ⟨inside, clean⟩ := hs.linkable_iff_findings.1 h
  exact ⟨_, (link_eq_linked_iff hs.numbered hu).2 ⟨inside, clean, rfl⟩⟩

/-- A transform that leads to what is at the location. -/
def instead (l : Location) : Transform := fun v _ =>
  match v.find l with
  | some id => .ok id
  | none => .error "sibling missing"

/-- One reference, to a place where nothing is, and a promise that is led to it. -/
def dangling : ArtifactStore where
  documents := [{
    index := 0, document := "a"
    artifacts := #[{
      name := "from", kind := .schema, location := ⟨"a", ["from"]⟩
      body := .reference {
        slot := ⟨0, 0⟩, target := ⟨"a", ["to"]⟩
        nameOverride := none, selectableOverride := none } }]
    references := #[{
      origin := ⟨"a", ["from"]⟩, target := ⟨"a", ["to"]⟩, expects := .kind .schema }]
    promises := #[{
      origin := ⟨"a", []⟩, query := .condition "anything" fun _ => true
      expects := .entity .server, transform := some (instead ⟨"a", ["from"]⟩) }] }]

/-- It leads to what the store has. -/
theorem isSome_get?_of_instead {s : ArtifactStore} (h : s.Numbered) {l : Location}
    {raw : ArtifactId} (led : instead l (view s) raw = .ok id) : (s.catalog.get? id).isSome := by
  rw [instead, find_view] at led
  split at led
  · cases led
    obtain ⟨a, ha, -⟩ := Catalog.exists_of_find? h.catalog ‹_›
    rw [ha]
    rfl
  · cases led

/-- Its one document stands under its number. -/
theorem numbered_dangling : dangling.Numbered := by
  rintro (_ | i) d h
  · cases h; rfl
  · cases h

/-- It is well formed: the slot has its own reference. -/
theorem wellFormed_dangling : dangling.WellFormed where
  numbered := numbered_dangling
  located := by
    constructor <;> simp [dangling, catalog]
  slot_of_reference := by
    rintro ⟨_ | m, _ | n⟩ a r ha hr <;> simp [dangling, catalog, Catalog.get?] at ha
    subst ha
    cases hr
    exact ⟨_, rfl, rfl⟩
  reference_of_slot := by
    rintro ⟨_ | m, _ | n⟩ slot h <;> simp [dangling, reference?] at h
    subst h
    exact ⟨⟨0, 0⟩, _, _, rfl, rfl, rfl, rfl⟩

/-- None of its cells is bound. -/
theorem unbound_dangling : dangling.Unbound where
  references := by
    rintro ⟨_ | m, _ | n⟩ slot h <;> simp [dangling, reference?] at h
    subst h
    rfl
  promises := by
    rintro ⟨_ | m, _ | n⟩ p h <;> simp [dangling, promise?] at h
    subst h
    rfl
  lists := by
    rintro ⟨_ | m, n⟩ l h <;> simp [dangling, list?] at h

/-- The promise is led to the reference, which is there. -/
theorem not_astray_dangling : ¬ dangling.Astray id := by
  rintro ⟨⟨_ | m, _ | n⟩, p, hp, ⟨raw, -, led⟩, absent⟩ <;> simp [dangling, promise?] at hp
  subst hp
  simpa [absent] using isSome_get?_of_instead numbered_dangling led

/-- The run on it fails, with the one error that nothing is there: the promise breaks off
inside the reference. -/
theorem link_outcome_dangling : dangling.WellFormed ∧ dangling.Unbound ∧
    ¬ dangling.Linkable ∧ (∀ id, ¬ dangling.Astray id) ∧
    ∃ errors culprits, dangling.link = .failed errors ∧ errors ≠ [] ∧
      List.Forall₂ dangling.Reports culprits errors ∧ culprits.Nodup ∧
      ∀ c e, dangling.Reports c e → c ∈ culprits := by
  obtain ⟨-, -, -, outcome⟩ := link_outcome wellFormed_dangling unbound_dangling
  have faulty : ¬ dangling.Linkable := by
    intro linkable
    obtain ⟨⟨_ | m, _ | n⟩, a, ha, hl⟩ := linkable.targets_held ⟨0, 0⟩ _ rfl <;>
      simp [dangling, catalog, Catalog.get?] at ha
    subst ha
    exact absurd hl (by decide)
  have inside : ∀ id, ¬ dangling.Astray id := fun _ => not_astray_dangling
  exact ⟨wellFormed_dangling, unbound_dangling, faulty, inside, outcome faulty inside⟩

/-- A transform that has a number of its own. -/
def always (id : ArtifactId) : Transform := fun _ _ => .ok id

/-- One artifact, and a promise of it that is led to a second document, which is not in the
store. -/
def strayed : ArtifactStore where
  documents := [{
    index := 0, document := "a"
    artifacts := #[{
      name := "key", kind := .other, location := ⟨"a", ["key"]⟩, body := .correlationId {} }]
    promises := #[{
      origin := ⟨"a", []⟩, query := .path ⟨"a", ["key"]⟩, expects := .entity .correlationId
      transform := some (always ⟨1, 0⟩) }] }]

/-- It is well formed, since that says nothing of transforms. -/
theorem wellFormed_strayed : strayed.WellFormed where
  numbered := by
    rintro (_ | i) d h
    · cases h; rfl
    · cases h
  located := by
    constructor <;> simp [strayed, catalog]
  slot_of_reference := by
    rintro ⟨_ | m, _ | n⟩ a r ha hr <;> simp [strayed, catalog, Catalog.get?] at ha
    subst ha
    cases hr
  reference_of_slot := by
    rintro ⟨_ | m, n⟩ slot h <;> simp [strayed, reference?] at h

/-- Its promise is not bound. -/
theorem unbound_strayed : strayed.Unbound where
  references := by
    rintro ⟨_ | m, n⟩ slot h <;> simp [strayed, reference?] at h
  promises := by
    rintro ⟨_ | m, _ | n⟩ p h <;> simp [strayed, promise?] at h
    subst h
    rfl
  lists := by
    rintro ⟨_ | m, n⟩ l h <;> simp [strayed, list?] at h

/-- The promise asks for an artifact, and is led to none. -/
theorem astray_strayed : strayed.Astray ⟨1, 0⟩ :=
  ⟨⟨0, 0⟩, _, rfl, ⟨⟨0, 0⟩, ⟨_, rfl, rfl⟩, rfl⟩, rfl⟩

/-- **Linking need not come to an answer.**  It does not succeed on every store that is linkable
and fail with errors on every other: on this one it does neither. -/
theorem not_forall_linked_or_failed : ¬ ∀ s : ArtifactStore, s.WellFormed → s.Unbound →
    ((∃ t, s.link = .linked t) ↔ s.Linkable) ∧
      (¬ s.Linkable → ∃ errors culprits, s.link = .failed errors ∧ errors ≠ [] ∧
        List.Forall₂ s.Reports culprits errors ∧ culprits.Nodup ∧
        ∀ c e, s.Reports c e → c ∈ culprits) := by
  intro claim
  obtain ⟨-, fails⟩ := claim strayed wellFormed_strayed unbound_strayed
  obtain ⟨errors, -, failed, -⟩ := fails fun linkable => linkable.not_astray astray_strayed
  rw [link_eq wellFormed_strayed.numbered unbound_strayed] at failed
  cases found : (findings strayed).astray with
  | some id => rw [found] at failed; cases failed
  | none => exact wellFormed_strayed.astray_eq_none_iff.1 found _ astray_strayed

/-! ## The linked store -/

/-- A cell that is listed with one value only has this value. -/
theorem lookup_eq_some {α : Type} {xs : List (CellId × α)} {x : α} (h : (cell, x) ∈ xs)
    (only : ∀ y, (cell, y) ∈ xs → y = x) : lookup xs cell = some x := by
  obtain ⟨⟨cell', y⟩, hy⟩ := Option.isSome_iff_exists.1
    (List.find?_isSome (p := fun e : CellId × α => e.1 == cell) |>.2 ⟨_, h, by simp⟩)
  obtain rfl : cell' = cell := by simpa using List.find?_some hy
  rw [lookup, hy, Option.map_some, only y (List.mem_of_find?_eq_some hy)]

/-- The results are what was found without an error. -/
theorem mem_results {α : Type} {found : List (Finding α)} {x : α} :
    (cell, x) ∈ results found ↔ (cell, .ok x) ∈ found := by
  simp only [results, List.mem_filterMap, Prod.exists]
  constructor
  · rintro ⟨_, r | y, h, he⟩
    · cases he
    · cases he; exact h
  · exact fun h => ⟨cell, .ok x, h, rfl⟩

/-- Only what was accepted is a result. -/
theorem judged_eq_ok_iff {verdict : Verdict} {x : ArtifactId} :
    judged verdict id = some (.ok x) ↔ verdict = .accepted ∧ id = x := by
  cases verdict <;> simp [judged]

/-- A reference is bound to the artifact at its target if this is accepted. -/
theorem mem_narrowReferences_ok {v : View} {x : ArtifactId} :
    (cell, .ok x) ∈ narrowReferences v s ↔ ∃ slot, (cell, slot) ∈ s.references ∧
      v.bound cell = some x ∧ check v slot.expects slot.origin x = .accepted := by
  simp only [narrowReferences, List.mem_filterMap, Prod.exists, Option.bind_eq_bind,
    Option.bind_eq_some_iff, Option.pure_def, Option.some.injEq, Prod.mk.injEq]
  constructor
  · rintro ⟨_, slot, hx, raw, hraw, _, hj, rfl, rfl⟩
    obtain ⟨accepted, rfl⟩ := judged_eq_ok_iff.1 hj
    exact ⟨slot, hx, hraw, accepted⟩
  · rintro ⟨slot, hx, hraw, accepted⟩
    exact ⟨cell, slot, hx, x, hraw, .ok x, judged_eq_ok_iff.2 ⟨accepted, rfl⟩, rfl, rfl⟩

/-- A promise is bound to the transformed answer of its query if this is accepted. -/
theorem mem_narrowPromises_ok {v : View} {x : ArtifactId} :
    (cell, .ok x) ∈ narrowPromises v s ↔ ∃ p raw, (cell, p) ∈ s.promises ∧
      ask v p.query = some raw ∧ transformed v p raw = .ok x ∧
      check v p.expects p.origin x = .accepted := by
  simp only [narrowPromises, List.mem_filterMap, Prod.exists, Option.bind_eq_bind,
    Option.bind_eq_some_iff]
  constructor
  · rintro ⟨_, p, hx, raw, hraw, he⟩
    split at he
    · simp at he
    · rename_i candidate ht
      obtain ⟨_, hj, he⟩ := Option.bind_eq_some_iff.1 he
      cases he
      obtain ⟨accepted, rfl⟩ := judged_eq_ok_iff.1 hj
      exact ⟨p, raw, hx, hraw, ht, accepted⟩
  · rintro ⟨p, raw, hx, hraw, ht, accepted⟩
    refine ⟨cell, p, hx, raw, hraw, ?_⟩
    rw [ht]
    simp only [judged_eq_ok_iff.2 ⟨accepted, rfl⟩, Option.bind_some]
    rfl

/-- An edge was accepted at its end. -/
def Verdict.isAccepted : Verdict → Bool
  | .accepted => true
  | _ => false

/-- The hits of a promise of several artifacts that were accepted. -/
def hitsOf (v : View) (l : ListCell) : List ArtifactId :=
  (v.catalog.select l.accepts).filter fun id => Verdict.isAccepted (check v l.expects l.origin id)

/-- A list is bound to the hits that are accepted. -/
theorem results_narrowLists (v : View) (s : ArtifactStore) :
    results (narrowLists v s) = s.lists.flatMap fun x => (hitsOf v x.2).map (x.1, ·) := by
  rw [results, narrowLists, List.filterMap_flatMap]
  congr 1
  funext x
  obtain ⟨cell, l⟩ := x
  rw [List.filterMap_filterMap, hitsOf, ← List.filterMap_eq_filter, List.map_filterMap]
  congr 1
  funext id
  cases hv : check v l.expects l.origin id <;> simp [judged, Verdict.isAccepted, Option.guard, hv]

/-- What is under a key that only one block has is this block. -/
theorem lookupAll_flatMap {α γ : Type} {xs : List (CellId × γ)}
    (distinct : (xs.map Prod.fst).Nodup) (f : CellId × γ → List α) {y : γ}
    (mem : (cell, y) ∈ xs) :
    lookupAll (xs.flatMap fun x => (f x).map (x.1, ·)) cell = f (cell, y) := by
  have none : ∀ x : CellId × γ, x.1 ≠ cell →
      ((f x).map (x.1, ·)).filter (fun p : CellId × α => p.1 == cell) = [] := by
    intro x differ
    simp [List.filter_eq_nil_iff, differ]
  induction xs with
  | nil => cases mem
  | cons x rest ih =>
    obtain ⟨fresh, distinct⟩ := List.nodup_cons.1 distinct
    rw [lookupAll, List.flatMap_cons, List.filter_append, List.map_append]
    rcases List.mem_cons.1 mem with rfl | mem
    · have later : (rest.flatMap fun x => (f x).map (x.1, ·)).filter
          (fun p : CellId × α => p.1 == cell) = [] := by
        rw [List.filter_flatMap, List.flatMap_eq_nil_iff]
        intro x hx
        exact none x fun same => fresh (List.mem_map.2 ⟨x, hx, same⟩)
      rw [later]
      simp [List.filter_map, Function.comp_def]
    · rw [none x fun same => fresh (List.mem_map.2 ⟨_, mem, same.symm⟩)]
      exact ih distinct mem

section Linked

variable (hs : s.WellFormed) (hu : s.Unbound) (h : s.link = .linked t)

include hs hu h

/-- What was linked was linkable. -/
theorem linkable_of_linked : s.Linkable := by
  obtain ⟨inside, clean, -⟩ := (link_eq_linked_iff hs.numbered hu).1 h
  exact hs.linkable_iff_findings.2 ⟨inside, clean⟩

/-- Linking assigns its findings to the cells of every document. -/
theorem documents_of_linked : t.documents = s.documents.map (assignDocument (findings s)) := by
  obtain ⟨-, -, rfl⟩ := (link_eq_linked_iff hs.numbered hu).1 h
  rfl

/-- Linking changes no artifact. -/
theorem catalog_of_linked : t.catalog = s.catalog := by
  rw [catalog, documents_of_linked hs hu h, List.map_map]
  rfl

/-- A reference is bound to what is at its target. -/
theorem exists_binding_reference {slot : ReferenceSlot} (hslot : s.reference? cell = some slot) :
    ∃ raw, s.Answers (.path slot.target) raw ∧
      t.reference? cell = some { slot with binding := some raw } := by
  have linkable := linkable_of_linked hs hu h
  obtain ⟨raw, hraw⟩ : ∃ raw, s.Answers (.path slot.target) raw :=
    linkable.targets_held cell slot hslot
  have bound := (hs.bound_eq_some_iff hslot).2 hraw
  have found : lookup (findings s).references cell = some raw := by
    refine lookup_eq_some (mem_results.2 (mem_narrowReferences_ok.2 ⟨slot, ?_, bound, ?_⟩)) ?_
    · exact (mem_references_iff hs.numbered).2 hslot
    · exact hs.check_eq_accepted_iff.2 (linkable.references_accepted cell slot raw hslot hraw)
    · intro y hy
      obtain ⟨-, -, hy, -⟩ := mem_narrowReferences_ok.1 (mem_results.1 hy)
      exact Option.some.inj (hy.symm.trans bound)
  refine ⟨raw, hraw, ?_⟩
  obtain ⟨d, hd, hi⟩ := Option.bind_eq_some_iff.1 hslot
  have number : CellId.mk d.index cell.index = cell := by rw [hs.numbered _ _ hd]
  simp only [reference?, documents_of_linked hs hu h, List.getElem?_map, hd, Option.map_some,
    Option.bind_some, assignDocument, Array.getElem?_mapIdx, hi, number, found, Option.some_or]

/-- A promise is bound to what its transform makes of what its query asks for. -/
theorem exists_binding_promise {p : PromiseCell} (hp : s.promise? cell = some p) :
    ∃ x, s.Candidate p x ∧ t.promise? cell = some { p with binding := some x } := by
  have linkable := linkable_of_linked hs hu h
  obtain ⟨raw, hraw⟩ : ∃ raw, s.Answers p.query raw := by
    cases hq : p.query with
    | path target => exact linkable.paths_held cell p target hp hq
    | condition description accepts =>
      obtain ⟨raw, hraw, only⟩ := linkable.conditions_unique cell p description accepts hp hq
      exact ⟨raw, fun i => ⟨fun e => e ▸ hraw, only i⟩⟩
  obtain ⟨x, hx⟩ : ∃ x, s.Candidate p x := by
    cases hf : p.transform with
    | none => exact ⟨raw, raw, hraw, by rw [hf]⟩
    | some f =>
      obtain ⟨x, hx⟩ := linkable.transforms_succeed cell p f raw hp hf hraw
      exact ⟨x, raw, hraw, by rw [hf]; exact hx⟩
  obtain ⟨raw, asked, passes⟩ := hs.candidate_iff.1 hx
  have found : lookup (findings s).promises cell = some x := by
    refine lookup_eq_some (mem_results.2 (mem_narrowPromises_ok.2
      ⟨p, raw, (mem_promises_iff hs.numbered).2 hp, asked, passes, ?_⟩)) ?_
    · exact hs.check_eq_accepted_iff.2 (linkable.promises_accepted cell p x hp hx)
    · intro y hy
      obtain ⟨p', raw', hp', asked', passes', -⟩ := mem_narrowPromises_ok.1 (mem_results.1 hy)
      obtain rfl := Option.some.inj (hp.symm.trans ((mem_promises_iff hs.numbered).1 hp'))
      obtain rfl := Option.some.inj (asked.symm.trans asked')
      exact Except.ok.inj (passes'.symm.trans passes)
  refine ⟨x, hx, ?_⟩
  obtain ⟨d, hd, hi⟩ := Option.bind_eq_some_iff.1 hp
  have number : CellId.mk d.index cell.index = cell := by rw [hs.numbered _ _ hd]
  simp only [promise?, documents_of_linked hs hu h, List.getElem?_map, hd, Option.map_some,
    Option.bind_some, assignDocument, Array.getElem?_mapIdx, hi, number, found, Option.some_or]

/-- A promise of several artifacts is bound to all that its condition selects, in this order. -/
theorem binding_list {l : ListCell} (hl : s.list? cell = some l) :
    t.list? cell = some { l with binding := some (s.catalog.select l.accepts) } := by
  have linkable := linkable_of_linked hs hu h
  have hits : hitsOf (view s) l = s.catalog.select l.accepts := by
    refine List.filter_eq_self.2 fun id hid => ?_
    obtain ⟨b, hb, accepted⟩ := (Catalog.mem_select_iff hs.numbered.catalog).1 hid
    rw [hs.check_eq_accepted_iff.2 (linkable.hits_accepted cell l id b hl hb accepted)]
    rfl
  have found : lookupAll (findings s).lists cell = s.catalog.select l.accepts := by
    rw [findings, results_narrowLists]
    exact (lookupAll_flatMap (nodup_lists hs.numbered) _
      ((mem_lists_iff hs.numbered).2 hl)).trans hits
  obtain ⟨d, hd, hi⟩ := Option.bind_eq_some_iff.1 hl
  have number : CellId.mk d.index cell.index = cell := by rw [hs.numbered _ _ hd]
  simp only [list?, documents_of_linked hs hu h, List.getElem?_map, hd, Option.map_some,
    Option.bind_some, assignDocument, Array.getElem?_mapIdx, hi, number, found]

/-- These are all artifacts that the condition holds of. -/
theorem exists_binding_list {l : ListCell} (hl : s.list? cell = some l) :
    ∃ ids, (∀ x, x ∈ ids ↔ ∃ b, s.catalog.get? x = some b ∧ l.accepts b = true) ∧
      t.list? cell = some { l with binding := some ids } :=
  ⟨_, fun _ => Catalog.mem_select_iff hs.numbered.catalog, binding_list hs hu h hl⟩

/-- The document of a linked store, and what it was before. -/
theorem exists_document_of_linked {i : Nat} {d : DocumentStore} (hd : t.documents[i]? = some d) :
    ∃ d', s.documents[i]? = some d' ∧ d = assignDocument (findings s) d' := by
  rw [documents_of_linked hs hu h, List.getElem?_map, Option.map_eq_some_iff] at hd
  obtain ⟨d', hd', rfl⟩ := hd
  exact ⟨d', hd', rfl⟩

/-- Every reference of a linked store is bound. -/
theorem isSome_binding_reference (cell : CellId) {slot : ReferenceSlot}
    (hslot : t.reference? cell = some slot) : slot.binding.isSome := by
  obtain ⟨d, hd, hi⟩ := Option.bind_eq_some_iff.1 hslot
  obtain ⟨d', hd', rfl⟩ := exists_document_of_linked hs hu h hd
  obtain ⟨slot', hs', -⟩ := Option.map_eq_some_iff.1 (Array.getElem?_mapIdx ▸ hi)
  obtain ⟨raw, -, bound⟩ := exists_binding_reference hs hu h
    (show s.reference? cell = some slot' by rw [reference?, hd']; exact hs')
  obtain rfl := Option.some.inj (hslot.symm.trans bound)
  rfl

/-- Every promise of a linked store is bound. -/
theorem isSome_binding_promise (cell : CellId) {p : PromiseCell}
    (hp : t.promise? cell = some p) : p.binding.isSome := by
  obtain ⟨d, hd, hi⟩ := Option.bind_eq_some_iff.1 hp
  obtain ⟨d', hd', rfl⟩ := exists_document_of_linked hs hu h hd
  obtain ⟨p', hp', -⟩ := Option.map_eq_some_iff.1 (Array.getElem?_mapIdx ▸ hi)
  obtain ⟨x, -, bound⟩ := exists_binding_promise hs hu h
    (show s.promise? cell = some p' by rw [promise?, hd']; exact hp')
  obtain rfl := Option.some.inj (hp.symm.trans bound)
  rfl

/-- Every list of a linked store is bound. -/
theorem isSome_binding_list (cell : CellId) {l : ListCell}
    (hl : t.list? cell = some l) : l.binding.isSome := by
  obtain ⟨d, hd, hi⟩ := Option.bind_eq_some_iff.1 hl
  obtain ⟨d', hd', rfl⟩ := exists_document_of_linked hs hu h hd
  obtain ⟨l', hl', -⟩ := Option.map_eq_some_iff.1 (Array.getElem?_mapIdx ▸ hi)
  obtain ⟨ids, -, bound⟩ := exists_binding_list hs hu h
    (show s.list? cell = some l' by rw [list?, hd']; exact hl')
  obtain rfl := Option.some.inj (hl.symm.trans bound)
  rfl

end Linked

end ArtifactStore
end ApiGraph
