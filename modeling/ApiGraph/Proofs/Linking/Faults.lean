/-
# What a run reports

A run reports faults, and every fault has a culprit: a cell whose query is not
answered, a cell whose transform refuses, a cell or hit whose chain ends at something
that is not expected, or a cycle of references.  `ArtifactStore.Reports` says, without
speaking of the run, who is at fault in a store and with which error.

The errors of a run account for the culprits of the store (`accounts_findings`): there is
one error for every culprit, and no other.  In particular a cell whose chain breaks off
in another cell, or runs into a cycle, is not reported for it.

No error is reported for a promise that a transform leads out of the store.  There the run
breaks down (`astray_of_findings`, `astray_eq_none_iff`).
-/

import ApiGraph.Proofs.Correspondence
import ApiGraph.Proofs.Linking.Cycles
import Mathlib.Data.List.Forall2

namespace ApiGraph

open Linking

/-- What may be at fault in a store. -/
inductive Culprit where
  /-- Nothing is at the target of a reference slot. -/
  | missing (cell : CellId)
  /-- The query of a promise has no answer. -/
  | unanswered (cell : CellId)
  /-- References lead back to themselves. -/
  | cycle (members : List ArtifactId)
  /-- A reference ends at something else than it is expected to. -/
  | reference (cell : CellId)
  /-- The transform of a promise refuses. -/
  | transform (cell : CellId)
  /-- A promise ends at something else than it is expected to. -/
  | promise (cell : CellId)
  /-- A hit of a promise of several artifacts does. -/
  | hit (cell : CellId) (id : ArtifactId)

namespace ArtifactStore

/-- Who is at fault in a store, and the error that says so. -/
inductive Reports (s : ArtifactStore) : Culprit → LinkError → Prop
  | missing {cell : CellId} {slot : ReferenceSlot} :
      s.reference? cell = some slot → ¬ s.Holds slot.target →
      Reports s (.missing cell)
        (.notFound slot.origin slot.target (suggestion? s.catalog slot.target))
  | notFound {cell : CellId} {p : PromiseCell} {target : Location} :
      s.promise? cell = some p → p.query = .path target → ¬ s.Holds target →
      Reports s (.unanswered cell) (.notFound p.origin target (suggestion? s.catalog target))
  | noMatch {cell : CellId} {p : PromiseCell} {description : String}
      {accepts : Artifact → Bool} :
      s.promise? cell = some p → p.query = .condition description accepts →
      (∀ id a, s.catalog.get? id = some a → accepts a = false) →
      Reports s (.unanswered cell) (.noMatch p.origin description)
  | ambiguous {cell : CellId} {p : PromiseCell} {description : String}
      {accepts : Artifact → Bool} {ids : List ArtifactId} :
      s.promise? cell = some p → p.query = .condition description accepts →
      ids.Nodup → (∀ id, id ∈ ids ↔ ∃ a, s.catalog.get? id = some a ∧ accepts a = true) →
      2 ≤ ids.length → Reports s (.unanswered cell) (.ambiguous p.origin description ids.length)
  | cycle {members : List ArtifactId} {id : ArtifactId} {a : Artifact} :
      s.IsCycle members → members.head? = some id → s.catalog.get? id = some a →
      Reports s (.cycle members) (.cycle a.location (places s.catalog (members ++ [id])))
  | reference {cell : CellId} {slot : ReferenceSlot} {raw t : ArtifactId} {a : Artifact} :
      s.reference? cell = some slot → s.Answers (.path slot.target) raw → s.EndsAt raw t a →
      slot.expects.accepts a = false →
      Reports s (.reference cell)
        (.narrowing slot.origin a.location slot.expects.text a.body.labelText)
  | transform {cell : CellId} {p : PromiseCell} {f : Transform} {raw : ArtifactId}
      {reason : String} :
      s.promise? cell = some p → s.Answers p.query raw → p.transform = some f →
      f (view s) raw = .error reason →
      Reports s (.transform cell) (.transform p.origin reason)
  | promise {cell : CellId} {p : PromiseCell} {id t : ArtifactId} {a : Artifact} :
      s.promise? cell = some p → s.Candidate p id → s.EndsAt id t a →
      p.expects.accepts a = false →
      Reports s (.promise cell)
        (.narrowing p.origin a.location p.expects.text a.body.labelText)
  | hit {cell : CellId} {l : ListCell} {id t : ArtifactId} {b a : Artifact} :
      s.list? cell = some l → s.catalog.get? id = some b → l.accepts b = true →
      s.EndsAt id t a → l.expects.accepts a = false →
      Reports s (.hit cell id)
        (.narrowing l.origin a.location l.expects.text a.body.labelText)

end ArtifactStore

/-! ## Accounting -/

/-- The errors account for the culprits of some sort: there is one for each, and no other. -/
def Accounts (reports : Culprit → LinkError → Prop) (sort : Culprit → Prop)
    (errors : List LinkError) : Prop :=
  ∃ faults, faults.Nodup ∧ (∀ f ∈ faults, sort f) ∧ List.Forall₂ reports faults errors ∧
    ∀ f e, sort f → reports f e → f ∈ faults

section Accounts

variable {reports : Culprit → LinkError → Prop} {sort sort' : Culprit → Prop}
  {errors errors' : List LinkError}

/-- Errors account for two sorts of culprits if each half does for one sort, and no culprit is
of both. -/
theorem Accounts.append (h : Accounts reports sort errors) (h' : Accounts reports sort' errors')
    (apart : ∀ f, sort f → ¬ sort' f) :
    Accounts reports (fun f => sort f ∨ sort' f) (errors ++ errors') := by
  obtain ⟨faults, distinct, sorted, each, all⟩ := h
  obtain ⟨faults', distinct', sorted', each', all'⟩ := h'
  refine ⟨faults ++ faults', ?_, ?_, List.rel_append each each', ?_⟩
  · refine List.nodup_append.2 ⟨distinct, distinct', fun f hf f' hf' same => ?_⟩
    exact apart f (sorted f hf) (same ▸ sorted' f' hf')
  · intro f hf
    exact (List.mem_append.1 hf).imp (sorted f) (sorted' f)
  · rintro f e (hs | hs) hr
    · exact List.mem_append_left _ (all f e hs hr)
    · exact List.mem_append_right _ (all' f e hs hr)

/-- Errors that are found entry by entry account for the culprits that entries are blamed on. -/
theorem accounts_filterMap {κ γ : Type} {entries : List (κ × γ)}
    (distinct : (entries.map Prod.fst).Nodup) {report : κ × γ → Option LinkError}
    (blame : κ × γ → Culprit)
    (apart : ∀ x ∈ entries, ∀ y ∈ entries, (report x).isSome → (report y).isSome →
      blame x = blame y → x.1 = y.1)
    (sorted : ∀ x ∈ entries, (report x).isSome → sort (blame x))
    (sound : ∀ x ∈ entries, ∀ e, report x = some e → reports (blame x) e)
    (complete : ∀ f e, sort f → reports f e →
      ∃ x ∈ entries, (report x).isSome ∧ blame x = f) :
    Accounts reports sort (entries.filterMap report) := by
  refine ⟨(entries.filter fun x => (report x).isSome).map blame, ?_, ?_, ?_, ?_⟩
  · refine (distinct.of_map _).filter _ |>.map_on fun x hx y hy same => ?_
    obtain ⟨hx, hxs⟩ := List.mem_filter.1 hx
    obtain ⟨hy, hys⟩ := List.mem_filter.1 hy
    exact List.inj_on_of_nodup_map distinct hx hy (apart x hx y hy hxs hys same)
  · intro f hf
    obtain ⟨x, hx, rfl⟩ := List.mem_map.1 hf
    obtain ⟨hx, hxs⟩ := List.mem_filter.1 hx
    exact sorted x hx hxs
  · clear distinct apart sorted complete
    induction entries with
    | nil => exact .nil
    | cons x rest ih =>
      have tail := ih fun y hy => sound y (List.mem_cons_of_mem _ hy)
      cases hx : report x with
      | none => simpa [hx] using tail
      | some e =>
        rw [List.filterMap_cons_some hx, List.filter_cons_of_pos (by rw [hx]; rfl), List.map_cons]
        exact .cons (sound x (List.mem_cons_self ..) e hx) tail
  · intro f e hs hr
    obtain ⟨x, hx, hxs, rfl⟩ := complete f e hs hr
    exact List.mem_map.2 ⟨x, List.mem_filter.2 ⟨hx, hxs⟩, rfl⟩

end Accounts

/-! ## The ends of edges -/

namespace ArtifactStore

variable {s : ArtifactStore} {expects : Expectation} {origin : Location} {id : ArtifactId}
  {e : LinkError}

/-- An artifact is accepted if its chain ends at what is expected. -/
theorem WellFormed.check_eq_accepted_iff (hs : s.WellFormed) :
    check (view s) expects origin id = .accepted ↔
      ∃ t a, s.EndsAt id t a ∧ expects.accepts a = true := by
  constructor
  · intro h
    simp only [check] at h
    split at h
    · cases h
    · cases h
    · rename_i t ht
      obtain ⟨a, ends⟩ := hs.follow_eq_ok_iff.1 ht
      simp only [catalog_view, ends.artifact] at h
      split at h
      · exact ⟨t, a, ends, ‹_›⟩
      · cases h
  · rintro ⟨t, a, ends, hacc⟩
    simp only [check, hs.follow_eq_ok_iff.2 ⟨a, ends⟩, catalog_view, ends.artifact, hacc, if_true]

/-- An artifact is refused if its chain ends at something else, which the error names. -/
theorem WellFormed.check_eq_refused_iff (hs : s.WellFormed) :
    check (view s) expects origin id = .refused e ↔
      ∃ t a, s.EndsAt id t a ∧ expects.accepts a = false ∧
        e = .narrowing origin a.location expects.text a.body.labelText := by
  constructor
  · intro h
    simp only [check] at h
    split at h
    · cases h
    · cases h
    · rename_i t ht
      obtain ⟨a, ends⟩ := hs.follow_eq_ok_iff.1 ht
      simp only [catalog_view, ends.artifact] at h
      split at h
      · cases h
      · rename_i hacc
        cases h
        exact ⟨t, a, ends, by simpa using hacc, rfl⟩
  · rintro ⟨t, a, ends, hacc, rfl⟩
    simp [check, hs.follow_eq_ok_iff.2 ⟨a, ends⟩, ends.artifact, hacc]

/-- A check breaks down where the edge itself leads to no artifact: references lead to artifacts
only. -/
theorem WellFormed.check_eq_astray_iff (hs : s.WellFormed) {u : ArtifactId} :
    check (view s) expects origin id = .astray u ↔ s.catalog.get? id = none ∧ u = id := by
  cases ha : s.catalog.get? id with
  | none =>
    have missing : (view s).follow id = .error (.absent id) := by
      simp only [View.follow, View.followFrom, catalog_view, ha]
    simp [check, missing, eq_comm]
  | some a =>
    have present : ((view s).catalog.get? id).isSome := by rw [catalog_view, ha]; rfl
    refine iff_of_false (fun h => ?_) (by simp)
    generalize hr : (view s).follow id = r at h
    cases hr ▸ View.followed_follow hs.closed_view present with
    | arrived ends =>
      simp only [check, hr, ends.artifact] at h
      split at h <;> cases h
    | unresolved _ _ => simp only [check, hr] at h; cases h
    | cycle _ _ => simp only [check, hr] at h; cases h

/-- The error of an edge that ends at something else than it is expected to. -/
def refusal (v : View) (expects : Expectation) (origin : Location) (id : ArtifactId) :
    Option LinkError :=
  match check v expects origin id with
  | .refused e => some e
  | _ => none

/-- The same of the error alone. -/
theorem WellFormed.refusal_eq_some_iff (hs : s.WellFormed) :
    refusal (view s) expects origin id = some e ↔
      ∃ t a, s.EndsAt id t a ∧ expects.accepts a = false ∧
        e = .narrowing origin a.location expects.text a.body.labelText := by
  rw [← hs.check_eq_refused_iff, refusal]
  split <;> simp_all

/-! ## The phases -/

/-- A reference is bound to the answer of its target. -/
theorem WellFormed.bound_eq_some_iff (hs : s.WellFormed) {cell : CellId} {slot : ReferenceSlot}
    (h : s.reference? cell = some slot) {raw : ArtifactId} :
    (view s).bound cell = some raw ↔ s.Answers (.path slot.target) raw := by
  rw [bound_view, h]
  exact hs.find?_eq_some_iff

/-- One error stands for each reference without a target. -/
theorem accounts_missingReferences (hs : s.WellFormed) :
    Accounts s.Reports (fun c => ∃ cell, c = .missing cell)
      (missingReferences (view s) s) := by
  have missing : ∀ x ∈ s.references,
      (((view s).bound x.1).isSome ↔ s.Holds x.2.target) := fun x hx => by
    rw [bound_view, (mem_references_iff hs.numbered).1 hx]
    exact hs.isSome_find?_iff
  refine accounts_filterMap (nodup_references hs.numbered) (fun x => .missing x.1) ?_ ?_ ?_ ?_
  · rintro x - y - - - same
    exact Culprit.missing.inj same
  · exact fun x _ _ => ⟨x.1, rfl⟩
  · rintro ⟨cell, slot⟩ hx e he
    simp only at he
    split at he
    · cases he
    · rename_i none
      cases he
      exact .missing ((mem_references_iff hs.numbered).1 hx) ((missing _ hx).not.1 none)
  · rintro _ e ⟨cell, rfl⟩ (⟨hslot, none⟩)
    rename_i slot
    have hx := (mem_references_iff hs.numbered).2 hslot
    rw [← missing _ hx] at none
    exact ⟨(cell, slot), hx, by simp [none], rfl⟩

/-- One error stands for each promise whose query is not answered. -/
theorem accounts_missingPromises (hs : s.WellFormed) :
    Accounts s.Reports (fun c => ∃ cell, c = .unanswered cell)
      (missingPromises (view s) s) := by
  refine accounts_filterMap (nodup_promises hs.numbered) (fun x => .unanswered x.1) ?_ ?_ ?_ ?_
  · rintro x - y - - - same
    exact Culprit.unanswered.inj same
  · exact fun x _ _ => ⟨x.1, rfl⟩
  · rintro ⟨cell, p⟩ hx e he
    replace hx := (mem_promises_iff hs.numbered).1 hx
    simp only at he
    split at he
    · cases he
    · rename_i none
      cases he
      cases hq : p.query with
      | path target =>
        rw [hq, ask, find_view, hs.isSome_find?_iff] at none
        exact .notFound hx hq none
      | condition description accepts =>
        have mem : ∀ i, i ∈ s.catalog.select accepts ↔
            ∃ a, s.catalog.get? i = some a ∧ accepts a = true :=
          fun _ => Catalog.mem_select_iff hs.numbered.catalog
        have distinct := Catalog.nodup_select hs.numbered.catalog accepts
        rw [hq] at none
        simp only [unanswered, ask, catalog_view] at none ⊢
        generalize s.catalog.select accepts = ids at mem distinct none ⊢
        rcases ids with _ | ⟨x, _ | ⟨y, rest⟩⟩
        · exact .noMatch hx hq fun id a ha => by
            by_contra hacc
            exact List.not_mem_nil ((mem id).2 ⟨a, ha, by simpa using hacc⟩)
        · exact absurd rfl none
        · exact .ambiguous hx hq distinct mem (by simp)
  · rintro _ e ⟨cell, rfl⟩ hr
    obtain ⟨p, hp, hq⟩ : ∃ p, s.promise? cell = some p ∧ ask (view s) p.query = none := by
      cases hr with
      | notFound hp hq none =>
        refine ⟨_, hp, ?_⟩
        rw [hq, ask, find_view, ← Option.not_isSome_iff_eq_none, hs.isSome_find?_iff]
        exact none
      | noMatch hp hq none =>
        refine ⟨_, hp, Option.eq_none_iff_forall_ne_some.2 fun id h => ?_⟩
        rw [hs.ask_eq_some_iff, hq] at h
        obtain ⟨a, ha, hacc⟩ := (h id).1 rfl
        rw [none id a ha] at hacc
        cases hacc
      | @ambiguous _ _ _ _ ids hp hq distinct mem many =>
        refine ⟨_, hp, Option.eq_none_iff_forall_ne_some.2 fun id h => ?_⟩
        rw [hs.ask_eq_some_iff, hq] at h
        have only : ids ⊆ [id] := fun i hi => List.mem_singleton.2 ((h i).2 ((mem i).1 hi))
        have := distinct.length_le_of_subset only
        rw [List.length_singleton] at this
        omega
    exact ⟨(cell, p), (mem_promises_iff hs.numbered).2 hp, by simp [hq], rfl⟩

/-- A member of a cycle is a reference. -/
theorem WellFormed.reference_of_isCycle (hs : s.WellFormed) {members : List ArtifactId}
    {a : Artifact} (cycle : s.IsCycle members) (head : members.head? = some id)
    (ha : s.catalog.get? id = some a) : ∃ r, a.body = .reference r := by
  obtain ⟨xs, rfl⟩ := List.head?_eq_some_iff.1 head
  obtain ⟨-, w, -⟩ := hs.isCycle_cons_iff.1 cycle
  obtain ⟨next, hnext⟩ := Option.isSome_iff_exists.1 (w.isSome_next id (List.mem_cons_self ..))
  have leads : s.Leads id next := hs.step_view ▸ hnext
  obtain ⟨a', r, -, -, ha', hr, -⟩ := leads
  obtain rfl := Option.some.inj (ha.symm.trans ha')
  exact ⟨r, hr⟩

/-- One error stands for each cycle of references, since the search meets a cycle from its least
member only. -/
theorem accounts_cycles (hs : s.WellFormed) :
    Accounts s.Reports (fun c => ∃ members, c = .cycle members) (cycles (view s) s) := by
  -- the members that the run finds for a slot
  let found (slot : ReferenceSlot) : List ArtifactId :=
    (((view s).find slot.origin).bind (cycle? (view s))).getD []
  have same {slot id a members} (ha : s.catalog.get? id = some a) (hl : a.location = slot.origin)
      (cycle : s.IsCycle members) (head : members.head? = some id) : found slot = members := by
    simp only [found, find_view, hs.find?_eq_some_iff.2 ⟨a, ha, hl⟩, Option.bind_some,
      (hs.cycle?_view_iff.2 ⟨cycle, head⟩).1, Option.getD_some]
  have spec : ∀ x ∈ s.references, ∀ e, cycleAt? (view s) x.2 = some e →
      ∃ id a r, s.catalog.get? id = some a ∧ a.body = .reference r ∧ r.slot = x.1 ∧
        a.location = x.2.origin ∧ s.IsCycle (found x.2) ∧ (found x.2).head? = some id ∧
        e = .cycle x.2.origin (places s.catalog (found x.2 ++ [id])) := by
    rintro ⟨cell, slot⟩ hx e he
    obtain ⟨id, a, members, ha, hl, cycle, head, rfl⟩ := hs.cycleAt?_eq_some_iff.1 he
    obtain ⟨id', a', r, ha', hr, hcell, hl'⟩ :=
      hs.reference_of_slot cell slot ((mem_references_iff hs.numbered).1 hx)
    obtain rfl := hs.location_inj ha ha' (hl.trans hl'.symm)
    obtain rfl := Option.some.inj (ha.symm.trans ha')
    rw [same ha hl cycle head]
    exact ⟨id, a, r, ha, hr, hcell, hl, cycle, head, rfl⟩
  refine accounts_filterMap (nodup_references hs.numbered) (fun x => .cycle (found x.2))
    ?_ ?_ ?_ ?_
  · intro x hx y hy hxs hys same
    obtain ⟨_, he⟩ := Option.isSome_iff_exists.1 hxs
    obtain ⟨_, he'⟩ := Option.isSome_iff_exists.1 hys
    obtain ⟨id, a, r, ha, hr, hcell, -, -, head, -⟩ := spec x hx _ he
    obtain ⟨id', a', r', ha', hr', hcell', -, -, head', -⟩ := spec y hy _ he'
    rw [Culprit.cycle.inj same, head'] at head
    obtain rfl := Option.some.inj head
    obtain rfl := Option.some.inj (ha.symm.trans ha')
    rw [← hcell, ← hcell', Body.reference.inj (hr.symm.trans hr')]
  · exact fun x _ _ => ⟨_, rfl⟩
  · intro x hx e he
    obtain ⟨id, a, r, ha, -, -, hl, cycle, head, rfl⟩ := spec x hx e he
    rw [← hl]
    exact .cycle cycle head ha
  · rintro _ e ⟨members, rfl⟩ hr
    cases hr with
    | @cycle _ id a hcycle head ha =>
      -- the first member is a reference, since it leads somewhere
      obtain ⟨r, hr⟩ := hs.reference_of_isCycle hcycle head ha
      obtain ⟨slot, hslot, hl⟩ := hs.slot_of_reference id a r ha hr
      have at_slot := hs.cycleAt?_eq_some_iff.2 ⟨id, a, members, ha, hl.symm, hcycle, head, rfl⟩
      refine ⟨(r.slot, slot), (mem_references_iff hs.numbered).2 hslot, ?_, ?_⟩
      · rw [Option.isSome_iff_exists]
        exact ⟨_, at_slot⟩
      · show Culprit.cycle (found slot) = _
        rw [same ha hl.symm hcycle head]

/-! ### What edges lead to -/

/-- The errors of references are the refusals of their targets. -/
theorem errors_narrowReferences (v : View) (s : ArtifactStore) :
    errors (narrowReferences v s) = s.references.filterMap fun x =>
      (v.bound x.1).bind (refusal v x.2.expects x.2.origin) := by
  rw [errors, narrowReferences, List.filterMap_filterMap]
  congr 1
  funext ⟨cell, slot⟩
  simp only [Option.bind_eq_bind]
  cases v.bound cell with
  | none => rfl
  | some raw =>
    simp only [Option.bind_some, refusal]
    cases check v slot.expects slot.origin raw <;> rfl

/-- One error stands for each reference whose chain ends at something that is not expected. -/
theorem accounts_narrowReferences (hs : s.WellFormed) :
    Accounts s.Reports (fun c => ∃ cell, c = .reference cell)
      (errors (narrowReferences (view s) s)) := by
  have spec : ∀ x ∈ s.references, ∀ e,
      ((view s).bound x.1).bind (refusal (view s) x.2.expects x.2.origin) = some e ↔
        s.Reports (.reference x.1) e := by
    rintro ⟨cell, slot⟩ hx e
    replace hx := (mem_references_iff hs.numbered).1 hx
    simp only [Option.bind_eq_some_iff, hs.bound_eq_some_iff hx, hs.refusal_eq_some_iff]
    constructor
    · rintro ⟨raw, hraw, t, a, ends, hacc, rfl⟩
      exact .reference hx hraw ends hacc
    · intro hr
      cases hr with
      | reference hx' hraw ends hacc =>
        obtain rfl := Option.some.inj (hx.symm.trans hx')
        exact ⟨_, hraw, _, _, ends, hacc, rfl⟩
  rw [errors_narrowReferences]
  refine accounts_filterMap (nodup_references hs.numbered) (fun x => .reference x.1) ?_ ?_ ?_ ?_
  · rintro x - y - - - same
    exact Culprit.reference.inj same
  · exact fun x _ _ => ⟨x.1, rfl⟩
  · exact fun x hx e he => (spec x hx e).1 he
  · rintro _ e ⟨cell, rfl⟩ hr
    obtain ⟨slot, hslot⟩ : ∃ slot, s.reference? cell = some slot := by
      cases hr with
      | reference hx => exact ⟨_, hx⟩
    have hx := (mem_references_iff hs.numbered).2 hslot
    exact ⟨(cell, slot), hx, by rw [(spec _ hx e).2 hr]; rfl, rfl⟩

/-- A transform's error is the reason that it gave. -/
theorem transformed_eq_error_iff {v : View} {p : PromiseCell} {raw : ArtifactId} :
    transformed v p raw = .error e ↔
      ∃ f reason, p.transform = some f ∧ f v raw = .error reason ∧
        e = .transform p.origin reason := by
  rw [transformed]
  cases p.transform with
  | none => simp
  | some f => cases h : f v raw <;> simp [h, eq_comm]

/-- A promise's candidate is the transformed answer of its query. -/
theorem WellFormed.candidate_iff (hs : s.WellFormed) {p : PromiseCell} :
    s.Candidate p id ↔
      ∃ raw, ask (view s) p.query = some raw ∧ transformed (view s) p raw = .ok id := by
  simp only [Candidate, hs.ask_eq_some_iff, transformed]
  refine exists_congr fun raw => and_congr_right fun _ => ?_
  cases p.transform with
  | none => simp [eq_comm]
  | some f => cases h : f (view s) raw <;> simp [h, eq_comm]

/-- The error of a promise, as it is found on the way to its end. -/
def promiseError (v : View) (p : PromiseCell) : Option LinkError :=
  (ask v p.query).bind fun raw =>
    match transformed v p raw with
    | .error e => some e
    | .ok candidate => refusal v p.expects p.origin candidate

/-- A promise that has an error is at fault for its transform or for its end. -/
def promiseBlame (v : View) (cell : CellId) (p : PromiseCell) : Culprit :=
  match (ask v p.query).map (transformed v p) with
  | some (.error _) => .transform cell
  | _ => .promise cell

/-- Whoever is blamed for a promise is blamed for its own cell. -/
theorem promiseBlame_inj {v : View} {cell cell' : CellId} {p p' : PromiseCell}
    (same : promiseBlame v cell p = promiseBlame v cell' p') : cell = cell' := by
  simp only [promiseBlame] at same
  split at same <;> split at same <;> simp_all

/-- The errors of promises are those of their transforms, or the refusals of what these gave. -/
theorem errors_narrowPromises (v : View) (s : ArtifactStore) :
    errors (narrowPromises v s) = s.promises.filterMap fun x => promiseError v x.2 := by
  rw [errors, narrowPromises, List.filterMap_filterMap]
  congr 1
  funext ⟨cell, p⟩
  simp only [promiseError, Option.bind_eq_bind]
  cases ask v p.query with
  | none => rfl
  | some raw =>
    simp only [Option.bind_some, refusal]
    cases transformed v p raw with
    | error e => rfl
    | ok candidate =>
      simp only
      cases check v p.expects p.origin candidate <;> rfl

/-- A promise has an error if somebody is at fault, and the one that is blamed. -/
theorem WellFormed.promiseError_eq_some_iff (hs : s.WellFormed) {cell : CellId} {p : PromiseCell}
    (hp : s.promise? cell = some p) {c : Culprit} :
    promiseError (view s) p = some e ∧ promiseBlame (view s) cell p = c ↔
      (c = .transform cell ∨ c = .promise cell) ∧ s.Reports c e := by
  constructor
  · rintro ⟨he, rfl⟩
    obtain ⟨raw, hraw, he⟩ := Option.bind_eq_some_iff.1 he
    cases ht : transformed (view s) p raw with
    | error e' =>
      have blame : promiseBlame (view s) cell p = .transform cell := by
        simp only [promiseBlame, hraw, Option.map_some, ht]
      rw [ht] at he
      cases he
      obtain ⟨f, reason, hf, hr, rfl⟩ := transformed_eq_error_iff.1 ht
      rw [blame]
      exact ⟨.inl rfl, .transform hp (hs.ask_eq_some_iff.1 hraw) hf hr⟩
    | ok candidate =>
      have blame : promiseBlame (view s) cell p = .promise cell := by
        simp only [promiseBlame, hraw, Option.map_some, ht]
      rw [ht] at he
      obtain ⟨t, a, ends, hacc, rfl⟩ := hs.refusal_eq_some_iff.1 he
      rw [blame]
      exact ⟨.inr rfl, .promise hp (hs.candidate_iff.2 ⟨raw, hraw, ht⟩) ends hacc⟩
  · rintro ⟨rfl | rfl, hr⟩
    · cases hr with
      | transform hp' hraw hf herr =>
        obtain rfl := Option.some.inj (hp.symm.trans hp')
        have found := hs.ask_eq_some_iff.2 hraw
        have refuses := transformed_eq_error_iff.2 ⟨_, _, hf, herr, rfl⟩
        constructor
        · simp only [promiseError, found, Option.bind_some, refuses]
        · simp only [promiseBlame, found, Option.map_some, refuses]
    · cases hr with
      | promise hp' hcand ends hacc =>
        obtain rfl := Option.some.inj (hp.symm.trans hp')
        obtain ⟨raw, found, passes⟩ := hs.candidate_iff.1 hcand
        constructor
        · simp only [promiseError, found, Option.bind_some, passes]
          exact hs.refusal_eq_some_iff.2 ⟨_, _, ends, hacc, rfl⟩
        · simp only [promiseBlame, found, Option.map_some, passes]

/-- One error stands for each promise whose transform fails or whose chain ends at something
that is not expected. -/
theorem accounts_narrowPromises (hs : s.WellFormed) :
    Accounts s.Reports (fun c => ∃ cell, c = .transform cell ∨ c = .promise cell)
      (errors (narrowPromises (view s) s)) := by
  have own : ∀ x ∈ s.promises, ∀ e, promiseError (view s) x.2 = some e →
      (promiseBlame (view s) x.1 x.2 = .transform x.1 ∨
        promiseBlame (view s) x.1 x.2 = .promise x.1) ∧
        s.Reports (promiseBlame (view s) x.1 x.2) e := fun x hx e he =>
    (hs.promiseError_eq_some_iff ((mem_promises_iff hs.numbered).1 hx)).1 ⟨he, rfl⟩
  rw [errors_narrowPromises]
  refine accounts_filterMap (nodup_promises hs.numbered)
    (fun x => promiseBlame (view s) x.1 x.2) ?_ ?_ ?_ ?_
  · rintro x - y - - - same
    exact promiseBlame_inj same
  · intro x hx hxs
    obtain ⟨e, he⟩ := Option.isSome_iff_exists.1 hxs
    exact ⟨x.1, (own x hx e he).1⟩
  · exact fun x hx e he => (own x hx e he).2
  · rintro c e ⟨cell, hc⟩ hr
    obtain ⟨p, hp⟩ : ∃ p, s.promise? cell = some p := by
      rcases hc with rfl | rfl
      · cases hr with
        | transform hp => exact ⟨_, hp⟩
      · cases hr with
        | promise hp => exact ⟨_, hp⟩
    obtain ⟨he, hb⟩ := (hs.promiseError_eq_some_iff hp).2 ⟨hc, hr⟩
    exact ⟨(cell, p), (mem_promises_iff hs.numbered).2 hp, by rw [he]; rfl, hb⟩

/-- The hits of the promises of several artifacts, each under its promise and its own number. -/
def hits (s : ArtifactStore) : List ((CellId × ArtifactId) × ListCell) :=
  s.lists.flatMap fun x => (s.catalog.select x.2.accepts).map fun id => ((x.1, id), x.2)

/-- The hits of a list are the artifacts that it accepts. -/
theorem mem_hits_iff (h : s.Numbered) {cell : CellId} {l : ListCell} :
    ((cell, id), l) ∈ hits s ↔
      s.list? cell = some l ∧ ∃ a, s.catalog.get? id = some a ∧ l.accepts a = true := by
  simp only [hits, List.mem_flatMap, List.mem_map, Prod.exists, Prod.mk.injEq]
  constructor
  · rintro ⟨_, _, hl, _, hid, ⟨rfl, rfl⟩, rfl⟩
    exact ⟨(mem_lists_iff h).1 hl, (Catalog.mem_select_iff h.catalog).1 hid⟩
  · rintro ⟨hl, hid⟩
    exact ⟨cell, l, (mem_lists_iff h).2 hl, id, (Catalog.mem_select_iff h.catalog).2 hid,
      ⟨rfl, rfl⟩, rfl⟩

/-- No list hits an artifact twice. -/
theorem nodup_hits (h : s.Numbered) : ((hits s).map Prod.fst).Nodup := by
  rw [hits, List.map_flatMap, List.nodup_flatMap]
  constructor
  · intro x _
    rw [List.map_map]
    exact (Catalog.nodup_select h.catalog _).map fun _ _ same => (Prod.mk.inj same).2
  · refine (List.pairwise_map.1 (nodup_lists h)).imp fun differ k hk hk' => ?_
    simp only [List.map_map, List.mem_map, Function.comp_apply] at hk hk'
    obtain ⟨_, -, rfl⟩ := hk
    obtain ⟨_, -, same⟩ := hk'
    exact differ (Prod.mk.inj same).1.symm

/-- The errors of lists are the refusals of their hits. -/
theorem errors_narrowLists (s : ArtifactStore) :
    errors (narrowLists (view s) s) = (hits s).filterMap fun x =>
      refusal (view s) x.2.expects x.2.origin x.1.2 := by
  rw [errors, narrowLists, hits, List.filterMap_flatMap, List.filterMap_flatMap]
  congr 1
  funext ⟨cell, l⟩
  rw [List.filterMap_filterMap, List.filterMap_map, catalog_view]
  congr 1
  funext id
  simp only [refusal, Function.comp_apply]
  cases check (view s) l.expects l.origin id <;> rfl

/-- One error stands for each hit whose chain ends at something that is not expected. -/
theorem accounts_narrowLists (hs : s.WellFormed) :
    Accounts s.Reports (fun c => ∃ cell id, c = .hit cell id)
      (errors (narrowLists (view s) s)) := by
  rw [errors_narrowLists]
  refine accounts_filterMap (nodup_hits hs.numbered) (fun x => .hit x.1.1 x.1.2) ?_ ?_ ?_ ?_
  · rintro x - y - - - same
    exact Prod.ext (Culprit.hit.inj same).1 (Culprit.hit.inj same).2
  · exact fun x _ _ => ⟨x.1.1, x.1.2, rfl⟩
  · rintro ⟨⟨cell, id⟩, l⟩ hx e he
    obtain ⟨hl, b, hb, accepted⟩ := (mem_hits_iff hs.numbered).1 hx
    obtain ⟨t, a, ends, hacc, rfl⟩ := hs.refusal_eq_some_iff.1 he
    exact .hit hl hb accepted ends hacc
  · rintro _ e ⟨cell, id, rfl⟩ hr
    cases hr with
    | @hit _ l _ t b a hl hb accepted ends hacc =>
      have refused : refusal (view s) l.expects l.origin id = some _ :=
        hs.refusal_eq_some_iff.2 ⟨t, a, ends, hacc, rfl⟩
      exact ⟨((cell, id), l), (mem_hits_iff hs.numbered).2 ⟨hl, b, hb, accepted⟩,
        by rw [refused]; rfl, rfl⟩

/-! ## Breaking down -/

/-- A check breaks down at the numbers without artifacts that transforms lead to, and nowhere
else. -/
theorem WellFormed.mem_verdicts_astray_iff (hs : s.WellFormed) :
    .astray id ∈ verdicts (view s) s ↔ s.Astray id := by
  simp only [verdicts, List.mem_append, List.mem_filterMap, List.mem_flatMap, List.mem_map,
    Prod.exists]
  constructor
  · rintro ((⟨cell, slot, -, found⟩ | ⟨cell, p, hp, found⟩) | ⟨cell, l, -, raw, hraw, found⟩)
    · -- the raw target of a reference is there
      obtain ⟨raw, bound, found⟩ := Option.map_eq_some_iff.1 found
      have absent := (hs.check_eq_astray_iff.1 found).1
      simpa [absent] using hs.closed_view.bound cell raw bound
    · obtain ⟨raw, asked, found⟩ := Option.bind_eq_some_iff.1 found
      obtain ⟨x, passes, found⟩ := Option.map_eq_some_iff.1 found
      obtain ⟨absent, rfl⟩ := hs.check_eq_astray_iff.1 found
      exact ⟨cell, p, (mem_promises_iff hs.numbered).1 hp,
        hs.candidate_iff.2 ⟨raw, asked, toOption_eq_some_iff.1 passes⟩, absent⟩
    · -- so is every hit of a promise of several artifacts
      have absent := (hs.check_eq_astray_iff.1 found).1
      obtain ⟨a, ha, -⟩ := (Catalog.mem_select_iff hs.numbered.catalog).1 hraw
      simp [absent] at ha
  · rintro ⟨cell, p, hp, candidate, absent⟩
    obtain ⟨raw, asked, passes⟩ := hs.candidate_iff.1 candidate
    refine .inl (.inr ⟨cell, p, (mem_promises_iff hs.numbered).2 hp, ?_⟩)
    rw [asked, Option.bind_some, passes]
    exact congrArg some (hs.check_eq_astray_iff.2 ⟨absent, rfl⟩)

/-- **A run breaks down** at a number that a transform leads out of the store to. -/
theorem WellFormed.astray_of_findings (hs : s.WellFormed) (h : (findings s).astray = some id) :
    s.Astray id := by
  obtain ⟨verdict, mem, found⟩ := List.exists_of_findSome?_eq_some h
  split at found
  · cases found
    exact hs.mem_verdicts_astray_iff.1 mem
  · cases found

/-- It does not if no transform leads there. -/
theorem WellFormed.astray_eq_none_iff (hs : s.WellFormed) :
    (findings s).astray = none ↔ ∀ id, ¬ s.Astray id := by
  constructor
  · intro none id astray
    have quiet := List.findSome?_eq_none_iff.1 none _ (hs.mem_verdicts_astray_iff.2 astray)
    cases quiet
  · intro inside
    rw [← Option.not_isSome_iff_eq_none, Option.isSome_iff_exists]
    rintro ⟨id, h⟩
    exact inside id (hs.astray_of_findings h)

/-! ## All phases -/

/-- **The errors of a run account for all that is at fault** in a well-formed store. -/
theorem accounts_findings (hs : s.WellFormed) :
    Accounts s.Reports (fun _ => True) (findings s).errors := by
  have all := (((((accounts_missingReferences hs).append (accounts_missingPromises hs) ?_).append
    (accounts_cycles hs) ?_).append (accounts_narrowReferences hs) ?_).append
    (accounts_narrowPromises hs) ?_).append (accounts_narrowLists hs) ?_
  · obtain ⟨faults, distinct, -, each, complete⟩ := all
    refine ⟨faults, distinct, fun _ _ => trivial, each, fun c e _ hr => complete c e ?_ hr⟩
    cases c <;> simp
  all_goals
    intro c
    cases c <;> simp

end ArtifactStore
end ApiGraph
