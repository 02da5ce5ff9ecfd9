/-
# Every cycle is reported once

The linker looks for cycles from every slot.  It goes along the chain of references from the one
at the slot until the chain ends, comes back to where it began, or comes to something else that was
passed before.  No bound is put on the steps of this search (`Linking.Search`); it comes to an end
nevertheless, and finds what the bounded search of `Linking.cycle?` finds (`Linking.search_iff`).

What is found is reported only from the least member of a cycle.  Where every slot has a reference
of its own (`ArtifactStore.Paired`), whatever the slots are bound to, this makes one report for
each cycle: none is left out, since its least member has a slot, and none is made twice, since that
slot is the only one (`ArtifactStore.Paired.reportsCycles`).
-/

import ApiGraph.Proofs.Correspondence
import ApiGraph.Proofs.Linking.Cycles

namespace ApiGraph

open Relation (ReflTransGen TransGen)
open Linking (view cycle? cycleAt? cycles places)

/-! ## A search without a bound -/

namespace Linking

/-- A search for the way back to `start`, given the chain from there to `current` in reverse.  It
stops where the chain ends, and where it comes to something that is on it already. -/
inductive Search (v : View) (start : ArtifactId) :
    List ArtifactId → ArtifactId → Option (List ArtifactId) → Prop
  | ends {chain : List ArtifactId} {current : ArtifactId} :
      v.next? current = none → Search v start chain current none
  | closed {chain : List ArtifactId} {current : ArtifactId} :
      v.next? current = some start → Search v start chain current (some chain.reverse)
  | elsewhere {chain : List ArtifactId} {current next : ArtifactId} :
      v.next? current = some next → next ≠ start → next ∈ chain → Search v start chain current none
  | on {chain : List ArtifactId} {current next : ArtifactId} {found : Option (List ArtifactId)} :
      v.next? current = some next → next ≠ start → next ∉ chain →
        Search v start (next :: chain) next found → Search v start chain current found

variable {v : View} {start current : ArtifactId} {chain : List ArtifactId}
  {found : Option (List ArtifactId)}

/-- A search from where the chain visits different artifacts comes to an end: each of them but the
last leads somewhere, so they are not more than the catalog holds and one. -/
theorem exists_search (numbered : v.catalog.Numbered) :
    ∀ (steps : Nat) (current : ArtifactId) (passed : List ArtifactId),
      (current :: passed).Nodup → (∀ x ∈ passed, (v.next? x).isSome) →
      v.catalog.size < steps + passed.length →
      ∃ found, Search v start (current :: passed) current found
  | 0, _, passed, distinct, lead, enough => by
    have := Catalog.length_le_size numbered (List.nodup_cons.1 distinct).2 fun x hx =>
      View.isSome_get?_of_isSome_next? (lead x hx)
    omega
  | steps + 1, current, passed, distinct, lead, enough => by
    cases step : v.next? current with
    | none => exact ⟨_, .ends step⟩
    | some next =>
      by_cases back : next = start
      · exact ⟨_, .closed (back ▸ step)⟩
      by_cases visited : next ∈ current :: passed
      · exact ⟨_, .elsewhere step back visited⟩
      · have lead' : ∀ x ∈ current :: passed, (v.next? x).isSome :=
          List.forall_mem_cons.2 ⟨by rw [step]; rfl, lead⟩
        obtain ⟨found, search⟩ := exists_search numbered steps next (current :: passed)
          (List.nodup_cons.2 ⟨visited, distinct⟩) lead' (by rw [List.length_cons]; omega)
        exact ⟨found, .on step back visited search⟩

/-- A search that began at `start` finds the way from there to the first visit again, if there is
one.  What was passed is the beginning of that way, `pre`, so the way cannot come to it again. -/
theorem Search.found_eq_some_iff (search : Search v start chain current found) :
    ∀ pre : List ArtifactId, chain.reverse = start :: pre → start ∉ pre →
      (∀ xs, Walk v.next? current xs start → Walk v.next? start (pre ++ xs) start) →
      ∀ members, found = some members ↔
        ∃ xs, start ∉ xs ∧ Walk v.next? current xs start ∧ members = chain.reverse ++ xs := by
  induction search with
  | ends stop =>
    intro pre _ _ _ members
    refine iff_of_false nofun ?_
    rintro ⟨xs, -, w, -⟩
    simpa [stop] using w.isSome_next _ List.mem_cons_self
  | closed step =>
    intro pre _ _ _ members
    constructor
    · rintro ⟨⟩
      exact ⟨[], List.not_mem_nil, .last step, (List.append_nil _).symm⟩
    · rintro ⟨xs, fresh, w, rfl⟩
      rw [w.unique fresh (.last step) List.not_mem_nil, List.append_nil]
  | @elsewhere chain current next step back visited =>
    intro pre reverse fresh extend members
    refine iff_of_false nofun ?_
    rintro ⟨xs, fresh', w, -⟩
    have before : next ∈ pre :=
      (List.mem_cons.1 (reverse ▸ List.mem_reverse.2 visited)).resolve_left back
    have after : next ∈ xs := by
      have := w.mem_of_step List.mem_cons_self step
      rw [List.mem_append, List.mem_singleton] at this
      exact this.resolve_right back
    have distinct := (extend xs w).nodup (List.not_mem_append fresh fresh')
    exact List.disjoint_of_nodup_append distinct before after
  | @on chain current next found step back new _ ih =>
    intro pre reverse fresh extend members
    have reverse' : (next :: chain).reverse = start :: (pre ++ [next]) := by
      rw [List.reverse_cons, reverse, List.cons_append]
    have fresh' : start ∉ pre ++ [next] :=
      List.not_mem_append fresh fun h => back (List.mem_singleton.1 h).symm
    rw [ih (pre ++ [next]) reverse' fresh' fun xs w => by
      rw [List.append_assoc]
      exact extend _ (.more step w)]
    constructor
    · rintro ⟨xs, hx, w, rfl⟩
      refine ⟨next :: xs, ?_, .more step w, by simp⟩
      rw [List.mem_cons, not_or]
      exact ⟨fun h => back h.symm, hx⟩
    · rintro ⟨_ | ⟨x, xs⟩, hx, w, rfl⟩
      · exact absurd (Option.some.inj (step.symm.trans (Walk.nil_iff.1 w))) back
      · obtain ⟨step', w⟩ := Walk.cons_iff.1 w
        obtain rfl := Option.some.inj (step.symm.trans step')
        exact ⟨xs, fun h => hx (List.mem_cons_of_mem _ h), w, by simp⟩

/-- **The search comes to an end,** and to what is found with a bound on its steps. -/
theorem search_iff (numbered : v.catalog.Numbered) :
    Search v start [start] start found ↔ found = cycle? v start := by
  have only {found} (search : Search v start [start] start found) : found = cycle? v start := by
    refine Option.ext fun members => ?_
    rw [cycle?_eq_some_iff numbered]
    exact search.found_eq_some_iff [] rfl List.not_mem_nil (fun _ w => w) members
  refine ⟨only, ?_⟩
  rintro rfl
  obtain ⟨found, search⟩ : ∃ found, Search v start [start] start found :=
    exists_search numbered (v.catalog.size + 1) start [] (List.nodup_singleton _) nofun (by simp)
  exact only search ▸ search

end Linking

/-! ## Slots and their references -/

/-- The slot of a reference. -/
def Catalog.slot? (c : Catalog) (id : ArtifactId) : Option CellId :=
  match (c.get? id).map Artifact.body with
  | some (.reference r) => some r.slot
  | _ => none

/-- A slot is carried by the reference that refers by it. -/
theorem Catalog.slot?_eq_some_iff {c : Catalog} {id : ArtifactId} {cell : CellId} :
    c.slot? id = some cell ↔
      ∃ a r, c.get? id = some a ∧ a.body = .reference r ∧ r.slot = cell := by
  rw [slot?]
  cases ha : c.get? id with
  | none => simp
  | some a => cases hb : a.body <;> simp [hb]

/-- A reference leads to what its slot is bound to. -/
theorem View.next?_eq_bind (v : View) (id : ArtifactId) :
    v.next? id = (v.catalog.slot? id).bind v.bound := by
  rw [next?, Catalog.slot?]
  cases ha : v.catalog.get? id with
  | none => rfl
  | some a => cases hb : a.body <;> simp [hb]

namespace ArtifactStore

/-- The store while its reference slots are bound in some way. -/
def boundBy (s : ArtifactStore) (raw : CellId → Option ArtifactId) : View where
  catalog := s.catalog
  bound cell := (s.reference? cell).bind fun _ => raw cell

/-- Every slot has a reference of its own, which is found where the slot begins. -/
structure Paired (s : ArtifactStore) : Prop where
  numbered : s.Numbered
  own_reference : ∀ cell slot, s.reference? cell = some slot →
    ∃ own, s.catalog.find? slot.origin = some own ∧
      ∀ id, s.catalog.slot? id = some cell ↔ id = own

variable {s : ArtifactStore}

/-- What documents were compiled into is such a store. -/
theorem WellFormed.paired (hs : s.WellFormed) : s.Paired where
  numbered := hs.numbered
  own_reference cell slot hslot := by
    obtain ⟨own, a, r, ha, hr, hcell, hl⟩ := hs.reference_of_slot cell slot hslot
    refine ⟨own, hs.find?_eq_some_iff.2 ⟨a, ha, hl⟩, fun id => ?_⟩
    rw [Catalog.slot?_eq_some_iff]
    constructor
    · rintro ⟨b, q, hb, hq, hcell'⟩
      obtain ⟨slot', hslot', hl'⟩ := hs.slot_of_reference id b q hb hq
      rw [hcell', hslot, Option.some.injEq] at hslot'
      subst hslot'
      exact hs.location_inj hb ha (hl'.symm.trans hl.symm)
    · rintro rfl
      exact ⟨a, r, ha, hr, hcell⟩

/-- Whether every slot has a reference of its own can be seen from what is listed. -/
theorem paired_of_listed (numbered : s.Numbered)
    (listed : ∀ x ∈ s.references, ∃ own ∈ s.catalog.entries.map Prod.fst,
      s.catalog.find? x.2.origin = some own ∧
        ∀ id ∈ s.catalog.entries.map Prod.fst, s.catalog.slot? id = some x.1 ↔ id = own) :
    s.Paired where
  numbered := numbered
  own_reference cell slot hslot := by
    obtain ⟨own, hown, origin, only⟩ := listed (cell, slot) ((mem_references_iff numbered).2 hslot)
    refine ⟨own, origin, fun id => ⟨fun carried => ?_, fun same => (only id (same ▸ hown)).2 same⟩⟩
    obtain ⟨a, -, ha, -⟩ := Catalog.slot?_eq_some_iff.1 carried
    exact (only id (List.mem_map_of_mem ((Catalog.mem_entries_iff numbered.catalog).2 ha))).1 carried

/-- The linker binds slots to what is at their targets. -/
theorem view_eq_boundBy (s : ArtifactStore) : view s = s.boundBy (view s).bound := by
  have bound : (view s).bound = (s.boundBy (view s).bound).bound := by
    funext cell
    simp only [boundBy, bound_view]
    cases s.reference? cell <;> rfl
  calc view s = ⟨s.catalog, (view s).find, (view s).bound⟩ := rfl
    _ = ⟨s.catalog, s.catalog.find?, (s.boundBy (view s).bound).bound⟩ := by
      rw [find_view, ← bound]
    _ = s.boundBy (view s).bound := rfl

end ArtifactStore

/-! ## What is reported -/

/-- The artifact with the number stands there. -/
def Catalog.Stands (c : Catalog) (id : ArtifactId) (place : Location) : Prop :=
  (c.get? id).map Artifact.location = some place

/-- Artifacts that are there stand at their places. -/
theorem Catalog.forall₂_places {c : Catalog} {ids : List ArtifactId}
    (present : ∀ id ∈ ids, (c.get? id).isSome) : List.Forall₂ c.Stands ids (places c ids) := by
  induction ids with
  | nil => exact .nil
  | cons id rest ih =>
    obtain ⟨a, ha⟩ := Option.isSome_iff_exists.1 (present id List.mem_cons_self)
    have stands : (c.get? id).map Artifact.location = some a.location := by rw [ha]; rfl
    have places_cons : places c (id :: rest) = a.location :: places c rest :=
      List.filterMap_cons_some stands
    rw [places_cons]
    exact .cons stands (ih fun id hid => present id (List.mem_cons_of_mem _ hid))

namespace View

/-- The error names the members of a cycle: it stands at the first of them, and lists where they
stand, one after the other and the first once more. -/
def Names (v : View) (members : List ArtifactId) (e : LinkError) : Prop :=
  ∃ first origin chain, members.head? = some first ∧ v.catalog.Stands first origin ∧
    List.Forall₂ v.catalog.Stands (members ++ [first]) chain ∧ e = .cycle origin chain

/-- What the linker reports of cycles, and what it does not report. -/
structure ReportsCycles (v : View) (s : ArtifactStore) : Prop where
  /-- From wherever cycles are looked for, the search comes to an end. -/
  searched : ∀ start found, Linking.Search v start [start] start found ↔ found = cycle? v start
  /-- There is one report for each cycle. -/
  once : ∃ rings : List (List ArtifactId), rings.Nodup ∧
    (∀ members, members ∈ rings ↔ v.IsCycle members) ∧ List.Forall₂ v.Names rings (cycles v s)
  /-- What leads back to itself is on one cycle. -/
  covered : ∀ id, TransGen (Step v.next?) id id ↔ ∃! members, v.IsCycle members ∧ id ∈ members
  /-- Nothing is reported for a reference that is on no cycle, though it may lead into one. -/
  tails : ∀ slot id, v.find slot.origin = some id → ¬ TransGen (Step v.next?) id id →
    cycleAt? v slot = none
  /-- Nothing is reported where the chain ends, be it at a reference that leads nowhere. -/
  ends : ∀ slot id t, v.find slot.origin = some id → ReflTransGen (Step v.next?) id t →
    v.next? t = none → cycleAt? v slot = none

/-- The cycle that is reported for a slot. -/
def ring? (v : View) (slot : ReferenceSlot) : Option (List ArtifactId) := do
  let start ← v.find slot.origin
  (cycle? v start).filter (·.all (ArtifactId.le start))

variable {v : View} {slot : ReferenceSlot} {members : List ArtifactId}

/-- A ring is reported of a slot if the slot's reference is the head of a cycle. -/
theorem ring?_eq_some_iff (numbered : v.catalog.Numbered) :
    v.ring? slot = some members ↔
      ∃ id, v.find slot.origin = some id ∧ v.IsCycle members ∧ members.head? = some id := by
  simp only [ring?, Option.bind_eq_bind, Option.bind_eq_some_iff, Option.filter_eq_some_iff,
    cycle?_and_least_iff numbered]

/-- The cycle that is reported for a slot is named. -/
theorem rel_ring?_cycleAt? (numbered : v.catalog.Numbered) (found : v.find = v.catalog.find?) :
    Option.Rel v.Names (v.ring? slot) (cycleAt? v slot) := by
  rw [ring?, cycleAt?]
  cases at_ : v.find slot.origin with
  | none => exact .none
  | some start =>
    cases round : cycle? v start with
    | none => simp [round]
    | some members =>
      simp only [Option.bind_eq_bind, Option.bind_some, round]
      split
      case isFalse notLeast => simp [Option.filter, notLeast]
      case isTrue least =>
        rw [Option.filter, if_pos least]
        obtain ⟨cycle, head⟩ := (cycle?_and_least_iff numbered).1 ⟨round, least⟩
        obtain ⟨a, ha, hl⟩ := Catalog.exists_of_find? numbered (found ▸ at_)
        have present : ∀ id ∈ members ++ [start], (v.catalog.get? id).isSome := by
          intro id hid
          refine isSome_get?_of_isSome_next? ?_
          have member : id ∈ members := by
            rcases List.mem_append.1 hid with hid | hid
            · exact hid
            · exact List.mem_singleton.1 hid ▸ List.mem_of_mem_head? head
          obtain ⟨next, step, -⟩ := TransGen.head'_iff.1 (cycle.transGen member)
          rw [show v.next? id = some next from step]
          rfl
        exact .some ⟨start, _, _, head, by rw [Catalog.Stands, ha, Option.map_some, hl],
          Catalog.forall₂_places present, rfl⟩

end View

namespace ArtifactStore.Paired

variable {s : ArtifactStore} {raw : CellId → Option ArtifactId}

/-- No cycle is reported for two slots. -/
theorem nodup_rings (hs : s.Paired) :
    (s.references.filterMap fun x => (s.boundBy raw).ring? x.2).Nodup := by
  rw [List.Nodup, List.pairwise_filterMap]
  refine (List.pairwise_map.1 (nodup_references hs.numbered)).imp_of_mem ?_
  intro x y hx hy differ members found members' found' same
  subst same
  obtain ⟨id, at_, -, head⟩ := (View.ring?_eq_some_iff hs.numbered.catalog).1 found
  obtain ⟨id', at', -, head'⟩ := (View.ring?_eq_some_iff hs.numbered.catalog).1 found'
  obtain rfl := Option.some.inj (head.symm.trans head')
  -- one artifact would be the reference of both slots
  have own {z : CellId × ReferenceSlot} (hz : z ∈ s.references)
      (here : s.catalog.find? z.2.origin = some id) : s.catalog.slot? id = some z.1 := by
    obtain ⟨own, origin, only⟩ := hs.own_reference _ _ ((mem_references_iff hs.numbered).1 hz)
    exact (only id).2 (Option.some.inj (here.symm.trans origin))
  exact differ (Option.some.inj ((own hx at_).symm.trans (own hy at')))

/-- Every cycle is reported for the slot of its least member. -/
theorem mem_rings_iff (hs : s.Paired) {members : List ArtifactId} :
    (members ∈ s.references.filterMap fun x => (s.boundBy raw).ring? x.2) ↔
      (s.boundBy raw).IsCycle members := by
  rw [List.mem_filterMap]
  constructor
  · rintro ⟨x, -, found⟩
    obtain ⟨_, -, cycle, -⟩ := (View.ring?_eq_some_iff hs.numbered.catalog).1 found
    exact cycle
  · intro cycle
    obtain ⟨id, xs, rfl⟩ := cycle.exists_cons
    obtain ⟨next, step, -⟩ := TransGen.head'_iff.1 (cycle.transGen List.mem_cons_self)
    rw [Step, View.next?_eq_bind] at step
    obtain ⟨cell, carried, bound⟩ := Option.bind_eq_some_iff.1 step
    obtain ⟨slot, hslot, -⟩ := Option.bind_eq_some_iff.1 bound
    obtain ⟨own, origin, only⟩ := hs.own_reference cell slot hslot
    obtain rfl := (only id).1 carried
    exact ⟨(cell, slot), (mem_references_iff hs.numbered).2 hslot,
      (View.ring?_eq_some_iff hs.numbered.catalog).2 ⟨id, origin, cycle, rfl⟩⟩

/-- **Every cycle is reported once,** from its least member on, and nothing else is reported.  This
is so whatever the slots are bound to, to artifacts of other documents or to nothing. -/
theorem reportsCycles (hs : s.Paired) (raw : CellId → Option ArtifactId) :
    (s.boundBy raw).ReportsCycles s := by
  have numbered : (s.boundBy raw).catalog.Numbered := hs.numbered.catalog
  have tails (slot : ReferenceSlot) (id : ArtifactId)
      (at_ : (s.boundBy raw).find slot.origin = some id)
      (onNone : ¬ TransGen (Step (s.boundBy raw).next?) id id) :
      cycleAt? (s.boundBy raw) slot = none := by
    have nothing : cycle? (s.boundBy raw) id = none :=
      Option.eq_none_iff_forall_ne_some.2 fun members found => by
        obtain ⟨xs, -, w, -⟩ := (Linking.cycle?_eq_some_iff numbered).1 found
        exact onNone w.transGen
    simp [cycleAt?, at_, nothing]
  refine ⟨fun start found => Linking.search_iff numbered,
    ⟨_, hs.nodup_rings, fun members => hs.mem_rings_iff, ?_⟩, fun id => ⟨fun back => ?_, ?_⟩, tails,
    fun slot id t at_ reaches stop => tails slot id at_ (not_cycle_of_end reaches stop .refl)⟩
  · exact List.rel_filterMap (fun _ _ h => h)
      (List.forall₂_same.2 fun x _ => View.rel_ring?_cycleAt? numbered rfl)
  · obtain ⟨members, cycle, on⟩ := View.exists_isCycle back
    exact ⟨members, ⟨cycle, on⟩, fun other h => h.1.eq_of_mem cycle h.2 on⟩
  · rintro ⟨members, ⟨cycle, on⟩, -⟩
    exact cycle.transGen on

end ArtifactStore.Paired

namespace ArtifactStore

/-- A document of references to one place, one under each name. -/
def aliases (index : Nat) (document : String) (names : List String) : DocumentStore where
  index := index
  document := document
  artifacts := names.toArray.mapIdx fun i name =>
    { name, kind := .schema, location := ⟨document, [name]⟩
      body := .reference ⟨⟨index, i⟩, .root document, none, none⟩ }
  references := names.toArray.map fun name =>
    { origin := ⟨document, [name]⟩, target := .root document, expects := .kind .schema }

/-- Two documents. -/
def crossing : ArtifactStore :=
  ⟨[aliases 0 "a" ["one", "self", "tail", "lost"], aliases 1 "b" ["two", "behind"]]⟩

/-- A cycle through both documents, a reference to itself, references that lead into the cycle, and
one that leads nowhere. -/
def crossed : CellId → Option ArtifactId
  | ⟨0, 0⟩ => some ⟨1, 0⟩
  | ⟨0, 1⟩ => some ⟨0, 1⟩
  | ⟨0, 2⟩ => some ⟨1, 1⟩
  | ⟨1, 0⟩ => some ⟨0, 0⟩
  | ⟨1, 1⟩ => some ⟨0, 0⟩
  | _ => none

/-- Every slot of `crossing` has its own reference. -/
theorem paired_crossing : crossing.Paired := by
  refine paired_of_listed (fun i d h => ?_) (by decide +kernel)
  match i with
  | 0 | 1 => exact Option.some.inj h ▸ rfl
  | _ + 2 => cases h

theorem reportsCycles_crossing :
    crossing.Paired ∧ (crossing.boundBy crossed).ReportsCycles crossing ∧
      cycles (crossing.boundBy crossed) crossing =
        [.cycle ⟨"a", ["one"]⟩ [⟨"a", ["one"]⟩, ⟨"b", ["two"]⟩, ⟨"a", ["one"]⟩],
          .cycle ⟨"a", ["self"]⟩ [⟨"a", ["self"]⟩, ⟨"a", ["self"]⟩]] :=
  ⟨paired_crossing, paired_crossing.reportsCycles crossed, by decide +kernel⟩

end ArtifactStore
end ApiGraph
