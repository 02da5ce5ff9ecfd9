/-
# Bindings are written once

A run of the linker that works in place looks at every cell first, and then writes the bindings
one after the other (`ArtifactStore.resolve`).  It breaks down where an edge is checked at an
artifact that is not there, where a binding is written to a cell that is not there, and where one
is written to a cell that is bound already.

The three sorts of cells are treated alike (`CellSort`).  Writing bindings to different cells is
writing them all at once, if none was bound before (`CellSort.assignAll_eq`).
-/

import ApiGraph.Proofs.Compilation.Assembled
import ApiGraph.Proofs.Linking.Outcome

namespace ApiGraph

open Linking

/-! ## Writing in place -/

/-- Where a run breaks down. -/
inductive Breakdown where
  /-- A binding is written to a cell that is bound: the promise at its origin was assigned
  twice. -/
  | assignedTwice (origin : Location)
  /-- A binding is written to a cell that is not there. -/
  | noCell (cell : CellId)
  /-- An edge is checked at an artifact that is not there. -/
  | noArtifact (id : ArtifactId)
  deriving DecidableEq, Repr

/-- One of the three sorts of cells: where a document has them, and how they are bound. -/
structure CellSort where
  Cell : Type
  Target : Type
  cells : DocumentStore → Array Cell
  put : DocumentStore → Array Cell → DocumentStore
  origin : Cell → Location
  binding : Cell → Option Target
  bind : Cell → Target → Cell
  cells_put : ∀ d cs, cells (put d cs) = cs
  put_cells : ∀ d, put d (cells d) = d
  put_put : ∀ d cs cs', put (put d cs) cs' = put d cs'
  index_put : ∀ d cs, (put d cs).index = d.index
  binding_bind : ∀ c x, binding (bind c x) = some x

namespace CellSort

/-- The slots of references. -/
abbrev references : CellSort where
  Cell := ReferenceSlot
  Target := ArtifactId
  cells := DocumentStore.references
  put d cs := { d with references := cs }
  origin := ReferenceSlot.origin
  binding := ReferenceSlot.binding
  bind c x := { c with binding := some x }
  cells_put _ _ := rfl
  put_cells _ := rfl
  put_put _ _ _ := rfl
  index_put _ _ := rfl
  binding_bind _ _ := rfl

/-- The promises of one artifact. -/
abbrev promises : CellSort where
  Cell := PromiseCell
  Target := ArtifactId
  cells := DocumentStore.promises
  put d cs := { d with promises := cs }
  origin := PromiseCell.origin
  binding := PromiseCell.binding
  bind c x := { c with binding := some x }
  cells_put _ _ := rfl
  put_cells _ := rfl
  put_put _ _ _ := rfl
  index_put _ _ := rfl
  binding_bind _ _ := rfl

/-- The promises of several artifacts. -/
abbrev lists : CellSort where
  Cell := ListCell
  Target := List ArtifactId
  cells := DocumentStore.lists
  put d cs := { d with lists := cs }
  origin := ListCell.origin
  binding := ListCell.binding
  bind c x := { c with binding := some x }
  cells_put _ _ := rfl
  put_cells _ := rfl
  put_put _ _ _ := rfl
  index_put _ _ := rfl
  binding_bind _ _ := rfl

/-- The cell with a number. -/
def cell? (k : CellSort) (s : ArtifactStore) (cell : CellId) : Option k.Cell :=
  (s.documents[cell.document]?).bind fun d => (k.cells d)[cell.index]?

/-- Every cell with its number. -/
def all (k : CellSort) (s : ArtifactStore) : List (CellId × k.Cell) :=
  numberedRows (fun d => d.index) k.cells CellId.mk s.documents

/-- Writes a binding over what the cell was bound to. -/
def write (k : CellSort) (s : ArtifactStore) (cell : CellId) (x : k.Target) : ArtifactStore :=
  ⟨s.documents.modify cell.document fun d =>
    k.put d ((k.cells d).modify cell.index (k.bind · x))⟩

/-- Binds a cell, which must not be bound. -/
def assign (k : CellSort) (s : ArtifactStore) (t : CellId × k.Target) :
    Except Breakdown ArtifactStore :=
  match k.cell? s t.1 with
  | none => .error (.noCell t.1)
  | some c =>
    if (k.binding c).isSome then .error (.assignedTwice (k.origin c)) else .ok (k.write s t.1 t.2)

/-- Binds cells one after the other. -/
def assignAll (k : CellSort) (s : ArtifactStore) (ts : List (CellId × k.Target)) :
    Except Breakdown ArtifactStore :=
  ts.foldlM k.assign s

/-- Where a bound cell begins. -/
def taken? (k : CellSort) (c : k.Cell) : Option Location :=
  if (k.binding c).isSome then some (k.origin c) else none

/-- A document with the bindings written to all its cells at once. -/
def bindAll (k : CellSort) (ts : List (CellId × k.Target)) (d : DocumentStore) : DocumentStore :=
  k.put d ((k.cells d).mapIdx fun i c => (lookup ts ⟨d.index, i⟩).elim c (k.bind c))

end CellSort

/-- The bindings that a run writes. -/
structure Assignments where
  references : List (CellId × CellSort.references.Target)
  promises : List (CellId × CellSort.promises.Target)
  lists : List (CellId × CellSort.lists.Target)

namespace ArtifactStore

/-- The bindings for the cells, by what a run finds. -/
def assignments (s : ArtifactStore) : Assignments :=
  let f := findings s
  { references := f.references
    promises := f.promises
    lists := s.lists.map fun (cell, _) => (cell, lookupAll f.lists cell) }

/-- Writes bindings, sort by sort and one after the other. -/
def assign (s : ArtifactStore) (w : Assignments) : Except Breakdown ArtifactStore := do
  let s ← CellSort.references.assignAll s w.references
  let s ← CellSort.promises.assignAll s w.promises
  CellSort.lists.assignAll s w.lists

/-- **Links in place:** gives the errors, and the store that is left behind. -/
def resolve (s : ArtifactStore) : Except Breakdown (List LinkError × ArtifactStore) :=
  match (findings s).astray with
  | some id => .error (.noArtifact id)
  | none =>
    match (findings s).errors with
    | [] => (s.assign s.assignments).map ([], ·)
    | errors => .ok (errors, s)

end ArtifactStore

/-! ## Looking numbers up -/

section Lookup

variable {α γ : Type} {cell : CellId}

/-- A cell is looked up from the front. -/
theorem lookup_cons (c : CellId) (x : α) (xs : List (CellId × α)) :
    lookup ((c, x) :: xs) cell = if c = cell then some x else lookup xs cell := by
  by_cases h : c = cell
  · simp [lookup, h]
  · simp [lookup, h]

/-- A cell is found if it is listed. -/
theorem isSome_lookup_iff {xs : List (CellId × α)} :
    (lookup xs cell).isSome ↔ cell ∈ xs.map (·.1) := by
  induction xs with
  | nil => simp [lookup]
  | cons entry rest ih =>
    obtain ⟨c, x⟩ := entry
    rw [lookup_cons, List.map_cons, List.mem_cons]
    by_cases h : c = cell
    · simp [h]
    · rw [if_neg h, ih, eq_comm]
      simp [h]

/-- Where no number is listed twice, what is found under it is what is listed with it. -/
theorem lookup_eq_some_iff {xs : List (CellId × α)} (distinct : (xs.map (·.1)).Nodup) {x : α} :
    lookup xs cell = some x ↔ (cell, x) ∈ xs := by
  induction xs with
  | nil => simp [lookup]
  | cons entry rest ih =>
    obtain ⟨c, y⟩ := entry
    rw [List.map_cons, List.nodup_cons] at distinct
    rw [lookup_cons, List.mem_cons, Prod.mk.injEq]
    by_cases h : c = cell
    · subst h
      have fresh : (c, x) ∉ rest := fun m => distinct.1 (List.mem_map_of_mem (f := (·.1)) m)
      simp [fresh, eq_comm]
    · rw [if_neg h, ih distinct.2]
      simp [Ne.symm h]

/-- The first that is found is the same if the same is found at each. -/
theorem findSome?_congr {ρ : Type} {f g : α → Option ρ} {xs : List α}
    (same : ∀ x ∈ xs, f x = g x) : xs.findSome? f = xs.findSome? g := by
  induction xs with
  | nil => rfl
  | cons x rest ih =>
    rw [List.findSome?_cons, List.findSome?_cons, same x (List.mem_cons_self ..),
      ih fun y hy => same y (List.mem_cons_of_mem _ hy)]

/-- To go through some entries and look each up among all is to go through all and stop at
these. -/
theorem findSome?_lookup {ρ : Type} {ts : List (CellId × α)} {xs : List (CellId × γ)}
    (h : γ → Option ρ) (part : List.Sublist (ts.map (·.1)) (xs.map (·.1)))
    (distinct : (xs.map (·.1)).Nodup) :
    ts.findSome? (fun t => (lookup xs t.1).bind h) =
      xs.findSome? (fun x => if (lookup ts x.1).isSome then h x.2 else none) := by
  induction xs generalizing ts with
  | nil =>
    obtain rfl : ts = [] := by simpa using part
    rfl
  | cons entry rest ih =>
    obtain ⟨c, x⟩ := entry
    rw [List.map_cons, List.nodup_cons] at distinct
    rw [List.map_cons] at part
    -- what is listed further on has other numbers
    have further : ∀ ts' : List (CellId × α),
        List.Sublist (ts'.map (·.1)) (rest.map (·.1)) →
        ts'.findSome? (fun t => (lookup ((c, x) :: rest) t.1).bind h) =
          ts'.findSome? (fun t => (lookup rest t.1).bind h) := by
      intro ts' part'
      refine findSome?_congr fun t ht => ?_
      have other : c ≠ t.1 := fun e =>
        distinct.1 (e ▸ part'.subset (List.mem_map_of_mem (f := (·.1)) ht))
      rw [lookup_cons, if_neg other]
    rw [List.findSome?_cons]
    rcases List.sublist_cons_iff.1 part with part' | ⟨keys, hkeys, part'⟩
    · have none : ¬ (lookup ts c).isSome := fun found =>
        distinct.1 (part'.subset (isSome_lookup_iff.1 found))
      rw [further ts part', ih part' distinct.2]
      simp [none]
    · obtain ⟨⟨c', y⟩, ts', rfl, same, rfl⟩ := List.map_eq_cons_iff.1 hkeys
      obtain rfl : c' = c := same
      have others : rest.findSome? (fun x =>
            if (lookup ((c', y) :: ts') x.1).isSome then h x.2 else none) =
          rest.findSome? (fun x => if (lookup ts' x.1).isSome then h x.2 else none) := by
        refine findSome?_congr fun entry he => ?_
        have other : c' ≠ entry.1 := fun e =>
          distinct.1 (e ▸ List.mem_map_of_mem (f := (·.1)) he)
        rw [lookup_cons, if_neg other]
      rw [List.findSome?_cons, others, ← ih part' distinct.2, further ts' part']
      simp [lookup_cons]

end Lookup

/-! ## Writing one after the other -/

namespace CellSort

variable {k : CellSort} {s : ArtifactStore} {cell : CellId}

/-- What is found among all cells is the cell with the number. -/
theorem lookup_all (hs : s.Numbered) : lookup (k.all s) cell = k.cell? s cell := by
  have distinct : ((k.all s).map (·.1)).Nodup :=
    nodup_keys_numberedRows (nodup_of_places hs) (by simp)
  refine Option.ext fun c => ?_
  rw [lookup_eq_some_iff distinct]
  obtain ⟨m, n⟩ := cell
  rw [all, mem_numberedRows_key hs (by simp), cell?]
  simp only [Option.bind_eq_some_iff]

/-- Writing a binding changes one cell. -/
theorem cell?_write (s : ArtifactStore) (cell other : CellId) (x : k.Target) :
    k.cell? (k.write s cell x) other =
      if cell = other then (k.cell? s other).map (k.bind · x) else k.cell? s other := by
  obtain ⟨m, n⟩ := cell
  obtain ⟨m', n'⟩ := other
  simp only [cell?, write, List.getElem?_modify, CellId.mk.injEq]
  by_cases hm : m = m'
  · subst hm
    cases s.documents[m]? with
    | none => simp
    | some d =>
      simp only [if_true, Option.map_eq_map, Option.map_some, Option.bind_some, k.cells_put,
        Array.getElem?_modify, true_and]
  · simp [hm]

/-- It writes to one document what all at once writes there. -/
theorem documents_write (hs : s.Numbered) (cell : CellId) (x : k.Target) :
    (k.write s cell x).documents = s.documents.map (k.bindAll [(cell, x)]) := by
  refine List.ext_getElem? fun m => ?_
  rw [write, List.getElem?_modify, List.getElem?_map]
  cases hd : s.documents[m]? with
  | none => rfl
  | some d =>
    have index : d.index = m := hs m d hd
    simp only [Option.map_eq_map, Option.map_some, Option.some.injEq]
    by_cases hm : cell.document = m
    · rw [if_pos hm, bindAll]
      congr 1
      refine Array.ext_getElem? fun n => ?_
      rw [Array.getElem?_modify, Array.getElem?_mapIdx]
      cases (k.cells d)[n]? with
      | none => simp
      | some c =>
        have same : cell = ⟨d.index, n⟩ ↔ cell.index = n := by
          rw [index, ← hm]
          constructor
          · exact fun h => congrArg CellId.index h
          · rintro rfl
            rfl
        rw [Option.map_some, Option.map_some, lookup_cons]
        by_cases hn : cell.index = n
        · rw [if_pos hn, if_pos (same.2 hn)]
          rfl
        · rw [if_neg hn, if_neg (fun h => hn (same.1 h))]
          rfl
    · rw [if_neg hm]
      have none : ∀ n, lookup [(cell, x)] ⟨d.index, n⟩ = none := by
        intro n
        rw [lookup_cons, if_neg]
        · rfl
        · rintro rfl
          exact hm index
      have same : (k.cells d).mapIdx (fun i c => (lookup [(cell, x)] ⟨d.index, i⟩).elim c
          (k.bind c)) = k.cells d := by
        refine Array.ext_getElem? fun n => ?_
        rw [Array.getElem?_mapIdx, none]
        cases (k.cells d)[n]? <;> rfl
      rw [bindAll, same, k.put_cells]

/-- Without targets nothing is bound. -/
theorem bindAll_nil (d : DocumentStore) : k.bindAll [] d = d := by
  have same : (k.cells d).mapIdx (fun i c => (lookup ([] : List (CellId × k.Target))
      ⟨d.index, i⟩).elim c (k.bind c)) = k.cells d := by
    refine Array.ext_getElem? fun n => ?_
    rw [Array.getElem?_mapIdx]
    cases (k.cells d)[n]? <;> rfl
  rw [bindAll, same, k.put_cells]

/-- Binding does not change the number of a document. -/
theorem index_bindAll (ts : List (CellId × k.Target)) (d : DocumentStore) :
    (k.bindAll ts d).index = d.index :=
  k.index_put ..

/-- A binding that is written first stays, if no other is written to its cell. -/
theorem bindAll_bindAll {x : k.Target} {ts : List (CellId × k.Target)}
    (fresh : cell ∉ ts.map (·.1)) (d : DocumentStore) :
    k.bindAll ts (k.bindAll [(cell, x)] d) = k.bindAll ((cell, x) :: ts) d := by
  rw [bindAll, index_bindAll]
  simp only [bindAll, k.cells_put, k.put_put]
  congr 1
  refine Array.ext_getElem? fun n => ?_
  simp only [Array.getElem?_mapIdx, Option.map_map]
  cases (k.cells d)[n]? with
  | none => rfl
  | some c =>
    simp only [Option.map_some, Function.comp_apply, lookup_cons]
    by_cases h : cell = ⟨d.index, n⟩
    · have none : lookup ts ⟨d.index, n⟩ = none := by
        rw [← Option.not_isSome_iff_eq_none, isSome_lookup_iff, ← h]
        exact fresh
      rw [if_pos h, if_pos h, none]
      rfl
    · rw [if_neg h, if_neg h]
      rfl

/-- Binding different cells one after the other is binding them all at once, unless one of them
was bound before. -/
theorem assignAll_eq_of_present :
    ∀ (ts : List (CellId × k.Target)) {s : ArtifactStore}, s.Numbered →
      (ts.map (·.1)).Nodup → (∀ t ∈ ts, (k.cell? s t.1).isSome) →
      k.assignAll s ts =
        match ts.findSome? (fun t => (k.cell? s t.1).bind k.taken?) with
        | some origin => .error (.assignedTwice origin)
        | none => .ok ⟨s.documents.map (k.bindAll ts)⟩
  | [], s, _, _, _ => by
    have same : s.documents.map (k.bindAll []) = s.documents := by
      rw [List.map_congr_left fun d _ => bindAll_nil d, List.map_id']
    rw [List.findSome?_nil, same]
    rfl
  | (cell, x) :: ts, s, hs, distinct, present => by
    rw [List.map_cons, List.nodup_cons] at distinct
    obtain ⟨c, hc⟩ := Option.isSome_iff_exists.1 (present (cell, x) (List.mem_cons_self ..))
    rw [assignAll, List.foldlM_cons, assign, List.findSome?_cons]
    simp only [hc, Option.bind_some, taken?]
    by_cases bound : (k.binding c).isSome
    · simp only [bound, if_true]
      rfl
    · simp only [bound]
      have documents := documents_write hs cell x
      have numbered : (k.write s cell x).Numbered := by
        intro i d hd
        rw [documents, List.getElem?_map, Option.map_eq_some_iff] at hd
        obtain ⟨d', hd', rfl⟩ := hd
        rw [index_bindAll]
        exact hs i d' hd'
      -- the cells that are still to be bound are as they were
      have others : ∀ t ∈ ts, k.cell? (k.write s cell x) t.1 = k.cell? s t.1 := by
        intro t ht
        have other : cell ≠ t.1 := fun e =>
          distinct.1 (e ▸ List.mem_map_of_mem (f := (·.1)) ht)
        rw [cell?_write, if_neg other]
      have rest := assignAll_eq_of_present ts numbered distinct.2 fun t ht => by
        rw [others t ht]
        exact present t (List.mem_cons_of_mem _ ht)
      have taken : ts.findSome? (fun t => (k.cell? (k.write s cell x) t.1).bind k.taken?) =
          ts.findSome? (fun t => (k.cell? s t.1).bind k.taken?) :=
        findSome?_congr fun t ht => by rw [others t ht]
      have all : (k.write s cell x).documents.map (k.bindAll ts) =
          s.documents.map (k.bindAll ((cell, x) :: ts)) := by
        rw [documents, List.map_map]
        exact List.map_congr_left fun d _ => bindAll_bindAll distinct.1 d
      rw [taken, all] at rest
      exact rest

/-- Where the first cell begins that is bound already and for which there is a binding. -/
def firstTaken? (k : CellSort) (s : ArtifactStore) (ts : List (CellId × k.Target)) :
    Option Location :=
  (k.all s).findSome? fun x => if (lookup ts x.1).isSome then k.taken? x.2 else none

/-- **Binding cells in their order** is binding them all at once, unless one of them was bound
before. -/
theorem assignAll_eq (hs : s.Numbered) (ts : List (CellId × k.Target))
    (part : List.Sublist (ts.map (·.1)) ((k.all s).map (·.1))) :
    k.assignAll s ts =
      match k.firstTaken? s ts with
      | some origin => .error (.assignedTwice origin)
      | none => .ok ⟨s.documents.map (k.bindAll ts)⟩ := by
  have distinct : ((k.all s).map (·.1)).Nodup :=
    nodup_keys_numberedRows (nodup_of_places hs) (by simp)
  have present : ∀ t ∈ ts, (k.cell? s t.1).isSome := by
    intro t ht
    rw [← lookup_all hs, isSome_lookup_iff]
    exact part.subset (List.mem_map_of_mem ht)
  have taken : ts.findSome? (fun t => (k.cell? s t.1).bind k.taken?) = k.firstTaken? s ts := by
    rw [firstTaken?, ← findSome?_lookup k.taken? part distinct]
    exact findSome?_congr fun t _ => by rw [lookup_all hs]
  rw [assignAll_eq_of_present ts hs (part.nodup distinct) present, taken]

/-- What is written to one sort of cells leaves the other sorts as they are. -/
theorem all_map {k' : CellSort} {g : DocumentStore → DocumentStore}
    (index : ∀ d, (g d).index = d.index) (cells : ∀ d, k'.cells (g d) = k'.cells d) :
    k'.all ⟨s.documents.map g⟩ = k'.all s := by
  simp only [all, numberedRows, List.flatMap_map, index, cells]

/-- What is done to documents leaves them under their numbers if it changes no number. -/
theorem numbered_map {g : DocumentStore → DocumentStore} (hs : s.Numbered)
    (index : ∀ d, (g d).index = d.index) : ArtifactStore.Numbered ⟨s.documents.map g⟩ := by
  intro i d hd
  obtain ⟨d', hd', rfl⟩ := Option.map_eq_some_iff.1 ((List.getElem?_map ..).symm.trans hd)
  rw [index]
  exact hs i d' hd'

end CellSort
end ApiGraph
