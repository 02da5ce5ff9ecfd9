/-
# What the numbers of artifacts and cells mean

An artifact is known by the number of its document and its number in the document,
and so is every cell.  In a catalog whose shelves stand at the places that their
numbers say (`Catalog.Numbered`), listing everything with its number
(`Catalog.entries`, `ArtifactStore.references`, …) and looking a number up
(`Catalog.get?`, `ArtifactStore.reference?`, …) say the same, and no number is
listed twice.

Where moreover no two documents share a name and no two artifacts of a document
share a location, looking a location up finds exactly the artifact that stands
there (`Catalog.find?_eq_some_iff`).
-/

import ApiGraph.Store
import Mathlib.Data.List.Nodup

namespace ApiGraph

/-! ## Numbered rows -/

section Rows

variable {δ γ κ : Type} {index : δ → Nat} {items : δ → Array γ} {key : Nat → Nat → κ}

/-- The items of every row, each under the key made from the row's number and its own. -/
def numberedRows (index : δ → Nat) (items : δ → Array γ) (key : Nat → Nat → κ)
    (rows : List δ) : List (κ × γ) :=
  rows.flatMap fun d => (items d).toList.zipIdx.map fun (x, i) => (key (index d) i, x)

/-- What is listed under a key is the item that its row has under the number. -/
theorem mem_numberedRows {rows : List δ} {entry : κ × γ} :
    entry ∈ numberedRows index items key rows ↔
      ∃ d ∈ rows, ∃ i, (items d)[i]? = some entry.2 ∧ entry.1 = key (index d) i := by
  simp only [numberedRows, List.mem_flatMap, List.mem_map, Prod.exists,
    List.mem_zipIdx_iff_getElem?, Array.getElem?_toList]
  constructor
  · rintro ⟨d, hd, x, i, hx, rfl⟩
    exact ⟨d, hd, i, hx, rfl⟩
  · rintro ⟨d, hd, i, hx, he⟩
    exact ⟨d, hd, entry.2, i, hx, Prod.ext he.symm rfl⟩

/-- Something is listed where a row has an item. -/
theorem exists_mem_numberedRows {rows : List δ} {d : δ} (hd : d ∈ rows)
    (some : (items d).size ≠ 0) : ∃ entry, entry ∈ numberedRows index items key rows := by
  have first : 0 < (items d).size := Nat.pos_of_ne_zero some
  exact ⟨(key (index d) 0, (items d)[0]),
    mem_numberedRows.2 ⟨d, hd, 0, Array.getElem?_eq_getElem first, rfl⟩⟩

/-- The row with a number is the row at that place. -/
theorem mem_numberedRows_key {rows : List δ}
    (numbered : ∀ i d, rows[i]? = some d → index d = i)
    (injective : ∀ m n m' n', key m n = key m' n' → m = m' ∧ n = n') {m n : Nat} {x : γ} :
    (key m n, x) ∈ numberedRows index items key rows ↔
      ∃ d, rows[m]? = some d ∧ (items d)[n]? = some x := by
  rw [mem_numberedRows]
  constructor
  · rintro ⟨d, hd, i, hx, he⟩
    obtain ⟨rfl, rfl⟩ := injective _ _ _ _ he
    obtain ⟨j, hj⟩ := List.mem_iff_getElem?.1 hd
    exact ⟨d, by rwa [numbered j d hj], hx⟩
  · rintro ⟨d, hd, hx⟩
    exact ⟨d, List.mem_of_getElem? hd, n, hx, by rw [numbered m d hd]⟩

/-- No key is listed twice. -/
theorem nodup_keys_numberedRows {rows : List δ} (numbered : (rows.map index).Nodup)
    (injective : ∀ m n m' n', key m n = key m' n' → m = m' ∧ n = n') :
    ((numberedRows index items key rows).map Prod.fst).Nodup := by
  rw [numberedRows, List.map_flatMap, List.nodup_flatMap]
  constructor
  · intro d _
    have keys : ((items d).toList.zipIdx.map fun (x, i) => (key (index d) i, x)).map Prod.fst
        = ((items d).toList.zipIdx.map Prod.snd).map (key (index d)) := by
      simp only [List.map_map]
      rfl
    rw [keys, List.zipIdx_map_snd]
    exact (List.nodup_range' ..).map fun i j h => (injective _ _ _ _ h).2
  · refine (List.pairwise_map.1 numbered).imp fun differ => ?_
    intro k hk hk'
    simp only [List.map_map, List.mem_map, Prod.exists, Function.comp_apply] at hk hk'
    obtain ⟨_, i, _, rfl⟩ := hk
    obtain ⟨_, j, _, he⟩ := hk'
    exact differ (injective _ _ _ _ he).1.symm

end Rows

/-- Numbers that are the places of a list are different. -/
theorem nodup_of_places {δ : Type} {index : δ → Nat} {rows : List δ}
    (numbered : ∀ i d, rows[i]? = some d → index d = i) : (rows.map index).Nodup := by
  have places : rows.map index = List.range rows.length := by
    refine List.ext_getElem (by simp) fun i h₁ h₂ => ?_
    rw [List.getElem_map, List.getElem_range]
    exact numbered i _ (List.getElem?_eq_getElem _)
  rw [places]
  exact List.nodup_range

/-! ## Artifacts -/

namespace Catalog

variable {c : Catalog} {id : ArtifactId} {a : Artifact} {l : Location}

/-- Every shelf stands at the place that its number says. -/
def Numbered (shelves : Catalog) : Prop :=
  ∀ (i : Nat) (s : Shelf), shelves[i]? = some s → s.index = i

/-- The entries of a catalog are numbered by their shelves. -/
theorem entries_eq_numberedRows (c : Catalog) :
    c.entries = numberedRows Shelf.index Shelf.artifacts ArtifactId.mk c := rfl

/-- What is listed under a number is what the number finds. -/
theorem mem_entries_iff (h : c.Numbered) : (id, a) ∈ c.entries ↔ c.get? id = some a := by
  obtain ⟨m, n⟩ := id
  rw [entries_eq_numberedRows, mem_numberedRows_key h (by simp)]
  simp only [get?, Option.bind_eq_some_iff]

/-- No artifact is listed twice. -/
theorem nodup_ids (h : c.Numbered) : (c.entries.map Prod.fst).Nodup :=
  nodup_keys_numberedRows (nodup_of_places h) (by simp)

/-- All artifacts are listed. -/
theorem length_entries (c : Catalog) : c.entries.length = c.size := by
  induction c with
  | nil => rfl
  | cons s rest ih =>
    simp only [entries, List.flatMap_cons, List.length_append] at ih ⊢
    rw [ih]
    simp [size, Shelf.entries]

/-- Different numbers that all find an artifact are not more than the artifacts. -/
theorem length_le_size (h : c.Numbered) {ids : List ArtifactId} (distinct : ids.Nodup)
    (present : ∀ id ∈ ids, (c.get? id).isSome) : ids.length ≤ c.size := by
  have sub : ids ⊆ c.entries.map Prod.fst := by
    intro id hid
    obtain ⟨a, ha⟩ := Option.isSome_iff_exists.1 (present id hid)
    exact List.mem_map.2 ⟨(id, a), (mem_entries_iff h).2 ha, rfl⟩
  simpa [length_entries] using distinct.length_le_of_subset sub

/-- A condition selects the artifacts that it holds of. -/
theorem mem_select_iff (h : c.Numbered) {accepts : Artifact → Bool} :
    id ∈ c.select accepts ↔ ∃ a, c.get? id = some a ∧ accepts a = true := by
  simp only [select, List.mem_map, List.mem_filter, Prod.exists]
  constructor
  · rintro ⟨_, a, ⟨ha, hacc⟩, rfl⟩
    exact ⟨a, (mem_entries_iff h).1 ha, hacc⟩
  · rintro ⟨a, ha, hacc⟩
    exact ⟨id, a, ⟨(mem_entries_iff h).2 ha, hacc⟩, rfl⟩

/-- No artifact is selected twice. -/
theorem nodup_select (h : c.Numbered) (accepts : Artifact → Bool) :
    (c.select accepts).Nodup :=
  (nodup_ids h).sublist (List.filter_sublist.map _)

/-- What a location finds stands there. -/
theorem exists_of_find? (h : c.Numbered) (found : c.find? l = some id) :
    ∃ a, c.get? id = some a ∧ a.location = l := by
  obtain ⟨s, hs, hid⟩ := Option.bind_eq_some_iff.1 found
  obtain ⟨n, hn, rfl⟩ := Option.map_eq_some_iff.1 hid
  obtain ⟨i, hi⟩ := List.mem_iff_getElem?.1 (List.mem_of_find?_eq_some hs)
  obtain ⟨hlt, hloc, -⟩ := List.findIdx?_eq_some_iff_getElem.1 hn
  rw [Array.length_toList] at hlt
  refine ⟨s.artifacts[n], ?_, by simpa using hloc⟩
  rw [get?, h i s hi]
  simp only [hi, Option.bind_some, Array.getElem?_eq_getElem hlt]

/-- No two documents share a name, artifacts are located in their own document, and no
two of one document share a location. -/
structure Located (c : Catalog) : Prop where
  names_nodup : (List.map Shelf.document c).Nodup
  own_document : ∀ s ∈ c, ∀ a ∈ s.artifacts.toList, a.location.document = s.document
  places_nodup : ∀ s ∈ c, (s.artifacts.toList.map Artifact.location).Nodup

/-- An artifact is found at its location. -/
theorem find?_of_get? (hl : c.Located) (h : c.Numbered) (ha : c.get? id = some a) :
    c.find? a.location = some id := by
  obtain ⟨m, n⟩ := id
  obtain ⟨s, hs, hn⟩ := Option.bind_eq_some_iff.1 ha
  replace hn : s.artifacts[n]? = some a := hn
  have hmem := List.mem_of_getElem? hs
  have haa : a ∈ s.artifacts.toList := Array.mem_toList_iff.2 (Array.mem_of_getElem? hn)
  have shelf : List.find? (fun t : Shelf => t.document == a.location.document) c = some s := by
    rw [hl.own_document s hmem a haa]
    obtain ⟨t, ht⟩ := Option.isSome_iff_exists.1
      (List.find?_isSome (p := fun t : Shelf => t.document == s.document) |>.2 ⟨s, hmem, by simp⟩)
    have same : t.document = s.document := by simpa using List.find?_some ht
    rw [ht, List.inj_on_of_nodup_map hl.names_nodup (List.mem_of_find?_eq_some ht) hmem same]
  have place : s.artifacts.toList.findIdx? (·.location == a.location) = some n := by
    obtain ⟨hlt, he⟩ := Array.getElem?_eq_some_iff.1 hn
    refine List.findIdx?_eq_some_iff_getElem.2 ⟨by simpa using hlt, by simp [he], ?_⟩
    intro j hj
    have hjlt : j < s.artifacts.toList.length := by rw [Array.length_toList]; omega
    have differ := List.pairwise_iff_getElem.1 (hl.places_nodup s hmem) j n
      (by simpa using hjlt) (by simpa using hlt) hj
    simpa [he] using differ
  rw [find?, shelf, Option.bind_some, Shelf.find?, place, h m s hs, Option.map_some]

/-- **Looking a location up** finds the artifact that stands there, and nothing else. -/
theorem find?_eq_some_iff (hl : c.Located) (h : c.Numbered) :
    c.find? l = some id ↔ ∃ a, c.get? id = some a ∧ a.location = l := by
  constructor
  · exact exists_of_find? h
  · rintro ⟨a, ha, rfl⟩
    exact find?_of_get? hl h ha

end Catalog

/-! ## Cells -/

namespace ArtifactStore

variable {s : ArtifactStore} {cell : CellId}

/-- Every document stands at the place that its number says. -/
def Numbered (s : ArtifactStore) : Prop :=
  ∀ (i : Nat) (d : DocumentStore), s.documents[i]? = some d → d.index = i

/-- The shelves of a numbered store stand where their numbers say. -/
theorem Numbered.catalog (h : s.Numbered) : s.catalog.Numbered := by
  intro i t ht
  rw [ArtifactStore.catalog, List.getElem?_map, Option.map_eq_some_iff] at ht
  obtain ⟨d, hd, rfl⟩ := ht
  exact h i d hd

/-- A reference is listed under the cell where it stands. -/
theorem mem_references_iff (h : s.Numbered) {slot : ReferenceSlot} :
    (cell, slot) ∈ s.references ↔ s.reference? cell = some slot := by
  obtain ⟨m, n⟩ := cell
  have rows : s.references =
    numberedRows (fun d => d.index) DocumentStore.references CellId.mk s.documents := rfl
  rw [rows, mem_numberedRows_key h (by simp)]
  simp only [reference?, Option.bind_eq_some_iff]

/-- A promise is listed under the cell where it stands. -/
theorem mem_promises_iff (h : s.Numbered) {p : PromiseCell} :
    (cell, p) ∈ s.promises ↔ s.promise? cell = some p := by
  obtain ⟨m, n⟩ := cell
  have rows : s.promises =
    numberedRows (fun d => d.index) DocumentStore.promises CellId.mk s.documents := rfl
  rw [rows, mem_numberedRows_key h (by simp)]
  simp only [promise?, Option.bind_eq_some_iff]

/-- A list is listed under the cell where it stands. -/
theorem mem_lists_iff (h : s.Numbered) {l : ListCell} :
    (cell, l) ∈ s.lists ↔ s.list? cell = some l := by
  obtain ⟨m, n⟩ := cell
  have rows : s.lists =
    numberedRows (fun d => d.index) DocumentStore.lists CellId.mk s.documents := rfl
  rw [rows, mem_numberedRows_key h (by simp)]
  simp only [list?, Option.bind_eq_some_iff]

/-- No reference is listed twice. -/
theorem nodup_references (h : s.Numbered) : (s.references.map Prod.fst).Nodup :=
  nodup_keys_numberedRows (nodup_of_places h) (by simp)

/-- No promise is listed twice. -/
theorem nodup_promises (h : s.Numbered) : (s.promises.map Prod.fst).Nodup :=
  nodup_keys_numberedRows (nodup_of_places h) (by simp)

/-- No list is listed twice. -/
theorem nodup_lists (h : s.Numbered) : (s.lists.map Prod.fst).Nodup :=
  nodup_keys_numberedRows (nodup_of_places h) (by simp)

end ArtifactStore
end ApiGraph
