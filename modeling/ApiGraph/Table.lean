/-
# Ordered tables

A table holds values under text keys in the order in which the keys first came.
Writing under a key that is present replaces the value and keeps the place.

Tables are plain lists of pairs, so that recursive types may contain them; that
no key stands twice is the predicate `Distinct`, which `insert` keeps.
-/

namespace ApiGraph

/-- Values under text keys, in order. -/
abbrev Table (α : Type) := List (String × α)

namespace Table

variable {α β : Type}

/-- The value under a key. -/
def get? (t : Table α) (key : String) : Option α :=
  match t with
  | [] => none
  | (k, v) :: rest => if k = key then some v else get? rest key

/-- There is a value under the key. -/
def contains (t : Table α) (key : String) : Bool :=
  (t.get? key).isSome

/-- Writes a value: in place under a key that is present, else at the end. -/
def insert (t : Table α) (key : String) (value : α) : Table α :=
  match t with
  | [] => [(key, value)]
  | (k, v) :: rest => if k = key then (key, value) :: rest else (k, v) :: insert rest key value

/-- Removes the entry under a key. -/
def erase (t : Table α) (key : String) : Table α :=
  match t with
  | [] => []
  | (k, v) :: rest => if k = key then rest else (k, v) :: erase rest key

/-- The keys, in order. -/
def keys (t : Table α) : List String :=
  t.map (·.1)

/-- The table that results from writing entries one after the other. -/
def ofEntries (entries : List (String × α)) : Table α :=
  entries.foldl (fun t (key, value) => Table.insert t key value) []

/-- No key stands twice. -/
def Distinct (t : Table α) : Prop :=
  (keys t).Nodup

theorem get?_insert (t : Table α) (key k : String) (value : α) :
    get? (insert t key value) k = if key = k then some value else get? t k := by
  induction t with
  | nil => simp [insert, get?]
  | cons entry rest ih =>
    obtain ⟨k', v⟩ := entry
    by_cases h : k' = key
    · subst h
      simp only [insert, if_pos, get?]
      split <;> rfl
    · simp only [insert, h, if_false, get?, ih]
      split
      · split
        · subst_vars; exact absurd rfl h
        · rfl
      · rfl

theorem keys_insert (t : Table α) (key : String) (value : α) :
    keys (insert t key value) = if key ∈ keys t then keys t else keys t ++ [key] := by
  induction t with
  | nil => simp [insert, keys]
  | cons entry rest ih =>
    obtain ⟨k', v⟩ := entry
    by_cases h : k' = key
    · subst h; simp [insert, keys]
    · simp only [keys] at ih
      simp only [insert, h, if_false, keys, List.map_cons, ih, List.mem_cons, Ne.symm h,
        false_or]
      split <;> rename_i present <;> simp [present]

/-- A key that has a value is one of the keys. -/
theorem mem_keys_of_get? {t : Table α} {key : String} {value : α}
    (h : get? t key = some value) : key ∈ keys t := by
  induction t with
  | nil => simp [get?] at h
  | cons entry rest ih =>
    obtain ⟨k, v⟩ := entry
    simp only [get?] at h
    split at h
    · subst_vars; simp [keys]
    · simpa [keys] using Or.inr (by simpa [keys] using ih h)

/-- A value that is found is an entry. -/
theorem mem_of_get? {t : Table α} {key : String} {value : α} (h : get? t key = some value) :
    (key, value) ∈ t := by
  induction t with
  | nil => cases h
  | cons entry rest ih =>
    obtain ⟨k, v⟩ := entry
    rw [get?] at h
    split at h
    · cases h
      subst k
      exact List.mem_cons_self
    · exact List.mem_cons_of_mem _ (ih h)

theorem mem_insert {t : Table α} {key : String} {value : α} {x : String × α}
    (h : x ∈ t.insert key value) : x ∈ t ∨ x = (key, value) := by
  induction t with
  | nil => exact .inr (List.mem_singleton.1 h)
  | cons entry rest ih =>
    obtain ⟨k, v⟩ := entry
    rw [Table.insert] at h
    split at h
    · rcases List.mem_cons.1 h with rfl | h
      · exact .inr rfl
      · exact .inl (List.mem_cons_of_mem _ h)
    · rcases List.mem_cons.1 h with rfl | h
      · exact .inl List.mem_cons_self
      · exact (ih h).imp_left (List.mem_cons_of_mem _)

theorem mem_of_mem_erase {t : Table α} {key : String} {x : String × α} (h : x ∈ erase t key) :
    x ∈ t := by
  induction t with
  | nil => cases h
  | cons entry rest ih =>
    obtain ⟨k, v⟩ := entry
    rw [erase] at h
    split at h
    · exact List.mem_cons_of_mem _ h
    · rcases List.mem_cons.1 h with rfl | h
      · exact List.mem_cons_self
      · exact List.mem_cons_of_mem _ (ih h)

theorem Distinct.insert {t : Table α} (h : Distinct t) (key : String) (value : α) :
    Distinct (t.insert key value) := by
  unfold Distinct at *
  rw [keys_insert]
  split
  · exact h
  · rename_i absent
    refine List.nodup_append.2 ⟨h, by simp, ?_⟩
    intro a ha b hb
    simp only [List.mem_singleton] at hb
    subst hb
    intro hab
    subst hab
    exact absent ha

end Table
end ApiGraph
