/-
# Values that are restored

A value is restored if reading what is written of it gives the value again (`Restores`).  What a
decoder gives is restored (`Undoes`) if this holds of the decoders that it is made of: texts,
lists, tables, unions, and raw values.

A decoder that is bounded by the number of its own calls inside one another restores what is not
nested deeper, so `Restores` carries a bound on the depth.  Then what is given with one bound may
be read again with another.
-/

import ApiGraph.Document.Writing
import ApiGraph.Proofs.Json.Decoding
import ApiGraph.Proofs.Json.Parsing

namespace ApiGraph

/-! ## Tables -/

/-- An entry with a new key is put at the end. -/
theorem Table.insert_eq_append {α : Type} {t : Table α} {key : String} {v : α}
    (h : key ∉ t.keys) : t.insert key v = t ++ [(key, v)] := by
  induction t with
  | nil => rfl
  | cons entry rest ih =>
    obtain ⟨k, w⟩ := entry
    obtain ⟨other, later⟩ := not_or.1 (List.mem_cons.not.1 h)
    rw [Table.insert, if_neg (Ne.symm other), ih later, List.cons_append]

/-- Entries whose keys are different are put behind the table, one after the other. -/
theorem Table.foldl_insert {α : Type} {entries : List (String × α)} {t : Table α}
    (h : Table.Distinct (t ++ entries)) :
    entries.foldl (fun t (key, v) => Table.insert t key v) t = t ++ entries := by
  induction entries generalizing t with
  | nil => exact (List.append_nil t).symm
  | cons entry entries ih =>
    obtain ⟨key, v⟩ := entry
    have fresh : key ∉ t.keys := by
      intro mem
      rw [Table.Distinct, Table.keys, List.map_append, List.map_cons, List.nodup_append] at h
      exact h.2.2 _ mem _ List.mem_cons_self rfl
    rw [List.foldl_cons]
    simp only [Table.insert_eq_append fresh]
    rw [ih (by simpa using h), List.append_assoc, List.singleton_append]

/-- A table with different keys is made of its own entries. -/
theorem Table.ofEntries_eq_self {α : Type} {t : Table α} (h : t.Distinct) :
    Table.ofEntries t = t :=
  Table.foldl_insert (t := []) h

namespace Decoder

variable {α β σ : Type} {n : Nat} {d e : Decoder α} {write : α → Json} {v : α}

/-- What is written of the value holds integers of at most 64 bits, and at any depth below `n`
that has room for it the decoder gives the value for it. -/
structure Restores (n : Nat) (e : Decoder α) (write : α → Json) (v : α) : Prop where
  fits : ∀ x ∈ (write v).scalars, x.Fits
  read : ∀ depth < n, (write v).nesting ≤ depth → e depth (write v).toSource = .ok v

/-- Whatever the first decoder gives for a text is restored by the second. -/
def Undoes (n : Nat) (d e : Decoder α) (write : α → Json) : Prop :=
  d.Ensures (Restores n e write)

/-- What is restored within some depth is restored within less. -/
theorem Restores.le (h : Restores n e write v) {m : Nat} (less : m ≤ n) : Restores m e write v :=
  ⟨h.fits, fun depth small => h.read depth (Nat.lt_of_lt_of_le small less)⟩

/-- A decoder that wraps its value restores it if what is written is still the same. -/
theorem Restores.map (h : Restores n e write v) {f : α → β} {write' : β → Json}
    (same : write' (f v) = write v) :
    Restores n (fun depth s => f <$> e depth s) write' (f v) where
  fits := same ▸ h.fits
  read depth small room := by
    rw [same] at room ⊢
    rw [h.read depth small room]
    rfl

/-! ## Texts, truth values, and what may be null -/

/-- A text is restored. -/
theorem restores_text (s : String) : Restores n text .string s where
  fits := by simp
  read _ _ _ := rfl

/-- A flag is restored. -/
theorem restores_flag (b : Bool) : Restores n flag .bool b where
  fits x hx := by
    rw [List.mem_singleton.1 (hx : x ∈ [Scalar.bool b])]
    trivial
  read _ _ _ := rfl

/-- What is missing is written as `null`, and read as missing. -/
theorem restores_none : Restores n (optional e) (Document.optionJson write) none where
  fits x hx := by
    rw [List.mem_singleton.1 (hx : x ∈ [Scalar.null])]
    trivial
  read _ _ _ := rfl

/-- Only `null` is written as `null`. -/
theorem toSource_ne_null {w : Json} (h : w ≠ .null) : w.toSource ≠ .scalar (.ok .null) := by
  intro e
  cases w <;> simp [Json.toSource, Json.fold] at e h

/-- A decoder of what may be missing reads all but `null` as the inner one does. -/
theorem optional_eq_map {s : Source} (h : s ≠ .scalar (.ok .null)) (depth : Nat) :
    optional e depth s = some <$> e depth s := by
  unfold optional
  split
  · exact absurd rfl h
  · rfl

/-- What is there is restored if it is not written as `null`. -/
theorem restores_some (h : Restores n e write v) (given : write v ≠ .null) :
    Restores n (optional e) (Document.optionJson write) (some v) where
  fits := h.fits
  read depth small room := by
    rw [Document.optionJson, optional_eq_map (toSource_ne_null given), h.read depth small room]
    rfl

/-- What may be missing is restored if what is there is, and is not written as `null`. -/
theorem restores_option {x : Option α} (h : ∀ y ∈ x, Restores n e write y)
    (given : ∀ y ∈ x, write y ≠ .null) :
    Restores n (optional e) (Document.optionJson write) x := by
  cases x with
  | none => exact restores_none
  | some y => exact restores_some (h y rfl) (given y rfl)

/-- A text that may be missing is restored. -/
theorem restores_optionalText (x : Option String) : Restores n (optional text) .ofText? x := by
  have written : Document.optionJson .string = Json.ofText? := by
    funext x
    cases x <;> rfl
  exact written ▸ restores_option (fun s _ => restores_text s) fun _ _ => by rintro ⟨⟩

/-! ## Lists and tables -/

/-- A list is restored if its items are. -/
theorem restores_list {xs : List α} (h : ∀ x ∈ xs, Restores n e write x) :
    Restores n (list e) (Document.listJson write) xs where
  fits x hx := by
    obtain ⟨w, hw, hx⟩ := Json.mem_scalars_array.1 hx
    obtain ⟨y, hy, rfl⟩ := List.mem_map.1 hw
    exact (h y hy).fits x hx
  read depth small room := by
    obtain ⟨k, rfl, inner⟩ := Json.nesting_array_le_iff.1 room
    rw [Document.listJson, Json.toSource_array, list_array_eq_ok_iff, List.map_map,
      List.forall₂_map_left_iff, List.forall₂_same]
    exact ⟨fun x hx =>
      (h x hx).read k (Nat.lt_of_succ_lt small) (inner _ (List.mem_map_of_mem hx)), rfl⟩

/-- Members are read as the entries that were written. -/
theorem entries_eq_ok {k : Nat} {t : Table α} (h : ∀ x ∈ t, e k (write x.2).toSource = .ok x.2) :
    entries e k (t.map fun x => Json.fieldSource (x.1, write x.2)) = .ok t := by
  induction t with
  | nil => rfl
  | cons x t ih =>
    obtain ⟨first, others⟩ := List.forall_mem_cons.1 h
    rw [List.map_cons, Json.fieldSource, entries, first, ih others]
    rfl

/-- A table with different keys is restored if its entries are. -/
theorem restores_table {t : Table α} (distinct : t.Distinct)
    (h : ∀ x ∈ t, Restores n e write x.2) :
    Restores n (table e) (Document.tableJson write) t where
  fits x hx := by
    obtain ⟨w, hw, hx⟩ := Json.mem_scalars_object.1 hx
    obtain ⟨y, hy, rfl⟩ := List.mem_map.1 hw
    exact (h y hy).fits x hx
  read depth small room := by
    obtain ⟨k, rfl, inner⟩ := Json.nesting_object_le_iff.1 room
    have members : entries e k (t.map fun x => Json.fieldSource (x.1, write x.2)) = .ok t :=
      entries_eq_ok fun x hx =>
        (h x hx).read k (Nat.lt_of_succ_lt small) (inner _ (List.mem_map_of_mem hx))
    rw [Document.tableJson, Json.toSource_object, List.map_map]
    exact table_object_eq_ok_iff.2 ⟨⟨t, members, Table.ofEntries_eq_self distinct⟩, rfl⟩

/-! ## Raw values -/

/-- Raw items are read one after the other, which the decoder has to say by recursion. -/
theorem rawItems_eq_mapM (depth : Nat) (items : List Source) :
    rawItems depth items = items.mapM (raw depth) := by
  induction items with
  | nil => rw [rawItems]; rfl
  | cons s items ih => rw [rawItems, ih, List.mapM_cons]

/-- The same of raw members. -/
theorem rawMembers_eq_entries (depth : Nat)
    (members : List (Except Fault String × Source)) :
    rawMembers depth members = entries raw depth members := by
  induction members with
  | nil => rw [rawMembers]; rfl
  | cons m members ih => rw [rawMembers, ih, entries]

/-- An array is read as a list of raw values. -/
theorem raw_array (depth : Nat) (items : List Source) (ending : ArrayEnd) :
    raw depth (.array items ending) = Json.array <$> list raw depth (.array items ending) := by
  cases depth with
  | zero => rw [raw]; rfl
  | succ k =>
    rw [raw, list, rawItems_eq_mapM]
    cases items.mapM (raw k) with
    | error f => rfl
    | ok vs => cases ending <;> rfl

/-- An object is read as a table of raw values. -/
theorem raw_object (depth : Nat) (members : List (Except Fault String × Source))
    (ending : ObjectEnd) :
    raw depth (.object members ending) =
      Json.object <$> table raw depth (.object members ending) := by
  cases depth with
  | zero => rw [raw]; rfl
  | succ k =>
    rw [raw, table, rawMembers_eq_entries]
    cases entries raw k members with
    | error f => rfl
    | ok es => cases ending <;> rfl

/-- A raw scalar is restored if it fits into 64 bits. -/
theorem restores_scalar (x : Scalar) (h : x.Fits) : Restores n raw id x.toJson where
  fits y hy := by
    rw [id, Json.scalars_toJson, List.mem_singleton] at hy
    rwa [hy]
  read depth _ _ := by
    rw [id, Json.toSource_toJson, raw]
    rfl

/-- A raw array is restored if its items are. -/
theorem restores_array {vs : List Json} (h : ∀ v ∈ vs, Restores n raw id v) :
    Restores n raw id (.array vs) := by
  have restored := restores_list h
  have same : Document.listJson id vs = .array vs := by rw [Document.listJson, List.map_id]
  refine ⟨same ▸ restored.fits, fun depth small room => ?_⟩
  have items := restored.read depth small (by rwa [same])
  rw [same, Json.toSource_array] at items
  rw [id, Json.toSource_array, raw_array, items]
  rfl

/-- A raw object with different keys is restored if its values are. -/
theorem restores_object {t : Table Json} (distinct : t.Distinct)
    (h : ∀ x ∈ t, Restores n raw id x.2) : Restores n raw id (.object t) := by
  have restored := restores_table distinct h
  have same : Document.tableJson id t = .object t := by simp [Document.tableJson]
  refine ⟨same ▸ restored.fits, fun depth small room => ?_⟩
  have members := restored.read depth small (by rwa [same])
  rw [same, Json.toSource_object] at members
  rw [id, Json.toSource_object, raw_object, members]
  rfl

/-- **What is read as a raw value is restored.** -/
theorem undoes_raw : Undoes n raw raw id := by
  intro depth s v fit
  induction fit generalizing depth v with
  | @scalar value h =>
    intro hv
    rw [raw] at hv
    cases value with
    | error f => cases hv
    | ok x =>
      cases hv
      exact restores_scalar x (h x rfl)
  | string text =>
    intro hv
    rw [raw] at hv
    cases text with
    | error f => cases hv
    | ok t =>
      cases hv
      exact ⟨by simp, fun depth _ _ => by rw [id, Json.toSource_string, raw]; rfl⟩
  | broken reading skipping =>
    intro hv
    rw [raw] at hv
    cases hv
  | array h ending ih =>
    intro hv
    rw [raw_array] at hv
    obtain ⟨vs, hvs, rfl⟩ := map_eq_ok_iff.1 hv
    cases depth with
    | zero => cases hvs
    | succ k =>
      refine restores_array fun w hw => ?_
      obtain ⟨s, hs, hw⟩ := exists_left_of_forall₂ (list_array_eq_ok_iff.1 hvs).1 hw
      exact ih s hs k w hw
  | object h ending ih =>
    intro hv
    rw [raw_object] at hv
    obtain ⟨t, ht, rfl⟩ := map_eq_ok_iff.1 hv
    cases depth with
    | zero => cases ht
    | succ k =>
      obtain ⟨⟨es, he, rfl⟩, -⟩ := table_object_eq_ok_iff.1 ht
      exact restores_object Table.distinct_ofEntries fun x hx =>
        forall_of_entries _ _ (fun m hm y => ih m hm k y) he x (Table.mem_ofEntries hx)

/-- Members are read if each of their values is. -/
theorem exists_entries_eq_ok {k : Nat} {fields : List (String × Json)}
    (h : ∀ m ∈ fields, ∃ y, d k m.2.toSource = .ok y) :
    ∃ es, entries d k (fields.map Json.fieldSource) = .ok es := by
  induction fields with
  | nil => exact ⟨[], rfl⟩
  | cons m fields ih =>
    obtain ⟨⟨y, first⟩, others⟩ := List.forall_mem_cons.1 h
    obtain ⟨es, later⟩ := ih others
    exact ⟨(m.1, y) :: es, by rw [List.map_cons, Json.fieldSource, entries, first, later]; rfl⟩

/-- Every value that is not nested too deep is read as a raw value. -/
theorem exists_raw_eq_ok (v : Json) {depth : Nat} (room : v.nesting ≤ depth) :
    ∃ w, raw depth v.toSource = .ok w := by
  induction v using Json.induct generalizing depth with
  | scalar x => exact ⟨_, by rw [Json.toSource_toJson, raw]; rfl⟩
  | string s => exact ⟨_, by rw [Json.toSource_string, raw]; rfl⟩
  | array items ih =>
    obtain ⟨k, rfl, inner⟩ := Json.nesting_array_le_iff.1 room
    obtain ⟨vs, hvs⟩ : ∃ vs, (items.map Json.toSource).mapM (raw k) = .ok vs :=
      exists_mapM_eq_ok (List.forall_mem_map.2 fun v hv => ih v hv (inner v hv))
    exact ⟨.array vs, by rw [Json.toSource_array, raw, rawItems_eq_mapM, hvs]; rfl⟩
  | object fields ih =>
    obtain ⟨k, rfl, inner⟩ := Json.nesting_object_le_iff.1 room
    obtain ⟨es, he⟩ := exists_entries_eq_ok fun m hm => ih m hm (inner m hm)
    exact ⟨_, by rw [Json.toSource_object, raw, rawMembers_eq_entries, he]; rfl⟩

/-- Only null is read as null. -/
theorem eq_null_of_raw {depth : Nat} {s : Source} (h : raw depth s = .ok .null) :
    s = .scalar (.ok .null) := by
  cases s with
  | scalar value =>
    rw [raw] at h
    rcases value with f | x
    · cases h
    · cases x <;> cases h
      rfl
  | string text =>
    rw [raw] at h
    rcases text with f | t <;> cases h
  | broken reading skipping =>
    rw [raw] at h
    cases h
  | array items ending =>
    rw [raw_array] at h
    obtain ⟨_, _, ⟨⟩⟩ := map_eq_ok_iff.1 h
  | object members ending =>
    rw [raw_object] at h
    obtain ⟨_, _, ⟨⟩⟩ := map_eq_ok_iff.1 h

/-- Null stands for no value, so a value that is given is not null. -/
theorem undoes_optionalRaw : Undoes n (optional raw) (optional raw) (Document.optionJson id) := by
  intro depth s x fit hx
  by_cases null : s = .scalar (.ok .null)
  · subst null
    cases hx
    exact restores_none
  · rw [optional_eq_map null] at hx
    obtain ⟨v, hv, rfl⟩ := map_eq_ok_iff.1 hx
    refine restores_some (undoes_raw depth s v fit hv) ?_
    rintro rfl
    exact null (eq_null_of_raw hv)

/-! ## Unions -/

/-- The first form that fits is taken. -/
theorem findSome?_first {γ δ : Type} {f : γ → Option δ} {before after : List γ} {x : γ} {y : δ}
    (none : ∀ z ∈ before, f z = none) (found : f x = some y) :
    (before ++ x :: after).findSome? f = some y := by
  rw [List.findSome?_append, List.findSome?_eq_none_iff.2 none, List.findSome?_cons, found]
  rfl

/-- The form that was read is found again if the forms before it do not fit. -/
theorem restores_union {name : String} (before : List (Decoder α)) {after : List (Decoder α)}
    {form : Decoder α} (h : Restores n form write v)
    (fails : ∀ f ∈ before, ∀ depth < n, ∀ y, f depth (write v).toSource ≠ .ok y) :
    Restores n (union name (before ++ form :: after)) write v where
  fits := h.fits
  read depth small room := by
    obtain ⟨w, hw⟩ := exists_raw_eq_ok (write v) room
    have first : (before ++ form :: after).findSome?
        (fun f => (f depth (write v).toSource).toOption) = some v := by
      refine findSome?_first (fun f hf => ?_) (by rw [h.read depth small room]; rfl)
      cases e : f depth (write v).toSource with
      | error fault => rfl
      | ok y => exact absurd e (fails f hf depth small y)
    rw [union, hw]
    simp only [first]
    rfl

/-- What the first form of a union restores, the union restores. -/
theorem restores_union_first {name : String} {form : Decoder α} {after : List (Decoder α)}
    (h : Restores n form write v) : Restores n (union name (form :: after)) write v :=
  restores_union [] h (by simp)

/-- What the second form restores, the union restores unless the first one fits. -/
theorem restores_union_second {name : String} {first : Decoder β} {f : β → α} {form : Decoder α}
    (h : Restores n form write v)
    (fails : ∀ depth y, first depth (write v).toSource ≠ .ok y) :
    Restores n (union name [fun depth s => f <$> first depth s, form]) write v := by
  refine restores_union [_] h (List.forall_mem_singleton.2 fun depth _ x taken => ?_)
  obtain ⟨y, taken, -⟩ := map_eq_ok_iff.1 taken
  exact fails depth y taken

/-! ## Texts of values -/

/-- A value is read from a text if it is read from the text's tree. -/
theorem decodeText_eq_ok {text : String} {s : Source} (source : Source.ofText text = (s, false))
    (read : d nestingLimit s = .ok v) : decodeText d text = .ok v :=
  decodeText_eq_ok_iff.2 ⟨s, source, read⟩

/-- A value that is restored is read from both texts of what is written of it. -/
theorem Restores.ofText (h : Restores n e write v) (large : nestingLimit < n)
    (plain : (write v).FloatFree) (shallow : (write v).nesting ≤ nestingLimit) :
    decodeText e (write v).compact = .ok v ∧ decodeText e (write v).pretty = .ok v := by
  have exact : (write v).Exact := ⟨plain, h.fits⟩
  have read := h.read nestingLimit large shallow
  exact ⟨decodeText_eq_ok (Source.ofText_compact exact) read,
    decodeText_eq_ok (Source.ofText_pretty exact) read⟩

end Decoder
end ApiGraph
