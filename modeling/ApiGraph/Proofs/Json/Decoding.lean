/-
# What decoders give

A decoder ensures a property if every value has it that it gives for a tree of a text
(`Decoder.Ensures`).  Of such a tree it is only known that its integers have at most 64 bits.
Lists, tables, unions and records ensure what the decoders ensure that they are made of.  For a
record this is an invariant: its defaults have it, and every field keeps it (`FieldReader.Keeps`).
-/

import ApiGraph.Json.Decoder
import ApiGraph.Proofs.Correspondence
import ApiGraph.Proofs.Json.Numbers

namespace ApiGraph

section Entries

variable {α : Type} {entries : List (String × α)}

/-- A table that is made of entries has each key once. -/
theorem Table.distinct_ofEntries : (Table.ofEntries entries).Distinct := by
  rw [Table.ofEntries]
  exact List.foldlRecOn entries _ List.nodup_nil fun t h entry _ => h.insert _ _

/-- What stands in such a table was one of the entries. -/
theorem Table.mem_ofEntries {x : String × α} (h : x ∈ Table.ofEntries entries) :
    x ∈ entries := by
  refine List.foldlRecOn entries _ (motive := fun t => ∀ x ∈ t, x ∈ entries) (by simp) ?_ x h
  intro t back entry hentry x hx
  rcases Table.mem_insert hx with hx | rfl
  · exact back x hx
  · exact hentry

end Entries

/-- A fault is refused, and nothing else. -/
theorem refuse_eq_ok_iff {fault : Option Fault} {u : Unit} :
    refuse fault = .ok u ↔ fault = none := by
  cases fault <;> simp [refuse]

namespace Decoder

variable {α β σ : Type} {Q : α → Prop} {I : σ → Prop} {d : Decoder α}

/-- Every value that the decoder gives for a tree of a text has the property. -/
def Ensures (d : Decoder α) (Q : α → Prop) : Prop :=
  ∀ depth s x, s.Fits → d depth s = .ok x → Q x

/-- What holds of all values, every decoder ensures. -/
theorem Ensures.of_forall (h : ∀ x, Q x) : d.Ensures Q :=
  fun _ _ x _ _ => h x

/-- What follows from what is ensured is ensured. -/
theorem Ensures.mono (h : d.Ensures Q) {Q' : α → Prop} (step : ∀ x, Q x → Q' x) : d.Ensures Q' :=
  fun depth s x fit hx => step x (h depth s x fit hx)

/-- A decoder that changes its values ensures what holds of the changed ones. -/
theorem Ensures.map (h : d.Ensures Q) {f : α → β} {Q' : β → Prop} (step : ∀ x, Q x → Q' (f x)) :
    Ensures (fun depth s => f <$> d depth s) Q' := by
  intro depth s y fit hy
  obtain ⟨x, hx, rfl⟩ := map_eq_ok_iff.1 hy
  exact step x (h depth s x fit hx)

/-- A mismatch gives no value. -/
theorem mismatch_ne_ok {expected : String} {s : Source} {x : α} :
    mismatch expected s ≠ .ok x := by
  rw [mismatch]
  cases found s <;> rintro ⟨⟩

/-- What may be missing has the property where it is there. -/
theorem ensures_optional (h : d.Ensures Q) : (optional d).Ensures fun x => ∀ y ∈ x, Q y := by
  intro depth s x fit hx
  unfold optional at hx
  split at hx
  · cases hx
    rintro _ ⟨⟩
  · obtain ⟨y, hy, rfl⟩ := map_eq_ok_iff.1 hx
    rintro _ ⟨⟩
    exact h _ _ _ fit hy

/-- A list has a value for every item of the array, which is closed. -/
theorem list_array_eq_ok_iff {k : Nat} {items : List Source} {ending : ArrayEnd} {xs : List α} :
    list d (k + 1) (.array items ending) = .ok xs ↔
      List.Forall₂ (fun s x => d k s = .ok x) items xs ∧ ending.reading = none := by
  rw [list, ← mapM_eq_ok_iff]
  constructor
  · intro h
    obtain ⟨values, hm, h⟩ := bind_eq_ok_iff.1 h
    obtain ⟨_, closed, h⟩ := bind_eq_ok_iff.1 h
    cases h
    exact ⟨hm, refuse_eq_ok_iff.1 closed⟩
  · rintro ⟨hm, closed⟩
    rw [hm, closed]
    rfl

/-- All items of a list have the property. -/
theorem ensures_list (h : d.Ensures Q) : (list d).Ensures fun xs => ∀ x ∈ xs, Q x := by
  intro depth s xs fit hxs
  unfold list at hxs
  split at hxs
  · cases hxs
  · rename_i k items ending
    cases fit with
    | array fits =>
      intro x hx
      obtain ⟨item, hi, hd⟩ := exists_left_of_forall₂ (list_array_eq_ok_iff.1 hxs).1 hx
      exact h _ _ _ (fits item hi) hd
  · exact absurd hxs mismatch_ne_ok

/-- Members are read one after the other, each with its key. -/
theorem entries_cons_eq_ok {depth : Nat} {key : Except Fault String} {value : Source}
    {rest : List (Except Fault String × Source)} {es : List (String × α)}
    (h : entries d depth ((key, value) :: rest) = .ok es) :
    ∃ k x es', key = .ok k ∧ d depth value = .ok x ∧ entries d depth rest = .ok es' ∧
      es = (k, x) :: es' := by
  obtain ⟨k, hk, h⟩ := bind_eq_ok_iff.1 h
  obtain ⟨x, hx, h⟩ := bind_eq_ok_iff.1 h
  obtain ⟨es', hes, h⟩ := bind_eq_ok_iff.1 h
  cases h
  exact ⟨k, x, es', hk, hx, hes, rfl⟩

/-- Each member has an entry, with its key and its value. -/
theorem entries_eq_ok_iff {depth : Nat}
    {members : List (Except Fault String × Source)} {es : List (String × α)} :
    entries d depth members = .ok es ↔
      List.Forall₂ (fun m e => m.1 = .ok e.1 ∧ d depth m.2 = .ok e.2) members es := by
  induction members generalizing es with
  | nil => exact ⟨fun h => by cases h; exact .nil, fun h => by cases h; rfl⟩
  | cons m members ih =>
    constructor
    · intro h
      obtain ⟨key, v, es', named, read, later, rfl⟩ := entries_cons_eq_ok h
      exact .cons ⟨named, read⟩ (ih.1 later)
    · rintro (_ | ⟨⟨named, read⟩, later⟩)
      exact bind_eq_ok_iff.2 ⟨_, named, bind_eq_ok_iff.2 ⟨_, read,
        bind_eq_ok_iff.2 ⟨_, ih.2 later, rfl⟩⟩⟩

/-- All values of members have the property. -/
theorem forall_of_entries {depth : Nat} (members : List (Except Fault String × Source))
    (es : List (String × α)) (each : ∀ m ∈ members, ∀ x, d depth m.2 = .ok x → Q x)
    (h : entries d depth members = .ok es) : ∀ x ∈ es, Q x.2 := by
  intro x hx
  obtain ⟨m, hm, -, read⟩ := exists_left_of_forall₂ (entries_eq_ok_iff.1 h) hx
  exact each m hm _ read

/-- Every key is read, and every value is decoded. -/
theorem exists_of_entries {depth : Nat} (members : List (Except Fault String × Source))
    (es : List (String × α)) (h : entries d depth members = .ok es) :
    ∀ m ∈ members, ∃ k x, m.1 = .ok k ∧ d depth m.2 = .ok x := by
  intro m hm
  obtain ⟨e, -, both⟩ := exists_right_of_forall₂ (entries_eq_ok_iff.1 h) hm
  exact ⟨e.1, e.2, both⟩

/-- A map is read from an object that a brace closes, out of all its members. -/
theorem table_object_eq_ok_iff {k : Nat} {members : List (Except Fault String × Source)}
    {ending : ObjectEnd} {t : Table α} :
    table d (k + 1) (.object members ending) = .ok t ↔
      (∃ es, entries d k members = .ok es ∧ Table.ofEntries es = t) ∧ ending.reading = none := by
  rw [table]
  constructor
  · intro h
    obtain ⟨es, he, h⟩ := bind_eq_ok_iff.1 h
    obtain ⟨_, closed, h⟩ := bind_eq_ok_iff.1 h
    exact ⟨⟨es, he, Except.ok.inj h⟩, refuse_eq_ok_iff.1 closed⟩
  · rintro ⟨⟨es, he, rfl⟩, closed⟩
    rw [he, closed]
    rfl

/-- A table has no key twice. -/
theorem ensures_table (h : d.Ensures Q) :
    (table d).Ensures fun t => t.Distinct ∧ ∀ x ∈ t, Q x.2 := by
  intro depth s t fit ht
  unfold table at ht
  split at ht
  · cases ht
  · obtain ⟨⟨es, he, rfl⟩, -⟩ := table_object_eq_ok_iff.1 ht
    cases fit with
    | object fits =>
      exact ⟨Table.distinct_ofEntries, fun x hx =>
        forall_of_entries _ _ (fun m hm y => h _ _ y (fits m hm)) he x (Table.mem_ofEntries hx)⟩
  · exact absurd ht mismatch_ne_ok

/-- A union ensures what all of its forms do. -/
theorem ensures_union {name : String} {forms : List (Decoder α)}
    (h : ∀ form ∈ forms, form.Ensures Q) : (union name forms).Ensures Q := by
  intro depth s x fit hx
  obtain ⟨-, -, hx⟩ := bind_eq_ok_iff.1 hx
  split at hx
  · rename_i value first
    cases hx
    obtain ⟨form, hform, hv⟩ := List.exists_of_findSome?_eq_some first
    exact h form hform _ _ _ fit (toOption_eq_some_iff.1 hv)
  · cases hx

/-- Of two forms the second is given only where the first does not fit. -/
theorem union_pair_eq_ok_iff {γ : Type} {name : String} {e : Decoder β} {f : α → γ} {g : β → γ}
    {depth : Nat} {s : Source} {z : γ} :
    union name [fun depth s => f <$> d depth s, fun depth s => g <$> e depth s] depth s = .ok z ↔
      (∃ v, raw depth s = .ok v) ∧
        ((∃ x, d depth s = .ok x ∧ z = f x) ∨
          (∀ x, d depth s ≠ .ok x) ∧ ∃ y, e depth s = .ok y ∧ z = g y) := by
  constructor
  · intro h
    obtain ⟨v, hv, h⟩ := bind_eq_ok_iff.1 h
    refine ⟨⟨v, hv⟩, ?_⟩
    cases first : d depth s with
    | ok x =>
      simp only [List.findSome?_cons, first] at h
      cases h
      exact .inl ⟨x, rfl, rfl⟩
    | error _ =>
      refine .inr ⟨nofun, ?_⟩
      cases second : e depth s with
      | ok y =>
        simp only [List.findSome?_cons, first, second] at h
        cases h
        exact ⟨y, rfl, rfl⟩
      | error _ =>
        simp only [List.findSome?_cons, first, second] at h
        cases h
  · rintro ⟨⟨v, hv⟩, ⟨x, first, rfl⟩ | ⟨fails, y, second, rfl⟩⟩
    · refine bind_eq_ok_iff.2 ⟨v, hv, ?_⟩
      simp only [List.findSome?_cons, first]
      rfl
    · refine bind_eq_ok_iff.2 ⟨v, hv, ?_⟩
      cases first : d depth s with
      | ok x => exact absurd first (fails x)
      | error _ =>
        simp only [List.findSome?_cons, first, second]
        rfl

/-! ## Records -/

/-- What the field does to a record keeps the invariant. -/
def FieldReader.Keeps (f : FieldReader σ) (I : σ → Prop) : Prop :=
  Ensures f.read fun change => ∀ r, I r → I (change r)

/-- A field whose values are what the invariant asks for. -/
theorem FieldReader.Keeps.of {name : String} {set : α → σ → σ} (h : d.Ensures Q)
    (step : ∀ v r, Q v → I r → I (set v r)) : (FieldReader.of name d set).Keeps I :=
  h.map fun v hv r hr => step v r hv hr

/-- A field that the invariant does not speak of. -/
theorem FieldReader.Keeps.other {name : String} {set : α → σ → σ}
    (step : ∀ v r, I r → I (set v r)) : (FieldReader.of name d set).Keeps I :=
  Keeps.of (Q := fun _ => True) (.of_forall fun _ => trivial) fun v r _ hr => step v r hr

section Record

variable {fields : List (FieldReader σ)}

/-- The field that is found for a key has this name. -/
theorem name_of_find? {key : String} {f : FieldReader σ}
    (found : fields.find? (·.name == key) = some f) :
    f.name = key :=
  eq_of_beq (List.find?_some (p := fun f : FieldReader σ => f.name == key) found)

/-- A member is read into a field that was not seen yet, or its key is no field's and it is
skipped. -/
theorem recordMembers_cons_eq_ok {depth : Nat} {key : Except Fault String} {value : Source}
    {rest : List (Except Fault String × Source)} {seen : List String} {r r' : σ}
    (h : recordMembers fields depth ((key, value) :: rest) seen r = .ok r') :
    ∃ k, key = .ok k ∧
      ((∃ field change, fields.find? (·.name == k) = some field ∧ k ∉ seen ∧
          field.read depth value = .ok change ∧
          recordMembers fields depth rest (k :: seen) (change r) = .ok r') ∨
        (fields.find? (·.name == k) = none ∧ value.skip = none ∧
          recordMembers fields depth rest seen r = .ok r')) := by
  obtain ⟨k, named, h⟩ := bind_eq_ok_iff.1 h
  refine ⟨k, named, ?_⟩
  split at h
  · rename_i field found
    split at h
    · cases h
    · rename_i new
      obtain ⟨change, read, h⟩ := bind_eq_ok_iff.1 h
      exact .inl ⟨field, change, found, fun old => new (List.contains_iff_mem.2 old), read, h⟩
  · rename_i unknown
    obtain ⟨_, skipped, h⟩ := bind_eq_ok_iff.1 h
    exact .inr ⟨unknown, refuse_eq_ok_iff.1 skipped, h⟩

/-- Fields that were seen are not read again, so they need not keep the invariant. -/
theorem keeps_recordMembers {depth : Nat} :
    ∀ (members : List (Except Fault String × Source)) (seen : List String) (r r' : σ),
      (∀ f ∈ fields, f.name ∉ seen → f.Keeps I) → (∀ m ∈ members, m.2.Fits) → I r →
        recordMembers fields depth members seen r = .ok r' → I r'
  | [], _, r, r', _, _, hr, h => by
    cases h
    exact hr
  | (key, value) :: rest, seen, r, r', each, fits, hr, h => by
    obtain ⟨first, others⟩ := List.forall_mem_cons.1 fits
    obtain ⟨k, -, ⟨field, change, found, new, read, h⟩ | ⟨-, -, h⟩⟩ := recordMembers_cons_eq_ok h
    · obtain rfl := name_of_find? found
      have kept := each field (List.mem_of_find?_eq_some found) new _ _ _ first read r hr
      exact keeps_recordMembers rest _ _ _
        (fun f hf unseen => each f hf fun old => unseen (List.mem_cons_of_mem _ old)) others kept h
    · exact keeps_recordMembers rest _ _ _ each others hr h

/-- Reading a record from an array keeps what each of its fields keeps. -/
theorem keeps_recordItems {depth : Nat} {ending : ArrayEnd} :
    ∀ (fields : List (FieldReader σ)) (items : List Source) (r r' : σ),
      (∀ f ∈ fields, f.Keeps I) → (∀ s ∈ items, s.Fits) → I r →
        recordItems depth ending fields items r = .ok r' → I r'
  | [], [], r, r', _, _, hr, h => by
    obtain ⟨-, -, h⟩ := bind_eq_ok_iff.1 h
    cases h
    exact hr
  | [], _ :: _, _, _, _, _, _, h => by cases h
  | _ :: _, [], r, r', _, _, hr, h => by
    obtain ⟨-, -, h⟩ := bind_eq_ok_iff.1 h
    cases h
    exact hr
  | field :: fields, item :: items, r, r', each, fits, hr, h => by
    obtain ⟨change, hc, h⟩ := bind_eq_ok_iff.1 h
    obtain ⟨first, others⟩ := List.forall_mem_cons.1 each
    obtain ⟨fit, fits⟩ := List.forall_mem_cons.1 fits
    exact keeps_recordItems fields items _ _ others fits (first _ _ _ fit hc r hr) h

/-- A record is read from an object that a brace closes, member by member. -/
theorem record_object_eq_ok_iff {k : Nat} {name : String} {defaults r : σ}
    {members : List (Except Fault String × Source)} {ending : ObjectEnd} :
    record name fields defaults (k + 1) (.object members ending) = .ok r ↔
      recordMembers fields k members [] defaults = .ok r ∧ ending.reading = none := by
  rw [record]
  constructor
  · intro h
    obtain ⟨r', hr, h⟩ := bind_eq_ok_iff.1 h
    obtain ⟨_, closed, h⟩ := bind_eq_ok_iff.1 h
    cases h
    exact ⟨hr, refuse_eq_ok_iff.1 closed⟩
  · rintro ⟨hr, closed⟩
    rw [hr, closed]
    rfl

/-- **A record has what its defaults have and its fields keep.** -/
theorem ensures_record {name : String} {defaults : σ} (start : I defaults)
    (each : ∀ f ∈ fields, f.Keeps I) : (record name fields defaults).Ensures I := by
  intro depth s r fit h
  unfold record at h
  split at h
  · cases h
  · cases h
  · obtain ⟨r', hr, h⟩ := bind_eq_ok_iff.1 h
    obtain ⟨-, -, h⟩ := bind_eq_ok_iff.1 h
    cases h
    cases fit with
    | object fits => exact keeps_recordMembers _ _ _ _ (fun f hf _ => each f hf) fits start hr
  · cases fit with
    | array fits => exact keeps_recordItems fields _ _ _ each fits start h
  · exact absurd h mismatch_ne_ok

end Record

/-- Decoding a whole text is decoding its tree, with nothing behind it. -/
theorem decodeText_eq_ok_iff {text : String} {x : α} :
    decodeText d text = .ok x ↔
      ∃ s, Source.ofText text = (s, false) ∧ d nestingLimit s = .ok x := by
  rw [decodeText]
  obtain ⟨s, more⟩ := Source.ofText text
  constructor
  · intro h
    obtain ⟨y, hy, h⟩ := bind_eq_ok_iff.1 h
    cases more <;> cases h
    exact ⟨s, rfl, hy⟩
  · rintro ⟨s', ⟨⟩, hx⟩
    exact bind_eq_ok_iff.2 ⟨x, hx, rfl⟩

/-- What is read from a text is read from its tree. -/
theorem reads_of_decodeText {text : String} {x : α} (h : decodeText d text = .ok x) :
    d nestingLimit (Source.ofText text).1 = .ok x := by
  obtain ⟨s, source, hx⟩ := decodeText_eq_ok_iff.1 h
  rwa [source]

/-- What a decoder ensures holds of what is read from a text. -/
theorem Ensures.of_decodeText (h : d.Ensures Q) {text : String} {x : α}
    (hx : decodeText d text = .ok x) : Q x :=
  h _ _ _ (Source.fits_ofText text) (reads_of_decodeText hx)

end Decoder
end ApiGraph
