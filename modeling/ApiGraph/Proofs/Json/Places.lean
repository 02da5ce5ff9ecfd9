/-
# What stands where in a text

In an object something stands under a key (`Source.under?`).  Under a key of a table the last value
counts.  A record reads each of its fields once, from an object or from the place of the field in
an array (`Source.field?`).

So if decoding succeeds, what stands in a place of the text was decoded on its own, and is what
stands in that place of the result (`Decoder.Gives.table`, `Decoder.Gives.field`).  A record with a
single field, the other way round, is read where that field is given once and all else can be
skipped (`Decoder.record_of_once`).
-/

import ApiGraph.Proofs.Json.Codecs

namespace ApiGraph

namespace Source

/-- What stands under a key; of several values the last. -/
def under? (key : String) : List (Except Fault String × Source) → Option Source
  | [] => none
  | (k, value) :: rest => (under? key rest).or (if k.toOption = some key then some value else none)

/-- How often something stands under a key. -/
def occurrences (key : String) (members : List (Except Fault String × Source)) : Nat :=
  members.countP fun m => m.1.toOption = some key

/-- What stands under a key of an object. -/
def member? (s : Source) (key : String) : Option Source :=
  match s with
  | .object members _ => under? key members
  | _ => none

/-- What stands in the place of a field of a record. -/
def field? {σ : Type} (s : Source) (fields : List (Decoder.FieldReader σ)) (key : String) :
    Option Source :=
  match s with
  | .object members _ => under? key members
  | .array items _ => items[fields.findIdx (·.name == key)]?
  | _ => none

variable {key : String} {members : List (Except Fault String × Source)} {s v : Source}

/-- What is found under a key stands there. -/
theorem mem_of_under? (h : under? key members = some v) : (.ok key, v) ∈ members := by
  induction members with
  | nil => cases h
  | cons m rest ih =>
    obtain ⟨k, value⟩ := m
    rw [under?, Option.or_eq_some_iff] at h
    rcases h with h | ⟨-, h⟩
    · exact List.mem_cons_of_mem _ (ih h)
    · obtain ⟨same, here⟩ := Option.ite_none_right_eq_some.1 h
      cases here
      exact toOption_eq_some_iff.1 same ▸ List.mem_cons_self

/-- Under a key that does not occur nothing is found. -/
theorem under?_eq_none (h : occurrences key members = 0) : under? key members = none := by
  by_contra some_
  obtain ⟨v, hv⟩ := Option.ne_none_iff_exists'.1 some_
  have := List.countP_eq_zero.1 h _ (mem_of_under? hv)
  simp [Except.toOption] at this

/-- A key occurs if something is found under it. -/
theorem occurrences_pos (h : under? key members = some v) : 0 < occurrences key members :=
  Nat.pos_of_ne_zero fun none => by rw [under?_eq_none none] at h; cases h

/-- A member adds an occurrence of its own key. -/
theorem occurrences_cons (k : String) (value : Source) :
    occurrences key ((.ok k, value) :: members) =
      occurrences key members + if k = key then 1 else 0 := by
  rw [occurrences, List.countP_cons]
  simp [occurrences, Except.toOption]

/-- What is found under a key fits if all members do. -/
theorem Fits.under (fits : ∀ m ∈ members, m.2.Fits) (h : under? key members = some v) : v.Fits :=
  fits _ (mem_of_under? h)

/-- Something that has parts is not null. -/
theorem ne_null_of_field? {σ : Type} {fields : List (Decoder.FieldReader σ)}
    (h : s.field? fields key = some v) : s ≠ .scalar (.ok .null) := by
  rintro rfl
  cases h

end Source

namespace Decoder

variable {α σ : Type} {d : Decoder α} {depth : Nat} {key : String} {s v : Source}

/-- The decoder gives the value for a tree of a text. -/
structure Gives (d : Decoder α) (depth : Nat) (s : Source) (x : α) : Prop where
  fits : s.Fits
  reads : d depth s = .ok x

/-- Decoding a whole text gives a value for its tree. -/
theorem Gives.of_decodeText {text : String} {x : α} (h : decodeText d text = .ok x) :
    d.Gives nestingLimit (Source.ofText text).1 x :=
  ⟨Source.fits_ofText text, reads_of_decodeText h⟩

/-- What is given for something that is not null is given by the decoder itself. -/
theorem Gives.optional {o : Option α} (h : (optional d).Gives depth s o)
    (given : s ≠ .scalar (.ok .null)) : ∃ x, o = some x ∧ d.Gives depth s x := by
  have reads := h.reads
  rw [optional_eq_map given] at reads
  obtain ⟨x, hx, rfl⟩ := map_eq_ok_iff.1 reads
  exact ⟨x, rfl, h.fits, hx⟩

/-! ## Tables -/

/-- Entries that are written into a table one after the other leave the last value under a key. -/
theorem get?_foldl_insert_of_entries :
    ∀ (members : List (Except Fault String × Source)) (es : List (String × α)) (t : Table α),
      entries d depth members = .ok es →
      (∀ v, Source.under? key members = some v → ∃ x, d depth v = .ok x ∧
        Table.get? (es.foldl (fun t (k, y) => Table.insert t k y) t) key = some x) ∧
      (Source.under? key members = none →
        Table.get? (es.foldl (fun t (k, y) => Table.insert t k y) t) key = t.get? key)
  | [], es, t, h => by
    cases h
    exact ⟨nofun, fun _ => rfl⟩
  | (k, value) :: rest, es, t, h => by
    obtain ⟨name, y, es', rfl, hy, hes, rfl⟩ := entries_cons_eq_ok h
    obtain ⟨later, untouched⟩ := get?_foldl_insert_of_entries rest es' (t.insert name y) hes
    rw [List.foldl_cons, Source.under?]
    cases found : Source.under? key rest with
    | some w => exact ⟨fun v hv => later v (found.trans hv), nofun⟩
    | none =>
      rw [untouched found, Table.get?_insert]
      by_cases same : name = key
      · simp [Except.toOption, same, hy]
      · simp [Except.toOption, same]

/-- **What stands under a key of a table** is its entry there. -/
theorem Gives.table {t : Table α} (h : (table d).Gives depth s t) (at_ : s.member? key = some v) :
    ∃ k x, depth = k + 1 ∧ d.Gives k v x ∧ t.get? key = some x := by
  cases s with
  | object members ending =>
    cases depth with
    | zero => cases h.reads
    | succ k =>
      obtain ⟨⟨es, he, rfl⟩, -⟩ := table_object_eq_ok_iff.1 h.reads
      obtain ⟨x, hx, found⟩ := (get?_foldl_insert_of_entries members es [] he).1 v at_
      cases h.fits with
      | object fits => exact ⟨k, x, rfl, ⟨.under fits at_, hx⟩, found⟩
  | _ => cases at_

/-! ## Records -/

/-- A field of a record is read by `d` into the part `get`, which no other field touches. -/
structure FieldAt (fields : List (FieldReader σ)) (key : String) (d : Decoder α)
    (get : σ → α) : Prop where
  names : (fields.map (·.name)).Nodup
  found : ∃ set, fields.find? (·.name == key) = some (.of key d set) ∧ ∀ v r, get (set v r) = v
  others : ∀ f ∈ fields, f.name ≠ key → ∀ x, f.Keeps (get · = x)

namespace FieldAt

variable {fields : List (FieldReader σ)} {get : σ → α}

/-- The only field of a record. -/
theorem only {set : α → σ → σ} (get_set : ∀ v r, get (set v r) = v) :
    FieldAt [.of key d set] key d get where
  names := List.pairwise_singleton _ _
  found := ⟨set, List.find?_cons_of_pos (beq_self_eq_true key), get_set⟩
  others _ hf other := absurd (congrArg FieldReader.name (List.mem_singleton.1 hf)) other

/-- The last value under the key of the field is in the record. -/
theorem reads_member (at_ : FieldAt fields key d get) :
    ∀ (members : List (Except Fault String × Source)) (seen : List String) (r r' : σ),
      (∀ m ∈ members, m.2.Fits) → recordMembers fields depth members seen r = .ok r' →
      Source.under? key members = some v → d depth v = .ok (get r')
  | [], _, _, _, _, _, entry => by cases entry
  | (k, value) :: rest, seen, r, r', fits, h, entry => by
    obtain ⟨-, others⟩ := List.forall_mem_cons.1 fits
    obtain ⟨name, rfl, step⟩ := recordMembers_cons_eq_ok h
    rw [Source.under?, Option.or_eq_some_iff] at entry
    rcases entry with later | ⟨-, entry⟩
    · obtain ⟨_, _, -, -, -, h⟩ | ⟨-, -, h⟩ := step
      all_goals exact at_.reads_member rest _ _ _ others h later
    · obtain ⟨same, here⟩ := Option.ite_none_right_eq_some.1 entry
      cases here
      obtain rfl : name = key := Option.some.inj same
      obtain ⟨set, found, get_set⟩ := at_.found
      obtain ⟨field, change, read_by, -, read, h⟩ | ⟨unknown, -, -⟩ := step
      · obtain rfl := Option.some.inj (found.symm.trans read_by)
        obtain ⟨x, hx, rfl⟩ := map_eq_ok_iff.1 read
        have kept : get r' = x := keeps_recordMembers (I := fun r => get r = x) rest _ _ _
          (fun f hf unseen => at_.others f hf (fun same => unseen (same ▸ List.mem_cons_self)) x)
          others (get_set x r) h
        rw [kept]
        exact hx
      · cases found.symm.trans unknown

/-- The fields behind the first one, if that is another one. -/
theorem tail {f : FieldReader σ} (at_ : FieldAt (f :: fields) key d get) (other : f.name ≠ key) :
    FieldAt fields key d get where
  names := (List.nodup_cons.1 at_.names).2
  found := by
    obtain ⟨set, found, get_set⟩ := at_.found
    rw [List.find?_cons_of_neg (by simpa using other)] at found
    exact ⟨set, found, get_set⟩
  others g hg := at_.others g (List.mem_cons_of_mem _ hg)

/-- The item in the place of the field is in the record. -/
theorem reads_item {ending : ArrayEnd} :
    ∀ (fields : List (FieldReader σ)) (items : List Source) (r r' : σ),
      FieldAt fields key d get → (∀ s ∈ items, s.Fits) →
      recordItems depth ending fields items r = .ok r' →
      items[fields.findIdx (·.name == key)]? = some v → d depth v = .ok (get r')
  | [], _, _, _, at_, _, _, _ => by
    obtain ⟨_, found, -⟩ := at_.found
    cases found
  | _ :: _, [], _, _, _, _, _, item => by simp at item
  | f :: fields, w :: items, r, r', at_, fits, h, item => by
    obtain ⟨-, fits⟩ := List.forall_mem_cons.1 fits
    obtain ⟨change, hc, h⟩ := bind_eq_ok_iff.1 h
    rw [List.findIdx_cons] at item
    by_cases same : f.name = key
    · obtain ⟨set, found, get_set⟩ := at_.found
      rw [List.find?_cons_of_pos (by simpa using same)] at found
      obtain rfl := Option.some.inj found
      obtain ⟨x, hx, rfl⟩ := map_eq_ok_iff.1 hc
      simp only [same, beq_self_eq_true, cond_true, List.getElem?_cons_zero,
        Option.some.injEq] at item
      have later : ∀ g ∈ fields, g.Keeps (get · = x) := fun g hg =>
        at_.others g (List.mem_cons_of_mem _ hg)
          (fun again => (List.nodup_cons.1 at_.names).1
            (List.mem_map.2 ⟨g, hg, again.trans same.symm⟩)) x
      rw [keeps_recordItems (I := fun r => get r = x) fields items _ _ later fits (get_set x r) h,
        ← item]
      exact hx
    · simp only [beq_eq_false_iff_ne.2 same, cond_false, List.getElem?_cons_succ] at item
      exact reads_item fields items _ _ (at_.tail same) fits h item

end FieldAt

/-- Every part of a record has its field. -/
theorem Whole.fieldAt {n : Nat} {parts : List (Part n σ)} {defaults : σ}
    (whole : Whole parts defaults) {p : Part n σ} {i : Nat} (at_ : parts[i]? = some p) :
    FieldAt (parts.map Part.reader) p.name p.slot.decoder p.get where
  names := by rw [List.map_map]; exact whole.names
  found := ⟨p.set, find?_name (f := p.reader) (by rw [List.map_map]; exact whole.names)
    (List.mem_map_of_mem (List.mem_of_getElem? at_)), p.get_set⟩
  others f hf other x := by
    obtain ⟨q, hq, rfl⟩ := List.mem_map.1 hf
    have apart : p.Apart q := whole.apart.forall (List.mem_of_getElem? at_) hq
      fun same => other (congrArg Part.name same.symm)
    exact .other fun v r => (apart.1 v r).trans

/-- **What stands in the place of a field** is in the record. -/
theorem Gives.field {name : String} {fields : List (FieldReader σ)} {defaults r : σ}
    {get : σ → α} (h : (record name fields defaults).Gives depth s r)
    (at_ : FieldAt fields key d get) (place : s.field? fields key = some v) :
    ∃ k, depth = k + 1 ∧ d.Gives k v (get r) := by
  cases s with
  | object members ending =>
    cases depth with
    | zero => cases h.reads
    | succ k =>
      have hm := (record_object_eq_ok_iff.1 h.reads).1
      cases h.fits with
      | object fits => exact ⟨k, rfl, .under fits place, at_.reads_member _ _ _ _ fits hm place⟩
  | array items ending =>
    cases depth with
    | zero => cases h.reads
    | succ k =>
      cases h.fits with
      | array fits =>
        exact ⟨k, rfl, fits v (List.mem_of_getElem? place),
          FieldAt.reads_item _ _ _ _ at_ fits h.reads place⟩
  | _ => cases place

/-- A field of a record is not given twice. -/
theorem occurrences_le_one {fields : List (FieldReader σ)}
    (known : (fields.find? (·.name == key)).isSome) :
    ∀ (members : List (Except Fault String × Source)) (seen : List String) (r r' : σ),
      recordMembers fields depth members seen r = .ok r' →
      Source.occurrences key members ≤ 1 ∧ (key ∈ seen → Source.occurrences key members = 0)
  | [], _, _, _, _ => ⟨Nat.zero_le _, fun _ => rfl⟩
  | (k, value) :: rest, seen, r, r', h => by
    obtain ⟨name, rfl, step⟩ := recordMembers_cons_eq_ok h
    rw [Source.occurrences_cons]
    by_cases same : key = name
    · subst same
      obtain ⟨_, _, -, new, -, h⟩ | ⟨unknown, -, -⟩ := step
      · rw [(occurrences_le_one known rest _ _ _ h).2 List.mem_cons_self, if_pos rfl]
        exact ⟨Nat.le_refl _, fun old => absurd old new⟩
      · rw [unknown] at known
        cases known
    · rw [if_neg (Ne.symm same), Nat.add_zero]
      obtain ⟨_, _, -, -, -, h⟩ | ⟨-, -, h⟩ := step
      · have later := occurrences_le_one known rest _ _ _ h
        exact ⟨later.1, fun old => later.2 (List.mem_cons_of_mem _ old)⟩
      · exact occurrences_le_one known rest _ _ _ h

/-! ## What is read is skipped -/

/-- A raw array is read item by item, where there is room for one. -/
theorem raw_array_eq_ok {items : List Source} {ending : ArrayEnd} {x : Json}
    (h : raw depth (.array items ending) = .ok x) :
    ∃ k vs, depth = k + 1 ∧ List.Forall₂ (fun s v => raw k s = .ok v) items vs ∧
      ending.reading = none := by
  rw [raw_array] at h
  obtain ⟨vs, h, -⟩ := map_eq_ok_iff.1 h
  cases depth with
  | zero => cases h
  | succ k => exact ⟨k, vs, rfl, list_array_eq_ok_iff.1 h⟩

/-- A raw object is read member by member, where there is room for one. -/
theorem raw_object_eq_ok {members : List (Except Fault String × Source)} {ending : ObjectEnd}
    {x : Json} (h : raw depth (.object members ending) = .ok x) :
    ∃ k es, depth = k + 1 ∧ entries raw k members = .ok es ∧ ending.reading = none := by
  rw [raw_object] at h
  obtain ⟨t, h, -⟩ := map_eq_ok_iff.1 h
  cases depth with
  | zero => cases h
  | succ k =>
    obtain ⟨⟨es, he, -⟩, closed⟩ := table_object_eq_ok_iff.1 h
    exact ⟨k, es, rfl, he, closed⟩

/-- Where a value is read the tree is complete. -/
theorem complete_of_raw {x : Json} (h : raw depth s = .ok x) : s.Complete := by
  induction s using Source.induct generalizing depth x with
  | scalar value => exact .scalar value
  | string text => exact .string text
  | broken reading skipping =>
    rw [raw] at h
    cases h
  | array items ending ih =>
    obtain ⟨k, vs, rfl, read, closed⟩ := raw_array_eq_ok h
    refine Source.complete_array_iff.2 ⟨fun s hs => ?_, ArrayEnd.reading_eq_none_iff.1 closed⟩
    obtain ⟨x, -, hx⟩ := exists_right_of_forall₂ read hs
    exact ih s hs hx
  | object members ending ih =>
    obtain ⟨k, es, rfl, read, closed⟩ := raw_object_eq_ok h
    refine Source.complete_object_iff.2 ⟨fun m hm => ?_, ObjectEnd.reading_eq_none_iff.1 closed⟩
    obtain ⟨_, x, -, hx⟩ := exists_of_entries members es read m hm
    exact ih m hm hx

/-- Where a value is read there is no fault that skipping it would meet. -/
theorem skip_eq_none_of_raw {x : Json} (h : raw depth s = .ok x) : s.skip = none :=
  Source.complete_iff_skip.1 (complete_of_raw h)

/-! ## Records of one field -/

section OneField

variable {set : α → σ → σ} {members : List (Except Fault String × Source)} {seen : List String}
  {r : σ}

/-- A member that is no field's is skipped. -/
theorem recordMembers_cons_unknown {fields : List (FieldReader σ)} {name : String}
    (unknown : fields.find? (·.name == name) = none) (skipped : s.skip = none)
    (rest : List (Except Fault String × Source)) :
    recordMembers fields depth ((.ok name, s) :: rest) seen r =
      recordMembers fields depth rest seen r := by
  rw [recordMembers]
  simp only [bind, Except.bind, unknown, skipped, refuse]

/-- A record of one field has no field with another name. -/
theorem find?_only_eq_none {name : String} (other : name ≠ key) :
    [FieldReader.of key d set].find? (·.name == name) = none :=
  List.find?_cons_of_neg (by simpa [FieldReader.of] using Ne.symm other)

/-- Where nothing is given for the field, the record stays as it is. -/
theorem recordMembers_of_absent
    (plain : ∀ m ∈ members, ∃ name, m.1 = .ok name ∧ m.2.skip = none)
    (absent : Source.occurrences key members = 0) :
    recordMembers [.of key d set] depth members seen r = .ok r := by
  induction members with
  | nil => rfl
  | cons m rest ih =>
    obtain ⟨⟨name, named, skipped⟩, others⟩ := List.forall_mem_cons.1 plain
    obtain ⟨k, value⟩ := m
    obtain rfl : k = .ok name := named
    rw [Source.occurrences_cons] at absent
    have other : name ≠ key := fun same => by
      rw [if_pos same] at absent
      cases absent
    rw [recordMembers_cons_unknown (find?_only_eq_none other) skipped]
    exact ih others (Nat.eq_zero_of_add_eq_zero_right absent)

/-- What is given once for the field is set. -/
theorem recordMembers_of_once {x : α}
    (plain : ∀ m ∈ members, ∃ name, m.1 = .ok name ∧ m.2.skip = none)
    (once : Source.occurrences key members = 1) (entry : Source.under? key members = some v)
    (read : d depth v = .ok x) :
    recordMembers [.of key d set] depth members [] r = .ok (set x r) := by
  induction members with
  | nil => cases entry
  | cons m rest ih =>
    obtain ⟨⟨name, named, skipped⟩, others⟩ := List.forall_mem_cons.1 plain
    obtain ⟨k, value⟩ := m
    obtain rfl : k = .ok name := named
    rw [Source.occurrences_cons] at once
    by_cases same : key = name
    · subst same
      have absent : Source.occurrences key rest = 0 := by
        rw [if_pos rfl] at once
        exact Nat.succ.inj once
      rw [Source.under?, Source.under?_eq_none absent] at entry
      obtain rfl : value = v := by simpa [Except.toOption] using entry
      rw [recordMembers_cons (List.find?_cons_of_pos (beq_self_eq_true key)) List.not_mem_nil
        (map_eq_ok_iff.2 ⟨x, read, rfl⟩), recordMembers_of_absent others absent]
    · rw [if_neg (Ne.symm same)] at once
      rw [Source.under?, if_neg (by simpa [Except.toOption] using Ne.symm same),
        Option.or_none] at entry
      rw [recordMembers_cons_unknown (find?_only_eq_none (Ne.symm same)) skipped]
      exact ih others once entry

/-- A record is read in which the field is given once. -/
theorem record_of_once {k : Nat} {name : String} {ending : ObjectEnd} {w : Json} {x : α}
    (whole : raw (k + 1) (.object members ending) = .ok w)
    (once : Source.occurrences key members = 1) (entry : Source.under? key members = some v)
    (read : d k v = .ok x) :
    record name [.of key d set] r (k + 1) (.object members ending) = .ok (set x r) := by
  obtain ⟨_, es, limit, he, closed⟩ := raw_object_eq_ok whole
  cases limit
  have plain : ∀ m ∈ members, ∃ name, m.1 = .ok name ∧ m.2.skip = none := fun m hm => by
    obtain ⟨name, y, named, hy⟩ := exists_of_entries members es he m hm
    exact ⟨name, named, skip_eq_none_of_raw hy⟩
  exact record_object_eq_ok_iff.2 ⟨recordMembers_of_once plain once entry read, closed⟩

end OneField

end Decoder
end ApiGraph
