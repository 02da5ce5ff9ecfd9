/-
# Members in any order

A record takes its fields from the members of an object in whatever order they come, and skips
members whose keys are no field's.  So an object with further such members, in any order, is read
as the same record (`recordMembers_extends`).  For this, fields with different names have to act on
different parts of the record (`Commuting`).

Around the object everything else is read as before: an array or object gives the same value if
the value at one place in it is exchanged for one that is read there as the same
(`record_around`, `list_around`, `table_around`).

A decoder that gives a value has walked the whole tree, so the tree is complete (`Exhausts`).
-/

import ApiGraph.Proofs.Json.Cutting
import ApiGraph.Proofs.Json.Places

namespace ApiGraph
namespace Decoder

variable {α β σ : Type} {d : Decoder α} {depth k : Nat} {s s' : Source} {key : String}
  {fields : List (FieldReader σ)} {members ms ms' : List (Except Fault String × Source)}
  {seen seen' : List String} {r x : σ}

/-! ## Fields in any order -/

/-- Fields with different names may be read in either order. -/
def Commuting (fields : List (FieldReader σ)) : Prop :=
  ∀ f ∈ fields, ∀ g ∈ fields, f.name ≠ g.name → ∀ depth s c depth' s' c',
    f.read depth s = .ok c → g.read depth' s' = .ok c' → ∀ r, c (c' r) = c' (c r)

section Parts

variable {n : Nat} {parts : List (Part n σ)} {defaults : σ}

/-- Records with the same parts are the same. -/
theorem Whole.ext (whole : Whole parts defaults) (same : ∀ p ∈ parts, p.get r = p.get x) :
    r = x := by
  rw [← whole.total r defaults, ← whole.total x defaults]
  exact List.foldl_ext _ _ _ fun r' p hp => congrArg (p.set · r') (same p hp)

/-- Parts are set in any order. -/
theorem Whole.commuting (whole : Whole parts defaults) : Commuting (parts.map Part.reader) := by
  intro f hf g hg different depth s c depth' s' c' hc hc' r
  obtain ⟨p, hp, rfl⟩ := List.mem_map.1 hf
  obtain ⟨q, hq, rfl⟩ := List.mem_map.1 hg
  obtain ⟨v, -, rfl⟩ := map_eq_ok_iff.1 hc
  obtain ⟨w, -, rfl⟩ := map_eq_ok_iff.1 hc'
  have untouched {p q : Part n σ} (hp : p ∈ parts) (hq : q ∈ parts) (other : p ≠ q) (w r) :
      p.get (q.set w r) = p.get r := (whole.apart.forall hp hq other).1 w r
  have other : p ≠ q := fun same => different (congrArg Part.name same)
  refine whole.ext fun o ho => ?_
  by_cases first : o = p
  · subst first
    rw [o.get_set, untouched ho hq other, o.get_set]
  · by_cases second : o = q
    · subst second
      rw [untouched ho hp first, o.get_set, o.get_set]
    · rw [untouched ho hp first, untouched ho hq second, untouched ho hq second,
        untouched ho hp first]

end Parts

/-- The fewer fields were seen, the more are read. -/
theorem recordMembers_mono_seen (fewer : seen' ⊆ seen)
    (h : recordMembers fields depth ms seen r = .ok x) :
    recordMembers fields depth ms seen' r = .ok x := by
  induction ms generalizing seen seen' r with
  | nil => exact h
  | cons m ms ih =>
    obtain ⟨key, value⟩ := m
    obtain ⟨name, rfl, ⟨f, change, found, new, read, h⟩ | ⟨unknown, skipped, h⟩⟩ :=
      recordMembers_cons_eq_ok h
    · rw [recordMembers_cons found (fun old => new (fewer old)) read]
      exact ih (List.cons_subset_cons name fewer) h
    · rw [recordMembers_cons_unknown unknown skipped]
      exact ih fewer h

/-- Behind the same member it is the rest that decides. -/
theorem recordMembers_cons_mono
    (rest : ∀ seen r, recordMembers fields depth ms seen r = .ok x →
      recordMembers fields depth ms' seen r = .ok x) (m : Except Fault String × Source)
    (h : recordMembers fields depth (m :: ms) seen r = .ok x) :
    recordMembers fields depth (m :: ms') seen r = .ok x := by
  obtain ⟨key, value⟩ := m
  obtain ⟨name, rfl, ⟨f, change, found, new, read, h⟩ | ⟨unknown, skipped, h⟩⟩ :=
    recordMembers_cons_eq_ok h
  · rw [recordMembers_cons found new read]
    exact rest _ _ h
  · rw [recordMembers_cons_unknown unknown skipped]
    exact rest _ _ h

/-- Members may come in any order. -/
theorem recordMembers_perm (commute : Commuting fields) (perm : ms.Perm ms')
    (h : recordMembers fields depth ms seen r = .ok x) :
    recordMembers fields depth ms' seen r = .ok x := by
  induction perm generalizing seen r with
  | nil => exact h
  | cons m _ ih => exact recordMembers_cons_mono (fun _ _ => ih) m h
  | swap m m' ms =>
    obtain ⟨key, value⟩ := m
    obtain ⟨key', value'⟩ := m'
    obtain ⟨name', rfl, ⟨f', change', found', new', read', h⟩ | ⟨unknown', skipped', h⟩⟩ :=
      recordMembers_cons_eq_ok h
    all_goals obtain ⟨name, rfl, ⟨f, change, found, new, read, h⟩ | ⟨unknown, skipped, h⟩⟩ :=
      recordMembers_cons_eq_ok h
    -- If both are fields, they are seen in another order and their changes are swapped.
    · obtain ⟨different, new⟩ := not_or.1 (List.mem_cons.not.1 new)
      have later : name' ∉ name :: seen := by
        rw [List.mem_cons, not_or]
        exact ⟨Ne.symm different, new'⟩
      rw [recordMembers_cons found new read, recordMembers_cons found' later read']
      have apart : f.name ≠ f'.name := by
        rw [name_of_find? found, name_of_find? found']
        exact different
      have swapped := commute f (List.mem_of_find?_eq_some found) f'
        (List.mem_of_find?_eq_some found') apart _ _ _ _ _ _ read read' r
      rw [← swapped]
      exact recordMembers_mono_seen (by simp) h
    · rw [recordMembers_cons_unknown unknown skipped, recordMembers_cons found' new' read']
      exact h
    · rw [recordMembers_cons found new read, recordMembers_cons_unknown unknown' skipped']
      exact h
    · rw [recordMembers_cons_unknown unknown skipped, recordMembers_cons_unknown unknown' skipped']
      exact h
  | trans _ _ ih ih' => exact ih' (ih h)

/-! ## Further members -/

/-- The members with further ones, in any order.  None of the further ones has one of the keys, and
their values can be read. -/
def Extends (keys : List String) (depth : Nat)
    (members members' : List (Except Fault String × Source)) : Prop :=
  ∃ extra, members'.Perm (extra ++ members) ∧
    ∀ m ∈ extra, ∃ key v, m.1 = .ok key ∧ key ∉ keys ∧ raw depth m.2 = .ok v

/-- Members whose keys are no fields are skipped. -/
theorem recordMembers_append_unknown {extra : List (Except Fault String × Source)}
    (unknown : ∀ m ∈ extra, ∃ key, m.1 = .ok key ∧ (∀ f ∈ fields, f.name ≠ key) ∧
      m.2.skip = none) :
    recordMembers fields depth (extra ++ ms) seen r = recordMembers fields depth ms seen r := by
  induction extra with
  | nil => rfl
  | cons m extra ih =>
    obtain ⟨⟨key, written, new, skipped⟩, others⟩ := List.forall_mem_cons.1 unknown
    obtain ⟨_, value⟩ := m
    cases written
    have none : fields.find? (·.name == key) = none := by
      rw [List.find?_eq_none]
      exact fun f hf same => new f hf (eq_of_beq same)
    exact (recordMembers_cons_unknown none skipped _).trans (ih others)

/-- **Further members and another order do not change a record.** -/
theorem recordMembers_extends {keys : List String} (commute : Commuting fields)
    (named : ∀ f ∈ fields, f.name ∈ keys) (h : Extends keys depth ms ms') :
    recordMembers fields depth ms' seen r = .ok x ↔
      recordMembers fields depth ms seen r = .ok x := by
  obtain ⟨extra, perm, unknown⟩ := h
  have skips : recordMembers fields depth (extra ++ ms) seen r =
      recordMembers fields depth ms seen r := by
    refine recordMembers_append_unknown fun m hm => ?_
    obtain ⟨key, v, written, new, read⟩ := unknown m hm
    exact ⟨key, written, fun f hf same => new (same ▸ named f hf), skip_eq_none_of_raw read⟩
  rw [← skips]
  exact ⟨recordMembers_perm commute perm, recordMembers_perm commute perm.symm⟩

/-- **A record is read from a longer object as from the object**, and in any order of its
members. -/
theorem record_extends {keys : List String} {name : String} {ending : ObjectEnd}
    (commute : Commuting fields) (named : ∀ f ∈ fields, f.name ∈ keys)
    (h : Extends keys k ms ms') :
    record name fields r (k + 1) (.object ms' ending) = .ok x ↔
      record name fields r (k + 1) (.object ms ending) = .ok x := by
  rw [record_object_eq_ok_iff, record_object_eq_ok_iff, recordMembers_extends commute named h]

/-! ## Arrays and objects that are read -/

/-- A list is read from an array, where there is room for one. -/
theorem exists_array_of_list {xs : List α} (h : list d depth s = .ok xs) :
    ∃ k items ending, depth = k + 1 ∧ s = .array items ending := by
  unfold list at h
  split at h
  · cases h
  · exact ⟨_, _, _, rfl, rfl⟩
  · exact absurd h mismatch_ne_ok

/-- A map is read from an object, where there is room for one. -/
theorem exists_object_of_table {t : Table α} (h : table d depth s = .ok t) :
    ∃ k members ending, depth = k + 1 ∧ s = .object members ending := by
  unfold table at h
  split at h
  · cases h
  · exact ⟨_, _, _, rfl, rfl⟩
  · exact absurd h mismatch_ne_ok

/-! ## What stands around a value -/

/-- The step leads to the value of a field, which is read by the decoder. -/
inductive Enters (fields : List (FieldReader σ)) (d : Decoder α) : Source.Step → Prop
  | member {key : String} {set : α → σ → σ} {before after : List (Except Fault String × Source)}
    {ending : ObjectEnd} (found : fields.find? (·.name == key) = some (.of key d set)) :
    Enters fields d (.member before (.ok key) after ending)
  | item {key : String} {set : α → σ → σ} {before after : List Source} {ending : ArrayEnd}
    (found : fields[before.length]? = some (.of key d set)) :
    Enters fields d (.item before after ending)

/-- The value of a member may be exchanged for one that is read as the same, or skipped as
well. -/
theorem recordMembers_around {before after : List (Except Fault String × Source)}
    (reads : ∀ f, fields.find? (·.name == key) = some f →
      ∀ c, f.read depth s = .ok c → f.read depth s' = .ok c)
    (skips : fields.find? (·.name == key) = none → s.skip = none → s'.skip = none)
    (h : recordMembers fields depth (before ++ (.ok key, s) :: after) seen r = .ok x) :
    recordMembers fields depth (before ++ (.ok key, s') :: after) seen r = .ok x := by
  induction before generalizing seen r with
  | nil =>
    obtain ⟨_, ⟨⟩, ⟨f, change, found, new, read, h⟩ | ⟨unknown, skipped, h⟩⟩ :=
      recordMembers_cons_eq_ok h
    · exact (recordMembers_cons found new (reads f found change read) after r).trans h
    · exact (recordMembers_cons_unknown unknown (skips unknown skipped) after).trans h
  | cons m before ih => exact recordMembers_cons_mono (fun _ _ => ih) m h

/-- An item may be exchanged for one that is read as the same. -/
theorem recordItems_around {before after : List Source} {ending : ArrayEnd} {f : FieldReader σ}
    (found : fields[before.length]? = some f)
    (reads : ∀ c, f.read depth s = .ok c → f.read depth s' = .ok c)
    (h : recordItems depth ending fields (before ++ s :: after) r = .ok x) :
    recordItems depth ending fields (before ++ s' :: after) r = .ok x := by
  induction before generalizing fields r with
  | nil =>
    obtain ⟨fields, rfl⟩ : ∃ rest, fields = f :: rest := by
      cases fields <;> simp_all
    obtain ⟨change, read, h⟩ := bind_eq_ok_iff.1 h
    exact bind_eq_ok_iff.2 ⟨change, reads change read, h⟩
  | cons item before ih =>
    cases fields with
    | nil => cases found
    | cons g fields =>
      obtain ⟨change, read, h⟩ := bind_eq_ok_iff.1 h
      exact bind_eq_ok_iff.2 ⟨change, read, ih found h⟩

/-- A record is read as the same if the value of a field is exchanged for one that is read as
the same. -/
theorem record_around {step : Source.Step} {name : String} (enters : Enters fields d step)
    (same : ∀ v, d k s = .ok v → d k s' = .ok v)
    (h : record name fields r (k + 1) (step.around s) = .ok x) :
    record name fields r (k + 1) (step.around s') = .ok x := by
  have reads (key : String) (set : α → σ → σ) (c : σ → σ)
      (h : (FieldReader.of key d set).read k s = .ok c) :
      (FieldReader.of key d set).read k s' = .ok c := by
    obtain ⟨v, hv, rfl⟩ := map_eq_ok_iff.1 h
    exact map_eq_ok_iff.2 ⟨v, same v hv, rfl⟩
  cases enters with
  | member found =>
    obtain ⟨h, closed⟩ := record_object_eq_ok_iff.1 h
    refine record_object_eq_ok_iff.2 ⟨recordMembers_around (fun f hf => ?_) (fun unknown => ?_) h,
      closed⟩
    · obtain rfl := Option.some.inj (hf.symm.trans found)
      exact reads _ _
    · cases unknown.symm.trans found
  | item found => exact recordItems_around found (reads _ _) h

/-- An item of a list may be exchanged for one that is read as the same. -/
theorem list_around {before after : List Source} {ending : ArrayEnd} {xs : List α}
    (same : ∀ v, d k s = .ok v → d k s' = .ok v)
    (h : list d (k + 1) (.array (before ++ s :: after) ending) = .ok xs) :
    list d (k + 1) (.array (before ++ s' :: after) ending) = .ok xs := by
  obtain ⟨each, closed⟩ := list_array_eq_ok_iff.1 h
  obtain ⟨vs, v, vs', rfl, left, middle, right⟩ := exists_append_of_forall₂ each
  exact list_array_eq_ok_iff.2 ⟨List.rel_append left (.cons (same v middle) right), closed⟩

/-- The value of an entry may be exchanged for one that is read as the same. -/
theorem table_around {before after : List (Except Fault String × Source)}
    {name : Except Fault String} {ending : ObjectEnd} {t : Table α}
    (same : ∀ v, d k s = .ok v → d k s' = .ok v)
    (h : table d (k + 1) (.object (before ++ (name, s) :: after) ending) = .ok t) :
    table d (k + 1) (.object (before ++ (name, s') :: after) ending) = .ok t := by
  obtain ⟨⟨es, each, rfl⟩, closed⟩ := table_object_eq_ok_iff.1 h
  rw [entries_eq_ok_iff] at each
  obtain ⟨vs, v, vs', rfl, left, ⟨named, middle⟩, right⟩ := exists_append_of_forall₂ each
  refine table_object_eq_ok_iff.2 ⟨⟨_, entries_eq_ok_iff.2 ?_, rfl⟩, closed⟩
  exact List.rel_append left (.cons ⟨named, same _ middle⟩ right)

/-! ## Raw values -/

open Source (fill)

/-- The tree can be read as a raw value. -/
def Readable (depth : Nat) (s : Source) : Prop :=
  ∃ v, raw depth s = .ok v

/-- An array can be read if its items can, and a bracket closes it. -/
theorem readable_array_iff {items : List Source} {ending : ArrayEnd} :
    Readable (k + 1) (.array items ending) ↔
      (∀ s ∈ items, Readable k s) ∧ ending.reading = none := by
  constructor
  · rintro ⟨v, h⟩
    obtain ⟨_, vs, ⟨⟩, each, closed⟩ := raw_array_eq_ok h
    refine ⟨fun s hs => ?_, closed⟩
    obtain ⟨v, -, hv⟩ := exists_right_of_forall₂ each hs
    exact ⟨v, hv⟩
  · rintro ⟨each, closed⟩
    obtain ⟨vs, hvs⟩ := exists_mapM_eq_ok each
    have listed := list_array_eq_ok_iff.2 ⟨mapM_eq_ok_iff.1 hvs, closed⟩
    exact ⟨.array vs, by rw [raw_array, listed]; rfl⟩

/-- An object can be read if its keys and values can, and a brace closes it. -/
theorem readable_object_iff {ending : ObjectEnd} :
    Readable (k + 1) (.object members ending) ↔
      (∀ m ∈ members, ∃ key, m.1 = .ok key ∧ Readable k m.2) ∧ ending.reading = none := by
  constructor
  · rintro ⟨v, h⟩
    obtain ⟨_, es, ⟨⟩, each, closed⟩ := raw_object_eq_ok h
    refine ⟨fun m hm => ?_, closed⟩
    obtain ⟨key, v, named, hv⟩ := exists_of_entries members es each m hm
    exact ⟨key, named, v, hv⟩
  · rintro ⟨each, closed⟩
    have entry : ∀ m ∈ members, ∃ e : String × Json, m.1 = .ok e.1 ∧ raw k m.2 = .ok e.2 := by
      intro m hm
      obtain ⟨key, named, v, hv⟩ := each m hm
      exact ⟨(key, v), named, hv⟩
    obtain ⟨es, hes⟩ := exists_forall₂ entry
    have tabled := table_object_eq_ok_iff.2 ⟨⟨es, entries_eq_ok_iff.2 hes.flip, rfl⟩, closed⟩
    exact ⟨_, by rw [raw_object, tabled]; rfl⟩

/-- A container can be read if the value in it is exchanged for one that can be read as well. -/
theorem Readable.around {step : Source.Step} (same : Readable k s → Readable k s')
    (h : Readable (k + 1) (step.around s)) : Readable (k + 1) (step.around s') := by
  cases step with
  | item before after ending =>
    simp only [Source.Step.around, readable_array_iff, List.forall_mem_append,
      List.forall_mem_cons] at h ⊢
    obtain ⟨⟨left, middle, right⟩, closed⟩ := h
    exact ⟨⟨left, same middle, right⟩, closed⟩
  | member before key after ending =>
    simp only [Source.Step.around, readable_object_iff, List.forall_mem_append,
      List.forall_mem_cons] at h ⊢
    obtain ⟨⟨left, ⟨key, named, middle⟩, right⟩, closed⟩ := h
    exact ⟨⟨left, ⟨key, named, same middle⟩, right⟩, closed⟩

/-- A tree that can be read may have further members in an object at any place in it. -/
theorem Readable.extends {keys : List String} {ending : ObjectEnd} {place : List Source.Step}
    (h : Extends keys k ms ms') (room : depth = k + 1 + place.length)
    (read : Readable depth (fill place (.object ms ending))) :
    Readable depth (fill place (.object ms' ending)) := by
  induction place generalizing depth with
  | nil =>
    subst room
    obtain ⟨extra, perm, unknown⟩ := h
    obtain ⟨each, closed⟩ := readable_object_iff.1 read
    refine readable_object_iff.2 ⟨fun m hm => ?_, closed⟩
    rcases List.mem_append.1 (perm.subset hm) with new | old
    · obtain ⟨key, v, named, -, hv⟩ := unknown m new
      exact ⟨key, named, v, hv⟩
    · exact each m old
  | cons step place ih =>
    subst room
    exact Readable.around (ih rfl) read

/-! ## Decoders that walk the whole tree -/

/-- What the decoder gives a value for is complete. -/
def Exhausts (d : Decoder α) : Prop :=
  ∀ depth s x, d depth s = .ok x → s.Complete

/-- A text is read in full. -/
@[simp] theorem exhausts_text : text.Exhausts := by
  intro depth s x h
  unfold text at h
  split at h
  · exact .string _
  · exact absurd h mismatch_ne_ok

/-- A flag is read in full. -/
@[simp] theorem exhausts_flag : flag.Exhausts := by
  intro depth s x h
  unfold flag at h
  split at h
  · exact .scalar _
  · exact absurd h mismatch_ne_ok

/-- A raw value is read in full. -/
@[simp] theorem exhausts_raw : Exhausts raw :=
  fun _ _ _ => complete_of_raw

/-- A union first reads a raw value. -/
@[simp]
theorem exhausts_union {name : String} {forms : List (Decoder α)} :
    (union name forms).Exhausts := by
  intro depth s x h
  obtain ⟨v, read, -⟩ := bind_eq_ok_iff.1 h
  exact complete_of_raw read

/-- What may be missing is read in full if what is there is. -/
@[simp] theorem exhausts_optional (h : d.Exhausts) : (optional d).Exhausts := by
  intro depth s x hx
  unfold optional at hx
  split at hx
  · exact .scalar _
  · obtain ⟨y, hy, -⟩ := map_eq_ok_iff.1 hx
    exact h _ _ _ hy

/-- A list is read in full if its items are. -/
@[simp] theorem exhausts_list (h : d.Exhausts) : (list d).Exhausts := by
  intro depth s xs hxs
  obtain ⟨k, items, ending, rfl, rfl⟩ := exists_array_of_list hxs
  obtain ⟨each, closed⟩ := list_array_eq_ok_iff.1 hxs
  refine Source.complete_array_iff.2 ⟨fun s hs => ?_, ArrayEnd.reading_eq_none_iff.1 closed⟩
  obtain ⟨x, -, hx⟩ := exists_right_of_forall₂ each hs
  exact h _ _ _ hx

/-- A map is read in full if its entries are. -/
@[simp] theorem exhausts_table (h : d.Exhausts) : (table d).Exhausts := by
  intro depth s t ht
  obtain ⟨k, members, ending, rfl, rfl⟩ := exists_object_of_table ht
  obtain ⟨⟨es, each, -⟩, closed⟩ := table_object_eq_ok_iff.1 ht
  refine Source.complete_object_iff.2 ⟨fun m hm => ?_, ObjectEnd.reading_eq_none_iff.1 closed⟩
  obtain ⟨key, x, -, hx⟩ := exists_of_entries _ es each m hm
  exact h _ _ _ hx

/-- A field is read in full if its value is. -/
@[simp] theorem exhausts_of_iff {name : String} {set : α → σ → σ} :
    Exhausts (FieldReader.of name d set).read ↔ d.Exhausts := by
  constructor
  · exact fun h depth s x hx => h depth s _ (map_eq_ok_iff.2 ⟨x, hx, rfl⟩)
  · intro h depth s c hc
    obtain ⟨x, hx, -⟩ := map_eq_ok_iff.1 hc
    exact h depth s x hx

/-- Members that are read are complete, and so are those that are skipped. -/
theorem complete_of_recordMembers (each : ∀ f ∈ fields, Exhausts f.read)
    (h : recordMembers fields depth members seen r = .ok x) : ∀ m ∈ members, m.2.Complete := by
  induction members generalizing seen r with
  | nil => exact fun m hm => absurd hm List.not_mem_nil
  | cons m members ih =>
    obtain ⟨key, value⟩ := m
    obtain ⟨name, -, ⟨f, change, found, -, read, h⟩ | ⟨-, skipped, h⟩⟩ :=
      recordMembers_cons_eq_ok h
    · have taken := each f (List.mem_of_find?_eq_some found) _ _ _ read
      exact List.forall_mem_cons.2 ⟨taken, ih h⟩
    · exact List.forall_mem_cons.2 ⟨Source.complete_iff_skip.2 skipped, ih h⟩

/-- A record that is read from an array has gone through all of its items, since further ones
are refused. -/
theorem complete_of_recordItems {ending : ArrayEnd} :
    ∀ (fields : List (FieldReader σ)) (items : List Source) (r : σ),
      (∀ f ∈ fields, Exhausts f.read) → recordItems depth ending fields items r = .ok x →
      (Source.array items ending).Complete
  | [], [], _, _, h => by
    obtain ⟨_, closed, -⟩ := bind_eq_ok_iff.1 h
    have closed := ArrayEnd.closing_eq_none_iff.1 (refuse_eq_ok_iff.1 closed)
    exact Source.complete_array_iff.2 ⟨by simp, closed⟩
  | [], _ :: _, _, _, h => by cases h
  | _ :: _, [], _, _, h => by
    obtain ⟨_, closed, -⟩ := bind_eq_ok_iff.1 h
    have closed := ArrayEnd.reading_eq_none_iff.1 (refuse_eq_ok_iff.1 closed)
    exact Source.complete_array_iff.2 ⟨by simp, closed⟩
  | f :: fields, item :: items, r, each, h => by
    obtain ⟨change, read, h⟩ := bind_eq_ok_iff.1 h
    obtain ⟨first, others⟩ := List.forall_mem_cons.1 each
    obtain ⟨rest, closed⟩ :=
      Source.complete_array_iff.1 (complete_of_recordItems fields items _ others h)
    exact Source.complete_array_iff.2
      ⟨List.forall_mem_cons.2 ⟨first _ _ _ read, rest⟩, closed⟩

/-- A record whose fields walk the whole tree does so itself. -/
theorem exhausts_record {name : String} (each : ∀ f ∈ fields, Exhausts f.read) :
    (record name fields r).Exhausts := by
  intro depth s x h
  unfold record at h
  split at h
  · cases h
  · cases h
  · obtain ⟨x, read, h⟩ := bind_eq_ok_iff.1 h
    obtain ⟨_, closed, -⟩ := bind_eq_ok_iff.1 h
    exact Source.complete_object_iff.2 ⟨complete_of_recordMembers each read,
      ObjectEnd.reading_eq_none_iff.1 (refuse_eq_ok_iff.1 closed)⟩
  · exact complete_of_recordItems _ _ _ each h
  · exact absurd h mismatch_ne_ok

end Decoder
end ApiGraph
