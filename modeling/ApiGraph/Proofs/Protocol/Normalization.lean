/-
# Normal forms of protocol bindings

What a format gives for a value is in normal form: the format gives it for itself
(`Format.normalize_normal`).  The record of a format keeps values in normal form under the names
of its fields (`FieldType.AllNormal`), and a record that was assembled of such values is
assembled of them again.
-/

import ApiGraph.Protocol.Format
import ApiGraph.Proofs.Correspondence

namespace ApiGraph
namespace FieldType

/-- The type gives the value for itself. -/
def Normal (t : FieldType) (w : Json) : Prop :=
  normalize w t = .ok (some w)

/-- What is kept under the name of a field is normal for the type of the field. -/
def AllNormal (fields : List (String × FieldType)) (values : Table (Option Json)) : Prop :=
  ∀ key w, Table.get? values key = some (some w) →
    ∃ t, Table.get? fields key = some t ∧ t.Normal w

/-- The members of the record that is assembled. -/
def kept (fields : List (String × FieldType)) (values : Table (Option Json)) : Table Json :=
  fields.filterMap fun (name, _) =>
    (Table.get? values name).join.map fun value => (name, value)

variable {fields : List (String × FieldType)} {values : Table (Option Json)} {key : String}
  {w : Json}

/-- A record is assembled of the values that are kept. -/
theorem assemble_eq (fields : List (String × FieldType)) (values : Table (Option Json)) :
    assemble fields values = .object (kept fields values) := rfl

/-- What is kept is the value of a field. -/
theorem mem_kept_iff : (key, w) ∈ kept fields values ↔
    key ∈ fields.map (·.1) ∧ (Table.get? values key).join = some w := by
  simp only [kept, List.mem_filterMap, Option.map_eq_some_iff, List.mem_map]
  constructor
  · rintro ⟨⟨name, t⟩, hf, value, hv, ⟨⟩⟩
    exact ⟨⟨_, hf, rfl⟩, hv⟩
  · rintro ⟨⟨⟨name, t⟩, hf, rfl⟩, hv⟩
    exact ⟨_, hf, w, hv, rfl⟩

/-- Members that are normal are what they are normalized to. -/
theorem normalizeMembers_normal (normal : AllNormal fields values) {members : Table Json}
    (same : ∀ x ∈ members, Table.get? values x.1 = some (some x.2)) :
    normalizeMembers fields members = .ok (members.map fun x => (x.1, some x.2)) := by
  induction members with
  | nil => rw [normalizeMembers, List.map_nil]
  | cons x rest ih =>
    obtain ⟨key, w⟩ := x
    obtain ⟨t, ht, hw⟩ := normal key w (same _ (List.mem_cons_self ..))
    have others := ih fun x hx => same x (List.mem_cons_of_mem _ hx)
    rw [Normal] at hw
    rw [normalizeMembers, ht]
    simp only [hw, others, bind, Except.bind]
    rfl

/-- The value under a key of members that are taken from a table. -/
theorem join_get?_map_some {members : Table Json}
    (same : ∀ x ∈ members, (Table.get? values x.1).join = some x.2) (key : String) :
    (Table.get? (members.map fun x => (x.1, some x.2)) key).join =
      if key ∈ members.map (·.1) then (Table.get? values key).join else none := by
  induction members with
  | nil => rfl
  | cons x rest ih =>
    obtain ⟨k, w⟩ := x
    have others := ih fun x hx => same x (List.mem_cons_of_mem _ hx)
    rw [List.map_cons, Table.get?]
    by_cases h : k = key
    · subst h
      have here := same (k, w) (List.mem_cons_self ..)
      simp [here]
    · have tail : key ∈ ((k, w) :: rest).map (·.1) ↔ key ∈ rest.map (·.1) := by
        rw [List.map_cons, List.mem_cons, or_iff_right (Ne.symm h)]
      rw [if_neg h, others]
      exact if_congr tail.symm rfl rfl

/-- What is assembled of a record is the record. -/
theorem assemble_kept (fields : List (String × FieldType)) (values : Table (Option Json)) :
    assemble fields ((kept fields values).map fun x => (x.1, some x.2)) =
      assemble fields values := by
  have same : ∀ x ∈ kept fields values, (Table.get? values x.1).join = some x.2 :=
    fun x hx => (mem_kept_iff.1 hx).2
  rw [assemble_eq, assemble_eq]
  refine congrArg Json.object (List.filterMap_congr fun f hf => congrArg (Option.map _) ?_)
  rw [join_get?_map_some same]
  split
  · rfl
  · rename_i absent
    -- a field that has a value is kept
    cases hv : (Table.get? values f.1).join with
    | none => rfl
    | some w =>
      have present : (f.1, w) ∈ kept fields values :=
        mem_kept_iff.2 ⟨List.mem_map_of_mem hf, hv⟩
      exact absurd (List.mem_map_of_mem present) absent

/-- A record of normal values is normal. -/
theorem normalizeMembers_assemble (normal : AllNormal fields values) :
    ∃ again, normalizeMembers fields (kept fields values) = .ok again ∧
      assemble fields again = assemble fields values := by
  refine ⟨_, normalizeMembers_normal normal fun x hx => ?_, assemble_kept fields values⟩
  exact Option.join_eq_some_iff.1 (mem_kept_iff.1 hx).2

/-- An assembled record is normal. -/
theorem normal_assemble (name : String) (normal : AllNormal fields values) :
    (FieldType.record name fields).Normal (assemble fields values) := by
  obtain ⟨again, hm, same⟩ := normalizeMembers_assemble normal
  rw [Normal, assemble_eq, normalize, hm]
  simp only [bind, Except.bind, same]
  rfl

/-! ## What the checks give -/

/-- A text is given as it is. -/
theorem eq_of_checkText {v : Json} (h : checkText v = .ok w) : v = w := by
  cases v <;> cases h
  rfl

/-- Texts are given as an array, and that array as itself. -/
theorem normal_of_checkTexts {v : Json} (h : checkTexts v = .ok w) :
    ∃ items, w = .array items ∧ checkTexts w = .ok w := by
  cases v with
  | array items =>
    obtain ⟨texts, ht, rfl⟩ := map_eq_ok_iff.1 h
    refine ⟨texts, rfl, map_eq_ok_iff.2 ⟨texts, ?_, rfl⟩⟩
    rw [mapM_eq_ok_iff, List.forall₂_same]
    intro text htext
    obtain ⟨item, -, hi⟩ := exists_left_of_forall₂ (mapM_eq_ok_iff.1 ht) htext
    exact eq_of_checkText hi ▸ hi
  | _ => cases h

/-- A flag is given as it is. -/
theorem eq_of_checkFlag {v : Json} (h : checkFlag v = .ok w) : v = w := by
  cases v <;> cases h
  rfl

/-- An integer in its range is given as it is. -/
theorem eq_of_checkInteger {v : Json} {expected : String} {low high : Int}
    (h : checkInteger expected low high v = .ok w) : v = w := by
  cases v with
  | integer i =>
    rw [checkInteger] at h
    split at h <;> cases h
    rfl
  | _ => cases h

/-- A name is given as it is if it is one of the names. -/
theorem checkName_eq_ok_iff {names : List String} {name : String} :
    checkName names name = .ok w ↔ names.contains name ∧ w = .string name := by
  rw [checkName]
  split
  · rename_i known
    exact ⟨fun h => ⟨known, (Except.ok.inj h).symm⟩, fun h => h.2 ▸ rfl⟩
  · rename_i unknown
    exact iff_of_false (fun h => by cases h) fun h => unknown h.1

/-- A choice is given as its name, and the name as itself. -/
theorem normal_of_checkChoice {names : List String} {v : Json}
    (h : checkChoice names v = .ok w) :
    ∃ name, w = .string name ∧ checkName names name = .ok w := by
  have named : ∃ name, checkName names name = .ok w := by
    rw [checkChoice.eq_def] at h
    split at h
    · exact ⟨_, h⟩
    · obtain ⟨chosen, hc, h⟩ := bind_eq_ok_iff.1 h
      split at h <;> cases h
      exact ⟨_, hc⟩
    · cases h
    · cases h
  obtain ⟨name, h⟩ := named
  exact ⟨name, (checkName_eq_ok_iff.1 h).2, h⟩

/-! ## What is normalized is normal -/

/-- A check that gives what it gets gives it again. -/
theorem normal_of_check {check : Json → Except Fault Json} {t : FieldType} {v : Json}
    (checks : normalize v t = some <$> check v) (keeps : ∀ u, check v = .ok u → v = u)
    (h : normalize v t = .ok (some w)) : t.Normal w := by
  obtain ⟨u, hu, ⟨⟩⟩ := map_eq_ok_iff.1 (checks.symm.trans h)
  exact keeps w hu ▸ h

/-- What is given for texts is normal. -/
theorem normal_texts {v : Json} (h : normalize v .texts = .ok (some w)) :
    FieldType.texts.Normal w := by
  rw [normalize] at h
  obtain ⟨list, hl, h⟩ := bind_eq_ok_iff.1 h
  obtain ⟨items, rfl, again⟩ := normal_of_checkTexts hl
  cases items with
  | nil => cases h
  | cons item rest =>
    cases h
    rw [Normal, normalize]
    simp only [again, bind, Except.bind]
    rfl

/-- What is given for a choice is normal. -/
theorem normal_choice {names : List String} {v : Json} (h : some <$> checkChoice names v =
    .ok (some w)) : (FieldType.choice names).Normal w := by
  obtain ⟨chosen, hc, ⟨⟩⟩ := map_eq_ok_iff.1 h
  obtain ⟨name, rfl, again⟩ := normal_of_checkChoice hc
  rw [Normal, normalize]
  · rw [checkChoice, again]
    rfl
  · rintro ⟨⟩

/-- No values are all normal. -/
theorem AllNormal.nil : AllNormal fields [] := by
  intro key w h
  cases h

/-- One more member, under the name of a field. -/
theorem AllNormal.member {t : FieldType} {v : Option Json} (others : AllNormal fields values)
    (ht : Table.get? fields key = some t) (first : ∀ w, v = some w → t.Normal w) :
    AllNormal fields ((key, v) :: values) := by
  intro k w hw
  rw [Table.get?] at hw
  split at hw
  · rename_i same
    exact ⟨t, same ▸ ht, first w (Option.some.inj hw)⟩
  · exact others k w hw

/-- One more item, for one more field. -/
theorem AllNormal.item {t : FieldType} {v : Option Json} (others : AllNormal fields values)
    (first : ∀ w, v = some w → t.Normal w) :
    AllNormal ((key, t) :: fields) ((key, v) :: values) := by
  intro k w hw
  rw [Table.get?] at hw ⊢
  split at hw
  · rename_i same
    exact ⟨t, if_pos same, first w (Option.some.inj hw)⟩
  · rename_i different
    rw [if_neg different]
    exact others k w hw

/-- What a type gives is normal, and so is what is kept of items and members. -/
theorem normal_of_normalize :
    (∀ v t w, normalize v t = .ok (some w) → t.Normal w) ∧
    (∀ name count length index items fields values,
      normalizeItems name count length index items fields = .ok values →
        AllNormal fields values) ∧
    ∀ fields members values, normalizeMembers fields members = .ok values →
      AllNormal fields values := by
  refine FieldType.normalize.mutual_induct
    (fun v t => ∀ w, normalize v t = .ok (some w) → t.Normal w)
    (fun name count length index items fields => ∀ values,
      normalizeItems name count length index items fields = .ok values → AllNormal fields values)
    (fun fields members => ∀ values,
      normalizeMembers fields members = .ok values → AllNormal fields values)
    ?texts ?null ?text ?flag ?natural ?integer ?any ?choice ?object ?array ?other
    ?ended ?tooMany ?item ?empty ?known ?unknown
  case texts => exact fun v w h => normal_texts h
  case null =>
    intro t ht w h
    rw [normalize] at h
    · cases h
    · exact ht
  case text =>
    intro v hv w h
    exact normal_of_check (by rw [normalize]; exact hv) (fun _ => eq_of_checkText) h
  case flag =>
    intro v hv w h
    exact normal_of_check (by rw [normalize]; exact hv) (fun _ => eq_of_checkFlag) h
  case natural =>
    intro v bits hv w h
    exact normal_of_check (by rw [normalize]; exact hv) (fun _ => eq_of_checkInteger) h
  case integer =>
    intro v hv w h
    exact normal_of_check (by rw [normalize]; exact hv) (fun _ => eq_of_checkInteger) h
  case any =>
    intro v hv w h
    have same := h
    rw [normalize] at same
    · cases same
      exact h
    · exact hv
  case choice =>
    intro v names hv w h
    rw [normalize] at h
    · exact normal_choice h
    · exact hv
  case object =>
    intro members name fields ih w h
    rw [normalize] at h
    obtain ⟨values, hm, h⟩ := bind_eq_ok_iff.1 h
    cases h
    exact normal_assemble name (ih values hm)
  case array =>
    intro items name fields ih w h
    rw [normalize] at h
    obtain ⟨values, hi, h⟩ := bind_eq_ok_iff.1 h
    cases h
    exact normal_assemble name (ih values hi)
  case other =>
    intro v name fields null object array w h
    rw [normalize] at h
    · cases h
    · exact null
    · exact object
    · exact array
  case ended =>
    intro name count length index fields values h
    rw [normalizeItems] at h
    obtain ⟨-, -, h⟩ := bind_eq_ok_iff.1 h
    cases h
    exact .nil
  case tooMany =>
    intro name count length index item rest values h
    rw [normalizeItems] at h
    cases h
  case item =>
    intro name count length index item items key t fields ih others values h
    rw [normalizeItems] at h
    obtain ⟨v, hv, h⟩ := bind_eq_ok_iff.1 h
    obtain ⟨more, hm, h⟩ := bind_eq_ok_iff.1 h
    cases h
    exact (others more hm).item fun w hw => ih w (hw ▸ hv)
  case empty =>
    intro fields values h
    rw [normalizeMembers] at h
    cases h
    exact .nil
  case known =>
    intro fields key value rest t ht ih others values h
    rw [normalizeMembers, ht] at h
    obtain ⟨v, hv, h⟩ := bind_eq_ok_iff.1 h
    obtain ⟨more, hm, h⟩ := bind_eq_ok_iff.1 h
    cases h
    exact (others more hm).member ht fun w hw => ih w (hw ▸ hv)
  case unknown =>
    intro fields key value rest none others values h
    rw [normalizeMembers, none] at h
    exact others values h

end FieldType

open FieldType

/-- **What a format gives is in normal form.** -/
theorem Format.normalize_normal {f : Format} {v w : Json} (h : f.normalize v = .ok w) :
    f.normalize w = .ok w := by
  obtain ⟨-, items_normal, members_normal⟩ := normal_of_normalize
  have assembled : ∃ values, AllNormal f.fields values ∧ assemble f.fields values = w := by
    rw [Format.normalize.eq_def] at h
    split at h
    · obtain ⟨values, hm, h⟩ := bind_eq_ok_iff.1 h
      exact ⟨values, members_normal _ _ _ hm, Except.ok.inj h⟩
    · obtain ⟨values, hi, h⟩ := bind_eq_ok_iff.1 h
      exact ⟨values, items_normal _ _ _ _ _ _ _ hi, Except.ok.inj h⟩
    · cases h
  obtain ⟨values, normal, rfl⟩ := assembled
  obtain ⟨again, hm, same⟩ := normalizeMembers_assemble normal
  rw [assemble_eq, Format.normalize, hm]
  simp only [bind, Except.bind, same]
  rfl

end ApiGraph
