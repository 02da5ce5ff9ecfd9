/-
# The protocols that options list

A registry for a list of names is filled by taking the builders one by one out of those that are
built in.  So it comes out exactly for distinct names of built-in protocols, and then it has these
in the order of the list (`Registry.take_eq_ok_iff`).  Else the error is about the first name that
is not built in or that stands in the list before (`Registry.take_eq_error_iff`).

The second half of this is a trap: a name that is listed twice is reported as unknown, although it
is not (`Project.ofOptions_names`, `Project.not_forall_refusesOnlyUnknown`).
-/

import ApiGraph.Project
import ApiGraph.Protocol.Standard
import Mathlib.Data.List.Forall2
import Mathlib.Data.List.Nodup

namespace ApiGraph

namespace Table

variable {α : Type} {t : Table α} {key name : String}

/-- Taking one entry out leaves those under other keys. -/
theorem get?_erase_of_ne (h : key ≠ name) : get? (erase t name) key = get? t key := by
  induction t with
  | nil => rfl
  | cons entry rest ih =>
    obtain ⟨k, v⟩ := entry
    rw [erase]
    split
    · subst k
      rw [get?, if_neg h.symm]
    · rw [get?, get?, ih]

/-- Nothing is found under a key that is not there. -/
theorem get?_eq_none_of_not_mem (h : key ∉ keys t) : get? t key = none := by
  rw [Option.eq_none_iff_forall_ne_some]
  exact fun value found => h (mem_keys_of_get? found)

/-- Where no key stands twice, nothing is left under a key that was taken out. -/
theorem get?_erase_self (distinct : t.Distinct) : get? (erase t name) name = none := by
  induction t with
  | nil => rfl
  | cons entry rest ih =>
    obtain ⟨k, v⟩ := entry
    obtain ⟨absent, distinct⟩ := List.nodup_cons.1 distinct
    rw [erase]
    split
    · subst k
      exact get?_eq_none_of_not_mem absent
    · rename_i other
      rw [get?, if_neg other, ih distinct]

/-- The value under a key is found after another one was taken out. -/
theorem get?_erase_eq_some_iff (distinct : t.Distinct) {value : α} :
    get? (erase t name) key = some value ↔ key ≠ name ∧ get? t key = some value := by
  by_cases same : key = name
  · rw [same, get?_erase_self distinct]
    exact iff_of_false nofun fun h => h.1 rfl
  · rw [get?_erase_of_ne same, and_iff_right same]

/-- Taking an entry out leaves the keys different. -/
theorem Distinct.erase (distinct : t.Distinct) (name : String) : (t.erase name).Distinct := by
  refine List.Nodup.sublist (List.Sublist.map Prod.fst ?_) distinct
  induction t with
  | nil => exact List.Sublist.refl _
  | cons entry rest ih =>
    rw [Table.erase]
    split
    · exact List.sublist_cons_self _ _
    · exact List.Sublist.cons_cons _ (ih (List.nodup_cons.1 distinct).2)

/-- An entry with a new key is put at the end. -/
theorem insert_of_not_mem {value : α} (h : key ∉ keys t) :
    insert t key value = t ++ [(key, value)] := by
  induction t with
  | nil => rfl
  | cons entry rest ih =>
    obtain ⟨k, v⟩ := entry
    simp only [keys, List.map_cons, List.mem_cons, not_or] at h
    rw [insert, if_neg (Ne.symm h.1), ih h.2, List.cons_append]

/-- A table contains a key if something is found under it. -/
theorem contains_iff {t : Table α} : t.contains key ↔ ∃ value, get? t key = some value :=
  Option.isSome_iff_exists

end Table

namespace Registry

variable {left taken r : Registry} {names : List String} {name : String}

/-- The builders of a registry under the names, one for each. -/
def Under (left : Registry) (names : List String) (r : Registry) : Prop :=
  List.Forall₂ (fun name e => e.1 = name ∧ Table.get? left name = some e.2) names r

/-- There are builders under names of the registry. -/
theorem exists_under (known : ∀ name ∈ names, Table.contains left name) :
    ∃ r, Under left names r := by
  induction names with
  | nil => exact ⟨[], .nil⟩
  | cons name rest ih =>
    rw [List.forall_mem_cons] at known
    obtain ⟨b, found⟩ := Table.contains_iff.1 known.1
    obtain ⟨bs, under⟩ := ih known.2
    exact ⟨(name, b) :: bs, .cons ⟨rfl, found⟩ under⟩

/-- The first name of a list that is not in the registry, or stands in the list before. -/
def FirstRefused (left : Registry) (names : List String) (name : String) : Prop :=
  ∃ before after, names = before ++ name :: after ∧ before.Nodup ∧
    (∀ n ∈ before, Table.contains left n) ∧ (name ∈ before ∨ ¬ Table.contains left name)

/-- After one builder was taken, another name finds the same ones, and the own name none. -/
theorem under_erase_iff (distinct : left.Distinct) :
    Under (Table.erase left name) names r ↔ name ∉ names ∧ Under left names r := by
  have other : (∀ n ∈ names, n ≠ name) ↔ name ∉ names :=
    ⟨fun h mem => h name mem rfl, fun h n mem same => h (same ▸ mem)⟩
  rw [← other, Under, Under, ← List.forall₂_and_left]
  refine ⟨fun h => h.imp fun n e both => ?_, fun h => h.imp fun n e both => ?_⟩
  · obtain ⟨ne, found⟩ := (Table.get?_erase_eq_some_iff distinct).1 both.2
    exact ⟨ne, both.1, found⟩
  · exact ⟨both.2.1, (Table.get?_erase_eq_some_iff distinct).2 ⟨both.1, both.2.2⟩⟩

/-- A table without an entry contains the other keys. -/
theorem contains_erase_iff (distinct : left.Distinct) {n : String} :
    Table.contains (Table.erase left name) n ↔ n ≠ name ∧ Table.contains left n := by
  simp only [Table.contains_iff, Table.get?_erase_eq_some_iff distinct, exists_and_left]

/-- The builders of distinct names are taken, and only those. -/
theorem take_eq_ok_iff (distinct : left.Distinct)
    (fresh : ∀ name, Table.contains left name → name ∉ Table.keys taken) :
    take names left taken = .ok r ↔ names.Nodup ∧ ∃ bs, r = taken ++ bs ∧ Under left names bs := by
  induction names generalizing left taken with
  | nil =>
    rw [take, Except.ok.injEq]
    simp only [Under, List.nodup_nil, true_and, List.forall₂_nil_left_iff, exists_eq_right,
      List.append_nil]
    exact eq_comm
  | cons name rest ih =>
    rw [take]
    cases found : Table.get? left name with
    | none =>
      refine iff_of_false nofun ?_
      rintro ⟨-, bs, -, under⟩
      obtain ⟨e, -, ⟨-, present⟩, -⟩ := List.forall₂_cons_left_iff.1 under
      rw [found] at present
      cases present
    | some b =>
      have inserted : Table.insert taken name b = taken ++ [(name, b)] :=
        Table.insert_of_not_mem (fresh name (Table.contains_iff.2 ⟨b, found⟩))
      have keysOf : ∀ n, n ∈ Table.keys (taken ++ [(name, b)]) ↔
          n ∈ Table.keys taken ∨ n = name := by
        simp [Table.keys]
      change take rest (Table.erase left name) (Table.insert taken name b) = _ ↔ _
      rw [inserted, ih (distinct.erase name) fun n hn => ?_]
      · simp only [under_erase_iff distinct, List.nodup_cons, List.append_assoc,
          List.singleton_append]
        constructor
        · rintro ⟨nodup, bs, rfl, absent, under⟩
          exact ⟨⟨absent, nodup⟩, _, rfl, .cons ⟨rfl, found⟩ under⟩
        · rintro ⟨⟨absent, nodup⟩, _, rfl, under⟩
          obtain ⟨⟨_, b'⟩, bs, ⟨rfl, present⟩, others, rfl⟩ := List.forall₂_cons_left_iff.1 under
          rw [found, Option.some.injEq] at present
          subst present
          exact ⟨nodup, bs, rfl, absent, others⟩
      · obtain ⟨ne, here⟩ := (contains_erase_iff distinct).1 hn
        rw [keysOf, not_or]
        exact ⟨fresh n here, ne⟩

/-- The error is about the first name that is not left, or was taken before. -/
theorem take_eq_error_iff (distinct : left.Distinct) :
    take names left taken = .error name ↔ FirstRefused left names name := by
  induction names generalizing left taken with
  | nil =>
    refine iff_of_false nofun ?_
    rintro ⟨before, after, h, -⟩
    cases List.append_eq_nil_iff.1 h.symm |>.2
  | cons n rest ih =>
    rw [take]
    cases found : Table.get? left n with
    | none =>
      have absent : ¬ Table.contains left n := by
        rw [Table.contains, found]
        exact Bool.false_ne_true
      constructor
      · rintro ⟨⟩
        exact ⟨[], rest, rfl, List.nodup_nil, nofun, .inr absent⟩
      · rintro ⟨_ | ⟨m, before⟩, after, h, -, known, -⟩
        · cases h
          rfl
        · cases h
          exact absurd (known n List.mem_cons_self) absent
    | some b =>
      have here : Table.contains left n := Table.contains_iff.2 ⟨b, found⟩
      change take rest (Table.erase left n) (Table.insert taken n b) = _ ↔ _
      rw [ih (distinct.erase n)]
      simp only [FirstRefused, contains_erase_iff distinct]
      constructor
      · rintro ⟨before, after, rfl, nodup, known, refused⟩
        refine ⟨n :: before, after, rfl, List.nodup_cons.2 ⟨fun mem => (known n mem).1 rfl, nodup⟩,
          List.forall_mem_cons.2 ⟨here, fun m hm => (known m hm).2⟩, ?_⟩
        rw [List.mem_cons]
        tauto
      · rintro ⟨_ | ⟨m, before⟩, after, h, nodup, known, refused⟩
        · cases h
          exact absurd here (refused.resolve_left List.not_mem_nil)
        · cases h
          obtain ⟨absent, nodup⟩ := List.nodup_cons.1 nodup
          refine ⟨before, after, rfl, nodup, fun m hm =>
            ⟨fun same => absent (same ▸ hm), known m (List.mem_cons_of_mem _ hm)⟩, ?_⟩
          rw [List.mem_cons] at refused
          tauto

/-- No built-in name stands twice. -/
theorem distinct_standard : Table.Distinct standard := by
  unfold Table.Distinct
  decide

end Registry

namespace Project

open Registry (standard FirstRefused Under)

/-- The options are refused only for names that are no built-in protocols: the first such name is
in the error, and without one the registry has the listed protocols in the order in which they are
first mentioned. -/
def RefusesOnlyUnknown (o : Options) (library : Library) (names : List String) : Prop :=
  ((∃ p, ofOptions { o with protocols := some names } library = .ok p) ↔
    ∀ name ∈ names, Table.contains standard name) ∧
  (∀ p, ofOptions { o with protocols := some names } library = .ok p →
    Table.keys p.settings.registry = names.eraseDups) ∧
  ∀ e, ofOptions { o with protocols := some names } library = .error e →
    ∃ name, names.find? (!Table.contains standard ·) = some name ∧ e = .unknownProtocol name

section Options

variable {o : Options} {library : Library}

/-- A project is made with the registry that its options select. -/
theorem ofOptions_eq_ok_iff {p : Project} : ofOptions o library = .ok p ↔
    ∃ r, Registry.ofOptions standard o = .ok r ∧ p = ⟨⟨o, r⟩, library⟩ := by
  rw [ofOptions]
  cases Registry.ofOptions standard o with
  | ok r => simp [eq_comm]
  | error name => simp

/-- No project is made if the registry refuses a name of the options. -/
theorem ofOptions_eq_error_iff {e : CompileError} : ofOptions o library = .error e ↔
    ∃ name, Registry.ofOptions standard o = .error name ∧ e = .unknownProtocol name := by
  rw [ofOptions]
  cases Registry.ofOptions standard o with
  | ok r => simp
  | error name => simp [eq_comm]

end Options

/-- **A project is made exactly of distinct names of built-in protocols.**  Its registry then has
their builders, in the order of the list.  Else the error is about the first name in the list that
is not built in or that stands in the list before. -/
theorem ofOptions_names (o : Options) (library : Library) (names : List String) :
    (∀ p, ofOptions { o with protocols := some names } library = .ok p ↔
      names.Nodup ∧ ∃ r, Under standard names r ∧
        p = ⟨⟨{ o with protocols := some names }, r⟩, library⟩) ∧
    ∀ e, ofOptions { o with protocols := some names } library = .error e ↔
      ∃ name, FirstRefused standard names name ∧ e = .unknownProtocol name := by
  have taken (r : Registry) : Registry.take names standard [] = .ok r ↔
      names.Nodup ∧ Under standard names r := by
    rw [Registry.take_eq_ok_iff Registry.distinct_standard (by simp [Table.keys])]
    simp only [List.nil_append, exists_eq_left']
  have refused (name : String) : Registry.take names standard [] = .error name ↔
      FirstRefused standard names name :=
    Registry.take_eq_error_iff Registry.distinct_standard
  have asked : Registry.ofOptions standard { o with protocols := some names } =
      Registry.take names standard [] := rfl
  constructor
  · intro p
    rw [ofOptions_eq_ok_iff, asked]
    simp only [taken, and_assoc, exists_and_left]
  · intro e
    rw [ofOptions_eq_error_iff, asked]
    simp only [refused]

/-- A protocol that is listed twice is refused as unknown. -/
theorem not_forall_refusesOnlyUnknown :
    ¬ ∀ (o : Options) (library : Library) (names : List String),
      RefusesOnlyUnknown o library names := by
  intro h
  obtain ⟨succeeds, -⟩ := h {} .empty ["kafka", "kafka"]
  obtain ⟨p, made⟩ := succeeds.2 (by decide)
  cases made

end Project
end ApiGraph
