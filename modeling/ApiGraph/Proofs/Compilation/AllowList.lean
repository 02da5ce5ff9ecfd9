/-
# Options that filter

A list of protocols is a filter.  The registry that `Registry.ofOptions` takes for distinct names
of built-in protocols holds their builders and no others
(`Registry.exists_ofOptions_restricted`), and a registry that is a part of another, in any order,
derives a part of its variants (`Registry.exists_variants_of_restricted`).  Builders do not look at
each other, so the settings with the list admit a margin in which tables lose the keys that are not
listed, and nothing else happens but that more protocols are warned of.

Which directions are enabled is read in one place, where the visibility of an operation is set.
-/

import ApiGraph.Proofs.Compilation.Comparison
import ApiGraph.Proofs.Document.Pointers
import ApiGraph.Proofs.Protocol.Registries
import Mathlib.Data.List.Perm.Basic
import Mathlib.Data.List.Nodup

namespace ApiGraph

namespace Table

variable {α : Type} {names : List String} {t t' : Table α} {key : String}

/-- As a map, `t'` is `t` without the keys that are not listed. -/
def RestrictedTo (names : List String) (t t' : Table α) : Prop :=
  t'.Perm (t.filter (·.1 ∈ names))

theorem mem_iff_get? (distinct : t.Distinct) {x : α} :
    (key, x) ∈ t ↔ get? t key = some x :=
  ⟨get?_eq_some_of_mem distinct, mem_of_get?⟩

theorem RestrictedTo.get?_eq_some_iff (h : RestrictedTo names t t') (distinct : t.Distinct)
    {x : α} : get? t' key = some x ↔ key ∈ names ∧ get? t key = some x := by
  have distinct' : t'.Distinct := by
    rw [Distinct, keys, (h.map _).nodup_iff]
    exact distinct.sublist (List.filter_sublist.map _)
  rw [← mem_iff_get? distinct', ← mem_iff_get? distinct, h.mem_iff, List.mem_filter,
    decide_eq_true_eq, and_comm]

end Table

/-! ## Registries -/

namespace Registry

variable {role : Role} {seed : Builder → Seed} {r r' : Registry} {t : Table Variant}
  {names : List String}

/-- Every builder derives its variant, and none depends on another. -/
theorem variants_eq_ok_iff : variants role seed r = .ok t ↔
    List.Forall₂ (fun e x => x.1 = e.1 ∧ e.2.variant role (seed e.2) = .ok x.2) r t := by
  induction r generalizing t with
  | nil =>
    rw [variants, List.forall₂_nil_left_iff, Except.ok.injEq, eq_comm]
  | cons e rest ih =>
    obtain ⟨protocol, b⟩ := e
    rw [variants]
    constructor
    · intro h
      split at h
      · cases h
      · rename_i v hv
        obtain ⟨more, hm, h⟩ := bind_eq_ok_iff.1 h
        cases h
        exact .cons ⟨rfl, hv⟩ (ih.1 hm)
    · intro h
      obtain ⟨⟨_, v⟩, more, ⟨rfl, hv⟩, hm, rfl⟩ := List.forall₂_cons_left_iff.1 h
      have derived : b.variant role (seed b) = .ok v := hv
      rw [derived]
      exact bind_eq_ok_iff.2 ⟨more, ih.2 hm, rfl⟩

/-- A part of the builders, in any order, derives that part of the variants. -/
theorem exists_variants_of_restricted (h : r.RestrictedTo names r')
    (ht : variants role seed r = .ok t) :
    ∃ t', variants role seed r' = .ok t' ∧ t.RestrictedTo names t' := by
  have part := List.rel_filter (p := (·.1 ∈ names)) (q := (·.1 ∈ names))
    (fun e x related => by simp only [related.1]) (variants_eq_ok_iff.1 ht)
  obtain ⟨t', derived, perm⟩ := List.perm_comp_forall₂ h part
  exact ⟨t', variants_eq_ok_iff.2 derived, perm⟩

/-- **The registry for distinct names of built-in protocols** is the part with these names. -/
theorem exists_ofOptions_restricted (o : Options) (distinct : names.Nodup)
    (known : ∀ name ∈ names, Table.contains standard name) :
    ∃ r, ofOptions standard { o with protocols := some names } = .ok r ∧
      standard.RestrictedTo names r := by
  obtain ⟨bs, taken⟩ := exists_under known
  have run : ofOptions standard { o with protocols := some names } = .ok bs :=
    (take_eq_ok_iff distinct_standard (by simp [Table.keys])).2 ⟨distinct, bs, rfl, taken⟩
  refine ⟨bs, run, (List.perm_ext_iff_of_nodup ?_ ?_).2 fun e => ?_⟩
  · refine List.Nodup.of_map Prod.fst ?_
    rw [map_eq_of_forall₂ (g := id) taken.flip fun e name same => same.1, List.map_id]
    exact distinct
  · exact (List.Nodup.of_map Prod.fst distinct_standard).filter _
  · rw [List.mem_filter, decide_eq_true_eq, Table.mem_iff_get? distinct_standard, and_comm]
    constructor
    · intro he
      obtain ⟨name, hn, rfl, same⟩ := exists_left_of_forall₂ taken he
      exact ⟨hn, same⟩
    · rintro ⟨hn, hb⟩
      obtain ⟨e', he', name, same⟩ := exists_right_of_forall₂ taken hn
      rw [hb, Option.some.injEq] at same
      obtain rfl : e = e' := Prod.ext name.symm same
      exact he'

end Registry

/-! ## Margins -/

/-- Tables lose what is not listed, and there are more diagnostics. -/
def Margin.restricted (names : List String) : Margin where
  variants := Table.RestrictedTo names
  values := Table.RestrictedTo names
  diagnostics _ := List.Sublist

/-- Nothing differs but which operations are visible. -/
def Margin.directions : Margin where
  visible _ _ := True

/-- A restricted registry leaves tables restricted, and warns of more. -/
theorem Margin.admits_restricted {names : List String} {S S' : Settings}
    (contentType : S'.options.contentType = S.options.contentType)
    (publish : S'.options.publish = S.options.publish)
    (subscribe : S'.options.subscribe = S.options.subscribe)
    (distinct : Table.Distinct S.registry) (h : S.registry.RestrictedTo names S'.registry) :
    (Margin.restricted names).Admits S S' where
  contentType := contentType
  visible shown direction := by
    have enabled : S'.options.enables direction = S.options.enables direction := by
      cases direction
      · exact publish
      · exact subscribe
    exact congrArg (shown && ·) enabled.symm
  builder found := ((h.get?_eq_some_iff distinct).1 found).2
  variants := Registry.exists_variants_of_restricted h
  noValues := .nil
  keepValue {protocol v vs vs'} present rest := by
    obtain ⟨b, hb⟩ := Option.isSome_iff_exists.1 present
    have listed := ((h.get?_eq_some_iff distinct).1 hb).1
    change List.Perm _ (List.filter _ _)
    rw [List.filter_cons_of_pos (by simpa using listed)]
    exact List.Perm.cons _ rest
  leaveValue {protocol v vs vs'} present lacks rest := by
    have unlisted : protocol ∉ names := fun listed => by
      obtain ⟨b, hb⟩ := Option.isSome_iff_exists.1 present
      exact lacks (Option.isSome_iff_exists.2
        ⟨b, (h.get?_eq_some_iff distinct).2 ⟨listed, hb⟩⟩)
    change List.Perm _ (List.filter _ _)
    rw [List.filter_cons_of_neg (by simpa using unlisted)]
    exact rest
  warn d _ _ _ h := List.Sublist.append_right h [d]
  warnMore _ _ d _ _ _ rest := List.Sublist.trans rest (List.sublist_append_left _ [d])

/-- The directions change which operations are visible. -/
theorem Margin.admits_directions (o : Options) (publish subscribe : Bool) (r : Registry) :
    Margin.directions.Admits ⟨o, r⟩ ⟨{ o with publish, subscribe }, r⟩ :=
  Margin.admits_of_registry rfl rfl (fun _ _ => trivial) fun _ _ _ _ h => h ▸ rfl

/-! ## Documents -/

namespace Document

/-- **Options filter.**  With a list of distinct built-in protocols a document that compiles with
all of them compiles as well, and the stores differ in nothing but this: the variants and the
decoded bindings are those of the listed protocols, and diagnostics are added.  With other
directions it compiles as well, and the stores differ in nothing but the visibility of
operations. -/
theorem compile_filters (d : Document) (index : Nat) (name : String) :
    (∀ (o : Options) (protocols : List String), protocols.Nodup →
      (∀ protocol ∈ protocols, Table.contains Registry.standard protocol) →
      ∃ r, Registry.ofOptions .standard { o with protocols := some protocols } = .ok r ∧
        ∀ store, d.compile ⟨{ o with protocols := none }, .standard⟩ index name = .ok store →
          ∃ store', d.compile ⟨{ o with protocols := some protocols }, r⟩ index name = .ok store' ∧
            store.Matches (.restricted protocols) store') ∧
    ∀ (o : Options) (publish subscribe : Bool) (r : Registry) (store : DocumentStore),
      d.compile ⟨o, r⟩ index name = .ok store →
        ∃ store', d.compile ⟨{ o with publish, subscribe }, r⟩ index name = .ok store' ∧
          store.Matches .directions store' := by
  constructor
  · intro o protocols distinct known
    obtain ⟨r, taken, restricted⟩ := Registry.exists_ofOptions_restricted o distinct known
    refine ⟨r, taken, fun store h => ?_⟩
    have admits : (Margin.restricted protocols).Admits
        ⟨{ o with protocols := none }, .standard⟩ ⟨{ o with protocols := some protocols }, r⟩ :=
      Margin.admits_restricted rfl rfl rfl Registry.distinct_standard restricted
    exact exists_compile_of_admits admits (.refl _) h
  · intro o publish subscribe r store h
    exact exists_compile_of_admits (Margin.admits_directions o publish subscribe r) rfl h

/-- A server of one protocol with bindings for two, and a channel to publish on. -/
def bridge : Document where
  servers := [("bridge", {
    url := "host"
    protocol := "amqp"
    bindings := some { protocols := [("amqp", .object []), ("kafka", .object [])] } })]
  channels := [("news", { publish := some {} })]

/-- Of two protocols one is listed; then no operation to publish is visible. -/
theorem compile_filters_bridge : ∃ r store listed hidden,
    Registry.ofOptions .standard { protocols := some ["kafka"] } = .ok r ∧
    bridge.compile ⟨{}, .standard⟩ 0 "main" = .ok store ∧ store.diagnostics = [] ∧
    bridge.compile ⟨{ protocols := some ["kafka"] }, r⟩ 0 "main" = .ok listed ∧
    store.Matches (.restricted ["kafka"]) listed ∧
    bridge.compile ⟨{ publish := false }, .standard⟩ 0 "main" = .ok hidden ∧
    store.Matches .directions hidden := by
  have compiled : (bridge.compile ⟨{}, .standard⟩ 0 "main").toOption.map (·.diagnostics) =
      some [] := by decide +kernel
  obtain ⟨store, h, silent⟩ := Option.map_eq_some_iff.1 compiled
  have h := toOption_eq_some_iff.1 h
  obtain ⟨lists, directions⟩ := compile_filters bridge 0 "main"
  obtain ⟨r, taken, filters⟩ := lists {} ["kafka"] (by decide) (by decide)
  obtain ⟨listed, hl, part⟩ := filters store h
  obtain ⟨hidden, hh, same⟩ := directions {} false true .standard store h
  exact ⟨r, store, listed, hidden, taken, h, silent, hl, part, hh, same⟩

end Document
end ApiGraph
