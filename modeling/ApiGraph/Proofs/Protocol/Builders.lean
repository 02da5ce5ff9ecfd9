/-
# What the built-in builders derive

A built-in builder reads the bindings of a seed through the format of their section, and so it
derives from what a section decodes to what it derives from the section's own text
(`StandardProtocol.variant_decoded`).  The builders that options ask for are built-in ones
(`Registry.builtIn_ofOptions`).
-/

import ApiGraph.Protocol.Standard
import ApiGraph.Proofs.Protocol.Normalization
import Mathlib.Data.List.Nodup

namespace ApiGraph

open Document (BindingsKind)

/-- Attributes are derived from the name, the address and the normal form of the bindings, but not
from their text. -/
def Derivation.IgnoresText : Derivation → Prop
  | .plain => True
  | .fromSeed attributes => ∀ seed raw, attributes { seed with bindings := raw } = attributes seed
  | .fromBindings attributes =>
      ∀ value seed raw, attributes value { seed with bindings := raw } = attributes value seed

namespace StandardProtocol

variable {p : StandardProtocol} {kind : BindingsKind} {role : Role} {raw value : Json}

/-- A value is normalized by the format of its kind. -/
theorem normalize_eq_ok_iff : p.normalize kind raw = .ok value ↔
    (p.format kind).normalize raw = .ok value := by
  rw [normalize]
  split
  · rename_i found hf
    rw [hf, Except.ok.injEq, Except.ok.injEq]
  · rename_i fault hf
    rw [hf]
    exact iff_of_false (fun h => by cases h) fun h => by cases h

/-- What a section decodes to is the normal form of what is written in it. -/
theorem normalize_of_bindings {decoded : BindingsValue} (h : p.bindings kind raw = .ok decoded) :
    p.normalize kind raw = .ok decoded.value := by
  obtain ⟨value, hv, h⟩ := bind_eq_ok_iff.1 h
  cases h
  exact hv

/-- No built-in derivation looks at the text of bindings, which it knows in normal form. -/
theorem ignoresText_derivation (hp : p ∈ standardProtocols) (role : Role) :
    (p.derivation role).IgnoresText := by
  simp only [standardProtocols, List.mem_cons, List.not_mem_nil, or_false] at hp
  rcases hp with rfl | rfl | rfl | rfl | rfl <;> cases role <;>
    first
    | trivial
    | exact fun _ _ => rfl
    | exact fun _ _ _ => rfl

/-- **From decoded bindings** a built-in builder derives what it derives from the text. -/
theorem variant_decoded (hp : p ∈ standardProtocols) {decoded : BindingsValue}
    (h : p.bindings role.bindingsKind raw = .ok decoded) (name address : String) :
    p.variant role ⟨name, address, some raw⟩ =
      p.variant role ⟨name, address, some decoded.value⟩ := by
  have written := normalize_of_bindings h
  have again : p.normalize role.bindingsKind decoded.value = .ok decoded.value :=
    normalize_eq_ok_iff.2 (Format.normalize_normal (normalize_eq_ok_iff.1 written))
  have ignores := ignoresText_derivation hp role
  rw [variant, variant]
  cases hd : p.derivation role with
  | plain => rfl
  | fromSeed attributes =>
    rw [hd] at ignores
    have same : attributes ⟨name, address, some raw⟩ =
        attributes ⟨name, address, some decoded.value⟩ :=
      ignores ⟨name, address, some decoded.value⟩ (some raw)
    simp only [same]
    rfl
  | fromBindings attributes =>
    rw [hd] at ignores
    have same : attributes decoded.value ⟨name, address, some raw⟩ =
        attributes decoded.value ⟨name, address, some decoded.value⟩ :=
      ignores decoded.value ⟨name, address, some decoded.value⟩ (some raw)
    simp only [written, again, bind, Except.bind, same]
    rfl

/-- **A built-in builder derives no variant** only from bindings that it rejects in a section. -/
theorem bindings_of_variant_eq_error {seed : Seed} {fault : HookFault}
    (h : p.variant role seed = .error fault) :
    ∃ raw, seed.bindings = some raw ∧ p.bindings role.bindingsKind raw = .error fault := by
  rw [variant] at h
  cases hd : p.derivation role with
  | plain => rw [hd] at h; cases h
  | fromSeed attributes => rw [hd] at h; cases h
  | fromBindings attributes =>
    rw [hd] at h
    cases written : seed.bindings with
    | none => rw [written] at h; cases h
    | some raw =>
      rw [written] at h
      refine ⟨raw, rfl, ?_⟩
      cases normal : p.normalize role.bindingsKind raw with
      | ok value => simp [normal, bind, Except.bind] at h; cases h
      | error fault' =>
        simp only [normal, bind, Except.bind] at h
        cases h
        rw [bindings, normal]
        rfl

/-- The names of the built-in protocols are different. -/
theorem eq_of_protocol_eq {q : StandardProtocol} (hp : p ∈ standardProtocols)
    (hq : q ∈ standardProtocols) (h : p.protocol = q.protocol) : p = q := by
  have distinct : (standardProtocols.map StandardProtocol.protocol).Nodup := by decide +kernel
  exact List.inj_on_of_nodup_map distinct hp hq h

/-- No built-in protocol is named as an extension. -/
theorem isExtension_eq_false (hp : p ∈ standardProtocols) :
    "x-".isPrefixOf p.protocol = false := by
  simp only [standardProtocols, List.mem_cons, List.not_mem_nil, or_false] at hp
  rcases hp with rfl | rfl | rfl | rfl | rfl <;> decide +kernel

end StandardProtocol

namespace Registry

variable {r : Registry} {protocol : String} {b : Builder}

/-- Every builder is that of a built-in protocol, under its name. -/
def BuiltIn (r : Registry) : Prop :=
  ∀ x ∈ r, ∃ p ∈ standardProtocols, x = (p.protocol, p.builder)

/-- What is found in a registry of built-in protocols is the builder of one of them, under its
name. -/
theorem BuiltIn.of_get? (h : r.BuiltIn) (hb : Table.get? r protocol = some b) :
    ∃ p ∈ standardProtocols, protocol = p.protocol ∧ b = p.builder := by
  obtain ⟨p, hp, same⟩ := h _ (Table.mem_of_get? hb)
  obtain ⟨rfl, rfl⟩ := Prod.mk.inj same
  exact ⟨p, hp, rfl, rfl⟩

/-- Registering a built-in protocol leaves the registry built in. -/
theorem BuiltIn.register (h : r.BuiltIn) {p : StandardProtocol} (hp : p ∈ standardProtocols) :
    (r.register p.builder).BuiltIn := by
  intro x hx
  rcases Table.mem_insert hx with hx | rfl
  · exact h x hx
  · exact ⟨p, hp, rfl⟩

/-- The standard registry is built in. -/
theorem builtIn_standard : standard.BuiltIn := by
  rw [standard, List.foldl_map]
  exact List.foldlRecOn standardProtocols _ (by simp [BuiltIn]) fun r h p hp => h.register hp

/-- What is taken of built-in registries is built in. -/
theorem builtIn_take {names : List String} {left taken : Registry} (hl : left.BuiltIn)
    (ht : taken.BuiltIn) (h : take names left taken = .ok r) : r.BuiltIn := by
  induction names generalizing left taken with
  | nil =>
    cases h
    exact ht
  | cons name rest ih =>
    rw [take] at h
    split at h
    · rename_i b hb
      refine ih (fun x hx => hl x (Table.mem_of_mem_erase hx)) (fun x hx => ?_) h
      rcases Table.mem_insert hx with hx | rfl
      · exact ht x hx
      · obtain ⟨p, hp, rfl, rfl⟩ := hl.of_get? hb
        exact ⟨p, hp, rfl⟩
    · cases h

/-- **The builders that options ask for** are built-in ones. -/
theorem builtIn_ofOptions {o : Options} (h : ofOptions standard o = .ok r) : r.BuiltIn := by
  rw [ofOptions] at h
  split at h
  · cases h
    exact builtIn_standard
  · exact builtIn_take builtIn_standard (by simp [BuiltIn]) h

/-- Where no variants are derived, some builder derives none. -/
theorem exists_builder_of_variants_error {role : Role} {seed : Builder → Seed} {fault : HookFault}
    (h : variants role seed r = .error (protocol, fault)) :
    ∃ b, (protocol, b) ∈ r ∧ b.variant role (seed b) = .error fault := by
  induction r with
  | nil => cases h
  | cons x rest ih =>
    obtain ⟨name, first⟩ := x
    rw [variants] at h
    split at h
    · rename_i found hf
      cases h
      exact ⟨first, List.mem_cons_self .., hf⟩
    · cases hr : variants role seed rest with
      | ok more => rw [hr] at h; cases h
      | error e =>
        rw [hr] at h
        cases h
        obtain ⟨b, hb, failed⟩ := ih hr
        exact ⟨b, List.mem_cons_of_mem _ hb, failed⟩

/-- A built-in builder is found under its name. -/
theorem BuiltIn.get?_of_mem (h : r.BuiltIn) (hb : (protocol, b) ∈ r) :
    Table.get? r protocol = some b := by
  obtain ⟨p, hp, same⟩ := h _ hb
  obtain ⟨rfl, rfl⟩ := Prod.mk.inj same
  induction r with
  | nil => cases hb
  | cons x rest ih =>
    obtain ⟨q, hq, rfl⟩ := h _ (List.mem_cons_self ..)
    rw [Table.get?]
    by_cases name : q.protocol = p.protocol
    · rw [if_pos name, StandardProtocol.eq_of_protocol_eq hq hp name]
    · rw [if_neg name]
      refine ih (fun x hx => h x (List.mem_cons_of_mem _ hx)) ?_
      exact (List.mem_cons.1 hb).resolve_left fun same => name (Prod.mk.inj same).1.symm

/-- There is a variant for every builder. -/
theorem exists_variant {role : Role} {seed : Builder → Seed} {table : Table Variant}
    (h : variants role seed r = .ok table) (hb : Table.get? r protocol = some b) :
    ∃ v, b.variant role (seed b) = .ok v ∧ Table.get? table protocol = some v := by
  induction r generalizing table with
  | nil => cases hb
  | cons x rest ih =>
    obtain ⟨name, first⟩ := x
    rw [variants] at h
    split at h
    · cases h
    · rename_i v hv
      obtain ⟨more, hm, h⟩ := bind_eq_ok_iff.1 h
      cases h
      rw [Table.get?] at hb ⊢
      split at hb
      · cases hb
        rw [if_pos ‹_›]
        exact ⟨v, hv, rfl⟩
      · rw [if_neg ‹_›]
        exact ih hm hb

end Registry
end ApiGraph
