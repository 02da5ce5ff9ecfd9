/-
# Malformed bindings

The bindings of a server, a channel or a message are decoded twice, when variants are derived from
them for their owner, and then for their own section.  Both ways they go through the format of
their section, so a built-in builder refuses for the owner only what it refuses for the section,
with the same words, and both say that it is wrong at the section (`fault?_eq_protocolDecode`).

So a document fails if its walk comes to a section that holds rejected data, and what it is
refused for as the data of a protocol is held by such a section (`malformed_bindings_fail`).
-/

import ApiGraph.Proofs.Compilation.FirstFault

namespace ApiGraph

open Document (Entity BindingsKind Bindings)

/-- The section holds data for a protocol that its builder rejects in sections of this kind. -/
def Document.Bindings.Rejected (b : Bindings) (r : Registry) (kind : BindingsKind)
    (protocol message : String) : Prop :=
  ∃ builder raw, Table.get? r protocol = some builder ∧ (protocol, raw) ∈ b.protocols ∧
    builder.bindings kind raw = .error (.rejected message)

theorem HookFault.stop_eq_protocolDecode {hook : HookFault} {place place' : Location}
    {protocol protocol' message : String}
    (h : hook.stop place protocol = .error (.protocolDecode place' protocol' message)) :
    place' = place ∧ protocol' = protocol ∧ hook = .rejected message := by
  cases hook <;> cases h
  exact ⟨rfl, rfl, rfl⟩

namespace Document

variable {r : Registry} {S : Settings} {kind : BindingsKind} {place : Location} {b : Bindings}
  {c : Context} {e : Entity} {role : Role} {protocol message name address : String}

/-- A section has a fault if a built-in builder rejects what it holds. -/
theorem Bindings.fault?_ne_none (builtIn : r.BuiltIn) (h : b.Rejected r kind protocol message) :
    b.fault? r kind place ≠ none := by
  obtain ⟨builder, raw, known, held, rejected⟩ := h
  intro none
  have passed := List.findSome?_eq_none_iff.1 none _ held
  obtain ⟨p, hp, rfl, -⟩ := builtIn.of_get? known
  rw [entryFault?, StandardProtocol.isExtension_eq_false hp] at passed
  simp [known, rejected] at passed

/-- What a section is refused for is rejected by the builder of the protocol. -/
theorem Bindings.rejected_of_fault? {place' : Location} (h : b.fault? r kind place =
    some (.error (.protocolDecode place' protocol message))) :
    place' = place ∧ b.Rejected r kind protocol message := by
  obtain ⟨⟨key, raw⟩, held, fault⟩ := List.exists_of_findSome?_eq_some h
  rw [entryFault?] at fault
  split at fault
  · cases fault
  split at fault
  · cases fault
  rename_i builder known
  split at fault
  · cases fault
  · rename_i hook rejected
    obtain ⟨rfl, rfl, rfl⟩ := HookFault.stop_eq_protocolDecode (Option.some.inj fault)
    exact ⟨rfl, builder, raw, known, held, rejected⟩

/-- What variants are refused for is rejected by the builder of the protocol, in a section. -/
theorem exists_rejected_of_variantsFault? {place' : Location} (builtIn : r.BuiltIn)
    (h : r.variantsFault? role place (e.seed name address) =
      some (.error (.protocolDecode place' protocol message))) :
    place' = place ∧
      ∃ b, e.bindings? = some b ∧ b.Rejected r role.bindingsKind protocol message := by
  rw [Registry.variantsFault?] at h
  split at h
  · cases h
  · rename_i key hook failed
    obtain ⟨rfl, rfl, rfl⟩ := HookFault.stop_eq_protocolDecode (Option.some.inj h)
    obtain ⟨builder, member, refused⟩ := Registry.exists_builder_of_variants_error failed
    have known := builtIn.get?_of_mem member
    obtain ⟨p, -, rfl, rfl⟩ := builtIn.of_get? known
    obtain ⟨raw, written, rejected⟩ := StandardProtocol.bindings_of_variant_eq_error refused
    obtain ⟨b, sec, found⟩ := Option.bind_eq_some_iff.1 written
    exact ⟨rfl, b, sec, _, raw, known, Table.mem_of_get? found, rejected⟩

/-- What has variants has its bindings as a part, of the kind of its role. -/
theorem Entity.mem_parts_of_variety? {o : Options} (own : e.reference? = none)
    (h : e.variety? o c = some (role, name, address)) (sec : e.bindings? = some b) :
    (["bindings"], .bindings role.bindingsKind b) ∈ e.parts := by
  rw [Entity.parts, own]
  cases e <;> cases h <;> rw [Entity.bindings?] at sec <;>
    simp [Entity.ownParts, Entity.partFields, Placed.ofFields, Placed.under, optionParts, sec,
      Role.bindingsKind]

/-- **An entity is refused for the data of a protocol** if it is a section that holds rejected data,
or has such a section. -/
theorem Entity.fault?_eq_protocolDecode (builtIn : S.registry.BuiltIn)
    (h : e.fault? S c = some (.error (.protocolDecode place protocol message))) :
    ∃ rel kind b, e.Contains rel (.bindings kind b) ∧ place = c.location.descend rel ∧
      b.Rejected S.registry kind protocol message := by
  rw [Entity.fault?] at h
  split at h
  · rw [referenceFault?] at h
    split at h <;> cases h
  · rename_i own
    unfold Entity.ownFault? at h
    split at h
    · rw [Operation.fault?] at h
      split at h <;> cases h
    · rename_i kind b
      obtain ⟨rfl, rejected⟩ := Bindings.rejected_of_fault? h
      exact ⟨[], kind, b, .self, by rw [Location.descend, List.append_nil], rejected⟩
    · obtain ⟨⟨role, name, address⟩, variety, h⟩ := Option.bind_eq_some_iff.1 h
      obtain ⟨rfl, b, sec, rejected⟩ := exists_rejected_of_variantsFault? builtIn h
      exact ⟨["bindings"], _, b, .of_part (mem_parts_of_variety? own variety sec), rfl, rejected⟩

variable {d : Document} {index : Nat}

/-- A document with rejected data in a section is not compiled. -/
theorem exists_compile_error_of_rejected (builtIn : S.registry.BuiltIn) {path : List String}
    (contains : (Entity.document d).Contains path (.bindings kind b)) (own : b.reference = none)
    (rejected : b.Rejected S.registry kind protocol message) :
    ∃ e, d.compile S index name = .error e := by
  obtain ⟨v, visited, placed⟩ := exists_visit_iff.2 contains
  cases h : d.compile S index name with
  | error e => exact ⟨e, rfl⟩
  | ok store =>
    have passed := firstProblem?_eq_none_iff.1 (firstProblem?_of_compile h) v visited
    obtain ⟨frames, entity⟩ := v
    obtain ⟨rfl, rfl⟩ : Frame.path frames = path ∧ entity = .bindings kind b := Prod.mk.inj placed
    have reference : (Entity.bindings kind b).reference? = none := own
    rw [halt?_eq_fault?, Entity.fault?, reference] at passed
    exact absurd passed (Bindings.fault?_ne_none builtIn rejected)

/-- A document that is refused for the data of a protocol has a section that holds it. -/
theorem exists_rejected_of_compile (builtIn : S.registry.BuiltIn)
    (h : d.compile S index name = .error (.protocolDecode place protocol message)) :
    ∃ path kind b, (Entity.document d).Contains path (.bindings kind b) ∧ place = ⟨name, path⟩ ∧
      b.Rejected S.registry kind protocol message := by
  have first := (firstProblem?_of_compile_error h).resolve_right fun ⟨⟨_, other⟩, _⟩ => by
    cases other
  obtain ⟨v, visited, problem⟩ := List.exists_of_findSome?_eq_some first
  obtain ⟨stop, halt, reported⟩ := Option.map_eq_some_iff.1 problem
  have refused : stop = .error (.protocolDecode place protocol message) := by
    cases stop with
    | error e => exact congrArg Stop.error reported
    | brokeDown words => cases reported
  rw [halt?_eq_fault?, refused] at halt
  obtain ⟨rel, kind, b, inside, rfl, rejected⟩ := Entity.fault?_eq_protocolDecode builtIn halt
  have contains : (Entity.document d).Contains (Frame.path v.frames) v.entity :=
    exists_visit_iff.1 ⟨v, visited, rfl⟩
  exact ⟨Frame.path v.frames ++ rel, kind, b, contains.trans inside, rfl, rejected⟩

/-- **Malformed bindings fail a document, at their section,** with the built-in builders.  A
document is not compiled if a section of it, which is no reference, holds rejected data for a
protocol.  If a document is refused for the data of a protocol, this is at a section that holds such
data, and with the words of the builder's hook for sections, whichever hook was asked.  No hook for
variants refuses what the hook for sections of the kind takes, or that there are no bindings. -/
theorem malformed_bindings_fail (builtIn : S.registry.BuiltIn) (d : Document) (index : Nat)
    (name : String) :
    (∀ path kind b protocol message, (Entity.document d).Contains path (.bindings kind b) →
      b.reference = none → b.Rejected S.registry kind protocol message →
      ∃ e, d.compile S index name = .error e) ∧
    (∀ place protocol message,
      d.compile S index name = .error (.protocolDecode place protocol message) →
      ∃ path kind b, (Entity.document d).Contains path (.bindings kind b) ∧
        place = ⟨name, path⟩ ∧ b.Rejected S.registry kind protocol message) ∧
    ∀ protocol builder, Table.get? S.registry protocol = some builder → ∀ role seed,
      (∀ raw, seed.bindings = some raw →
        ∃ value, builder.bindings role.bindingsKind raw = .ok value) →
      ∃ v, builder.variant role seed = .ok v := by
  refine ⟨fun path kind b protocol message contains own rejected =>
    exists_compile_error_of_rejected builtIn contains own rejected,
    fun place protocol message h => exists_rejected_of_compile builtIn h, ?_⟩
  intro protocol builder known role seed taken
  obtain ⟨p, -, -, rfl⟩ := builtIn.of_get? known
  cases derived : p.variant role seed with
  | ok v => exact ⟨v, derived⟩
  | error fault =>
    obtain ⟨raw, written, rejected⟩ := StandardProtocol.bindings_of_variant_eq_error derived
    obtain ⟨value, ok⟩ := taken raw written
    rw [show p.bindings role.bindingsKind raw = .ok value from ok] at rejected
    cases rejected

/-- A document with a channel that has bindings with a text where a number belongs. -/
def malformedText : String :=
  "\x7b\"channels\":\x7b\"x\":\x7b\"bindings\":" ++
    "\x7b\"kafka\":\x7b\"partitions\":\"many\"\x7d\x7d\x7d\x7d\x7d"

/-- It is refused at the section, which holds what the builder rejects. -/
theorem malformed_bindings_fail_partitions : ∃ d message path kind b,
    ofText malformedText = .ok d ∧
    d.compile ⟨{}, .standard⟩ 0 "a" =
      .error (.protocolDecode ⟨"a", ["channels", "x", "bindings"]⟩ "kafka" message) ∧
    (Entity.document d).Contains path (.bindings kind b) ∧
    Location.mk "a" ["channels", "x", "bindings"] = ⟨"a", path⟩ ∧
    b.Rejected .standard kind "kafka" message := by
  have refused : (ofText malformedText).toOption.map (fun d =>
      match d.compile ⟨{}, .standard⟩ 0 "a" with
      | .ok _ => none
      | .error e => some e) = some (some (.protocolDecode ⟨"a", ["channels", "x", "bindings"]⟩
        "kafka" "invalid type: string \"many\", expected u32")) := by
    decide +kernel
  cases h : ofText malformedText with
  | error e => rw [h] at refused; cases refused
  | ok d =>
    rw [h] at refused
    cases hc : d.compile ⟨{}, .standard⟩ 0 "a" with
    | ok store => simp [Except.toOption, hc] at refused
    | error e =>
      simp only [Except.toOption, hc, Option.map_some, Option.some.injEq] at refused
      subst refused
      have fails := malformed_bindings_fail (S := ⟨{}, .standard⟩) Registry.builtIn_standard d 0 "a"
      obtain ⟨path, kind, b, contains, place, rejected⟩ := fails.2.1 _ _ _ hc
      exact ⟨d, _, path, kind, b, rfl, hc, contains, place, rejected⟩

end Document
end ApiGraph
