/-
# Extensions

A document may say more than its format knows: an object that is read as a struct may have further
keys, at any depth (`ReadAs`).  They never change what the document is read as, and neither does
the order of the keys (`Document.extensions_ignored`).

Most structs skip a key that they do not know while they read.  The messages of an operation and
what a schema says about further properties have several forms.  There the whole value is read
first, and the forms are tried on it one after the other, so a further key must not make an earlier
form fit.  It is only `oneOf` that could, in a single message.
-/

import ApiGraph.Proofs.Document.Alternatives
import ApiGraph.Proofs.Document.Structs
import Mathlib.Data.List.Perm.Basic

namespace ApiGraph

open Source (fill SpellsMember objectText)

namespace Document

open Decoder

variable {α σ : Type} {d : Decoder α} {depth k : Nat} {s s' : Source}

/-! ## Fields of structs -/

/-- The fields of a struct are set independently of one another, so their order is of no
account. -/
theorem Struct.commuting {fields : List (FieldReader σ)} (h : Struct fields) :
    Commuting fields := by
  cases h with
  | document => exact (whole (n := 0)).commuting
  | info => exact (Info.whole (n := 0)).commuting
  | serverVariable => exact (ServerVariable.whole (n := 0)).commuting
  | server => exact (Server.whole (n := 0)).commuting
  | schema levels => exact (Schema.whole (undoes_schemaWithin levels 0)).commuting
  | correlationId => exact (CorrelationId.whole (n := 0)).commuting
  | message => exact (Message.whole (n := 0)).commuting
  | alternatives =>
    intro f hf g hg different
    rw [List.mem_singleton.1 hf, List.mem_singleton.1 hg] at different
    exact absurd rfl different
  | operation => exact (Operation.whole (n := 0)).commuting
  | parameter => exact (Parameter.whole (n := 0)).commuting
  | channel => exact (Channel.whole (n := 0)).commuting
  | securityScheme => exact (SecurityScheme.whole (n := 0)).commuting
  | components => exact (Components.whole (n := 0)).commuting

/-! ## Values of several forms -/

section Forms

variable {messages : List Message} {x : OperationMessage}

/-- Where there are alternatives, they are given. -/
theorem operationMessage_of_alternatives (taken : alternatives depth s = .ok messages) :
    OperationMessage.decoder depth s = .ok x ↔ Readable depth s ∧ x = .oneOf messages := by
  rw [OperationMessage.decoder, union_pair_eq_ok_iff]
  constructor
  · rintro ⟨readable, ⟨_, first, rfl⟩ | ⟨fails, -⟩⟩
    · obtain rfl := Except.ok.inj (first.symm.trans taken)
      exact ⟨readable, rfl⟩
    · exact absurd taken (fails messages)
  · rintro ⟨readable, rfl⟩
    exact ⟨readable, .inl ⟨messages, taken, rfl⟩⟩

/-- Where there are no alternatives, a single message is given. -/
theorem operationMessage_of_single (only : ∀ messages, alternatives depth s ≠ .ok messages) :
    OperationMessage.decoder depth s = .ok x ↔
      Readable depth s ∧ ∃ m, Message.decoder depth s = .ok m ∧ x = .single m := by
  rw [OperationMessage.decoder, union_pair_eq_ok_iff]
  constructor
  · rintro ⟨readable, ⟨messages, first, -⟩ | ⟨-, second⟩⟩
    · exact absurd first (only messages)
    · exact ⟨readable, second⟩
  · rintro ⟨readable, second⟩
    exact ⟨readable, .inr ⟨only, second⟩⟩

end Forms

/-! ## Alternatives -/

section Alternatives

variable {ms ms' : List (Except Fault String × Source)} {ending : ObjectEnd} {keys : List String}
  {messages : List Message}

/-- Keys other than `oneOf` do not make a value alternatives. -/
theorem alternatives_extends (known : "oneOf" ∈ keys) (h : Extends keys k ms ms') :
    alternatives (k + 1) (.object ms' ending) = .ok messages ↔
      alternatives (k + 1) (.object ms ending) = .ok messages := by
  rw [alternatives_eq_ok_iff_record, alternatives_eq_ok_iff_record]
  exact record_extends Struct.alternatives.commuting (List.forall_mem_singleton.2 known) h

/-- What is in the fields of a message does not make it alternatives. -/
theorem alternatives_around {step : Source.Step} {m : Message}
    (enters : Enters Message.fields d step) (skipped : s.skip = none) (container : s.Container)
    (message : Message.decoder (k + 1) (step.around s) = .ok m)
    (h : alternatives (k + 1) (step.around s') = .ok messages) :
    alternatives (k + 1) (step.around s) = .ok messages := by
  rw [alternatives_eq_ok_iff_record] at h ⊢
  cases enters with
  | @member key set before after ending found =>
    have other : key ≠ "oneOf" := by
      rintro rfl
      cases found
    have unknown : alternativesFields.find? (·.name == key) = none := find?_only_eq_none other
    obtain ⟨read, closed⟩ := record_object_eq_ok_iff.1 h
    refine record_object_eq_ok_iff.2 ⟨recordMembers_around (fun f found => ?_)
      (fun _ _ => skipped) read, closed⟩
    cases unknown.symm.trans found
  | @item key set before after ending found =>
    cases before with
    -- The first item is the reference of the message, which is no array or object.
    | nil =>
      obtain ⟨change, read, -⟩ := bind_eq_ok_iff.1 message
      obtain ⟨x, read, -⟩ := map_eq_ok_iff.1 read
      exact absurd read (optionalText_ne_ok container x)
    -- An array of alternatives has only one item.
    | cons first before =>
      obtain ⟨change, -, h⟩ := bind_eq_ok_iff.1 h
      cases before <;> cases h

end Alternatives

/-! ## Further keys -/

section Further

variable {ms ms' : List (Except Fault String × Source)} {ending : ObjectEnd} {keys : List String}
  {place : List Source.Step}

/-- **A struct may have further keys, in any order.** -/
theorem ReadAs.extends {d : Decoder α}
    (at_ : ReadAs (.object ms ending) d depth place (.struct keys))
    (h : Extends keys k ms ms') (room : depth = k + 1 + place.length) {x : α}
    (read : d depth (fill place (.object ms ending)) = .ok x) :
    d depth (fill place (.object ms' ending)) = .ok x := by
  generalize known : Meaning.struct keys = meaning at at_
  induction at_ with
  | unknown | map | raw | bindings | unknownInSingle => cases known
  | struct struct =>
    cases known
    obtain rfl := Nat.succ.inj room
    exact (record_extends struct.commuting mem_names h).2 read
  | field struct enters inside ih =>
    exact record_around enters (fun v hv => ih (Nat.succ.inj room) hv known) read
  | item before after close inside ih =>
    exact list_around (fun v hv => ih (Nat.succ.inj room) hv known) read
  | entry before after key close inside ih =>
    exact table_around (fun v hv => ih (Nat.succ.inj room) hv known) read
  | optional inside ih =>
    rw [optional_eq_map (container_fill_object _).ne_null] at read ⊢
    obtain ⟨v, hv, rfl⟩ := map_eq_ok_iff.1 read
    exact map_eq_ok_iff.2 ⟨v, ih room hv known, rfl⟩
  | schema inside ih => exact ih room read known
  | additional inside ih =>
    rw [additional_eq_ok_iff (container_fill_object _)] at read ⊢
    obtain ⟨readable, v, hv, rfl⟩ := read
    exact ⟨readable.extends h room, v, ih room hv known, rfl⟩
  | oneOf taken inside ih =>
    have taken' := alternatives_eq_ok_iff_record.2
      (ih room (alternatives_eq_ok_iff_record.1 taken) known)
    rw [operationMessage_of_alternatives taken] at read
    rw [operationMessage_of_alternatives taken']
    exact ⟨read.1.extends h room, read.2⟩
  | @single depth only =>
    cases known
    obtain rfl := Nat.succ.inj room
    have only' (messages : List Message) :
        alternatives (depth + 1) (.object ms' ending) ≠ .ok messages := by
      rw [Ne, alternatives_extends List.mem_cons_self h]
      exact only messages
    obtain ⟨readable, m, message, rfl⟩ := (operationMessage_of_single only).1 read
    have message' := (record_extends Struct.message.commuting
      (fun f hf => List.mem_cons_of_mem _ (mem_names f hf)) h).2 message
    have readable' : Readable (depth + 1) (fill [] (.object ms' ending)) := readable.extends h rfl
    exact (operationMessage_of_single only').2 ⟨readable', m, message', rfl⟩
  | @inSingle _ d depth step place meaning only enters inside ih =>
    obtain ⟨readable, m, message, rfl⟩ := (operationMessage_of_single only).1 read
    have skipped : (fill place (.object ms ending)).skip = none := by
      obtain ⟨v, hv⟩ := readable
      have inner := ((Source.complete_around_iff step).1 (complete_of_raw hv)).1
      exact Source.complete_iff_skip.1 inner
    have only' (messages : List Message) :
        alternatives (depth + 1) (fill (step :: place) (.object ms' ending)) ≠ .ok messages :=
      fun taken => only messages
        (alternatives_around enters skipped (container_fill_object place) message taken)
    have message' : Message.decoder (depth + 1) (fill (step :: place) (.object ms' ending)) =
        .ok m := record_around enters (fun v hv => ih (Nat.succ.inj room) hv known) message
    exact (operationMessage_of_single only').2 ⟨readable.extends h room, m, message', rfl⟩

/-- At the place of a struct there is depth left for it. -/
theorem ReadAs.room {value : Source} {d : Decoder α}
    (at_ : ReadAs value d depth place (.struct keys)) : place.length < depth := by
  generalize known : Meaning.struct keys = meaning at at_
  induction at_ with
  | unknown | map | raw | bindings | unknownInSingle => cases known
  | struct | single => exact Nat.succ_pos _
  | optional _ ih => exact ih known
  | schema _ ih => exact ih known
  | additional _ ih => exact ih known
  | oneOf _ _ ih => exact ih known
  | field _ _ _ ih => exact Nat.succ_lt_succ (ih known)
  | item _ _ _ _ ih => exact Nat.succ_lt_succ (ih known)
  | entry _ _ _ _ _ ih => exact Nat.succ_lt_succ (ih known)
  | inSingle _ _ _ ih => exact Nat.succ_lt_succ (ih known)

end Further

/-! ## Documents are read to their end -/

/-- Reading a bindings section goes through all of its members. -/
theorem complete_of_bindingsMembers :
    ∀ (members : List (Except Fault String × Source)) (referenced : Bool) (b b' : Bindings),
      bindingsMembers depth members referenced b = .ok b' → ∀ m ∈ members, m.2.Complete
  | [], _, _, _, _ => by simp
  | (key, value) :: rest, referenced, b, b', h => by
    obtain ⟨k, -, h⟩ := bind_eq_ok_iff.1 h
    split at h
    · split at h
      · cases h
      · obtain ⟨reference, read, h⟩ := bind_eq_ok_iff.1 h
        exact List.forall_mem_cons.2 ⟨exhausts_optional exhausts_text _ _ _ read,
          complete_of_bindingsMembers rest _ _ _ h⟩
    · obtain ⟨v, read, h⟩ := bind_eq_ok_iff.1 h
      exact List.forall_mem_cons.2 ⟨complete_of_raw read, complete_of_bindingsMembers rest _ _ _ h⟩

/-- A bindings section is read in full. -/
@[simp] theorem exhausts_bindings (kind : BindingsKind) : kind.decoder.Exhausts := by
  intro depth s b h
  unfold BindingsKind.decoder bindings at h
  split at h
  · cases h
  · obtain ⟨b, read, h⟩ := bind_eq_ok_iff.1 h
    obtain ⟨_, closed, -⟩ := bind_eq_ok_iff.1 h
    exact Source.complete_object_iff.2 ⟨complete_of_bindingsMembers _ _ _ _ read,
      ObjectEnd.reading_eq_none_iff.1 (refuse_eq_ok_iff.1 closed)⟩
  · exact absurd h mismatch_ne_ok

/-- A text that may be missing is read in full. -/
@[simp] theorem exhausts_optionalText : optionalText.Exhausts :=
  exhausts_optional exhausts_text

/-- Requirements are read in full. -/
@[simp] theorem exhausts_requirements : requirements.Exhausts :=
  exhausts_list (exhausts_table (exhausts_list exhausts_text))

/-- Schemas are read in full, by induction on the levels that are left. -/
@[simp] theorem exhausts_schemaWithin (levels : Nat) : (schemaWithin levels).Exhausts := by
  induction levels with
  | zero => exact fun _ _ _ h => by cases h
  | succ levels ih =>
    exact exhausts_record (by simp [schemaFields, SchemaType.decoder, additional, ih])

/-- Every schema is read in full, and so is each struct that follows, since its fields are. -/
@[simp] theorem exhausts_schema : Schema.decoder.Exhausts :=
  fun depth => exhausts_schemaWithin (depth + 1) depth

@[simp] theorem exhausts_info : Info.decoder.Exhausts :=
  exhausts_record (by simp [Info.fields])

@[simp] theorem exhausts_serverVariable : ServerVariable.decoder.Exhausts :=
  exhausts_record (by simp [ServerVariable.fields])

@[simp] theorem exhausts_server : Server.decoder.Exhausts :=
  exhausts_record (by simp [Server.fields])

@[simp] theorem exhausts_correlationId : CorrelationId.decoder.Exhausts :=
  exhausts_record (by simp [CorrelationId.fields])

@[simp] theorem exhausts_message : Message.decoder.Exhausts :=
  exhausts_record (by simp [Message.fields])

@[simp] theorem exhausts_operation : Operation.decoder.Exhausts :=
  exhausts_record (by simp [Operation.fields, OperationMessage.decoder])

@[simp] theorem exhausts_parameter : Parameter.decoder.Exhausts :=
  exhausts_record (by simp [Parameter.fields])

@[simp] theorem exhausts_channel : Channel.decoder.Exhausts :=
  exhausts_record (by simp [Channel.fields])

@[simp] theorem exhausts_securityScheme : SecurityScheme.decoder.Exhausts :=
  exhausts_record (by simp [SecurityScheme.fields])

@[simp] theorem exhausts_components : Components.decoder.Exhausts :=
  exhausts_record (by simp [Components.fields])

/-- A document is read only where the whole text was. -/
theorem exhausts_decoder : decoder.Exhausts :=
  exhausts_record (by simp [fields])

/-- The text spells a member that may be added to an object at a place. -/
def SpellsExtension (keys : List String) (depth : Nat) (piece : String) : Prop :=
  ∃ key value v, SpellsMember piece (.ok key, value) ∧ key ∉ keys ∧ raw depth value = .ok v

/-- **Extensions never change what a document is read as.**  The text of a document can be cut
around every object that is read as a struct, into what stands before and behind this very object
and the pieces between its commas, one for each of its members.  With any pieces added that spell
further members, and all of them in any order, it is the text of the same document. -/
theorem extensions_ignored {text : String} {d : Document} (read : ofText text = .ok d)
    {place : List Source.Step} {members : List (Except Fault String × Source)} {ending : ObjectEnd}
    (source : (Source.ofText text).1 = fill place (.object members ending)) {keys : List String}
    (at_ : ReadAs (.object members ending) decoder nestingLimit place (.struct keys)) :
    ∃ before gap pieces after, text = before ++ objectText gap pieces ++ after ∧
      Source.Around place before after ∧ List.Forall₂ SpellsMember pieces members ∧
      ∀ added pieces', (∀ piece ∈ added,
          SpellsExtension keys (nestingLimit - (place.length + 1)) piece) →
        pieces'.Perm (added ++ pieces) →
        ofText (before ++ objectText gap pieces' ++ after) = .ok d := by
  obtain ⟨k, room⟩ : ∃ k, nestingLimit = k + 1 + place.length := by
    have := at_.room
    exact ⟨nestingLimit - (place.length + 1), by omega⟩
  have limit : nestingLimit - (place.length + 1) = k := by omega
  obtain ⟨s, cut, reads⟩ := decodeText_eq_ok_iff.1 read
  obtain rfl : s = fill place (.object members ending) := by
    rw [← source, cut]
  have whole := exhausts_decoder _ _ _ reads
  obtain rfl := (Source.complete_object_iff.1 whole.of_fill).2
  obtain ⟨before, gap, pieces, after, split, blank, spelled, around⟩ := Source.exists_cut cut whole
  refine ⟨before, gap, pieces, after, split, around, spelled, fun added pieces' unknown perm => ?_⟩
  rw [limit] at unknown
  obtain ⟨extra, spells⟩ : ∃ extra, List.Forall₂ (fun m piece => SpellsMember piece m ∧
      ∃ key v, m.1 = .ok key ∧ key ∉ keys ∧ raw k m.2 = .ok v) extra added := by
    refine exists_forall₂ fun piece hp => ?_
    obtain ⟨key, value, v, spells, new, hv⟩ := unknown piece hp
    exact ⟨(.ok key, value), spells, key, v, rfl, new, hv⟩
  have all : List.Forall₂ SpellsMember (added ++ pieces) (extra ++ members) :=
    List.rel_append (spells.imp fun _ _ h => h.1).flip spelled
  obtain ⟨members', spelled', perm'⟩ := List.perm_comp_forall₂ perm all
  have further : Extends keys k members members' := by
    refine ⟨extra, perm', fun m hm => ?_⟩
    obtain ⟨piece, -, -, h⟩ := exists_right_of_forall₂ spells hm
    exact h
  have reads' := at_.extends further room reads
  exact decodeText_eq_ok (around.ofText blank spelled' (exhausts_decoder _ _ _ reads')) reads'

/-- A document with one channel and a single message that is published on it. -/
def publishingSingle (message : Json) : Json :=
  .object [("channels", .object [("c", .object [("publish", .object [("message", message)])])])]

/-- The message of which the payload says what further properties are. -/
def furtherMessage : Json :=
  .object [("payload", .object [("additionalProperties",
    .object [("format", .string "int32"), ("type", .string "integer")])])]

/-- What further properties are. -/
def furtherSchema : Schema :=
  { format := some "int32", type := some (.single "integer") }

/-- The document in which the message is published. -/
def furtherDocument : Document :=
  publishes (.single { payload := some { additional := some (.schema furtherSchema) } })

/-- Where the payload says it. -/
def furtherPlace : List Source.Step :=
  ["channels", "c", "publish", "message", "payload", "additionalProperties"].map fun key =>
    .member [] (.ok key) [] .closed

/-- There may be further keys in what the payload of a single message says about further
properties. -/
theorem extensions_ignored_further : ∃ before gap pieces after,
    (publishingSingle furtherMessage).compact = before ++ objectText gap pieces ++ after ∧
    Source.Around furtherPlace before after ∧ pieces.length = 2 ∧
    ∀ pieces', pieces'.Perm ("\"x-order\":null" :: pieces) →
      ofText (before ++ objectText gap pieces' ++ after) = .ok furtherDocument := by
  have source := Source.ofText_compact (v := publishingSingle furtherMessage) (by decide)
  have read : ofText (publishingSingle furtherMessage).compact = .ok furtherDocument :=
    decodeText_eq_ok source rfl
  let members : List (Except Fault String × Source) :=
    [(.ok "format", .string (.ok "int32")), (.ok "type", .string (.ok "integer"))]
  have only (messages : List Message) : alternatives 123 furtherMessage.toSource ≠ .ok messages :=
    nofun
  have at_ : ReadAs (.object members .closed) decoder nestingLimit furtherPlace
      (.struct (names (schemaFields (schemaWithin 121)))) :=
    .field .document (.member rfl) <| .entry _ _ _ _ <| .field .channel (.member rfl) <|
      .optional <| .field .operation (.member rfl) <| .optional <| .inSingle only (.member rfl) <|
      .optional <| .schema <| .field (.schema 122) (.member rfl) <| .optional <| .additional <|
      .struct (.schema 121)
  obtain ⟨before, gap, pieces, after, split, around, spelled, further⟩ :=
    extensions_ignored read (by rw [source]; rfl) at_
  refine ⟨before, gap, pieces, after, split, around, spelled.length_eq, fun pieces' perm => ?_⟩
  have key := Source.ofText_compact (v := .string "x-order") (by decide)
  have value := Source.ofText_compact (v := .null) (by decide)
  have spells : SpellsMember "\"x-order\":null" (.ok "x-order", .scalar (.ok .null)) :=
    ⟨_, _, rfl, key, value⟩
  exact further _ pieces' (List.forall_mem_singleton.2 ⟨_, _, _, spells, by decide, rfl⟩) perm

end Document
end ApiGraph
