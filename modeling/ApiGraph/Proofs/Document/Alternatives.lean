/-
# Alternative messages

An operation has one message, or a list of alternatives that is written under `oneOf`.  What is
written is first read as a list of alternatives, and where it is none as a single message.  All
fields of a message have defaults, and keys that are no field's are skipped, so an object fits as a
single message whatever its list holds.

So a list of alternatives is read item by item if each of them is a message and the list is given
once.  Otherwise it does not stop the document from being read, and the operation has a single
message in place of the list (`Document.messages_of_oneOf`).
-/

import ApiGraph.Proofs.Document.Codecs
import ApiGraph.Proofs.Json.Places

namespace ApiGraph
namespace Document

open Decoder

/-- Where an operation stands in a document. -/
structure OperationPlace where
  /-- Whether its channel stands among the components. -/
  inComponents : Bool
  /-- The name of its channel. -/
  channel : String
  /-- Whether it is about subscribing, not publishing. -/
  subscribes : Bool

namespace OperationPlace

/-- The key of the operation in its channel. -/
def key (p : OperationPlace) : String := if p.subscribes then "subscribe" else "publish"

/-- The channels around the operation in the tree of a document. -/
def channelsSource? (p : OperationPlace) (s : Source) : Option Source :=
  if p.inComponents then (s.field? fields "components").bind (·.field? Components.fields "channels")
  else s.field? fields "channels"

/-- What stands for the operation in the tree of a document. -/
def source? (p : OperationPlace) (s : Source) : Option Source :=
  ((p.channelsSource? s).bind (·.member? p.channel)).bind (·.field? Channel.fields p.key)

/-- What stands for the messages of the operation in the tree of a document. -/
def messageSource? (p : OperationPlace) (s : Source) : Option Source :=
  (p.source? s).bind (·.field? Operation.fields "message")

/-- The channels around the operation. -/
def channels? (p : OperationPlace) (d : Document) : Option (Table Channel) :=
  if p.inComponents then d.components.map (·.channels) else some d.channels

/-- The operation. -/
def operation? (p : OperationPlace) (d : Document) : Option Operation :=
  ((p.channels? d).bind (·.get? p.channel)).bind fun c =>
    if p.subscribes then c.subscribe else c.publish

/-- How many arrays and objects may stand inside one another in the messages of the operation. -/
def depth (p : OperationPlace) : Nat := nestingLimit - if p.inComponents then 5 else 4

end OperationPlace

/-! ## Operations -/

/-- The channels of a document are read under one key. -/
theorem fieldAt_channels : FieldAt fields "channels" (table Channel.decoder) (·.channels) :=
  (whole (n := 0)).fieldAt (i := 5) rfl

/-- The components of a document are read under one key. -/
theorem fieldAt_components :
    FieldAt fields "components" (optional Components.decoder) (·.components) :=
  (whole (n := 0)).fieldAt (i := 6) rfl

/-- The channels of components are read under one key. -/
theorem fieldAt_componentsChannels :
    FieldAt Components.fields "channels" (table Channel.decoder) (·.channels) :=
  (Components.whole (n := 0)).fieldAt (i := 3) rfl

/-- The first operation of a channel is read under `publish`. -/
theorem fieldAt_publish :
    FieldAt Channel.fields "publish" (optional Operation.decoder) (·.publish) :=
  (Channel.whole (n := 0)).fieldAt (i := 3) rfl

/-- The second one is read under `subscribe`. -/
theorem fieldAt_subscribe :
    FieldAt Channel.fields "subscribe" (optional Operation.decoder) (·.subscribe) :=
  (Channel.whole (n := 0)).fieldAt (i := 4) rfl

/-- The messages of an operation are read under one key. -/
theorem fieldAt_message :
    FieldAt Operation.fields "message" (optional OperationMessage.decoder) (·.message) :=
  (Operation.whole (n := 0)).fieldAt (i := 5) rfl

namespace OperationPlace

variable {p : OperationPlace} {d : Document} {s v : Source}

/-- The channels are read from what stands for them. -/
theorem gives_channels (h : decoder.Gives nestingLimit s d) (at_ : p.channelsSource? s = some v) :
    ∃ cs, p.channels? d = some cs ∧ (table Channel.decoder).Gives (p.depth + 3) v cs := by
  obtain ⟨inComponents, channel, subscribes⟩ := p
  cases inComponents with
  | false =>
    obtain ⟨k, limit, gives⟩ := h.field fieldAt_channels at_
    cases limit
    exact ⟨_, rfl, gives⟩
  | true =>
    obtain ⟨w, hw, hv⟩ := Option.bind_eq_some_iff.1 at_
    obtain ⟨k, limit, gives⟩ := h.field fieldAt_components hw
    obtain ⟨c, hc, gives⟩ := gives.optional (Source.ne_null_of_field? hv)
    obtain ⟨k', limit', gives⟩ := gives.field fieldAt_componentsChannels hv
    cases limit
    cases limit'
    exact ⟨_, congrArg (Option.map _) hc, gives⟩

/-- The operation is read from what stands for it. -/
theorem gives_operation (h : decoder.Gives nestingLimit s d) (at_ : p.source? s = some v)
    (given : v ≠ .scalar (.ok .null)) :
    ∃ o, p.operation? d = some o ∧ Operation.decoder.Gives (p.depth + 1) v o := by
  obtain ⟨w, hw, hv⟩ := Option.bind_eq_some_iff.1 at_
  obtain ⟨u, hu, hw⟩ := Option.bind_eq_some_iff.1 hw
  obtain ⟨cs, channels, gives⟩ := gives_channels h hu
  obtain ⟨k, c, limit, gives, found⟩ := gives.table hw
  cases limit
  rw [operation?, channels, Option.bind_some, found, Option.bind_some]
  obtain ⟨inComponents, channel, subscribes⟩ := p
  cases subscribes with
  | false =>
    obtain ⟨k', limit', gives⟩ := gives.field fieldAt_publish hv
    cases limit'
    exact gives.optional given
  | true =>
    obtain ⟨k', limit', gives⟩ := gives.field fieldAt_subscribe hv
    cases limit'
    exact gives.optional given

/-- The messages of the operation are read from what stands for them. -/
theorem gives_messages (h : decoder.Gives nestingLimit s d) (at_ : p.messageSource? s = some v)
    (given : v ≠ .scalar (.ok .null)) :
    ∃ o m, p.operation? d = some o ∧ o.message = some m ∧
      OperationMessage.decoder.Gives p.depth v m := by
  obtain ⟨w, hw, hv⟩ := Option.bind_eq_some_iff.1 at_
  obtain ⟨o, ho, gives⟩ := gives_operation h hw (Source.ne_null_of_field? hv)
  obtain ⟨k, limit, gives⟩ := gives.field fieldAt_message hv
  cases limit
  obtain ⟨m, hm, gives⟩ := gives.optional given
  exact ⟨o, m, ho, hm, gives⟩

end OperationPlace

/-! ## Alternatives -/

section Alternatives

variable {k : Nat} {members : List (Except Fault String × Source)} {ending : ObjectEnd}
  {items : List Source} {close : ArrayEnd} {ms : List Message}

/-- The alternatives are read under `oneOf`. -/
theorem fieldAt_oneOf :
    FieldAt alternativesFields "oneOf" (list Message.decoder) (·.getD []) :=
  .only fun _ _ => rfl

/-- An object has alternatives if they are given once and each item of the list is a message. -/
theorem alternatives_eq_ok_iff {w : Json} (fits : (Source.object members ending).Fits)
    (read : raw (k + 2) (.object members ending) = .ok w)
    (listed : Source.under? "oneOf" members = some (.array items close)) :
    alternatives (k + 2) (.object members ending) = .ok ms ↔
      Source.occurrences "oneOf" members = 1 ∧
        List.Forall₂ (fun item m => Message.decoder k item = .ok m) items ms := by
  have pos : 0 < Source.occurrences "oneOf" members := Source.occurrences_pos listed
  constructor
  · intro h
    have ho := alternatives_eq_ok_iff_record.1 h
    have gives : (record "OneOfMessages" alternativesFields none).Gives (k + 2)
        (.object members ending) (some ms) := ⟨fits, ho⟩
    obtain ⟨_, limit, gives⟩ := gives.field fieldAt_oneOf listed
    cases limit
    have known : (alternativesFields.find? (·.name == "oneOf")).isSome := rfl
    have most := (occurrences_le_one known _ _ _ _ (record_object_eq_ok_iff.1 ho).1).1
    exact ⟨Nat.le_antisymm most pos, (list_array_eq_ok_iff.1 gives.reads).1⟩
  · rintro ⟨once, each⟩
    obtain ⟨_, es, limit, plain, -⟩ := raw_object_eq_ok read
    cases limit
    obtain ⟨_, _, -, array⟩ := exists_of_entries members es plain _ (Source.mem_of_under? listed)
    obtain ⟨_, _, -, -, closed⟩ := raw_array_eq_ok array
    have taken : record "OneOfMessages" alternativesFields none (k + 2) (.object members ending) =
        .ok (some ms) :=
      record_of_once read once listed (list_array_eq_ok_iff.2 ⟨each, closed⟩)
    exact alternatives_eq_ok_iff_record.2 taken

/-- Messages that are written as a list of alternatives are read as such where this is possible,
otherwise as a single message. -/
theorem operationMessage_of_oneOf {m : OperationMessage}
    (gives : OperationMessage.decoder.Gives (k + 2) (.object members ending) m)
    (listed : Source.under? "oneOf" members = some (.array items close)) :
    (Source.occurrences "oneOf" members = 1 ∧ ∃ ms, m = .oneOf ms ∧
        List.Forall₂ (fun item m => Message.decoder k item = .ok m) items ms) ∨
      ((1 < Source.occurrences "oneOf" members ∨
          ∃ item ∈ items, ∀ m, Message.decoder k item ≠ .ok m) ∧
        ∃ m', m = .single m' ∧ Message.decoder (k + 2) (.object members ending) = .ok m') := by
  obtain ⟨⟨w, read⟩, first | ⟨none, m', single, rfl⟩⟩ :=
    union_pair_eq_ok_iff.1 gives.reads
  · obtain ⟨ms, alternatives, rfl⟩ := first
    obtain ⟨once, each⟩ := (alternatives_eq_ok_iff gives.fits read listed).1 alternatives
    exact .inl ⟨once, ms, rfl, each⟩
  · refine .inr ⟨?_, m', rfl, single⟩
    have pos : 0 < Source.occurrences "oneOf" members := Source.occurrences_pos listed
    by_contra fine
    obtain ⟨once, each⟩ := not_or.1 fine
    push Not at each
    obtain ⟨ms, hms⟩ := exists_mapM_eq_ok each
    exact none ms ((alternatives_eq_ok_iff gives.fits read listed).2
      ⟨by omega, mapM_eq_ok_iff.1 hms⟩)

end Alternatives

/-- **A list of alternatives is either read item by item or not at all.**  Where it is given once
and each item is a message, the operation has one alternative for each item, in order.  Otherwise,
if the document is read, the operation has a single message: what the object around the list gives
as a message. -/
theorem messages_of_oneOf {text : String} {d : Document} (read : ofText text = .ok d)
    {p : OperationPlace} {members : List (Except Fault String × Source)} {ending : ObjectEnd}
    (at_ : p.messageSource? (Source.ofText text).1 = some (.object members ending))
    {items : List Source} {close : ArrayEnd}
    (listed : Source.under? "oneOf" members = some (.array items close)) :
    ∃ o, p.operation? d = some o ∧
      ((Source.occurrences "oneOf" members = 1 ∧ ∃ ms, o.message = some (.oneOf ms) ∧
          List.Forall₂ (fun item m => Message.decoder (p.depth - 2) item = .ok m) items ms) ∨
        ((1 < Source.occurrences "oneOf" members ∨
            ∃ item ∈ items, ∀ m, Message.decoder (p.depth - 2) item ≠ .ok m) ∧
          ∃ m, o.message = some (.single m) ∧
            Message.decoder p.depth (.object members ending) = .ok m)) := by
  have gives : decoder.Gives nestingLimit (Source.ofText text).1 d := .of_decodeText read
  obtain ⟨o, m, ho, hm, gives⟩ := p.gives_messages gives at_ nofun
  have deep : p.depth = p.depth - 2 + 2 := by
    rw [OperationPlace.depth]
    split <;> rfl
  rw [deep] at gives
  refine ⟨o, ho, ?_⟩
  rcases operationMessage_of_oneOf gives listed with ⟨once, ms, rfl, each⟩ | ⟨why, m', rfl, single⟩
  · exact .inl ⟨once, ms, hm, each⟩
  · exact .inr ⟨why, m', hm, deep ▸ single⟩

/-! ## Lists that are kept, and one that is not -/

/-- A document with one channel and a list of alternatives that are published on it. -/
def publishing (items : List Json) : Json :=
  .object [("channels", .object [("c", .object [("publish",
    .object [("message", .object [("oneOf", .array items)])])])])]

/-- A document with one channel and messages that are published on it. -/
def publishes (message : OperationMessage) : Document :=
  { channels := [("c", { publish := some { message } })] }

/-- Where they are published. -/
def published : OperationPlace := ⟨false, "c", false⟩

/-- Each of two messages is an alternative. -/
theorem messages_of_oneOf_two :
    ∃ d o ms, ofText (publishing [.object [("name", .string "A")],
        .object [("name", .string "B")]]).compact = .ok d ∧
      published.operation? d = some o ∧ o.message = some (.oneOf ms) ∧ ms.length = 2 := by
  let d := publishes (.oneOf [{ name := some "A" }, { name := some "B" }])
  have source := Source.ofText_compact (v := publishing [.object [("name", .string "A")],
    .object [("name", .string "B")]]) (by decide)
  have read := decodeText_eq_ok (d := decoder) (v := d) source rfl
  obtain ⟨o, ho, ⟨-, ms, hms, each⟩ | ⟨-, m, hm, -⟩⟩ :=
    messages_of_oneOf read (p := published) (by rw [source]; rfl) rfl
  · exact ⟨d, o, ms, read, ho, hms, each.length_eq.symm⟩
  · cases ho
    cases hm

/-- Each list of alternatives of a document that is read has an alternative for each item. -/
def KeepsAlternatives (text : String) : Prop :=
  ∀ d, ofText text = .ok d → ∀ (p : OperationPlace) members ending items close,
    p.messageSource? (Source.ofText text).1 = some (.object members ending) →
    Source.under? "oneOf" members = some (.array items close) →
    ∃ o ms, p.operation? d = some o ∧ o.message = some (.oneOf ms) ∧ ms.length = items.length

/-- **A list of alternatives is dropped** if the name of one of them is a number. -/
theorem not_forall_keepsAlternatives : ¬ ∀ text, KeepsAlternatives text := by
  intro keeps
  have source := Source.ofText_compact (v := publishing [.object [("name", .string "A")],
    .object [("name", .integer 5)]]) (by decide)
  have read := decodeText_eq_ok (d := decoder) (v := publishes (.single {})) source rfl
  obtain ⟨o, ms, ho, hms, -⟩ := keeps _ _ read published _ _ _ _ (by rw [source]; rfl) rfl
  cases ho
  cases hms

end Document
end ApiGraph
