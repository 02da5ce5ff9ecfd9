/-
# Codecs

A codec is a way to read and to write values where what is read is restored (`Codec`); a slot
also has a value that stands where nothing is given (`Slot`).  Lists, tables and optional values
have codecs if what they hold has one.

A record is described by its parts: for each of them a key, a slot, and where it stands in the
record (`Part`).  If the parts make up the record (`Whole`), the record is restored, so it has a
slot of its own (`Slot.record`).
-/

import ApiGraph.Document.Reading
import ApiGraph.Proofs.Json.Restoring
import Mathlib.Data.List.Pairwise

namespace ApiGraph
namespace Decoder

variable {α σ : Type} {n : Nat}

/-- What a decoder gives is written in a way in which a second one, mostly the same, restores
it. -/
structure Codec (n : Nat) (α : Type) where
  decoder : Decoder α
  again : Decoder α
  write : α → Json
  undoes : Undoes n decoder again write

/-- What is written of the value is read as the value again. -/
def Codec.Restores (c : Codec n α) (v : α) : Prop :=
  Decoder.Restores n c.again c.write v

/-- A codec with a value that is restored as well and stands where nothing is given. -/
structure Slot (n : Nat) (α : Type) extends Codec n α where
  start : α
  restored : toCodec.Restores start

namespace Slot

/-- A slot all of whose values are restored. -/
def ofForall {d : Decoder α} {write : α → Json} (h : ∀ v, Decoder.Restores n d write v)
    (start : α) : Slot n α :=
  ⟨⟨d, d, write, .of_forall h⟩, start, h start⟩

/-- A text. -/
def text : Slot n String := ofForall restores_text ""

/-- A text or null. -/
def optionalText : Slot n (Option String) := ofForall restores_optionalText none

/-- A truth value. -/
def flag : Slot n Bool := ofForall restores_flag false

end Slot

namespace Codec

/-- A value or null. -/
def optional (c : Codec n α) (given : ∀ v, c.write v ≠ .null) : Slot n (Option α) where
  decoder := Decoder.optional c.decoder
  again := Decoder.optional c.again
  write := Document.optionJson c.write
  undoes := (ensures_optional c.undoes).mono fun _ hx => restores_option hx fun v _ => given v
  start := none
  restored := restores_none

/-- A list of values. -/
def list (c : Codec n α) : Slot n (List α) where
  decoder := Decoder.list c.decoder
  again := Decoder.list c.again
  write := Document.listJson c.write
  undoes := (ensures_list c.undoes).mono fun _ => restores_list
  start := []
  restored := restores_list (by simp)

/-- A table of values. -/
def table (c : Codec n α) : Slot n (Table α) where
  decoder := Decoder.table c.decoder
  again := Decoder.table c.again
  write := Document.tableJson c.write
  undoes := (ensures_table c.undoes).mono fun _ ht => restores_table ht.1 ht.2
  start := []
  restored := restores_table List.nodup_nil (by simp)

/-- A raw value. -/
def raw : Codec n Json := ⟨Decoder.raw, Decoder.raw, id, undoes_raw⟩

end Codec

namespace Slot

/-- The slot with another name for how it is written. -/
def writtenAs (s : Slot n α) (write : α → Json) (same : s.write = write) : Slot n α where
  decoder := s.decoder
  again := s.again
  write := write
  undoes := same ▸ s.undoes
  start := s.start
  restored := same ▸ s.restored

/-- Texts. -/
def texts : Slot n (List String) := Slot.text.list.writtenAs .ofTexts rfl

/-- Raw values. -/
def raws : Slot n (List Json) :=
  Codec.raw.list.writtenAs .array (by funext vs; exact congrArg Json.array (List.map_id vs))

/-- A raw value or null. -/
def optionalRaw : Slot n (Option Json) :=
  writtenAs ⟨⟨optional raw, optional raw, Document.optionJson id, undoes_optionalRaw⟩, none,
    restores_none⟩ .ofOption (by funext x; cases x <;> rfl)

end Slot

/-! ## Records -/

/-- A part of a record. -/
structure Part (n : Nat) (σ : Type) where
  {α : Type}
  name : String
  slot : Slot n α
  get : σ → α
  set : α → σ → σ
  get_set : ∀ v r, get (set v r) = v := by exact fun _ _ => rfl

namespace Part

/-- The field through which the part is read. -/
def reader (p : Part n σ) : FieldReader σ := .of p.name p.slot.decoder p.set

/-- The field through which the part is read again. -/
def rereader (p : Part n σ) : FieldReader σ := .of p.name p.slot.again p.set

/-- The field as which the part is written. -/
def member (r : σ) (p : Part n σ) : String × Json := (p.name, p.slot.write (p.get r))

/-- Setting one of the parts leaves the other as it is. -/
def Apart (p q : Part n σ) : Prop :=
  (∀ v r, p.get (q.set v r) = p.get r) ∧ ∀ v r, q.get (p.set v r) = q.get r

instance : Std.Symm (Apart : Part n σ → Part n σ → Prop) := ⟨fun _ _ h => h.symm⟩

/-- Each part is apart from those that follow. -/
def AllApart : List (Part n σ) → Prop
  | [] => True
  | p :: rest => rest.Forall p.Apart ∧ AllApart rest

/-- Parts that are all apart are so pair by pair. -/
theorem pairwise_apart : ∀ {parts : List (Part n σ)}, AllApart parts → parts.Pairwise Apart
  | [], _ => .nil
  | _ :: _, h => .cons (List.forall_iff_forall_mem.1 h.1) (pairwise_apart h.2)

/-- The part of the record is restored. -/
def Restored (r : σ) (p : Part n σ) : Prop :=
  p.slot.Restores (p.get r)

end Part

/-- A record that is written part by part. -/
def partsJson (parts : List (Part n σ)) (r : σ) : Json :=
  .object (parts.map (·.member r))

/-- The parts make up the record: each has a key of its own and starts where the defaults do, they
do not overlap, and setting all of them leaves nothing of the record as it was before. -/
structure Whole (parts : List (Part n σ)) (defaults : σ) : Prop where
  names : (parts.map (·.name)).Nodup
  apart : parts.Pairwise Part.Apart
  total : ∀ r r₀, parts.foldl (fun r' p => p.set (p.get r) r') r₀ = r
  starts : parts.Forall fun p => p.get defaults = p.slot.start

section Record

variable {parts : List (Part n σ)} {defaults : σ}

/-- Of fields with different names each is found under its own. -/
theorem find?_name {fields : List (FieldReader σ)} {f : FieldReader σ}
    (names : (fields.map (·.name)).Nodup) (hf : f ∈ fields) :
    fields.find? (·.name == f.name) = some f := by
  induction fields with
  | nil => cases hf
  | cons g fields ih =>
    obtain ⟨new, names⟩ := List.nodup_cons.1 names
    rcases List.mem_cons.1 hf with rfl | hf
    · exact List.find?_cons_of_pos (beq_self_eq_true f.name)
    · rw [List.find?_cons_of_neg, ih names hf]
      rw [beq_iff_eq]
      exact fun same => new (List.mem_map.2 ⟨f, hf, same.symm⟩)

/-- A member whose key is a field's sets this field, and the others are read after it. -/
theorem recordMembers_cons {fields : List (FieldReader σ)} {field : FieldReader σ} {key : String}
    {seen : List String} {depth : Nat} {value : Source} {change : σ → σ}
    (found : fields.find? (·.name == key) = some field) (unseen : key ∉ seen)
    (read : field.read depth value = .ok change)
    (rest : List (Except Fault String × Source)) (r : σ) :
    recordMembers fields depth ((.ok key, value) :: rest) seen r =
      recordMembers fields depth rest (key :: seen) (change r) := by
  rw [recordMembers]
  simp only [bind, Except.bind, found, List.contains_eq_mem, unseen, decide_false,
    Bool.false_eq_true, if_false, read]

/-- The members that were written set the parts one after the other. -/
theorem recordMembers_eq_ok (names : (parts.map (·.name)).Nodup) {k : Nat} {r : σ}
    (each : ∀ p ∈ parts, p.slot.again k (p.slot.write (p.get r)).toSource = .ok (p.get r)) :
    ∀ (rest : List (Part n σ)) (seen : List String) (r' : σ), rest ⊆ parts →
      (rest.map (·.name)).Nodup → (∀ p ∈ rest, p.name ∉ seen) →
      recordMembers (parts.map Part.rereader) k
          (rest.map fun p => Json.fieldSource (p.member r)) seen r' =
        .ok (rest.foldl (fun r' p => p.set (p.get r) r') r')
  | [], _, _, _, _, _ => rfl
  | p :: rest, seen, r', sub, different, fresh => by
    obtain ⟨hp, sub⟩ := List.cons_subset.1 sub
    obtain ⟨new, different⟩ := List.nodup_cons.1 different
    obtain ⟨unseen, fresh⟩ := List.forall_mem_cons.1 fresh
    have change : p.rereader.read k (p.slot.write (p.get r)).toSource = .ok (p.set (p.get r)) :=
      map_eq_ok_iff.2 ⟨_, each p hp, rfl⟩
    have later := recordMembers_eq_ok names each rest (p.name :: seen) (p.set (p.get r) r') sub
      different fun q hq mem => by
        rcases List.mem_cons.1 mem with same | mem
        · exact new (List.mem_map.2 ⟨q, hq, same⟩)
        · exact fresh q hq mem
    have found : (parts.map Part.rereader).find? (·.name == p.name) = some p.rereader :=
      find?_name (f := p.rereader) (by rwa [List.map_map]) (List.mem_map_of_mem hp)
    exact (recordMembers_cons found unseen change _ r').trans later

/-- The members come in the order of the parts, and each sets its own. -/
theorem restores_record (whole : Whole parts defaults) (name : String) {r : σ}
    (each : ∀ p ∈ parts, p.Restored r) :
    Restores (n + 1) (record name (parts.map Part.rereader) defaults) (partsJson parts) r where
  fits x hx := by
    obtain ⟨m, hm, hx⟩ := Json.mem_scalars_object.1 hx
    obtain ⟨p, hp, rfl⟩ := List.mem_map.1 hm
    exact (each p hp).fits x hx
  read depth small room := by
    obtain ⟨k, rfl, inner⟩ := Json.nesting_object_le_iff.1 room
    have parted := recordMembers_eq_ok whole.names (k := k) (r := r) (fun p hp =>
      (each p hp).read k (Nat.lt_of_succ_lt_succ small) (inner _ (List.mem_map_of_mem hp)))
      parts [] defaults (List.Subset.refl parts) whole.names (by simp)
    rw [whole.total] at parted
    rw [partsJson, Json.toSource_object, List.map_map]
    exact record_object_eq_ok_iff.2 ⟨parted, rfl⟩

/-- What is set in one part is restored there, and the other parts stay as they are. -/
theorem keeps_reader (whole : Whole parts defaults) {p : Part n σ} (hp : p ∈ parts) :
    p.reader.Keeps fun r => ∀ q ∈ parts, q.Restored r := by
  refine .of p.slot.undoes fun v r hv hr q hq => ?_
  by_cases same : q = p
  · subst same
    rw [Part.Restored, q.get_set]
    exact hv
  · have apart := (whole.apart.forall hq hp same).1
    rw [Part.Restored, apart]
    exact hr q hq

/-- A record with its defaults is restored in every part. -/
theorem Whole.restored_defaults (whole : Whole parts defaults) :
    ∀ p ∈ parts, p.Restored defaults := by
  intro p hp
  rw [Part.Restored, List.forall_iff_forall_mem.1 whole.starts p hp]
  exact p.slot.restored

/-- **A record is restored if its parts are.** -/
theorem undoes_record (whole : Whole parts defaults) (name : String) :
    Undoes (n + 1) (record name (parts.map Part.reader) defaults)
      (record name (parts.map Part.rereader) defaults) (partsJson parts) := by
  have kept : ∀ f ∈ parts.map Part.reader, f.Keeps fun r => ∀ p ∈ parts, p.Restored r :=
    List.forall_mem_map.2 fun p hp => keeps_reader whole hp
  exact (ensures_record whole.restored_defaults kept).mono fun _ => restores_record whole name

/-- A record that is read and written part by part. -/
def Slot.record (d : Decoder σ) (write : σ → Json) (whole : Whole parts defaults) {name : String}
    (read : d = Decoder.record name (parts.map Part.reader) defaults)
    (reread : d = Decoder.record name (parts.map Part.rereader) defaults)
    (written : write = partsJson parts) : Slot n σ where
  decoder := d
  again := d
  write := write
  undoes := by
    have undone := (undoes_record whole name).mono fun _ h => h.le n.le_succ
    rw [← read, ← reread, ← written] at undone
    exact undone
  start := defaults
  restored := by
    have restored := (restores_record whole name whole.restored_defaults).le n.le_succ
    rw [← reread, ← written] at restored
    exact restored

end Record

end Decoder
end ApiGraph
