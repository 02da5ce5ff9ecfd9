/-
# Decoding JSON texts

A decoder walks the tree of a text in the order of the text and stops at the
first fault.  It is given the number of nested arrays and objects that may still
be entered; a document may nest `nestingLimit` of them.

* A scalar of the wrong type is read before it is refused, so that a fault inside
  it comes first.  An array or object of the wrong type is refused unread.
* A record may be written as an object, whose unknown keys are skipped, or as an
  array of its fields in order, which may end early.
* A union takes the first of its forms that fits, after the whole value was read.
-/

import ApiGraph.Json.Source

namespace ApiGraph

/-- Decodes a value that may contain so many nested arrays and objects. -/
abbrev Decoder (α : Type) := Nat → Source → Except Fault α

/-- What a scalar is called where it was not expected. -/
def Scalar.found : Scalar → Found
  | .null => .null
  | .bool b => .bool b
  | .integer i => .integer i
  | .float x => .float x

/-- A scalar as a value. -/
def Scalar.toJson : Scalar → Json
  | .null => .null
  | .bool b => .bool b
  | .integer i => .integer i
  | .float x => .float x

namespace Decoder

variable {α β σ : Type}

/-- How many arrays and objects a document may nest. -/
def nestingLimit : Nat := 127

/-- What a value is called where it was not expected. -/
def found : Source → Except Fault Found
  | .scalar value => value.map Scalar.found
  | .string text => text.map .string
  | .broken reading _ => .error reading
  | .array _ _ => .ok .sequence
  | .object _ _ => .ok .map

/-- Refuses a value of the wrong type. -/
def mismatch (expected : String) (s : Source) : Except Fault α := do
  throw (.wrongType (← found s) expected)

/-- A string. -/
def text : Decoder String
  | _, .string t => t
  | _, s => mismatch "a string" s

/-- A truth value. -/
def flag : Decoder Bool
  | _, .scalar (.ok (.bool b)) => .ok b
  | _, s => mismatch "a boolean" s

/-- A value or null. -/
def optional (d : Decoder α) : Decoder (Option α)
  | _, .scalar (.ok .null) => .ok none
  | depth, s => some <$> d depth s

/-- An array of values of one type. -/
def list (d : Decoder α) : Decoder (List α)
  | 0, .array _ _ => throw .nestedTooDeep
  | depth + 1, .array items ending => do
    let values ← items.mapM (d depth)
    refuse ending.reading
    return values
  | _, s => mismatch "a sequence" s

/-- The members of an object with values of one type. -/
def entries (d : Decoder α) (depth : Nat) :
    List (Except Fault String × Source) → Except Fault (List (String × α))
  | [] => .ok []
  | (key, value) :: rest => do
    let k ← key
    let v ← d depth value
    return (k, v) :: (← entries d depth rest)

/-- An object with values of one type.  Of values under one key the last one counts. -/
def table (d : Decoder α) : Decoder (Table α)
  | 0, .object _ _ => throw .nestedTooDeep
  | depth + 1, .object members ending => do
    let es ← entries d depth members
    refuse ending.reading
    return Table.ofEntries es
  | _, s => mismatch "a map" s

/-- A field of a record: its key, and how its value changes the record. -/
structure FieldReader (σ : Type) where
  /-- The key. -/
  name : String
  /-- Decodes the value and says what it does to the record. -/
  read : Decoder (σ → σ)

/-- A field whose value is stored by `set`. -/
def FieldReader.of (name : String) (d : Decoder α) (set : α → σ → σ) : FieldReader σ :=
  ⟨name, fun depth s => set <$> d depth s⟩

/-- Reads the members of an object into a record.  A key that is not a field's is
skipped with its value; a field's key must not come twice. -/
def recordMembers (fields : List (FieldReader σ)) (depth : Nat) :
    List (Except Fault String × Source) → List String → σ → Except Fault σ
  | [], _, r => .ok r
  | (key, value) :: rest, seen, r => do
    let k ← key
    match fields.find? (·.name == k) with
    | some field =>
      if seen.contains k then throw (.duplicateField k)
      let change ← field.read depth value
      recordMembers fields depth rest (k :: seen) (change r)
    | none =>
      refuse value.skip
      recordMembers fields depth rest seen r

/-- Reads the items of an array into the fields of a record, in order. -/
def recordItems (depth : Nat) (ending : ArrayEnd) :
    List (FieldReader σ) → List Source → σ → Except Fault σ
  | [], [], r => do
    refuse ending.closing
    return r
  | [], _ :: _, _ => throw .trailingCharacters
  | _ :: _, [], r => do
    refuse ending.reading
    return r
  | field :: fields, item :: items, r => do
    let change ← field.read depth item
    recordItems depth ending fields items (change r)

/-- A record, starting from its defaults. -/
def record (name : String) (fields : List (FieldReader σ)) (defaults : σ) : Decoder σ
  | 0, .object _ _ => throw .nestedTooDeep
  | 0, .array _ _ => throw .nestedTooDeep
  | depth + 1, .object members ending => do
    let r ← recordMembers fields depth members [] defaults
    refuse ending.reading
    return r
  | depth + 1, .array items ending => recordItems depth ending fields items defaults
  | _, s => mismatch ("struct " ++ name) s

mutual

/-- Any value. -/
def raw : Nat → Source → Except Fault Json
  | _, .scalar value => value.map Scalar.toJson
  | _, .string text => text.map .string
  | _, .broken reading _ => .error reading
  | 0, .array _ _ => .error .nestedTooDeep
  | 0, .object _ _ => .error .nestedTooDeep
  | depth + 1, .array items ending => do
    let values ← rawItems depth items
    refuse ending.reading
    return .array values
  | depth + 1, .object members ending => do
    let fields ← rawMembers depth members
    refuse ending.reading
    return .object (Table.ofEntries fields)

/-- The items of an array of any values. -/
def rawItems : Nat → List Source → Except Fault (List Json)
  | _, [] => .ok []
  | depth, item :: items => do
    let value ← raw depth item
    return value :: (← rawItems depth items)

/-- The members of an object of any values. -/
def rawMembers :
    Nat → List (Except Fault String × Source) → Except Fault (List (String × Json))
  | _, [] => .ok []
  | depth, (key, value) :: members => do
    let k ← key
    let v ← raw depth value
    return (k, v) :: (← rawMembers depth members)

end

/-- A value of one of several forms: the first that fits. -/
def union (name : String) (forms : List (Decoder α)) : Decoder α := fun depth s => do
  let _ ← raw depth s
  match forms.findSome? fun form => (form depth s).toOption with
  | some value => return value
  | none => throw (.noForm name)

/-- Decodes a whole text. -/
def decodeText (d : Decoder α) (text : String) : Except Fault α := do
  let (source, more) := Source.ofText text
  let value ← d nestingLimit source
  if more then throw .trailingCharacters
  return value

end Decoder

/-- The value that a text holds. -/
def Json.ofText (text : String) : Except Fault Json :=
  Decoder.decodeText Decoder.raw text

end ApiGraph
