/-
# Formats of protocol bindings

What a protocol accepts in a bindings section is described by a format: a record
of typed fields.  `Format.normalize` checks a value against its format and keeps
what the format knows, in the order of the format:

* unknown keys are dropped, and so are nulls, which say the same as absence;
* lists of texts are dropped when they are empty, but must not be null;
* a record may be an array of its fields, of which only the lists may be missing.

Of several faults the first one in the order of the value is reported.
-/

import ApiGraph.Json.Fault

namespace ApiGraph

/-- What a field of a format accepts. -/
inductive FieldType where
  /-- Text. -/
  | text
  /-- A truth value. -/
  | flag
  /-- An integer from zero to below `2 ^ bits`. -/
  | natural (bits : Nat)
  /-- A signed integer of 64 bits. -/
  | integer
  /-- Anything. -/
  | any
  /-- A list of texts. -/
  | texts
  /-- One of several names, or an object with such a name as its only key and null under it. -/
  | choice (names : List String)
  /-- A record. -/
  | record (name : String) (fields : List (String × FieldType))

/-- The format of a bindings section. -/
structure Format where
  /-- The name of the record. -/
  name : String
  /-- The fields, in order. -/
  fields : List (String × FieldType)

/-- What a value is called where it was not expected. -/
def Json.found : Json → Found
  | .null => .null
  | .bool b => .bool b
  | .integer i => .integer i
  | .float x => .float x
  | .string s => .string s
  | .array _ => .sequence
  | .object _ => .map

namespace FieldType

/-- Refuses a value of the wrong type. -/
def mismatch {α : Type} (expected : String) (v : Json) : Except Fault α :=
  .error (.wrongType v.found expected)

/-- Text. -/
def checkText : Json → Except Fault Json
  | .string s => .ok (.string s)
  | v => mismatch "a string" v

/-- A truth value. -/
def checkFlag : Json → Except Fault Json
  | .bool b => .ok (.bool b)
  | v => mismatch "a boolean" v

/-- An integer between two bounds, the upper one excluded. -/
def checkInteger (expected : String) (low high : Int) : Json → Except Fault Json
  | .integer i =>
    if low ≤ i ∧ i < high then .ok (.integer i)
    else .error (.wrongValue (.integer i) expected)
  | v => mismatch expected v

/-- A list of texts. -/
def checkTexts : Json → Except Fault Json
  | .array items => .array <$> items.mapM checkText
  | v => mismatch "a sequence" v

/-- A name of a choice. -/
def checkName (names : List String) (name : String) : Except Fault Json :=
  if names.contains name then .ok (.string name) else .error (.unknownChoice name names)

/-- A name of a choice, in either form. -/
def checkChoice (names : List String) : Json → Except Fault Json
  | .string name => checkName names name
  | .object [(name, value)] => do
    let chosen ← checkName names name
    match value with
    | .null => return chosen
    | v => mismatch "unit" v
  | .object _ => .error (.wrongValue .map "map with a single key")
  | v => mismatch "string or map" v

/-- A field of this type has a value when it is missing from an array. -/
def hasDefault : FieldType → Bool
  | texts => true
  | _ => false

/-- The words for a record of so many fields. -/
def recordText (name : String) (count : Nat) : String :=
  "struct " ++ name ++ " with " ++ toString count ++ (if count = 1 then " element" else " elements")

/-- Refuses an array that has ended before `missing`, the fields from `index` on. -/
def checkMissing (name : String) (count index : Nat) (missing : List (String × FieldType)) :
    Except Fault Unit :=
  match missing.findIdx? fun (_, t) => !t.hasDefault with
  | some i => .error (.wrongLength (index + i) (recordText name count))
  | none => .ok ()

/-- The values that are kept, in the order of the format. -/
def assemble (fields : List (String × FieldType)) (values : Table (Option Json)) : Json :=
  .object (fields.filterMap fun (name, _) =>
    (Table.get? values name).join.map fun value => (name, value))

mutual

/-- The value of a field in normal form; none if it says the same as absence. -/
def normalize : Json → FieldType → Except Fault (Option Json)
  | v, .texts => do
    match ← checkTexts v with
    | .array [] => return none
    | list => return some list
  | .null, _ => .ok none
  | v, .text => some <$> checkText v
  | v, .flag => some <$> checkFlag v
  | v, .natural bits => some <$> checkInteger ("u" ++ toString bits) 0 (Nat.pow 2 bits) v
  | v, .integer => some <$> checkInteger "i64" (-Nat.pow 2 63) (Nat.pow 2 63) v
  | v, .any => .ok (some v)
  | v, .choice names => some <$> checkChoice names v
  | .object members, .record _ fields => do
    return some (assemble fields (← normalizeMembers fields members))
  | .array items, .record name fields => do
    let values ← normalizeItems name fields.length items.length 0 items fields
    return some (assemble fields values)
  | v, .record name _ => mismatch ("struct " ++ name) v

/-- The members of an object under the names of fields. -/
def normalizeMembers (fields : List (String × FieldType)) :
    List (String × Json) → Except Fault (Table (Option Json))
  | [] => .ok []
  | (key, value) :: rest =>
    match Table.get? fields key with
    | some t => do
      let v ← normalize value t
      return (key, v) :: (← normalizeMembers fields rest)
    | none => normalizeMembers fields rest

/-- The items of an array in the order of fields, of which those from `index` on
are left. -/
def normalizeItems (name : String) (count length index : Nat) :
    List Json → List (String × FieldType) → Except Fault (Table (Option Json))
  | [], fields => do
    checkMissing name count index fields
    return []
  | _ :: _, [] => .error (.wrongLength length "fewer elements in array")
  | item :: items, (key, t) :: fields => do
    let v ← normalize item t
    return (key, v) :: (← normalizeItems name count length (index + 1) items fields)

end

end FieldType

/-- A bindings value in normal form. -/
def Format.normalize (f : Format) : Json → Except Fault Json
  | .object members => do
    return FieldType.assemble f.fields (← FieldType.normalizeMembers f.fields members)
  | .array items => do
    return FieldType.assemble f.fields
      (← FieldType.normalizeItems f.name f.fields.length items.length 0 items f.fields)
  | v => FieldType.mismatch ("struct " ++ f.name) v

end ApiGraph
