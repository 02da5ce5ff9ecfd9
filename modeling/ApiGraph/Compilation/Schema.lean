/-
# Compiling schemas

The shape of a schema.  Combinations win over `type`, and without a `type` the
shape is read off the keywords that are there.  `null` in a list of types makes a
schema nullable and counts for nothing else.
-/

import ApiGraph.Compilation.Step

namespace ApiGraph
namespace Document.Schema

open Compile

/-- What a schema is, before its edges are made. -/
inductive Form where
  | oneOf
  | anyOf
  | allOf
  | object
  | array
  | primitive (type : String)
  | mixed (types : List String)
  | any
  deriving DecidableEq, Repr

/-- The names of the types, `null` among them if it is listed. -/
def typeNames (s : Schema) : List String :=
  (s.type.map SchemaType.names).getD []

/-- The schema of further properties, if one is given. -/
def additionalSchema? (s : Schema) : Option Schema :=
  match s.additional with
  | some (.schema a) => some a
  | _ => none

/-- The form that a list of types without `null` gives. -/
def formOfTypes (s : Schema) : List String → Form
  | [] =>
    if !s.properties.isEmpty || s.additionalSchema?.isSome then .object
    else if s.items.isSome then .array
    else .any
  | [name] => if name = "object" then .object else if name = "array" then .array else .primitive name
  | names => .mixed names

/-- The form of a schema. -/
def form (s : Schema) : Form :=
  if !s.oneOf.isEmpty then .oneOf
  else if !s.anyOf.isEmpty then .anyOf
  else if !s.allOf.isEmpty then .allOf
  else s.formOfTypes (s.typeNames.filter (· != "null"))

/-- The list of types admits `null`.  Combinations do not look at it. -/
def admitsNull (s : Schema) : Bool :=
  s.oneOf.isEmpty && s.anyOf.isEmpty && s.allOf.isEmpty && s.typeNames.contains "null"

/-- The schema has properties, and its form lets them count. -/
def hasProperties (s : Schema) : Bool :=
  s.form == .object && !s.properties.isEmpty

/-- The properties of an object with the promises of their schemas. -/
def compileProperties (s : Schema) : Compile (List Body.Property) :=
  s.properties.mapM fun (name, _) => do
    return { name, required := s.required.contains name,
             schema := ← promiseChild .schema ["properties", name] }

/-- The shape of an object. -/
def compileObject (s : Schema) : Compile Body.Shape := do
  match ← promisePart .schema "additionalProperties" s.additionalSchema? with
  | some values =>
    if s.properties.isEmpty then return .map values
    else return .object (← s.compileProperties) (some values)
  | none => return .object (← s.compileProperties) none

/-- The shape of a schema, with its edges. -/
def compileShape (s : Schema) : Compile Body.Shape :=
  match s.form with
  | .oneOf => return .union (← promiseItems .schema ["oneOf"] s.oneOf.length) true
  | .anyOf => return .union (← promiseItems .schema ["anyOf"] s.anyOf.length) false
  | .allOf => return .allOf (← promiseItems .schema ["allOf"] s.allOf.length)
  | .object => s.compileObject
  | .array => return .array (← promisePart .schema "items" s.items)
  | .primitive name => return .primitive name s.format
  | .mixed names => return .mixed names
  | .any => return .any

/-- A schema is emitted on its own unless it is part of its owner: as a definition,
as the outermost schema of a message, and wherever it has properties. -/
def isSelectable (s : Schema) (c : Context) : Bool :=
  !c.tags.inline && (c.isDefinition || c.isDataModelRoot || s.hasProperties)

/-- Compiles a schema. -/
def compile (s : Schema) : Compile Unit := do
  match s.reference with
  | some reference => compileReference reference .schema s.shownAs
  | none =>
    let c ← get
    let shape ← s.compileShape
    addEntity .schema (c.entityName s.shownAs none) (s.isSelectable c) (!s.ignored)
      (.schema {
        title := s.title, description := s.description
        nullable := s.nullable || s.admitsNull
        default := s.default, enumeration := s.enumeration, constant := s.constant, shape })

end Document.Schema
end ApiGraph
