/-
# Reports

The summary of a selection that is written out for other tools.
-/

import ApiGraph.Selection

namespace ApiGraph

/-- One unit in a report. -/
structure UnitReport where
  kind : Kind
  name : String
  location : Location
  /-- The protocols that apply. -/
  protocols : List String
  /-- The variants for them. -/
  variants : List Variant

/-- The summary of a selection. -/
structure Report where
  documents : List String
  artifactCount : Nat
  /-- How many units there are of each kind. -/
  counts : List (Kind × Nat)
  units : List UnitReport
  diagnostics : List Diagnostic

/-- The kinds that a report covers, in order. -/
def Report.kinds : List Kind :=
  [.server, .channel, .operation, .message, .schema, .parameter, .security, .bindings]

namespace Selection

/-- The report about one unit. -/
def unitReport (s : Selection) (kind : Kind) (id : ArtifactId) : Except Defect UnitReport := do
  let protocols ← s.protocols id
  let variants ← protocols.mapM (s.variant? id)
  return {
    kind, name := ← s.graph.displayName id, location := (← s.graph.artifact id).location
    protocols, variants := variants.flatMap Option.toList }

/-- The report about a selection. -/
def report (s : Selection) : Except Defect Report := do
  let units ← Report.kinds.mapM fun kind => (s.units kind).mapM (s.unitReport kind)
  return {
    documents := s.graph.documents
    artifactCount := s.graph.size
    counts := Report.kinds.map fun kind => (kind, (s.units kind).length)
    units := units.flatten
    diagnostics := s.graph.diagnostics }

end Selection

/-! ## Reports as JSON -/

/-- A field that is left out where there is nothing to write. -/
def Json.unlessEmpty (key : String) : List Json → Table Json
  | [] => []
  | items => [(key, .array items)]

/-- A variant; attributes are written only where there are any. -/
def Variant.toJson (v : Variant) : Json :=
  .object ([("protocol", .string v.protocol), ("name", .string v.name)] ++
    if v.attributes.isEmpty then [] else [("attributes", .object v.attributes)])

/-- Bindings; schemas are written only where there are any. -/
def BindingsValue.toJson (b : BindingsValue) : Json :=
  .object (("value", b.value) :: if b.schemas.isEmpty then [] else [("schemas", .object b.schemas)])

/-- A diagnostic; the protocol is written only where there is one. -/
def Diagnostic.toJson (d : Diagnostic) : Json :=
  .object ([("severity", .string d.severity.text), ("location", .string d.location.text)] ++
    (match d.protocol with
      | some protocol => [("protocol", .string protocol)]
      | none => []) ++
    [("message", .string d.message)])

/-- A unit. -/
def UnitReport.toJson (u : UnitReport) : Json :=
  .object ([("kind", .string u.kind.text), ("name", .string u.name),
      ("location", .string u.location.text)] ++
    Json.unlessEmpty "protocols" (u.protocols.map .string) ++
    Json.unlessEmpty "variants" (u.variants.map Variant.toJson))

/-- A report. -/
def Report.toJson (r : Report) : Json :=
  .object ([("documents", .ofTexts r.documents), ("artifactCount", .ofNat r.artifactCount),
      ("counts", .object (r.counts.map fun (kind, n) => (kind.text, .ofNat n))),
      ("units", .array (r.units.map UnitReport.toJson))] ++
    Json.unlessEmpty "diagnostics" (r.diagnostics.map Diagnostic.toJson))

end ApiGraph
