/-
# JSON values

Values as documents hold them where the format leaves them open: defaults,
constants, protocol bindings.  Objects keep the order of their keys.  A number is
an integer where its literal is one of at most 64 bits, and a floating-point
number otherwise.
-/

import ApiGraph.Table
import ApiGraph.Binary64

namespace ApiGraph

/-- A JSON value. -/
inductive Json where
  | null
  | bool (b : Bool)
  | integer (i : Int)
  | float (x : Binary64)
  | string (s : String)
  | array (items : List Json)
  | object (fields : List (String × Json))
  deriving Inhabited, Repr, BEq

namespace Json

/-- The value of an object's field. -/
def get? : Json → String → Option Json
  | .object fields, key => Table.get? fields key
  | _, _ => none

/-- Text, or null for none. -/
def ofText? : Option String → Json
  | some s => .string s
  | none => .null

/-- A value, or null for none. -/
def ofOption : Option Json → Json
  | some v => v
  | none => .null

/-- A list of texts. -/
def ofTexts (ss : List String) : Json :=
  .array (ss.map .string)

/-- A count. -/
def ofNat (n : Nat) : Json :=
  .integer n

end Json
end ApiGraph
