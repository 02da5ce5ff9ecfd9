/-
# Options of a run
-/

namespace ApiGraph

/-- The direction of an operation. -/
inductive Direction where
  | publish
  | subscribe
  deriving DecidableEq, Repr

namespace Direction

/-- The key under which a channel holds the operation. -/
def key : Direction → String
  | publish => "publish"
  | subscribe => "subscribe"

/-- The direction of the operation that stands under a key of a channel. -/
def ofKey? (key : String) : Option Direction :=
  if key = "publish" then some .publish
  else if key = "subscribe" then some .subscribe
  else none

end Direction

/-- The content type of last resort. -/
def defaultContentType : String := "application/json"

/-- What is built, and how. -/
structure Options where
  /-- Publish operations are visible. -/
  publish : Bool := true
  /-- Subscribe operations are visible. -/
  subscribe : Bool := true
  /-- The content type where neither message nor document gives one. -/
  contentType : String := defaultContentType
  /-- The protocols to build variants for; all that are built in, if it is absent. -/
  protocols : Option (List String) := none
  deriving Inhabited, DecidableEq, Repr

/-- Operations of a direction are visible. -/
def Options.enables (o : Options) : Direction → Bool
  | .publish => o.publish
  | .subscribe => o.subscribe

end ApiGraph
