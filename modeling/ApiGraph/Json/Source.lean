/-
# JSON texts as trees

A text is read into a tree even where it breaks the grammar: the tree then ends
at the place of the fault, and every container knows how it came to its end.
Whoever walks the tree in the order of the text meets the first fault of the
text first, whether it is one of syntax or one of shape.

The tree is built by a machine with a stack of open containers, one token at a
time (`Reading.step`).
-/

import ApiGraph.Json.Token

namespace ApiGraph

/-- How an array came to its end. -/
inductive ArrayEnd where
  /-- A bracket. -/
  | closed
  /-- Something other than comma or bracket behind an item. -/
  | separatorMissing
  /-- A bracket behind a comma. -/
  | closedAfterComma
  /-- The end of the text behind a comma. -/
  | endedAfterComma
  /-- The end of the text. -/
  | ended
  deriving DecidableEq, Repr

/-- How an object came to its end. -/
inductive ObjectEnd where
  /-- A brace. -/
  | closed
  /-- Something other than comma or brace behind a member. -/
  | separatorMissing
  /-- A brace behind a comma. -/
  | closedAfterComma
  /-- The end of the text behind a comma. -/
  | endedAfterComma
  /-- The end of the text. -/
  | ended
  /-- Something other than a string in the place of a key. -/
  | keyNotString
  /-- A key that breaks off, with the fault that reading and skipping meet. -/
  | keyBroken (reading skipping : Fault)
  deriving DecidableEq, Repr

/-- A JSON text as a tree, as far as its grammar holds. -/
inductive Source where
  /-- A complete scalar other than a string, with what reading it gives. -/
  | scalar (value : Except Fault Scalar)
  /-- A complete string, with what reading it gives. -/
  | string (text : Except Fault String)
  /-- No value: the fault that reading and skipping meet in its place. -/
  | broken (reading skipping : Fault)
  /-- An array with its complete items; only the last can be broken. -/
  | array (items : List Source) (ending : ArrayEnd)
  /-- An object with its members, whose keys are complete. -/
  | object (members : List (Except Fault String × Source)) (ending : ObjectEnd)
  deriving Inhabited

/-- Refuses if there is a fault. -/
def refuse : Option Fault → Except Fault Unit
  | none => .ok ()
  | some f => .error f

namespace ArrayEnd

/-- The fault that a reader meets who asks for one more item. -/
def reading : ArrayEnd → Option Fault
  | closed => none
  | separatorMissing => some .listSeparatorExpected
  | closedAfterComma => some .trailingComma
  | endedAfterComma => some .unfinishedValue
  | ended => some .unfinishedList

/-- The fault that is met while skipping. -/
def skipping : ArrayEnd → Option Fault
  | closed => none
  | separatorMissing => some .listSeparatorExpected
  | closedAfterComma => some .valueExpected
  | endedAfterComma => some .unfinishedValue
  | ended => some .unfinishedList

/-- The fault that a reader meets who wants no more items. -/
def closing : ArrayEnd → Option Fault
  | closed => none
  | separatorMissing => some .trailingCharacters
  | closedAfterComma => some .trailingComma
  | endedAfterComma => some .trailingCharacters
  | ended => some .unfinishedList

end ArrayEnd

namespace ObjectEnd

/-- The fault that a reader meets who asks for one more member. -/
def reading : ObjectEnd → Option Fault
  | closed => none
  | separatorMissing => some .objectSeparatorExpected
  | closedAfterComma => some .trailingComma
  | endedAfterComma => some .unfinishedValue
  | ended => some .unfinishedObject
  | keyNotString => some .keyNotString
  | keyBroken reading _ => some reading

/-- The fault that is met while skipping. -/
def skipping : ObjectEnd → Option Fault
  | closed => none
  | separatorMissing => some .objectSeparatorExpected
  | closedAfterComma => some .keyNotString
  | endedAfterComma => some .unfinishedObject
  | ended => some .unfinishedObject
  | keyNotString => some .keyNotString
  | keyBroken _ skipping => some skipping

end ObjectEnd

namespace Source

/-- A container that is still open around the place where the machine reads;
items and members are in reverse. -/
inductive Frame where
  /-- An array with the items before the current one. -/
  | array (items : List Source)
  /-- An object with the members before the current one and the current key. -/
  | member (members : List (Except Fault String × Source)) (key : Except Fault String)

/-- Closes every open container around a place where the text breaks off. -/
def unwind (v : Source) : List Frame → Source
  | [] => v
  | .array items :: outer => unwind (.array (v :: items).reverse .ended) outer
  | .member members key :: outer => unwind (.object ((key, v) :: members).reverse .ended) outer

/-- What the machine expects next; items and members are in reverse. -/
inductive Reading where
  /-- A value. -/
  | value (outer : List Frame)
  /-- An item or, unless a comma stands before, the end of the array. -/
  | item (items : List Source) (afterComma : Bool) (outer : List Frame)
  /-- A comma or the end of the array. -/
  | afterItem (items : List Source) (outer : List Frame)
  /-- A key or, unless a comma stands before, the end of the object. -/
  | key (members : List (Except Fault String × Source)) (afterComma : Bool) (outer : List Frame)
  /-- The colon behind a key. -/
  | colon (members : List (Except Fault String × Source)) (key : Except Fault String)
      (outer : List Frame)
  /-- A comma or the end of the object. -/
  | afterMember (members : List (Except Fault String × Source)) (outer : List Frame)

/-- What one token leads to. -/
inductive Progress where
  /-- The machine goes on. -/
  | next (state : Reading)
  /-- The value is complete. -/
  | complete (v : Source)
  /-- The text breaks off here. -/
  | stuck (v : Source)

/-- Puts a complete value into the innermost open container. -/
def place (v : Source) : List Frame → Progress
  | [] => .complete v
  | .array items :: outer => .next (.afterItem (v :: items) outer)
  | .member members key :: outer => .next (.afterMember ((key, v) :: members) outer)

/-- A token where a value has to come. -/
def stepValue (outer : List Frame) : Token → Progress
  | .openArray => .next (.item [] false outer)
  | .openObject => .next (.key [] false outer)
  | .scalar value => place (.scalar value) outer
  | .string text => place (.string text) outer
  | .broken reading skipping => .stuck (unwind (.broken reading skipping) outer)
  | .brokenString reading skipping => .stuck (unwind (.broken reading skipping) outer)
  | _ => .stuck (unwind (.broken .valueExpected .valueExpected) outer)

/-- One token. -/
def Reading.step : Reading → Token → Progress
  | .value outer, t => stepValue outer t
  | .item items false outer, .closeArray => place (.array items.reverse .closed) outer
  | .item items true outer, .closeArray =>
    .stuck (unwind (.array items.reverse .closedAfterComma) outer)
  | .item items _ outer, t => stepValue (.array items :: outer) t
  | .afterItem items outer, .comma => .next (.item items true outer)
  | .afterItem items outer, .closeArray => place (.array items.reverse .closed) outer
  | .afterItem items outer, _ => .stuck (unwind (.array items.reverse .separatorMissing) outer)
  | .key members false outer, .closeObject => place (.object members.reverse .closed) outer
  | .key members true outer, .closeObject =>
    .stuck (unwind (.object members.reverse .closedAfterComma) outer)
  | .key members _ outer, .string text => .next (.colon members text outer)
  | .key members _ outer, .brokenString reading skipping =>
    .stuck (unwind (.object members.reverse (.keyBroken reading skipping)) outer)
  | .key members _ outer, _ => .stuck (unwind (.object members.reverse .keyNotString) outer)
  | .colon members k outer, .colon => .next (.value (.member members k :: outer))
  | .colon members k outer, _ =>
    .stuck (unwind (.broken .colonExpected .colonExpected) (.member members k :: outer))
  | .afterMember members outer, .comma => .next (.key members true outer)
  | .afterMember members outer, .closeObject => place (.object members.reverse .closed) outer
  | .afterMember members outer, _ =>
    .stuck (unwind (.object members.reverse .separatorMissing) outer)

/-- The end of the text. -/
def Reading.finish : Reading → Source
  | .value outer => unwind (.broken .unfinishedValue .unfinishedValue) outer
  | .item items afterComma outer =>
    unwind (.array items.reverse (if afterComma then .endedAfterComma else .ended)) outer
  | .afterItem items outer => unwind (.array items.reverse .ended) outer
  | .key members afterComma outer =>
    unwind (.object members.reverse (if afterComma then .endedAfterComma else .ended)) outer
  | .colon members k outer =>
    unwind (.broken .unfinishedObject .unfinishedObject) (.member members k :: outer)
  | .afterMember members outer => unwind (.object members.reverse .ended) outer

/-- Reads tokens from a state.  The second component tells whether something
stands behind the complete value. -/
def ofTokensFrom (state : Reading) : List Token → Source × Bool
  | [] => (state.finish, false)
  | t :: rest =>
    match state.step t with
    | .next state => ofTokensFrom state rest
    | .complete v => (v, !rest.isEmpty)
    | .stuck v => (v, false)

/-- Reads a whole text, and tells whether something stands behind the value. -/
def ofText (text : String) : Source × Bool :=
  ofTokensFrom (.value []) (Token.scan text.toList)

mutual

/-- The fault that is met while skipping a value. -/
def skip : Source → Option Fault
  | .scalar _ => none
  | .string _ => none
  | .broken _ skipping => some skipping
  | .array items ending => (skipItems items).or ending.skipping
  | .object members ending => (skipMembers members).or ending.skipping

/-- The first fault that is met while skipping items. -/
def skipItems : List Source → Option Fault
  | [] => none
  | item :: items => (skip item).or (skipItems items)

/-- The first fault that is met while skipping members. -/
def skipMembers : List (Except Fault String × Source) → Option Fault
  | [] => none
  | (_, value) :: members => (skip value).or (skipMembers members)

end

end Source
end ApiGraph
