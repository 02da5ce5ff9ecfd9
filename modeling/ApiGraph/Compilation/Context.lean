/-
# The context of a walk

Where a walk through a document stands, and the store that it fills.  The place is
a stack of frames, one for every key on the way from the document's root; a frame
has the tags of its field together with the tags that it inherits.
-/

import ApiGraph.Store
import ApiGraph.Document.Outline

namespace ApiGraph

open Document (Tags)

/-- One key on the way into a document. -/
structure Frame where
  key : String
  tags : Tags
  deriving DecidableEq, Repr

namespace Frame

/-- The frames after entering `key`, whose field has `tags`.  Frames are kept
innermost first. -/
def enter (frames : List Frame) (key : String) (tags : Tags) : List Frame :=
  let inherited := match frames with
    | [] => {}
    | frame :: _ => frame.tags.inherited
  ⟨key, tags.union inherited⟩ :: frames

/-- The keys on the way, outermost first. -/
def path (frames : List Frame) : List String :=
  (frames.map (·.key)).reverse

end Frame

/-- The state of a walk. -/
structure Context where
  /-- The way to the current node, innermost frame first. -/
  frames : List Frame := []
  store : DocumentStore
  /-- The content type that the document names for its messages. -/
  contentType : Option String := none

namespace Context

/-- Enters a key. -/
def push (c : Context) (key : String) (tags : Tags) : Context :=
  { c with frames := Frame.enter c.frames key tags }

/-- Leaves the innermost key, if there is one. -/
def pop (c : Context) : Context :=
  { c with frames := c.frames.tail }

/-- How many keys have been entered. -/
def depth (c : Context) : Nat :=
  c.frames.length

/-- The current place. -/
def location (c : Context) : Location :=
  ⟨c.store.document, Frame.path c.frames⟩

/-- The innermost key. -/
def key? (c : Context) : Option String :=
  c.frames.head?.map (·.key)

/-- The tags of the current node. -/
def tags (c : Context) : Tags :=
  (c.frames.head?.map (·.tags)).getD {}

/-- The tags of the node around the current one. -/
def parentTags (c : Context) : Tags :=
  (c.frames[1]?.map (·.tags)).getD {}

/-- The current node is an entry of a section of definitions. -/
def isDefinition (c : Context) : Bool :=
  c.parentTags.definition

/-- The current node is a data schema, and the node around it is none. -/
def isDataModelRoot (c : Context) : Bool :=
  c.tags.dataModel && !c.parentTags.dataModel

/-- The current node is an entry of a field of the document's root. -/
def isTopLevel (c : Context) (field : String) : Bool :=
  match c.frames with
  | [_, outer] => outer.key == field
  | _ => false

/-- The content type of a message that names none. -/
def messageContentType (c : Context) (o : Options) : String :=
  c.contentType.getD o.contentType

/-- A promise of what is at a location. -/
def promiseTo (c : Context) (l : Label) (target : Location) : Promise l × Context :=
  let (p, store) := c.store.promise l c.location (.path target) none
  (p, { c with store })

/-- A promise of what is below the current node. -/
def promiseChild (c : Context) (l : Label) (path : List String) : Promise l × Context :=
  c.promiseTo l (c.location.descend path)

/-- A promise of a component of this document. -/
def promiseComponent (c : Context) (l : Label) (kind name : String) : Promise l × Context :=
  c.promiseTo l ⟨c.store.document, ["components", kind, name]⟩

/-- Adds an artifact. -/
def add (c : Context) (a : Artifact) : Except CompileError (ArtifactId × Context) :=
  match c.store.add a with
  | .ok (id, store) => .ok (id, { c with store })
  | .error e => .error e

/-- Adds a diagnostic. -/
def diagnose (c : Context) (d : Diagnostic) : Context :=
  { c with store := c.store.diagnose d }

end Context
end ApiGraph
