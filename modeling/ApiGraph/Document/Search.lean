/-
# Searching a document

Entries of the servers, the channels and the components are found by name.  An
entry matches if its name contains the query, without regard to case.  Results
come section by section, in the order of the document within a section.
-/

import ApiGraph.Document
import ApiGraph.Text.Similarity

namespace ApiGraph
namespace Document

/-- Where an entry was found. -/
inductive Section where
  | server
  | channel
  | schema
  | message
  | parameter
  | securityScheme
  | correlationId
  | bindings
  deriving DecidableEq, Repr

namespace Section

/-- The name of a section. -/
def name : Section → String
  | server => "server"
  | channel => "channel"
  | schema => "schema"
  | message => "message"
  | parameter => "parameter"
  | securityScheme => "securityScheme"
  | correlationId => "correlationId"
  | bindings => "bindings"

/-- Where a section stands in a document. -/
def place : Section → String
  | server => "servers"
  | channel => "channels"
  | schema => "components/schemas"
  | message => "components/messages"
  | parameter => "components/parameters"
  | securityScheme => "components/securitySchemes"
  | correlationId => "components/correlationIds"
  | bindings => "components/*Bindings"

end Section

/-- How well an entry matches. -/
inductive Match where
  /-- The name is the query. -/
  | exact
  /-- The name differs from the query in case only. -/
  | caseInsensitive
  /-- The name contains the query. -/
  | contains
  deriving DecidableEq, Repr

/-- The name of a kind of match. -/
def Match.name : Match → String
  | exact => "Exact"
  | caseInsensitive => "CaseInsensitive"
  | contains => "Contains"

/-- An entry that was found. -/
structure Hit where
  name : String
  place : Section
  quality : Match
  deriving DecidableEq, Repr

/-- How well a name matches a query, if it does. -/
def match? (query name : String) : Option Match :=
  if name = query then some .exact
  else if Text.lowercaseText name = Text.lowercaseText query then some .caseInsensitive
  else if Text.occursIn (Text.lowercaseText query) (Text.lowercaseText name) then some .contains
  else none

/-- The names of one section that match. -/
def hitsIn (query : String) (place : Section) (names : List String) : List Hit :=
  names.filterMap fun name => (match? query name).map (⟨name, place, ·⟩)

/-- The sections that are searched, with the names in them. -/
def sections (d : Document) : List (Section × List String) :=
  [(.server, Table.keys d.servers), (.channel, Table.keys d.channels)] ++
  match d.components with
  | none => []
  | some c => [
    (.server, Table.keys c.servers),
    (.channel, Table.keys c.channels),
    (.schema, Table.keys c.schemas),
    (.message, Table.keys c.messages),
    (.parameter, Table.keys c.parameters),
    (.securityScheme, Table.keys c.securitySchemes),
    (.correlationId, Table.keys c.correlationIds),
    (.bindings, Table.keys c.serverBindings),
    (.bindings, Table.keys c.channelBindings),
    (.bindings, Table.keys c.operationBindings),
    (.bindings, Table.keys c.messageBindings)]

/-- The entries whose names contain the query, without regard to case. -/
def search (d : Document) (query : String) : List Hit :=
  d.sections.flatMap fun (place, names) => hitsIn query place names

end Document
end ApiGraph
