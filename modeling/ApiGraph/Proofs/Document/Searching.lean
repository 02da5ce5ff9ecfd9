/-
# What a search finds

Entries are found by name in fourteen tables of a document: the servers, the channels and the
twelve tables of the components (`Shelf`).  An answer to a query reports exactly the entries whose
names contain it ignoring case, once each, in the order of their table, and says how well they
match (`Answers`).

A search answers like that for every table but one: the server variables of the components are
never looked at, and have no section to be reported under (`search_answers`,
`not_forall_answersEverywhere`).
-/

import ApiGraph.Document.Search
import ApiGraph.Proofs.Text.Suggestions
import Mathlib.Data.List.Forall2

namespace ApiGraph
namespace Document

open Text

/-- The tables of a document that are keyed by the names of their entries. -/
inductive Shelf where
  | servers
  | channels
  | schemas
  | componentServers
  | serverVariables
  | componentChannels
  | messages
  | securitySchemes
  | parameters
  | correlationIds
  | serverBindings
  | channelBindings
  | operationBindings
  | messageBindings
  deriving DecidableEq, Repr

namespace Shelf

/-- The names on a shelf, in the order of the document. -/
def names (d : Document) : Shelf → List String
  | servers => Table.keys d.servers
  | channels => Table.keys d.channels
  | schemas => Table.keys (d.components.getD {}).schemas
  | componentServers => Table.keys (d.components.getD {}).servers
  | serverVariables => Table.keys (d.components.getD {}).serverVariables
  | componentChannels => Table.keys (d.components.getD {}).channels
  | messages => Table.keys (d.components.getD {}).messages
  | securitySchemes => Table.keys (d.components.getD {}).securitySchemes
  | parameters => Table.keys (d.components.getD {}).parameters
  | correlationIds => Table.keys (d.components.getD {}).correlationIds
  | serverBindings => Table.keys (d.components.getD {}).serverBindings
  | channelBindings => Table.keys (d.components.getD {}).channelBindings
  | operationBindings => Table.keys (d.components.getD {}).operationBindings
  | messageBindings => Table.keys (d.components.getD {}).messageBindings

/-- The section that the entries of a shelf belong to; there is none for server variables. -/
def place? : Shelf → Option Section
  | servers | componentServers => some .server
  | channels | componentChannels => some .channel
  | schemas => some .schema
  | serverVariables => none
  | messages => some .message
  | securitySchemes => some .securityScheme
  | parameters => some .parameter
  | correlationIds => some .correlationId
  | serverBindings | channelBindings | operationBindings | messageBindings => some .bindings

/-- The shelves that are looked at, in this order, with their sections. -/
def searched : List (Shelf × Section) :=
  [(servers, .server), (channels, .channel), (componentServers, .server),
    (componentChannels, .channel), (schemas, .schema), (messages, .message),
    (parameters, .parameter), (securitySchemes, .securityScheme),
    (correlationIds, .correlationId), (serverBindings, .bindings), (channelBindings, .bindings),
    (operationBindings, .bindings), (messageBindings, .bindings)]

/-- All shelves are searched but that of server variables. -/
theorem mem_searched_iff {shelf : Shelf} :
    shelf ∈ searched.map (·.1) ↔ shelf ≠ serverVariables := by
  cases shelf <;> decide

/-- A shelf is searched at its own place. -/
theorem place?_of_mem_searched : ∀ x ∈ searched, x.1.place? = some x.2 := by
  decide

end Shelf

variable {d : Document} {query name : String} {place : Section} {quality : Match}

/-- The name contains the query, ignoring case. -/
def Matches (query name : String) : Prop :=
  lowercaseText query <:+: lowercaseText name

instance (query name : String) : Decidable (Matches query name) :=
  decidable_of_iff _ occursIn_iff

/-- How well a name matches that contains the query. -/
inductive Rated (query name : String) : Match → Prop
  | exact : name = query → Rated query name .exact
  | caseInsensitive : name ≠ query → lowercaseText name = lowercaseText query →
      Rated query name .caseInsensitive
  | contains : lowercaseText name ≠ lowercaseText query → Matches query name →
      Rated query name .contains

/-- A hit is about an entry of a shelf. -/
structure Describes (query : String) (entry : Shelf × String) (hit : Hit) : Prop where
  name : hit.name = entry.2
  place : ∀ place ∈ entry.1.place?, hit.place = place
  quality : Rated query entry.2 hit.quality

/-- The hits are about the matching entries of the shelves that are looked at: about every such
entry once, in the order of its shelf, and about nothing else. -/
def Answers (looked : Shelf → Bool) (d : Document) (query : String) (hits : List Hit) : Prop :=
  ∃ entries : List (Shelf × String), List.Forall₂ (Describes query) entries hits ∧
    ∀ shelf, (entries.filter (·.1 = shelf)).map (·.2) =
      if looked shelf then (shelf.names d).filter (Matches query ·) else []

/-! ## One name and one shelf -/

/-- A match has the quality that it is rated with. -/
theorem match?_eq_some_iff : match? query name = some quality ↔ Rated query name quality := by
  simp only [match?, occursIn_iff]
  split_ifs with same cased inside
  · constructor
    · rintro ⟨⟩
      exact .exact same
    · intro h
      cases h with
      | exact => rfl
      | caseInsensitive other => exact absurd same other
      | contains other => exact absurd (congrArg lowercaseText same) other
  · constructor
    · rintro ⟨⟩
      exact .caseInsensitive same cased
    · intro h
      cases h with
      | exact h => exact absurd h same
      | caseInsensitive => rfl
      | contains other => exact absurd cased other
  · constructor
    · rintro ⟨⟩
      exact .contains cased inside
    · intro h
      cases h with
      | exact h => exact absurd h same
      | caseInsensitive _ h => exact absurd h cased
      | contains => rfl
  · refine iff_of_false nofun fun h => ?_
    cases h with
    | exact h => exact same h
    | caseInsensitive _ h => exact cased h
    | contains _ h => exact inside h

/-- What matches is rated. -/
theorem matches_iff_exists_rated : Matches query name ↔ ∃ quality, Rated query name quality := by
  constructor
  · intro h
    by_cases cased : lowercaseText name = lowercaseText query
    · by_cases same : name = query
      · exact ⟨_, .exact same⟩
      · exact ⟨_, .caseInsensitive same cased⟩
    · exact ⟨_, .contains cased h⟩
  · rintro ⟨_, rated⟩
    cases rated with
    | exact same => exact same ▸ List.infix_refl _
    | caseInsensitive _ cased =>
      exact ⟨[], [], by rw [List.nil_append, List.append_nil, cased]⟩
    | contains _ inside => exact inside

/-- What does not match is no match. -/
theorem match?_eq_none_iff : match? query name = none ↔ ¬ Matches query name := by
  rw [matches_iff_exists_rated, Option.eq_none_iff_forall_ne_some, not_exists]
  simp only [ne_eq, match?_eq_some_iff]

/-- The hits in one section describe the matching names of its shelf, one by one. -/
theorem describes_hitsIn {shelf : Shelf} (own : shelf.place? = some place) (names : List String) :
    List.Forall₂ (Describes query) ((names.filter (Matches query ·)).map (shelf, ·))
      (hitsIn query place names) := by
  induction names with
  | nil => exact .nil
  | cons name names ih =>
    rw [hitsIn, List.filterMap_cons]
    cases rated : match? query name with
    | none =>
      rw [List.filter_cons_of_neg (by simpa using match?_eq_none_iff.1 rated)]
      exact ih
    | some quality =>
      have rated := match?_eq_some_iff.1 rated
      rw [List.filter_cons_of_pos (by simpa using matches_iff_exists_rated.2 ⟨_, rated⟩)]
      refine .cons ⟨rfl, fun other h => ?_, rated⟩ ih
      rw [own] at h
      exact Option.some.inj h

/-! ## All shelves -/

/-- A search goes from shelf to shelf; without components, theirs are empty. -/
theorem search_eq (d : Document) (query : String) :
    d.search query = Shelf.searched.flatMap fun x => hitsIn query x.2 (x.1.names d) := by
  rcases d with ⟨_, _, _, _, _, _, _ | _⟩ <;> rfl

/-- The hits on several shelves describe the matching names on them. -/
theorem describes_flatMap {shelves : List (Shelf × Section)}
    (own : ∀ x ∈ shelves, x.1.place? = some x.2) :
    List.Forall₂ (Describes query)
      (shelves.flatMap fun x => ((x.1.names d).filter (Matches query ·)).map (x.1, ·))
      (shelves.flatMap fun x => hitsIn query x.2 (x.1.names d)) := by
  induction shelves with
  | nil => exact .nil
  | cons x shelves ih =>
    rw [List.forall_mem_cons] at own
    rw [List.flatMap_cons, List.flatMap_cons]
    exact List.rel_append (describes_hitsIn own.1 (x.1.names d)) (ih own.2)

/-- What stands on one shelf of several, none of which is listed twice. -/
theorem filter_flatMap_map {α : Type} {shelves : List (Shelf × α)} (f : Shelf → List String)
    (distinct : (shelves.map (·.1)).Nodup) (shelf : Shelf) :
    ((shelves.flatMap fun x => (f x.1).map (x.1, ·)).filter (·.1 = shelf)).map (·.2) =
      if shelf ∈ shelves.map (·.1) then f shelf else [] := by
  induction shelves with
  | nil => rfl
  | cons x shelves ih =>
    rw [List.map_cons, List.nodup_cons] at distinct
    rw [List.flatMap_cons, List.filter_append, List.map_append, ih distinct.2, List.filter_map,
      List.map_map]
    by_cases own : x.1 = shelf
    · subst own
      simp [distinct.1, Function.comp_def]
    · simp only [List.map_cons, List.mem_cons, Ne.symm own, false_or]
      simp [own, Function.comp_def]

/-- **A search finds every entry whose name contains the query, but no server variable.**  Every
other entry of the document with such a name is reported exactly once, with its name, its section
and how well it matches; nothing else is reported; and the entries of one table are reported in the
order of the document. -/
theorem search_answers (d : Document) (query : String) :
    Answers (· ≠ .serverVariables) d query (d.search query) := by
  refine ⟨Shelf.searched.flatMap fun x =>
    ((x.1.names d).filter (Matches query ·)).map (x.1, ·), ?_, fun shelf => ?_⟩
  · rw [search_eq]
    exact describes_flatMap Shelf.place?_of_mem_searched
  · rw [filter_flatMap_map (fun shelf => (shelf.names d).filter (Matches query ·)) (by decide)]
    simp only [Shelf.mem_searched_iff, decide_eq_true_eq]

/-- A document with one server variable. -/
def onePort : Document where
  components := some { serverVariables := [("port", {})] }

/-- The server variables of the components are not found. -/
theorem not_forall_answersEverywhere :
    ¬ ∀ (d : Document) (query : String), Answers (fun _ => true) d query (d.search query) := by
  intro h
  obtain ⟨entries, described, all⟩ := h onePort "port"
  have nothing : onePort.search "port" = [] := by decide +kernel
  rw [nothing, List.forall₂_nil_right_iff] at described
  have reported := all .serverVariables
  have found : (Shelf.serverVariables.names onePort).filter (Matches "port" ·) = ["port"] := by
    decide +kernel
  rw [described, if_pos rfl, found] at reported
  cases reported

end Document
end ApiGraph
