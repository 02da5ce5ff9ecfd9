/-
# Libraries

Where the documents come from that references name.  A library holds finitely many
documents, under normalized paths relative to the root document's directory or under
URLs.  It need not list them: it is enough to know how many they can be.

The number is a part of the library because compiling a project ends by it.  Whatever is
said of the document that a project comes to last, of the one that stops it or of what it
has asked for until then, is said of a loop that a library without end would never leave.
-/

import ApiGraph.Document.Reading
import ApiGraph.Problem

namespace ApiGraph

/-- A source of documents. -/
structure Library where
  /-- The document of a name. -/
  resolve : String → Except ResolveError Document
  /-- How many names there are at most that have a document. -/
  size : Nat
  /-- Different names that all have a document are not more than that. -/
  length_le_size : ∀ names : List String, names.Nodup →
    (∀ name ∈ names, ∃ d, resolve name = .ok d) → names.length ≤ size

namespace Library

/-- The library without documents. -/
def empty : Library where
  resolve name := .error (.notFound name)
  size := 0
  length_le_size names _ found := by
    cases names with
    | nil => exact Nat.le_refl 0
    | cons name rest => obtain ⟨d, h⟩ := found name (by simp); cases h

/-- Reads the document of a name; `find` gives its text and `path` says where that was
read from. -/
def read (path : String → String) (find : String → Option String) (name : String) :
    Except ResolveError Document :=
  match find name with
  | none => .error (.notFound name)
  | some text =>
    match Document.ofText text with
    | .ok d => .ok d
    | .error fault => .error (.failed name (Document.unreadable (path name) fault.message))

/-- What was read had a text. -/
theorem exists_text_of_read {path : String → String} {find : String → Option String}
    {name : String} {d : Document} (h : read path find name = .ok d) :
    ∃ text, find name = some text := by
  unfold read at h
  split at h
  · cases h
  · exact ⟨_, ‹_›⟩

/-- What is shown as the path of a text that was not read from a file. -/
def inMemory : String := "<memory>"

/-- The library of documents that are held as texts. -/
def ofTexts (texts : Table String) : Library where
  resolve := read (fun _ => inMemory) texts.get?
  size := texts.keys.length
  length_le_size names distinct found := by
    refine distinct.length_le_of_subset fun name member => ?_
    obtain ⟨d, h⟩ := found name member
    obtain ⟨text, present⟩ := exists_text_of_read h
    exact Table.mem_keys_of_get? present

end Library
end ApiGraph
