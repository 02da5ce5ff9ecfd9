/-
# Similar names

How far apart two names are, for search and for suggestions.  Two names that
differ in case only are at distance zero, one that contains the other at
distance one, and all others at their edit distance: the least number of
insertions, deletions and replacements of characters that turns one into the
other.
-/

import ApiGraph.Text.Character

namespace ApiGraph
namespace Text

/-- The needle stands somewhere in the text. -/
def occursIn (needle : List Char) : List Char → Bool
  | [] => needle.isEmpty
  | c :: rest => needle.isPrefixOf (c :: rest) || occursIn needle rest

/-- The rest of a row of the edit-distance table.  `left` is the entry to the
left, `diagonal` the one above it, and the row above continues with `above`. -/
def editRowFrom (a : Char) (left diagonal : Nat) : List Char → List Nat → List Nat
  | b :: bs, up :: above =>
    let entry := min (min (left + 1) (up + 1)) (if a = b then diagonal else diagonal + 1)
    entry :: editRowFrom a entry up bs above
  | _, _ => []

/-- The row for one more character `a` of the first text, from the row above. -/
def editRow (bs : List Char) (row : List Nat) (a : Char) : List Nat :=
  match row with
  | [] => []
  | corner :: above => (corner + 1) :: editRowFrom a (corner + 1) corner bs above

/-- The edit distance, row by row: entry `j` of a row is the distance from the
characters read so far to the first `j` characters of `bs`. -/
def editDistance (as bs : List Char) : Nat :=
  (as.foldl (editRow bs) (List.range (bs.length + 1))).getLastD 0

/-- A candidate for a name that was not found. -/
structure Suggestion where
  /-- The suggested name. -/
  candidate : String
  /-- How far it is from the name asked for. -/
  distance : Nat
  deriving Repr, DecidableEq

/-- The distance of a candidate from `name`, if it is another name and near
enough to be suggested; `a` is `name` in lower case.  The limit applies to edit distances
only. -/
def suggestionDistance? (name : String) (a : List Char) (limit : Nat) (candidate : String) :
    Option Nat :=
  if candidate = name then none
  else
    let b := lowercaseText candidate
    if b = a then some 0
    else if occursIn a b || occursIn b a then some 1
    else
      let distance := editDistance name.toList candidate.toList
      if distance ≤ limit then some distance else none

/-- Candidates near `name`, nearest first; among equals the order of the list. -/
def suggestions (name : String) (candidates : List String) (limit : Nat) : List Suggestion :=
  let a := lowercaseText name
  (candidates.filterMap fun candidate =>
      (suggestionDistance? name a limit candidate).map (⟨candidate, ·⟩)).mergeSort
    (fun a b => a.distance ≤ b.distance)

end Text
end ApiGraph
