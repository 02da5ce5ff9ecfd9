/-
# Character properties and case mapping

Names, searches and quoted text depend on a handful of Unicode properties.
ASCII is decided by comparison, everything above it by the range tables.

Case mapping of one character may give several (`ß` in upper case is `SS`).
Lower case of a whole text differs from the character-wise mapping in one place:
a capital sigma at the end of a word becomes `ς`.  It ends a word when, skipping
characters that do not take part in casing, a cased character stands before it
and none stands after it.
-/

import ApiGraph.Text.CharacterTables

namespace ApiGraph
namespace Text

/-- Membership of a code point above ASCII in a table. -/
def inRanges (ranges : List CharRange) (c : Char) : Bool :=
  ranges.any (·.contains c.toNat)

/-- Letters and numbers, which are what words consist of. -/
def isAlphanumeric (c : Char) : Bool :=
  if c.toNat < 0x80 then c.isAlphanum else inRanges alphanumericRanges c

/-- Capital letters. -/
def isUppercase (c : Char) : Bool :=
  if c.toNat < 0x80 then c.isUpper else inRanges uppercaseRanges c

/-- Characters that exist in more than one case. -/
def isCased (c : Char) : Bool :=
  if c.toNat < 0x80 then c.isAlpha else inRanges casedRanges c

/-- Characters that are skipped when the end of a word is looked for. -/
def isCaseIgnorable (c : Char) : Bool :=
  if c.toNat < 0x80 then ['\'', '.', ':', '^', Char.ofNat 0x60].contains c
  else inRanges caseIgnorableRanges c

/-- Characters that quoted text shows as themselves. -/
def isPrintable (c : Char) : Bool :=
  if c.toNat < 0x80 then 0x20 ≤ c.toNat && c.toNat < 0x7f
  else !inRanges attachedRanges c && !inRanges unprintableRanges c

/-- A character under a case mapping given by offsets and expansions. -/
def mapCase (offsets : List (CharRange × Int)) (expansions : List (Nat × List Nat)) (c : Char) :
    List Char :=
  match expansions.find? (·.1 == c.toNat) with
  | some (_, targets) => targets.map Char.ofNat
  | none =>
    match offsets.find? (·.1.contains c.toNat) with
    | some (_, offset) => [Char.ofNat (c.toNat + offset).toNat]
    | none => [c]

/-- The lower-case form of a character. -/
def lowercase (c : Char) : List Char :=
  if c.toNat < 0x80 then [c.toLower] else mapCase lowercaseOffsets lowercaseExpansions c

/-- The upper-case form of a character. -/
def uppercase (c : Char) : List Char :=
  if c.toNat < 0x80 then [c.toUpper] else mapCase uppercaseOffsets uppercaseExpansions c

/-- The nearest character that takes part in casing is cased. -/
def meetsCased (cs : List Char) : Bool :=
  match cs.dropWhile isCaseIgnorable with
  | [] => false
  | c :: _ => isCased c

/-- Lower case of the rest of a text, given what stands before it in reverse. -/
def lowercaseAfter (before : List Char) : List Char → List Char
  | [] => []
  | c :: rest =>
    let lowered :=
      if c = 'Σ' then if meetsCased before && !meetsCased rest then ['ς'] else ['σ']
      else lowercase c
    lowered ++ lowercaseAfter (c :: before) rest

/-- The lower-case form of a text. -/
def lowercaseText (s : String) : List Char :=
  lowercaseAfter [] s.toList

end Text
end ApiGraph
