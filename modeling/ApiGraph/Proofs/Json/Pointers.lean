/-
# JSON pointers

A pointer leads from segment to segment into a value: into an object by key, and into an array
by number (`Json.at?`).  Written as text, a pointer has its segments escaped and each behind a
slash, and reading undoes this (`segments?_pointerChars`).  So evaluating the pointer of a
location is following the segments of the location (`evaluate?_pointer`).
-/

import ApiGraph.Json
import ApiGraph.Location
import Std.Data.String.ToNat

namespace ApiGraph

/-! ## Evaluation -/

namespace Json

/-- What a segment leads to: the value under a key, or the item with a number. -/
def child? : Json → String → Option Json
  | object fields, key => Table.get? fields key
  | array items, key => key.toNat?.bind fun i => if toString i = key then items[i]? else none
  | _, _ => none

/-- What segments lead to. -/
def at? (v : Json) : List String → Option Json
  | [] => some v
  | key :: path => (v.child? key).bind fun v => v.at? path

/-- What a pointer that is written as text leads to. -/
def evaluate? (v : Json) (pointer : String) : Option Json :=
  (Location.segments? pointer.toList).bind v.at?

/-- A path is followed key by key. -/
theorem at?_cons (v : Json) (key : String) (path : List String) :
    v.at? (key :: path) = (v.child? key).bind fun v => v.at? path := rfl

/-- A path may be followed in two parts. -/
theorem at?_append (v : Json) (path path' : List String) :
    v.at? (path ++ path') = (v.at? path).bind fun v => v.at? path' := by
  induction path generalizing v with
  | nil => rfl
  | cons key path ih =>
    rw [List.cons_append, at?_cons, at?_cons, Option.bind_assoc]
    simp only [ih]

/-- An item is found under its number, as it is printed. -/
theorem child?_array (items : List Json) (i : Nat) :
    (array items).child? (toString i) = items[i]? := by
  have number : (toString i).toNat? = some i := Nat.toNat?_repr i
  rw [child?, number, Option.bind_some, if_pos rfl]

end Json

/-! ## Pointers as text -/

namespace Location

/-- Only a tilde begins an escape. -/
theorem unescape_cons {c : Char} (h : c ≠ '~') (rest : List Char) :
    unescape (c :: rest) = c :: unescape rest := by
  rw [unescape]
  · rintro _ rfl; exact absurd rfl h
  · rintro _ rfl; exact absurd rfl h

/-- What is escaped is read back. -/
theorem unescape_escape (cs : List Char) : unescape (escape cs) = cs := by
  induction cs with
  | nil => rfl
  | cons c rest ih =>
    by_cases tilde : c = '~'
    · subst tilde
      rw [escape, unescape, ih]
    by_cases slash : c = '/'
    · subst slash
      rw [escape, unescape, ih]
    · rw [escape, unescape_cons tilde, ih] <;> assumption

/-- No slash is left in what is escaped. -/
theorem slash_notMem_escape (cs : List Char) : '/' ∉ escape cs := by
  induction cs with
  | nil => simp [escape]
  | cons c rest ih =>
    by_cases tilde : c = '~'
    · subst tilde
      simp [escape, ih]
    by_cases slash : c = '/'
    · subst slash
      simp [escape, ih]
    · rw [escape] <;> first | assumption | simp [ih, Ne.symm slash]

end Location

/-- A text without separators is one piece. -/
theorem Text.splitOn_of_notMem {separator : Char} {cs : List Char} (h : separator ∉ cs) :
    splitOn separator cs = [cs] := by
  induction cs with
  | nil => rfl
  | cons c rest ih =>
    rw [List.mem_cons, not_or] at h
    rw [splitOn, if_neg (Ne.symm h.1), ih h.2]

/-- A text is split at its first separator. -/
theorem Text.splitOn_append {separator : Char} {cs : List Char} (h : separator ∉ cs)
    (rest : List Char) :
    splitOn separator (cs ++ separator :: rest) = cs :: splitOn separator rest := by
  induction cs with
  | nil => simp [splitOn]
  | cons c cs ih =>
    rw [List.mem_cons, not_or] at h
    rw [List.cons_append, splitOn, if_neg (Ne.symm h.1), ih h.2]

namespace Location

/-- The pieces of a pointer behind its first slash. -/
theorem splitOn_pointerChars (segment : String) (rest : List String) :
    Text.splitOn '/' (escape segment.toList ++ pointerChars rest) =
      (segment :: rest).map fun s => escape s.toList := by
  induction rest generalizing segment with
  | nil =>
    rw [pointerChars, List.flatMap_nil, List.append_nil]
    exact Text.splitOn_of_notMem (slash_notMem_escape _)
  | cons next rest ih =>
    rw [pointerChars, List.flatMap_cons, List.cons_append,
      Text.splitOn_append (slash_notMem_escape _), List.map_cons]
    exact congrArg _ (ih next)

/-- **A pointer is read as it was written.** -/
theorem segments?_pointerChars (segments : List String) :
    segments? (pointerChars segments) = some segments := by
  cases segments with
  | nil => rfl
  | cons segment rest =>
    have pieces := splitOn_pointerChars segment rest
    rw [pointerChars, List.flatMap_cons, List.cons_append, segments?, ← pointerChars, pieces,
      List.map_map]
    simp [Function.comp_def, unescape_escape]

end Location

/-- Evaluating a pointer is following its segments. -/
theorem Json.evaluate?_pointer (v : Json) (l : Location) :
    v.evaluate? l.pointer = v.at? l.segments := by
  rw [evaluate?, Location.pointer, String.toList_ofList, Location.segments?_pointerChars,
    Option.bind_some]

end ApiGraph
