/-
# Pointers that are written and read

A pointer is read segment by segment, and every list of segments is read as it was written
(`Location.ofReference_fragment`), so a pointer has one meaning.  A text has one spelling as a
pointer only if nothing in it stands for itself that an escape stands for: a slash is always read as
the beginning of a segment, and a tilde must begin an escape, `~0` or `~1` (`WellEscaped`).  Pointers
that are spelled so are written as they were read, and no others (`Location.pointers_round_trip`).

Escapes are read and written in one pass.  This is the same as replacing one after the other, if it
is done in the right order: the tilde first when writing, and last when reading, for else `~01`
would come to be a slash (`Location.escape_eq_replace`, `Location.unescape_eq_replace`).
-/

import ApiGraph.Proofs.Json.Pointers
import ApiGraph.Proofs.Location.Paths

namespace ApiGraph

/-! ## Replacements -/

namespace Text

/-- Every occurrence of a character is replaced. -/
def replaceChar (c : Char) (replacement cs : List Char) : List Char :=
  cs.flatMap fun x => if x = c then replacement else [x]

/-- Every occurrence of two characters in a row is replaced, from left to right. -/
def replacePair (first second : Char) (replacement : List Char) : List Char → List Char
  | x :: y :: rest =>
    if x = first ∧ y = second then replacement ++ replacePair first second replacement rest
    else x :: replacePair first second replacement (y :: rest)
  | cs => cs

variable {first second c : Char} {replacement rest : List Char}

/-- A pair is replaced, and the rest is gone through. -/
theorem replacePair_pair : replacePair first second replacement (first :: second :: rest) =
    replacement ++ replacePair first second replacement rest := by
  rw [replacePair, if_pos ⟨rfl, rfl⟩]

/-- What begins no pair stays. -/
theorem replacePair_cons (h : c ≠ first) : replacePair first second replacement (c :: rest) =
    c :: replacePair first second replacement rest := by
  cases rest with
  | nil => rfl
  | cons y rest => rw [replacePair, if_neg fun same => h same.1]

/-- A character is kept that the second one of the pair does not follow. -/
theorem replacePair_lone (h : rest.head? ≠ some second) :
    replacePair first second replacement (c :: rest) =
      c :: replacePair first second replacement rest := by
  cases rest with
  | nil => rfl
  | cons y rest => rw [replacePair, if_neg fun same => h (by rw [same.2]; rfl)]

/-- What is replaced begins neither before nor after with a character that is in neither the pair's
beginning nor the replacement's. -/
theorem head?_replacePair (filled : replacement ≠ []) (other : replacement.head? ≠ some c)
    (start : first ≠ c) :
    (replacePair first second replacement rest).head? = some c ↔ rest.head? = some c := by
  rcases rest with _ | ⟨x, _ | ⟨y, rest⟩⟩
  · rfl
  · rfl
  · rw [replacePair]
    split
    · rename_i pair
      obtain ⟨z, more, rfl⟩ := List.exists_cons_of_ne_nil filled
      rw [List.head?_cons, pair.1, Option.some.injEq]
      exact iff_of_false other start
    · rfl

end Text

namespace Location

/-- A character stays that is neither a tilde nor a slash. -/
theorem escape_cons {c : Char} (tilde : c ≠ '~') (slash : c ≠ '/') (rest : List Char) :
    escape (c :: rest) = c :: escape rest := by
  rw [escape] <;> assumption

/-- A segment is escaped by replacing the tildes, and then the slashes. -/
theorem escape_eq_replace (cs : List Char) :
    escape cs = Text.replaceChar '/' ['~', '1'] (Text.replaceChar '~' ['~', '0'] cs) := by
  induction cs with
  | nil => rfl
  | cons c rest ih =>
    by_cases tilde : c = '~'
    · subst tilde
      rw [escape, ih]
      rfl
    by_cases slash : c = '/'
    · subst slash
      rw [escape, ih]
      rfl
    · rw [escape_cons tilde slash, ih]
      simp [Text.replaceChar, tilde, slash]

/-- An escaped segment is read by replacing what stands for a slash, and then what stands for a
tilde. -/
theorem unescape_eq_replace (cs : List Char) :
    unescape cs = Text.replacePair '~' '0' ['~'] (Text.replacePair '~' '1' ['/'] cs) := by
  fun_induction unescape cs with
  | case1 => rfl
  | case2 rest ih =>
    rw [Text.replacePair_pair, List.singleton_append, Text.replacePair_cons (by decide), ih]
  | case3 rest ih =>
    have kept : Text.replacePair '~' '1' ['/'] ('~' :: '0' :: rest) =
        '~' :: '0' :: Text.replacePair '~' '1' ['/'] rest := by
      rw [Text.replacePair_lone (by simp), Text.replacePair_cons (by decide)]
    rw [kept, Text.replacePair_pair, List.singleton_append, ih]
  | case4 c rest slash tilde ih =>
    by_cases start : c = '~'
    · subst start
      have noOne : rest.head? ≠ some '1' := fun h => by
        obtain ⟨after, rfl⟩ := List.head?_eq_some_iff.1 h
        exact slash after rfl rfl
      have noZero : rest.head? ≠ some '0' := fun h => by
        obtain ⟨after, rfl⟩ := List.head?_eq_some_iff.1 h
        exact tilde after rfl rfl
      rw [Text.replacePair_lone noOne, Text.replacePair_lone, ih]
      rwa [Ne, Text.head?_replacePair (by decide) (by decide) (by decide)]
    · rw [Text.replacePair_cons start, Text.replacePair_cons start, ih]

/-- In the other order an escaped tilde would come to be a slash. -/
example : Text.replacePair '~' '1' ['/'] (Text.replacePair '~' '0' ['~'] ['~', '0', '1']) = ['/'] ∧
    unescape ['~', '0', '1'] = ['~', '1'] := by
  decide

/-! ## Spellings -/

/-- Every tilde begins an escape: `0` or `1` follows it. -/
def WellEscaped (cs : List Char) : Prop :=
  ∀ before after, cs = before ++ '~' :: after → after.head? = some '0' ∨ after.head? = some '1'

variable {c : Char} {cs piece rest : List Char} {segments : List String}

/-- The empty text is well escaped. -/
theorem wellEscaped_nil : WellEscaped [] := by
  intro before after h
  simp at h

/-- Only a tilde has to be looked at. -/
theorem wellEscaped_cons (h : c ≠ '~') : WellEscaped (c :: rest) ↔ WellEscaped rest := by
  constructor
  · intro escaped before after split
    exact escaped (c :: before) after (by rw [split, List.cons_append])
  · intro escaped before after split
    cases before with
    | nil => exact absurd (List.cons.inj split).1 h
    | cons x before => exact escaped before after (List.cons.inj split).2

/-- Behind a tilde stands a zero or a one. -/
theorem wellEscaped_tilde : WellEscaped ('~' :: rest) ↔
    (rest.head? = some '0' ∨ rest.head? = some '1') ∧ WellEscaped rest := by
  constructor
  · intro escaped
    refine ⟨escaped [] rest rfl, fun before after split => ?_⟩
    exact escaped ('~' :: before) after (by rw [split, List.cons_append])
  · rintro ⟨first, escaped⟩ before after split
    cases before with
    | nil =>
      obtain rfl := (List.cons.inj split).2
      exact first
    | cons x before => exact escaped before after (List.cons.inj split).2

/-- An escape does not go beyond a slash. -/
theorem wellEscaped_append (piece rest : List Char) :
    WellEscaped (piece ++ '/' :: rest) ↔ WellEscaped piece ∧ WellEscaped rest := by
  induction piece with
  | nil => simp [wellEscaped_cons, wellEscaped_nil]
  | cons c piece ih =>
    by_cases tilde : c = '~'
    · subst tilde
      rw [List.cons_append, wellEscaped_tilde, wellEscaped_tilde, ih, and_assoc]
      cases piece <;> simp
    · rw [List.cons_append, wellEscaped_cons tilde, wellEscaped_cons tilde, ih]

/-- What is read from a piece is written as the piece if it is well escaped, and only then. -/
theorem escape_unescape_iff (plain : '/' ∉ cs) : escape (unescape cs) = cs ↔ WellEscaped cs := by
  fun_induction unescape cs with
  | case1 => simp [escape, wellEscaped_nil]
  | case2 rest ih =>
    rw [escape, wellEscaped_tilde, wellEscaped_cons (by decide), ← ih (by simp_all)]
    simp
  | case3 rest ih =>
    rw [escape, wellEscaped_tilde, wellEscaped_cons (by decide), ← ih (by simp_all)]
    simp
  | case4 c rest slash tilde ih =>
    rw [List.mem_cons, not_or] at plain
    by_cases start : c = '~'
    · -- a tilde that stands for itself is written as an escape
      subst start
      rw [escape]
      refine iff_of_false (fun same => ?_) fun escaped => ?_
      · exact tilde _ rfl (List.cons.inj same).2.symm
      · rcases (wellEscaped_tilde.1 escaped).1 with h | h <;>
          obtain ⟨after, rfl⟩ := List.head?_eq_some_iff.1 h
        · exact tilde after rfl rfl
        · exact slash after rfl rfl
    · rw [wellEscaped_cons start, ← ih plain.2, escape_cons start (Ne.symm plain.1)]
      simp

/-- The pieces between slashes make up the text again. -/
theorem flatMap_splitOn (rest : List Char) :
    ((Text.splitOn '/' rest).flatMap fun piece => '/' :: piece) = '/' :: rest := by
  induction rest with
  | nil => rfl
  | cons c rest ih =>
    rw [Text.splitOn]
    split
    · rename_i slash
      rw [List.flatMap_cons, ih, slash]
      rfl
    · split
      · rename_i none
        exact absurd none (Text.splitOn_ne_nil _ _)
      · rename_i cut
        rw [cut, List.flatMap_cons, List.cons_append] at ih
        rw [List.flatMap_cons, List.cons_append, List.cons_append, (List.cons.inj ih).2]

/-- A pointer is well escaped where its pieces are. -/
theorem wellEscaped_flatMap (pieces : List (List Char)) :
    WellEscaped (pieces.flatMap fun piece => '/' :: piece) ↔
      ∀ piece ∈ pieces, WellEscaped piece := by
  induction pieces with
  | nil => simp [wellEscaped_nil]
  | cons piece pieces ih =>
    rw [List.flatMap_cons, List.cons_append, wellEscaped_cons (by decide), List.forall_mem_cons,
      ← ih]
    cases pieces with
    | nil => simp [wellEscaped_nil]
    | cons next more =>
      rw [List.flatMap_cons, List.cons_append, wellEscaped_append, wellEscaped_cons (by decide)]

/-- Segments are written as a pointer if its pieces are these segments, escaped. -/
theorem pointerChars_eq_iff (rest : List Char) {segments : List String} (some : segments ≠ []) :
    pointerChars segments = '/' :: rest ↔
      (segments.map fun s => escape s.toList) = Text.splitOn '/' rest := by
  obtain ⟨segment, segments, rfl⟩ := List.exists_cons_of_ne_nil some
  constructor
  · intro same
    rw [pointerChars, List.flatMap_cons, List.cons_append] at same
    rw [← (List.cons.inj same).2]
    exact (splitOn_pointerChars segment segments).symm
  · intro pieces
    rw [← flatMap_splitOn rest, ← pieces, List.flatMap_map, pointerChars]

/-- **The segments that a pointer is read to** are written as the pointer if it is well escaped, and
only then. -/
theorem pointerChars_iff (rest : List Char) :
    pointerChars ((Text.splitOn '/' rest).map fun piece => String.ofList (unescape piece)) =
      '/' :: rest ↔ WellEscaped ('/' :: rest) := by
  have some : ((Text.splitOn '/' rest).map fun piece => String.ofList (unescape piece)) ≠ [] := by
    rw [Ne, List.map_eq_nil_iff]
    exact Text.splitOn_ne_nil _ _
  have plain : ∀ piece ∈ Text.splitOn '/' rest, '/' ∉ piece :=
    fun piece h => Text.notMem_of_mem_splitOn h
  calc
    _ ↔ (Text.splitOn '/' rest).map (fun piece => escape (unescape piece)) =
        (Text.splitOn '/' rest).map id := by
      rw [pointerChars_eq_iff rest some, List.map_map, List.map_id]
      simp [Function.comp_def]
    _ ↔ ∀ piece ∈ Text.splitOn '/' rest, WellEscaped piece := by
      rw [List.map_inj_left]
      exact forall₂_congr fun piece h => escape_unescape_iff (plain piece h)
    _ ↔ WellEscaped ('/' :: rest) := by
      rw [← wellEscaped_flatMap, flatMap_splitOn]

/-! ## Reading and writing -/

/-- A reference without a name before it leads into the document that it stands in. -/
theorem ofReference_fragment (current : String) {fragment : List Char} {segments : List String}
    (h : segments? fragment = some segments) :
    ofReference current ("#" ++ String.ofList fragment) = .ok ⟨current, segments⟩ := by
  rw [ofReference]
  simp [Text.cutAt?, h]

/-- **Pointers round-trip.**  Whatever its segments are, the pointer of a location is read as the
location, so that no two locations of a document have one pointer.  A fragment that begins with a
slash can be read, and the pointer of the location that it leads to is the fragment again if and
only if every tilde in it is followed by `0` or `1`. -/
theorem pointers_round_trip (current : String) :
    (∀ segments, ofReference current ("#" ++ (Location.mk current segments).pointer) =
      .ok ⟨current, segments⟩) ∧
    (∀ l l' : Location, l.document = current → l'.document = current → l.pointer = l'.pointer →
      l = l') ∧
    ∀ fragment : String, fragment.toList.head? = some '/' →
      ∃ l, ofReference current ("#" ++ fragment) = .ok l ∧ l.document = current ∧
        (l.pointer = fragment ↔ WellEscaped fragment.toList) := by
  have reads : ∀ segments, ofReference current ("#" ++ (Location.mk current segments).pointer) =
      .ok ⟨current, segments⟩ :=
    fun segments => ofReference_fragment current (segments?_pointerChars segments)
  refine ⟨reads, ?_, fun fragment start => ?_⟩
  · rintro ⟨_, segments⟩ ⟨_, segments'⟩ rfl rfl same
    have read := reads segments
    rw [same] at read
    exact (Except.ok.inj (read.symm.trans (reads segments')))
  · obtain ⟨rest, cut⟩ := List.head?_eq_some_iff.1 start
    obtain rfl : fragment = String.ofList ('/' :: rest) := by rw [← cut, String.ofList_toList]
    have some : segments? ('/' :: rest) = some ((Text.splitOn '/' rest).map fun piece =>
      String.ofList (unescape piece)) := rfl
    refine ⟨_, ofReference_fragment current some, rfl, ?_⟩
    rw [pointer, String.toList_ofList, ← pointerChars_iff rest]
    exact String.ofList_inj

/-- Segments with slashes, tildes and escapes in them, and fragments with and without a tilde that
stands for itself. -/
theorem pointers_round_trip_escaped :
    ofReference "a" ("#" ++ (Location.mk "a" ["", "a/b", "~1", "#~"]).pointer) =
      .ok ⟨"a", ["", "a/b", "~1", "#~"]⟩ ∧
    Location.mk "a" ["~1"] = Location.mk "a" [String.ofList (unescape ['~', '0', '1'])] ∧
    (∃ l, ofReference "a" ("#" ++ "/~01/") = .ok l ∧ l.pointer = "/~01/") ∧
    ∃ l, ofReference "a" ("#" ++ "/~/0") = .ok l ∧ l.pointer ≠ "/~/0" := by
  obtain ⟨reads, inj, spells⟩ := pointers_round_trip "a"
  obtain ⟨l, read, -, kept⟩ := spells "/~01/" (by decide)
  obtain ⟨l', read', -, lost⟩ := spells "/~/0" (by decide)
  have escaped : WellEscaped ['/', '~', '0', '1', '/'] := by
    simp [wellEscaped_cons, wellEscaped_tilde, wellEscaped_nil]
  have lone : ¬ WellEscaped ['/', '~', '/', '0'] := by
    simp [wellEscaped_cons, wellEscaped_tilde]
  exact ⟨reads _, inj _ _ rfl rfl (by decide), ⟨l, read, kept.2 escaped⟩,
    ⟨l', read', fun same => lone (lost.1 same)⟩⟩

end Location

end ApiGraph
