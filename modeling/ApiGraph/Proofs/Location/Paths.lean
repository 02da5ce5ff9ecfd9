/-
# Normalized paths

A path is normalized component by component.  What is left are pieces of the path that are neither
empty nor a single dot (`Path.of_mem_components`), and written with slashes between them they are
cut apart again at the slashes (`Path.splitOn_join`).

A URL has two slashes with nothing between them.  A normalized path has not, so it is no URL, not
even where a URL was normalized (`Path.isUrl_normalize`), and a URL is never in normal form
(`Path.normalize_ne_of_isUrl`).
-/

import ApiGraph.Location.Path

namespace ApiGraph

/-! ## Pieces -/

namespace Text

variable {separator : Char} {cs piece : List Char}

theorem splitOn_eq_splitOn (separator : Char) (cs : List Char) :
    splitOn separator cs = cs.splitOn separator := by
  induction cs with
  | nil => rfl
  | cons c rest ih =>
    rw [splitOn, List.splitOn_cons_eq_if_modifyHead, ← ih]
    by_cases same : c = separator
    · rw [if_pos same, if_pos (by simpa using same)]
    · rw [if_neg same, if_neg (by simpa using same)]
      cases cut : splitOn separator rest with
      | nil => exact absurd cut (splitOn_ne_nil _ _)
      | cons piece pieces => rfl

theorem notMem_of_mem_splitOn (h : piece ∈ splitOn separator cs) : separator ∉ piece := by
  induction cs generalizing piece with
  | nil =>
    obtain rfl := List.mem_singleton.1 h
    exact List.not_mem_nil
  | cons c rest ih =>
    rw [splitOn] at h
    split at h
    · rcases List.mem_cons.1 h with rfl | h
      · exact List.not_mem_nil
      · exact ih h
    · rename_i other
      split at h
      · obtain rfl := List.mem_singleton.1 h
        simpa using Ne.symm other
      · rename_i first pieces cut
        rw [cut] at ih
        rcases List.mem_cons.1 h with rfl | h
        · rw [List.mem_cons, not_or]
          exact ⟨Ne.symm other, ih List.mem_cons_self⟩
        · exact ih (List.mem_cons_of_mem _ h)

end Text

namespace Path

variable {absolute : Bool} {component : List Char} {pieces : List (List Char)}

/-- In a URL nothing stands between two slashes, and they are not the beginning. -/
theorem nil_mem_tail_of_isUrl {cs : List Char} (h : isUrl cs = true) :
    [] ∈ (Text.splitOn '/' cs).tail := by
  induction cs with
  | nil => cases h
  | cons c rest ih =>
    rw [isUrl, Text.occursIn, Bool.or_eq_true] at h
    rcases h with here | further
    · obtain ⟨after, same⟩ := List.isPrefixOf_iff_prefix.1 here
      rw [← same]
      simp [Text.splitOn]
    · have below := ih further
      rw [Text.splitOn]
      split
      · exact List.mem_of_mem_tail below
      · split
        · rename_i none
          exact absurd none (Text.splitOn_ne_nil _ _)
        · rename_i cut
          rw [cut] at below
          exact below

/-- Components with slashes between them are cut apart again. -/
theorem splitOn_join (h : pieces ≠ []) (slashes : ∀ piece ∈ pieces, '/' ∉ piece) :
    Text.splitOn '/' (join pieces) = pieces := by
  rw [Text.splitOn_eq_splitOn]
  exact List.splitOn_intercalate '/' slashes h

/-! ## Components -/

/-- A component is added only if it is neither empty nor a dot. -/
theorem of_mem_push {x : List Char} (h : x ∈ push absolute pieces component) :
    x ∈ pieces ∨ x = component ∧ component ≠ [] ∧ component ≠ ['.'] := by
  unfold push at h
  split at h
  · exact .inl h
  · rename_i proper
    rw [not_or] at proper
    have added : x ∈ component :: pieces → x ∈ pieces ∨ x = component ∧ _ := fun h =>
      (List.mem_cons.1 h).symm.imp_right fun same => ⟨same, proper⟩
    split at h
    · split at h
      · split at h
        · exact .inl h
        · exact added h
      · split at h
        · exact .inl (List.mem_cons_of_mem _ h)
        · split at h
          · exact .inl h
          · exact added h
    · exact added h

/-- The components of a normalized path are pieces of the path. -/
theorem of_mem_components {path x : List Char} (h : x ∈ components path) :
    x ∈ Text.splitOn '/' path ∧ x ≠ [] ∧ x ≠ ['.'] := by
  rw [components, List.mem_reverse] at h
  refine List.foldlRecOn (Text.splitOn '/' path) (push (isAbsolute path))
    (motive := fun kept => ∀ x ∈ kept, x ∈ Text.splitOn '/' path ∧ x ≠ [] ∧ x ≠ ['.'])
    (by simp) ?_ x h
  intro kept before piece hpiece x hx
  rcases of_mem_push hx with hx | ⟨rfl, proper⟩
  · exact before x hx
  · exact ⟨hpiece, proper⟩

/-! ## URLs -/

/-- **A normalized path is no URL.** -/
theorem isUrl_normalizeChars (path : List Char) : isUrl (normalizeChars path) = false := by
  rw [← Bool.not_eq_true]
  intro url
  have empty := nil_mem_tail_of_isUrl url
  have filled : [] ∉ components path := fun h => (of_mem_components h).2.1 rfl
  have cut : components path ≠ [] →
      Text.splitOn '/' (join (components path)) = components path := fun some =>
    splitOn_join some fun piece h => Text.notMem_of_mem_splitOn (of_mem_components h).1
  rw [normalizeChars] at url empty
  by_cases none : components path = []
  · -- nothing is left but the beginning
    rw [none] at url
    split at url <;> revert url <;> decide
  · split at empty
    · rw [Text.splitOn, if_pos rfl, cut none] at empty
      exact filled empty
    · rw [cut none] at empty
      exact filled (List.mem_of_mem_tail empty)

theorem isUrl_normalize (path : String) : isUrl (normalize path).toList = false := by
  rw [normalize, String.toList_ofList]
  exact isUrl_normalizeChars _

/-- A URL is known by another name when it has been normalized. -/
theorem normalize_ne_of_isUrl {path : String} (h : isUrl path.toList = true) :
    normalize path ≠ path := by
  intro same
  have none := isUrl_normalize path
  rw [same, h] at none
  cases none

end Path
end ApiGraph
