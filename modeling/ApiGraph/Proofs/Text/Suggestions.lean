/-
# The nearest name

Names that differ in case only are at distance zero, one that contains the other ignoring case is
at distance one, and otherwise the distance is the least number of edits (`Distance`).

Suggestions are sorted by their distances, and sorting is stable.  So the first suggestion is the
nearest of the candidates, and of several nearest ones the first (`nearest_of_head?`).  There is
none only where all candidates are farther away than the limit, which is never the case for one
that is no matter of edits (`suggestions_eq_nil_iff`).
-/

import ApiGraph.Proofs.Text.Edits

namespace ApiGraph
namespace Text

/-- The needle stands somewhere in the text. -/
theorem occursIn_iff {needle text : List Char} : occursIn needle text = true ↔ needle <:+: text := by
  induction text with
  | nil => rw [occursIn, List.isEmpty_iff, List.infix_nil]
  | cons c text ih =>
    rw [occursIn, Bool.or_eq_true, List.isPrefixOf_iff_prefix, ih, List.infix_cons_iff]

/-- One of two texts contains the other. -/
def Nested (as bs : List Char) : Prop :=
  as <:+: bs ∨ bs <:+: as

/-- How far a candidate is from a name. -/
inductive Distance (name candidate : String) : Nat → Prop
  | cased : lowercaseText candidate = lowercaseText name → Distance name candidate 0
  | nested : lowercaseText candidate ≠ lowercaseText name →
      Nested (lowercaseText name) (lowercaseText candidate) → Distance name candidate 1
  | edited {n : Nat} : lowercaseText candidate ≠ lowercaseText name →
      ¬ Nested (lowercaseText name) (lowercaseText candidate) →
      IsLeast {m | Edits m name.toList candidate.toList} n → Distance name candidate n

variable {name candidate : String} {candidates : List String} {limit n : Nat} {x : Suggestion}

theorem suggestionDistance?_eq_some_iff (positive : 1 ≤ limit) :
    suggestionDistance? name (lowercaseText name) limit candidate = some n ↔
      candidate ≠ name ∧ Distance name candidate n ∧ n ≤ limit := by
  have least := isLeast_editDistance name.toList candidate.toList
  have nested : (occursIn (lowercaseText name) (lowercaseText candidate) ||
      occursIn (lowercaseText candidate) (lowercaseText name)) = true ↔
        Nested (lowercaseText name) (lowercaseText candidate) := by
    rw [Bool.or_eq_true, occursIn_iff, occursIn_iff, Nested]
  simp only [suggestionDistance?]
  split_ifs with same cased inside near
  · exact iff_of_false nofun fun h => h.1 same
  · constructor
    · rintro ⟨⟩
      exact ⟨same, .cased cased, Nat.zero_le _⟩
    · rintro ⟨-, h, -⟩
      cases h with
      | cased => rfl
      | nested other | edited other => exact absurd cased other
  · constructor
    · rintro ⟨⟩
      exact ⟨same, .nested cased (nested.1 inside), positive⟩
    · rintro ⟨-, h, -⟩
      cases h with
      | cased h => exact absurd h cased
      | nested => rfl
      | edited _ outside => exact absurd (nested.1 inside) outside
  · constructor
    · rintro ⟨⟩
      exact ⟨same, .edited cased (nested.not.1 inside) least, near⟩
    · rintro ⟨-, h, -⟩
      cases h with
      | cased h => exact absurd h cased
      | nested _ h => exact absurd (nested.2 h) inside
      | edited _ _ h => rw [h.unique least]
  · refine iff_of_false nofun ?_
    rintro ⟨-, h, bound⟩
    cases h with
    | cased h => exact cased h
    | nested _ h => exact inside (nested.2 h)
    | edited _ _ h => exact near (h.unique least ▸ bound)

/-- The first item of a list that was sorted by a key is the first one of those with the least
key. -/
theorem find?_of_head?_mergeSort {α : Type} {key : α → Nat} {xs : List α} {x : α}
    (h : (xs.mergeSort fun a b => decide (key a ≤ key b)).head? = some x) :
    xs.find? (fun y => key y = key x) = some x ∧ ∀ y ∈ xs, key x ≤ key y := by
  have trans (a b c : α) (hab : decide (key a ≤ key b) = true) (hbc : decide (key b ≤ key c) = true) :
      decide (key a ≤ key c) = true := by
    simp only [decide_eq_true_eq] at *
    omega
  have total (a b : α) : (decide (key a ≤ key b) || decide (key b ≤ key a)) = true := by
    simp only [Bool.or_eq_true, decide_eq_true_eq]
    omega
  have sorted := List.pairwise_mergeSort trans total xs
  have perm := List.mergeSort_perm xs fun a b => decide (key a ≤ key b)
  generalize hys : (xs.mergeSort fun a b => decide (key a ≤ key b)) = ys at h sorted perm
  obtain ⟨ys, rfl⟩ := List.head?_eq_some_iff.1 h
  constructor
  · -- items with equal keys are sorted already, so they keep their order
    have equal : (xs.filter fun y => key y = key x).Pairwise
        fun a b => decide (key a ≤ key b) = true := by
      refine List.pairwise_iff_forall_sublist.2 fun {a b} pair => ?_
      have ha := (List.mem_filter.1 (pair.subset List.mem_cons_self)).2
      have hb := (List.mem_filter.1 (pair.subset (by simp : b ∈ [a, b]))).2
      simp only [decide_eq_true_eq] at *
      omega
    have kept := (List.sublist_mergeSort trans total equal List.filter_sublist).filter
      fun y => decide (key y = key x)
    rw [List.filter_filter, hys] at kept
    simp only [Bool.and_self] at kept
    have all := kept.eq_of_length (perm.symm.filter _).length_eq
    rw [← List.head?_filter, all, List.filter_cons_of_pos (by simp), List.head?_cons]
  · intro y hy
    rcases List.mem_cons.1 (perm.mem_iff.2 hy) with rfl | hy
    · exact Nat.le_refl _
    · simpa using (List.pairwise_cons.1 sorted).1 y hy

/-- **The first suggestion is the nearest candidate**, and the first one of those. -/
theorem nearest_of_head? (positive : 1 ≤ limit)
    (h : (suggestions name candidates limit).head? = some x) :
    x.candidate ≠ name ∧ Distance name x.candidate x.distance ∧ x.distance ≤ limit ∧
      ∃ before after, candidates = before ++ x.candidate :: after ∧
        (∀ c ∈ before, c ≠ name → ∀ m, Distance name c m → x.distance < m) ∧
        ∀ c ∈ after, c ≠ name → ∀ m, Distance name c m → x.distance ≤ m := by
  obtain ⟨first, least⟩ := find?_of_head?_mergeSort h
  rw [List.find?_filterMap, Option.bind_eq_some_iff] at first
  obtain ⟨c, found, measured⟩ := first
  obtain ⟨n, hn, rfl⟩ := Option.map_eq_some_iff.1 measured
  obtain ⟨other, distance, bound⟩ := (suggestionDistance?_eq_some_iff positive).1 hn
  obtain ⟨-, before, after, rfl, unequal⟩ := List.find?_eq_some_iff_append.1 found
  -- a candidate beyond the limit is farther away than any that is suggested
  have le (d : String) (hd : d ∈ before ++ c :: after) (hname : d ≠ name) (m : Nat)
      (hm : Distance name d m) : n ≤ m := by
    by_contra less
    have near := (suggestionDistance?_eq_some_iff positive).2 ⟨hname, hm, (by omega : m ≤ limit)⟩
    have := least ⟨d, m⟩ (List.mem_filterMap.2 ⟨d, hd, by rw [near]; rfl⟩)
    simp only at this
    omega
  refine ⟨other, distance, bound, before, after, rfl, fun d hd hname m hm => ?_,
    fun d hd hname m hm => le d (by simp [hd]) hname m hm⟩
  have atLeast := le d (by simp [hd]) hname m hm
  refine Nat.lt_of_le_of_ne atLeast fun same => ?_
  have near := (suggestionDistance?_eq_some_iff positive).2 ⟨hname, hm, same ▸ bound⟩
  have differs := unequal d hd
  rw [near] at differs
  simp only [Option.map_some, Option.any_some, Bool.not_eq_true', decide_eq_false_iff_not] at differs
  exact differs same.symm

/-- There is no suggestion if all candidates are too far away. -/
theorem suggestions_eq_nil_iff (positive : 1 ≤ limit) :
    suggestions name candidates limit = [] ↔
      ∀ c ∈ candidates, c ≠ name → ∀ m, Distance name c m → limit < m := by
  rw [suggestions, ← List.length_eq_zero_iff, List.length_mergeSort, List.length_eq_zero_iff,
    List.filterMap_eq_nil_iff]
  refine forall₂_congr fun c _ => ?_
  rw [Option.map_eq_none_iff, Option.eq_none_iff_forall_ne_some]
  constructor
  · intro none other m hm
    by_contra near
    exact none m ((suggestionDistance?_eq_some_iff positive).2 ⟨other, hm, by omega⟩)
  · intro far m hm
    obtain ⟨other, distance, near⟩ := (suggestionDistance?_eq_some_iff positive).1 hm
    have := far other m distance
    omega

end Text
end ApiGraph
