/-
# The least number of edits

An edit inserts, deletes or replaces one character of a text, wherever it stands (`Edit`).  The
table of edit distances counts edits in another way: the two texts are written one below the other
with gaps, and a column costs one edit unless it holds one character twice (`Aligned`).  An
alignment is turned into edits column by column, and an edit changes an alignment by one column at
most, so both have the same least cost.

A row of the table holds the least costs of aligning one beginning of the first text with each
beginning of the second.  The machine adds characters at the ends, so alignments are taken of
reversed texts, which changes no cost (`isLeast_editDistance`).
-/

import ApiGraph.Text.Similarity
import Mathlib.Order.Bounds.Basic

namespace ApiGraph
namespace Text

/-- One character is inserted, deleted or replaced. -/
inductive Edit : List Char → List Char → Prop
  | insert (before after : List Char) (c : Char) : Edit (before ++ after) (before ++ c :: after)
  | delete (before after : List Char) (c : Char) : Edit (before ++ c :: after) (before ++ after)
  | replace (before after : List Char) (c d : Char) :
      Edit (before ++ c :: after) (before ++ d :: after)

/-- So many edits turn one text into another. -/
inductive Edits : Nat → List Char → List Char → Prop
  | none (as : List Char) : Edits 0 as as
  | more {n : Nat} {as bs cs : List Char} : Edit as bs → Edits n bs cs → Edits (n + 1) as cs

/-- Two texts stand one below the other, and so many columns cost an edit. -/
inductive Aligned : Nat → List Char → List Char → Prop
  | nil : Aligned 0 [] []
  | keep (c : Char) {n : Nat} {as bs : List Char} : Aligned n as bs → Aligned n (c :: as) (c :: bs)
  | delete (a : Char) {n : Nat} {as bs : List Char} : Aligned n as bs → Aligned (n + 1) (a :: as) bs
  | insert (b : Char) {n : Nat} {as bs : List Char} : Aligned n as bs → Aligned (n + 1) as (b :: bs)
  | replace (a b : Char) {n : Nat} {as bs : List Char} :
      Aligned n as bs → Aligned (n + 1) (a :: as) (b :: bs)

variable {n : Nat} {as bs cs : List Char}

/-! ## Edits and alignments -/

/-- An edit may be made behind a common first character. -/
theorem Edit.cons (c : Char) (h : Edit as bs) : Edit (c :: as) (c :: bs) := by
  cases h with
  | insert before after d => exact .insert (c :: before) after d
  | delete before after d => exact .delete (c :: before) after d
  | replace before after d e => exact .replace (c :: before) after d e

/-- So may many. -/
theorem Edits.cons (c : Char) (h : Edits n as bs) : Edits n (c :: as) (c :: bs) := by
  induction h with
  | none as => exact .none _
  | more first _ ih => exact .more (first.cons c) ih

/-- An edit of reversed texts is one. -/
theorem Edit.reverse (h : Edit as bs) : Edit as.reverse bs.reverse := by
  cases h with
  | insert before after c => simpa using Edit.insert after.reverse before.reverse c
  | delete before after c => simpa using Edit.delete after.reverse before.reverse c
  | replace before after c d => simpa using Edit.replace after.reverse before.reverse c d

/-- So are many. -/
theorem Edits.reverse (h : Edits n as bs) : Edits n as.reverse bs.reverse := by
  induction h with
  | none as => exact .none _
  | more first _ ih => exact .more first.reverse ih

/-- An alignment is turned into edits column by column. -/
theorem Aligned.edits (h : Aligned n as bs) : Edits n as bs := by
  induction h with
  | nil => exact .none []
  | keep c _ ih => exact ih.cons c
  | delete a _ ih => exact .more (.delete [] _ a) ih
  | insert b _ ih => exact .more (.insert [] _ b) (ih.cons b)
  | replace a b _ ih => exact .more (.replace [] _ a b) (ih.cons b)

/-- A text is aligned with itself at no cost. -/
theorem Aligned.refl (as : List Char) : Aligned 0 as as := by
  induction as with
  | nil => exact .nil
  | cons c as ih => exact .keep c ih

/-- What is aligned with the second text can be aligned with the first one at the cost of one more
column. -/
def Near (as bs : List Char) : Prop :=
  ∀ n cs, Aligned n bs cs → ∃ m ≤ n + 1, Aligned m as cs

/-- Texts are near if one has a first character more. -/
theorem near_insert (c : Char) (as : List Char) : Near as (c :: as) := by
  intro n cs h
  generalize whole : c :: as = bs at h
  induction h with
  | nil => cases whole
  | keep _ h =>
    cases whole
    exact ⟨_, Nat.le_refl _, .insert c h⟩
  | delete a h =>
    cases whole
    exact ⟨_, by omega, h⟩
  | insert b _ ih =>
    obtain ⟨m, hm, h⟩ := ih whole
    exact ⟨m + 1, by omega, .insert b h⟩
  | replace a b h =>
    cases whole
    exact ⟨_, by omega, .insert b h⟩

/-- The same the other way. -/
theorem near_delete (c : Char) (as : List Char) : Near (c :: as) as :=
  fun n _ h => ⟨n + 1, Nat.le_refl _, .delete c h⟩

/-- Texts are near if their first characters differ. -/
theorem near_replace (c d : Char) (as : List Char) : Near (c :: as) (d :: as) := by
  intro n cs h
  generalize whole : d :: as = bs at h
  induction h with
  | nil => cases whole
  | keep _ h =>
    cases whole
    exact ⟨_, Nat.le_refl _, .replace c d h⟩
  | delete a h =>
    cases whole
    exact ⟨_, by omega, .delete c h⟩
  | insert b _ ih =>
    obtain ⟨m, hm, h⟩ := ih whole
    exact ⟨m + 1, by omega, .insert b h⟩
  | replace a b h =>
    cases whole
    exact ⟨_, by omega, .replace c b h⟩

/-- Texts that are near stay so behind a common first character. -/
theorem Near.cons (c : Char) (near : Near as bs) : Near (c :: as) (c :: bs) := by
  intro n cs h
  generalize whole : c :: bs = ds at h
  induction h with
  | nil => cases whole
  | keep d h =>
    cases whole
    obtain ⟨m, hm, h⟩ := near _ _ h
    exact ⟨m, hm, .keep c h⟩
  | delete a h =>
    cases whole
    obtain ⟨m, hm, h⟩ := near _ _ h
    exact ⟨m + 1, by omega, .delete c h⟩
  | insert b _ ih =>
    obtain ⟨m, hm, h⟩ := ih whole
    exact ⟨m + 1, by omega, .insert b h⟩
  | replace a b h =>
    cases whole
    obtain ⟨m, hm, h⟩ := near _ _ h
    exact ⟨m + 1, by omega, .replace c b h⟩

/-- So they do behind a common beginning. -/
theorem Near.append (before : List Char) (near : Near as bs) :
    Near (before ++ as) (before ++ bs) := by
  induction before with
  | nil => exact near
  | cons c before ih => exact ih.cons c

/-- **An edit changes the cost of an alignment by one at most.** -/
theorem Edit.near (h : Edit as bs) : Near as bs := by
  cases h with
  | insert before after c => exact (near_insert c after).append before
  | delete before after c => exact (near_delete c after).append before
  | replace before after c d => exact (near_replace c d after).append before

/-- Edits give an alignment that costs no more than there are edits. -/
theorem Edits.exists_aligned (h : Edits n as bs) : ∃ m ≤ n, Aligned m as bs := by
  induction h with
  | none as => exact ⟨0, Nat.le_refl 0, .refl as⟩
  | more first _ ih =>
    obtain ⟨m, hm, aligned⟩ := ih
    obtain ⟨k, hk, aligned⟩ := first.near _ _ aligned
    exact ⟨k, by omega, aligned⟩

/-! ## The table -/

/-- The least cost of aligning two texts. -/
def Cost (as bs : List Char) (n : Nat) : Prop :=
  IsLeast {m | Aligned m as bs} n

/-- Nothing is aligned with nothing at no cost. -/
theorem cost_nil : Cost [] [] 0 :=
  ⟨.nil, fun _ _ => Nat.zero_le _⟩

/-- Aligned with nothing, each character costs one. -/
theorem Cost.delete (h : Cost as [] n) (a : Char) : Cost (a :: as) [] (n + 1) := by
  refine ⟨.delete a h.1, fun m hm => ?_⟩
  cases (hm : Aligned m (a :: as) []) with
  | delete _ hm => exact Nat.succ_le_succ (h.2 hm)

/-- The same the other way. -/
theorem Cost.insert (h : Cost [] bs n) (b : Char) : Cost [] (b :: bs) (n + 1) := by
  refine ⟨.insert b h.1, fun m hm => ?_⟩
  cases (hm : Aligned m [] (b :: bs)) with
  | insert _ hm => exact Nat.succ_le_succ (h.2 hm)

/-- An entry of the table, from the three entries beside it. -/
theorem Cost.cons {a b : Char} {left up diagonal : Nat} (hl : Cost (a :: as) bs left)
    (hu : Cost as (b :: bs) up) (hd : Cost as bs diagonal) :
    Cost (a :: as) (b :: bs)
      (min (min (left + 1) (up + 1)) (if a = b then diagonal else diagonal + 1)) := by
  constructor
  · have reached : Aligned (if a = b then diagonal else diagonal + 1) (a :: as) (b :: bs) := by
      split
      case isTrue same => exact same ▸ .keep a hd.1
      case isFalse => exact .replace a b hd.1
    show Aligned _ _ _
    generalize (if a = b then diagonal else diagonal + 1) = kept at reached ⊢
    have choice : min (min (left + 1) (up + 1)) kept = left + 1 ∨
        min (min (left + 1) (up + 1)) kept = up + 1 ∨
        min (min (left + 1) (up + 1)) kept = kept := by omega
    rcases choice with h | h | h
    · rw [h]
      exact .insert b hl.1
    · rw [h]
      exact .delete a hu.1
    · rw [h]
      exact reached
  · intro m hm
    have bound : left + 1 ≤ m ∨ up + 1 ≤ m ∨ (if a = b then diagonal else diagonal + 1) ≤ m := by
      cases (hm : Aligned m (a :: as) (b :: bs)) with
      | keep _ hm =>
        rw [if_pos rfl]
        exact .inr (.inr (hd.2 hm))
      | delete _ hm => exact .inr (.inl (Nat.succ_le_succ (hu.2 hm)))
      | insert _ hm => exact .inl (Nat.succ_le_succ (hl.2 hm))
      | replace _ _ hm =>
        have := hd.2 hm
        refine .inr (.inr ?_)
        split <;> omega
    omega

/-- The entries of a row behind the first one: the costs of aligning `as` with `before`, to which
the characters are added one by one. -/
def Row (as before : List Char) : List Char → List Nat → Prop
  | [], [] => True
  | b :: bs, n :: row => Cost as (b :: before) n ∧ Row as (b :: before) bs row
  | _, _ => False

/-- One pass over a row computes the next one: each entry is the least cost of coming from the
left, from above, or from the diagonal, which is free where the characters agree. -/
theorem row_editRowFrom {a : Char} {before : List Char} {left diagonal : Nat} {above : List Nat}
    (hl : Cost (a :: as) before left) (hd : Cost as before diagonal) (h : Row as before bs above) :
    Row (a :: as) before bs (editRowFrom a left diagonal bs above) := by
  induction bs generalizing before left diagonal above with
  | nil =>
    cases above with
    | nil => trivial
    | cons _ _ => exact h.elim
  | cons b bs ih =>
    cases above with
    | nil => exact h.elim
    | cons up above =>
      obtain ⟨hu, h⟩ := h
      have entry := hl.cons hu hd
      exact ⟨entry, ih entry hu h⟩

/-- A whole row. -/
def WholeRow (as bs : List Char) (row : List Nat) : Prop :=
  ∃ corner above, row = corner :: above ∧ Cost as [] corner ∧ Row as [] bs above

/-- The same of a whole row. -/
theorem WholeRow.next {row : List Nat} (h : WholeRow as bs row) (a : Char) :
    WholeRow (a :: as) bs (editRow bs row a) := by
  obtain ⟨corner, above, rfl, hc, ha⟩ := h
  exact ⟨corner + 1, _, rfl, hc.delete a, row_editRowFrom (hc.delete a) hc ha⟩

/-- Each character of the first text leads to the next row. -/
theorem wholeRow_foldl {row : List Nat} (h : WholeRow cs bs row) :
    WholeRow (as.reverse ++ cs) bs (as.foldl (editRow bs) row) := by
  induction as generalizing cs row with
  | nil => exact h
  | cons a as ih =>
    have later := ih (h.next a)
    rwa [List.reverse_cons, List.append_assoc]

/-- The first row counts the characters of the second text. -/
theorem row_range' {before : List Char} {n : Nat} (h : Cost [] before n) :
    Row [] before bs (List.range' (n + 1) bs.length) := by
  induction bs generalizing before n with
  | nil => trivial
  | cons b bs ih => exact ⟨h.insert b, ih (h.insert b)⟩

/-- The first row counts what is inserted. -/
theorem wholeRow_range (bs : List Char) : WholeRow [] bs (List.range (bs.length + 1)) :=
  ⟨0, List.range' 1 bs.length, by rw [List.range_eq_range', List.range'_succ], cost_nil,
    row_range' cost_nil⟩

/-- The last entry of a row is the cost of the whole texts. -/
theorem Row.getLastD {before : List Char} {row : List Nat} {first : Nat}
    (h : Row as before bs row) (hf : Cost as before first) :
    Cost as (bs.reverse ++ before) (row.getLastD first) := by
  induction bs generalizing before row first with
  | nil =>
    cases row with
    | nil => exact hf
    | cons _ _ => exact h.elim
  | cons b bs ih =>
    cases row with
    | nil => exact h.elim
    | cons n row =>
      have later := ih h.2 h.1
      rw [List.getLastD_cons, List.reverse_cons, List.append_assoc]
      exact later

/-- **The edit distance is the least number of edits** that turn one text into the other. -/
theorem isLeast_editDistance (as bs : List Char) :
    IsLeast {n | Edits n as bs} (editDistance as bs) := by
  have reversed : Cost as.reverse bs.reverse (editDistance as bs) := by
    have whole : WholeRow (as.reverse ++ []) bs _ := wholeRow_foldl (wholeRow_range bs)
    obtain ⟨corner, above, row, hc, ha⟩ := whole
    rw [editDistance, row, List.getLastD_cons]
    simpa using ha.getLastD hc
  constructor
  · simpa using reversed.1.edits.reverse
  · intro n hn
    obtain ⟨m, hm, aligned⟩ := (Edits.reverse hn).exists_aligned
    exact Nat.le_trans (reversed.2 aligned) hm

end Text
end ApiGraph
