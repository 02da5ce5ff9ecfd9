/-
# Lists in the order of first occurrence

What is collected along a run is noted where it comes up first and nowhere else: `noted known xs`
is what is known with the new items of `xs` behind it, each once.  Noting items one after the
other notes them all (`noted_append`), and from nothing it leaves the first occurrences
(`nil_noted`).

A search that goes through its findings in the order in which it came to know them, and notes
what each of them mentions, is a breadth-first one.  `BreadthFirst` says so of the list alone:
it is what its own items mention, in the order of first mention, and every item is mentioned by
an earlier one.  There is at most one such list (`BreadthFirst.unique`), and it has what can be
reached from the root and nothing else (`BreadthFirst.mem_iff`).
-/

import Mathlib.Data.List.Nodup
import Mathlib.Logic.Relation

namespace ApiGraph

variable {α : Type} [BEq α] [LawfulBEq α]

/-! ## First occurrences -/

/-- What is left has no duplicates. -/
theorem nodup_eraseDups (xs : List α) : xs.eraseDups.Nodup := by
  cases xs with
  | nil => exact List.nodup_nil
  | cons x rest =>
    rw [List.eraseDups_cons, List.nodup_cons]
    constructor
    · simp [List.mem_eraseDups]
    · exact nodup_eraseDups _
termination_by xs.length
decreasing_by
  have shorter := List.length_filter_le (fun b => !b == x) rest
  simp only [List.length_cons]
  omega

/-- A list without repetition is left as it is. -/
theorem eraseDups_eq_self {xs : List α} (h : xs.Nodup) : xs.eraseDups = xs := by
  induction xs with
  | nil => rfl
  | cons x rest ih =>
    rw [List.nodup_cons] at h
    have others : rest.filter (fun b => !b == x) = rest := by
      refine List.filter_eq_self.2 fun b hb => ?_
      have : b ≠ x := fun same => h.1 (same ▸ hb)
      simpa using this
    rw [List.eraseDups_cons, others, ih h.2]

/-- What is left was there, and was not removed. -/
theorem mem_removeAll {x : α} {xs ys : List α} : x ∈ xs.removeAll ys ↔ x ∈ xs ∧ x ∉ ys := by
  simp [List.removeAll]

/-! ## Noting -/

/-- What is known, and behind it what else there is in a list, each item once. -/
def noted (known xs : List α) : List α :=
  known ++ (xs.removeAll known).eraseDups

section Noting

variable {known xs ys : List α} {x : α}

/-- Nothing more is noted. -/
@[simp] theorem noted_nil (known : List α) : noted known [] = known := by
  simp [noted, List.removeAll]

/-- From the start, everything is noted at its first occurrence. -/
theorem nil_noted (xs : List α) : noted [] xs = xs.eraseDups := by
  simp [noted, List.removeAll]

/-- What was known or comes is noted. -/
theorem mem_noted : x ∈ noted known xs ↔ x ∈ known ∨ x ∈ xs := by
  rw [noted, List.mem_append, List.mem_eraseDups, mem_removeAll]
  by_cases h : x ∈ known <;> simp [h]

/-- Lists that are noted one after the other. -/
theorem noted_append (known xs ys : List α) :
    noted known (xs ++ ys) = noted (noted known xs) ys := by
  have rest : ys.removeAll (known ++ (xs.removeAll known).eraseDups) =
      (ys.removeAll known).removeAll (xs.removeAll known) := by
    simp only [List.removeAll, List.filter_filter]
    refine List.filter_congr fun y _ => ?_
    rw [Bool.eq_iff_iff]
    simp only [Bool.and_eq_true, Bool.not_eq_true', List.contains_eq_mem, decide_eq_false_iff_not,
      List.mem_append, List.mem_eraseDups, List.mem_filter]
    tauto
  have split : (xs ++ ys).removeAll known = xs.removeAll known ++ ys.removeAll known :=
    List.filter_append xs ys
  rw [noted, noted, noted, rest, split, List.eraseDups_append, List.append_assoc]

/-- What is known is not noted again. -/
theorem noted_singleton_of_mem (h : x ∈ known) : noted known [x] = known := by
  simp [noted, List.removeAll, h]

/-- What is new is noted at the end. -/
theorem noted_singleton_of_notMem (h : x ∉ known) : noted known [x] = known ++ [x] := by
  have fresh : [x].removeAll known = [x] := by simp [List.removeAll, h]
  rw [noted, fresh, eraseDups_eq_self (List.nodup_singleton x)]

/-- What is known without repetition and what is noted with it are first occurrences. -/
theorem noted_eq_eraseDups (h : known.Nodup) (xs : List α) :
    noted known xs = (known ++ xs).eraseDups := by
  rw [List.eraseDups_append, eraseDups_eq_self h, noted]

end Noting

/-! ## Breadth-first order -/

/-- The list of what a search from `root` comes to know, in breadth-first order: the root, and
then what the items of the list mention, in their order and each where it is mentioned first.
Nothing is mentioned by itself or by later items only. -/
structure BreadthFirst (mentions : α → List α) (root : α) (found : List α) : Prop where
  order : found = (root :: found.flatMap mentions).eraseDups
  earlier : ∀ (i : Nat) (x : α), found[i]? = some x →
    x = root ∨ ∃ y ∈ found.take i, x ∈ mentions y

namespace BreadthFirst

variable {mentions : α → List α} {root : α} {found others : List α}

/-- Nothing is found twice. -/
theorem nodup (h : BreadthFirst mentions root found) : found.Nodup := by
  rw [h.order]
  exact nodup_eraseDups _

omit [LawfulBEq α] in
/-- The root is found first. -/
theorem head?_eq (h : BreadthFirst mentions root found) : found.head? = some root := by
  rw [h.order, List.eraseDups_cons]
  rfl

/-- What is mentioned by something found is found. -/
theorem mem_of_mentions (h : BreadthFirst mentions root found) {x y : α} (hy : y ∈ found)
    (hx : x ∈ mentions y) : x ∈ found := by
  rw [h.order, List.mem_eraseDups]
  exact List.mem_cons_of_mem _ (List.mem_flatMap.2 ⟨y, hy, hx⟩)

/-- **What is found is what can be reached** from the root. -/
theorem mem_iff (h : BreadthFirst mentions root found) {x : α} :
    x ∈ found ↔ Relation.ReflTransGen (fun y z => z ∈ mentions y) root x := by
  constructor
  · intro hx
    obtain ⟨i, hi⟩ := List.mem_iff_getElem?.1 hx
    -- what mentions an item stands before it
    induction i using Nat.strongRecOn generalizing x with
    | ind i ih =>
      rcases h.earlier i x hi with rfl | ⟨y, hy, mention⟩
      · exact .refl
      · obtain ⟨j, hj⟩ := List.mem_iff_getElem?.1 hy
        rw [List.getElem?_take] at hj
        split at hj
        · rename_i before
          exact .tail (ih j before (List.mem_of_mem_take hy) hj) mention
        · cases hj
  · intro reach
    induction reach with
    | refl => exact List.mem_of_mem_head? h.head?_eq
    | tail _ mention ih => exact h.mem_of_mentions ih mention

/-- What the first items mention is at the beginning, and the next item is one of it. -/
theorem prefix_take (h : BreadthFirst mentions root found) (n : Nat) :
    (root :: (found.take n).flatMap mentions).eraseDups <+: found := by
  have all : root :: found.flatMap mentions =
      (root :: (found.take n).flatMap mentions) ++ (found.drop n).flatMap mentions := by
    rw [List.cons_append, ← List.flatMap_append, List.take_append_drop]
  have order := h.order
  rw [all, List.eraseDups_append] at order
  exact ⟨_, order.symm⟩

/-- The item behind the first `n` is the next one that these mention. -/
theorem getElem?_eq (h : BreadthFirst mentions root found) (n : Nat) :
    found[n]? = (root :: (found.take n).flatMap mentions).eraseDups[n]? := by
  obtain ⟨rest, split⟩ := h.prefix_take n
  generalize known : (root :: (found.take n).flatMap mentions).eraseDups = first at split ⊢
  rcases Nat.lt_or_ge n first.length with lt | ge
  · rw [← split, List.getElem?_append_left lt]
  · rw [List.getElem?_eq_none ge, List.getElem?_eq_none_iff]
    by_contra more
    obtain ⟨x, hx⟩ : ∃ x, found[n]? = some x := ⟨_, List.getElem?_eq_getElem (Nat.lt_of_not_le more)⟩
    have member : x ∈ first := by
      rw [← known, List.mem_eraseDups, List.mem_cons, List.mem_flatMap]
      exact h.earlier n x hx
    -- but then it stands there twice
    obtain ⟨j, hj⟩ := List.mem_iff_getElem?.1 member
    have short : j < first.length := (List.getElem?_eq_some_iff.1 hj).1
    have again : found[j]? = some x := by rw [← split, List.getElem?_append_left short, hj]
    have lt : j < found.length := (List.getElem?_eq_some_iff.1 again).1
    have same : j = n := (List.getElem?_inj lt h.nodup).1 (again.trans hx.symm)
    omega

/-- **There is only one breadth-first order.** -/
theorem unique (h : BreadthFirst mentions root found) (h' : BreadthFirst mentions root others) :
    found = others := by
  have agree : ∀ n, found.take n = others.take n := by
    intro n
    induction n with
    | zero => rfl
    | succ n ih => rw [List.take_add_one, List.take_add_one, h.getElem?_eq, h'.getElem?_eq, ih]
  refine List.ext_getElem? fun n => ?_
  rw [h.getElem?_eq, h'.getElem?_eq, agree]

end BreadthFirst
end ApiGraph
