/-
# Lists that correspond

A computation on every item of a list gives the list of the results, item by item.  Both are
related by `List.Forall₂`, and what is a member of one list has a partner in the other.

A computation may fail; what a step of it gives is what the rest is about (`bind_eq_ok_iff`).
-/

import Mathlib.Data.List.Forall2

namespace ApiGraph

/-- An item in the place of one with the same image. -/
theorem map_set_of_eq {α β : Type} {f : α → β} {l : List α} {i : Nat} {a b : α}
    (lookup : l[i]? = some a) (same : f b = f a) : (l.set i b).map f = l.map f := by
  obtain ⟨inside, rfl⟩ := List.getElem?_eq_some_iff.1 lookup
  rw [List.map_set, same, ← List.getElem_map f (h := by simpa using inside),
    List.set_getElem_self]

/-- What is found in a list with another item in one place. -/
theorem getElem?_set_eq_some {α : Type} {l : List α} {a b c : α} {i j : Nat}
    (lookup : l[i]? = some a) :
    (l.set i b)[j]? = some c ↔ (j = i ∧ c = b) ∨ (j ≠ i ∧ l[j]? = some c) := by
  have inside := (List.getElem?_eq_some_iff.1 lookup).1
  by_cases same : j = i
  · subst same; simp [inside, eq_comm]
  · simp [List.getElem?_set_ne (Ne.symm same), same]

/-- What is found in a list with one more item. -/
theorem getElem?_concat_eq_some {α : Type} {l : List α} {a b : α} {i : Nat} :
    (l ++ [a])[i]? = some b ↔ l[i]? = some b ∨ (i = l.length ∧ b = a) := by
  rw [List.getElem?_append]
  split
  case isTrue inside => exact ⟨Or.inl, fun h => h.resolve_right fun last => (by omega)⟩
  case isFalse outside =>
    rw [List.getElem?_eq_none (Nat.not_lt.1 outside), List.getElem?_singleton]
    simp only [reduceCtorEq, false_or, Option.ite_none_right_eq_some, Option.some.injEq]
    exact ⟨fun h => ⟨by omega, h.2.symm⟩, fun h => ⟨by omega, h.2.symm⟩⟩

/-- What is kept of a list with one more item. -/
theorem filterMap_concat {α β : Type} (f : α → Option β) (l : List α) (a : α) :
    (l ++ [a]).filterMap f = l.filterMap f ++ (f a).toList := by
  rw [List.filterMap_append]
  cases h : f a <;> simp [h]

/-- What is kept of a list, by the numbers of its items. -/
theorem filterMap_eq_filterMap_range {α β : Type} (f : α → Option β) (l : List α) :
    l.filterMap f = (List.range l.length).filterMap fun i => (l[i]?).bind f := by
  have lookups : (List.range l.length).map (fun i => l[i]?) = l.map some :=
    List.ext_getElem (by simp) fun i hi _ => by simp at hi; simp [hi]
  calc l.filterMap f = (l.map some).filterMap fun x => x.bind f := by
        rw [List.filterMap_map]; rfl
    _ = (List.range l.length).filterMap fun i => (l[i]?).bind f := by
        rw [← lookups, List.filterMap_map]; rfl

/-- The items that are kept correspond to what is kept of them. -/
theorem forall₂_filter_filterMap {α β : Type} (f : α → Option β) (l : List α) :
    List.Forall₂ (fun a b => f a = some b) (l.filter fun a => (f a).isSome) (l.filterMap f) := by
  induction l with
  | nil => exact .nil
  | cons a l ih =>
    cases h : f a with
    | none => simpa [h] using ih
    | some b => simpa [h] using ih

section Except

variable {ε α β : Type} {x : Except ε α}

/-- Two computations come out well one after the other. -/
theorem bind_eq_ok_iff {f : α → Except ε β} {y : β} :
    x >>= f = .ok y ↔ ∃ a, x = .ok a ∧ f a = .ok y := by
  cases x with
  | error e => exact iff_of_false (by rintro ⟨⟩) (by rintro ⟨a, ⟨⟩, -⟩)
  | ok a =>
    constructor
    · exact fun h => ⟨a, rfl, h⟩
    · rintro ⟨_, ⟨⟩, h⟩
      exact h

/-- A changed value comes out well if the value does. -/
theorem map_eq_ok_iff {f : α → β} {y : β} : f <$> x = .ok y ↔ ∃ a, x = .ok a ∧ f a = y := by
  cases x with
  | error e => exact iff_of_false (by rintro ⟨⟩) (by rintro ⟨a, ⟨⟩, -⟩)
  | ok a =>
    constructor
    · rintro ⟨⟩
      exact ⟨a, rfl, rfl⟩
    · rintro ⟨_, ⟨⟩, rfl⟩
      rfl

/-- An outcome that is good has its value. -/
theorem toOption_eq_some_iff {ε α : Type} {x : Except ε α} {v : α} :
    x.toOption = some v ↔ x = .ok v := by
  cases x with
  | error e => exact iff_of_false (fun h => by cases h) fun h => by cases h
  | ok w => exact Option.some_inj.trans ⟨fun h => h ▸ rfl, fun h => Except.ok.inj h⟩

end Except

variable {α β ε : Type} {R : α → β → Prop} {xs : List α} {ys : List β}

/-- What is on the right has a partner on the left. -/
theorem exists_left_of_forall₂ (h : List.Forall₂ R xs ys) {y : β} (hy : y ∈ ys) :
    ∃ x ∈ xs, R x y := by
  induction h with
  | nil => cases hy
  | cons hr _ ih =>
    rcases List.mem_cons.1 hy with rfl | hy
    · exact ⟨_, List.mem_cons_self .., hr⟩
    · obtain ⟨x, hx, hr⟩ := ih hy
      exact ⟨x, List.mem_cons_of_mem _ hx, hr⟩

/-- What is on the left has a partner on the right. -/
theorem exists_right_of_forall₂ (h : List.Forall₂ R xs ys) {x : α} (hx : x ∈ xs) :
    ∃ y ∈ ys, R x y :=
  exists_left_of_forall₂ h.flip hx

/-- What is at a place on the right has its partner at the same place on the left. -/
theorem exists_getElem?_of_forall₂ (h : List.Forall₂ R xs ys) {i : Nat} {y : β}
    (hy : ys[i]? = some y) : ∃ x, xs[i]? = some x ∧ R x y := by
  obtain ⟨hi, rfl⟩ := List.getElem?_eq_some_iff.1 hy
  have hi' : i < xs.length := by
    rw [h.length_eq]
    exact hi
  exact ⟨xs[i], List.getElem?_eq_getElem hi', h.get hi' hi⟩

/-- Lists correspond where everything on the right has a partner. -/
theorem exists_forall₂ (h : ∀ y ∈ ys, ∃ x, R x y) : ∃ xs, List.Forall₂ R xs ys := by
  induction ys with
  | nil => exact ⟨[], .nil⟩
  | cons y rest ih =>
    obtain ⟨x, hx⟩ := h y (List.mem_cons_self ..)
    obtain ⟨xs, hxs⟩ := ih fun y hy => h y (List.mem_cons_of_mem _ hy)
    exact ⟨x :: xs, .cons hx hxs⟩

/-- A correspondence in two steps goes over the list of what is between. -/
theorem exists_forall₂_between {γ : Type} {S : β → γ → Prop} {zs : List γ}
    (h : List.Forall₂ (fun x z => ∃ y, R x y ∧ S y z) xs zs) :
    ∃ ys, List.Forall₂ R xs ys ∧ List.Forall₂ S ys zs := by
  induction h with
  | nil => exact ⟨[], .nil, .nil⟩
  | cons hxz _ ih =>
    obtain ⟨y, hxy, hyz⟩ := hxz
    obtain ⟨ys, left, right⟩ := ih
    exact ⟨y :: ys, .cons hxy left, .cons hyz right⟩

/-- Two relations hold of corresponding items at once. -/
theorem forall₂_and {S : α → β → Prop} (h : List.Forall₂ R xs ys) (h' : List.Forall₂ S xs ys) :
    List.Forall₂ (fun x y => R x y ∧ S x y) xs ys := by
  induction h with
  | nil => exact .nil
  | cons hr _ ih =>
    cases h' with
    | cons hs rest => exact .cons ⟨hr, hs⟩ (ih rest)

/-- Partners are mapped to partners, place by place. -/
theorem forall₂_mapIdx {γ δ : Type} {S : γ → δ → Prop} {f : Nat → α → γ} {g : Nat → β → δ}
    (h : List.Forall₂ R xs ys) (each : ∀ i x y, R x y → S (f i x) (g i y)) :
    List.Forall₂ S (xs.mapIdx f) (ys.mapIdx g) := by
  induction h generalizing f g with
  | nil => exact .nil
  | cons hr _ ih =>
    rw [List.mapIdx_cons, List.mapIdx_cons]
    exact .cons (each 0 _ _ hr) (ih fun i => each (i + 1))

/-- What partners have in common, corresponding lists have in common. -/
theorem map_eq_of_forall₂ {γ : Type} {f : α → γ} {g : β → γ} (h : List.Forall₂ R xs ys)
    (same : ∀ x y, R x y → f x = g y) : xs.map f = ys.map g := by
  induction h with
  | nil => rfl
  | cons hr _ ih => rw [List.map_cons, List.map_cons, same _ _ hr, ih]

/-- Partners that are equal make lists that are equal. -/
theorem eq_of_forall₂ {R : α → α → Prop} {xs ys : List α} (h : List.Forall₂ R xs ys)
    (same : ∀ x ∈ xs, ∀ y, R x y → y = x) : ys = xs := by
  induction h with
  | nil => rfl
  | cons hr _ ih =>
    rw [same _ List.mem_cons_self _ hr, ih fun x hx => same x (List.mem_cons_of_mem _ hx)]

/-- What is on the left is somewhere between what corresponds to the rest. -/
theorem exists_append_of_forall₂ {x : α} {xs' : List α}
    (h : List.Forall₂ R (xs ++ x :: xs') ys) : ∃ zs y zs', ys = zs ++ y :: zs' ∧
      List.Forall₂ R xs zs ∧ R x y ∧ List.Forall₂ R xs' zs' := by
  induction xs generalizing ys with
  | nil =>
    obtain ⟨y, zs', hr, rest, rfl⟩ := List.forall₂_cons_left_iff.1 h
    exact ⟨[], y, zs', rfl, .nil, hr, rest⟩
  | cons first others ih =>
    obtain ⟨z, ys', hr, rest, rfl⟩ := List.forall₂_cons_left_iff.1 h
    obtain ⟨zs, y, zs', rfl, left, middle, right⟩ := ih rest
    exact ⟨z :: zs, y, zs', rfl, .cons hr left, middle, right⟩

/-- The keys of what is selected are a part of the keys, in the same order. -/
theorem keys_filterMap_sublist {κ : Type} {g : α → Option β} (key : α → κ) (key' : β → κ)
    (same : ∀ x y, g x = some y → key' y = key x) (xs : List α) :
    List.Sublist ((xs.filterMap g).map key') (xs.map key) := by
  induction xs with
  | nil => exact .slnil
  | cons x rest ih =>
    rw [List.map_cons]
    cases h : g x with
    | none =>
      rw [List.filterMap_cons_none h]
      exact ih.cons _
    | some y =>
      rw [List.filterMap_cons_some h, List.map_cons, same x y h]
      exact ih.cons_cons _

/-- A computation on every item gives the list `ys` exactly if it gives them one by one. -/
theorem mapM_eq_ok_iff {f : α → Except ε β} :
    xs.mapM f = .ok ys ↔ List.Forall₂ (fun x y => f x = .ok y) xs ys := by
  induction xs generalizing ys with
  | nil =>
    rw [List.mapM_nil, List.forall₂_nil_left_iff]
    exact ⟨fun h => (Except.ok.inj h).symm, fun h => h ▸ rfl⟩
  | cons x rest ih =>
    rw [List.mapM_cons]
    cases hx : f x with
    | error e =>
      refine iff_of_false (fun h => by cases h) fun h => ?_
      obtain ⟨y, _, hy, -, -⟩ := List.forall₂_cons_left_iff.1 h
      rw [hx] at hy
      cases hy
    | ok y =>
      cases hr : rest.mapM f with
      | error e =>
        refine iff_of_false (fun h => by cases h) fun h => ?_
        obtain ⟨_, zs, -, hz, -⟩ := List.forall₂_cons_left_iff.1 h
        rw [ih.2 hz] at hr
        cases hr
      | ok zs =>
        constructor
        · rintro ⟨⟩
          exact .cons hx (ih.1 hr)
        · intro h
          obtain ⟨y', zs', hy, hz, rfl⟩ := List.forall₂_cons_left_iff.1 h
          obtain rfl := Except.ok.inj (hx.symm.trans hy)
          obtain rfl := Except.ok.inj (hr.symm.trans (ih.2 hz))
          rfl

/-- A computation that succeeds on every item succeeds on the list. -/
theorem exists_mapM_eq_ok {f : α → Except ε β} (h : ∀ x ∈ xs, ∃ y, f x = .ok y) :
    ∃ ys, xs.mapM f = .ok ys := by
  simp only [mapM_eq_ok_iff]
  induction xs with
  | nil => exact ⟨[], .nil⟩
  | cons x rest ih =>
    obtain ⟨y, hy⟩ := h x (List.mem_cons_self ..)
    obtain ⟨ys, hys⟩ := ih fun x hx => h x (List.mem_cons_of_mem _ hx)
    exact ⟨y :: ys, .cons hy hys⟩

end ApiGraph
