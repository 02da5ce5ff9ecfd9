/-
# Chains of references

Where every reference leads to at most one artifact, a chain of references has no
choice: it ends at an artifact that leads nowhere, or comes back to itself.
`Walk next a xs b` says that one gets from `a` to `b` by way of `xs`.

The two facts that bound every loop along a chain are that a walk to the first
visit of its end is determined by its beginning (`Walk.unique`), and that it
therefore visits nothing twice (`Walk.nodup`).
-/

import ApiGraph.Catalog
import Mathlib.Data.List.Nodup
import Mathlib.Logic.Relation

namespace ApiGraph

open Relation (ReflTransGen TransGen)

/-- One step of a partial function, as a relation. -/
def Step (next : ArtifactId → Option ArtifactId) (a b : ArtifactId) : Prop :=
  next a = some b

/-- The way from `a` to `b`: one step, or a step to the first artifact of `xs`, and from
there by way of the others. -/
inductive Walk (next : ArtifactId → Option ArtifactId) :
    ArtifactId → List ArtifactId → ArtifactId → Prop
  | last {a b : ArtifactId} : next a = some b → Walk next a [] b
  | more {a x b : ArtifactId} {xs : List ArtifactId} :
      next a = some x → Walk next x xs b → Walk next a (x :: xs) b

variable {next : ArtifactId → Option ArtifactId} {a b c t : ArtifactId} {xs ys : List ArtifactId}

/-- A step leads to one artifact. -/
theorem step_rightUnique : Relator.RightUnique (Step next) :=
  fun _ _ _ h h' => Option.some.inj (h.symm.trans h')

namespace Walk

/-- A walk goes to its first artifact, and on from there. -/
theorem cons_iff {x : ArtifactId} :
    Walk next a (x :: xs) b ↔ next a = some x ∧ Walk next x xs b := by
  constructor
  · rintro (_ | ⟨h, w⟩)
    exact ⟨h, w⟩
  · rintro ⟨h, w⟩
    exact .more h w

/-- A walk without artifacts on the way is one step. -/
theorem nil_iff : Walk next a [] b ↔ next a = some b :=
  ⟨fun (.last h) => h, .last⟩

/-- The rest of a walk from a place on its way. -/
theorem suffix {x : ArtifactId} :
    ∀ {xs : List ArtifactId} {a : ArtifactId}, Walk next a (xs ++ x :: ys) b → Walk next x ys b
  | [], _, w => (cons_iff.1 w).2
  | _ :: _, _, w => suffix (cons_iff.1 w).2

/-- The beginning of a walk up to a place on its way. -/
theorem initial {x : ArtifactId} :
    ∀ {xs : List ArtifactId} {a : ArtifactId}, Walk next a (xs ++ x :: ys) b → Walk next a xs x
  | [], _, w => .last (cons_iff.1 w).1
  | _ :: _, _, w => .more (cons_iff.1 w).1 (initial (cons_iff.1 w).2)

/-- One walk after another. -/
theorem trans (w : Walk next a xs b) (w' : Walk next b ys c) : Walk next a (xs ++ b :: ys) c := by
  induction w with
  | last h => exact .more h w'
  | more h _ ih => exact .more h (ih w')

/-- **A walk has no choice.**  Up to the first visit of its end it is determined by where it
begins. -/
theorem unique (w : Walk next a xs t) (hx : t ∉ xs) (w' : Walk next a ys t) (hy : t ∉ ys) :
    xs = ys := by
  induction w generalizing ys with
  | last h =>
    cases w' with
    | last _ => rfl
    | more h' _ => exact absurd (Option.some.inj (h.symm.trans h') ▸ List.mem_cons_self ..) hy
  | @more a x t xs h w ih =>
    cases w' with
    | last h' => exact absurd (Option.some.inj (h'.symm.trans h) ▸ List.mem_cons_self ..) hx
    | more h' w'' =>
      obtain rfl := Option.some.inj (h.symm.trans h')
      rw [ih (fun m => hx (List.mem_cons_of_mem _ m)) w'' fun m => hy (List.mem_cons_of_mem _ m)]

/-- A walk to the first visit of its end does not come back to where it begins. -/
theorem start_notMem (w : Walk next a xs t) (h : t ∉ xs) : a ∉ xs := by
  intro m
  obtain ⟨l, r, rfl⟩ := List.append_of_mem m
  have again : Walk next a r t := w.suffix
  have same := w.unique h again fun m => h (List.mem_append_right _ (List.mem_cons_of_mem _ m))
  have := congrArg List.length same
  simp only [List.length_append, List.length_cons] at this
  omega

/-- **A walk to the first visit of its end visits nothing twice.** -/
theorem nodup (w : Walk next a xs t) (h : t ∉ xs) : xs.Nodup := by
  induction w with
  | last _ => exact List.nodup_nil
  | more _ w ih =>
    have ht := fun m => h (List.mem_cons_of_mem _ m)
    exact List.nodup_cons.2 ⟨w.start_notMem ht, ih ht⟩

/-- A walk may be cut short at the first visit of its end. -/
theorem exists_first (w : Walk next a xs t) : ∃ ys, Walk next a ys t ∧ t ∉ ys := by
  induction w with
  | last h => exact ⟨[], .last h, List.not_mem_nil⟩
  | @more a x t xs h w ih =>
    obtain ⟨ys, w', ht⟩ := ih
    by_cases hx : x = t
    · exact ⟨[], .last (hx ▸ h), List.not_mem_nil⟩
    · exact ⟨x :: ys, .more h w', by
        rw [List.mem_cons, not_or]; exact ⟨fun e => hx e.symm, ht⟩⟩

/-- Everything on the way of a walk leads somewhere. -/
theorem isSome_next (w : Walk next a xs b) : ∀ x ∈ a :: xs, (next x).isSome := by
  induction w with
  | last h => simp [h]
  | more h _ ih =>
    intro y hy
    rcases List.mem_cons.1 hy with rfl | hy
    · rw [h]; rfl
    · exact ih y hy

/-- A walk is a list in which everything leads to what comes next. -/
theorem iff_isChain : ∀ {xs : List ArtifactId} {a : ArtifactId},
    Walk next a xs b ↔ List.IsChain (Step next) (a :: (xs ++ [b]))
  | [], a => by simp [nil_iff, Step]
  | x :: xs, a => by
    rw [cons_iff, iff_isChain, List.cons_append, List.isChain_cons_cons]
    rfl

/-- A walk is a chain of steps. -/
theorem transGen (w : Walk next a xs b) : TransGen (Step next) a b := by
  induction w with
  | last h => exact .single h
  | more h _ ih => exact .head h ih

/-- What comes next on a walk is on it. -/
theorem mem_of_step {x y : ArtifactId} (w : Walk next a xs b) (hx : x ∈ a :: xs)
    (step : next x = some y) : y ∈ xs ++ [b] := by
  induction w with
  | last h =>
    obtain rfl := List.mem_singleton.1 hx
    exact List.mem_singleton.2 (Option.some.inj (step.symm.trans h))
  | more h _ ih =>
    rcases List.mem_cons.1 hx with rfl | hx
    · obtain rfl := Option.some.inj (step.symm.trans h)
      exact List.mem_cons_self
    · exact List.mem_cons_of_mem _ (ih hx)

/-- Going round leads to nothing but what is on the way. -/
theorem mem_of_reaches (w : Walk next a xs a) (h : ReflTransGen (Step next) a b) :
    b ∈ a :: xs := by
  induction h with
  | refl => exact List.mem_cons_self
  | tail _ step ih => simpa [or_comm] using w.mem_of_step ih step

/-- Going round leads to everything on the way. -/
theorem reaches_of_mem (w : Walk next a xs b) {x : ArtifactId} (hx : x ∈ a :: xs) :
    ReflTransGen (Step next) a x := by
  rcases List.mem_cons.1 hx with rfl | hx
  · exact .refl
  · obtain ⟨l, r, rfl⟩ := List.append_of_mem hx
    exact w.initial.transGen.to_reflTransGen

end Walk

/-- A chain of steps is a walk. -/
theorem exists_walk (h : TransGen (Step next) a b) : ∃ xs, Walk next a xs b := by
  induction h with
  | single h => exact ⟨[], .last h⟩
  | tail _ h ih =>
    obtain ⟨xs, w⟩ := ih
    exact ⟨_, w.trans (.last h)⟩

/-! ## Ends and cycles -/

/-- Where a chain ends it ends for everything on it. -/
theorem reaches_end (end_ : next t = none) (ht : ReflTransGen (Step next) a t)
    (hb : ReflTransGen (Step next) a b) : ReflTransGen (Step next) b t := by
  rcases ht.total_of_right_unique step_rightUnique hb with h | h
  · rcases h.cases_head with rfl | ⟨x, hx, -⟩
    · exact .refl
    · exact absurd (end_.symm.trans hx) (by simp)
  · exact h

/-- Two ends of one chain are the same. -/
theorem end_unique (ht : ReflTransGen (Step next) a t) (end_ : next t = none)
    (hc : ReflTransGen (Step next) a c) (end' : next c = none) : t = c := by
  rcases (reaches_end end_ ht hc).cases_head with h | ⟨x, hx, -⟩
  · exact h.symm
  · exact absurd (end'.symm.trans hx) (by simp)

/-- What a cycle leads to is on it. -/
theorem transGen_of_cycle (cycle : TransGen (Step next) a a)
    (h : ReflTransGen (Step next) a b) : TransGen (Step next) b b := by
  induction h with
  | refl => exact cycle
  | @tail b c _ hbc ih =>
    obtain ⟨x, hx, back⟩ := TransGen.head'_iff.1 ih
    obtain rfl := step_rightUnique hx hbc
    exact TransGen.tail' back hbc

/-- What a cycle leads to leads back. -/
theorem reaches_back (cycle : TransGen (Step next) a a) (h : ReflTransGen (Step next) a b) :
    ReflTransGen (Step next) b a := by
  induction h with
  | refl => exact .refl
  | @tail b c hb hbc ih =>
    rcases ih.cases_head with rfl | ⟨x, hx, back⟩
    · obtain ⟨x, hx, back⟩ := TransGen.head'_iff.1 cycle
      exact step_rightUnique hx hbc ▸ back
    · exact step_rightUnique hx hbc ▸ back

/-- **A chain that ends runs into no cycle.** -/
theorem not_cycle_of_end (ht : ReflTransGen (Step next) a t) (end_ : next t = none)
    (hc : ReflTransGen (Step next) a c) : ¬ TransGen (Step next) c c := by
  intro cycle
  obtain ⟨x, hx, -⟩ :=
    TransGen.head'_iff.1 (transGen_of_cycle cycle (reaches_end end_ ht hc))
  exact absurd (end_.symm.trans hx) (by simp)

end ApiGraph
