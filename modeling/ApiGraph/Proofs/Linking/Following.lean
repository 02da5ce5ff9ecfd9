/-
# Following references and finding cycles

`View.follow` and `Linking.cycle?` walk along a chain of references with a bound on
their steps.  In a closed view, whose references lead to artifacts only, the bound
is never what stops them: a walk that has not come back visits different artifacts,
and there are no more of those than the catalog holds.

* A chain is followed to an artifact exactly where it ends there (`follow_eq_ok_iff`).
  Otherwise it runs into a reference that leads nowhere or into a cycle
  (`exists_of_follow_error`).
* The members of a cycle are found exactly from a member of it (`cycle?_eq_some_iff`).
-/

import ApiGraph.Linking
import ApiGraph.Proofs.Catalog.Numbering
import ApiGraph.Proofs.Linking.Chains
import Std.Data.HashSet.Lemmas

namespace ApiGraph

open Relation (ReflTransGen TransGen)

namespace View

/-- Shelves stand at their places, and references are bound to artifacts. -/
structure Closed (v : View) : Prop where
  numbered : v.catalog.Numbered
  bound : ∀ cell id, v.bound cell = some id → (v.catalog.get? id).isSome

/-- The chain from `id` ends at the artifact `a` with the number `t`, which is no reference. -/
structure Ends (v : View) (id t : ArtifactId) (a : Artifact) : Prop where
  reaches : ReflTransGen (Step v.next?) id t
  artifact : v.catalog.get? t = some a
  concrete : a.body.isReference = false

/-- The artifact is a reference that leads nowhere. -/
def Dangles (v : View) (id : ArtifactId) : Prop :=
  ∃ a r, v.catalog.get? id = some a ∧ a.body = .reference r ∧ v.bound r.slot = none

variable {v : View} {id t u : ArtifactId} {a b : Artifact} {r : Body.Reference}

/-- From a reference the chain goes on to what its slot is bound to. -/
theorem next?_of_reference (ha : v.catalog.get? id = some a) (hr : a.body = .reference r) :
    v.next? id = v.bound r.slot := by
  simp only [next?, ha, hr]

/-- From anything else it does not go on. -/
theorem next?_of_concrete (ha : v.catalog.get? id = some a) (hc : a.body.isReference = false) :
    v.next? id = none := by
  simp only [next?, ha]
  cases hb : a.body with
  | reference r => rw [hb] at hc; cases hc
  | _ => rfl

/-- A chain goes on from artifacts only. -/
theorem isSome_get?_of_isSome_next? (h : (v.next? id).isSome) : (v.catalog.get? id).isSome := by
  simp only [next?] at h
  split at h
  · rename_i _ ha
    rw [ha]; rfl
  · cases h

/-- A chain has one end. -/
theorem Ends.unique (h : v.Ends id t a) (h' : v.Ends id u b) : t = u ∧ a = b := by
  have same : t = u := end_unique h.reaches (next?_of_concrete h.artifact h.concrete) h'.reaches
    (next?_of_concrete h'.artifact h'.concrete)
  subst same
  exact ⟨rfl, Option.some.inj (h.artifact.symm.trans h'.artifact)⟩

/-- A chain that ends runs into no reference that leads nowhere. -/
theorem Ends.not_dangles (h : v.Ends id t a) (hu : ReflTransGen (Step v.next?) id u) :
    ¬ v.Dangles u := by
  rintro ⟨b, r, hb, hr, hn⟩
  have same : t = u := end_unique h.reaches (next?_of_concrete h.artifact h.concrete) hu
    ((next?_of_reference hb hr).trans hn)
  subst same
  obtain rfl := Option.some.inj (h.artifact.symm.trans hb)
  have := h.concrete
  rw [hr] at this
  cases this

/-- A chain that ends runs into no cycle. -/
theorem Ends.not_cycle (h : v.Ends id t a) (hu : ReflTransGen (Step v.next?) id u) :
    ¬ TransGen (Step v.next?) u u :=
  not_cycle_of_end h.reaches (next?_of_concrete h.artifact h.concrete) hu

/-- What following a chain comes to. -/
inductive Followed (v : View) (id : ArtifactId) : Except FollowError ArtifactId → Prop
  | arrived {t : ArtifactId} {a : Artifact} : v.Ends id t a → Followed v id (.ok t)
  | unresolved {d : ArtifactId} {place : Location} :
      ReflTransGen (Step v.next?) id d → v.Dangles d → Followed v id (.error (.unresolved place))
  | cycle {c : ArtifactId} {place : Location} :
      ReflTransGen (Step v.next?) id c → TransGen (Step v.next?) c c →
        Followed v id (.error (.cycle place))

/-- What following comes to from one step on, it comes to. -/
theorem Followed.head {next : ArtifactId} (hstep : v.next? id = some next) :
    ∀ {r}, v.Followed next r → v.Followed id r
  | _, .arrived h => .arrived ⟨.head hstep h.reaches, h.artifact, h.concrete⟩
  | _, .unresolved h hd => .unresolved (.head hstep h) hd
  | _, .cycle h hc => .cycle (.head hstep h) hc

/-- The loop of `follow`.  `passed` lists what was seen: different artifacts, from each of
which the chain leads to the current one.  So they are not more than the catalog holds, and
the steps that are left suffice. -/
theorem followed_followFrom (hv : v.Closed) :
    ∀ (steps : Nat) (seen : Std.HashSet ArtifactId) (id : ArtifactId) (passed : List ArtifactId),
      (v.catalog.get? id).isSome → passed.Nodup → (∀ x, x ∈ seen ↔ x ∈ passed) →
      (∀ x ∈ passed, (v.catalog.get? x).isSome ∧ TransGen (Step v.next?) x id) →
      v.catalog.size < steps + passed.length → v.Followed id (v.followFrom steps seen id)
  | 0, _, _, passed, _, distinct, _, back, enough => by
    have := Catalog.length_le_size hv.numbered distinct fun x hx => (back x hx).1
    omega
  | steps + 1, seen, id, passed, present, distinct, same, back, enough => by
    obtain ⟨a, ha⟩ := Option.isSome_iff_exists.1 present
    simp only [followFrom, ha]
    split
    · rename_i r hr
      split
      · rename_i hseen
        exact .cycle .refl (back id ((same id).1 hseen)).2
      · rename_i hnew
        split
        · rename_i next hnext
          have hstep : v.next? id = some next := (next?_of_reference ha hr).trans hnext
          have fresh : id ∉ passed := fun m => hnew ((same id).2 m)
          refine .head hstep (followed_followFrom hv steps _ next (id :: passed)
            (hv.bound _ _ hnext) (List.nodup_cons.2 ⟨fresh, distinct⟩) ?_ ?_ ?_)
          · intro x
            rw [Std.HashSet.mem_insert, same, List.mem_cons, beq_iff_eq, eq_comm]
          · intro x hx
            rcases List.mem_cons.1 hx with rfl | hx
            · exact ⟨present, .single hstep⟩
            · exact ⟨(back x hx).1, (back x hx).2.tail hstep⟩
          · rw [List.length_cons]; omega
        · rename_i hnone
          exact .unresolved .refl ⟨a, r, ha, hr, hnone⟩
    · rename_i hr
      refine .arrived ⟨.refl, ha, ?_⟩
      cases hb : a.body with
      | reference r => exact absurd hb (hr r)
      | _ => rfl

/-- **Following is right** wherever it begins. -/
theorem followed_follow (hv : v.Closed) (present : (v.catalog.get? id).isSome) :
    v.Followed id (v.follow id) :=
  followed_followFrom hv _ _ id [] present List.nodup_nil (by simp) (by simp) (by simp)

/-- **Following arrives** exactly where the chain ends. -/
theorem follow_eq_ok_iff (hv : v.Closed) : v.follow id = .ok t ↔ ∃ a, v.Ends id t a := by
  constructor
  · intro h
    by_cases present : (v.catalog.get? id).isSome
    · have := followed_follow hv present
      rw [h] at this
      cases this with
      | arrived ends => exact ⟨_, ends⟩
    · rw [Option.not_isSome_iff_eq_none] at present
      simp [follow, followFrom, present] at h
  · rintro ⟨a, ends⟩
    have present : (v.catalog.get? id).isSome := by
      rcases ends.reaches.cases_head with rfl | ⟨x, hx, -⟩
      · rw [ends.artifact]; rfl
      · exact isSome_get?_of_isSome_next? (by rw [show v.next? id = some x from hx]; rfl)
    generalize hr : v.follow id = result
    cases hr ▸ followed_follow hv present with
    | arrived ends' => rw [(ends.unique ends').1]
    | unresolved hd dangles => exact absurd dangles (ends.not_dangles hd)
    | cycle hc onCycle => exact absurd onCycle (ends.not_cycle hc)

/-- **Where following fails** the chain runs into a reference that leads nowhere, or into a
cycle. -/
theorem exists_of_follow_error (hv : v.Closed) (present : (v.catalog.get? id).isSome)
    {e : FollowError} (h : v.follow id = .error e) :
    (∃ d, ReflTransGen (Step v.next?) id d ∧ v.Dangles d) ∨
      ∃ c, ReflTransGen (Step v.next?) id c ∧ TransGen (Step v.next?) c c := by
  have := followed_follow hv present
  rw [h] at this
  cases this with
  | unresolved hd dangles => exact .inl ⟨_, hd, dangles⟩
  | cycle hc onCycle => exact .inr ⟨_, hc, onCycle⟩

end View

/-! ## Cycles -/

namespace Linking

variable {v : View} {start : ArtifactId} {members : List ArtifactId}

/-- The loop of `cycle?` finds the way back to `start`, if it has that many steps left. -/
theorem cycleFrom_eq_some_iff :
    ∀ {steps : Nat} {chain : List ArtifactId} {current : ArtifactId},
      cycleFrom v start steps chain current = some members ↔
        ∃ xs, xs.length < steps ∧ start ∉ xs ∧ Walk v.next? current xs start ∧
          members = chain.reverse ++ xs
  | 0, _, _ => by simp [cycleFrom]
  | steps + 1, chain, current => by
    rw [cycleFrom]
    cases hnext : v.next? current with
    | none =>
      refine iff_of_false (by simp) ?_
      rintro ⟨_, -, -, ⟨h⟩ | ⟨h, -⟩, -⟩ <;> simp [hnext] at h
    | some next =>
      by_cases hs : next = start
      · subst hs
        simp only [if_true, Option.some.injEq]
        constructor
        · rintro rfl
          exact ⟨[], by simp, by simp, .last hnext, by simp⟩
        · rintro ⟨xs, -, hx, w, rfl⟩
          rw [w.unique hx (.last hnext) List.not_mem_nil, List.append_nil]
      · simp only [hs, if_false, cycleFrom_eq_some_iff]
        constructor
        · rintro ⟨xs, hlen, hx, w, rfl⟩
          refine ⟨next :: xs, by simpa using hlen, ?_, .more hnext w, by simp⟩
          rw [List.mem_cons, not_or]
          exact ⟨fun e => hs e.symm, hx⟩
        · rintro ⟨_ | ⟨x, xs⟩, hlen, hx, w, rfl⟩
          · exact absurd (Option.some.inj (hnext.symm.trans (Walk.nil_iff.1 w))) hs
          · obtain ⟨h, w⟩ := Walk.cons_iff.1 w
            obtain rfl := Option.some.inj (hnext.symm.trans h)
            exact ⟨xs, by simpa using hlen, fun m => hx (List.mem_cons_of_mem _ m), w, by simp⟩

/-- **The members of a cycle** are found from each of them: they are the artifacts on the way
from `start` to its first visit again. -/
theorem cycle?_eq_some_iff (numbered : v.catalog.Numbered) :
    cycle? v start = some members ↔
      ∃ xs, start ∉ xs ∧ Walk v.next? start xs start ∧ members = start :: xs := by
  rw [cycle?, cycleFrom_eq_some_iff]
  constructor
  · rintro ⟨xs, -, hx, w, rfl⟩
    exact ⟨xs, hx, w, rfl⟩
  · rintro ⟨xs, hx, w, rfl⟩
    refine ⟨xs, ?_, hx, w, rfl⟩
    have := Catalog.length_le_size numbered (w.nodup hx) fun x hx =>
      View.isSome_get?_of_isSome_next? (w.isSome_next x (List.mem_cons_of_mem _ hx))
    omega

end Linking
end ApiGraph
