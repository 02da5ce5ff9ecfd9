/-
# Linking without an index

Linking looks places up in an index of the catalog, which is built for it.  The same is found by
looking them up in the catalog itself (`findings_eq`), in which form linking can be evaluated on a
given store (`link_of_errors_eq_nil`).
-/

import ApiGraph.Proofs.Linking.Outcome

namespace ApiGraph

open Linking

namespace View

/-- Follows references like `View.followFrom`, with a list of those that were seen. -/
def chase (v : View) : Nat → List ArtifactId → ArtifactId → Except FollowError ArtifactId
  | 0, _, id => .error (.absent id)
  | steps + 1, seen, id =>
    match v.catalog.get? id with
    | none => .error (.absent id)
    | some a =>
      match a.body with
      | .reference r =>
        if seen.contains id then .error (.cycle a.location)
        else
          match v.bound r.slot with
          | some next => v.chase steps (id :: seen) next
          | none => .error (.unresolved a.location)
      | _ => .ok id

theorem followFrom_eq_chase (v : View) (steps : Nat) (seen : Std.HashSet ArtifactId)
    (members : List ArtifactId) (id : ArtifactId)
    (same : ∀ x, seen.contains x = members.contains x) :
    v.followFrom steps seen id = v.chase steps members id := by
  induction steps generalizing seen members id with
  | zero => rfl
  | succ steps ih =>
    have longer : ∀ x, (seen.insert id).contains x = (id :: members).contains x := by
      intro x
      rw [Std.HashSet.contains_insert, List.contains_cons, same, Bool.beq_comm]
    rw [followFrom, chase, same]
    cases v.catalog.get? id with
    | none => rfl
    | some a =>
      cases hb : a.body with
      | reference r =>
        cases hn : v.bound r.slot with
        | none => simp only [hb, hn]
        | some next => simp only [hb, hn, ih _ _ _ longer]
      | _ => simp only [hb]

/-- Following does not depend on how the references that were seen are kept. -/
theorem follow_eq_chase (v : View) (id : ArtifactId) :
    v.follow id = v.chase (v.catalog.size + 2) [] id :=
  v.followFrom_eq_chase _ _ _ _ fun x => by simp

end View

namespace ArtifactStore

/-- The view of a store that looks places up in the catalog. -/
def plainView (s : ArtifactStore) : View where
  catalog := s.catalog
  bound cell := (s.reference? cell).bind fun slot => s.catalog.find? slot.target

/-- What a run finds through a view. -/
def findingsIn (s : ArtifactStore) (v : View) : Findings where
  astray := astray? v s
  errors := missingReferences v s ++ missingPromises v s ++ cycles v s ++
    errors (narrowReferences v s) ++ errors (narrowPromises v s) ++ errors (narrowLists v s)
  references := results (narrowReferences v s)
  promises := results (narrowPromises v s)
  lists := results (narrowLists v s)

variable {s : ArtifactStore}

theorem view_eq_plainView (s : ArtifactStore) : view s = s.plainView := by
  have bound : (view s).bound = s.plainView.bound := funext (bound_view s)
  calc view s = ⟨(view s).catalog, (view s).find, (view s).bound⟩ := rfl
    _ = s.plainView := by rw [find_view, bound]; rfl

theorem findings_eq (s : ArtifactStore) : findings s = s.findingsIn s.plainView := by
  rw [← view_eq_plainView]
  rfl

/-- The store with every cell bound to what was found for it. -/
def withBindings (s : ArtifactStore) : ArtifactStore :=
  ⟨s.documents.map (assignDocument (s.findingsIn s.plainView))⟩

/-- A store in which nothing is found to be wrong is linked, if no transform leads out of it. -/
theorem link_of_errors_eq_nil (hs : s.WellFormed) (hu : s.Unbound) (inside : ∀ id, ¬ s.Astray id)
    (h : (s.findingsIn s.plainView).errors = []) : s.link = .linked s.withBindings := by
  rw [← findings_eq] at h
  refine (link_eq_linked_iff hs.numbered hu).2 ⟨hs.astray_eq_none_iff.2 inside, h, ?_⟩
  rw [withBindings, findings_eq]

end ArtifactStore
end ApiGraph
