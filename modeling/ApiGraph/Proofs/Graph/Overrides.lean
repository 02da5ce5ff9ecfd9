/-
# What the references of a chain say

A reference may give another name to what it stands for, and may say whether that is selectable.
Following a chain, the name that an artifact is shown under and its selectability are all read in
one way (`Graph.readFrom`): along the chain to the first reference that answers, or to the end.
Where the chain ends, so does the read, and what it gives can be told from the references of the
chain and from its end (`Graph.readFrom_of_chain`).
-/

import ApiGraph.Proofs.Graph.Reads

namespace ApiGraph
namespace Graph

variable {α : Type}

/-- Reads along a chain of references for at most so many steps: the answer of the first reference
that gives one, else what is read off the end. -/
def readFrom (g : Graph) (answer? : Body.Reference → Option α) (own : ArtifactId → Artifact → α) :
    Nat → ArtifactId → Except Defect α
  | steps, id => do
    let a ← g.artifact id
    match a.body with
    | .reference r =>
      match answer? r with
      | some answer => return answer
      | none =>
        match steps with
        | 0 => throw (.endless r.target)
        | steps + 1 => readFrom g answer? own steps (← g.referenceBinding r.slot)
    | _ => return own id a

variable {g : Graph} {n : Nat} {id u : ArtifactId} {b : Artifact} {refs : List Body.Reference}

/-- Following is reading along the chain with nothing to answer on the way. -/
theorem followFrom_eq_readFrom (g : Graph) (n : Nat) (id : ArtifactId) :
    g.followFrom n id = g.readFrom (fun _ => none) (fun id _ => id) n id := by
  induction n generalizing id with
  | zero =>
    unfold followFrom readFrom
    refine bind_congr fun a => ?_
    cases a.body with
    | reference r => rfl
    | _ => rfl
  | succ n ih =>
    unfold followFrom readFrom
    refine bind_congr fun a => ?_
    cases a.body with
    | reference r => exact bind_congr fun next => ih next
    | _ => rfl

/-- The name to show is the first one that a reference gives on the way, or the artifact's own. -/
theorem displayNameFrom_eq_readFrom (g : Graph) (n : Nat) (id : ArtifactId) :
    g.displayNameFrom n id = g.readFrom (·.nameOverride) (fun _ a => a.name) n id := by
  induction n generalizing id with
  | zero =>
    rw [displayNameFrom, readFrom]
    refine bind_congr fun a => ?_
    cases a.body with
    | reference r => rcases r with ⟨_, _, _ | _, _⟩ <;> rfl
    | _ => rfl
  | succ n ih =>
    rw [displayNameFrom, readFrom]
    simp only [ih]
    refine bind_congr fun a => ?_
    cases a.body with
    | reference r => rcases r with ⟨_, _, _ | _, _⟩ <;> rfl
    | _ => rfl

/-- Selectability is the first that a reference gives on the way, or the artifact's own. -/
theorem isSelectableFrom_eq_readFrom (g : Graph) (n : Nat) (id : ArtifactId) :
    g.isSelectableFrom n id =
      g.readFrom (·.selectableOverride) (fun _ a => a.selectable) n id := by
  induction n generalizing id with
  | zero =>
    rw [isSelectableFrom, readFrom]
    refine bind_congr fun a => ?_
    cases a.body with
    | reference r => rcases r with ⟨_, _, _, _ | _⟩ <;> rfl
    | _ => rfl
  | succ n ih =>
    rw [isSelectableFrom, readFrom]
    simp only [ih]
    refine bind_congr fun a => ?_
    cases a.body with
    | reference r => rcases r with ⟨_, _, _, _ | _⟩ <;> rfl
    | _ => rfl

/-- The references, each bound to the next, lead from `id` to the artifact `b` with the number `u`,
which is no reference. -/
inductive Chain (g : Graph) : ArtifactId → List Body.Reference → ArtifactId → Artifact → Prop
  | here {id : ArtifactId} {b : Artifact} :
      g.catalog.get? id = some b → b.body.isReference = false → Chain g id [] id b
  | there {id next u : ArtifactId} {a b : Artifact} {r : Body.Reference}
      {refs : List Body.Reference} :
      g.catalog.get? id = some a → a.body = .reference r →
      g.referenceBinding r.slot = .ok next → Chain g next refs u b → Chain g id (r :: refs) u b

/-- A chain that ends within a bound has no more references than that. -/
theorem Ends.exists_chain (h : g.Ends n id u b) : ∃ refs, g.Chain id refs u b ∧ refs.length ≤ n := by
  induction h with
  | here hb concrete => exact ⟨[], .here hb concrete, Nat.zero_le _⟩
  | @there _ _ _ _ _ _ r ha hr bound _ ih =>
    obtain ⟨refs, chain, bounded⟩ := ih
    exact ⟨r :: refs, .there ha hr bound chain, Nat.succ_le_succ bounded⟩

/-- **A read gives the first answer on the chain,** else what is read off the end. -/
theorem readFrom_of_chain {answer? : Body.Reference → Option α} {own : ArtifactId → Artifact → α}
    (h : g.Chain id refs u b) (bounded : refs.length ≤ n) :
    g.readFrom answer? own n id = .ok ((refs.findSome? answer?).getD (own u b)) := by
  induction h generalizing n with
  | here hb concrete =>
    rw [readFrom, artifact_of_get? hb]
    exact match_of_concrete concrete
  | @there id next u a b r refs ha hr bound _ ih =>
    obtain ⟨n, rfl⟩ := Nat.exists_eq_succ_of_ne_zero (Nat.ne_zero_of_lt bounded)
    rw [readFrom, artifact_of_get? ha, List.findSome?_cons]
    simp only [bind, Except.bind, hr, bound]
    cases answer? r with
    | some answer => rfl
    | none => exact ih (Nat.le_of_add_le_add_right bounded)

/-- What is read of an artifact along its references. -/
structure ReadsAlong (g : Graph) (id : ArtifactId) (refs : List Body.Reference) (u : ArtifactId)
    (b : Artifact) : Prop where
  chain : g.Chain id refs u b
  /-- No read is stopped by its bound. -/
  bounded : refs.length ≤ g.size
  target : g.catalog.get? u = some b ∧ b.body.isReference = false
  follow : g.follow id = .ok u
  displayName : g.displayName id = .ok ((refs.findSome? (·.nameOverride)).getD b.name)
  isSelectable : g.isSelectable id = .ok ((refs.findSome? (·.selectableOverride)).getD b.selectable)
  isVisible : g.isVisible id = .ok b.visible

/-- Where the chain of an artifact ends, everything is read along it. -/
theorem Ends.exists_readsAlong (h : g.Ends g.size id u b) : ∃ refs, g.ReadsAlong id refs u b := by
  obtain ⟨refs, chain, bounded⟩ := h.exists_chain
  refine ⟨refs, chain, bounded, h.target, follow_of_ends h, ?_, ?_, ?_⟩
  · rw [Graph.displayName, displayNameFrom_eq_readFrom, readFrom_of_chain chain bounded]
  · rw [Graph.isSelectable, isSelectableFrom_eq_readFrom, readFrom_of_chain chain bounded]
  · rw [Graph.isVisible, follow_of_ends h]
    simp only [bind, Except.bind, artifact_of_get? h.target.1]
    rfl

end Graph
end ApiGraph
