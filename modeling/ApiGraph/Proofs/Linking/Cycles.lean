/-
# The cycles of a view and of a store

What leads back to itself is on a cycle (`View.exists_isCycle`), and on one only
(`View.IsCycle.eq_of_mem`): the least of what one gets to going round is the same
from wherever one begins.

The cycles of a store are those of the view that the linker works on.  A slot is
reported for a cycle exactly if its reference is the least member of one, and then
all members are named, in the order in which they lead to each other
(`ArtifactStore.WellFormed.cycleAt?_eq_some_iff`).
-/

import ApiGraph.Proofs.Linking.WellFormed
import Mathlib.Data.List.Chain
import Mathlib.Order.WellFounded

namespace ApiGraph

open Relation (ReflTransGen TransGen)
open Linking (view cycle? cycleAt? places)

/-- Ids are in order by document, and then by number. -/
theorem ArtifactId.le_iff {a b : ArtifactId} :
    a.le b = true ↔ a.document < b.document ∨ a.document = b.document ∧ a.index ≤ b.index := by
  simp [ArtifactId.le]

/-- No two ids are before one another. -/
theorem ArtifactId.le_antisymm {a b : ArtifactId} (h : a.le b = true) (h' : b.le a = true) :
    a = b := by
  cases a
  cases b
  simp only [ArtifactId.le_iff] at h h'
  simp only [ArtifactId.mk.injEq]
  omega

namespace View

/-- The references of a cycle, each once and in the order in which they lead to each other,
from the least one on. -/
structure IsCycle (v : View) (members : List ArtifactId) : Prop where
  nodup : members.Nodup
  leads : members.IsChain (Step v.next?)
  closed : ∃ first last, members.head? = some first ∧ members.getLast? = some last ∧
    v.next? last = some first ∧ ∀ m ∈ members, first.le m = true

variable {v : View} {id : ArtifactId} {xs members members' : List ArtifactId}

/-- A cycle from its least member on is a walk from there to its first visit again. -/
theorem isCycle_cons_iff :
    v.IsCycle (id :: xs) ↔
      id ∉ xs ∧ Walk v.next? id xs id ∧ ∀ m ∈ id :: xs, id.le m = true := by
  constructor
  · rintro ⟨distinct, leads, first, last, hfirst, hlast, closed, least⟩
    obtain rfl := Option.some.inj hfirst
    refine ⟨(List.nodup_cons.1 distinct).1, ?_, least⟩
    rw [Walk.iff_isChain, ← List.cons_append, List.isChain_append]
    refine ⟨leads, by simp, fun x hx y hy => ?_⟩
    obtain rfl := Option.some.inj (hlast.symm.trans hx)
    obtain rfl := Option.some.inj hy
    exact closed
  · rintro ⟨fresh, w, least⟩
    have chain := Walk.iff_isChain.1 w
    rw [← List.cons_append, List.isChain_append] at chain
    obtain ⟨leads, -, closed⟩ := chain
    have hlast := List.getLast?_eq_some_getLast (List.cons_ne_nil id xs)
    exact ⟨List.nodup_cons.2 ⟨fresh, w.nodup fresh⟩, leads, id, _, rfl, hlast,
      closed _ hlast id rfl, least⟩

namespace IsCycle

/-- A cycle has a head. -/
theorem exists_cons (cycle : v.IsCycle members) : ∃ id xs, members = id :: xs := by
  cases members with
  | nil =>
    obtain ⟨_, _, head, -⟩ := cycle.closed
    cases head
  | cons id xs => exact ⟨id, xs, rfl⟩

/-- Its members lead back to themselves. -/
theorem transGen (cycle : v.IsCycle members) (h : id ∈ members) :
    TransGen (Step v.next?) id id := by
  obtain ⟨first, xs, rfl⟩ := cycle.exists_cons
  obtain ⟨-, w, -⟩ := isCycle_cons_iff.1 cycle
  exact transGen_of_cycle w.transGen (w.reaches_of_mem h)

/-- The least member is on every cycle that has a member in common. -/
theorem head_mem (cycle : v.IsCycle (id :: xs)) (cycle' : v.IsCycle members') {m : ArtifactId}
    (h : m ∈ id :: xs) (h' : m ∈ members') : id ∈ members' := by
  obtain ⟨first, ys, rfl⟩ := cycle'.exists_cons
  obtain ⟨-, w, -⟩ := isCycle_cons_iff.1 cycle
  obtain ⟨-, w', -⟩ := isCycle_cons_iff.1 cycle'
  exact w'.mem_of_reaches
    ((w'.reaches_of_mem h').trans (reaches_back w.transGen (w.reaches_of_mem h)))

/-- **An artifact is on one cycle only.** -/
theorem eq_of_mem (cycle : v.IsCycle members) (cycle' : v.IsCycle members')
    (h : id ∈ members) (h' : id ∈ members') : members = members' := by
  obtain ⟨first, xs, rfl⟩ := cycle.exists_cons
  obtain ⟨first', ys, rfl⟩ := cycle'.exists_cons
  obtain ⟨fresh, w, least⟩ := isCycle_cons_iff.1 cycle
  obtain ⟨fresh', w', least'⟩ := isCycle_cons_iff.1 cycle'
  obtain rfl := ArtifactId.le_antisymm (least _ (cycle'.head_mem cycle h' h))
    (least' _ (cycle.head_mem cycle' h h'))
  rw [w.unique fresh w' fresh']

end IsCycle

/-- **What leads back to itself is on a cycle.**  The least member is found going round. -/
theorem exists_isCycle (h : TransGen (Step v.next?) id id) :
    ∃ members, v.IsCycle members ∧ id ∈ members := by
  -- the least artifact that one gets to from `id`
  have wf : WellFounded (InvImage (Prod.Lex (· < ·) (· < ·))
      fun m : ArtifactId => (m.document, m.index)) :=
    InvImage.wf _ (Prod.lex ⟨_, Nat.lt_wfRel.wf⟩ ⟨_, Nat.lt_wfRel.wf⟩).wf
  obtain ⟨m, hm, least⟩ := wf.has_min {m | ReflTransGen (Step v.next?) id m} ⟨id, .refl⟩
  obtain ⟨xs, w⟩ := exists_walk (transGen_of_cycle h hm)
  obtain ⟨ys, w, fresh⟩ := w.exists_first
  refine ⟨m :: ys, isCycle_cons_iff.2 ⟨fresh, w, fun y hy => ?_⟩,
    w.mem_of_reaches (reaches_back h hm)⟩
  have notBelow := least y (hm.trans (w.reaches_of_mem hy))
  rw [ArtifactId.le_iff]
  simp only [InvImage, Prod.lex_def, not_or, not_and, Nat.not_lt] at notBelow
  omega

/-- The members that are found from an artifact, where it is the least of them, are a cycle. -/
theorem cycle?_and_least_iff (numbered : v.catalog.Numbered) :
    cycle? v id = some members ∧ members.all (id.le ·) = true ↔
      v.IsCycle members ∧ members.head? = some id := by
  rw [Linking.cycle?_eq_some_iff numbered, List.all_eq_true]
  constructor
  · rintro ⟨⟨xs, fresh, w, rfl⟩, least⟩
    exact ⟨isCycle_cons_iff.2 ⟨fresh, w, least⟩, rfl⟩
  · rintro ⟨cycle, head⟩
    obtain ⟨first, xs, rfl⟩ := cycle.exists_cons
    obtain rfl := Option.some.inj head
    obtain ⟨fresh, w, least⟩ := isCycle_cons_iff.1 cycle
    exact ⟨⟨xs, fresh, w, rfl⟩, least⟩

end View

namespace ArtifactStore

variable {s : ArtifactStore} {id : ArtifactId} {xs members : List ArtifactId}

/-- The cycles of the view are the cycles of the store. -/
theorem WellFormed.isCycle_view_iff (hs : s.WellFormed) :
    (view s).IsCycle members ↔ s.IsCycle members := by
  have step (a b : ArtifactId) : (view s).next? a = some b ↔ s.Leads a b :=
    iff_of_eq (congrFun (congrFun hs.step_view a) b)
  constructor
  · rintro ⟨distinct, leads, closed⟩
    exact ⟨distinct, hs.step_view ▸ leads, by simpa only [step] using closed⟩
  · rintro ⟨distinct, leads, closed⟩
    exact ⟨distinct, hs.step_view ▸ leads, by simpa only [step] using closed⟩

/-- A cycle is a walk from its head back to it, of which the head is the least. -/
theorem WellFormed.isCycle_cons_iff (hs : s.WellFormed) :
    s.IsCycle (id :: xs) ↔
      id ∉ xs ∧ Walk (view s).next? id xs id ∧ ∀ m ∈ id :: xs, id.le m = true := by
  rw [← hs.isCycle_view_iff, View.isCycle_cons_iff]

/-- **Where references lead back to themselves there is a cycle.** -/
theorem WellFormed.exists_isCycle (hs : s.WellFormed) (h : TransGen s.Leads id id) :
    ∃ members, s.IsCycle members := by
  rw [← hs.step_view] at h
  obtain ⟨members, cycle, -⟩ := View.exists_isCycle h
  exact ⟨members, hs.isCycle_view_iff.1 cycle⟩

/-- The search from an id finds the cycle whose head it is. -/
theorem WellFormed.cycle?_view_iff (hs : s.WellFormed) :
    cycle? (view s) id = some members ∧ members.all (id.le ·) = true ↔
      s.IsCycle members ∧ members.head? = some id := by
  rw [View.cycle?_and_least_iff hs.numbered.catalog, hs.isCycle_view_iff]

/-- **What is reported for a slot:** the cycle whose least member is the reference of the slot,
all members named, the first one again at the end. -/
theorem WellFormed.cycleAt?_eq_some_iff (hs : s.WellFormed) {slot : ReferenceSlot}
    {e : LinkError} :
    cycleAt? (view s) slot = some e ↔
      ∃ id a members, s.catalog.get? id = some a ∧ a.location = slot.origin ∧
        s.IsCycle members ∧ members.head? = some id ∧
        e = .cycle slot.origin (places s.catalog (members ++ [id])) := by
  simp only [cycleAt?, Option.bind_eq_bind, Option.bind_eq_some_iff, find_view,
    hs.find?_eq_some_iff, catalog_view]
  constructor
  · rintro ⟨id, ⟨a, ha, hl⟩, members, hm, he⟩
    split at he
    · rename_i least
      obtain ⟨cycle, head⟩ := hs.cycle?_view_iff.1 ⟨hm, least⟩
      exact ⟨id, a, members, ha, hl, cycle, head, (Option.some.inj he).symm⟩
    · cases he
  · rintro ⟨id, a, members, ha, hl, cycle, head, rfl⟩
    obtain ⟨hm, least⟩ := hs.cycle?_view_iff.2 ⟨cycle, head⟩
    exact ⟨id, ⟨a, ha, hl⟩, members, hm, if_pos least⟩

end ArtifactStore
end ApiGraph
