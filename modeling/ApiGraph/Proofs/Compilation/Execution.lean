/-
# What a compilation ensures

A compilation of an entity reads and writes the context of its walk, and may stop.
`x.Ensures settings c Q E` says how it ends when it runs from the context `c`: with a
value and a context that `Q` holds of, or with a stop and a context that `E` holds of.

There is one rule for each way in which compilations are put together, so that what an
entity ensures is proved along its steps, from what each step ensures.
-/

import ApiGraph.Compilation.Walk

namespace ApiGraph
namespace Compile

variable {α β : Type} {settings : Settings} {c c' : Context}

/-- How a computation ends when it runs from the context `c`. -/
def Ensures (x : Compile α) (settings : Settings) (c : Context) (Q : α → Context → Prop)
    (E : Stop → Context → Prop) : Prop :=
  match x.exec settings c with
  | (.ok v, c') => Q v c'
  | (.error stop, c') => E stop c'

/-- What follows runs from the context that the first computation left, unless that one stopped. -/
theorem exec_bind (x : Compile α) (f : α → Compile β) (settings : Settings) (c : Context) :
    (x >>= f).exec settings c =
      match x.exec settings c with
      | (.ok v, c') => (f v).exec settings c'
      | (.error stop, c') => (.error stop, c') := by
  simp only [exec, bind, ReaderT.bind, ExceptT.bind, ExceptT.bindCont, StateT.bind, ExceptT.mk,
    ExceptT.run]
  rcases h : (x settings).run c with ⟨stop | v, c'⟩
  · replace h : x settings c = (.error stop, c') := h
    rw [h]
    rfl
  · replace h : x settings c = (.ok v, c') := h
    rw [h]

/-- Looking at the context leaves it as it is. -/
theorem exec_get_bind (f : Context → Compile α) :
    (get >>= f).exec settings c = (f c).exec settings c := rfl

/-- Reading the settings leaves the context as it is. -/
theorem exec_read_bind (f : Settings → Compile α) :
    (read >>= f).exec settings c = (f settings).exec settings c := rfl

section Rules

variable {Q Q' : α → Context → Prop} {R : β → Context → Prop} {E E' : Stop → Context → Prop}
  {x : Compile α} {f : α → Compile β}

/-- Computations one after the other: the second one has to ensure the rest from wherever the
first one ends well. -/
theorem Ensures.bind (hx : x.Ensures settings c Q E)
    (hf : ∀ v c', Q v c' → (f v).Ensures settings c' R E) :
    (x >>= f).Ensures settings c R E := by
  unfold Ensures at hx ⊢
  rw [exec_bind]
  rcases h : x.exec settings c with ⟨stop | v, c'⟩ <;> rw [h] at hx
  · exact hx
  · exact hf v c' hx

/-- What is ensured may be weakened. -/
theorem Ensures.mono (hx : x.Ensures settings c Q E) (hQ : ∀ v c', Q v c' → Q' v c')
    (hE : ∀ stop c', E stop c' → E' stop c') : x.Ensures settings c Q' E' := by
  unfold Ensures at hx ⊢
  rcases h : x.exec settings c with ⟨stop | v, c'⟩ <;> rw [h] at hx
  · exact hE stop c' hx
  · exact hQ v c' hx

/-- A value may be changed at the end. -/
theorem Ensures.map {g : α → β} (hx : x.Ensures settings c (fun v => R (g v)) E) :
    (g <$> x).Ensures settings c R E := by
  rw [map_eq_pure_bind]
  exact hx.bind fun _ _ h => h

/-- What ends without a stop ends as it is ensured to. -/
theorem Ensures.of_exec_ok {v : α} (hx : x.Ensures settings c Q E)
    (h : x.exec settings c = (.ok v, c')) : Q v c' := by
  unfold Ensures at hx
  rwa [h] at hx

/-- A run that stopped, stopped as was ensured. -/
theorem Ensures.of_exec_error {stop : Stop} (hx : x.Ensures settings c Q E)
    (h : x.exec settings c = (.error stop, c')) : E stop c' := by
  unfold Ensures at hx
  rwa [h] at hx

/-- Giving a value leaves the context as it is. -/
theorem ensures_pure {v : α} (h : Q v c) : (pure v : Compile α).Ensures settings c Q E := h

/-- Stopping leaves the context as it is. -/
theorem ensures_throw {stop : Stop} (h : E stop c) :
    (throw stop : Compile α).Ensures settings c Q E := h

/-- The same of an error. -/
theorem ensures_fail {e : CompileError} (h : E (.error e) c) :
    (fail e : Compile α).Ensures settings c Q E := h

/-- A step ensures what holds behind it. -/
theorem ensures_modifyGet {step : Context → α × Context} (h : Q (step c).1 (step c).2) :
    (modifyGet step : Compile α).Ensures settings c Q E := h

/-- A test that is known ensures what its branch does. -/
theorem ensures_ite {p : Prop} [Decidable p] {y : Compile α}
    (hx : p → x.Ensures settings c Q E) (hy : ¬ p → y.Ensures settings c Q E) :
    (if p then x else y).Ensures settings c Q E := by
  split
  · exact hx ‹_›
  · exact hy ‹_›

end Rules

section Steps

variable {E : Stop → Context → Prop}

/-- A computation that goes on with the context that it runs from. -/
theorem ensures_get_bind {Q : α → Context → Prop} {f : Context → Compile α}
    (h : (f c).Ensures settings c Q E) : (get >>= f).Ensures settings c Q E := by
  unfold Ensures
  rw [exec_get_bind]
  exact h

/-- A computation that goes on with the settings. -/
theorem ensures_read_bind {Q : α → Context → Prop} {f : Settings → Compile α}
    (h : (f settings).Ensures settings c Q E) : (read >>= f).Ensures settings c Q E := by
  unfold Ensures
  rw [exec_read_bind]
  exact h

/-- A computation that goes on from a changed context, with a value read off the old one. -/
theorem ensures_modifyGet_bind {Q : β → Context → Prop} {step : Context → α × Context}
    {f : α → Compile β} (h : (f (step c).1).Ensures settings (step c).2 Q E) :
    (modifyGet step >>= f).Ensures settings c Q E := by
  unfold Ensures
  rw [exec_bind]
  exact h

/-- Setting the context ensures what holds of the new one. -/
theorem ensures_set {Q : PUnit → Context → Prop} (h : Q ⟨⟩ c') :
    (set c' : Compile PUnit).Ensures settings c Q E := h

/-- The same of changing it. -/
theorem ensures_modify {Q : PUnit → Context → Prop} {step : Context → Context}
    (h : Q ⟨⟩ (step c)) : (modify step : Compile PUnit).Ensures settings c Q E := h

/-- A computation for each item.  `I` holds between the items that are done, their values and
the context. -/
theorem ensures_mapM {f : α → Compile β} {I : List α → List β → Context → Prop} (items : List α)
    (start : I [] [] c)
    (step : ∀ done item values c', I done values c' →
      (f item).Ensures settings c' (fun v c'' => I (done ++ [item]) (values ++ [v]) c'') E) :
    (items.mapM f).Ensures settings c (fun values c' => I items values c') E := by
  suffices h : ∀ (rest done : List α) (values : List β) (c' : Context), I done values c' →
      (rest.mapM f).Ensures settings c'
        (fun more c'' => I (done ++ rest) (values ++ more) c'') E from
    h items [] [] c start
  intro rest
  induction rest with
  | nil =>
    intro done values c' h
    rw [List.mapM_nil]
    exact ensures_pure (by simpa using h)
  | cons item rest ih =>
    intro done values c' h
    rw [List.mapM_cons]
    refine (step done item values c' h).bind fun v c'' h => ?_
    refine (ih _ _ _ h).bind fun more c''' h => ensures_pure ?_
    simpa using h

/-- The same for computations that give nothing. -/
theorem ensures_forM {f : α → Compile PUnit} {I : List α → Context → Prop} (items : List α)
    (start : I [] c)
    (step : ∀ done item rest c', items = done ++ item :: rest → I done c' →
      (f item).Ensures settings c' (fun _ c'' => I (done ++ [item]) c'') E) :
    (items.forM f).Ensures settings c (fun _ c' => I items c') E := by
  suffices h : ∀ (rest done : List α) (c' : Context), items = done ++ rest → I done c' →
      (rest.forM f).Ensures settings c' (fun _ c'' => I items c'') E from
    h items [] c rfl start
  intro rest
  induction rest with
  | nil =>
    intro done c' hi h
    rw [List.append_nil] at hi
    subst hi
    exact ensures_pure h
  | cons item rest ih =>
    intro done c' hi h
    refine (step done item rest c' hi h).bind fun _ c'' h => ?_
    exact ih _ c'' (by simpa using hi) h

end Steps

end Compile

/-! ## Compiled documents -/

/-- What is reported of a stop of a walk that stands at the place. -/
def Stop.problem (place : Location) : Stop → CompileError
  | error e => e
  | brokeDown words => .brokeDown place.document place (words.getD wordless)

namespace Document

open Compile

variable {d : Document} {settings : Settings} {index : Nat} {name : String}
  {Q : Unit → Context → Prop} {E : Stop → Context → Prop}

/-- What the walk of a document ensures holds of the store of a compiled document. -/
theorem of_compile (ensures : d.outline.compile.Ensures settings { store := .empty index name } Q E)
    {store : DocumentStore} (h : d.compile settings index name = .ok store) :
    ∃ c, Q () c ∧ c.store = store := by
  rw [Document.compile, Outline.walk] at h
  rcases run : d.outline.compile.exec settings { store := .empty index name } with
    ⟨(e | words) | u, c⟩ <;> rw [run] at h <;> cases h
  exact ⟨c, ensures.of_exec_ok run, rfl⟩

/-- What it ensures of a stop holds of what a document is refused for. -/
theorem of_compile_error
    (ensures : d.outline.compile.Ensures settings { store := .empty index name } Q E)
    {e : CompileError} (h : d.compile settings index name = .error e) :
    ∃ stop c, E stop c ∧ e = stop.problem c.location := by
  rw [Document.compile, Outline.walk] at h
  rcases run : d.outline.compile.exec settings { store := .empty index name } with
    ⟨stop | u, c⟩ <;> rw [run] at h
  · refine ⟨stop, c, ensures.of_exec_error run, ?_⟩
    cases stop <;> cases h <;> rfl
  · cases h

end Document
end ApiGraph
