/-
# Two compilations side by side

What a run with other settings, or of a document that was changed a little, has in common with
the first one.  A `Margin` says in what two stores may differ: in the variants and the decoded
bindings that artifacts hold, in whether operations are visible, and in the diagnostics.  All else
is the same in stores that match up to a margin (`DocumentStore.Matches`).

Two computations run in parallel if the second one ends well wherever the first one does, from
contexts that match, and their contexts match again (`Compile.Parallel`).  There is a rule for each
way in which compilations are put together, and so entities that agree in what is read of them
(`Entity.Agrees`) are compiled in parallel, if the settings admit the margin (`parallel_entity`).
-/

import ApiGraph.Proofs.Compilation.Execution
import ApiGraph.Proofs.Correspondence

namespace ApiGraph

open Document (Entity)

/-! ## What may differ -/

/-- What two stores may differ in. -/
structure Margin where
  /-- The variants of one artifact. -/
  variants : Table Variant → Table Variant → Prop := Eq
  /-- The decoded bindings of one artifact. -/
  values : Table BindingsValue → Table BindingsValue → Prop := Eq
  /-- Whether an operation is visible. -/
  visible : Bool → Bool → Prop := Eq
  /-- The diagnostics of a document, which has a name. -/
  diagnostics : String → List Diagnostic → List Diagnostic → Prop := fun _ => Eq

variable {M M' M'' : Margin}

/-- The body `b'` is `b`, up to variants and decoded bindings. -/
def Body.Matches (M : Margin) : Body → Body → Prop
  | .server b, b' => ∃ variants, M.variants b.variants variants ∧ b' = .server { b with variants }
  | .channel b, b' => ∃ variants, M.variants b.variants variants ∧ b' = .channel { b with variants }
  | .message b, b' => ∃ variants, M.variants b.variants variants ∧ b' = .message { b with variants }
  | .bindings b, b' => ∃ values, M.values b.values values ∧ b' = .bindings { b with values }
  | b, b' => b' = b

/-- The artifact `a'` is `a`, up to its body's differences and the visibility of an operation. -/
structure Artifact.Matches (M : Margin) (a a' : Artifact) : Prop where
  header : a' = { a with visible := a'.visible, body := a'.body }
  visible : if a.body.label? = some .operation then M.visible a.visible a'.visible
    else a'.visible = a.visible
  body : a.body.Matches M a'.body

/-- The store `d'` is `d`, up to the differences of artifacts, one by one, and of diagnostics. -/
structure DocumentStore.Matches (M : Margin) (d d' : DocumentStore) : Prop where
  rest : d' = { d with artifacts := d'.artifacts, diagnostics := d'.diagnostics }
  artifacts : List.Forall₂ (Artifact.Matches M) d.artifacts.toList d'.artifacts.toList
  diagnostics : M.diagnostics d.document d.diagnostics d'.diagnostics

/-- The walks stand at one place, and their stores match. -/
structure Context.Matches (M : Margin) (c c' : Context) : Prop where
  frames : c'.frames = c.frames
  contentType : c'.contentType = c.contentType
  store : c.store.Matches M c'.store

/-- No margin moves an artifact. -/
theorem Artifact.Matches.location {a a' : Artifact} (h : a.Matches M a') :
    a'.location = a.location := by
  rw [h.header]

/-- What is said of diagnostics is of no account to artifacts. -/
theorem Artifact.Matches.of_same {a a' : Artifact} (h : a.Matches M a')
    {D : String → List Diagnostic → List Diagnostic → Prop} :
    a.Matches { M with diagnostics := D } a' where
  header := h.header
  visible := h.visible
  body := by
    have body := h.body
    revert body
    cases a.body <;> exact id

/-- Artifacts that match up to nothing are equal. -/
theorem Artifact.Matches.eq {a a' : Artifact}
    {D : String → List Diagnostic → List Diagnostic → Prop}
    (h : a.Matches { diagnostics := D } a') : a' = a := by
  have visible : a'.visible = a.visible := by
    have visible := h.visible
    split at visible
    · exact visible.symm
    · exact visible
  have body : a'.body = a.body := by
    have body := h.body
    revert body
    cases a.body with
    | server | channel | message | bindings =>
      rintro ⟨_, rfl, same⟩
      exact same
    | _ => exact id
  rw [h.header, visible, body]

/-- Stores that match up to their diagnostics are equal up to them. -/
theorem DocumentStore.Matches.eq {d d' : DocumentStore}
    {D : String → List Diagnostic → List Diagnostic → Prop}
    (h : d.Matches { diagnostics := D } d') : d' = { d with diagnostics := d'.diagnostics } := by
  have artifacts : d'.artifacts = d.artifacts :=
    Array.toList_inj.1 (List.forall₂_eq_eq_eq ▸ h.artifacts.flip.imp fun _ _ same => same.eq)
  rw [h.rest, artifacts]

/-- Stores match up to another difference of their diagnostics if their diagnostics differ so. -/
theorem DocumentStore.Matches.of_diagnostics {d d' : DocumentStore} (h : d.Matches M d')
    {D : String → List Diagnostic → List Diagnostic → Prop} {ds ds' : List Diagnostic}
    (differ : D d.document ds ds') :
    DocumentStore.Matches { M with diagnostics := D } { d with diagnostics := ds }
      { d' with diagnostics := ds' } where
  rest := by
    rw [h.rest]
  artifacts := h.artifacts.imp fun _ _ same => same.of_same
  diagnostics := differ

namespace Context.Matches

variable {c c' : Context} (h : c.Matches M c')

include h

/-- No margin renames a document. -/
theorem document : c'.store.document = c.store.document := by rw [h.store.rest]

/-- The walks stand at one place of their documents. -/
theorem location : c'.location = c.location := by
  rw [Context.location, Context.location, h.document, h.frames]

/-- Either both walks stand at a definition or neither does. -/
theorem isDefinition : c'.isDefinition = c.isDefinition := by
  rw [Context.isDefinition, Context.isDefinition, parentTags, parentTags, h.frames]

/-- Both walks came in by the same key. -/
theorem key? : c'.key? = c.key? := by rw [Context.key?, Context.key?, h.frames]

/-- An entity gets the same name in both walks: its place says it, and the margin moves nothing. -/
theorem entityName (shownAs top : Option String) :
    c'.entityName shownAs top = c.entityName shownAs top := by
  have top (field : String) : c'.isTopLevel field = c.isTopLevel field := by
    rw [isTopLevel, isTopLevel, h.frames]
  cases shownAs <;> simp only [Context.entityName, h.location, h.isDefinition, funext top]

/-- A schema is selectable in both walks or in neither. -/
theorem isSelectable (s : Document.Schema) : s.isSelectable c' = s.isSelectable c := by
  rw [Document.Schema.isSelectable, Document.Schema.isSelectable, isDataModelRoot, isDataModelRoot,
    tags, tags, h.isDefinition, parentTags, parentTags, h.frames]

/-- An operation gets the same name in both walks. -/
theorem operationName (o : Document.Operation) : o.entityName c' = o.entityName c := by
  rw [Document.Operation.entityName, Document.Operation.entityName, h.entityName]

end Context.Matches

/-! ## Running in parallel -/

namespace Compile

variable {α β γ δ : Type} {S S' : Settings}

/-- Where `x` ends well with the settings `S`, there `y` does with `S'`: from contexts that match
up to `M` they come to values that `R` relates, and to contexts that match up to `M'`. -/
def Parallel (S S' : Settings) (M M' : Margin) (R : α → β → Prop) (x : Compile α) (y : Compile β) :
    Prop :=
  ∀ c c' v c₁, c.Matches M c' → x.exec S c = (.ok v, c₁) →
    ∃ w c₁', y.exec S' c' = (.ok w, c₁') ∧ R v w ∧ c₁.Matches M' c₁'

section Rules

variable {R R' : α → β → Prop} {Q : γ → δ → Prop} {x : Compile α} {y : Compile β}
  {f : α → Compile γ} {g : β → Compile δ}

/-- Computations that run in parallel do so one after the other: the first two have to leave
contexts that match up to `M'`, from where the next two set out. -/
theorem Parallel.bind (h : Parallel S S' M M' R x y)
    (next : ∀ v w, R v w → Parallel S S' M' M'' Q (f v) (g w)) :
    Parallel S S' M M'' Q (x >>= f) (y >>= g) := by
  intro c c' v c₂ same run
  rw [exec_bind] at run
  rcases hx : x.exec S c with ⟨stop | u, c₁⟩ <;> rw [hx] at run
  · cases run
  · obtain ⟨w, c₁', hy, related, same₁⟩ := h c c' u c₁ same hx
    obtain ⟨z, c₂', hg, ends⟩ := next u w related c₁ c₁' v c₂ same₁ run
    refine ⟨z, c₂', ?_, ends⟩
    rw [exec_bind, hy]
    exact hg

/-- The values may be related by less. -/
theorem Parallel.mono (h : Parallel S S' M M' R x y) (weaker : ∀ v w, R v w → R' v w) :
    Parallel S S' M M' R' x y := by
  intro c c' v c₁ same run
  obtain ⟨w, c₁', hy, related, same₁⟩ := h c c' v c₁ same run
  exact ⟨w, c₁', hy, weaker v w related, same₁⟩

/-- Values may be changed at the end on both sides. -/
theorem Parallel.map {m : α → γ} {n : β → δ}
    (h : Parallel S S' M M' (fun v w => Q (m v) (n w)) x y) :
    Parallel S S' M M' Q (m <$> x) (n <$> y) := by
  rw [map_eq_pure_bind, map_eq_pure_bind]
  refine h.bind fun v w related c c' u c₁ same run => ?_
  cases run
  exact ⟨n w, c', rfl, related, same⟩

/-- A value may be changed at the end on one side alone. -/
theorem Parallel.value_left {m : α → γ} {Q : γ → β → Prop}
    (h : Parallel S S' M M' (fun v w => Q (m v) w) x y) :
    Parallel S S' M M' Q (x >>= fun v => pure (m v)) y := by
  rw [← bind_pure y]
  refine h.bind fun v w related c c' u c₁ same run => ?_
  cases run
  exact ⟨w, c', rfl, related, same⟩

/-- Values that are related, and no step on either side. -/
theorem parallel_pure {v : α} {w : β} (h : R v w) :
    Parallel S S' M M R (pure v : Compile α) (pure w) := by
  intro c c' u c₁ same run
  cases run
  exact ⟨w, c', rfl, h, same⟩

/-- What stops ends nowhere well. -/
theorem parallel_throw {stop : Stop} :
    Parallel S S' M M' R (throw stop : Compile α) y := by
  rintro c c' v c₁ - ⟨⟩

/-- The fault of a hook stops the compilation, so the other side may do anything. -/
theorem parallel_failHook {place : Location} {protocol : String} {fault : HookFault} :
    Parallel S S' M M' R (failHook place protocol fault : Compile α) y := by
  cases fault with
  | rejected reason => exact parallel_throw
  | brokeDown words => exact parallel_throw

/-- The contexts that are looked at match. -/
theorem parallel_get :
    Parallel S S' M M (Context.Matches M) (get : Compile Context) (get : Compile Context) := by
  intro c c' v c₁ same run
  cases run
  exact ⟨c', c', rfl, same, same⟩

/-- Each side reads its own settings. -/
theorem parallel_read :
    Parallel S S' M M (fun s s' => S = s ∧ S' = s') (read : Compile Settings) read := by
  intro c c' v c₁ same run
  cases run
  exact ⟨S', c', rfl, ⟨rfl, rfl⟩, same⟩

/-- A step is taken in parallel if it takes matching contexts to related values and matching
contexts. -/
theorem parallel_modifyGet {step : Context → α × Context} {step' : Context → β × Context}
    (h : ∀ c c', c.Matches M c' → R (step c).1 (step' c').1 ∧
      (step c).2.Matches M (step' c').2) :
    Parallel S S' M M R (modifyGet step : Compile α) (modifyGet step') := by
  intro c c' v c₁ same run
  cases run
  exact ⟨_, _, rfl, h c c' same⟩

/-- The same of a step that gives no value. -/
theorem parallel_modify {step step' : Context → Context}
    (h : ∀ c c', c.Matches M c' → (step c).Matches M (step' c')) :
    Parallel S S' M M Eq (modify step : Compile PUnit) (modify step') := by
  intro c c' v c₁ same run
  cases run
  exact ⟨_, _, rfl, rfl, h c c' same⟩

/-- After setting both contexts, the margin is the one of what was set. -/
theorem parallel_set {c c' : Context} (h : c.Matches M' c') :
    Parallel S S' M M' Eq (set c : Compile PUnit) (set c') := by
  intro _ _ v c₁ _ run
  cases run
  exact ⟨_, _, rfl, rfl, h⟩

/-- Items are gone through in parallel if each one is, with equal results. -/
theorem parallel_mapM {f : γ → Compile α} {g : γ → Compile α} (items : List γ)
    (h : ∀ item ∈ items, Parallel S S' M M Eq (f item) (g item)) :
    Parallel S S' M M Eq (items.mapM f) (items.mapM g) := by
  induction items with
  | nil =>
    rw [List.mapM_nil, List.mapM_nil]
    exact parallel_pure rfl
  | cons item rest ih =>
    rw [List.mapM_cons, List.mapM_cons]
    refine (h item List.mem_cons_self).bind ?_
    rintro v - rfl
    refine (ih fun x hx => h x (List.mem_cons_of_mem _ hx)).bind ?_
    rintro vs - rfl
    exact parallel_pure rfl

/-- Two lists are gone through in parallel, item by item. -/
theorem parallel_forM {P : γ → δ → Prop} {xs : List γ} {ys : List δ} {f : γ → Compile PUnit}
    {g : δ → Compile PUnit} (partners : List.Forall₂ P xs ys)
    (h : ∀ x y, P x y → Parallel S S' M M Eq (f x) (g y)) :
    Parallel S S' M M Eq (xs.forM f) (ys.forM g) := by
  induction partners with
  | nil => exact parallel_pure rfl
  | cons p _ ih => exact (h _ _ p).bind fun _ _ _ => ih

end Rules

/-! ## The steps -/

section Steps

/-- A store notes the document of a target depending on its own name and on what it noted
before, which no margin touches. -/
theorem matches_noteExternal {d d' : DocumentStore} (h : d.Matches M d') (target : Location) :
    (d.noteExternal target).Matches M (d'.noteExternal target) := by
  rw [DocumentStore.noteExternal, DocumentStore.noteExternal]
  have document : d'.document = d.document := by rw [h.rest]
  have externals : d'.externals = d.externals := by rw [h.rest]
  rw [document, externals]
  split
  · exact h
  · refine ⟨?_, h.artifacts, h.diagnostics⟩
    rw [h.rest]

/-- A promise gets the same number in both stores, which stay alike. -/
theorem matches_promiseTo {c c' : Context} (h : c.Matches M c') (l : Label) (target : Location) :
    (c'.promiseTo l target).1 = (c.promiseTo l target).1 ∧
      (c.promiseTo l target).2.Matches M (c'.promiseTo l target).2 := by
  have noted := matches_noteExternal h.store target
  have index : c'.store.index = c.store.index := by rw [h.store.rest]
  have promises : c'.store.promises = c.store.promises := by rw [h.store.rest]
  simp only [Context.promiseTo, DocumentStore.promise, DocumentStore.noteQuery, index, promises,
    h.location]
  refine ⟨trivial, h.frames, h.contentType, ?_, noted.artifacts, noted.diagnostics⟩
  simp only
  rw [noted.rest]

/-- A promise is made in parallel. -/
theorem parallel_promiseTo (l : Label) (target : Location) :
    Parallel S S' M M Eq (promiseTo l target) (promiseTo l target) :=
  parallel_modifyGet fun _ _ same => (matches_promiseTo same l target).imp_left Eq.symm

/-- A promise to an entity below is made in parallel. -/
theorem parallel_promiseChild (l : Label) (path : List String) :
    Parallel S S' M M Eq (promiseChild l path) (promiseChild l path) := by
  refine parallel_modifyGet fun c c' same => ?_
  rw [Context.promiseChild, Context.promiseChild, same.location]
  exact (matches_promiseTo same l _).imp_left Eq.symm

/-- A promise of a part depends on whether the part is there, and not on what it is. -/
theorem parallel_promisePart (l : Label) (key : String) {x : Option α} {y : Option β}
    (h : y.isSome = x.isSome) :
    Parallel S S' M M Eq (promisePart l key x) (promisePart l key y) := by
  cases x <;> cases y <;> cases h
  · exact parallel_pure rfl
  · exact ((parallel_promiseChild l [key]).mono fun _ _ same => same ▸ rfl).map

/-- Promises to the entries of a table are made in parallel. -/
theorem parallel_promiseEntries (l : Label) (key : String) (t : Table α) :
    Parallel S S' M M Eq (promiseEntries l key t) (promiseEntries l key t) := by
  refine parallel_mapM t fun entry _ => (parallel_promiseChild l [key, entry.1]).bind ?_
  rintro p - rfl
  exact parallel_pure rfl

/-- Promises to the items of a list are made in parallel. -/
theorem parallel_promiseItems (l : Label) (path : List String) (count : Nat) :
    Parallel S S' M M Eq (promiseItems l path count) (promiseItems l path count) :=
  parallel_mapM _ fun i _ => parallel_promiseChild l (path ++ [toString i])

/-- Promises to security schemes are made in parallel. -/
theorem parallel_promiseSchemes (rs : Document.Requirements) :
    Parallel S S' M M Eq (promiseSchemes rs) (promiseSchemes rs) := by
  refine parallel_mapM _ fun scheme _ => parallel_modifyGet fun c c' same => ?_
  rw [Context.promiseComponent, Context.promiseComponent, same.document]
  exact (matches_promiseTo same .securityScheme _).imp_left Eq.symm

/-- Artifacts that match are at one place, so both are added, or none is. -/
theorem parallel_add {a a' : Artifact} (h : a.Matches M a') :
    Parallel S S' M M Eq (add a) (add a') := by
  refine parallel_get.bind fun c c' same => ?_
  have places : c'.store.artifacts.any (·.location == a'.location) =
      c.store.artifacts.any (·.location == a.location) := by
    have located : c.store.artifacts.toList.map Artifact.location =
        c'.store.artifacts.toList.map Artifact.location :=
      map_eq_of_forall₂ same.store.artifacts fun _ _ partners => partners.location.symm
    rw [h.location, ← Array.any_toList, ← Array.any_toList]
    simpa [List.any_map, Function.comp_def] using
      congrArg (List.any · (· == a.location)) located.symm
  simp only [Context.add, DocumentStore.add, places]
  by_cases taken : c.store.artifacts.any (·.location == a.location)
  · simp only [taken, if_true]
    exact parallel_throw
  · simp only [taken, Bool.false_eq_true, if_false]
    refine parallel_set ⟨same.frames, same.contentType, ?_, ?_, same.store.diagnostics⟩
    · simp only
      rw [same.store.rest]
    · simp only [Array.toList_push]
      exact List.rel_append same.store.artifacts (.cons h .nil)

/-- An entity's artifact is added in parallel.  Only that of an operation may be visible on one
side and hidden on the other, as far as the margin has it so. -/
theorem parallel_addEntity {l : Label} {name : String} {selectable visible visible' : Bool}
    {body body' : Body} (shown : if body.label? = some .operation then M.visible visible visible'
      else visible' = visible) (h : body.Matches M body') :
    Parallel S S' M M Eq (addEntity l name selectable visible body)
      (addEntity l name selectable visible' body') := by
  refine parallel_get.bind fun c c' same => parallel_add ⟨?_, shown, h⟩
  rw [same.location]

/-- A reference is compiled in parallel.  Its text alone decides what becomes of it. -/
theorem parallel_reference (reference : String) (kind : Kind) (shownAs : Option String) :
    Parallel S S' M M Eq (compileReference reference kind shownAs)
      (compileReference reference kind shownAs) := by
  refine parallel_get.bind fun c c' same => ?_
  rw [same.document, same.isDefinition, same.location]
  cases Location.ofReference c.store.document reference with
  | error reason => exact parallel_throw
  | ok target =>
    refine (parallel_modifyGet (R := Eq) fun c c' same => ?_).bind ?_
    · have noted := matches_noteExternal same.store target
      have index : c'.store.index = c.store.index := by rw [same.store.rest]
      have references : c'.store.references = c.store.references := by rw [same.store.rest]
      simp only [DocumentStore.reference, index, references, same.location]
      refine ⟨trivial, same.frames, same.contentType, ?_, noted.artifacts, noted.diagnostics⟩
      simp only
      rw [noted.rest]
    · rintro slot - rfl
      exact parallel_add ⟨rfl, rfl, rfl⟩

/-- Both runs add a diagnostic. -/
theorem parallel_diagnose (d : Diagnostic)
    (h : ∀ name ds ds', M.diagnostics name ds ds' → M.diagnostics name (ds ++ [d]) (ds' ++ [d])) :
    Parallel S S' M M Eq (diagnose d) (diagnose d) :=
  parallel_modify fun _ _ same => ⟨same.frames, same.contentType,
    same.store.of_diagnostics (D := M.diagnostics) (h _ _ _ same.store.diagnostics)⟩

/-- Only the second run adds a diagnostic. -/
theorem Parallel.diagnose_right {R : α → β → Prop} {x : Compile α} {y : Compile β}
    {D : String → List Diagnostic → List Diagnostic → Prop} (d : Diagnostic)
    (h : ∀ name ds ds', M.diagnostics name ds ds' → D name ds (ds' ++ [d]))
    (next : Parallel S S' { M with diagnostics := D } M' R x y) :
    Parallel S S' M M' R x (diagnose d >>= fun _ => y) := by
  intro c c' v c₁ same run
  have warned : c.Matches { M with diagnostics := D } (c'.diagnose d) :=
    ⟨same.frames, same.contentType, same.store.of_diagnostics (h _ _ _ same.store.diagnostics)⟩
  obtain ⟨w, c₁', hy, ends⟩ := next c _ v c₁ warned run
  exact ⟨w, c₁', hy, ends⟩

end Steps

end Compile

/-! ## Settings -/

/-- With the settings `S'`, which know no other builders than `S` does, all comes out as with `S`,
up to the margin. -/
structure Margin.Admits (M : Margin) (S S' : Settings) : Prop where
  contentType : S'.options.contentType = S.options.contentType
  visible (shown : Bool) (direction : Direction) :
    M.visible (shown && S.options.enables direction) (shown && S'.options.enables direction)
  builder {protocol : String} {b : Builder} (h : Table.get? S'.registry protocol = some b) :
    Table.get? S.registry protocol = some b
  variants {role : Role} {seed : Builder → Seed} {t : Table Variant}
    (h : Registry.variants role seed S.registry = .ok t) :
    ∃ t', Registry.variants role seed S'.registry = .ok t' ∧ M.variants t t'
  noValues : M.values [] []
  keepValue {protocol : String} {v : BindingsValue} {vs vs' : Table BindingsValue}
    (h : Table.contains S'.registry protocol) (rest : M.values vs vs') :
    M.values ((protocol, v) :: vs) ((protocol, v) :: vs')
  leaveValue {protocol : String} {v : BindingsValue} {vs vs' : Table BindingsValue}
    (h : Table.contains S.registry protocol) (lacks : ¬ Table.contains S'.registry protocol)
    (rest : M.values vs vs') : M.values ((protocol, v) :: vs) vs'
  warn (d : Diagnostic) {name : String} {ds ds' : List Diagnostic}
    (h : M.diagnostics name ds ds') : M.diagnostics name (ds ++ [d]) (ds' ++ [d])
  /-- The settings `S'` may lack a builder. -/
  warnMore {protocol : String} (h : Table.contains S.registry protocol)
    (lacks : ¬ Table.contains S'.registry protocol) (d : Diagnostic) {name : String}
    {ds ds' : List Diagnostic} (rest : M.diagnostics name ds ds') :
    M.diagnostics name ds (ds' ++ [d])

/-- With the same builders there is no difference in what builders give. -/
theorem Margin.admits_of_registry {S S' : Settings} {V : Bool → Bool → Prop}
    {D : String → List Diagnostic → List Diagnostic → Prop} (registry : S'.registry = S.registry)
    (contentType : S'.options.contentType = S.options.contentType)
    (visible : ∀ shown direction,
      V (shown && S.options.enables direction) (shown && S'.options.enables direction))
    (warn : ∀ d name ds ds', D name ds ds' → D name (ds ++ [d]) (ds' ++ [d])) :
    Margin.Admits { visible := V, diagnostics := D } S S' where
  contentType := contentType
  visible := visible
  builder found := registry ▸ found
  variants {_ _ t} h := ⟨t, registry ▸ h, rfl⟩
  noValues := rfl
  keepValue _ rest := rest ▸ rfl
  leaveValue present absent := absurd present (registry ▸ absent)
  warn d _ _ _ h := warn d _ _ _ h
  warnMore present absent := absurd present (registry ▸ absent)

/-- The settings leave no difference to a store where nothing differs. -/
theorem Margin.admits_refl (S : Settings) : Margin.Admits {} S S :=
  Margin.admits_of_registry rfl rfl (fun _ _ => rfl) fun _ _ _ _ h => h ▸ rfl

/-! ## Entities -/

namespace Document

/-- What a builder of the registry finds in `b`, it finds in `b'`. -/
structure Bindings.Alike (r : Registry) (b b' : Option Bindings) : Prop where
  isSome : b'.isSome = b.isSome
  get? : ∀ e ∈ r,
    b'.bind (·.protocols.get? e.2.protocol) = b.bind (·.protocols.get? e.2.protocol)

/-- A bindings section is like itself for every registry. -/
theorem Bindings.Alike.refl (r : Registry) (b : Option Bindings) : Bindings.Alike r b b :=
  ⟨rfl, fun _ _ => rfl⟩

/-- There are as many messages, in the same form. -/
def OperationMessage.Alike : Option OperationMessage → Option OperationMessage → Prop
  | none, none => True
  | some (.single _), some (.single _) => True
  | some (.oneOf messages), some (.oneOf messages') => messages'.length = messages.length
  | _, _ => False

/-- What an operation says of messages is like itself. -/
theorem OperationMessage.Alike.refl (message : Option OperationMessage) :
    OperationMessage.Alike message message := by
  rcases message with _ | _ | _
  · trivial
  · rfl
  · trivial

/-- Compiling `e'` reads the same as compiling `e`, with builders of the registry.  What is inside
an entity is read by whether it is there. -/
inductive Entity.Agrees (r : Registry) : Entity → Entity → Prop where
  | refl (e : Entity) : Agrees r e e
  | document {d d' : Document} (info : d'.info = d.info) (id : d'.id = d.id)
      (contentType : d'.defaultContentType = d.defaultContentType) :
      Agrees r (.document d) (.document d')
  | server (s : Server) {bindings : Option Bindings}
      (alike : Bindings.Alike r s.bindings bindings) :
      Agrees r (.server s) (.server { s with bindings })
  | channel (ch : Channel) {publish subscribe : Option Operation} {bindings : Option Bindings}
      (publishes : publish.isSome = ch.publish.isSome)
      (subscribes : subscribe.isSome = ch.subscribe.isSome)
      (alike : Bindings.Alike r ch.bindings bindings) :
      Agrees r (.channel ch) (.channel { ch with publish, subscribe, bindings })
  | operation (o : Operation) {message : Option OperationMessage} {bindings : Option Bindings}
      (messages : OperationMessage.Alike o.message message)
      (isSome : bindings.isSome = o.bindings.isSome) :
      Agrees r (.operation o) (.operation { o with message, bindings })
  | message (m : Message) {bindings : Option Bindings}
      (alike : Bindings.Alike r m.bindings bindings) :
      Agrees r (.message m) (.message { m with bindings })

end Document

namespace Compile

open Document

variable {S S' : Settings}

/-- Variants derive from what builders find in the bindings. -/
theorem variants_congr {role : Role} {seed seed' : Builder → Seed} {r : Registry}
    (same : ∀ e ∈ r, seed' e.2 = seed e.2) :
    Registry.variants role seed' r = Registry.variants role seed r := by
  induction r with
  | nil => rfl
  | cons e rest ih =>
    rw [Registry.variants, Registry.variants, same e List.mem_cons_self,
      ih fun x hx => same x (List.mem_cons_of_mem _ hx)]

/-- The servers of a channel are promised in parallel if the channels list the same ones. -/
theorem parallel_compileServers {ch ch' : Channel} (named : ch'.servers = ch.servers) :
    Parallel S S' M M Eq ch.compileServers ch'.compileServers := by
  refine parallel_get.bind fun c c' same => ?_
  rw [same.document, named]
  cases ch.servers with
  | some names =>
    refine (parallel_mapM names fun name _ => parallel_promiseTo _ _).bind ?_
    rintro promises - rfl
    exact parallel_pure rfl
  | none =>
    refine (parallel_modifyGet (R := Eq) fun c c' same => ?_).bind ?_
    · have index : c'.store.index = c.store.index := by rw [same.store.rest]
      have lists : c'.store.lists = c.store.lists := by rw [same.store.rest]
      simp only [DocumentStore.listPromise, index, lists, same.location, same.document]
      refine ⟨trivial, same.frames, same.contentType, ?_, same.store.artifacts,
        same.store.diagnostics⟩
      simp only
      rw [same.store.rest]
    · rintro servers - rfl
      exact parallel_pure rfl

/-- The messages of an operation are promised in parallel if there are as many on both sides. -/
theorem parallel_compileMessages {o o' : Operation}
    (alike : OperationMessage.Alike o.message o'.message) :
    Parallel S S' M M Eq o.compileMessages o'.compileMessages := by
  rw [Operation.compileMessages, Operation.compileMessages]
  rcases ho : o.message with _ | messages | message <;>
    rcases ho' : o'.message with _ | messages' | message' <;> rw [ho, ho'] at alike
  all_goals try exact alike.elim
  · exact parallel_pure rfl
  · have length : messages'.length = messages.length := alike
    simp only [length]
    exact parallel_promiseItems _ _ _
  · refine (parallel_promiseChild _ _).bind ?_
    rintro promise - rfl
    exact parallel_pure rfl

/-- The root is compiled in parallel if the documents agree in what it takes from them. -/
theorem parallel_root {d d' : Document} (info : d'.info = d.info) (id : d'.id = d.id)
    (contentType : d'.defaultContentType = d.defaultContentType) :
    Parallel S S' M M Eq d.compileRoot d'.compileRoot := by
  rw [compileRoot, compileRoot, info, id, contentType]
  refine (parallel_modify fun _ _ same => ?_).bind fun _ _ _ =>
    parallel_get.bind fun c c' same => ?_
  · exact ⟨same.frames, rfl, same.store⟩
  rw [same.document]
  exact parallel_addEntity rfl rfl

/-- The shape of a schema is compiled in parallel. -/
theorem parallel_shape (s : Schema) :
    Parallel S S' M M Eq s.compileShape s.compileShape := by
  have items (path : List String) (count : Nat) (shape : List (Promise .schema) → Body.Shape) :
      Parallel S S' M M Eq (promiseItems .schema path count >>= fun ps => pure (shape ps))
        (promiseItems .schema path count >>= fun ps => pure (shape ps)) := by
    refine (parallel_promiseItems _ _ _).bind ?_
    rintro ps - rfl
    exact parallel_pure rfl
  rw [Schema.compileShape]
  cases s.form with
  | oneOf => exact items _ _ (.union · true)
  | anyOf => exact items _ _ (.union · false)
  | allOf => exact items _ _ .allOf
  | array =>
    refine (parallel_promisePart _ _ rfl).bind ?_
    rintro promised - rfl
    exact parallel_pure rfl
  | primitive | mixed | any => exact parallel_pure rfl
  | object =>
    have properties (additional : Option (Promise .schema)) :
        Parallel S S' M M Eq
          (s.compileProperties >>= fun ps => pure (Body.Shape.object ps additional))
          (s.compileProperties >>= fun ps => pure (Body.Shape.object ps additional)) := by
      refine (parallel_mapM _ fun property _ => ?_).bind ?_
      · refine (parallel_promiseChild _ _).bind ?_
        rintro promised - rfl
        exact parallel_pure rfl
      · rintro ps - rfl
        exact parallel_pure rfl
    refine (parallel_promisePart _ _ rfl).bind ?_
    rintro (_ | additional) - rfl
    · exact properties none
    · simp only
      split
      · exact parallel_pure rfl
      · exact properties (some additional)

/-- A schema is compiled in parallel, to matching artifacts. -/
theorem parallel_schema (s : Schema) : Parallel S S' M M Eq s.compile s.compile := by
  rw [Schema.compile]
  cases s.reference with
  | some reference => exact parallel_reference reference .schema s.shownAs
  | none =>
    refine parallel_get.bind fun c c' same => ?_
    rw [same.entityName, same.isSelectable]
    refine (parallel_shape s).bind ?_
    rintro shape - rfl
    exact parallel_addEntity rfl rfl

/-- A server variable is compiled in parallel. -/
theorem parallel_serverVariable (v : ServerVariable) :
    Parallel S S' M M Eq v.compile v.compile := by
  rw [ServerVariable.compile]
  cases v.reference with
  | some reference => exact parallel_reference reference .other none
  | none =>
    refine parallel_get.bind fun c c' same => ?_
    rw [same.entityName, same.isDefinition]
    exact parallel_addEntity rfl rfl

/-- A correlation id is compiled in parallel. -/
theorem parallel_correlationId (i : CorrelationId) :
    Parallel S S' M M Eq i.compile i.compile := by
  rw [CorrelationId.compile]
  cases i.reference with
  | some reference => exact parallel_reference reference .other i.shownAs
  | none =>
    refine parallel_get.bind fun c c' same => ?_
    rw [same.entityName, same.isDefinition]
    exact parallel_addEntity rfl rfl

/-- A security scheme is compiled in parallel. -/
theorem parallel_securityScheme (s : SecurityScheme) :
    Parallel S S' M M Eq s.compile s.compile := by
  rw [SecurityScheme.compile]
  cases s.reference with
  | some reference => exact parallel_reference reference .security s.shownAs
  | none =>
    refine parallel_get.bind fun c c' same => ?_
    rw [same.entityName, same.isDefinition]
    exact parallel_addEntity rfl rfl

/-- A parameter is compiled in parallel. -/
theorem parallel_parameter (p : Parameter) : Parallel S S' M M Eq p.compile p.compile := by
  rw [Parameter.compile]
  cases p.reference with
  | some reference => exact parallel_reference reference .parameter p.shownAs
  | none =>
    refine parallel_get.bind fun c c' same => ?_
    rw [same.entityName, same.isDefinition]
    refine (parallel_promisePart _ _ rfl).bind ?_
    rintro schema - rfl
    exact parallel_addEntity rfl rfl

section Entities

variable (admits : M.Admits S S')

include admits

/-- The variants of an entity are derived in parallel, from bindings that are alike for the
registry: here the margin `M.variants` is used. -/
theorem parallel_variants (role : Role) (name address : String) {b b' : Option Bindings}
    (alike : Bindings.Alike S'.registry b b') :
    Parallel S S' M M M.variants (variants role name address b)
      (variants role name address b') := by
  refine parallel_read.bind ?_
  rintro _ _ ⟨rfl, rfl⟩
  split
  · rename_i t ht
    obtain ⟨t', ht', related⟩ := admits.variants ht
    have same : Registry.variants role (fun builder => ⟨name, address,
        b'.bind (·.protocols.get? builder.protocol)⟩) _ = .ok t' :=
      (variants_congr fun e he => by rw [alike.get? e he]).trans ht'
    simp only [same]
    exact parallel_pure related
  · exact parallel_get.bind fun _ _ _ => parallel_failHook

/-- A warning about a protocol without a builder. -/
theorem parallel_unless {R : α → β → Prop} {x : Compile α} {y : Compile β} (protocol : String)
    (d : Diagnostic) (next : Parallel S S' M M' R x y) :
    Parallel S S' M M' R
      (if S.registry.contains protocol then x else diagnose d >>= fun _ => x)
      (if S'.registry.contains protocol then y else diagnose d >>= fun _ => y) := by
  by_cases known : Table.contains S'.registry protocol
  · have present : Table.contains S.registry protocol := by
      obtain ⟨b, hb⟩ := Option.isSome_iff_exists.1 known
      exact Option.isSome_iff_exists.2 ⟨b, admits.builder hb⟩
    rw [if_pos known, if_pos present]
    exact next
  · rw [if_neg known]
    by_cases present : Table.contains S.registry protocol
    · rw [if_pos present]
      exact Parallel.diagnose_right d (fun _ _ _ => admits.warnMore present known d) next
    · rw [if_neg present]
      exact (parallel_diagnose d fun _ _ _ => admits.warn d).bind fun _ _ _ => next

/-- Servers are compiled in parallel if they differ in their bindings alone, and these are
alike. -/
theorem parallel_server (s : Server) {bindings : Option Bindings}
    (alike : Bindings.Alike S'.registry s.bindings bindings) :
    Parallel S S' M M Eq s.compile (Server.compile { s with bindings }) := by
  rw [Server.compile, Server.compile]
  cases s.reference with
  | some reference => exact parallel_reference reference .server s.shownAs
  | none =>
    refine parallel_get.bind fun c c' same => ?_
    rw [same.entityName, same.location]
    refine (parallel_promiseEntries _ _ _).bind ?_
    rintro serverVariables - rfl
    refine (parallel_promiseSchemes _).bind ?_
    rintro security - rfl
    refine (parallel_promisePart _ _ alike.isSome).bind ?_
    rintro promised - rfl
    refine parallel_read.bind ?_
    rintro _ _ ⟨rfl, rfl⟩
    refine parallel_unless admits _ _ ?_
    refine (parallel_variants admits _ _ _ alike).bind fun variants variants' related => ?_
    exact parallel_addEntity rfl ⟨variants', related, rfl⟩

/-- Channels are compiled in parallel if their bindings are alike and each has the operations
that the other has.  What the operations say is of no account here. -/
theorem parallel_channel (ch : Channel) {publish subscribe : Option Operation}
    {bindings : Option Bindings} (publishes : publish.isSome = ch.publish.isSome)
    (subscribes : subscribe.isSome = ch.subscribe.isSome)
    (alike : Bindings.Alike S'.registry ch.bindings bindings) :
    Parallel S S' M M Eq ch.compile
      (Channel.compile { ch with publish, subscribe, bindings }) := by
  rw [Channel.compile, Channel.compile]
  cases ch.reference with
  | some reference => exact parallel_reference reference .channel ch.shownAs
  | none =>
    refine parallel_get.bind fun c c' same => ?_
    rw [same.entityName, same.location]
    refine (parallel_compileServers rfl).bind ?_
    rintro servers - rfl
    refine (parallel_promiseEntries _ _ _).bind ?_
    rintro parameters - rfl
    refine (parallel_promisePart _ _ publishes).bind ?_
    rintro publishing - rfl
    refine (parallel_promisePart _ _ subscribes).bind ?_
    rintro subscribing - rfl
    refine (parallel_promisePart _ _ alike.isSome).bind ?_
    rintro promised - rfl
    refine (parallel_variants admits _ _ _ alike).bind fun variants variants' related => ?_
    exact parallel_addEntity rfl ⟨variants', related, rfl⟩

/-- Operations are compiled in parallel if they carry as many messages and both or neither have
bindings. -/
theorem parallel_operation (o : Operation) {message : Option OperationMessage}
    {bindings : Option Bindings}
    (messages : OperationMessage.Alike o.message message)
    (isSome : bindings.isSome = o.bindings.isSome) :
    Parallel S S' M M Eq o.compile (Operation.compile { o with message, bindings }) := by
  refine parallel_get.bind fun c c' same => ?_
  have name : Operation.entityName { o with message, bindings } c' = o.entityName c :=
    same.operationName o
  rw [same.key?, same.location, name]
  cases c.key?.bind Direction.ofKey? with
  | none => exact parallel_throw
  | some direction =>
    cases c.location.parent? with
    | none => exact parallel_throw
    | some owner =>
      refine (parallel_promiseTo _ _).bind ?_
      rintro channel - rfl
      refine (parallel_compileMessages messages).bind ?_
      rintro promises - rfl
      refine (parallel_promiseSchemes _).bind ?_
      rintro security - rfl
      refine (parallel_promisePart _ _ isSome).bind ?_
      rintro promised - rfl
      refine parallel_read.bind ?_
      rintro _ _ ⟨rfl, rfl⟩
      exact parallel_addEntity (admits.visible _ direction) rfl

/-- Messages are compiled in parallel if they differ in their bindings alone, and these are
alike. -/
theorem parallel_message (m : Message) {bindings : Option Bindings}
    (alike : Bindings.Alike S'.registry m.bindings bindings) :
    Parallel S S' M M Eq m.compile (Message.compile { m with bindings }) := by
  rw [Message.compile, Message.compile]
  cases m.reference with
  | some reference => exact parallel_reference reference .message m.shownAs
  | none =>
    refine parallel_get.bind fun c c' same => ?_
    rw [same.entityName]
    refine parallel_read.bind ?_
    rintro _ _ ⟨rfl, rfl⟩
    rw [Context.messageContentType, Context.messageContentType, same.contentType,
      admits.contentType]
    refine (parallel_promisePart _ _ rfl).bind ?_
    rintro headers - rfl
    refine (parallel_promisePart _ _ rfl).bind ?_
    rintro payload - rfl
    refine (parallel_promisePart _ _ rfl).bind ?_
    rintro correlationId - rfl
    refine (parallel_promisePart _ _ alike.isSome).bind ?_
    rintro promised - rfl
    refine (parallel_variants admits _ _ _ alike).bind fun variants variants' related => ?_
    exact parallel_addEntity rfl ⟨variants', related, rfl⟩

/-- What is decoded, entry by entry.  A builder that only the settings `S` have leaves its value to
the first run, and a warning to the second one. -/
theorem parallel_decodeBindings (kind : BindingsKind) (entries : Table Json) :
    Parallel S S' M M M.values (decodeBindings kind entries) (decodeBindings kind entries) := by
  induction entries with
  | nil => exact parallel_pure admits.noValues
  | cons entry rest ih =>
    obtain ⟨protocol, raw⟩ := entry
    rw [decodeBindings]
    split
    · exact ih
    · refine parallel_get.bind fun c c' same => ?_
      rw [same.location]
      refine parallel_read.bind ?_
      rintro _ _ ⟨rfl, rfl⟩
      cases known : Table.get? S'.registry protocol with
      | some builder =>
        rw [admits.builder known]
        simp only
        cases builder.bindings kind raw with
        | error fault => exact parallel_failHook
        | ok value =>
          refine ih.bind fun values values' related => parallel_pure ?_
          exact admits.keepValue (Option.isSome_iff_exists.2 ⟨builder, known⟩) related
      | none =>
        have lacks : ¬ Table.contains S'.registry protocol := by simp [Table.contains, known]
        cases first : Table.get? S.registry protocol with
        | none => exact (parallel_diagnose _ fun _ _ _ => admits.warn _).bind fun _ _ _ => ih
        | some builder =>
          have present : Table.contains S.registry protocol :=
            Option.isSome_iff_exists.2 ⟨builder, first⟩
          simp only
          cases builder.bindings kind raw with
          | error fault => exact parallel_failHook
          | ok value =>
            refine Parallel.diagnose_right _ (fun _ _ _ => admits.warnMore present lacks _) ?_
            exact (ih.mono fun _ _ => admits.leaveValue present lacks).value_left

/-- A bindings section is compiled in parallel: here the margin `M.values` is used. -/
theorem parallel_bindings (kind : BindingsKind) (b : Bindings) :
    Parallel S S' M M Eq (b.compile kind) (b.compile kind) := by
  rw [Bindings.compile]
  cases b.reference with
  | some reference => exact parallel_reference reference .bindings none
  | none =>
    refine parallel_get.bind fun c c' same => ?_
    rw [same.entityName, same.isDefinition]
    refine (parallel_decodeBindings admits kind b.protocols).bind fun values values' related => ?_
    exact parallel_addEntity rfl ⟨values', related, rfl⟩

/-- **Entities that agree** are compiled in parallel. -/
theorem parallel_entity {e e' : Entity} (agrees : e.Agrees S'.registry e') :
    Parallel S S' M M Eq e.compile e'.compile := by
  cases agrees with
  | document info id contentType => exact parallel_root info id contentType
  | server s alike => exact parallel_server admits s alike
  | channel ch publishes subscribes alike =>
    exact parallel_channel admits ch publishes subscribes alike
  | operation o messages isSome => exact parallel_operation admits o messages isSome
  | message m alike => exact parallel_message admits m alike
  | refl =>
    cases e with
    | document d => exact parallel_root rfl rfl rfl
    | server s => exact parallel_server admits s (.refl _ _)
    | serverVariable v => exact parallel_serverVariable v
    | channel ch => exact parallel_channel admits ch rfl rfl (.refl _ _)
    | operation o => exact parallel_operation admits o (.refl _) rfl
    | message m => exact parallel_message admits m (.refl _ _)
    | correlationId i => exact parallel_correlationId i
    | parameter p => exact parallel_parameter p
    | securityScheme s => exact parallel_securityScheme s
    | schema s => exact parallel_schema s
    | bindings kind b => exact parallel_bindings admits kind b

/-- The same holds for visits of one place. -/
theorem parallel_visit {v v' : Visit} (frames : v'.frames = v.frames)
    (agrees : v.entity.Agrees S'.registry v'.entity) :
    Parallel S S' M M Eq v.compile v'.compile := by
  have moved : Parallel S S' M M Eq (modify ({ · with frames := v.frames }) : Compile PUnit)
      (modify ({ · with frames := v'.frames })) :=
    parallel_modify fun _ _ same => ⟨frames, same.contentType, same.store⟩
  exact moved.bind fun _ _ _ => parallel_entity admits agrees

end Entities

end Compile

/-! ## Documents -/

namespace Document

variable {S S' : Settings} {index : Nat} {name : String}

/-- **Two compilations of documents** go in parallel if the walks through their visits do. -/
theorem exists_compile_of_parallel {d d' : Document} (start : M.diagnostics name [] [])
    (walks : Compile.Parallel S S' M M' Eq ((d.outline.visits []).forM Visit.compile)
      ((d'.outline.visits []).forM Visit.compile))
    {store : DocumentStore} (h : d.compile S index name = .ok store) :
    ∃ store', d'.compile S' index name = .ok store' ∧ store.Matches M' store' := by
  have returned : Compile.Parallel S S' M' M' Eq (modify ({ · with frames := [] }) : Compile PUnit)
      (modify ({ · with frames := [] })) :=
    Compile.parallel_modify fun _ _ same => ⟨rfl, same.contentType, same.store⟩
  have parallel := walks.bind fun _ _ _ => returned
  have empty : Context.Matches M { store := .empty index name } { store := .empty index name } :=
    ⟨rfl, rfl, rfl, .nil, start⟩
  rw [Document.compile, Outline.walk] at h
  rcases run : d.outline.compile.exec S { store := .empty index name } with
    ⟨(e | words) | v, c₁⟩ <;> rw [run] at h <;> cases h
  obtain ⟨w, c₁', run', -, same⟩ := parallel _ _ v c₁ empty run
  refine ⟨c₁'.store, ?_, same.store⟩
  rw [Document.compile, Outline.walk]
  have second : d'.outline.compile.exec S' { store := .empty index name } = (.ok w, c₁') := run'
  rw [second]

/-- **A document with other settings** that admit the margin is compiled to a store that matches. -/
theorem exists_compile_of_admits {d : Document} (admits : M.Admits S S')
    (start : M.diagnostics name [] []) {store : DocumentStore}
    (h : d.compile S index name = .ok store) :
    ∃ store', d.compile S' index name = .ok store' ∧ store.Matches M store' :=
  exists_compile_of_parallel start
    (Compile.parallel_forM (List.forall₂_same.2 fun _ _ => rfl) fun v _ same => by
      subst same
      exact Compile.parallel_visit admits rfl (.refl _)) h

end Document
end ApiGraph
