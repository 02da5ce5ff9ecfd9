/-
# One identity for all spellings

A path is in normal form if none of its components is empty or a dot, and if it goes up only where
it begins, and there only if it is relative (`Path.IsNormal`).  These are the paths that normalizing
leaves as they are (`Path.isNormal_iff`).

Components are put on a stack, and going up takes one off again where there is one.  What a path
does to a stack depends on its normal form only (`Path.foldl_push_components`): a component that was
taken off before the rest was put on it would be taken off behind it as well.  So a reference may be
normalized before it is put behind a directory or not, and all its spellings lead to one document
(`Path.spellings_share_identity`).
-/

import ApiGraph.Proofs.Json.Pointers
import ApiGraph.Proofs.Location.Paths
import Mathlib.Data.List.Induction

namespace ApiGraph

/-- A text that cannot be cut has no separator. -/
theorem Text.cutAtLast?_eq_none {separator : Char} {cs : List Char}
    (h : cutAtLast? separator cs = none) : separator ∉ cs := by
  induction cs with
  | nil => exact List.not_mem_nil
  | cons c rest ih =>
    rw [cutAtLast?] at h
    split at h
    · cases h
    · rename_i cut
      split at h
      · cases h
      · rename_i other
        rw [List.mem_cons, not_or]
        exact ⟨Ne.symm other, ih cut⟩

/-- A text is cut at its last separator: none stands behind it. -/
theorem Text.cutAtLast?_eq_some {separator : Char} {cs before after : List Char}
    (h : cutAtLast? separator cs = some (before, after)) :
    cs = before ++ separator :: after ∧ separator ∉ after := by
  induction cs generalizing before with
  | nil => cases h
  | cons c rest ih =>
    rw [cutAtLast?] at h
    split at h
    · rename_i before' after' cut
      obtain ⟨rfl, rfl⟩ := Prod.mk.inj (Option.some.inj h)
      obtain ⟨split, none⟩ := ih cut
      exact ⟨by rw [split]; rfl, none⟩
    · split at h
      · rename_i cut same
        obtain ⟨rfl, rfl⟩ := Prod.mk.inj (Option.some.inj h)
        exact ⟨by rw [same]; rfl, cutAtLast?_eq_none cut⟩
      · cases h

/-- What is before a separator and what is behind it are cut apart on their own. -/
theorem Text.splitOn_append_cons (separator : Char) (before after : List Char) :
    splitOn separator (before ++ separator :: after) =
      splitOn separator before ++ splitOn separator after := by
  induction before with
  | nil => simp [splitOn]
  | cons c before ih =>
    rw [List.cons_append, splitOn, splitOn, ih]
    split
    · rfl
    · cases cut : splitOn separator before with
      | nil => exact absurd cut (splitOn_ne_nil _ _)
      | cons piece pieces => rfl

namespace Path

/-- The component that leads one step up. -/
abbrev up : List Char := ['.', '.']

/-- A path with these components. -/
def spell (absolute : Bool) (components : List (List Char)) : List Char :=
  if absolute then '/' :: join components else join components

/-- What a path consists of behind the slash of an absolute one. -/
def body (path : List Char) : List Char :=
  if isAbsolute path then path.tail else path

/-- The components of a path as it is written.  The empty path and the root have none. -/
def written (path : List Char) : List (List Char) :=
  if body path = [] then [] else Text.splitOn '/' (body path)

/-- The components go up only in the beginning, and from the root not at all. -/
def Climbs (absolute : Bool) (components : List (List Char)) : Prop :=
  ∃ ups downs, components = List.replicate ups up ++ downs ∧ up ∉ downs ∧
    (absolute = true → ups = 0)

/-- A path is in normal form. -/
structure IsNormal (path : List Char) : Prop where
  /-- No component is empty or a dot. -/
  proper : ∀ component ∈ written path, component ≠ [] ∧ component ≠ ['.']
  /-- It goes up only in the beginning, and only if it is relative. -/
  climbs : Climbs (isAbsolute path) (written path)

variable {absolute : Bool} {component path : List Char} {stack pieces : List (List Char)}

/-! ## The stack -/

/-- An empty component and a dot are skipped. -/
theorem push_skip (h : component = [] ∨ component = ['.']) :
    push absolute stack component = stack := by
  unfold push
  rw [if_pos h]

/-- Any other component is put on the stack, unless it goes up. -/
theorem push_down (proper : component ≠ [] ∧ component ≠ ['.']) (down : component ≠ up) :
    push absolute stack component = component :: stack := by
  unfold push
  rw [if_neg (not_or.2 proper), if_neg down]

/-- Going up from an empty stack stays at the root of an absolute path, and is kept in a
relative one. -/
theorem push_up_nil : push absolute [] up = if absolute then [] else [up] := by
  simp [push]

/-- Going up takes a component off that does not go up itself. -/
theorem push_up_down (h : component ≠ up) : push absolute (component :: stack) up = stack := by
  simp [push, h]

/-- Behind one that goes up, another one is kept as well. -/
theorem push_up_up :
    push absolute (up :: stack) up = if absolute then up :: stack else up :: up :: stack := by
  simp [push]

/-- The last component is pushed last. -/
theorem foldl_concat (absolute : Bool) (stack pieces : List (List Char)) (piece : List Char) :
    (pieces ++ [piece]).foldl (push absolute) stack =
      push absolute (pieces.foldl (push absolute) stack) piece := by
  rw [List.foldl_append, List.foldl_cons, List.foldl_nil]

/-- Only proper components are put on a stack. -/
theorem proper_foldl_push (absolute : Bool) (pieces : List (List Char)) :
    ∀ x ∈ pieces.foldl (push absolute) [], x ≠ [] ∧ x ≠ ['.'] := by
  refine List.foldlRecOn pieces (push absolute)
    (motive := fun stack => ∀ x ∈ stack, x ≠ [] ∧ x ≠ ['.']) (by simp) ?_
  intro stack proper piece _ x hx
  rcases of_mem_push hx with hx | ⟨rfl, added⟩
  · exact proper x hx
  · exact added

/-- **What a path does to a stack depends on its normal form only.** -/
theorem foldl_push_components (absolute : Bool) (stack pieces : List (List Char)) :
    (pieces.foldl (push false) []).reverse.foldl (push absolute) stack =
      pieces.foldl (push absolute) stack := by
  induction pieces using List.reverseRecOn with
  | nil => rfl
  | append_singleton pieces piece ih =>
    have proper := proper_foldl_push false pieces
    rw [foldl_concat, foldl_concat, ← ih]
    generalize pieces.foldl (push false) [] = kept at proper ⊢
    by_cases idle : piece = [] ∨ piece = ['.']
    · rw [push_skip idle, push_skip idle]
    by_cases rises : piece = up
    · subst rises
      rcases kept with _ | ⟨last, before⟩
      · rfl
      · by_cases top : last = up
        · rw [top, push_up_up, if_neg Bool.false_ne_true, List.reverse_cons, foldl_concat]
        · -- the component that it takes off was put on just before
          have last_proper := proper last List.mem_cons_self
          rw [push_up_down top, List.reverse_cons, foldl_concat, push_down last_proper top,
            push_up_down top]
    · rw [push_down (not_or.1 idle) rises, List.reverse_cons, foldl_concat]

/-- Going down from a stack puts all components on it. -/
theorem foldl_push_downs (proper : ∀ x ∈ pieces, x ≠ [] ∧ x ≠ ['.']) (downs : up ∉ pieces) :
    pieces.foldl (push absolute) stack = pieces.reverse ++ stack := by
  induction pieces generalizing stack with
  | nil => rfl
  | cons piece pieces ih =>
    rw [List.mem_cons, not_or] at downs
    rw [List.foldl_cons, push_down (proper piece List.mem_cons_self) (Ne.symm downs.1),
      ih (fun x hx => proper x (List.mem_cons_of_mem _ hx)) downs.2]
    simp

/-- Going up from the beginning of a relative path is kept. -/
theorem foldl_push_ups (ups : Nat) :
    (List.replicate ups up).foldl (push false) [] = List.replicate ups up := by
  induction ups with
  | zero => rfl
  | succ ups ih =>
    rw [List.replicate_succ', foldl_concat, ih, ← List.replicate_succ']
    cases ups with
    | zero => rfl
    | succ ups => rw [List.replicate_succ, push_up_up, if_neg Bool.false_ne_true]; rfl

/-- Components in normal form are kept as they are. -/
theorem foldl_push_normal (proper : ∀ x ∈ pieces, x ≠ [] ∧ x ≠ ['.'])
    (climbs : Climbs absolute pieces) : pieces.foldl (push absolute) [] = pieces.reverse := by
  obtain ⟨ups, downs, rfl, down, root⟩ := climbs
  have below : downs.foldl (push absolute) (List.replicate ups up) =
      downs.reverse ++ List.replicate ups up :=
    foldl_push_downs (fun x hx => proper x (List.mem_append_right _ hx)) down
  have first : (List.replicate ups up).foldl (push absolute) [] = List.replicate ups up := by
    cases absolute with
    | true =>
      rw [root rfl]
      rfl
    | false => exact foldl_push_ups ups
  rw [List.foldl_append, first, below]
  simp

/-- A stack of components goes up only at its bottom. -/
theorem climbs_push (h : Climbs absolute stack.reverse) :
    Climbs absolute (push absolute stack component).reverse := by
  obtain ⟨ups, downs, same, down, root⟩ := h
  by_cases idle : component = [] ∨ component = ['.']
  · rw [push_skip idle]
    exact ⟨ups, downs, same, down, root⟩
  by_cases rises : component = up
  · subst rises
    rcases List.eq_nil_or_concat downs with rfl | ⟨before, last, rfl⟩
    · -- there is nothing but steps up
      obtain rfl : stack = List.replicate ups up := by
        rw [← List.reverse_reverse stack, same]
        simp
      cases ups with
      | zero =>
        rw [List.replicate_zero, push_up_nil]
        cases absolute with
        | true => exact ⟨0, [], rfl, by simp, fun _ => rfl⟩
        | false => exact ⟨1, [], rfl, by simp, by simp⟩
      | succ ups =>
        have relative : absolute = false := by
          rw [← Bool.not_eq_true]
          exact fun h => Nat.succ_ne_zero _ (root h)
        subst relative
        rw [List.replicate_succ, push_up_up, if_neg Bool.false_ne_true]
        exact ⟨ups + 2, [], by simp [List.replicate_succ'], by simp, by simp⟩
    · rw [List.concat_eq_append] at same down
      obtain rfl : stack = last :: (List.replicate ups up ++ before).reverse := by
        rw [← List.reverse_reverse stack, same]
        simp
      rw [List.mem_append, not_or, List.mem_singleton] at down
      rw [push_up_down (Ne.symm down.2), List.reverse_reverse]
      exact ⟨ups, before, rfl, down.1, root⟩
  · rw [push_down (not_or.1 idle) rises, List.reverse_cons, same, List.append_assoc]
    exact ⟨ups, downs ++ [component], rfl, by simp [down, Ne.symm rises], root⟩

/-- A path goes up only where it begins. -/
theorem climbs_foldl_push (absolute : Bool) (pieces : List (List Char)) :
    Climbs absolute (pieces.foldl (push absolute) []).reverse :=
  List.foldlRecOn pieces (push absolute) (motive := fun stack => Climbs absolute stack.reverse)
    ⟨0, [], rfl, by simp, fun _ => rfl⟩ fun _ climbs _ _ => climbs_push climbs

/-! ## Components that are written -/

/-- A normal form is spelled by its components. -/
theorem normalizeChars_eq (path : List Char) :
    normalizeChars path = spell (isAbsolute path) (components path) := rfl

/-- An absolute path begins with a slash. -/
theorem eq_cons_of_isAbsolute (h : isAbsolute path = true) : path = '/' :: body path := by
  obtain ⟨rest, rfl⟩ : ∃ rest, path = '/' :: rest :=
    List.head?_eq_some_iff.1 (by simpa [isAbsolute] using h)
  rfl

/-- A relative path has no slash before its body. -/
theorem body_eq_self (h : isAbsolute path = false) : body path = path := by
  rw [body, h, if_neg Bool.false_ne_true]

/-- A path is spelled by its components. -/
theorem spell_written (path : List Char) : spell (isAbsolute path) (written path) = path := by
  have joined : join (written path) = body path := by
    rw [written]
    split
    · rename_i empty
      exact empty.symm
    · rw [Text.splitOn_eq_splitOn]
      exact List.intercalate_splitOn _
  rw [spell, joined]
  split
  · rename_i absolute
    exact (eq_cons_of_isAbsolute absolute).symm
  · rename_i relative
    exact body_eq_self (Bool.not_eq_true _ ▸ relative)

section Spelled

variable (proper : ∀ x ∈ pieces, x ≠ []) (plain : ∀ x ∈ pieces, '/' ∉ x)

include proper plain

/-- What is spelled as an absolute path is absolute. -/
theorem isAbsolute_spell : isAbsolute (spell absolute pieces) = absolute := by
  cases absolute with
  | true => rfl
  | false =>
    rw [← Bool.not_eq_true]
    intro slash
    have start := eq_cons_of_isAbsolute slash
    -- nothing would stand before the slash
    cases pieces with
    | nil => cases slash
    | cons piece more =>
      have cut := splitOn_join (List.cons_ne_nil piece more) plain
      rw [show join (piece :: more) = spell false (piece :: more) from rfl, start, Text.splitOn,
        if_pos rfl] at cut
      exact proper piece List.mem_cons_self (List.cons.inj cut).1.symm

/-- The components that are spelled are those that stand there. -/
theorem written_spell : written (spell absolute pieces) = pieces := by
  have inner : body (spell absolute pieces) = join pieces := by
    rw [body, isAbsolute_spell proper plain]
    cases absolute <;> rfl
  rw [written, inner]
  cases pieces with
  | nil => rfl
  | cons piece more =>
    have cut := splitOn_join (List.cons_ne_nil piece more) plain
    rw [cut, if_neg]
    intro empty
    rw [empty] at cut
    exact proper piece List.mem_cons_self (List.cons.inj cut).1.symm

end Spelled

/-- The components of the normal form are what the written ones put on a stack. -/
theorem components_eq (path : List Char) :
    components path = ((written path).foldl (push (isAbsolute path)) []).reverse := by
  have behind : (Text.splitOn '/' path).foldl (push (isAbsolute path)) [] =
      (Text.splitOn '/' (body path)).foldl (push (isAbsolute path)) [] := by
    cases absolute : isAbsolute path with
    | true =>
      conv_lhs => rw [eq_cons_of_isAbsolute absolute, Text.splitOn, if_pos rfl, List.foldl_cons,
        push_skip (.inl rfl)]
    | false => rw [body_eq_self absolute]
  rw [components, behind, written]
  split
  · rename_i empty
    rw [empty, Text.splitOn, List.foldl_cons, push_skip (.inl rfl)]
  · rfl

/-! ## Normal forms -/

/-- No component of a normal form is empty. -/
theorem ne_nil_of_mem_components {x : List Char} (h : x ∈ components path) : x ≠ [] :=
  (of_mem_components h).2.1

/-- No component has a slash in it. -/
theorem slash_notMem_of_mem_components {x : List Char} (h : x ∈ components path) : '/' ∉ x :=
  Text.notMem_of_mem_splitOn (of_mem_components h).1

/-- A path is absolute if its normal form is. -/
theorem isAbsolute_normalizeChars (path : List Char) :
    isAbsolute (normalizeChars path) = isAbsolute path :=
  isAbsolute_spell (fun _ => ne_nil_of_mem_components) fun _ => slash_notMem_of_mem_components

/-- The normal form is written as the components of the path. -/
theorem written_normalizeChars (path : List Char) :
    written (normalizeChars path) = components path :=
  written_spell (fun _ => ne_nil_of_mem_components) fun _ => slash_notMem_of_mem_components

/-- **What is normalized is in normal form.** -/
theorem isNormal_normalizeChars (path : List Char) : IsNormal (normalizeChars path) where
  proper := by
    rw [written_normalizeChars]
    exact fun x hx => (of_mem_components hx).2
  climbs := by
    rw [written_normalizeChars, isAbsolute_normalizeChars, components_eq]
    exact climbs_foldl_push _ _

/-- **A path is in normal form** where normalizing leaves it as it is. -/
theorem isNormal_iff : IsNormal path ↔ normalizeChars path = path := by
  constructor
  · intro h
    rw [normalizeChars_eq, components_eq, foldl_push_normal h.proper h.climbs, List.reverse_reverse,
      spell_written]
  · intro same
    rw [← same]
    exact isNormal_normalizeChars path

/-- Paths have one normal form if they are both absolute or both relative, and have the same
components in it. -/
theorem components_eq_of_normalizeChars_eq {path' : List Char}
    (h : normalizeChars path = normalizeChars path') : components path = components path' := by
  rw [← written_normalizeChars, h, written_normalizeChars]

/-! ## References -/

/-- Where a relative reference stands behind a directory, all that matters is its normal form. -/
theorem normalizeChars_behind (directory : List Char) {reference reference' : List Char}
    (relative : isAbsolute reference = false) (relative' : isAbsolute reference' = false)
    (same : normalizeChars reference = normalizeChars reference') :
    normalizeChars (directory ++ '/' :: reference) =
      normalizeChars (directory ++ '/' :: reference') := by
  have start (r : List Char) :
      isAbsolute (directory ++ '/' :: r) = isAbsolute (directory ++ ['/']) := by
    cases directory <;> rfl
  have pushed (r : List Char) (h : isAbsolute r = false) (absolute : Bool) :
      (Text.splitOn '/' (directory ++ '/' :: r)).foldl (push absolute) [] =
        (components r).foldl (push absolute)
          ((Text.splitOn '/' directory).foldl (push absolute) []) := by
    rw [Text.splitOn_append_cons, List.foldl_append, components, h, foldl_push_components]
  have kept := components_eq_of_normalizeChars_eq same
  rw [normalizeChars_eq, normalizeChars_eq, components, components, start reference,
    start reference', pushed _ relative, pushed _ relative', kept]

/-- What a reference leads to, seen from a document in normal form. -/
theorem toList_resolve {current : String} (normal : IsNormal current.toList) (reference : String)
    (path : isUrl reference.toList = false) :
    (resolve current reference).toList =
      if isAbsolute reference.toList then normalizeChars reference.toList
      else match Text.cutAtLast? '/' current.toList with
        | none => normalizeChars reference.toList
        | some (directory, _) => normalizeChars (directory ++ '/' :: reference.toList) := by
  have local_ : isUrl current.toList = false := by
    rw [← isNormal_iff.1 normal]
    exact isUrl_normalizeChars _
  rw [resolve, path, local_]
  split <;> rename_i h
  · cases h
  · split <;> rename_i h
    · simp [normalize]
    · cases Text.cutAtLast? '/' current.toList <;> simp [normalize]

/-- The last component of a path. -/
def fileName (path : String) : String :=
  String.ofList ((Text.splitOn '/' path.toList).getLastD [])

/-- The last component of a path leads to it, from the directory that it is in. -/
theorem resolve_fileName {current : String} (normal : IsNormal current.toList) :
    resolve current (fileName current) = current := by
  have kept := isNormal_iff.1 normal
  -- the last component is no URL and no absolute path, as there is no slash in it
  have plain {name : List Char} (h : '/' ∉ name) :
      isUrl name = false ∧ isAbsolute name = false := by
    constructor
    · rw [← Bool.not_eq_true]
      intro url
      have between := nil_mem_tail_of_isUrl url
      rw [Text.splitOn_of_notMem h] at between
      cases between
    · cases name with
      | nil => rfl
      | cons c rest =>
        rw [← Bool.not_eq_true]
        intro slash
        exact h (eq_cons_of_isAbsolute slash ▸ List.mem_cons_self)
  apply String.toList_inj.1
  cases cut : Text.cutAtLast? '/' current.toList with
  | none =>
    have none := Text.cutAtLast?_eq_none cut
    have name : fileName current = current := by
      rw [fileName, Text.splitOn_of_notMem none]
      exact String.ofList_toList
    rw [name, toList_resolve normal _ (plain none).1, (plain none).2, if_neg Bool.false_ne_true,
      cut]
    exact kept
  | some parts =>
    obtain ⟨directory, name⟩ := parts
    obtain ⟨split, none⟩ := Text.cutAtLast?_eq_some cut
    have last : (fileName current).toList = name := by
      rw [fileName, split, Text.splitOn_append_cons, Text.splitOn_of_notMem none]
      simp
    rw [toList_resolve normal _ (last ▸ (plain none).1), last, (plain none).2,
      if_neg Bool.false_ne_true, cut]
    exact split ▸ kept

/-- **All spellings share one identity.**  Normalizing a second time changes nothing, and gives a
path in normal form.  What is referred to from a document in normal form is in normal form as well,
it is one document for all spellings of a reference, and the last component of the document's own
path leads to the document. -/
theorem spellings_share_identity :
    (∀ path, normalize (normalize path) = normalize path ∧ IsNormal (normalize path).toList) ∧
    ∀ current : String, IsNormal current.toList →
      (∀ reference, isUrl reference.toList = false →
        IsNormal (resolve current reference).toList) ∧
      (∀ reference reference', isUrl reference.toList = false → isUrl reference'.toList = false →
        isAbsolute reference.toList = isAbsolute reference'.toList →
        normalize reference = normalize reference' →
        resolve current reference = resolve current reference') ∧
      resolve current (fileName current) = current := by
  refine ⟨fun path => ?_, fun current normal => ⟨fun r path => ?_, ?_, resolve_fileName normal⟩⟩
  · have form : IsNormal (normalize path).toList := by
      rw [normalize, String.toList_ofList]
      exact isNormal_normalizeChars path.toList
    refine ⟨?_, form⟩
    rw [normalize, isNormal_iff.1 form, String.ofList_toList]
  · rw [toList_resolve normal r path]
    split
    · exact isNormal_normalizeChars _
    · split <;> exact isNormal_normalizeChars _
  · intro r r' path path' alike same
    have same' : normalizeChars r.toList = normalizeChars r'.toList := String.ofList_inj.1 same
    apply String.toList_inj.1
    rw [toList_resolve normal r path, toList_resolve normal r' path', ← alike]
    split
    · exact same'
    · rename_i relative
      rw [Bool.not_eq_true] at relative
      split
      · exact same'
      · exact normalizeChars_behind _ relative (alike ▸ relative) same'

/-- From a document above the root's directory, by spellings with steps up and down in them. -/
theorem spellings_share_identity_above :
    normalize (normalize "/../a//./b/") = normalize "/../a//./b/" ∧
    IsNormal "../shared/a.json".toList ∧
    IsNormal (resolve "../shared/a.json" "x/../../b.json").toList ∧
    resolve "../shared/a.json" "x/../../b.json" = resolve "../shared/a.json" ".././b.json" ∧
    resolve "../shared/a.json" (fileName "../shared/a.json") = "../shared/a.json" := by
  obtain ⟨normalized, resolved⟩ := spellings_share_identity
  have normal : IsNormal "../shared/a.json".toList := isNormal_iff.2 (by decide +kernel)
  obtain ⟨form, same, own⟩ := resolved _ normal
  exact ⟨(normalized _).1, normal, form _ (by decide +kernel),
    same _ _ (by decide +kernel) (by decide +kernel) (by decide +kernel) (by decide +kernel), own⟩

end Path
end ApiGraph
