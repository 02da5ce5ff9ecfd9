/-
# Complete trees and their tokens

The tree of a text is complete if skipping it meets no fault: every array and object in it is
closed (`Source.complete_iff_skip`).  A complete tree says of a text which tokens it has
(`Source.tokens`), but for the blanks and the spelling of what they stand for.

The machine is right in both directions.  Where a value has to come, it takes the tokens of a
complete tree and puts the tree into the innermost open container (`Source.takes`).  And a text
with a complete tree has no other tokens than those of the tree: a state of the machine stands for
the tokens that led to it, which every step keeps up to date (`Source.Progress.Accounts`).
-/

import ApiGraph.Json.Source
import ApiGraph.Proofs.Json.Literals

namespace ApiGraph

/-- Reading meets no fault at the end of an array just if a bracket closes it. -/
theorem ArrayEnd.reading_eq_none_iff {ending : ArrayEnd} :
    ending.reading = none ↔ ending = .closed := by
  cases ending <;> simp [reading]

/-- Nor does skipping. -/
theorem ArrayEnd.skipping_eq_none_iff {ending : ArrayEnd} :
    ending.skipping = none ↔ ending = .closed := by
  cases ending <;> simp [skipping]

/-- Nor does a reader who wants no more items. -/
theorem ArrayEnd.closing_eq_none_iff {ending : ArrayEnd} :
    ending.closing = none ↔ ending = .closed := by
  cases ending <;> simp [closing]

/-- Reading meets no fault at the end of an object just if a brace closes it. -/
theorem ObjectEnd.reading_eq_none_iff {ending : ObjectEnd} :
    ending.reading = none ↔ ending = .closed := by
  cases ending <;> simp [reading]

/-- Nor does skipping. -/
theorem ObjectEnd.skipping_eq_none_iff {ending : ObjectEnd} :
    ending.skipping = none ↔ ending = .closed := by
  cases ending <;> simp [skipping]

namespace Source

open Token

/-! ## Complete trees -/

mutual

/-- Induction over trees. -/
@[elab_as_elim]
theorem induct {P : Source → Prop} (scalar : ∀ x, P (scalar x)) (string : ∀ t, P (string t))
    (broken : ∀ reading skipping, P (broken reading skipping))
    (array : ∀ items ending, (∀ s ∈ items, P s) → P (array items ending))
    (object : ∀ members ending, (∀ m ∈ members, P m.2) → P (object members ending)) : ∀ s, P s
  | .scalar x => scalar x
  | .string t => string t
  | .broken reading skipping => broken reading skipping
  | .array items ending =>
    array items ending (induct_items scalar string broken array object items)
  | .object members ending =>
    object members ending (induct_members scalar string broken array object members)

/-- Induction over the items of an array. -/
theorem induct_items {P : Source → Prop} (scalar : ∀ x, P (.scalar x)) (string : ∀ t, P (.string t))
    (broken : ∀ reading skipping, P (.broken reading skipping))
    (array : ∀ items ending, (∀ s ∈ items, P s) → P (.array items ending))
    (object : ∀ members ending, (∀ m ∈ members, P m.2) → P (.object members ending)) :
    ∀ items : List Source, ∀ s ∈ items, P s
  | [] => by simp
  | s :: items => List.forall_mem_cons.2
    ⟨induct scalar string broken array object s,
      induct_items scalar string broken array object items⟩

/-- Induction over the members of an object. -/
theorem induct_members {P : Source → Prop} (scalar : ∀ x, P (.scalar x))
    (string : ∀ t, P (.string t)) (broken : ∀ reading skipping, P (.broken reading skipping))
    (array : ∀ items ending, (∀ s ∈ items, P s) → P (.array items ending))
    (object : ∀ members ending, (∀ m ∈ members, P m.2) → P (.object members ending)) :
    ∀ members : List (Except Fault String × Source), ∀ m ∈ members, P m.2
  | [] => by simp
  | (_, s) :: members => List.forall_mem_cons.2
    ⟨induct scalar string broken array object s,
      induct_members scalar string broken array object members⟩

end

/-- Every array and object of the tree is closed, and nothing in it breaks off. -/
inductive Complete : Source → Prop
  | scalar (value : Except Fault Scalar) : Complete (.scalar value)
  | string (text : Except Fault String) : Complete (.string text)
  | array {items : List Source} (each : ∀ s ∈ items, Complete s) : Complete (.array items .closed)
  | object {members : List (Except Fault String × Source)} (each : ∀ m ∈ members, Complete m.2) :
    Complete (.object members .closed)

variable {s v : Source} {items : List Source} {members : List (Except Fault String × Source)}

/-- An array is complete if its items are and a bracket closes it. -/
theorem complete_array_iff {ending : ArrayEnd} :
    (Source.array items ending).Complete ↔ (∀ s ∈ items, s.Complete) ∧ ending = .closed := by
  constructor
  · rintro (_ | _ | each)
    exact ⟨each, rfl⟩
  · rintro ⟨each, rfl⟩
    exact .array each

/-- An object is complete if its members are and a brace closes it. -/
theorem complete_object_iff {ending : ObjectEnd} :
    (Source.object members ending).Complete ↔
      (∀ m ∈ members, m.2.Complete) ∧ ending = .closed := by
  constructor
  · rintro (_ | _ | _ | each)
    exact ⟨each, rfl⟩
  · rintro ⟨each, rfl⟩
    exact .object each

/-- Items are skipped without a fault if each of them is. -/
theorem skipItems_eq_none_iff : skipItems items = none ↔ ∀ s ∈ items, s.skip = none := by
  induction items with
  | nil => simp [skipItems]
  | cons s items ih => rw [skipItems, Option.or_eq_none_iff, ih, List.forall_mem_cons]

/-- Members are skipped without a fault if each value is.  Their keys are of no account. -/
theorem skipMembers_eq_none_iff : skipMembers members = none ↔ ∀ m ∈ members, m.2.skip = none := by
  induction members with
  | nil => simp [skipMembers]
  | cons m members ih => rw [skipMembers, Option.or_eq_none_iff, ih, List.forall_mem_cons]

/-- **A tree is complete if skipping it meets no fault.** -/
theorem complete_iff_skip : s.Complete ↔ s.skip = none := by
  induction s using induct with
  | scalar x => exact iff_of_true (.scalar x) rfl
  | string t => exact iff_of_true (.string t) rfl
  | broken reading skipping => exact iff_of_false nofun nofun
  | array items ending ih =>
    rw [skip, Option.or_eq_none_iff, skipItems_eq_none_iff, ArrayEnd.skipping_eq_none_iff,
      complete_array_iff, forall₂_congr ih]
  | object members ending ih =>
    rw [skip, Option.or_eq_none_iff, skipMembers_eq_none_iff, ObjectEnd.skipping_eq_none_iff,
      complete_object_iff, forall₂_congr ih]

/-! ## Tokens -/

mutual

/-- The tokens of a complete tree. -/
def tokens : Source → List Token
  | .scalar value => [.scalar value]
  | .string text => [.string text]
  | .broken reading skipping => [.broken reading skipping]
  | .array items _ => .openArray :: [comma].intercalate (itemsTokens items) ++ [.closeArray]
  | .object members _ =>
    .openObject :: [comma].intercalate (membersTokens members) ++ [.closeObject]

/-- The tokens of items. -/
def itemsTokens : List Source → List (List Token)
  | [] => []
  | s :: items => s.tokens :: itemsTokens items

/-- The tokens of members. -/
def membersTokens : List (Except Fault String × Source) → List (List Token)
  | [] => []
  | (key, s) :: members => (.string key :: .colon :: s.tokens) :: membersTokens members

end

/-- The tokens of a member. -/
def memberTokens (m : Except Fault String × Source) : List Token :=
  .string m.1 :: .colon :: m.2.tokens

/-- The tokens of an array are its items' ones between commas, in brackets. -/
theorem tokens_array (items : List Source) (ending : ArrayEnd) :
    (Source.array items ending).tokens =
      .openArray :: [comma].intercalate (items.map tokens) ++ [.closeArray] := by
  have each : itemsTokens items = items.map tokens := by
    induction items with
    | nil => rfl
    | cons s items ih => rw [itemsTokens, ih, List.map_cons]
  rw [tokens, each]

/-- The tokens of an object are its members' ones between commas, in braces. -/
theorem tokens_object (members : List (Except Fault String × Source)) (ending : ObjectEnd) :
    (Source.object members ending).tokens =
      .openObject :: [comma].intercalate (members.map memberTokens) ++ [.closeObject] := by
  have each : membersTokens members = members.map memberTokens := by
    induction members with
    | nil => rfl
    | cons m members ih => rw [membersTokens, ih, List.map_cons, memberTokens]
  rw [tokens, each]

/-! ## The machine takes the tokens of a tree -/

/-- What a step led to, with the tokens behind it. -/
def Progress.over (rest : List Token) : Progress → Source × Bool
  | .next state => ofTokensFrom state rest
  | .complete v => (v, !rest.isEmpty)
  | .stuck v => (v, false)

/-- The machine takes one token after the other. -/
theorem ofTokensFrom_cons (state : Reading) (t : Token) (rest : List Token) :
    ofTokensFrom state (t :: rest) = (state.step t).over rest := by
  rw [ofTokensFrom]
  cases state.step t <;> rfl

/-- Behind an item that was put into an array, a comma or the bracket has to come. -/
theorem over_place_array (v : Source) (items : List Source) (outer : List Frame)
    (rest : List Token) :
    (place v (.array items :: outer)).over rest =
      ofTokensFrom (.afterItem (v :: items) outer) rest := rfl

/-- Behind a member that was put into an object, a comma or the brace has to come. -/
theorem over_place_member (v : Source) (members : List (Except Fault String × Source))
    (key : Except Fault String) (outer : List Frame) (rest : List Token) :
    (place v (.member members key :: outer)).over rest =
      ofTokensFrom (.afterMember ((key, v) :: members) outer) rest := rfl

/-- The machine goes on from the state that a step led to. -/
theorem over_next (state : Reading) (rest : List Token) :
    (Progress.next state).over rest = ofTokensFrom state rest := rfl

/-- Where a value has to come, the tree is put into the innermost open container. -/
def Takes (v : Source) : Prop :=
  ∀ outer rest, ofTokensFrom (.value outer) (v.tokens ++ rest) = (place v outer).over rest

variable {outer : List Frame} {rest : List Token}

/-- A complete tree does not begin with a bracket that closes. -/
theorem Complete.exists_tokens_eq_cons (h : v.Complete) :
    ∃ t ts, v.tokens = t :: ts ∧ t ≠ .closeArray := by
  cases h with
  | scalar value => exact ⟨_, _, rfl, nofun⟩
  | string text => exact ⟨_, _, rfl, nofun⟩
  | array each => exact ⟨_, _, tokens_array _ _, nofun⟩
  | object each => exact ⟨_, _, tokens_object _ _, nofun⟩

/-- Where an item may come, a complete tree begins one. -/
theorem ofTokensFrom_item (h : v.Complete) (before : List Source) (afterComma : Bool) :
    ofTokensFrom (.item before afterComma outer) (v.tokens ++ rest) =
      ofTokensFrom (.value (.array before :: outer)) (v.tokens ++ rest) := by
  obtain ⟨t, ts, tokens, opens⟩ := h.exists_tokens_eq_cons
  rw [tokens, List.cons_append, ofTokensFrom_cons, ofTokensFrom_cons]
  congr 1
  cases t <;> cases afterComma <;> first | rfl | exact absurd rfl opens

/-- The items of an array are taken one after the other, up to the bracket that closes it:
`before` are those that were taken, the last one first. -/
theorem ofTokensFrom_items (complete : ∀ v ∈ items, v.Complete) (each : ∀ v ∈ items, Takes v)
    (h : items ≠ []) (before : List Source) (afterComma : Bool) :
    ofTokensFrom (.item before afterComma outer)
        ([comma].intercalate (items.map tokens) ++ .closeArray :: rest) =
      (place (.array (before.reverse ++ items) .closed) outer).over rest := by
  induction items generalizing before afterComma with
  | nil => exact absurd rfl h
  | cons v items ih =>
    obtain ⟨whole, wholes⟩ := List.forall_mem_cons.1 complete
    obtain ⟨first, others⟩ := List.forall_mem_cons.1 each
    cases items with
    | nil =>
      simp only [List.map_cons, List.map_nil, List.intercalate_singleton]
      rw [ofTokensFrom_item whole, first, over_place_array, ofTokensFrom_cons]
      simp only [Reading.step, List.reverse_cons]
    | cons w items =>
      have later := ih wholes others (List.cons_ne_nil w items) (v :: before) true
      simp only [List.map_cons, List.intercalate_cons_cons, List.append_assoc,
        List.cons_append, List.nil_append, List.reverse_cons] at later ⊢
      rw [ofTokensFrom_item whole, first, over_place_array, ofTokensFrom_cons]
      simp only [Reading.step, over_next]
      exact later

/-- An array is taken if its items are. -/
theorem takes_array (complete : ∀ v ∈ items, v.Complete) (each : ∀ v ∈ items, Takes v) :
    Takes (.array items .closed) := by
  intro outer rest
  rw [tokens_array, List.append_assoc, List.cons_append, ofTokensFrom_cons]
  simp only [Reading.step, stepValue, over_next, List.singleton_append]
  cases items with
  | nil => rfl
  | cons v items => exact ofTokensFrom_items complete each (List.cons_ne_nil v items) [] false

/-- Where a key may come, a member is taken: its key, the colon, and its value. -/
theorem ofTokensFrom_member {key : Except Fault String} (h : Takes v)
    (before : List (Except Fault String × Source)) (afterComma : Bool) :
    ofTokensFrom (.key before afterComma outer) (memberTokens (key, v) ++ rest) =
      ofTokensFrom (.afterMember ((key, v) :: before) outer) rest := by
  have named : (Reading.key before afterComma outer).step (.string key) =
      .next (.colon before key outer) := by cases afterComma <;> rfl
  rw [memberTokens, List.cons_append, List.cons_append, ofTokensFrom_cons, named, over_next,
    ofTokensFrom_cons]
  simp only [Reading.step, over_next]
  rw [h, over_place_member]

/-- The members of an object are taken one after the other, up to the brace that closes it:
`before` are those that were taken, the last one first. -/
theorem ofTokensFrom_members (each : ∀ m ∈ members, Takes m.2) (h : members ≠ [])
    (before : List (Except Fault String × Source)) (afterComma : Bool) :
    ofTokensFrom (.key before afterComma outer)
        ([comma].intercalate (members.map memberTokens) ++ .closeObject :: rest) =
      (place (.object (before.reverse ++ members) .closed) outer).over rest := by
  induction members generalizing before afterComma with
  | nil => exact absurd rfl h
  | cons m members ih =>
    obtain ⟨first, others⟩ := List.forall_mem_cons.1 each
    cases members with
    | nil =>
      simp only [List.map_cons, List.map_nil, List.intercalate_singleton]
      rw [ofTokensFrom_member first, ofTokensFrom_cons]
      simp only [Reading.step, List.reverse_cons]
    | cons m' members =>
      have later := ih others (List.cons_ne_nil m' members) (m :: before) true
      simp only [List.map_cons, List.intercalate_cons_cons, List.append_assoc,
        List.cons_append, List.nil_append, List.reverse_cons] at later ⊢
      rw [ofTokensFrom_member first, ofTokensFrom_cons]
      simp only [Reading.step, over_next]
      exact later

/-- An object is taken if the values of its members are. -/
theorem takes_object (each : ∀ m ∈ members, Takes m.2) : Takes (.object members .closed) := by
  intro outer rest
  rw [tokens_object, List.append_assoc, List.cons_append, ofTokensFrom_cons]
  simp only [Reading.step, stepValue, over_next, List.singleton_append]
  cases members with
  | nil => rfl
  | cons m members => exact ofTokensFrom_members each (List.cons_ne_nil m members) [] false

/-- **The machine takes every complete tree.** -/
theorem takes (h : v.Complete) : Takes v := by
  induction h with
  | scalar value => exact fun outer rest => ofTokensFrom_cons _ _ rest
  | string text => exact fun outer rest => ofTokensFrom_cons _ _ rest
  | array complete ih => exact takes_array complete ih
  | object _ ih => exact takes_object ih

/-- A text with the tokens of a complete tree is read into the tree. -/
theorem ofText_of_scan {text : String} (h : v.Complete) (cut : scan text.toList = v.tokens) :
    ofText text = (v, false) := by
  have whole := takes h [] []
  rw [List.append_nil] at whole
  rw [ofText, cut, whole]
  rfl

/-! ## The machine takes no other tokens -/

/-- The tokens of items or members with a comma behind each. -/
def leading (tss : List (List Token)) : List Token :=
  tss.flatMap (· ++ [comma])

/-- A comma stands before each list but the first one. -/
theorem intercalate_cons (ts : List Token) (tss : List (List Token)) :
    [comma].intercalate (ts :: tss) = ts ++ tss.flatMap (comma :: ·) := by
  induction tss generalizing ts with
  | nil => simp
  | cons next tss ih =>
    rw [List.intercalate_cons_cons, ih]
    simp

/-- Commas stand behind the lists before a chosen one, and before those after it. -/
theorem intercalate_append_cons (tss tss' : List (List Token)) (ts : List Token) :
    [comma].intercalate (tss ++ ts :: tss') = leading tss ++ ts ++ tss'.flatMap (comma :: ·) := by
  induction tss with
  | nil => exact intercalate_cons ts tss'
  | cons first tss ih =>
    have more : tss ++ ts :: tss' ≠ [] :=
      List.append_ne_nil_of_right_ne_nil _ (List.cons_ne_nil _ _)
    obtain ⟨next, others, e⟩ := List.exists_cons_of_ne_nil more
    rw [List.cons_append, e, List.intercalate_cons_cons, ← e, ih]
    simp [leading]

/-- A comma stands behind each list but the last one. -/
theorem intercalate_concat (tss : List (List Token)) (ts : List Token) :
    [comma].intercalate (tss ++ [ts]) = leading tss ++ ts := by
  rw [intercalate_append_cons, List.flatMap_nil, List.append_nil]

/-- With one more comma at the end, a comma stands behind each list. -/
theorem intercalate_comma {tss : List (List Token)} (h : tss ≠ []) :
    [comma].intercalate tss ++ [comma] = leading tss := by
  obtain ⟨front, last, rfl⟩ := List.eq_nil_or_concat tss |>.resolve_left h
  rw [List.concat_eq_append, intercalate_concat]
  simp [leading]

/-- The tokens that led into an open container. -/
def Frame.tokens : Frame → List Token
  | .array items => .openArray :: leading (items.reverse.map Source.tokens)
  | .member members key =>
    .openObject :: leading (members.reverse.map memberTokens) ++ [.string key, .colon]

/-- The tokens that led into the open containers, which come from the inside out. -/
def outerTokens : List Frame → List Token
  | [] => []
  | f :: outer => outerTokens outer ++ f.tokens

/-- The tokens that led to a state.  Where no comma stands before, the container was just
opened. -/
def Reading.tokens : Reading → List Token
  | .value outer => outerTokens outer
  | .item items _ outer => outerTokens outer ++ Frame.tokens (.array items)
  | .afterItem items outer =>
    outerTokens outer ++ .openArray :: [comma].intercalate (items.reverse.map Source.tokens)
  | .key members _ outer =>
    outerTokens outer ++ .openObject :: leading (members.reverse.map memberTokens)
  | .colon members k outer =>
    outerTokens outer ++ .openObject :: leading (members.reverse.map memberTokens) ++ [.string k]
  | .afterMember members outer =>
    outerTokens outer ++ .openObject :: [comma].intercalate (members.reverse.map memberTokens)

/-- A state that can be reached: behind an item stands one, and without a comma before, nothing
stands in the container. -/
def Reading.Reached : Reading → Prop
  | .item items afterComma _ => afterComma = false → items = []
  | .afterItem items _ => items ≠ []
  | .key members afterComma _ => afterComma = false → members = []
  | .afterMember members _ => members ≠ []
  | _ => True

/-- What a step led to stands for these tokens, unless the text breaks off. -/
def Progress.Accounts (ts : List Token) : Progress → Prop
  | .next state => state.tokens = ts ∧ state.Reached
  | .complete v => v.tokens = ts
  | .stuck v => ¬ v.Complete

/-- What is not complete does not become so when the containers around it are closed. -/
theorem not_complete_unwind (h : ¬ v.Complete) (outer : List Frame) :
    ¬ (unwind v outer).Complete := by
  induction outer generalizing v with
  | nil => exact h
  | cons f outer ih =>
    cases f with
    | array items =>
      refine ih fun whole => ?_
      exact h ((complete_array_iff.1 whole).1 v (by simp))
    | member members key =>
      refine ih fun whole => ?_
      exact h ((complete_object_iff.1 whole).1 (key, v) (by simp))

/-- A tree that is put into the innermost container stands for its tokens behind the outer ones. -/
theorem accounts_place (v : Source) (outer : List Frame) :
    (place v outer).Accounts (outerTokens outer ++ v.tokens) := by
  cases outer with
  | nil => rfl
  | cons f outer =>
    cases f with
    | array items =>
      refine ⟨?_, List.cons_ne_nil v items⟩
      simp only [Reading.tokens, List.reverse_cons, List.map_append, List.map_cons, List.map_nil]
      rw [intercalate_concat]
      simp [outerTokens, Frame.tokens]
    | member members key =>
      refine ⟨?_, List.cons_ne_nil (key, v) members⟩
      simp only [Reading.tokens, List.reverse_cons, List.map_append, List.map_cons, List.map_nil]
      rw [intercalate_concat]
      simp [outerTokens, Frame.tokens, memberTokens]

/-- Where the machine is stuck, there is nothing to account for. -/
theorem accounts_stuck {ts : List Token} (h : ¬ v.Complete) (outer : List Frame) :
    (Progress.stuck (unwind v outer)).Accounts ts :=
  not_complete_unwind h outer

/-- The token by which a value begins is accounted for. -/
theorem accounts_stepValue (outer : List Frame) (t : Token) :
    (stepValue outer t).Accounts (outerTokens outer ++ [t]) := by
  unfold stepValue
  split
  · exact ⟨rfl, fun _ => rfl⟩
  · exact ⟨rfl, fun _ => rfl⟩
  · exact accounts_place _ outer
  · exact accounts_place _ outer
  all_goals exact accounts_stuck (by nofun) outer

/-- An array or object whose end is another one than a bracket is not complete. -/
theorem not_complete_array {ending : ArrayEnd} (h : ending ≠ .closed) :
    ¬ (Source.array items ending).Complete :=
  fun whole => h (complete_array_iff.1 whole).2

/-- The same of an object. -/
theorem not_complete_object {ending : ObjectEnd} (h : ending ≠ .closed) :
    ¬ (Source.object members ending).Complete :=
  fun whole => h (complete_object_iff.1 whole).2

/-- Where the tokens come to an end too early, the tree is not complete. -/
theorem not_complete_finish (state : Reading) : ¬ state.finish.Complete := by
  unfold Reading.finish
  split
  · exact not_complete_unwind (by nofun) _
  · exact not_complete_unwind (not_complete_array (by split <;> nofun)) _
  · exact not_complete_unwind (not_complete_array (by nofun)) _
  · exact not_complete_unwind (not_complete_object (by split <;> nofun)) _
  · exact not_complete_unwind (by nofun) _
  · exact not_complete_unwind (not_complete_object (by nofun)) _

/-- The bracket that closes an array is accounted for. -/
theorem accounts_closeArray (items : List Source) (outer : List Frame) :
    (place (.array items .closed) outer).Accounts
      (outerTokens outer ++ .openArray :: [comma].intercalate (items.map tokens) ++
        [.closeArray]) := by
  have placed := accounts_place (.array items .closed) outer
  rw [tokens_array] at placed
  simpa using placed

/-- The brace that closes an object is accounted for. -/
theorem accounts_closeObject (members : List (Except Fault String × Source))
    (outer : List Frame) :
    (place (.object members .closed) outer).Accounts
      (outerTokens outer ++ .openObject :: [comma].intercalate (members.map memberTokens) ++
        [.closeObject]) := by
  have placed := accounts_place (.object members .closed) outer
  rw [tokens_object] at placed
  simpa using placed

/-- Where an item may come, the next token is accounted for: a bracket right behind the other
one closes the array, one behind a comma breaks it off. -/
theorem accounts_item {afterComma : Bool} (h : (Reading.item items afterComma outer).Reached)
    (t : Token) :
    ((Reading.item items afterComma outer).step t).Accounts
      ((Reading.item items afterComma outer).tokens ++ [t]) := by
  by_cases closes : t = .closeArray
  · subst closes
    cases afterComma with
    | false =>
      obtain rfl := h rfl
      exact accounts_closeArray [] outer
    | true => exact accounts_stuck (not_complete_array (by nofun)) outer
  · have begins : (Reading.item items afterComma outer).step t =
        stepValue (.array items :: outer) t := by
      cases t <;> cases afterComma <;> first | rfl | exact absurd rfl closes
    rw [begins]
    exact accounts_stepValue _ t

/-- Where a key may come, the next token is accounted for: a brace right behind the other one
closes the object, one behind a comma breaks it off. -/
theorem accounts_key {afterComma : Bool} (h : (Reading.key members afterComma outer).Reached)
    (t : Token) :
    ((Reading.key members afterComma outer).step t).Accounts
      ((Reading.key members afterComma outer).tokens ++ [t]) := by
  cases t with
  | string text =>
    have named : (Reading.key members afterComma outer).step (.string text) =
        .next (.colon members text outer) := by cases afterComma <;> rfl
    rw [named]
    exact ⟨rfl, trivial⟩
  | closeObject =>
    cases afterComma with
    | false =>
      obtain rfl := h rfl
      exact accounts_closeObject [] outer
    | true => exact accounts_stuck (not_complete_object (by nofun)) outer
  | _ => cases afterComma <;> exact accounts_stuck (not_complete_object (by nofun)) outer

/-- **Every step adds its token** to those that led to the state. -/
theorem accounts_step {state : Reading} (h : state.Reached) (t : Token) :
    (state.step t).Accounts (state.tokens ++ [t]) := by
  cases state with
  | value outer => exact accounts_stepValue outer t
  | item items afterComma outer => exact accounts_item h t
  | afterItem items outer =>
    cases t with
    | comma =>
      refine ⟨?_, nofun⟩
      have given : items.reverse.map tokens ≠ [] := by simpa [Reading.Reached] using h
      simp only [Reading.tokens, Frame.tokens, ← intercalate_comma given]
      simp
    | closeArray => exact accounts_closeArray items.reverse outer
    | _ => exact accounts_stuck (not_complete_array (by nofun)) outer
  | key members afterComma outer => exact accounts_key h t
  | colon members k outer =>
    cases t with
    | colon => exact ⟨by simp [Reading.tokens, outerTokens, Frame.tokens], trivial⟩
    | _ => exact accounts_stuck (by nofun) _
  | afterMember members outer =>
    cases t with
    | comma =>
      refine ⟨?_, nofun⟩
      have given : members.reverse.map memberTokens ≠ [] := by simpa [Reading.Reached] using h
      simp only [Reading.tokens, ← intercalate_comma given]
      simp
    | closeObject => exact accounts_closeObject members.reverse outer
    | _ => exact accounts_stuck (not_complete_object (by nofun)) outer

/-- A text with a complete tree has the tokens of the tree. -/
theorem tokens_of_ofTokensFrom {ts : List Token} {state : Reading} (h : state.Reached)
    (read : ofTokensFrom state ts = (v, false)) (whole : v.Complete) :
    state.tokens ++ ts = v.tokens := by
  induction ts generalizing state with
  | nil =>
    cases read
    exact absurd whole (not_complete_finish state)
  | cons t ts ih =>
    have accounts := accounts_step h t
    rw [ofTokensFrom_cons] at read
    cases led : state.step t with
    | next state' =>
      rw [led] at accounts read
      rw [← ih accounts.2 read, accounts.1, List.append_assoc, List.singleton_append]
    | complete w =>
      rw [led] at accounts read
      obtain ⟨rfl, none⟩ := Prod.mk.inj read
      obtain rfl : ts = [] := by simpa using none
      exact accounts.symm
    | stuck w =>
      rw [led] at accounts read
      cases read
      exact absurd whole accounts

/-- **A text has a complete tree if and only if it has its tokens.** -/
theorem ofText_eq_iff {text : String} (h : v.Complete) :
    ofText text = (v, false) ↔ scan text.toList = v.tokens := by
  have start : (Reading.value []).Reached := trivial
  exact ⟨fun read => tokens_of_ofTokensFrom start read h, ofText_of_scan h⟩

end Source
end ApiGraph
