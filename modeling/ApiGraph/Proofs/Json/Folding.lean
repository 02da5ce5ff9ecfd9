/-
# Recursion over JSON values

What is computed from a value node by node is a fold: it says what becomes of a scalar, of a
string, and of an array or object whose items were folded before (`Json.fold`).  The recursion
through lists is done here once, and so is the induction that goes with it (`Json.induct`).

Two folds are needed to say which texts are read back: the scalars of a value and how deep its
arrays and objects are nested.
-/

import ApiGraph.Json.Decoder

namespace ApiGraph

/-- Whether the scalar is a floating-point number. -/
def Scalar.isFloat : Scalar → Bool
  | .float _ => true
  | _ => false

namespace Json

/-! ## Induction and folds -/

mutual

/-- Induction over values: scalars, strings, arrays of values, objects of values. -/
@[elab_as_elim]
theorem induct {P : Json → Prop} (scalar : ∀ x : Scalar, P x.toJson) (string : ∀ s, P (string s))
    (array : ∀ items, (∀ v ∈ items, P v) → P (array items))
    (object : ∀ fields, (∀ m ∈ fields, P m.2) → P (object fields)) : ∀ v, P v
  | null => scalar .null
  | bool b => scalar (.bool b)
  | integer i => scalar (.integer i)
  | float x => scalar (.float x)
  | .string s => string s
  | .array items => array items (induct_items scalar string array object items)
  | .object fields => object fields (induct_fields scalar string array object fields)

/-- Induction over the items of an array. -/
theorem induct_items {P : Json → Prop} (scalar : ∀ x : Scalar, P x.toJson)
    (string : ∀ s, P (string s)) (array : ∀ items, (∀ v ∈ items, P v) → P (array items))
    (object : ∀ fields, (∀ m ∈ fields, P m.2) → P (object fields)) :
    ∀ items : List Json, ∀ v ∈ items, P v
  | [] => by simp
  | v :: items => List.forall_mem_cons.2
    ⟨induct scalar string array object v, induct_items scalar string array object items⟩

/-- Induction over the fields of an object. -/
theorem induct_fields {P : Json → Prop} (scalar : ∀ x : Scalar, P x.toJson)
    (string : ∀ s, P (string s)) (array : ∀ items, (∀ v ∈ items, P v) → P (array items))
    (object : ∀ fields, (∀ m ∈ fields, P m.2) → P (object fields)) :
    ∀ fields : List (String × Json), ∀ m ∈ fields, P m.2
  | [] => by simp
  | (_, v) :: fields => List.forall_mem_cons.2
    ⟨induct scalar string array object v, induct_fields scalar string array object fields⟩

end

/-- What a fold does at each kind of node. -/
structure Algebra (α : Type) where
  scalar : Scalar → α
  string : String → α
  array : List α → α
  object : List (String × α) → α

section Fold

variable {α : Type} (a : Algebra α)

mutual

/-- The value with its nodes replaced, from the inside out. -/
def fold : Json → α
  | null => a.scalar .null
  | bool b => a.scalar (.bool b)
  | integer i => a.scalar (.integer i)
  | float x => a.scalar (.float x)
  | string s => a.string s
  | array items => a.array (foldItems items)
  | object fields => a.object (foldFields fields)

/-- The items of an array, each folded. -/
def foldItems : List Json → List α
  | [] => []
  | v :: items => fold v :: foldItems items

/-- The fields of an object, each with its value folded. -/
def foldFields : List (String × Json) → List (String × α)
  | [] => []
  | (key, v) :: fields => (key, fold v) :: foldFields fields

end

/-- A scalar is folded alone. -/
@[simp] theorem fold_toJson (x : Scalar) : fold a x.toJson = a.scalar x := by
  cases x <;> rfl

/-- Items are folded one by one, which the fold has to say by recursion. -/
theorem foldItems_eq_map (items : List Json) : foldItems a items = items.map (fold a) := by
  induction items with
  | nil => rfl
  | cons v items ih => rw [foldItems, ih, List.map_cons]

/-- The same of fields. -/
theorem foldFields_eq_map (fields : List (String × Json)) :
    foldFields a fields = fields.map fun m => (m.1, fold a m.2) := by
  induction fields with
  | nil => rfl
  | cons m fields ih => rw [foldFields, ih, List.map_cons]

/-- An array is folded after its items. -/
@[simp] theorem fold_array (items : List Json) :
    fold a (array items) = a.array (items.map (fold a)) := by
  rw [fold, foldItems_eq_map]

/-- An object is folded after its values. -/
@[simp] theorem fold_object (fields : List (String × Json)) :
    fold a (object fields) = a.object (fields.map fun m => (m.1, fold a m.2)) := by
  rw [fold, foldFields_eq_map]

end Fold

/-! ## Scalars -/

/-- The scalars of a value other than strings, in order. -/
def scalars : Json → List Scalar :=
  fold ⟨fun x => [x], fun _ => [], fun items => items.flatten, fun fields => fields.flatMap (·.2)⟩

/-- A scalar has itself as its only one. -/
@[simp] theorem scalars_toJson (x : Scalar) : scalars x.toJson = [x] :=
  fold_toJson _ x

@[simp] theorem scalars_string (s : String) : scalars (string s) = [] := rfl

/-- The scalars of an array are those of its items. -/
theorem scalars_array (items : List Json) : scalars (array items) = items.flatMap scalars :=
  fold_array _ items

/-- The scalars of an object are those of its values. -/
theorem scalars_object (fields : List (String × Json)) :
    scalars (object fields) = fields.flatMap fun m => m.2.scalars :=
  (fold_object _ fields).trans (List.flatMap_map _ _ _)

/-- A scalar of an array is one of an item. -/
theorem mem_scalars_array {items : List Json} {x : Scalar} :
    x ∈ scalars (array items) ↔ ∃ v ∈ items, x ∈ v.scalars := by
  rw [scalars_array, List.mem_flatMap]

/-- A scalar of an object is one of a value. -/
theorem mem_scalars_object {fields : List (String × Json)} {x : Scalar} :
    x ∈ scalars (object fields) ↔ ∃ m ∈ fields, x ∈ m.2.scalars := by
  rw [scalars_object, List.mem_flatMap]

/-- There is no floating-point number in the value. -/
def FloatFree (v : Json) : Prop :=
  ∀ x ∈ v.scalars, ¬ x.isFloat

instance (v : Json) : Decidable v.FloatFree :=
  inferInstanceAs (Decidable (∀ x ∈ v.scalars, ¬ x.isFloat))

/-! ## Nesting -/

/-- How many arrays and objects are nested in the value. -/
def nesting : Json → Nat :=
  fold ⟨fun _ => 0, fun _ => 0, fun items => items.foldr max 0 + 1,
    fun fields => (fields.map (·.2)).foldr max 0 + 1⟩

/-- The greatest of many numbers is bounded if each of them is. -/
theorem foldr_max_le_iff {α : Type} {f : α → Nat} {xs : List α} {n : Nat} :
    (xs.map f).foldr max 0 ≤ n ↔ ∀ x ∈ xs, f x ≤ n := by
  induction xs with
  | nil => simp
  | cons x xs ih => rw [List.map_cons, List.foldr_cons, Nat.max_le, ih, List.forall_mem_cons]

/-- An array is one level deeper than its deepest item. -/
theorem nesting_array (items : List Json) :
    nesting (array items) = (items.map nesting).foldr max 0 + 1 :=
  fold_array _ items

/-- An object is one level deeper than its deepest value. -/
theorem nesting_object (fields : List (String × Json)) :
    nesting (object fields) = (fields.map fun m => m.2.nesting).foldr max 0 + 1 := by
  refine (fold_object _ fields).trans ?_
  simp only [List.map_map]
  rfl

/-- A depth with room for one more level is the next one of a depth with room for the rest. -/
theorem succ_le_iff_exists {k depth : Nat} : k + 1 ≤ depth ↔ ∃ n, depth = n + 1 ∧ k ≤ n := by
  cases depth <;> simp

/-- An array needs one level more than its items. -/
theorem nesting_array_le_iff {items : List Json} {depth : Nat} :
    nesting (array items) ≤ depth ↔ ∃ n, depth = n + 1 ∧ ∀ v ∈ items, v.nesting ≤ n := by
  simp only [nesting_array, succ_le_iff_exists, foldr_max_le_iff]

/-- An object needs one level more than its fields. -/
theorem nesting_object_le_iff {fields : List (String × Json)} {depth : Nat} :
    nesting (object fields) ≤ depth ↔ ∃ n, depth = n + 1 ∧ ∀ m ∈ fields, m.2.nesting ≤ n := by
  simp only [nesting_object, succ_le_iff_exists, foldr_max_le_iff]

end Json
end ApiGraph
