/-
# Trees of what was printed

A value has a complete tree with the tokens of the value (`tokens_toSource`).  With what is known
of scanning, the text of a value is read into this tree, in both layouts (`ofText_compact`,
`ofText_pretty`).
-/

import ApiGraph.Proofs.Json.Scanning
import ApiGraph.Proofs.Json.Trees

namespace ApiGraph

open Token

namespace Json

/-- The tree of a value. -/
def toSource : Json → Source :=
  fold ⟨fun x => .scalar (.ok x), fun s => .string (.ok s), fun items => .array items .closed,
    fun fields => .object (fields.map fun m => (.ok m.1, m.2)) .closed⟩

@[simp] theorem toSource_toJson (x : Scalar) : toSource x.toJson = .scalar (.ok x) :=
  fold_toJson _ x

@[simp] theorem toSource_string (s : String) : toSource (string s) = .string (.ok s) := rfl

/-- The tree of an object's field. -/
def fieldSource (m : String × Json) : Except Fault String × Source :=
  (.ok m.1, m.2.toSource)

@[simp] theorem toSource_array (items : List Json) :
    toSource (array items) = .array (items.map toSource) .closed :=
  fold_array _ items

@[simp] theorem toSource_object (fields : List (String × Json)) :
    toSource (object fields) = .object (fields.map fieldSource) .closed := by
  refine (fold_object _ fields).trans ?_
  simp only [List.map_map]
  rfl

/-- The tree of a value is complete. -/
theorem complete_toSource (v : Json) : v.toSource.Complete := by
  induction v using induct with
  | scalar x =>
    rw [toSource_toJson]
    exact .scalar _
  | string s => exact .string _
  | array items ih =>
    rw [toSource_array]
    exact .array (List.forall_mem_map.2 ih)
  | object fields ih =>
    rw [toSource_object]
    exact .object (List.forall_mem_map.2 ih)

/-- The tree of a value has the tokens of the value. -/
theorem tokens_toSource (v : Json) : v.toSource.tokens = v.tokens := by
  induction v using induct with
  | scalar x =>
    rw [toSource_toJson, tokens_toJson]
    rfl
  | string s => rfl
  | array items ih =>
    rw [toSource_array, tokens_array, Source.tokens_array, List.map_map]
    exact congrArg (fun tss => Token.openArray :: [comma].intercalate tss ++ [.closeArray])
      (List.map_congr_left ih)
  | object fields ih =>
    rw [toSource_object, tokens_object, Source.tokens_object, List.map_map]
    exact congrArg (fun tss => Token.openObject :: [comma].intercalate tss ++ [.closeObject])
      (List.map_congr_left fun m hm => congrArg (Token.string (.ok m.1) :: .colon :: ·) (ih m hm))

end Json

namespace Source

/-- A text that is cut into the tokens of a value is read into the tree of the value. -/
theorem ofText_of_reads {text : String} {v : Json} (h : Json.Reads text v.tokens) :
    ofText text = (v.toSource, false) :=
  ofText_of_scan v.complete_toSource (h.scan.trans v.tokens_toSource.symm)

/-- **The compact text of a value is read into the tree of the value.** -/
theorem ofText_compact {v : Json} (h : v.Exact) : ofText v.compact = (v.toSource, false) :=
  ofText_of_reads (v.reads_compact h)

/-- **The indented text of a value is read into the tree of the value.** -/
theorem ofText_pretty {v : Json} (h : v.Exact) : ofText v.pretty = (v.toSource, false) :=
  ofText_of_reads (v.reads_indented h 0)

end Source
end ApiGraph
