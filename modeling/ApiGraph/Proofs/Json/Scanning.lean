/-
# Scanning what was printed

The text of a value is cut into the tokens of the value, in the compact layout
(`reads_compact`) and in the indented one (`reads_indented`), if its scalars are printed without
loss (`Exact`).  The layouts differ in the blanks around brackets and behind separators (`Gap`),
and scanning passes over these.
-/

import ApiGraph.Proofs.Json.Folding
import ApiGraph.Proofs.Json.Literals
import Mathlib.Data.List.Forall2

namespace ApiGraph
namespace Json

open Token

/-- The tokens of a value. -/
def tokens : Json → List Token :=
  fold ⟨fun x => [.scalar (.ok x)], fun s => [.string (.ok s)],
    fun items => .openArray :: [comma].intercalate items ++ [.closeArray],
    fun fields => .openObject ::
      [comma].intercalate (fields.map fun m => .string (.ok m.1) :: .colon :: m.2) ++
        [.closeObject]⟩

/-- A scalar is one token. -/
theorem tokens_toJson (x : Scalar) : tokens x.toJson = [.scalar (.ok x)] :=
  fold_toJson _ x

/-- An array is its items between brackets, with commas between them. -/
theorem tokens_array (items : List Json) :
    tokens (array items) =
      .openArray :: [comma].intercalate (items.map tokens) ++ [.closeArray] :=
  fold_array _ items

/-- The tokens of an object's field. -/
def fieldTokens (m : String × Json) : List Token :=
  .string (.ok m.1) :: .colon :: m.2.tokens

/-- An object is its fields between braces, with commas between them. -/
theorem tokens_object (fields : List (String × Json)) :
    tokens (object fields) =
      .openObject :: [comma].intercalate (fields.map fieldTokens) ++ [.closeObject] := by
  refine (fold_object _ fields).trans ?_
  simp only [List.map_map]
  rfl

/-- The texts of items, which the printer has to say by recursion. -/
theorem compactItems_eq_map (items : List Json) : compactItems items = items.map compact := by
  induction items with
  | nil => rfl
  | cons v items ih => rw [compactItems, ih, List.map_cons]

/-- The texts of fields: the key, a colon, and the value. -/
theorem compactFields_eq_map (fields : List (String × Json)) :
    compactFields fields = fields.map fun m => stringText m.1 ++ ":" ++ m.2.compact := by
  induction fields with
  | nil => rfl
  | cons m fields ih => rw [compactFields, ih, List.map_cons]

/-- A text is cut into these tokens wherever a separator, a bracket or the end comes next. -/
def Reads (text : String) (ts : List Token) : Prop :=
  ∀ rest, Stops rest → scan (text.toList ++ rest) = ts ++ scan rest

/-- A text of blanks only. -/
def Gap (gap : String) : Prop :=
  ∀ c ∈ gap.toList, isBlank c

/-- Blanks are passed over. -/
theorem scan_gap {gap : String} (h : Gap gap) (rest : List Char) :
    scan (gap.toList ++ rest) = scan rest := by
  have skip (cs : List Char) (blank : ∀ c ∈ cs, isBlank c) : scan (cs ++ rest) = scan rest := by
    induction cs with
    | nil => rfl
    | cons c cs ih =>
      obtain ⟨first, others⟩ := List.forall_mem_cons.1 blank
      rw [List.cons_append, scan, if_pos first, ih others]
  exact skip _ h

/-- Blanks before a text do not continue a number either. -/
theorem Gap.stops {gap : String} (h : Gap gap) {rest : List Char} (stop : Stops rest) :
    Stops (gap.toList ++ rest) := by
  cases e : gap.toList with
  | nil => exact stop
  | cons c cs =>
    rintro _ ⟨⟩
    have blank := h c (by rw [e]; exact List.mem_cons_self)
    simp only [isBlank, Bool.or_eq_true, decide_eq_true_eq] at blank
    rcases blank with ((rfl | rfl) | rfl) | rfl <;> decide

/-- No number goes on with a comma, a bracket or a brace. -/
theorem stops_cons {c : Char} (h : c = ',' ∨ c = ']' ∨ c = '}') (rest : List Char) :
    Stops (c :: rest) := by
  rintro _ ⟨⟩
  rcases h with rfl | rfl | rfl <;> decide

/-- A text that is cut into the tokens as a part of others is cut into them on its own. -/
theorem Reads.scan {text : String} {ts : List Token} (h : Reads text ts) :
    scan text.toList = ts := by
  have whole := h [] nofun
  rwa [List.append_nil, Token.scan, List.append_nil] at whole

section Separated

variable {α : Type} {text : α → String} {ts : α → List Token} {gap gap' : String}
  {texts : List String} {tss : List (List Token)}

/-- Texts that are separated by commas, with blanks behind them. -/
theorem scan_separated (blank : Gap gap) (each : List.Forall₂ Reads texts tss)
    {rest : List Char} (stop : Stops rest) :
    Token.scan ((separatedBy ("," ++ gap) texts).toList ++ rest) =
      [comma].intercalate tss ++ Token.scan rest := by
  rw [separatedBy, String.toList_intercalate]
  induction each with
  | nil => rfl
  | @cons text ts texts tss first others ih =>
    cases others with
    | nil => simpa using first rest stop
    | cons second others =>
      simp only [List.map_cons, List.intercalate_cons_cons, List.append_assoc,
        String.toList_append] at ih ⊢
      have comma : ",".toList = [','] := rfl
      rw [comma, List.singleton_append, first _ (stops_cons (.inl rfl) _), scan_comma,
        scan_gap blank, ← ih, comma]
      rfl

/-- Texts that are separated by commas, between brackets and blanks. -/
theorem scan_enclosed {left right : String} {l r : Token}
    (opens : ∀ cs, Token.scan (left.toList ++ cs) = l :: Token.scan cs)
    (closes : ∀ cs, Token.scan (right.toList ++ cs) = r :: Token.scan cs)
    (ends : ∀ cs, Stops (right.toList ++ cs)) (blank : Gap gap) (blank' : Gap gap')
    (each : List.Forall₂ Reads texts tss) (rest : List Char) :
    Token.scan ((left ++ gap ++ separatedBy ("," ++ gap) texts ++ gap' ++ right).toList ++ rest) =
      l :: [comma].intercalate tss ++ [r] ++ Token.scan rest := by
  simp only [String.toList_append, List.append_assoc, List.cons_append, List.nil_append]
  rw [opens, scan_gap blank, scan_separated blank each (blank'.stops (ends rest)),
    scan_gap blank', closes]

/-- Each text has its own tokens. -/
theorem forall₂_reads {xs : List α} (each : ∀ x ∈ xs, Reads (text x) (ts x)) :
    List.Forall₂ Reads (xs.map text) (xs.map ts) := by
  rw [List.forall₂_map_left_iff, List.forall₂_map_right_iff, List.forall₂_same]
  exact each

/-- An array is read if its items are, in a layout with `gap` behind the opening bracket and
each comma, and `gap'` before the closing one. -/
theorem reads_array (blank : Gap gap) (blank' : Gap gap') {xs : List α}
    (each : ∀ x ∈ xs, Reads (text x) (ts x)) :
    Reads ("[" ++ gap ++ separatedBy ("," ++ gap) (xs.map text) ++ gap' ++ "]")
      (.openArray :: [comma].intercalate (xs.map ts) ++ [.closeArray]) :=
  fun rest _ => scan_enclosed (by exact scan_openArray) (by exact scan_closeArray)
    (by exact stops_cons (.inr (.inl rfl))) blank blank' (forall₂_reads each) rest

/-- An object is read in such a layout if its fields are. -/
theorem reads_object (blank : Gap gap) (blank' : Gap gap') {xs : List α}
    (each : ∀ x ∈ xs, Reads (text x) (ts x)) :
    Reads ("\x7b" ++ gap ++ separatedBy ("," ++ gap) (xs.map text) ++ gap' ++ "\x7d")
      (.openObject :: [comma].intercalate (xs.map ts) ++ [.closeObject]) :=
  fun rest _ => scan_enclosed (by exact scan_openObject) (by exact scan_closeObject)
    (by exact stops_cons (.inr (.inr rfl))) blank blank' (forall₂_reads each) rest

/-- A field is read if its value is. -/
theorem reads_field (blank : Gap gap) (key : String) {text : String} {ts : List Token}
    (h : Reads text ts) :
    Reads (stringText key ++ (":" ++ gap) ++ text) (.string (.ok key) :: .colon :: ts) := by
  intro rest stop
  have colon : ":".toList = [':'] := rfl
  simp only [String.toList_append, List.append_assoc, colon, List.cons_append, List.nil_append]
  rw [scan_stringText, scan_colon, scan_gap blank, h rest stop]

end Separated

/-! ## Layouts -/

/-- The scalars of the value are those that are printed without loss. -/
def Exact (v : Json) : Prop :=
  v.FloatFree ∧ ∀ x ∈ v.scalars, x.Fits

instance (v : Json) : Decidable v.Exact :=
  inferInstanceAs (Decidable (_ ∧ _))

/-- A scalar that is printed without loss is read. -/
theorem reads_scalar {x : Scalar} (h : Exact x.toJson) :
    Reads x.toJson.compact x.toJson.tokens := by
  intro rest stop
  rw [tokens_toJson, List.singleton_append]
  cases x with
  | null => exact scan_cons rfl _
  | bool b => cases b <;> exact scan_cons rfl _
  | integer i => exact scan_integerText (h.2 _ (by simp)) stop
  | float x => exact absurd rfl (h.1 (.float x) (by simp))

/-- Every string is read. -/
theorem reads_string (s : String) : Reads (stringText s) (string s).tokens :=
  fun rest _ => scan_stringText s rest

/-- What is printed of an exact array is exact. -/
theorem Exact.of_array {items : List Json} (h : Exact (array items)) : ∀ v ∈ items, Exact v :=
  fun _ hv => ⟨fun x hx => h.1 x (mem_scalars_array.2 ⟨_, hv, hx⟩),
    fun x hx => h.2 x (mem_scalars_array.2 ⟨_, hv, hx⟩)⟩

/-- What is printed of an exact object is exact. -/
theorem Exact.of_object {fields : List (String × Json)} (h : Exact (object fields)) :
    ∀ m ∈ fields, Exact m.2 :=
  fun _ hm => ⟨fun x hx => h.1 x (mem_scalars_object.2 ⟨_, hm, hx⟩),
    fun x hx => h.2 x (mem_scalars_object.2 ⟨_, hm, hx⟩)⟩

theorem gap_empty : Gap "" := by simp [Gap]

/-- **The compact text of a value is cut into the tokens of the value.** -/
theorem reads_compact (v : Json) (h : Exact v) : Reads v.compact v.tokens := by
  induction v using induct with
  | scalar x => exact reads_scalar h
  | string s => exact reads_string s
  | array items ih =>
    rw [compact, compactItems_eq_map, tokens_array]
    simpa using reads_array gap_empty gap_empty fun v hv => ih v hv (h.of_array v hv)
  | object fields ih =>
    rw [compact, compactFields_eq_map, tokens_object]
    have each : ∀ m ∈ fields, Reads (stringText m.1 ++ ":" ++ m.2.compact) (fieldTokens m) :=
      fun m hm => by
        simpa [fieldTokens] using reads_field gap_empty m.1 (ih m hm (h.of_object m hm))
    simpa using reads_object gap_empty gap_empty each

/-- A line break with its indentation is blank. -/
theorem gap_newline (level : Nat) : Gap (newline level) := by
  simp [Gap, newline, isBlank]

/-- The indented texts of items, which the printer has to say by recursion. -/
theorem indentedItems_eq_map (level : Nat) (items : List Json) :
    indentedItems level items = items.map (indented level) := by
  induction items with
  | nil => rfl
  | cons v items ih => rw [indentedItems, ih, List.map_cons]

/-- The indented texts of fields: the key, a colon with a blank, and the value. -/
theorem indentedFields_eq_map (level : Nat) (fields : List (String × Json)) :
    indentedFields level fields =
      fields.map fun m => stringText m.1 ++ ": " ++ m.2.indented level := by
  induction fields with
  | nil => rfl
  | cons m fields ih => rw [indentedFields, ih, List.map_cons]

/-- **The indented text of a value is cut into the tokens of the value.** -/
theorem reads_indented (v : Json) (h : Exact v) (level : Nat) :
    Reads (v.indented level) v.tokens := by
  induction v using induct generalizing level with
  | scalar x =>
    have text : x.toJson.indented level = x.toJson.compact := by
      cases x with
      | bool b => cases b <;> rfl
      | _ => rfl
    rw [text]
    exact reads_scalar h
  | string s => exact reads_string s
  | array items ih =>
    rw [tokens_array]
    have each : ∀ v ∈ items, Reads (v.indented (level + 1)) v.tokens :=
      fun v hv => ih v hv (h.of_array v hv) _
    cases items with
    | nil =>
      rw [indented]
      exact fun rest _ => by simp
    | cons v items =>
      rw [indented, indentedItems_eq_map]
      · exact reads_array (gap_newline _) (gap_newline _) each
      · rintro ⟨⟩
  | object fields ih =>
    rw [tokens_object]
    have space : Gap " " := by simp [Gap, isBlank]
    have each : ∀ m ∈ fields,
        Reads (stringText m.1 ++ ": " ++ m.2.indented (level + 1)) (fieldTokens m) :=
      fun m hm => reads_field space m.1 (ih m hm (h.of_object m hm) _)
    cases fields with
    | nil =>
      rw [indented]
      exact fun rest _ => by simp
    | cons m fields =>
      rw [indented, indentedFields_eq_map]
      · exact reads_object (gap_newline _) (gap_newline _) each
      · rintro ⟨⟩

end Json
end ApiGraph
