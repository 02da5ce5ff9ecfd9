/-
# Texts cut around an object

A place in a tree is told by the steps that lead to it (`Source.Step`).  A text with a complete
tree can be cut around the object at a place: into what stands before it, the pieces between its
commas, one for each member, and what stands behind it (`Source.exists_cut`).

The pieces can then be exchanged for others.  Between the same two ends, any pieces that spell
members are read into the tree with these members in the place of the old ones
(`Source.Around.ofText`).
-/

import ApiGraph.Proofs.Json.Lexing
import ApiGraph.Proofs.Json.Trees

namespace ApiGraph
namespace Source

open Token
open Json (Gap Reads)

/-! ## Places -/

/-- A step into an array or object, with what stands on both sides. -/
inductive Step where
  /-- To an item of an array. -/
  | item (before after : List Source) (ending : ArrayEnd)
  /-- To the value of a member of an object. -/
  | member (before : List (Except Fault String × Source)) (key : Except Fault String)
    (after : List (Except Fault String × Source)) (ending : ObjectEnd)

/-- The array or object around a value. -/
def Step.around : Step → Source → Source
  | .item before after ending, s => .array (before ++ s :: after) ending
  | .member before key after ending, s => .object (before ++ (key, s) :: after) ending

/-- The tree around a value, to which the steps lead from the root. -/
def fill (place : List Step) (s : Source) : Source :=
  place.foldr Step.around s

variable {place : List Step} {s : Source} {members : List (Except Fault String × Source)}

/-- What stands around a value is complete together with the value: an empty string in the
value's place tells what is left to ask. -/
theorem complete_around_iff (step : Step) :
    (step.around s).Complete ↔ s.Complete ∧ (step.around (.string (.ok ""))).Complete := by
  have simple : (Source.string (.ok "")).Complete := .string _
  cases step with
  | item before after ending =>
    simp only [Step.around, complete_array_iff, List.forall_mem_append, List.forall_mem_cons,
      simple]
    tauto
  | member before key after ending =>
    simp only [Step.around, complete_object_iff, List.forall_mem_append, List.forall_mem_cons,
      simple]
    tauto

/-- What stands at a place of a complete tree is complete. -/
theorem Complete.of_fill (h : (fill place s).Complete) : s.Complete := by
  induction place with
  | nil => exact h
  | cons step place ih => exact ih ((complete_around_iff step).1 h).1

/-! ## The tokens around a place -/

/-- The container that is open around the value. -/
def Step.frame : Step → Frame
  | .item before _ _ => .array before.reverse
  | .member before key _ _ => .member before.reverse key

/-- The tokens of a container behind the value. -/
def Step.behind : Step → List Token
  | .item _ after _ => (after.map tokens).flatMap (comma :: ·) ++ [.closeArray]
  | .member _ _ after _ => (after.map memberTokens).flatMap (comma :: ·) ++ [.closeObject]

/-- The tokens before a place. -/
def tokensBefore : List Step → List Token
  | [] => []
  | step :: place => step.frame.tokens ++ tokensBefore place

/-- The tokens behind a place. -/
def tokensBehind : List Step → List Token
  | [] => []
  | step :: place => tokensBehind place ++ step.behind

/-- The tokens of a container are those before the value, the value's, and those behind it. -/
theorem tokens_around (step : Step) (s : Source) :
    (step.around s).tokens = step.frame.tokens ++ s.tokens ++ step.behind := by
  cases step with
  | item before after ending =>
    rw [Step.around, tokens_array, List.map_append, List.map_cons, intercalate_append_cons]
    simp [Step.frame, Step.behind, Frame.tokens]
  | member before key after ending =>
    rw [Step.around, tokens_object, List.map_append, List.map_cons, intercalate_append_cons]
    simp [Step.frame, Step.behind, Frame.tokens, memberTokens]

/-- The tokens around a place stand before and behind those of the value in it. -/
theorem tokens_fill (place : List Step) (s : Source) :
    (fill place s).tokens = tokensBefore place ++ s.tokens ++ tokensBehind place := by
  induction place with
  | nil => simp [fill, tokensBefore, tokensBehind]
  | cons step place ih =>
    have inside : fill (step :: place) s = step.around (fill place s) := rfl
    rw [inside, tokens_around, ih, tokensBefore, tokensBehind]
    simp only [List.append_assoc]

/-- Commas between tokens that do not break off leave none that does. -/
theorem isWhole_intercalate {tss : List (List Token)} (each : ∀ ts ∈ tss, ∀ t ∈ ts, t.IsWhole) :
    ∀ t ∈ [comma].intercalate tss, t.IsWhole := by
  cases tss with
  | nil => simp
  | cons ts tss =>
    obtain ⟨first, others⟩ := List.forall_mem_cons.1 each
    rw [intercalate_cons, List.forall_mem_append]
    refine ⟨first, fun t ht => ?_⟩
    obtain ⟨ts, hts, ht⟩ := List.mem_flatMap.1 ht
    rcases List.mem_cons.1 ht with rfl | ht
    · exact trivial
    · exact others ts hts t ht

/-- Nor do two brackets around them. -/
theorem isWhole_enclosed {l r : Token} (hl : l.IsWhole) (hr : r.IsWhole)
    {tss : List (List Token)} (each : ∀ ts ∈ tss, ∀ t ∈ ts, t.IsWhole) :
    ∀ t ∈ l :: [comma].intercalate tss ++ [r], t.IsWhole := by
  intro t ht
  rw [List.mem_append, List.mem_cons, List.mem_singleton] at ht
  rcases ht with (rfl | ht) | rfl
  · exact hl
  · exact isWhole_intercalate each t ht
  · exact hr

/-- A member's key is a string, and its colon is a mark, so only its value could break off. -/
theorem isWhole_memberTokens {m : Except Fault String × Source}
    (h : ∀ t ∈ m.2.tokens, t.IsWhole) : ∀ t ∈ memberTokens m, t.IsWhole :=
  List.forall_mem_cons.2 ⟨trivial, List.forall_mem_cons.2 ⟨trivial, h⟩⟩

/-- The tokens of a complete tree do not break off. -/
theorem Complete.isWhole (h : s.Complete) : ∀ t ∈ s.tokens, t.IsWhole := by
  induction h with
  | scalar value => exact List.forall_mem_singleton.2 trivial
  | string text => exact List.forall_mem_singleton.2 trivial
  | array each ih =>
    rw [tokens_array]
    exact isWhole_enclosed (by exact trivial) (by exact trivial) (List.forall_mem_map.2 ih)
  | object each ih =>
    rw [tokens_object]
    exact isWhole_enclosed (by exact trivial) (by exact trivial)
      (List.forall_mem_map.2 fun m hm => isWhole_memberTokens (ih m hm))

/-! ## Pieces -/

/-- The text spells a member of an object: a key and a value, with blanks around. -/
def SpellsMember (piece : String) (m : Except Fault String × Source) : Prop :=
  ∃ key value, piece = key ++ ":" ++ value ∧ ofText key = (.string m.1, false) ∧
    ofText value = (m.2, false)

/-- The text of an object, put together from the pieces between the commas. -/
def objectText (gap : String) (pieces : List String) : String :=
  "\x7b" ++ gap ++ Json.separatedBy "," pieces ++ "\x7d"

variable {m : Except Fault String × Source} {piece gap : String} {pieces : List String}

/-- What spells a member is read as the member's tokens, unless a number goes on behind it. -/
theorem SpellsMember.reads (h : SpellsMember piece m) (whole : m.2.Complete) :
    Reads piece (memberTokens m) := by
  obtain ⟨key, value, rfl, hk, hv⟩ := h
  have named : Reads key [.string m.1] :=
    reads_of_scan (by simp [IsWhole]) ((ofText_eq_iff (.string m.1)).1 hk)
  have given : Reads value m.2.tokens := reads_of_scan whole.isWhole ((ofText_eq_iff whole).1 hv)
  intro rest stop
  have colon : ":".toList = [':'] := rfl
  simp only [String.toList_append, colon, List.append_assoc, List.cons_append, List.nil_append]
  rw [named _ (stops_mark (t := .colon) rfl _), scan_colon, given rest stop, memberTokens]
  rfl

/-- What is read as the tokens of a member spells it. -/
theorem spellsMember_of_reads (h : Reads piece (memberTokens m)) (whole : m.2.Complete) :
    SpellsMember piece m := by
  have cut : scan piece.toList = [.string m.1] ++ .colon :: m.2.tokens := h.scan
  obtain ⟨key, rest, split, named, given⟩ := exists_reads_mark (by simp [IsWhole]) rfl cut
  refine ⟨key, String.ofList rest, ?_, (ofText_eq_iff (.string m.1)).2 named.scan,
    (ofText_eq_iff whole).2 (by rw [String.toList_ofList, given])⟩
  rw [← String.toList_inj, split]
  simp

/-- **An object is scanned from pieces that are read as its members**, with blanks behind the
brace. -/
theorem scan_objectText {tss : List (List Token)} (blank : Gap gap)
    (each : List.Forall₂ Reads pieces tss) (rest : List Char) :
    scan ((objectText gap pieces).toList ++ rest) =
      .openObject :: [comma].intercalate tss ++ [.closeObject] ++ scan rest := by
  have opens (cs : List Char) :
      scan (("\x7b" ++ gap).toList ++ cs) = .openObject :: scan cs := by
    rw [String.toList_append, List.append_assoc]
    exact (scan_openObject _).trans (congrArg _ (Json.scan_gap blank cs))
  have closes (cs : List Char) : scan ("\x7d".toList ++ cs) = .closeObject :: scan cs :=
    scan_closeObject cs
  have ends (cs : List Char) : Stops ("\x7d".toList ++ cs) := Json.stops_cons (.inr (.inr rfl)) cs
  have enclosed := Json.scan_enclosed opens closes ends Json.gap_empty Json.gap_empty each rest
  simpa only [objectText, String.append_empty] using enclosed

/-- Up to the end of an object that has members, a text can be cut at its commas. -/
theorem exists_pieces_cons {cs : List Char} {ts : List Token} {tss : List (List Token)}
    {ts' : List Token} (whole : ∀ ts' ∈ ts :: tss, ∀ t ∈ ts', t.IsWhole)
    (h : scan cs = [comma].intercalate (ts :: tss) ++ .closeObject :: ts') :
    ∃ pieces rest, cs = (Json.separatedBy "," pieces).toList ++ '}' :: rest ∧
      List.Forall₂ Reads pieces (ts :: tss) ∧ scan rest = ts' := by
  induction tss generalizing cs ts with
  | nil =>
    rw [List.intercalate_singleton] at h
    obtain ⟨piece, rest, rfl, reads, behind⟩ :=
      exists_reads_mark (whole ts List.mem_cons_self) (t := .closeObject) rfl h
    exact ⟨[piece], rest, by simp [Json.separatedBy], .cons reads .nil, behind⟩
  | cons next tss ih =>
    obtain ⟨first, others⟩ := List.forall_mem_cons.1 whole
    rw [List.intercalate_cons_cons, List.append_assoc, List.append_assoc,
      List.singleton_append] at h
    obtain ⟨piece, rest, rfl, reads, behind⟩ := exists_reads_mark first rfl h
    obtain ⟨pieces, rest, rfl, readss, behind⟩ := ih others behind
    refine ⟨piece :: pieces, rest, ?_, .cons reads readss, behind⟩
    cases readss with
    | cons => simp [Json.separatedBy, String.toList_intercalate]

/-- Up to the end of an object, a text can be cut into pieces at its commas. -/
theorem exists_pieces {cs : List Char} {tss : List (List Token)} {ts : List Token}
    (whole : ∀ ts ∈ tss, ∀ t ∈ ts, t.IsWhole)
    (h : scan cs = [comma].intercalate tss ++ .closeObject :: ts) :
    ∃ gap pieces rest, cs = (gap ++ Json.separatedBy "," pieces).toList ++ '}' :: rest ∧
      Gap gap ∧ List.Forall₂ Reads pieces tss ∧ scan rest = ts := by
  cases tss with
  | nil =>
    have cut : scan cs = [] ++ .closeObject :: ts := h
    obtain ⟨gap, rest, rfl, reads, behind⟩ := exists_reads_mark (by simp) rfl cut
    exact ⟨gap, [], rest, by simp [Json.separatedBy], gap_of_scan_eq_nil reads.scan, .nil, behind⟩
  | cons ts tss =>
    obtain ⟨pieces, rest, rfl, reads, behind⟩ := exists_pieces_cons whole h
    exact ⟨"", pieces, rest, by simp, Json.gap_empty, reads, behind⟩

/-- What stands before and behind a place in a text. -/
structure Around (place : List Step) (before after : String) : Prop where
  before : Reads before (tokensBefore place)
  after : scan after.toList = tokensBehind place

/-- **Whatever pieces stand at a place, their members are read there.** -/
theorem Around.ofText {before after : String} (h : Around place before after) (blank : Gap gap)
    (spelled : List.Forall₂ SpellsMember pieces members)
    (whole : (fill place (.object members .closed)).Complete) :
    ofText (before ++ objectText gap pieces ++ after) =
      (fill place (.object members .closed), false) := by
  have each := (complete_object_iff.1 whole.of_fill).1
  have reads : List.Forall₂ Reads pieces (members.map memberTokens) := by
    rw [List.forall₂_map_right_iff]
    refine ((List.forall₂_and_left _ _).2 ⟨each, spelled.flip⟩).flip.imp fun piece m both => ?_
    exact SpellsMember.reads both.2 both.1
  have opens : Stops ((objectText gap pieces).toList ++ after.toList) := by
    simp only [objectText, String.toList_append, List.append_assoc]
    exact stops_mark (t := .openObject) rfl _
  refine ofText_of_scan whole ?_
  simp only [String.toList_append, List.append_assoc]
  rw [h.before _ opens, scan_objectText blank reads, h.after, tokens_fill, tokens_object]
  simp only [List.append_assoc]

/-- **A text can be cut around every object of its tree.** -/
theorem exists_cut {text : String} {ending : ObjectEnd}
    (read : ofText text = (fill place (.object members ending), false))
    (whole : (fill place (.object members ending)).Complete) :
    ∃ before gap pieces after, text = before ++ objectText gap pieces ++ after ∧
      Gap gap ∧ List.Forall₂ SpellsMember pieces members ∧ Around place before after := by
  obtain ⟨each, closed⟩ := complete_object_iff.1 whole.of_fill
  have cut := (ofText_eq_iff whole).1 read
  have tokensWhole := whole.isWhole
  rw [tokens_fill, tokens_object] at cut tokensWhole
  simp only [List.append_assoc, List.cons_append, List.forall_mem_append] at cut tokensWhole
  obtain ⟨before, rest, split, reads, inside⟩ := exists_reads_mark tokensWhole.1 rfl cut
  obtain ⟨gap, pieces, rest', split', blank, readss, behind⟩ := exists_pieces
    (List.forall_mem_map.2 fun m hm => isWhole_memberTokens (each m hm).isWhole) inside
  refine ⟨before, gap, pieces, String.ofList rest', ?_, blank, ?_, reads, ?_⟩
  · rw [← String.toList_inj, split, split']
    simp [objectText]
  · rw [List.forall₂_map_right_iff] at readss
    refine ((List.forall₂_and_left _ _).2 ⟨each, readss.flip⟩).flip.imp fun piece m both => ?_
    exact spellsMember_of_reads both.2 both.1
  · rw [String.toList_ofList, behind]
    rfl

end Source
end ApiGraph
