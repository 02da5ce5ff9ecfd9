/-
# Where tokens end

A token ends where it ends whatever comes behind it; only a number has to look at the next
character, and at no more than this.  So the text of a token can be cut off and put before another
text that begins with the same character, or with one that cannot continue a number
(`Token.Local`).

It follows that a text can be cut between any two of its tokens (`exists_reads`), and that each
piece keeps its tokens wherever a separator, a bracket or the end comes next.
-/

import ApiGraph.Proofs.Correspondence
import ApiGraph.Proofs.Json.Scanning

namespace ApiGraph
namespace Token

/-- Two texts begin with the same character, or the first with one that continues no number. -/
def Like (rest cs : List Char) : Prop :=
  rest.head? = cs.head? ∨ Stops rest

/-- What is read takes a piece of the text, and takes it as well before other texts that go on
alike. -/
def Local {α : Type} (read : List Char → Except (Fault × Fault) (α × List Char)) : Prop :=
  ∀ cs x cs', read cs = .ok (x, cs') → ∃ piece, cs = piece ++ cs' ∧
    ∀ rest, Like rest cs' → read (piece ++ rest) = .ok (x, rest)

variable {α β : Type} {c : Char} {cs cs' rest : List Char}

/-- A piece before both texts leaves them alike. -/
theorem Like.append (h : Like rest cs) (piece : List Char) :
    Like (piece ++ rest) (piece ++ cs) := by
  cases piece with
  | nil => exact h
  | cons c piece => exact .inl rfl

/-- Where digits end before one text, they end before one that goes on alike. -/
theorem Like.endsDigits (h : Like rest cs) (ends : EndsDigits cs) : EndsDigits rest := by
  rcases h with same | stops
  · rw [EndsDigits, same]
    exact ends
  · exact stops.endsDigits

/-- Where a number ends before one text, it ends before one that goes on alike. -/
theorem Like.stops (h : Like rest cs) (stops : Stops cs) : Stops rest := by
  rcases h with same | stops
  · rw [Stops, same]
    exact stops
  · exact stops

/-- A text that does not begin with the point or letter of a number is like no text that does. -/
theorem Like.not_cons (h : Like rest cs) {c : Char} (special : c = '.' ∨ c = 'e' ∨ c = 'E')
    (other : cs.head? ≠ some c) : rest.head? ≠ some c := by
  rcases h with same | stops
  · rwa [same]
  · intro first
    obtain ⟨-, point, small, capital⟩ := stops c first
    rcases special with rfl | rfl | rfl <;> contradiction

/-! ## Numbers -/

/-- Reading nothing looks at nothing. -/
theorem Local.pure (x : α) : Local fun cs => .ok (x, cs) := by
  rintro cs _ _ ⟨⟩
  exact ⟨[], rfl, fun _ _ => rfl⟩

/-- One after the other, local readings are local: what the first one sees behind its piece is
the second one's piece, and the texts go on alike behind both. -/
theorem Local.bind {read : List Char → Except (Fault × Fault) (α × List Char)}
    {behind : α → List Char → Except (Fault × Fault) (β × List Char)} (hr : Local read)
    (hb : ∀ x, Local (behind x)) :
    Local (fun cs => do
      let (x, cs) ← read cs
      behind x cs) := by
  intro cs y cs'' h
  obtain ⟨⟨x, cs'⟩, first, later⟩ := bind_eq_ok_iff.1 h
  obtain ⟨piece, rfl, again⟩ := hr _ _ _ first
  obtain ⟨piece', rfl, again'⟩ := hb x _ _ _ later
  refine ⟨piece ++ piece', by rw [List.append_assoc], fun rest alike => ?_⟩
  rw [List.append_assoc]
  exact bind_eq_ok_iff.2 ⟨_, again _ (alike.append piece'), again' rest alike⟩

/-- Where nothing is read from no text, the piece that is taken has a first character. -/
theorem Local.exists_cons {read : List Char → Except (Fault × Fault) (α × List Char)} {x : α}
    (hr : Local read) (some_ : ∀ y, read [] ≠ .ok y) (h : read (c :: cs) = .ok (x, cs')) :
    ∃ piece, cs = piece ++ cs' ∧
      ∀ rest, Like rest cs' → read (c :: (piece ++ rest)) = .ok (x, rest) := by
  obtain ⟨piece, whole, again⟩ := hr _ _ _ h
  cases piece with
  | nil => exact absurd (again [] (.inr nofun)) (some_ _)
  | cons d piece =>
    obtain ⟨rfl, rfl⟩ := List.cons.inj whole
    exact ⟨piece, rfl, again⟩

/-- Behind the digits of a text there is no further one. -/
theorem endsDigits_dropWhile (cs : List Char) : EndsDigits (cs.dropWhile Char.isDigit) := by
  intro c hc
  have first := List.head?_dropWhile_not Char.isDigit cs
  rw [Option.mem_def.1 hc] at first
  simpa using first

/-- Digits are taken from a text and from others that go on alike. -/
theorem exists_digits (digit : c.isDigit) (cs : List Char) :
    ∃ piece, c :: cs = c :: piece ++ (c :: cs).dropWhile Char.isDigit ∧
      ∀ rest, Like rest ((c :: cs).dropWhile Char.isDigit) →
        (c :: piece ++ rest).takeWhile Char.isDigit = (c :: cs).takeWhile Char.isDigit ∧
          (c :: piece ++ rest).dropWhile Char.isDigit = rest := by
  have split := List.takeWhile_append_dropWhile (p := Char.isDigit) (l := c :: cs)
  have first : (c :: cs).takeWhile Char.isDigit = c :: cs.takeWhile Char.isDigit :=
    List.takeWhile_cons_of_pos digit
  rw [first] at split ⊢
  refine ⟨cs.takeWhile Char.isDigit, split.symm, fun rest alike => ?_⟩
  refine takeWhile_digits (fun d hd => ?_) (alike.endsDigits (endsDigits_dropWhile _))
  rw [← first] at hd
  exact List.mem_takeWhile_imp hd

/-- Behind a leading zero there is no digit. -/
theorem scanWhole_zero_eq_ok_iff {digits : List Char} :
    scanWhole ('0' :: cs) = .ok (digits, cs') ↔ ['0'] = digits ∧ cs = cs' ∧ EndsDigits cs := by
  cases cs with
  | nil => simp [scanWhole, EndsDigits]
  | cons d cs => by_cases digit : d.isDigit <;> simp [scanWhole, digit, EndsDigits]

/-- The digits before the point are local. -/
theorem local_scanWhole : Local scanWhole := by
  intro cs digits cs' h
  cases cs with
  | nil => cases h
  | cons c tail =>
    by_cases zero : c = '0'
    · subst zero
      obtain ⟨rfl, rfl, ends⟩ := scanWhole_zero_eq_ok_iff.1 h
      refine ⟨['0'], rfl, fun rest alike => ?_⟩
      exact scanWhole_zero_eq_ok_iff.2 ⟨rfl, rfl, alike.endsDigits ends⟩
    · simp only [scanWhole, if_neg zero] at h
      split at h
      · rename_i digit
        cases h
        obtain ⟨piece, whole, again⟩ := exists_digits digit tail
        refine ⟨c :: piece, whole, fun rest alike => ?_⟩
        obtain ⟨taken, dropped⟩ := again rest alike
        rw [List.cons_append] at taken dropped ⊢
        simp only [scanWhole, if_neg zero, if_pos digit, taken, dropped]
      · cases h

/-- The fraction is local: without a point there is none, which only a point could change. -/
theorem local_scanFraction? : Local scanFraction? := by
  intro cs fraction cs' h
  unfold scanFraction? at h
  split at h
  · cases h
  · rename_i c tail
    split at h
    · rename_i digit
      cases h
      obtain ⟨piece, whole, again⟩ := exists_digits digit tail
      refine ⟨'.' :: c :: piece, congrArg ('.' :: ·) whole, fun rest alike => ?_⟩
      obtain ⟨taken, dropped⟩ := again rest alike
      rw [List.cons_append] at taken dropped
      simp only [List.cons_append, scanFraction?, if_pos digit, taken, dropped]
    · cases h
  · rename_i nothing something
    cases h
    refine ⟨[], rfl, fun rest alike => ?_⟩
    have other : rest.head? ≠ some '.' := alike.not_cons (.inl rfl) fun first => by
      cases cs with
      | nil => cases first
      | cons c tail =>
        cases first
        cases tail with
        | nil => exact nothing rfl
        | cons d tail => exact something d tail rfl
    rw [List.nil_append]
    unfold scanFraction?
    split
    · exact absurd rfl other
    · exact absurd rfl other
    · rfl

/-- The digits of an exponent behind its sign. -/
def exponentDigits (negative : Bool) (cs : List Char) :
    Except (Fault × Fault) ((Bool × List Char) × List Char) :=
  match cs with
  | [] => .error (.unfinishedValue, .invalidNumber)
  | c :: _ =>
    if c.isDigit then .ok ((negative, cs.takeWhile Char.isDigit), cs.dropWhile Char.isDigit)
    else .error (.invalidNumber, .invalidNumber)

/-- The digits of an exponent are local. -/
theorem local_exponentDigits (negative : Bool) : Local (exponentDigits negative) := by
  intro cs exponent cs' h
  unfold exponentDigits at h
  split at h
  · cases h
  · rename_i c tail
    split at h
    · rename_i digit
      cases h
      obtain ⟨piece, whole, again⟩ := exists_digits digit tail
      refine ⟨c :: piece, whole, fun rest alike => ?_⟩
      obtain ⟨taken, dropped⟩ := again rest alike
      rw [List.cons_append] at taken dropped ⊢
      simp only [exponentDigits, if_pos digit, taken, dropped]
    · cases h

/-- Without a sign, an exponent is its digits. -/
theorem scanExponent_cons (plus : c ≠ '+') (minus : c ≠ '-') (cs : List Char) :
    scanExponent (c :: cs) = exponentDigits false (c :: cs) := by
  unfold scanExponent
  split
  rename_i signed
  split at signed
  · rename_i same
    exact absurd (List.cons.inj same).1 plus
  · rename_i same
    exact absurd (List.cons.inj same).1 minus
  · cases signed
    rfl

/-- An exponent is local, with a sign or without one. -/
theorem local_scanExponent : Local scanExponent := by
  intro cs exponent cs' h
  cases cs with
  | nil => cases h
  | cons c cs =>
    by_cases plus : c = '+'
    · subst plus
      obtain ⟨piece, rfl, again⟩ := local_exponentDigits false _ _ _ h
      exact ⟨'+' :: piece, rfl, again⟩
    by_cases minus : c = '-'
    · subst minus
      obtain ⟨piece, rfl, again⟩ := local_exponentDigits true _ _ _ h
      exact ⟨'-' :: piece, rfl, again⟩
    rw [scanExponent_cons plus minus] at h
    obtain ⟨piece, rfl, again⟩ := (local_exponentDigits false).exists_cons nofun h
    refine ⟨c :: piece, rfl, fun rest alike => ?_⟩
    rw [List.cons_append, scanExponent_cons plus minus]
    exact again rest alike

/-- So is an exponent that may be missing, which only its letter could change. -/
theorem local_scanExponent? : Local scanExponent? := by
  intro cs exponent cs' h
  unfold scanExponent? at h
  split at h
  · rename_i c cs
    split at h
    · rename_i letter
      obtain ⟨⟨e, cs''⟩, read, same⟩ := map_eq_ok_iff.1 h
      cases same
      obtain ⟨piece, rfl, again⟩ := local_scanExponent _ _ _ read
      refine ⟨c :: piece, rfl, fun rest alike => ?_⟩
      rw [List.cons_append, scanExponent?, if_pos letter, again rest alike]
      rfl
    · rename_i other
      cases h
      refine ⟨[], rfl, fun rest alike => ?_⟩
      rw [List.nil_append]
      cases rest with
      | nil => rfl
      | cons d rest =>
        have small := alike.not_cons (.inr (.inl rfl)) fun first =>
          other (.inl (Option.some.inj first))
        have capital := alike.not_cons (.inr (.inr rfl)) fun first =>
          other (.inr (Option.some.inj first))
        rw [scanExponent?, if_neg (by simpa using And.intro small capital)]
  · cases h
    exact ⟨[], rfl, fun rest alike => scanExponent?_of_stops (alike.stops (by rintro _ ⟨⟩))⟩

/-- A number behind its sign. -/
def unsignedParts (negative : Bool) (cs : List Char) :
    Except (Fault × Fault) (NumberParts × List Char) := do
  let (whole, cs) ← scanWhole cs
  let (fraction, cs) ← scanFraction? cs
  let (exponent, cs) ← scanExponent? cs
  return (⟨negative, whole, fraction, exponent⟩, cs)

/-- A number behind its sign is local, being made of three local parts. -/
theorem local_unsignedParts (negative : Bool) : Local (unsignedParts negative) :=
  local_scanWhole.bind fun _ => local_scanFraction?.bind fun _ => local_scanExponent?.bind fun _ =>
    .pure _

/-- Without a minus, a number is what stands behind a sign. -/
theorem scanNumberParts_cons (minus : c ≠ '-') (cs : List Char) :
    scanNumberParts (c :: cs) = unsignedParts false (c :: cs) := by
  unfold scanNumberParts
  split
  rename_i signed
  split at signed
  · rename_i same
    exact absurd (List.cons.inj same).1 minus
  · cases signed
    rfl

/-- **A number is local**: it ends where the next character does not continue it. -/
theorem local_scanNumberParts : Local scanNumberParts := by
  intro cs parts cs' h
  cases cs with
  | nil => cases h
  | cons c cs =>
    by_cases minus : c = '-'
    · subst minus
      obtain ⟨piece, rfl, again⟩ := local_unsignedParts true _ _ _ h
      exact ⟨'-' :: piece, rfl, again⟩
    · rw [scanNumberParts_cons minus] at h
      obtain ⟨piece, rfl, again⟩ := (local_unsignedParts false).exists_cons nofun h
      refine ⟨c :: piece, rfl, fun rest alike => ?_⟩
      rw [List.cons_append, scanNumberParts_cons minus]
      exact again rest alike

/-! ## Tokens -/

/-- A token that does not break off. -/
def IsWhole : Token → Prop
  | .broken _ _ => False
  | .brokenString _ _ => False
  | .stray => False
  | _ => True

/-- A token that does not break off is taken from a text, and as well from others that go on
alike. -/
def LocalToken (read : List Char → Token × List Char) : Prop :=
  ∀ cs t cs', read cs = (t, cs') → t.IsWhole → ∃ piece, cs = piece ++ cs' ∧
    ∀ rest, Like rest cs' → read (piece ++ rest) = (t, rest)

/-- A token that was read already looks at nothing more. -/
theorem localToken_mark (t : Token) : LocalToken fun cs => (t, cs) := by
  rintro cs _ _ ⟨⟩ -
  exact ⟨[], rfl, fun _ _ => rfl⟩

/-- A test that is not about the text chooses between local readings. -/
theorem LocalToken.ite {p : Prop} [Decidable p] {read read' : List Char → Token × List Char}
    (h : LocalToken read) (h' : LocalToken read') :
    LocalToken fun cs => if p then read cs else read' cs := by
  by_cases holds : p
  · simpa only [if_pos holds] using h
  · simpa only [if_neg holds] using h'

/-- A number is read locally as a token. -/
theorem localToken_scanNumber (c : Char) : LocalToken fun cs => scanNumber (c :: cs) := by
  intro cs t cs' h whole
  simp only [scanNumber] at h ⊢
  split at h
  · rename_i parts _ read
    cases h
    obtain ⟨piece, rfl, again⟩ := local_scanNumberParts.exists_cons (by rintro _ ⟨⟩) read
    exact ⟨piece, rfl, fun rest alike => by simp only [again rest alike]⟩
  · cases h
    cases whole

/-- A word is read character by character, and ends with its last one. -/
theorem localToken_scanWord (value : Scalar) (expected : List Char) :
    LocalToken (scanWord value expected) := by
  induction expected with
  | nil => exact localToken_mark _
  | cons e expected ih =>
    intro cs t cs' h whole
    cases cs with
    | nil =>
      cases h
      cases whole
    | cons c cs =>
      rw [scanWord] at h
      split at h
      · rename_i same
        obtain ⟨piece, rfl, again⟩ := ih cs t cs' h whole
        refine ⟨c :: piece, rfl, fun rest alike => ?_⟩
        rw [List.cons_append, scanWord, if_pos same]
        exact again rest alike
      · cases h
        cases whole

/-- A string ends with its quotation mark, whatever stands behind. -/
theorem localToken_scanString (s : StringState) : LocalToken (scanString s) := by
  intro cs t cs' h whole
  fun_induction scanString s cs with
  | case3 s a b c d rest n unit ih =>
    obtain ⟨piece, rfl, again⟩ := ih h
    refine ⟨'\\' :: 'u' :: a :: b :: c :: d :: piece, rfl, fun rest alike => ?_⟩
    simp only [List.cons_append]
    rw [scanString, unit]
    exact again rest alike
  | case7 s c rest _ unicode e letter ih =>
    obtain ⟨piece, rfl, again⟩ := ih h
    refine ⟨'\\' :: c :: piece, rfl, fun rest alike => ?_⟩
    exact (scanString_letter s unicode letter).trans (again rest alike)
  | case9 s rest =>
    cases h
    exact ⟨['"'], rfl, fun rest _ => scanString_quote s rest⟩
  | case11 s c rest alone _ _ escaped quote printable ih =>
    obtain ⟨piece, rfl, again⟩ := ih h
    have backslash : c ≠ '\\' := by
      intro same
      cases e : piece ++ cs' with
      | nil => exact alone same e
      | cons d tail => exact escaped d tail same e
    refine ⟨c :: piece, rfl, fun rest alike => ?_⟩
    exact (scanString_plain s quote backslash printable).trans (again rest alike)
  -- In the other cases the string breaks off.
  | _ =>
    cases h
    cases whole

/-- **Every token is local.** -/
theorem localToken_scanOne (c : Char) : LocalToken (scanOne c) :=
  -- In the order of the tests: six marks, then strings, words, numbers and the rest.
  .ite (localToken_mark _) <| .ite (localToken_mark _) <| .ite (localToken_mark _) <|
    .ite (localToken_mark _) <| .ite (localToken_mark _) <| .ite (localToken_mark _) <|
      .ite (localToken_scanString _) <| .ite (localToken_scanWord _ _) <|
        .ite (localToken_scanWord _ _) <| .ite (localToken_scanWord _ _) <|
          .ite (localToken_scanNumber c) (localToken_mark _)

/-! ## Marks -/

/-- The character of a token that is one, whatever stands behind. -/
def mark? : Token → Option Char
  | .openArray => some '['
  | .closeArray => some ']'
  | .openObject => some '{'
  | .closeObject => some '}'
  | .comma => some ','
  | .colon => some ':'
  | _ => none

/-- A string is no mark. -/
theorem mark?_scanString (s : StringState) (cs : List Char) : (scanString s cs).1.mark? = none := by
  fun_induction scanString s cs <;>
    first | assumption | rfl | (simp only [StringState.close]; split <;> rfl)

/-- A word is no mark. -/
theorem mark?_scanWord (value : Scalar) (expected cs : List Char) :
    (scanWord value expected cs).1.mark? = none := by
  fun_induction scanWord value expected cs <;> first | assumption | rfl

/-- A number is no mark. -/
theorem mark?_scanNumber (cs : List Char) : (scanNumber cs).1.mark? = none := by
  unfold scanNumber
  split <;> rfl

/-- Marks are read from their own characters only. -/
def MarksOnly (c : Char) (read : List Char → Token × List Char) : Prop :=
  ∀ cs t cs' m, read cs = (t, cs') → t.mark? = some m → c = m ∧ cs' = cs

/-- A mark is read from its character. -/
theorem marksOnly_mark {t : Token} (h : t.mark? = some c) : MarksOnly c fun cs => (t, cs) := by
  rintro cs _ _ m ⟨⟩ mark
  exact ⟨Option.some.inj (h.symm.trans mark), rfl⟩

/-- What reads no marks at all reads none from other characters. -/
theorem marksOnly_of_none {read : List Char → Token × List Char}
    (h : ∀ cs, (read cs).1.mark? = none) : MarksOnly c read := by
  intro cs t cs' m read mark
  have none := h cs
  rw [read, mark] at none
  cases none

/-- A test that is not about the text chooses between two readings of a mark. -/
theorem MarksOnly.ite {p : Prop} [Decidable p] {read read' : List Char → Token × List Char}
    (h : p → MarksOnly c read) (h' : MarksOnly c read') :
    MarksOnly c fun cs => if p then read cs else read' cs := by
  by_cases holds : p
  · simpa only [if_pos holds] using h holds
  · simpa only [if_neg holds] using h'

/-- **A mark is read from its own character only.** -/
theorem marksOnly_scanOne (c : Char) : MarksOnly c (scanOne c) :=
  .ite (fun same => marksOnly_mark (congrArg some same.symm)) <|
  .ite (fun same => marksOnly_mark (congrArg some same.symm)) <|
  .ite (fun same => marksOnly_mark (congrArg some same.symm)) <|
  .ite (fun same => marksOnly_mark (congrArg some same.symm)) <|
  .ite (fun same => marksOnly_mark (congrArg some same.symm)) <|
  .ite (fun same => marksOnly_mark (congrArg some same.symm)) <|
  .ite (fun _ => marksOnly_of_none (mark?_scanString _)) <|
  .ite (fun _ => marksOnly_of_none (mark?_scanWord _ _)) <|
  .ite (fun _ => marksOnly_of_none (mark?_scanWord _ _)) <|
  .ite (fun _ => marksOnly_of_none (mark?_scanWord _ _)) <|
  .ite (fun _ => marksOnly_of_none fun cs => mark?_scanNumber (c :: cs)) <|
    marksOnly_of_none fun _ => rfl

/-- No mark continues a number. -/
theorem stops_mark {t : Token} {m : Char} (h : t.mark? = some m) (cs : List Char) :
    Stops (m :: cs) := by
  rintro _ ⟨⟩
  cases t <;> cases h <;> decide

/-! ## Pieces of a text -/

open Json (Gap Reads scan_gap)

/-- Before the first token there are blanks. -/
theorem exists_of_scan_eq_cons {t : Token} {ts : List Token} (h : scan cs = t :: ts) :
    ∃ gap c tail rest, cs = gap.toList ++ c :: tail ∧ Gap gap ∧ isBlank c = false ∧
      scanOne c tail = (t, rest) ∧ scan rest = ts := by
  induction cs with
  | nil => rw [scan] at h; cases h
  | cons c cs ih =>
    cases blank : isBlank c with
    | false =>
      rw [scan_cons blank] at h
      obtain ⟨first, later⟩ := List.cons.inj h
      exact ⟨"", c, cs, _, rfl, by simp [Gap], blank, Prod.ext first rfl, later⟩
    | true =>
      rw [scan, if_pos blank] at h
      obtain ⟨gap, d, tail, rest, rfl, blanks, behind⟩ := ih h
      refine ⟨String.singleton c ++ gap, d, tail, rest, by simp, fun e he => ?_, behind⟩
      rw [String.toList_append, List.mem_append] at he
      rcases he with he | he
      · simp only [String.toList_singleton, List.mem_singleton] at he
        rw [he, blank]
      · exact blanks e he

/-- Without tokens there are only blanks. -/
theorem gap_of_scan_eq_nil (h : scan cs = []) : ∀ c ∈ cs, isBlank c := by
  induction cs with
  | nil => exact nofun
  | cons c cs ih =>
    cases blank : isBlank c with
    | false =>
      rw [scan_cons blank] at h
      cases h
    | true =>
      rw [scan, if_pos blank] at h
      exact List.forall_mem_cons.2 ⟨blank, ih h⟩

/-- Blanks behind a piece make no difference to it. -/
theorem reads_append_gap {text gap : String} {ts : List Token} (h : Reads text ts)
    (blank : Gap gap) : Reads (text ++ gap) ts := by
  intro rest stop
  rw [String.toList_append, List.append_assoc, h _ (blank.stops stop), scan_gap blank]

/-- **A text can be cut between any two of its tokens.**  The first piece keeps its tokens where
something else comes behind that cannot continue a number. -/
theorem exists_reads {ts ts' : List Token} (whole : ∀ t ∈ ts, t.IsWhole)
    (h : scan cs = ts ++ ts') :
    ∃ text rest, cs = text.toList ++ rest ∧ Reads text ts ∧ scan rest = ts' := by
  induction ts generalizing cs with
  | nil => exact ⟨"", cs, rfl, fun _ _ => rfl, h⟩
  | cons t ts ih =>
    obtain ⟨first, others⟩ := List.forall_mem_cons.1 whole
    obtain ⟨gap, c, tail, behind, rfl, blank, dense, one, later⟩ := exists_of_scan_eq_cons h
    obtain ⟨text, rest, rfl, reads, later⟩ := ih others later
    obtain ⟨piece, rfl, again⟩ := localToken_scanOne c _ _ _ one first
    refine ⟨gap ++ String.ofList (c :: piece) ++ text, rest, by simp, fun rest' stop => ?_, later⟩
    have alike : Like (text.toList ++ rest') (text.toList ++ rest) := Like.append (.inr stop) _
    simp only [String.toList_append, String.toList_ofList, List.append_assoc, List.cons_append]
    rw [scan_gap blank, scan_cons dense, again _ alike, reads rest' stop]

/-- Where a mark comes behind, the blanks before it belong to the piece. -/
theorem exists_reads_mark {ts ts' : List Token} {t : Token} {m : Char}
    (whole : ∀ t ∈ ts, t.IsWhole) (mark : t.mark? = some m) (h : scan cs = ts ++ t :: ts') :
    ∃ text rest, cs = text.toList ++ m :: rest ∧ Reads text ts ∧ scan rest = ts' := by
  obtain ⟨text, rest, rfl, reads, behind⟩ := exists_reads whole h
  obtain ⟨gap, c, tail, rest, rfl, blank, -, one, later⟩ := exists_of_scan_eq_cons behind
  obtain ⟨rfl, rfl⟩ := marksOnly_scanOne c _ _ _ _ one mark
  exact ⟨text ++ gap, rest, by simp, reads_append_gap reads blank, later⟩

/-- A whole text keeps its tokens. -/
theorem reads_of_scan {text : String} {ts : List Token} (whole : ∀ t ∈ ts, t.IsWhole)
    (h : scan text.toList = ts) : Reads text ts := by
  obtain ⟨front, rest, split, reads, behind⟩ :=
    exists_reads whole (h.trans (List.append_nil ts).symm)
  have blank : Gap (String.ofList rest) := by
    rw [Gap, String.toList_ofList]
    exact gap_of_scan_eq_nil behind
  have same : text = front ++ String.ofList rest := by
    rw [← String.toList_inj, split, String.toList_append, String.toList_ofList]
  rw [same]
  exact reads_append_gap reads blank

end Token
end ApiGraph
