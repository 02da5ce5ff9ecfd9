/-
# Strings and integers that were printed

What is printed for a string is read as the string, character by character: an escape is undone
by what reads it (`scanString_escapedChar`).  What is printed for an integer is read as the
integer if it fits into 64 bits, where a number ends as soon as its digits do (`Stops`).
-/

import ApiGraph.Json.Source
import Mathlib.Data.List.TakeWhile

namespace ApiGraph

/-- An integer of at most 64 bits, signed or unsigned. -/
def Scalar.Fits : Scalar → Prop
  | .integer i => -(Nat.pow 2 63 : Int) ≤ i ∧ i < (Nat.pow 2 64 : Int)
  | _ => True

instance : DecidablePred Scalar.Fits
  | .integer i => inferInstanceAs (Decidable (-(Nat.pow 2 63 : Int) ≤ i ∧ i < (Nat.pow 2 64 : Int)))
  | .null | .bool _ | .float _ => .isTrue trivial

namespace Token

/-! ## Punctuation -/

/-- Where no blank stands, a token begins. -/
theorem scan_cons {c : Char} (h : isBlank c = false) (cs : List Char) :
    scan (c :: cs) = (scanOne c cs).1 :: scan (scanOne c cs).2 := by
  rw [scan, if_neg (by simp [h])]

@[simp] theorem scan_comma (cs : List Char) : scan (',' :: cs) = .comma :: scan cs :=
  scan_cons rfl cs

@[simp] theorem scan_colon (cs : List Char) : scan (':' :: cs) = .colon :: scan cs :=
  scan_cons rfl cs

@[simp] theorem scan_openArray (cs : List Char) : scan ('[' :: cs) = .openArray :: scan cs :=
  scan_cons rfl cs

@[simp] theorem scan_closeArray (cs : List Char) : scan (']' :: cs) = .closeArray :: scan cs :=
  scan_cons rfl cs

@[simp] theorem scan_openObject (cs : List Char) : scan ('{' :: cs) = .openObject :: scan cs :=
  scan_cons rfl cs

@[simp] theorem scan_closeObject (cs : List Char) : scan ('}' :: cs) = .closeObject :: scan cs :=
  scan_cons rfl cs

/-! ## Strings -/

/-- The four digits that are printed for a control character are its code unit. -/
theorem hexUnit?_control : ∀ n < 0x20,
    hexUnit? '0' '0' (Json.hexDigit (n / 16)) (Json.hexDigit (n % 16)) = some n := by
  decide

/-- The code unit of a control character is no half of a pair, and is pushed as it is. -/
theorem pushUnit_control {cs : List Char} {n : Nat} (h : n < 0x20) :
    StringState.pushUnit ⟨cs, none, none⟩ n = ⟨Char.ofNat n :: cs, none, none⟩ := by
  have low : isLowSurrogate n = false := by simp [isLowSurrogate]; omega
  have high : isHighSurrogate n = false := by simp [isHighSurrogate]; omega
  simp [StringState.pushUnit, low, high, StringState.push]

/-- A character that stands for itself. -/
theorem scanString_plain (s : StringState) {rest : List Char} {c : Char} (quote : c ≠ '"')
    (backslash : c ≠ '\\') (printable : ¬c.toNat < 0x20) :
    scanString s (c :: rest) = scanString (s.settle.push c) rest := by
  rw [scanString]
  · rw [if_neg quote, if_neg printable]
  all_goals
    intros
    simp_all

/-- A character that stands for another one behind a backslash. -/
theorem scanString_letter (s : StringState) {rest : List Char} {c e : Char} (unicode : c ≠ 'u')
    (h : escape? c = some e) :
    scanString s ('\\' :: c :: rest) = scanString (s.settle.push e) rest := by
  rw [scanString, h]
  all_goals simp [unicode]

/-- A quotation mark ends the string. -/
theorem scanString_quote (s : StringState) (rest : List Char) :
    scanString s ('"' :: rest) = (s.close, rest) := by
  rw [scanString]
  · rfl
  all_goals simp

/-- What is printed for a character is read as this character. -/
theorem scanString_escapedChar (before : List Char) (c : Char) (rest : List Char) :
    scanString ⟨before, none, none⟩ (Json.escapedChar c ++ rest) =
      scanString ⟨c :: before, none, none⟩ rest := by
  have letter {e : Char} (unicode : e ≠ 'u') (h : escape? e = some c) :
      scanString ⟨before, none, none⟩ (['\\', e] ++ rest) =
        scanString ⟨c :: before, none, none⟩ rest := scanString_letter _ unicode h
  unfold Json.escapedChar
  split_ifs with quote backslash b t n f r control
  · exact letter (by decide) (by rw [quote]; rfl)
  · exact letter (by decide) (by rw [backslash]; rfl)
  · exact letter (by decide) (by rw [b]; rfl)
  · exact letter (by decide) (by rw [t]; rfl)
  · exact letter (by decide) (by rw [n]; rfl)
  · exact letter (by decide) (by rw [f]; rfl)
  · exact letter (by decide) (by rw [r]; rfl)
  · simp only [List.cons_append, List.nil_append]
    rw [scanString, hexUnit?_control _ control]
    exact (congrArg (scanString · rest) (pushUnit_control control)).trans (by rw [Char.ofNat_toNat])
  · exact scanString_plain _ quote backslash control

/-- What is printed for characters is read as them, behind those that were read `before`, the
last one first. -/
theorem scanString_escaped (before cs rest : List Char) :
    scanString ⟨before, none, none⟩ (cs.flatMap Json.escapedChar ++ '"' :: rest) =
      (.string (.ok (String.ofList (before.reverse ++ cs))), rest) := by
  induction cs generalizing before with
  | nil =>
    rw [List.flatMap_nil, List.nil_append, List.append_nil, scanString_quote]
    rfl
  | cons c cs ih =>
    rw [List.flatMap_cons, List.append_assoc, scanString_escapedChar, ih, List.reverse_cons,
      List.append_assoc, List.singleton_append]

/-- **A string that was printed is read.** -/
theorem scan_stringText (s : String) (rest : List Char) :
    scan ((Json.stringText s).toList ++ rest) = .string (.ok s) :: scan rest := by
  have quoted : (Json.stringText s).toList ++ rest =
      '"' :: (s.toList.flatMap Json.escapedChar ++ '"' :: rest) := by
    simp [Json.stringText, Json.stringChars]
  have one : scanOne '"' (s.toList.flatMap Json.escapedChar ++ '"' :: rest) =
      (.string (.ok s), rest) :=
    (scanString_escaped [] s.toList rest).trans (by simp)
  rw [quoted, scan_cons rfl, one]

/-! ## Integers -/

/-- What follows does not continue a number. -/
def Stops (rest : List Char) : Prop :=
  ∀ c ∈ rest.head?, c.isDigit = false ∧ c ≠ '.' ∧ c ≠ 'e' ∧ c ≠ 'E'

/-- What follows is no further digit. -/
def EndsDigits (rest : List Char) : Prop :=
  ∀ c ∈ rest.head?, c.isDigit = false

/-- What does not continue a number is no further digit. -/
theorem Stops.endsDigits {rest : List Char} (h : Stops rest) : EndsDigits rest :=
  fun c hc => (h c hc).1

/-- Digits are taken up to what is no further digit. -/
theorem takeWhile_digits {digits rest : List Char} (all : ∀ c ∈ digits, c.isDigit)
    (ends : EndsDigits rest) : (digits ++ rest).takeWhile Char.isDigit = digits ∧
      (digits ++ rest).dropWhile Char.isDigit = rest := by
  cases rest with
  | nil => simpa using List.takeWhile_eq_self_iff.2 all
  | cons c rest =>
    have other : c.isDigit = false := ends c rfl
    rw [List.takeWhile_append_of_pos all, List.dropWhile_append_of_pos all,
      List.takeWhile_cons_of_neg (by simp [other]), List.dropWhile_cons_of_neg (by simp [other])]
    simp

/-- There is no fraction where a number stops. -/
theorem scanFraction?_of_stops {rest : List Char} (stop : Stops rest) :
    scanFraction? rest = .ok (none, rest) := by
  unfold scanFraction?
  split
  · exact absurd rfl (stop _ rfl).2.1
  · exact absurd rfl (stop _ rfl).2.1
  · rfl

/-- There is no exponent where a number stops. -/
theorem scanExponent?_of_stops {rest : List Char} (stop : Stops rest) :
    scanExponent? rest = .ok (none, rest) := by
  cases rest with
  | nil => rfl
  | cons c rest => rw [scanExponent?, if_neg]; simpa using (stop c rfl).2.2

/-- Only zero is written with a leading zero. -/
theorem exists_toDigits_eq_cons (n : Nat) :
    ∃ c cs, Nat.toDigits 10 n = c :: cs ∧ (c = '0' → n = 0) := by
  induction n using Nat.strongRecOn with
  | ind n ih =>
    rw [Nat.toDigits_eq_if (by decide)]
    split_ifs with small
    · exact ⟨_, [], rfl, Nat.digitChar_eq_zero.1⟩
    · obtain ⟨c, cs, e, first⟩ := ih (n / 10) (by omega)
      exact ⟨c, cs ++ [(n % 10).digitChar], by rw [e, List.cons_append], fun h => by
        have := first h
        omega⟩

/-- A natural number is printed in digits. -/
theorem isDigit_toDigits {n : Nat} {c : Char} (h : c ∈ Nat.toDigits 10 n) : c.isDigit :=
  Nat.isDigit_of_mem_toDigits (by decide) (by decide) h

/-- The digits that are printed for a natural number are read in full, since only zero begins
with a zero. -/
theorem scanWhole_toDigits (n : Nat) {rest : List Char} (stop : Stops rest) :
    scanWhole (Nat.toDigits 10 n ++ rest) = .ok (Nat.toDigits 10 n, rest) := by
  obtain ⟨taken, dropped⟩ := takeWhile_digits (fun _ => isDigit_toDigits (n := n)) stop.endsDigits
  obtain ⟨c, cs, e, first⟩ := exists_toDigits_eq_cons n
  have digit : c.isDigit := isDigit_toDigits (by rw [e]; exact List.mem_cons_self)
  by_cases zero : c = '0'
  · rw [first zero, Nat.toDigits_zero]
    cases rest with
    | nil => rfl
    | cons d rest => simp [scanWhole, (stop d rfl).1]
  · rw [e, List.cons_append] at taken dropped ⊢
    simp only [scanWhole, if_neg zero, if_pos digit, taken, dropped]

/-- More digits make no smaller number. -/
theorem le_ofDigitChars (digits : List Char) (n : Nat) : n ≤ Nat.ofDigitChars 10 digits n := by
  induction digits generalizing n with
  | nil => exact Nat.le_refl n
  | cons c digits ih =>
    rw [Nat.ofDigitChars_cons]
    exact Nat.le_trans (by omega) (ih _)

/-- Digits are gathered without loss as long as the number fits into a word. -/
theorem gatherWhole_eq {digits : List Char} {n : Nat}
    (h : Nat.ofDigitChars 10 digits n ≤ wordMax) :
    gatherWhole n digits = (Nat.ofDigitChars 10 digits n, 0) := by
  induction digits generalizing n with
  | nil => rfl
  | cons c digits ih =>
    rw [Nat.ofDigitChars_cons, Nat.mul_comm] at h ⊢
    have fits := Nat.le_trans (le_ofDigitChars digits _) h
    rw [gatherWhole, if_neg (Nat.not_lt.2 fits), ih h]

/-- A natural number that fits into a word is gathered from its digits. -/
theorem gatherWhole_toDigits {n : Nat} (h : n ≤ wordMax) :
    gatherWhole 0 (Nat.toDigits 10 n) = (n, 0) := by
  have read : Nat.ofDigitChars 10 (Nat.toDigits 10 n) 0 = n :=
    Nat.ofDigitChars_toDigits (by decide) (by decide)
  rw [gatherWhole_eq (by rwa [read]), read]

/-- The literal of an integer. -/
def integerParts (negative : Bool) (n : Nat) : NumberParts :=
  ⟨negative, Nat.toDigits 10 n, none, none⟩

/-- A natural number is read as a whole part alone. -/
theorem scanNumberParts_natural (n : Nat) {rest : List Char} (stop : Stops rest) :
    scanNumberParts (Nat.toDigits 10 n ++ rest) = .ok (integerParts false n, rest) := by
  obtain ⟨c, cs, e, -⟩ := exists_toDigits_eq_cons n
  have unsigned : c ≠ '-' := by
    rintro rfl
    exact absurd (isDigit_toDigits (n := n) (by rw [e]; exact List.mem_cons_self)) (by decide)
  have whole := scanWhole_toDigits n stop
  rw [e, List.cons_append] at whole
  rw [e, List.cons_append, scanNumberParts, whole]
  · simp only [bind, Except.bind, scanFraction?_of_stops stop, scanExponent?_of_stops stop,
      integerParts, e]
    rfl
  · rintro _ ⟨⟩
    exact unsigned rfl

/-- The same of a negative number behind its sign. -/
theorem scanNumberParts_negative (n : Nat) {rest : List Char} (stop : Stops rest) :
    scanNumberParts ('-' :: (Nat.toDigits 10 n ++ rest)) = .ok (integerParts true n, rest) := by
  simp only [scanNumberParts, scanWhole_toDigits n stop, bind, Except.bind,
    scanFraction?_of_stops stop, scanExponent?_of_stops stop]
  rfl

/-- The value of a whole part that fits into a word. -/
theorem value_natural {n : Nat} (h : n ≤ wordMax) :
    (integerParts false n).value = .ok (.integer n) := by
  simp [NumberParts.value, integerParts, gatherWhole_toDigits h]

/-- The value of a negative whole part that fits into a signed word. -/
theorem value_negative {n : Nat} (pos : 0 < n) (h : n ≤ Nat.pow 2 63) :
    (integerParts true n).value = .ok (.integer (-n)) := by
  have fits : n ≤ wordMax := Nat.le_trans h (by decide)
  have small : 0 < n ∧ n ≤ Nat.pow 2 63 := ⟨pos, h⟩
  simp only [NumberParts.value, integerParts, gatherWhole_toDigits fits, small]
  rfl

/-- A digit begins a number. -/
theorem scanOne_of_isDigit {c : Char} (h : c.isDigit) (cs : List Char) :
    isBlank c = false ∧ scanOne c cs = scanNumber (c :: cs) := by
  have ne {d : Char} (hd : d.isDigit = false) : c ≠ d := by
    rintro rfl
    rw [h] at hd
    cases hd
  constructor
  · simp [isBlank, ne]
  · simp [scanOne, ne, h]

/-- **A natural number that was printed is read**, if it fits into a word. -/
theorem scan_natural {n : Nat} (fits : n ≤ wordMax) {rest : List Char} (stop : Stops rest) :
    scan (Nat.toDigits 10 n ++ rest) = .scalar (.ok (.integer n)) :: scan rest := by
  have number : scanNumber (Nat.toDigits 10 n ++ rest) = (.scalar (.ok (.integer n)), rest) := by
    simp only [scanNumber, scanNumberParts_natural n stop, value_natural fits]
  obtain ⟨c, cs, e, -⟩ := exists_toDigits_eq_cons n
  have digit : c.isDigit := isDigit_toDigits (n := n) (by rw [e]; exact List.mem_cons_self)
  rw [e, List.cons_append] at number ⊢
  obtain ⟨dense, one⟩ := scanOne_of_isDigit digit (cs ++ rest)
  rw [scan_cons dense, one, number]

/-- **A negative number that was printed is read**, if it fits into a signed word. -/
theorem scan_negative {n : Nat} (pos : 0 < n) (fits : n ≤ Nat.pow 2 63) {rest : List Char}
    (stop : Stops rest) :
    scan ('-' :: (Nat.toDigits 10 n ++ rest)) = .scalar (.ok (.integer (-n))) :: scan rest := by
  have one : scanOne '-' (Nat.toDigits 10 n ++ rest) =
      scanNumber ('-' :: (Nat.toDigits 10 n ++ rest)) := rfl
  rw [scan_cons rfl, one]
  simp only [scanNumber, scanNumberParts_negative n stop, value_negative pos fits]

/-- **An integer that was printed is read.** -/
theorem scan_integerText {i : Int} (fits : (Scalar.integer i).Fits) {rest : List Char}
    (stop : Stops rest) :
    scan ((Json.integerText i).toList ++ rest) = .scalar (.ok (.integer i)) :: scan rest := by
  obtain ⟨low, high⟩ := fits
  cases i with
  | ofNat n =>
    have text : (Json.integerText (.ofNat n)).toList = Nat.toDigits 10 n := Nat.toList_repr
    rw [text]
    have fits : (n : Int) < 18446744073709551616 := high
    exact scan_natural (show n ≤ 18446744073709551615 by omega) stop
  | negSucc n =>
    have text : (Json.integerText (.negSucc n)).toList = '-' :: Nat.toDigits 10 (n + 1) := by
      rw [← Nat.toList_repr]
      exact String.toList_append
    rw [text]
    exact scan_negative (Nat.succ_pos n) (by omega) stop

end Token
end ApiGraph
