/-
# The tokens of a JSON text

A text is cut into punctuation, scalars and strings; blanks between them vanish.
Cutting never fails: where the text breaks the grammar of a token, a token stands
that says so and the list ends.

One text is judged in two ways.  A value that is wanted is *read*, a value that
nobody asked for is *skipped*, and the two notice different things: skipping does
not pair surrogates or compute numbers, so a complete token may carry a fault
that only reading meets, and a broken one names a fault for each.
-/

import ApiGraph.Json.Fault

namespace ApiGraph

/-- A scalar other than a string. -/
inductive Scalar where
  | null
  | bool (b : Bool)
  | integer (i : Int)
  | float (x : Binary64)
  deriving DecidableEq, Repr

/-- A piece of a JSON text. -/
inductive Token where
  | openArray
  | closeArray
  | openObject
  | closeObject
  | comma
  | colon
  /-- A word or a number, with what reading it gives. -/
  | scalar (value : Except Fault Scalar)
  /-- A string, with what reading it gives. -/
  | string (text : Except Fault String)
  /-- A word or a number that breaks off, with the fault that reading and skipping meet. -/
  | broken (reading skipping : Fault)
  /-- A string that breaks off, with the fault that reading and skipping meet. -/
  | brokenString (reading skipping : Fault)
  /-- A character that begins no token. -/
  | stray
  deriving Repr

namespace Token

/-- The blanks of JSON. -/
def isBlank (c : Char) : Bool :=
  c = ' ' || c = '\n' || c = '\t' || c = '\r'

/-! ## Numbers -/

/-- The largest integer that digits are gathered into. -/
def wordMax : Nat := Nat.pow 2 64 - 1

/-- Gathers the digits before the point, as many as fit; the second component
counts those that do not. -/
def gatherWhole (gathered : Nat) : List Char → Nat × Nat
  | [] => (gathered, 0)
  | c :: rest =>
    let next := gathered * 10 + (c.toNat - '0'.toNat)
    if wordMax < next then (gathered, (c :: rest).length) else gatherWhole next rest

/-- Gathers the digits behind the point until one does not fit; the second
component counts the gathered ones. -/
def gatherFraction (gathered : Nat) : List Char → Nat × Nat
  | [] => (gathered, 0)
  | c :: rest =>
    let next := gathered * 10 + (c.toNat - '0'.toNat)
    if wordMax < next then (gathered, 0)
    else
      let (digits, count) := gatherFraction next rest
      (digits, count + 1)

/-- A number's literal, cut into its parts.  Fraction and exponent are there only
if they were written. -/
structure NumberParts where
  /-- A minus sign was written. -/
  negative : Bool
  /-- The digits before the point. -/
  whole : List Char
  /-- The digits behind the point. -/
  fraction : Option (List Char)
  /-- The exponent: negative, and its digits. -/
  exponent : Option (Bool × List Char)
  deriving Repr

/-- The value of a literal.  Digits without fraction and exponent are an integer
if they fit in 64 bits, signed or unsigned; `-0` and everything else is a
floating-point number. -/
def NumberParts.value (p : NumberParts) : Except Fault Scalar :=
  let (whole, dropped) := gatherWhole 0 p.whole
  let float (digits : Nat) (power : Int) : Except Fault Scalar :=
    match Binary64.ofDecimal? p.negative digits power with
    | some x => .ok (.float x)
    | none => .error .numberOutOfRange
  if p.fraction.isNone && p.exponent.isNone && dropped == 0 then
    if !p.negative then .ok (.integer whole)
    else if 0 < whole ∧ whole ≤ Nat.pow 2 63 then .ok (.integer (-whole))
    else float whole 0
  else
    let (digits, places) := gatherFraction whole (p.fraction.getD [])
    let shift : Int :=
      match p.exponent with
      | none => 0
      | some (negative, ds) =>
        let magnitude : Int := ds.foldl (fun n c => n * 10 + (c.toNat - '0'.toNat)) (0 : Nat)
        if negative then -magnitude else magnitude
    float digits (dropped - places + shift)

/-- The exponent behind its letter, with the rest of the text. -/
def scanExponent (cs : List Char) : Except (Fault × Fault) ((Bool × List Char) × List Char) :=
  let (negative, cs) :=
    match cs with
    | '+' :: rest => (false, rest)
    | '-' :: rest => (true, rest)
    | _ => (false, cs)
  match cs with
  | [] => .error (.unfinishedValue, .invalidNumber)
  | c :: _ =>
    if c.isDigit then .ok ((negative, cs.takeWhile Char.isDigit), cs.dropWhile Char.isDigit)
    else .error (.invalidNumber, .invalidNumber)

/-- The exponent of a number if one begins here. -/
def scanExponent? (cs : List Char) :
    Except (Fault × Fault) (Option (Bool × List Char) × List Char) :=
  match cs with
  | c :: rest =>
    if c = 'e' ∨ c = 'E' then
      (scanExponent rest).map fun (exponent, rest) => (some exponent, rest)
    else .ok (none, cs)
  | [] => .ok (none, [])

/-- The fraction of a number if one begins here. -/
def scanFraction? (cs : List Char) : Except (Fault × Fault) (Option (List Char) × List Char) :=
  match cs with
  | '.' :: [] => .error (.unfinishedValue, .invalidNumber)
  | '.' :: c :: rest =>
    if c.isDigit then
      .ok (some ((c :: rest).takeWhile Char.isDigit), (c :: rest).dropWhile Char.isDigit)
    else .error (.invalidNumber, .invalidNumber)
  | _ => .ok (none, cs)

/-- The digits before the point.  A zero stands alone. -/
def scanWhole (cs : List Char) : Except (Fault × Fault) (List Char × List Char) :=
  match cs with
  | [] => .error (.unfinishedValue, .invalidNumber)
  | c :: rest =>
    if c = '0' then
      match rest with
      | d :: _ => if d.isDigit then .error (.invalidNumber, .invalidNumber) else .ok (['0'], rest)
      | [] => .ok (['0'], [])
    else if c.isDigit then .ok (cs.takeWhile Char.isDigit, cs.dropWhile Char.isDigit)
    else .error (.invalidNumber, .invalidNumber)

/-- The parts of the number that begins here, with the rest of the text. -/
def scanNumberParts (cs : List Char) : Except (Fault × Fault) (NumberParts × List Char) := do
  let (negative, cs) :=
    match cs with
    | '-' :: rest => (true, rest)
    | _ => (false, cs)
  let (whole, cs) ← scanWhole cs
  let (fraction, cs) ← scanFraction? cs
  let (exponent, cs) ← scanExponent? cs
  return (⟨negative, whole, fraction, exponent⟩, cs)

/-- The number that begins here. -/
def scanNumber (cs : List Char) : Token × List Char :=
  match scanNumberParts cs with
  | .ok (parts, rest) => (.scalar parts.value, rest)
  | .error (reading, skipping) => (.broken reading skipping, [])

/-! ## Words -/

/-- The word that begins here, of which `expected` is still to come. -/
def scanWord (value : Scalar) : (expected cs : List Char) → Token × List Char
  | [], cs => (.scalar (.ok value), cs)
  | _ :: _, [] => (.broken .unfinishedValue .unfinishedValue, [])
  | e :: expected, c :: cs =>
    if c = e then scanWord value expected cs else (.broken .wordExpected .wordExpected, [])

/-! ## Strings -/

/-- The value of a hexadecimal digit in either case. -/
def hexValue? (c : Char) : Option Nat :=
  if '0' ≤ c ∧ c ≤ '9' then some (c.toNat - '0'.toNat)
  else if 'a' ≤ c ∧ c ≤ 'f' then some (c.toNat - 'a'.toNat + 10)
  else if 'A' ≤ c ∧ c ≤ 'F' then some (c.toNat - 'A'.toNat + 10)
  else none

/-- The value of four hexadecimal digits. -/
def hexUnit? (a b c d : Char) : Option Nat := do
  return (((← hexValue? a) * 16 + (← hexValue? b)) * 16 + (← hexValue? c)) * 16 + (← hexValue? d)

/-- The character that an escape of one letter stands for. -/
def escape? (c : Char) : Option Char :=
  if c = '"' ∨ c = '\\' ∨ c = '/' then some c
  else if c = 'b' then some '\x08'
  else if c = 'f' then some '\x0c'
  else if c = 'n' then some '\n'
  else if c = 'r' then some '\r'
  else if c = 't' then some '\t'
  else none

/-- The first half of a surrogate pair. -/
def isHighSurrogate (n : Nat) : Bool := 0xD800 ≤ n && n ≤ 0xDBFF

/-- The second half of a surrogate pair. -/
def isLowSurrogate (n : Nat) : Bool := 0xDC00 ≤ n && n ≤ 0xDFFF

/-- What a string holds so far. -/
structure StringState where
  /-- The characters, in reverse. -/
  chars : List Char
  /-- The first half of a surrogate pair that waits for its second half. -/
  high : Option Nat
  /-- The first fault of those that only reading meets. -/
  fault : Option Fault

namespace StringState

/-- Records a fault that only reading meets, unless there is one already. -/
def blame (s : StringState) (f : Fault) : StringState :=
  { s with fault := s.fault.or (some f) }

/-- A pair that was begun and is not continued. -/
def settle (s : StringState) : StringState :=
  match s.high with
  | none => s
  | some _ => { s.blame .unfinishedPair with high := none }

/-- One more character. -/
def push (s : StringState) (c : Char) : StringState :=
  { s with chars := c :: s.chars }

/-- One more escaped unit. -/
def pushUnit (s : StringState) (n : Nat) : StringState :=
  match s.high with
  | some high =>
    if isLowSurrogate n then
      { s with high := none
               chars := Char.ofNat ((high - 0xD800) * 0x400 + (n - 0xDC00) + 0x10000) :: s.chars }
    else { s.blame .loneSurrogate with high := none }
  | none =>
    if isLowSurrogate n then s.blame .loneSurrogate
    else if isHighSurrogate n then { s with high := some n }
    else s.push (Char.ofNat n)

/-- The complete string. -/
def close (s : StringState) : Token :=
  match s.settle.fault with
  | some f => .string (.error f)
  | none => .string (.ok (String.ofList s.chars.reverse))

/-- The string breaks off. -/
def breakOff (s : StringState) (f : Fault) : Token :=
  .brokenString (s.fault.getD f) f

end StringState

/-- The rest of the string behind its opening quote.  An escape of four digits
looks at four bytes: where fewer are left the text has ended. -/
def scanString (s : StringState) : List Char → Token × List Char
  | [] => (s.breakOff .unfinishedString, [])
  | '\\' :: [] => (s.breakOff .unfinishedString, [])
  | '\\' :: 'u' :: a :: b :: c :: d :: rest =>
    match hexUnit? a b c d with
    | some n => scanString (s.pushUnit n) rest
    | none => (s.breakOff .invalidEscape, [])
  | '\\' :: 'u' :: rest =>
    if 4 ≤ (String.ofList rest).utf8ByteSize then (s.breakOff .invalidEscape, [])
    else (s.breakOff .unfinishedString, [])
  | '\\' :: c :: rest =>
    match escape? c with
    | some e => scanString (s.settle.push e) rest
    | none => (s.settle.breakOff .invalidEscape, [])
  | c :: rest =>
    if c = '"' then (s.close, rest)
    else if c.toNat < 0x20 then (s.settle.breakOff .controlCharacter, [])
    else scanString (s.settle.push c) rest

/-! ## The whole text -/

/-- The token that begins with `c`, with the rest of the text. -/
def scanOne (c : Char) (cs : List Char) : Token × List Char :=
  if c = '[' then (.openArray, cs)
  else if c = ']' then (.closeArray, cs)
  else if c = '{' then (.openObject, cs)
  else if c = '}' then (.closeObject, cs)
  else if c = ',' then (.comma, cs)
  else if c = ':' then (.colon, cs)
  else if c = '"' then scanString ⟨[], none, none⟩ cs
  else if c = 'n' then scanWord .null ['u', 'l', 'l'] cs
  else if c = 't' then scanWord (.bool true) ['r', 'u', 'e'] cs
  else if c = 'f' then scanWord (.bool false) ['a', 'l', 's', 'e'] cs
  else if c = '-' ∨ c.isDigit then scanNumber (c :: cs)
  else (.stray, cs)

theorem length_dropWhile_le (p : Char → Bool) (cs : List Char) :
    (cs.dropWhile p).length ≤ cs.length :=
  (List.dropWhile_suffix p).length_le

theorem length_scanString (s : StringState) (cs : List Char) :
    (scanString s cs).2.length ≤ cs.length := by
  fun_induction scanString s cs
  all_goals simp only [List.length_cons, List.length_nil]
  all_goals omega

theorem length_scanWord (value : Scalar) (expected cs : List Char) :
    (scanWord value expected cs).2.length ≤ cs.length := by
  fun_induction scanWord value expected cs
  all_goals simp only [List.length_cons, List.length_nil]
  all_goals omega

theorem length_scanExponent {cs rest : List Char} {e : Bool × List Char}
    (h : scanExponent cs = .ok (e, rest)) : rest.length ≤ cs.length := by
  unfold scanExponent at h
  split at h
  rename_i sign unsigned signed
  have shorter : unsigned.length ≤ cs.length := by
    split at signed
    all_goals
      cases signed
      simp
  split at h
  · cases h
  · split at h
    · cases h
      exact Nat.le_trans (length_dropWhile_le _ _) shorter
    · cases h

theorem length_scanExponent? {cs rest : List Char} {e : Option (Bool × List Char)}
    (h : scanExponent? cs = .ok (e, rest)) : rest.length ≤ cs.length := by
  unfold scanExponent? at h
  split at h
  · split at h
    · rename_i c tail _
      cases scanned : scanExponent tail with
      | error f => simp [scanned, Except.map] at h
      | ok pair =>
        simp only [scanned, Except.map, Except.ok.injEq, Prod.mk.injEq] at h
        have := @length_scanExponent _ pair.2 pair.1 scanned
        simp only [List.length_cons, ← h.2]
        omega
    · cases h; exact Nat.le_refl _
  · cases h; exact Nat.le_refl _

theorem length_scanFraction? {cs rest : List Char} {f : Option (List Char)}
    (h : scanFraction? cs = .ok (f, rest)) : rest.length ≤ cs.length := by
  unfold scanFraction? at h
  split at h
  · cases h
  · split at h
    · cases h
      refine Nat.le_trans (length_dropWhile_le _ _) ?_
      simp
    · cases h
  · cases h; exact Nat.le_refl _

theorem length_scanWhole {cs rest digits : List Char}
    (h : scanWhole cs = .ok (digits, rest)) : rest.length < cs.length := by
  unfold scanWhole at h
  split at h
  · cases h
  · rename_i c tail
    split at h
    · split at h
      · split at h
        · cases h
        · cases h; simp
      · cases h; simp
    · split at h
      · rename_i digit
        cases h
        simp only [List.dropWhile_cons, digit, if_true, List.length_cons]
        exact Nat.lt_succ_of_le (length_dropWhile_le _ _)
      · cases h

theorem length_scanNumberParts {cs rest : List Char} {p : NumberParts}
    (h : scanNumberParts cs = .ok (p, rest)) : rest.length < cs.length := by
  simp only [scanNumberParts, bind, Except.bind, pure, Except.pure] at h
  split at h
  · cases h
  · rename_i whole scannedWhole
    split at h
    · cases h
    · rename_i fraction scannedFraction
      split at h
      · cases h
      · rename_i exponent scannedExponent
        cases h
        have h₁ := @length_scanWhole _ whole.2 whole.1 scannedWhole
        have h₂ := @length_scanFraction? _ fraction.2 fraction.1 scannedFraction
        have h₃ := @length_scanExponent? _ exponent.2 exponent.1 scannedExponent
        split at h₁ <;> simp only [List.length_cons] at * <;> omega

theorem length_scanNumber (c : Char) (cs : List Char) :
    (scanNumber (c :: cs)).2.length ≤ cs.length := by
  unfold scanNumber
  split
  · rename_i parts rest scanned
    have := length_scanNumberParts scanned
    simp only [List.length_cons] at this
    exact Nat.le_of_lt_succ this
  · simp

/-- A token takes at least the character that it begins with. -/
theorem length_scanOne (c : Char) (cs : List Char) : (scanOne c cs).2.length ≤ cs.length := by
  have choose {p : Prop} [Decidable p] {x y : Token × List Char} (hx : x.2.length ≤ cs.length)
      (hy : y.2.length ≤ cs.length) : (if p then x else y).2.length ≤ cs.length := by
    split
    · exact hx
    · exact hy
  have mark (t : Token) : (t, cs).2.length ≤ cs.length := Nat.le_refl _
  unfold scanOne
  -- In the order of the tests: six marks, then strings, words, numbers and the rest.
  refine choose (mark _) (choose (mark _) (choose (mark _) (choose (mark _) (choose (mark _)
    (choose (mark _) ?_)))))
  exact choose (length_scanString _ _) (choose (length_scanWord _ _ _)
    (choose (length_scanWord _ _ _) (choose (length_scanWord _ _ _)
      (choose (length_scanNumber _ _) (mark _)))))

/-- The tokens of a text. -/
def scan : List Char → List Token
  | [] => []
  | c :: cs =>
    if isBlank c then scan cs
    else (scanOne c cs).1 :: scan (scanOne c cs).2
termination_by cs => cs.length
decreasing_by
  · simp
  · exact Nat.lt_succ_of_le (length_scanOne c cs)

end Token
end ApiGraph
