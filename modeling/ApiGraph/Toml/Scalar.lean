/-
# Numbers, truth values and dates in TOML

A scalar without quotes is one token; which sort it is of can be read off the token
alone.  Digits may be grouped by single underscores.
-/

import ApiGraph.Toml
import ApiGraph.Text.Split

namespace ApiGraph
namespace Toml

/-- The value of a digit to a base of at most sixteen. -/
def digit? (base : Nat) (c : Char) : Option Nat :=
  let value :=
    if '0' ≤ c && c ≤ '9' then c.toNat - '0'.toNat
    else if 'a' ≤ c && c ≤ 'f' then c.toNat - 'a'.toNat + 10
    else if 'A' ≤ c && c ≤ 'F' then c.toNat - 'A'.toNat + 10
    else base
  if value < base then some value else none

/-- The number behind what was read; `closed` says that a digit came last. -/
def digitsFrom (base : Nat) (closed : Bool) (value : Nat) : List Char → Option Nat
  | [] => if closed then some value else none
  | c :: rest =>
    if c = '_' then if closed then digitsFrom base false value rest else none
    else (digit? base c).bind fun d => digitsFrom base true (base * value + d) rest

/-- The number that grouped digits give. -/
def digits? (base : Nat) (cs : List Char) : Option Nat :=
  digitsFrom base false 0 cs

/-- A decimal number without superfluous zeros. -/
def decimal? (cs : List Char) : Option Nat :=
  match cs with
  | '0' :: _ :: _ => none
  | _ => digits? 10 cs

/-- The sign, and what is behind it. -/
def signed : List Char → Bool × List Char
  | '-' :: rest => (true, rest)
  | '+' :: rest => (false, rest)
  | cs => (false, cs)

/-- The number, if it has 64 bits. -/
def ofMagnitude? (negative : Bool) (n : Nat) : Option Int :=
  if negative then if n ≤ Nat.pow 2 63 then some (-n) else none
  else if n < Nat.pow 2 63 then some n else none

/-- An integer of 64 bits. -/
def integer? : List Char → Option Int
  | '0' :: 'x' :: rest => (digits? 16 rest).bind (ofMagnitude? false)
  | '0' :: 'o' :: rest => (digits? 8 rest).bind (ofMagnitude? false)
  | '0' :: 'b' :: rest => (digits? 2 rest).bind (ofMagnitude? false)
  | cs =>
    let (negative, rest) := signed cs
    (decimal? rest).bind (ofMagnitude? negative)

/-- The digits before an exponent, and the exponent if there is one. -/
def cutExponent (cs : List Char) : List Char × Option (List Char) :=
  match cs.span (fun c => c ≠ 'e' && c ≠ 'E') with
  | (before, _ :: behind) => (before, some behind)
  | (before, []) => (before, none)

/-- The exponent. -/
def exponent? (cs : List Char) : Option Int := do
  let (negative, rest) := signed cs
  let n ← digits? 10 rest
  return if negative then -n else n

/-- The least number that is too large for 64 bits of floating point. -/
def floatBound : Nat := Nat.pow 2 1024 - Nat.pow 2 970

/-- The number `m · 10 ^ e` is less than `floatBound`.  A power of ten with more digits
than `m` has is not worked out. -/
def isFinite (m : Nat) (e : Int) : Bool :=
  if m = 0 then true
  else if 0 ≤ e then e < 400 && m * Nat.pow 10 e.toNat < floatBound
  else m < floatBound || m.log2 < (-e).toNat || m / Nat.pow 10 (-e).toNat < floatBound

/-- The digits and the power of ten of a floating-point number without its sign. -/
def floatParts? (cs : List Char) : Option (Nat × Int) := do
  let (mantissa, power) := cutExponent cs
  let (whole, fraction) := mantissa.span (· ≠ '.')
  let n ← decimal? whole
  match fraction, power with
  | [], none => none
  | [], some power => return (n, ← exponent? power)
  | _ :: fraction, power =>
    let m ← digits? 10 fraction
    let places := (fraction.filter (· ≠ '_')).length
    let e ← match power with
      | some power => exponent? power
      | none => some 0
    return (n * Nat.pow 10 places + m, e - places)

/-- The token is a floating-point number.  One that is too large is none, unless it is
negative. -/
def isFloat (cs : List Char) : Bool :=
  let (negative, rest) := signed cs
  rest == ['i', 'n', 'f'] || rest == ['n', 'a', 'n'] ||
    (floatParts? rest).any fun (m, e) => negative || isFinite m e

/-- A number of exactly so many digits from `low` to `high`. -/
def field? (width low high : Nat) (cs : List Char) : Option Nat :=
  if cs.length = width && cs.all Char.isDigit then
    (digits? 10 cs).filter fun n => low ≤ n && n ≤ high
  else none

/-- The number of days in a month. -/
def daysIn (year month : Nat) : Nat :=
  if month = 2 then
    if year % 4 = 0 && (year % 100 ≠ 0 || year % 400 = 0) then 29 else 28
  else if month = 4 || month = 6 || month = 9 || month = 11 then 30
  else 31

/-- The token is a date. -/
def isDate (cs : List Char) : Bool :=
  match Text.splitOn '-' cs with
  | [y, m, d] =>
    Option.isSome do
      let year ← field? 4 0 9999 y
      let month ← field? 2 1 12 m
      field? 2 1 (daysIn year month) d
  | _ => false

/-- The token is seconds, with a fraction or without. -/
def isSeconds (cs : List Char) : Bool :=
  match cs.span (· ≠ '.') with
  | (whole, []) => (field? 2 0 60 whole).isSome
  | (whole, _ :: fraction) =>
    (field? 2 0 60 whole).isSome && !fraction.isEmpty && fraction.all Char.isDigit

/-- The token is a time of day. -/
def isTime (cs : List Char) : Bool :=
  match Text.splitOn ':' cs with
  | [h, m, s] => (field? 2 0 23 h).isSome && (field? 2 0 59 m).isSome && isSeconds s
  | _ => false

/-- The token is a distance from universal time. -/
def isOffset (cs : List Char) : Bool :=
  match cs with
  | sign :: rest =>
    (sign = '+' || sign = '-') &&
      match Text.splitOn ':' rest with
      | [h, m] => (field? 2 0 23 h).isSome && (field? 2 0 59 m).isSome
      | _ => false
  | [] => false

/-- The token is a time of day, with a distance from universal time or without. -/
def isTimeWithOffset (cs : List Char) : Bool :=
  isTime cs ||
    (match cs.getLast? with
      | some c => (c = 'Z' || c = 'z') && isTime cs.dropLast
      | none => false) ||
    (match cs.span (fun c => c ≠ '+' && c ≠ '-') with
      | (time, offset) => isTime time && isOffset offset)

/-- The token is a date with a time. -/
def isDateTime (cs : List Char) : Bool :=
  match cs.span (fun c => c ≠ 'T' && c ≠ 't') with
  | (day, _ :: time) => isDate day && isTimeWithOffset time
  | (_, []) => false

/-- The value of a token. -/
def scalar? (cs : List Char) : Option Toml :=
  if cs = ['t', 'r', 'u', 'e'] then some (.boolean true)
  else if cs = ['f', 'a', 'l', 's', 'e'] then some (.boolean false)
  else
    match integer? cs with
    | some i => some (.integer i)
    | none =>
      if isFloat cs then some (.float (String.ofList cs))
      else if isDate cs || isTime cs || isDateTime cs then some (.date (String.ofList cs))
      else none

end Toml
end ApiGraph
