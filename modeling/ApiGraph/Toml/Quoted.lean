/-
# Quoted text in TOML

Text stands between quotes, in which a backslash escapes, or between apostrophes, in
which it does not.  Three of either open a text that may have several lines: a line
break right behind them does not count, a backslash at the end of a line takes away
all blanks and line breaks behind it, and up to two quotes may stand before the three
that close the text.  Line breaks are read as line feeds.

Each reader goes through the text character by character and gives what it read, with
what is left of the text.
-/

namespace ApiGraph
namespace Toml

/-- A character that may stand in texts and comments. -/
def isTextChar (c : Char) : Bool :=
  c = '\t' || ('\x20' ≤ c && c ≠ '\x7f')

/-- The character for a letter behind a backslash. -/
def escape? (c : Char) : Option Char :=
  if c = 'b' then some '\x08'
  else if c = 't' then some '\t'
  else if c = 'n' then some '\n'
  else if c = 'f' then some '\x0c'
  else if c = 'r' then some '\r'
  else if c = '"' then some '"'
  else if c = '\\' then some '\\'
  else none

/-- The value of a hexadecimal digit. -/
def hexDigit? (c : Char) : Option Nat :=
  if '0' ≤ c && c ≤ '9' then some (c.toNat - '0'.toNat)
  else if 'a' ≤ c && c ≤ 'f' then some (c.toNat - 'a'.toNat + 10)
  else if 'A' ≤ c && c ≤ 'F' then some (c.toNat - 'A'.toNat + 10)
  else none

/-- The character of a code point, if it is one. -/
def codePoint? (n : Nat) : Option Char :=
  if n.isValidChar then some (Char.ofNat n) else none

/-- Where a reader stands inside a text. -/
inductive Place where
  /-- Anywhere else. -/
  | plain
  /-- Behind a backslash. -/
  | escape
  /-- In a code point, with so many digits to come. -/
  | digits (left value : Nat)
  /-- Behind so many quotes. -/
  | quotes (count : Nat)
  /-- Behind a carriage return; `joins` says that a backslash was before it. -/
  | carriageReturn (joins : Bool)
  /-- Behind a backslash and blanks; `broken` says that there was a line break. -/
  | joining (broken : Bool)
  deriving DecidableEq, Repr

/-- The place after a character in an escape, with the character that it completes. -/
def escapeStep : Place → Char → Option (Place × Option Char)
  | .escape, c =>
    if c = 'u' then some (.digits 4 0, none)
    else if c = 'U' then some (.digits 8 0, none)
    else (escape? c).map fun x => (.plain, some x)
  | .digits left value, c => do
    let value := 16 * value + (← hexDigit? c)
    if left ≤ 1 then return (.plain, some (← codePoint? value))
    else return (.digits (left - 1) value, none)
  | _, _ => none

/-- Reads a text of one line up to its closing quote. -/
def lineFrom (quote : Char) (escapes : Bool) :
    Place → (out : List Char) → List Char → Option (String × List Char)
  | _, _, [] => none
  | .plain, out, c :: rest =>
    if c = quote then some (String.ofList out.reverse, rest)
    else if escapes && c = '\\' then lineFrom quote escapes .escape out rest
    else if isTextChar c then lineFrom quote escapes .plain (c :: out) rest
    else none
  | place, out, c :: rest =>
    match escapeStep place c with
    | some (next, x) => lineFrom quote escapes next (x.toList ++ out) rest
    | none => none

/-- The place after a character in a text of several lines, with what was read. -/
def linesStep (quote : Char) (escapes : Bool) (out : List Char) (c : Char) :
    Option (Place × List Char) :=
  if c = quote then some (.quotes 1, out)
  else if escapes && c = '\\' then some (.escape, out)
  else if c = '\n' then some (.plain, '\n' :: out)
  else if c = '\r' then some (.carriageReturn false, out)
  else if isTextChar c then some (.plain, c :: out)
  else none

/-- The place after a character behind a backslash and blanks. -/
def joinStep (broken : Bool) (c : Char) : Option Place :=
  if c = ' ' || c = '\t' then some (.joining broken)
  else if c = '\n' then some (.joining true)
  else if c = '\r' then some (.carriageReturn true)
  else none

/-- Reads a text of several lines up to its closing quotes. -/
def linesFrom (quote : Char) (escapes : Bool) :
    Place → (out : List Char) → List Char → Option (String × List Char)
  | .quotes n, out, [] =>
    if 3 ≤ n then some (String.ofList (List.replicate (n - 3) quote ++ out).reverse, []) else none
  | _, _, [] => none
  | .quotes n, out, c :: rest =>
    if c = quote then
      if n = 4 then some (String.ofList (quote :: quote :: out).reverse, rest)
      else linesFrom quote escapes (.quotes (n + 1)) out rest
    else if 3 ≤ n then
      some (String.ofList (List.replicate (n - 3) quote ++ out).reverse, c :: rest)
    else
      match linesStep quote escapes (List.replicate n quote ++ out) c with
      | some (next, out) => linesFrom quote escapes next out rest
      | none => none
  | .plain, out, c :: rest =>
    match linesStep quote escapes out c with
    | some (next, out) => linesFrom quote escapes next out rest
    | none => none
  | .carriageReturn joins, out, c :: rest =>
    if c ≠ '\n' then none
    else if joins then linesFrom quote escapes (.joining true) out rest
    else linesFrom quote escapes .plain ('\n' :: out) rest
  | .joining broken, out, c :: rest =>
    match joinStep broken c with
    | some next => linesFrom quote escapes next out rest
    | none =>
      if broken then
        match linesStep quote escapes out c with
        | some (next, out) => linesFrom quote escapes next out rest
        | none => none
      else none
  | place, out, c :: rest =>
    match escapeStep place c with
    | some (next, x) => linesFrom quote escapes next (x.toList ++ out) rest
    | none =>
      match (if place = .escape then joinStep false c else none) with
      | some next => linesFrom quote escapes next out rest
      | none => none

/-- The text behind the opening quotes, without a line break at its beginning. -/
def withoutLineBreak : List Char → List Char
  | '\n' :: rest => rest
  | '\r' :: '\n' :: rest => rest
  | cs => cs

/-- Reads a quoted text of one line. -/
def quotedLine? : List Char → Option (String × List Char)
  | '"' :: rest => lineFrom '"' true .plain [] rest
  | '\'' :: rest => lineFrom '\'' false .plain [] rest
  | _ => none

/-- Reads a quoted text of either sort. -/
def quotedText? : List Char → Option (String × List Char)
  | '"' :: '"' :: '"' :: rest => linesFrom '"' true .plain [] (withoutLineBreak rest)
  | '\'' :: '\'' :: '\'' :: rest => linesFrom '\'' false .plain [] (withoutLineBreak rest)
  | cs => quotedLine? cs

/-! ## Writing -/

/-- The spelling of a text. -/
structure Spelling where
  /-- Between quotes and with escapes, otherwise between apostrophes and without. -/
  escapes : Bool
  /-- On several lines. -/
  lines : Bool
  deriving DecidableEq, Repr

/-- The longest run of a character. -/
def longestRun (c : Char) : (current longest : Nat) → List Char → Nat
  | current, longest, [] => max current longest
  | current, longest, d :: rest =>
    if d = c then longestRun c (current + 1) longest rest
    else longestRun c 0 (max current longest) rest

/-- The spelling that a text is written in: the first of `"…"`, `'…'`, `"""…"""` and
`'''…'''` in which nothing has to be escaped, otherwise one with escapes.  On several lines
one or two delimiters in a row are text. -/
def spellingOf (cs : List Char) : Spelling :=
  let controls := cs.any fun c => !isTextChar c && c ≠ '\n'
  let lineFeed := cs.contains '\n'
  let quotes := longestRun '"' 0 0 cs
  let apostrophes := longestRun '\'' 0 0 cs
  let plain := !controls && !cs.contains '\\'
  if plain && quotes = 0 && !lineFeed then ⟨true, false⟩
  else if !controls && apostrophes = 0 && !lineFeed then ⟨false, false⟩
  else if plain && quotes ≤ 2 then ⟨true, true⟩
  else if !controls && apostrophes ≤ 2 then ⟨false, true⟩
  else ⟨true, lineFeed⟩

/-- A digit of a code point. -/
def upperHex (n : Nat) : Char :=
  (Nat.digitChar (n % 16)).toUpper

/-- A character between quotes, other than a quote. -/
def escapedChar (lines : Bool) (c : Char) : List Char :=
  if c = '\x08' then ['\\', 'b']
  else if c = '\t' then ['\\', 't']
  else if c = '\n' then if lines then ['\n'] else ['\\', 'n']
  else if c = '\x0c' then ['\\', 'f']
  else if c = '\r' then ['\\', 'r']
  else if c = '\\' then ['\\', '\\']
  else if isTextChar c then [c]
  else ['\\', 'u', '0', '0', upperHex (c.toNat / 16), upperHex c.toNat]

/-- The characters between quotes, after `run` quotes in a row that were written as they
are.  On several lines that may be two. -/
def escapedChars (lines : Bool) : (run : Nat) → List Char → List Char
  | _, [] => []
  | run, c :: rest =>
    if c ≠ '"' then escapedChar lines c ++ escapedChars lines 0 rest
    else if lines && run < 2 then '"' :: escapedChars lines (run + 1) rest
    else '\\' :: '"' :: escapedChars lines 0 rest

/-- What stands on either side of a text. -/
def Spelling.delimiter (s : Spelling) : List Char :=
  List.replicate (if s.lines then 3 else 1) (if s.escapes then '"' else '\'')

/-- A text as it is written in a document.  A text with line feeds begins on a line of its
own where it is on several lines. -/
def quote (text : String) : String :=
  let cs := text.toList
  let s := spellingOf cs
  let opening := if s.lines && cs.contains '\n' then ['\n'] else []
  let body := if s.escapes then escapedChars s.lines 0 cs else cs
  String.ofList (s.delimiter ++ opening ++ body ++ s.delimiter)

end Toml
end ApiGraph
