import EventTopology.Json.Basic

/-
  This file defines the tokens of a JSON text and the
  scanner that finds them.  What differs between readers is
  a `Dialect`: the range of whole numbers, whether numbers
  may be infinite, and how deeply values may nest.

  Key definitions include:
    * `Json.Dialect`
    * `Json.Token`
    * `Json.scanText`
    * `Json.scanNumber`
    * `Json.scan`
-/

------------------------------------------------------------
-- Dialects and Tokens
------------------------------------------------------------

namespace EventTopology

namespace Json

/- The choices that a reader of JSON texts makes. -/
structure Dialect where
  /- How deeply arrays and objects may nest, if limited. -/
  depthLimit : Option Nat
  /- The whole numbers that are kept exact. -/
  keepsWhole : Int → Bool
  /- May a number be too large for a double? -/
  admitsInfinite : Bool
  /- Names that stand for numbers. -/
  numberNames : List (String × Float)

namespace Dialect

/-
  The strict dialect.  Whole numbers that fit neither a
  signed nor an unsigned word of 64 bits become doubles.
-/
def strict : Dialect where
  depthLimit := some 1024
  keepsWhole n := -Int.pow 2 63 ≤ n && n < Int.pow 2 64
  admitsInfinite := false
  numberNames := []

/- The lax dialect, which keeps whole numbers of any size. -/
def lax : Dialect where
  depthLimit := none
  keepsWhole _ := true
  admitsInfinite := true
  numberNames :=
    [("NaN", 0.0 / 0.0),
     ("Infinity", 1.0 / 0.0),
     ("-Infinity", -1.0 / 0.0)]

end Dialect

/- A token.  Null, truth values and numbers are `plain`. -/
inductive Token where
| openArray
| closeArray
| openObject
| closeObject
| comma
| colon
| text (s : String)
| plain (v : Json)

end Json

------------------------------------------------------------
-- Scanning Texts
------------------------------------------------------------

namespace Json

/- The value of a hexadecimal digit. -/
def hexValue? (c : Char) : Option Nat :=
  if '0' ≤ c ∧ c ≤ '9' then some (c.toNat - 48)
  else if 'a' ≤ c ∧ c ≤ 'f' then some (c.toNat - 87)
  else if 'A' ≤ c ∧ c ≤ 'F' then some (c.toNat - 55)
  else none

/- The character that a one-letter escape stands for. -/
def shortEscape? (c : Char) : Option Char :=
  if c = '"' ∨ c = '\\' ∨ c = '/' then some c
  else if c = 'b' then some '\x08'
  else if c = 'f' then some '\x0c'
  else if c = 'n' then some '\n'
  else if c = 'r' then some '\r'
  else if c = 't' then some '\t'
  else none

/- The first half of a surrogate pair. -/
def isHighSurrogate (n : Nat) : Bool :=
  0xD800 ≤ n && n < 0xDC00

/- The second half of a surrogate pair. -/
def isLowSurrogate (n : Nat) : Bool :=
  0xDC00 ≤ n && n < 0xE000

/- Where the scanner stands inside a text. -/
inductive TextMode where
| plain
/- After a backslash. -/
| escape
/- Inside four hexadecimal digits, some of them read. -/
| hex (high : Option Nat) (left acc : Nat)
/- After a first half, before the backslash of its partner. -/
| partner (high : Nat)
/- After that backslash. -/
| partnerMark (high : Nat)

/-
  What a completed escape of four digits leads to: a
  character, a wait for the second half, or a refusal of a
  half without its partner.
-/
def finishHex
    (high : Option Nat)
    (unit : Nat) : Option (Option Char × TextMode) :=
  match high with
  | none =>
      if isHighSurrogate unit then
        some (none, .partner unit)
      else if isLowSurrogate unit then none
      else some (some (Char.ofNat unit), .plain)
  | some h =>
      if isLowSurrogate unit then
        let n := 0x10000 + (h - 0xD800) * 0x400 +
          (unit - 0xDC00)
        some (some (Char.ofNat n), .plain)
      else none

/-
  The characters of a text up to its closing quote, and what
  follows it.  Control characters must be escaped.
-/
def scanText :
    TextMode → List Char → List Char →
      Option (List Char × List Char)
| _, _, [] => none
| .plain, acc, c :: cs =>
    if c = '"' then some (acc.reverse, cs)
    else if c = '\\' then scanText .escape acc cs
    else if c.toNat < 0x20 then none
    else scanText .plain (c :: acc) cs
| .escape, acc, c :: cs =>
    if c = 'u' then scanText (.hex none 4 0) acc cs
    else
      match shortEscape? c with
      | none => none
      | some d => scanText .plain (d :: acc) cs
| .hex high left value, acc, c :: cs =>
    match hexValue? c with
    | none => none
    | some d =>
        let value := 16 * value + d
        if 1 < left then
          scanText (.hex high (left - 1) value) acc cs
        else
          match finishHex high value with
          | none => none
          | some (none, mode) => scanText mode acc cs
          | some (some ch, mode) =>
              scanText mode (ch :: acc) cs
| .partner high, acc, c :: cs =>
    if c = '\\' then scanText (.partnerMark high) acc cs
    else none
| .partnerMark high, acc, c :: cs =>
    if c = 'u' then scanText (.hex (some high) 4 0) acc cs
    else none

end Json

------------------------------------------------------------
-- Scanning Numbers
------------------------------------------------------------

namespace Json

/- Is the character an ASCII digit? -/
def isDigit (c : Char) : Bool :=
  '0' ≤ c && c ≤ '9'

/- The whole number that digits spell. -/
def naturalOf (ds : List Char) : Nat :=
  ds.foldl (fun n c => 10 * n + (c.toNat - 48)) 0

/- Digits at the front, which must not be missing. -/
def digits1 (cs : List Char) :
    Option (List Char × List Char) :=
  let ds := cs.takeWhile isDigit
  if ds.isEmpty then none
  else some (ds, cs.dropWhile isDigit)

/- The digits after a point, if there is a point. -/
def scanPlaces : List Char →
    Option (Option (List Char) × List Char)
| '.' :: cs =>
    (digits1 cs).map fun (ds, rest) => (some ds, rest)
| cs => some (none, cs)

/- The exponent, if there is one. -/
def scanExponent : List Char →
    Option (Option Int × List Char)
| c :: cs =>
    if c = 'e' ∨ c = 'E' then
      let (negative, cs) :=
        match cs with
        | '-' :: rest => (true, rest)
        | '+' :: rest => (false, rest)
        | rest => (false, rest)
      (digits1 cs).map fun (ds, rest) =>
        let e : Int := naturalOf ds
        (some (if negative then -e else e), rest)
    else some (none, c :: cs)
| [] => some (none, [])

/- A double, where the dialect admits it. -/
def floatValue?
    (d : Dialect)
    (x : Float) : Option Json :=
  match Decimal.decode x with
  | .finite _ _ => some (.float x)
  | _ => if d.admitsInfinite then some (.float x) else none

/-
  A number and what follows it.  A point or an exponent
  makes it a double.
-/
def scanNumber
    (d : Dialect)
    (cs : List Char) : Option (Json × List Char) := do
  let (negative, cs) :=
    match cs with
    | '-' :: rest => (true, rest)
    | rest => (false, rest)
  let (whole, cs) ← digits1 cs
  if whole.head? = some '0' ∧ 1 < whole.length then none
  let (places, cs) ← scanPlaces cs
  let (exponent, cs) ← scanExponent cs
  match places, exponent with
  | none, none =>
      let m := naturalOf whole
      let n : Int := if negative then -(m : Int) else m
      if d.keepsWhole n then return (.int n, cs)
      else
        let v ← floatValue? d (Decimal.ofInt n)
        return (v, cs)
  | _, _ =>
      let ps := places.getD []
      let e := exponent.getD 0 - (ps.length : Int)
      let v ← floatValue? d
        (Decimal.ofScientific negative
          (naturalOf (whole ++ ps)) e)
      return (v, cs)

end Json

------------------------------------------------------------
-- Scanning Tokens
------------------------------------------------------------

namespace Json

/- The blanks that may stand between tokens. -/
def isSpace (c : Char) : Bool :=
  c = ' ' || c = '\t' || c = '\n' || c = '\r'

/- The tokens that are single characters. -/
def mark? (c : Char) : Option Token :=
  if c = '[' then some .openArray
  else if c = ']' then some .closeArray
  else if c = '\x7b' then some .openObject
  else if c = '\x7d' then some .closeObject
  else if c = ',' then some .comma
  else if c = ':' then some .colon
  else none

/- The names that stand for values. -/
def names (d : Dialect) : List (List Char × Json) :=
  [("null".toList, .null),
   ("true".toList, .bool true),
   ("false".toList, .bool false)] ++
    d.numberNames.map fun (s, x) => (s.toList, .float x)

/- The value named at the front, and what follows it. -/
def scanName
    (d : Dialect)
    (cs : List Char) : Option (Json × List Char) :=
  (names d).findSome? fun (name, v) =>
    if name.isPrefixOf cs then
      some (v, cs.drop name.length)
    else none

/- The token at the front, and what follows it. -/
def scanToken
    (d : Dialect) :
    List Char → Option (Token × List Char)
| [] => none
| c :: cs =>
    match mark? c with
    | some t => some (t, cs)
    | none =>
        if c = '"' then
          (scanText .plain [] cs).map fun (s, rest) =>
            (.text (String.ofList s), rest)
        else
          match scanName d (c :: cs) with
          | some (v, rest) => some (.plain v, rest)
          | none =>
              (scanNumber d (c :: cs)).map fun (v, rest) =>
                (.plain v, rest)

/-
  All tokens.  Each takes at least one character, so that as
  many steps as there are characters suffice.
-/
def scanFrom
    (d : Dialect) :
    Nat → List Token → List Char → Option (List Token)
| _, acc, [] => some acc.reverse
| 0, _, _ :: _ => none
| n + 1, acc, c :: cs =>
    if isSpace c then scanFrom d n acc cs
    else
      match scanToken d (c :: cs) with
      | none => none
      | some (t, rest) => scanFrom d n (t :: acc) rest

/- The tokens of a text, if it has no other content. -/
def scan
    (d : Dialect)
    (cs : List Char) : Option (List Token) :=
  scanFrom d cs.length [] cs

end Json

end EventTopology
