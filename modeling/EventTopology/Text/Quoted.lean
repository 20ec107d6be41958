import EventTopology.Text.Printable

/-
  This file defines the quoted form of a text, as it stands
  in messages.

  A text is quoted with `'`, or with `"` when it holds the
  former and not the latter.  The backslash, the quote in
  use, and all that is not printed are escaped.

  Key definitions include:
    * `Text.quoteFor`
    * `Text.escapeChar`
    * `Text.quoted`
-/

------------------------------------------------------------
-- Escapes
------------------------------------------------------------

namespace EventTopology

namespace Text

/- A number in base sixteen, filled with zeros to a width. -/
def hexDigits (width n : Nat) : List Char :=
  let ds := Nat.toDigits 16 n
  List.replicate (width - ds.length) '0' ++ ds

/- The quote that a text is written in. -/
def quoteFor (cs : List Char) : Char :=
  if cs.contains '\'' && !cs.contains '"' then '"'
  else '\''

/- One character inside quotes. -/
def escapeChar (quote c : Char) : List Char :=
  if c = quote || c = '\\' then ['\\', c]
  else if c = '\n' then ['\\', 'n']
  else if c = '\r' then ['\\', 'r']
  else if c = '\t' then ['\\', 't']
  else if isPrintable c then [c]
  else if c.toNat < 0x100 then
    '\\' :: 'x' :: hexDigits 2 c.toNat
  else if c.toNat < 0x10000 then
    '\\' :: 'u' :: hexDigits 4 c.toNat
  else
    '\\' :: 'U' :: hexDigits 8 c.toNat

end Text

------------------------------------------------------------
-- Quoted Texts
------------------------------------------------------------

namespace Text

/- A text between quotes. -/
def quoted (s : String) : String :=
  let cs := s.toList
  let quote := quoteFor cs
  String.ofList
    (quote :: cs.flatMap (escapeChar quote) ++ [quote])

end Text

end EventTopology
