/-
  This file defines how bytes are read as UTF-8 when some of
  them may make no sense: what cannot be part of a character
  is replaced, as much of it at a time as could have begun
  one.

  Key definitions include:
    * `Text.leading?`
    * `Text.fromBytes`
-/

------------------------------------------------------------
-- Characters of Several Bytes
------------------------------------------------------------

namespace EventTopology

namespace Text

/- What a first byte says about the bytes after it. -/
structure Leading where
  /- How many bytes follow. -/
  left : Nat
  /- The bits that the first byte gives. -/
  bits : Nat
  /- The range of the second byte. -/
  low : Nat := 0x80
  high : Nat := 0xBF
deriving DecidableEq, Repr

/-
  What a first byte says.  The range of the second byte rules
  out characters that are written with too many bytes, halves
  of surrogate pairs, and what lies beyond the last plane.
-/
def leading? (b : Nat) : Option Leading :=
  if 0xC2 ≤ b ∧ b ≤ 0xDF then some ⟨1, b - 0xC0, 0x80, 0xBF⟩
  else if b = 0xE0 then some ⟨2, 0, 0xA0, 0xBF⟩
  else if b = 0xED then some ⟨2, 0xD, 0x80, 0x9F⟩
  else if 0xE1 ≤ b ∧ b ≤ 0xEF then
    some ⟨2, b - 0xE0, 0x80, 0xBF⟩
  else if b = 0xF0 then some ⟨3, 0, 0x90, 0xBF⟩
  else if b = 0xF4 then some ⟨3, 4, 0x80, 0x8F⟩
  else if 0xF1 ≤ b ∧ b ≤ 0xF3 then
    some ⟨3, b - 0xF0, 0x80, 0xBF⟩
  else none

end Text

------------------------------------------------------------
-- Reading Bytes
------------------------------------------------------------

namespace Text

/- What stands for bytes that make no sense. -/
def replacementChar : Char := '\ufffd'

/-
  The characters that bytes spell, after the start of one if
  it is given.
-/
def readBytes : Option Leading → List Nat → List Char
| none, [] => []
| some _, [] => [replacementChar]
| none, b :: bs =>
    if b < 0x80 then Char.ofNat b :: readBytes none bs
    else
      match leading? b with
      | some l => readBytes (some l) bs
      | none => replacementChar :: readBytes none bs
| some l, b :: bs =>
    if l.low ≤ b ∧ b ≤ l.high then
      let bits := l.bits * 64 + (b - 0x80)
      if l.left = 1 then Char.ofNat bits :: readBytes none bs
      else readBytes (some ⟨l.left - 1, bits, 0x80, 0xBF⟩) bs
    else if b < 0x80 then
      replacementChar :: Char.ofNat b :: readBytes none bs
    else
      match leading? b with
      | some l => replacementChar :: readBytes (some l) bs
      | none =>
          replacementChar :: replacementChar ::
            readBytes none bs

/- The characters that bytes spell. -/
def fromBytes (bs : List Nat) : List Char :=
  readBytes none bs

end Text

end EventTopology
