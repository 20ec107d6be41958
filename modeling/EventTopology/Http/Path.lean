import EventTopology.Text.Split
import EventTopology.Text.Utf8

/-
  This file defines the paths of requests: how the target of
  a request is cut into a path and a query, how escapes in
  it are read and written, and what the path of an address
  is that is put together of a host and a path.

  Key definitions include:
    * `Path.unescape`
    * `Path.withoutDots`
    * `Path.Target`
    * `Path.ofTarget`
    * `Path.escape`
    * `Path.ofAddress?`
-/

------------------------------------------------------------
-- Escapes
------------------------------------------------------------

namespace EventTopology

namespace Path

/- The value of a hexadecimal digit. -/
def hexValue? (c : Char) : Option Nat :=
  if '0' ≤ c ∧ c ≤ '9' then some (c.toNat - 48)
  else if 'a' ≤ c ∧ c ≤ 'f' then some (c.toNat - 87)
  else if 'A' ≤ c ∧ c ≤ 'F' then some (c.toNat - 55)
  else none

/- The byte that two hexadecimal digits spell. -/
def byte? (c d : Char) : Option Nat :=
  match hexValue? c, hexValue? d with
  | some m, some n => some (16 * m + n)
  | _, _ => none

/- The bytes of a text in which escapes stand for bytes. -/
def bytes : List Char → List Nat
| [] => []
| '%' :: c :: d :: cs =>
    match byte? c d with
    | some b => b :: bytes cs
    | none => 37 :: bytes (c :: d :: cs)
| c :: cs =>
    (String.utf8EncodeChar c).map (·.toNat) ++ bytes cs

/- A text without escapes; bytes are read as UTF-8. -/
def unescape (cs : List Char) : List Char :=
  Text.fromBytes (bytes cs)

/- Can the character stand in an address as it is? -/
def isPlain (c : Char) : Bool :=
  c.isAlphanum || c ∈ "_.-~:/%#?=@[]!$&'()*+,;".toList

/- A byte as an escape. -/
def escapeByte (b : UInt8) : List Char :=
  let digit (n : Nat) : Char := (Nat.digitChar n).toUpper
  ['%', digit (b.toNat / 16), digit (b.toNat % 16)]

/- An address in which other characters are escaped. -/
def escape (s : String) : String :=
  String.ofList
    (s.toList.flatMap fun c =>
      if isPlain c then [c]
      else (String.utf8EncodeChar c).flatMap escapeByte)

end Path

------------------------------------------------------------
-- Targets
------------------------------------------------------------

namespace Path

/-
  Take away the parts `.` and, together with the part before
  each, the parts `..`.
-/
def withoutDots
    (done : List (List Char)) :
    List (List Char) → List (List Char)
| [] => done.reverse
| part :: parts =>
    if part = ['.'] then withoutDots done parts
    else if part = ['.', '.'] then
      match done with
      | [] | [[]] => withoutDots done parts
      | _ :: before => withoutDots before parts
    else withoutDots (part :: done) parts

/- What follows the host of a target that names one. -/
def withoutHost : List Char → List Char
| '/' :: '/' :: cs => cs.dropWhile (· ≠ '/')
| cs => cs

/- The path that is asked for, with a slash at its front. -/
def requested (cs : List Char) : List Char :=
  let path := '/' :: (withoutHost cs).dropWhile (· = '/')
  let parts := withoutDots [] (Text.fields '/' path)
  match ['/'].intercalate parts with
  | [] => ['/']
  | cs => cs

/- A path and the query after it, escapes and all. -/
structure Target where
  path : String
  query : Option String := none
deriving DecidableEq, Repr

/-
  The path and the query of a target.  Escapes in the path
  are read twice: where the request is made and where it
  arrives.
-/
def ofTarget (target : String) : Target :=
  let whole := target.toList.takeWhile (· ≠ '#')
  let (path, rest) := whole.span (· ≠ '?')
  { path :=
      String.ofList (unescape (unescape (requested path)))
    query :=
      match rest with
      | _ :: c :: query => some (String.ofList (c :: query))
      | _ => none }

end Path

------------------------------------------------------------
-- Addresses
------------------------------------------------------------

namespace Path

/- Does a character end the host of an address? -/
def endsHost (c : Char) : Bool :=
  c = '/' || c = '?' || c = '#'

/- Does a character end the path of an address? -/
def endsPath (c : Char) : Bool :=
  c = '?' || c = '#'

/-
  The path in the address of a host and a path, which tabs
  and line ends are no part of.  Host and path are told
  apart anew, and brackets in a host come in pairs.
-/
def ofAddress? (host path : String) : Option String :=
  let address := (host ++ path).toList.filter fun c =>
    c ≠ '\t' && c ≠ '\r' && c ≠ '\n'
  let (host, rest) := address.span (!endsHost ·)
  if host.contains '[' = host.contains ']' then
    some (String.ofList (rest.takeWhile (!endsPath ·)))
  else none

end Path

end EventTopology
