import EventTopology.Table
import EventTopology.Text.Blank

/-
  This file defines the files in which settings are kept as
  lines `NAME=value`.  Values may be quoted, lines may hold
  comments, and a value may refer to others by `${NAME}`.

  Key definitions include:
    * `Dotenv.quoted?`
    * `Dotenv.unescape`
    * `Dotenv.value?`
    * `Dotenv.binding?`
    * `Dotenv.bindings`
    * `Dotenv.resolve`
    * `Dotenv.read`
-/

------------------------------------------------------------
-- Lines
------------------------------------------------------------

namespace EventTopology

namespace Dotenv

/- The text with every kind of line end as one newline. -/
def unixLines : List Char → List Char
| [] => []
| '\r' :: '\n' :: cs => '\n' :: unixLines cs
| '\r' :: cs => '\n' :: unixLines cs
| c :: cs => c :: unixLines cs

/- Is the character a blank within a line? -/
def isSpace (c : Char) : Bool :=
  Text.isBlank c && c ≠ '\n'

/- What follows the blanks of the line. -/
def skipSpaces (cs : List Char) : List Char :=
  cs.dropWhile isSpace

/- What follows the rest of the line. -/
def skipLine (cs : List Char) : List Char :=
  (cs.dropWhile (· ≠ '\n')).drop 1

/-
  What follows a comment and the end of the line.  Nothing
  else may be left on the line.
-/
def endLine? (cs : List Char) : Option (List Char) :=
  let rest :=
    match skipSpaces cs with
    | '#' :: comment => comment.dropWhile (· ≠ '\n')
    | _ => cs
  match skipSpaces rest with
  | [] => some []
  | '\n' :: next => some next
  | _ => none

end Dotenv

------------------------------------------------------------
-- Quoted Values
------------------------------------------------------------

namespace Dotenv

/-
  What stands before the closing quote, and what follows it.
  A quote after a backslash does not close, unless no other
  quote does; then the last one of these closes.
-/
def quoted?
    (quote : Char) :
    List Char → Option (List Char × List Char)
| [] => none
| [c] => if c = quote then some ([], []) else none
| c :: d :: cs =>
    if c = quote then some ([], d :: cs)
    else if c = '\\' ∧ d = quote then
      match quoted? quote cs with
      | some (body, rest) => some (c :: d :: body, rest)
      | none => some ([c], cs)
    else
      (quoted? quote (d :: cs)).map fun (body, rest) =>
        (c :: body, rest)

/- The characters that a backslash and a letter stand for. -/
def doubleEscapes : List (Char × Char) :=
  [('\\', '\\'), ('\'', '\''), ('"', '"'), ('a', '\x07'),
   ('b', '\x08'), ('f', '\x0c'), ('n', '\n'), ('r', '\r'),
   ('t', '\t'), ('v', '\x0b')]

/- The escapes that count between single quotes. -/
def singleEscapes : List (Char × Char) :=
  doubleEscapes.take 2

/- Replace escapes; a backslash elsewhere stands for itself. -/
def unescape
    (escapes : List (Char × Char)) :
    List Char → List Char
| [] => []
| [c] => [c]
| c :: d :: cs =>
    if c = '\\' then
      match escapes.lookup d with
      | some e => e :: unescape escapes cs
      | none => c :: unescape escapes (d :: cs)
    else c :: unescape escapes (d :: cs)

end Dotenv

------------------------------------------------------------
-- Bindings
------------------------------------------------------------

namespace Dotenv

/- Does a comment follow the blanks here? -/
def startsComment (cs : List Char) : Bool :=
  match cs.dropWhile Text.isBlank with
  | '#' :: _ => true
  | _ => false

/- An unquoted value up to a blank before a comment. -/
def beforeComment : List Char → List Char
| [] => []
| c :: cs =>
    if Text.isBlank c && startsComment cs then []
    else c :: beforeComment cs

/- A value and what follows it. -/
def value? :
    List Char → Option (List Char × List Char)
| '\'' :: cs =>
    (quoted? '\'' cs).map fun (body, rest) =>
      (unescape singleEscapes body, rest)
| '"' :: cs =>
    (quoted? '"' cs).map fun (body, rest) =>
      (unescape doubleEscapes body, rest)
| cs =>
    let (line, rest) := cs.span (· ≠ '\n')
    some
      (Text.trimEnd Text.isBlank (beforeComment line), rest)

/- What follows the word `export`, if it stands here. -/
def skipExport (cs : List Char) : List Char :=
  let word := "export".toList
  if word.isPrefixOf cs then
    match cs.drop word.length with
    | c :: rest => if isSpace c then skipSpaces rest else cs
    | [] => cs
  else cs

/- Is the character part of an unquoted name? -/
def isNameChar (c : Char) : Bool :=
  !(c = '=' || c = '#' || Text.isBlank c)

/- A name and what follows it.  A comment has no name. -/
def name? :
    List Char → Option (Option (List Char) × List Char)
| '#' :: cs => some (none, '#' :: cs)
| '\'' :: cs =>
    match cs.span (· ≠ '\'') with
    | ([], _) => none
    | (name, '\'' :: rest) => some (some name, rest)
    | _ => none
| cs =>
    match cs.span isNameChar with
    | ([], _) => none
    | (name, rest) => some (some name, rest)

end Dotenv

------------------------------------------------------------
-- Files
------------------------------------------------------------

namespace Dotenv

/- A name and its value, if it has one. -/
abbrev Binding := String × Option String

/-
  How far the reading of a line got: a binding or a comment
  and what follows the line, or what is left when the line
  makes no sense.
-/
inductive Line where
| read (binding : Option Binding) (rest : List Char)
| unreadable (rest : List Char)

/- The binding that a name and a value make. -/
def bind
    (name : Option (List Char))
    (value : Option (List Char)) : Option Binding :=
  name.map fun n =>
    (String.ofList n, value.map String.ofList)

/- Finish a line after a name and maybe a value. -/
def finish
    (name : Option (List Char))
    (value : Option (List Char))
    (rest : List Char) : Line :=
  match endLine? rest with
  | some next => .read (bind name value) next
  | none => .unreadable rest

/- Read a line, which starts with no blank. -/
def line (cs : List Char) : Line :=
  let start := skipExport cs
  match name? start with
  | none => .unreadable start
  | some (name, rest) =>
      match skipSpaces rest with
      | '=' :: rest =>
          let here := skipSpaces rest
          match value? here with
          | none => .unreadable here
          | some (v, rest) => finish name (some v) rest
      | rest => finish name none rest

/- A binding if there is one, and what is read next. -/
def step (cs : List Char) : Option Binding × List Char :=
  match line (cs.dropWhile Text.isBlank) with
  | .read binding rest => (binding, rest)
  | .unreadable rest => (none, skipLine rest)

/- All bindings, in order. -/
def bindings (cs : List Char) : List Binding :=
  match cs with
  | [] => []
  | c :: cs =>
      let (binding, rest) := step (c :: cs)
      if rest.length ≤ cs.length then
        binding.toList ++ bindings rest
      else binding.toList
termination_by cs.length
decreasing_by
  simp only [List.length_cons]
  omega

end Dotenv

------------------------------------------------------------
-- References Between Values
------------------------------------------------------------

namespace Dotenv

/- Is the character part of the name in a reference? -/
def isReferenceChar (c : Char) : Bool :=
  c ≠ '}' && c ≠ ':'

/-
  The name, the default and what follows, after the start of
  a reference.  Without a closing brace there is none.
-/
def reference?
    (cs : List Char) :
    Option (List Char × List Char × List Char) :=
  let name := cs.takeWhile isReferenceChar
  match cs.dropWhile isReferenceChar with
  | '}' :: next => some (name, [], next)
  | ':' :: '-' :: rest =>
      match rest.dropWhile (· ≠ '}') with
      | '}' :: next =>
          some (name, rest.takeWhile (· ≠ '}'), next)
      | _ => none
  | _ => none

/- Dropping characters leaves no more of them. -/
private theorem length_dropWhile_le
    (p : Char → Bool)
    (cs : List Char) :
    (cs.dropWhile p).length ≤ cs.length :=
  (List.dropWhile_sublist p).length_le

/- What follows a reference is shorter than what it is in. -/
theorem length_lt_of_reference?
    {cs name default next : List Char}
    (h : reference? cs = some (name, default, next)) :
    next.length < cs.length := by
  have hDrop := length_dropWhile_le isReferenceChar cs
  unfold reference? at h
  split at h
  · rename_i rest hRest
    simp only [Option.some.injEq, Prod.mk.injEq] at h
    obtain ⟨-, -, rfl⟩ := h
    rw [hRest] at hDrop
    exact hDrop
  · rename_i rest hRest
    have hInner := length_dropWhile_le (· ≠ '}') rest
    rw [hRest] at hDrop
    split at h
    · rename_i tail hTail
      simp only [Option.some.injEq, Prod.mk.injEq] at h
      obtain ⟨-, -, rfl⟩ := h
      rw [hTail] at hInner
      simp only [List.length_cons] at hDrop hInner
      omega
    · cases h
  · cases h

/- What is known of names; a name may lack a value. -/
abbrev Known := Table (Option String)

/-
  What replaces a reference.  The default is for unknown
  names only; one that lacks a value leaves nothing.
-/
def replacement
    (known : Known)
    (name default : List Char) : List Char :=
  match Table.lookup (String.ofList name) known with
  | some (some v) => v.toList
  | some none => []
  | none => default

/- The text with references replaced. -/
def resolve
    (known : Known)
    (cs : List Char) : List Char :=
  match cs with
  | [] => []
  | '$' :: '{' :: rest =>
      match _h : reference? rest with
      | some (name, default, next) =>
          replacement known name default ++ resolve known next
      | none => '$' :: resolve known ('{' :: rest)
  | c :: rest => c :: resolve known rest
termination_by cs.length
decreasing_by
  · have := length_lt_of_reference? _h
    simp only [List.length_cons]
    omega
  · simp only [List.length_cons]
    omega
  · simp only [List.length_cons]
    omega

/-
  Resolve the bindings in order.  Each may refer to those
  before it and to the environment, which gives way to them.
-/
def resolveAll
    (environment known : Known) : List Binding → Known
| [] => known
| (name, value) :: rest =>
    let all := Table.ofList (environment ++ known)
    let resolved := value.map fun v =>
      String.ofList (resolve all v.toList)
    resolveAll environment
      (Table.insert name resolved known) rest

/- The values that a file gives to names. -/
def read (environment : Known) (text : String) : Known :=
  resolveAll environment []
    (bindings (unixLines text.toList))

end Dotenv

end EventTopology
