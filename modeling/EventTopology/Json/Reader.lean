import EventTopology.Json.Token

/-
  This file defines the reader of JSON texts.  It walks once
  over the tokens and keeps the arrays and objects that are
  still open on a stack, so that the nesting depth is the
  height of the stack.

  Key definitions include:
    * `Json.Frame`
    * `Json.Awaiting`
    * `Json.Progress`
    * `Json.Progress.step`
    * `Json.ofTokens?`
    * `Json.read?`
-/

------------------------------------------------------------
-- Reading States
------------------------------------------------------------

namespace EventTopology

namespace Json

/- An open array or object, its latest part first. -/
inductive Frame where
| array (done : List Json)
| object (done : Members) (name : String)

/- What the reader may meet next. -/
inductive Awaiting where
| value
/- A value, or the end of an array just opened. -/
| valueOrEnd
/- A member's name. -/
| name
/- A name, or the end of an object just opened. -/
| nameOrEnd
| colon
/- A comma or the end of the innermost frame. -/
| more
/- Nothing: the value is complete. -/
| nothing (v : Json)

/- The open frames, innermost first, and what may follow. -/
structure Progress where
  stack : List Frame
  awaiting : Awaiting

namespace Progress

/- Before the first token. -/
def start : Progress :=
  ⟨[], .value⟩

/- Put a completed value where it belongs. -/
def place (v : Json) : List Frame → Progress
| [] => ⟨[], .nothing v⟩
| .array done :: stack => ⟨.array (v :: done) :: stack, .more⟩
| .object done name :: stack =>
    ⟨.object ((name, v) :: done) name :: stack, .more⟩

/- May one more frame be opened? -/
def mayOpen (d : Dialect) (stack : List Frame) : Bool :=
  match d.depthLimit with
  | none => true
  | some limit => stack.length < limit

/- The step at a place where a value may stand. -/
def stepValue
    (d : Dialect)
    (stack : List Frame) : Token → Option Progress
| .plain v => some (place v stack)
| .text s => some (place (.str s) stack)
| .openArray =>
    if mayOpen d stack then
      some ⟨.array [] :: stack, .valueOrEnd⟩
    else none
| .openObject =>
    if mayOpen d stack then
      some ⟨.object [] "" :: stack, .nameOrEnd⟩
    else none
| _ => none

/- The step after a value inside an array or object. -/
def stepMore : List Frame → Token → Option Progress
| .array done :: stack, .comma =>
    some ⟨.array done :: stack, .value⟩
| .array done :: stack, .closeArray =>
    some (place (.arr done.reverse) stack)
| .object done name :: stack, .comma =>
    some ⟨.object done name :: stack, .name⟩
| .object done _ :: stack, .closeObject =>
    some (place (.obj (ofMembers done.reverse)) stack)
| _, _ => none

/- The step at a member's name. -/
def stepName : List Frame → Token → Option Progress
| .object done _ :: stack, .text s =>
    some ⟨.object done s :: stack, .colon⟩
| _, _ => none

/- Take one token. -/
def step
    (d : Dialect)
    (p : Progress)
    (t : Token) : Option Progress :=
  match p.awaiting, t with
  | .value, t => stepValue d p.stack t
  | .valueOrEnd, .closeArray => stepMore p.stack .closeArray
  | .valueOrEnd, t => stepValue d p.stack t
  | .name, t => stepName p.stack t
  | .nameOrEnd, .closeObject =>
      stepMore p.stack .closeObject
  | .nameOrEnd, t => stepName p.stack t
  | .colon, .colon => some ⟨p.stack, .value⟩
  | .more, t => stepMore p.stack t
  | _, _ => none

/- The completed value. -/
def result? (p : Progress) : Option Json :=
  match p.awaiting with
  | .nothing v => some v
  | _ => none

end Progress

end Json

------------------------------------------------------------
-- Readers
------------------------------------------------------------

namespace Json

/- The value that tokens spell. -/
def ofTokens?
    (d : Dialect)
    (ts : List Token) : Option Json :=
  (ts.foldlM (Progress.step d) Progress.start).bind
    Progress.result?

/- The value that a text spells. -/
def read?
    (d : Dialect)
    (s : String) : Option Json :=
  (scan d s.toList).bind (ofTokens? d)

end Json

end EventTopology
