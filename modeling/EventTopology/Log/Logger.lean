import EventTopology.Log.Event

/-
  This file defines loggers: which calls get past the level
  that is asked for, and what is written for those that do.

  Key definitions include:
    * `Logger`
    * `Logger.thresholdOf`
    * `Logger.levelOf?`
    * `Logger.write`
-/

------------------------------------------------------------
-- Levels by Name
------------------------------------------------------------

namespace EventTopology

/- What a logger is set up with. -/
structure Logger where
  /- The lowest rank of a level that is written. -/
  threshold : Nat
  service : String := "eventmesh"
  /- What every entry holds. -/
  context : Json.Members := []

namespace Logger

open Log (Level)

/-
  The upper case of a character, as far as single ASCII
  letters are concerned.
-/
def upperChar (c : Char) : Char :=
  if c = 'ı' then 'I'
  else if c = 'ſ' then 'S'
  else c.toUpper

/- The ranks of levels by name. -/
def ranks : List (String × Nat) :=
  [("NOTSET", 0),
   ("DEBUG", Level.debug.rank),
   ("INFO", Level.info.rank),
   ("WARN", Level.warning.rank),
   ("WARNING", Level.warning.rank),
   ("ERROR", Level.error.rank),
   ("CRITICAL", Level.critical.rank),
   ("FATAL", Level.critical.rank)]

/- The rank a name asks for; unknown names mean `INFO`. -/
def thresholdOf (name : String) : Nat :=
  let upper := String.ofList (name.toList.map upperChar)
  (ranks.lookup upper).getD Level.info.rank

/- The level that a method of a logger writes at. -/
def levelOf? : String → Option Level
| "debug" => some .debug
| "info" | "msg" => some .info
| "warning" | "warn" => some .warning
| "error" | "exception" => some .error
| "critical" | "fatal" => some .critical
| _ => none

end Logger

------------------------------------------------------------
-- Writing
------------------------------------------------------------

namespace Logger

open Log (Level)

/- Is an entry of a level written at all? -/
def admits (l : Logger) (level : Level) : Bool :=
  l.threshold ≤ level.rank

/-
  What is written for an entry at a time, if anything.  Its
  fields win over the context, and the service, the level
  and the time win over both.
-/
def write
    (l : Logger)
    (now : String)
    (level : Level)
    (event : String)
    (fields : Json.Members) : Option Json.Members :=
  if l.admits level then
    some
      (Table.ofList
        (l.context ++ fields ++
          [("event", .str event), ("service", .str l.service),
           ("ts", .str now), ("level", .str level.name)]))
  else none

end Logger

end EventTopology
