import MarketQuery.Config.Environment

/-!
# Logging

* `LogFormat`: how a record of the log is written; `LogFormat.read`: the format that a word names;
* `LogConfig`: which records are written, and how; `LogConfig.ofEnvironment`: as variables say;
* `Log`: what a log that was started says while the program writes.
-/

namespace MarketQuery

/-- How a record of the log is written. -/
inductive LogFormat
  | pretty
  | json
  | compact
  deriving DecidableEq, Repr

/-- A word that names no format. -/
structure LogFormatError where
  word : String
  deriving DecidableEq, Repr

def LogFormatError.message (e : LogFormatError) : String := "Unknown log format: " ++ e.word

namespace LogFormat

def name : LogFormat → String
  | pretty => "pretty"
  | json => "json"
  | compact => "compact"

/-- The format that a word names, in any letter case. -/
def read (word : String) : Except LogFormatError LogFormat :=
  match [pretty, json, compact].find? fun format => Text.sameWord format.name word with
  | some format => .ok format
  | none => .error ⟨word⟩

end LogFormat

/-- Which records are written to the log, and how. -/
structure LogConfig where
  /-- The least level, or levels by the origin of a record. -/
  level : String := "warn"
  format : LogFormat := .compact
  /-- A record tells its origin. -/
  withTarget : Bool := true
  deriving DecidableEq, Repr

namespace LogConfig

/-- A configuration with a level, and with a format if the word names one. -/
def ofWords (level : String) (format? : Option String) : LogConfig :=
  match format?.map LogFormat.read with
  | some (.ok format) => { level, format }
  | _ => { level }

/-- The variable for the level. -/
def levelVariable : String := "RUST_LOG"

/-- The variable for the format. -/
def formatVariable : String := "LOG_FORMAT"

/-- The configuration that variables ask for. -/
def ofEnvironment (env : Config.Environment) : LogConfig :=
  let defaults : LogConfig := {}
  ofWords ((env.get? levelVariable).getD defaults.level) (env.get? formatVariable)

end LogConfig

/-- What a log says on standard error ahead of each writing of the program, and behind the last one.
Which records there are and how they are written is not told here, and what is drawn on a terminal
while a server is waited for counts as said. -/
abbrev Log := Nat → String

/-- The log that was not started. -/
def Log.silent : Log := fun _ => ""

end MarketQuery
