import MarketQuery.Query.Session
import MarketQuery.Registry
import MarketQuery.Rendering
import MarketQuery.Settings

/-!
# Queries

A query finds a function, says how it is called, binds the arguments, makes the call and shows the
answer. A table loses the rows that are not wanted before it is saved and shown.

* `Signature.echo`: how a function is called with given arguments;
* `Query.run`: a whole query.
-/

namespace MarketQuery

/-- An argument as it is given to a function: the text for a string parameter, else the value. -/
def Signature.echoArgument (s : Signature) (key : String) (a : Argument) : String :=
  let isText := s.params.any fun p => p.name == key && p.kind == .string
  key ++ "=" ++ if isText then Text.quote a.raw else a.value.literal

/-- How a function is called with arguments. -/
def Signature.echo (s : Signature) (args : Arguments) : String :=
  s.name ++ "(" ++ ", ".intercalate (args.entries.map fun (key, a) => s.echoArgument key a) ++ ")"

namespace Query

/-- The size of a table. -/
def sizeLine (t : Table) : String :=
  Number.natText t.rowCount ++ " rows x " ++ Number.natText t.columnCount ++ " columns"

/-- Saves a table if that is asked for. -/
def saveIfAsked (i : Invocation) (t : Table) : Action Unit :=
  match i.save with
  | none => pure ()
  | some path => do
    let rows ← Action.saveTable t path
    Action.sayLine ("saved " ++ Number.natText rows ++ " rows to " ++ path)

/-- Shows the wanted rows of a table. -/
def showTable (i : Invocation) (display : DisplaySettings) (t : Table) : Action Unit := do
  saveIfAsked i t
  Action.answerLine (t.render display.maxColumnWidth)
  Action.sayLine ("\n" ++ sizeLine t)

/-- Shows an answer. Only tables are cut and saved. -/
def showAnswer (i : Invocation) (display : DisplaySettings) : Answer → Action Unit
  | .table t => showTable i display (i.truncate t)
  | answer => Action.answerLine (answer.render display.maxColumnWidth)

/-- The function that is asked for. -/
def resolve (r : Registry) (name : String) : Except QueryError QueryFunction :=
  match r.resolve name with
  | some f => .ok f
  | none => .error (.unknownFunction name)

/-- A whole query. -/
def run (r : Registry) (display : DisplaySettings) (i : Invocation) : Action Unit := do
  let f ← Action.ofExcept (resolve r i.function)
  Action.sayLine ("calling: " ++ f.signature.echo i.args)
  let bound ← Action.ofExcept ((f.signature.bind i.args).mapError .parameter)
  let answer ← Action.perform (f.call bound)
  showAnswer i display answer

end Query

end MarketQuery
