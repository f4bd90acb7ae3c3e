import MarketQuery.Config.Item

/-!
# Environment variables

* `Environment`: variables with their texts;
* `Variable.item`: what the text of a variable stands for;
* `Variable.path?`: the setting that a variable is for, by its name;
* `Environment.items`: the settings in an environment.
-/

namespace MarketQuery.Config

/-- Variables with their texts. -/
abbrev Environment := List (String × String)

namespace Variable

/-- A text as a truth value, an integer, a number or itself. Blanks count. -/
def item (s : String) : Item :=
  if Text.sameWord s "true" then .bool true
  else if Text.sameWord s "false" then .bool false
  else
    match Number.readInt64? s.toList with
    | some n => .int n
    | none =>
      match Number.readBinary64? s.toList with
      | some x => .float x
      | none => .text s

/-- A letter made small, with the sign of the kelvin, whose small letter is `k`. -/
def lowerLetter (c : Char) : Char := if c = '\u212a' then 'k' else c.toLower

/-- What the names of variables for settings start with. -/
def start : List Char := "akq__".toList

/-- Two underscores that separate the keys of a path made into a point. -/
def pointed : List Char → List Char
  | '_' :: '_' :: rest => '.' :: pointed rest
  | c :: rest => c :: pointed rest
  | [] => []

/-- The setting that a variable is for, if it is for one. Letter case does not count. -/
def path? (name : String) : Option KeyPath :=
  let name := name.toList.map lowerLetter
  if start.isPrefixOf name then
    some (KeyPath.ofText (.ofList (pointed (name.drop start.length))))
  else none

end Variable

namespace Environment

def get? (env : Environment) (name : String) : Option String := env.lookup name

/-- A variable set if it is not set yet. -/
def setNew (env : Environment) (name text : String) : Environment :=
  if (env.get? name).isSome then env else env ++ [(name, text)]

/-- The settings in an environment, each with its path. -/
def items (env : Environment) : List (KeyPath × Item) :=
  env.filterMap fun (name, text) => (Variable.path? name).map (·, Variable.item text)

end Environment

end MarketQuery.Config
