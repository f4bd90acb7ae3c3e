import MarketQuery.Config.Ini
import MarketQuery.Config.Json5
import MarketQuery.Config.Ron
import MarketQuery.Config.Toml
import MarketQuery.Config.Yaml
import MarketQuery.Json.Value

/-!
# Formats of configuration files

* `Format`, `Format.extensions`: the formats and the extensions that tell them;
* `Format.read?`: the item of a text in a format.
-/

namespace MarketQuery.Config

mutual

/-- The item of a JSON value. -/
def Item.ofJson : Json.Value → Item
  | .null => .null
  | .bool b => .bool b
  | .number (.integer n) =>
    if Number.fitsInt64 n then .int (.ofInt n) else .float (.ofInt n)
  | .number (.float x) => .float x
  | .string s => .text s
  | .array items => .array (ofJsonItems items)
  | .object members => .table (ofJsonMembers members)

def Item.ofJsonItems : List Json.Value → List Item
  | [] => []
  | item :: rest => .ofJson item :: ofJsonItems rest

def Item.ofJsonMembers : List (String × Json.Value) → Item.Members
  | [] => []
  | (name, value) :: rest => (name, .ofJson value) :: ofJsonMembers rest

end

/-- The formats of files. -/
inductive Format
  | toml
  | json
  | yaml
  | ini
  | ron
  | json5
  deriving DecidableEq, Repr

namespace Format

def all : List Format := [toml, json, yaml, ini, ron, json5]

/-- The extensions of the names of files in a format. -/
def extensions : Format → List String
  | toml => ["toml"]
  | json => ["json"]
  | yaml => ["yaml", "yml"]
  | ini => ["ini"]
  | ron => ["ron"]
  | json5 => ["json5"]

/-- The format of an extension. -/
def ofExtension? (extension : String) : Option Format :=
  all.find? fun format => format.extensions.contains extension

/-- The item of a text in a format. -/
def read? : Format → String → Option Item
  | toml, s => Toml.read? s
  | json, s => (Json.Value.read? s).map Item.ofJson
  | yaml, s => Yaml.read? s
  | ini, s => Ini.read? s
  | ron, s => Ron.read? s
  | json5, s => Json5.read? s

end Format

end MarketQuery.Config
