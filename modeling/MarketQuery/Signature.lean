import MarketQuery.Arguments

/-!
# Signatures

* `Param`: a parameter with its kind and its default, if it has one;
* `Signature`: a function's name, its summary and its parameters;
* `Signature.display`: how a function is called, with the defaults;
* `Param.accept?`: the value that a parameter takes from a text.
-/

namespace MarketQuery

/-- A parameter of a function. -/
structure Param where
  name : String
  kind : Kind
  default? : Option String := none
  deriving DecidableEq, Repr

/-- What a function is called by. -/
structure Signature where
  name : String
  summary : String
  params : List Param
  deriving DecidableEq, Repr

namespace Param

/-- The parameter has to be given. -/
def isRequired (p : Param) : Bool := p.default?.isNone

/-- The value that a parameter takes from a text, if the text stands for a value of its kind. A
string parameter takes any text as it is, a float parameter an integer too. -/
def accept? (p : Param) (raw : String) : Option Value :=
  match p.kind, Value.coerce raw with
  | .string, _ => some (.text raw)
  | .integer, .int n => some (.int n)
  | .float, .int n => some (.float (.ofInt n.toInt))
  | .float, .float x => some (.float x)
  | .boolean, .bool b => some (.bool b)
  | _, _ => none

/-- A parameter with its default. -/
def display (p : Param) : String :=
  match p.default? with
  | none => p.name
  | some text =>
    p.name ++ "=" ++ if p.kind = .string then Text.quote text else text

end Param

namespace Signature

/-- How the function is called. -/
def display (s : Signature) : String :=
  s.name ++ "(" ++ ", ".intercalate (s.params.map Param.display) ++ ")"

end Signature

end MarketQuery
