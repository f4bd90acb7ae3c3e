import MarketQuery.Signature

/-!
# Binding arguments to parameters

* `Bound`: the value of each parameter, in the order of the signature;
* `BindError`: a key that names no parameter, required parameters left out, a text of the wrong
  kind;
* `Signature.bind`: the bound values, or the first of these faults in that order;
* `Bound.text`, `Bound.int`, `Bound.float`, `Bound.bool`: a bound value of a known kind.
-/

namespace MarketQuery

/-- The value of each parameter. -/
structure Bound where
  values : List (String × Value)
  deriving DecidableEq, Repr

/-- Why arguments do not fit a signature. -/
inductive BindError
  | unexpected (function name : String)
  | missing (function : String) (names : List String)
  | wrongKind (function name : String) (expected actual : Kind) (raw : String)
  deriving DecidableEq, Repr

def BindError.message : BindError → String
  | unexpected function name =>
    function ++ "() got an unexpected keyword argument '" ++ name ++ "'"
  | missing function names =>
    function ++ "() missing " ++ Number.natText names.length ++ " required " ++
      (if names.length = 1 then "argument" else "arguments") ++ ": " ++
      ", ".intercalate (names.map fun name => "'" ++ name ++ "'")
  | wrongKind function name expected actual raw =>
    function ++ "() argument '" ++ name ++ "' expects " ++ expected.name ++ ", got " ++
      actual.name ++ " '" ++ raw ++ "'"

namespace Param

/-- The value of a parameter that is not given: its default, taken as it is where it does not fit
the parameter's kind. -/
def fallback? (p : Param) : Option Value :=
  p.default?.map fun text => (p.accept? text).getD (.text text)

/-- The entry of a parameter; none if it is neither given nor has a default. -/
def bind (p : Param) (function : String) (args : Arguments) :
    Except BindError (Option (String × Value)) :=
  match args.get? p.name with
  | some a =>
    match p.accept? a.raw with
    | some v => .ok (some (p.name, v))
    | none => .error (.wrongKind function p.name p.kind a.value.kind a.raw)
  | none => .ok (p.fallback?.map (p.name, ·))

end Param

namespace Signature

/-- The first key that names no parameter. -/
def unknownKey? (s : Signature) (args : Arguments) : Option String :=
  args.keys.find? fun key => !s.params.any (·.name == key)

/-- The required parameters that are not given. -/
def missingNames (s : Signature) (args : Arguments) : List String :=
  (s.params.filter fun p => p.isRequired && !args.contains p.name).map (·.name)

/-- The arguments bound to the parameters. -/
def bind (s : Signature) (args : Arguments) : Except BindError Bound :=
  match s.unknownKey? args with
  | some key => .error (.unexpected s.name key)
  | none =>
    match s.missingNames args with
    | [] => do
      let entries ← s.params.mapM (·.bind s.name args)
      return ⟨entries.filterMap id⟩
    | names => .error (.missing s.name names)

end Signature

/-- Why a bound value is not there for a function. -/
inductive Unbound
  | absent (name : String)
  | otherKind (name : String) (expected : Kind) (found : Value)
  deriving DecidableEq, Repr

def Unbound.message : Unbound → String
  | absent name => "argument '" ++ name ++ "' was not bound"
  | otherKind name expected found =>
    "argument '" ++ name ++ "' is not a " ++ expected.name ++ ": " ++ found.literal

namespace Bound

instance : EmptyCollection Bound := ⟨⟨[]⟩⟩

def get? (b : Bound) (name : String) : Option Value := b.values.lookup name

/-- The bound value under a name, if it is of the kind that `select` takes. -/
def getOf {α : Type} (expected : Kind) (select : Value → Option α) (b : Bound) (name : String) :
    Except Unbound α :=
  match b.get? name with
  | none => .error (.absent name)
  | some v =>
    match select v with
    | some x => .ok x
    | none => .error (.otherKind name expected v)

def text : Bound → String → Except Unbound String :=
  getOf .string fun | .text s => some s | _ => none

def int : Bound → String → Except Unbound Int64 :=
  getOf .integer fun | .int n => some n | _ => none

def float : Bound → String → Except Unbound Binary64 :=
  getOf .float fun | .float x => some x | _ => none

def bool : Bound → String → Except Unbound Bool :=
  getOf .boolean fun | .bool b => some b | _ => none

end Bound

end MarketQuery
