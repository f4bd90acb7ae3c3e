import MarketQuery.Config.Yaml.Token
import MarketQuery.Cell

/-!
# The nodes of YAML

* `Scalar`, `Node`: a value in a document;
* `Node.ofScalar`: what a text is, without quotes or with them, under a tag or without one;
* `Reading`: the nodes that names were given to, and what tags start with;
* `readNode?`: the node that tokens start with;
* `Node.ofTokens?`: the node of a document, if it has one.
-/

namespace MarketQuery.Yaml

open Number

/-- A value without parts. -/
inductive Scalar
  | null
  | bool (b : Bool)
  | int (n : Int64)
  /-- A number with a point or an exponent, as it is written. -/
  | real (s : String)
  | text (s : String)
  deriving DecidableEq, Repr

/-- A value in a document. -/
inductive Node
  | scalar (value : Scalar)
  | list (nodes : List Node)
  /-- Keys with their values, as they are written. -/
  | map (entries : List (Node × Node))
  /-- A text that its tag does not fit, or the alias of a node inside it. -/
  | bad

/-! ## Scalars -/

namespace Scalar

/-- Digits to a base with an optional sign, within 64 bits. -/
def readBased? (base : Nat) (digits : List Char) : Option Int64 := do
  let (negative, digits) := readSign digits
  guard (digits ≠ [])
  let n := signedInt negative (← valueToBase? base digits)
  if fitsInt64 n then return .ofInt n else none

/-- An integer. -/
def readInt? : List Char → Option Int64
  | '0' :: 'x' :: digits => readBased? 16 digits
  | '0' :: 'o' :: digits => readBased? 8 digits
  | '+' :: rest => readInt64? rest
  | cs => readInt64? cs

/-- Words for infinity and for what is no number. -/
def numberWords : List String :=
  [".inf", ".Inf", ".INF", "+.inf", "+.Inf", "+.INF", "-.inf", "-.Inf", "-.INF", ".nan", ".NaN",
    ".NAN"]

/-- A number with a digit, or a word for one. -/
def readReal? (s : String) : Option Scalar :=
  let isNumber := s.toList.any Char.isDigit && (readBinary64? s.toList).isSome
  if s ∈ numberWords ∨ isNumber then some (.real s) else none

/-- A word for a truth value. -/
def readBool? (s : String) : Option Scalar :=
  if s = "true" then some (.bool true) else if s = "false" then some (.bool false) else none

/-- A word for null. -/
def readNull? (s : String) : Option Scalar := if s = "~" ∨ s = "null" then some .null else none

/-- What a text without quotes is. -/
def ofPlain (s : String) : Scalar :=
  ((readInt? s.toList).map int <|> readNull? s <|> readBool? s <|> readReal? s).getD (.text s)

/-- What a text without quotes is under a common tag, if it fits. -/
def ofTagged? (tag s : String) : Option Scalar :=
  match tag with
  | "bool" => readBool? s
  | "int" => (readInt64? s.toList).map int
  | "float" => readReal? s
  | "null" => readNull? s
  | _ => some (.text s)

/-- The text of a value as a key; null is no key. -/
def key? : Scalar → Option String
  | null => none
  | bool b => some (boolText b)
  | int n => some (intText n)
  | real s => some s
  | text s => some s

end Scalar

namespace Node

def null : Node := .scalar .null

/-- What a text is. The outer `tag?` tells whether it has a tag, the inner one the name of a common
tag. -/
def ofScalar (plain : Bool) (tag? : Option (Option String)) (s : String) : Node :=
  match plain, tag? with
  | false, _ | _, some none => .scalar (.text s)
  | true, none => .scalar (.ofPlain s)
  | true, some (some tag) => ((Scalar.ofTagged? tag s).map scalar).getD .bad

/-- Keys with their values. What is bad is no key, and the next node takes its place. -/
def pairs : List Node → List (Node × Node)
  | .bad :: rest => pairs rest
  | key :: value :: rest => (key, value) :: pairs rest
  | _ => []

end Node

/-! ## Anchors and tags -/

/-- What a reader keeps in mind: the nodes that names were given to, and what tags start with. A
name counts from its anchor on, but its node is known only behind its end. -/
structure Context where
  /-- The names so far with their numbers, the last one first. -/
  names : List (String × Nat) := []
  /-- The nodes by the numbers of their names. -/
  nodes : List (Nat × Node) := []
  /-- What is declared for the handles of tags. -/
  tags : List (String × String) := []

/-- A reader that may meet anchors, aliases and tags. -/
abbrev Reading := StateT Context Option

/-- One more name, with its number. -/
def addName (name : String) : Reading Nat :=
  modifyGet fun context =>
    let number := context.names.length
    (number, { context with names := (name, number) :: context.names })

/-- The node of the name with a number. -/
def setNode (number : Nat) (node : Node) : Reading Unit :=
  modify fun context => { context with nodes := (number, node) :: context.nodes }

/-- The node of a name. Inside of the node the name stands for nothing good. -/
def getNode (name : String) : Reading Node := do
  let context ← get
  let number ← context.names.lookup name
  return (context.nodes.lookup number).getD .bad

/-- What the common tags start with. -/
def commonStart : String := "tag:yaml.org,2002:"

/-- The name of a common tag, if a tag is one. Its handle has to be declared unless it is short. -/
def resolve (tag : Tag) : Reading (Option String) := do
  let context ← get
  let start? := context.tags.lookup tag.handle <|>
    if tag.handle = "!!" then some commonStart else none
  match start? with
  | some start => return if start = commonStart then some tag.name else none
  | none => if tag.handle.length < 2 then return none else failure

/-- The anchor and the tag before a node. -/
structure Properties where
  anchor? : Option Nat := none
  tag? : Option (Option String) := none

/-- The anchor and the tag before a node, in either order. -/
def readProperties : List Token → Reading (Properties × List Token)
  | .anchor name :: .tag tag :: rest | .tag tag :: .anchor name :: rest =>
    return ({ anchor? := ← addName name, tag? := some (← resolve tag) }, rest)
  | .anchor name :: rest => return ({ anchor? := ← addName name }, rest)
  | .tag tag :: rest => return ({ tag? := some (← resolve tag) }, rest)
  | rest => return ({}, rest)

/-- The node that has nothing but an anchor or a tag. -/
def Properties.emptyNode? (p : Properties) : Option Node :=
  if p.anchor?.isSome ∨ p.tag?.isSome then some (Node.ofScalar true p.tag? "") else none

/-! ## Nodes from tokens -/

mutual

/-- The node that tokens start with. A list or a map by indentation needs `block`; a list that is
not indented needs `unindented` too. The first argument bounds the steps. -/
def readNode? : Nat → (block unindented : Bool) → List Token → Reading (Node × List Token)
  | 0, _, _, _ => failure
  | _ + 1, _, _, .alias name :: rest => return (← getNode name, rest)
  | fuel + 1, block, unindented, tokens => do
    let (properties, tokens) ← readProperties tokens
    let (node, rest) ← readContent? fuel block unindented properties tokens
    if let some number := properties.anchor? then setNode number node
    return (node, rest)

/-- A node behind its anchor and its tag. -/
def readContent? : Nat → (block unindented : Bool) → Properties → List Token →
    Reading (Node × List Token)
  | 0, _, _, _, _ => failure
  | fuel + 1, block, unindented, properties, tokens =>
    match block, unindented, tokens with
    | _, _, .scalar plain s :: rest => return (Node.ofScalar plain properties.tag? s, rest)
    | _, _, .flowList :: rest => do
      let (nodes, rest) ← readFlowList? fuel true rest
      return (.list nodes, rest)
    | _, _, .flowMap :: rest => do
      let (nodes, rest) ← readFlowMap? fuel true rest
      return (.map (Node.pairs nodes), rest)
    | _, true, .dash :: rest => do
      let (nodes, rest) ← readUnindented? fuel (.dash :: rest)
      return (.list nodes, rest)
    | true, _, .blockList :: rest => do
      let (nodes, rest) ← readBlockList? fuel rest
      return (.list nodes, rest)
    | true, _, .blockMap :: rest => do
      let (nodes, rest) ← readBlockMap? fuel rest
      return (.map (Node.pairs nodes), rest)
    | _, _, rest => return (← properties.emptyNode?, rest)

/-- A node, or null if a token that ends it comes first. -/
def readOptional? (isEnd : Token → Bool) :
    Nat → (block unindented : Bool) → List Token → Reading (Node × List Token)
  | 0, _, _, _ => failure
  | fuel + 1, block, unindented, tokens =>
    if tokens.head?.any isEnd then return (.null, tokens)
    else readNode? fuel block unindented tokens

/-- A value with the colon before it, or null. -/
def readValue? (isEnd : Token → Bool) : Nat → (block : Bool) → List Token →
    Reading (Node × List Token)
  | 0, _, _ => failure
  | fuel + 1, block, .value :: rest => readOptional? isEnd fuel block block rest
  | _ + 1, _, tokens => return (.null, tokens)

/-- The elements of a list by indentation. -/
def readBlockList? : Nat → List Token → Reading (List Node × List Token)
  | 0, _ => failure
  | _ + 1, .blockEnd :: rest => return ([], rest)
  | fuel + 1, .dash :: rest => do
    let (node, rest) ← readOptional? (· ∈ [.dash, .blockEnd]) fuel true false rest
    let (nodes, rest) ← readBlockList? fuel rest
    return (node :: nodes, rest)
  | _ + 1, _ => failure

/-- The elements of a list that is not indented. -/
def readUnindented? : Nat → List Token → Reading (List Node × List Token)
  | 0, _ => failure
  | fuel + 1, .dash :: rest => do
    let isEnd (token : Token) : Bool := token ∈ [.dash, .key, .value, .blockEnd]
    let (node, rest) ← readOptional? isEnd fuel true false rest
    let (nodes, rest) ← readUnindented? fuel rest
    return (node :: nodes, rest)
  | _ + 1, rest => return ([], rest)

/-- The keys and the values of a map by indentation in turn. -/
def readBlockMap? : Nat → List Token → Reading (List Node × List Token)
  | 0, _ => failure
  | _ + 1, .blockEnd :: rest => return ([], rest)
  | fuel + 1, tokens => do
    let isEnd (token : Token) : Bool := token ∈ [.key, .value, .blockEnd]
    let (key, rest) ← match tokens with
      | .key :: rest => readOptional? isEnd fuel true true rest
      | .value :: _ => pure (.null, tokens)
      | _ => failure
    let (value, rest) ← readValue? isEnd fuel true rest
    let (nodes, rest) ← readBlockMap? fuel rest
    return (key :: value :: nodes, rest)

/-- The elements of a list in brackets; a comma stands before each but the first. An element may be
a key with a value. -/
def readFlowList? : Nat → (first : Bool) → List Token → Reading (List Node × List Token)
  | 0, _, _ => failure
  | _ + 1, _, .flowListEnd :: rest => return ([], rest)
  | fuel + 1, first, tokens => do
    let isEnd (token : Token) : Bool := token ∈ [.comma, .flowListEnd]
    let tokens ← match first, tokens with
      | true, tokens => pure tokens
      | false, .comma :: rest => pure rest
      | false, _ => failure
    match tokens with
    | .flowListEnd :: rest => return ([], rest)
    | .key :: rest =>
      let (key, rest) ← readNode? fuel false false rest
      let (value, rest) ← readValue? isEnd fuel false rest
      let (nodes, rest) ← readFlowList? fuel false rest
      return (.map (Node.pairs [key, value]) :: nodes, rest)
    | tokens =>
      let (node, rest) ← readNode? fuel false false tokens
      let (nodes, rest) ← readFlowList? fuel false rest
      return (node :: nodes, rest)

/-- The keys and the values of a map in braces in turn. -/
def readFlowMap? : Nat → (first : Bool) → List Token → Reading (List Node × List Token)
  | 0, _, _ => failure
  | _ + 1, _, .flowMapEnd :: rest => return ([], rest)
  | fuel + 1, first, tokens => do
    let isEnd (token : Token) : Bool := token ∈ [.comma, .flowMapEnd]
    let tokens ← match first, tokens with
      | true, tokens => pure tokens
      | false, .comma :: rest => pure rest
      | false, _ => failure
    match tokens with
    | .flowMapEnd :: rest => return ([], rest)
    | .key :: rest =>
      let (key, rest) ← readOptional? (fun t => t = .value || isEnd t) fuel false false rest
      let (value, rest) ← readValue? isEnd fuel false rest
      let (nodes, rest) ← readFlowMap? fuel false rest
      return (key :: value :: nodes, rest)
    | .value :: rest =>
      let (value, rest) ← readValue? isEnd fuel false (.value :: rest)
      let (nodes, rest) ← readFlowMap? fuel false rest
      return (.null :: value :: nodes, rest)
    | tokens =>
      let (key, rest) ← readNode? fuel false false tokens
      let (nodes, rest) ← readFlowMap? fuel false rest
      return (key :: .null :: nodes, rest)

end

/-! ## Documents -/

/-- The directives that tokens start with. -/
def directivesOf : List Token → List Directive
  | .directive directive :: rest => directive :: directivesOf rest
  | _ => []

/-- What is declared for the handles of tags, the last declaration first. -/
def declaredTags (directives : List Directive) : List (String × String) :=
  directives.reverse.filterMap fun directive =>
    match directive with
    | .tag handle start => some (handle, start)
    | _ => none

/-- What the directives of a document declare, and the tokens behind its start, which directives
make necessary. The version may be told once. -/
def readStart? (tokens : List Token) : Option (Context × List Token) := do
  let directives := directivesOf tokens
  guard (directives.count .version ≤ 1)
  let context : Context := { tags := declaredTags directives }
  match tokens.drop directives.length with
  | .documentStart :: rest => return (context, rest)
  | rest => if directives = [] then return (context, rest) else none

/-- The node of a document, if it has one. There may be no second document. -/
def Node.ofTokens? (tokens : List Token) : Option (Option Node) :=
  match tokens.dropWhile (· = .documentEnd) with
  | [] => some none
  | tokens => do
    let (context, tokens) ← readStart? tokens
    let ((node, rest), _) ← (readNode? (4 * tokens.length + 4) true false tokens).run context
    guard (rest.dropWhile (· = .documentEnd) = [])
    return some node

end MarketQuery.Yaml
