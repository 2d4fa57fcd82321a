import StyleGuide.Template.Token

/-!
# Template trees

The statements and expressions of a template, and how tokens are read as such. Operators bind, from
loose to tight: inline `if`, `or`, `and`, `not`, comparisons, `+` and `-`, `~`, `*` and its kin,
`**`, a leading `-`, and last filters, tests, attributes, subscripts and calls.
-/

namespace StyleGuide.Template

/-- A binary operator that evaluates both sides. -/
inductive Operator where
  | add
  | subtract
  | multiply
  | divide
  | floorDivide
  | remainder
  | power
  | concat
  | equal
  | unequal
  | less
  | lessEqual
  | greater
  | greaterEqual
  | contained
deriving DecidableEq, Repr

inductive Expr where
  /-- The value of an inline `if` without `else` that does not apply. -/
  | nothing
  | none
  | bool (b : Bool)
  | number (n : Nat)
  | text (cs : List Char)
  | variable (name : String)
  | list (items : List Expr)
  | member (e : Expr) (name : String)
  | item (e key : Expr)
  | negate (e : Expr)
  | not (e : Expr)
  | binary (op : Operator) (a b : Expr)
  | and (a b : Expr)
  | or (a b : Expr)
  | conditional (test yes no : Expr)
  | filter (e : Expr) (name : String) (args : List Expr)
  | test (e : Expr) (name : String) (args : List Expr)
  | call (name : String) (args : List Expr)
  | callValue (e : Expr) (args : List Expr)
  | method (e : Expr) (name : String) (args : List Expr)
deriving Inhabited, Repr

/-- A piece of a template that writes, decides, repeats or binds. -/
inductive Node where
  | text (cs : List Char)
  | print (e : Expr)
  | branch (test : Expr) (yes no : List Node)
  | loop (targets : List String) (items filter : Expr) (body otherwise : List Node)
  | set (targets : List String) (value : Expr)
  /-- Binds what its body writes. -/
  | capture (target : String) (body : List Node)
  | scope (names : List String) (values : List Expr) (body : List Node)
  | filtered (name : String) (args : List Expr) (body : List Node)
  | block (name : String) (body : List Node)
  | insertion (name : Expr) (optional : Bool)
deriving Inhabited, Repr

abbrev Read (α : Type) := α × List Token

/-- The error of tokens that do not continue as they should. -/
def unexpected {α : Type} : List Token → Except RenderError α
  | .broken e :: _ => .error e
  | _ => .error .malformed

def expect (t : Token) : List Token → Except RenderError (List Token)
  | u :: rest => if t = u then .ok rest else unexpected (u :: rest)
  | [] => unexpected []

def readName : List Token → Except RenderError (Read String)
  | .name s :: rest => .ok (s, rest)
  | ts => unexpected ts

/-- Names that cannot be bound. -/
def reserved : List String :=
  ["true", "True", "false", "False", "none", "None", "loop", "self"]

def comparisons : List (String × Operator) :=
  [("==", .equal), ("!=", .unequal), ("<", .less), ("<=", .lessEqual), (">", .greater),
    (">=", .greaterEqual)]

def sums : List (String × Operator) := [("+", .add), ("-", .subtract)]

def joins : List (String × Operator) := [("~", .concat)]

def products : List (String × Operator) :=
  [("*", .multiply), ("/", .divide), ("//", .floorDivide), ("%", .remainder)]

def powers : List (String × Operator) := [("**", .power)]

/-- The operators between `and` and a leading `-`, loosest first. -/
def levels : List (List (String × Operator)) := [comparisons, sums, joins, products, powers]

/-- Names that end a test, so they are not its argument. -/
def afterTest : List String := ["and", "or", "else", "is"]

/-- Whether a token begins the argument of a test that is written without brackets. -/
def startsArgument : Token → Bool
  | .name s => !afterTest.contains s
  | .quoted _ => true
  | .number _ => true
  | .sign s => s == "[" || s == "\x7b" || s == "-"
  | _ => false

mutual

def readExpr : Nat → List Token → Except RenderError (Read Expr)
  | 0, _ => .error .malformed
  | fuel + 1, ts => do
    let (e, rest) ← readOr fuel ts
    readConditional fuel e rest

/-- The inline `if`s after an expression. -/
def readConditional : Nat → Expr → List Token → Except RenderError (Read Expr)
  | fuel + 1, e, .name "if" :: rest => do
    let (test, rest) ← readOr fuel rest
    match rest with
    | .name "else" :: rest => do
      let (no, rest) ← readExpr fuel rest
      readConditional fuel (.conditional test e no) rest
    | rest => readConditional fuel (.conditional test e .nothing) rest
  | _, e, ts => .ok (e, ts)

def readOr : Nat → List Token → Except RenderError (Read Expr)
  | 0, _ => .error .malformed
  | fuel + 1, ts => do
    let (e, rest) ← readAnd fuel ts
    moreOr fuel e rest

def moreOr : Nat → Expr → List Token → Except RenderError (Read Expr)
  | fuel + 1, e, .name "or" :: rest => do
    let (f, rest) ← readAnd fuel rest
    moreOr fuel (.or e f) rest
  | _, e, ts => .ok (e, ts)

def readAnd : Nat → List Token → Except RenderError (Read Expr)
  | 0, _ => .error .malformed
  | fuel + 1, ts => do
    let (e, rest) ← readNot fuel ts
    moreAnd fuel e rest

def moreAnd : Nat → Expr → List Token → Except RenderError (Read Expr)
  | fuel + 1, e, .name "and" :: rest => do
    let (f, rest) ← readNot fuel rest
    moreAnd fuel (.and e f) rest
  | _, e, ts => .ok (e, ts)

def readNot : Nat → List Token → Except RenderError (Read Expr)
  | fuel + 1, .name "not" :: rest => do
    let (e, rest) ← readNot fuel rest
    return (.not e, rest)
  | fuel + 1, ts => readLevel fuel levels ts
  | 0, _ => .error .malformed

/-- Operands joined by the operators of the first level; operands use the further levels. -/
def readLevel : Nat → List (List (String × Operator)) → List Token → Except RenderError (Read Expr)
  | fuel + 1, level :: tighter, ts => do
    let (e, rest) ← readLevel fuel tighter ts
    moreLevel fuel level tighter e rest
  | fuel + 1, [], ts => readUnary fuel ts
  | 0, _, _ => .error .malformed

def moreLevel : Nat → List (String × Operator) → List (List (String × Operator)) → Expr →
    List Token → Except RenderError (Read Expr)
  | fuel + 1, level, tighter, e, .sign s :: rest =>
    match level.lookup s with
    | some op => do
      let (f, rest) ← readLevel fuel tighter rest
      moreLevel fuel level tighter (.binary op e f) rest
    | none => .ok (e, .sign s :: rest)
  | fuel + 1, level, tighter, e, .name "in" :: rest =>
    if level = comparisons then do
      let (f, rest) ← readLevel fuel tighter rest
      moreLevel fuel level tighter (.binary .contained e f) rest
    else .ok (e, .name "in" :: rest)
  | fuel + 1, level, tighter, e, .name "not" :: rest =>
    if level = comparisons then do
      let rest ← expect (.name "in") rest
      let (f, rest) ← readLevel fuel tighter rest
      moreLevel fuel level tighter (.not (.binary .contained e f)) rest
    else .ok (e, .name "not" :: rest)
  | _, _, _, e, ts => .ok (e, ts)

def readUnary : Nat → List Token → Except RenderError (Read Expr)
  | 0, _ => .error .malformed
  | fuel + 1, ts => do
    let (e, rest) ← readOperand fuel ts
    readFilters fuel e rest

def readOperand : Nat → List Token → Except RenderError (Read Expr)
  | fuel + 1, .sign "-" :: rest => do
    let (e, rest) ← readOperand fuel rest
    return (.negate e, rest)
  | fuel + 1, ts => do
    let (e, rest) ← readPrimary fuel ts
    readAttached fuel e rest
  | 0, _ => .error .malformed

def readPrimary : Nat → List Token → Except RenderError (Read Expr)
  | _ + 1, .name s :: rest =>
    .ok (if s = "true" ∨ s = "True" then .bool true
      else if s = "false" ∨ s = "False" then .bool false
      else if s = "none" ∨ s = "None" then .none
      else .variable s, rest)
  | _ + 1, .quoted cs :: rest => .ok (.text cs, rest)
  | _ + 1, .number n :: rest => .ok (.number n, rest)
  | fuel + 1, .sign "(" :: rest =>
    match rest with
    | .sign ")" :: rest => .ok (.list [], rest)
    | rest => do
      let (e, rest) ← readExpr fuel rest
      match rest with
      | .sign "," :: rest => do
        let (es, rest) ← readItems fuel ")" rest
        return (.list (e :: es), rest)
      | rest => do
        let rest ← expect (.sign ")") rest
        return (e, rest)
  | fuel + 1, .sign "[" :: rest => do
    let (es, rest) ← readItems fuel "]" rest
    return (.list es, rest)
  | _, ts => unexpected ts

def readItems : Nat → String → List Token → Except RenderError (Read (List Expr))
  | fuel + 1, close, ts =>
    match ts with
    | .sign s :: rest =>
      if s = close then .ok ([], rest) else readItem fuel close (.sign s :: rest)
    | ts => readItem fuel close ts
  | 0, _, _ => .error .malformed

def readItem : Nat → String → List Token → Except RenderError (Read (List Expr))
  | 0, _, _ => .error .malformed
  | fuel + 1, close, ts => do
    let (e, rest) ← readExpr fuel ts
    match rest with
    | .sign "," :: rest => do
      let (es, rest) ← readItems fuel close rest
      return (e :: es, rest)
    | rest => do
      let rest ← expect (.sign close) rest
      return ([e], rest)

def readAttached : Nat → Expr → List Token → Except RenderError (Read Expr)
  | fuel + 1, e, .sign "." :: rest => do
    let (name, rest) ← readName rest
    match rest with
    | .sign "(" :: rest => do
      let (args, rest) ← readItems fuel ")" rest
      readAttached fuel (.method e name args) rest
    | rest => readAttached fuel (.member e name) rest
  | fuel + 1, e, .sign "[" :: rest => do
    let (key, rest) ← readExpr fuel rest
    let rest ← expect (.sign "]") rest
    readAttached fuel (.item e key) rest
  | fuel + 1, e, .sign "(" :: rest => do
    let (args, rest) ← readItems fuel ")" rest
    let called := match e with
      | .variable name => .call name args
      | e => .callValue e args
    readAttached fuel called rest
  | _, e, ts => .ok (e, ts)

def readFilters : Nat → Expr → List Token → Except RenderError (Read Expr)
  | fuel + 1, e, .sign "|" :: rest => do
    let (name, rest) ← readName rest
    match rest with
    | .sign "(" :: rest => do
      let (args, rest) ← readItems fuel ")" rest
      readFilters fuel (.filter e name args) rest
    | rest => readFilters fuel (.filter e name []) rest
  | fuel + 1, e, .name "is" :: rest => do
    let (negated, rest) := match rest with
      | .name "not" :: rest => (true, rest)
      | rest => (false, rest)
    let (name, rest) ← readName rest
    let (args, rest) ← readTestArguments fuel rest
    let test := .test e name args
    readFilters fuel (if negated then .not test else test) rest
  | _, e, ts => .ok (e, ts)

def readTestArguments : Nat → List Token → Except RenderError (Read (List Expr))
  | fuel + 1, .sign "(" :: rest => readItems fuel ")" rest
  | fuel + 1, t :: rest =>
    if startsArgument t then do
      let (e, rest) ← readOperand fuel (t :: rest)
      return ([e], rest)
    else .ok ([], t :: rest)
  | _, ts => .ok ([], ts)

end

/-- Enough steps for an expression: each token is reached within as many calls as there are
readers. -/
def stepsFor (ts : List Token) : Nat :=
  24 * (ts.length + 1)

def expression (ts : List Token) : Except RenderError (Read Expr) :=
  readExpr (stepsFor ts) ts

/-- Reads an expression that an `if` may follow without being part of it. -/
def expressionBeforeIf (ts : List Token) : Except RenderError (Read Expr) :=
  readOr (stepsFor ts) ts

def readTarget (ts : List Token) : Except RenderError (Read String) := do
  let (name, rest) ← readName ts
  if reserved.contains name then .error .malformed else return (name, rest)

/-- Names to bind, with commas between them and brackets around them if need be; the flag says
whether there is more than one. -/
def readTargets : Nat → List Token → Except RenderError (Read (List String))
  | 0, ts => unexpected ts
  | fuel + 1, ts => do
    let (name, rest) ← readTarget ts
    match rest with
    | .sign "," :: rest =>
      match rest with
      | .name "in" :: _ => return ([name], rest)
      | rest => do
        let (names, rest) ← readTargets fuel rest
        return (name :: names, rest)
    | rest => return ([name], rest)

def targets (ts : List Token) : Except RenderError (Read (List String)) :=
  match ts with
  | .sign "(" :: rest => do
    let (names, rest) ← readTargets rest.length rest
    let rest ← expect (.sign ")") rest
    return (names, rest)
  | ts => readTargets ts.length ts

/-- Bindings `name = value` with commas between them. -/
def readBindings : Nat → List Token → Except RenderError (Read (List String × List Expr))
  | 0, ts => unexpected ts
  | fuel + 1, ts =>
    match ts with
    | .closeStatement :: _ => .ok (([], []), ts)
    | ts => do
      let (name, rest) ← readTarget ts
      let rest ← expect (.sign "=") rest
      let (value, rest) ← expression rest
      match rest with
      | .sign "," :: rest => do
        let ((names, values), rest) ← readBindings fuel rest
        return ((name :: names, value :: values), rest)
      | rest => return (([name], [value]), rest)

/-- What ended a body: the word of the statement, with the tokens after it. -/
abbrev Ending := String × List Token

mutual

/-- Nodes up to a statement whose word is among `ends`; without such words, up to the end. The
blocks defined so far come along, since no name may be used twice. -/
def readNodes : Nat → List String → List String → List Token →
    Except RenderError (List Node × List String × Ending)
  | 0, _, _, _ => .error .malformed
  | _ + 1, ends, blocks, [] =>
    if ends.isEmpty then .ok ([], blocks, "", []) else .error .malformed
  | fuel + 1, ends, blocks, .text cs :: rest => do
    let (nodes, more) ← readNodes fuel ends blocks rest
    return (.text cs :: nodes, more)
  | fuel + 1, ends, blocks, .openPrint :: rest => do
    let (e, rest) ← expression rest
    let rest ← expect .closePrint rest
    let (nodes, more) ← readNodes fuel ends blocks rest
    return (.print e :: nodes, more)
  | fuel + 1, ends, blocks, .openStatement :: rest => do
    let (word, rest) ← readName rest
    if ends.contains word then return ([], blocks, word, rest)
    else
      let (node, blocks, rest) ← readStatement fuel word blocks rest
      let rest ← expect .closeStatement rest
      let (nodes, more) ← readNodes fuel ends blocks rest
      return (node :: nodes, more)
  | _ + 1, _, _, ts => unexpected ts

/-- The statement that a word begins, up to but without its closing marker. -/
def readStatement : Nat → String → List String → List Token →
    Except RenderError (Node × List String × List Token)
  | 0, _, _, _ => .error .malformed
  | fuel + 1, word, blocks, ts =>
    if word = "if" then readBranch fuel blocks ts
    else if word = "for" then do
      let (names, rest) ← targets ts
      let rest ← expect (.name "in") rest
      let (items, rest) ← expressionBeforeIf rest
      let (filter, rest) ← match rest with
        | .name "if" :: rest => expression rest
        | rest => .ok (.bool true, rest)
      let rest := match rest with
        | .name "recursive" :: rest => rest
        | rest => rest
      let rest ← expect .closeStatement rest
      let (body, blocks, ending, rest) ← readNodes fuel ["endfor", "else"] blocks rest
      if ending = "else" then
        let rest ← expect .closeStatement rest
        let (otherwise, blocks, _, rest) ← readNodes fuel ["endfor"] blocks rest
        return (.loop names items filter body otherwise, blocks, rest)
      else return (.loop names items filter body [], blocks, rest)
    else if word = "set" then do
      let (names, rest) ← targets ts
      match names, rest with
      | _, .sign "=" :: rest => do
        let (value, rest) ← expression rest
        return (.set names value, blocks, rest)
      | [name], rest => do
        let rest ← expect .closeStatement rest
        let (body, blocks, _, rest) ← readNodes fuel ["endset"] blocks rest
        return (.capture name body, blocks, rest)
      | _, rest => unexpected rest
    else if word = "with" then do
      let ((names, values), rest) ← readBindings (ts.length + 1) ts
      let rest ← expect .closeStatement rest
      let (body, blocks, _, rest) ← readNodes fuel ["endwith"] blocks rest
      return (.scope names values body, blocks, rest)
    else if word = "filter" then do
      let (name, rest) ← readName ts
      let (args, rest) ← match rest with
        | .sign "(" :: rest => readItems (stepsFor rest) ")" rest
        | rest => .ok ([], rest)
      let rest ← expect .closeStatement rest
      let (body, blocks, _, rest) ← readNodes fuel ["endfilter"] blocks rest
      return (.filtered name args body, blocks, rest)
    else if word = "block" then do
      let (name, rest) ← readName ts
      if blocks.contains name then .error .malformed
      else
        let rest ← expect .closeStatement rest
        let (body, blocks, _, rest) ← readNodes fuel ["endblock"] (name :: blocks) rest
        match rest with
        | .name other :: rest =>
          if other = name then return (.block name body, blocks, rest) else .error .malformed
        | rest => return (.block name body, blocks, rest)
    else if word = "include" then do
      let (name, rest) ← expression ts
      match rest with
      | .name "ignore" :: rest => do
        let rest ← expect (.name "missing") rest
        return (.insertion name true, blocks, rest)
      | rest => return (.insertion name false, blocks, rest)
    else if word = "extends" then do
      let (name, rest) ← expression ts
      return (.insertion name false, blocks, rest)
    else .error .malformed

/-- The rest of an `if`, after its word. -/
def readBranch : Nat → List String → List Token →
    Except RenderError (Node × List String × List Token)
  | 0, _, _ => .error .malformed
  | fuel + 1, blocks, ts => do
    let (test, rest) ← expression ts
    let rest ← expect .closeStatement rest
    let (yes, blocks, ending, rest) ← readNodes fuel ["endif", "else", "elif"] blocks rest
    if ending = "elif" then
      let (no, blocks, rest) ← readBranch fuel blocks rest
      return (.branch test yes [no], blocks, rest)
    else if ending = "else" then
      let rest ← expect .closeStatement rest
      let (no, blocks, _, rest) ← readNodes fuel ["endif"] blocks rest
      return (.branch test yes no, blocks, rest)
    else return (.branch test yes [], blocks, rest)

end

def nodes (source : String) : Except RenderError (List Node) := do
  let ts := tokens source
  let (found, _) ← readNodes (2 * ts.length + 2) [] [] ts
  return found

end StyleGuide.Template
