import StyleGuide.Template.Filter

/-!
# Rendering templates

Runs the nodes of a template under bindings of names. Names bound inside a loop, a scope or a block
are forgotten at its end; an `if` has no scope of its own. Whatever fails makes the whole rendering
fail, and the first failure in the order of evaluation is the error.
-/

namespace StyleGuide.Template

abbrev Scope := List (List (String × Value))

namespace Scope

def find (scope : Scope) (name : String) : Option Value :=
  scope.findSome? fun bindings ↦ bindings.lookup name

def bind (scope : Scope) (name : String) (v : Value) : Scope :=
  match scope with
  | [] => [[(name, v)]]
  | bindings :: outer => ((name, v) :: bindings) :: outer

def bindAll (scope : Scope) (names : List String) (v : Value) : Except RenderError Scope :=
  match names with
  | [name] => .ok (scope.bind name v)
  | names =>
    match v with
    | .list items =>
      if items.length = names.length then
        .ok ((names.zip items).foldl (fun s b ↦ s.bind b.1 b.2) scope)
      else .error .cannotUnpack
    | _ => .error .cannotUnpack

end Scope

/-! ## Expressions -/

mutual

def evaluate (scope : Scope) : Expr → Except RenderError Value
  | .nothing => .ok .absent
  | .none => .ok .none
  | .bool b => .ok (.bool b)
  | .number n => .ok (.number n)
  | .text cs => .ok (.plain cs)
  | .variable name => .ok ((scope.find name).getD .undefined)
  | .list items => do return .list (← evaluateAll scope items)
  | .member e name => do (← evaluate scope e).member name
  | .item e key => do
    let v ← evaluate scope e
    v.item (← evaluate scope key)
  | .negate e => do (← evaluate scope e).negated
  | .not e => do return .bool !(← (← evaluate scope e).truth)
  | .binary op a b => do
    let v ← evaluate scope a
    Value.apply op v (← evaluate scope b)
  | .and a b => do
    let v ← evaluate scope a
    if ← v.truth then evaluate scope b else return v
  | .or a b => do
    let v ← evaluate scope a
    if ← v.truth then return v else evaluate scope b
  | .conditional test yes no => do
    if ← (← evaluate scope test).truth then evaluate scope yes else evaluate scope no
  | .filter e name args => do
    let v ← evaluate scope e
    applyFilter name v (← evaluateAll scope args)
  | .test e name args => do
    let v ← evaluate scope e
    return .bool (← applyTest name v (← evaluateAll scope args))
  | .call name args => do
    let vs ← evaluateAll scope args
    match scope.find name with
    | some _ => .error .invalidOperation
    | none => applyFunction name vs
  | .callValue e args => do
    let _ ← evaluate scope e
    let _ ← evaluateAll scope args
    .error .invalidOperation
  | .method e name args => do
    let v ← evaluate scope e
    let vs ← evaluateAll scope args
    match v with
    | .loop _ index =>
      if name = "cycle" ∧ vs ≠ [] then return (vs[index % vs.length]?).getD .undefined
      else .error .unknownMethod
    | _ => .error .unknownMethod

def evaluateAll (scope : Scope) : List Expr → Except RenderError (List Value)
  | [] => .ok []
  | e :: es => do
    let v ← evaluate scope e
    return v :: (← evaluateAll scope es)

end

/-! ## Nodes -/

def selected (scope : Scope) (names : List String) (filter : Expr) :
    List Value → Except RenderError (List Value)
  | [] => .ok []
  | v :: vs => do
    let inner ← Scope.bindAll ([] :: scope) names v
    let keep ← (← evaluate inner filter).truth
    let rest ← selected scope names filter vs
    return if keep then v :: rest else rest

def printed (v : Value) : Except RenderError (List Char) :=
  match v with
  | .undefined => .error .undefinedValue
  | v => .ok v.shown

def included (name : Value) (optional : Bool) : Except RenderError Unit :=
  let missing : Except RenderError Unit :=
    if optional then .ok () else .error .noSuchTemplate
  match name with
  | .text _ _ => missing
  | .list items => if items.isEmpty then .ok () else missing
  | _ => .error .invalidOperation

/-- Binds names one after another; a value may use the names before it. -/
def bindEach (scope : Scope) : List String → List Expr → Except RenderError Scope
  | name :: names, e :: es => do
    let v ← evaluate scope e
    bindEach (scope.bind name v) names es
  | _, _ => .ok scope

mutual

/-- Runs a node: the bindings after it and what it writes. -/
def run (scope : Scope) : Node → Except RenderError (Scope × List Char)
  | .text cs => .ok (scope, cs)
  | .print e => do return (scope, ← printed (← evaluate scope e))
  | .branch test yes no => do
    if ← (← evaluate scope test).truth then runAll scope yes else runAll scope no
  | .loop names items filter body otherwise => do
    let all ← (← evaluate scope items).items
    let chosen ← match filter with
      | .bool true => .ok all
      | filter => selected scope names filter all
    if chosen.isEmpty then runAll scope otherwise
    else
      let step := fun (acc : Scope × List (List Char)) (v : Value × Nat) ↦ do
        let here := acc.1.bind "loop" (.loop chosen v.2)
        let (next, out) ← runAll (← here.bindAll names v.1) body
        return (next, out :: acc.2)
      let (after, outs) ← chosen.zipIdx.foldlM step ([] :: scope, [])
      return (after.tail, outs.reverse.flatten)
  | .set names e => do return (← scope.bindAll names (← evaluate scope e), [])
  | .capture name body => do
    let (after, out) ← runAll ([] :: scope) body
    return (Scope.bind after.tail name (.plain out), [])
  | .scope names values body => do
    let inner ← bindEach ([] :: scope) names values
    let (after, out) ← runAll inner body
    return (after.tail, out)
  | .filtered name args body => do
    let (after, out) ← runAll scope body
    let v ← applyFilter name (.plain out) (← evaluateAll after args)
    return (after, ← printed v)
  | .block _ body => do
    let (after, out) ← runAll ([] :: scope) body
    return (after.tail, out)
  | .insertion name optional => do
    included (← evaluate scope name) optional
    return (scope, [])

def runAll (scope : Scope) : List Node → Except RenderError (Scope × List Char)
  | [] => .ok (scope, [])
  | n :: ns => do
    let (next, out) ← run scope n
    let (after, more) ← runAll next ns
    return (after, out ++ more)

end

def render (source : String) (bindings : List (String × Value)) : Except RenderError String := do
  let found ← nodes source
  let (_, out) ← runAll [bindings] found
  return String.ofList out

end StyleGuide.Template
