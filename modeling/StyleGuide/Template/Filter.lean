import StyleGuide.Template.Value

/-!
# Filters, tests and functions

What a template may apply to a value by name. Filters on text read any other value as it is printed;
an undefined value is refused by them, while `default`, `length` and `escape` look at it.
-/

namespace StyleGuide.Template

/-- The number of arguments a filter or test takes is between `low` and `high`. -/
def checkArguments (low high : Nat) (args : List Value) : Except RenderError Unit :=
  if args.length < low then .error .missingArgument
  else if high < args.length then .error .tooManyArguments
  else .ok ()

def asText (v : Value) : Except RenderError (List Char) :=
  if v.isUndefined then .error .undefinedValue else .ok v.shown

def textArgument? : List Value → Except RenderError (Option (List Char))
  | [] => .ok none
  | .none :: _ => .ok none
  | v :: _ => (asText v).map some

/-! ## Text -/

/-- The entity of one character; besides the five common ones a slash has one too. -/
def escapeChar (c : Char) : List Char :=
  match c with
  | '<' => "&lt;".toList
  | '>' => "&gt;".toList
  | '&' => "&amp;".toList
  | '"' => "&quot;".toList
  | '\'' => "&#x27;".toList
  | '/' => "&#x2f;".toList
  | c => [c]

/-- A value as markup; markup stays as it is. -/
def escaped (v : Value) : Value :=
  match v with
  | .text _ true => v
  | v => .text (v.shown.flatMap escapeChar) true

def isCased (c : Char) : Bool :=
  Text.lower c != [c] || Text.upper c != [c]

/-- Lower case of a text; a capital sigma at the end of a word becomes a final one. -/
def lowerText (before : Bool) : List Char → List Char
  | [] => []
  | c :: cs =>
    let final := c = 'Σ' && before && !(cs.head?.map isCased).getD false
    (if final then ['ς'] else Text.lower c) ++ lowerText (isCased c) cs

def upperText (cs : List Char) : List Char :=
  cs.flatMap Text.upper

def titleText (fresh : Bool) : List Char → List Char
  | [] => []
  | c :: cs =>
    if Text.isAsciiPunctuation c || Text.isBlank c then c :: titleText true cs
    else if fresh then Text.upper c ++ titleText false cs
    else Text.lower c ++ titleText false cs

def capitalized : List Char → List Char
  | [] => []
  | c :: cs => Text.upper c ++ lowerText false cs

/-- A text without the given characters at its ends. -/
def strip (drop : Char → Bool) (cs : List Char) : List Char :=
  ((cs.dropWhile drop).reverse.dropWhile drop).reverse

/-! ## Filters -/

/-- The value in place of an undefined one; if the flag is set, also in place of a false one. -/
def defaulted (v : Value) (args : List Value) : Except RenderError Value := do
  let other ← match args with
    | [] => .ok (.plain [])
    | .none :: _ => .ok (.plain [])
    | o :: _ => if o.isUndefined then .error .undefinedValue else .ok o
  let lax ← match args with
    | _ :: .bool b :: _ => .ok b
    | _ :: .none :: _ => .ok false
    | _ :: _ :: _ => .error .invalidOperation
    | _ => .ok false
  if v.isUndefined then return other
  else if lax then return if ← v.truth then v else other
  else return v

def lengthOf : Value → Except RenderError Value
  | .text cs _ => .ok (.number cs.length)
  | .list items => .ok (.number items.length)
  | _ => .error .invalidOperation

/-- The first or last item; none at all of an empty value. -/
def endItem (pick : List Value → Option Value) (v : Value) : Except RenderError Value :=
  match v with
  | .text cs _ => .ok ((pick (cs.map fun c ↦ .plain [c])).getD .undefined)
  | .list items => .ok ((pick items).getD .undefined)
  | _ => .error .invalidOperation

def onText (f : List Char → List Char) (v : Value) : Except RenderError Value :=
  (asText v).map fun cs ↦ .plain (f cs)

def applyFilter (name : String) (v : Value) (args : List Value) : Except RenderError Value :=
  let upTo {α : Type} (low high : Nat) (result : Except RenderError α) : Except RenderError α :=
    (checkArguments low high args).bind fun _ ↦ result
  match name with
  | "upper" => upTo 0 0 (onText upperText v)
  | "lower" => upTo 0 0 (onText (lowerText false) v)
  | "title" => upTo 0 0 (onText (titleText true) v)
  | "capitalize" => upTo 0 0 (onText capitalized v)
  | "string" => upTo 0 0 (match v with
    | .text cs markup => .ok (.text cs markup)
    | v => .ok (.plain v.shown))
  | "safe" => upTo 0 0 ((asText v).map fun cs ↦ .text cs true)
  | "escape" => upTo 0 0 (.ok (escaped v))
  | "e" => upTo 0 0 (.ok (escaped v))
  | "length" => upTo 0 0 (lengthOf v)
  | "count" => upTo 0 0 (lengthOf v)
  | "default" => upTo 0 2 (defaulted v args)
  | "d" => upTo 0 2 (defaulted v args)
  | "first" => upTo 0 0 (endItem List.head? v)
  | "last" => upTo 0 0 (endItem List.getLast? v)
  | "list" => upTo 0 0 (match v with
    | .undefined => .error .invalidOperation
    | v => v.items.map .list)
  | "reverse" => upTo 0 0 (match v with
    | .text cs _ => .ok (.plain cs.reverse)
    | v => v.items.map fun items ↦ .list items.reverse)
  | "trim" => upTo 0 1 (do
    let chars ← textArgument? args
    onText (strip ((chars.map fun set c ↦ set.contains c).getD Text.isBlank)) v)
  | "replace" => upTo 2 2 (do
    match args with
    | [piece, by'] =>
      let piece ← asText piece
      let by' ← asText by'
      onText (Text.replace piece by') v
    | _ => .error .missingArgument)
  | "join" => upTo 0 1 (do
    let between ← textArgument? args
    let items ← v.items
    return .plain (List.intercalate (between.getD []) (items.map Value.shown)))
  | _ => .error .unknownFilter

/-! ## Tests -/

/-- Whether a number has a remainder by two. -/
def parity (rest : Int) (v : Value) : Bool :=
  (v.number?.map fun n ↦ n % 2 == rest).getD false

def applyTest (name : String) (v : Value) (args : List Value) : Except RenderError Bool :=
  let alone (result : Bool) : Except RenderError Bool :=
    (checkArguments 0 0 args).map fun _ ↦ result
  let against (f : Value → Except RenderError Bool) : Except RenderError Bool :=
    match args with
    | [] => .error .missingArgument
    | [w] => f w
    | _ => .error .tooManyArguments
  let byOrder (f : Ordering → Bool) := against fun w ↦ .ok (f (Value.order v w))
  let byText (f : List Char → List Char → Bool) := against fun w ↦ do
    return f (← asText w) (← asText v)
  match name with
  | "defined" => alone !v.isUndefined
  | "undefined" => alone v.isUndefined
  | "none" => alone (match v with | .none => true | _ => false)
  | "true" => alone (match v with | .bool true => true | _ => false)
  | "false" => alone (match v with | .bool false => true | _ => false)
  | "boolean" => alone (match v with | .bool _ => true | _ => false)
  | "string" => alone (match v with | .text _ _ => true | _ => false)
  | "number" => alone (match v with | .number _ => true | _ => false)
  | "integer" => alone (match v with | .number _ => true | _ => false)
  | "sequence" => alone (match v with | .list _ => true | _ => false)
  | "iterable" => alone (match v.items with | .ok _ => true | .error _ => false)
  | "mapping" => alone false
  | "odd" => alone (parity 1 v)
  | "even" => alone (parity 0 v)
  | "safe" => alone (match v with | .text _ markup => markup | _ => false)
  | "escaped" => alone (match v with | .text _ markup => markup | _ => false)
  | "in" => against fun w ↦ Value.contained v w
  | "eq" => byOrder (· == .eq)
  | "equalto" => byOrder (· == .eq)
  | "ne" => byOrder (· != .eq)
  | "lt" => byOrder (· == .lt)
  | "lessthan" => byOrder (· == .lt)
  | "le" => byOrder (· != .gt)
  | "gt" => byOrder (· == .gt)
  | "greaterthan" => byOrder (· == .gt)
  | "ge" => byOrder (· != .lt)
  | "startingwith" => byText Text.startsWith
  | "endingwith" => byText Text.endsWith
  | _ => .error .unknownTest

/-! ## Functions -/

/-- The greatest number of items that `range` makes. -/
def longestRange : Nat := 100000

/-- The numbers from `low` in steps, as long as they are below `high`. -/
def rangeOf (low high step : Int) : Except RenderError Value :=
  if step ≤ 0 then .error .invalidOperation
  else
    let n := ((high - low + step - 1) / step).toNat
    if longestRange < n then .error .invalidOperation
    else .ok (.list ((List.range n).map fun (k : Nat) ↦ .number (low + k * step)))

def applyFunction (name : String) (args : List Value) : Except RenderError Value :=
  match name with
  | "range" =>
    match args with
    | [.number high] => rangeOf 0 high 1
    | [.number low, .number high] => rangeOf low high 1
    | [.number low, .number high, .number step] => rangeOf low high step
    | [] => .error .missingArgument
    | _ => .error .invalidOperation
  | _ => .error .unknownFunction

end StyleGuide.Template
