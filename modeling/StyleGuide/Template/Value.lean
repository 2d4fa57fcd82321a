import StyleGuide.Template.Tree

/-!
# Template values

What expressions evaluate to, and the operators on values. A name that is not bound has the value
`undefined`, which may be tested and replaced but neither printed, nor decided on, nor looped over,
nor asked for a part.
-/

namespace StyleGuide.Template

inductive Value where
  | undefined
  /-- An inline `if` without `else` that does not apply; it prints as nothing. -/
  | absent
  | none
  | bool (b : Bool)
  | number (n : Int)
  /-- Text, and whether it is markup already and need not be escaped. -/
  | text (cs : List Char) (markup : Bool)
  | list (items : List Value)
  /-- The state of a loop: the items and the index of the current one. -/
  | loop (items : List Value) (index : Nat)
deriving Inhabited, Repr

namespace Value

def plain (cs : List Char) : Value := text cs false

def ofString (s : String) : Value := plain s.toList

/-- Whether the value is none at all. -/
def isUndefined : Value → Bool
  | undefined => true
  | absent => true
  | _ => false

/-! ## Printing -/

def quote (cs : List Char) : List Char :=
  let escape (c : Char) : List Char :=
    match c with
    | '"' => ['\\', '"']
    | '\\' => ['\\', '\\']
    | '\n' => ['\\', 'n']
    | '\r' => ['\\', 'r']
    | '\t' => ['\\', 't']
    | c => [c]
  '"' :: cs.flatMap escape ++ ['"']

def showSingle : Value → List Char
  | undefined => []
  | absent => []
  | none => "None".toList
  | bool true => "True".toList
  | bool false => "False".toList
  | number n => (toString n).toList
  | text cs _ => cs
  | list _ => []
  | loop items index => s!"<loop {index}/{items.length}>".toList

mutual

def shown : Value → List Char
  | list items => '[' :: shownItems items ++ [']']
  | v => v.showSingle

def shownItems : List Value → List Char
  | [] => []
  | v :: [] => shownItem v
  | v :: vs => shownItem v ++ ", ".toList ++ shownItems vs

def shownItem : Value → List Char
  | list items => '[' :: shownItems items ++ [']']
  | text cs _ => quote cs
  | undefined => "undefined".toList
  | v => v.showSingle

end

/-! ## Deciding and comparing -/

/-- Whether a value counts as true; an undefined one cannot be decided on. -/
def truth : Value → Except RenderError Bool
  | undefined => .error .undefinedValue
  | absent => .ok false
  | none => .ok false
  | bool b => .ok b
  | number n => .ok (n != 0)
  | text cs _ => .ok !cs.isEmpty
  | list items => .ok !items.isEmpty
  | loop _ _ => .ok true

def number? : Value → Option Int
  | number n => some n
  | bool b => some (if b then 1 else 0)
  | _ => .none

def rank : Value → Nat
  | undefined => 0
  | absent => 0
  | none => 1
  | bool _ => 2
  | number _ => 3
  | text _ _ => 4
  | list _ => 5
  | loop _ _ => 6

mutual

/-- How two values compare; numbers with truth values, all others by kind first. -/
def order : Value → Value → Ordering
  | number a, b => match b.number? with
    | some n => compare a n
    | .none => compare (number a).rank b.rank
  | bool a, b => match b.number? with
    | some n => compare (if a then 1 else 0) n
    | .none => compare (bool a).rank b.rank
  | text a _, b => match b with
    | text c _ => if a = c then .eq else if a ≤ c then .lt else .gt
    | b => compare 4 b.rank
  | list as, b => match b with
    | list bs => orderAll as bs
    | b => compare 5 b.rank
  | a, b => compare a.rank b.rank

def orderAll : List Value → List Value → Ordering
  | [], [] => .eq
  | [], _ :: _ => .lt
  | _ :: _, [] => .gt
  | a :: as, b :: bs => match order a b with
    | .eq => orderAll as bs
    | o => o

end

/-- Equality of values; text is compared without regard to whether it is markup. -/
def same (a b : Value) : Bool :=
  order a b == .eq

/-! ## Operators -/

def arithmetic (f : Int → Int → Except RenderError Int) (a b : Value) : Except RenderError Value :=
  match a.number?, b.number? with
  | some m, some n => (f m n).map number
  | _, _ => .error .invalidOperation

def dividing (f : Int → Int → Int) (m n : Int) : Except RenderError Int :=
  if n = 0 then .error .invalidOperation else .ok (f m n)

/-- Whether `a` is a part of `b`. -/
def contained (a b : Value) : Except RenderError Bool :=
  match b with
  | undefined => .error .undefinedValue
  | absent => .ok false
  | text cs _ => .ok (Text.occursIn a.shown cs)
  | list items => .ok (items.any (same a))
  | _ => .error .invalidOperation

def apply (op : Operator) (a b : Value) : Except RenderError Value :=
  match op with
  | .add =>
    match a, b with
    | text c _, text d _ => .ok (plain (c ++ d))
    | list c, list d => .ok (list (c ++ d))
    | a, b => arithmetic (fun m n ↦ .ok (m + n)) a b
  | .subtract => arithmetic (fun m n ↦ .ok (m - n)) a b
  | .multiply =>
    match a, b with
    | text c _, number n =>
      if 0 ≤ n then .ok (plain (List.replicate n.toNat c).flatten) else .error .invalidOperation
    | a, b => arithmetic (fun m n ↦ .ok (m * n)) a b
  | .divide => .error .invalidOperation
  | .floorDivide => arithmetic (dividing Int.ediv) a b
  | .remainder => arithmetic (dividing Int.emod) a b
  | .power => arithmetic (fun m n ↦
      if 0 ≤ n then .ok (Int.pow m n.toNat) else .error .invalidOperation) a b
  | .concat => .ok (plain (a.shown ++ b.shown))
  | .equal => .ok (bool (same a b))
  | .unequal => .ok (bool !(same a b))
  | .less => .ok (bool (order a b == .lt))
  | .lessEqual => .ok (bool (order a b != .gt))
  | .greater => .ok (bool (order a b == .gt))
  | .greaterEqual => .ok (bool (order a b != .lt))
  | .contained => (contained a b).map bool

def negated : Value → Except RenderError Value
  | number n => .ok (number (-n))
  | undefined => .error .undefinedValue
  | _ => .error .invalidOperation

/-! ## Parts -/

def items : Value → Except RenderError (List Value)
  | undefined => .error .undefinedValue
  | absent => .ok []
  | none => .ok []
  | text cs _ => .ok (cs.map fun c ↦ plain [c])
  | list items => .ok items
  | _ => .error .invalidOperation

/-- What a list holds at an index, or nothing; negative indices count from the end. -/
def at? {α : Type} (xs : List α) (n : Int) : Option α :=
  if 0 ≤ n then xs[n.toNat]?
  else if -n ≤ xs.length then xs[(xs.length + n).toNat]? else .none

def item (v key : Value) : Except RenderError Value :=
  if v.isUndefined then .error .undefinedValue
  else match v, key with
    | text cs _, number n => .ok (((at? cs n).map fun c ↦ plain [c]).getD undefined)
    | list items, number n => .ok ((at? items n).getD undefined)
    | _, _ => .ok undefined

/-- A part of a value by its name; only loops have any. -/
def member (v : Value) (name : String) : Except RenderError Value :=
  if v.isUndefined then .error .undefinedValue
  else match v with
    | loop items index =>
      let remaining := items.length - index
      .ok <| match name with
        | "index" => number (index + 1)
        | "index0" => number index
        | "revindex" => number remaining
        | "revindex0" => number (remaining - 1 : Nat)
        | "first" => bool (index == 0)
        | "last" => bool (index + 1 == items.length)
        | "length" => number items.length
        | "depth" => number 1
        | "depth0" => number 0
        | "previtem" => if index = 0 then undefined else (items[index - 1]?).getD undefined
        | "nextitem" => (items[index + 1]?).getD undefined
        | _ => undefined
    | _ => .ok undefined

end Value

end StyleGuide.Template
