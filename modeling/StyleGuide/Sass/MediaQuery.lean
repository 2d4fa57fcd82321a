import StyleGuide.Sass.Expr
import StyleGuide.Sass.Selector

/-!
# Media queries

The conditions under which rules apply: a medium, possibly with a modifier, and features in
parentheses. Where one list of queries stands inside another, both have to hold; `mergeAll` writes
that as one list if the language of queries can say it.
-/

namespace StyleGuide.Sass

/-- One media query. `conjunction` says whether all conditions have to hold or one of them. -/
structure MediaQuery where
  modifier : Option (List Char)
  medium : Option (List Char)
  conditions : List (List Char)
  conjunction : Bool
deriving DecidableEq, Repr

namespace MediaQuery

/-! ## Pieces

What stands in parentheses is an expression, or a name and an expression. -/

def featurePieces (inner : List Char) : Except Fault (List Piece) :=
  if inner.any fun c ↦ c == '<' || c == '>' || c == '=' || c == '(' then
    return consPlain ['('] ((← piecesOf inner) ++ [.plain [')']])
  else do
    let (name, rest) ← Expr.read inner
    match rest with
    | [] => return [.plain ['('], .code name, .plain [')']]
    | ':' :: rest =>
      let value ← Expr.ofText rest
      return [.plain ['('], .code name, .plain [':', ' '], .code value, .plain [')']]
    | c :: _ => throw (.unexpected c)

/-- The pieces of a list of queries; `fuel` bounds the parentheses. -/
def piecesFrom (fuel : Nat) (cs : List Char) : Except Fault (List Piece) :=
  let outside := cs.takeWhile (· != '(')
  match fuel, cs.drop outside.length with
  | fuel + 1, '(' :: rest =>
    match Selector.closedLength? '(' ')' 0 rest with
    | none => .error .endOfSource
    | some n => do
      let before ← piecesOf outside
      let feature ← featurePieces (trimSpaces (rest.take (n - 1)))
      return before ++ feature ++ (← piecesFrom fuel (rest.drop n))
  | _, _ => piecesOf cs

def pieces (cs : List Char) : Except Fault (List Piece) :=
  if cs = [] then .error (.expected "media query") else piecesFrom cs.length cs

/-! ## Reading -/

/-- The words of a query: names, and conditions in parentheses. -/
def words (cs : List Char) : Except Fault (List (List Char)) :=
  match cs with
  | [] => .ok []
  | c :: rest =>
    if isSpace c then words rest
    else if c = '(' then
      match Selector.closedLength? '(' ')' 0 rest with
      | none => .error .endOfSource
      | some n => return (c :: rest.take n) :: (← words (rest.drop n))
    else
      let more := rest.takeWhile fun d ↦ !isSpace d && d != '('
      return (c :: more) :: (← words (rest.drop more.length))
termination_by cs.length
decreasing_by all_goals simp only [List.length_cons, List.length_drop]; omega

def isCondition (word : List Char) : Bool :=
  word.head? == some '('

def isWord (text : String) (word : List Char) : Bool :=
  word.map Char.toLower == text.toList

def conditionsJoined? (joint : String) : List (List Char) → Option (List (List Char))
  | [] => none
  | [c] => if isCondition c then some [c] else none
  | c :: j :: rest =>
    if isCondition c && isWord joint j then (conditionsJoined? joint rest).map (c :: ·) else none

def conditionsAfter? : List (List Char) → Option (List (List Char))
  | [] => some []
  | joint :: rest =>
    if !isWord "and" joint then none
    else match rest with
      | [n, c] =>
        if isWord "not" n && isCondition c then some ["(not ".toList ++ c ++ [')']]
        else conditionsJoined? "and" rest
      | _ => conditionsJoined? "and" rest

def ofWords? : List (List Char) → Option MediaQuery
  | [] => none
  | w :: rest =>
    if isCondition w then
      match conditionsJoined? "and" (w :: rest) with
      | some conditions => some ⟨none, none, conditions, true⟩
      | none => (conditionsJoined? "or" (w :: rest)).map fun conditions ↦
        ⟨none, none, conditions, false⟩
    else match rest with
      | [] => some ⟨none, some w, [], true⟩
      | v :: rest =>
        if isWord "not" w && isCondition v then
          if rest = [] then some ⟨none, none, ["(not ".toList ++ v ++ [')']], true⟩ else none
        else if isCondition v then none
        else if isWord "and" v then
          (conditionsAfter? (v :: rest)).map fun conditions ↦ ⟨none, some w, conditions, true⟩
        else
          (conditionsAfter? rest).map fun conditions ↦ ⟨some w, some v, conditions, true⟩

def ofText (cs : List Char) : Except Fault (List MediaQuery) :=
  (Selector.splitCommas [] cs).mapM fun part ↦ do
    match ofWords? (← words part) with
    | some query => return query
    | none => throw (.expected "media query")

/-! ## Writing -/

/-- A query as it is written, the same in both styles. -/
def text (q : MediaQuery) : List Char :=
  let medium := match q.modifier, q.medium with
    | some modifier, some medium => modifier ++ ' ' :: medium
    | _, some medium => medium
    | _, none => []
  let conditions := match q.conditions with
    | [c] =>
      match Text.stripLead? "(not ".toList c with
      | some inner => "not ".toList ++ inner.dropLast
      | none => c
    | cs => (if q.conjunction then " and ".toList else " or ".toList).intercalate cs
  if medium ≠ [] ∧ conditions ≠ [] then medium ++ " and ".toList ++ conditions
  else medium ++ conditions

/-! ## Merging -/

/-- What two queries come to together. -/
inductive Merged where
  /-- They exclude each other. -/
  | nothing
  /-- No query says it. -/
  | inexpressible
  | one (query : MediaQuery)

def isForAll (q : MediaQuery) : Bool :=
  match q.medium with
  | none => true
  | some medium => isWord "all" medium

def isNegated (q : MediaQuery) : Bool :=
  q.modifier.any (isWord "not")

def sameMedium (p q : MediaQuery) : Bool :=
  p.medium.map (·.map Char.toLower) == q.medium.map (·.map Char.toLower)

def merge (p q : MediaQuery) : Merged :=
  let within (few many : List (List Char)) : Bool := few.all many.contains
  let both := p.conditions ++ q.conditions
  if !p.conjunction || !q.conjunction then .inexpressible
  else if p.medium.isNone && q.medium.isNone then .one ⟨none, none, both, true⟩
  else if isNegated p != isNegated q then
    let (negative, positive) := if isNegated p then (p, q) else (q, p)
    if sameMedium p q then
      if within negative.conditions positive.conditions then .nothing else .inexpressible
    else if isForAll p || isForAll q then .inexpressible
    else .one positive
  else if isNegated p then
    let (few, many) := if q.conditions.length < p.conditions.length then (q, p) else (p, q)
    if sameMedium p q && within few.conditions many.conditions then
      .one ⟨p.modifier, p.medium, many.conditions, true⟩
    else .inexpressible
  else if isForAll p then
    .one ⟨q.modifier, if isForAll q && p.medium.isNone then none else q.medium, both, true⟩
  else if isForAll q then .one ⟨p.modifier, p.medium, both, true⟩
  else if !sameMedium p q then .nothing
  else .one ⟨p.modifier <|> q.modifier, p.medium, both, true⟩

/-- The queries for what a query of each list asks for; none if that cannot be said. -/
def mergeAll (ps qs : List MediaQuery) : Option (List MediaQuery) :=
  (ps.flatMap fun p ↦ qs.map fun q ↦ merge p q).foldlM (fun found m ↦
    match m with
    | .nothing => some found
    | .inexpressible => none
    | .one query => some (found ++ [query])) []

end MediaQuery

end StyleGuide.Sass
