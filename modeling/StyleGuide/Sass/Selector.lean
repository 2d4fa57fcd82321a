import StyleGuide.Sass.Outline
import StyleGuide.Options

/-!
# Selectors

A selector is a list of alternatives, each of them compounds with combinators between. A compound
may begin with `&`, which stands for the enclosing rule's selector; resolving puts that selector in
its place, or in front where there is no `&`.
-/

namespace StyleGuide.Sass

/-- Simple selectors that hold of one element. -/
structure Compound where
  /-- What follows `&` directly, if the compound begins with it. -/
  parent : Option (List Char)
  simples : List (List Char)
deriving DecidableEq, Repr

/-- A step of an alternative; two compounds in a row are an element and one inside it. -/
inductive SelectorStep where
  | compound (c : Compound)
  | combinator (c : Char)
deriving DecidableEq, Repr

/-- One alternative, and whether it starts a line. -/
structure Alternative where
  steps : List SelectorStep
  startsLine : Bool
deriving DecidableEq, Repr

abbrev Selector := List Alternative

namespace Selector

/-! ## Reading -/

def nameLength : List Char → Nat
  | '\\' :: _ :: cs => 2 + nameLength cs
  | c :: cs => if isNameChar c then 1 + nameLength cs else 0
  | [] => 0

def closedLength? (opening closing : Char) (depth : Nat) : List Char → Option Nat
  | [] => none
  | c :: cs =>
    if c = closing then
      match depth with
      | 0 => some 1
      | depth + 1 => (closedLength? opening closing depth cs).map (· + 1)
    else (closedLength? opening closing (if c = opening then depth + 1 else depth) cs).map (· + 1)

def isName (cs : List Char) : Bool :=
  cs ≠ [] && nameLength cs == cs.length && !(cs.head?.any Char.isDigit)

/-- An attribute selector without its brackets, in its shortest form: no blanks, and no quotes
around a name. -/
def attributeText? (cs : List Char) : Option (List Char) :=
  let body := trimSpaces cs
  let name := body.takeWhile fun c ↦ isNameChar c || c == '\\' || c == ':'
  let rest := skipSpaces (body.drop name.length)
  let value (relation more : List Char) : Option (List Char) :=
    let target := skipSpaces more
    match target with
    | [] => none
    | q :: inner =>
      if q = '"' ∨ q = '\'' then
        let text := inner.takeWhile (· != q)
        let flag := trimSpaces (inner.drop (text.length + 1))
        if inner.length ≤ text.length then none
        else
          let bare := isName text && !Text.startsWith ['-', '-'] text
          let written := if bare then text else '"' :: text ++ ['"']
          some (name ++ relation ++ written ++ (if flag = [] then [] else ' ' :: flag))
      else
        let text := target.takeWhile (!isSpace ·)
        let flag := trimSpaces (target.drop text.length)
        if isName text then
          some (name ++ relation ++ text ++ (if flag = [] then [] else ' ' :: flag))
        else none
  if name = [] then none
  else match rest with
    | [] => some name
    | '=' :: more => value ['='] more
    | c :: '=' :: more => if ['~', '|', '^', '$', '*'].contains c then value [c, '='] more else none
    | _ => none

def simple? (cs : List Char) : Option (List Char × Nat) :=
  let named (lead : List Char) (rest : List Char) : Option (List Char × Nat) :=
    let n := nameLength rest
    if n = 0 then none else some (lead ++ rest.take n, lead.length + n)
  match cs with
  | '*' :: _ => some (['*'], 1)
  | '.' :: rest => named ['.'] rest
  | '#' :: rest => named ['#'] rest
  | '%' :: rest => named ['%'] rest
  | '[' :: rest => do
    let n ← closedLength? '[' ']' 0 rest
    let text ← attributeText? (rest.take (n - 1))
    return ('[' :: text ++ [']'], n + 1)
  | ':' :: rest => do
    let lead : List Char := if rest.head? = some ':' then [':', ':'] else [':']
    let (name, n) ← named lead (cs.drop lead.length)
    match cs.drop n with
    | '(' :: args =>
      let m ← closedLength? '(' ')' 0 args
      let inner := trimSpaces (args.take (m - 1))
      let inner := if Text.startsWith ":nth-".toList name then inner.filter (!isSpace ·) else inner
      return (name ++ '(' :: inner ++ [')'], n + 1 + m)
    | _ => return (name, n)
  | _ => named [] cs

/-- The simple selectors at the front of a text, and what follows them. -/
def simples (cs : List Char) : List (List Char) × List Char :=
  match simple? cs with
  | some (text, n + 1) =>
    match cs with
    | [] => ([], [])
    | _ :: rest =>
      let (more, after) := simples (rest.drop n)
      (text :: more, after)
  | _ => ([], cs)
termination_by cs.length
decreasing_by simp only [List.length_cons, List.length_drop]; omega

theorem length_simples_le (cs : List Char) : (simples cs).2.length ≤ cs.length := by
  fun_induction simples cs with
  | case1 => simp
  | case2 text n c rest more after h _ ih =>
    rw [h] at ih
    simp only [List.length_drop, List.length_cons] at *
    omega
  | case3 => simp

def steps (cs : List Char) : Except Fault (List SelectorStep) :=
  match cs with
  | [] => .ok []
  | c :: rest =>
    if isSpace c then steps rest
    else if ['>', '+', '~'].contains c then return .combinator c :: (← steps rest)
    else if c = '&' then
      let n := nameLength rest
      let compound : Compound := ⟨some (rest.take n), (simples (rest.drop n)).1⟩
      return .compound compound :: (← steps (simples (rest.drop n)).2)
    else if (simples (c :: rest)).2.head? = some '&' then .error (.unexpected '&')
    else if (simples (c :: rest)).2.length < (c :: rest).length then
      return .compound ⟨none, (simples (c :: rest)).1⟩ :: (← steps (simples (c :: rest)).2)
    else .error (.unexpected c)
termination_by cs.length
decreasing_by
  · simp
  · simp
  · have := length_simples_le (rest.drop (nameLength rest))
    simp only [List.length_drop, List.length_cons] at *
    omega
  · assumption

def splitCommas (pending : List Char) : List Char → List (List Char)
  | [] => [[]]
  | c :: cs =>
    if c = ',' ∧ pending = [] then [] :: splitCommas pending cs
    else
      let pending :=
        if pending.head? = some c then pending.tail
        else if pending.head? = some '"' ∨ pending.head? = some '\'' then pending
        else if c = '"' ∨ c = '\'' then c :: pending
        else if c = '(' then ')' :: pending
        else if c = '[' then ']' :: pending
        else pending
      match splitCommas pending cs with
      | [] => [[c]]
      | s :: ss => (c :: s) :: ss

def ofText (cs : List Char) : Except Fault Selector :=
  (splitCommas [] cs).mapM fun part ↦ do
    let steps ← steps part
    if steps = [] then throw (.expected "selector")
    return ⟨steps, (part.takeWhile isSpace).contains '\n'⟩

/-! ## Resolving -/

def SelectorStep.refersToParent : SelectorStep → Bool
  | .compound c => c.parent.isSome
  | .combinator _ => false

/-- Lengthens the last compound of a parent by what stands beside `&`. -/
def extended (parent : List SelectorStep) (suffix : List Char) (more : List (List Char)) :
    Except Fault (List SelectorStep) :=
  match parent.reverse with
  | .compound c :: before =>
    let lengthened := match c.simples.reverse with
      | last :: others => (others.reverse ++ [last ++ suffix])
      | [] => [suffix]
    .ok (before.reverse ++ [.compound ⟨none, lengthened ++ more⟩])
  | _ => .error .noParent

/-- Puts one step behind every alternative found so far, and the parents in the place of `&`. -/
def resolveStep (parents : Selector) (found : Selector) (step : SelectorStep) :
    Except Fault Selector :=
  match step with
  | .compound ⟨some suffix, more⟩ =>
    found.foldlM (fun all a ↦ do
      let here ← parents.mapM fun p ↦ do
        let steps ← extended p.steps suffix more
        return (⟨a.steps ++ steps, a.startsLine || p.startsLine⟩ : Alternative)
      return all ++ here) []
  | step => .ok (found.map fun a ↦ ⟨a.steps ++ [step], a.startsLine⟩)

/-- An alternative inside a rule. Where `&` stands, only parents tell whether a line starts. -/
def resolveIn (parents : Selector) (a : Alternative) : Except Fault Selector :=
  if a.steps.any SelectorStep.refersToParent then
    a.steps.foldlM (resolveStep parents) [⟨[], false⟩]
  else .ok (parents.map fun p ↦ ⟨p.steps ++ a.steps, p.startsLine || a.startsLine⟩)

/-- The first items of some lists, then their second items, and so on. -/
def interleave {α : Type} (lists : List (List α)) : List α :=
  (List.range ((lists.map List.length).foldl max 0)).flatMap fun i ↦ lists.filterMap (·[i]?)

def resolve (parents : Option Selector) (s : Selector) : Except Fault Selector :=
  match parents with
  | some parents => return interleave (← s.mapM (resolveIn parents))
  | none =>
    if s.any fun a ↦ a.steps.any SelectorStep.refersToParent then .error .noParent else .ok s

/-! ## Writing -/

/-- An alternative with a placeholder stands for no element. -/
def isPlaceholder (a : Alternative) : Bool :=
  a.steps.any fun
    | .compound c => c.simples.any fun s ↦ s.head? == some '%'
    | .combinator _ => false

def visible (s : Selector) : Selector :=
  s.filter fun a ↦ !isPlaceholder a

/-- The steps of an alternative as they are written; `first` says that nothing precedes, and
`afterCombinator` that a combinator does. -/
def stepsText (style : OutputStyle) (first afterCombinator : Bool) :
    List SelectorStep → List Char
  | [] => []
  | .combinator c :: rest =>
    (if first ∨ style = .compressed then [] else [' ']) ++ c :: stepsText style false true rest
  | .compound c :: rest =>
    (if first ∨ (afterCombinator ∧ style = .compressed) then [] else [' ']) ++
      c.simples.flatten ++ stepsText style false false rest

def alternativeText (style : OutputStyle) (a : Alternative) : List Char :=
  stepsText style true false a.steps

/-- A selector as it is written. Where space is not short, alternatives that start a line in the
source do so here, with the given indentation. -/
def text (style : OutputStyle) (indentation : List Char) (s : Selector) : List Char :=
  match s.visible with
  | [] => []
  | first :: rest =>
    alternativeText style first ++ rest.flatMap fun a ↦
      let gap := match style with
        | .compressed => []
        | .expanded => if a.startsLine then '\n' :: indentation else [' ']
      ',' :: gap ++ alternativeText style a

end Selector

end StyleGuide.Sass
