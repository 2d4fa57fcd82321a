import StyleGuide.Path

/-!
# Name patterns

Patterns over path texts. `?` stands for one character, `*` for any number of them, `[ab-c]` for a
listed one and `[!ab-c]` for one that is not listed; `**` must be a whole component and stands for
directories at any depth. There are no escapes. A pattern that breaks these rules is invalid.
-/

namespace StyleGuide.Pattern

/-- An entry of a character list. -/
inductive Listed where
  | single (c : Char)
  | between (low high : Char)
deriving DecidableEq, Repr

def Listed.covers : Listed → Char → Bool
  | single a, c => a == c
  | between low high, c => low ≤ c && c ≤ high

/-- A piece of a name pattern. -/
inductive Token where
  | char (c : Char)
  | anyChar
  | anyText
  /-- Directories at any depth. -/
  | anyDepth
  | oneOf (entries : List Listed)
  | noneOf (entries : List Listed)
deriving DecidableEq, Repr

def listed : List Char → List Listed
  | a :: '-' :: b :: rest => .between a b :: listed rest
  | a :: rest => .single a :: listed rest
  | [] => []

/-- A bracket list after its `[`: the token and what follows the closing bracket. The first listed
character may be a bracket itself. -/
def bracket? : List Char → Option (Token × List Char)
  | '!' :: first :: rest =>
    let more := rest.takeWhile (· != ']')
    if more.length < rest.length then
      some (.noneOf (listed (first :: more)), rest.drop (more.length + 1))
    else none
  | '!' :: [] => none
  | first :: rest =>
    let more := rest.takeWhile (· != ']')
    if more.length < rest.length then
      some (.oneOf (listed (first :: more)), rest.drop (more.length + 1))
    else none
  | [] => none

theorem length_bracket?_lt {cs rest : List Char} {t : Token} (h : bracket? cs = some (t, rest)) :
    rest.length < cs.length := by
  unfold bracket? at h
  split at h
  · simp only [Option.ite_none_right_eq_some, Option.some.injEq, Prod.mk.injEq] at h
    rw [← h.2.2]
    simp only [List.length_drop, List.length_cons]
    omega
  · simp at h
  · simp only [Option.ite_none_right_eq_some, Option.some.injEq, Prod.mk.injEq] at h
    rw [← h.2.2]
    simp only [List.length_drop, List.length_cons]
    omega
  · simp at h

/-- The tokens of a pattern, given whether it is about to start a component. -/
def tokensFrom (fresh : Bool) : List Char → Option (List Token)
  | [] => some []
  | '?' :: rest => (tokensFrom false rest).map (.anyChar :: ·)
  | '*' :: '*' :: '*' :: _ => none
  | '*' :: '*' :: '/' :: rest =>
    if fresh then (tokensFrom true rest).map (.anyDepth :: ·) else none
  | ['*', '*'] => if fresh then some [.anyDepth] else none
  | '*' :: '*' :: _ :: _ => none
  | '*' :: rest => (tokensFrom false rest).map (.anyText :: ·)
  | '[' :: rest =>
    match _h : bracket? rest with
    | some found => (tokensFrom false found.2).map (found.1 :: ·)
    | none => none
  | c :: rest => (tokensFrom (c = '/') rest).map (.char c :: ·)
termination_by cs => cs.length
decreasing_by
  all_goals first
    | (simp only [List.length_cons]; omega)
    | (have h := length_bracket?_lt _h; simp only [List.length_cons]; omega)

def tokens? (cs : List Char) : Option (List Token) :=
  tokensFrom true cs

/-- Whether a token that stands for one character stands for `c`. -/
def Token.covers (t : Token) (c : Char) : Bool :=
  match t with
  | char a => a == c
  | anyChar => true
  | oneOf entries => entries.any (·.covers c)
  | noneOf entries => !entries.any (·.covers c)
  | anyText => false
  | anyDepth => false

/-- A token that stands for any number of characters. -/
def Token.isOpen (t : Token) : Bool :=
  t == anyText || t == anyDepth

/-- Whether tokens match a whole name. -/
def covers : List Token → List Char → Bool
  | [], cs => cs.isEmpty
  | t :: ts, [] => t.isOpen && covers ts []
  | t :: ts, c :: cs =>
    if t.isOpen then covers ts (c :: cs) || covers (t :: ts) cs
    else t.covers c && covers ts cs
termination_by ts cs => ts.length + cs.length

/-- The characters of tokens that stand for themselves only. -/
def literal? : List Token → Option (List Char)
  | [] => some []
  | .char c :: ts => (literal? ts).map (c :: ·)
  | _ :: _ => none

end StyleGuide.Pattern
