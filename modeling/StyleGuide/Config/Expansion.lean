import StyleGuide.Text.Find
import StyleGuide.Text.Letter

/-!
# Variables in configured texts

Replaces `$NAME`, `${NAME}` and `${NAME:-default}` by the value of the variable, `$$` by a dollar
sign, and a `~` at the front that ends there or is followed by `/` by the home directory. Nothing
that is put in is expanded again, and a `~` that only a variable brought to the front stays.
-/

namespace StyleGuide.Config

/-- The variables that a text may name. -/
structure Environment where
  values : List (String × String)

namespace Environment

def find (env : Environment) (name : String) : Option String :=
  env.values.lookup name

def home (env : Environment) : Option String :=
  env.find "HOME"

end Environment

/-- Characters of names outside braces. -/
def isNameChar (c : Char) : Bool :=
  Text.isAlphanumeric c || c == '_'

/-- The inside of braces: the name and the default, if it gives one. A default needs a name in
front of it. -/
def nameAndDefault (inside : List Char) : List Char × Option (List Char) :=
  match Text.indexOf? [':', '-'] inside with
  | none => (inside, none)
  | some 0 => (inside, none)
  | some n => (inside.take n, some (inside.drop (n + 2)))

/-- What is said of a variable that has no value. -/
def unsetMessage (name : String) : String :=
  "error looking key '" ++ name ++ "' up: environment variable not found"

def valueOf (env : Environment) (name : List Char) (default : Option (List Char)) :
    Except String (List Char) :=
  match env.find (String.ofList name), default with
  | some value, _ => .ok value.toList
  | none, some d => .ok d
  | none, none => .error (unsetMessage (String.ofList name))

/-- A text with its variables replaced. -/
def expandVariables (env : Environment) : List Char → Except String (List Char)
  | [] => .ok []
  | c :: cs =>
    if c = '$' then
      match cs with
      | [] => .ok ['$']
      | d :: rest =>
        if d = '{' then
          let inside := rest.takeWhile (· != '}')
          if inside.length < rest.length then do
            let parts := nameAndDefault inside
            let value ← valueOf env parts.1 parts.2
            let more ← expandVariables env (rest.drop (inside.length + 1))
            return value ++ more
          else do
            let more ← expandVariables env rest
            return '$' :: '{' :: more
        else if isNameChar d then do
          let name := (d :: rest).takeWhile isNameChar
          let value ← valueOf env name none
          let more ← expandVariables env (rest.drop (name.length - 1))
          return value ++ more
        else if d = '$' then do
          let more ← expandVariables env rest
          return '$' :: more
        else do
          let more ← expandVariables env (d :: rest)
          return '$' :: more
    else do
      let more ← expandVariables env cs
      return c :: more
termination_by cs => cs.length
decreasing_by all_goals simp only [List.length_cons, List.length_drop]; omega

/-- A text with the home directory in place of a `~` at its front. -/
def expandHome (env : Environment) (cs : List Char) : List Char :=
  match cs, env.home with
  | ['~'], some home => home.toList
  | '~' :: '/' :: rest, some home => home.toList ++ '/' :: rest
  | cs, _ => cs

/-- A text with its variables and its home directory replaced. -/
def expand (env : Environment) (text : String) : Except String String := do
  let expanded ← expandVariables env text.toList
  let whole := if text.toList.head? = some '~' then expandHome env expanded else expanded
  return String.ofList whole

end StyleGuide.Config
