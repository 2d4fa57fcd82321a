import StyleGuide.Toml.Quoted
import StyleGuide.Toml.Scalar

/-!
# Reading TOML

Reads a document line by line into its table. A line is a header, an array header, or a key with a
value; blanks and comments may stand around them. A document with any fault has no table at all.
-/

namespace StyleGuide.Toml

def skipGap (cs : List Char) : List Char :=
  cs.dropWhile fun c ↦ c == ' ' || c == '\t'

def skipLines (inComment : Bool) : List Char → List Char
  | [] => []
  | c :: cs =>
    if c = '\n' then skipLines false cs
    else if c = '\r' ∧ cs.head? = some '\n' then skipLines false cs
    else if inComment then if isPlain c then skipLines true cs else c :: cs
    else if c = ' ' ∨ c = '\t' then skipLines false cs
    else if c = '#' then skipLines true cs
    else c :: cs

def endLine? (cs : List Char) : Option (List Char) :=
  let rest := match skipGap cs with
    | '#' :: comment => comment.dropWhile isPlain
    | rest => rest
  match rest with
  | [] => some []
  | rest => if lineEndLength rest = 0 then none else some (rest.drop (lineEndLength rest))

def isKeyChar (c : Char) : Bool :=
  c.isAlphanum || c == '_' || c == '-'

def keyName? (cs : List Char) : Option (String × List Char) :=
  match cs with
  | '"' :: rest => (basic? rest).map fun r ↦ (String.ofList r.1, r.2)
  | '\'' :: rest => (literal? rest).map fun r ↦ (String.ofList r.1, r.2)
  | cs =>
    let name := cs.takeWhile isKeyChar
    if name.isEmpty then none else some (String.ofList name, cs.drop name.length)

def key? : Nat → List Char → Option (List String × List Char)
  | 0, _ => none
  | fuel + 1, cs => do
    let (name, rest) ← keyName? (skipGap cs)
    match skipGap rest with
    | '.' :: rest =>
      let (names, rest) ← key? fuel rest
      return (name :: names, rest)
    | rest => return ([name], rest)

def addEntry (names : List String) (item : Item) (t : Table) : Option Table :=
  match names.getLast? with
  | some last => t.addDotted item last true .dotted names.dropLast
  | none => none

mutual

def value? : Nat → List Char → Option (Item × List Char)
  | 0, _ => none
  | fuel + 1, cs =>
    match cs with
    | '[' :: rest => (items? fuel (skipLines false rest)).map fun r ↦ (.array r.1, r.2)
    | '{' :: rest =>
      (entries? fuel [] (skipLines false rest)).map fun r ↦ (.table .inline r.1, r.2)
    | '"' :: _ => (quoted? cs).map fun r ↦ (.text (String.ofList r.1), r.2)
    | '\'' :: _ => (quoted? cs).map fun r ↦ (.text (String.ofList r.1), r.2)
    | cs =>
      (scalar? (cs.take (wordLength cs))).map fun kind ↦ (.scalar kind, cs.drop (wordLength cs))

def items? : Nat → List Char → Option (List Item × List Char)
  | 0, _ => none
  | fuel + 1, cs =>
    match cs with
    | ']' :: rest => some ([], rest)
    | cs => do
      let (item, rest) ← value? fuel cs
      match skipLines false rest with
      | ',' :: rest =>
        let (items, rest) ← items? fuel (skipLines false rest)
        return (item :: items, rest)
      | ']' :: rest => return ([item], rest)
      | _ => none

def entries? : Nat → Table → List Char → Option (Table × List Char)
  | 0, _, _ => none
  | fuel + 1, t, cs =>
    match cs with
    | '}' :: rest => some (t, rest)
    | cs => do
      let (names, rest) ← key? cs.length cs
      match rest with
      | '=' :: rest =>
        let (item, rest) ← value? fuel (skipGap rest)
        let t ← addEntry names item t
        match skipLines false rest with
        | ',' :: rest => entries? fuel t (skipLines false rest)
        | '}' :: rest => return (t, rest)
        | _ => none
      | _ => none

end

def close? (piece : List Char) (cs : List Char) : Option (List Char) :=
  (Text.stripLead? piece cs).bind endLine?

def openAt (change : String → Table → Option Table) (names : List String) (t : Table) :
    Option Table :=
  match names.getLast? with
  | some last => t.within (change last) names.dropLast
  | none => none

/-- Reads the lines of a document, given the header they stand under. -/
def lines? : Nat → List String → Table → List Char → Option Table
  | 0, _, _, _ => none
  | fuel + 1, header, t, cs =>
    match skipLines false cs with
    | [] => some t
    | '[' :: '[' :: rest => do
      let (names, rest) ← key? rest.length rest
      let rest ← close? [']', ']'] rest
      lines? fuel names (← openAt Table.openElement names t) rest
    | '[' :: rest => do
      let (names, rest) ← key? rest.length rest
      let rest ← close? [']'] rest
      lines? fuel names (← openAt Table.openHeader names t) rest
    | cs => do
      let (names, rest) ← key? cs.length cs
      match rest with
      | '=' :: rest =>
        let (item, rest) ← value? (2 * rest.length + 2) (skipGap rest)
        let rest ← endLine? rest
        lines? fuel header (← t.within (addEntry names item) header) rest
      | _ => none

/-- The table of a document; a byte order mark in front is skipped. -/
def document? (source : String) : Option Table :=
  let cs := match source.toList with
    | '\ufeff' :: rest => rest
    | cs => cs
  lines? (cs.length + 1) [] [] cs

end StyleGuide.Toml
