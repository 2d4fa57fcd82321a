/-!
# Configuration tables

The value of a TOML document: texts, other scalars, arrays and tables. A table remembers how it
came to be, since that decides what may still be added to it: nothing to an inline table, a header
only once to each table, and dotted keys only to tables that dotted keys made.
-/

namespace StyleGuide.Toml

/-- How a table came to be. -/
inductive Origin where
  | inline
  | header
  /-- A part of a header's name that has no header of its own yet. -/
  | implied
  | dotted
deriving DecidableEq, Repr

inductive Scalar where
  | boolean
  | integer
  | float
  | moment
deriving DecidableEq, Repr

inductive Item where
  | text (s : String)
  | scalar (kind : Scalar)
  | array (items : List Item)
  | table (origin : Origin) (entries : List (String × Item))
  /-- A table for each header in double brackets. -/
  | tables (elements : List (List (String × Item)))

abbrev Table := List (String × Item)

namespace Table

def find (t : Table) (key : String) : Option Item :=
  t.lookup key

def replace (t : Table) (key : String) (item : Item) : Table :=
  t.map fun e ↦ if e.1 = key then (key, item) else e

/-- Changes the table that header names lead to, the last element of an array of tables standing
for the array. Tables on the way that are missing are implied. -/
def within (change : Table → Option Table) : List String → Table → Option Table
  | [], t => change t
  | key :: path, t =>
    match t.find key with
    | none => do
      let inner ← within change path []
      return t ++ [(key, .table .implied inner)]
    | some (.table .inline _) => none
    | some (.table origin inner) => do
      let inner ← within change path inner
      return t.replace key (.table origin inner)
    | some (.tables elements) =>
      match elements.getLast? with
      | none => none
      | some last => do
        let last ← within change path last
        return t.replace key (.tables (elements.dropLast ++ [last]))
    | some _ => none

/-- Opens the table of a header; only an implied table may have been there. -/
def openHeader (key : String) (t : Table) : Option Table :=
  match t.find key with
  | none => some (t ++ [(key, .table .header [])])
  | some (.table .implied inner) => some (t.replace key (.table .header inner))
  | some _ => none

def openElement (key : String) (t : Table) : Option Table :=
  match t.find key with
  | none => some (t ++ [(key, .tables [[]])])
  | some (.tables elements) => some (t.replace key (.tables (elements ++ [[]])))
  | some _ => none

def add (key : String) (item : Item) (t : Table) : Option Table :=
  if (t.find key).isSome then none else some (t ++ [(key, item)])

/-- Adds an entry under a dotted key, given as its first names and the last one. The table that
takes the entry must be one that dotted keys made. -/
def addDotted (item : Item) (last : String) (outermost : Bool) :
    Origin → List String → Table → Option Table
  | origin, [], t => if outermost || origin = .dotted then t.add last item else none
  | _, key :: path, t =>
    match t.find key with
    | none => do
      let inner ← addDotted item last false .dotted path []
      return t ++ [(key, .table .dotted inner)]
    | some (.table origin inner) =>
      if origin = .dotted ∨ origin = .implied then do
        let inner ← addDotted item last false origin path inner
        return t.replace key (.table origin inner)
      else none
    | some _ => none

end Table

end StyleGuide.Toml
