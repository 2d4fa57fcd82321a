import StyleGuide.Markdown.Link

/-!
# Emphasis

Inline content as pieces: finished content, and runs of `*`, `_` or `~` that may open or close
emphasis. A closing run is matched with the nearest run that can open it; what stands between them
becomes emphasis, strong text (two marks) or struck text (tildes), and runs in between that found no
partner become plain text. Runs that stay open are plain text.
-/

namespace StyleGuide.Markdown

inductive Inline where
  | text (chars : List Char)
  | code (chars : List Char)
  | html (chars : List Char)
  | softBreak
  | hardBreak
  | emphasis (body : List Inline)
  | strong (body : List Inline)
  | strikethrough (body : List Inline)
  | link (target : LinkTarget) (body : List Inline)
  | image (target : LinkTarget) (body : List Inline)

structure Run where
  mark : Char
  length : Nat
  canOpen : Bool
  canClose : Bool
deriving DecidableEq, Repr

/-- Finished content, or a run of marks. -/
inductive Piece where
  | content (i : Inline)
  | run (r : Run)

/-- A run that may still be closed, with what has been read after it, latest first. -/
structure Opener where
  mark : Char
  /-- Marks not used yet. -/
  count : Nat
  /-- Marks it was written with. -/
  length : Nat
  /-- It can also close. -/
  both : Bool
  body : List Inline

/-- What a lower bound for the search of an opener belongs to. -/
inductive BoundKey where
  | tilde
  /-- Closers that cannot open. -/
  | closing (mark : Char)
  /-- Closers by the remainder of their length modulo three. -/
  | remainder (mark : Char) (n : Nat)
deriving DecidableEq, Repr

/-- Below which height of the stack no opener is looked for; nothing stands for zero. -/
abbrev Bounds := List (BoundKey × Nat)

namespace Bounds

def level (b : Bounds) (key : BoundKey) : Nat :=
  (b.lookup key).getD 0

def set (b : Bounds) (key : BoundKey) (n : Nat) : Bounds :=
  (key, n) :: b.filter (·.1 ≠ key)

/-- The bound for a closing run. -/
def lower (b : Bounds) (mark : Char) (length : Nat) (both : Bool) : Nat :=
  if mark = '~' then b.level .tilde
  else
    let n := b.level (.remainder mark (length % 3))
    if both then n else min n (b.level (.closing mark))

/-- The bounds after a closing run found no opener in a stack of height `n`. -/
def raise (b : Bounds) (mark : Char) (length : Nat) (both : Bool) (n : Nat) : Bounds :=
  if mark = '~' then b.set .tilde n
  else if mark = '_' then
    b.set (if both then .remainder mark (length % 3) else .closing mark) n
  else
    let b := b.set (.remainder mark (length % 3)) n
    if both then b else b.set (.closing mark) n

/-- The bounds for a stack cut down to height `n`. -/
def truncate (b : Bounds) (n : Nat) : Bounds :=
  b.map fun e ↦ (e.1, min e.2 n)

end Bounds

/-- What has been read: runs that may be closed, innermost first, over plain content. -/
structure Nesting where
  openers : List Opener
  base : List Inline
  bounds : Bounds

namespace Nesting

def add (s : Nesting) (is : List Inline) : Nesting :=
  match s.openers with
  | [] => { s with base := is ++ s.base }
  | o :: os => { s with openers := { o with body := is ++ o.body } :: os }

def marks (mark : Char) (count : Nat) : Inline :=
  .text (List.replicate count mark)

/-- An opener that found no partner, as content, latest first. -/
def flat (o : Opener) : List Inline :=
  o.body ++ [marks o.mark o.count]

/-- Whether a closing run fits an opener. A run that can both open and close does not match one
whose length makes the sum a multiple of three, unless its own length is one. -/
def fits (mark : Char) (length : Nat) (both : Bool) (o : Opener) : Bool :=
  o.mark == mark && (mark != '~' || length == o.length) &&
    (!both && !o.both || (length + o.length) % 3 != 0 || length % 3 == 0)

/-- The nearest opener that fits within the first `depth`, with the content of the openers above it
(latest first) and the openers below. -/
def find? (p : Opener → Bool) : (depth : Nat) → (above : List Inline) → List Opener →
    Option (List Inline × Opener × List Opener)
  | 0, _, _ => none
  | _ + 1, _, [] => none
  | depth + 1, above, o :: os =>
    if p o then some (above, o, os) else find? p depth (above ++ flat o) os

/-- Wraps a body in `count` marks, two at a time from the inside, a single one outermost. -/
def wrap (mark : Char) : (count : Nat) → List Inline → List Inline
  | 0, body => body
  | 1, body => [if mark = '~' then .strikethrough body else .emphasis body]
  | n + 2, body => wrap mark n [if mark = '~' then .strikethrough body else .strong body]

/-- Closes openers with `count` marks of a run of the given length. -/
def close (mark : Char) (length : Nat) (both : Bool) (count : Nat) (s : Nesting) :
    Nat × Nesting :=
  if count = 0 then (0, s)
  else
    let height := s.openers.length
    let low := min height (s.bounds.lower mark length both)
    match find? (fits mark length both) (height - low) [] s.openers with
    | none => (count, { s with bounds := s.bounds.raise mark length both height })
    | some (above, o, below) =>
      let used := max 1 (min count o.count)
      let wrapped := wrap mark used (above ++ o.body).reverse
      let s := { s with openers := below, bounds := s.bounds.truncate below.length }
      let s :=
        if used < o.count then
          { s with openers := { o with count := o.count - used, body := wrapped.reverse } :: below }
        else s.add wrapped.reverse
      close mark length both (count - used) s
termination_by count
decreasing_by omega

def read (s : Nesting) : Piece → Nesting
  | .content i => s.add [i]
  | .run r =>
    let both := r.canOpen && r.canClose
    let (left, s) := if r.canClose then close r.mark r.length both r.length s else (r.length, s)
    if left = 0 then s
    else if r.canOpen then { s with openers := ⟨r.mark, left, r.length, both, []⟩ :: s.openers }
    else s.add [marks r.mark left]

/-- All that has been read, in order; open runs are text. -/
def finish (s : Nesting) : List Inline :=
  ((s.openers.flatMap flat) ++ s.base).reverse

end Nesting

def resolveEmphasis (pieces : List Piece) : List Inline :=
  (pieces.foldl Nesting.read ⟨[], [], []⟩).finish

end StyleGuide.Markdown
