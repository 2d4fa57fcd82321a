import StyleGuide.Text.Letter

/-!
# Finding

Where a piece of text occurs first, and replacing every occurrence of it.
-/

namespace StyleGuide.Text

/-- The number of characters before the first occurrence of `piece`. -/
def indexOf? (piece : List Char) : List Char → Option Nat
  | [] => if piece.isEmpty then some 0 else none
  | c :: cs => if startsWith piece (c :: cs) then some 0 else (indexOf? piece cs).map (· + 1)

def occursIn (piece cs : List Char) : Bool :=
  (indexOf? piece cs).isSome

/-- A text in which every occurrence of `piece`, from left to right, is replaced. An empty piece
occurs before every character and at the end. -/
def replace (piece by' : List Char) : List Char → List Char
  | [] => if piece.isEmpty then by' else []
  | c :: cs =>
    if piece.isEmpty then by' ++ c :: replace piece by' cs
    else if startsWith piece (c :: cs) then by' ++ replace piece by' (cs.drop (piece.length - 1))
    else c :: replace piece by' cs
termination_by cs => cs.length

end StyleGuide.Text
