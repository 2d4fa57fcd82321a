import StyleGuide.Files

/-!
# Reading fragments

The texts of fragments are put together in order with nothing between them. The first one that
cannot be read is the error.
-/

namespace StyleGuide

structure MissingFragment where
  path : Path
  cause : FileError
deriving DecidableEq, Repr

def MissingFragment.message (e : MissingFragment) : String :=
  "Failed to read fragment " ++ e.path.text ++ ": " ++ e.cause.message

/-- The texts of fragments, one after another. -/
def readFragments (read : Path → Except FileError String) :
    List Path → Except MissingFragment String
  | [] => .ok ""
  | p :: ps =>
    match read p with
    | .error cause => .error ⟨p, cause⟩
    | .ok text =>
      match readFragments read ps with
      | .ok rest => .ok (text ++ rest)
      | .error e => .error e

end StyleGuide
