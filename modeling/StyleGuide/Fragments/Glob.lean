import StyleGuide.Disk
import StyleGuide.Fragments.FileList

/-!
# Fragments by pattern

The fragment path of a stylesheet is read as a pattern, so a stylesheet whose name holds pattern
characters may have several fragments. They are ordered by components. A path that is no valid
pattern can only mean the file of exactly that name.
-/

namespace StyleGuide

/-- A search of a disk for a pattern. It lists what it finds, with an error for what it cannot look
at, or nothing at all if the text is no valid pattern. -/
abbrev Glob := Disk → Path → Option (List (Except FileError Path))

/-- The fragments of a stylesheet on a disk. What cannot be looked at is left out. -/
def fragmentsBy (glob : Glob) (d : Disk) (stylesheet : Path) : List Path :=
  let wanted := fragmentPath stylesheet
  match glob d wanted with
  | some entries => (entries.filterMap Except.toOption).mergeSort Path.le
  | none => if d.isFile wanted then [wanted] else []

end StyleGuide
