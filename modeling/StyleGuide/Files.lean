import StyleGuide.Path

/-!
# Files

What the program may ask of a place that holds files: whether a path names a file or a directory,
what the file holds, and one spelling for all paths of a file. Every such place is finite: there
is a bound on how many different paths can name files at once, and walks over imports end because
of it. `FileTable` is the place that is a plain table of paths.
-/

namespace StyleGuide

/-- Why a file cannot be read or written. -/
inductive FileError where
  /-- A table has no entry for the path. -/
  | absent (path : Path)
  /-- A table entry that refuses to be read. -/
  | unreadable
  | noEntry
  | isDirectory
  | notDirectory
  | alreadyExists
  | nameTooLong
  | nulInPath
  /-- The bytes are no text. -/
  | notText
deriving DecidableEq, Repr

def FileError.message : FileError → String
  | .absent path => "File not found: " ++ path.text
  | .unreadable => "unreadable"
  | .noEntry => "No such file or directory (os error 2)"
  | .isDirectory => "Is a directory (os error 21)"
  | .notDirectory => "Not a directory (os error 20)"
  | .alreadyExists => "File exists (os error 17)"
  | .nameTooLong => "File name too long (os error 36)"
  | .nulInPath => "file name contained an unexpected NUL byte"
  | .notText => "stream did not contain valid UTF-8"

/-- A finite place that holds files. -/
structure FileSystem where
  isFile : Path → Bool
  isDirectory : Path → Bool
  read : Path → Except FileError ByteArray
  /-- One path for all spellings of a file. -/
  canonical : Path → Path
  /-- Only so many paths that differ by components can name files. -/
  finite : ∃ n : Nat, ∀ ps : List Path,
    (ps.map Path.components).Nodup → (∀ p ∈ ps, isFile p = true) → ps.length ≤ n

inductive FileEntry where
  | content (bytes : ByteArray)
  | unreadable

/-- Files by path; paths are looked up by their components. -/
structure FileTable where
  entries : List (Path × FileEntry)

namespace FileTable

def find? (t : FileTable) (p : Path) : Option FileEntry :=
  (t.entries.find? fun e ↦ e.1.same p).map (·.2)

def isDirectory (t : FileTable) (p : Path) : Bool :=
  t.entries.any fun e ↦ !e.1.same p && e.1.startsWith p

def read (t : FileTable) (p : Path) : Except FileError ByteArray :=
  match t.find? p with
  | none => .error (.absent p)
  | some .unreadable => .error .unreadable
  | some (.content bytes) => .ok bytes

/-- A path that the table finds has the components of one of its keys. -/
theorem components_mem_of_find? {t : FileTable} {p : Path} (h : (t.find? p).isSome = true) :
    p.components ∈ t.entries.map (·.1.components) := by
  simp only [find?, Option.isSome_map, List.find?_isSome] at h
  obtain ⟨e, he, hs⟩ := h
  exact List.mem_map.mpr ⟨e, he, by simpa [Path.same] using hs⟩

/-- The table as a place that holds files; every path is its own canonical spelling. -/
def toFileSystem (t : FileTable) : FileSystem where
  isFile p := (t.find? p).isSome
  isDirectory := t.isDirectory
  read := t.read
  canonical := id
  finite := ⟨t.entries.length, fun ps distinct files ↦ by
    have h : ps.map Path.components ⊆ t.entries.map (·.1.components) := by
      intro c hc
      obtain ⟨p, hp, rfl⟩ := List.mem_map.mp hc
      exact components_mem_of_find? (files p hp)
    simpa using distinct.length_le_of_subset h⟩

end FileTable

end StyleGuide
