import StyleGuide.Files
import StyleGuide.Text.Utf8

/-!
# Disks

Directories and files that paths are resolved in. A path is walked segment by segment: `.` and an
empty segment stay, `..` goes up, and every segment needs a directory to start from, so the same
file may be spelled in many ways. Names and whole paths have a greatest length in bytes, which is
why a disk is a finite place. Writing changes one entry and fails without changing any; creating
nested directories may fail after some of them are there.
-/

namespace StyleGuide

/-- Where an entry stands: names from the inside out, so the directory of an entry is its tail. -/
abbrev Location := List (List Char)

/-- What stands at a location. -/
inductive DiskNode where
  | file (bytes : ByteArray)
  | directory

/-- Entries below the root, and the location that relative paths start from. -/
structure Disk where
  entries : List (Location × DiskNode)
  workingDirectory : Location

def byteCount (cs : List Char) : Nat :=
  cs.foldr (fun c n ↦ c.utf8Size + n) 0

theorem length_le_byteCount (cs : List Char) : cs.length ≤ byteCount cs := by
  induction cs with
  | nil => simp
  | cons c cs ih =>
    have := c.utf8Size_pos
    simp only [byteCount, List.foldr_cons, List.length_cons] at *
    omega

namespace Disk

/-- The greatest number of bytes of a path. -/
def longestPath : Nat := 4095

/-- The greatest number of bytes of a name. -/
def longestName : Nat := 255

/-! ## Looking up -/

/-- What stands at a location; the root is always a directory. -/
def node? (d : Disk) : Location → Option DiskNode
  | [] => some .directory
  | loc => (d.entries.find? fun e ↦ e.1 == loc).map (·.2)

def step (d : Disk) (loc : Location) (segment : List Char) : Except FileError Location :=
  match d.node? loc with
  | none => .error .noEntry
  | some (.file _) => .error .notDirectory
  | some .directory =>
    match Path.Component.ofSegment segment with
    | some .up => .ok loc.tail
    | some (.name cs) => if byteCount cs ≤ longestName then .ok (cs :: loc) else .error .nameTooLong
    | _ => .ok loc

/-- The location that a path names, whether or not anything stands there. -/
def locate (d : Disk) (p : Path) : Except FileError Location :=
  let cs := p.text.toList
  if cs.contains '\x00' then .error .nulInPath
  else if byteCount cs = 0 then .error .noEntry
  else if longestPath < byteCount cs then .error .nameTooLong
  else (Path.segments cs).foldlM d.step (if p.isAbsolute then [] else d.workingDirectory)

def lookUp (d : Disk) (p : Path) : Except FileError DiskNode := do
  match d.node? (← d.locate p) with
  | some node => .ok node
  | none => .error .noEntry

/-- Whether the path names anything. -/
def contains (d : Disk) (p : Path) : Bool :=
  match d.lookUp p with
  | .ok _ => true
  | .error _ => false

def isFile (d : Disk) (p : Path) : Bool :=
  match d.lookUp p with
  | .ok (.file _) => true
  | _ => false

def isDirectory (d : Disk) (p : Path) : Bool :=
  match d.lookUp p with
  | .ok .directory => true
  | _ => false

def read (d : Disk) (p : Path) : Except FileError ByteArray := do
  match ← d.lookUp p with
  | .file bytes => .ok bytes
  | .directory => .error .isDirectory

def readText (d : Disk) (p : Path) : Except FileError String := do
  match Text.Utf8.decode? (← d.read p) with
  | some text => .ok text
  | none => .error .notText

def below (d : Disk) (loc : Location) : List Location :=
  (d.entries.map (·.1)).filter fun l ↦ loc.length < l.length && loc.isSuffixOf l

def pathOf (loc : Location) : Path :=
  ⟨String.ofList (if loc = [] then ['/'] else loc.reverse.flatMap ('/' :: ·))⟩

/-- The one absolute path of what a path names; a path that names nothing stays as it is. -/
def canonical (d : Disk) (p : Path) : Path :=
  match d.locate p with
  | .ok loc => pathOf loc
  | .error _ => p

/-! ## Changing -/

/-- The disk without what stands at a location and below it. -/
def erase (d : Disk) (loc : Location) : Disk :=
  ⟨d.entries.filter fun e ↦ !loc.isSuffixOf e.1, d.workingDirectory⟩

def put (d : Disk) (loc : Location) (node : DiskNode) : Disk :=
  ⟨d.entries.filter (·.1 != loc) ++ [(loc, node)], d.workingDirectory⟩

def endsWithSeparator (p : Path) : Bool :=
  p.text.toList.getLast? == some '/'

/-- The path without separators at its end, unless it has nothing else. -/
def withoutTrailing (p : Path) : Path :=
  match (p.text.toList.reverse.dropWhile (· == '/')).reverse with
  | [] => p
  | cs => ⟨String.ofList cs⟩

def write (d : Disk) (p : Path) (bytes : ByteArray) : Except FileError Disk := do
  let loc ← d.locate (withoutTrailing p)
  if endsWithSeparator p then .error .isDirectory
  else match d.node? loc with
    | some .directory => .error .isDirectory
    | _ => .ok (d.put loc (.file bytes))

def createDirectory (d : Disk) (p : Path) : Except FileError Disk := do
  let loc ← d.locate (withoutTrailing p)
  match d.node? loc with
  | some _ => .error .alreadyExists
  | none => .ok (d.put loc .directory)

/-- Creates the first of some directories, each in the next; those that exist already are left. What
is created stays, even if the first one cannot be. -/
def createNested (d : Disk) : List Path → Except FileError Unit × Disk
  | [] => (.ok (), d)
  | p :: parents =>
    let orPresent (d' : Disk) (cause : FileError) : Except FileError Unit × Disk :=
      (if d'.isDirectory p then .ok () else .error cause, d')
    match d.createDirectory p with
    | .ok d' => (.ok (), d')
    | .error .noEntry =>
      match d.createNested parents with
      | (.ok (), d') =>
        match d'.createDirectory p with
        | .ok d'' => (.ok (), d'')
        | .error cause => orPresent d' cause
      | (.error cause, d') => (.error cause, d')
    | .error cause => orPresent d cause

/-- A directory and those it lies in, from the inside out; the empty path asks for none. -/
def nestedIn (p : Path) : List Path :=
  if p.text = "" then [] else p :: (p.spans.reverse.drop 1).map fun s ↦ p.take s.stop

/-- The disk with a directory and those it lies in, if they can all be created. -/
def createDirectories (d : Disk) (p : Path) : Except FileError Disk :=
  match d.createNested (nestedIn p) with
  | (.ok (), d') => .ok d'
  | (.error cause, _) => .error cause

/-- Removes what a path names; a path that names nothing is left. -/
def remove (d : Disk) (p : Path) : Disk :=
  match d.locate p with
  | .ok loc => d.erase loc
  | .error _ => d

/-! ## A disk is finite -/

def textsUpTo : Nat → List (List Char)
  | 0 => [[]]
  | n + 1 => [] :: (textsUpTo n).flatMap fun cs ↦
    (List.range 0x110000).map fun k ↦ Char.ofNat k :: cs

theorem mem_textsUpTo {cs : List Char} {n : Nat} (h : cs.length ≤ n) : cs ∈ textsUpTo n := by
  induction n generalizing cs with
  | zero => simp_all [textsUpTo]
  | succ n ih =>
    cases cs with
    | nil => simp [textsUpTo]
    | cons c cs =>
      refine List.mem_cons_of_mem _ (List.mem_flatMap.mpr ⟨cs, ih (by simpa using h), ?_⟩)
      refine List.mem_map.mpr ⟨c.toNat, List.mem_range.mpr ?_, by rw [Char.ofNat_toNat]⟩
      have := c.valid
      simp only [UInt32.isValidChar, Nat.isValidChar] at this
      simp only [Char.toNat]
      omega

/-- A path that names a file is not too long. -/
theorem length_le_of_isFile {d : Disk} {p : Path} (h : d.isFile p = true) :
    p.text.toList.length ≤ longestPath := by
  by_cases hb : longestPath < byteCount p.text.toList
  · have hz : byteCount p.text.toList ≠ 0 := by omega
    have refused : ∃ cause, d.locate p = .error cause := by
      by_cases hn : p.text.toList.contains '\x00' = true
      · exact ⟨_, by simp only [locate, hn, if_true]; rfl⟩
      · exact ⟨_, by simp only [locate, hn, hz, hb, if_false, if_true, Bool.false_eq_true]; rfl⟩
    obtain ⟨cause, hc⟩ := refused
    simp [isFile, lookUp, hc, bind, Except.bind] at h
  · have := length_le_byteCount p.text.toList
    omega

/-- The disk as a place that holds files. -/
def toFileSystem (d : Disk) : FileSystem where
  isFile := d.isFile
  isDirectory := d.isDirectory
  read := d.read
  canonical := d.canonical
  finite := ⟨(textsUpTo longestPath).length, fun ps distinct files ↦ by
    have texts : (ps.map fun p ↦ p.text.toList).Nodup := by
      rw [List.nodup_iff_pairwise_ne, List.pairwise_map] at distinct ⊢
      refine distinct.imp fun {p q} hne heq ↦ hne ?_
      rw [show p = q by cases p; cases q; simpa [String.toList_inj] using heq]
    have subset : (ps.map fun p ↦ p.text.toList) ⊆ textsUpTo longestPath := by
      intro cs hcs
      obtain ⟨p, hp, rfl⟩ := List.mem_map.mp hcs
      exact mem_textsUpTo (length_le_of_isFile (files p hp))
    simpa using texts.length_le_of_subset subset⟩

end Disk

end StyleGuide
