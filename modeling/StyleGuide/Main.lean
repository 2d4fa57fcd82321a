import StyleGuide.Command.Run

/-!
# The program

Takes the files that a command may need into memory, runs the command on them, prints what it
prints, and writes back what it changed. The files are those below the working directory and below
the directories of the arguments, and the configuration files around the working directory.
-/

namespace StyleGuide.Program

/-- The location of an absolute path. -/
def locationOf (text : String) : Location :=
  ((Path.segments text.toList).filter (· ≠ [])).reverse

def withDirectory (d : Disk) : Location → Disk
  | [] => d
  | name :: outer =>
    let d := withDirectory d outer
    if (d.node? (name :: outer)).isSome then d else d.put (name :: outer) .directory

/-- A disk with the file or directory at an absolute path; what cannot be read is left out. -/
def withEntry (d : Disk) (text : String) : IO Disk := do
  try
    let p ← IO.FS.realPath text
    if ← p.isDir then return withDirectory d (locationOf text)
    let bytes ← IO.FS.readBinFile p
    let d := withDirectory d (locationOf text).tail
    return d.put (locationOf text) (.file bytes)
  catch _ => return d

/-- A disk with everything below a directory. -/
def withTree (d : Disk) (text : String) : IO Disk := do
  let root ← IO.FS.realPath text
  let mut d := withDirectory d (locationOf root.toString)
  for p in ← root.walkDir do
    d ← withEntry d p.toString
  return d

/-- A disk with the directory that an argument names or lies in, if it does not lie below the
working directory. -/
def withArgument (d : Disk) (text : String) : IO Disk := do
  try
    let p ← IO.FS.realPath text
    let dir := if ← p.isDir then some p else p.parent
    match dir with
    | some dir =>
      let loc := locationOf dir.toString
      if loc = [] || d.workingDirectory.isSuffixOf loc then return d else withTree d dir.toString
    | none => return d
  catch _ => return d

/-- The files that a command may need. -/
def readDisk (args : List String) : IO Disk := do
  let here ← IO.FS.realPath "."
  let cwd := locationOf here.toString
  let mut d ← withTree ⟨[], cwd⟩ here.toString
  for loc in Config.around cwd do
    d ← withEntry d ((Disk.pathOf loc).join ⟨Config.fileName⟩).text
  for arg in args do
    d ← withArgument d arg
  return d

/-- Writes back what is new or different. -/
def saveDisk (before after : Disk) : IO Unit := do
  for (loc, node) in after.entries do
    let path := (Disk.pathOf loc).text
    match node, before.node? loc with
    | .directory, none => IO.FS.createDirAll path
    | .file bytes, some (.file old) => if bytes != old then IO.FS.writeBinFile path bytes
    | .file bytes, _ => IO.FS.writeBinFile path bytes
    | .directory, some _ => pure ()

def readEnvironment : IO Config.Environment := do
  let bytes ← try IO.FS.readBinFile "/proc/self/environ" catch _ => pure ByteArray.empty
  let entries := Text.splitAt '\x00' (Text.Utf8.decodeLossy bytes).toList
  return ⟨entries.filterMap fun entry ↦
    match entry.dropWhile (· != '=') with
    | _ :: value => some (String.ofList (entry.takeWhile (· != '=')), String.ofList value)
    | [] => none⟩

end StyleGuide.Program

open StyleGuide in
/-- Runs the command that the arguments ask for. -/
def main (args : List String) : IO UInt32 := do
  let before ← Program.readDisk args
  let outcome := Command.run before (← Program.readEnvironment) args
  IO.print outcome.output
  IO.eprint outcome.messages
  Program.saveDisk before outcome.disk
  return outcome.code.toUInt32
