import StyleGuide.Proofs.Imports.Alongside

/-!
# More load paths

Directories are searched in order, so what is found in some of them is found whatever directories
follow. A scan that misses no import therefore does not notice load paths that are appended: each of
its imports, at whatever depth, means the file it meant before, and the outcome is the same tree or
the same error.
-/

namespace StyleGuide.Imports

variable {fs : FileSystem} {loadPaths : List Path}

/-! ## Resolution -/

theorem allCandidates_append (dirs more : List Path) (target : String) :
    allCandidates (dirs ++ more) target = allCandidates dirs target ++ allCandidates more target :=
  List.flatMap_append

/-- Further directories are searched only for what the first ones do not hold. -/
theorem resolve_append (fs : FileSystem) (dirs more : List Path) (target : String) :
    resolve fs (dirs ++ more) target = (resolve fs dirs target).or (resolve fs more target) := by
  rw [resolve, allCandidates_append, List.find?_append]
  rfl

theorem resolve_of_found {dirs : List Path} {target : String} {path : Path}
    (found : resolve fs dirs target = some path) (more : List Path) :
    resolve fs (dirs ++ more) target = some path := by
  rw [resolve_append, found, Option.some_or]

/-! ## Scans -/

/-- The error of an import that means no file. -/
def Missing (x : CompileError) : Prop :=
  ∃ target importer, x = .notFound target importer

/-- What is found with fewer load paths is found with more. -/
theorem findsSame_append (loadPaths more : List Path) (importer : Importer) :
    FindsSame fs Missing loadPaths (loadPaths ++ more) importer importer where
  found _ _ found := resolve_of_found found more
  missing target _ := .inl ⟨target, importer.file, rfl⟩

/-- A scan that misses no import has the same outcome with more load paths. What lies in the
directory of the importing file is found there, whatever the load paths are. -/
theorem scanSource_append (fs : FileSystem) (loadPaths more : List Path) (file : Option Path)
    (dir : Path) (source : String) :
    ((∀ target importer,
        scanSource fs loadPaths file dir source ≠ .error (.notFound target importer)) →
      scanSource fs (loadPaths ++ more) file dir source =
        scanSource fs loadPaths file dir source) ∧
    ∀ (importing : Path) (target : String) (path : Path),
      resolve fs [importing] target = some path →
        ∀ others, resolve fs (importing :: others) target = some path := by
  refine ⟨fun complete ↦ ?_, fun importing target path found others ↦ resolve_of_found found others⟩
  refine (scanSource_of_findsSame (fun _ ↦ findsSame_append loadPaths more _)
    (findsSame_append loadPaths more _) source).eq ?_
  rintro _ ⟨target, importer, rfl⟩
  exact complete target importer

/-- A place with two files of one name in different directories. -/
def twoLibraries : FileSystem :=
  (FileTable.mk [(⟨"lib/_base.scss"⟩, .content "$margin: 0;".toUTF8),
    (⟨"vendor/base.scss"⟩, .content "$margin: 1;".toUTF8)]).toFileSystem

def libraryTree : ImportTree :=
  .root none [.imported "base" (.root (some ⟨"lib/_base.scss"⟩) []) none []]

theorem scanSource_twoLibraries :
    scanSource twoLibraries [⟨"lib"⟩] none ⟨"."⟩ "@import \"base\";" = .ok libraryTree ∧
    scanSource twoLibraries ([⟨"lib"⟩] ++ [⟨"vendor"⟩]) none ⟨"."⟩ "@import \"base\";" =
      .ok libraryTree ∧
    resolve twoLibraries [⟨"lib"⟩] "base" = some ⟨"lib/_base.scss"⟩ ∧
    resolve twoLibraries [⟨"lib"⟩, ⟨"vendor"⟩] "base" = some ⟨"lib/_base.scss"⟩ := by
  have houter : statements .scss "@import \"base\";" = [.load ["\"base\""]] := by decide +kernel
  have hinner : statements (.ofPath ⟨"lib/_base.scss"⟩) "$margin: 0;" = [] := by decide +kernel
  have hread : readStylesheet twoLibraries ⟨"lib/_base.scss"⟩ = .ok "$margin: 0;" := by
    decide +kernel
  have hnode : importNode twoLibraries [⟨"lib"⟩] (.start _ none) ⟨none, ⟨"."⟩⟩ "\"base\"" =
      .ok (.imported "base" (.root (some ⟨"lib/_base.scss"⟩) []) none []) :=
    importNode_eq_ok.mpr (.stylesheet (by decide +kernel) (by decide +kernel) (by decide +kernel)
      rfl hread (hinner ▸ statementNodes_nil))
  have hscan : scanSource twoLibraries [⟨"lib"⟩] none ⟨"."⟩ "@import \"base\";" =
      .ok libraryTree := by
    refine bind_eq_ok.mpr ⟨_, ?_, rfl⟩
    change statementNodes _ _ _ _ (statements .scss "@import \"base\";") = _
    rw [houter]
    exact statementNodes_load_eq_ok.mpr ⟨_, _,
      argumentNodes_cons_eq_ok.mpr ⟨_, _, hnode, argumentNodes_nil, rfl⟩, statementNodes_nil, rfl⟩
  have hlib : resolve twoLibraries [⟨"lib"⟩] "base" = some ⟨"lib/_base.scss"⟩ := by decide +kernel
  obtain ⟨hmore, hfirst⟩ :=
    scanSource_append twoLibraries [⟨"lib"⟩] [⟨"vendor"⟩] none ⟨"."⟩ "@import \"base\";"
  refine ⟨hscan, (hmore fun target importer h ↦ ?_).trans hscan, hlib, hfirst _ _ _ hlib _⟩
  cases hscan.symm.trans h

end StyleGuide.Imports
