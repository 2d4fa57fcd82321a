import StyleGuide.Proofs.Disk.Location
import StyleGuide.Proofs.Imports.Depth
import StyleGuide.Proofs.Imports.Failing

/-!
# Reentry

A scan knows the files that are being scanned by the components of their paths. On a disk that is
less than to know the files: `..` is a component like any other, but it leads to a directory that
has other paths as well. A file that is being scanned is not entered by a path without `..`, nor
does a scan of a disk go on for ever. By a path with `..` a file may be entered while it is being
scanned, and if what it imports means other files from there, the scan even succeeds.
-/

namespace StyleGuide.Imports

/-- An import argument means `p`, which is one and the same file as `q`, which is being scanned. -/
structure Reenters (d : Disk) (loadPaths : List Path) (chain : Chain d.toFileSystem)
    (importer : Importer) (arg : String) (p q : Path) : Prop where
  means : ∃ target, sassTarget? arg = some target ∧
    resolve d.toFileSystem (importer.dir :: loadPaths) target = some p
  sheet : p.hasExtension "css" = false
  ancestor : q ∈ chain.ancestors
  same : d.locate q = d.locate p

/-- An import of a file that is being scanned is reported as a loop, however its path is spelled. -/
def RefusesReentry (d : Disk) : Prop :=
  ∀ loadPaths chain importer arg p q, Reenters d loadPaths chain importer arg p q →
    importNode d.toFileSystem loadPaths chain importer arg = .error (.importLoop p)

theorem Reenters.refused {d : Disk} {loadPaths : List Path} {chain : Chain d.toFileSystem}
    {importer : Importer} {arg : String} {p q : Path}
    (h : Reenters d loadPaths chain importer arg p q) (hp : p.Straight) (hq : q.Straight)
    (habsolute : p.isAbsolute = q.isAbsolute) :
    importNode d.toFileSystem loadPaths chain importer arg = .error (.importLoop p) := by
  obtain ⟨target, named, found⟩ := h.means
  obtain ⟨loc, hloc⟩ := Disk.exists_locate_of_isFile (isFile_of_resolve found)
  have hcomponents : p.components = q.components :=
    Disk.components_eq_of_locate_eq hp hq habsolute hloc (h.same.trans hloc)
  have present : chain.contains p = true := by
    rw [← Chain.any_ancestors, List.any_eq_true]
    exact ⟨q, h.ancestor, Path.same_iff.mpr hcomponents.symm⟩
  exact importNode_eq_error.mpr (.looped named found h.sheet present)

/-- A scan ends wherever it takes place. -/
theorem exists_depth (fs : FileSystem) (loadPaths : List Path) (file : Option Path) (dir : Path)
    (source : String) :
    ∃ depth, attemptSource fs loadPaths (fun _ ↦ True) depth file dir source =
      settled (scanSource fs loadPaths file dir source) :=
  ⟨Chain.bound fs + 1,
    attemptSource_eq_settled Chain.length_le_bound (fun _ _ _ ↦ trivial) dir source⟩

/-- A file of a disk that is being scanned is not entered by another path that starts from the same
place if both are without `..` and a leading `.`, and every scan of a disk ends. -/
theorem straight_reentry_refused (d : Disk) (loadPaths : List Path) :
    (∀ (chain : Chain d.toFileSystem) (importer : Importer) (arg : String) (p q : Path),
      Reenters d loadPaths chain importer arg p q →
      p.Straight → q.Straight → p.isAbsolute = q.isAbsolute →
      importNode d.toFileSystem loadPaths chain importer arg = .error (.importLoop p)) ∧
    ∀ (file : Option Path) (dir : Path) (source : String),
      ∃ depth, attemptSource d.toFileSystem loadPaths (fun _ ↦ True) depth file dir source =
        settled (scanSource d.toFileSystem loadPaths file dir source) :=
  ⟨fun _ _ _ _ _ h ↦ h.refused, exists_depth d.toFileSystem loadPaths⟩

/-- A directory with two stylesheets that import each other. -/
def pairedDisk : Disk where
  entries := [(["sub".toList], .directory),
    (["a.scss".toList, "sub".toList], .file "@import 'b';".toUTF8),
    (["b.scss".toList, "sub".toList], .file "@import './a';".toUTF8)]
  workingDirectory := []

/-- The chain inside `b.scss` that is imported by `a.scss`. -/
def pairedChain : Chain pairedDisk.toFileSystem :=
  (Chain.start pairedDisk.toFileSystem (some ⟨"sub//a.scss"⟩)).push ⟨"sub/b.scss"⟩
    (by decide +kernel) (by decide +kernel)

/-- A further separator does not hide the file. -/
theorem refused_pairedDisk :
    Reenters pairedDisk [] pairedChain (.ofFile ⟨"sub/b.scss"⟩) "'./a'" ⟨"sub/a.scss"⟩
      ⟨"sub//a.scss"⟩ ∧
    importNode pairedDisk.toFileSystem [] pairedChain (.ofFile ⟨"sub/b.scss"⟩) "'./a'" =
      .error (.importLoop ⟨"sub/a.scss"⟩) := by
  have reenters : Reenters pairedDisk [] pairedChain (.ofFile ⟨"sub/b.scss"⟩) "'./a'"
      ⟨"sub/a.scss"⟩ ⟨"sub//a.scss"⟩ :=
    { means := ⟨"./a", by decide +kernel, by decide +kernel⟩
      sheet := by decide +kernel
      ancestor := by decide +kernel
      same := by decide +kernel }
  exact ⟨reenters, (straight_reentry_refused pairedDisk []).1 _ _ _ _ _ reenters
    (by decide +kernel) (by decide +kernel) (by decide +kernel)⟩

/-! ## A file that is entered twice -/

/-- A directory `d` with `lib` in it. The stylesheet of `lib` imports `a.scss`, and `a.scss` imports
`.`, which is found by way of the load path `lib` as long as the path of its own directory is empty,
and is that directory as soon as it has a longer path. -/
def twistedDisk : Disk where
  entries := [(["d".toList], .directory), (["lib".toList, "d".toList], .directory),
    (["a.scss".toList, "d".toList], .file "@import '.';".toUTF8),
    (["index.scss".toList, "d".toList], .file "".toUTF8),
    (["index.scss".toList, "lib".toList, "d".toList], .file "@import '../../d/a';".toUTF8)]
  workingDirectory := ["d".toList]

/-- The chain inside the stylesheet of `lib` that `a.scss` imports. -/
def twistedChain : Chain twistedDisk.toFileSystem :=
  (Chain.start twistedDisk.toFileSystem (some ⟨"a.scss"⟩)).push ⟨"lib/./index.scss"⟩
    (by decide +kernel) (by decide +kernel)

/-- The chain inside `a.scss` once more. -/
def reenteredChain : Chain twistedDisk.toFileSystem :=
  twistedChain.push ⟨"lib/../../d/a.scss"⟩ (by decide +kernel) (by decide +kernel)

/-- The node of `a.scss` in the stylesheet of `lib`. -/
def reenteredNode : ImportTree :=
  .imported "../../d/a" (.root (some ⟨"lib/../../d/a.scss"⟩)
    [.imported "." (.root (some ⟨"lib/../../d/./index.scss"⟩) []) none []]) none []

/-- The only import of a stylesheet makes its only node. -/
theorem statementNodes_singleton {fs : FileSystem} {loadPaths : List Path} {chain : Chain fs}
    {importer : Importer} {arg : String} {node : ImportTree}
    (h : importNode fs loadPaths chain importer arg = .ok node) :
    statementNodes fs loadPaths chain importer [.load [arg]] = .ok [node] := by
  have hargs : argumentNodes fs loadPaths chain importer [arg] = .ok [node] :=
    argumentNodes_cons_eq_ok.mpr ⟨node, [], h, argumentNodes_nil, rfl⟩
  exact statementNodes_load_eq_ok.mpr ⟨[node], [], hargs, statementNodes_nil, rfl⟩

theorem importNode_reenteredChain :
    importNode twistedDisk.toFileSystem [⟨"lib"⟩] reenteredChain (.ofFile ⟨"lib/../../d/a.scss"⟩)
      "'.'" = .ok (.imported "." (.root (some ⟨"lib/../../d/./index.scss"⟩) []) none []) := by
  have named : sassTarget? "'.'" = some "." := by decide +kernel
  have found : resolve twistedDisk.toFileSystem [⟨"lib/../../d"⟩, ⟨"lib"⟩] "." =
      some ⟨"lib/../../d/./index.scss"⟩ := by decide +kernel
  have sheet : Path.hasExtension ⟨"lib/../../d/./index.scss"⟩ "css" = false := by decide +kernel
  have new : reenteredChain.contains ⟨"lib/../../d/./index.scss"⟩ = false := by decide +kernel
  have read : readStylesheet twistedDisk.toFileSystem ⟨"lib/../../d/./index.scss"⟩ = .ok "" := by
    decide +kernel
  have parsed : statements (.ofPath ⟨"lib/../../d/./index.scss"⟩) "" = [] := by decide +kernel
  refine importNode_eq_ok.mpr (.stylesheet named found sheet new read ?_)
  rw [parsed, statementNodes_nil]

theorem importNode_twistedChain :
    importNode twistedDisk.toFileSystem [⟨"lib"⟩] twistedChain (.ofFile ⟨"lib/./index.scss"⟩)
      "'../../d/a'" = .ok reenteredNode := by
  have named : sassTarget? "'../../d/a'" = some "../../d/a" := by decide +kernel
  have found : resolve twistedDisk.toFileSystem [⟨"lib"⟩, ⟨"lib"⟩] "../../d/a" =
      some ⟨"lib/../../d/a.scss"⟩ := by decide +kernel
  have sheet : Path.hasExtension ⟨"lib/../../d/a.scss"⟩ "css" = false := by decide +kernel
  have new : twistedChain.contains ⟨"lib/../../d/a.scss"⟩ = false := by decide +kernel
  have read : readStylesheet twistedDisk.toFileSystem ⟨"lib/../../d/a.scss"⟩ =
      .ok "@import '.';" := by decide +kernel
  have parsed : statements (.ofPath ⟨"lib/../../d/a.scss"⟩) "@import '.';" = [.load ["'.'"]] := by
    decide +kernel
  refine importNode_eq_ok.mpr (.stylesheet named found sheet new read ?_)
  rw [parsed]
  exact statementNodes_singleton importNode_reenteredChain

/-- The scan of `a.scss` enters it a second time and succeeds. -/
theorem scanFile_twistedDisk :
    scanFile twistedDisk.toFileSystem [⟨"lib"⟩] ⟨"a.scss"⟩ =
      .ok (.root (some ⟨"a.scss"⟩)
        [.imported "." (.root (some ⟨"lib/./index.scss"⟩) [reenteredNode]) none []]) := by
  have named : sassTarget? "'.'" = some "." := by decide +kernel
  have found : resolve twistedDisk.toFileSystem [⟨""⟩, ⟨"lib"⟩] "." =
      some ⟨"lib/./index.scss"⟩ := by decide +kernel
  have sheet : Path.hasExtension ⟨"lib/./index.scss"⟩ "css" = false := by decide +kernel
  have new : (Chain.start twistedDisk.toFileSystem (some ⟨"a.scss"⟩)).contains
      ⟨"lib/./index.scss"⟩ = false := by decide +kernel
  have read : readStylesheet twistedDisk.toFileSystem ⟨"lib/./index.scss"⟩ =
      .ok "@import '../../d/a';" := by decide +kernel
  have parsed : statements (.ofPath ⟨"lib/./index.scss"⟩) "@import '../../d/a';" =
      [.load ["'../../d/a'"]] := by decide +kernel
  have node : importNode twistedDisk.toFileSystem [⟨"lib"⟩] (.start _ (some ⟨"a.scss"⟩))
      ⟨some ⟨"a.scss"⟩, ⟨""⟩⟩ "'.'" =
        .ok (.imported "." (.root (some ⟨"lib/./index.scss"⟩) [reenteredNode]) none []) := by
    refine importNode_eq_ok.mpr (.stylesheet named found sheet new read ?_)
    rw [parsed]
    exact statementNodes_singleton importNode_twistedChain
  have text : readStylesheet twistedDisk.toFileSystem ⟨"a.scss"⟩ = .ok "@import '.';" := by
    decide +kernel
  have parent : (Path.parent ⟨"a.scss"⟩).getD ⟨"."⟩ = ⟨""⟩ := by decide +kernel
  have parsed' : statements (.ofPath ⟨"a.scss"⟩) "@import '.';" = [.load ["'.'"]] := by
    decide +kernel
  refine bind_eq_ok.mpr ⟨_, text, ?_⟩
  rw [parent]
  refine bind_eq_ok.mpr ⟨_, ?_, rfl⟩
  change statementNodes _ _ _ _ (statements (.ofPath ⟨"a.scss"⟩) "@import '.';") = _
  rw [parsed']
  exact statementNodes_singleton node

/-- The second entry is to the same file, and it is made from a chain that has the file. -/
theorem reentered_twistedDisk :
    scanFile twistedDisk.toFileSystem [⟨"lib"⟩] ⟨"a.scss"⟩ =
      .ok (.root (some ⟨"a.scss"⟩)
        [.imported "." (.root (some ⟨"lib/./index.scss"⟩) [reenteredNode]) none []]) ∧
    twistedDisk.locate ⟨"lib/../../d/a.scss"⟩ = twistedDisk.locate ⟨"a.scss"⟩ ∧
    ¬ RefusesReentry twistedDisk := by
  have same : twistedDisk.locate ⟨"lib/../../d/a.scss"⟩ = twistedDisk.locate ⟨"a.scss"⟩ := by
    decide +kernel
  refine ⟨scanFile_twistedDisk, same, fun hrefuses ↦ ?_⟩
  have reenters : Reenters twistedDisk [⟨"lib"⟩] twistedChain (.ofFile ⟨"lib/./index.scss"⟩)
      "'../../d/a'" ⟨"lib/../../d/a.scss"⟩ ⟨"a.scss"⟩ :=
    { means := ⟨"../../d/a", by decide +kernel, by decide +kernel⟩
      sheet := by decide +kernel
      ancestor := by decide +kernel
      same := same.symm }
  cases importNode_twistedChain.symm.trans (hrefuses _ _ _ _ _ _ reenters)

end StyleGuide.Imports
