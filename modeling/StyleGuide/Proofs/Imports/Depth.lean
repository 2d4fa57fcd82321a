import Mathlib.Data.List.Dedup
import StyleGuide.Proofs.Imports.Graph
import StyleGuide.Proofs.Imports.Spelling

/-!
# Depth of scans

Nothing in a stylesheet bounds how far imports lead. What bounds a scan is that no file is entered
while it is being scanned. `attemptNodes` is the bare recursion: it knows the paths that are being
scanned as a list, gives up where more stylesheets are begun than it is allowed, and gives up where
those paths do not keep a promise. A scan of a table never gives up: there is room for all files and
the source, the paths are different, and all but the name of the source are paths of the table.
-/

namespace StyleGuide

def FileTable.keys (t : FileTable) : List (List Path.Component) :=
  (t.entries.map (·.1.components)).dedup

theorem FileTable.mem_keys {t : FileTable} {p : Path} (h : t.toFileSystem.isFile p = true) :
    p.components ∈ t.keys :=
  List.mem_dedup.mpr (components_mem_of_find? h)

namespace Imports

/-! ## The bare recursion -/

/-- What may be given up; otherwise it has a result or an error. -/
abbrev Attempt := ExceptT CompileError Option

/-- What is not given up. -/
def settled {α : Type} (outcome : Except CompileError α) : Attempt α :=
  ExceptT.mk (some outcome)

def givenUp {α : Type} : Attempt α :=
  ExceptT.mk none

section Attempt

variable (fs : FileSystem) (loadPaths : List Path) (promise : List Path → Prop)
  [DecidablePred promise]

def attemptStatements (visit : String → Attempt ImportTree) :
    List Statement → Attempt (List ImportTree)
  | [] => return []
  | .load args :: rest => do
    let nodes ← args.mapM visit
    let more ← attemptStatements visit rest
    return nodes ++ more
  | .block args :: rest => do
    let nodes ← args.mapM visit
    let more ← attemptStatements visit rest
    return .rule none nodes :: more

/-- The node of one import argument, by what comes of a file that is entered. -/
def attemptImport (enter : List Path → Stylesheet → Attempt (List ImportTree))
    (ancestors : List Path) (importer : Importer) (arg : String) : Attempt ImportTree :=
  if promise ancestors then
    match sassTarget? arg with
    | none => settled (.ok (.plainCss arg none []))
    | some target =>
      match resolve fs (importer.dir :: loadPaths) target with
      | none => settled (.error (.notFound target importer.file))
      | some path =>
        if path.hasExtension "css" then
          settled (.ok (.imported target (.root (some path) []) none []))
        else if ancestors.any (·.same path) then settled (.error (.importLoop path))
        else do
          let source ← settled (readStylesheet fs path)
          let nodes ← enter (path :: ancestors) (.ofFile path source)
          return .imported target (.root (some path) nodes) none []
  else givenUp

/-- The nodes of a stylesheet, with no more than `depth` stylesheets begun and not done with. -/
def attemptNodes : Nat → List Path → Stylesheet → Attempt (List ImportTree)
  | 0, _, _ => givenUp
  | depth + 1, ancestors, s =>
    if promise ancestors then
      attemptStatements
        (attemptImport fs loadPaths promise (attemptNodes depth) ancestors s.importer) s.statements
    else givenUp

def attemptSource (depth : Nat) (file : Option Path) (dir : Path) (source : String) :
    Attempt ImportTree := do
  let nodes ← attemptNodes fs loadPaths promise depth file.toList (.ofSource file dir source)
  return .root file nodes

def attemptFile (depth : Nat) (p : Path) : Attempt ImportTree := do
  let source ← settled (readStylesheet fs p)
  attemptSource fs loadPaths promise depth (some p) (p.parent.getD ⟨"."⟩) source

end Attempt

theorem settled_bind {α β : Type} (first : Except CompileError α)
    (next : α → Except CompileError β) :
    (settled first >>= fun a ↦ settled (next a)) = settled (first >>= next) := by
  cases first <;> rfl

/-! ## Chains of files -/

section Ancestors

variable {fs : FileSystem} {chain : Chain fs} {p : Path}

/-- All paths that are being scanned, innermost first; the name of the root is the last. -/
def Chain.ancestors (chain : Chain fs) : List Path :=
  chain.files ++ chain.root.toList

/-- No two of the paths that are being scanned are the same. -/
def Chain.Distinct (chain : Chain fs) : Prop :=
  (chain.ancestors.map Path.components).Nodup

theorem Chain.any_ancestors : chain.ancestors.any (·.same p) = chain.contains p := by
  rw [ancestors, contains, List.any_append, Bool.or_comm]
  cases chain.root <;> simp

theorem Chain.Distinct.push (h : chain.Distinct) (file : fs.isFile p = true)
    (new : chain.contains p = false) : (chain.push p file new).Distinct := by
  have hnew : p.components ∉ chain.ancestors.map Path.components := by
    intro hmem
    obtain ⟨q, hq, hcomponents⟩ := List.mem_map.mp hmem
    rw [← Chain.any_ancestors, List.any_eq_false] at new
    exact new q hq (Path.same_iff.mpr hcomponents)
  exact List.nodup_cons.mpr ⟨hnew, h⟩

theorem Chain.distinct_start (fs : FileSystem) (file : Option Path) :
    (Chain.start fs file).Distinct := by
  cases file <;> simp [Distinct, ancestors, start]

end Ancestors

/-! ## Enough depth -/

section Settled

variable {fs : FileSystem} {loadPaths : List Path} {chain : Chain fs} {importer : Importer}

theorem mapM_eq_settled {visit : String → Attempt ImportTree}
    (hvisit : ∀ arg, visit arg = settled (importNode fs loadPaths chain importer arg))
    (args : List String) :
    args.mapM visit = settled (argumentNodes fs loadPaths chain importer args) := by
  induction args with
  | nil =>
    rw [argumentNodes_nil]
    rfl
  | cons arg args ih =>
    rw [argumentNodes, List.mapM_cons, hvisit, ih, ← settled_bind]
    simp only [← settled_bind]
    rfl

theorem attemptStatements_eq_settled {visit : String → Attempt ImportTree}
    (hvisit : ∀ arg, visit arg = settled (importNode fs loadPaths chain importer arg))
    (sts : List Statement) :
    attemptStatements visit sts = settled (statementNodes fs loadPaths chain importer sts) := by
  induction sts with
  | nil =>
    rw [statementNodes_nil]
    rfl
  | cons statement sts ih =>
    cases statement <;>
      rw [attemptStatements, statementNodes, mapM_eq_settled hvisit, ih, ← settled_bind] <;>
      simp only [← settled_bind] <;>
      rfl

variable {promise : List Path → Prop} [DecidablePred promise]

theorem attemptImport_eq_settled {enter : List Path → Stylesheet → Attempt (List ImportTree)}
    (hpromise : promise chain.ancestors)
    (henter : ∀ (p : Path) (file : fs.isFile p = true) (new : chain.contains p = false)
      (s : Stylesheet), enter (p :: chain.ancestors) s =
        settled (statementNodes fs loadPaths (chain.push p file new) s.importer s.statements))
    (arg : String) :
    attemptImport fs loadPaths promise enter chain.ancestors importer arg =
      settled (importNode fs loadPaths chain importer arg) := by
  rw [attemptImport, if_pos hpromise]
  cases named : sassTarget? arg with
  | none => rw [importNode_of_plainCss named]
  | some target =>
    cases found : resolve fs (importer.dir :: loadPaths) target with
    | none =>
      rw [importNode_of_missing named found]
      simp only [found]
    | some path =>
      simp only [found, Chain.any_ancestors, importNode_of_found named found]
      by_cases css : path.hasExtension "css" = true
      · rw [if_pos css, if_pos css]
      · rw [if_neg css, if_neg css]
        by_cases new : chain.contains path = false
        · have henter' := henter path (isFile_of_resolve found) new
          rw [dif_pos new, if_neg (Bool.eq_false_iff.mp new), ← settled_bind]
          simp only [henter', ← settled_bind]
          rfl
        · rw [dif_neg new, if_pos (by simpa using new)]

section Bound

variable {bound : Nat} {file : Option Path}
  (hbound : ∀ chain : Chain fs, chain.files.length ≤ bound)
  (hpromise : ∀ chain : Chain fs, chain.root = file → chain.Distinct → promise chain.ancestors)

include hbound hpromise

/-- With depth for the longest chain of files and for the source, nothing is given up. -/
theorem attemptNodes_eq_settled {depth : Nat} (hroot : chain.root = file)
    (hdistinct : chain.Distinct) (hdepth : depth + chain.files.length = bound + 1)
    (s : Stylesheet) :
    attemptNodes fs loadPaths promise depth chain.ancestors s =
      settled (statementNodes fs loadPaths chain s.importer s.statements) := by
  induction depth generalizing chain s with
  | zero =>
    have := hbound chain
    omega
  | succ depth ih =>
    have hkept := hpromise chain hroot hdistinct
    rw [attemptNodes, if_pos hkept]
    refine attemptStatements_eq_settled (attemptImport_eq_settled hkept ?_) s.statements
    intro p present new s'
    have hinner : depth + (chain.push p present new).files.length = bound + 1 := by
      change depth + (chain.files.length + 1) = bound + 1
      omega
    have hroot' : (chain.push p present new).root = file := hroot
    exact ih hroot' (hdistinct.push present new) hinner s'

theorem attemptSource_eq_settled (dir : Path) (source : String) :
    attemptSource fs loadPaths promise (bound + 1) file dir source =
      settled (scanSource fs loadPaths file dir source) := by
  have hroot : (Chain.start fs file).root = file := rfl
  have hnodes : attemptNodes fs loadPaths promise (bound + 1) file.toList
      (.ofSource file dir source) =
        settled (statementNodes fs loadPaths (.start fs file) ⟨file, dir⟩
          (Stylesheet.ofSource file dir source).statements) :=
    attemptNodes_eq_settled hbound hpromise hroot (Chain.distinct_start fs file) rfl _
  rw [attemptSource, scanSource, hnodes, ← settled_bind]
  rfl

end Bound

end Settled

/-! ## Tables -/

section Table

variable (t : FileTable)

/-- What is promised of the paths that are being scanned: no two are the same, and each is a path of
the table unless it is the name of the source. -/
def Orderly (file : Option Path) (ancestors : List Path) : Prop :=
  (ancestors.map Path.components).Nodup ∧
    ∀ p ∈ ancestors, file = some p ∨ p.components ∈ t.keys

instance (file : Option Path) : DecidablePred (Orderly t file) :=
  fun _ ↦ inferInstanceAs (Decidable (_ ∧ _))

variable {t}

theorem Chain.orderly {chain : Chain t.toFileSystem} {file : Option Path}
    (hroot : chain.root = file) (hdistinct : chain.Distinct) :
    Orderly t file chain.ancestors := by
  refine ⟨hdistinct, fun p hp ↦ ?_⟩
  rcases List.mem_append.mp hp with hfile | hname
  · exact .inr (FileTable.mem_keys (chain.isFile p hfile))
  · exact .inl (hroot ▸ Option.mem_toList.mp hname)

theorem Chain.length_le_keys (chain : Chain t.toFileSystem) :
    chain.files.length ≤ t.keys.length := by
  have hsubset : chain.files.map Path.components ⊆ t.keys := by
    intro c hc
    obtain ⟨p, hp, rfl⟩ := List.mem_map.mp hc
    exact FileTable.mem_keys (chain.isFile p hp)
  simpa using chain.distinct.length_le_of_subset hsubset

end Table

/-- A scan of a table ends, with no more than one stylesheet begun for each file and one for the
source, and all the time the paths that are being scanned are in order. -/
theorem settled_scan (t : FileTable) (loadPaths : List Path) :
    (∀ (file : Option Path) (dir : Path) (source : String),
      attemptSource t.toFileSystem loadPaths (Orderly t file) (t.keys.length + 1) file dir source =
        settled (scanSource t.toFileSystem loadPaths file dir source)) ∧
    ∀ p : Path,
      attemptFile t.toFileSystem loadPaths (Orderly t (some p)) (t.keys.length + 1) p =
        settled (scanFile t.toFileSystem loadPaths p) := by
  have hsource (file : Option Path) (dir : Path) (source : String) :
      attemptSource t.toFileSystem loadPaths (Orderly t file) (t.keys.length + 1) file dir source =
        settled (scanSource t.toFileSystem loadPaths file dir source) :=
    attemptSource_eq_settled Chain.length_le_keys (fun _ ↦ Chain.orderly) dir source
  refine ⟨hsource, fun p ↦ ?_⟩
  rw [attemptFile, scanFile, ← settled_bind]
  simp only [hsource]

end Imports

end StyleGuide
