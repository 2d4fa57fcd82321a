import Mathlib.Tactic.SplitIfs
import StyleGuide.Imports.Scan

/-!
# Scans that succeed

What a scan makes of statements and of their arguments, one after the other. `ArgumentScan` tells
apart the three things that come of an argument whose scan succeeds.
-/

namespace StyleGuide.Imports

theorem bind_eq_ok {ε α β : Type} {first : Except ε α} {next : α → Except ε β} {b : β} :
    (first >>= next) = .ok b ↔ ∃ a, first = .ok a ∧ next a = .ok b := by
  cases first with
  | error x => exact ⟨fun h ↦ (nomatch h), fun ⟨a, ha, _⟩ ↦ (nomatch ha)⟩
  | ok a =>
    refine ⟨fun h ↦ ⟨a, rfl, h⟩, fun ⟨a', ha, h⟩ ↦ ?_⟩
    cases ha
    exact h

variable {fs : FileSystem} {loadPaths : List Path} {chain : Chain fs} {importer : Importer}

/-! ## Arguments -/

section Argument

variable {arg target : String} {path : Path}

theorem importNode_of_plainCss (plain : sassTarget? arg = none) :
    importNode fs loadPaths chain importer arg = .ok (.plainCss arg none []) := by
  unfold importNode
  simp only [plain]

theorem importNode_of_missing (named : sassTarget? arg = some target)
    (missing : resolve fs (importer.dir :: loadPaths) target = none) :
    importNode fs loadPaths chain importer arg = .error (.notFound target importer.file) := by
  unfold importNode
  simp only [named]
  split
  · rfl
  · next path found => cases missing.symm.trans found

theorem importNode_of_found (named : sassTarget? arg = some target)
    (found : resolve fs (importer.dir :: loadPaths) target = some path) :
    importNode fs loadPaths chain importer arg =
      if path.hasExtension "css" then .ok (.imported target (.root (some path) []) none [])
      else if new : chain.contains path = false then do
        let source ← readStylesheet fs path
        let nodes ← statementNodes fs loadPaths (chain.push path (isFile_of_resolve found) new)
          (.ofFile path) (statements (.ofPath path) source)
        return .imported target (.root (some path) nodes) none []
      else .error (.importLoop path) := by
  unfold importNode
  simp only [named]
  split
  · next missing => cases missing.symm.trans found
  · next path' found' =>
    obtain rfl := Option.some.inj (found'.symm.trans found)
    rfl

end Argument

/-- What comes of an import argument whose scan succeeds. -/
inductive ArgumentScan (fs : FileSystem) (loadPaths : List Path) (chain : Chain fs)
    (importer : Importer) (arg : String) : ImportTree → Prop
  | plainCss (plain : sassTarget? arg = none) :
      ArgumentScan fs loadPaths chain importer arg (.plainCss arg none [])
  | cssFile {target path} (named : sassTarget? arg = some target)
      (found : resolve fs (importer.dir :: loadPaths) target = some path)
      (css : path.hasExtension "css" = true) :
      ArgumentScan fs loadPaths chain importer arg (.imported target (.root (some path) []) none [])
  | stylesheet {target path source nodes} (named : sassTarget? arg = some target)
      (found : resolve fs (importer.dir :: loadPaths) target = some path)
      (sheet : path.hasExtension "css" = false) (new : chain.contains path = false)
      (read : readStylesheet fs path = .ok source)
      (scanned : statementNodes fs loadPaths (chain.push path (isFile_of_resolve found) new)
        (.ofFile path) (statements (.ofPath path) source) = .ok nodes) :
      ArgumentScan fs loadPaths chain importer arg
        (.imported target (.root (some path) nodes) none [])

theorem importNode_eq_ok {arg : String} {node : ImportTree} :
    importNode fs loadPaths chain importer arg = .ok node ↔
      ArgumentScan fs loadPaths chain importer arg node := by
  constructor
  · intro h
    cases named : sassTarget? arg with
    | none =>
      rw [importNode_of_plainCss named] at h
      cases h
      exact .plainCss named
    | some target =>
      cases found : resolve fs (importer.dir :: loadPaths) target with
      | none =>
        rw [importNode_of_missing named found] at h
        cases h
      | some path =>
        rw [importNode_of_found named found] at h
        split_ifs at h with css new
        · cases h
          exact .cssFile named found css
        · obtain ⟨source, read, h⟩ := bind_eq_ok.mp h
          obtain ⟨nodes, scanned, h⟩ := bind_eq_ok.mp h
          cases h
          exact .stylesheet named found (Bool.eq_false_iff.mpr css) new read scanned
  · intro h
    cases h with
    | plainCss plain => exact importNode_of_plainCss plain
    | cssFile named found css => rw [importNode_of_found named found, if_pos css]
    | stylesheet named found sheet new read scanned =>
      rw [importNode_of_found named found, if_neg (Bool.eq_false_iff.mp sheet), dif_pos new]
      exact bind_eq_ok.mpr ⟨_, read, bind_eq_ok.mpr ⟨_, scanned, rfl⟩⟩

theorem argumentNodes_nil : argumentNodes fs loadPaths chain importer [] = .ok [] := by
  rw [argumentNodes]

theorem argumentNodes_cons_eq_ok {arg : String} {args : List String} {nodes : List ImportTree} :
    argumentNodes fs loadPaths chain importer (arg :: args) = .ok nodes ↔
      ∃ node rest, importNode fs loadPaths chain importer arg = .ok node ∧
        argumentNodes fs loadPaths chain importer args = .ok rest ∧ node :: rest = nodes := by
  rw [argumentNodes, bind_eq_ok]
  simp only [bind_eq_ok, pure, Except.pure, Except.ok.injEq, exists_and_left]

/-! ## Statements -/

section Statement

variable {args : List String} {others : List Statement} {nodes : List ImportTree}

theorem statementNodes_nil : statementNodes fs loadPaths chain importer [] = .ok [] := by
  rw [statementNodes]

theorem statementNodes_load_eq_ok :
    statementNodes fs loadPaths chain importer (.load args :: others) = .ok nodes ↔
      ∃ first rest, argumentNodes fs loadPaths chain importer args = .ok first ∧
        statementNodes fs loadPaths chain importer others = .ok rest ∧ first ++ rest = nodes := by
  rw [statementNodes, bind_eq_ok]
  simp only [bind_eq_ok, pure, Except.pure, Except.ok.injEq, exists_and_left]

theorem statementNodes_block_eq_ok :
    statementNodes fs loadPaths chain importer (.block args :: others) = .ok nodes ↔
      ∃ inner rest, argumentNodes fs loadPaths chain importer args = .ok inner ∧
        statementNodes fs loadPaths chain importer others = .ok rest ∧
        .rule none inner :: rest = nodes := by
  rw [statementNodes, bind_eq_ok]
  simp only [bind_eq_ok, pure, Except.pure, Except.ok.injEq, exists_and_left]

end Statement

/-! ## From arguments to statements -/

section Node

variable {P : ImportTree → Prop}
  (hnode : ∀ arg node, importNode fs loadPaths chain importer arg = .ok node → P node)

include hnode

theorem forall_of_argumentNodes {args : List String} {nodes : List ImportTree}
    (h : argumentNodes fs loadPaths chain importer args = .ok nodes) : ∀ node ∈ nodes, P node := by
  induction args generalizing nodes with
  | nil =>
    cases argumentNodes_nil.symm.trans h
    exact fun _ hmem ↦ (nomatch hmem)
  | cons arg args ih =>
    obtain ⟨node, rest, hfirst, hrest, rfl⟩ := argumentNodes_cons_eq_ok.mp h
    exact List.forall_mem_cons.mpr ⟨hnode arg node hfirst, ih hrest⟩

/-- What holds of the node of every argument, and of a block if it holds of all nodes in it, holds
of the nodes of statements. -/
theorem forall_of_statementNodes (hrule : ∀ inner, (∀ node ∈ inner, P node) → P (.rule none inner))
    {sts : List Statement} {nodes : List ImportTree}
    (h : statementNodes fs loadPaths chain importer sts = .ok nodes) : ∀ node ∈ nodes, P node := by
  induction sts generalizing nodes with
  | nil =>
    cases statementNodes_nil.symm.trans h
    exact fun _ hmem ↦ (nomatch hmem)
  | cons statement sts ih =>
    cases statement with
    | load args =>
      obtain ⟨first, rest, hfirst, hrest, rfl⟩ := statementNodes_load_eq_ok.mp h
      exact List.forall_mem_append.mpr ⟨forall_of_argumentNodes hnode hfirst, ih hrest⟩
    | block args =>
      obtain ⟨inner, rest, hinner, hrest, rfl⟩ := statementNodes_block_eq_ok.mp h
      exact List.forall_mem_cons.mpr
        ⟨hrule inner (forall_of_argumentNodes hnode hinner), ih hrest⟩

end Node

end StyleGuide.Imports
