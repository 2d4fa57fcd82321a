import StyleGuide.Proofs.Imports.Alongside
import StyleGuide.Proofs.Imports.Loops

/-!
# Subtrees of scans

The tree of a file is the same wherever the file is imported. What a scan knows of its past is the
chain of files it came by, and that chain can only refuse: a scan that succeeds behind a chain does
the same behind one that contains less. So every tree that a scan has made for an import is the tree
that a scan of the imported file makes on its own.
-/

namespace StyleGuide

/-- A node stands somewhere in a tree: it is the tree, or it stands in one of its children or in the
tree that it imports. -/
inductive ImportTree.Within (node : ImportTree) : ImportTree → Prop
  | here : Within node node
  | child {t c} (mem : c ∈ t.children) (inside : Within node c) : Within node t
  | imported {t tree} (imports : t.importedTree = some tree) (inside : Within node tree) :
      Within node t

namespace Imports

variable {fs : FileSystem} {loadPaths : List Path} {chain chain' : Chain fs} {importer : Importer}

/-! ## Chains that contain less -/

/-- Everything that is being scanned along one chain is being scanned along another. -/
def Chain.Fewer (chain' chain : Chain fs) : Prop :=
  ∀ p, chain'.contains p = true → chain.contains p = true

theorem Chain.Fewer.new (h : chain'.Fewer chain) {p : Path} (new : chain.contains p = false) :
    chain'.contains p = false :=
  Bool.eq_false_iff.mpr fun hcontains ↦ Bool.false_ne_true (new.symm.trans (h p hcontains))

theorem Chain.Fewer.push (h : chain'.Fewer chain) {p : Path} {file : fs.isFile p = true}
    {new : chain.contains p = false} (new' : chain'.contains p = false) :
    (chain'.push p file new').Fewer (chain.push p file new) := by
  intro q hq
  rw [Chain.contains_iff, Chain.has_push] at hq ⊢
  refine hq.imp_right fun hhas ↦ ?_
  exact Chain.contains_iff.mp (h q (Chain.contains_iff.mpr hhas))

/-- A chain of one file contains no more than any chain that has just entered the file. -/
theorem Chain.fewer_start {p : Path} {file : fs.isFile p = true} {new : chain.contains p = false} :
    (Chain.start fs (some p)).Fewer (chain.push p file new) := by
  intro q hq
  rw [Chain.contains_iff] at hq ⊢
  rcases hq with hroot | ⟨r, hr, -⟩
  · exact Chain.has_push.mpr (.inl (Option.some.inj hroot ▸ rfl))
  · cases hr

/-- A scan that succeeds behind a chain does the same behind one that contains less. -/
theorem statementNodes_of_fewer (fewer : chain'.Fewer chain) {sts : List Statement}
    {nodes : List ImportTree} (h : statementNodes fs loadPaths chain importer sts = .ok nodes) :
    statementNodes fs loadPaths chain' importer sts = .ok nodes := by
  -- The chain grows with every file that is entered, so the room in it bounds the recursion.
  induction hroom : chain.room using Nat.strongRecOn
    generalizing chain chain' importer sts nodes with
  | ind room ih =>
    refine statementNodes_of_carried (fun arg node hnode ↦ importNode_eq_ok.mpr ?_) h
    cases importNode_eq_ok.mp hnode with
    | plainCss plain => exact .plainCss plain
    | cssFile named found css => exact .cssFile named found css
    | stylesheet named found sheet new read scanned =>
      have hlt := chain.room_push_lt _ (isFile_of_resolve found) new
      have hnew := fewer.new new
      have hscanned := ih _ (hroom ▸ hlt) (fewer.push hnew) scanned rfl
      exact .stylesheet named found sheet hnew read hscanned

/-! ## Trees of imports -/

/-- Every import in a tree has the tree that a scan of the imported file makes; CSS files are not
scanned. -/
def Faithful (fs : FileSystem) (loadPaths : List Path) (t : ImportTree) : Prop :=
  ∀ (node tree : ImportTree) (p : Path), node.Within t → node.importedTree = some tree →
    tree.file = some p → p.hasExtension "css" = false → scanFile fs loadPaths p = .ok tree

theorem faithful_of_children {t : ImportTree} (hnone : t.importedTree = none)
    (h : ∀ c ∈ t.children, Faithful fs loadPaths c) : Faithful fs loadPaths t := by
  intro node tree p within imports file sheet
  cases within with
  | here => cases hnone.symm.trans imports
  | child mem inside => exact h _ mem node tree p inside imports file sheet
  | imported imports' inside => cases hnone.symm.trans imports'

theorem Faithful.imported {target : String} {t : ImportTree} {p : Path} (file : t.file = some p)
    (h : Faithful fs loadPaths t)
    (scanned : p.hasExtension "css" = false → scanFile fs loadPaths p = .ok t) :
    Faithful fs loadPaths (.imported target t none []) := by
  intro node tree q within imports file' sheet
  cases within with
  | here =>
    cases imports
    cases file.symm.trans file'
    exact scanned sheet
  | child mem inside => cases mem
  | imported imports' inside =>
    cases imports'
    exact h node tree q inside imports file' sheet

theorem faithful_of_statementNodes {sts : List Statement} {nodes : List ImportTree}
    (h : statementNodes fs loadPaths chain importer sts = .ok nodes) :
    ∀ node ∈ nodes, Faithful fs loadPaths node := by
  induction hroom : chain.room using Nat.strongRecOn
    generalizing chain importer sts nodes with
  | ind room ih =>
    refine forall_of_statementNodes (fun arg node hnode ↦ ?_)
      (fun _ hinner ↦ faithful_of_children rfl hinner) h
    cases importNode_eq_ok.mp hnode with
    | plainCss plain => exact faithful_of_children rfl fun _ hmem ↦ (nomatch hmem)
    | cssFile named found css =>
      refine .imported rfl (faithful_of_children rfl fun _ hmem ↦ (nomatch hmem)) fun sheet ↦ ?_
      cases css.symm.trans sheet
    | @stylesheet target path source nodes named found sheet new read scanned =>
      have hlt := chain.room_push_lt path (isFile_of_resolve found) new
      have hinner := ih _ (hroom ▸ hlt) scanned rfl
      refine .imported rfl (faithful_of_children rfl hinner) fun _ ↦ ?_
      -- A scan of the file alone starts with the chain that has nothing but the file.
      have halone := statementNodes_of_fewer Chain.fewer_start scanned
      exact bind_eq_ok.mpr ⟨source, read, bind_eq_ok.mpr ⟨nodes, halone, rfl⟩⟩

theorem faithful_scanSource {file : Option Path} {dir : Path} {source : String} {t : ImportTree}
    (h : scanSource fs loadPaths file dir source = .ok t) : Faithful fs loadPaths t := by
  obtain ⟨nodes, hnodes, ht⟩ := bind_eq_ok.mp h
  cases ht
  exact faithful_of_children rfl (faithful_of_statementNodes hnodes)

/-- Wherever an import stands in the tree of a source or of a file, its tree is that of a scan of
the imported file. -/
theorem scanFile_of_within (fs : FileSystem) (loadPaths : List Path) (t : ImportTree)
    (scanned : (∃ file dir source, scanSource fs loadPaths file dir source = .ok t) ∨
      ∃ q, scanFile fs loadPaths q = .ok t)
    (node tree : ImportTree) (p : Path) (within : node.Within t)
    (imports : node.importedTree = some tree) (file : tree.file = some p)
    (sheet : p.hasExtension "css" = false) : scanFile fs loadPaths p = .ok tree := by
  have hfaithful : Faithful fs loadPaths t := by
    rcases scanned with ⟨root, dir, source, h⟩ | ⟨q, h⟩
    · exact faithful_scanSource h
    · obtain ⟨source, -, hsource⟩ := bind_eq_ok.mp h
      exact faithful_scanSource hsource
  exact hfaithful node tree p within imports file sheet

/-- A place with a stylesheet that imports another one in a block. -/
def nestedImport : FileSystem :=
  (FileTable.mk [(⟨"_a.sass"⟩, .content "p\n  @import b".toUTF8),
    (⟨"_b.scss"⟩, .content "$margin: 0;".toUTF8)]).toFileSystem

def innerImport : ImportTree :=
  .imported "b" (.root (some ⟨"_b.scss"⟩) []) none []

def nestedImportTree : ImportTree :=
  .root none [.imported "a" (.root (some ⟨"_a.sass"⟩) [.rule none [innerImport]]) none []]

theorem scanFile_innerImport :
    scanSource nestedImport [] none ⟨"."⟩ "@import \"a\";" = .ok nestedImportTree ∧
    innerImport.Within nestedImportTree ∧
    scanFile nestedImport [] ⟨"_b.scss"⟩ = .ok (.root (some ⟨"_b.scss"⟩) []) := by
  have hsource : statements .scss "@import \"a\";" = [.load ["\"a\""]] := by decide +kernel
  have houter : statements (.ofPath ⟨"_a.sass"⟩) "p\n  @import b" = [.block ["b"]] := by
    decide +kernel
  have hinner : statements (.ofPath ⟨"_b.scss"⟩) "$margin: 0;" = [] := by decide +kernel
  have hreadOuter : readStylesheet nestedImport ⟨"_a.sass"⟩ = .ok "p\n  @import b" := by
    decide +kernel
  have hreadInner : readStylesheet nestedImport ⟨"_b.scss"⟩ = .ok "$margin: 0;" := by
    decide +kernel
  have hchain : (Chain.start nestedImport none).contains ⟨"_a.sass"⟩ = false := rfl
  have hfile : nestedImport.isFile ⟨"_a.sass"⟩ = true := by decide +kernel
  have hdifferent : (Path.mk "_a.sass").same ⟨"_b.scss"⟩ = false := by decide +kernel
  have hb : importNode nestedImport []
      ((Chain.start nestedImport none).push ⟨"_a.sass"⟩ hfile hchain) (.ofFile ⟨"_a.sass"⟩) "b" =
        .ok innerImport :=
    importNode_eq_ok.mpr (.stylesheet (by decide +kernel) (by decide +kernel) (by decide +kernel)
      (by simp [Chain.contains, Chain.push, Chain.start, hdifferent]) hreadInner
      (hinner ▸ statementNodes_nil))
  have ha : importNode nestedImport [] (.start _ none) ⟨none, ⟨"."⟩⟩ "\"a\"" = .ok
      (.imported "a" (.root (some ⟨"_a.sass"⟩) [.rule none [innerImport]]) none []) :=
    importNode_eq_ok.mpr (.stylesheet (by decide +kernel) (by decide +kernel) (by decide +kernel)
      hchain hreadOuter (houter ▸ statementNodes_block_eq_ok.mpr ⟨_, _,
        argumentNodes_cons_eq_ok.mpr ⟨_, _, hb, argumentNodes_nil, rfl⟩, statementNodes_nil, rfl⟩))
  have hscan : scanSource nestedImport [] none ⟨"."⟩ "@import \"a\";" = .ok nestedImportTree := by
    refine bind_eq_ok.mpr ⟨_, ?_, rfl⟩
    change statementNodes _ _ _ _ (statements .scss "@import \"a\";") = _
    rw [hsource]
    exact statementNodes_load_eq_ok.mpr ⟨_, _,
      argumentNodes_cons_eq_ok.mpr ⟨_, _, ha, argumentNodes_nil, rfl⟩, statementNodes_nil, rfl⟩
  have hwithin : innerImport.Within nestedImportTree :=
    .child List.mem_cons_self (.imported rfl (.child List.mem_cons_self
      (.child List.mem_cons_self .here)))
  exact ⟨hscan, hwithin, scanFile_of_within nestedImport [] nestedImportTree
    (.inl ⟨none, ⟨"."⟩, _, hscan⟩) innerImport _ ⟨"_b.scss"⟩ hwithin rfl rfl (by decide +kernel)⟩

end Imports

end StyleGuide
