import StyleGuide.Imports.Tree

/-!
# Walks over import trees

Visiting trees with a stack of what is pending lists the same stylesheets as the recursion over one
tree after the other. The recursion follows imports and nothing else: below the root of a tree it
does not look at what rules and plain CSS imports hold, nor at the file and the children an import
has of its own.
-/

namespace StyleGuide.ImportTree

theorem importedStylesheets_eq (nodes : List ImportTree) :
    importedStylesheets nodes = (nodes.filterMap importedTree).flatMap stylesheets := by
  induction nodes with
  | nil => rfl
  | cons node nodes ih =>
    cases node with
    | imported target tree file children =>
      rw [importedStylesheets, ih]
      rfl
    | _ => exact ih

@[simp]
theorem importedStylesheets_append (nodes more : List ImportTree) :
    importedStylesheets (nodes ++ more) =
      importedStylesheets nodes ++ importedStylesheets more := by
  simp only [importedStylesheets_eq, List.filterMap_append, List.flatMap_append]

theorem importedStylesheets_cons (node : ImportTree) (nodes : List ImportTree) :
    importedStylesheets (node :: nodes) =
      importedStylesheets [node] ++ importedStylesheets nodes :=
  importedStylesheets_append [node] nodes

/-- The stylesheets of a tree are those of its root and of all that it imports. -/
theorem stylesheets_eq (t : ImportTree) :
    t.stylesheets = t.ownStylesheet ++ importedStylesheets t.children := by
  cases t <;> rfl

theorem flattenAll_eq_flatMap (pending : List ImportTree) :
    flattenAll pending = pending.flatMap stylesheets := by
  induction pending using flattenAll.induct with
  | case1 => rw [flattenAll, List.flatMap_nil]
  | case2 t rest ih =>
    calc
      _ = t.ownStylesheet ++ flattenAll (t.children.filterMap importedTree ++ rest) := by
        rw [flattenAll]
      _ = t.ownStylesheet ++ importedStylesheets t.children ++ rest.flatMap stylesheets := by
        rw [ih, List.flatMap_append, ← importedStylesheets_eq, List.append_assoc]
      _ = (t :: rest).flatMap stylesheets := by rw [← stylesheets_eq, List.flatMap_cons]

/-- A CSS file that is imported is no stylesheet to list. -/
theorem importedStylesheets_cssFile {target : String} {p : Path}
    (css : p.hasExtension "css" = true) :
    importedStylesheets [.imported target (.root (some p) []) none []] = [] := by
  have hextension : p.extension = some "css".toList := beq_iff_eq.mp css
  have hsheet : p.isStylesheet = false := by
    unfold Path.isStylesheet Path.hasExtension
    rw [hextension]
    decide
  simp [importedStylesheets, stylesheets, Option.filter, hsheet]

/-- The walk with a stack does what the recursion does. -/
theorem flatten_eq_stylesheets (t : ImportTree) : t.flatten = t.stylesheets := by
  rw [flatten, flattenAll_eq_flatMap, List.flatMap_singleton]

/-! ## What a walk does not look at -/

mutual

/-- The same file at the root, and the same imports below it. -/
inductive Resembles : ImportTree → ImportTree → Prop
  | intro {t t' : ImportTree} (file : t.file = t'.file)
      (children : AllResemble t.children t'.children) : Resembles t t'

/-- Nodes in whose place there are others. An import stays one, and its tree is resembled; its
target and what it carries itself may be anything. So may a node that is no import. -/
inductive AllResemble : List ImportTree → List ImportTree → Prop
  | nil : AllResemble [] []
  | imported {target target' : String} {t t' : ImportTree} {file file' : Option Path}
      {children children' nodes nodes' : List ImportTree} (tree : Resembles t t')
      (rest : AllResemble nodes nodes') :
      AllResemble (.imported target t file children :: nodes)
        (.imported target' t' file' children' :: nodes')
  | other {node node' : ImportTree} {nodes nodes' : List ImportTree}
      (noImport : node.importedTree = none) (noImport' : node'.importedTree = none)
      (rest : AllResemble nodes nodes') : AllResemble (node :: nodes) (node' :: nodes')

end

theorem importedStylesheets_of_noImport {node : ImportTree} (h : node.importedTree = none)
    (nodes : List ImportTree) :
    importedStylesheets (node :: nodes) = importedStylesheets nodes := by
  rw [importedStylesheets_eq, importedStylesheets_eq, List.filterMap_cons, h]

mutual

theorem Resembles.stylesheets_eq {t t' : ImportTree} : Resembles t t' →
    t'.stylesheets = t.stylesheets
  | .intro file children => by
    rw [ImportTree.stylesheets_eq, ImportTree.stylesheets_eq, children.importedStylesheets_eq]
    unfold ownStylesheet
    rw [file]

theorem AllResemble.importedStylesheets_eq {nodes nodes' : List ImportTree} :
    AllResemble nodes nodes' → importedStylesheets nodes' = importedStylesheets nodes
  | .nil => rfl
  | .imported tree rest => by
    rw [importedStylesheets, importedStylesheets, tree.stylesheets_eq, rest.importedStylesheets_eq]
  | .other noImport noImport' rest => by
    rw [importedStylesheets_of_noImport noImport, importedStylesheets_of_noImport noImport',
      rest.importedStylesheets_eq]

end

/-- A walk lists the file of the root, if it is a stylesheet, and then what is listed for the tree
of each import among the children of the root, from left to right. This is all it lists: the root
counts with its file and its children, whatever kind of node it is, and below it only the trees of
imports do. -/
theorem flatten_preorder (t : ImportTree) :
    t.flatten = (t.file.filter Path.isStylesheet).toList ++
        (t.children.filterMap importedTree).flatMap flatten ∧
      ∀ t', Resembles t t' → t'.flatten = t.flatten := by
  have hflatten : flatten = stylesheets := funext flatten_eq_stylesheets
  rw [hflatten]
  constructor
  · rw [stylesheets_eq, importedStylesheets_eq]
    rfl
  · intro t' h
    exact h.stylesheets_eq

/-- A tree whose import has a file of its own, beside a rule and a plain CSS import. -/
def carryingTree : ImportTree :=
  .root (some ⟨"a.scss"⟩)
    [.rule (some ⟨"x.scss"⟩) [.imported "y" (.root (some ⟨"y.scss"⟩) []) none []],
      .imported "b" (.root (some ⟨"b.sass"⟩) [.plainCss "c.css" (some ⟨"c.scss"⟩) []])
        (some ⟨"d.scss"⟩) [.imported "e" (.root (some ⟨"e.scss"⟩) []) none []]]

/-- The same tree with nothing in these places. -/
def bareTree : ImportTree :=
  .root (some ⟨"a.scss"⟩)
    [.rule none [], .imported "b" (.root (some ⟨"b.sass"⟩) [.plainCss "c.css" none []]) none []]

theorem flatten_carryingTree :
    Resembles carryingTree bareTree ∧ bareTree.flatten = carryingTree.flatten ∧
      carryingTree.flatten = [⟨"a.scss"⟩, ⟨"b.sass"⟩] := by
  have hresembles : Resembles carryingTree bareTree :=
    .intro rfl <| .other rfl rfl <| .imported (.intro rfl (.other rfl rfl .nil)) .nil
  refine ⟨hresembles, (flatten_preorder carryingTree).2 bareTree hresembles, ?_⟩
  rw [flatten_eq_stylesheets]
  decide +kernel

end StyleGuide.ImportTree
