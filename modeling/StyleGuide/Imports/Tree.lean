import StyleGuide.Path

/-!
# Import trees

What a stylesheet pulls in. A root is one stylesheet; an import holds the root of the stylesheet it
names; a rule holds the imports written inside a block; a plain CSS import holds nothing. Any node
may carry a file and children of its own. Listing the stylesheets of a tree follows imports only.
-/

namespace StyleGuide

inductive ImportTree where
  | root (file : Option Path) (children : List ImportTree)
  | imported (target : String) (tree : ImportTree) (file : Option Path)
      (children : List ImportTree)
  | rule (file : Option Path) (children : List ImportTree)
  | plainCss (url : String) (file : Option Path) (children : List ImportTree)
deriving Inhabited

namespace ImportTree

def file : ImportTree → Option Path
  | root f _ => f
  | imported _ _ f _ => f
  | rule f _ => f
  | plainCss _ f _ => f

/-- The children of the node itself, without the tree of an import. -/
def children : ImportTree → List ImportTree
  | root _ cs => cs
  | imported _ _ _ cs => cs
  | rule _ cs => cs
  | plainCss _ _ cs => cs

def importedTree : ImportTree → Option ImportTree
  | imported _ t _ _ => some t
  | _ => none

def ownStylesheet (t : ImportTree) : List Path :=
  (t.file.filter Path.isStylesheet).toList

mutual

/-- The stylesheets of a tree: the node's own, then those of its imports from left to right. -/
def stylesheets : ImportTree → List Path
  | root f cs => (f.filter Path.isStylesheet).toList ++ importedStylesheets cs
  | imported _ _ f cs => (f.filter Path.isStylesheet).toList ++ importedStylesheets cs
  | rule f cs => (f.filter Path.isStylesheet).toList ++ importedStylesheets cs
  | plainCss _ f cs => (f.filter Path.isStylesheet).toList ++ importedStylesheets cs

def importedStylesheets : List ImportTree → List Path
  | [] => []
  | imported _ t _ _ :: rest => t.stylesheets ++ importedStylesheets rest
  | _ :: rest => importedStylesheets rest

end

/-- Replacing a tree by the trees it imports makes what is pending smaller. -/
theorem sizeOf_importedTrees_lt (t : ImportTree) (rest : List ImportTree) :
    sizeOf (t.children.filterMap importedTree ++ rest) < sizeOf (t :: rest) := by
  have imports (cs : List ImportTree) :
      sizeOf (cs.filterMap importedTree ++ rest) + 1 ≤ sizeOf cs + sizeOf rest := by
    induction cs with
    | nil =>
      rw [List.filterMap_nil, List.nil_append, List.nil.sizeOf_spec]
      omega
    | cons c cs ih => cases c <;> simp [List.filterMap_cons, importedTree] <;> omega
  have := imports t.children
  have smaller : sizeOf t.children < sizeOf t := by
    cases t <;>
      simp only [children, root.sizeOf_spec, imported.sizeOf_spec, rule.sizeOf_spec,
        plainCss.sizeOf_spec] <;>
      omega
  simp only [List.cons.sizeOf_spec]
  omega

/-- Lists the stylesheets of trees with an explicit stack of what is still to be visited. -/
def flattenAll : List ImportTree → List Path
  | [] => []
  | t :: rest => t.ownStylesheet ++ flattenAll (t.children.filterMap importedTree ++ rest)
termination_by pending => sizeOf pending
decreasing_by exact sizeOf_importedTrees_lt t rest

/-- The stylesheets of a tree, in the order of imports and as often as they are imported. -/
def flatten (t : ImportTree) : List Path :=
  flattenAll [t]

end ImportTree

end StyleGuide
