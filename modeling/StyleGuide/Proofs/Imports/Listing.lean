import Mathlib.Data.List.Perm.Basic
import Mathlib.Data.Set.Card
import StyleGuide.Proofs.Imports.Graph
import StyleGuide.Proofs.Imports.Walk

/-!
# Listings of import graphs

The stylesheets that are listed for a page are those of its import graph. `Lists` gives the list on
the graph alone: a stylesheet's own file, followed by the lists of those that its imports at the top
level lead to. A scan that succeeds makes a tree whose walk is this list. By routes, the list has
every file once for each way to it, in the order of the ways.
-/

namespace StyleGuide.Imports

variable {fs : FileSystem} {loadPaths : List Path}

/-- The files of the import graph below some arguments: for each that leads to a stylesheet, its own
file and those of its imports. Nothing is listed for plain CSS imports and for CSS files. -/
inductive ListsImports (fs : FileSystem) (loadPaths : List Path) :
    Importer → List String → List Path → Prop
  | nil {importer} : ListsImports fs loadPaths importer [] []
  | plainCss {importer arg args files} (plain : sassTarget? arg = none)
      (rest : ListsImports fs loadPaths importer args files) :
      ListsImports fs loadPaths importer (arg :: args) files
  | cssFile {importer arg args files target path} (named : sassTarget? arg = some target)
      (found : resolve fs (importer.dir :: loadPaths) target = some path)
      (css : path.hasExtension "css" = true)
      (rest : ListsImports fs loadPaths importer args files) :
      ListsImports fs loadPaths importer (arg :: args) files
  | stylesheet {importer arg args s imported files}
      (enters : Enters fs loadPaths importer arg s)
      (imports : ListsImports fs loadPaths s.importer s.loads imported)
      (rest : ListsImports fs loadPaths importer args files) :
      ListsImports fs loadPaths importer (arg :: args) (s.ownFile.toList ++ imported ++ files)

def Lists (fs : FileSystem) (loadPaths : List Path) (s : Stylesheet) (files : List Path) : Prop :=
  ∃ imported, ListsImports fs loadPaths s.importer s.loads imported ∧
    files = s.ownFile.toList ++ imported

/-! ## Scans -/

section Scan

variable {importer : Importer} {chain : Chain fs}

theorem ListsImports.append {args args' : List String} {files files' : List Path}
    (h : ListsImports fs loadPaths importer args files)
    (h' : ListsImports fs loadPaths importer args' files') :
    ListsImports fs loadPaths importer (args ++ args') (files ++ files') := by
  induction args generalizing files with
  | nil =>
    cases h
    exact h'
  | cons arg args ih =>
    cases h with
    | plainCss plain rest => exact .plainCss plain (ih rest)
    | cssFile named found css rest => exact .cssFile named found css (ih rest)
    | stylesheet enters imports rest =>
      rw [List.append_assoc]
      exact .stylesheet enters imports (ih rest)

/-- Every node that arguments become has the files that its argument lists. -/
theorem listsImports_of_argumentNodes
    (hnode : ∀ arg node, importNode fs loadPaths chain importer arg = .ok node →
      ListsImports fs loadPaths importer [arg] (ImportTree.importedStylesheets [node]))
    {args : List String} {nodes : List ImportTree}
    (h : argumentNodes fs loadPaths chain importer args = .ok nodes) :
    ListsImports fs loadPaths importer args (ImportTree.importedStylesheets nodes) := by
  induction args generalizing nodes with
  | nil =>
    cases argumentNodes_nil.symm.trans h
    exact .nil
  | cons arg args ih =>
    obtain ⟨node, rest, hfirst, hrest, rfl⟩ := argumentNodes_cons_eq_ok.mp h
    rw [ImportTree.importedStylesheets_cons]
    exact (hnode arg node hfirst).append (ih hrest)

/-- What blocks import is in the tree, but it is not listed. -/
theorem listsImports_of_statementNodes_of_importNode
    (hnode : ∀ arg node, importNode fs loadPaths chain importer arg = .ok node →
      ListsImports fs loadPaths importer [arg] (ImportTree.importedStylesheets [node]))
    {sts : List Statement} {nodes : List ImportTree}
    (h : statementNodes fs loadPaths chain importer sts = .ok nodes) :
    ListsImports fs loadPaths importer (sts.flatMap Statement.topLevel)
      (ImportTree.importedStylesheets nodes) := by
  induction sts generalizing nodes with
  | nil =>
    cases statementNodes_nil.symm.trans h
    exact .nil
  | cons statement sts ih =>
    cases statement with
    | load args =>
      obtain ⟨first, rest, hfirst, hrest, rfl⟩ := statementNodes_load_eq_ok.mp h
      rw [ImportTree.importedStylesheets_append]
      exact (listsImports_of_argumentNodes hnode hfirst).append (ih hrest)
    | block args =>
      obtain ⟨inner, rest, -, hrest, rfl⟩ := statementNodes_block_eq_ok.mp h
      have hlisted := ih hrest
      exact hlisted

theorem listsImports_of_statementNodes {sts : List Statement} {nodes : List ImportTree}
    (h : statementNodes fs loadPaths chain importer sts = .ok nodes) :
    ListsImports fs loadPaths importer (sts.flatMap Statement.topLevel)
      (ImportTree.importedStylesheets nodes) := by
  -- The chain grows with every file that is entered, so the room in it bounds the recursion.
  induction hroom : chain.room using Nat.strong_induction_on generalizing chain importer sts nodes with
  | _ room ih =>
    refine listsImports_of_statementNodes_of_importNode (fun arg node hnode ↦ ?_) h
    cases importNode_eq_ok.mp hnode with
    | plainCss plain => exact .plainCss plain .nil
    | cssFile named found css =>
      rw [ImportTree.importedStylesheets_cssFile css]
      exact .cssFile named found css .nil
    | @stylesheet target path source nodes named found sheet new read scanned =>
      have hlt := chain.room_push_lt path (isFile_of_resolve found) new
      have himports := ih _ (hroom ▸ hlt) scanned rfl
      exact .stylesheet (.intro named found sheet read) himports .nil

theorem lists_of_scanSource {file : Option Path} {dir : Path} {source : String} {t : ImportTree}
    (h : scanSource fs loadPaths file dir source = .ok t) :
    Lists fs loadPaths (.ofSource file dir source) t.flatten := by
  obtain ⟨nodes, hnodes, ht⟩ := bind_eq_ok.mp h
  cases ht
  rw [ImportTree.flatten_eq_stylesheets]
  exact ⟨_, listsImports_of_statementNodes hnodes, rfl⟩

end Scan

/-! ## Routes -/

/-- The routes that take one of some arguments first, the first of which has a certain position. -/
def LeadsThrough (fs : FileSystem) (loadPaths : List Path) (importer : Importer)
    (args : List String) (position : Nat) (route : List Nat) (p : Path) : Prop :=
  ∃ i arg s onward, args[i]? = some arg ∧ Enters fs loadPaths importer arg s ∧
    LeadsTo fs loadPaths s onward p ∧ route = (position + i) :: onward

/-- Some files with the routes to them, in the order of the routes. Every route is there. -/
structure Routed (leads : List Nat → Path → Prop) (files : List Path)
    (routes : List (List Nat × Path)) : Prop where
  files_eq : routes.map Prod.snd = files
  sorted : (routes.map Prod.fst).Pairwise (· < ·)
  mem_iff : ∀ route p, (route, p) ∈ routes ↔ leads route p

theorem leadsTo_iff {s : Stylesheet} {route : List Nat} {p : Path} :
    LeadsTo fs loadPaths s route p ↔
      (route = [] ∧ s.ownFile = some p) ∨
        LeadsThrough fs loadPaths s.importer s.loads 0 route p := by
  constructor
  · intro h
    cases h with
    | here own => exact .inl ⟨rfl, own⟩
    | @through _ i arg s' onward _ stands enters next =>
      exact .inr ⟨i, arg, s', onward, stands, enters, next, by rw [Nat.zero_add]⟩
  · rintro (⟨rfl, own⟩ | ⟨i, arg, s', onward, stands, enters, next, rfl⟩)
    · exact .here own
    · rw [Nat.zero_add]
      exact .through stands enters next

theorem leadsThrough_nil {importer : Importer} {position : Nat} {route : List Nat} {p : Path} :
    ¬ LeadsThrough fs loadPaths importer [] position route p := by
  rintro ⟨i, arg, -, -, stands, -⟩
  cases stands

theorem leadsThrough_cons {importer : Importer} {arg : String} {args : List String}
    {position : Nat} {route : List Nat} {p : Path} :
    LeadsThrough fs loadPaths importer (arg :: args) position route p ↔
      (∃ s onward, Enters fs loadPaths importer arg s ∧ LeadsTo fs loadPaths s onward p ∧
        route = position :: onward) ∨
      LeadsThrough fs loadPaths importer args (position + 1) route p := by
  constructor
  · rintro ⟨i, arg', s, onward, stands, enters, leads, rfl⟩
    cases i with
    | zero =>
      cases stands
      exact .inl ⟨s, onward, enters, leads, rfl⟩
    | succ i =>
      have hposition : position + (i + 1) = position + 1 + i := by omega
      exact .inr ⟨i, arg', s, onward, stands, enters, leads, by rw [hposition]⟩
  · rintro (⟨s, onward, enters, leads, rfl⟩ | ⟨i, arg', s, onward, stands, enters, leads, rfl⟩)
    · exact ⟨0, arg, s, onward, rfl, enters, leads, rfl⟩
    · have hposition : position + 1 + i = position + (i + 1) := by omega
      exact ⟨i + 1, arg', s, onward, stands, enters, leads, by rw [hposition]⟩

/-- Every route through later arguments comes after those through earlier ones. -/
theorem LeadsThrough.lt {importer : Importer} {args : List String} {position : Nat}
    {route onward : List Nat} {p : Path}
    (h : LeadsThrough fs loadPaths importer args (position + 1) route p) :
    position :: onward < route := by
  obtain ⟨i, _, _, _, _, _, _, rfl⟩ := h
  exact List.cons_lt_cons_iff.mpr (.inl (by omega))

namespace Routed

variable {importer : Importer} {arg : String} {args : List String} {s : Stylesheet}
  {position : Nat} {files more : List Path} {routes later : List (List Nat × Path)}

/-- The empty route is that of a stylesheet's own file. -/
theorem leadsTo (h : Routed (LeadsThrough fs loadPaths s.importer s.loads 0) files routes) :
    Routed (LeadsTo fs loadPaths s) (s.ownFile.toList ++ files)
      (s.ownFile.toList.map ([], ·) ++ routes) where
  files_eq := by
    rw [List.map_append, h.files_eq, List.map_map]
    exact congrArg (· ++ files) (List.map_id _)
  sorted := by
    rw [List.map_append, List.pairwise_append]
    refine ⟨by cases s.ownFile <;> simp, h.sorted, fun route hroute route' hroute' ↦ ?_⟩
    obtain ⟨own, hown, rfl⟩ := List.mem_map.mp hroute
    obtain ⟨q, -, rfl⟩ := List.mem_map.mp hown
    obtain ⟨⟨_, p⟩, hp, rfl⟩ := List.mem_map.mp hroute'
    obtain ⟨i, -, -, onward, -, -, -, rfl⟩ := (h.mem_iff _ p).mp hp
    exact List.nil_lt_cons ..
  mem_iff route p := by
    rw [List.mem_append, h.mem_iff, leadsTo_iff]
    refine or_congr_left ⟨fun hown ↦ ?_, fun ⟨hroute, hown⟩ ↦ ?_⟩
    · obtain ⟨q, hq, heq⟩ := List.mem_map.mp hown
      cases heq
      exact ⟨rfl, Option.mem_toList.mp hq⟩
    · exact List.mem_map.mpr ⟨p, Option.mem_toList.mpr hown, by rw [hroute]⟩

/-- The routes through an argument that leads to no stylesheet are none. -/
theorem leave (hnone : ∀ s, ¬ Enters fs loadPaths importer arg s)
    (h : Routed (LeadsThrough fs loadPaths importer args (position + 1)) files routes) :
    Routed (LeadsThrough fs loadPaths importer (arg :: args) position) files routes where
  files_eq := h.files_eq
  sorted := h.sorted
  mem_iff route p := by
    rw [h.mem_iff, leadsThrough_cons]
    exact ⟨.inr, fun hor ↦ hor.resolve_left fun ⟨s, _, enters, _⟩ ↦ hnone s enters⟩

/-- The routes through an argument go on as those of the stylesheet it leads to. -/
theorem enter (enters : Enters fs loadPaths importer arg s)
    (first : Routed (LeadsTo fs loadPaths s) files routes)
    (rest : Routed (LeadsThrough fs loadPaths importer args (position + 1)) more later) :
    Routed (LeadsThrough fs loadPaths importer (arg :: args) position) (files ++ more)
      (routes.map (fun r ↦ (position :: r.1, r.2)) ++ later) where
  files_eq := by
    rw [List.map_append, List.map_map, ← first.files_eq, ← rest.files_eq]
    rfl
  sorted := by
    rw [List.map_append, List.map_map, List.pairwise_append]
    refine ⟨?_, rest.sorted, fun route hroute route' hroute' ↦ ?_⟩
    · have hsorted := List.pairwise_map.mp first.sorted
      exact List.pairwise_map.mpr (hsorted.imp fun hlt ↦ List.cons_lt_cons_self.mpr hlt)
    · obtain ⟨r, -, rfl⟩ := List.mem_map.mp hroute
      obtain ⟨⟨_, p⟩, hp, rfl⟩ := List.mem_map.mp hroute'
      exact ((rest.mem_iff _ p).mp hp).lt
  mem_iff route p := by
    rw [List.mem_append, rest.mem_iff, leadsThrough_cons]
    refine or_congr_left ⟨fun hmem ↦ ?_, fun ⟨s', onward, enters', leads, hroute⟩ ↦ ?_⟩
    · obtain ⟨⟨onward, q⟩, hq, heq⟩ := List.mem_map.mp hmem
      cases heq
      exact ⟨s, onward, enters, (first.mem_iff onward _).mp hq, rfl⟩
    · obtain rfl := enters.unique enters'
      exact List.mem_map.mpr ⟨(onward, p), (first.mem_iff onward p).mpr leads, by rw [hroute]⟩

end Routed

theorem ListsImports.routed {importer : Importer} {args : List String} {files : List Path}
    (h : ListsImports fs loadPaths importer args files) (position : Nat) :
    ∃ routes, Routed (LeadsThrough fs loadPaths importer args position) files routes := by
  induction h generalizing position with
  | nil =>
    exact ⟨[], rfl, .nil, fun route p ↦ ⟨fun h ↦ (nomatch h), fun h ↦ (leadsThrough_nil h).elim⟩⟩
  | plainCss plain _ ih =>
    obtain ⟨routes, hroutes⟩ := ih (position + 1)
    refine ⟨routes, hroutes.leave fun s enters ↦ ?_⟩
    obtain ⟨named⟩ := enters
    cases plain.symm.trans named
  | cssFile named found css _ ih =>
    obtain ⟨routes, hroutes⟩ := ih (position + 1)
    refine ⟨routes, hroutes.leave fun s enters ↦ ?_⟩
    obtain ⟨named', found', sheet⟩ := enters
    obtain rfl := Option.some.inj (named.symm.trans named')
    obtain rfl := Option.some.inj (found.symm.trans found')
    cases css.symm.trans sheet
  | stylesheet enters _ _ ih ih' =>
    obtain ⟨routes, hroutes⟩ := ih 0
    obtain ⟨later, hlater⟩ := ih' (position + 1)
    exact ⟨_, .enter enters hroutes.leadsTo hlater⟩

theorem Lists.routed {s : Stylesheet} {files : List Path} (h : Lists fs loadPaths s files) :
    ∃ routes, Routed (LeadsTo fs loadPaths s) files routes := by
  obtain ⟨imported, himports, rfl⟩ := h
  obtain ⟨routes, hroutes⟩ := himports.routed 0
  exact ⟨_, hroutes.leadsTo⟩

namespace Routed

variable {leads : List Nat → Path → Prop} {files files' : List Path}
  {routes routes' : List (List Nat × Path)}

theorem nodup (h : Routed leads files routes) : (routes.map Prod.fst).Nodup :=
  h.sorted.imp fun hlt heq ↦ absurd (heq ▸ hlt) (List.lt_irrefl _)

/-- There is one list of all routes in order. -/
theorem eq (h : Routed leads files routes) (h' : Routed leads files' routes') : files = files' := by
  have hperm : routes.Perm routes' :=
    (List.perm_ext_iff_of_nodup h.nodup.of_map h'.nodup.of_map).mpr fun ⟨route, p⟩ ↦
      (h.mem_iff route p).trans (h'.mem_iff route p).symm
  have hantisymm (r r' : List Nat × Path) (_ : r ∈ routes) (_ : r' ∈ routes') (hlt : r.1 < r'.1)
      (hgt : r'.1 < r.1) : r = r' := absurd hgt (List.lt_asymm hlt)
  have heq : routes = routes' := hperm.eq_of_pairwise hantisymm
    (List.pairwise_map.mp h.sorted) (List.pairwise_map.mp h'.sorted)
  calc
    files = routes.map Prod.snd := h.files_eq.symm
    _ = routes'.map Prod.snd := by rw [heq]
    _ = files' := h'.files_eq

/-- Of files of any kind there are as many as there are routes to one of them. -/
theorem countP_eq (h : Routed leads files routes) (kind : Path → Bool) :
    {route | ∃ p, leads route p ∧ kind p = true}.Finite ∧
      {route | ∃ p, leads route p ∧ kind p = true}.ncard = files.countP kind := by
  have hset : {route | ∃ p, leads route p ∧ kind p = true} =
      ((routes.filter (kind ·.2)).map Prod.fst).toFinset := by
    ext route
    simp [h.mem_iff]
  have hnodup : ((routes.filter (kind ·.2)).map Prod.fst).Nodup :=
    h.nodup.sublist (List.filter_sublist.map Prod.fst)
  constructor
  · rw [hset]
    exact Finset.finite_toSet _
  · calc
      _ = (routes.filter (kind ·.2)).length := by
        rw [hset, Set.ncard_coe_finset, List.toFinset_card_of_nodup hnodup, List.length_map]
      _ = (routes.map Prod.snd).countP kind := by
        rw [← List.countP_eq_length_filter, List.countP_map]
        rfl
      _ = files.countP kind := by rw [h.files_eq]

end Routed

/-- The files that are those of an import graph. -/
structure Listing (fs : FileSystem) (loadPaths : List Path) (s : Stylesheet)
    (files : List Path) : Prop where
  /-- They are the one list that the graph gives. -/
  listed : ∀ files', Lists fs loadPaths s files' ↔ files' = files
  /-- They are there for all routes of top-level imports, in depth-first order: a route comes
  before those that go on from it, and before those that branch off at a later argument. -/
  routed : ∃ routes, Routed (LeadsTo fs loadPaths s) files routes
  /-- Files are there if and only if a route leads to them. -/
  mem_iff : ∀ p, p ∈ files ↔ ∃ route, LeadsTo fs loadPaths s route p
  /-- They are there as often as routes lead to them, whatever counts as the same file. -/
  counted : ∀ kind : Path → Bool,
    {route | ∃ p, LeadsTo fs loadPaths s route p ∧ kind p = true}.Finite ∧
      {route | ∃ p, LeadsTo fs loadPaths s route p ∧ kind p = true}.ncard = files.countP kind

theorem Lists.listing {s : Stylesheet} {files : List Path} (h : Lists fs loadPaths s files) :
    Listing fs loadPaths s files := by
  obtain ⟨routes, hroutes⟩ := h.routed
  refine ⟨fun files' ↦ ⟨fun h' ↦ ?_, fun heq ↦ heq ▸ h⟩, ⟨routes, hroutes⟩, fun p ↦ ?_,
    hroutes.countP_eq⟩
  · obtain ⟨routes', hroutes'⟩ := h'.routed
    exact hroutes'.eq hroutes
  · rw [← hroutes.files_eq, List.mem_map]
    constructor
    · rintro ⟨⟨route, q⟩, hmem, rfl⟩
      exact ⟨route, (hroutes.mem_iff route q).mp hmem⟩
    · rintro ⟨route, hleads⟩
      exact ⟨(route, p), (hroutes.mem_iff route p).mpr hleads, rfl⟩

/-- If a stylesheet can be scanned, the files of its tree are those of its import graph. -/
theorem listing_of_scanSource (fs : FileSystem) (loadPaths : List Path) (file : Option Path)
    (dir : Path) (source : String) (t : ImportTree)
    (h : scanSource fs loadPaths file dir source = .ok t) :
    Listing fs loadPaths (.ofSource file dir source) t.flatten :=
  (lists_of_scanSource h).listing

/-- A place with one stylesheet, which loads nothing. -/
def onePartial : FileSystem :=
  (FileTable.mk [(⟨"_a.scss"⟩, .content "$margin: 0;".toUTF8)]).toFileSystem

/-- Three imports of the same file, one of them in a block. -/
def threeImports : String :=
  "@import a, url(b)\np\n  @import a\n@import a"

def threeImportsTree : ImportTree :=
  let a := .imported "a" (.root (some ⟨"_a.scss"⟩) []) none []
  .root (some ⟨"main.sass"⟩) [a, .plainCss "url(b)" none [], .rule none [a], a]

theorem listing_threeImports :
    scanSource onePartial [] (some ⟨"main.sass"⟩) ⟨"."⟩ threeImports = .ok threeImportsTree ∧
    Listing onePartial [] (.ofSource (some ⟨"main.sass"⟩) ⟨"."⟩ threeImports)
      [⟨"main.sass"⟩, ⟨"_a.scss"⟩, ⟨"_a.scss"⟩] := by
  have hread : readStylesheet onePartial ⟨"_a.scss"⟩ = .ok "$margin: 0;" := by decide +kernel
  have hpartial : statements (.ofPath ⟨"_a.scss"⟩) "$margin: 0;" = [] := by decide +kernel
  have hmain : statements (.ofPath ⟨"main.sass"⟩) threeImports =
      [.load ["a", "url(b)"], .block ["a"], .load ["a"]] := by decide +kernel
  have hnode : importNode onePartial [] (.start _ (some ⟨"main.sass"⟩))
      ⟨some ⟨"main.sass"⟩, ⟨"."⟩⟩ "a" =
        .ok (.imported "a" (.root (some ⟨"_a.scss"⟩) []) none []) :=
    importNode_eq_ok.mpr (.stylesheet (by decide +kernel) (by decide +kernel) (by decide +kernel)
      (by decide +kernel) hread (hpartial ▸ statementNodes_nil))
  have hurl : importNode onePartial [] (.start _ (some ⟨"main.sass"⟩))
      ⟨some ⟨"main.sass"⟩, ⟨"."⟩⟩ "url(b)" = .ok (.plainCss "url(b)" none []) :=
    importNode_of_plainCss (by decide +kernel)
  have hload := argumentNodes_cons_eq_ok.mpr ⟨_, _, hnode, argumentNodes_nil, rfl⟩
  have hboth := argumentNodes_cons_eq_ok.mpr ⟨_, _, hnode,
    argumentNodes_cons_eq_ok.mpr ⟨_, _, hurl, argumentNodes_nil, rfl⟩, rfl⟩
  have hscan : scanSource onePartial [] (some ⟨"main.sass"⟩) ⟨"."⟩ threeImports =
      .ok threeImportsTree := by
    refine bind_eq_ok.mpr ⟨_, ?_, rfl⟩
    change statementNodes _ _ _ _ (statements (.ofPath ⟨"main.sass"⟩) threeImports) = _
    rw [hmain]
    exact statementNodes_load_eq_ok.mpr ⟨_, _, hboth, statementNodes_block_eq_ok.mpr ⟨_, _, hload,
      statementNodes_load_eq_ok.mpr ⟨_, _, hload, statementNodes_nil, rfl⟩, rfl⟩, rfl⟩
  have hflatten : threeImportsTree.flatten =
      [⟨"main.sass"⟩, ⟨"_a.scss"⟩, ⟨"_a.scss"⟩] := by decide +kernel
  exact ⟨hscan, hflatten ▸ listing_of_scanSource onePartial [] _ _ _ _ hscan⟩

end StyleGuide.Imports
