import Mathlib.Logic.Relation
import StyleGuide.Proofs.Imports.Failing
import StyleGuide.Proofs.Imports.Graph
import StyleGuide.Proofs.Imports.Spelling

/-!
# Import loops

All imports of a source and of the files they mean, at the top level or in blocks, are the edges of
a graph. A scan walks along its edges and keeps the chain of nodes it came by. A file is reported as
a loop only if the graph has a loop there. Where nothing is missing, a scan that succeeds has walked
along every path of the graph and met no node twice on any of them, so there is no loop to be met.
-/

namespace StyleGuide.Imports

def Stylesheet.arguments (s : Stylesheet) : List String :=
  s.statements.flatMap Statement.arguments

/-- A file by its components, or a source that has no name. -/
abbrev Node := Option (List Path.Component)

/-- A place with a source to scan in it. -/
structure ImportGraph where
  fs : FileSystem
  loadPaths : List Path
  file : Option Path
  dir : Path
  source : String

namespace ImportGraph

/-- The node of the source: that of the file it is named after, if it has a name. -/
def root (g : ImportGraph) : Node :=
  g.file.map Path.components

/-- What stands at a node: the source at the root, and everywhere else what a file holds. -/
inductive Holds (g : ImportGraph) : Node → Stylesheet → Prop
  | root : g.Holds g.root (.ofSource g.file g.dir g.source)
  | file {p text} (inner : some p.components ≠ g.root) (read : readStylesheet g.fs p = .ok text) :
      g.Holds (some p.components) (.ofFile p text)

/-- An import of a stylesheet means a file that is not a CSS file. -/
def Means (g : ImportGraph) (s : Stylesheet) (p : Path) : Prop :=
  ∃ arg ∈ s.arguments, ∃ target, sassTarget? arg = some target ∧
    resolve g.fs (s.importer.dir :: g.loadPaths) target = some p ∧ p.hasExtension "css" = false

def Edge (g : ImportGraph) (k k' : Node) : Prop :=
  ∃ s p, g.Holds k s ∧ g.Means s p ∧ k' = some p.components

def Reached (g : ImportGraph) (k : Node) : Prop :=
  Relation.ReflTransGen g.Edge g.root k

def OnLoop (g : ImportGraph) (k : Node) : Prop :=
  Relation.TransGen g.Edge k k

/-- Every import that is reached means a file, which can be read unless it is a CSS file. -/
def Complete (g : ImportGraph) : Prop :=
  ∀ k s, g.Reached k → g.Holds k s → ∀ arg ∈ s.arguments, ∀ target, sassTarget? arg = some target →
    ∃ p, resolve g.fs (s.importer.dir :: g.loadPaths) target = some p ∧
      (p.hasExtension "css" = true ∨ ∃ text, readStylesheet g.fs p = .ok text)

/-- What it is to find loops: a path that is reported lies on one, and if nothing is missing, the
outcome is such a report where a loop is reached and a tree where none is. -/
structure FindsLoops (g : ImportGraph) (outcome : Except CompileError ImportTree) : Prop where
  onLoop : ∀ p, outcome = .error (.importLoop p) →
    g.Reached (some p.components) ∧ g.OnLoop (some p.components)
  found : g.Complete → (∃ k, g.Reached k ∧ g.OnLoop k) →
    ∃ p, outcome = .error (.importLoop p)
  clear : g.Complete → (¬ ∃ k, g.Reached k ∧ g.OnLoop k) → ∃ t, outcome = .ok t

end ImportGraph

/-! ## Chains -/

section Chain

variable {fs : FileSystem} {chain : Chain fs} {p : Path}

def Chain.Has (chain : Chain fs) (k : Node) : Prop :=
  chain.root.map Path.components = k ∨ ∃ p ∈ chain.files, some p.components = k

theorem Chain.contains_iff : chain.contains p = true ↔ chain.Has (some p.components) := by
  unfold Chain.contains Chain.Has
  rw [Bool.or_eq_true, Option.any_eq_true, List.any_eq_true]
  simp only [Path.same_iff, Option.map_eq_some_iff, Option.some.injEq]

theorem Chain.has_push {file : fs.isFile p = true} {new : chain.contains p = false} {k : Node} :
    (chain.push p file new).Has k ↔ some p.components = k ∨ chain.Has k := by
  simp only [Chain.Has, Chain.push, List.mem_cons, exists_eq_or_imp]
  exact or_left_comm

end Chain

namespace ImportGraph

variable {g : ImportGraph} {chain : Chain g.fs} {k : Node} {s : Stylesheet}

/-- A scan stands at a node, and every node of its chain leads there. -/
structure Visit (g : ImportGraph) (chain : Chain g.fs) (k : Node) (s : Stylesheet) : Prop where
  root_eq : chain.root = g.file
  holds : g.Holds k s
  present : chain.Has k
  leads : ∀ k', chain.Has k' → g.Reached k' ∧ Relation.ReflTransGen g.Edge k' k

namespace Visit

theorem reached (h : g.Visit chain k s) : g.Reached k :=
  (h.leads k h.present).1

theorem start (g : ImportGraph) :
    g.Visit (.start g.fs g.file) g.root (.ofSource g.file g.dir g.source) where
  root_eq := rfl
  holds := .root
  present := .inl rfl
  leads k' hk' := by
    rcases hk' with rfl | ⟨p, hp, -⟩
    · exact ⟨.refl, .refl⟩
    · cases hp

theorem enter (h : g.Visit chain k s) {p : Path} (means : g.Means s p) {text : String}
    (read : readStylesheet g.fs p = .ok text) (file : g.fs.isFile p = true)
    (new : chain.contains p = false) :
    g.Visit (chain.push p file new) (some p.components) (.ofFile p text) where
  root_eq := h.root_eq
  holds := by
    refine .file (fun hroot ↦ ?_) read
    have hcontains : chain.contains p = true := by
      rw [Chain.contains_iff, hroot, root, ← h.root_eq]
      exact .inl rfl
    cases new.symm.trans hcontains
  present := Chain.has_push.mpr (.inl rfl)
  leads k' hk' := by
    have hedge : g.Edge k (some p.components) := ⟨s, p, h.holds, means, rfl⟩
    rcases Chain.has_push.mp hk' with rfl | hk'
    · exact ⟨h.reached.tail hedge, .refl⟩
    · obtain ⟨hreached, hleads⟩ := h.leads k' hk'
      exact ⟨hreached, hleads.tail hedge⟩

/-- An import of a file that is in the chain closes a loop. -/
theorem onLoop (h : g.Visit chain k s) {p : Path} (means : g.Means s p)
    (present : chain.contains p = true) :
    g.Reached (some p.components) ∧ g.OnLoop (some p.components) := by
  obtain ⟨hreached, hleads⟩ := h.leads _ (Chain.contains_iff.mp present)
  exact ⟨hreached, .tail' hleads ⟨s, p, h.holds, means, rfl⟩⟩

/-! ## Scans that fail -/

/-- A scan fails with a loop of the graph, or because something is missing. -/
theorem fault (h : g.Visit chain k s) {x : CompileError}
    (failed : statementNodes g.fs g.loadPaths chain s.importer s.statements = .error x) :
    (∃ p, x = .importLoop p ∧ g.Reached (some p.components) ∧ g.OnLoop (some p.components)) ∨
      ((∀ p, x ≠ .importLoop p) ∧ ¬ g.Complete) := by
  -- The chain grows with every file that is entered, so the room in it bounds the recursion.
  induction hroom : chain.room using Nat.strongRecOn generalizing chain k s with
  | ind room ih =>
    obtain ⟨arg, harg, hnode⟩ := exists_of_statementNodes_eq_error failed
    cases importNode_eq_error.mp hnode with
    | missing named missing =>
      refine .inr ⟨fun p hp ↦ (nomatch hp), fun complete ↦ ?_⟩
      obtain ⟨p, found, -⟩ := complete k s h.reached h.holds arg harg _ named
      cases missing.symm.trans found
    | looped named found sheet present =>
      exact .inl ⟨_, rfl, h.onLoop ⟨arg, harg, _, named, found, sheet⟩ present⟩
    | @unreadable target path _ named found sheet new unread =>
      refine .inr ⟨fun p hp ↦ ?_, fun complete ↦ ?_⟩
      · rw [hp, readStylesheet] at unread
        split at unread <;> cases unread
      · obtain ⟨p, found', hread⟩ := complete k s h.reached h.holds arg harg _ named
        obtain rfl := Option.some.inj (found.symm.trans found')
        rcases hread with css | ⟨text, read⟩
        · cases sheet.symm.trans css
        · cases unread.symm.trans read
    | @within target path source _ named found sheet new read failed =>
      have hlt := chain.room_push_lt path (isFile_of_resolve found) new
      have hvisit := h.enter ⟨arg, harg, target, named, found, sheet⟩ read
        (isFile_of_resolve found) new
      exact ih _ (hroom ▸ hlt) hvisit failed rfl

end Visit

/-! ## Scans that succeed -/

/-- Whatever stands at a node imports the same files, however their paths are spelled. -/
def Unspelled (g : ImportGraph) : Prop :=
  ∀ k s s', g.Holds k s → g.Holds k s' → ∀ p, g.Means s p →
    ∃ p', g.Means s' p' ∧ p'.components = p.components

def Scanned (g : ImportGraph) (chain : Chain g.fs) (s : Stylesheet) : Prop :=
  ∃ nodes, statementNodes g.fs g.loadPaths chain s.importer s.statements = .ok nodes

theorem Scanned.enter (scanned : g.Scanned chain s) {p : Path} (means : g.Means s p) :
    ∃ (file : g.fs.isFile p = true) (new : chain.contains p = false) (text : String),
      readStylesheet g.fs p = .ok text ∧ g.Scanned (chain.push p file new) (.ofFile p text) := by
  obtain ⟨nodes, hnodes⟩ := scanned
  obtain ⟨arg, harg, target, named, found, sheet⟩ := means
  obtain ⟨node, hnode⟩ := exists_of_statementNodes_eq_ok hnodes harg
  cases importNode_eq_ok.mp hnode with
  | plainCss plain => cases plain.symm.trans named
  | cssFile named' found' css =>
    obtain rfl := Option.some.inj (named.symm.trans named')
    obtain rfl := Option.some.inj (found.symm.trans found')
    cases sheet.symm.trans css
  | @stylesheet _ _ text inner named' found' _ new read scanned =>
    obtain rfl := Option.some.inj (named.symm.trans named')
    obtain rfl := Option.some.inj (found.symm.trans found')
    exact ⟨isFile_of_resolve found, new, text, read, inner, scanned⟩

/-- A scan that succeeds goes on along every edge, to a node that its chain does not have. -/
theorem Visit.next (unspelled : g.Unspelled) (h : g.Visit chain k s) (scanned : g.Scanned chain s)
    {k' : Node} (edge : g.Edge k k') :
    ¬ chain.Has k' ∧ ∃ (chain' : Chain g.fs) (s' : Stylesheet),
      g.Visit chain' k' s' ∧ g.Scanned chain' s' ∧ ∀ j, chain.Has j → chain'.Has j := by
  obtain ⟨s', p', holds, means', rfl⟩ := edge
  obtain ⟨p, means, hcomponents⟩ := unspelled k s' s holds h.holds p' means'
  obtain ⟨file, new, text, read, hscanned⟩ := scanned.enter means
  rw [← hcomponents]
  refine ⟨fun hhas ↦ ?_, chain.push p file new, .ofFile p text, h.enter means read file new,
    hscanned, fun j hj ↦ Chain.has_push.mpr (.inr hj)⟩
  cases new.symm.trans (Chain.contains_iff.mpr hhas)

/-- Wherever imports lead from a stylesheet that can be scanned, it is to none of its chain. -/
theorem Visit.not_has (unspelled : g.Unspelled) (h : g.Visit chain k s)
    (scanned : g.Scanned chain s) {k' : Node} (walk : Relation.TransGen g.Edge k k') :
    ¬ chain.Has k' := by
  induction walk using Relation.TransGen.head_induction_on generalizing chain s with
  | single edge => exact (h.next unspelled scanned edge).1
  | head edge _ ih =>
    obtain ⟨-, chain', s', visit, hscanned, hkept⟩ := h.next unspelled scanned edge
    exact fun hhas ↦ ih visit hscanned (hkept _ hhas)

theorem visit_of_reached (unspelled : g.Unspelled)
    (scanned : g.Scanned (.start g.fs g.file) (.ofSource g.file g.dir g.source))
    (reached : g.Reached k) :
    ∃ (chain : Chain g.fs) (s : Stylesheet), g.Visit chain k s ∧ g.Scanned chain s := by
  induction reached with
  | refl => exact ⟨_, _, .start g, scanned⟩
  | tail _ edge ih =>
    obtain ⟨chain, s, visit, hscanned⟩ := ih
    obtain ⟨-, chain', s', visit', hscanned', -⟩ := visit.next unspelled hscanned edge
    exact ⟨chain', s', visit', hscanned'⟩

/-- Nothing that can be scanned has a loop. -/
theorem not_onLoop_of_scanned (unspelled : g.Unspelled)
    (scanned : g.Scanned (.start g.fs g.file) (.ofSource g.file g.dir g.source))
    (reached : g.Reached k) : ¬ g.OnLoop k := by
  obtain ⟨chain, s, visit, hscanned⟩ := visit_of_reached unspelled scanned reached
  exact fun loop ↦ visit.not_has unspelled hscanned loop visit.present

/-- In a table a path means what its components mean. -/
theorem unspelled_of_table (t : FileTable) (loadPaths : List Path) (file : Option Path)
    (dir : Path) (source : String) :
    (ImportGraph.mk t.toFileSystem loadPaths file dir source).Unspelled := by
  intro k s s' holds holds' p means
  -- What stands at a node may only differ in how the directory of its imports is spelled.
  have hsame : s.statements = s'.statements ∧
      s.importer.dir.components = s'.importer.dir.components := by
    cases holds with
    | root =>
      generalize hk : root _ = k at holds'
      cases holds' with
      | root => exact ⟨rfl, rfl⟩
      | file inner _ => exact absurd hk.symm inner
    | @file q text inner read =>
      generalize hk : some q.components = k at holds'
      cases holds' with
      | root => exact absurd hk inner
      | @file q' text' _ read' =>
        have hq := Option.some.inj hk
        rw [readStylesheet_congr t hq, read'] at read
        cases read
        refine ⟨?_, dir_ofFile_congr hq⟩
        rw [Stylesheet.ofFile, Stylesheet.ofFile, ofPath_congr hq]
  obtain ⟨arg, harg, target, named, found, sheet⟩ := means
  obtain ⟨p', found', hp'⟩ := resolve_of_congr t hsame.2 found
  refine ⟨p', ⟨arg, ?_, target, named, found', ?_⟩, hp'⟩
  · rwa [Stylesheet.arguments, ← hsame.1]
  · rwa [Path.hasExtension_congr hp']

def scan (g : ImportGraph) : Except CompileError ImportTree :=
  scanSource g.fs g.loadPaths g.file g.dir g.source

theorem scan_cases (g : ImportGraph) :
    (g.Scanned (.start g.fs g.file) (.ofSource g.file g.dir g.source) ∧ ∃ t, g.scan = .ok t) ∨
      ∃ x, statementNodes g.fs g.loadPaths (.start g.fs g.file) ⟨g.file, g.dir⟩
        (Stylesheet.ofSource g.file g.dir g.source).statements = .error x ∧ g.scan = .error x := by
  cases h : statementNodes g.fs g.loadPaths (.start g.fs g.file) ⟨g.file, g.dir⟩
      (Stylesheet.ofSource g.file g.dir g.source).statements with
  | ok nodes => exact .inl ⟨⟨nodes, h⟩, .root g.file nodes, bind_eq_ok.mpr ⟨nodes, h, rfl⟩⟩
  | error x => exact .inr ⟨x, rfl, bind_eq_error.mpr (.inl h)⟩

theorem findsLoops (unspelled : g.Unspelled) : g.FindsLoops g.scan := by
  rcases g.scan_cases with ⟨scanned, t, hok⟩ | ⟨x, failed, herror⟩
  · have hloopless : ¬ ∃ k, g.Reached k ∧ g.OnLoop k := fun ⟨k, reached, loop⟩ ↦
      not_onLoop_of_scanned unspelled scanned reached loop
    rw [hok]
    exact ⟨fun p hp ↦ (nomatch hp), fun _ loop ↦ absurd loop hloopless, fun _ _ ↦ ⟨t, rfl⟩⟩
  · rw [herror]
    rcases (Visit.start g).fault failed with ⟨p, rfl, hloop⟩ | ⟨hne, hincomplete⟩
    · refine ⟨fun q hq ↦ ?_, fun _ _ ↦ ⟨p, rfl⟩, fun _ hloopless ↦ absurd ⟨_, hloop⟩ hloopless⟩
      cases hq
      exact hloop
    · exact ⟨fun q hq ↦ absurd (Except.error.inj hq) (hne q),
        fun complete ↦ absurd complete hincomplete, fun complete ↦ absurd complete hincomplete⟩

end ImportGraph

/-- Scans in a table of files find import loops, and report nothing else as one. -/
theorem findsLoops_scanSource (t : FileTable) (loadPaths : List Path) (file : Option Path)
    (dir : Path) (source : String) :
    ImportGraph.FindsLoops ⟨t.toFileSystem, loadPaths, file, dir, source⟩
      (scanSource t.toFileSystem loadPaths file dir source) :=
  ImportGraph.findsLoops (ImportGraph.unspelled_of_table t loadPaths file dir source)

/-! ## Particular scans -/

namespace ImportGraph

variable {g : ImportGraph} {k k' : Node} {s : Stylesheet} {arg target : String} {p : Path}

theorem Holds.eq_ofSource (h : g.Holds g.root s) : s = .ofSource g.file g.dir g.source := by
  generalize hk : g.root = k at h
  cases h with
  | root => rfl
  | file inner => exact absurd hk.symm inner

/-- All imports of the source mean one stylesheet, and there are no others. -/
structure ImportsOnly (g : ImportGraph) (arg target : String) (p : Path) : Prop where
  only : ∀ a ∈ (Stylesheet.ofSource g.file g.dir g.source).arguments, a = arg
  named : sassTarget? arg = some target
  found : resolve g.fs (g.dir :: g.loadPaths) target = some p
  read : ∃ text, readStylesheet g.fs p = .ok text
  leaf : some p.components ≠ g.root → ∀ s, g.Holds (some p.components) s → s.arguments = []

theorem ImportsOnly.edge_root (h : g.ImportsOnly arg target p) (edge : g.Edge g.root k) :
    k = some p.components := by
  obtain ⟨s, q, holds, ⟨a, ha, target', named, found, -⟩, rfl⟩ := edge
  cases holds.eq_ofSource
  cases h.only a ha
  cases named.symm.trans h.named
  cases found.symm.trans h.found
  rfl

theorem ImportsOnly.not_edge (h : g.ImportsOnly arg target p) (inner : some p.components ≠ g.root) :
    ¬ g.Edge (some p.components) k := by
  rintro ⟨s, q, holds, ⟨a, ha, -⟩, -⟩
  rw [h.leaf inner s holds] at ha
  cases ha

theorem ImportsOnly.reached (h : g.ImportsOnly arg target p) (reached : g.Reached k) :
    k = g.root ∨ k = some p.components := by
  induction reached with
  | refl => exact .inl rfl
  | @tail k k' _ edge ih =>
    by_cases hroot : k = g.root
    · exact .inr (h.edge_root (hroot ▸ edge))
    · obtain rfl := ih.resolve_left hroot
      exact absurd edge (h.not_edge hroot)

theorem ImportsOnly.complete (h : g.ImportsOnly arg target p) : g.Complete := by
  intro k s reached holds a ha target' named
  by_cases hroot : k = g.root
  · subst hroot
    cases holds.eq_ofSource
    cases h.only a ha
    cases named.symm.trans h.named
    exact ⟨p, h.found, .inr h.read⟩
  · obtain rfl := (h.reached reached).resolve_left hroot
    rw [h.leaf hroot s holds] at ha
    cases ha

theorem ImportsOnly.loopless (h : g.ImportsOnly arg target p) (inner : some p.components ≠ g.root) :
    ¬ ∃ k, g.Reached k ∧ g.OnLoop k := by
  rintro ⟨k, reached, loop⟩
  obtain ⟨k', edge, back⟩ := Relation.TransGen.head'_iff.mp loop
  rcases h.reached reached with rfl | rfl
  · cases h.edge_root edge
    rcases back.cases_head with same | ⟨k'', onward, -⟩
    · exact inner same
    · exact h.not_edge inner onward
  · exact h.not_edge inner edge

end ImportGraph

/-- A source named `a.scss` in a table with two empty stylesheets. -/
def smallGraph (source : String) : ImportGraph where
  fs := FileTable.toFileSystem ⟨[(⟨"a.scss"⟩, .content "".toUTF8), (⟨"b.scss"⟩, .content "".toUTF8)]⟩
  loadPaths := []
  file := some ⟨"a.scss"⟩
  dir := ⟨""⟩
  source := source

theorem only_itself : (smallGraph "@import 'a';").ImportsOnly "'a'" "a" ⟨"a.scss"⟩ :=
  ⟨by decide +kernel, by decide +kernel, by decide +kernel, ⟨"", by decide +kernel⟩,
    fun inner ↦ absurd rfl inner⟩

theorem only_twice : (smallGraph "@import 'b', 'b';").ImportsOnly "'b'" "b" ⟨"b.scss"⟩ := by
  refine ⟨by decide +kernel, by decide +kernel, by decide +kernel, ⟨"", by decide +kernel⟩,
    fun inner s holds ↦ ?_⟩
  generalize hk : some (Path.components ⟨"b.scss"⟩) = k at holds
  cases holds with
  | root => exact absurd hk inner
  | @file p text _ read =>
    have hp := Option.some.inj hk
    have hread : readStylesheet (smallGraph "@import 'b', 'b';").fs ⟨"b.scss"⟩ = .ok "" := by
      decide +kernel
    cases ((readStylesheet_congr _ hp).mp hread).symm.trans read
    rw [Stylesheet.ofFile, Stylesheet.arguments, ← ofPath_congr hp]
    dsimp only
    decide +kernel

/-- A stylesheet that imports itself is a loop, and one that is imported twice is none. -/
theorem findsLoops_smallGraph :
    (smallGraph "@import 'a';").Complete ∧ (smallGraph "@import 'b', 'b';").Complete ∧
      (∃ p, (smallGraph "@import 'a';").scan = .error (.importLoop p)) ∧
      ∃ t, (smallGraph "@import 'b', 'b';").scan = .ok t := by
  have hfinds (source : String) :
      ImportGraph.FindsLoops (smallGraph source) (smallGraph source).scan :=
    findsLoops_scanSource _ [] (some ⟨"a.scss"⟩) ⟨""⟩ source
  have hedge : (smallGraph "@import 'a';").Edge (smallGraph "@import 'a';").root
      (smallGraph "@import 'a';").root := by
    refine ⟨_, ⟨"a.scss"⟩, .root, ⟨"'a'", by decide +kernel, "a", only_itself.named,
      only_itself.found, by decide +kernel⟩, rfl⟩
  have hloop : ∃ k, (smallGraph "@import 'a';").Reached k ∧ (smallGraph "@import 'a';").OnLoop k :=
    ⟨_, .refl, .single hedge⟩
  have hloopless := only_twice.loopless (by decide +kernel)
  exact ⟨only_itself.complete, only_twice.complete,
    (hfinds "@import 'a';").found only_itself.complete hloop,
    (hfinds "@import 'b', 'b';").clear only_twice.complete hloopless⟩

end StyleGuide.Imports
