import StyleGuide.Imports.Target
import StyleGuide.Proofs.Path.Names

/-!
# Where a target is found

The search directories are tried in order, and the first one that has any file the target may mean is
the only one that counts. From there a target with a name of its own goes down, so what it means lies
inside the directory. A target without one (it is empty, or nothing but separators and dots) stands for
the directory itself. Then the index files lie inside, but all other files it may mean are named after
the directory and stand beside it.
-/

namespace StyleGuide

/-- Strictly below a directory, component by component. -/
def Path.Below (p dir : Path) : Prop :=
  ∃ inner, inner ≠ [] ∧ p.components = dir.components ++ inner

/-- In the place of a directory, or next to it. -/
def Path.Beside (p dir : Path) : Prop :=
  ∃ name, p.components = dir.components.dropLast ++ [.name name]

theorem Path.below_of_components {p dir : Path} {inner : List Component} {c : Component}
    (h : p.components = dir.components ++ inner ++ [c]) : p.Below dir := by
  refine ⟨inner ++ [c], ?_, ?_⟩
  · exact List.append_ne_nil_of_right_ne_nil inner (List.cons_ne_nil c [])
  · rw [h, List.append_assoc]

namespace Imports

def holder (fs : FileSystem) (dirs : List Path) (target : String) : Option Path :=
  (dirs.map Path.withoutHere).find? fun dir ↦ (candidates (dir.join ⟨target⟩)).any fs.isFile

def Named (target : String) : Prop :=
  ∃ name, .name name ∈ Path.components ⟨target⟩

variable {fs : FileSystem} {dirs : List Path} {target : String} {p path dir : Path}

/-! ## The first directory -/

/-- A target is looked for in one directory, the first that has any file for it. -/
theorem resolve_eq_bind (fs : FileSystem) (dirs : List Path) (target : String) :
    resolve fs dirs target =
      (holder fs dirs target).bind fun dir ↦ (candidates (dir.join ⟨target⟩)).find? fs.isFile := by
  induction dirs with
  | nil => rfl
  | cons dir dirs ih =>
    unfold resolve allCandidates holder at ih ⊢
    rw [List.flatMap_cons, List.find?_append, ih, List.map_cons, List.find?_cons]
    cases hfound : (candidates (dir.withoutHere.join ⟨target⟩)).find? fs.isFile with
    | some p =>
      have hany : (candidates (dir.withoutHere.join ⟨target⟩)).any fs.isFile = true :=
        List.any_eq_true.mpr ⟨p, List.mem_of_find?_eq_some hfound, List.find?_some hfound⟩
      simp only [hany, hfound, Option.bind_some, Option.some_or]
    | none =>
      have hany : (candidates (dir.withoutHere.join ⟨target⟩)).any fs.isFile = false :=
        List.any_eq_false.mpr (List.find?_eq_none.mp hfound)
      simp only [hany, Option.none_or]

theorem exists_holder (found : resolve fs dirs target = some p) :
    ∃ dir, holder fs dirs target = some dir ∧ p ∈ candidates (dir.join ⟨target⟩) := by
  rw [resolve_eq_bind] at found
  obtain ⟨dir, hdir, hfind⟩ := Option.bind_eq_some_iff.mp found
  exact ⟨dir, hdir, List.mem_of_find?_eq_some hfind⟩

/-! ## Candidates -/

theorem components_indexFile {ext : String} (hext : ext ∈ triedExtensions)
    (h : p ∈ indexFiles path ext) : ∃ name, p.components = path.components ++ [.name name] := by
  have hnames : ∀ ext ∈ triedExtensions, ∀ lead ∈ ["_index.", "index."],
      Path.Component.ofSegment (lead ++ ext).toList = some (.name (lead ++ ext).toList) ∧
        '/' ∉ (lead ++ ext).toList := by decide
  have hjoin {lead : String} (hlead : lead ∈ ["_index.", "index."]) :
      (path.join ⟨lead ++ ext⟩).components = path.components ++ [.name (lead ++ ext).toList] := by
    obtain ⟨named, noSlash⟩ := hnames ext hext lead hlead
    have hcomponents := Path.components_join_name ⟨named, noSlash⟩ path
    rwa [String.ofList_toList] at hcomponents
  simp only [indexFiles, List.mem_cons, List.not_mem_nil, or_false] at h
  rcases h with rfl | rfl
  · exact ⟨_, hjoin (by decide)⟩
  · exact ⟨_, hjoin (by decide)⟩

theorem components_besides {name : List Char} {ext : String} (hname : path.fileName = some name)
    (hext : ext ∈ triedExtensions) (h : p ∈ besides path (name ++ '.' :: ext.toList)) :
    ∃ other, p.components = path.components.dropLast ++ [.name other] := by
  have hextensions : ∀ ext ∈ triedExtensions, 2 < ('.' :: ext.toList).length ∧
      '/' ∉ '.' :: ext.toList := by decide
  obtain ⟨hlong, hslash⟩ := hextensions ext hext
  have hfile : Path.IsName (name ++ '.' :: ext.toList) :=
    Path.isName_append hlong (Path.slash_notMem_fileName hname) hslash
  simp only [besides, List.mem_cons, List.not_mem_nil, or_false] at h
  rcases h with rfl | rfl
  · exact ⟨_, Path.components_withFileName hname hfile⟩
  · apply Exists.intro
    apply Path.components_withFileName hname
    exact Path.isName_cons (by decide) (by decide) hfile.noSlash

/-- What a path may mean is an index file inside, or stands where the path does. -/
theorem candidate_cases (h : p ∈ candidates path) :
    (∃ name, path.fileName = some name) ∧
      ((∃ other, p.components = path.components.dropLast ++ [.name other]) ∨
        ∃ ext ∈ triedExtensions, p ∈ indexFiles path ext) := by
  unfold candidates at h
  cases hname : path.fileName with
  | none =>
    rw [hname] at h
    cases h
  | some name =>
    rw [hname] at h
    refine ⟨⟨name, rfl⟩, ?_⟩
    dsimp only at h
    split at h
    · left
      simp only [List.mem_cons, List.not_mem_nil, or_false] at h
      rcases h with rfl | rfl
      · exact ⟨name, (Path.dropLast_components hname).symm⟩
      · apply Exists.intro
        apply Path.components_withFileName hname
        exact Path.isName_cons (by decide) (by decide) (Path.slash_notMem_fileName hname)
    · rcases List.mem_append.mp h with hbeside | hindex
      · obtain ⟨ext, hext, hmem⟩ := List.mem_flatMap.mp hbeside
        exact .inl (components_besides hname hext hmem)
      · obtain ⟨ext, hext, hmem⟩ := List.mem_flatMap.mp hindex
        exact .inr ⟨ext, hext, hmem⟩

/-! ## Targets without `..` -/

section Straight

variable (relative : Path.isAbsolute ⟨target⟩ = false)

include relative

theorem components_join_target (dir : Path) : (dir.join ⟨target⟩).components =
    if dir.components = [] then Path.components ⟨target⟩
    else dir.components ++ Path.onward ⟨target⟩ := by
  rw [Path.components_join, relative]
  simp

/-- An index file of what a directory and a target make lies inside the directory. -/
theorem below_of_indexFile {ext : String} (hext : ext ∈ triedExtensions)
    (h : p ∈ indexFiles (dir.join ⟨target⟩) ext) : p.Below dir := by
  obtain ⟨name, hname⟩ := components_indexFile hext h
  rw [components_join_target relative] at hname
  by_cases hempty : dir.components = []
  · have hinner : p.components = dir.components ++ Path.components ⟨target⟩ ++ [.name name] := by
      rw [hname, if_pos hempty, hempty, List.nil_append]
    exact Path.below_of_components hinner
  · rw [if_neg hempty] at hname
    exact Path.below_of_components hname

variable (straight : .up ∉ Path.components ⟨target⟩)

include straight

/-- A target with a name goes down to a name. -/
theorem exists_components_join_eq (named : Named target) (dir : Path) :
    ∃ inner name, (dir.join ⟨target⟩).components = dir.components ++ inner ++ [.name name] := by
  obtain ⟨names, hnames⟩ := Path.exists_names_of_up_notMem straight
  have hne : names ≠ [] := by
    rintro rfl
    obtain ⟨name, hname⟩ := named
    have hmem := Path.mem_onward_of_name hname
    rw [hnames] at hmem
    cases hmem
  have honward : Path.onward ⟨target⟩ =
      names.dropLast.map .name ++ [.name (names.getLast hne)] := by
    rw [hnames, ← List.map_singleton, ← List.map_append, List.dropLast_concat_getLast]
  rw [components_join_target relative]
  by_cases hempty : dir.components = []
  · refine ⟨Path.opening (Path.segments (Path.mk target).text.toList) ++
      names.dropLast.map .name, names.getLast hne, ?_⟩
    rw [if_pos hempty, Path.components_eq, honward, hempty, List.nil_append, List.append_assoc]
  · refine ⟨names.dropLast.map .name, names.getLast hne, ?_⟩
    rw [if_neg hempty, honward, List.append_assoc]

/-- What stands in the place of a target with a name lies inside the directory. -/
theorem below_of_named (named : Named target) (h : p ∈ candidates (dir.join ⟨target⟩)) :
    p.Below dir := by
  rcases (candidate_cases h).2 with ⟨other, hother⟩ | ⟨ext, hext, hindex⟩
  · obtain ⟨inner, name, hjoin⟩ := exists_components_join_eq relative straight named dir
    rw [hjoin, List.dropLast_concat] at hother
    exact Path.below_of_components hother
  · exact below_of_indexFile relative hext hindex

/-- A target without a name does not go anywhere. -/
theorem components_join_of_unnamed (unnamed : ¬ Named target) {name : List Char}
    (hname : (dir.join ⟨target⟩).fileName = some name) :
    (dir.join ⟨target⟩).components = dir.components := by
  obtain ⟨names, hnames⟩ := Path.exists_names_of_up_notMem straight
  have hnone : Path.onward ⟨target⟩ = [] := by
    cases names with
    | nil => exact hnames
    | cons first names =>
      have hmem : .name first ∈ Path.components ⟨target⟩ := by
        rw [Path.components_eq, hnames]
        exact List.mem_append_right _ List.mem_cons_self
      exact absurd ⟨first, hmem⟩ unnamed
  have hjoin := components_join_target relative dir
  by_cases hempty : dir.components = []
  · rw [if_pos hempty] at hjoin
    have hmem : .name name ∈ Path.components ⟨target⟩ := by
      rw [← hjoin]
      exact List.mem_of_getLast? (Path.fileName_eq_some.mp hname)
    exact absurd ⟨name, hmem⟩ unnamed
  · rw [if_neg hempty, hnone, List.append_nil] at hjoin
    exact hjoin

/-- What a target without a name means besides index files stands where the directory does. -/
theorem beside_of_unnamed (unnamed : ¬ Named target) (h : p ∈ candidates (dir.join ⟨target⟩))
    (hindex : ¬ ∃ ext ∈ triedExtensions, p ∈ indexFiles (dir.join ⟨target⟩) ext) :
    p.Beside dir ∧ ¬ p.Below dir := by
  obtain ⟨⟨name, hname⟩, hcases⟩ := candidate_cases h
  obtain ⟨other, hother⟩ := hcases.resolve_right hindex
  have hlast := Path.dropLast_components hname
  rw [components_join_of_unnamed relative straight unnamed hname] at hother hlast
  refine ⟨⟨other, hother⟩, ?_⟩
  rintro ⟨inner, hne, hinner⟩
  have hinside : 0 < inner.length := List.length_pos_iff.mpr hne
  have hdirectory := congrArg List.length hlast
  have hlength := congrArg List.length (hother.symm.trans hinner)
  simp only [List.length_append, List.length_singleton] at hlength hdirectory
  omega

end Straight

/-- What a relative target without `..` means is a file that the first search directory with any file
for it has for it. It lies inside that directory exactly if the target has a name of its own or the file
is an index file. Otherwise it stands beside the directory. -/
theorem below_holder_iff (relative : Path.isAbsolute ⟨target⟩ = false)
    (straight : .up ∉ Path.components ⟨target⟩) (found : resolve fs dirs target = some p) :
    fs.isFile p = true ∧ ∃ dir, holder fs dirs target = some dir ∧
      p ∈ candidates (dir.join ⟨target⟩) ∧
      (p.Below dir ↔ Named target ∨
        ∃ ext ∈ triedExtensions, p ∈ indexFiles (dir.join ⟨target⟩) ext) ∧
      (p.Below dir ∨ p.Beside dir) := by
  obtain ⟨dir, hdir, hmem⟩ := exists_holder found
  refine ⟨isFile_of_resolve found, dir, hdir, hmem, ?_⟩
  by_cases hinside : Named target ∨
      ∃ ext ∈ triedExtensions, p ∈ indexFiles (dir.join ⟨target⟩) ext
  · have hbelow : p.Below dir := by
      rcases hinside with named | ⟨ext, hext, hindex⟩
      · exact below_of_named relative straight named hmem
      · exact below_of_indexFile relative hext hindex
    exact ⟨iff_of_true hbelow hinside, .inl hbelow⟩
  · obtain ⟨unnamed, hindex⟩ := not_or.mp hinside
    obtain ⟨hbeside, houtside⟩ := beside_of_unnamed relative straight unnamed hmem hindex
    exact ⟨iff_of_false houtside hinside, .inr hbeside⟩

/-- A place with a stylesheet in two directories, and one named after a directory beside it. -/
def besideDirectories : FileSystem :=
  (FileTable.mk [(⟨"vendor/base.scss"⟩, .content "".toUTF8),
    (⟨"vendor/_index.scss"⟩, .content "".toUTF8), (⟨"lib.scss"⟩, .content "".toUTF8)]).toFileSystem

theorem below_vendor :
    Path.isAbsolute ⟨".//./base"⟩ = false ∧ .up ∉ Path.components ⟨".//./base"⟩ ∧
    resolve besideDirectories [⟨"."⟩, ⟨"lib"⟩, ⟨"./vendor"⟩] ".//./base" =
      some ⟨"vendor/base.scss"⟩ ∧
    Named ".//./base" ∧
    holder besideDirectories [⟨"."⟩, ⟨"lib"⟩, ⟨"./vendor"⟩] ".//./base" = some ⟨"vendor"⟩ ∧
    (Path.mk "vendor/base.scss").Below ⟨"vendor"⟩ := by
  have relative : Path.isAbsolute ⟨".//./base"⟩ = false := by decide
  have straight : .up ∉ Path.components ⟨".//./base"⟩ := by decide
  have found : resolve besideDirectories [⟨"."⟩, ⟨"lib"⟩, ⟨"./vendor"⟩] ".//./base" =
      some ⟨"vendor/base.scss"⟩ := by decide +kernel
  have hholder : holder besideDirectories [⟨"."⟩, ⟨"lib"⟩, ⟨"./vendor"⟩] ".//./base" =
      some ⟨"vendor"⟩ := by decide +kernel
  have named : Named ".//./base" := ⟨"base".toList, by decide⟩
  obtain ⟨-, dir, hdir, -, hbelow, -⟩ := below_holder_iff relative straight found
  obtain rfl : dir = ⟨"vendor"⟩ := Option.some.inj (hdir.symm.trans hholder)
  exact ⟨relative, straight, found, named, hholder, hbelow.mpr (.inl named)⟩

/-- A target without a name finds the stylesheet beside the directory, which lies in no search
directory. -/
theorem beside_lib :
    Path.isAbsolute ⟨""⟩ = false ∧ .up ∉ Path.components ⟨""⟩ ∧
    resolve besideDirectories [⟨"lib"⟩] "" = some ⟨"lib.scss"⟩ ∧
    holder besideDirectories [⟨"lib"⟩] "" = some ⟨"lib"⟩ ∧
    ¬ (Path.mk "lib.scss").Below ⟨"lib"⟩ := by
  have houtside : ¬ (Path.mk "lib.scss").Below ⟨"lib"⟩ := by
    rintro ⟨inner, -, hinner⟩
    have hcomponents : (Path.mk "lib.scss").components = [.name "lib.scss".toList] := by decide
    have hdirectory : (Path.mk "lib").components = [.name "lib".toList] := by decide
    rw [hcomponents, hdirectory] at hinner
    exact absurd (List.cons.inj hinner).1 (by decide)
  exact ⟨by decide, by decide, by decide +kernel, by decide +kernel, houtside⟩

end Imports

end StyleGuide
