import StyleGuide.Proofs.Disk.WellFormed
import StyleGuide.Proofs.Fragments.Reaching

/-!
# What a search comes to

Each step of a search goes from a directory to an entry below it, and nothing is asked about the
entry but whether it is there. So there is something at every path that a search ends with, and it
may as well be a directory.
-/

namespace StyleGuide.Pattern

variable {d : Disk} {dir p q : Path} {name : List Char} {loc next : Location}

/-! ## Paths in a directory -/

theorem separated_ne_nil (p : Path) : separated p ≠ [] := by
  unfold separated
  split
  · next hslash =>
    intro hnil
    rw [hnil] at hslash
    cases hslash
  · exact List.append_ne_nil_of_right_ne_nil _ (List.cons_ne_nil _ _)

theorem noNul_separated (h : '\x00' ∉ p.text.toList) : '\x00' ∉ separated p := by
  unfold separated
  split
  · exact h
  · rw [List.mem_append, not_or]
    exact ⟨h, by decide⟩

theorem noNul_front (h : '\x00' ∉ dir.text.toList) : '\x00' ∉ front dir := by
  change '\x00' ∉ if dir.same ⟨"."⟩ then [] else separated dir
  split
  · exact List.not_mem_nil
  · exact noNul_separated h

theorem existing_of_locate {node : DiskNode} (noNul : '\x00' ∉ p.text.toList)
    (nonempty : p.text.toList ≠ []) (hloc : p.Sound → d.locate p = .ok loc)
    (hnode : d.node? loc = some node) : Existing d p := by
  rcases Nat.lt_or_ge Disk.longestPath (byteCount p.text.toList) with hlong | hshort
  · exact .inr hlong
  · exact .inl (Disk.contains_of_locate (hloc ⟨noNul, nonempty, hshort⟩) hnode)

theorem existing_join {node : DiskNode} (hloc : d.locate dir = .ok loc) (hslash : '/' ∉ name)
    (hnul : '\x00' ∉ name) (hstep : d.step loc name = .ok next) (hnode : d.node? next = some node) :
    Existing d (dir.join ⟨String.ofList name⟩) := by
  have hsound := (Disk.locate_eq_ok_iff.mp hloc).1
  have htext := toList_join hsound.nonempty hslash
  refine existing_of_locate ?_ ?_ (fun h ↦ (locate_join hloc hslash h).trans hstep) hnode
  · rw [htext, List.mem_append, not_or]
    exact ⟨noNul_separated hsound.noNul, hnul⟩
  · rw [htext]
    exact List.append_ne_nil_of_left_ne_nil (separated_ne_nil dir) name

theorem existing_entryPath {node : DiskNode} (hloc : d.locate dir = .ok loc) (hname : name ≠ [])
    (hslash : '/' ∉ name) (hnul : '\x00' ∉ name) (hstep : d.step loc name = .ok next)
    (hnode : d.node? next = some node) : Existing d (entryPath dir name) := by
  have hsound := (Disk.locate_eq_ok_iff.mp hloc).1
  have htext := toList_entryPath hsound.nonempty hslash
  refine existing_of_locate ?_ ?_ (fun h ↦ (locate_entry hloc hslash h).trans hstep) hnode
  · rw [htext, List.mem_append, not_or]
    exact ⟨noNul_front hsound.noNul, hnul⟩
  · rw [htext]
    exact List.append_ne_nil_of_right_ne_nil _ hname

theorem exists_of_mem_inside (h : (p, name) ∈ inside d dir) :
    ∃ loc node, d.locate dir = .ok loc ∧ d.node? (name :: loc) = some node ∧
      p = entryPath dir name := by
  unfold inside at h
  split at h
  · cases h
  · next loc hloc =>
    obtain ⟨l, hl, hentry⟩ := List.mem_filterMap.mp h
    obtain ⟨-, node, hnode⟩ := Disk.exists_of_mem_below hl
    split at hentry
    · obtain ⟨rfl, hpair⟩ := Option.ite_none_right_eq_some.mp hentry
      cases hpair
      exact ⟨_, node, hloc, hnode, rfl⟩
    · cases hentry

/-! ## Paths at any depth -/

/-- The text of names that are joined one after another. -/
theorem toList_foldl_join {names : List (List Char)} (hp : p.text.toList ≠ [])
    (hlast : p.text.toList.getLast? ≠ some '/') (hnames : ∀ n ∈ names, '/' ∉ n ∧ n ≠ []) :
    (names.foldl (fun p n ↦ p.join ⟨String.ofList n⟩) p).text.toList =
      p.text.toList ++ names.flatMap ('/' :: ·) := by
  induction names generalizing p with
  | nil => exact (List.append_nil _).symm
  | cons name names ih =>
    obtain ⟨⟨hslash, hne⟩, hnames⟩ := List.forall_mem_cons.mp hnames
    have htext : (p.join ⟨String.ofList name⟩).text.toList = p.text.toList ++ '/' :: name := by
      rw [toList_join hp hslash, separated, if_neg hlast, List.append_assoc, List.singleton_append]
    have hend : (p.join ⟨String.ofList name⟩).text.toList.getLast? ≠ some '/' := by
      rw [htext, List.append_cons, List.getLast?_append_of_ne_nil _ hne]
      exact fun h ↦ hslash (List.mem_of_getLast? h)
    rw [List.foldl_cons, ih (by rw [htext]; simp) hend hnames, htext, List.flatMap_cons,
      List.append_assoc]

theorem exists_of_mem_below (h : (p, name) ∈ below d dir) :
    ∃ loc first inner node, d.locate dir = .ok loc ∧
      d.node? ((first :: inner).reverse ++ loc) = some node ∧
      p = inner.foldl (fun p n ↦ p.join ⟨String.ofList n⟩) (entryPath dir first) := by
  unfold below at h
  split at h
  · cases h
  · next loc hloc =>
    obtain ⟨l, hl, hentry⟩ := List.mem_filterMap.mp h
    obtain ⟨⟨names, -, rfl⟩, node, hnode⟩ := Disk.exists_of_mem_below hl
    rw [List.length_append, Nat.add_sub_cancel, List.take_left] at hentry
    split at hentry
    · next first inner _ _ hnames _ =>
      cases hentry
      refine ⟨loc, first, inner, node, hloc, ?_, rfl⟩
      rw [← hnames, List.reverse_reverse]
      exact hnode
    · cases hentry

theorem room_of_names {first : List Char} {inner : List (List Char)} (hsound : dir.Sound)
    (areNames : ∀ n ∈ first :: inner, Disk.IsName n)
    (short : byteCount (front dir ++ first ++ inner.flatMap ('/' :: ·)) ≤ Disk.longestPath) :
    Room dir (first :: inner) := by
  have isName := areNames first List.mem_cons_self
  refine ⟨hsound.nonempty, noNul_front hsound.noNul, ?_,
    fun n hn ↦ ⟨(areNames n hn).noSlash, (areNames n hn).noNul⟩, fun _ ↦ ?_⟩
  · rw [byteCount_append, byteCount_append] at short
    rw [List.flatMap_cons, byteCount_append, byteCount_append, byteCount_slash]
    omega
  · rw [List.dropWhile_cons_of_neg (by simpa using isName.ne_dot)]
    exact fun h ↦ isName.ne_nil (Option.some.inj h)

theorem existing_of_mem_below (wellFormed : d.WellFormed) (h : (p, name) ∈ below d dir) :
    Existing d p := by
  obtain ⟨loc, first, inner, node, hloc, hnode, rfl⟩ := exists_of_mem_below h
  obtain ⟨areNames, hwalk⟩ := wellFormed.foldlM_names hnode
  obtain ⟨isName, hinner⟩ := List.forall_mem_cons.mp areNames
  have hsound := (Disk.locate_eq_ok_iff.mp hloc).1
  have hne : front dir ++ first ≠ [] := List.append_ne_nil_of_right_ne_nil _ isName.ne_nil
  have hfirst := toList_entryPath hsound.nonempty isName.noSlash
  have hlast : (entryPath dir first).text.toList.getLast? ≠ some '/' := by
    rw [hfirst, List.getLast?_append_of_ne_nil _ isName.ne_nil]
    exact fun h ↦ isName.noSlash (List.mem_of_getLast? h)
  have htext := toList_foldl_join (hfirst ▸ hne) hlast fun n hn ↦
    ⟨(hinner n hn).noSlash, (hinner n hn).ne_nil⟩
  rw [hfirst] at htext
  rcases Nat.lt_or_ge Disk.longestPath (byteCount (front dir ++ first ++ inner.flatMap ('/' :: ·)))
    with hlong | hshort
  · exact .inr (htext ▸ hlong)
  · have room := room_of_names hsound areNames hshort
    have hfront : front (entryPath dir first) ≠ [] :=
      front_entryPath_ne_nil hsound.nonempty isName.noSlash hne isName.ne_dot
    rw [foldl_join room.entry hfront]
    rw [← List.append_nil (first :: inner)] at room
    exact .inl (Disk.contains_of_locate (locate_entriesPath room hloc hwalk).1 hnode)

/-! ## Steps -/

/-- What a step of a search can come to. -/
inductive Next (d : Disk) : Step → Path → Path → Prop
  | literal {dir : Path} {name : List Char} (present : d.contains (entryPath dir name) = true) :
      Next d (.literal name) dir (entryPath dir name)
  | special {dir : Path} {name : List Char} (dots : name = ['.'] ∨ name = ['.', '.'])
      (directory : d.isDirectory dir = true) : Next d (.literal name) dir (entryPath dir name)
  | child {dir p : Path} {name : List Char} {tokens : List Token}
      (listed : (p, name) ∈ inside d dir) (covered : covers tokens name = true) :
      Next d (.child tokens) dir p
  | specialChild {dir : Path} {name : List Char} {tokens : List Token}
      (dots : name = ['.'] ∨ name = ['.', '.']) (covered : covers tokens name = true)
      (directory : d.isDirectory dir = true) :
      Next d (.child tokens) dir (dir.join ⟨String.ofList name⟩)
  | descendant {dir p : Path} {name : List Char} {tokens : List Token}
      (listed : (p, name) ∈ below d dir) (covered : covers tokens name = true) :
      Next d (.descendant tokens) dir p
  | directory {dir p : Path} {name : List Char} (listed : (p, name) ∈ below d dir)
      (directory : d.isDirectory p = true) : Next d .directories dir p

theorem exists_of_mem_specials {tokens : List Token} (h : p ∈ specials dir tokens) :
    ∃ name, (name = ['.'] ∨ name = ['.', '.']) ∧ covers tokens name = true ∧
      p = dir.join ⟨String.ofList name⟩ := by
  unfold specials at h
  split at h
  · obtain ⟨name, hname, rfl⟩ := List.mem_map.mp h
    obtain ⟨hmem, hcovered⟩ := List.mem_filter.mp hname
    exact ⟨name, by simpa using hmem, hcovered, rfl⟩
  · cases h

/-- A search comes to what it finds by way of what its first step comes to. -/
theorem exists_next_of_mem_reach {step : Step} {rest : List Step}
    (h : q ∈ reach d (step :: rest) dir) : ∃ p, Next d step dir p ∧ q ∈ reach d rest p := by
  cases step with
  | literal name =>
    simp only [reach] at h
    split at h
    · next dots =>
      split at h
      · next directory => exact ⟨_, .special dots directory, h⟩
      · cases h
    · split at h
      · next present => exact ⟨_, .literal present, h⟩
      · cases h
  | child tokens =>
    simp only [reach] at h
    split at h
    · next directory =>
      obtain ⟨p, hp, hq⟩ := List.mem_flatMap.mp h
      refine ⟨p, ?_, hq⟩
      rcases List.mem_append.mp hp with hp | hp
      · obtain ⟨e, he, rfl⟩ := List.mem_map.mp hp
        obtain ⟨listed, covered⟩ := List.mem_filter.mp he
        exact .child listed covered
      · obtain ⟨name, dots, covered, rfl⟩ := exists_of_mem_specials hp
        exact .specialChild dots covered directory
    · cases h
  | descendant tokens =>
    simp only [reach] at h
    split at h
    · obtain ⟨p, hp, hq⟩ := List.mem_flatMap.mp h
      obtain ⟨e, he, rfl⟩ := List.mem_map.mp hp
      obtain ⟨listed, covered⟩ := List.mem_filter.mp he
      exact ⟨e.1, .descendant listed covered, hq⟩
    · cases h
  | directories =>
    simp only [reach] at h
    split at h
    · obtain ⟨p, hp, hq⟩ := List.mem_flatMap.mp h
      obtain ⟨hmem, directory⟩ := List.mem_filter.mp hp
      obtain ⟨e, listed, rfl⟩ := List.mem_map.mp hmem
      exact ⟨e.1, .directory listed directory, hq⟩
    · cases h

theorem Next.existing (wellFormed : d.WellFormed) {step : Step} (next : Next d step dir p) :
    Existing d p := by
  cases next with
  | literal present => exact .inl present
  | special dots directory =>
    obtain ⟨loc, hloc, hnode⟩ := Disk.exists_directory_of_isDirectory directory
    obtain ⟨next, hstep, hnext⟩ := wellFormed.exists_step_special hnode dots
    rcases dots with rfl | rfl
    · exact existing_entryPath hloc (by decide) (by decide) (by decide) hstep hnext
    · exact existing_entryPath hloc (by decide) (by decide) (by decide) hstep hnext
  | child listed =>
    obtain ⟨loc, node, hloc, hnode, rfl⟩ := exists_of_mem_inside listed
    obtain ⟨isName, hparent⟩ := wellFormed.above hnode
    exact existing_entryPath hloc isName.ne_nil isName.noSlash isName.noNul
      (Disk.step_of_isName isName hparent) hnode
  | specialChild dots _ directory =>
    obtain ⟨loc, hloc, hnode⟩ := Disk.exists_directory_of_isDirectory directory
    obtain ⟨next, hstep, hnext⟩ := wellFormed.exists_step_special hnode dots
    rcases dots with rfl | rfl
    · exact existing_join hloc (by decide) (by decide) hstep hnext
    · exact existing_join hloc (by decide) (by decide) hstep hnext
  | descendant listed => exact existing_of_mem_below wellFormed listed
  | directory _ directory => exact .inl (Disk.contains_of_isDirectory directory)

theorem existing_of_mem_reach (wellFormed : d.WellFormed) {steps : List Step}
    (existing : Existing d dir) (h : q ∈ reach d steps dir) : Existing d q := by
  induction steps generalizing dir with
  | nil => exact List.mem_singleton.mp h ▸ existing
  | cons step rest ih =>
    obtain ⟨p, next, hq⟩ := exists_next_of_mem_reach h
    exact ih (next.existing wellFormed) hq

end StyleGuide.Pattern
