import StyleGuide.Fragments.Search
import StyleGuide.Proofs.Disk.Walking
import StyleGuide.Proofs.Fragments.Meaning

/-!
# Reaching what fits a pattern

A search goes through a pattern component by component, and spells what it finds on the way: the
directory it stands in, and the name behind it. Here an entry is followed along the components of a
path that fits the pattern. Where a component stands for the name that the path goes on to, the
search goes on to it as well, and since it stands in the same place afterwards, it ends at the entry.
What it has spelled by then may be shorter than the path, never longer, so it can be looked up.
-/

namespace StyleGuide.Pattern

variable {d : Disk} {dir : Path} {name : List Char} {loc next : Location}

/-! ## Names in a directory -/

def separated (p : Path) : List Char :=
  if p.text.toList.getLast? = some '/' then p.text.toList else p.text.toList ++ ['/']

/-- What the path of a name in a directory begins with. -/
def front (dir : Path) : List Char :=
  if dir.same ⟨"."⟩ then []
  else if dir.text.toList.getLast? = some '/' then dir.text.toList
  else dir.text.toList ++ ['/']

theorem toList_join (hdir : dir.text.toList ≠ []) (hname : '/' ∉ name) :
    (dir.join ⟨String.ofList name⟩).text.toList = separated dir ++ name := by
  unfold Path.join separated
  rw [if_neg (Bool.not_eq_true _ ▸ Path.isAbsolute_ofList_of_not_mem hname)]
  split
  · next hlast => exact absurd (List.getLast?_eq_none_iff.mp hlast) hdir
  · next hlast => simp [hlast]
  · next c hslash hlast =>
    have hne : ¬ dir.text.toList.getLast? = some '/' := fun h ↦
      hslash (Option.some.inj (hlast.symm.trans h))
    simp [hne]

theorem toList_entryPath (hdir : dir.text.toList ≠ []) (hname : '/' ∉ name) :
    (entryPath dir name).text.toList = front dir ++ name := by
  unfold entryPath front
  split
  · exact String.toList_ofList
  · exact toList_join hdir hname

theorem not_absolute_of_same_here (h : dir.same ⟨"."⟩ = true) :
    dir.isAbsolute = false ∧ dir.onward = [] := by
  have hcomponents : Path.opening (Path.segments dir.text.toList) ++ dir.onward = [.here] := by
    rw [← Path.components_eq]
    exact eq_of_beq h
  have honward : dir.onward = [] := by
    refine List.eq_nil_iff_forall_not_mem.mpr fun c hc ↦ ?_
    have hmem : c ∈ [Path.Component.here] := hcomponents ▸ List.mem_append_right _ hc
    obtain rfl := List.mem_singleton.mp hmem
    obtain ⟨s, -, hs⟩ := List.mem_filterMap.mp hc
    exact Path.ofSegment_ne_here s hs
  refine ⟨?_, honward⟩
  by_contra habsolute
  have hfirst := beq_iff_eq.mp (Bool.not_eq_false _ ▸ habsolute)
  obtain ⟨rest, htext⟩ := List.head?_eq_some_iff.mp hfirst
  rw [htext, Path.opening_slash] at hcomponents
  cases hcomponents

/-- A directory is spelled in front of what is joined to it, with a separator between them. -/
theorem exists_separated_eq (hloc : d.locate dir = .ok loc) :
    ∃ lead, separated dir = lead ++ ['/'] ∧
      (Path.segments lead).foldlM d.step (d.origin dir) = .ok loc ∧
      (lead ++ ['/']).head? = dir.text.toList.head? := by
  obtain ⟨hsound, hwalk⟩ := Disk.locate_eq_ok_iff.mp hloc
  unfold separated
  by_cases hslash : dir.text.toList.getLast? = some '/'
  · obtain ⟨lead, hlead⟩ := List.getLast?_eq_some_iff.mp hslash
    rw [if_pos hslash]
    refine ⟨lead, hlead, ?_, congrArg List.head? hlead.symm⟩
    rw [hlead, Path.segments, Text.splitAt_append_cons] at hwalk
    obtain ⟨mid, hmid, hstep⟩ := Disk.foldlM_append_eq_ok.mp hwalk
    have hstay : loc = mid := Disk.step_eq_ok ((Disk.foldlM_singleton []).symm.trans hstep)
    rw [hstay]
    exact hmid
  · rw [if_neg hslash]
    refine ⟨dir.text.toList, rfl, hwalk, ?_⟩
    rw [List.head?_append_of_ne_nil _ hsound.nonempty]

/-- What is joined to a directory leads where its name does from the directory. -/
theorem locate_join (hloc : d.locate dir = .ok loc) (hname : '/' ∉ name)
    (hsound : (dir.join ⟨String.ofList name⟩).Sound) :
    d.locate (dir.join ⟨String.ofList name⟩) = d.step loc name := by
  have hdir : dir.text.toList ≠ [] := (Disk.locate_eq_ok_iff.mp hloc).1.nonempty
  obtain ⟨lead, hlead, hwalk, hhead⟩ := exists_separated_eq hloc
  have horigin : ((lead ++ '/' :: name).head? == some '/') = dir.isAbsolute := by
    rw [List.append_cons, List.head?_append_of_ne_nil _ (by simp), hhead]
    rfl
  rw [Disk.locate_of_sound hsound]
  unfold Disk.origin Path.isAbsolute
  rw [toList_join hdir hname, hlead, List.append_assoc, List.singleton_append, horigin,
    Path.segments, Text.splitAt_append_cons, Text.splitAt_of_not_mem hname, List.foldlM_append]
  change (Path.segments lead).foldlM d.step (d.origin dir) >>= _ = _
  rw [hwalk]
  exact Disk.foldlM_singleton name

/-- The path of a name in a directory leads where the name does from the directory. -/
theorem locate_entry (hloc : d.locate dir = .ok loc) (hname : '/' ∉ name)
    (hsound : (entryPath dir name).Sound) :
    d.locate (entryPath dir name) = d.step loc name := by
  unfold entryPath at hsound ⊢
  by_cases hhere : dir.same ⟨"."⟩ = true
  · rw [if_pos hhere] at hsound ⊢
    obtain ⟨habsolute, honward⟩ := not_absolute_of_same_here hhere
    have hworking : loc = d.workingDirectory := by
      rw [Disk.eq_of_locate hloc, honward, Disk.origin, habsolute]
      rfl
    rw [Disk.locate_of_sound hsound, Disk.origin, Path.isAbsolute_ofList_of_not_mem hname,
      String.toList_ofList, Path.segments, Text.splitAt_of_not_mem hname, Disk.foldlM_singleton,
      if_neg Bool.false_ne_true, hworking]
  · rw [if_neg hhere] at hsound ⊢
    exact locate_join hloc hname hsound

theorem locate_entryPath (hloc : d.locate dir = .ok loc) (hname : '/' ∉ name)
    (hsound : (entryPath dir name).Sound) (hstep : d.step loc name = .ok next) :
    d.locate (entryPath dir name) = .ok next :=
  (locate_entry hloc hname hsound).trans hstep

theorem byteCount_front_le (dir : Path) :
    byteCount (front dir) ≤ byteCount dir.text.toList + 1 := by
  unfold front
  split
  · exact Nat.zero_le _
  · split
    · omega
    · rw [byteCount_append]
      exact Nat.le_refl _

/-- Only `.` leads from the working directory to a path that is spelled like it. -/
theorem eq_dot_of_front_entryPath (hdir : dir.text.toList ≠ []) (hname : '/' ∉ name)
    (hne : front dir ++ name ≠ []) (h : front (entryPath dir name) = []) :
    front dir = [] ∧ name = ['.'] := by
  have hhere : (entryPath dir name).same ⟨"."⟩ = true := by
    by_contra hnot
    unfold front at h
    rw [if_neg hnot] at h
    split at h
    · rw [toList_entryPath hdir hname] at h
      exact hne h
    · exact List.cons_ne_nil _ _ (List.append_eq_nil_iff.mp h).2
  have hcomponents : (entryPath dir name).components = [.here] := eq_of_beq hhere
  by_cases hdot : dir.same ⟨"."⟩ = true
  · refine ⟨if_pos hdot, ?_⟩
    unfold entryPath at hcomponents
    rw [if_pos hdot, Path.components_eq, Path.onward, String.toList_ofList, Path.segments,
      Text.splitAt_of_not_mem hname] at hcomponents
    by_contra hnot
    have hopening : Path.opening [name] = [] := by simp [Path.opening, hnot]
    rw [hopening, List.nil_append] at hcomponents
    have hmem : Path.Component.here ∈ [name].filterMap Path.Component.ofSegment := by
      rw [hcomponents]
      exact List.mem_singleton_self _
    obtain ⟨s, -, hs⟩ := List.mem_filterMap.mp hmem
    exact Path.ofSegment_ne_here s hs
  · unfold entryPath at hcomponents
    rw [if_neg hdot, Path.components_join_of_relative (Path.isAbsolute_ofList_of_not_mem hname)
      (fun h ↦ hdir (by rw [h]; rfl)), List.append_eq_singleton_iff] at hcomponents
    rcases hcomponents with ⟨hnil, -⟩ | ⟨hself, -⟩
    · exact absurd (congrArg String.toList (Path.components_eq_nil_iff.mp hnil)) hdir
    · exact absurd (beq_iff_eq.mpr hself) hdot

theorem front_entryPath_ne_nil (hdir : dir.text.toList ≠ []) (hname : '/' ∉ name)
    (hne : front dir ++ name ≠ []) (hdot : name ≠ ['.']) : front (entryPath dir name) ≠ [] :=
  fun h ↦ hdot (eq_dot_of_front_entryPath hdir hname hne h).2

/-! ## Room for names -/

/-- Names can be put behind a directory one after another, and what comes of it can be looked up. A
name behind the working directory stands alone, so it must not be empty. -/
structure Room (dir : Path) (names : List (List Char)) : Prop where
  nonempty : dir.text.toList ≠ []
  noNul : '\x00' ∉ front dir
  short : byteCount (front dir ++ names.flatMap ('/' :: ·)) ≤ Disk.longestPath + 1
  segments : ∀ n ∈ names, '/' ∉ n ∧ '\x00' ∉ n
  spelled : front dir = [] → (names.dropWhile (· = ['.'])).head? ≠ some []

theorem Room.sound {names : List (List Char)} (room : Room dir (name :: names)) :
    (entryPath dir name).Sound := by
  obtain ⟨⟨hslash, hnul⟩, -⟩ := List.forall_mem_cons.mp room.segments
  have htext := toList_entryPath room.nonempty hslash
  have hshort := room.short
  rw [List.flatMap_cons, byteCount_append, byteCount_append, byteCount_slash] at hshort
  refine ⟨?_, ?_, ?_⟩
  · rw [htext, List.mem_append, not_or]
    exact ⟨room.noNul, hnul⟩
  · rw [htext]
    intro hempty
    obtain ⟨hfront, hname⟩ := List.append_eq_nil_iff.mp hempty
    exact room.spelled hfront (by rw [hname]; rfl)
  · rw [htext, byteCount_append]
    omega

theorem Room.entry {names : List (List Char)} (room : Room dir (name :: names)) :
    Room (entryPath dir name) names := by
  obtain ⟨⟨hslash, hnul⟩, hnames⟩ := List.forall_mem_cons.mp room.segments
  have htext := toList_entryPath room.nonempty hslash
  have hsound := room.sound
  refine ⟨hsound.nonempty, ?_, ?_, hnames, fun hfront ↦ ?_⟩
  · unfold front
    split
    · exact List.not_mem_nil
    · split
      · exact hsound.noNul
      · rw [List.mem_append, not_or]
        exact ⟨hsound.noNul, by decide⟩
  · have hle := byteCount_front_le (entryPath dir name)
    have hshort := room.short
    rw [List.flatMap_cons, byteCount_append, byteCount_append, byteCount_slash] at hshort
    rw [htext, byteCount_append] at hle
    rw [byteCount_append]
    omega
  · have hdot := eq_dot_of_front_entryPath room.nonempty hslash (htext ▸ hsound.nonempty) hfront
    have hspelled := room.spelled hdot.1
    rw [hdot.2] at hspelled
    simpa using hspelled

theorem Room.left {names more : List (List Char)} (room : Room dir (names ++ more)) :
    Room dir names := by
  refine ⟨room.nonempty, room.noNul, ?_, fun n hn ↦ room.segments n (List.mem_append_left _ hn),
    fun hfront hhead ↦ room.spelled hfront ?_⟩
  · have hshort := room.short
    rw [List.flatMap_append, ← List.append_assoc, byteCount_append] at hshort
    exact Nat.le_of_add_right_le hshort
  · have hne : names.dropWhile (· = ['.']) ≠ [] := by
      intro hnil
      rw [hnil] at hhead
      cases hhead
    rw [List.dropWhile_append, if_neg (by simpa using hne), List.head?_append_of_ne_nil _ hne,
      hhead]

def entriesPath (dir : Path) (names : List (List Char)) : Path :=
  names.foldl entryPath dir

theorem locate_entriesPath {names more : List (List Char)} (room : Room dir (names ++ more))
    (hloc : d.locate dir = .ok loc) (hwalk : names.foldlM d.step loc = .ok next) :
    d.locate (entriesPath dir names) = .ok next ∧ Room (entriesPath dir names) more := by
  induction names generalizing dir loc with
  | nil =>
    cases hwalk
    exact ⟨hloc, room⟩
  | cons name names ih =>
    obtain ⟨mid, hstep, hrest⟩ := Disk.foldlM_cons_eq_ok.mp hwalk
    have hslash := (room.segments name List.mem_cons_self).1
    exact ih room.entry (locate_entryPath hloc hslash room.sound hstep) hrest

/-- Behind a directory other than the working directory an entry is joined. -/
theorem foldl_join {names : List (List Char)} (room : Room dir names) (hfront : front dir ≠ []) :
    names.foldl (fun p n ↦ p.join ⟨String.ofList n⟩) dir = entriesPath dir names := by
  induction names generalizing dir with
  | nil => rfl
  | cons name names ih =>
    have hjoin : dir.join ⟨String.ofList name⟩ = entryPath dir name := by
      unfold entryPath
      rw [if_neg fun hhere ↦ hfront (if_pos hhere)]
    have hslash := (room.segments name List.mem_cons_self).1
    have hnext : front (entryPath dir name) ≠ [] := by
      intro hempty
      have htext := toList_entryPath room.nonempty hslash
      exact hfront (eq_dot_of_front_entryPath room.nonempty hslash (htext ▸ room.sound.nonempty)
        hempty).1
    rw [List.foldl_cons, hjoin, ih room.entry hnext]
    rfl

theorem mem_inside {node : DiskNode} (hloc : d.locate dir = .ok loc)
    (hnode : d.node? (name :: loc) = some node) : (entryPath dir name, name) ∈ inside d dir := by
  have hbelow : name :: loc ∈ d.below loc := Disk.mem_below (List.cons_ne_nil name []) hnode
  unfold inside
  rw [hloc]
  exact List.mem_filterMap.mpr ⟨name :: loc, hbelow, if_pos rfl⟩

theorem mem_below {above : List (List Char)} {node : DiskNode} (hloc : d.locate dir = .ok loc)
    (hnode : d.node? (name :: (above.reverse ++ loc)) = some node)
    (room : Room dir (above ++ [name])) (named : ∀ n ∈ above ++ [name], IsNamed n) :
    (entriesPath dir (above ++ [name]), name) ∈ below d dir := by
  have hnames : name :: (above.reverse ++ loc) = (above ++ [name]).reverse ++ loc := by simp
  have hbelow : name :: (above.reverse ++ loc) ∈ d.below loc := by
    rw [hnames] at hnode ⊢
    exact Disk.mem_below (by simp) hnode
  have htake : ((name :: (above.reverse ++ loc)).take
      ((name :: (above.reverse ++ loc)).length - loc.length)).reverse = above ++ [name] := by
    rw [hnames, List.length_append, Nat.add_sub_cancel, List.take_left, List.reverse_reverse]
  unfold below
  rw [hloc]
  refine List.mem_filterMap.mpr ⟨_, hbelow, ?_⟩
  simp only [htake]
  obtain ⟨first, inner, hsplit⟩ := List.exists_cons_of_ne_nil
    (List.append_ne_nil_of_right_ne_nil above (List.cons_ne_nil name []))
  rw [hsplit] at room named ⊢
  have hslash := (room.segments first List.mem_cons_self).1
  have htext := toList_entryPath room.nonempty hslash
  have hfront : front (entryPath dir first) ≠ [] := by
    refine front_entryPath_ne_nil room.nonempty hslash (htext ▸ room.sound.nonempty) ?_
    rintro rfl
    cases named ['.'] List.mem_cons_self
  dsimp only
  rw [foldl_join room.entry hfront]
  rfl

/-! ## Paths that fit a pattern -/

theorem steps_cons {tokens : List Token} (h : tokens ≠ [.anyDepth]) (rest : List (List Token)) :
    steps (tokens :: rest) = .ofTokens tokens :: steps rest := by
  rw [steps] <;> simp [h]

theorem steps_depth {tokens : List Token} (h : tokens ≠ [.anyDepth]) (again : Nat)
    (rest : List (List Token)) :
    steps (List.replicate (again + 1) [.anyDepth] ++ tokens :: rest) =
      .descendant tokens :: steps rest := by
  induction again with
  | zero =>
    rw [List.replicate_one, List.singleton_append, steps]
    exact fun hdepth ↦ h hdepth
  | succ again ih =>
    rw [List.replicate_succ, List.replicate_succ, List.cons_append, List.cons_append, steps]
    exact ih

/-- A component that is no name is spelled in one of three ways. -/
theorem name_cases (name : List Char) :
    IsNamed name ∨ name = [] ∨ name = ['.'] ∨ name = ['.', '.'] := by
  unfold IsNamed Path.Component.ofSegment
  split
  · exact .inr (.inl rfl)
  · exact .inr (.inr (.inl rfl))
  · exact .inr (.inr (.inr rfl))
  · exact .inl rfl

theorem step_name (hnamed : IsNamed name) (hstep : d.step loc name = .ok next) :
    next = name :: loc := by
  rw [Disk.step_eq_ok hstep, hnamed]
  rfl

/-- A component that is no name is a pattern for itself. -/
theorem literal?_of_special {tokens : List Token} (hspecial : ¬ IsNamed name)
    (htokens : tokens? name = some tokens) : literal? tokens = some name := by
  rcases name_cases name with h | rfl | rfl | rfl
  · exact absurd h hspecial
  · obtain rfl : tokens = [] := by simpa [tokens?, tokensFrom, eq_comm] using htokens
    rfl
  · obtain rfl : tokens = [.char '.'] := by simpa [tokens?, tokensFrom, eq_comm] using htokens
    rfl
  · obtain rfl : tokens = [.char '.', .char '.'] := by
      simpa [tokens?, tokensFrom, eq_comm] using htokens
    rfl

theorem mem_reach_literal {rest : List Step} {node : DiskNode} {q : Path}
    (hloc : d.locate dir = .ok loc) (hstep : d.step loc name = .ok next)
    (hnext : d.locate (entryPath dir name) = .ok next) (hnode : d.node? next = some node)
    (hq : q ∈ reach d rest (entryPath dir name)) : q ∈ reach d (.literal name :: rest) dir := by
  have hdirectory : d.isDirectory dir = true :=
    Disk.isDirectory_of_locate hloc (Disk.directory_of_step hstep)
  have hcontains : d.contains (entryPath dir name) = true := Disk.contains_of_locate hnext hnode
  simp only [reach, hdirectory, hcontains, ite_self, if_true]
  exact hq

/-- A component leads on to the path of any name it stands for. -/
theorem mem_reach_ofTokens {tokens : List Token} {rest : List Step} {node : DiskNode} {q : Path}
    (named : IsNamed name) (covered : covers tokens name = true) (hloc : d.locate dir = .ok loc)
    (hstep : d.step loc name = .ok next) (hnext : d.locate (entryPath dir name) = .ok next)
    (hnode : d.node? next = some node) (hq : q ∈ reach d rest (entryPath dir name)) :
    q ∈ reach d (.ofTokens tokens :: rest) dir := by
  unfold Step.ofTokens
  cases hliteral : literal? tokens with
  | some spelled =>
    obtain rfl := eq_of_covers_of_literal? hliteral covered
    exact mem_reach_literal hloc hstep hnext hnode hq
  | none =>
    have hdirectory : d.isDirectory dir = true :=
      Disk.isDirectory_of_locate hloc (Disk.directory_of_step hstep)
    rw [step_name named hstep] at hnode
    simp only [reach, hdirectory, if_true]
    refine List.mem_flatMap.mpr ⟨_, List.mem_append_left _ (List.mem_map.mpr ?_), hq⟩
    exact ⟨_, List.mem_filter.mpr ⟨mem_inside hloc hnode, covered⟩, rfl⟩

theorem foldlM_names {names : List (List Char)} (named : ∀ n ∈ names, IsNamed n)
    (hwalk : names.foldlM d.step loc = .ok next) : next = names.reverse ++ loc := by
  have hmap : names.filterMap Path.Component.ofSegment = names.map .name := by
    rw [← List.filterMap_eq_map]
    exact List.filterMap_congr named
  rw [Disk.foldlM_step_eq_ok hwalk, hmap, Location.foldl_follow_names]

/-- A component behind some `**` leads on to any name it stands for, at any depth. -/
theorem mem_reach_descendant {tokens : List Token} {rest : List Step} {node : DiskNode} {q : Path}
    {above : List (List Char)} (leads : ∀ n ∈ above, IsNamed n) (named : IsNamed name)
    (covered : covers tokens name = true) (hloc : d.locate dir = .ok loc)
    (room : Room dir (above ++ [name])) (hwalk : (above ++ [name]).foldlM d.step loc = .ok next)
    (hnode : d.node? next = some node)
    (hq : q ∈ reach d rest (entriesPath dir (above ++ [name]))) :
    q ∈ reach d (.descendant tokens :: rest) dir := by
  have hnamed : ∀ n ∈ above ++ [name], IsNamed n :=
    List.forall_mem_append.mpr ⟨leads, List.forall_mem_singleton.mpr named⟩
  have hdirectory : d.isDirectory dir = true := by
    cases above with
    | nil => exact Disk.isDirectory_of_locate hloc (Disk.directory_of_foldlM hwalk)
    | cons => exact Disk.isDirectory_of_locate hloc (Disk.directory_of_foldlM hwalk)
  have hplace : next = name :: (above.reverse ++ loc) := by
    rw [foldlM_names hnamed hwalk, List.reverse_append]
    rfl
  rw [hplace] at hnode
  simp only [reach, hdirectory, if_true]
  refine List.mem_flatMap.mpr ⟨_, List.mem_map.mpr ⟨_, List.mem_filter.mpr
    ⟨mem_below hloc hnode room hnamed, covered⟩, rfl⟩, hq⟩

theorem mapM_depths (above : Nat) (rest : List (List Char)) :
    (List.replicate above ['*', '*'] ++ rest).mapM tokens? =
      (rest.mapM tokens?).map (List.replicate above [.anyDepth] ++ ·) := by
  have hdepth : tokens? ['*', '*'] = some [.anyDepth] := by simp [tokens?, tokensFrom]
  induction above with
  | zero => simp
  | succ above ih =>
    rw [List.replicate_succ, List.cons_append, List.mapM_cons, hdepth, ih]
    cases rest.mapM tokens? <;> rfl

theorem mapM_cons_eq_some {pattern : List Char} {ps : List (List Char)}
    {tokens : List (List Token)} (h : (pattern :: ps).mapM tokens? = some tokens) :
    ∃ first others, tokens? pattern = some first ∧ ps.mapM tokens? = some others ∧
      tokens = first :: others := by
  rw [List.mapM_cons] at h
  obtain ⟨first, hfirst, h⟩ := Option.bind_eq_some_iff.mp h
  obtain ⟨others, hothers, h⟩ := Option.bind_eq_some_iff.mp h
  cases h
  exact ⟨first, others, hfirst, hothers, rfl⟩

/-- Only `**` is read as directories at any depth. -/
theorem shallow {pattern : List Char} {tokens : List Token} (hslash : '/' ∉ pattern)
    (flat : pattern ≠ ['*', '*']) (htokens : tokens? pattern = some tokens) :
    tokens ≠ [.anyDepth] := by
  rintro rfl
  exact flat ((Reads.of_tokens? htokens).eq_of_anyDepth hslash)

/-- What fits the pattern is reached, in its own spelling or a shorter one. -/
theorem exists_reach {patterns names : List (List Char)} (h : Fits patterns names)
    {target : Location} {node : DiskNode} (hnode : d.node? target = some node) :
    ∀ {tokens : List (List Token)} {dir : Path} {loc : Location},
      (∀ p ∈ patterns, '/' ∉ p) → patterns.mapM tokens? = some tokens →
      d.locate dir = .ok loc → Room dir names → names.foldlM d.step loc = .ok target →
      ∃ q ∈ reach d (steps tokens) dir, d.locate q = .ok target := by
  induction h with
  | nil =>
    intro tokens dir loc _ htokens hloc _ hwalk
    cases htokens
    cases hwalk
    exact ⟨dir, List.mem_singleton_self dir, hloc⟩
  | @special name ps ns special _ ih =>
    intro tokens dir loc hslashes htokens hloc room hwalk
    obtain ⟨first, others, hfirst, hothers, rfl⟩ := mapM_cons_eq_some htokens
    obtain ⟨hslash, hslashes⟩ := List.forall_mem_cons.mp hslashes
    obtain ⟨next, hstep, hrest⟩ := Disk.foldlM_cons_eq_ok.mp hwalk
    have hnext := locate_entryPath hloc hslash room.sound hstep
    obtain ⟨_, hpresent⟩ := Disk.exists_node?_of_foldlM hrest hnode
    obtain ⟨q, hq, htarget⟩ := ih hslashes hothers hnext room.entry hrest
    have hflat : name ≠ ['*', '*'] := by
      rintro rfl
      exact special rfl
    rw [steps_cons (shallow hslash hflat hfirst), Step.ofTokens,
      literal?_of_special special hfirst]
    exact ⟨q, mem_reach_literal hloc hstep hnext hpresent hq, htarget⟩
  | @name pattern name ps ns flat named stands _ ih =>
    intro tokens dir loc hslashes htokens hloc room hwalk
    obtain ⟨first, others, hfirst, hothers, rfl⟩ := mapM_cons_eq_some htokens
    obtain ⟨hslash, hslashes⟩ := List.forall_mem_cons.mp hslashes
    obtain ⟨first', hfirst', covered⟩ := stands
    cases hfirst.symm.trans hfirst'
    obtain ⟨next, hstep, hrest⟩ := Disk.foldlM_cons_eq_ok.mp hwalk
    have hnext := locate_entryPath hloc (room.segments name List.mem_cons_self).1 room.sound hstep
    obtain ⟨_, hpresent⟩ := Disk.exists_node?_of_foldlM hrest hnode
    obtain ⟨q, hq, htarget⟩ := ih hslashes hothers hnext room.entry hrest
    rw [steps_cons (shallow hslash flat hfirst)]
    exact ⟨q, mem_reach_ofTokens named covered hloc hstep hnext hpresent hq, htarget⟩
  | @depth again above pattern name ps ns flat leads named stands _ ih =>
    intro tokens dir loc hslashes htokens hloc room hwalk
    rw [mapM_depths] at htokens
    obtain ⟨mapped, hmapped, rfl⟩ := Option.map_eq_some_iff.mp htokens
    obtain ⟨first, others, hfirst, hothers, rfl⟩ := mapM_cons_eq_some hmapped
    obtain ⟨hslash, hslashes⟩ := List.forall_mem_cons.mp
      (List.forall_mem_append.mp hslashes).2
    obtain ⟨first', hfirst', covered⟩ := stands
    cases hfirst.symm.trans hfirst'
    -- All of `**` and the name behind it are one step of the pattern.
    rw [List.append_cons] at room hwalk
    obtain ⟨next, hdescent, hrest⟩ := Disk.foldlM_append_eq_ok.mp hwalk
    obtain ⟨hnext, hroom⟩ := locate_entriesPath room hloc hdescent
    obtain ⟨_, hpresent⟩ := Disk.exists_node?_of_foldlM hrest hnode
    obtain ⟨q, hq, htarget⟩ := ih hslashes hothers hnext hroom hrest
    rw [steps_depth (shallow hslash flat hfirst)]
    exact ⟨q, mem_reach_descendant leads named covered hloc room.left hdescent hpresent hq, htarget⟩

end StyleGuide.Pattern
