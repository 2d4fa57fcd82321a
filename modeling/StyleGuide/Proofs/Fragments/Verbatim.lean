import StyleGuide.Proofs.Fragments.Finding
import StyleGuide.Proofs.Fragments.Following

/-!
# Paths without pattern characters

Such a path is a pattern of literal steps. A literal step asks no more than whether the walk along
the path can go on, so the search finds what is at the end of the path, whatever that is. With that,
the search is documented: it does what is known of searches for a pattern.
-/

namespace StyleGuide

namespace Pattern

variable {d : Disk} {w : Path}

/-! ## Literal steps -/

theorem mapM_tokens?_of_verbatim {names : List (List Char)} (h : ∀ n ∈ names, Verbatim n) :
    names.mapM tokens? = some (names.map (·.map .char)) := by
  induction names with
  | nil => rfl
  | cons name names ih =>
    obtain ⟨hname, hnames⟩ := List.forall_mem_cons.mp h
    rw [List.mapM_cons, tokens?, hname.tokensFrom_eq, ih hnames]
    rfl

theorem literal?_map_char (cs : List Char) : literal? (cs.map .char) = some cs := by
  induction cs with
  | nil => rfl
  | cons c cs ih =>
    rw [List.map_cons, literal?, ih]
    rfl

theorem steps_map_char (names : List (List Char)) :
    steps (names.map (·.map .char)) = names.map .literal := by
  induction names with
  | nil => rfl
  | cons name names ih =>
    have hflat : name.map Token.char ≠ [.anyDepth] := by
      intro h
      have hmem : Token.anyDepth ∈ name.map Token.char := h ▸ List.mem_singleton_self _
      obtain ⟨c, -, hc⟩ := List.mem_map.mp hmem
      cases hc
    rw [List.map_cons, steps_cons hflat, ih, Step.ofTokens, literal?_map_char]
    rfl

theorem compile?_of_verbatim (h : Verbatim w.text.toList)
    (hlast : (components w).getLast? ≠ some []) :
    compile? w = some (ownScope w, (components w).map .literal) := by
  have htokens : tokens? w.text.toList = some (w.text.toList.map .char) := h.tokensFrom_eq
  have hcomponents := mapM_tokens?_of_verbatim fun n (hn : n ∈ components w) c hc ↦
    h c (mem_of_mem_components hn hc)
  rw [compile?_eq, pieces_ownText hlast, htokens, hcomponents, ← steps_map_char]
  rfl

/-! ## Walking along a pattern -/

/-- What is found where a walk can end in one place only. -/
inductive Finds (d : Disk) (walk : Except FileError Location) : List Path → Prop
  | entry {target : Location} {node : DiskNode} (q : Path) (ends : walk = .ok target)
      (present : d.node? target = some node) (leads : d.locate q = walk) : Finds d walk [q]
  | nothing (absent : ∀ target, walk = .ok target → d.node? target = none) : Finds d walk []

variable {dir : Path} {name : List Char} {names : List (List Char)} {loc : Location}

/-- A literal step asks whether the walk comes to something. -/
theorem literal_iff (wellFormed : d.WellFormed) (hloc : d.locate dir = .ok loc)
    (room : Room dir (name :: names)) :
    (if name = ['.'] ∨ name = ['.', '.'] then d.isDirectory dir
      else d.contains (entryPath dir name)) = true ↔
      ∃ next node, d.step loc name = .ok next ∧ d.node? next = some node := by
  split
  · next dots =>
    constructor
    · intro directory
      obtain ⟨loc', hloc', hnode⟩ := Disk.exists_directory_of_isDirectory directory
      cases hloc.symm.trans hloc'
      obtain ⟨next, hstep, hnext⟩ := wellFormed.exists_step_special hnode dots
      exact ⟨next, .directory, hstep, hnext⟩
    · rintro ⟨next, -, hstep, -⟩
      exact Disk.isDirectory_of_locate hloc (Disk.directory_of_step hstep)
  · have hentry := locate_entry hloc (room.segments name List.mem_cons_self).1 room.sound
    constructor
    · intro present
      obtain ⟨next, node, hnext, hnode⟩ := Disk.exists_locate_of_contains present
      exact ⟨next, node, hentry.symm.trans hnext, hnode⟩
    · rintro ⟨next, node, hstep, hnode⟩
      exact Disk.contains_of_locate (hentry.trans hstep) hnode

/-- A search along literal steps finds what the walk comes to. -/
theorem finds_literals (wellFormed : d.WellFormed) {node : DiskNode}
    (hloc : d.locate dir = .ok loc) (hnode : d.node? loc = some node) (room : Room dir names) :
    Finds d (names.foldlM d.step loc) (reach d (names.map .literal) dir) := by
  induction names generalizing dir loc node with
  | nil => exact .entry dir rfl hnode hloc
  | cons name names ih =>
    have hentry := locate_entry hloc (room.segments name List.mem_cons_self).1 room.sound
    have hreach : reach d ((name :: names).map .literal) dir =
        if (if name = ['.'] ∨ name = ['.', '.'] then d.isDirectory dir
          else d.contains (entryPath dir name)) = true
        then reach d (names.map .literal) (entryPath dir name) else [] := rfl
    have hgoesOn := literal_iff wellFormed hloc room
    rw [hreach]
    by_cases hgoes : ∃ next node, d.step loc name = .ok next ∧ d.node? next = some node
    · rw [if_pos (hgoesOn.mpr hgoes)]
      obtain ⟨next, node, hstep, hnext⟩ := hgoes
      rw [List.foldlM_cons, hstep]
      exact ih (hentry.trans hstep) hnext room.entry
    · rw [if_neg (mt hgoesOn.mp hgoes)]
      refine .nothing fun target hwalk ↦ ?_
      obtain ⟨mid, hstep, hrest⟩ := Disk.foldlM_cons_eq_ok.mp hwalk
      by_contra hsome
      obtain ⟨node, htarget⟩ := Option.ne_none_iff_exists'.mp hsome
      obtain ⟨_, hmid⟩ := Disk.exists_node?_of_foldlM hrest htarget
      exact hgoes ⟨mid, _, hstep, hmid⟩

/-- Nothing is found at a path that cannot be written down on a disk. -/
theorem noNul_of_reach_literals (hdir : dir.text.toList ≠ []) (hslash : ∀ n ∈ names, '/' ∉ n)
    (h : reach d (names.map .literal) dir ≠ []) : ∀ n ∈ names, '\x00' ∉ n := by
  induction names generalizing dir with
  | nil => exact List.forall_mem_nil _
  | cons name names ih =>
    obtain ⟨hname, hnames⟩ := List.forall_mem_cons.mp hslash
    have htext := toList_entryPath hdir hname
    obtain ⟨q, hq⟩ := List.exists_mem_of_ne_nil _ h
    obtain ⟨p, next, hq⟩ := exists_next_of_mem_reach hq
    cases next with
    | literal present =>
      obtain ⟨_, _, hloc, -⟩ := Disk.exists_locate_of_contains present
      have hsound := (Disk.locate_eq_ok_iff.mp hloc).1
      refine List.forall_mem_cons.mpr ⟨?_, ih hsound.nonempty hnames (List.ne_nil_of_mem hq)⟩
      exact fun hnul ↦ hsound.noNul (htext ▸ List.mem_append_right _ hnul)
    | special dots =>
      have hnul : name ≠ [] ∧ '\x00' ∉ name := by rcases dots with rfl | rfl <;> decide
      have hne : (entryPath dir name).text.toList ≠ [] := by
        rw [htext]
        exact List.append_ne_nil_of_right_ne_nil _ hnul.1
      exact List.forall_mem_cons.mpr ⟨hnul.2, ih hne hnames (List.ne_nil_of_mem hq)⟩

/-- A path without pattern characters finds what is there. -/
theorem finds_own (wellFormed : d.WellFormed) (hshort : byteCount w.text.toList ≤ Disk.longestPath)
    (hspelled : Spelled w) (hlast : (components w).getLast? ≠ some []) :
    Finds d (d.locate w) (reach d ((components w).map .literal) (ownScope w)) := by
  by_cases hnul : '\x00' ∈ w.text.toList
  · have hlocate : d.locate w = .error .nulInPath := by
      rw [Disk.locate, if_pos (List.contains_iff_mem.mpr hnul)]
    have hnothing : reach d ((components w).map .literal) (ownScope w) = [] := by
      by_contra hne
      have hnone := noNul_of_reach_literals (by unfold ownScope; split <;> decide)
        (fun n hn ↦ (Path.of_mem_segments n hn).1) hne
      have hown : '\x00' ∈ ownText w := by
        unfold ownText
        split
        · next habsolute =>
          rw [slash_ownText habsolute, ownText, if_pos habsolute] at hnul
          exact (List.mem_cons.mp hnul).resolve_left (by decide)
        · exact hnul
      obtain ⟨n, hn, hmem⟩ := (Path.mem_iff_exists_segment (by decide)).mp hown
      exact hnone n hn hmem
    rw [hlocate, hnothing]
    refine .nothing fun target h ↦ ?_
    cases h
  · have hsound : w.Sound := by
      refine ⟨hnul, fun hnil ↦ hlast ?_, hshort⟩
      rw [getLast?_components, hnil]
      rfl
    obtain ⟨hscope, hdirectory⟩ := locate_ownScope_origin (w := w) fun _ ↦ wellFormed.working
    rw [locate_eq_foldlM_components hsound]
    exact finds_literals wellFormed hscope hdirectory (room_ownScope hsound hspelled)

end Pattern

/-! ## The search as documented -/

open Pattern in
/-- Going step by step does what is known of searches, on a disk whose entries have names and stand
in directories. -/
theorem Glob.documented_walk {d : Disk} {w : Path} (wellFormed : d.WellFormed)
    (hlast : (components w).getLast? ≠ some []) : Glob.walk.Documented d w := by
  have hwalk {entries : List (Except FileError Path)} (h : Glob.walk d w = some entries) :
      ∃ tokens, (components w).mapM tokens? = some tokens ∧
        compile? w = some (ownScope w, steps tokens) ∧
        entries = (reach d (steps tokens) (ownScope w)).map .ok := by
    obtain ⟨⟨scope, found⟩, hcompile, rfl⟩ := Option.map_eq_some_iff.mp h
    obtain ⟨rfl, tokens, htokens, rfl⟩ := compile?_eq_some hcompile
    exact ⟨tokens, pieces_ownText hlast ▸ htokens, hcompile, rfl⟩
  refine ⟨?_, fun entries hentries q fits present ↦ ?_, fun entries hentries p hp ↦ ?_,
    fun entries hentries verbatim short spelled ↦ ?_⟩
  · rw [Glob.walk, Option.isSome_map]
    exact isSome_compile? hlast
  · obtain ⟨tokens, htokens, -, rfl⟩ := hwalk hentries
    obtain ⟨target, node, hloc, hnode⟩ := Disk.exists_locate_of_contains present
    obtain ⟨p, hp, htarget⟩ := exists_reach_of_matches fits hloc hnode htokens
    exact ⟨p, List.mem_map_of_mem hp, htarget.trans hloc.symm⟩
  · obtain ⟨tokens, -, -, rfl⟩ := hwalk hentries
    obtain ⟨p', hp', heq⟩ := List.mem_map.mp hp
    cases heq
    obtain ⟨hscope, hdirectory⟩ := locate_ownScope_origin (w := w) fun _ ↦ wellFormed.working
    exact existing_of_mem_reach wellFormed (.inl (Disk.contains_of_locate hscope hdirectory)) hp'
  · obtain ⟨tokens, -, hcompile, rfl⟩ := hwalk hentries
    rw [compile?_of_verbatim verbatim hlast] at hcompile
    have hsteps : steps tokens = (components w).map .literal :=
      (Prod.mk.inj (Option.some.inj hcompile)).2.symm
    have hfinds := finds_own wellFormed short spelled hlast
    rw [hsteps]
    generalize reach d _ _ = found at hfinds
    cases hfinds with
    | entry q ends present leads =>
      refine ⟨Nat.le_refl _, fun p hp ↦ ?_⟩
      cases List.mem_singleton.mp hp
      exact ⟨Disk.contains_of_locate (leads.trans ends) present, leads⟩
    | nothing absent => exact ⟨Nat.zero_le _, fun p hp ↦ nomatch hp⟩

end StyleGuide
