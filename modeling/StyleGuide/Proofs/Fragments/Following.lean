import StyleGuide.Proofs.Fragments.Reaching

/-!
# Where patterns start

A pattern is followed from the root or from the working directory, as its path is absolute or not. A
path that it matches starts in the same place, so the walk along that path is one the search takes
too, if the names on the way fit behind one another.
-/

namespace StyleGuide.Pattern

variable {d : Disk} {w q : Path}

/-! ## Compiled patterns -/

def ownScope (w : Path) : Path :=
  if w.isAbsolute then ⟨"/"⟩ else ⟨"."⟩

theorem compile?_eq (w : Path) : compile? w = (tokens? w.text.toList).bind fun _ ↦
    ((pieces (ownText w)).mapM tokens?).map fun tokens ↦ (ownScope w, steps tokens) := by
  have hmap (o : Option (List (List Token))) (scope : Path) :
      (o.bind fun tokens ↦ some (scope, steps tokens)) =
        o.map fun tokens ↦ (scope, steps tokens) := by
    cases o <;> rfl
  unfold compile? ownScope ownText
  by_cases habsolute : w.isAbsolute = true
  · simp only [habsolute, if_true]
    cases tokens? w.text.toList with
    | none => rfl
    | some _ => exact hmap ..
  · simp only [habsolute, if_false, Bool.false_eq_true]
    cases tokens? w.text.toList with
    | none => rfl
    | some _ => exact hmap ..

theorem compile?_eq_some {scope : Path} {found : List Step}
    (h : compile? w = some (scope, found)) :
    scope = ownScope w ∧
      ∃ tokens, (pieces (ownText w)).mapM tokens? = some tokens ∧ found = steps tokens := by
  rw [compile?_eq] at h
  obtain ⟨_, -, h⟩ := Option.bind_eq_some_iff.mp h
  obtain ⟨tokens, htokens, h⟩ := Option.map_eq_some_iff.mp h
  cases h
  exact ⟨rfl, tokens, htokens, rfl⟩

theorem isSome_mapM_tokens? {patterns : List (List Char)} :
    (patterns.mapM tokens?).isSome ↔ ∀ s ∈ patterns, (tokens? s).isSome := by
  induction patterns with
  | nil => simp
  | cons pattern patterns ih =>
    rw [List.forall_mem_cons, ← ih, List.mapM_cons]
    cases tokens? pattern <;> cases patterns.mapM tokens? <;> simp

/-- Behind the last component nothing is closed by a separator. -/
theorem pieces_ownText (h : (components w).getLast? ≠ some []) :
    pieces (ownText w) = components w :=
  if_neg h

theorem isSome_compile? (h : (components w).getLast? ≠ some []) :
    (compile? w).isSome ↔ Valid w := by
  rw [compile?_eq, pieces_ownText h, Valid, ← isSome_mapM_tokens?]
  cases tokens? w.text.toList <;> simp

/-! ## The directory a pattern starts in -/

theorem slash_ownText (habsolute : w.isAbsolute = true) : w.text.toList = '/' :: ownText w := by
  obtain ⟨rest, hrest⟩ := List.head?_eq_some_iff.mp (beq_iff_eq.mp habsolute)
  rw [ownText, if_pos habsolute, hrest]
  rfl

theorem getLast?_components :
    (components w).getLast? = (Path.segments w.text.toList).getLast? := by
  unfold components
  by_cases habsolute : w.isAbsolute = true
  · rw [slash_ownText habsolute, Path.segments_slash,
      List.getLast?_cons_of_ne_nil (Path.segments_ne_nil _)]
  · rw [ownText, if_neg habsolute]

theorem locate_ownScope_origin
    (hworking : w.isAbsolute = false → d.node? d.workingDirectory = some .directory) :
    d.locate (ownScope w) = .ok (d.origin w) ∧ d.node? (d.origin w) = some .directory := by
  unfold Disk.origin ownScope
  by_cases habsolute : w.isAbsolute = true
  · rw [if_pos habsolute, if_pos habsolute]
    exact ⟨rfl, rfl⟩
  · have hdirectory := hworking (Bool.eq_false_iff.mpr habsolute)
    rw [if_neg habsolute, if_neg habsolute]
    refine ⟨Disk.locate_eq_ok_iff.mpr ⟨⟨by decide, by decide, by decide⟩, ?_⟩, hdirectory⟩
    change [['.']].foldlM d.step d.workingDirectory = _
    rw [Disk.foldlM_singleton, Disk.step, hdirectory]
    rfl

theorem locate_eq_foldlM_components (hsound : w.Sound) :
    d.locate w = (components w).foldlM d.step (d.origin w) := by
  rw [Disk.locate_of_sound hsound, components]
  unfold Disk.origin
  by_cases habsolute : w.isAbsolute = true
  · rw [if_pos habsolute, slash_ownText habsolute, Path.segments_slash]
    rfl
  · rw [ownText, if_neg habsolute, if_neg habsolute]

/-- The walk along a path starts where its pattern starts. -/
theorem locate_ownScope {target : Location} (hloc : d.locate w = .ok target) :
    ∃ start, d.locate (ownScope w) = .ok start ∧
      (components w).foldlM d.step start = .ok target := by
  obtain ⟨hsound, hwalk⟩ := Disk.locate_eq_ok_iff.mp hloc
  have hworking : w.isAbsolute = false → d.node? d.workingDirectory = some .directory := by
    intro hrelative
    rw [Disk.origin, hrelative, if_neg Bool.false_ne_true] at hwalk
    obtain ⟨s, ss, hs⟩ := List.exists_cons_of_ne_nil (Path.segments_ne_nil w.text.toList)
    rw [hs] at hwalk
    exact Disk.directory_of_foldlM hwalk
  exact ⟨_, (locate_ownScope_origin hworking).1,
    (locate_eq_foldlM_components hsound).symm.trans hloc⟩

theorem room_ownScope (hsound : w.Sound) (spelled : Spelled w) :
    Room (ownScope w) (components w) := by
  have hshort := hsound.short
  refine ⟨?_, ?_, ?_, ?_, fun hfront ↦ spelled ?_⟩
  · unfold ownScope
    split <;> decide
  · unfold ownScope
    split <;> decide
  · rw [components, Path.flatMap_segments, byteCount_append, byteCount_slash]
    by_cases habsolute : w.isAbsolute = true
    · have hfront : byteCount (front (ownScope w)) = 1 := by
        rw [ownScope, if_pos habsolute]
        decide
      have hslash : byteCount w.text.toList = 1 + byteCount (ownText w) := by
        rw [slash_ownText habsolute, byteCount_slash]
      omega
    · have hfront : byteCount (front (ownScope w)) = 0 := by
        rw [ownScope, if_neg habsolute]
        decide
      rw [ownText, if_neg habsolute]
      omega
  · intro s hs
    exact ⟨(Path.of_mem_segments s hs).1, fun hnul ↦ hsound.noNul (mem_of_mem_components hs hnul)⟩
  · by_contra habsolute
    rw [ownScope, if_pos (Bool.not_eq_false _ ▸ habsolute)] at hfront
    revert hfront
    decide

/-! ## Paths that match -/

/-- What is at a path that a pattern matches is reached, under this or another spelling. -/
theorem exists_reach_of_matches {target : Location} {node : DiskNode} {tokens : List (List Token)}
    (fits : Matches w q) (hloc : d.locate q = .ok target) (hnode : d.node? target = some node)
    (htokens : (components w).mapM tokens? = some tokens) :
    ∃ p ∈ reach d (steps tokens) (ownScope w), d.locate p = .ok target := by
  obtain ⟨start, hstart, hwalk⟩ := locate_ownScope hloc
  have hscope : ownScope w = ownScope q := by
    unfold ownScope
    rw [fits.start]
  rw [hscope]
  apply exists_reach fits.fits hnode _ htokens hstart _ hwalk
  · exact fun s hs ↦ (Path.of_mem_segments s hs).1
  · exact room_ownScope (Disk.locate_eq_ok_iff.mp hloc).1 fits.spelled

end StyleGuide.Pattern
