import StyleGuide.Disk
import StyleGuide.Proofs.Path.Names

/-!
# Locations of paths

Where a path leads is read off its components: a name goes down and `..` goes up. A path without
`..` only goes down, so two such paths that lead to one location from one place have the same
components. With `..` a location has any number of paths.
-/

namespace StyleGuide

namespace Location

def follow (loc : Location) : Path.Component → Location
  | .up => loc.tail
  | .name cs => cs :: loc
  | _ => loc

theorem foldl_follow_names (names : List (List Char)) (loc : Location) :
    (names.map Path.Component.name).foldl follow loc = names.reverse ++ loc := by
  induction names generalizing loc with
  | nil => rfl
  | cons name names ih =>
    rw [List.map_cons, List.foldl_cons, ih, follow, List.reverse_cons, List.append_assoc]
    rfl

end Location

namespace Disk

variable {d : Disk} {p q : Path} {loc : Location}

def origin (d : Disk) (p : Path) : Location :=
  if p.isAbsolute then [] else d.workingDirectory

theorem step_eq_ok {segment : List Char} {loc' : Location} (h : d.step loc segment = .ok loc') :
    loc' = (Path.Component.ofSegment segment).elim loc loc.follow := by
  unfold step at h
  split at h
  · cases h
  · cases h
  · split at h
    · next hsegment =>
      cases h
      rw [hsegment]
      rfl
    · next cs hsegment =>
      split at h
      · cases h
        rw [hsegment]
        rfl
      · cases h
    · next hup hname =>
      cases h
      cases hc : Path.Component.ofSegment segment with
      | none => rfl
      | some c =>
        cases c with
        | up => exact absurd hc hup
        | name cs => exact absurd hc (hname cs)
        | _ => rfl

theorem foldlM_step_eq_ok {segments : List (List Char)} {start : Location}
    (h : segments.foldlM d.step start = .ok loc) :
    loc = (segments.filterMap Path.Component.ofSegment).foldl Location.follow start := by
  induction segments generalizing start with
  | nil =>
    cases h
    rfl
  | cons segment segments ih =>
    rw [List.foldlM_cons] at h
    cases hstep : d.step start segment with
    | error x =>
      rw [hstep] at h
      cases h
    | ok next =>
      rw [hstep] at h
      rw [ih h, step_eq_ok hstep, List.filterMap_cons]
      cases Path.Component.ofSegment segment <;> rfl

/-- A path that leads somewhere is walked to its end. -/
theorem foldlM_of_locate (h : d.locate p = .ok loc) :
    (Path.segments p.text.toList).foldlM d.step (d.origin p) = .ok loc := by
  simp only [locate] at h
  by_cases hnul : p.text.toList.contains '\x00' = true
  · rw [if_pos hnul] at h
    cases h
  · rw [if_neg hnul] at h
    by_cases hempty : byteCount p.text.toList = 0
    · rw [if_pos hempty] at h
      cases h
    · rw [if_neg hempty] at h
      by_cases hlong : longestPath < byteCount p.text.toList
      · rw [if_pos hlong] at h
        cases h
      · rw [if_neg hlong] at h
        exact h

/-- A path leads where its components do. -/
theorem eq_of_locate (h : d.locate p = .ok loc) :
    loc = p.onward.foldl Location.follow (d.origin p) :=
  foldlM_step_eq_ok (foldlM_of_locate h)

theorem exists_locate_of_isFile (h : d.isFile p = true) : ∃ loc, d.locate p = .ok loc := by
  cases hloc : d.locate p with
  | ok loc => exact ⟨loc, rfl⟩
  | error x => simp [isFile, lookUp, hloc, bind, Except.bind] at h

end Disk

namespace Path

variable {p q : Path}

/-- A path without `..` and without a leading `.`. -/
def Straight (p : Path) : Prop :=
  .up ∉ p.components ∧ .here ∉ p.components

instance : DecidablePred Straight :=
  fun _ ↦ inferInstanceAs (Decidable (_ ∧ _))

theorem Straight.exists_names (h : p.Straight) :
    ∃ names : List (List Char), p.onward = names.map .name :=
  exists_names_of_up_notMem h.1

theorem Straight.components_eq_onward (h : p.Straight) :
    p.components = (if p.isAbsolute then [.root] else []) ++ p.onward := by
  have hhere : Component.here ∉ opening (segments p.text.toList) := fun hmem ↦
    h.2 (components_eq p ▸ List.mem_append_left _ hmem)
  rw [components_eq, isAbsolute]
  rcases opening_cases p.text.toList with ⟨rest, htext⟩ | htext | ⟨rest, htext⟩ | hopening
  · rw [htext, opening_slash]
    rfl
  · rw [htext] at hhere
    exact absurd hhere (by decide)
  · rw [htext, segments_dot_slash] at hhere
    exact absurd List.mem_cons_self hhere
  · have hrelative : (p.text.toList.head? == some '/') = false := by
      by_contra habsolute
      obtain ⟨rest, htext⟩ := List.head?_eq_some_iff.mp
        (beq_iff_eq.mp (Bool.not_eq_false _ ▸ habsolute))
      rw [htext, opening_slash] at hopening
      cases hopening
    rw [hopening, hrelative]
    rfl

end Path

/-- Two paths without `..` that lead to one location from one place have the same components. -/
theorem Disk.components_eq_of_locate_eq {d : Disk} {p q : Path} {loc : Location} (hp : p.Straight)
    (hq : q.Straight) (habsolute : p.isAbsolute = q.isAbsolute) (hploc : d.locate p = .ok loc)
    (hqloc : d.locate q = .ok loc) : p.components = q.components := by
  obtain ⟨names, hnames⟩ := hp.exists_names
  obtain ⟨names', hnames'⟩ := hq.exists_names
  have horigin : d.origin p = d.origin q := by rw [origin, origin, habsolute]
  have hnames_eq : names.reverse ++ d.origin p = names'.reverse ++ d.origin p := by
    rw [← Location.foldl_follow_names, ← hnames, ← eq_of_locate hploc, eq_of_locate hqloc, hnames',
      Location.foldl_follow_names, horigin]
  have hreverse : names.reverse = names'.reverse := List.append_cancel_right hnames_eq
  rw [hp.components_eq_onward, hq.components_eq_onward, habsolute, hnames, hnames',
    List.reverse_injective hreverse]

end StyleGuide
