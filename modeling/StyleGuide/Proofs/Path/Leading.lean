import StyleGuide.Proofs.Path.Components

/-!
# Leading dots

A `.` in front of a relative directory is a component of its own, and `withoutHere` takes it away
again. So what is joined to a directory has the same components whether the directory leads with a
`.` or not, and it ends in the same segment. Where no needless separators end the spelling of the
directory, it even is the same text.
-/

namespace StyleGuide.Path

open Text

variable {p q d d' : Path}

/-! ## Endings -/

/-- Paths with the same components that end in the same segment. -/
structure Alike (p q : Path) : Prop where
  components_eq : p.components = q.components
  ending_eq : (segments p.text.toList).getLast? = (segments q.text.toList).getLast?

theorem getLast?_segments_join (hr : q.isAbsolute = false) (hp : p.text ≠ "") :
    (segments (p.join q).text.toList).getLast? = (segments q.text.toList).getLast? := by
  obtain ⟨front, hsegments, -, -⟩ := exists_segments_join hr hp
  rw [hsegments, List.getLast?_append_of_ne_nil _ (segments_ne_nil _)]

theorem Alike.join (h : p.components = q.components) (r : Path) : Alike (p.join r) (q.join r) := by
  refine ⟨join_congr h r, ?_⟩
  by_cases hr : r.isAbsolute = true
  · rw [Path.join, Path.join, if_pos hr, if_pos hr]
  · by_cases hp : p.text = ""
    · have hq : q.text = "" := components_eq_nil_iff.mp (h ▸ components_eq_nil_iff.mpr hp)
      rw [Path.join, Path.join, hp, hq]
    · have hq : q.text ≠ "" := fun hq ↦
        hp (components_eq_nil_iff.mp (h ▸ components_eq_nil_iff.mpr hq))
      rw [getLast?_segments_join (Bool.eq_false_iff.mpr hr) hp,
        getLast?_segments_join (Bool.eq_false_iff.mpr hr) hq]

/-! ## Components behind a leading dot -/

/-- A directory as it is, or a relative one behind a `.`; the empty one is then the `.` alone. -/
inductive Led : Path → Path → Prop
  | same (d : Path) : Led d d
  | led {d : Path} (relative : d.isAbsolute = false) : Led d ⟨"./" ++ d.text⟩
  | here : Led ⟨""⟩ ⟨"."⟩

theorem toList_led (d : Path) :
    (Path.mk ("./" ++ d.text)).text.toList = '.' :: '/' :: d.text.toList :=
  String.toList_append

theorem ne_slash_of_relative (h : p.isAbsolute = false) (rest : List Char) :
    p.text.toList ≠ '/' :: rest := by
  intro htext
  rw [isAbsolute, htext] at h
  cases h

theorem components_withoutHere_of_relative (h : p.isAbsolute = false) :
    p.withoutHere.components = p.onward := by
  have hhead : p.onward.head? ≠ some .here := by
    intro hhere
    obtain ⟨s, -, hs⟩ := List.mem_filterMap.mp (List.mem_of_head? hhere)
    exact ofSegment_ne_here s hs
  rw [components_withoutHere, components_eq]
  rcases opening_cases p.text.toList with ⟨rest, htext⟩ | htext | ⟨rest, htext⟩ | hopening
  · exact absurd htext (ne_slash_of_relative h rest)
  · rw [htext]
    rfl
  · rw [htext, segments_dot_slash]
    rfl
  · rw [hopening, List.nil_append, if_neg hhead]

theorem Led.components_withoutHere (h : Led d d') :
    d.withoutHere.components = d'.withoutHere.components := by
  cases h with
  | same => rfl
  | led relative =>
    have honward : (Path.mk ("./" ++ d.text)).onward = d.onward := by
      rw [onward, toList_led, segments_dot_slash]
      rfl
    rw [components_withoutHere_of_relative relative, components_withoutHere_of_relative, honward]
    rw [isAbsolute, toList_led]
    rfl
  | here => decide

/-! ## Texts behind a leading dot -/

theorem spansFrom_shift (k start : Nat) (ss : List (List Char)) :
    spansFrom (start + k) ss =
      (spansFrom start ss).map fun x ↦ ⟨x.component, x.start + k, x.stop + k⟩ := by
  induction ss generalizing start with
  | nil => rfl
  | cons s ss ih =>
    have hstart : start + k + s.length + 1 = start + s.length + 1 + k := by omega
    rw [spansFrom_cons, spansFrom_cons, hstart, ih, List.map_append]
    congr 1
    cases Component.ofSegment s with
    | none => rfl
    | some c => simp [Nat.add_right_comm]

theorem spansFrom_segments_append (start : Nat) (front : List Char) (ss : List (List Char)) :
    spansFrom start (segments front ++ ss) =
      spansFrom start (segments front) ++ spansFrom (start + front.length + 1) ss := by
  induction front using pieces_induction '/' generalizing start with
  | uncut cs h =>
    have hsegments : segments cs = [cs] := splitAt_of_not_mem h
    rw [hsegments, List.singleton_append, spansFrom_cons, spansFrom_cons, spansFrom,
      List.append_nil]
  | cut first rest h ih =>
    have hsegments : segments (first ++ '/' :: rest) = first :: segments rest :=
      splitAt_append_cons_of_not_mem h rest
    have hlength : start + first.length + 1 + rest.length + 1 =
        start + (first ++ '/' :: rest).length + 1 := by
      rw [List.length_append, List.length_cons]
      omega
    rw [hsegments, List.cons_append, spansFrom_cons, spansFrom_cons, ih, hlength,
      List.append_assoc]

/-- The part of a text from the first of some components to the last one. -/
def spanned (cs : List Char) (xs : List Span) : List Char :=
  match xs.head?, xs.getLast? with
  | some first, some last => (cs.take last.stop).drop first.start
  | _, _ => []

theorem spanned_behind (front cs : List Char) (ss : List (List Char)) :
    spanned (front ++ cs) (spansFrom front.length ss) = spanned cs (spansFrom 0 ss) := by
  rw [← Nat.zero_add front.length, spansFrom_shift]
  unfold spanned
  rw [List.head?_map, List.getLast?_map]
  cases (spansFrom 0 ss).head? with
  | none => rfl
  | some first =>
    cases (spansFrom 0 ss).getLast? with
    | none => rfl
    | some last =>
      simp only [Option.map_some]
      rw [Nat.add_comm last.stop, Nat.add_comm first.start, List.take_length_add_append,
        List.drop_length_add_append]

/-- The components of a text behind a `.` are all that is left without it. -/
theorem toList_withoutHere {rest : List Char} (h : p.text.toList = '.' :: '/' :: rest) :
    p.withoutHere.text.toList = spanned rest (spansFrom 0 (segments rest)) := by
  have hspans : p.spans = ⟨.here, 0, 1⟩ :: spansFrom 2 (segments rest) := by
    rw [spans, h, spansOf_dot_slash]
  rw [← spanned_behind ['.', '/']]
  change _ = spanned ('.' :: '/' :: rest) (spansFrom 2 (segments rest))
  unfold withoutHere
  rw [hspans]
  cases hxs : spansFrom 2 (segments rest) with
  | nil => rfl
  | cons first more =>
    obtain ⟨last, hlast⟩ : ∃ last, (first :: more).getLast? = some last :=
      ⟨_, List.getLast?_eq_some_getLast (List.cons_ne_nil _ _)⟩
    simp only [spanned, slice, String.toList_ofList, hlast, List.head?_cons, Option.map_some,
      Option.getD_some, h]

def Closed (cs : List Char) : Prop :=
  ∃ s c, Component.ofSegment s = some c ∧ '/' ∉ s ∧ (cs = s ∨ ∃ front, cs = front ++ '/' :: s)

theorem Closed.ne_nil {cs : List Char} (h : Closed cs) : cs ≠ [] := by
  rintro rfl
  obtain ⟨s, c, hc, -, rfl | ⟨front, hfront⟩⟩ := h
  · cases hc
  · exact absurd hfront.symm (by simp)

theorem Closed.getLast?_ne_slash {cs : List Char} (h : Closed cs) : cs.getLast? ≠ some '/' := by
  obtain ⟨s, c, hc, hslash, hcs⟩ := h
  have hempty : s ≠ [] := by
    rintro rfl
    cases hc
  have hlast : cs.getLast? = s.getLast? := by
    rcases hcs with rfl | ⟨front, rfl⟩
    · rfl
    · rw [List.getLast?_append_of_ne_nil _ (List.cons_ne_nil _ _),
        List.getLast?_cons_of_ne_nil hempty]
  rw [hlast]
  exact fun h ↦ hslash (List.mem_of_getLast? h)

/-- A text that starts and ends in components is all that they span, also in front of a
separator. -/
theorem spanned_of_closed {cs : List Char} (opens : opening (segments cs) = []) (closed : Closed cs)
    (more : List Char) :
    spanned (cs ++ more) (spansFrom 0 (segments cs)) = cs := by
  have hlast : ∃ last, (spansFrom 0 (segments cs)).getLast? = some last ∧
      last.stop = cs.length := by
    obtain ⟨s, c, hc, hslash, rfl | ⟨front, rfl⟩⟩ := closed
    · have hsegments : segments cs = [cs] := splitAt_of_not_mem hslash
      rw [hsegments, spansFrom_cons, hc]
      exact ⟨_, rfl, Nat.zero_add _⟩
    · have hsegments : segments (front ++ '/' :: s) = segments front ++ [s] := by
        rw [segments, splitAt_append_cons, splitAt_of_not_mem hslash]
        rfl
      rw [hsegments, spansFrom_segments_append, spansFrom_cons, hc]
      refine ⟨⟨c, 0 + front.length + 1, 0 + front.length + 1 + s.length⟩, ?_, ?_⟩
      · exact List.getLast?_concat
      · change 0 + front.length + 1 + s.length = _
        rw [List.length_append, List.length_cons]
        omega
  have hfirst : ∃ first, (spansFrom 0 (segments cs)).head? = some first ∧ first.start = 0 := by
    obtain ⟨s, ss, hs⟩ := List.exists_cons_of_ne_nil (segments_ne_nil cs)
    have hempty : s ≠ [] := by
      rintro rfl
      have hss : ss = [] := by
        by_contra hss
        simp [hs, opening, hss] at opens
      exact closed.ne_nil (segments_eq_singleton_nil (hss ▸ hs))
    have hdot : s ≠ ['.'] := by
      rintro rfl
      simp [hs, opening] at opens
    rw [hs, spansFrom_cons]
    cases hc : Component.ofSegment s with
    | none => exact absurd (ofSegment_eq_none hc) (not_or.mpr ⟨hempty, hdot⟩)
    | some c => exact ⟨_, rfl, rfl⟩
  obtain ⟨last, hlast, hstop⟩ := hlast
  obtain ⟨first, hfirst, hstart⟩ := hfirst
  rw [spanned, hlast, hfirst]
  simp only [hstop, hstart, List.take_left, List.drop_zero]

/-- A directory whose spelling does not end in separators or dots that mean nothing, unless in one
separator. -/
def Tidy (d : Path) : Prop :=
  ¬ "//".toList <:+ d.text.toList ∧ ¬ "/.".toList <:+ d.text.toList ∧
    ¬ "/./".toList <:+ d.text.toList

instance : DecidablePred Tidy :=
  fun _ ↦ inferInstanceAs (Decidable (_ ∧ _ ∧ _))

/-- A text is its last segment, or a separator stands in front of that. -/
theorem ending_cases (cs : List Char) :
    ∃ s, '/' ∉ s ∧ (cs = s ∨ ∃ front, cs = front ++ '/' :: s) := by
  induction cs using pieces_induction '/' with
  | uncut cs h => exact ⟨cs, h, .inl rfl⟩
  | cut first rest h ih =>
    obtain ⟨s, hs, rfl | ⟨front, rfl⟩⟩ := ih
    · exact ⟨rest, hs, .inr ⟨first, rfl⟩⟩
    · exact ⟨s, hs, .inr ⟨first ++ '/' :: front, by rw [List.append_assoc, List.cons_append]⟩⟩

/-- A text that starts in a component ends in one, or in a segment that means nothing. -/
theorem closed_or {cs : List Char} (opens : opening (segments cs) = []) (nonempty : cs ≠ []) :
    Closed cs ∨ ∃ front, cs = front ++ ['/'] ∨ cs = front ++ ['/', '.'] := by
  obtain ⟨s, hslash, hcs⟩ := ending_cases cs
  cases hc : Component.ofSegment s with
  | some c => exact .inl ⟨s, c, hc, hslash, hcs⟩
  | none =>
    refine .inr ?_
    rcases hcs with rfl | ⟨front, rfl⟩
    · rcases ofSegment_eq_none hc with rfl | rfl
      · exact absurd rfl nonempty
      · cases opens
    · rcases ofSegment_eq_none hc with rfl | rfl
      · exact ⟨front, .inl rfl⟩
      · exact ⟨front, .inr rfl⟩

/-- A tidy directory that starts in a component ends in one, up to one separator. -/
theorem Tidy.closed (tidy : d.Tidy) (relative : d.isAbsolute = false)
    (opens : opening (segments d.text.toList) = []) (nonempty : d.text.toList ≠ []) :
    ∃ core, opening (segments core) = [] ∧ Closed core ∧
      (d.text.toList = core ∨ d.text.toList = core ++ ['/']) := by
  obtain ⟨hslashes, hdot, hdotSlash⟩ := tidy
  rcases closed_or opens nonempty with closed | ⟨front, hd | hd⟩
  · exact ⟨_, opens, closed, .inl rfl⟩
  · have hsegments : segments d.text.toList = segments front ++ [[]] := by
      rw [hd]
      exact splitAt_append_cons front []
    have hfront : front ≠ [] := fun h ↦ ne_slash_of_relative relative [] (by rw [hd, h]; rfl)
    have hopens : opening (segments front) = [] := by
      rw [← opening_append (segments_ne_nil front) (mt segments_eq_singleton_nil hfront) [[]],
        ← hsegments]
      exact opens
    refine ⟨front, hopens, ?_, .inr hd⟩
    rcases closed_or hopens hfront with closed | ⟨more, rfl | rfl⟩
    · exact closed
    · exact absurd ⟨more, by rw [hd, List.append_assoc]; rfl⟩ hslashes
    · exact absurd ⟨more, by rw [hd, List.append_assoc]; rfl⟩ hdotSlash
  · exact absurd ⟨front, hd.symm⟩ hdot

theorem eq_of_toList (h : p.text.toList = q.text.toList) : p = q := by
  cases p
  cases q
  exact congrArg Path.mk (String.toList_inj.mp h)

/-- A separator behind a directory does not show in what is joined to it. -/
theorem join_eq_of_separator {core : List Char} (closed : Closed core)
    (hp : p.text.toList = core) (hq : q.text.toList = core ++ ['/']) (r : Path) :
    p.join r = q.join r := by
  have hpq : q.text = p.text ++ "/" := by
    rw [← String.toList_inj, hq, String.toList_append, hp]
    rfl
  obtain ⟨c, hc⟩ : ∃ c, core.getLast? = some c :=
    ⟨_, List.getLast?_eq_some_getLast closed.ne_nil⟩
  have hslash : c ≠ '/' := fun h ↦ closed.getLast?_ne_slash (h ▸ hc)
  unfold join
  rw [hp, hq, hc, List.getLast?_concat, hpq]
  split
  · rfl
  · simp

theorem withoutHere_of_opening (opens : opening (segments p.text.toList) = []) :
    p.withoutHere = p := by
  have hno {x : Span} {after : List Span} (hspans : p.spans = x :: after) :
      x.component ≠ .here := by
    intro hhere
    rcases spansOf_here hspans hhere with ⟨hdot, -⟩ | ⟨rest, hrest, -⟩
    · rw [hdot] at opens
      cases opens
    · rw [hrest, segments_dot_slash] at opens
      cases opens
  unfold withoutHere
  split
  · next hspans => exact absurd rfl (hno hspans)
  · next hspans => exact absurd rfl (hno hspans)
  · rfl

/-- From a tidy directory the same texts are joined with a leading `.` and without. -/
theorem Led.join_eq (h : Led d d') (tidy : d.Tidy) (r : Path) :
    d.withoutHere.join r = d'.withoutHere.join r := by
  cases h with
  | same => rfl
  | here => rfl
  | led relative =>
    have hled := toList_withoutHere (toList_led d)
    rcases opening_cases d.text.toList with ⟨rest, htext⟩ | htext | ⟨rest, htext⟩ | opens
    · exact absurd htext (ne_slash_of_relative relative rest)
    · have hd : d = ⟨"."⟩ := eq_of_toList htext
      rw [hd]
      rfl
    · have hboth : d.withoutHere = (Path.mk ("./" ++ d.text)).withoutHere := by
        refine eq_of_toList ?_
        rw [hled, toList_withoutHere htext, htext, segments_dot_slash]
        exact (spanned_behind ['.', '/'] rest (segments rest)).symm
      rw [hboth]
    · rw [withoutHere_of_opening opens]
      by_cases hempty : d.text.toList = []
      · have hboth : d = (Path.mk ("./" ++ d.text)).withoutHere := by
          refine eq_of_toList ?_
          rw [hled, hempty]
          rfl
        exact congrArg (Path.join · r) hboth
      · obtain ⟨core, hopens, closed, hd | hd⟩ := tidy.closed relative opens hempty
        · have hboth : d = (Path.mk ("./" ++ d.text)).withoutHere := by
            refine eq_of_toList ?_
            rw [hled, hd]
            simpa using (spanned_of_closed hopens closed []).symm
          exact congrArg (Path.join · r) hboth
        · have hspanned : (Path.mk ("./" ++ d.text)).withoutHere.text.toList = core := by
            have hsegments : segments d.text.toList = segments core ++ [[]] := by
              rw [hd]
              exact splitAt_append_cons core []
            rw [hled, hsegments, spansFrom_segments_append, hd]
            exact (congrArg _ (List.append_nil _)).trans (spanned_of_closed hopens closed ['/'])
          exact (join_eq_of_separator closed hspanned hd r).symm

end StyleGuide.Path
