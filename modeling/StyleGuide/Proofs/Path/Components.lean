import Mathlib.Data.List.Basic
import StyleGuide.Path

/-!
# Components of paths

Operations on paths cut and join texts. Here each is described on components: `join` appends them,
`parent` drops the last one, `withoutHere` a leading `.`, and the file name is read off the last
one. So however a path is spelled, what is made of it has the same components.
-/

namespace StyleGuide

/-! ## Pieces of a text -/

namespace Text

variable {sep : Char}

theorem splitAt_ne_nil (cs : List Char) : splitAt sep cs ≠ [] := by
  cases cs with
  | nil => simp [splitAt]
  | cons c cs =>
    rw [splitAt]
    split
    · simp
    · split <;> simp

theorem splitAt_append_cons (cs more : List Char) :
    splitAt sep (cs ++ sep :: more) = splitAt sep cs ++ splitAt sep more := by
  induction cs with
  | nil => simp [splitAt]
  | cons c cs ih =>
    rw [List.cons_append, splitAt, splitAt, ih]
    split
    · rfl
    · have hne : splitAt sep cs ≠ [] := splitAt_ne_nil cs
      obtain ⟨s, ss, hs⟩ := List.exists_cons_of_ne_nil hne
      rw [hs]
      rfl

theorem splitAt_of_not_mem {cs : List Char} (h : sep ∉ cs) : splitAt sep cs = [cs] := by
  induction cs with
  | nil => rfl
  | cons c cs ih =>
    rw [List.mem_cons, not_or] at h
    rw [splitAt, if_neg (Ne.symm h.1), ih h.2]

theorem splitAt_append_cons_of_not_mem {first : List Char} (h : sep ∉ first) (rest : List Char) :
    splitAt sep (first ++ sep :: rest) = first :: splitAt sep rest := by
  rw [splitAt_append_cons, splitAt_of_not_mem h]
  rfl

/-- Either a text is not cut, or it has a first piece. -/
theorem cut_cases (sep : Char) (cs : List Char) :
    sep ∉ cs ∨ ∃ first rest, sep ∉ first ∧ cs = first ++ sep :: rest := by
  by_cases h : sep ∈ cs
  · obtain ⟨first, rest, hcs, hfirst⟩ := List.eq_append_cons_of_mem h
    exact .inr ⟨first, rest, hfirst, hcs⟩
  · exact .inl h

/-- Induction on the pieces of a text. -/
@[elab_as_elim]
theorem pieces_induction (sep : Char) {motive : List Char → Prop}
    (uncut : ∀ cs, sep ∉ cs → motive cs)
    (cut : ∀ first rest, sep ∉ first → motive rest → motive (first ++ sep :: rest))
    (cs : List Char) : motive cs := by
  induction hlength : cs.length using Nat.strongRecOn generalizing cs with
  | ind n ih =>
    rcases cut_cases sep cs with h | ⟨first, rest, h, rfl⟩
    · exact uncut cs h
    · refine cut first rest h (ih rest.length ?_ rest rfl)
      rw [← hlength, List.length_append, List.length_cons]
      omega

end Text

namespace Path

open Text

/-! ## Components of segments -/

theorem segments_ne_nil (cs : List Char) : segments cs ≠ [] :=
  splitAt_ne_nil cs

/-- With a slash before each, the segments of a text make up the text. -/
theorem flatMap_segments (cs : List Char) : (segments cs).flatMap ('/' :: ·) = '/' :: cs := by
  induction cs using pieces_induction '/' with
  | uncut cs h => simp [segments, splitAt_of_not_mem h]
  | cut first rest h ih =>
    unfold segments at ih ⊢
    rw [splitAt_append_cons_of_not_mem h, List.flatMap_cons, ih, List.cons_append]

theorem of_mem_segments {cs : List Char} : ∀ s ∈ segments cs, '/' ∉ s ∧ ∀ c ∈ s, c ∈ cs := by
  induction cs using pieces_induction '/' with
  | uncut cs h => simp [segments, splitAt_of_not_mem h, h]
  | cut first rest h ih =>
    unfold segments at ih ⊢
    rw [splitAt_append_cons_of_not_mem h]
    refine List.forall_mem_cons.mpr ⟨⟨h, fun c hc ↦ List.mem_append_left _ hc⟩, fun s hs ↦ ?_⟩
    obtain ⟨hslash, hmem⟩ := ih s hs
    exact ⟨hslash, fun c hc ↦ List.mem_append_right _ (List.mem_cons_of_mem _ (hmem c hc))⟩

theorem mem_iff_exists_segment {c : Char} {cs : List Char} (hslash : c ≠ '/') :
    c ∈ cs ↔ ∃ s ∈ segments cs, c ∈ s := by
  have hflat : c ∈ '/' :: cs ↔ ∃ s ∈ segments cs, c ∈ '/' :: s := by
    rw [← flatMap_segments, List.mem_flatMap]
  simpa [hslash] using hflat

/-- What the first of some segments stands for where no path precedes it. -/
def opening : List (List Char) → List Component
  | [] => []
  | s :: ss =>
    if s = [] then if ss = [] then [] else [.root]
    else if s = ['.'] then [.here] else []

/-- The components of a path where it continues another one; a leading `.` is none of them. -/
def onward (p : Path) : List Component :=
  (segments p.text.toList).filterMap Component.ofSegment

theorem opening_cons {s : List Char} {c : Component} (h : Component.ofSegment s = some c)
    (ss : List (List Char)) : opening (s :: ss) = [] := by
  have hempty : s ≠ [] := by
    rintro rfl
    cases h
  have hdot : s ≠ ['.'] := by
    rintro rfl
    cases h
  rw [opening, if_neg hempty, if_neg hdot]

theorem opening_append {ss : List (List Char)} (h : ss ≠ []) (h' : ss ≠ [[]])
    (more : List (List Char)) : opening (ss ++ more) = opening ss := by
  obtain ⟨s, ss, rfl⟩ := List.exists_cons_of_ne_nil h
  by_cases hs : s = []
  · have hss : ss ≠ [] := fun hss ↦ h' (by rw [hs, hss])
    simp [opening, hs, hss]
  · simp [opening, hs]

theorem opening_append_congr {ss more more' : List (List Char)} (h : ss ≠ []) (hmore : more ≠ [])
    (hmore' : more' ≠ []) : opening (ss ++ more) = opening (ss ++ more') := by
  obtain ⟨s, ss, rfl⟩ := List.exists_cons_of_ne_nil h
  simp [opening, hmore, hmore']

theorem spansFrom_cons (start : Nat) (s : List Char) (ss : List (List Char)) :
    spansFrom start (s :: ss) =
      ((Component.ofSegment s).map fun c ↦ ⟨c, start, start + s.length⟩).toList ++
        spansFrom (start + s.length + 1) ss := by
  rw [spansFrom]
  cases Component.ofSegment s <;> rfl

theorem map_component_spansFrom (start : Nat) (ss : List (List Char)) :
    (spansFrom start ss).map (·.component) = ss.filterMap Component.ofSegment := by
  induction ss generalizing start with
  | nil => rfl
  | cons s ss ih =>
    rw [spansFrom_cons, List.map_append, ih, List.filterMap_cons]
    cases Component.ofSegment s <;> rfl

theorem spansOf_of_opening {cs : List Char} (h : opening (segments cs) = []) :
    spansOf cs = spansFrom 0 (segments cs) := by
  unfold spansOf
  split
  · next hss =>
    rw [hss] at h
    cases h
  · next hss =>
    rw [hss] at h
    cases h
  · rfl

theorem segments_slash (rest : List Char) : segments ('/' :: rest) = [] :: segments rest := by
  simp [segments, splitAt]

theorem opening_slash (rest : List Char) : opening (segments ('/' :: rest)) = [.root] := by
  rw [segments_slash, opening, if_pos rfl, if_neg (segments_ne_nil rest)]

theorem spansOf_slash (rest : List Char) :
    spansOf ('/' :: rest) = ⟨.root, 0, 1⟩ :: spansFrom 1 (segments rest) := by
  have hne : splitAt '/' rest ≠ [] := splitAt_ne_nil rest
  obtain ⟨s, ss, hs⟩ := List.exists_cons_of_ne_nil hne
  rw [spansOf, segments_slash, segments, hs]

theorem spansOf_dot : spansOf ['.'] = [⟨.here, 0, 1⟩] := by
  decide

theorem segments_dot_slash (rest : List Char) :
    segments ('.' :: '/' :: rest) = ['.'] :: segments rest := by
  simp [segments, splitAt]

theorem spansOf_dot_slash (rest : List Char) :
    spansOf ('.' :: '/' :: rest) = ⟨.here, 0, 1⟩ :: spansFrom 2 (segments rest) := by
  rw [spansOf, segments_dot_slash]
  rfl

/-- A path starts at the root, or with a `.`, or with neither. -/
theorem opening_cases (cs : List Char) :
    (∃ rest, cs = '/' :: rest) ∨ cs = ['.'] ∨ (∃ rest, cs = '.' :: '/' :: rest) ∨
      opening (segments cs) = [] := by
  rcases cut_cases '/' cs with h | ⟨first, rest, h, rfl⟩
  · by_cases hdot : cs = ['.']
    · exact .inr (.inl hdot)
    · refine .inr (.inr (.inr ?_))
      rw [segments, splitAt_of_not_mem h]
      unfold opening
      split <;> simp_all
  · by_cases hroot : first = []
    · exact .inl ⟨rest, by rw [hroot, List.nil_append]⟩
    · by_cases hdot : first = ['.']
      · exact .inr (.inr (.inl ⟨rest, by rw [hdot, List.singleton_append]⟩))
      · refine .inr (.inr (.inr ?_))
        rw [segments, splitAt_append_cons_of_not_mem h]
        unfold opening
        split <;> simp_all

theorem components_eq (p : Path) :
    p.components = opening (segments p.text.toList) ++ p.onward := by
  unfold components spans onward
  rcases opening_cases p.text.toList with ⟨rest, h⟩ | h | ⟨rest, h⟩ | h
  · rw [h, spansOf_slash, opening_slash, segments_slash, List.map_cons, map_component_spansFrom]
    rfl
  · rw [h]
    decide
  · rw [h, spansOf_dot_slash, segments_dot_slash, List.map_cons, map_component_spansFrom]
    rfl
  · rw [spansOf_of_opening h, map_component_spansFrom, h, List.nil_append]

/-! ## Cutting at components -/

theorem opening_of_head {s : List Char} {ss ss' : List (List Char)} (h : ss ≠ [])
    (hopening : opening (s :: ss) = []) : opening (s :: ss') = [] := by
  have hs : s ≠ [] := by
    rintro rfl
    simp [opening, h] at hopening
  simpa [opening, hs] using hopening

/-- A text cut behind a component has the components up to this one. -/
theorem spansFrom_take {cs : List Char} {start : Nat} {before after : List Span} {x : Span}
    (h : spansFrom start (segments cs) = before ++ x :: after) :
    start ≤ x.stop ∧ spansFrom start (segments (cs.take (x.stop - start))) = before ++ [x] ∧
      (opening (segments cs) = [] → opening (segments (cs.take (x.stop - start))) = []) := by
  induction cs using pieces_induction '/' generalizing start before with
  | uncut cs hcut =>
    have hsegments : segments cs = [cs] := splitAt_of_not_mem hcut
    rw [hsegments, spansFrom_cons] at h
    cases hc : Component.ofSegment cs with
    | none => simp [hc, spansFrom] at h
    | some c =>
      obtain ⟨rfl, rfl, rfl⟩ : before = [] ∧ x = ⟨c, start, start + cs.length⟩ ∧ after = [] := by
        simpa [hc, spansFrom, List.singleton_eq_append_iff] using h
      simp [hsegments, spansFrom_cons, hc, spansFrom]
  | cut first rest hcut ih =>
    have hsegments (more : List Char) : segments (first ++ '/' :: more) = first :: segments more :=
      splitAt_append_cons_of_not_mem hcut more
    -- Behind the first segment the rest is cut, and the first segment is kept.
    have hbehind {before' : List Span}
        (h' : spansFrom (start + first.length + 1) (segments rest) = before' ++ x :: after) :
        start ≤ x.stop ∧
          spansFrom start (segments ((first ++ '/' :: rest).take (x.stop - start))) =
            ((Component.ofSegment first).map fun c ↦ ⟨c, start, start + first.length⟩).toList ++
              (before' ++ [x]) ∧
          (opening (segments (first ++ '/' :: rest)) = [] →
            opening (segments ((first ++ '/' :: rest).take (x.stop - start))) = []) := by
      obtain ⟨hle, htake, -⟩ := ih h'
      have hcount : x.stop - start =
          first.length + (1 + (x.stop - (start + first.length + 1))) := by omega
      have hkept : (first ++ '/' :: rest).take (x.stop - start) =
          first ++ '/' :: rest.take (x.stop - (start + first.length + 1)) := by
        rw [hcount, List.take_length_add_append, Nat.add_comm 1, List.take_succ_cons]
      rw [hkept, hsegments, hsegments, spansFrom_cons, htake]
      exact ⟨by omega, rfl, opening_of_head (splitAt_ne_nil rest)⟩
    rw [hsegments, spansFrom_cons] at h
    cases hc : Component.ofSegment first with
    | none =>
      rw [hc] at h hbehind
      exact hbehind h
    | some c =>
      rw [hc] at h hbehind
      cases before with
      | nil =>
        obtain ⟨rfl, -⟩ := List.cons.inj h
        have hfirst : segments first = [first] := splitAt_of_not_mem hcut
        have htake : (first ++ '/' :: rest).take (start + first.length - start) = first := by
          rw [Nat.add_sub_cancel_left, List.take_left]
        rw [htake, hfirst, spansFrom_cons, hc]
        exact ⟨Nat.le_add_right .., rfl, fun _ ↦ opening_cons hc _⟩
      | cons y before =>
        obtain ⟨rfl, hrest⟩ := List.cons.inj h
        exact hbehind hrest

/-- A text cut in front of its first component still has all of them. -/
theorem spansFrom_drop {cs : List Char} {start : Nat} {after : List Span} {x : Span}
    (h : spansFrom start (segments cs) = x :: after) :
    start ≤ x.start ∧ spansFrom x.start (segments (cs.drop (x.start - start))) = x :: after ∧
      opening (segments (cs.drop (x.start - start))) = [] := by
  induction cs using pieces_induction '/' generalizing start with
  | uncut cs hcut =>
    have hsegments : segments cs = [cs] := splitAt_of_not_mem hcut
    rw [hsegments, spansFrom_cons] at h
    cases hc : Component.ofSegment cs with
    | none => simp [hc, spansFrom] at h
    | some c =>
      rw [hc] at h
      obtain ⟨rfl, hafter⟩ := List.cons.inj h
      rw [Nat.sub_self, List.drop_zero, hsegments, spansFrom_cons, hc]
      exact ⟨Nat.le_refl _, congrArg _ hafter, opening_cons hc _⟩
  | cut first rest hcut ih =>
    have hsegments : segments (first ++ '/' :: rest) = first :: segments rest :=
      splitAt_append_cons_of_not_mem hcut rest
    rw [hsegments, spansFrom_cons] at h
    cases hc : Component.ofSegment first with
    | none =>
      rw [hc] at h
      obtain ⟨hle, hdrop, hopening⟩ := ih h
      have hcount : x.start - start =
          first.length + (1 + (x.start - (start + first.length + 1))) := by omega
      rw [hcount, List.drop_length_add_append, Nat.add_comm 1, List.drop_succ_cons]
      exact ⟨by omega, hdrop, hopening⟩
    | some c =>
      rw [hc] at h
      obtain ⟨rfl, hafter⟩ := List.cons.inj h
      rw [Nat.sub_self, List.drop_zero, hsegments, spansFrom_cons, hc]
      exact ⟨Nat.le_refl _, congrArg _ hafter, opening_cons hc _⟩

/-- Behind a front that stands for one component, a text is cut like the rest. -/
theorem spansOf_take_behind (front : List Char) {lead : Span}
    (hlead : ∀ rest, spansOf (front ++ rest) = lead :: spansFrom front.length (segments rest))
    (hfront : ∀ rest, spansOf ((front ++ rest).take lead.stop) = [lead]) {rest : List Char}
    {before after : List Span} {x : Span} (h : spansOf (front ++ rest) = before ++ x :: after) :
    spansOf ((front ++ rest).take x.stop) = before ++ [x] := by
  rw [hlead] at h
  cases before with
  | nil =>
    obtain ⟨rfl, -⟩ := List.cons.inj h
    exact hfront rest
  | cons y before =>
    obtain ⟨rfl, hrest⟩ := List.cons.inj h
    obtain ⟨hle, htake, -⟩ := spansFrom_take hrest
    have hkept : (front ++ rest).take x.stop = front ++ rest.take (x.stop - front.length) := by
      rw [← List.take_length_add_append, Nat.add_sub_cancel' hle]
    rw [hkept, hlead, htake]
    rfl

theorem spansOf_take {cs : List Char} {before after : List Span} {x : Span}
    (h : spansOf cs = before ++ x :: after) : spansOf (cs.take x.stop) = before ++ [x] := by
  rcases opening_cases cs with ⟨rest, rfl⟩ | rfl | ⟨rest, rfl⟩ | hopening
  · exact spansOf_take_behind ['/'] spansOf_slash (fun _ ↦ spansOf_slash []) h
  · rw [spansOf_dot] at h
    obtain ⟨rfl, rfl, -⟩ : before = [] ∧ x = ⟨.here, 0, 1⟩ ∧ after = [] := by
      simpa [List.singleton_eq_append_iff] using h
    exact spansOf_dot
  · exact spansOf_take_behind ['.', '/'] spansOf_dot_slash (fun _ ↦ spansOf_dot) h
  · rw [spansOf_of_opening hopening] at h
    obtain ⟨-, htake, hkept⟩ := spansFrom_take h
    rw [Nat.sub_zero] at htake hkept
    rw [spansOf_of_opening (hkept hopening)]
    exact htake

theorem ofSegment_eq_none {s : List Char} (h : Component.ofSegment s = none) :
    s = [] ∨ s = ['.'] := by
  unfold Component.ofSegment at h
  split at h <;> simp_all

theorem ofSegment_ne_here (s : List Char) : Component.ofSegment s ≠ some .here := by
  unfold Component.ofSegment
  split <;> simp

/-- Only a `.` at the front is a component of its own. -/
theorem spansOf_here {cs : List Char} {x : Span} {after : List Span} (h : spansOf cs = x :: after)
    (hx : x.component = .here) :
    (cs = ['.'] ∧ after = []) ∨
      ∃ rest, cs = '.' :: '/' :: rest ∧ spansFrom 2 (segments rest) = after := by
  rcases opening_cases cs with ⟨rest, rfl⟩ | rfl | ⟨rest, rfl⟩ | hopening
  · rw [spansOf_slash] at h
    obtain ⟨rfl, -⟩ := List.cons.inj h
    cases hx
  · rw [spansOf_dot] at h
    exact .inl ⟨rfl, (List.cons.inj h).2.symm⟩
  · rw [spansOf_dot_slash] at h
    exact .inr ⟨rest, rfl, (List.cons.inj h).2⟩
  · have hmem : x.component ∈ (segments cs).filterMap Component.ofSegment := by
      rw [← map_component_spansFrom 0, ← spansOf_of_opening hopening, h]
      exact List.mem_cons_self
    obtain ⟨s, -, hs⟩ := List.mem_filterMap.mp hmem
    rw [hx] at hs
    exact absurd hs (ofSegment_ne_here s)

/-- The slice behind a leading `.` has the other components. -/
theorem map_component_spansOf_slice {cs : List Char} {lead x : Span} {after : List Span}
    (h : spansOf cs = lead :: x :: after) (hlead : lead.component = .here) {last : Span}
    (hlast : (x :: after).getLast? = some last) :
    (spansOf ((cs.take last.stop).drop x.start)).map (·.component) =
      (x :: after).map (·.component) := by
  obtain ⟨between, hbetween⟩ := List.getLast?_eq_some_iff.mp hlast
  have htake : spansOf (cs.take last.stop) = lead :: x :: after := by
    have hwhole : spansOf cs = (lead :: between) ++ last :: [] := by
      rw [h, hbetween, List.cons_append]
    rw [hbetween]
    exact spansOf_take hwhole
  rcases spansOf_here htake hlead with ⟨-, hnil⟩ | ⟨rest, hrest, hspans⟩
  · cases hnil
  · obtain ⟨hle, hdrop, hopening⟩ := spansFrom_drop hspans
    obtain ⟨n, hn⟩ := Nat.exists_eq_add_of_le' hle
    rw [hn, Nat.add_sub_cancel] at hdrop hopening
    rw [hrest, hn, List.drop_succ_cons, List.drop_succ_cons, spansOf_of_opening hopening,
      map_component_spansFrom, ← map_component_spansFrom (n + 2), hdrop]

/-! ## Operations -/

variable {p q : Path}

theorem same_iff : p.same q = true ↔ p.components = q.components := by
  rw [same, beq_iff_eq]

theorem spans_take {n : Nat} : (p.take n).spans = spansOf (p.text.toList.take n) := by
  rw [spans, take, String.toList_ofList]

theorem components_parent {dir : Path} (h : p.parent = some dir) :
    dir.components = p.components.dropLast := by
  unfold parent at h
  split at h
  · cases h
  · next last hspans =>
    have hlast : p.spans = [last] := List.reverse_eq_iff.mp hspans
    split at h
    · cases h
    · cases h
      rw [components, components, hlast]
      rfl
  · next last before others hspans =>
    have hsplit : p.spans = others.reverse ++ before :: [last] := by
      rw [List.reverse_eq_iff.mp hspans]
      simp
    cases h
    rw [components, components, spans_take, spansOf_take hsplit, hsplit]
    simp [List.dropLast_append_of_ne_nil]

theorem parent_eq_none_iff : p.parent = none ↔ p.components = [] ∨ p.components = [.root] := by
  unfold parent components
  split
  · next hspans =>
    rw [List.reverse_eq_nil_iff.mp hspans]
    simp
  · next last hspans =>
    rw [List.reverse_eq_iff.mp hspans]
    simp
  · next last before others hspans =>
    have hlength : (p.spans.map (·.component)).length = others.length + 2 := by
      rw [List.length_map, List.reverse_eq_iff.mp hspans]
      simp
    refine ⟨fun h ↦ (nomatch h), ?_⟩
    rintro (h | h) <;> simp [h] at hlength

theorem components_withoutHere (p : Path) :
    p.withoutHere.components =
      if p.components.head? = some .here then p.components.tail else p.components := by
  unfold withoutHere
  split
  · next hspans =>
    have hcomponents : p.components = [.here] := by
      rw [components, hspans]
      rfl
    rw [hcomponents]
    decide
  · next first rest hspans =>
    have hcomponents : p.components = .here :: (first :: rest).map (·.component) := by
      rw [components, hspans]
      rfl
    cases hlast : (first :: rest).getLast? with
    | none => simp at hlast
    | some last =>
      rw [hcomponents]
      simp only [Option.map_some, Option.getD_some, List.head?_cons, List.tail_cons, if_true]
      rw [components, spans, slice, String.toList_ofList]
      exact map_component_spansOf_slice hspans rfl hlast
  · next hsingle hmore =>
    rw [if_neg]
    intro hhead
    rw [components, List.head?_map, Option.map_eq_some_iff] at hhead
    obtain ⟨x, hx, hhere⟩ := hhead
    obtain ⟨after, hspans⟩ := List.head?_eq_some_iff.mp hx
    cases x
    cases hhere
    cases after with
    | nil => exact hsingle _ _ hspans
    | cons first rest => exact hmore _ _ _ _ hspans

theorem segments_eq_singleton_nil {cs : List Char} (h : segments cs = [[]]) : cs = [] := by
  rcases cut_cases '/' cs with hcut | ⟨first, rest, hcut, rfl⟩
  · rw [segments, splitAt_of_not_mem hcut] at h
    exact List.cons.inj h |>.1
  · rw [segments, splitAt_append_cons_of_not_mem hcut] at h
    exact absurd (List.cons.inj h).2 (segments_ne_nil rest)

theorem components_eq_nil_iff : p.components = [] ↔ p.text = "" := by
  constructor
  · intro h
    rw [components_eq, List.append_eq_nil_iff] at h
    obtain ⟨hopening, honward⟩ := h
    obtain ⟨s, ss, hs⟩ := List.exists_cons_of_ne_nil (segments_ne_nil p.text.toList)
    have hnone : Component.ofSegment s = none :=
      List.filterMap_eq_nil_iff.mp honward s (hs ▸ List.mem_cons_self)
    rw [hs] at hopening
    rcases ofSegment_eq_none hnone with rfl | rfl
    · cases ss with
      | nil => exact String.toList_eq_nil_iff.mp (segments_eq_singleton_nil hs)
      | cons s ss => cases hopening
    · cases hopening
  · intro h
    have hp : p = ⟨""⟩ := congrArg Path.mk h
    rw [hp]
    decide

/-- What is joined to a path that is not empty stands behind some segments. They have the components
of the path and open like it. -/
theorem exists_segments_join (hq : q.isAbsolute = false) (hp : p.text ≠ "") :
    ∃ front, segments (p.join q).text.toList = front ++ segments q.text.toList ∧
      opening (front ++ segments q.text.toList) = opening (segments p.text.toList) ∧
      front.filterMap Component.ofSegment = p.onward := by
  unfold join
  rw [if_neg (Bool.eq_false_iff.mp hq)]
  split
  · next hlast =>
    exact absurd (String.toList_eq_nil_iff.mp (List.getLast?_eq_none_iff.mp hlast)) hp
  · next hlast =>
    obtain ⟨cs, hcs⟩ := List.getLast?_eq_some_iff.mp hlast
    have hsegments : segments p.text.toList = segments cs ++ [[]] := by
      rw [hcs]
      exact splitAt_append_cons cs []
    refine ⟨segments cs, ?_, ?_, ?_⟩
    · rw [String.toList_append, hcs, List.append_assoc]
      exact splitAt_append_cons cs q.text.toList
    · rw [hsegments]
      exact opening_append_congr (segments_ne_nil cs) (segments_ne_nil _) (by simp)
    · rw [onward, hsegments, List.filterMap_append]
      simp [Component.ofSegment]
  · next c hlast =>
    refine ⟨segments p.text.toList, ?_, ?_, rfl⟩
    · rw [String.toList_append, String.toList_append, List.append_assoc]
      exact splitAt_append_cons p.text.toList q.text.toList
    · refine opening_append (segments_ne_nil _) (fun hnil ↦ hp ?_) _
      exact String.toList_eq_nil_iff.mp (segments_eq_singleton_nil hnil)

/-- A relative path that is not empty is continued by another one. -/
theorem components_join_of_relative (hq : q.isAbsolute = false) (hp : p.text ≠ "") :
    (p.join q).components = p.components ++ q.onward := by
  obtain ⟨front, hsegments, hopening, honward⟩ := exists_segments_join hq hp
  calc
    (p.join q).components
        = opening (front ++ segments q.text.toList) ++
            (front ++ segments q.text.toList).filterMap Component.ofSegment := by
      rw [components_eq, onward, hsegments]
    _ = opening (segments p.text.toList) ++ p.onward ++ q.onward := by
      rw [hopening, List.filterMap_append, honward, List.append_assoc]
      rfl
    _ = p.components ++ q.onward := by rw [← components_eq]

theorem components_join (p q : Path) :
    (p.join q).components =
      if q.isAbsolute = true ∨ p.components = [] then q.components
      else p.components ++ q.onward := by
  by_cases hq : q.isAbsolute = true
  · rw [if_pos (.inl hq), join, if_pos hq]
  · by_cases hp : p.text = ""
    · rw [if_pos (.inr (components_eq_nil_iff.mpr hp)), join, if_neg hq, hp]
      rfl
    · rw [if_neg (not_or.mpr ⟨hq, fun hnil ↦ hp (components_eq_nil_iff.mp hnil)⟩)]
      exact components_join_of_relative (Bool.eq_false_iff.mpr hq) hp

theorem fileName_eq (p : Path) :
    p.fileName = match p.components.getLast? with
      | some (.name cs) => some cs
      | _ => none := by
  unfold fileName
  rw [components, List.getLast?_map]
  cases p.spans.getLast? with
  | none => rfl
  | some x => rcases x with ⟨_ | _ | _ | cs, start, stop⟩ <;> rfl

/-! ## Spelling -/

section Spelling

variable (h : p.components = q.components)

include h

theorem fileName_congr : p.fileName = q.fileName := by
  rw [fileName_eq, fileName_eq, h]

theorem hasExtension_congr (ext : String) : p.hasExtension ext = q.hasExtension ext := by
  rw [hasExtension, hasExtension, extension, extension, fileName_congr h]

theorem withoutHere_congr : p.withoutHere.components = q.withoutHere.components := by
  rw [components_withoutHere, components_withoutHere, h]

theorem join_congr (r : Path) : (p.join r).components = (q.join r).components := by
  rw [components_join, components_join, h]

theorem parent_congr : p.parent.map components = q.parent.map components := by
  cases hp : p.parent with
  | none =>
    rw [parent_eq_none_iff, h, ← parent_eq_none_iff] at hp
    rw [hp]
  | some dir =>
    cases hq : q.parent with
    | none =>
      rw [parent_eq_none_iff, ← h, ← parent_eq_none_iff, hp] at hq
      cases hq
    | some dir' =>
      rw [Option.map_some, Option.map_some, components_parent hp, components_parent hq, h]

theorem parentD_congr {dir dir' : Path} (hdir : dir.components = dir'.components) :
    (p.parent.getD dir).components = (q.parent.getD dir').components := by
  rw [← Option.getD_map components, ← Option.getD_map components, parent_congr h, hdir]

/-- What comes of joining to paths with the same components comes of other file names as well. -/
theorem withFileName_rel {R : Path → Path → Prop}
    (joined : ∀ p q : Path, p.components = q.components → ∀ r, R (p.join r) (q.join r))
    (name : List Char) : R (p.withFileName name) (q.withFileName name) := by
  unfold withFileName
  rw [fileName_congr h]
  refine joined _ _ ?_ _
  split
  · exact parentD_congr h h
  · exact h

theorem withFileName_congr (name : List Char) :
    (p.withFileName name).components = (q.withFileName name).components :=
  withFileName_rel (R := fun p q ↦ p.components = q.components) h (fun _ _ ↦ join_congr) name

end Spelling

end Path

end StyleGuide
