import Mathlib.Data.List.TakeWhile
import StyleGuide.Proofs.Path.Leading
import StyleGuide.Proofs.Path.Names

/-!
# Where the last name stands

A path that ends in a name is a text in front of the name, the name, and separators and dots behind it
that stand for nothing. What is in front is empty or ends in a separator, and has the other components.
So another name can be put in the place of the last one, and another extension in the place of the old
one, however the path is spelled.
-/

namespace StyleGuide.Path

open Text

variable {p : Path} {front name trail stem ext : List Char}

/-! ## Around a name -/

/-- What can stand in front of a name. -/
inductive Leading : List Char → Prop
  | nil : Leading []
  | slash (cs : List Char) : Leading (cs ++ ['/'])

/-- Separators, and dots between them, behind a name. -/
inductive Trailing : List Char → Prop
  | nil : Trailing []
  | slash {cs : List Char} : Trailing cs → Trailing ('/' :: cs)
  | dot {cs : List Char} : Trailing cs → Trailing ('/' :: '.' :: cs)

theorem Trailing.take (h : Trailing trail) (n : Nat) : Trailing (trail.take n) := by
  induction h generalizing n with
  | nil =>
    rw [List.take_nil]
    exact .nil
  | slash _ ih =>
    cases n with
    | zero => exact .nil
    | succ n => exact .slash (ih n)
  | dot _ ih =>
    match n with
    | 0 => exact .nil
    | 1 => exact .slash .nil
    | n + 2 => exact .dot (ih n)

theorem segments_append_slash (front rest : List Char) :
    segments (front ++ '/' :: rest) = segments front ++ segments rest :=
  splitAt_append_cons front rest

theorem segments_of_slash_notMem (h : '/' ∉ name) : segments name = [name] :=
  splitAt_of_not_mem h

/-- What trails a name stands for nothing. -/
theorem Trailing.exists_segments (h : Trailing trail) (hname : '/' ∉ name) :
    ∃ ss, segments (name ++ trail) = name :: ss ∧ ss.filterMap Component.ofSegment = [] := by
  induction h generalizing name with
  | nil => exact ⟨[], by rw [List.append_nil, segments_of_slash_notMem hname], rfl⟩
  | slash _ ih =>
    obtain ⟨ss, hsegments, hnothing⟩ := ih List.not_mem_nil
    refine ⟨[] :: ss, ?_, hnothing⟩
    rw [segments_append_slash, segments_of_slash_notMem hname]
    exact congrArg (name :: ·) hsegments
  | dot _ ih =>
    have hdot : '/' ∉ ['.'] := by decide
    obtain ⟨ss, hsegments, hnothing⟩ := ih hdot
    refine ⟨['.'] :: ss, ?_, hnothing⟩
    rw [segments_append_slash, segments_of_slash_notMem hname]
    exact congrArg (name :: ·) hsegments

theorem trailing_of_segments {ss : List (List Char)}
    (h : ss.filterMap Component.ofSegment = []) : Trailing (ss.flatMap ('/' :: ·)) := by
  induction ss with
  | nil => exact .nil
  | cons s ss ih =>
    have hnone : ∀ s' ∈ s :: ss, Component.ofSegment s' = none := List.filterMap_eq_nil_iff.mp h
    have hrest := ih (List.filterMap_eq_nil_iff.mpr fun s' hs' ↦ hnone s' (.tail s hs'))
    rw [List.flatMap_cons]
    rcases ofSegment_eq_none (hnone s List.mem_cons_self) with rfl | rfl
    · exact .slash hrest
    · exact .dot hrest

/-! ## The place of the name -/

theorem spansFrom_named (start : Nat) (leads : Leading front) (isName : IsName name)
    (trails : Trailing trail) :
    spansFrom start (segments (front ++ (name ++ trail))) =
      spansFrom start (segments front) ++
        [⟨.name name, start + front.length, start + front.length + name.length⟩] := by
  have hname (start : Nat) : spansFrom start (segments (name ++ trail)) =
      [⟨.name name, start, start + name.length⟩] := by
    obtain ⟨ss, hsegments, hnothing⟩ := trails.exists_segments isName.noSlash
    have hrest : spansFrom (start + name.length + 1) ss = [] := by
      rw [← List.map_eq_nil_iff, map_component_spansFrom, hnothing]
    rw [hsegments, spansFrom_cons, isName.named, hrest]
    rfl
  cases leads with
  | nil => exact hname start
  | slash cs =>
    have hlength : start + (cs ++ ['/']).length = start + cs.length + 1 := by
      rw [List.length_append, List.length_singleton, Nat.add_assoc]
    calc
      spansFrom start (segments (cs ++ ['/'] ++ (name ++ trail)))
          = spansFrom start (segments cs ++ segments (name ++ trail)) := by
        rw [List.append_assoc, List.singleton_append, segments_append_slash]
      _ = spansFrom start (segments cs) ++
            [⟨.name name, start + cs.length + 1, start + cs.length + 1 + name.length⟩] := by
        rw [spansFrom_segments_append, hname]
      _ = _ := by
        rw [segments_append_slash, spansFrom_segments_append, hlength]
        exact congrArg (· ++ _) (List.append_nil _).symm

theorem Leading.opening_named (leads : Leading front) (isName : IsName name)
    (trails : Trailing trail) (h : opening (segments front) = []) :
    opening (segments (front ++ (name ++ trail))) = [] := by
  cases leads with
  | nil =>
    obtain ⟨ss, hsegments, -⟩ := trails.exists_segments isName.noSlash
    rw [List.nil_append, hsegments]
    exact opening_cons isName.named ss
  | slash cs =>
    rw [List.append_assoc, List.singleton_append, segments_append_slash,
      opening_append_congr (segments_ne_nil cs) (segments_ne_nil _) (segments_ne_nil []),
      ← segments_append_slash, h]

theorem Leading.of_cons {c : Char} {cs : List Char} (h : Leading (c :: cs)) : Leading cs := by
  generalize hfront : c :: cs = front at h
  cases h with
  | nil => cases hfront
  | slash cs' =>
    cases cs' with
    | nil =>
      obtain ⟨-, rfl⟩ := List.cons.inj hfront
      exact .nil
    | cons c' cs' =>
      obtain ⟨-, rfl⟩ := List.cons.inj hfront
      exact .slash cs'

/-- Behind a front that stands for one component a name is the last of them. -/
theorem spansOf_named_behind (lead : List Char) {first : Span} {rest : List Char}
    (hlead : ∀ rest, spansOf (lead ++ rest) = first :: spansFrom lead.length (segments rest))
    (leads : Leading rest) (isName : IsName name) (trails : Trailing trail) :
    spansOf (lead ++ rest ++ (name ++ trail)) =
      spansOf (lead ++ rest) ++
        [⟨.name name, (lead ++ rest).length, (lead ++ rest).length + name.length⟩] := by
  rw [List.append_assoc, hlead, hlead, spansFrom_named _ leads isName trails, List.cons_append,
    List.length_append]

/-- A path that ends in a name has the components of what is in front, and the name. -/
theorem spansOf_named (leads : Leading front) (isName : IsName name) (trails : Trailing trail) :
    spansOf (front ++ (name ++ trail)) =
      spansOf front ++ [⟨.name name, front.length, front.length + name.length⟩] := by
  rcases opening_cases front with ⟨rest, rfl⟩ | rfl | ⟨rest, rfl⟩ | hopening
  · exact spansOf_named_behind ['/'] spansOf_slash leads.of_cons isName trails
  · generalize hdot : ['.'] = front at leads
    cases leads with
    | nil => cases hdot
    | slash cs => simp [List.singleton_eq_append_iff] at hdot
  · exact spansOf_named_behind ['.', '/'] spansOf_dot_slash leads.of_cons.of_cons isName trails
  · rw [spansOf_of_opening (leads.opening_named isName trails hopening),
      spansOf_of_opening hopening, spansFrom_named 0 leads isName trails, Nat.zero_add]

/-- A path that is a name between what leads and what trails. -/
structure EndsIn (p : Path) (front name trail : List Char) : Prop where
  text_eq : p.text.toList = front ++ (name ++ trail)
  leads : Leading front
  isName : IsName name
  trails : Trailing trail

namespace EndsIn

theorem getLast?_spans (h : p.EndsIn front name trail) :
    p.spans.getLast? = some ⟨.name name, front.length, front.length + name.length⟩ := by
  rw [spans, h.text_eq, spansOf_named h.leads h.isName h.trails, List.getLast?_concat]

theorem fileName (h : p.EndsIn front name trail) : p.fileName = some name := by
  rw [Path.fileName, h.getLast?_spans]

theorem components (h : p.EndsIn front name trail) :
    p.components = (spansOf front).map (·.component) ++ [.name name] := by
  rw [Path.components, spans, h.text_eq, spansOf_named h.leads h.isName h.trails, List.map_append]
  rfl

end EndsIn

/-! ## Finding the name -/

theorem eq_of_ofSegment {s : List Char} (h : Component.ofSegment s = some (.name name)) :
    s = name := by
  unfold Component.ofSegment at h
  split at h <;> cases h
  rfl

/-- The last of some segments that stands for anything splits the text. -/
theorem exists_endsIn_of_onward {before : List Component} (h : p.onward = before ++ [.name name]) :
    ∃ front trail, p.EndsIn front name trail := by
  obtain ⟨ss, ss', hsegments, -, hlast⟩ := List.filterMap_eq_append_iff.mp h
  obtain ⟨nothing, s, behind, rfl, -, hs, hbehind⟩ := List.filterMap_eq_cons_iff.mp hlast
  obtain rfl := eq_of_ofSegment hs
  have hmem : s ∈ segments p.text.toList := by
    rw [hsegments]
    simp
  have isName : IsName s := ⟨hs, (of_mem_segments s hmem).1⟩
  have trails := trailing_of_segments hbehind
  have hflat := flatMap_segments p.text.toList
  rw [hsegments, ← List.append_assoc, List.flatMap_append, List.flatMap_cons] at hflat
  cases hlead : ss ++ nothing with
  | nil =>
    rw [hlead] at hflat
    exact ⟨[], _, (List.cons.inj hflat).2.symm, .nil, isName, trails⟩
  | cons first others =>
    refine ⟨first ++ others.flatMap ('/' :: ·) ++ ['/'], _, ?_, .slash _, isName, trails⟩
    rw [hlead, List.flatMap_cons] at hflat
    simpa using (List.cons.inj hflat).2.symm

theorem exists_endsIn_of_fileName (h : p.fileName = some name) :
    ∃ front trail, p.EndsIn front name trail := by
  have hlast := fileName_eq_some.mp h
  have honward : p.onward ≠ [] :=
    List.ne_nil_of_mem (mem_onward_of_name (List.mem_of_getLast? hlast))
  rw [components_eq, List.getLast?_append_of_ne_nil _ honward] at hlast
  obtain ⟨before, hbefore⟩ := List.getLast?_eq_some_iff.mp hlast
  exact exists_endsIn_of_onward hbefore

/-! ## Extensions -/

theorem splitName_dotted (hstem : stem ≠ []) (hext : '.' ∉ ext) :
    splitName (stem ++ '.' :: ext) = (stem, some ext) := by
  have hreverse : (stem ++ '.' :: ext).reverse = ext.reverse ++ '.' :: stem.reverse := by simp
  have hplain : ∀ c ∈ ext.reverse, (c != '.') = true := by
    intro c hc
    rw [bne_iff_ne]
    rintro rfl
    exact hext (List.mem_reverse.mp hc)
  have hafter : (ext.reverse ++ '.' :: stem.reverse).takeWhile (· != '.') = ext.reverse := by
    rw [List.takeWhile_append_of_pos hplain, List.takeWhile_cons_of_neg (by simp),
      List.append_nil]
  have hbefore : (ext.reverse ++ '.' :: stem.reverse).dropWhile (· != '.') =
      '.' :: stem.reverse := by
    rw [List.dropWhile_append_of_pos hplain, List.dropWhile_cons_of_neg (by simp)]
  obtain ⟨c, cs, hcs⟩ := List.exists_cons_of_ne_nil (List.reverse_ne_nil_iff.mpr hstem)
  unfold splitName
  rw [hreverse, hafter, hbefore, hcs, List.reverse_reverse]
  dsimp only
  rw [← hcs, List.reverse_reverse]

/-- A name that has an extension is cut at a dot that is not in front. -/
theorem exists_stem_of_splitName (h : (splitName name).2 = some ext) :
    ∃ stem, stem ≠ [] ∧ '.' ∉ ext ∧ name = stem ++ '.' :: ext := by
  have hsplit := List.takeWhile_append_dropWhile (p := (· != '.')) (l := name.reverse)
  unfold splitName at h
  dsimp only at h
  split at h
  · cases h
  · cases h
  · next d before hdots hdrop =>
    obtain rfl := Option.some.inj h
    have hdot : d = '.' := by
      have hhead := List.head?_dropWhile_not (· != '.') name.reverse
      rw [hdrop] at hhead
      simpa using hhead
    rw [hdrop, hdot] at hsplit
    refine ⟨before.reverse, ?_, fun hmem ↦ ?_, ?_⟩
    · exact fun hnil ↦ hdots (List.reverse_eq_nil_iff.mp hnil)
    · simpa using List.mem_takeWhile_imp (List.mem_reverse.mp hmem)
    · simpa using (congrArg List.reverse hsplit).symm

structure EndsDotted (p : Path) (front stem ext trail : List Char) : Prop
    extends EndsIn p front (stem ++ '.' :: ext) trail where
  stem_ne_nil : stem ≠ []
  noDot : '.' ∉ ext

/-- A dot behind a stem makes a name of it, unless the stem is a dot as well. -/
theorem isName_dotted (hstem : stem ≠ []) (hdot : stem ≠ ['.']) (h : '/' ∉ stem ++ '.' :: ext) :
    IsName (stem ++ '.' :: ext) where
  named := by
    match stem with
    | [] => exact absurd rfl hstem
    | [c] =>
      have hc : c ≠ '.' := fun hc ↦ hdot (congrArg ([·]) hc)
      apply ofSegment_eq_name <;> simp [hc]
    | c :: c' :: cs => apply ofSegment_eq_name <;> simp
  noSlash := h

theorem exists_endsDotted (h : p.extension = some ext) :
    ∃ front stem trail, p.EndsDotted front stem ext trail := by
  obtain ⟨name, hname, hsplit⟩ := Option.bind_eq_some_iff.mp h
  obtain ⟨front, trail, hends⟩ := exists_endsIn_of_fileName hname
  obtain ⟨stem, hstem, hext, rfl⟩ := exists_stem_of_splitName hsplit
  exact ⟨front, stem, trail, hends, hstem, hext⟩

namespace EndsDotted

variable {new : String}

theorem extension (h : p.EndsDotted front stem ext trail) : p.extension = some ext := by
  rw [Path.extension, h.fileName, Option.bind_some, splitName_dotted h.stem_ne_nil h.noDot]

theorem stem_eq (h : p.EndsDotted front stem ext trail) : p.stem = some stem := by
  rw [Path.stem, h.fileName, Option.map_some, splitName_dotted h.stem_ne_nil h.noDot]

theorem parent (h : p.EndsDotted front stem ext trail) :
    p.parent.map Path.components = some ((spansOf front).map (·.component)) := by
  cases hparent : p.parent with
  | none =>
    have hcomponents := h.components
    rcases parent_eq_none_iff.mp hparent with hnil | hroot
    · simp [hnil] at hcomponents
    · simp [hroot, List.singleton_eq_append_iff] at hcomponents
  | some dir =>
    rw [Option.map_some, components_parent hparent, h.components, List.dropLast_concat]

theorem replaceExtension (h : p.EndsDotted front stem ext trail) (hnew : new.isEmpty = false) :
    (p.replaceExtension new).text.toList = front ++ (stem ++ '.' :: new.toList) := by
  have hkept : p.text.toList.take (front.length + stem.length) = front ++ stem := by
    rw [h.text_eq, List.take_length_add_append, List.append_assoc, List.take_left]
  unfold Path.replaceExtension
  rw [h.getLast?_spans]
  dsimp only
  rw [splitName_dotted h.stem_ne_nil h.noDot, hkept, hnew]
  simp

/-- A path that has lost as many characters as its extension has still ends in a name with the
stem. -/
theorem cut (h : p.EndsDotted front stem ext trail) (hdot : stem ≠ ['.']) :
    ∃ ext' trail', (p.take (p.text.toList.length - ext.length)).EndsDotted front stem ext' trail' := by
  refine ⟨ext.take trail.length, trail.take (trail.length - ext.length), ⟨?_, h.leads, ?_,
    h.trails.take _⟩, h.stem_ne_nil, fun hmem ↦ h.noDot (List.mem_of_mem_take hmem)⟩
  · have hcount : p.text.toList.length - ext.length =
        front.length + (stem.length + (trail.length + 1)) := by
      rw [h.text_eq]
      simp only [List.length_append, List.length_cons]
      omega
    rw [Path.take, String.toList_ofList, hcount, h.text_eq, List.append_assoc stem,
      List.take_length_add_append, List.take_length_add_append, List.cons_append,
      List.take_succ_cons, List.take_append]
    simp
  · apply isName_dotted h.stem_ne_nil hdot
    intro hmem
    apply h.isName.noSlash
    simp only [List.mem_append, List.mem_cons] at hmem ⊢
    exact hmem.imp_right fun hmem ↦ hmem.imp_right List.mem_of_mem_take

/-- The name with another extension ends the path. -/
theorem withExtension (h : p.EndsDotted front stem ext trail) (hdot : stem ≠ ['.'])
    (hnew : new.isEmpty = false) :
    (p.withExtension new).text.toList = front ++ (stem ++ '.' :: new.toList) := by
  obtain ⟨ext', trail', hcut⟩ := h.cut hdot
  rw [Path.withExtension, h.extension]
  exact hcut.replaceExtension hnew

end EndsDotted

end StyleGuide.Path
