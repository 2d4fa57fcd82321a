import Mathlib.Data.List.Nodup
import StyleGuide.Proofs.Render.Headings

/-!
# Anchors of headings

An anchor is a slug, numbered from its second use on. Numbers keep headings with one slug apart, and
no two slugs with numbers are the same, since a number has no dash. What is left is a slug that
looks like another slug with a number. Anchors are distinct exactly where that does not happen.
-/

namespace StyleGuide.Render

/-! ## Slugs with numbers -/

theorem dash_notMem_toString (n : Nat) : '-' ∉ (toString n).toList := by
  intro hmem
  rw [Nat.toString_eq_ofList_toDigits, String.toList_ofList] at hmem
  have hdigit := Nat.isDigit_of_mem_toDigits (by decide) (by decide) hmem
  exact absurd hdigit (by decide)

theorem toString_injective {n m : Nat} (h : toString n = toString m) : n = m := by
  rw [Nat.toString_eq_ofList_toDigits, Nat.toString_eq_ofList_toDigits] at h
  have hdigits : Nat.toDigits 10 n = Nat.toDigits 10 m := String.ofList_injective h
  calc
    n = Nat.ofDigitChars 10 (Nat.toDigits 10 n) 0 := Nat.ofDigitChars_ten_toDigits.symm
    _ = Nat.ofDigitChars 10 (Nat.toDigits 10 m) 0 := by rw [hdigits]
    _ = m := Nat.ofDigitChars_ten_toDigits

theorem gap_eq_nil {gap ds ds' : List Char} (hds : '-' ∉ ds)
    (h : '-' :: ds = gap ++ '-' :: ds') : gap = [] := by
  cases gap with
  | nil => rfl
  | cons c gap =>
    have hrest : ds = gap ++ '-' :: ds' := (List.cons.inj h).2
    exact absurd (hrest ▸ List.mem_append_right gap List.mem_cons_self) hds

/-- What follows the last dash is determined, and so is what goes before it. -/
theorem append_dash_inj {cs cs' ds ds' : List Char} (hds : '-' ∉ ds) (hds' : '-' ∉ ds')
    (h : cs ++ '-' :: ds = cs' ++ '-' :: ds') : cs = cs' ∧ ds = ds' := by
  rcases List.append_eq_append_iff.mp h with ⟨gap, rfl, hgap⟩ | ⟨gap, rfl, hgap⟩
  · obtain rfl := gap_eq_nil hds hgap
    rw [List.nil_append] at hgap
    exact ⟨(List.append_nil cs).symm, (List.cons.inj hgap).2⟩
  · obtain rfl := gap_eq_nil hds' hgap
    rw [List.nil_append] at hgap
    exact ⟨List.append_nil cs', (List.cons.inj hgap).2.symm⟩

theorem numbered_succ_inj {s t : String} {n m : Nat}
    (h : numbered s (n + 1) = numbered t (m + 1)) : s = t ∧ n = m := by
  have hlist : s.toList ++ '-' :: (toString (n + 1)).toList =
      t.toList ++ '-' :: (toString (m + 1)).toList := by
    simpa [numbered] using congrArg String.toList h
  obtain ⟨hslug, hnumber⟩ :=
    append_dash_inj (dash_notMem_toString _) (dash_notMem_toString _) hlist
  have hsucc : n + 1 = m + 1 := toString_injective (String.toList_inj.mp hnumber)
  exact ⟨String.toList_inj.mp hslug, Nat.succ.inj hsucc⟩

/-! ## Places of slugs -/

/-- Slugs, each with its number of uses so far, where the slugs `before` have gone before. -/
def places (before : List String) : List String → List (String × Nat)
  | [] => []
  | s :: slugs => (s, before.count s) :: places (before ++ [s]) slugs

theorem mem_places {before slugs : List String} {s : String} {n : Nat} :
    (s, n) ∈ places before slugs ↔
      before.count s ≤ n ∧ n < before.count s + slugs.count s := by
  induction slugs generalizing before with
  | nil => simp [places]
  | cons t slugs ih =>
    rw [places, List.mem_cons, ih, Prod.mk.injEq, List.count_append, List.count_singleton,
      List.count_cons]
    simp only [beq_iff_eq]
    split <;> grind

theorem mem_places_nil {slugs : List String} {s : String} {n : Nat} :
    (s, n) ∈ places [] slugs ↔ n < slugs.count s := by
  rw [mem_places, List.count_nil, Nat.zero_add]
  exact and_iff_right (Nat.zero_le n)

theorem nodup_places (before slugs : List String) : (places before slugs).Nodup := by
  induction slugs generalizing before with
  | nil => exact List.nodup_nil
  | cons s slugs ih =>
    rw [places, List.nodup_cons, mem_places]
    refine ⟨fun h ↦ ?_, ih _⟩
    have hcount := h.1
    rw [List.count_append, List.count_singleton_self] at hcount
    omega

theorem map_anchor_marks (before : List String) (hs : List OpenHeading) :
    (marks before hs).map Marked.anchor =
      (places before (hs.map OpenHeading.slug)).map fun p ↦ numbered p.1 p.2 := by
  induction hs generalizing before with
  | nil => rfl
  | cons h hs ih => rw [marks, List.map_cons, ih, List.map_cons, places, List.map_cons]

/-! ## Distinct anchors -/

/-- No slug looks like another one with a number that is given out. -/
def Unmistaken (slugs : List String) : Prop :=
  ∀ (s : String) (n : Nat), 0 < n → n < slugs.count s → s ++ "-" ++ toString n ∉ slugs

theorem Unmistaken.ne_numbered {slugs : List String} (h : Unmistaken slugs) {s t : String}
    {n : Nat} (hs : (s, 0) ∈ places [] slugs) (ht : (t, n + 1) ∈ places [] slugs) :
    s ≠ numbered t (n + 1) := by
  rintro rfl
  have hmem : numbered t (n + 1) ∈ slugs := List.count_pos_iff.mp (mem_places_nil.mp hs)
  exact h t (n + 1) n.succ_pos (mem_places_nil.mp ht) hmem

theorem nodup_numbered_iff (slugs : List String) :
    ((places [] slugs).map fun p ↦ numbered p.1 p.2).Nodup ↔ Unmistaken slugs := by
  rw [List.nodup_map_iff_inj_on (nodup_places [] slugs)]
  constructor
  · intro hinj s n hpos hcount hmem
    cases n with
    | zero => exact absurd hpos (Nat.lt_irrefl 0)
    | succ n =>
      have hslug : (numbered s (n + 1), 0) ∈ places [] slugs :=
        mem_places_nil.mpr (List.count_pos_iff.mpr hmem)
      have hpair : (s, n + 1) = (numbered s (n + 1), 0) :=
        hinj _ (mem_places_nil.mpr hcount) _ hslug rfl
      exact n.succ_ne_zero (congrArg Prod.snd hpair)
  · rintro h ⟨s, n⟩ hs ⟨t, m⟩ ht heq
    cases n with
    | zero =>
      cases m with
      | zero => exact Prod.ext heq rfl
      | succ m => exact absurd heq (h.ne_numbered hs ht)
    | succ n =>
      cases m with
      | zero => exact absurd heq.symm (h.ne_numbered ht hs)
      | succ m =>
        obtain ⟨rfl, rfl⟩ := numbered_succ_inj heq
        rfl

def anchorsOf (shown : List Rendered) : List String :=
  shown.flatMap fun page ↦ page.toc.map TocEntry.id

theorem anchorsOf_eq {shown : List Rendered} {marked : List (List Marked)}
    (h : List.Forall₂ Shows shown marked) :
    anchorsOf shown = marked.flatten.map Marked.anchor := by
  induction h with
  | nil => rfl
  | cons hpage _ ih =>
    rw [anchorsOf, List.flatMap_cons, hpage.toc, List.flatten_cons, List.map_append, ← ih,
      List.map_map]
    rfl

/-- No anchor is given out twice, however often a renderer is called. -/
def DistinctAnchors {S : Type} (settings : Settings S) (memory : S) : Prop :=
  ∀ calls : List (List Event), (anchorsOf (pages settings (.initial memory) calls)).Nodup

/-- All headings are on their pages and in the contents with the same anchors, and no anchor is
given out twice exactly if no slug is mistaken. -/
theorem distinct_iff_unmistaken {S : Type} (settings : Settings S) (memory : S)
    (calls : List (List Event)) :
    (∃ marked : List (List Marked),
      marked.map (·.map Marked.heading) = headings settings (.initial memory) calls ∧
      List.Forall₂ Shows (pages settings (.initial memory) calls) marked) ∧
    ((anchorsOf (pages settings (.initial memory) calls)).Nodup ↔
      Unmistaken ((headings settings (.initial memory) calls).flatten.map OpenHeading.slug)) := by
  have tally : (State.initial memory).counts.Tally [] := fun s ↦ rfl
  obtain ⟨marked, hheadings, hflatten, hshows⟩ := shows_pages tally rfl rfl calls
  refine ⟨⟨marked, hheadings, hshows⟩, ?_⟩
  rw [anchorsOf_eq hshows, hflatten, map_anchor_marks]
  exact nodup_numbered_iff _

def mistakenHeadings : List Event :=
  ["a", "a", "a 1"].flatMap fun text ↦ [.start (.heading 1), .text text, .stop .heading]

theorem anchors_mistakenHeadings :
    anchorsOf (pages (⟨[], ""⟩ : Settings Unit) (.initial ()) [mistakenHeadings]) =
      ["a", "a-1", "a-1"] ∧
    ¬ DistinctAnchors (⟨[], ""⟩ : Settings Unit) () := by
  have anchors : anchorsOf (pages (⟨[], ""⟩ : Settings Unit) (.initial ()) [mistakenHeadings]) =
      ["a", "a-1", "a-1"] := by decide +kernel
  refine ⟨anchors, fun h ↦ ?_⟩
  have hnodup := h [mistakenHeadings]
  rw [anchors] at hnodup
  exact absurd hnodup (by decide)

end StyleGuide.Render
