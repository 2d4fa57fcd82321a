import StyleGuide.Proofs.Render.PlainSlugs
import StyleGuide.Proofs.Render.Trees
import StyleGuide.Render.Renderer

/-!
# Tagged texts

Texts that are read as tags with characters between them. They may be put one behind another, and
blanks may be cut from both ends, since a tag neither begins nor ends with one. A text that is
escaped has no tags, neither as a text nor as the value of an attribute.
-/

namespace StyleGuide.Render

open Text Html

/-! ## Written tokens -/

/-- A text that is read as tokens. -/
structure Spelled (html : String) (ts : List Token) : Prop where
  named : ∀ t ∈ ts, t.Named
  written : html.toList = write ts

namespace Spelled

variable {html html' : String} {ts ts' : List Token}

theorem append (h : Spelled html ts) (h' : Spelled html' ts') :
    Spelled (html ++ html') (ts ++ ts') := by
  refine ⟨fun t ht ↦ (List.mem_append.mp ht).elim (h.named t) (h'.named t), ?_⟩
  rw [String.toList_append, h.written, h'.written]
  unfold write
  exact List.flatMap_append.symm

/-- An escaped text is read as its characters. -/
theorem escape (s : String) : Spelled (Markup.escape s) (chars s) := by
  refine ⟨fun t ht ↦ ?_, ?_⟩
  · obtain ⟨c, -, rfl⟩ := List.mem_map.mp ht
    trivial
  · unfold write chars Markup.escape
    rw [String.toList_ofList, List.flatMap_map]
    rfl

theorem opening (name : String) (attributes : List Attribute) (hname : IsName name)
    (hattributes : ∀ a ∈ attributes, IsName a.name)
    (h : html.toList = (Token.opening name attributes).write) :
    Spelled html [.opening name attributes] := by
  refine ⟨List.forall_mem_singleton.mpr ⟨hname, hattributes⟩, ?_⟩
  rw [h]
  unfold write
  exact (List.flatMap_singleton ..).symm

theorem tokens?_eq (h : Spelled html ts) : tokens? html.toList = some ts := by
  rw [h.written, tokens?_write h.named]

end Spelled

/-! ## Written tags -/

/-- A text that is read as tags, and as characters between them. -/
def Tagged (html : String) (ms : List Mark) : Prop :=
  ∃ ts : List Token, (∀ t ∈ ts, t.Named) ∧ outline ts = ms ∧ html.toList = write ts

theorem Spelled.tagged {html : String} {ts : List Token} (h : Spelled html ts) :
    Tagged html (outline ts) :=
  ⟨ts, h.named, rfl, h.written⟩

theorem outline_append (ts ts' : List Token) : outline (ts ++ ts') = outline ts ++ outline ts' :=
  List.filterMap_append

theorem outline_chars (s : String) : outline (chars s) = [] := by
  unfold outline chars
  rw [List.filterMap_map]
  exact List.filterMap_eq_nil_iff.mpr fun c _ ↦ rfl

namespace Tagged

variable {html html' : String} {ms ms' : List Mark}

theorem exists_spelled (h : Tagged html ms) : ∃ ts, Spelled html ts ∧ outline ts = ms := by
  obtain ⟨ts, hnamed, houtline, hwrite⟩ := h
  exact ⟨ts, ⟨hnamed, hwrite⟩, houtline⟩

/-- A text is read in one way. -/
theorem unique (h : Tagged html ms) (h' : Tagged html ms') : ms = ms' := by
  obtain ⟨ts, hspelled, rfl⟩ := h.exists_spelled
  obtain ⟨ts', hspelled', rfl⟩ := h'.exists_spelled
  have hsome : some ts = some ts' := hspelled.tokens?_eq.symm.trans hspelled'.tokens?_eq
  rw [Option.some.inj hsome]

theorem nil : Tagged "" [] :=
  ⟨[], List.forall_mem_nil _, rfl, rfl⟩

theorem append (h : Tagged html ms) (h' : Tagged html' ms') :
    Tagged (html ++ html') (ms ++ ms') := by
  obtain ⟨ts, hspelled, rfl⟩ := h.exists_spelled
  obtain ⟨ts', hspelled', rfl⟩ := h'.exists_spelled
  rw [← outline_append]
  exact (hspelled.append hspelled').tagged

/-- An escaped text has no tags. -/
theorem escape (s : String) : Tagged (Markup.escape s) [] :=
  outline_chars s ▸ (Spelled.escape s).tagged

theorem opening (name : String) (attributes : List Attribute) (hname : IsName name)
    (hattributes : ∀ a ∈ attributes, IsName a.name)
    (h : html.toList = (Token.opening name attributes).write) :
    Tagged html [.opening name (attributes.map (·.name))] :=
  (Spelled.opening name attributes hname hattributes h).tagged

/-- A text without names of its own is checked by reading it. -/
theorem of_tokens (ts : List Token) (hnamed : ∀ t ∈ ts, t.Named) (h : html.toList = write ts) :
    Tagged html (outline ts) :=
  Spelled.tagged ⟨hnamed, h⟩

end Tagged

/-- A text goes on with tags. -/
def Written (before after : String) (ms : List Mark) : Prop :=
  ∃ html, Tagged html ms ∧ after = before ++ html

namespace Written

variable {s s' s'' : String} {ms ms' : List Mark}

theorem refl (s : String) : Written s s [] :=
  ⟨"", .nil, (String.append_empty ..).symm⟩

theorem trans (h : Written s s' ms) (h' : Written s' s'' ms') : Written s s'' (ms ++ ms') := by
  obtain ⟨html, hhtml, rfl⟩ := h
  obtain ⟨html', hhtml', rfl⟩ := h'
  exact ⟨html ++ html', hhtml.append hhtml', String.append_assoc ..⟩

/-- A text goes on in one way. -/
theorem unique (h : Written s s' ms) (h' : Written s s' ms') : ms = ms' := by
  obtain ⟨html, htagged, rfl⟩ := h
  obtain ⟨html', htagged', heq⟩ := h'
  rw [String.append_right_inj] at heq
  exact htagged.unique (heq ▸ htagged')

end Written

/-! ## Tags of inline content -/

/-- A code span is read as its element with its text. -/
theorem spelled_codeSpan (s : String) :
    Spelled ("<code class=\"livingstyleguide--code-span livingstyleguide--code\">" ++
      Markup.escape s ++ "</code>")
      (.opening "code" [⟨"class", some "livingstyleguide--code-span livingstyleguide--code"⟩] ::
        (chars s ++ [.closing "code"])) := by
  have hopening : Spelled "<code class=\"livingstyleguide--code-span livingstyleguide--code\">"
      [.opening "code" [⟨"class", some "livingstyleguide--code-span livingstyleguide--code"⟩]] :=
    ⟨by decide, by decide⟩
  have hclosing : Spelled "</code>" [.closing "code"] :=
    ⟨by decide, by decide⟩
  exact (hopening.append (.escape s)).append hclosing

theorem tagged_codeSpan (s : String) :
    Tagged ("<code class=\"livingstyleguide--code-span livingstyleguide--code\">" ++
      Markup.escape s ++ "</code>") (element "code" ["class"] []) := by
  have houtline : outline (chars s ++ [.closing "code"]) = [.closing "code"] := by
    rw [outline_append, outline_chars]
    rfl
  have htagged := (spelled_codeSpan s).tagged
  rwa [outline, List.filterMap_cons, ← outline, houtline] at htagged

def taskMarkerTokens (checked : Bool) : List Token :=
  [.opening "input" (⟨"type", some "checkbox"⟩ ::
    ((if checked then [⟨"checked", none⟩] else []) ++ [⟨"disabled", none⟩])), .char ' ']

theorem spelled_taskMarker (checked : Bool) :
    Spelled (if checked then "<input type=\"checkbox\" checked disabled> "
      else "<input type=\"checkbox\" disabled> ") (taskMarkerTokens checked) := by
  cases checked with
  | true => exact ⟨by decide, by decide⟩
  | false => exact ⟨by decide, by decide⟩

theorem tagged_taskMarker (checked : Bool) :
    Tagged (if checked then "<input type=\"checkbox\" checked disabled> "
      else "<input type=\"checkbox\" disabled> ") (Atom.taskMarker checked).outline := by
  have htagged := (spelled_taskMarker checked).tagged
  cases checked with
  | true => exact htagged
  | false => exact htagged

def titleAttributes (title : String) : List Attribute :=
  if title.isEmpty then [] else [⟨"title", some title⟩]

theorem map_name_titleAttributes (title : String) :
    (titleAttributes title).map (·.name) = titleNames title := by
  unfold titleAttributes titleNames
  split <;> rfl

theorem isName_titleAttributes (title : String) :
    ∀ a ∈ titleAttributes title, IsName a.name := by
  unfold titleAttributes
  split
  · exact List.forall_mem_nil _
  · exact List.forall_mem_singleton.mpr (by decide : IsName "title")

theorem toList_titleAttribute (title : String) :
    (State.titleAttribute title).toList = (titleAttributes title).flatMap Attribute.write := by
  unfold State.titleAttribute titleAttributes
  split
  · rfl
  · simp [Attribute.write, Markup.escape]

theorem spelled_link (url title : String) :
    Spelled ("<a href=\"" ++ Markup.escape url ++ "\"" ++ State.titleAttribute title ++ ">")
      [.opening "a" (⟨"href", some url⟩ :: titleAttributes title)] := by
  refine .opening "a" (⟨"href", some url⟩ :: titleAttributes title) (by decide)
    (List.forall_mem_cons.mpr ⟨(by decide : IsName "href"), isName_titleAttributes title⟩) ?_
  simp only [String.toList_append, toList_titleAttribute]
  simp [Token.write, Attribute.write, Markup.escape]

theorem spelled_image (url alt title : String) :
    Spelled ("<img src=\"" ++ Markup.escape url ++ "\" alt=\"" ++ Markup.escape alt ++ "\"" ++
      State.titleAttribute title ++ ">")
      [.opening "img" (⟨"src", some url⟩ :: ⟨"alt", some alt⟩ :: titleAttributes title)] := by
  refine .opening "img" (⟨"src", some url⟩ :: ⟨"alt", some alt⟩ :: titleAttributes title)
    (by decide) (List.forall_mem_cons.mpr ⟨(by decide : IsName "src"), List.forall_mem_cons.mpr
      ⟨(by decide : IsName "alt"), isName_titleAttributes title⟩⟩) ?_
  simp only [String.toList_append, toList_titleAttribute]
  simp [Token.write, Attribute.write, Markup.escape]

theorem tagged_image (url alt title : String) :
    Tagged ("<img src=\"" ++ Markup.escape url ++ "\" alt=\"" ++ Markup.escape alt ++ "\"" ++
      State.titleAttribute title ++ ">") [.opening "img" ("src" :: "alt" :: titleNames title)] := by
  rw [← map_name_titleAttributes]
  exact (spelled_image url alt title).tagged

/-! ## Blanks at the ends -/

def isBlankToken : Token → Bool
  | .char c => isBlank c
  | _ => false

/-- A blank is written as it is, and anything else neither begins nor ends with one. -/
theorem write_ends (t : Token) :
    (isBlankToken t = true ∧ ∃ c, isBlank c = true ∧ t.write = [c]) ∨
      (isBlankToken t = false ∧ (∃ c cs, isBlank c = false ∧ t.write = c :: cs) ∧
        ∃ c cs, isBlank c = false ∧ t.write.reverse = c :: cs) := by
  cases t with
  | char c =>
    change (isBlank c = true ∧ ∃ d, isBlank d = true ∧ Markup.escapeChar c = [d]) ∨
      (isBlank c = false ∧ (∃ d cs, isBlank d = false ∧ Markup.escapeChar c = d :: cs) ∧
        ∃ d cs, isBlank d = false ∧ (Markup.escapeChar c).reverse = d :: cs)
    unfold Markup.escapeChar
    split
    case h_6 =>
      cases hblank : isBlank c with
      | true => exact .inl ⟨rfl, c, hblank, rfl⟩
      | false => exact .inr ⟨rfl, ⟨c, [], hblank, rfl⟩, ⟨c, [], hblank, rfl⟩⟩
    all_goals exact .inr ⟨by decide, ⟨_, _, by decide, rfl⟩, ⟨_, _, by decide, rfl⟩⟩
  | opening name attributes =>
    exact .inr ⟨rfl, ⟨'<', _, by decide, rfl⟩, '>',
      ('<' :: name.toList ++ attributes.flatMap Attribute.write).reverse, by decide,
      by simp [Token.write]⟩
  | closing name =>
    exact .inr ⟨rfl, ⟨'<', _, by decide, rfl⟩, '>', ('<' :: '/' :: name.toList).reverse,
      by decide, by simp [Token.write]⟩

/-- Cutting blanks from the front cuts whole tokens. -/
theorem dropWhile_flatMap {f : Token → List Char}
    (h : ∀ t, (isBlankToken t = true ∧ ∃ c, isBlank c = true ∧ f t = [c]) ∨
      (isBlankToken t = false ∧ ∃ c cs, isBlank c = false ∧ f t = c :: cs)) (ts : List Token) :
    (ts.flatMap f).dropWhile isBlank = (ts.dropWhile isBlankToken).flatMap f := by
  induction ts with
  | nil => rfl
  | cons t ts ih =>
    rw [List.flatMap_cons]
    rcases h t with ⟨htoken, c, hc, ht⟩ | ⟨htoken, c, cs, hc, ht⟩
    · rw [ht, List.singleton_append, List.dropWhile_cons_of_pos hc,
        List.dropWhile_cons_of_pos htoken, ih]
    · have htoken' : ¬ isBlankToken t = true := Bool.eq_false_iff.mp htoken
      have hc' : ¬ isBlank c = true := Bool.eq_false_iff.mp hc
      rw [List.dropWhile_cons_of_neg htoken', List.flatMap_cons, ht, List.cons_append,
        List.dropWhile_cons_of_neg hc']

theorem trimStart_write (ts : List Token) :
    trimStart (write ts) = write (ts.dropWhile isBlankToken) :=
  dropWhile_flatMap (fun t ↦ (write_ends t).imp_right fun ⟨h, hfirst, _⟩ ↦ ⟨h, hfirst⟩) ts

theorem trimEnd_write (ts : List Token) :
    trimEnd (write ts) = write (ts.reverse.dropWhile isBlankToken).reverse := by
  have hends (t : Token) : (isBlankToken t = true ∧ ∃ c, isBlank c = true ∧ t.write.reverse = [c]) ∨
      (isBlankToken t = false ∧ ∃ c cs, isBlank c = false ∧ t.write.reverse = c :: cs) := by
    rcases write_ends t with ⟨h, c, hc, ht⟩ | ⟨h, -, hlast⟩
    · exact .inl ⟨h, c, hc, by rw [ht]; rfl⟩
    · exact .inr ⟨h, hlast⟩
  unfold trimEnd write
  rw [List.reverse_flatMap]
  change ((ts.reverse.flatMap fun t ↦ t.write.reverse).dropWhile isBlank).reverse = _
  rw [dropWhile_flatMap hends, List.reverse_flatMap]
  simp [Function.comp_def]

theorem outline_dropWhile (ts : List Token) :
    outline (ts.dropWhile isBlankToken) = outline ts := by
  induction ts with
  | nil => rfl
  | cons t ts ih =>
    rw [List.dropWhile_cons]
    split
    · next hblank =>
      rw [ih]
      cases t with
      | char c => rfl
      | opening => cases hblank
      | closing => cases hblank
    · rfl

/-- Tokens without the blanks at both ends. -/
def trimTokens (ts : List Token) : List Token :=
  ((ts.dropWhile isBlankToken).reverse.dropWhile isBlankToken).reverse

theorem trimTokens_sublist (ts : List Token) : (trimTokens ts).Sublist ts := by
  have hend := (List.dropWhile_sublist isBlankToken (l := (ts.dropWhile isBlankToken).reverse))
  rw [← List.reverse_sublist, List.reverse_reverse] at hend
  exact hend.trans (List.dropWhile_sublist _)

theorem outline_trimTokens (ts : List Token) : outline (trimTokens ts) = outline ts := by
  rw [trimTokens, outline, List.filterMap_reverse]
  change (outline _).reverse = _
  rw [outline_dropWhile, outline, List.filterMap_reverse, List.reverse_reverse]
  exact outline_dropWhile ts

/-- Cutting blanks from both ends cuts no tag. -/
theorem Spelled.trimmed {html : String} {ts : List Token} (h : Spelled html ts) :
    Spelled (State.trimmed html) (trimTokens ts) := by
  refine ⟨fun t ht ↦ h.named t ((trimTokens_sublist ts).subset ht), ?_⟩
  rw [State.trimmed, trim, String.toList_ofList, h.written, trimStart_write, trimEnd_write]
  rfl

theorem Tagged.trimmed {html : String} {ms : List Mark} (h : Tagged html ms) :
    Tagged (State.trimmed html) ms := by
  obtain ⟨ts, hspelled, rfl⟩ := h.exists_spelled
  rw [← outline_trimTokens]
  exact hspelled.trimmed.tagged

end StyleGuide.Render
