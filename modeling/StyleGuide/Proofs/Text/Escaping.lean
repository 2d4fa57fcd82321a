import Mathlib.Logic.Function.Basic
import StyleGuide.Text.Markup

/-!
# Escaped texts

A special character is written as an entity, and every other character as it is. An entity starts with
an ampersand and holds no other special character, and no ampersand is written in another way. So the
entities in an escaped text are those that were written, whatever the source looks like, and decoding
them gives the source back.
-/

namespace StyleGuide.Text.Markup

def entities : List (List Char) :=
  ["&amp;", "&lt;", "&gt;", "&quot;", "&#x27;"].map String.toList

/-- The special characters that no entity holds. -/
def delimiters : List Char :=
  ['<', '>', '"', '\'']

/-- A text without tags and quotes, in which every ampersand begins an entity. -/
structure Inert (cs : List Char) : Prop where
  undelimited : ∀ c ∈ delimiters, c ∉ cs
  ampersands : ∀ before after, cs = before ++ '&' :: after → ∃ e ∈ entities, e <+: '&' :: after

/-! ## One character -/

theorem escapeChar_cases (c : Char) :
    escapeChar c ∈ entities ∨ c ≠ '&' ∧ c ∉ delimiters ∧ escapeChar c = [c] := by
  unfold escapeChar
  split
  case h_6 hamp hlt hgt hquot hapos =>
    right
    have hdelimiter : c ∉ delimiters := by
      simp only [delimiters, List.mem_cons, List.not_mem_nil, or_false, not_or]
      exact ⟨hlt, hgt, hquot, hapos⟩
    exact ⟨hamp, hdelimiter, rfl⟩
  all_goals
    left
    decide

theorem delimiter_notMem_escapeChar {c d : Char} (hd : d ∈ delimiters) : d ∉ escapeChar c := by
  have hentities : ∀ e ∈ entities, ∀ d ∈ delimiters, d ∉ e := by simp [entities, delimiters]
  intro hmem
  rcases escapeChar_cases c with hentity | ⟨-, hc, hself⟩
  · exact hentities _ hentity d hd hmem
  · rw [hself, List.mem_singleton] at hmem
    exact hc (hmem ▸ hd)

/-- An ampersand is written at the front of an entity only. -/
theorem ampersand_in_escapeChar {c : Char} {before after : List Char}
    (h : escapeChar c = before ++ '&' :: after) : before = [] ∧ escapeChar c ∈ entities := by
  have hentities : ∀ e ∈ entities, '&' ∉ e.tail := by decide
  rcases escapeChar_cases c with hentity | ⟨hamp, -, hself⟩
  · cases before with
    | nil => exact ⟨rfl, hentity⟩
    | cons b before =>
      have hinside : '&' ∉ before ++ '&' :: after := by
        have htail := hentities _ hentity
        rw [h] at htail
        exact htail
      exact absurd (List.mem_append_right before List.mem_cons_self) hinside
  · have hmem : '&' ∈ [c] := by
      rw [← hself, h]
      exact List.mem_append_right before List.mem_cons_self
    exact absurd (List.mem_singleton.mp hmem).symm hamp

theorem unescapeChars_cons {c : Char} (h : c ≠ '&') (cs : List Char) :
    unescapeChars (c :: cs) = c :: unescapeChars cs := by
  rw [unescapeChars]
  all_goals
    intro rest hc
    exact absurd hc h

/-- What is decoded first is what was escaped first. -/
theorem unescapeChars_escapeChar (c : Char) (rest : List Char) :
    unescapeChars (escapeChar c ++ rest) = c :: unescapeChars rest := by
  unfold escapeChar
  split
  case h_6 hamp _ _ _ _ => exact unescapeChars_cons hamp rest
  all_goals rfl

/-! ## Texts -/

theorem escapeChars_cons (c : Char) (cs : List Char) :
    escapeChars (c :: cs) = escapeChar c ++ escapeChars cs :=
  List.flatMap_cons

theorem escapeChars_append (cs cs' : List Char) :
    escapeChars (cs ++ cs') = escapeChars cs ++ escapeChars cs' :=
  List.flatMap_append

theorem unescapeChars_escapeChars (cs : List Char) : unescapeChars (escapeChars cs) = cs := by
  induction cs with
  | nil => rfl
  | cons c cs ih => rw [escapeChars_cons, unescapeChars_escapeChar, ih]

theorem ampersand_in_escapeChars {cs before after : List Char}
    (h : escapeChars cs = before ++ '&' :: after) : ∃ e ∈ entities, e <+: '&' :: after := by
  induction cs generalizing before with
  | nil => exact absurd h (by simp [escapeChars])
  | cons c cs ih =>
    rw [escapeChars_cons] at h
    -- The ampersand is one of the rest, or it stands in what is written for the first character.
    rcases List.append_eq_append_iff.mp h with ⟨gap, rfl, hrest⟩ | ⟨gap, hfirst, hafter⟩
    · exact ih hrest
    · cases gap with
      | nil =>
        have hrest : escapeChars cs = [] ++ '&' :: after := hafter.symm
        exact ih hrest
      | cons d gap =>
        obtain ⟨rfl, hgap⟩ := List.cons.inj hafter
        obtain ⟨rfl, hentity⟩ := ampersand_in_escapeChar hfirst
        rw [List.nil_append] at hfirst
        refine ⟨escapeChar c, hentity, escapeChars cs, ?_⟩
        rw [hfirst, hgap]
        rfl

theorem inert_escapeChars (cs : List Char) : Inert (escapeChars cs) where
  undelimited := by
    intro d hd hmem
    obtain ⟨c, -, hc⟩ := List.mem_flatMap.mp hmem
    exact delimiter_notMem_escapeChar hd hc
  ampersands _ _ h := ampersand_in_escapeChars h

theorem toList_escape (s : String) : (escape s).toList = escapeChars s.toList :=
  String.toList_ofList

theorem unescapeChars_escape (s : String) : unescapeChars (escape s).toList = s.toList := by
  rw [toList_escape, unescapeChars_escapeChars]

theorem escape_injective : Function.Injective escape := by
  intro s t h
  apply String.toList_inj.mp
  calc
    s.toList = unescapeChars (escape s).toList := (unescapeChars_escape s).symm
    _ = unescapeChars (escape t).toList := by rw [h]
    _ = t.toList := unescapeChars_escape t

theorem escape_append (s t : String) : escape (s ++ t) = escape s ++ escape t := by
  apply String.toList_inj.mp
  rw [String.toList_append, toList_escape, toList_escape, toList_escape, String.toList_append,
    escapeChars_append]

/-- Escaping keeps every text and lets no markup through, and texts may be escaped in parts. -/
theorem escape_lossless (s t : String) :
    unescapeChars (escape s).toList = s.toList ∧ Function.Injective escape ∧
      Inert (escape s).toList ∧ escape (s ++ t) = escape s ++ escape t := by
  refine ⟨unescapeChars_escape s, escape_injective, ?_, escape_append s t⟩
  rw [toList_escape]
  exact inert_escapeChars s.toList

/-- A text that looks like an entity is escaped like any other. -/
example : unescapeChars (escape "&lt;").toList = "&lt;".toList := by decide

end StyleGuide.Text.Markup
