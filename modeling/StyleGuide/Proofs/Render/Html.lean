import StyleGuide.Text.Letter
import StyleGuide.Text.Markup

/-!
# Tags and text

How HTML is read: as characters, opening tags with attributes, and closing tags. The reader is
strict. A quote, an ampersand or an angle bracket is only read from its entity, in a text as well as
in the quoted value of an attribute, and nothing else may stand in a tag. So what is read back as
written has its tags where they were put, and nowhere else. Tags are well nested if every element
that is not void is closed by its own closing tag, in the right order.
-/

namespace StyleGuide.Html

open Text

/-- An attribute of a tag; one without a value is only named. -/
structure Attribute where
  name : String
  value : Option String
deriving DecidableEq, Repr

/-- What HTML is read as. -/
inductive Token where
  | char (c : Char)
  | opening (element : String) (attributes : List Attribute)
  | closing (element : String)
deriving DecidableEq, Repr

/-! ## Writing -/

def Attribute.write (a : Attribute) : List Char :=
  ' ' :: a.name.toList ++ match a.value with
    | some value => '=' :: '"' :: Markup.escapeChars value.toList ++ ['"']
    | none => []

def Token.write : Token → List Char
  | .char c => Markup.escapeChar c
  | .opening element attributes =>
    '<' :: element.toList ++ attributes.flatMap Attribute.write ++ ['>']
  | .closing element => '<' :: '/' :: element.toList ++ ['>']

def write (ts : List Token) : List Char :=
  ts.flatMap Token.write

def chars (s : String) : List Token :=
  s.toList.map .char

/-! ## Reading -/

/-- The characters that mean something to a reader. -/
def isSpecial (c : Char) : Bool :=
  c == '&' || c == '<' || c == '>' || c == '"' || c == '\''

def readChar? : List Char → Option (Char × List Char)
  | '&' :: 'a' :: 'm' :: 'p' :: ';' :: rest => some ('&', rest)
  | '&' :: 'l' :: 't' :: ';' :: rest => some ('<', rest)
  | '&' :: 'g' :: 't' :: ';' :: rest => some ('>', rest)
  | '&' :: 'q' :: 'u' :: 'o' :: 't' :: ';' :: rest => some ('"', rest)
  | '&' :: '#' :: 'x' :: '2' :: '7' :: ';' :: rest => some ('\'', rest)
  | c :: rest => if isSpecial c then none else some (c, rest)
  | [] => none

theorem length_readChar?_lt {cs : List Char} {read : Char × List Char}
    (h : readChar? cs = some read) : read.2.length < cs.length := by
  unfold readChar? at h
  split at h
  case h_6 =>
    obtain ⟨-, h⟩ := Option.ite_none_left_eq_some.mp h
    cases h
    exact Nat.lt_succ_self _
  case h_7 => cases h
  all_goals
    cases h
    simp only [List.length_cons]
    omega

def readValue? (cs : List Char) : Option (List Char × List Char) :=
  match cs with
  | '"' :: rest => some ([], rest)
  | cs =>
    match _h : readChar? cs with
    | some read => (readValue? read.2).map fun value ↦ (read.1 :: value.1, value.2)
    | none => none
termination_by cs.length
decreasing_by exact length_readChar?_lt _h

theorem length_readValue?_lt {cs : List Char} {read : List Char × List Char}
    (h : readValue? cs = some read) : read.2.length < cs.length := by
  fun_induction readValue? cs generalizing read with
  | case1 rest =>
    cases h
    exact Nat.lt_succ_self _
  | case2 cs _ first hfirst ih =>
    obtain ⟨value, hvalue, rfl⟩ := Option.map_eq_some_iff.mp h
    have hrest := ih hvalue
    exact Nat.lt_trans hrest (length_readChar?_lt hfirst)
  | case3 => cases h

def isNameChar (c : Char) : Bool :=
  ('a' ≤ c && c ≤ 'z') || c.isDigit

def readName? (cs : List Char) : Option (String × List Char) :=
  match cs.takeWhile isNameChar with
  | [] => none
  | name => some (String.ofList name, cs.dropWhile isNameChar)

theorem length_readName?_lt {cs : List Char} {read : String × List Char}
    (h : readName? cs = some read) : read.2.length < cs.length := by
  unfold readName? at h
  split at h
  · cases h
  · next hname =>
    cases h
    have hsplit :
        (cs.takeWhile isNameChar).length + (cs.dropWhile isNameChar).length = cs.length := by
      rw [← List.length_append, List.takeWhile_append_dropWhile]
    have hpos : 0 < (cs.takeWhile isNameChar).length := List.length_pos_iff.mpr hname
    dsimp only
    omega

def readAttribute? (cs : List Char) : Option (Attribute × List Char) := do
  let name ← readName? cs
  match name.2 with
  | '=' :: '"' :: rest =>
    let value ← readValue? rest
    return (⟨name.1, some (String.ofList value.1)⟩, value.2)
  | rest => return (⟨name.1, none⟩, rest)

theorem length_readAttribute?_lt {cs : List Char} {read : Attribute × List Char}
    (h : readAttribute? cs = some read) : read.2.length < cs.length := by
  unfold readAttribute? at h
  obtain ⟨name, hname, h⟩ := Option.bind_eq_some_iff.mp h
  have hlt := length_readName?_lt hname
  split at h
  · next hrest =>
    obtain ⟨value, hvalue, h⟩ := Option.bind_eq_some_iff.mp h
    cases h
    have hvalue' := length_readValue?_lt hvalue
    rw [hrest] at hlt
    simp only [List.length_cons] at hlt ⊢
    omega
  · cases h
    exact hlt

def readAttributes? (cs : List Char) : Option (List Attribute × List Char) :=
  match cs with
  | '>' :: rest => some ([], rest)
  | ' ' :: rest =>
    match _h : readAttribute? rest with
    | some read => (readAttributes? read.2).map fun more ↦ (read.1 :: more.1, more.2)
    | none => none
  | _ => none
termination_by cs.length
decreasing_by
  have hlt := length_readAttribute?_lt _h
  simp only [List.length_cons]
  omega

theorem length_readAttributes?_lt {cs : List Char} {read : List Attribute × List Char}
    (h : readAttributes? cs = some read) : read.2.length < cs.length := by
  fun_induction readAttributes? cs generalizing read with
  | case1 rest =>
    cases h
    exact Nat.lt_succ_self _
  | case2 rest first hfirst ih =>
    obtain ⟨more, hmore, rfl⟩ := Option.map_eq_some_iff.mp h
    have hlt := length_readAttribute?_lt hfirst
    have hmore' := ih hmore
    simp only [List.length_cons] at hmore' ⊢
    omega
  | case3 => cases h
  | case4 => cases h

def readToken? (cs : List Char) : Option (Token × List Char) :=
  match cs with
  | '<' :: '/' :: rest => do
    let name ← readName? rest
    match name.2 with
    | '>' :: rest => return (.closing name.1, rest)
    | _ => none
  | '<' :: rest => do
    let name ← readName? rest
    let attributes ← readAttributes? name.2
    return (.opening name.1 attributes.1, attributes.2)
  | cs => (readChar? cs).map fun read ↦ (.char read.1, read.2)

theorem length_readToken?_lt {cs : List Char} {read : Token × List Char}
    (h : readToken? cs = some read) : read.2.length < cs.length := by
  unfold readToken? at h
  split at h
  · obtain ⟨name, hname, h⟩ := Option.bind_eq_some_iff.mp h
    have hlt := length_readName?_lt hname
    split at h
    · next hrest =>
      cases h
      rw [hrest] at hlt
      simp only [List.length_cons] at hlt ⊢
      omega
    · cases h
  · obtain ⟨name, hname, h⟩ := Option.bind_eq_some_iff.mp h
    obtain ⟨attributes, hattributes, h⟩ := Option.bind_eq_some_iff.mp h
    cases h
    have hlt := length_readName?_lt hname
    have hlt' := length_readAttributes?_lt hattributes
    simp only [List.length_cons]
    omega
  · obtain ⟨read, hread, rfl⟩ := Option.map_eq_some_iff.mp h
    exact length_readChar?_lt hread

def tokens? (cs : List Char) : Option (List Token) :=
  if cs = [] then some []
  else
    match _h : readToken? cs with
    | some read => (tokens? read.2).map (read.1 :: ·)
    | none => none
termination_by cs.length
decreasing_by exact length_readToken?_lt _h

/-! ## What is written is read -/

def IsName (name : String) : Prop :=
  name ≠ "" ∧ ∀ c ∈ name.toList, isNameChar c = true

instance (name : String) : Decidable (IsName name) :=
  decidable_of_iff (name ≠ "" ∧ name.toList.all isNameChar = true)
    (and_congr_right fun _ ↦ List.all_eq_true)

def Token.Named : Token → Prop
  | .char _ => True
  | .opening element attributes => IsName element ∧ ∀ a ∈ attributes, IsName a.name
  | .closing element => IsName element

instance : DecidablePred Token.Named
  | .char _ => inferInstanceAs (Decidable True)
  | .opening element attributes =>
    inferInstanceAs (Decidable (IsName element ∧ ∀ a ∈ attributes, IsName a.name))
  | .closing element => inferInstanceAs (Decidable (IsName element))

theorem readChar?_escapeChar (c : Char) (rest : List Char) :
    readChar? (Markup.escapeChar c ++ rest) = some (c, rest) := by
  unfold Markup.escapeChar
  split
  case h_6 hamp hlt hgt hquot hapos =>
    have hspecial : isSpecial c = false := by
      unfold isSpecial
      simp_all
    rw [List.singleton_append, readChar?, hspecial]
    · rfl
    all_goals exact fun _ heq _ ↦ absurd heq (by assumption)
  all_goals rfl

theorem exists_escapeChar_eq (c : Char) :
    ∃ first more, Markup.escapeChar c = first :: more ∧ first ≠ '"' ∧ first ≠ '<' := by
  unfold Markup.escapeChar
  split
  case h_6 => exact ⟨c, [], rfl, by assumption, by assumption⟩
  all_goals exact ⟨_, _, rfl, by decide, by decide⟩

theorem readValue?_escapeChars (value rest : List Char) :
    readValue? (Markup.escapeChars value ++ '"' :: rest) = some (value, rest) := by
  induction value with
  | nil => rw [Markup.escapeChars, List.flatMap_nil, List.nil_append, readValue?]
  | cons c value ih =>
    have hsplit : Markup.escapeChars (c :: value) ++ '"' :: rest =
        Markup.escapeChar c ++ (Markup.escapeChars value ++ '"' :: rest) := by
      rw [Markup.escapeChars, List.flatMap_cons, List.append_assoc]
      rfl
    obtain ⟨first, more, hfirst, hquote, -⟩ := exists_escapeChar_eq c
    rw [hsplit, readValue?]
    · split
      · next read hread =>
        rw [readChar?_escapeChar] at hread
        cases hread
        simp only [ih, Option.map_some]
      · next hnone =>
        rw [readChar?_escapeChar] at hnone
        cases hnone
    · intro rest' heq
      rw [hfirst] at heq
      exact hquote (List.cons.inj heq).1

theorem takeWhile_name {name : String} (h : IsName name) {rest : List Char}
    (hrest : ∀ c ∈ rest.head?, isNameChar c = false) :
    (name.toList ++ rest).takeWhile isNameChar = name.toList ∧
      (name.toList ++ rest).dropWhile isNameChar = rest := by
  rw [List.takeWhile_append_of_pos h.2, List.dropWhile_append_of_pos h.2]
  cases rest with
  | nil => exact ⟨List.append_nil _, rfl⟩
  | cons c rest =>
    have hc : ¬ isNameChar c = true := Bool.not_eq_true _ ▸ hrest c rfl
    rw [List.takeWhile_cons_of_neg hc, List.dropWhile_cons_of_neg hc]
    exact ⟨List.append_nil _, rfl⟩

theorem readName?_append {name : String} (h : IsName name) {rest : List Char}
    (hrest : ∀ c ∈ rest.head?, isNameChar c = false) :
    readName? (name.toList ++ rest) = some (name, rest) := by
  obtain ⟨htake, hdrop⟩ := takeWhile_name h hrest
  unfold readName?
  rw [htake, hdrop]
  split
  · next hnil => exact absurd (String.toList_eq_nil_iff.mp hnil) h.1
  · rw [String.ofList_toList]

theorem readAttribute?_write {a : Attribute} (h : IsName a.name) {rest : List Char}
    (hrest : ∀ c ∈ rest.head?, c = ' ' ∨ c = '>') :
    ∃ more, a.write ++ rest = ' ' :: more ∧ readAttribute? more = some (a, rest) := by
  have hend : ∀ c ∈ rest.head?, isNameChar c = false := by
    intro c hc
    rcases hrest c hc with rfl | rfl <;> decide
  obtain ⟨name, value⟩ := a
  unfold Attribute.write
  cases value with
  | some value =>
    refine ⟨name.toList ++ ('=' :: '"' :: (Markup.escapeChars value.toList ++ '"' :: rest)),
      by simp, ?_⟩
    unfold readAttribute?
    rw [readName?_append h (by simp; decide), Option.bind_eq_bind, Option.bind_some]
    simp only [readValue?_escapeChars, Option.bind_eq_bind, Option.bind_some,
      String.ofList_toList]
    rfl
  | none =>
    refine ⟨name.toList ++ rest, by simp, ?_⟩
    unfold readAttribute?
    rw [readName?_append h hend, Option.bind_eq_bind, Option.bind_some]
    split
    · next heq =>
      dsimp only at heq
      rw [heq] at hrest
      rcases hrest '=' rfl with h | h <;> cases h
    · rfl

theorem readAttributes?_write {attributes : List Attribute} (h : ∀ a ∈ attributes, IsName a.name)
    (rest : List Char) :
    readAttributes? (attributes.flatMap Attribute.write ++ '>' :: rest) =
      some (attributes, rest) := by
  induction attributes with
  | nil => rw [List.flatMap_nil, List.nil_append, readAttributes?]
  | cons a attributes ih =>
    obtain ⟨ha, hmore⟩ := List.forall_mem_cons.mp h
    have hhead : ∀ c ∈ (attributes.flatMap Attribute.write ++ '>' :: rest).head?,
        c = ' ' ∨ c = '>' := by
      cases attributes with
      | nil => simp
      | cons b attributes => simp [Attribute.write]
    obtain ⟨text, htext, hread⟩ := readAttribute?_write ha hhead
    rw [List.flatMap_cons, List.append_assoc, htext, readAttributes?]
    split
    · next read hread' =>
      rw [hread] at hread'
      cases hread'
      simp only [ih hmore, Option.map_some]
    · next hnone =>
      rw [hread] at hnone
      cases hnone

theorem readToken?_write {t : Token} (h : t.Named) (rest : List Char) :
    readToken? (t.write ++ rest) = some (t, rest) := by
  cases t with
  | char c =>
    obtain ⟨first, more, hfirst, -, hangle⟩ := exists_escapeChar_eq c
    have hread := readChar?_escapeChar c rest
    change readToken? (Markup.escapeChar c ++ rest) = _
    unfold readToken?
    rw [hfirst] at hread ⊢
    split
    · next heq => exact absurd (List.cons.inj heq).1 hangle
    · next heq => exact absurd (List.cons.inj heq).1 hangle
    · rw [hread]
      rfl
  | opening element attributes =>
    obtain ⟨helement, hattributes⟩ := h
    have hend : ∀ c ∈ (attributes.flatMap Attribute.write ++ '>' :: rest).head?,
        isNameChar c = false := by
      cases attributes with
      | nil => simp; decide
      | cons a attributes => simp [Attribute.write]; decide
    have hsplit : Token.write (.opening element attributes) ++ rest =
        '<' :: (element.toList ++ (attributes.flatMap Attribute.write ++ '>' :: rest)) := by
      simp [Token.write]
    obtain ⟨first, more, hfirst⟩ := List.exists_cons_of_ne_nil fun hnil ↦
      helement.1 (String.toList_eq_nil_iff.mp hnil)
    have hslash : first ≠ '/' := by
      rintro rfl
      exact absurd (helement.2 '/' (hfirst ▸ List.mem_cons_self)) (by decide)
    rw [hsplit]
    unfold readToken?
    split
    · next heq =>
      rw [hfirst] at heq
      exact absurd (List.cons.inj (List.cons.inj heq).2).1 hslash
    · next heq =>
      cases heq
      rw [readName?_append helement hend, Option.bind_eq_bind, Option.bind_some]
      dsimp only
      rw [readAttributes?_write hattributes, Option.bind_eq_bind, Option.bind_some]
      rfl
    · next hnot => exact absurd rfl (hnot _)
  | closing element =>
    have hsplit : Token.write (.closing element) ++ rest =
        '<' :: '/' :: (element.toList ++ '>' :: rest) := by
      simp [Token.write]
    rw [hsplit, readToken?, readName?_append h (by simp; decide), Option.bind_eq_bind,
      Option.bind_some]
    rfl

theorem write_ne_nil (t : Token) : t.write ≠ [] := by
  cases t with
  | char c =>
    obtain ⟨first, more, hfirst, -⟩ := exists_escapeChar_eq c
    rw [Token.write, hfirst]
    exact List.cons_ne_nil _ _
  | opening => simp [Token.write]
  | closing => simp [Token.write]

/-- Tokens are read as they were written. -/
theorem tokens?_write {ts : List Token} (h : ∀ t ∈ ts, t.Named) : tokens? (write ts) = some ts := by
  induction ts with
  | nil => rw [write, List.flatMap_nil, tokens?, if_pos rfl]
  | cons t ts ih =>
    obtain ⟨ht, hts⟩ := List.forall_mem_cons.mp h
    have hread := readToken?_write ht (write ts)
    have hne : t.write ++ write ts ≠ [] := by
      simp [write_ne_nil]
    have hwrite : write (t :: ts) = t.write ++ write ts := List.flatMap_cons ..
    rw [hwrite, tokens?, if_neg hne]
    split
    · next read hread' =>
      rw [hread] at hread'
      cases hread'
      rw [ih hts, Option.map_some]
    · next hnone =>
      rw [hread] at hnone
      cases hnone

/-! ## Nesting -/

/-- Elements that have no closing tag. -/
def voidElements : List String :=
  ["area", "base", "br", "col", "embed", "hr", "img", "input", "link", "meta", "source", "track",
    "wbr"]

/-- A tag without what its attributes say. -/
inductive Mark where
  | opening (element : String) (attributes : List String)
  | closing (element : String)
deriving DecidableEq, Repr

def Token.mark? : Token → Option Mark
  | .char _ => none
  | .opening element attributes => some (.opening element (attributes.map (·.name)))
  | .closing element => some (.closing element)

def outline (ts : List Token) : List Mark :=
  ts.filterMap Token.mark?

def Token.char? : Token → Option Char
  | .char c => some c
  | .opening _ _ => none
  | .closing _ => none

/-- What is left of tokens without the tags. -/
def text (ts : List Token) : List Char :=
  ts.filterMap Token.char?

theorem text_append (ts ts' : List Token) : text (ts ++ ts') = text ts ++ text ts' :=
  List.filterMap_append

theorem text_chars (s : String) : text (chars s) = s.toList := by
  rw [text, chars, List.filterMap_map]
  exact List.filterMap_some

/-- Whether tags are well nested inside open elements, the innermost of which comes first. -/
def nested : List String → List Mark → Bool
  | stack, [] => stack.isEmpty
  | stack, .opening element _ :: ms =>
    if element ∈ voidElements then nested stack ms else nested (element :: stack) ms
  | [], .closing _ :: _ => false
  | top :: stack, .closing element :: ms => element == top && nested stack ms

/-- Tags that leave all elements as they are. -/
def Balanced (ms : List Mark) : Prop :=
  ∀ stack rest, nested stack (ms ++ rest) = nested stack rest

namespace Balanced

theorem nil : Balanced [] := fun _ _ ↦ rfl

theorem append {ms ms' : List Mark} (h : Balanced ms) (h' : Balanced ms') :
    Balanced (ms ++ ms') := by
  intro stack rest
  rw [List.append_assoc, h, h']

theorem void {element : String} (h : element ∈ voidElements) (attributes : List String) :
    Balanced [.opening element attributes] := by
  intro stack rest
  rw [List.singleton_append, nested, if_pos h]

/-- An element with something balanced in it. -/
theorem element {element : String} (h : element ∉ voidElements) (attributes : List String)
    {ms : List Mark} (inner : Balanced ms) :
    Balanced (.opening element attributes :: (ms ++ [.closing element])) := by
  intro stack rest
  rw [List.cons_append, List.append_assoc, nested, if_neg h, inner, List.singleton_append, nested]
  simp

theorem nested {ms : List Mark} (h : Balanced ms) : nested [] ms = true := by
  have hnested := h [] []
  rwa [List.append_nil] at hnested

end Balanced

end StyleGuide.Html
