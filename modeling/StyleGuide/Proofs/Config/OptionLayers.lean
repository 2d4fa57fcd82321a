import Mathlib.Data.List.Induction
import StyleGuide.Proofs.Config.Layers

/-!
# Layers of options

Layers of options make a monoid: it does not matter which of them are combined first, and the layer
that gives nothing changes nothing. An option has the value of the last layer that gives it, or its
default; no other layer and no other option takes part. What is given may well be an empty text or an
empty list.
-/

namespace StyleGuide

/-- A layer gives an option a value, and no layer behind it gives the option any. -/
def GivenLast (layers : List Overrides) (name : OptionName) (v : OptionValue) : Prop :=
  ∃ before layer behind, layers = before ++ layer :: behind ∧ layer.given name = some v ∧
    ∀ later ∈ behind, later.given name = none

namespace Overrides

variable {layers : List Overrides} {name : OptionName} {v : OptionValue}

/-! ## Layers by what they give -/

/-- Layers are known by what they give. -/
theorem eq_of_given {a b : Overrides} (h : ∀ name, a.given name = b.given name) : a = b := by
  have htext {s s' : Option String} (heq : s.map OptionValue.text = s'.map .text) : s = s' :=
    Option.map_injective (fun _ _ heq ↦ OptionValue.text.inj heq) heq
  have hscripts {files files' : Option (List String)}
      (heq : files.map OptionValue.scripts = files'.map .scripts) : files = files' :=
    Option.map_injective (fun _ _ heq ↦ OptionValue.scripts.inj heq) heq
  obtain ⟨⟩ := a
  obtain ⟨⟩ := b
  congr
  · exact htext (h .defaultLanguage)
  · exact htext (h .title)
  · exact htext (h .header)
  · exact htext (h .footer)
  · exact htext (h .root)
  · exact hscripts (h .javascriptBefore)
  · exact hscripts (h .javascriptAfter)

theorem given_empty (name : OptionName) : empty.given name = none := by
  cases name <;> rfl

/-! ## The monoid -/

theorem overlaidBy_assoc (a b c : Overrides) :
    (a.overlaidBy b).overlaidBy c = a.overlaidBy (b.overlaidBy c) := by
  apply eq_of_given
  intro name
  simp only [given_overlaidBy]
  cases c.given name <;> rfl

theorem empty_overlaidBy (a : Overrides) : empty.overlaidBy a = a := by
  apply eq_of_given
  intro name
  rw [given_overlaidBy, given_empty]
  cases a.given name <;> rfl

theorem overlaidBy_empty (a : Overrides) : a.overlaidBy empty = a := by
  apply eq_of_given
  intro name
  rw [given_overlaidBy, given_empty]
  rfl

/-! ## The last giver -/

theorem combine_concat (layers : List Overrides) (layer : Overrides) :
    combine (layers ++ [layer]) = (combine layers).overlaidBy layer :=
  List.foldl_concat ..

theorem given_combine (layers : List Overrides) (name : OptionName) :
    (combine layers).given name = layers.reverse.findSome? (·.given name) := by
  induction layers using List.reverseRecOn with
  | nil => exact given_empty name
  | append_singleton layers layer ih =>
    rw [combine_concat, given_overlaidBy, ih, List.reverse_concat, List.findSome?_cons]
    cases layer.given name <;> rfl

theorem given_combine_eq_some_iff :
    (combine layers).given name = some v ↔ GivenLast layers name v := by
  rw [given_combine, List.findSome?_eq_some_iff]
  constructor
  · rintro ⟨behind, layer, before, hlayers, hgiven, hnone⟩
    refine ⟨before.reverse, layer, behind.reverse, ?_, hgiven, fun later hlater ↦ ?_⟩
    · rw [List.reverse_eq_iff.mp hlayers]
      simp
    · exact hnone later (List.mem_reverse.mp hlater)
  · rintro ⟨before, layer, behind, rfl, hgiven, hnone⟩
    refine ⟨behind.reverse, layer, before.reverse, by simp, hgiven, fun later hlater ↦ ?_⟩
    exact hnone later (List.mem_reverse.mp hlater)

theorem given_combine_eq_none_iff :
    (combine layers).given name = none ↔ ∀ layer ∈ layers, layer.given name = none := by
  rw [given_combine, List.findSome?_eq_none_iff]
  simp only [List.mem_reverse]

/-- Layers of options make a monoid, and of any number of layers over the defaults each option has
the value that it is given last, or its default if it is given none. -/
theorem layers_monoid_lastGiven :
    (∀ a b c : Overrides, (a.overlaidBy b).overlaidBy c = a.overlaidBy (b.overlaidBy c)) ∧
    (∀ a : Overrides, empty.overlaidBy a = a ∧ a.overlaidBy empty = a) ∧
    ∀ (layers : List Overrides) (name : OptionName) (v : OptionValue),
      (Options.merged (combine layers)).value name = some v ↔
        GivenLast layers name v ∨
          (∀ layer ∈ layers, layer.given name = none) ∧ Options.default.value name = some v := by
  refine ⟨overlaidBy_assoc, fun a ↦ ⟨empty_overlaidBy a, overlaidBy_empty a⟩, ?_⟩
  intro layers name v
  rw [Options.value_merged, ← given_combine_eq_some_iff, ← given_combine_eq_none_iff]
  cases (combine layers).given name <;> simp

/-- An empty text and an empty list are given like any others. -/
example : Options.merged (combine
      [{ empty with title := some "T", javascriptAfter := some ["a.js"] },
        { empty with title := some "", javascriptAfter := some [] }, { empty with root := some "/g/" }]) =
    { Options.default with title := "", javascriptAfter := some [], root := "/g/" } :=
  rfl

end Overrides

end StyleGuide
