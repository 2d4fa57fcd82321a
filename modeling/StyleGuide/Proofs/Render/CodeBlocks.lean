import StyleGuide.Proofs.Render.Documents
import StyleGuide.Proofs.Render.Emitting

/-!
# Blocks of code

A block of code leaves one block on a page and nothing else in a renderer. The processors are asked
for it in order, and the answer of the first one that answers is on the page as it is. If none of
them does, the source is there, and who reads it reads the source of the block. A block that is
shown live is followed by the same source.
-/

namespace StyleGuide.Render

open Text Html

variable {S : Type}

/-! ## Languages -/

def words (text : String) : List String :=
  ((text.toList.splitOnP isBlank).filter (!·.isEmpty)).map String.ofList

theorem head?_splitOnP (p : Char → Bool) (cs : List Char) :
    (cs.splitOnP p).head? = some (cs.takeWhile (!p ·)) := by
  induction cs with
  | nil => rfl
  | cons c cs ih =>
    rw [List.splitOnP_cons_eq_if_modifyHead]
    cases hc : p c with
    | true =>
      rw [List.takeWhile_cons_of_neg (by rw [hc]; decide)]
      rfl
    | false =>
      rw [if_neg Bool.false_ne_true, List.head?_modifyHead, ih,
        List.takeWhile_cons_of_pos (by rw [hc]; decide)]
      rfl

/-- A language is the first word. -/
theorem fenceLanguage_eq_head?_words (info : String) : fenceLanguage info = (words info).head? := by
  unfold fenceLanguage words trimStart
  induction info.toList with
  | nil => rfl
  | cons c cs ih =>
    cases hc : isBlank c with
    | true =>
      rw [List.dropWhile_cons_of_pos hc, List.splitOnP_cons_eq_if_modifyHead, if_pos hc]
      exact ih
    | false =>
      have hfirst := head?_splitOnP isBlank (c :: cs)
      rw [List.takeWhile_cons_of_pos (by rw [hc]; decide)] at hfirst
      obtain ⟨rest, hrest⟩ := List.head?_eq_some_iff.mp hfirst
      have hword : ¬ isBlank c = true := Bool.eq_false_iff.mp hc
      rw [List.dropWhile_cons_of_neg hword, List.takeWhile_cons_of_pos (by rw [hc]; decide), hrest]
      rfl

/-! ## Answers -/

/-- Processors that are asked one after another, and none of them answers. -/
inductive Declines (language source : String) : List (Processor S) → S → S → Prop
  | nil (memory : S) : Declines language source [] memory memory
  | cons {p : Processor S} {ps : List (Processor S)} {memory memory' memory'' : S}
      (declines : p.process language source memory = (none, memory'))
      (rest : Declines language source ps memory' memory'') :
      Declines language source (p :: ps) memory memory''

/-- What is shown of a block of code, and what the processors remember of it. Behind a processor
that answers no other one is asked. -/
inductive ShownAs (processors : List (Processor S)) (language source : String) (memory : S) :
    String → S → Prop
  | answer {asked others : List (Processor S)} {p : Processor S} {memory' memory'' : S}
      {html : String} (order : processors = asked ++ p :: others)
      (declines : Declines language source asked memory memory')
      (answers : p.process language source memory' = (some html, memory'')) :
      ShownAs processors language source memory html memory''
  | source {memory' : S} (declines : Declines language source processors memory memory') :
      ShownAs processors language source memory (sourceBlock language source) memory'

theorem Declines.firstAnswer_append {language source : String} {asked : List (Processor S)}
    {memory memory' : S} (h : Declines language source asked memory memory')
    (others : List (Processor S)) :
    firstAnswer language source (asked ++ others) memory =
      firstAnswer language source others memory' := by
  induction h with
  | nil memory => rfl
  | cons declines _ ih =>
    rw [List.cons_append, firstAnswer, declines]
    exact ih

theorem ShownAs.cons {p : Processor S} {ps : List (Processor S)} {language source html : String}
    {memory memory' memory'' : S}
    (declines : p.process language source memory = (none, memory'))
    (h : ShownAs ps language source memory' html memory'') :
    ShownAs (p :: ps) language source memory html memory'' := by
  cases h with
  | answer order rest answers =>
    exact .answer (congrArg (p :: ·) order) (.cons declines rest) answers
  | source rest => exact .source (.cons declines rest)

/-- The processors before the first one that answers have declined, or all of them have. -/
theorem shownAs_firstAnswer (processors : List (Processor S)) (language source : String)
    (memory : S) :
    ShownAs processors language source memory
      ((firstAnswer language source processors memory).1.getD (sourceBlock language source))
      (firstAnswer language source processors memory).2 := by
  induction processors generalizing memory with
  | nil => exact .source (.nil memory)
  | cons p ps ih =>
    rcases hanswer : p.process language source memory with ⟨_ | html, memory'⟩
    · have hrest : firstAnswer language source (p :: ps) memory =
          firstAnswer language source ps memory' := by
        rw [firstAnswer, hanswer]
      rw [hrest]
      exact (ih memory').cons hanswer
    · rw [firstAnswer, hanswer]
      exact .answer (List.nil_append _).symm (.nil memory) hanswer

theorem shownAs_iff {processors : List (Processor S)} {language source html : String}
    {memory memory' : S} :
    ShownAs processors language source memory html memory' ↔
      html = (firstAnswer language source processors memory).1.getD (sourceBlock language source) ∧
        memory' = (firstAnswer language source processors memory).2 := by
  constructor
  · intro h
    cases h with
    | @answer asked others p memory₁ _ _ order declines answers =>
      rw [order, declines.firstAnswer_append, firstAnswer, answers]
      exact ⟨rfl, rfl⟩
    | source declines =>
      have hall := declines.firstAnswer_append []
      rw [List.append_nil] at hall
      rw [hall]
      exact ⟨rfl, rfl⟩
  · rintro ⟨rfl, rfl⟩
    exact shownAs_firstAnswer processors language source memory

/-- Among processors that have a language each, the first one for a language answers. -/
theorem firstAnswer_between (language source : String) (around : List (String × String × String))
    (memory : S) :
    firstAnswer language source (around.map fun t ↦ .between t.1 t.2.1 t.2.2) memory =
      ((around.find? (language = ·.1)).map fun t ↦ t.2.1 ++ source ++ t.2.2, memory) := by
  induction around with
  | nil => rfl
  | cons t around ih =>
    rw [List.map_cons, firstAnswer, Processor.between, List.find?_cons]
    by_cases h : language = t.1
    · simp [h]
    · simp [h, ih]

/-! ## Live blocks -/

/-- Text with a line end at its end, which is added only if there is none. -/
inductive LineEnded (source : String) : String → Prop
  | ended (h : source.toList.getLast? = some '\n') : LineEnded source source
  | added (h : source.toList.getLast? ≠ some '\n') : LineEnded source (source ++ "\n")

theorem lineEnded_withLineEnd (source : String) : LineEnded source (withLineEnd source) := by
  unfold withLineEnd
  split
  · next h => exact .ended h
  · next h => exact .added h

/-! ## Blocks -/

variable (settings : Settings S)

theorem run_codeBlock (st : State S) (info : Option String) (texts : List String) :
    st.run settings (around (.codeBlock info) (texts.map .text)) =
      let answer := firstAnswer ((info.bind fenceLanguage).getD settings.defaultLanguage)
        (String.join texts) settings.processors st.memory
      { st with
        output := st.output ++ answer.1.getD
          (sourceBlock ((info.bind fenceLanguage).getD settings.defaultLanguage)
            (String.join texts))
        code := State.noCode
        memory := answer.2 } := by
  rw [run_around, run_texts settings rfl]
  change State.endCode settings
    { st with code := ⟨true, info.bind fenceLanguage, "" ++ String.join texts⟩ } = _
  rw [String.empty_append]
  rfl

/-- Whatever has been rendered before, a block of code adds to the page what is shown of its source
in its language, which is the first word of its info text, or else the default language. Nothing
else changes but what the processors remember. Where source is shown as source it is read as it is,
also below a block that is shown live, in which it stands as it is with a line end. -/
theorem codeBlock_shownAs (st : State S) (info : Option String) (texts : List String) :
    let language := (info.bind fun text ↦ (words text).head?).getD settings.defaultLanguage
    let source := String.join texts
    (∃ html memory,
      (∀ html' memory', ShownAs settings.processors language source st.memory html' memory' ↔
        html' = html ∧ memory' = memory) ∧
      st.run settings (around (.codeBlock info) (texts.map .text)) =
        { st with output := st.output ++ html, code := State.noCode, memory := memory }) ∧
    tokens? (sourceBlock language source).toList = some (codeTokens language source) ∧
    ∀ memory : S, ∃ live block, LineEnded source live ∧
      tokens? block.toList = some (codeTokens "html" source) ∧
      Processor.example.process exampleLanguage source memory =
        (some ("<div class=\"livingstyleguide--example\">\n" ++ live ++ "</div>\n" ++ block),
          memory) := by
  intro language source
  refine ⟨?_, (spelled_sourceBlock language source).tokens?_eq, fun memory ↦ ?_⟩
  · have hlanguage : (info.bind fenceLanguage).getD settings.defaultLanguage = language := by
      rw [funext fenceLanguage_eq_head?_words]
    have hrun := run_codeBlock settings st info texts
    rw [hlanguage] at hrun
    exact ⟨_, _, fun html' memory' ↦ shownAs_iff, hrun⟩
  · exact ⟨withLineEnd source, sourceBlock "html" source, lineEnded_withLineEnd source,
      (spelled_sourceBlock "html" source).tokens?_eq, rfl⟩

end StyleGuide.Render
