import StyleGuide.Text.Letter
import StyleGuide.Text.Markup

/-!
# Code blocks

A code block is shown as escaped source unless a processor answers for its language. Processors are
asked in order with the language and the source, and may remember what they have seen; the first
answer replaces the block. `Processor.example` shows a block live and as source.
-/

namespace StyleGuide.Render

open Text

def fenceLanguage (info : String) : Option String :=
  match (trimStart info.toList).takeWhile (fun c ↦ !isBlank c) with
  | [] => none
  | word => some (String.ofList word)

def sourceBlock (language source : String) : String :=
  "<pre class=\"livingstyleguide--code-block\"><code class=\"livingstyleguide--code language-" ++
    Markup.escape language ++ "\">" ++ Markup.escape source ++ "</code></pre>\n"

/-- Answers with markup for some code blocks. `S` is what all processors of a renderer remember
together. -/
structure Processor (S : Type) where
  process : (language source : String) → S → Option String × S

def firstAnswer {S : Type} (language source : String) :
    List (Processor S) → S → Option String × S
  | [], s => (none, s)
  | p :: ps, s =>
    match p.process language source s with
    | (some html, s') => (some html, s')
    | (none, s') => firstAnswer language source ps s'

def exampleLanguage : String := "example"

def withLineEnd (source : String) : String :=
  if source.toList.getLast? = some '\n' then source else source ++ "\n"

def exampleBlock (source : String) : String :=
  "<div class=\"livingstyleguide--example\">\n" ++ withLineEnd source ++ "</div>\n" ++
    sourceBlock "html" source

def exampleAnswer (language source : String) : Option String :=
  if language = exampleLanguage then some (exampleBlock source) else none

def Processor.example {S : Type} : Processor S :=
  ⟨fun language source s ↦ (exampleAnswer language source, s)⟩

def Processor.between {S : Type} (language before after : String) : Processor S :=
  ⟨fun l source s ↦ (if l = language then some (before ++ source ++ after) else none, s)⟩

end StyleGuide.Render
