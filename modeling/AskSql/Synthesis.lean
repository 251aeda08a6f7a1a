import AskSql.Answer
import AskSql.Database
import AskSql.LanguageModel
import AskSql.Prompt.Standard
import AskSql.Text.Blank

/-!
Phrasing an answer from texts that have been found.

* `ResponseMode`: whether a model phrases the answer or only the sources are given back.
* `Synthesizer`: a way to make an answer of sources.
* `Synthesizer.compact`: all sources in one prompt, one call of the model; a failure of the model is
  told as a failure of the synthesis, any other one stays what it is.
* `Synthesizer.noText`: the sources without words.
-/

namespace AskSql

variable {σ : Type}

/-- Who phrases the answer. -/
inductive ResponseMode where
  /-- A model, from all sources in one prompt. -/
  | compact
  /-- Nobody: the sources are given back. -/
  | noText
deriving DecidableEq, Repr

/-- A way to make an answer of the sources for a question. -/
structure Synthesizer (σ : Type) where
  synthesize : CallMode → String → List SourceNode → Session σ Answer

/-- A failure of the model is told as a failure of the synthesis. -/
def Failure.inSynthesis : Failure → Failure
  | .llm fault => .synthesis fault
  | failure => failure

namespace Synthesizer

/-- The answer that a completion makes of the sources. -/
def answerOf (completion : String) (sources : List SourceNode) : Answer :=
  { text := some (String.ofList (Text.trim completion.toList)), sources := sources }

/-- Asks the model once, with all sources as the context. -/
def compactBlocking (model : LanguageModel σ) (prompt : Prompt) (question : String)
    (sources : List SourceNode) : Session σ Answer := do
  let completion ← (model.predict .blocking prompt
    [("query_str", question), ("context_str", joinBlocks (sources.map (·.text)))]).mapFailure
      Failure.inSynthesis
  return answerOf completion sources

/-- Asks the model once and asynchronously, with all sources as the context. -/
def compactAsync (model : LanguageModel σ) (prompt : Prompt) (question : String)
    (sources : List SourceNode) : Session σ Answer := do
  let completion ← (model.predict .async prompt
    [("query_str", question), ("context_str", joinBlocks (sources.map (·.text)))]).mapFailure
      Failure.inSynthesis
  return answerOf completion sources

/-- Has the model make the answer of the sources. -/
def compact (model : LanguageModel σ) (prompt : Prompt) : Synthesizer σ where
  synthesize
    | .blocking => compactBlocking model prompt
    | .async => compactAsync model prompt

/-- The sources without words. -/
def withoutWords (_question : String) (sources : List SourceNode) : Session σ Answer :=
  return { sources := sources }

/-- Gives the sources back. -/
def noText : Synthesizer σ where
  synthesize
    | .blocking => withoutWords
    | .async => withoutWords

/-- The synthesizer of a mode. -/
def ofMode (mode : ResponseMode) (model : LanguageModel σ) (prompt : Prompt) : Synthesizer σ :=
  match mode with
  | .compact => compact model prompt
  | .noText => noText

end Synthesizer

end AskSql
