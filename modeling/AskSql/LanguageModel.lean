import AskSql.Prompt

/-!
Language models.

* `LanguageModel`: a collaborator that completes prompts.
* `LanguageModel.ofCompletion`: a model that is given the text of a prompt. A prompt that cannot be
  rendered never reaches it.
-/

namespace AskSql

/-- A collaborator that completes prompts. -/
structure LanguageModel (σ : Type) where
  /-- The completion of a prompt with values for its variables. -/
  predict : CallMode → Prompt → Bindings → Session σ String

/-- The model that completes the text of a prompt. -/
def LanguageModel.ofCompletion {σ : Type} (complete : CallMode → String → Session σ String) :
    LanguageModel σ where
  predict
    | .blocking, prompt, bindings => do
        let text ← Session.ofExcept (prompt.render bindings)
        complete .blocking text
    | .async, prompt, bindings => do
        let text ← Session.ofExcept (prompt.render bindings)
        complete .async text

end AskSql
