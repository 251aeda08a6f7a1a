import AskSql.Prompt.Template
import AskSql.Session

/-!
Prompts: templates with a purpose and with variables that are bound in advance.

* `Prompt.variableNames`: every variable of the template, bound or not, in ascending order.
* `Prompt.bind`: binds variables in advance; a later binding wins.
* `Prompt.render`: the text of the prompt. What the caller binds wins over what was bound in
  advance, bindings of other names are ignored, and a variable without a binding is a failure
  that names the first such variable in ascending order.
* `Prompt.checkSynthesis`: whether a prompt may phrase answers.
-/

namespace AskSql

/-- What a prompt is for. -/
inductive PromptKind where
  | textToSql
  | sqlSynthesis
  | sqlSynthesisV2
  | questionAnswer
  | custom
deriving DecidableEq, Repr

/-- Values for variables by name; a later binding of a name wins. -/
abbrev Bindings := List (String × String)

/-- A template with a purpose and with variables that are bound in advance. -/
structure Prompt where
  template : String
  kind : PromptKind := .custom
  bound : Dictionary String := .empty

namespace Prompt

/-- The template as a list of tokens. -/
def tokens (p : Prompt) : List Template.Token := Template.scan p.template.toList

/-- The keys of a dictionary in ascending order. -/
def keys {α : Type} (d : Dictionary α) : List String := d.entries.map (·.1)

/-- Every variable of the template, each once, in ascending order. -/
def variableNames (p : Prompt) : List String :=
  keys (Dictionary.ofList ((Template.variableNames p.tokens).map fun name => (name, ())))

/-- The prompt with more variables bound in advance. -/
def bind (p : Prompt) (bindings : Bindings) : Prompt :=
  { p with bound := p.bound.insertAll bindings }

/-- The values for a call: what was bound in advance, then what the call binds. -/
def values (p : Prompt) (bindings : Bindings) : Dictionary String := p.bound.insertAll bindings

/-- The text of the prompt. -/
def render (p : Prompt) (bindings : Bindings) : Except Failure String :=
  let values := p.values bindings
  match p.variableNames.find? fun name => !values.contains name with
  | some name => .error (.configuration (.unboundVariable name))
  | none =>
      .ok (String.ofList (Template.fill (fun name => ((values.get? name).getD "").toList) p.tokens))

/-- The variables of a synthesis prompt in ascending order. -/
def synthesisVariables : List String := ["context_str", "query_str", "sql_query"]

/-- Refuses a prompt that cannot phrase answers: its variables are the question, the statement
and the result, no more and no less. -/
def checkSynthesis (p : Prompt) : Except Failure Unit :=
  if p.variableNames = synthesisVariables then .ok ()
  else .error (.configuration (.synthesisVariables p.variableNames))

end Prompt

end AskSql
