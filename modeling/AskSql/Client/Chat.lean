import AskSql.Http.Exchange
import AskSql.LanguageModel
import AskSql.Settings.Client
import AskSql.Text.Blank
import AskSql.Text.Search

/-!
A language model behind a chat service.

* `ChatClient`: whom to ask, with which key and how.
* `ChatClient.requestBody`: the question as the service expects it.
* `ChatClient.content`: the words of the first choice in a reply, if the reply is an answer.
* `ChatClient.offlineCompletion`: the made-up completion of a client that sends nothing. A prompt
  that ends with the cue for a statement gets one, any other prompt gets a fixed text.
* `ChatClient.model`: the client as a language model.
-/

namespace AskSql

variable {σ : Type}

/-- Whom to ask, with which key and how. -/
structure ChatClient where
  apiKey : String
  modelName : String
  baseUrl : String
  temperature : Float32 := 0.1

namespace ChatClient

/-- The client of some settings. -/
def ofSettings (settings : ClientSettings) : ChatClient where
  apiKey := settings.apiKey
  modelName := settings.model
  baseUrl := settings.baseUrl

/-- Whether the client sends nothing. -/
def isOffline (client : ChatClient) : Bool := client.apiKey == ClientSettings.offlineKey

/-- The cue for a statement at the end of a prompt. -/
def cue : List Char := "SQLQuery:".toList

/-- The made-up completion of a client that sends nothing. -/
def offlineCompletion (prompt : String) : String :=
  if cue.isSuffixOf (Text.trimEnd Text.isBlank prompt.toList) then
    "SQLQuery: SELECT 1\nSQLResult: [(1,)]\nAnswer: 1"
  else "Dummy response"

/-- The limit on the length of a reply, under the name that the model knows. Models that think
before they answer get more room. -/
def lengthLimit (modelName : String) : String × Json :=
  let name := modelName.toList
  if "gpt-5".toList.isPrefixOf name || Text.occursIn "o1".toList name then
    ("max_completion_tokens", .integer 2000)
  else if "gpt-4".toList.isPrefixOf name then ("max_completion_tokens", .integer 1000)
  else ("max_tokens", .integer 1000)

/-- A number of 32 bits as JSON; one that is not finite is null. -/
def numberJson (x : Float32) : Json := if x.isNaN || x.isInf then .null else .real x.toFloat

/-- The prompt as the service expects it. -/
def requestBody (client : ChatClient) (prompt : String) : Json :=
  .ofDictionary (.ofList [
    ("model", .text client.modelName),
    ("messages", .array [.ofDictionary (.ofList
      [("role", .text "user"), ("content", .text prompt)])]),
    ("temperature", numberJson client.temperature),
    lengthLimit client.modelName])

/-- How failures of an exchange are told. -/
def faults : Http.Faults where
  callFailed reason := .llm (.callFailed reason)
  badStatus code body := .llm (.badStatus code body)
  unreadable reason := .llm (.unreadable reason)

/-- The words of a choice. -/
def choiceContent (choice : Json) : Option String :=
  ((choice.member? "message").bind (Json.member? "content")).bind Json.text?

/-- The words of the first choice in a reply. -/
def content (reply : Json) : Except Failure String :=
  match reply.member? "error" with
  | some error => .error (.llm (.errorReply error))
  | none =>
      match (reply.member? "choices").bind Json.items? with
      | none => .error (.llm (.noChoices reply))
      | some [] => .error (.llm (.emptyChoices reply))
      | some (choice :: _) =>
          if ((choice.member? "finish_reason").bind Json.text?) = some "content_filter" then
            .error (.llm .filtered)
          else
            match choiceContent choice with
            | none => .error (.llm (.noContent reply))
            | some words => if words = "" then .error (.llm (.emptyContent reply)) else .ok words

/-- The request for the completion of a prompt. -/
def request (client : ChatClient) (prompt : String) : Http.Request where
  url := client.baseUrl ++ "/chat/completions"
  authorization := "Bearer " ++ client.apiKey
  body := client.requestBody prompt

/-- The completion of a prompt. -/
def completeBlocking (client : ChatClient) (transport : Http.Transport σ) (prompt : String) :
    Session σ String :=
  if client.isOffline then return offlineCompletion prompt
  else do
    let reply ← Http.exchange transport .blocking (client.request prompt) faults
    Session.ofExcept (content reply)

/-- The completion of a prompt, asked for asynchronously. -/
def completeAsync (client : ChatClient) (transport : Http.Transport σ) (prompt : String) :
    Session σ String :=
  if client.isOffline then return offlineCompletion prompt
  else do
    let reply ← Http.exchange transport .async (client.request prompt) faults
    Session.ofExcept (content reply)

/-- The completion of a prompt, by mode. -/
def complete (client : ChatClient) (transport : Http.Transport σ) :
    CallMode → String → Session σ String
  | .blocking => client.completeBlocking transport
  | .async => client.completeAsync transport

/-- The client as a language model. -/
def model (client : ChatClient) (transport : Http.Transport σ) : LanguageModel σ :=
  .ofCompletion (client.complete transport)

end ChatClient

end AskSql
