import AskSql.Failure

/-!
Settings of the clients that reach models over the network.

* `ClientSettings`: the key, the address and the models.
* `ClientSettings.ofEnvironment`: settings from environment variables; a key that is given wins.
* `ClientSettings.offline`: settings under which nothing is sent and replies are made up.
-/

namespace AskSql

/-- The key, the address and the models. -/
structure ClientSettings where
  apiKey : String
  model : String
  baseUrl : String
  embeddingModel : String
deriving DecidableEq, Repr

namespace ClientSettings

/-- The model that completes prompts unless another one is named. -/
def defaultModel : String := "gpt-4o-mini"

/-- The address of the service unless another one is given. -/
def defaultBaseUrl : String := "https://api.openai.com/v1"

/-- The model that makes vectors unless another one is named. -/
def defaultEmbeddingModel : String := "text-embedding-3-small"

/-- The key under which nothing is sent and replies are made up. -/
def offlineKey : String := "dummy-api-key"

/-- The environment variables that settings come from. -/
def variableNames : List String :=
  ["OPENAI_API_KEY", "OPENAI_MODEL", "OPENAI_BASE_URL", "OPENAI_EMBEDDING_MODEL"]

/-- Settings from environment variables; only the key has to be there. -/
def ofEnvironment (lookup : String → Option String) (apiKey : Option String) :
    Except Failure ClientSettings :=
  match apiKey.orElse fun _ => lookup "OPENAI_API_KEY" with
  | none => .error (.configuration .keyNotSet)
  | some key =>
      .ok {
        apiKey := key
        model := (lookup "OPENAI_MODEL").getD defaultModel
        baseUrl := (lookup "OPENAI_BASE_URL").getD defaultBaseUrl
        embeddingModel := (lookup "OPENAI_EMBEDDING_MODEL").getD defaultEmbeddingModel }

/-- Settings under which nothing is sent. -/
def offline : ClientSettings :=
  ⟨offlineKey, defaultModel, defaultBaseUrl, defaultEmbeddingModel⟩

end ClientSettings

end AskSql
