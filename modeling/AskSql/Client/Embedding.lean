import AskSql.Embedding
import AskSql.Http.Exchange
import AskSql.Settings.Client

/-!
An embedding model behind a service.

* `EmbeddingClient`: whom to ask and with which key.
* `EmbeddingClient.vector`: the vector in a reply; its items that are no numbers are left out.
* `EmbeddingClient.model`: the client as an embedding model. Documents are embedded like questions,
  through the blocking entry point.
-/

namespace AskSql

variable {σ : Type}

/-- Whom to ask and with which key. -/
structure EmbeddingClient where
  apiKey : String
  baseUrl : String
  modelName : String

namespace EmbeddingClient

/-- The client of some settings. -/
def ofSettings (settings : ClientSettings) : EmbeddingClient where
  apiKey := settings.apiKey
  baseUrl := settings.baseUrl
  modelName := settings.embeddingModel

/-- Whether the client sends nothing. -/
def isOffline (client : EmbeddingClient) : Bool := client.apiKey == ClientSettings.offlineKey

/-- The made-up vector of a client that sends nothing. -/
def offlineVector : Embedding := List.replicate 1536 0.1

/-- The text as the service expects it. -/
def requestBody (client : EmbeddingClient) (text : String) : Json :=
  .ofDictionary (.ofList [("model", .text client.modelName), ("input", .text text)])

/-- How failures of an exchange are told. -/
def faults : Http.Faults where
  callFailed reason := .embedding (.callFailed reason)
  badStatus code body := .embedding (.badStatus code body)
  unreadable reason := .embedding (.unreadable reason)

/-- The vector of the first item in a reply. -/
def vector (reply : Json) : Except Failure Embedding :=
  match (reply.member? "data").bind Json.items? with
  | some (item :: _) =>
      match (item.member? "embedding").bind Json.items? with
      | some numbers => .ok (numbers.filterMap fun x => x.number?.map Float.toFloat32)
      | none => .error (.embedding .noVector)
  | _ => .error (.embedding .noData)

/-- The request for the vector of a text. -/
def request (client : EmbeddingClient) (text : String) : Http.Request where
  url := client.baseUrl ++ "/embeddings"
  authorization := "Bearer " ++ client.apiKey
  body := client.requestBody text

/-- The vector of a text. -/
def embedBlocking (client : EmbeddingClient) (transport : Http.Transport σ) (text : String) :
    Session σ Embedding :=
  if client.isOffline then return offlineVector
  else do
    let reply ← Http.exchange transport .blocking (client.request text) faults
    Session.ofExcept (vector reply)

/-- The vector of a text, asked for asynchronously. -/
def embedAsync (client : EmbeddingClient) (transport : Http.Transport σ) (text : String) :
    Session σ Embedding :=
  if client.isOffline then return offlineVector
  else do
    let reply ← Http.exchange transport .async (client.request text) faults
    Session.ofExcept (vector reply)

/-- The vector of a text, by mode. -/
def embed (client : EmbeddingClient) (transport : Http.Transport σ) :
    CallMode → String → Session σ Embedding
  | .blocking => client.embedBlocking transport
  | .async => client.embedAsync transport

/-- The client as an embedding model. -/
def model (client : EmbeddingClient) (transport : Http.Transport σ) : EmbeddingModel σ where
  ofQuestion := client.embed transport
  ofDocument := client.embedBlocking transport

end EmbeddingClient

end AskSql
