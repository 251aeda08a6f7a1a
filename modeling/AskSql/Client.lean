import AskSql.Client.Chat
import AskSql.Client.Embedding
import AskSql.Engine.Table

/-!
The models of an engine behind a service.

* `Models.ofSettings`: a chat client and an embedding client with the same settings.
-/

namespace AskSql

/-- The models that some settings describe. -/
def Models.ofSettings {σ : Type} (settings : ClientSettings) (transport : Http.Transport σ) :
    Models σ where
  llm := (ChatClient.ofSettings settings).model transport
  embedding := (EmbeddingClient.ofSettings settings).model transport

end AskSql
