import AskSql.Http.Status
import AskSql.Json.Printer

/-!
What can go wrong, by cause.

A failure belongs to one of seven areas. Within an area it is either one of the causes that this
library finds itself, or a text that a collaborator reports. `Failure.message` gives each failure
its wording.

* `ConfigurationFault`: how an engine is put together and what it is given.
* `DatabaseFault`: the database.
* `ModelFault`: the language model, both when it writes SQL and when it phrases an answer.
* `EmbeddingFault`: the embedding model, and vectors that do not fit together.
-/

namespace AskSql

/-- What is wrong with how an engine is put together or with what it is given. -/
inductive ConfigurationFault where
  | unboundVariable (name : String)
  | synthesisVariables (found : List String)
  | missingIncluded (table : String)
  | missingIgnored (table : String)
  | unknownTableType (value : Json)
  | noTableContext
  | keyNotSet
  | reported (text : String)

/-- What is wrong with the database or with what it is asked. -/
inductive DatabaseFault where
  | notOpened (reason : String)
  | notADatabase
  | tableNotFound (table : String)
  | reported (text : String)

/-- What is wrong with a language model or with its reply. -/
inductive ModelFault where
  | callFailed (reason : String)
  | badStatus (code : Nat) (body : String)
  | unreadable (reason : String)
  | errorReply (error : Json)
  | noChoices (reply : Json)
  | emptyChoices (reply : Json)
  | filtered
  | noContent (reply : Json)
  | emptyContent (reply : Json)
  | reported (text : String)

/-- What is wrong with an embedding model, with its reply or with a vector. -/
inductive EmbeddingFault where
  | callFailed (reason : String)
  | badStatus (code : Nat) (body : String)
  | unreadable (reason : String)
  | noData
  | noVector
  | wrongDimension (question store : Nat)
  | reported (text : String)

/-- A failure, by the area it belongs to. -/
inductive Failure where
  | configuration (fault : ConfigurationFault)
  | llm (fault : ModelFault)
  | database (fault : DatabaseFault)
  | synthesis (fault : ModelFault)
  | embedding (fault : EmbeddingFault)
  | io (reason : String)
  | json (reason : String)

/-- Texts with commas and blanks between them. -/
def commaList (parts : List String) : String := ", ".intercalate parts

/-- The variables of a synthesis prompt, in the order in which they are named. -/
def synthesisVariableNames : List String := ["query_str", "sql_query", "context_str"]

/-- The wording of a fault. -/
def ConfigurationFault.text : ConfigurationFault → String
  | unboundVariable name => "Missing value for template variable '" ++ name ++ "'"
  | synthesisVariables found =>
      "response_synthesis_prompt must have the following template variables: "
        ++ commaList synthesisVariableNames ++ " (found: " ++ commaList found ++ ")"
  | missingIncluded table => "include_tables " ++ table ++ " not found in database"
  | missingIgnored table => "ignore_tables " ++ table ++ " not found in database"
  | unknownTableType value => "Unknown table type: " ++ value.toText
  | noTableContext => "context_dict must be provided. There is currently no table context."
  | keyNotSet => "OPENAI_API_KEY is not set"
  | reported text => text

/-- The wording of a fault. -/
def DatabaseFault.text : DatabaseFault → String
  | notOpened reason => "Failed to open database: " ++ reason
  | notADatabase => "file is not a database"
  | tableNotFound table => "Table '" ++ table ++ "' not found"
  | reported text => text

/-- The wording of a fault. -/
def ModelFault.text : ModelFault → String
  | callFailed reason => "LLM API call failed: " ++ reason
  | badStatus code body => "LLM API error (" ++ Http.statusText code ++ "): " ++ body
  | unreadable reason => "Failed to parse LLM response: " ++ reason
  | errorReply error => "LLM API error: " ++ error.toText
  | noChoices reply => "No choices array in LLM response. Response: " ++ reply.toText
  | emptyChoices reply => "Empty choices array in LLM response. Response: " ++ reply.toText
  | filtered => "LLM response was filtered by content policy"
  | noContent reply => "No content in LLM response. Response: " ++ reply.toText
  | emptyContent reply => "Empty content in LLM response. Response: " ++ reply.toText
  | reported text => text

/-- The wording of a fault. -/
def EmbeddingFault.text : EmbeddingFault → String
  | callFailed reason => "Embedding API call failed: " ++ reason
  | badStatus code body => "Embedding API error (" ++ Http.statusText code ++ "): " ++ body
  | unreadable reason => "Failed to parse embedding response: " ++ reason
  | noData => "No embedding data in response"
  | noVector => "No embedding vector in response"
  | wrongDimension question store =>
      "Query embedding dimension " ++ toString question ++ " doesn't match store dimension "
        ++ toString store
  | reported text => text

/-- The wording of a failure: its area, then what is wrong. -/
def Failure.message : Failure → String
  | configuration fault => "Configuration error: " ++ fault.text
  | llm fault => "LLM error: " ++ fault.text
  | database fault => "Database error: " ++ fault.text
  | synthesis fault => "Synthesis error: " ++ fault.text
  | embedding fault => "Embedding error: " ++ fault.text
  | io reason => "IO error: " ++ reason
  | json reason => "JSON error: " ++ reason

end AskSql
