import AskSql.Prompt

/-!
The prompts that engines use unless they are given others.

* `Prompt.textToSql`, `Prompt.textToSqlVector`: a question and a description of the tables become a
  statement; the second one explains the placeholder for the vector of the question.
* `Prompt.sqlSynthesis`, `Prompt.sqlSynthesisV2`: a statement and its result become an answer.
* `Prompt.textQa`: an answer from a context.
-/

namespace AskSql.Prompt

open Template (Segment)

/-- The task and how to use the columns. -/
def columnAdvice : String :=
  "Pay attention to use only the column names that you can see in the schema description. "
    ++ "Be careful to not query for columns that do not exist. "
    ++ "Pay attention to which column is in which table. "
    ++ "Also, qualify column names with the table name when needed."

/-- The task of writing a statement in a dialect. -/
def taskSegments : List Segment :=
  [.text "Given an input question, first create a syntactically correct ", .slot "dialect",
    .text " query to run, then look at the results of the query and return the answer. ",
    .text "You can order the results by a relevant column to return the most interesting examples ",
    .text "in the database.\n\n"]

/-- The lines of a completion. -/
def completionFormat : String :=
  "You are required to use the following format, each taking one line:\n\n"
    ++ "Question: Question here\n"
    ++ "SQLQuery: SQL Query to run\n"
    ++ "SQLResult: Result of the SQLQuery\n"
    ++ "Answer: Final answer here\n\n"

/-- The tables, the question and the cue for the statement. -/
def cueSegments : List Segment :=
  [.text "Only use tables listed below.\n", .slot "schema", .text "\n\nQuestion: ",
    .slot "query_str", .text "\nSQLQuery: "]

/-- How the placeholder for the vector of the question is used. -/
def vectorAdvice : String :=
  "IMPORTANT NOTE: you can use specialized pgvector syntax (`<->`) to do nearest "
    ++ "neighbors/semantic search to a given vector from an embeddings column in the table. "
    ++ "The embeddings value for a given row typically represents the semantic meaning of that "
    ++ "row. The vector represents an embedding representation of the question, given below. "
    ++ "Do NOT fill in the vector values directly, but rather specify a `[query_vector]` "
    ++ "placeholder. For instance, some select statement examples below "
    ++ "(the name of the embeddings column is `embedding`):\n"
    ++ "SELECT * FROM items ORDER BY embedding <-> '[query_vector]' LIMIT 5;\n"
    ++ "SELECT * FROM items WHERE id != 1 ORDER BY embedding <-> "
    ++ "(SELECT embedding FROM items WHERE id = 1) LIMIT 5;\n"
    ++ "SELECT * FROM items WHERE embedding <-> '[query_vector]' < 5;\n\n"

/-- Writes a statement for a question. -/
def textToSql : Prompt where
  template := Template.write (taskSegments
    ++ [.text "Never query for all the columns from a specific table, ",
      .text "only ask for a few relevant columns given the question.\n\n",
      .text columnAdvice, .text " ", .text completionFormat]
    ++ cueSegments)
  kind := .textToSql

/-- Writes a statement that may compare with the vector of the question. -/
def textToSqlVector : Prompt where
  template := Template.write (taskSegments
    ++ [.text columnAdvice, .text "\n\n", .text vectorAdvice, .text completionFormat]
    ++ cueSegments)
  kind := .textToSql

/-- The parts of a prompt that phrases an answer; the last variable holds the result. -/
def synthesisSegments (result : String) : List Segment :=
  [.text "Given an input question, synthesize a response from the query results.\nQuery: ",
    .slot "query_str", .text "\nSQL: ", .slot "sql_query", .text "\nSQL Response: ", .slot result,
    .text "\nResponse: "]

/-- Phrases the result of a statement, for the engine over a context container. -/
def sqlSynthesis : Prompt where
  template := Template.write (synthesisSegments "sql_response_str")
  kind := .sqlSynthesis

/-- Phrases the result of a statement. -/
def sqlSynthesisV2 : Prompt where
  template := Template.write (synthesisSegments "context_str")
  kind := .sqlSynthesisV2

/-- Answers from a context. -/
def textQa : Prompt where
  template := Template.write
    [.text "Context information is below.\n---------------------\n", .slot "context_str",
      .text "\n---------------------\n",
      .text "Given the context information and not prior knowledge, answer the query.\nQuery: ",
      .slot "query_str", .text "\nAnswer: "]
  kind := .questionAnswer

end AskSql.Prompt
