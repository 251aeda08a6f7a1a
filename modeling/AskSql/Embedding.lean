import AskSql.Json.Printer
import AskSql.Session

/-!
Embeddings: vectors of numbers of 32 bits that stand for the meaning of a text.

* `Embedding`, `Embedding.toText`: a vector, and how it is written into a statement.
* `EmbeddingModel`: a model that turns questions and documents into vectors.
* `EmbeddingModel.ofQuestions`: a model that knows one way to do so.
-/

namespace AskSql

/-- A vector of numbers of 32 bits. -/
abbrev Embedding := List Float32

/-- Numbers in a vector are positional from 10^-4 to below 10^16; the exponent has neither a plus
sign nor superfluous zeros, and a tie goes up. -/
def Embedding.layout : Decimal.Layout where
  positionalFrom := -4
  positionalBelow := 16
  plusSign := []
  exponentWidth := 1
  tie := .up
  notANumber := ['N', 'a', 'N']
  infinity := ['i', 'n', 'f']

/-- A number of a vector. -/
def Embedding.numberText (x : Float32) : List Char := Embedding.layout.float32 x

/-- The characters of a vector: its numbers between square brackets. -/
def Embedding.chars (v : Embedding) : List Char :=
  '[' :: List.intercalate [',', ' '] (v.map Embedding.numberText) ++ [']']

/-- A vector as it is written into a statement. -/
def Embedding.toText (v : Embedding) : String := String.ofList (Embedding.chars v)

/-- A model that turns texts into vectors. -/
structure EmbeddingModel (σ : Type) where
  /-- The vector of a question. -/
  ofQuestion : CallMode → String → Session σ Embedding
  /-- The vector of a document that is stored. -/
  ofDocument : String → Session σ Embedding

/-- The model that embeds questions only: documents are treated like questions, and what is asked
asynchronously is answered by the blocking entry point. -/
def EmbeddingModel.ofQuestions {σ : Type} (embed : String → Session σ Embedding) :
    EmbeddingModel σ where
  ofQuestion
    | .blocking => embed
    | .async => embed
  ofDocument := embed

end AskSql
