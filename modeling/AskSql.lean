import AskSql.Main
import AskSql.Proofs.Calls.Order
import AskSql.Proofs.Engine.Stages
import AskSql.Proofs.Dictionary
import AskSql.Proofs.Engine.Metadata
import AskSql.Proofs.Statement.Labels
import AskSql.Proofs.Text.Trimming
import AskSql.Proofs.Statement.AnswerFormat
import AskSql.Proofs.Prompt.Segments
import AskSql.Proofs.Decimal.Characters
import AskSql.Proofs.Statement.Shape
import AskSql.Proofs.Calls.Alike
import AskSql.Proofs.Engine.Modes
import AskSql.Proofs.Decimal.Bits
import AskSql.Proofs.Decimal.Interval
import AskSql.Proofs.Decimal.Rounding
import AskSql.Proofs.Decimal.Written
import AskSql.Proofs.Decimal.RoundTrip
import AskSql.Proofs.Text.Quoting
import AskSql.Proofs.Sqlite.Cells
import AskSql.Proofs.Sqlite.Decoding
import AskSql.Proofs.Engine.SynthesisPrompt
import AskSql.Proofs.Engine.Wording
import AskSql.Proofs.Engine.Records
import AskSql.Proofs.TableContext
import AskSql.Proofs.Engine.Conversation
import AskSql.Proofs.VectorStore.Contents
import AskSql.Proofs.VectorStore.Scores
import AskSql.Proofs.VectorStore.Ranking
import AskSql.Proofs.Retrieval
import AskSql.Proofs.Engine.QuestionVector
import AskSql.Proofs.Text.ByteOrder
import AskSql.Proofs.Sqlite.Visibility
import AskSql.Proofs.Sqlite.Discovery
import AskSql.Proofs.Json.Texts
import AskSql.Proofs.Json.Readers
import AskSql.Proofs.Json.Values
import AskSql.Proofs.Json.Records
import AskSql.Proofs.Json.Printed
import AskSql.Proofs.Prompt.Reading
import AskSql.Proofs.Prompt.Rendering
import AskSql.Proofs.Text.Shortening
import AskSql.Proofs.Sqlite.TextLimit
import AskSql.Proofs.Client.EmbeddingReply
import AskSql.Proofs.Decimal.Shortness
import AskSql.Proofs.Decimal.Scientific
import AskSql.Proofs.Decimal.Rewriting
import AskSql.Proofs.Sqlite.Reals
import AskSql.Proofs.VectorStore.Growth
import AskSql.Proofs.Client.ChatReply
import AskSql.Proofs.Indexing
import AskSql.Proofs.Engine.Offline
import AskSql.Proofs.Text.Delimiting
import AskSql.Proofs.Json.Agreement
import AskSql.Proofs.Json.Drafts
import AskSql.Proofs.TableRefs
import AskSql.Proofs.Paths
