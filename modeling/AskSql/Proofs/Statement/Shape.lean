import AskSql.Proofs.Statement.Filling
import AskSql.Proofs.Statement.Labels
import AskSql.Proofs.Text.Trimming

/-!
The shape of the statements that are sent to a database.

A statement is a part of the completion, without the guess at the result and without blanks at its
ends. Filling in a vector puts texts together that the model did not write together. No `SQLResult:`
comes into being there: a vector has no `S` in it, and the bracket that it begins with is no
character of the label.

* `extract_isInfix`: a statement is part of its completion.
* `not_result_extract`: it holds no `SQLResult:`.
* `not_result_withVector`: nor does it with a vector in it.
* `split_at_query`: a completion with a `SQLQuery:` is split at the first one.
* `read_shape`: all of it together, for both ways of reading statements.
-/

namespace AskSql.Statement

/-! ### What is taken out of a completion -/

/-- Taking off decoration leaves a part of the text. -/
lemma undecorate_isInfix (text : List Char) : undecorate text <:+: text := by
  have hblanks : Text.trim text <:+: text := Text.trimEnds_isInfix _ _
  have hfences := (Text.trimEnds_isInfix isFence (Text.trim text)).trans hblanks
  exact (Text.trimEnds_isInfix _ _).trans hfences

/-- A statement is part of what follows the label. -/
lemma extract_isInfix_afterFirst (completion : List Char) :
    extract completion <:+: Text.afterFirst queryLabel completion :=
  (undecorate_isInfix _).trans (Text.upToFirst_isInfix resultLabel _)

/-- So it is part of the completion. -/
lemma extract_isInfix (completion : List Char) : extract completion <:+: completion :=
  (extract_isInfix_afterFirst completion).trans (afterFirst_isInfix completion)

/-- The guess at the result is not in it. -/
lemma not_result_extract (completion : List Char) : ¬ resultLabel <:+: extract completion := by
  intro hin
  have hcrop : ¬ resultLabel <:+: crop (Text.afterFirst queryLabel completion) :=
    Text.not_infix_upToFirst (by decide) _
  exact hcrop (hin.trans (undecorate_isInfix _))

/-- A completion with a `SQLQuery:` is split at the first one. -/
lemma split_at_query {completion : List Char} (h : queryLabel <:+: completion) :
    ∃ before, completion = before ++ (queryLabel ++ Text.afterFirst queryLabel completion)
      ∧ ¬ queryLabel <:+: before := by
  cases hsplit : Text.splitAtFirst queryLabel completion with
  | none => exact absurd h ((Text.splitAtFirst_eq_none_iff _ _).mp hsplit)
  | some parts =>
      refine ⟨parts.1, ?_, Text.not_infix_of_splitAtFirst (by decide) hsplit⟩
      rw [Text.afterFirst, hsplit, ← List.append_assoc]
      exact (Text.append_of_splitAtFirst hsplit).symm

/-! ### Filling in a vector -/

/-- The first character of the labels is in no vector. -/
lemma not_mem_vector (v : Embedding) : 'S' ∉ Embedding.chars v := by
  intro h
  have hS : ¬ ('S' ∈ ['[', ']', ',', ' '] ∨ Embedding.layout.Writes 'S') := by decide
  exact hS (Embedding.mem_chars h)

/-- A vector in the statement completes no `SQLResult:`. -/
lemma not_result_withVector {sql : String} (h : ¬ resultLabel <:+: sql.toList) (v : Embedding) :
    ¬ resultLabel <:+: (withVector sql v).toList := by
  have hbracket : '[' ∉ resultLabel.tail := by decide
  have hfilled := Text.not_infix_replaceAll (not_mem_vector v) hbracket h placeholder
  rwa [withVector, String.toList_ofList]

/-- What reading returns is the statement of the completion, or that statement with a vector in
it. -/
lemma read_ok_cases {σ : Type} {reader : StatementReader σ} {mode : CallMode}
    {completion sql : String} {question : Question} {state : σ}
    (h : (reader.read mode completion question state).1 = .ok sql) :
    sql = ofCompletion completion ∨ ∃ v, sql = withVector (ofCompletion completion) v := by
  cases reader with
  | plain =>
      rw [StatementReader.read_plain] at h
      exact .inl (Except.ok.inj h).symm
  | vector model =>
      rw [StatementReader.read_vector] at h
      obtain ⟨reached, hrun⟩ := Session.exists_reached h
      exact (fillVector_ok_cases hrun).imp_left And.left

/-! ### The shape -/

/-- **The shape of every statement.** What reading returns, whatever vector the model gives for the
question, holds no `SQLResult:`. The statement of a completion by itself is moreover a part of the
completion with no blank at its ends, and a part of what follows the first `SQLQuery:` if there is
one. -/
theorem read_shape {σ : Type} (reader : StatementReader σ) (mode : CallMode) (completion : String)
    (question : Question) (state : σ) :
    (∀ sql, (reader.read mode completion question state).1 = .ok sql →
      ¬ resultLabel <:+: sql.toList)
    ∧ Text.Bare Text.isBlank (ofCompletion completion).toList
    ∧ (ofCompletion completion).toList <:+: completion.toList
    ∧ (queryLabel <:+: completion.toList →
      ∃ before after, completion = before ++ "SQLQuery:" ++ after
        ∧ ¬ queryLabel <:+: before.toList
        ∧ (ofCompletion completion).toList <:+: after.toList) := by
  have hstatement : (ofCompletion completion).toList = extract completion.toList :=
    String.toList_ofList
  refine ⟨fun sql hsql => ?_, ?_, ?_, fun hquery => ?_⟩
  · have hnot : ¬ resultLabel <:+: (ofCompletion completion).toList := by
      rw [hstatement]
      exact not_result_extract completion.toList
    rcases read_ok_cases hsql with rfl | ⟨v, rfl⟩
    · exact hnot
    · exact not_result_withVector hnot v
  · rw [hstatement]
    exact Text.bare_trimEnds _ _
  · rw [hstatement]
    exact extract_isInfix completion.toList
  · obtain ⟨before, hsplit, hbefore⟩ := split_at_query hquery
    refine ⟨String.ofList before, String.ofList (Text.afterFirst queryLabel completion.toList),
      ?_, ?_, ?_⟩
    · rw [← String.toList_inj, String.toList_append, String.toList_append, List.append_assoc,
        String.toList_ofList, String.toList_ofList, String.toList_ofList]
      exact hsplit
    · rwa [String.toList_ofList]
    · rw [hstatement, String.toList_ofList]
      exact extract_isInfix_afterFirst completion.toList

/-- A completion with a place for a vector right before its guess at the result. -/
def nearestCompletion : String :=
  "Sure. SQLQuery: SELECT id FROM items ORDER BY v <-> '[query_vector]'SQLResult: 1"

/-- A reader whose model gives the same vector for every question. -/
def steadyReader : StatementReader Unit :=
  .vector (.ofQuestions fun _ => .done [0.5, -1])

/-- The vector is filled in, and what is run holds no `SQLResult:`; the statement stands behind the
label. -/
theorem nearestCompletion_read_shape :
    (steadyReader.read .async nearestCompletion { text := "similar items" } ()).1
        = .ok (withVector (ofCompletion nearestCompletion) [0.5, -1])
      ∧ ¬ resultLabel <:+: (withVector (ofCompletion nearestCompletion) [0.5, -1]).toList
      ∧ ∃ before after, nearestCompletion = before ++ "SQLQuery:" ++ after
        ∧ ¬ queryLabel <:+: before.toList
        ∧ (ofCompletion nearestCompletion).toList <:+: after.toList := by
  have hread : (steadyReader.read .async nearestCompletion { text := "similar items" } ()).1
      = .ok (withVector (ofCompletion nearestCompletion) [0.5, -1]) := rfl
  have hquery : queryLabel <:+: nearestCompletion.toList := (Text.occursIn_iff _ _).mp rfl
  obtain ⟨hresult, -, -, hlabel⟩ :=
    read_shape steadyReader .async nearestCompletion { text := "similar items" } ()
  exact ⟨hread, hresult _ hread, hlabel hquery⟩

end AskSql.Statement
