import AskSql.Proofs.Paths
import AskSql.Proofs.Text.Occurrence

/-!
The labels of a completion, and which part of it the statement is taken from.

The label before the statement is looked for first, and in the whole completion. So a `SQLResult:`
ends the statement only if the statement has begun: what stands behind it stays out of reach when
`SQLQuery:` comes before it, and is read as a completion of its own when `SQLQuery:` only comes
behind.

* `extract_past_result`: the statement of a completion that is cut at its first `SQLResult:`.
* `deciding`: the side of the cut that the statement is taken from.
* `ofCompletion_eq_deciding`: both ways of reading statements take it from there; what stands behind
  the cut is without influence just if `SQLQuery:` comes before it.
* `ofCompletion_differs_past_result`: a completion whose statement comes from behind the cut.
* `beforeResult_past_result`: an engine that knows only `SQLResult:` never reads beyond it.
-/

namespace AskSql.Statement

/-! ### Finding the labels -/

/-- Both labels begin with a character that they do not use again. -/
lemma labels_eq : queryLabel = 'S' :: queryLabel.tail ∧ resultLabel = 'S' :: resultLabel.tail :=
  ⟨rfl, rfl⟩

lemma not_mem_tail : 'S' ∉ queryLabel.tail ∧ 'S' ∉ resultLabel.tail := by decide

/-- The first `SQLQuery:` ends a text without that label. -/
lemma afterFirst_query {before : List Char} (h : ¬ queryLabel <:+: before) (after : List Char) :
    Text.afterFirst queryLabel (before ++ (queryLabel ++ after)) = after := by
  rw [labels_eq.1] at h ⊢
  rw [Text.afterFirst, Text.splitAtFirst_of_not_infix not_mem_tail.1 h]

/-- Without `SQLQuery:` a completion is a statement from its beginning. -/
lemma afterFirst_of_not_query {text : List Char} (h : ¬ queryLabel <:+: text) :
    Text.afterFirst queryLabel text = text := by
  rw [Text.afterFirst, (Text.splitAtFirst_eq_none_iff _ _).mpr h]

/-- After a `SQLQuery:`, what is added to a text is added to the statement. -/
lemma afterFirst_append {text : List Char} (h : queryLabel <:+: text) (more : List Char) :
    Text.afterFirst queryLabel (text ++ more) = Text.afterFirst queryLabel text ++ more := by
  cases hsplit : Text.splitAtFirst queryLabel text with
  | none => exact absurd h ((Text.splitAtFirst_eq_none_iff _ _).mp hsplit)
  | some parts =>
      rw [Text.afterFirst, Text.afterFirst, Text.splitAtFirst_append_left hsplit, hsplit]

/-- What follows the first `SQLQuery:` is part of the text. -/
lemma afterFirst_isInfix (text : List Char) : Text.afterFirst queryLabel text <:+: text := by
  rw [Text.afterFirst]
  cases hsplit : Text.splitAtFirst queryLabel text with
  | none => exact List.infix_rfl
  | some parts => exact ⟨parts.1 ++ queryLabel, [], by simp [Text.append_of_splitAtFirst hsplit]⟩

/-- The guess at the result is cut off at its label. -/
lemma crop_result {before : List Char} (h : ¬ resultLabel <:+: before) (after : List Char) :
    crop (before ++ (resultLabel ++ after)) = before := by
  rw [labels_eq.2] at h
  rw [crop, Text.upToFirst, labels_eq.2, Text.splitAtFirst_of_not_infix not_mem_tail.2 h]

/-- Without `SQLResult:` nothing is cut off. -/
lemma crop_of_not_result {text : List Char} (h : ¬ resultLabel <:+: text) : crop text = text := by
  rw [crop, Text.upToFirst, (Text.splitAtFirst_eq_none_iff _ _).mpr h]

/-- No `SQLQuery:` begins in a text without it, nor in the `SQLResult:` behind that text. -/
lemma clear_of_not_query {before : List Char} (h : ¬ queryLabel <:+: before) (after : List Char) :
    Text.Clear queryLabel (before ++ resultLabel) after := by
  have hresult : Text.Clear queryLabel resultLabel after := by
    rw [labels_eq.2, Text.clear_cons_iff]
    refine ⟨fun hprefix => ?_, ?_⟩
    · -- of two texts that one text begins with, one begins with the other
      have hlabels := List.prefix_or_prefix_of_prefix hprefix
        (List.prefix_append resultLabel after)
      revert hlabels
      decide
    · rw [labels_eq.1]
      exact Text.Clear.of_not_mem not_mem_tail.2 after
  refine Text.Clear.append ?_ hresult
  exact Text.Clear.of_not_infix h not_mem_tail.1 (resultLabel.tail ++ after)

/-- Behind a text without `SQLQuery:` and a `SQLResult:`, the search goes on as if it began
there. -/
lemma splitAtFirst_past_result {before : List Char} (h : ¬ queryLabel <:+: before)
    (after : List Char) :
    Text.splitAtFirst queryLabel (before ++ (resultLabel ++ after))
      = (Text.splitAtFirst queryLabel after).map
        fun parts => (before ++ resultLabel ++ parts.1, parts.2) := by
  rw [← List.append_assoc, Text.splitAtFirst_clear (clear_of_not_query h after)]

/-- So what follows the label is what follows it in the rest. -/
lemma afterFirst_past_result {before : List Char} (h : ¬ queryLabel <:+: before)
    {after : List Char} (hafter : queryLabel <:+: after) :
    Text.afterFirst queryLabel (before ++ (resultLabel ++ after))
      = Text.afterFirst queryLabel after := by
  rw [Text.afterFirst, splitAtFirst_past_result h, Text.afterFirst]
  cases hsplit : Text.splitAtFirst queryLabel after with
  | none => exact absurd hafter ((Text.splitAtFirst_eq_none_iff _ _).mp hsplit)
  | some parts => rfl

/-- And there is no label unless it is in the rest. -/
lemma not_query_past_result {before : List Char} (h : ¬ queryLabel <:+: before)
    {after : List Char} (hafter : ¬ queryLabel <:+: after) :
    ¬ queryLabel <:+: before ++ (resultLabel ++ after) := by
  rw [← Text.splitAtFirst_eq_none_iff, splitAtFirst_past_result h,
    (Text.splitAtFirst_eq_none_iff _ _).mpr hafter]
  rfl

/-! ### The first `SQLResult:` -/

/-- The part around the first `SQLResult:` that the statement is taken from: what stands before it,
unless `SQLQuery:` stands only behind it. -/
def deciding (before after : String) : String :=
  if !Text.occursIn queryLabel before.toList && Text.occursIn queryLabel after.toList then after
  else before

/-- With `SQLQuery:` before the cut, the statement is taken from there. -/
lemma deciding_of_query {before : String} (h : queryLabel <:+: before.toList) (after : String) :
    deciding before after = before := by
  rw [deciding, (Text.occursIn_iff _ _).mpr h]
  rfl

/-- Without `SQLQuery:` behind the cut, the statement is taken from what stands before it. -/
lemma deciding_of_not_query {after : String} (h : ¬ queryLabel <:+: after.toList)
    (before : String) : deciding before after = before := by
  rw [deciding, (Text.occursIn_eq_false_iff _ _).mpr h, Bool.and_false]
  rfl

/-- With `SQLQuery:` only behind the cut, the statement is taken from behind it. -/
lemma deciding_of_only_after {before after : String} (h : ¬ queryLabel <:+: before.toList)
    (hafter : queryLabel <:+: after.toList) : deciding before after = after := by
  rw [deciding, (Text.occursIn_eq_false_iff _ _).mpr h, (Text.occursIn_iff _ _).mpr hafter]
  rfl

/-- The statement of a completion that is cut at its first `SQLResult:`. -/
lemma extract_past_result {before : String} (h : ¬ resultLabel <:+: before.toList)
    (after : String) :
    extract (before.toList ++ (resultLabel ++ after.toList))
      = extract (deciding before after).toList := by
  have hkept : ¬ resultLabel <:+: Text.afterFirst queryLabel before.toList := fun hin =>
    h (hin.trans (afterFirst_isInfix before.toList))
  rw [extract, extract]
  by_cases hbefore : queryLabel <:+: before.toList
  · rw [deciding_of_query hbefore, afterFirst_append hbefore, crop_result hkept,
      crop_of_not_result hkept]
  · by_cases hafter : queryLabel <:+: after.toList
    · rw [deciding_of_only_after hbefore hafter, afterFirst_past_result hbefore hafter]
    · rw [deciding_of_not_query hafter, crop_of_not_result hkept,
        afterFirst_of_not_query (not_query_past_result hbefore hafter), crop_result h,
        afterFirst_of_not_query hbefore]

/-- The same for texts. -/
lemma ofCompletion_past_result {before : String} (h : ¬ resultLabel <:+: before.toList)
    (after : String) :
    ofCompletion (before ++ "SQLResult:" ++ after) = ofCompletion (deciding before after) := by
  rw [ofCompletion, ofCompletion, String.toList_append, String.toList_append, List.append_assoc]
  exact congrArg String.ofList (extract_past_result h after)

/-- An engine that knows only `SQLResult:` never reads beyond it. -/
theorem beforeResult_past_result {before : String} (h : ¬ resultLabel <:+: before.toList)
    (after : String) :
    beforeResult (before ++ "SQLResult:" ++ after)
      = String.ofList (Text.trim before.toList) := by
  rw [beforeResult, String.toList_append, String.toList_append, List.append_assoc]
  exact congrArg (fun text => String.ofList (Text.trim text)) (crop_result h after.toList)

/-- **What stands behind `SQLResult:`.** A completion that is cut at its first `SQLResult:` is read,
with and without a vector to fill in, as if it were the deciding part alone. What stands behind the
cut is without influence on the statement just if `SQLQuery:` stands before it. -/
theorem ofCompletion_eq_deciding {σ : Type} (before : String)
    (h : ¬ resultLabel <:+: before.toList) :
    (∀ after, ofCompletion (before ++ "SQLResult:" ++ after) = ofCompletion (deciding before after))
    ∧ (∀ (reader : StatementReader σ) (mode : CallMode) (question : Question) (after : String),
        reader.read mode (before ++ "SQLResult:" ++ after) question
          = reader.read mode (deciding before after) question)
    ∧ ((∀ after after', ofCompletion (before ++ "SQLResult:" ++ after)
          = ofCompletion (before ++ "SQLResult:" ++ after')) ↔ queryLabel <:+: before.toList) := by
  refine ⟨fun after => ofCompletion_past_result h after, fun reader mode question after => ?_,
    ?_, ?_⟩
  · cases reader <;>
      simp only [StatementReader.read_plain, StatementReader.read_vector,
        ofCompletion_past_result h]
  · intro hsame
    by_contra hbefore
    -- two completions that write different statements behind the cut
    have hempty : queryLabel <:+: "SQLQuery:".toList := List.infix_rfl
    have hone : queryLabel <:+: "SQLQuery:1".toList := ⟨[], ['1'], rfl⟩
    have heq := hsame "SQLQuery:" "SQLQuery:1"
    rw [ofCompletion_past_result h, ofCompletion_past_result h,
      deciding_of_only_after hbefore hempty, deciding_of_only_after hbefore hone] at heq
    revert heq
    decide
  · intro hbefore after after'
    rw [ofCompletion_past_result h, ofCompletion_past_result h, deciding_of_query hbefore,
      deciding_of_query hbefore]

/-- A completion without the first label: its statement is the one behind the guess at the
result. -/
theorem ofCompletion_eq_deciding_unlabelled :
    ¬ resultLabel <:+: "SELECT 1\n".toList
      ∧ ofCompletion ("SELECT 1\n" ++ "SQLResult:" ++ " 1\nSQLQuery: DROP TABLE users")
        = ofCompletion (deciding "SELECT 1\n" " 1\nSQLQuery: DROP TABLE users") :=
  have hbefore : ¬ resultLabel <:+: "SELECT 1\n".toList := (Text.occursIn_eq_false_iff _ _).mp rfl
  ⟨hbefore, (@ofCompletion_eq_deciding Unit "SELECT 1\n" hbefore).1 _⟩

/-- Two completions that are the same up to their first `SQLResult:`, with different statements. -/
theorem ofCompletion_differs_past_result :
    ¬ resultLabel <:+: "SELECT 1\n".toList
      ∧ ofCompletion ("SELECT 1\n" ++ "SQLResult:" ++ " 1") = "SELECT 1"
      ∧ ofCompletion ("SELECT 1\n" ++ "SQLResult:" ++ " 1\nSQLQuery: DROP TABLE users")
        = "DROP TABLE users" :=
  ⟨(Text.occursIn_eq_false_iff _ _).mp rfl, by decide, by decide⟩

end AskSql.Statement
