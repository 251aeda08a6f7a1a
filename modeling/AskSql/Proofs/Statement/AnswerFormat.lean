import AskSql.Proofs.Statement.Labels
import AskSql.Proofs.Text.Trimming

/-!
The format of an answer, and the statement read back from it.

A model is to write `SQLQuery:`, the statement, `SQLResult:` and a guess at the result. It may put
code fences and blanks around the statement and leave out either label. Reading takes off what was
put around the statement and gives the statement back, whatever the texts before and behind it are.

* `Margin`: what may stand on one side of a statement.
* `Plain`: statements without decoration of their own.
* `undecorate_margins`: margins are taken off, and nothing else.
* `guess`: the part of an answer from `SQLResult:` on, which may be missing.
* `ofCompletion_answer`: the statement of an answer in any of its forms.
-/

namespace AskSql.Statement

/-! ### Margins -/

/-- What may stand on one side of a statement: a run of fences with blanks on both sides. Each of
the three may be empty. -/
structure Margin where
  /-- The blanks away from the statement. -/
  outer : String
  fences : String
  /-- The blanks next to the statement. -/
  inner : String
  outer_blank : ∀ c ∈ outer.toList, Text.isBlank c = true
  fences_fence : ∀ c ∈ fences.toList, isFence c = true
  inner_blank : ∀ c ∈ inner.toList, Text.isBlank c = true

namespace Margin

/-- The margin on the left of a statement. -/
def left (m : Margin) : String := m.outer ++ m.fences ++ m.inner

/-- The margin on the right of a statement. -/
def right (m : Margin) : String := m.inner ++ m.fences ++ m.outer

lemma left_toList (m : Margin) :
    m.left.toList = m.outer.toList ++ (m.fences.toList ++ m.inner.toList) := by
  rw [left, String.toList_append, String.toList_append, List.append_assoc]

lemma right_toList (m : Margin) :
    m.right.toList = m.inner.toList ++ m.fences.toList ++ m.outer.toList := by
  rw [right, String.toList_append, String.toList_append]

/-- Every character of a margin is a blank or a fence. -/
lemma blank_or_fence (m : Margin) {c : Char} (h : c ∈ m.left.toList ∨ c ∈ m.right.toList) :
    Text.isBlank c = true ∨ isFence c = true := by
  have hc : c ∈ m.outer.toList ∨ c ∈ m.fences.toList ∨ c ∈ m.inner.toList := by
    rw [left_toList, right_toList] at h
    simp only [List.mem_append] at h
    tauto
  rcases hc with hc | hc | hc
  · exact .inl (m.outer_blank c hc)
  · exact .inr (m.fences_fence c hc)
  · exact .inl (m.inner_blank c hc)

end Margin

/-- A statement that neither begins nor ends with a blank or a fence. -/
def Plain (q : String) : Prop :=
  Text.Bare Text.isBlank q.toList ∧ Text.Bare isFence q.toList

instance (q : String) : Decidable (Plain q) :=
  inferInstanceAs (Decidable (Text.Bare Text.isBlank q.toList ∧ Text.Bare isFence q.toList))

/-! ### Blanks and fences -/

/-- A fence is not blank. -/
lemma not_blank_of_fence (c : Char) (h : isFence c = true) : Text.isBlank c = false := by
  have hc : c = '\x60' := of_decide_eq_true h
  rw [hc]
  decide

/-- A blank is not a fence. -/
lemma not_fence_of_blank (c : Char) (h : Text.isBlank c = true) : isFence c = false := by
  cases hc : isFence c with
  | false => rfl
  | true =>
      rw [not_blank_of_fence c hc] at h
      cases h

/-- No blank and no fence occurs in `SQLResult:`. -/
lemma not_mem_resultLabel {c : Char} (h : Text.isBlank c = true ∨ isFence c = true) :
    c ∉ resultLabel := by
  have hlabel : resultLabel.all (fun d => !(Text.isBlank d || isFence d)) = true := rfl
  intro hc
  have hneither := List.all_eq_true.mp hlabel c hc
  rw [← Bool.or_eq_true] at h
  rw [h] at hneither
  cases hneither

/-! ### Taking off the decoration -/

/-- Around a plain text, both sides lose their blanks, their fences and their blanks again. -/
lemma undecorate_around {text : List Char} (hne : text ≠ []) (hblank : Text.Bare Text.isBlank text)
    (hfence : Text.Bare isFence text) (left right : List Char) :
    undecorate (left ++ text ++ right)
      = ((left.dropWhile Text.isBlank).dropWhile isFence).dropWhile Text.isBlank ++ text
        ++ Text.trimEnd Text.isBlank (Text.trimEnd isFence (Text.trimEnd Text.isBlank right)) := by
  rw [undecorate, Text.trim, Text.trim, Text.trimEnds_around hne hblank,
    Text.trimEnds_around hne hfence, Text.trimEnds_around hne hblank]

/-- Between blanks, a run of fences alone leaves nothing. -/
lemma undecorate_fences {left fences right : List Char} (hleft : ∀ c ∈ left, Text.isBlank c = true)
    (hfences : ∀ c ∈ fences, isFence c = true) (hright : ∀ c ∈ right, Text.isBlank c = true) :
    undecorate (left ++ fences ++ right) = [] := by
  have hbare : Text.Bare Text.isBlank fences :=
    Text.Bare.of_forall fun c hc => not_blank_of_fence c (hfences c hc)
  rw [undecorate, Text.trim, Text.trim, Text.trimEnds_pad hleft hbare hright,
    Text.trimEnds_of_forall hfences]
  rfl

/-- Margins without a statement between them leave nothing. -/
lemma undecorate_empty {left before middle after right : List Char}
    (hleft : ∀ c ∈ left, Text.isBlank c = true) (hbefore : ∀ c ∈ before, isFence c = true)
    (hmiddle : ∀ c ∈ middle, Text.isBlank c = true) (hafter : ∀ c ∈ after, isFence c = true)
    (hright : ∀ c ∈ right, Text.isBlank c = true) :
    undecorate (left ++ (before ++ middle ++ after) ++ right) = [] := by
  -- with fences on one side only, all blanks are outside of them
  by_cases hb : before = []
  · have htext : left ++ (before ++ middle ++ after) ++ right
        = (left ++ middle) ++ after ++ right := by
      rw [hb, List.nil_append, List.append_assoc left middle after]
    rw [htext]
    exact undecorate_fences (List.forall_mem_append.mpr ⟨hleft, hmiddle⟩) hafter hright
  by_cases ha : after = []
  · have htext : left ++ (before ++ middle ++ after) ++ right
        = left ++ before ++ (middle ++ right) := by
      rw [ha, List.append_nil, ← List.append_assoc, ← List.append_assoc]
    rw [htext]
    exact undecorate_fences hleft hbefore (List.forall_mem_append.mpr ⟨hmiddle, hright⟩)
  -- with fences on both sides, the blanks between them are the last to go
  · have hbare : Text.Bare Text.isBlank (before ++ middle ++ after) :=
      Text.Bare.between hb (fun c hc => not_blank_of_fence c (hbefore c hc)) ha
        (fun c hc => not_blank_of_fence c (hafter c hc)) middle
    have hfree : Text.Bare isFence middle :=
      Text.Bare.of_forall fun c hc => not_fence_of_blank c (hmiddle c hc)
    rw [undecorate, Text.trim, Text.trim, Text.trimEnds_pad hleft hbare hright,
      Text.trimEnds_pad hbefore hfree hafter, Text.trimEnds_of_forall hmiddle]

/-- Margins are taken off, and nothing else. -/
lemma undecorate_margins (left right : Margin) {q : String} (hq : Plain q) :
    undecorate (left.left.toList ++ q.toList ++ right.right.toList) = q.toList := by
  by_cases hne : q.toList = []
  · have htext : left.left.toList ++ q.toList ++ right.right.toList
        = left.outer.toList ++ (left.fences.toList ++ (left.inner.toList ++ right.inner.toList)
            ++ right.fences.toList) ++ right.outer.toList := by
      rw [hne, left.left_toList, right.right_toList]
      simp
    rw [htext, hne]
    exact undecorate_empty left.outer_blank left.fences_fence
      (List.forall_mem_append.mpr ⟨left.inner_blank, right.inner_blank⟩) right.fences_fence
      right.outer_blank
  · rw [undecorate_around hne hq.1 hq.2, left.left_toList, right.right_toList,
      Text.dropWhile_layers not_blank_of_fence left.outer_blank left.fences_fence left.inner_blank,
      Text.trimEnd_layers not_blank_of_fence right.outer_blank right.fences_fence
        right.inner_blank, List.nil_append, List.append_nil]

/-! ### Reading an answer -/

/-- A statement between its margins. -/
def written (left : Margin) (q : String) (right : Margin) : String := left.left ++ q ++ right.right

/-- The part of an answer that guesses at the result, if there is one. -/
def guess : Option String → String
  | none => ""
  | some post => "SQLResult:" ++ post

/-- Margins do not complete a `SQLResult:`. -/
lemma written_not_result (left right : Margin) {q : String} (hq : ¬ resultLabel <:+: q.toList) :
    ¬ resultLabel <:+: (written left q right).toList := by
  rw [written, String.toList_append, String.toList_append]
  intro hin
  refine hq (Text.infix_of_infix_pad (by decide) (fun c hc => ?_) (fun c hc => ?_) hin)
  · exact not_mem_resultLabel (left.blank_or_fence (.inl hc))
  · exact not_mem_resultLabel (right.blank_or_fence (.inr hc))

/-- The guess is cut off from a statement with its margins. -/
lemma crop_written (left right : Margin) {q : String} (hq : ¬ resultLabel <:+: q.toList)
    (post : Option String) :
    crop (written left q right ++ guess post).toList = (written left q right).toList := by
  have hnot := written_not_result left right hq
  cases post with
  | none =>
      rw [guess, String.append_empty]
      exact crop_of_not_result hnot
  | some post =>
      rw [guess, String.toList_append, String.toList_append]
      exact crop_result hnot post.toList

/-- A statement is read back from between its margins. -/
lemma undecorate_written (left right : Margin) {q : String} (hq : Plain q)
    (hresult : ¬ resultLabel <:+: q.toList) (post : Option String) :
    String.ofList (undecorate (crop (written left q right ++ guess post).toList)) = q := by
  rw [crop_written left right hresult, written, String.toList_append, String.toList_append,
    undecorate_margins left right hq, String.ofList_toList]

/-- **Reading undoes the answer format.** Let a plain statement without `SQLResult:` stand between
margins, with or without a `SQLResult:` and any text behind it. Behind the first `SQLQuery:`, and
from the beginning of a completion without that label, exactly the statement is read. -/
theorem ofCompletion_answer (left right : Margin) (q : String) (post : Option String) (hq : Plain q)
    (hresult : ¬ resultLabel <:+: q.toList) :
    (∀ pre : String, ¬ queryLabel <:+: pre.toList →
      ofCompletion (pre ++ "SQLQuery:" ++ (written left q right ++ guess post)) = q)
    ∧ (¬ queryLabel <:+: (written left q right ++ guess post).toList →
      ofCompletion (written left q right ++ guess post) = q) := by
  refine ⟨fun pre hpre => ?_, fun hnot => ?_⟩
  · have hafter : Text.afterFirst queryLabel
        (pre ++ "SQLQuery:" ++ (written left q right ++ guess post)).toList
          = (written left q right ++ guess post).toList := by
      rw [String.toList_append, String.toList_append, List.append_assoc]
      exact afterFirst_query hpre _
    rw [ofCompletion, extract, hafter]
    exact undecorate_written left right hq hresult post
  · rw [ofCompletion, extract, afterFirst_of_not_query hnot]
    exact undecorate_written left right hq hresult post

/-- A fenced block. -/
def fenced : Margin where
  outer := " "
  fences := "\x60\x60\x60"
  inner := "\n"
  outer_blank := List.all_eq_true.mp rfl
  fences_fence := List.all_eq_true.mp rfl
  inner_blank := List.all_eq_true.mp rfl

/-- A fenced statement, before a guess that tells of another one and on its own. -/
theorem ofCompletion_answer_fenced :
    ofCompletion ("No SQLResult: yet. " ++ "SQLQuery:"
        ++ (written fenced "SELECT 1" fenced ++ guess (some " 1\nSQLQuery: SELECT 2"))) = "SELECT 1"
      ∧ ofCompletion (written fenced "SELECT 1" fenced ++ guess none) = "SELECT 1" := by
  have hplain : Plain "SELECT 1" := by decide
  have hresult : ¬ resultLabel <:+: "SELECT 1".toList := (Text.occursIn_eq_false_iff _ _).mp rfl
  refine ⟨(ofCompletion_answer fenced fenced "SELECT 1" _ hplain hresult).1 _ ?_,
    (ofCompletion_answer fenced fenced "SELECT 1" none hplain hresult).2 ?_⟩
  · exact (Text.occursIn_eq_false_iff _ _).mp rfl
  · exact (Text.occursIn_eq_false_iff _ _).mp rfl

end AskSql.Statement
