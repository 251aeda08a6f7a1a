import AskSql.Proofs.Calls.Watched
import AskSql.Proofs.Decimal.Characters
import AskSql.Proofs.Paths
import AskSql.Proofs.Session
import AskSql.Proofs.Text.Replacement

/-!
Filling in the vector of a question.

A place for a vector is found by its first bracket, which does not come back in it, so two places
never overlap and the places of a statement are exactly those that it was put together with. A
vector begins with the same bracket. No place comes into being where one is put in: a place would
have to go on behind that bracket with a letter that no vector is written with, and a place that
begins in front of the vector would have to go on with its bracket. Nor does a vector hold any
character that ends a quoted text or a statement.

* `HasPlace`: a statement with a place for a vector.
* `fillVector_of_place`, `fillVector_of_no_place`, `watched_fillVector_of_place`: when the model is
  asked.
* `withVector_joined`: the vector in all places between parts without one.
* `fillVector_joined`: what is returned for such a statement, and how often the model is asked.
* `not_hasPlace_withVector`: no place is left, and none comes into being.
* `delimiters`, `not_mem_delimiters`: what is in no vector.
* `fillVector_leavesNoPlace`: a statement is filled in once and for all, its quotes as they were.
-/

namespace AskSql.Statement

variable {σ : Type}

/-! ### Places for a vector -/

/-- The statement has a place for a vector. -/
def HasPlace (sql : String) : Prop := placeholder <:+: sql.toList

instance : DecidablePred HasPlace := fun sql =>
  decidable_of_iff _ (Text.occursIn_iff placeholder sql.toList)

/-- The first bracket of a place does not come back in it. -/
lemma not_mem_placeholder_tail : '[' ∉ placeholder.tail := by decide

lemma placeholder_ne_nil : placeholder ≠ [] := by decide

/-- A statement without a place is returned, and the model is not asked. -/
lemma fillVector_of_no_place {sql : String} (h : ¬ HasPlace sql) (model : EmbeddingModel σ)
    (mode : CallMode) (question : Question) :
    fillVector model mode sql question = Session.done sql := by
  have hnot : ¬ Text.occursIn placeholder sql.toList = true :=
    fun hin => h ((Text.occursIn_iff _ _).mp hin)
  rw [fillVector_eq, if_neg hnot]
  rfl

/-- For a statement with places the model is asked once, whatever their number. -/
lemma fillVector_of_place {sql : String} (h : HasPlace sql) (model : EmbeddingModel σ)
    (mode : CallMode) (question : Question) :
    fillVector model mode sql question
      = (model.ofQuestion mode question.text).andThen fun v => Session.done (withVector sql v) := by
  rw [fillVector_eq, if_pos ((Text.occursIn_iff _ _).mpr h)]
  rfl

/-- Under watch: one call is noted, and what it fails with or gives decides the outcome. -/
lemma watched_fillVector_of_place {sql : String} (h : HasPlace sql) (model : EmbeddingModel σ)
    (mode : CallMode) (question : Question) (state : σ) (calls : List Call) :
    fillVector model.watched mode sql question (state, calls)
      = ((model.ofQuestion mode question.text state).1.map (withVector sql),
        (model.ofQuestion mode question.text state).2,
        calls ++ [⟨.questionVector mode question.text,
          (model.ofQuestion mode question.text state).1⟩]) := by
  have hcall : model.watched.ofQuestion mode question.text (state, calls)
      = ((model.ofQuestion mode question.text state).1,
        (model.ofQuestion mode question.text state).2,
        calls ++ [⟨.questionVector mode question.text,
          (model.ofQuestion mode question.text state).1⟩]) := rfl
  rw [fillVector_of_place h]
  rcases hasked : model.ofQuestion mode question.text state with ⟨failure | v, reached⟩
  · rw [hasked] at hcall
    rw [Session.andThen_of_error hcall]
    rfl
  · rw [hasked] at hcall
    rw [Session.andThen_of_ok hcall]
    rfl

/-- Of the question only the words are looked at. -/
lemma fillVector_congr {question question' : Question} (h : question.text = question'.text)
    (model : EmbeddingModel σ) (mode : CallMode) (sql : String) :
    fillVector model mode sql question = fillVector model mode sql question' := by
  rw [fillVector_eq, fillVector_eq, h]

/-! ### Statements put together with places -/

/-- Between two parts there is a place. -/
lemma hasPlace_joined (first next : String) (parts : List String) :
    HasPlace ("[query_vector]".intercalate (first :: next :: parts)) := by
  rw [HasPlace, String.toList_intercalate, List.map_cons, List.map_cons,
    List.intercalate_cons_cons]
  exact ⟨first.toList, _, rfl⟩

/-- The vector is put between the parts, and nowhere else. -/
lemma withVector_joined {parts : List String} (hne : parts ≠ [])
    (hparts : ∀ part ∈ parts, ¬ HasPlace part) (v : Embedding) :
    withVector ("[query_vector]".intercalate parts) v = v.toText.intercalate parts := by
  have hpieces : ∀ piece ∈ parts.map String.toList, ¬ placeholder <:+: piece := by
    intro piece hpiece
    obtain ⟨part, hpart, rfl⟩ := List.mem_map.mp hpiece
    exact hparts part hpart
  have hsql : ("[query_vector]".intercalate parts).toList
      = List.intercalate placeholder (parts.map String.toList) := String.toList_intercalate
  have hfilled : (v.toText.intercalate parts).toList
      = List.intercalate (Embedding.chars v) (parts.map String.toList) := by
    rw [String.toList_intercalate, Embedding.toText, String.toList_ofList]
  rw [← String.toList_inj, withVector, String.toList_ofList, hsql, hfilled]
  exact Text.replaceAll_intercalate not_mem_placeholder_tail (mt List.map_eq_nil_iff.mp hne) hpieces
    (Embedding.chars v)

/-- **Vectors in their places.** Let a statement be put together from parts without a place for a
vector, with such places between them. If there is one part only, it is returned and the model is
not asked. Otherwise the model is asked once, with the words of the question; a failure of it is
returned as it is, and from a vector the same parts with its text between them. -/
theorem fillVector_joined (model : EmbeddingModel σ) (mode : CallMode) (question : Question)
    {parts : List String} (hne : parts ≠ []) (hparts : ∀ part ∈ parts, ¬ HasPlace part) (state : σ)
    (calls : List Call) :
    (∀ part, parts = [part] →
      fillVector model.watched mode ("[query_vector]".intercalate parts) question (state, calls)
        = (.ok part, state, calls))
    ∧ (1 < parts.length →
      fillVector model.watched mode ("[query_vector]".intercalate parts) question (state, calls)
        = ((model.ofQuestion mode question.text state).1.map fun v => v.toText.intercalate parts,
          (model.ofQuestion mode question.text state).2,
          calls ++ [⟨.questionVector mode question.text,
            (model.ofQuestion mode question.text state).1⟩])) := by
  refine ⟨?_, fun hlength => ?_⟩
  · rintro part rfl
    have hpart : ¬ HasPlace part := hparts part List.mem_cons_self
    rw [String.intercalate_singleton, fillVector_of_no_place hpart]
    rfl
  · obtain ⟨first, next, rest, rfl⟩ : ∃ first next rest, parts = first :: next :: rest := by
      match parts, hlength with
      | first :: next :: rest, _ => exact ⟨first, next, rest, rfl⟩
    have hfilled : withVector ("[query_vector]".intercalate (first :: next :: rest))
        = fun v => v.toText.intercalate (first :: next :: rest) :=
      funext (withVector_joined hne hparts)
    rw [watched_fillVector_of_place (hasPlace_joined first next rest), hfilled]

/-- Parts that begin and end like a place for a vector. -/
def bracketedParts : List String := ["SELECT '[query_", "' <-> '", "vector]'"]

/-- A model that gives the same vector for every question. -/
def steadyModel (v : Embedding) : EmbeddingModel Unit := .ofQuestions fun _ => .done v

/-- The two places between such parts are found, and the model is asked once. -/
theorem bracketedParts_joined :
    bracketedParts ≠ [] ∧ (∀ part ∈ bracketedParts, ¬ HasPlace part)
    ∧ fillVector (steadyModel [0.5, -1]).watched .async
        "SELECT '[query_[query_vector]' <-> '[query_vector]vector]'" { text := "similar items" }
        ((), [])
      = (.ok "SELECT '[query_[0.5, -1.0]' <-> '[0.5, -1.0]vector]'", (),
          [⟨.questionVector .async "similar items", .ok [0.5, -1]⟩]) := by
  have hne : bracketedParts ≠ [] := by decide
  have hparts : ∀ part ∈ bracketedParts, ¬ HasPlace part := by decide +kernel
  have hsql : "[query_vector]".intercalate bracketedParts
      = "SELECT '[query_[query_vector]' <-> '[query_vector]vector]'" := by decide +kernel
  have hfilled : (Embedding.toText [0.5, -1]).intercalate bracketedParts
      = "SELECT '[query_[0.5, -1.0]' <-> '[0.5, -1.0]vector]'" := by decide +kernel
  have hrun := (fillVector_joined (steadyModel [0.5, -1]) .async { text := "similar items" } hne
    hparts () []).2 (by decide)
  rw [hsql] at hrun
  refine ⟨hne, hparts, ?_⟩
  rw [hrun, ← hfilled]
  rfl

/-! ### What is left behind -/

/-- Within a vector no place begins: behind its first bracket stands no letter of the place, and
there is no other such bracket in it. -/
lemma clear_vector (v : Embedding) (rest : List Char) :
    Text.Clear placeholder (Embedding.chars v) rest := by
  obtain ⟨c, more, hchars, hmore⟩ := Embedding.exists_cons_chars v
  rw [hchars, Text.clear_cons_iff]
  constructor
  · intro h
    have hletter : ¬ ('q' ∈ [']', ',', ' '] ∨ Embedding.layout.Writes 'q') := by decide
    obtain ⟨-, h⟩ := List.cons_prefix_cons.mp h
    obtain ⟨rfl, -⟩ := List.cons_prefix_cons.mp h
    exact hletter (hmore 'q' List.mem_cons_self)
  · refine Text.Clear.of_not_mem (fun h => ?_) rest
    have hbracket : ¬ ('[' ∈ [']', ',', ' '] ∨ Embedding.layout.Writes '[') := by decide
    exact hbracket (hmore '[' h)

/-- No place is left in a statement whose places are filled in, and none comes into being. -/
lemma not_hasPlace_withVector (sql : String) (v : Embedding) : ¬ HasPlace (withVector sql v) := by
  obtain ⟨c, more, hchars, -⟩ := Embedding.exists_cons_chars v
  have hclear := clear_vector v
  rw [hchars] at hclear
  rw [HasPlace, withVector, String.toList_ofList, hchars]
  exact Text.not_infix_replaceAll_self placeholder_ne_nil not_mem_placeholder_tail hclear _

/-- The characters that end or cut a quoted text, a name or a statement. -/
def delimiters : List Char := ['\'', '"', '\x60', ';', '\n', '\r', '\\']

/-- None of them is in a vector. -/
lemma not_mem_delimiters {v : Embedding} {c : Char} (h : c ∈ Embedding.chars v) :
    c ∉ delimiters := by
  have hnone : delimiters.all
      (fun d => decide (¬ (d ∈ ['[', ']', ',', ' '] ∨ Embedding.layout.Writes d))) = true := by
    decide
  exact fun hc => of_decide_eq_true (List.all_eq_true.mp hnone c hc) (Embedding.mem_chars h)

/-- So they stay as they are, in their order, when a vector is put in. -/
lemma delimiters_withVector (sql : String) (v : Embedding) :
    (withVector sql v).toList.filter (· ∈ delimiters) = sql.toList.filter (· ∈ delimiters) := by
  have hplace : placeholder.all (fun c => !decide (c ∈ delimiters)) = true := by decide
  have hvector : ∀ c ∈ Embedding.chars v, decide (c ∈ delimiters) = false :=
    fun c hc => decide_eq_false (not_mem_delimiters hc)
  rw [withVector, String.toList_ofList]
  exact Text.filter_replaceAll (by simpa using hplace) hvector _

/-- What is returned is the statement, if it has no place, or the statement with the vector that
the model has given. -/
lemma fillVector_ok_cases {model : EmbeddingModel σ} {mode : CallMode} {sql filled : String}
    {question : Question} {state reached : σ}
    (h : fillVector model mode sql question state = (.ok filled, reached)) :
    (filled = sql ∧ ¬ HasPlace sql) ∨ ∃ v, filled = withVector sql v := by
  by_cases hplace : HasPlace sql
  · rw [fillVector_of_place hplace] at h
    obtain ⟨v, _, -, hdone⟩ := Session.of_bind_ok h
    exact .inr ⟨v, (Except.ok.inj (congrArg Prod.fst hdone)).symm⟩
  · rw [fillVector_of_no_place hplace] at h
    exact .inl ⟨(Except.ok.inj (congrArg Prod.fst h)).symm, hplace⟩

/-- **Filled in once and for all.** A statement that filling in has returned has no place for a
vector, so filling it in again returns it, whatever model there is, and asks no one. No vector holds
a quote, a semicolon, a new line or a backslash; so the statement has the same ones as before, in
the same order and number. -/
theorem fillVector_leavesNoPlace (model : EmbeddingModel σ) (mode : CallMode)
    {sql filled : String} (question : Question) {state reached : σ}
    (h : fillVector model mode sql question state = (.ok filled, reached)) :
    ¬ HasPlace filled
    ∧ (∀ {τ : Type} (other : EmbeddingModel τ) (mode' : CallMode) (question' : Question),
      fillVector other mode' filled question' = Session.done filled)
    ∧ (∀ v : Embedding, ∀ c ∈ v.toText.toList, c ∉ delimiters)
    ∧ filled.toList.filter (· ∈ delimiters) = sql.toList.filter (· ∈ delimiters)
    ∧ ∀ c ∈ delimiters, filled.toList.count c = sql.toList.count c := by
  have hplace : ¬ HasPlace filled := by
    rcases fillVector_ok_cases h with ⟨rfl, hsql⟩ | ⟨v, rfl⟩
    · exact hsql
    · exact not_hasPlace_withVector sql v
  have hdelimiters : filled.toList.filter (· ∈ delimiters)
      = sql.toList.filter (· ∈ delimiters) := by
    rcases fillVector_ok_cases h with ⟨rfl, -⟩ | ⟨v, rfl⟩
    · rfl
    · exact delimiters_withVector sql v
  refine ⟨hplace, fun other mode' question' => fillVector_of_no_place hplace other mode' question',
    fun v c hc => ?_, hdelimiters, fun c hc => ?_⟩
  · rw [Embedding.toText, String.toList_ofList] at hc
    exact not_mem_delimiters hc
  · exact Text.count_eq_of_filter_eq (decide_eq_true hc) hdelimiters

/-- A model that gives no vector. -/
def silentModel : EmbeddingModel Unit := .ofQuestions fun _ => .fail (.embedding .noVector)

/-- The empty vector between the halves of a place makes no place of them. -/
theorem halves_leavesNoPlace :
    fillVector (steadyModel []) .blocking "SELECT '[query_[query_vector]vector]'"
        { text := "similar items" } () = (.ok "SELECT '[query_[]vector]'", ())
    ∧ ¬ HasPlace "SELECT '[query_[]vector]'"
    ∧ fillVector silentModel .async "SELECT '[query_[]vector]'" { text := "others" } ()
      = (.ok "SELECT '[query_[]vector]'", ()) := by
  have hbefore : HasPlace "SELECT '[query_[query_vector]vector]'" := by decide +kernel
  have hfilled : withVector "SELECT '[query_[query_vector]vector]'" []
      = "SELECT '[query_[]vector]'" := by decide +kernel
  have hrun : fillVector (steadyModel []) .blocking "SELECT '[query_[query_vector]vector]'"
      { text := "similar items" } () = (.ok "SELECT '[query_[]vector]'", ()) := by
    rw [fillVector_of_place hbefore, ← hfilled]
    rfl
  obtain ⟨hplace, hagain, -⟩ :=
    fillVector_leavesNoPlace (steadyModel []) .blocking { text := "similar items" } hrun
  exact ⟨hrun, hplace, by rw [hagain]; rfl⟩

end AskSql.Statement
