import AskSql.Proofs.Text.ByteOrder
import AskSql.Sqlite.Catalogue
import Mathlib.Data.List.Nodup

/-!
What SQLite is taken to answer about its tables.

The answers are those of the program behind the database, so nothing is known of them but what its
documentation says: a name that a table has is told once, unless the pattern matches it, and the
names come in the order of their bytes, as the database stores its texts; the rows about a table are
those of the table that the name stands for, a temporary one before one of the database itself. All
this is put down in `Schema.Answers`. The answers that are made up for known tables are of this
kind.

* `Matches`, `likes_iff`: the texts that a pattern matches.
* `readIdentifier_quoteIdentifier`: a quoted name stands for the name.
* `DistinctNames`: tables as they stand beside each other in a database.
* `Lists`: the names of a kind, each once.
* `Schema.Answers`: what is taken for granted of the answers.
* `Schema.ofTables_answers`: there are such answers about any tables.
-/

namespace AskSql.Sqlite

/-! ### Patterns -/

/-- The texts that a pattern matches from end to end. -/
inductive Matches : List Mark → List Char → Prop
  | nil : Matches [] []
  | anyTextEnds {rest : List Mark} {s : List Char} (h : Matches rest s) :
      Matches (.anyText :: rest) s
  | anyTextGoesOn {rest : List Mark} {c : Char} {s : List Char}
      (h : Matches (.anyText :: rest) s) : Matches (.anyText :: rest) (c :: s)
  | anyChar {rest : List Mark} {c : Char} {s : List Char} (h : Matches rest s) :
      Matches (.anyChar :: rest) (c :: s)
  | letter {rest : List Mark} {a c : Char} {s : List Char} (hcase : a.toLower = c.toLower)
      (h : Matches rest s) : Matches (.letter a :: rest) (c :: s)

lemma matches_nil_iff {s : List Char} : Matches [] s ↔ s = [] := by
  refine ⟨fun h => by cases h; rfl, ?_⟩
  rintro rfl
  exact .nil

/-- Any text may stand before what the rest of the pattern matches. -/
lemma matches_anyText_iff {rest : List Mark} {s : List Char} :
    Matches (.anyText :: rest) s ↔ ∃ before after, s = before ++ after ∧ Matches rest after := by
  constructor
  · intro h
    generalize hmarks : Mark.anyText :: rest = pattern at h
    induction h with
    | nil => cases hmarks
    | @anyTextEnds _ s h ih =>
        obtain rfl := (List.cons.inj hmarks).2
        exact ⟨[], s, rfl, h⟩
    | @anyTextGoesOn _ c s h ih =>
        obtain ⟨before, after, rfl, hafter⟩ := ih hmarks
        exact ⟨c :: before, after, rfl, hafter⟩
    | anyChar h ih => cases hmarks
    | letter hcase h ih => cases hmarks
  · rintro ⟨before, after, rfl, h⟩
    induction before with
    | nil => exact .anyTextEnds h
    | cons c before ih => exact .anyTextGoesOn ih

lemma matches_anyChar_iff {rest : List Mark} {s : List Char} :
    Matches (.anyChar :: rest) s ↔ ∃ c tail, s = c :: tail ∧ Matches rest tail := by
  constructor
  · rintro (_ | _ | _ | h)
    exact ⟨_, _, rfl, h⟩
  · rintro ⟨c, tail, rfl, h⟩
    exact .anyChar h

lemma matches_letter_iff {a : Char} {rest : List Mark} {s : List Char} :
    Matches (.letter a :: rest) s
      ↔ ∃ c tail, s = c :: tail ∧ a.toLower = c.toLower ∧ Matches rest tail := by
  constructor
  · rintro (_ | _ | _ | _ | ⟨hcase, h⟩)
    exact ⟨_, _, rfl, hcase, h⟩
  · rintro ⟨c, tail, rfl, hcase, h⟩
    exact .letter hcase h

/-- A text is tried against a pattern character by character. -/
theorem likes_iff (pattern : List Mark) (s : List Char) :
    likes pattern s = true ↔ Matches pattern s := by
  induction pattern generalizing s with
  | nil => rw [likes, List.isEmpty_iff, matches_nil_iff]
  | cons mark rest ih =>
      cases mark with
      | anyText =>
          rw [likes, List.any_eq_true, matches_anyText_iff]
          constructor
          · rintro ⟨n, -, h⟩
            exact ⟨s.take n, s.drop n, (List.take_append_drop n s).symm, (ih _).mp h⟩
          · rintro ⟨before, after, rfl, h⟩
            refine ⟨before.length, ?_, (ih _).mpr (by rwa [List.drop_left])⟩
            rw [List.mem_range, List.length_append]
            omega
      | anyChar => cases s <;> simp [likes, matches_anyChar_iff, ih]
      | letter a => cases s <;> simp [likes, matches_letter_iff, ih]

/-! ### Identifiers -/

lemma readQuoted_flatMap (name : List Char) :
    readQuoted (name.flatMap quoteChar ++ ['"']) = some name := by
  induction name with
  | nil => rfl
  | cons c name ih =>
      rw [List.flatMap_cons, List.append_assoc, quoteChar]
      split
      · next hc =>
          subst hc
          exact congrArg (Option.map _) ih
      · next hc =>
          have hstep : ∀ s, readQuoted (c :: s) = (readQuoted s).map (c :: ·) := by
            intro s
            rw [readQuoted.eq_4 _ _ (fun h _ => hc h) (fun _ h _ => hc h), if_neg hc]
          exact (hstep _).trans (congrArg (Option.map _) ih)

/-- A quoted name stands for the name. -/
@[simp]
lemma readIdentifier_quoteIdentifier (name : String) :
    readIdentifier (quoteIdentifier name) = some name := by
  have hread : readIdentifier (quoteIdentifier name)
      = (readQuoted (name.toList.flatMap quoteChar ++ ['"'])).map String.ofList := by
    rw [readIdentifier, quoteIdentifier, String.toList_ofList, List.cons_append]
    rfl
  rw [hread, readQuoted_flatMap, Option.map_some, String.ofList_toList]

/-! ### Tables beside each other -/

/-- No two tables have names that are equal up to the case of ASCII letters. -/
def DistinctNames (tables : List TableRows) : Prop :=
  tables.Pairwise fun a b => sameName a.name b.name = false
deriving Decidable

lemma sameName_self (name : String) : sameName name name = true := beq_self_eq_true _

lemma DistinctNames.nodup {tables : List TableRows} (h : DistinctNames tables) :
    (tables.map (·.name)).Nodup := by
  refine List.pairwise_map.mpr (h.imp fun {a b} hdistinct heq => ?_)
  rw [heq, sameName_self] at hdistinct
  cases hdistinct

/-- Among such tables a name stands for the one that has it. -/
lemma DistinctNames.find?_eq {tables : List TableRows} (h : DistinctNames tables)
    {table : TableRows} (htable : table ∈ tables) :
    tables.find? (fun other => sameName other.name table.name) = some table := by
  induction tables with
  | nil => cases htable
  | cons first tables ih =>
      obtain ⟨hfirst, hrest⟩ := List.pairwise_cons.mp h
      rcases List.mem_cons.mp htable with rfl | htable
      · exact List.find?_cons_of_pos (sameName_self _)
      · rw [List.find?_cons_of_neg (by rw [hfirst table htable]; exact Bool.false_ne_true)]
        exact ih hrest htable

/-- A table that no temporary one stands in front of is the one that its name stands for. -/
lemma resolve_of_mem {temporary main : List TableRows} (h : DistinctNames main) {table : TableRows}
    (htable : table ∈ main) (hfree : ∀ other ∈ temporary, sameName other.name table.name = false) :
    resolve temporary main table.name = some table := by
  have hnone : temporary.find? (fun other => sameName other.name table.name) = none := by
    rw [List.find?_eq_none]
    intro other hother
    rw [hfree other hother]
    exact Bool.false_ne_true
  rw [resolve, List.find?_append, hnone, h.find?_eq htable, Option.none_or]

/-- The name of a table stands for some table. -/
lemma exists_resolve (temporary : List TableRows) {main : List TableRows} {name : String}
    (h : name ∈ main.map (·.name)) : ∃ table, resolve temporary main name = some table := by
  obtain ⟨table, htable, rfl⟩ := List.mem_map.mp h
  rw [← Option.isSome_iff_exists, resolve, List.find?_isSome]
  exact ⟨table, List.mem_append_right _ htable, sameName_self _⟩

/-- What is answered about an identifier are the rows about the table that its name stands for. -/
lemma aboutTable_of_resolve {α : Type} {temporary main : List TableRows} {identifier name : String}
    {table : TableRows} (hname : readIdentifier identifier = some name)
    (htable : resolve temporary main name = some table) (rows : TableRows → List α) :
    aboutTable temporary main rows identifier = .ok (rows table) := by
  simp only [aboutTable, hname, htable, Option.map_some, Option.getD_some]

/-! ### Answers -/

/-- All names of a kind, each once. -/
structure Lists (names : List String) (listed : String → Prop) : Prop where
  mem_iff : ∀ name, name ∈ names ↔ listed name
  nodup : names.Nodup

namespace Schema

/-- What is taken for granted of the answers about a database, from the bytes that it stores texts
as, its tables, and the temporary tables beside them. -/
structure Answers (schema : Schema) (encode : String → List UInt8)
    (main temporary : List TableRows) : Prop where
  /-- A database does not hold two tables of the same name. -/
  distinct : DistinctNames main
  /-- The names that the pattern does not match are told, in the order of their bytes. -/
  names : ∃ names, schema.names "sqlite_%" = .ok names
    ∧ Lists names (fun name =>
        name ∈ main.map (·.name) ∧ ¬ Matches (marks "sqlite_%") name.toList)
    ∧ names.Pairwise fun a b => encode a ≤ encode b
  /-- Asked for by an identifier, the columns are those of the table that its name stands for. -/
  columns : ∀ identifier name table, readIdentifier identifier = some name →
    resolve temporary main name = some table → schema.columns identifier = .ok table.columns
  /-- So are the foreign keys. -/
  foreignKeys : ∀ identifier name table, readIdentifier identifier = some name →
    resolve temporary main name = some table → schema.foreignKeys identifier = .ok table.keys

/-- There are such answers about any tables, in any order of bytes. -/
theorem ofTables_answers {main : List TableRows} (hmain : DistinctNames main)
    (temporary : List TableRows) {encode : String → List UInt8} {before : String → String → Bool}
    (hbefore : ∀ a b, before a b = true ↔ encode a ≤ encode b) :
    (Schema.ofTables main temporary before).Answers encode main temporary where
  distinct := hmain
  names := by
    refine ⟨_, rfl, ⟨fun name => ?_, ?_⟩, ?_⟩
    · rw [List.mem_mergeSort, List.mem_filter, ← likes_iff, Bool.not_eq_true', Bool.not_eq_true]
    · exact (List.mergeSort_perm _ _).nodup_iff.mpr (hmain.nodup.filter _)
    · have htrans (a b c : String) (hab : before a b = true) (hbc : before b c = true) :
          before a c = true :=
        (hbefore a c).mpr (List.le_trans ((hbefore a b).mp hab) ((hbefore b c).mp hbc))
      have htotal (a b : String) : (before a b || before b a) = true := by
        rw [Bool.or_eq_true, hbefore, hbefore]
        exact List.le_total _ _
      exact (List.pairwise_mergeSort htrans htotal _).imp fun {a b} => (hbefore a b).mp
  columns _ _ _ hname htable := aboutTable_of_resolve hname htable _
  foreignKeys _ _ _ hname htable := aboutTable_of_resolve hname htable _

/-- Texts that are stored as UTF-8 are told in their own order. -/
lemma ofTables_answers_utf8 {main : List TableRows} (hmain : DistinctNames main)
    (temporary : List TableRows) :
    (Schema.ofTables main temporary).Answers Text.utf8 main temporary :=
  ofTables_answers hmain temporary fun a b => by rw [decide_eq_true_iff, Text.utf8_le_iff]

end Schema

end AskSql.Sqlite
