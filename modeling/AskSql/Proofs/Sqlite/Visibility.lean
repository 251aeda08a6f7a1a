import AskSql.Proofs.Sqlite.Answers
import AskSql.Sqlite

/-!
Which tables of a SQLite database can be seen.

Names that begin with `sqlite_`, in any case of ASCII letters, belong to SQLite, and no table of a
user has one. The listing leaves out the names that a pattern of the same spelling matches, but in a
pattern the underscore stands for any one character. So what is left out are the tables of SQLite
and those of a user whose names begin with `sqlite` and go on with something else.

The listing, the description of a table and both lists of names ask for the same thing, so a table
is seen by all of them or by none.

* `Reserved`, `Masked`: the two kinds of names that the pattern matches.
* `TableRows.text`: the text that tells a table.
* `Connection.Shows`: the tables of a kind are seen, and no others.
* `Connection.shows_unmatched`: which tables are seen, and when they are all that a user has made.
-/

namespace AskSql.Sqlite

variable {σ : Type}

/-! ### Hidden names -/

/-- Letters match themselves up to their case. -/
lemma matches_letters_iff {w : List Char} {rest : List Mark} {s : List Char} :
    Matches (w.map Mark.letter ++ rest) s
      ↔ ∃ t u, s = t ++ u ∧ t.map Char.toLower = w.map Char.toLower ∧ Matches rest u := by
  induction w generalizing s with
  | nil =>
      refine ⟨fun h => ⟨[], s, rfl, rfl, h⟩, ?_⟩
      rintro ⟨t, u, rfl, ht, h⟩
      obtain rfl := List.map_eq_nil_iff.mp ht
      exact h
  | cons a w ih =>
      rw [List.map_cons, List.cons_append, matches_letter_iff]
      constructor
      · rintro ⟨c, tail, rfl, hcase, h⟩
        obtain ⟨t, u, rfl, ht, hu⟩ := ih.mp h
        refine ⟨c :: t, u, rfl, ?_, hu⟩
        rw [List.map_cons, List.map_cons, ht, hcase]
      · rintro ⟨t, u, rfl, ht, hu⟩
        rw [List.map_cons] at ht
        obtain ⟨c, tail, rfl, hcase, htail⟩ := List.map_eq_cons_iff.mp ht
        exact ⟨c, tail ++ u, rfl, hcase.symm, ih.mpr ⟨tail, u, rfl, htail, hu⟩⟩

/-- A name that belongs to SQLite. -/
def Reserved (name : String) : Prop := "sqlite_".toList <+: folded name
deriving Decidable

/-- A name that the pattern matches, though it does not belong to SQLite. -/
def Masked (name : String) : Prop :=
  ∃ c rest, folded name = "sqlite".toList ++ c :: rest ∧ c ≠ '_'

/-- **A hidden name goes on after its first six letters.** -/
theorem matches_hidden_iff (name : String) :
    Matches (marks "sqlite_%") name.toList
      ↔ ∃ c rest, folded name = "sqlite".toList ++ c :: rest := by
  have hmarks : marks "sqlite_%" = "sqlite".toList.map Mark.letter ++ [.anyChar, .anyText] := by
    decide
  rw [hmarks, matches_letters_iff]
  constructor
  · rintro ⟨t, u, hname, ht, hu⟩
    obtain ⟨d, tail, rfl, -⟩ := matches_anyChar_iff.mp hu
    refine ⟨d.toLower, tail.map Char.toLower, ?_⟩
    rw [folded, hname, List.map_append, ht]
    rfl
  · rintro ⟨c, rest, heq⟩
    obtain ⟨t, u, hname, ht, hu⟩ := List.map_eq_append_iff.mp heq
    obtain ⟨d, tail, rfl, -, -⟩ := List.map_eq_cons_iff.mp hu
    have htail : Matches [.anyText] tail :=
      matches_anyText_iff.mpr ⟨tail, [], (List.append_nil tail).symm, .nil⟩
    exact ⟨t, d :: tail, hname, ht, matches_anyChar_iff.mpr ⟨d, tail, rfl, htail⟩⟩

/-- Either the seventh character is the underscore or it is not. -/
lemma matches_hidden_iff_reserved_or_masked (name : String) :
    Matches (marks "sqlite_%") name.toList ↔ Reserved name ∨ Masked name := by
  rw [matches_hidden_iff]
  constructor
  · rintro ⟨c, rest, heq⟩
    by_cases hc : c = '_'
    · exact .inl ⟨rest, by rw [heq, hc]; rfl⟩
    · exact .inr ⟨c, rest, heq, hc⟩
  · rintro (⟨rest, heq⟩ | ⟨c, rest, heq, -⟩)
    · exact ⟨'_', rest, heq.symm⟩
    · exact ⟨c, rest, heq⟩

/-- The underscore is not another character. -/
lemma masked_iff (name : String) :
    Masked name ↔ Matches (marks "sqlite_%") name.toList ∧ ¬ Reserved name := by
  refine ⟨fun h => ⟨(matches_hidden_iff_reserved_or_masked name).mpr (.inr h), ?_⟩,
    fun ⟨hmatches, h⟩ =>
      ((matches_hidden_iff_reserved_or_masked name).mp hmatches).resolve_left h⟩
  obtain ⟨c, rest, heq, hc⟩ := h
  rintro ⟨tail, hreserved⟩
  rw [heq] at hreserved
  have hwhole : "sqlite".toList ++ '_' :: tail = "sqlite".toList ++ c :: rest := hreserved
  have hcons : '_' :: tail = c :: rest := List.append_cancel_left hwhole
  exact hc (List.cons.inj hcons).1.symm

instance (name : String) : Decidable (Masked name) :=
  decidable_of_iff (likes (marks "sqlite_%") name.toList = true ∧ ¬ Reserved name)
    (by rw [likes_iff, masked_iff])

/-! ### Sorted names -/

/-- Names that are sorted ascend, with equal names beside each other. -/
lemma sorted_ascending (names : List String) :
    (names.mergeSort fun a b => a ≤ b).Pairwise fun a b => Text.utf8 a ≤ Text.utf8 b := by
  have htrans (a b c : String) (hab : decide (a ≤ b) = true) (hbc : decide (b ≤ c) = true) :
      decide (a ≤ c) = true :=
    decide_eq_true (String.le_trans (of_decide_eq_true hab) (of_decide_eq_true hbc))
  have htotal (a b : String) : (decide (a ≤ b) || decide (b ≤ a)) = true := by
    simpa using String.le_total a b
  exact (List.pairwise_mergeSort htrans htotal names).imp fun hle =>
    (Text.utf8_le_iff _ _).mpr (of_decide_eq_true hle)

/-! ### The tables of a database -/

/-- The text that tells a table under a name: its columns with their types, and its foreign keys. -/
def TableRows.text (table : TableRows) (name : String) : String :=
  "Table '" ++ name ++ "' has columns: "
    ++ ", ".intercalate (table.columns.map fun column => column.name ++ " (" ++ column.type ++ ")")
    ++ ", and foreign keys: "
    ++ ", ".intercalate (table.keys.map fun key =>
        key.column ++ " -> " ++ key.table ++ "." ++ key.target.getD "")
    ++ "."

namespace Connection

/-- What has been answered is handed on. -/
private lemma ok_bind {α β : Type} (x : α) (next : α → Except Failure β) :
    (Except.ok x >>= next) = next x := rfl

section Tables

variable {c : Connection σ} {tables : List String} {name : String}

/-- No name of a list is missing if all of them are visible. -/
lemma find?_missing_iff (tables names : List String) :
    names.find? (fun name => !tables.contains name) = none ↔ ∀ name ∈ names, name ∈ tables := by
  rw [List.find?_eq_none]
  refine forall₂_congr fun name _ => ?_
  rw [Bool.not_eq_true', Bool.not_eq_false, List.contains_iff_mem]

/-- A list of names to include is accepted if all of them are visible. -/
lemma including_eq_ok_iff (htables : c.tables = .ok tables) (names : List String)
    (restricted : Connection σ) :
    c.including names = .ok restricted
      ↔ (∀ name ∈ names, name ∈ tables) ∧ restricted = { c with included := some names } := by
  rw [← find?_missing_iff, including, htables, ok_bind]
  cases names.find? fun name => !tables.contains name with
  | none => exact ⟨fun h => ⟨rfl, (Except.ok.inj h).symm⟩, fun h => congrArg Except.ok h.2.symm⟩
  | some name => exact ⟨nofun, fun h => nomatch h.1⟩

/-- A list of names to hide is accepted if all of them are visible. -/
lemma ignoring_eq_ok_iff (htables : c.tables = .ok tables) (names : List String)
    (restricted : Connection σ) :
    c.ignoring names = .ok restricted
      ↔ (∀ name ∈ names, name ∈ tables) ∧ restricted = { c with ignored := names } := by
  rw [← find?_missing_iff, ignoring, htables, ok_bind]
  cases names.find? fun name => !tables.contains name with
  | none => exact ⟨fun h => ⟨rfl, (Except.ok.inj h).symm⟩, fun h => congrArg Except.ok h.2.symm⟩
  | some name => exact ⟨nofun, fun h => nomatch h.1⟩

/-- What is not visible is not described. -/
lemma describe_of_not_mem (htables : c.tables = .ok tables) (hname : name ∉ tables) :
    c.describe name = .error (.database (.tableNotFound name)) := by
  rw [describe, htables, ok_bind, if_neg (mt List.contains_iff_mem.mp hname)]

variable {encode : String → List UInt8} {main temporary : List TableRows}

/-- What is visible is described by the rows about the table that its name stands for. -/
lemma describe_of_mem (hanswers : c.schema.Answers encode main temporary)
    (htables : c.tables = .ok tables) (hname : name ∈ tables) {table : TableRows}
    (htable : resolve temporary main name = some table) :
    c.describe name = .ok (table.text name) := by
  have hcolumns := hanswers.columns _ name table (readIdentifier_quoteIdentifier name) htable
  have hkeys := hanswers.foreignKeys _ name table (readIdentifier_quoteIdentifier name) htable
  rw [describe, htables, ok_bind, if_pos (List.contains_iff_mem.mpr hname), hcolumns,
    hkeys]
  rfl

end Tables

/-! ### What is seen of a database -/

/-- No list of names has been given. -/
structure Unrestricted (c : Connection σ) : Prop where
  included : c.included = none
  ignored : c.ignored = []

/-- Without lists the visible tables may be used. -/
lemma Unrestricted.usable_eq {c : Connection σ} (h : c.Unrestricted) : c.usable = c.tables := by
  have hkept : (fun name => !([] : List String).contains name) = fun _ => true := rfl
  rw [usable, h.included, h.ignored]
  dsimp only
  rw [hkept]
  cases c.tables with
  | error failure => rfl
  | ok tables => exact congrArg Except.ok (List.filter_true tables)

/-- The tables of a kind are seen, and no others. -/
structure Shows (c : Connection σ) (encode : String → List UInt8) (main temporary : List TableRows)
    (shown : String → Prop) : Prop where
  /-- Their names are listed, in the order of their bytes. -/
  listed : ∃ names, c.usable = .ok names
    ∧ Lists names (fun name => name ∈ main.map (·.name) ∧ shown name)
    ∧ names.Pairwise fun a b => encode a ≤ encode b
  /-- Each of them is described as the table that its name stands for, and there is no description
  of anything else. -/
  described : ∀ name text, c.describe name = .ok text
    ↔ (name ∈ main.map (·.name) ∧ shown name)
      ∧ ∃ table, resolve temporary main name = some table ∧ text = table.text name
  /-- A list of tables to include may hold their names and no others. -/
  included : ∀ names, (∃ restricted, c.including names = .ok restricted)
    ↔ ∀ name ∈ names, name ∈ main.map (·.name) ∧ shown name
  /-- A list of tables to hide may hold their names and no others. -/
  ignored : ∀ names, (∃ restricted, c.ignoring names = .ok restricted)
    ↔ ∀ name ∈ names, name ∈ main.map (·.name) ∧ shown name

section Shown

variable {c : Connection σ} {encode : String → List UInt8} {main temporary : List TableRows}
  {shown other : String → Prop}

/-- What is seen of a database tells which of its tables are of the kind. -/
lemma Shows.agree (h : c.Shows encode main temporary shown)
    (hother : c.Shows encode main temporary other) {table : TableRows} (htable : table ∈ main) :
    shown table.name ↔ other table.name := by
  have hname : table.name ∈ main.map (·.name) := List.mem_map_of_mem htable
  obtain ⟨names, hnames, hlists, -⟩ := h.listed
  obtain ⟨others, hothers, hlists', -⟩ := hother.listed
  obtain rfl : names = others := Except.ok.inj (hnames.symm.trans hothers)
  have hsame := (hlists.mem_iff table.name).symm.trans (hlists'.mem_iff table.name)
  simpa only [hname, true_and] using hsame

/-- Only the names of tables matter. -/
lemma Shows.congr (h : c.Shows encode main temporary shown)
    (hsame : ∀ table ∈ main, shown table.name ↔ other table.name) :
    c.Shows encode main temporary other := by
  have hnames : ∀ name,
      name ∈ main.map (·.name) ∧ shown name ↔ name ∈ main.map (·.name) ∧ other name := by
    refine fun name => and_congr_right fun hname => ?_
    obtain ⟨table, htable, rfl⟩ := List.mem_map.mp hname
    exact hsame table htable
  have heq : (fun name => name ∈ main.map (·.name) ∧ shown name)
      = fun name => name ∈ main.map (·.name) ∧ other name :=
    funext fun name => propext (hnames name)
  have hlist : ∀ names : List String, (∀ name ∈ names, name ∈ main.map (·.name) ∧ shown name)
      ↔ ∀ name ∈ names, name ∈ main.map (·.name) ∧ other name := fun names =>
    forall₂_congr fun name _ => hnames name
  refine ⟨heq ▸ h.listed, fun name text => (h.described name text).trans ?_,
    fun names => (h.included names).trans (hlist names),
    fun names => (h.ignored names).trans (hlist names)⟩
  exact and_congr_left fun _ => hnames name

/-- What the pattern does not match is seen. -/
lemma Unrestricted.shows (hopen : c.Unrestricted)
    (hanswers : c.schema.Answers encode main temporary) :
    c.Shows encode main temporary fun name => ¬ Matches (marks "sqlite_%") name.toList := by
  obtain ⟨tables, htables, hlists, hsorted⟩ := hanswers.names
  change c.tables = .ok tables at htables
  have hlist : ∀ names : List String, (∀ name ∈ names, name ∈ tables)
      ↔ ∀ name ∈ names, name ∈ main.map (·.name) ∧ ¬ Matches (marks "sqlite_%") name.toList :=
    fun names => forall₂_congr fun name _ => hlists.mem_iff name
  refine ⟨⟨tables, hopen.usable_eq.trans htables, hlists, hsorted⟩, fun name text => ?_,
    fun names => ?_, fun names => ?_⟩
  · rw [← hlists.mem_iff]
    by_cases hname : name ∈ tables
    · obtain ⟨table, htable⟩ := exists_resolve temporary ((hlists.mem_iff name).mp hname).1
      rw [describe_of_mem hanswers htables hname htable, htable]
      constructor
      · intro h
        exact ⟨hname, table, rfl, (Except.ok.inj h).symm⟩
      · rintro ⟨-, found, hfound, rfl⟩
        rw [Option.some.inj hfound]
    · rw [describe_of_not_mem htables hname]
      exact ⟨nofun, fun h => absurd h.1 hname⟩
  · rw [← hlist]
    simp only [including_eq_ok_iff htables, exists_and_left, exists_eq, and_true]
  · rw [← hlist]
    simp only [ignoring_eq_ok_iff htables, exists_and_left, exists_eq, and_true]

end Shown

/-- **The tables that are seen.** They are those whose names the pattern does not match. So all
tables of a user are seen, and only those of SQLite are not, just if no name begins with `sqlite`
and goes on with another character than the underscore. -/
theorem shows_unmatched (c : Connection σ) {encode : String → List UInt8}
    {main temporary : List TableRows} (hopen : c.Unrestricted)
    (hanswers : c.schema.Answers encode main temporary) :
    c.Shows encode main temporary (fun name => ¬ Matches (marks "sqlite_%") name.toList)
      ∧ (c.Shows encode main temporary (fun name => ¬ Reserved name)
        ↔ ∀ table ∈ main, ¬ Masked table.name) := by
  have hvisible := hopen.shows hanswers
  refine ⟨hvisible, fun h table htable hmasked => ?_, fun h => ?_⟩
  · obtain ⟨hmatches, hfree⟩ := (masked_iff table.name).mp hmasked
    exact (hvisible.agree h htable).mpr hfree hmatches
  · refine hvisible.congr fun table htable => ?_
    rw [matches_hidden_iff_reserved_or_masked, or_iff_left (h table htable)]

end Connection

/-! ### Tables in sight and out of sight -/

/-- An open database that runs no statements. -/
def quietConnection (tables : List TableDefinition) : Connection Unit where
  schema := .ofTables (tables.map TableDefinition.rows)
  execute _ := .fail (.database .notADatabase)

/-- Tables of a user, one of which is called like the program, and one of SQLite. -/
def rivers : List TableDefinition :=
  [⟨"sqlite", [("id", "INTEGER")], []⟩, ⟨"SQLite_sequence", [("name", ""), ("seq", "")], []⟩,
    ⟨"river", [("id", "INTEGER")], []⟩]

lemma rivers_unrestricted : (quietConnection rivers).Unrestricted := ⟨rfl, rfl⟩

lemma rivers_answers : (quietConnection rivers).schema.Answers Text.utf8
    (rivers.map TableDefinition.rows) [] :=
  Schema.ofTables_answers_utf8 (by decide) []

lemma rivers_tables : (quietConnection rivers).tables = .ok ["river", "sqlite"] := by
  have hvisible : (((rivers.map TableDefinition.rows).map (·.name)).filter fun name =>
      !likes (marks hiddenPattern) name.toList) = ["sqlite", "river"] := by decide
  refine congrArg Except.ok ?_
  rw [hvisible]
  simp [List.mergeSort]

/-- All tables of the user are seen among these. -/
theorem rivers_shows :
    (quietConnection rivers).Unrestricted
      ∧ (quietConnection rivers).schema.Answers Text.utf8 (rivers.map TableDefinition.rows) []
      ∧ (quietConnection rivers).usable = .ok ["river", "sqlite"]
      ∧ (quietConnection rivers).Shows Text.utf8 (rivers.map TableDefinition.rows) []
        fun name => ¬ Reserved name := by
  refine ⟨rivers_unrestricted, rivers_answers,
    rivers_unrestricted.usable_eq.trans rivers_tables, ?_⟩
  exact ((quietConnection rivers).shows_unmatched rivers_unrestricted rivers_answers).2.mpr
    (by decide)

/-- Tables of a user, the name of one of which begins like that of the program. -/
def backups : List TableDefinition :=
  [⟨"sqlitedata", [("id", "INTEGER")], []⟩, ⟨"river", [("id", "INTEGER")], []⟩]

lemma backups_tables : (quietConnection backups).tables = .ok ["river"] := by
  have hvisible : (((backups.map TableDefinition.rows).map (·.name)).filter fun name =>
      !likes (marks hiddenPattern) name.toList) = ["river"] := by decide
  refine congrArg Except.ok ?_
  rw [hvisible, List.mergeSort_singleton]

/-- A table of a user that is not listed, not described, and can be neither included nor hidden. -/
theorem backups_unseen :
    (quietConnection backups).Unrestricted
      ∧ (quietConnection backups).schema.Answers Text.utf8 (backups.map TableDefinition.rows) []
      ∧ (∀ table ∈ backups, ¬ Reserved table.name)
      ∧ (quietConnection backups).usable = .ok ["river"]
      ∧ (quietConnection backups).describe "sqlitedata"
        = .error (.database (.tableNotFound "sqlitedata"))
      ∧ (quietConnection backups).including ["sqlitedata"]
        = .error (.configuration (.missingIncluded "sqlitedata"))
      ∧ (quietConnection backups).ignoring ["sqlitedata"]
        = .error (.configuration (.missingIgnored "sqlitedata"))
      ∧ ¬ (quietConnection backups).Shows Text.utf8 (backups.map TableDefinition.rows) []
        fun name => ¬ Reserved name := by
  have hopen : (quietConnection backups).Unrestricted := ⟨rfl, rfl⟩
  have husable : (quietConnection backups).usable = .ok ["river"] :=
    hopen.usable_eq.trans backups_tables
  refine ⟨hopen, Schema.ofTables_answers_utf8 (by decide) [], by decide, husable,
    Connection.describe_of_not_mem backups_tables (by decide), ?_, ?_, fun h => ?_⟩
  · rw [Connection.including, backups_tables]
    rfl
  · rw [Connection.ignoring, backups_tables]
    rfl
  · obtain ⟨names, hnames, hlists, -⟩ := h.listed
    obtain rfl : ["river"] = names := Except.ok.inj (husable.symm.trans hnames)
    have hlisted := (hlists.mem_iff "sqlitedata").mpr ⟨by decide, by decide⟩
    exact absurd hlisted (by decide)

end AskSql.Sqlite
