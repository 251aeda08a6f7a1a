import AskSql.Engine.Container
import AskSql.Proofs.Engine.Stages
import AskSql.Proofs.Session
import AskSql.Proofs.Sqlite.Visibility

/-!
The tables of a SQLite database that an engine gets to see.

Before it is used a database is restricted: tables are included, tables are hidden, texts are
shortened, in any order and any number of times. A name is only accepted if its table is visible, so
however the tables to be used are found, each of them can be described; and then neither the
provider of all tables nor the builder of a container ever fails.

A list of tables to include replaces the listing as it stands, with the names that are repeated in
it and those that are hidden. It is sorted here, as texts are; the listing comes in the order of the
bytes that the database stores, which is the same if it stores UTF-8. A table is described by the
rows about whatever its name stands for, which is the table itself unless a temporary one has the
name as well.

* `Restriction`, `Connection.restrictAll`: a series of restrictions.
* `Connection.RestrictedBy`: what is left of a series that is accepted.
* `Connection.Checked`: names that have been accepted are visible.
* `tableText`: the text of what a name stands for.
* `Connection.Discovers`, `Connection.restrictAll_discovers`: what may be used is described.
* `Wanted`: what the lists say together.
* `Connection.Filters`, `Connection.restrictAll_filters`: what may be used, and when this is what
  the lists say.
-/

namespace AskSql.Sqlite

variable {σ : Type}

/-! ### Restrictions -/

/-- What is set on a database before it is used. -/
inductive Restriction where
  | including (names : List String)
  | ignoring (names : List String)
  | shortening (limit : Nat)

namespace Restriction

/-- The tables to include, if that is what is set. -/
def included? : Restriction → Option (List String)
  | including names => some names
  | _ => none

/-- The tables to hide, if that is what is set. -/
def ignored? : Restriction → Option (List String)
  | ignoring names => some names
  | _ => none

/-- The tables that are named. -/
def names : Restriction → List String
  | including names => names
  | ignoring names => names
  | shortening _ => []

end Restriction

/-- The tables to include that were set last, if any were. -/
def lastIncluded (restrictions : List Restriction) : Option (List String) :=
  restrictions.reverse.findSome? Restriction.included?

/-- The tables to hide that were set last, if any were. -/
def lastIgnored (restrictions : List Restriction) : Option (List String) :=
  restrictions.reverse.findSome? Restriction.ignored?

namespace Connection

/-- The database under one restriction more. -/
def restrict (c : Connection σ) : Restriction → Except Failure (Connection σ)
  | .including names => c.including names
  | .ignoring names => c.ignoring names
  | .shortening limit => .ok { c with textLimit := limit }

/-- The database under restrictions that are set one after the other. -/
def restrictAll (c : Connection σ) : List Restriction → Except Failure (Connection σ)
  | [] => .ok c
  | restriction :: restrictions =>
      (c.restrict restriction).bind fun next => restrictAll next restrictions

/-- What is left of the restrictions that were set on a database. -/
structure RestrictedBy (c restricted : Connection σ) (restrictions : List Restriction) : Prop where
  schema : restricted.schema = c.schema
  included : restricted.included = (lastIncluded restrictions).or c.included
  ignored : restricted.ignored = (lastIgnored restrictions).getD c.ignored

/-- Names that have been accepted are visible. -/
structure Checked (c : Connection σ) (tables : List String) : Prop where
  included : ∀ names ∈ c.included, ∀ name ∈ names, name ∈ tables
  ignored : ∀ name ∈ c.ignored, name ∈ tables

section Restricted

variable {c next restricted : Connection σ} {restriction : Restriction}
  {restrictions more : List Restriction} {tables : List String}

/-- No restriction changes which tables are visible. -/
lemma RestrictedBy.tables_eq (h : c.RestrictedBy restricted restrictions) :
    restricted.tables = c.tables := by
  rw [Connection.tables, Connection.tables, h.schema]

/-- What is set later wins. -/
lemma RestrictedBy.trans (h : c.RestrictedBy next restrictions)
    (hmore : next.RestrictedBy restricted more) :
    c.RestrictedBy restricted (restrictions ++ more) where
  schema := hmore.schema.trans h.schema
  included := by
    rw [hmore.included, h.included, lastIncluded, lastIncluded, lastIncluded, List.reverse_append,
      List.findSome?_append, Option.or_assoc]
  ignored := by
    rw [hmore.ignored, h.ignored, lastIgnored, lastIgnored, lastIgnored, List.reverse_append,
      List.findSome?_append, Option.getD_or]

/-- A single restriction is all that is left of it. -/
lemma restrict_restrictedBy (htables : c.tables = .ok tables)
    (h : c.restrict restriction = .ok restricted) : c.RestrictedBy restricted [restriction] := by
  cases restriction with
  | including names =>
      obtain ⟨-, rfl⟩ := (including_eq_ok_iff htables names restricted).mp h
      exact ⟨rfl, rfl, rfl⟩
  | ignoring names =>
      obtain ⟨-, rfl⟩ := (ignoring_eq_ok_iff htables names restricted).mp h
      exact ⟨rfl, rfl, rfl⟩
  | shortening limit =>
      obtain rfl := Except.ok.inj h
      exact ⟨rfl, rfl, rfl⟩

lemma Unrestricted.checked (h : c.Unrestricted) (tables : List String) : c.Checked tables where
  included := by
    rw [h.included]
    exact nofun
  ignored := by
    rw [h.ignored]
    exact nofun

/-- One restriction more keeps the lists checked. -/
lemma Checked.restrict (hc : c.Checked tables) (htables : c.tables = .ok tables)
    (h : c.restrict restriction = .ok restricted) : restricted.Checked tables := by
  cases restriction with
  | including names =>
      obtain ⟨hvisible, rfl⟩ := (including_eq_ok_iff htables names restricted).mp h
      refine ⟨fun included hincluded => ?_, hc.ignored⟩
      obtain rfl := Option.some.inj hincluded
      exact hvisible
  | ignoring names =>
      obtain ⟨hvisible, rfl⟩ := (ignoring_eq_ok_iff htables names restricted).mp h
      exact ⟨hc.included, hvisible⟩
  | shortening limit =>
      obtain rfl := Except.ok.inj h
      exact ⟨hc.included, hc.ignored⟩

/-- A restriction is accepted if the tables that it names are visible. -/
lemma exists_restrict_iff (htables : c.tables = .ok tables) :
    (∃ restricted, c.restrict restriction = .ok restricted)
      ↔ ∀ name ∈ restriction.names, name ∈ tables := by
  cases restriction with
  | including names =>
      simp only [restrict, Restriction.names, including_eq_ok_iff htables, exists_and_left,
        exists_eq, and_true]
  | ignoring names =>
      simp only [restrict, Restriction.names, ignoring_eq_ok_iff htables, exists_and_left,
        exists_eq, and_true]
  | shortening limit => exact iff_of_true ⟨_, rfl⟩ nofun

/-- A series is accepted if each of its restrictions is, after those before it. -/
lemma restrictAll_cons_iff : c.restrictAll (restriction :: restrictions) = .ok restricted
    ↔ ∃ next, c.restrict restriction = .ok next
      ∧ next.restrictAll restrictions = .ok restricted := by
  rw [restrictAll]
  cases c.restrict restriction with
  | error failure => simp [Except.bind]
  | ok next => simp [Except.bind]

/-- So it is accepted if all tables that it names are visible. -/
lemma exists_restrictAll_iff (htables : c.tables = .ok tables) :
    (∃ restricted, c.restrictAll restrictions = .ok restricted)
      ↔ ∀ restriction ∈ restrictions, ∀ name ∈ restriction.names, name ∈ tables := by
  induction restrictions generalizing c with
  | nil => exact iff_of_true ⟨c, rfl⟩ nofun
  | cons restriction restrictions ih =>
      have hnext : ∀ {next}, c.restrict restriction = .ok next → next.tables = .ok tables :=
        fun hfirst => (restrict_restrictedBy htables hfirst).tables_eq.trans htables
      rw [List.forall_mem_cons, ← exists_restrict_iff htables]
      constructor
      · rintro ⟨restricted, h⟩
        obtain ⟨next, hfirst, hrest⟩ := restrictAll_cons_iff.mp h
        exact ⟨⟨next, hfirst⟩, (ih (hnext hfirst)).mp ⟨restricted, hrest⟩⟩
      · rintro ⟨⟨next, hfirst⟩, hvisible⟩
        obtain ⟨restricted, hrest⟩ := (ih (hnext hfirst)).mpr hvisible
        exact ⟨restricted, restrictAll_cons_iff.mpr ⟨next, hfirst, hrest⟩⟩

/-- The lists that were set last are left of a series, and they are checked. -/
lemma restrictAll_restrictedBy (hc : c.Checked tables) (htables : c.tables = .ok tables)
    (h : c.restrictAll restrictions = .ok restricted) :
    c.RestrictedBy restricted restrictions ∧ restricted.Checked tables := by
  induction restrictions generalizing c with
  | nil =>
      obtain rfl := Except.ok.inj h
      exact ⟨⟨rfl, rfl, rfl⟩, hc⟩
  | cons restriction restrictions ih =>
      obtain ⟨next, hfirst, hrest⟩ := restrictAll_cons_iff.mp h
      have hby := restrict_restrictedBy htables hfirst
      obtain ⟨hleft, hchecked⟩ :=
        ih (hc.restrict htables hfirst) (hby.tables_eq.trans htables) hrest
      exact ⟨hby.trans hleft, hchecked⟩

/-- A list of tables to include is there if one was set. -/
lemma RestrictedBy.included_eq (h : c.RestrictedBy restricted restrictions)
    (hopen : c.Unrestricted) : restricted.included = lastIncluded restrictions := by
  rw [h.included, hopen.included, Option.or_none]

/-- Without a list of tables to include the visible tables may be used that are not hidden. -/
lemma RestrictedBy.usable_of_none (h : c.RestrictedBy restricted restrictions)
    (hopen : c.Unrestricted) (htables : c.tables = .ok tables)
    (hnone : lastIncluded restrictions = none) :
    restricted.usable
      = .ok (tables.filter fun name =>
          !((lastIgnored restrictions).getD []).contains name) := by
  rw [usable, h.included_eq hopen, hnone]
  dsimp only
  rw [h.tables_eq, htables, h.ignored, hopen.ignored]
  rfl

/-- With such a list it is sorted. -/
lemma RestrictedBy.usable_of_some (h : c.RestrictedBy restricted restrictions)
    (hopen : c.Unrestricted) {names : List String}
    (hsome : lastIncluded restrictions = some names) :
    restricted.usable = .ok (names.mergeSort fun a b => a ≤ b) := by
  rw [usable, h.included_eq hopen, hsome]

end Restricted

end Connection

/-! ### What may be used is described -/

/-- The structure of a table under its heading, followed by its context if there is one. -/
def documented (table structureText : String) : Option String → String
  | none => "Schema of table " ++ table ++ ":\n" ++ structureText ++ "\n"
  | some context => "Schema of table " ++ table ++ ":\n" ++ structureText ++ "\n"
      ++ ("Context of table " ++ table ++ ":\n" ++ context)

lemma tableDocument_eq (db : Database σ) (table : String) (context : Option String) :
    tableDocument db table context
      = db.describe table >>= fun structureText =>
          pure (documented table structureText context) := by
  cases context <;> rfl

lemma joinBlocks_eq_intercalate (blocks : List String) :
    joinBlocks blocks = "\n\n".intercalate blocks := by
  induction blocks using joinBlocks.induct with
  | case1 => rfl
  | case2 block => rw [joinBlocks, String.intercalate_singleton]
  | case3 block next blocks ih => rw [joinBlocks, ih, String.intercalate_cons_cons]

/-- The text of what a name stands for; empty if it does not stand for anything. -/
def tableText (temporary main : List TableRows) (name : String) : String :=
  ((resolve temporary main name).map fun table => table.text name).getD ""

lemma tableText_of_resolve {temporary main : List TableRows} {name : String} {table : TableRows}
    (h : resolve temporary main name = some table) :
    tableText temporary main name = table.text name := by
  rw [tableText, h, Option.map_some, Option.getD_some]

/-- A temporary table stands in front of a table of the same name, in whatever case. -/
example : tableText [⟨"RIVER", [⟨"width", "REAL"⟩], []⟩] (rivers.map TableDefinition.rows) "river"
    = "Table 'river' has columns: width (REAL), and foreign keys: ." := rfl

namespace Connection

/-- What an engine finds in a database. -/
structure Discovers (c : Connection σ) (encode : String → List UInt8)
    (main temporary : List TableRows) (names : List String) : Prop where
  /-- The tables that may be used are listed. -/
  listed : c.database.usableTables = .done names
  /-- Unless they have been included, they are in the order of their bytes in the database. -/
  stored : c.included = none → names.Pairwise fun a b => encode a ≤ encode b
  /-- If they have been included, or the database stores texts as UTF-8, they are in the order of
  their bytes in UTF-8. -/
  ascending : c.included ≠ none ∨ encode = Text.utf8 →
    names.Pairwise fun a b => Text.utf8 a ≤ Text.utf8 b
  /-- Each of them stands for a table and is described, by the structure of this table. -/
  described : ∀ name ∈ names, (∃ table, resolve temporary main name = some table)
    ∧ c.database.describe name = .done (tableText temporary main name)
  /-- Each of them is the name of a table, and unless a temporary one has it as well, this is the
  structure of that table. -/
  own : ∀ name ∈ names, ∃ table ∈ main, table.name = name
    ∧ ((∀ other ∈ temporary, sameName other.name name = false) →
      tableText temporary main name = table.text name)
  /-- The provider of all tables gives the text of each of them, with the note on it. -/
  all : ∀ notes mode question,
    (ContextProvider.all notes).context mode c.database question
      = .done ("\n\n".intercalate (names.map fun name =>
          annotated (tableText temporary main name) (notes.get? name)))
  /-- A container holds the text of each of them, with its context. -/
  container : ∀ contexts, ContextContainer.build c.database contexts
    = .done { tables := some (names.map fun name =>
        (name, documented name (tableText temporary main name) (contexts.get? name))) }

section Discovered

variable {c restricted : Connection σ} {restrictions : List Restriction}
  {encode : String → List UInt8} {main temporary : List TableRows} {tables names : List String}

/-- However the tables to be used are found, they are visible. -/
lemma Checked.usable (hc : c.Checked tables) (htables : c.tables = .ok tables) :
    ∃ names, c.usable = .ok names ∧ ∀ name ∈ names, name ∈ tables := by
  cases hincluded : c.included with
  | none =>
      refine ⟨tables.filter fun name => !c.ignored.contains name, ?_, fun name hname => ?_⟩
      · rw [Connection.usable, hincluded]
        exact congrArg (Except.map _) htables
      · exact (List.mem_filter.mp hname).1
  | some names =>
      refine ⟨names.mergeSort fun a b => a ≤ b, ?_, fun name hname => ?_⟩
      · rw [Connection.usable, hincluded]
      · exact hc.included names hincluded name (List.mem_mergeSort.mp hname)

/-- The listing keeps the order in which it was told, without the tables that are hidden. -/
lemma usable_sublist (hnone : c.included = none) (htables : c.tables = .ok tables)
    (hnames : c.usable = .ok names) : names.Sublist tables := by
  rw [usable, hnone] at hnames
  dsimp only at hnames
  rw [htables] at hnames
  obtain rfl := Except.ok.inj hnames
  exact List.filter_sublist

/-- Tables that have been included are sorted. -/
lemma usable_ascending (hsome : c.included ≠ none) (hnames : c.usable = .ok names) :
    names.Pairwise fun a b => Text.utf8 a ≤ Text.utf8 b := by
  obtain ⟨included, hincluded⟩ := Option.ne_none_iff_exists'.mp hsome
  rw [usable, hincluded] at hnames
  obtain rfl := Except.ok.inj hnames
  exact sorted_ascending included

/-- A name that is visible is that of a table, and it is described without consulting anyone. -/
lemma database_describe (hanswers : c.schema.Answers encode main temporary)
    (htables : c.tables = .ok tables) {name : String} (h : name ∈ tables)
    (hmain : name ∈ main.map (·.name)) :
    (∃ table, resolve temporary main name = some table)
      ∧ c.database.describe name = .done (tableText temporary main name) := by
  obtain ⟨table, htable⟩ := exists_resolve temporary hmain
  refine ⟨⟨table, htable⟩, ?_⟩
  rw [tableText_of_resolve htable]
  exact congrArg Session.ofExcept (describe_of_mem hanswers htables h htable)

/-- A provider of all tables whose descriptions are known. -/
lemma all_done {db : Database σ} {text : String → String} (hlisted : db.usableTables = .done names)
    (hdescribed : ∀ name ∈ names, db.describe name = .done (text name))
    (notes : Dictionary String) (mode : CallMode) (question : Question) :
    (ContextProvider.all notes).context mode db question
      = .done ("\n\n".intercalate (names.map fun name =>
          annotated (text name) (notes.get? name))) := by
  have hparts : ContextProvider.describeAll db (names.map fun name => (name, notes.get? name))
      = .done (names.map fun name => annotated (text name) (notes.get? name)) := by
    rw [ContextProvider.describeAll, Session.each_map]
    refine Session.each_done fun name hname => ?_
    rw [describeTable_eq, hdescribed name hname]
    rfl
  rw [ContextProvider.all_context, hlisted, ← joinBlocks_eq_intercalate]
  show (ContextProvider.describeAll db _).andThen _ = _
  rw [hparts]
  rfl

/-- A container of tables whose descriptions are known. -/
lemma build_done {db : Database σ} {text : String → String}
    (hlisted : db.usableTables = .done names)
    (hdescribed : ∀ name ∈ names, db.describe name = .done (text name))
    (contexts : Dictionary String) :
    ContextContainer.build db contexts
      = .done { tables := some (names.map fun name =>
          (name, documented name (text name) (contexts.get? name))) } := by
  have hparts : Session.each
      (fun name => do
        let document ← tableDocument db name (contexts.get? name)
        return (name, document)) names
      = .done (names.map fun name =>
          (name, documented name (text name) (contexts.get? name))) := by
    refine Session.each_done fun name hname => ?_
    rw [tableDocument_eq, hdescribed name hname]
    rfl
  rw [ContextContainer.build, hlisted]
  show (Session.each _ names).andThen _ = _
  rw [hparts]
  rfl

/-- If the names that have been accepted are visible, what may be used is described. -/
lemma Checked.discovers (hc : c.Checked tables) (hanswers : c.schema.Answers encode main temporary)
    (htables : c.tables = .ok tables) :
    ∃ names, c.usable = .ok names ∧ c.Discovers encode main temporary names := by
  obtain ⟨names, hnames, hvisible⟩ := hc.usable htables
  obtain ⟨told, htold, hlists, hsorted⟩ := hanswers.names
  obtain rfl : tables = told := Except.ok.inj (htables.symm.trans htold)
  have hmain : ∀ name ∈ names, name ∈ main.map (·.name) := fun name hname =>
    ((hlists.mem_iff name).mp (hvisible name hname)).1
  have hlisted : c.database.usableTables = .done names := congrArg Session.ofExcept hnames
  have hdescribed : ∀ name ∈ names, (∃ table, resolve temporary main name = some table)
      ∧ c.database.describe name = .done (tableText temporary main name) := fun name hname =>
    database_describe hanswers htables (hvisible name hname) (hmain name hname)
  have hstored : c.included = none → names.Pairwise fun a b => encode a ≤ encode b := fun hnone =>
    hsorted.sublist (usable_sublist hnone htables hnames)
  refine ⟨names, hnames, hlisted, hstored, ?_, hdescribed, ?_,
    all_done hlisted fun name hname => (hdescribed name hname).2,
    build_done hlisted fun name hname => (hdescribed name hname).2⟩
  · rintro (hsome | rfl)
    · exact usable_ascending hsome hnames
    · by_cases hnone : c.included = none
      · exact hstored hnone
      · exact usable_ascending hnone hnames
  · intro name hname
    obtain ⟨table, htable, rfl⟩ := List.mem_map.mp (hmain name hname)
    exact ⟨table, htable, rfl, fun hfree =>
      tableText_of_resolve (resolve_of_mem hanswers.distinct htable hfree)⟩

/-- **What may be used is described.** Whatever restrictions have been accepted, the tables that may
be used are listed in order, and each of them is described; so the provider of all tables and the
builder of a container always come to an end, with one part for each name of the list, in its
order. -/
theorem restrictAll_discovers (hopen : c.Unrestricted)
    (hanswers : c.schema.Answers encode main temporary)
    (h : c.restrictAll restrictions = .ok restricted) :
    ∃ names, restricted.Discovers encode main temporary names := by
  obtain ⟨tables, htables, -⟩ := hanswers.names
  obtain ⟨hleft, hchecked⟩ := restrictAll_restrictedBy (hopen.checked tables) htables h
  rw [← hleft.schema] at hanswers
  obtain ⟨names, -, hdiscovers⟩ := hchecked.discovers hanswers (hleft.tables_eq.trans htables)
  exact ⟨names, hdiscovers⟩

/-- Restrictions that name nothing but visible tables are accepted. -/
lemma rivers_restricted (restrictions : List Restriction)
    (h : ∀ restriction ∈ restrictions, ∀ name ∈ restriction.names, name ∈ ["river", "sqlite"]) :
    ∃ restricted, (quietConnection rivers).restrictAll restrictions = .ok restricted
      ∧ (quietConnection rivers).RestrictedBy restricted restrictions
      ∧ restricted.Checked ["river", "sqlite"] := by
  obtain ⟨restricted, hrestricted⟩ := (exists_restrictAll_iff rivers_tables).mpr h
  exact ⟨restricted, hrestricted,
    restrictAll_restrictedBy (rivers_unrestricted.checked _) rivers_tables hrestricted⟩

/-- Tables that are included, one of them twice. -/
theorem rivers_discovers :
    (quietConnection rivers).Unrestricted
      ∧ (quietConnection rivers).schema.Answers Text.utf8 (rivers.map TableDefinition.rows) []
      ∧ ∃ restricted, (quietConnection rivers).restrictAll
          [.shortening 5, .ignoring ["sqlite"], .including ["sqlite", "river", "river"]]
            = .ok restricted
        ∧ restricted.usable = .ok ["river", "river", "sqlite"]
        ∧ ∃ names, restricted.Discovers Text.utf8 (rivers.map TableDefinition.rows) [] names := by
  obtain ⟨restricted, hrestricted, hleft, -⟩ := rivers_restricted
    [.shortening 5, .ignoring ["sqlite"], .including ["sqlite", "river", "river"]] (by decide)
  refine ⟨rivers_unrestricted, rivers_answers, restricted, hrestricted, ?_,
    restrictAll_discovers rivers_unrestricted rivers_answers hrestricted⟩
  rw [hleft.usable_of_some rivers_unrestricted rfl]
  simp [List.mergeSort]

end Discovered

end Connection

/-! ### What the lists say together -/

/-- A table that is visible, included if any are, and not hidden. -/
structure Wanted (main : List TableRows) (restrictions : List Restriction) (name : String) :
    Prop where
  declared : name ∈ main.map (·.name)
  visible : ¬ Matches (marks "sqlite_%") name.toList
  included : ∀ names ∈ lastIncluded restrictions, name ∈ names
  kept : ∀ names ∈ lastIgnored restrictions, name ∉ names

namespace Connection

/-- What may be used of a database under restrictions. -/
structure Filters (restricted : Connection σ) (encode : String → List UInt8)
    (main temporary : List TableRows) (restrictions : List Restriction) (names : List String) :
    Prop where
  /-- Without a list of tables to include, it is what the lists say, in the order of the bytes in
  the database. -/
  unlisted : lastIncluded restrictions = none →
    Lists names (Wanted main restrictions) ∧ names.Pairwise fun a b => encode a ≤ encode b
  /-- With such a list, it is the list, in the order of the bytes in UTF-8. -/
  listed : ∀ included ∈ lastIncluded restrictions,
    names.Perm included ∧ names.Pairwise fun a b => Text.utf8 a ≤ Text.utf8 b
  /-- It is what the lists say just if no table is included twice and none is included and
  hidden. -/
  together : Lists names (Wanted main restrictions) ↔
    ∀ included ∈ lastIncluded restrictions, included.Nodup
      ∧ ∀ ignored ∈ lastIgnored restrictions, ∀ name ∈ included, name ∉ ignored
  /-- A table that is hidden may be used just if it is included. -/
  hidden : ∀ ignored ∈ lastIgnored restrictions, ∀ name ∈ ignored,
    (name ∈ names ↔ ∃ included ∈ lastIncluded restrictions, name ∈ included)
  /-- Nothing else is described. -/
  discovers : restricted.Discovers encode main temporary names

section Filtered

variable {c restricted : Connection σ} {restrictions : List Restriction}
  {encode : String → List UInt8} {main temporary : List TableRows} {tables names : List String}

/-- What is not hidden is in no list of tables to hide. -/
lemma not_contains_getD_iff {ignored : Option (List String)} {name : String} :
    (!(ignored.getD []).contains name) = true ↔ ∀ names ∈ ignored, name ∉ names := by
  cases ignored with
  | none => simp
  | some names => simp

/-- Without a list of tables to include, what is not hidden is what the lists say together. -/
lemma lists_filter (hlists : Lists tables fun name =>
      name ∈ main.map (·.name) ∧ ¬ Matches (marks "sqlite_%") name.toList)
    (hnone : lastIncluded restrictions = none) :
    Lists (tables.filter fun name => !((lastIgnored restrictions).getD []).contains name)
      (Wanted main restrictions) where
  mem_iff name := by
    rw [List.mem_filter, not_contains_getD_iff, hlists.mem_iff]
    refine ⟨fun h => ⟨h.1.1, h.1.2, ?_, h.2⟩, fun h => ⟨⟨h.declared, h.visible⟩, h.kept⟩⟩
    rw [hnone]
    exact nofun
  nodup := hlists.nodup.filter _

/-- A list of tables to include is what all lists say together just if none of its names is repeated
or hidden. -/
lemma lists_perm_iff {included : List String} (hperm : names.Perm included)
    (hsome : lastIncluded restrictions = some included)
    (hvisible : ∀ name ∈ included,
      name ∈ main.map (·.name) ∧ ¬ Matches (marks "sqlite_%") name.toList) :
    Lists names (Wanted main restrictions)
      ↔ included.Nodup
        ∧ ∀ ignored ∈ lastIgnored restrictions, ∀ name ∈ included, name ∉ ignored := by
  constructor
  · intro hlists
    refine ⟨hperm.nodup_iff.mp hlists.nodup, fun ignored hignored name hname => ?_⟩
    exact ((hlists.mem_iff name).mp (hperm.mem_iff.mpr hname)).kept ignored hignored
  · rintro ⟨hnodup, hdisjoint⟩
    refine ⟨fun name => ⟨fun hname => ?_, fun hwanted => ?_⟩, hperm.nodup_iff.mpr hnodup⟩
    · have hin : name ∈ included := hperm.mem_iff.mp hname
      refine ⟨(hvisible name hin).1, (hvisible name hin).2, ?_, fun ignored hignored =>
        hdisjoint ignored hignored name hin⟩
      rw [hsome]
      rintro _ ⟨⟩
      exact hin
    · exact hperm.mem_iff.mpr (hwanted.included included hsome)

/-- What may be used if no tables have been included. -/
lemma Discovers.filters_of_none
    (h : restricted.Discovers encode main temporary
      (tables.filter fun name => !((lastIgnored restrictions).getD []).contains name))
    (hlists : Lists tables fun name =>
      name ∈ main.map (·.name) ∧ ¬ Matches (marks "sqlite_%") name.toList)
    (hnone : lastIncluded restrictions = none) (hincluded : restricted.included = none) :
    restricted.Filters encode main temporary restrictions
      (tables.filter fun name => !((lastIgnored restrictions).getD []).contains name) := by
  have hwanted := lists_filter hlists hnone
  refine ⟨fun _ => ⟨hwanted, h.stored hincluded⟩, ?_, ?_, ?_, h⟩
  · rw [hnone]
    exact nofun
  · rw [hnone]
    exact iff_of_true hwanted nofun
  · intro ignored hignored name hname
    rw [hwanted.mem_iff, hnone]
    exact iff_of_false (fun hwanted => hwanted.kept ignored hignored hname) (by simp)

/-- What may be used if tables have been included. -/
lemma Discovers.filters_of_some {included : List String}
    (h : restricted.Discovers encode main temporary (included.mergeSort fun a b => a ≤ b))
    (hsome : lastIncluded restrictions = some included)
    (hvisible : ∀ name ∈ included,
      name ∈ main.map (·.name) ∧ ¬ Matches (marks "sqlite_%") name.toList) :
    restricted.Filters encode main temporary restrictions
      (included.mergeSort fun a b => a ≤ b) := by
  have hperm := List.mergeSort_perm included fun a b => a ≤ b
  refine ⟨?_, ?_, ?_, fun ignored _ name _ => ?_, h⟩
  · rw [hsome]
    exact nofun
  · rw [hsome]
    rintro _ ⟨⟩
    exact ⟨hperm, sorted_ascending included⟩
  · rw [lists_perm_iff hperm hsome hvisible, hsome]
    exact ⟨fun hall _ heq => Option.some.inj heq ▸ hall, fun hall => hall included rfl⟩
  · rw [hperm.mem_iff, hsome]
    simp

/-- **What the lists say together.** Whatever restrictions have been accepted, without a list of
tables to include the tables that may be used are the visible ones that are not hidden, each once
and in order. A list to include stands for itself, and a table that is hidden may be used if it is
there as well. -/
theorem restrictAll_filters (hopen : c.Unrestricted)
    (hanswers : c.schema.Answers encode main temporary)
    (h : c.restrictAll restrictions = .ok restricted) :
    ∃ names, restricted.Filters encode main temporary restrictions names := by
  obtain ⟨tables, htables, hlists, -⟩ := hanswers.names
  change c.tables = .ok tables at htables
  obtain ⟨hleft, hchecked⟩ := restrictAll_restrictedBy (hopen.checked tables) htables h
  have hincluded := hleft.included_eq hopen
  rw [← hleft.schema] at hanswers
  obtain ⟨names, hnames, hdiscovers⟩ :=
    hchecked.discovers hanswers (hleft.tables_eq.trans htables)
  refine ⟨names, ?_⟩
  cases hlast : lastIncluded restrictions with
  | none =>
      rw [hleft.usable_of_none hopen htables hlast] at hnames
      obtain rfl := Except.ok.inj hnames
      exact hdiscovers.filters_of_none hlists hlast (hincluded.trans hlast)
  | some included =>
      rw [hleft.usable_of_some hopen hlast] at hnames
      obtain rfl := Except.ok.inj hnames
      refine hdiscovers.filters_of_some hlast fun name hname => (hlists.mem_iff name).mp ?_
      exact hchecked.included included (hincluded.trans hlast) name hname

/-- Two tables, one of which is hidden. -/
theorem rivers_filters :
    (quietConnection rivers).Unrestricted
      ∧ (quietConnection rivers).schema.Answers Text.utf8 (rivers.map TableDefinition.rows) []
      ∧ ∃ restricted, (quietConnection rivers).restrictAll [.ignoring ["river"], .shortening 5]
          = .ok restricted
        ∧ restricted.usable = .ok ["sqlite"]
        ∧ ∃ names, restricted.Filters Text.utf8 (rivers.map TableDefinition.rows) []
          [.ignoring ["river"], .shortening 5] names := by
  obtain ⟨restricted, hrestricted, hleft, -⟩ :=
    rivers_restricted [.ignoring ["river"], .shortening 5] (by decide)
  refine ⟨rivers_unrestricted, rivers_answers, restricted, hrestricted, ?_,
    restrictAll_filters rivers_unrestricted rivers_answers hrestricted⟩
  rw [hleft.usable_of_none rivers_unrestricted rivers_tables rfl]
  exact congrArg Except.ok (by decide)

/-- A table that is hidden is described to a model all the same if it is included as well, and a
table that is included twice is listed twice. -/
theorem rivers_hidden_described :
    (∃ restricted, (quietConnection rivers).restrictAll
          [.including ["sqlite", "river"], .ignoring ["river"]] = .ok restricted
        ∧ restricted.usable = .ok ["river", "sqlite"]
        ∧ ¬ Lists ["river", "sqlite"] (Wanted (rivers.map TableDefinition.rows)
            [.including ["sqlite", "river"], .ignoring ["river"]])
        ∧ (ContextProvider.all .empty).context .blocking restricted.database { text := "" }
          = .done ("Table 'river' has columns: id (INTEGER), and foreign keys: .\n\n"
              ++ "Table 'sqlite' has columns: id (INTEGER), and foreign keys: ."))
      ∧ ∃ restricted, (quietConnection rivers).restrictAll [.including ["river", "river"]]
          = .ok restricted
        ∧ restricted.usable = .ok ["river", "river"] := by
  obtain ⟨both, hboth, hleft, hchecked⟩ := rivers_restricted
    [.including ["sqlite", "river"], .ignoring ["river"]] (by decide)
  obtain ⟨twice, htwice, hleft', -⟩ :=
    rivers_restricted [.including ["river", "river"]] (by decide)
  have husable : both.usable = .ok ["river", "sqlite"] := by
    rw [hleft.usable_of_some rivers_unrestricted rfl]
    simp [List.mergeSort]
  refine ⟨⟨both, hboth, husable, fun h => ?_, ?_⟩, twice, htwice, ?_⟩
  · exact ((h.mem_iff "river").mp (by decide)).kept ["river"] rfl (by decide)
  · have hanswers := rivers_answers
    rw [← hleft.schema] at hanswers
    obtain ⟨names, hnames, hdiscovers⟩ :=
      hchecked.discovers hanswers (hleft.tables_eq.trans rivers_tables)
    obtain rfl : ["river", "sqlite"] = names := Except.ok.inj (husable.symm.trans hnames)
    rw [hdiscovers.all]
    rfl
  · rw [hleft'.usable_of_some rivers_unrestricted rfl]
    simp [List.mergeSort]

end Filtered

end Connection

end AskSql.Sqlite
