import AskSql.Json.Reader
import AskSql.Proofs.Dictionary
import AskSql.Proofs.Sqlite.Cells
import AskSql.Sqlite

/-!
Results, read back from the text that shows them.

A sequence is read back between its brackets if each of its items is, in front of whatever may stand
behind an item. Cells are, so rows are, and then tables. So the text of a result tells all that is
shown of it, and the metadata is a function of the text.

* `readSequence`: reads items between brackets, for any reader of an item.
* `readSequence_bracketed`, `readSequence_tuple`: a sequence is read back.
* `Shown.readRows`, `Shown.readResult`: the rows and the metadata, from the text alone.
* `Tabular`: rows that fill the columns.
* `Execution.Shows`: what the text and the metadata of an execution tell about its rows.
* `Connection.run_decodable`: they do so whatever the result is, and results that are shown by one
  text show the same rows.
-/

namespace AskSql.Sqlite

/-! ### Sequences -/

section Sequences

variable {α β : Type}

/-- What stands behind an item: whether there is another one, and what is left. -/
def afterItem (close : Char) : List Char → Option (Bool × List Char)
  | ',' :: ' ' :: rest => some (true, rest)
  | ',' :: c :: rest => if c = close then some (false, rest) else none
  | c :: rest => if c = close then some (false, rest) else none
  | [] => none

/-- Reads items up to the closing bracket, at least one and at most `n`. -/
def readItems (close : Char) (item : Json.Reader α) : Nat → Json.Reader (List α)
  | 0, _ => none
  | n + 1, s => do
      let (x, s) ← item s
      let (more, s) ← afterItem close s
      if more then do
        let (xs, s) ← readItems close item n s
        return (x :: xs, s)
      else return ([x], s)

/-- Reads items between brackets. -/
def readSequence (opening close : Char) (item : Json.Reader α) (s : List Char) :
    Option (List α × List Char) :=
  match s with
  | [] => none
  | c :: rest =>
      if c = opening then
        if rest.head? = some close then some ([], rest.tail)
        else readItems close item rest.length rest
      else none

/-- A sequence that is read back, item by item: each item stands in front of a comma or of the
closing bracket, and that bracket begins none. -/
structure Readable (close : Char) (item : Json.Reader α) (write : β → List Char) (shown : β → α)
    (xs : List β) : Prop where
  comma : close ≠ ','
  blank : close ≠ ' '
  closed : ∀ rest, item (close :: rest) = none
  item : ∀ x ∈ xs, ∀ c, c = ',' ∨ c = close → ∀ rest,
    item (write x ++ c :: rest) = some (shown x, c :: rest)

variable {opening close : Char} {item : Json.Reader α} {write : β → List Char} {shown : β → α}
  {xs : List β}

lemma readItems_last {s s' rest : List Char} {x : α} (hitem : item s = some (x, s'))
    (hafter : afterItem close s' = some (false, rest)) (n : Nat) :
    readItems close item (n + 1) s = some ([x], rest) := by
  simp [readItems, hitem, hafter]

lemma readItems_more {s s' s'' rest : List Char} {x : α} {xs : List α} {n : Nat}
    (hitem : item s = some (x, s')) (hafter : afterItem close s' = some (true, s''))
    (hrest : readItems close item n s'' = some (xs, rest)) :
    readItems close item (n + 1) s = some (x :: xs, rest) := by
  simp [readItems, hitem, hafter, hrest]

/-- A text has at least as many characters as there are items between separators in it, but for
one. -/
lemma length_le_intercalate (parts : List (List Char)) :
    parts.length ≤ (List.intercalate separator parts).length + 1 := by
  induction parts with
  | nil => exact Nat.zero_le _
  | cons part parts ih =>
      cases parts with
      | nil => exact Nat.le_add_left 1 _
      | cons next parts =>
          rw [List.intercalate_cons_cons, List.length_append, List.length_append, List.length_cons]
          have hseparator : separator.length = 2 := rfl
          omega

/-- The closing bracket ends the sequence. -/
lemma afterItem_close (hcomma : close ≠ ',') (rest : List Char) :
    afterItem close (close :: rest) = some (false, rest) := by
  rw [afterItem, if_pos rfl]
  · rintro tail rfl -
    exact hcomma rfl
  · rintro c tail rfl -
    exact hcomma rfl

/-- So does a comma with the closing bracket behind it. -/
lemma afterItem_comma (hblank : close ≠ ' ') (rest : List Char) :
    afterItem close (',' :: close :: rest) = some (false, rest) := by
  rw [afterItem, if_pos rfl]
  rintro rfl
  exact hblank rfl

namespace Readable

lemma tail {x : β} (h : Readable close item write shown (x :: xs)) :
    Readable close item write shown xs :=
  { h with item := fun y hy => h.item y (List.mem_cons_of_mem x hy) }

/-- Items with separators between them are read back up to the closing bracket. -/
lemma readItems (h : Readable close item write shown xs) (hne : xs ≠ []) {n : Nat}
    (hn : xs.length ≤ n) (rest : List Char) :
    Sqlite.readItems close item n (List.intercalate separator (xs.map write) ++ close :: rest)
      = some (xs.map shown, rest) := by
  induction xs generalizing n with
  | nil => exact absurd rfl hne
  | cons x xs ih =>
      obtain ⟨n, rfl⟩ : ∃ k, n = k + 1 := ⟨n - 1, by rw [List.length_cons] at hn; omega⟩
      have hitem := h.item x List.mem_cons_self
      cases xs with
      | nil =>
          rw [List.map_singleton, List.intercalate_singleton]
          exact readItems_last (hitem close (.inr rfl) rest) (afterItem_close h.comma rest) n
      | cons y ys =>
          have hrest := ih h.tail (List.cons_ne_nil y ys) (Nat.le_of_succ_le_succ hn)
          rw [List.map_cons, List.map_cons, List.intercalate_cons_cons, List.append_assoc,
            List.append_assoc]
          exact readItems_more (hitem ',' (.inl rfl) _) rfl hrest

/-- What is read as items does not begin with the closing bracket. -/
lemma readSequence_of_readItems (h : Readable close item write shown xs) {s rest : List Char}
    {ys : List α} (hread : Sqlite.readItems close item s.length s = some (ys, rest)) :
    readSequence opening close item (opening :: s) = some (ys, rest) := by
  have hhead : s.head? ≠ some close := by
    intro hhead
    obtain ⟨tail, rfl⟩ := List.head?_eq_some_iff.mp hhead
    rw [List.length_cons, Sqlite.readItems, h.closed] at hread
    cases hread
  rw [readSequence, if_pos rfl, if_neg hhead, hread]

/-- A sequence is read back. -/
lemma readSequence_bracketed (h : Readable close item write shown xs) (rest : List Char) :
    readSequence opening close item
        (opening :: (List.intercalate separator (xs.map write) ++ close :: rest))
      = some (xs.map shown, rest) := by
  by_cases hne : xs = []
  · rw [hne]
    simp [readSequence]
  · refine h.readSequence_of_readItems (h.readItems hne ?_ rest)
    have hlength := length_le_intercalate (xs.map write)
    rw [List.length_map] at hlength
    rw [List.length_append, List.length_cons]
    omega

/-- A tuple is read back, also one of a single item, which ends with a comma. -/
lemma readSequence_tuple (h : Readable ')' item write shown xs) (rest : List Char) :
    readSequence '(' ')' item (tuple (xs.map write) ++ rest) = some (xs.map shown, rest) := by
  match xs, h with
  | [], h => rfl
  | [x], h =>
      have hitem := h.item x List.mem_cons_self ',' (.inl rfl) (')' :: rest)
      have htuple : tuple ([x].map write) ++ rest = '(' :: (write x ++ ',' :: ')' :: rest) := by
        simp [tuple]
      rw [htuple]
      refine h.readSequence_of_readItems ?_
      rw [List.length_append]
      exact readItems_last hitem (afterItem_comma h.blank rest) _
  | x :: y :: zs, h =>
      have htuple : tuple ((x :: y :: zs).map write) ++ rest
          = '(' :: (List.intercalate separator ((x :: y :: zs).map write) ++ ')' :: rest) := by
        simp [tuple]
      rw [htuple]
      exact h.readSequence_bracketed rest

end Readable

end Sequences

/-! ### Rows -/

/-- What is shown of rows. -/
def shownRows (limit : Nat) (rows : List (List Cell)) : List (List Shown) :=
  rows.map fun row => row.map (Cell.shown limit)

namespace Shown

/-- Reads a row. -/
def readRow : Json.Reader (List Shown) := readSequence '(' ')' read

/-- The rows that a text shows. -/
def readRows (s : List Char) : Option (List (List Shown)) :=
  match readSequence '[' ']' readRow s with
  | some (rows, []) => some rows
  | _ => none

/-- Rows as JSON, an array for each. -/
def rowsToJson (rows : List (List Shown)) : Json :=
  .array (rows.map fun row => .array (row.map toJson))

/-- The metadata of the result that a text shows. -/
def readResult (text : String) : Option Json := (readRows text.toList).map rowsToJson

end Shown

/-- Rows as wide as there are columns, with a number in every cell that holds one. -/
structure Tabular (columns : List String) (rows : List (List Cell)) : Prop where
  width : ∀ row ∈ rows, row.length = columns.length
  notNaN : ∀ row ∈ rows, ∀ cell ∈ row, cell.NotNaN

section Rows

variable (limit : Nat) {rows : List (List Cell)}

lemma readable_row {row : List Cell} (h : ∀ cell ∈ row, cell.NotNaN) :
    Readable ')' Shown.read (Cell.render limit) (Cell.shown limit) row where
  comma := by decide
  blank := by decide
  closed _ := rfl
  item cell hcell c hc rest := by
    refine Cell.read_render limit (h cell hcell) ?_ rest
    rcases hc with rfl | rfl
    · rfl
    · rfl

lemma readable_rows (h : ∀ row ∈ rows, ∀ cell ∈ row, cell.NotNaN) :
    Readable ']' Shown.readRow (fun row => tuple (row.map (Cell.render limit)))
      (fun row => row.map (Cell.shown limit)) rows where
  comma := by decide
  blank := by decide
  closed _ := rfl
  item row hrow _ _ rest := (readable_row limit (h row hrow)).readSequence_tuple _

/-- **Rows are read back** from the text that shows them. -/
theorem readRows_renderRows (h : ∀ row ∈ rows, ∀ cell ∈ row, cell.NotNaN) :
    Shown.readRows (ResultSet.renderRows limit rows) = some (shownRows limit rows) := by
  have hread : readSequence '[' ']' Shown.readRow (ResultSet.renderRows limit rows)
      = some (shownRows limit rows, []) :=
    (readable_rows limit h).readSequence_bracketed []
  rw [Shown.readRows, hread]

example : Shown.readRows "[(None, 'None'), (1, -0.0)]".toList
    = some [[.null, .text ['N', 'o', 'n', 'e']], [.integer 1, .real (-0.0)]] := rfl

lemma rowsToJson_shownRows (rows : List (List Cell)) :
    Shown.rowsToJson (shownRows limit rows) = ResultSet.rowsToJson limit rows := by
  rw [Shown.rowsToJson, shownRows, ResultSet.rowsToJson, List.map_map]
  congr 1
  refine List.map_congr_left fun row _ => ?_
  rw [Function.comp_apply, List.map_map]
  congr 1
  exact List.map_congr_left fun cell _ => Shown.toJson_shown limit cell

end Rows

/-! ### Executions -/

/-- What an execution tells about the rows of its result. -/
structure Shows (e : Execution) (columns : List String) (rows : List (List Shown)) : Prop where
  /-- They are read from the text alone, -/
  text : Shown.readRows e.text.toList = some rows
  /-- and so is the result in the metadata, -/
  result_of_text : e.metadata.get? "result" = Shown.readResult e.text
  /-- which is an array of them in their order, -/
  result : e.metadata.get? "result" = some (Shown.rowsToJson rows)
  /-- each of them as wide -/
  width : ∀ row ∈ rows, row.length = columns.length
  /-- as there are keys of columns. -/
  keys : e.metadata.get? "col_keys" = some (.array (columns.map .text))

section Executions

variable {columns : List String} {rows : List (List Cell)}

lemma execution_shows (limit : Nat) (h : Tabular columns rows) :
    Shows ((ResultSet.rows columns rows).execution limit) columns (shownRows limit rows) := by
  have htext : Shown.readRows ((ResultSet.rows columns rows).execution limit).text.toList
      = some (shownRows limit rows) := by
    rw [ResultSet.execution, String.toList_ofList]
    exact readRows_renderRows limit h.notNaN
  have hresult : ((ResultSet.rows columns rows).execution limit).metadata.get? "result"
      = some (Shown.rowsToJson (shownRows limit rows)) := by
    rw [rowsToJson_shownRows, ResultSet.execution, Dictionary.ofList, Dictionary.get?_insertAll]
    rfl
  exact {
    text := htext
    result_of_text := by rw [hresult, Shown.readResult, htext, Option.map_some]
    result := hresult
    width := fun row hrow => by
      obtain ⟨cells, hcells, rfl⟩ := List.mem_map.mp hrow
      rw [List.length_map]
      exact h.width cells hcells
    keys := by
      rw [ResultSet.execution, Dictionary.ofList, Dictionary.get?_insertAll]
      rfl }

/-- A statement that yields rows is executed. -/
lemma Connection.run_of_ok {σ : Type} {c : Connection σ} {sql : String} {before after : σ}
    {result : ResultSet} (h : c.execute sql before = (.ok result, after)) :
    c.database.run sql before = (.ok (result.execution c.textLimit), after) := by
  rw [Connection.database]
  exact Session.andThen_of_ok h

end Executions

/-- **Results are decodable.** Whatever rows a statement yields, the text of its execution alone
tells what is shown of them, and with that the metadata of the result. So results that are shown by
one text, by any two databases, show the same rows, cell by cell. -/
theorem Connection.run_decodable {σ τ : Type} {c : Connection σ} {d : Connection τ}
    {sql sql' : String} {before after : σ} {before' after' : τ} {columns columns' : List String}
    {rows rows' : List (List Cell)}
    (hc : c.execute sql before = (.ok (.rows columns rows), after))
    (hd : d.execute sql' before' = (.ok (.rows columns' rows'), after'))
    (h : Tabular columns rows) (h' : Tabular columns' rows') :
    ∃ e e', c.database.run sql before = (.ok e, after)
      ∧ d.database.run sql' before' = (.ok e', after')
      ∧ Shows e columns (shownRows c.textLimit rows)
      ∧ Shows e' columns' (shownRows d.textLimit rows')
      ∧ (e.text = e'.text → shownRows c.textLimit rows = shownRows d.textLimit rows') := by
  have hshows := execution_shows c.textLimit h
  have hshows' := execution_shows d.textLimit h'
  refine ⟨_, _, run_of_ok hc, run_of_ok hd, hshows, hshows', fun htext => ?_⟩
  have hrows := hshows.text
  rw [htext, hshows'.text] at hrows
  exact (Option.some.inj hrows).symm

/-- A database in which every statement yields the same rows. -/
def Connection.constant (columns : List String) (rows : List (List Cell)) : Connection Unit where
  schema := .failing (.database .notADatabase)
  execute _ := Session.done (.rows columns rows)

/-- Null beside the text `None`, an integer beside minus zero, and a quote as bytes and as text. -/
def alikeRows : List (List Cell) :=
  [[.null, .text [78, 111, 110, 101]], [.integer 0, .real (-0.0)], [.blob [39], .text [39]]]

theorem alikeRows_decodable :
    Tabular ["one", "other"] alikeRows
      ∧ ∃ e, (Connection.constant ["one", "other"] alikeRows).database.run "SELECT * FROM alike" ()
          = (.ok e, ())
        ∧ Shows e ["one", "other"] (shownRows defaultTextLimit alikeRows) := by
  have htabular : Tabular ["one", "other"] alikeRows := {
    width := by simp [alikeRows]
    notNaN := by
      refine List.forall_mem_cons.mpr ⟨?_, List.forall_mem_cons.mpr ⟨?_, ?_⟩⟩
      · exact List.forall_mem_cons.mpr ⟨trivial, List.forall_mem_singleton.mpr trivial⟩
      · exact List.forall_mem_cons.mpr ⟨trivial, List.forall_mem_singleton.mpr rfl⟩
      · refine List.forall_mem_singleton.mpr ?_
        exact List.forall_mem_cons.mpr ⟨trivial, List.forall_mem_singleton.mpr trivial⟩ }
  have hyield : (Connection.constant ["one", "other"] alikeRows).execute "SELECT * FROM alike" ()
      = (.ok (.rows ["one", "other"] alikeRows), ()) := rfl
  obtain ⟨e, -, hrun, -, hshows, -, -⟩ :=
    Connection.run_decodable hyield hyield htabular htabular
  exact ⟨htabular, e, hrun, hshows⟩

end AskSql.Sqlite
