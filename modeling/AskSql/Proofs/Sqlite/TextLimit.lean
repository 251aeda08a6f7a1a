import AskSql.Proofs.Sqlite.Decoding
import AskSql.Proofs.Text.Shortening

/-!
How long the texts of a result are.

The metadata of an execution show the rows of a result place by place, and a text as long as the
limit of the database leaves it. So the limit holds for a text just if the text is not cut or the
dots at its end fit.

* `ResultSet.cellAt?`, `Execution.cellAt?`: what stands at a place of a result, and what is shown
  there.
* `execution_cellAt?`: each place shows its own cell.
* `Connection.LimitsTexts`, `Connection.run_limitsTexts`: how long the texts are that are shown.
-/

namespace AskSql

/-- What the metadata of an execution show at a place of its result. -/
def Execution.cellAt? (e : Execution) (i j : Nat) : Option Json :=
  let rows := (e.metadata.get? "result").bind Json.items?
  (rows.bind (·[i]?)).bind fun row => row.items?.bind (·[j]?)

namespace Sqlite

/-- The cell at a place of a result. -/
def ResultSet.cellAt? : ResultSet → Nat → Nat → Option Cell
  | none, _, _ => .none
  | rows _ cells, i, j => cells[i]?.bind (·[j]?)

/-- Each place shows its own cell. -/
lemma execution_cellAt? (limit : Nat) (result : ResultSet) (i j : Nat) :
    (result.execution limit).cellAt? i j = (result.cellAt? i j).map (Cell.toJson limit) := by
  cases result with
  | none => rfl
  | rows columns cells =>
      have hresult : ((ResultSet.rows columns cells).execution limit).metadata.get? "result"
          = some (ResultSet.rowsToJson limit cells) := by
        rw [ResultSet.execution, Dictionary.ofList, Dictionary.get?_insertAll]
        rfl
      have hitems : (ResultSet.rowsToJson limit cells).items?
          = some (cells.map fun row => .array (row.map (Cell.toJson limit))) := rfl
      rw [Execution.cellAt?, hresult, ResultSet.cellAt?, Option.bind_some, hitems, Option.bind_some,
        List.getElem?_map]
      cases cells[i]? with
      | none => rfl
      | some row => exact List.getElem?_map

/-- How long the texts are that an execution shows of a result. -/
structure LimitsTexts (limit : Nat) (result : ResultSet) (e : Execution) : Prop where
  /-- Where a text stands a text is shown, and the limit holds for it just if the dots fit into the
  limit or the text does. -/
  within_iff : ∀ i j bytes, result.cellAt? i j = some (.text bytes) →
    ∃ shown, e.cellAt? i j = some (.text shown)
      ∧ (shown.length ≤ limit ↔ 3 ≤ limit ∨ (Text.Utf8.decode bytes).length ≤ limit)
  /-- Where the limit does not hold, the dots are all that is shown. -/
  beyond : ∀ i j bytes shown, result.cellAt? i j = some (.text bytes) →
    e.cellAt? i j = some (.text shown) → limit < shown.length → shown = "..."

lemma execution_limitsTexts {limit : Nat} (hlimit : 1 ≤ limit) (result : ResultSet) :
    LimitsTexts limit result (result.execution limit) where
  within_iff i j bytes hcell := by
    refine ⟨String.ofList (Cell.shownText limit bytes), ?_, ?_⟩
    · rw [execution_cellAt?, hcell]
      rfl
    · rw [String.length_ofList]
      exact Text.length_shorten_le_iff hlimit _
  beyond i j bytes shown hcell hshown hlong := by
    rw [execution_cellAt?, hcell] at hshown
    obtain rfl : String.ofList (Cell.shownText limit bytes) = shown := by
      simpa [Cell.toJson] using hshown
    rw [String.length_ofList, Cell.shownText] at hlong
    rw [Cell.shownText, Text.shorten_of_exceeds hlimit hlong]

/-- **How long the texts of a result are.** From a limit of three characters on, no text is longer
than the limit, whatever the text is and whatever statement yields it. Below, the limit holds for
those texts only that are short enough as they are, and the three dots stand for all others. -/
theorem Connection.run_limitsTexts {σ : Type} {c : Connection σ} (hlimit : 1 ≤ c.textLimit) :
    (∀ text, (Text.shorten c.textLimit text).length ≤ c.textLimit
        ↔ 3 ≤ c.textLimit ∨ text.length ≤ c.textLimit)
      ∧ ∀ sql before result after, c.execute sql before = (.ok result, after) →
        ∃ e, c.database.run sql before = (.ok e, after) ∧ LimitsTexts c.textLimit result e := by
  refine ⟨Text.length_shorten_le_iff hlimit, fun sql before result after hyield => ?_⟩
  exact ⟨_, run_of_ok hyield, execution_limitsTexts hlimit result⟩

/-- A database in which every statement yields one text, under a limit. -/
def Connection.oneText (limit : Nat) (bytes : List UInt8) : Connection Unit where
  schema := .failing (.database .notADatabase)
  execute _ := Session.done (.rows ["word"] [[.text bytes]])
  textLimit := limit

/-- Two words of three letters, one of which takes two bytes. -/
def accented : List UInt8 := [65, 195, 169, 66, 32, 99, 100, 101]

/-- Characters are counted, not bytes: of seven, three are left in front of the dots. -/
theorem accented_limitsTexts :
    1 ≤ (Connection.oneText 6 accented).textLimit
      ∧ ∃ e, (Connection.oneText 6 accented).database.run "SELECT word FROM words" () = (.ok e, ())
        ∧ LimitsTexts 6 (.rows ["word"] [[.text accented]]) e
        ∧ Cell.shownText 6 accented = ['A', 'é', 'B', '.', '.', '.'] := by
  have hlimit : 1 ≤ (Connection.oneText 6 accented).textLimit := by decide
  have hshown : Cell.shownText 6 accented = ['A', 'é', 'B', '.', '.', '.'] := by decide +kernel
  obtain ⟨-, hrun⟩ := Connection.run_limitsTexts hlimit
  obtain ⟨e, he, hlimits⟩ := hrun "SELECT word FROM words" () _ () rfl
  exact ⟨hlimit, e, he, hlimits, hshown⟩

/-- A limit that the dots do not fit into does not hold for two letters. -/
theorem tight_exceeded :
    1 ≤ (Connection.oneText 1 [97, 98]).textLimit
      ∧ ¬ (Text.shorten 1 ['a', 'b']).length ≤ 1
      ∧ ∃ e, (Connection.oneText 1 [97, 98]).database.run "SELECT word FROM words" () = (.ok e, ())
        ∧ e.cellAt? 0 0 = some (.text "...") ∧ ¬ "...".length ≤ 1 := by
  have hshown : Cell.shownText 1 [97, 98] = ['.', '.', '.'] := by decide +kernel
  have hcell : (Cell.text [97, 98]).toJson 1 = .text "..." := by
    rw [Cell.toJson, hshown]
  refine ⟨by decide, by decide, _, rfl, ?_, by decide⟩
  rw [execution_cellAt?]
  exact congrArg some hcell

end Sqlite

end AskSql
