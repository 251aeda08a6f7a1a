import AskSql.Dictionary

/-!
JSON values.

Whole numbers and other numbers are kept apart, as they are written differently: a number written
without fraction and exponent that fits into 64 bits, with or without a sign, is an integer, and
every other one is a floating-point number. The members of an object are in ascending order of
their keys.

* `Json`: the values.
* `member?`, `items?`, `text?`, `number?`, `texts?`: what a value holds, if it is of the kind
  asked for.
* `given?`: a member that is neither missing nor null.
-/

namespace AskSql

/-- A JSON value. -/
inductive Json where
  | null
  | bool (value : Bool)
  | integer (value : Int)
  | real (value : Float)
  | text (value : String)
  | array (items : List Json)
  | object (members : List (String × Json))
deriving BEq, Repr

namespace Json

instance : Inhabited Json := ⟨null⟩

/-- The value of an object's member. -/
def member? (key : String) : Json → Option Json
  | object members => members.lookup key
  | _ => none

/-- The items of an array. -/
def items? : Json → Option (List Json)
  | array items => some items
  | _ => none

/-- The text of a text. -/
def text? : Json → Option String
  | text value => some value
  | _ => none

/-- A number as a floating-point number, an integer rounded to the nearest one. -/
def number? : Json → Option Float
  | integer value => some (Float.ofInt value)
  | real value => some value
  | _ => none

/-- The texts of an array of texts. -/
def texts? (value : Json) : Option (List String) :=
  value.items?.bind fun items => items.mapM text?

/-- A member that is neither missing nor null. -/
def given? (key : String) (value : Json) : Option Json :=
  match value.member? key with
  | some null => none
  | found => found

/-- The object of a dictionary of values. -/
def ofDictionary (d : Dictionary Json) : Json := object d.entries

/-! ### What a value holds -/

/-- Only arrays have items. -/
theorem items?_eq_some_iff {value : Json} {items : List Json} :
    value.items? = some items ↔ value = array items := by
  cases value <;> simp [items?]

/-- Only texts have a text. -/
theorem text?_eq_some_iff {value : Json} {s : String} : value.text? = some s ↔ value = text s := by
  cases value <;> simp [text?]

theorem bind_items?_eq_some_iff {found : Option Json} {items : List Json} :
    found.bind items? = some items ↔ found = some (array items) := by
  simp [Option.bind_eq_some_iff, items?_eq_some_iff]

theorem bind_text?_eq_some_iff {found : Option Json} {s : String} :
    found.bind text? = some s ↔ found = some (text s) := by
  simp [Option.bind_eq_some_iff, text?_eq_some_iff]

/-- A member is given unless it is missing or null. -/
theorem given?_eq_none_iff {key : String} {value : Json} :
    value.given? key = none ↔ value.member? key = none ∨ value.member? key = some null := by
  rw [given?]
  split <;> simp_all

end Json

end AskSql
