import AskSql.Proofs.Decimal.RoundTrip
import AskSql.Proofs.Text.Quoting
import AskSql.Sqlite.Rows

/-!
Cells, read back from what is shown of them.

A cell is shown as a text between quotes, as bytes between quotes behind the letter `b`, or as a
word, which ends where a comma or a round bracket follows: the word for null, an integer, or a
number with a point, with an exponent or with the word for infinity. Each of them is read back, its
kind with it, from the front of the row that it begins.

* `Shown`: what is shown of a cell.
* `Shown.toJson`: it as JSON.
* `Shown.ofWord`: the cell of a word.
* `Shown.read`: reads a cell from the front of a text.
* `Shown.ofWord_integer`, `Shown.ofWord_real`: numbers are read back from their words.
* `Cell.read_render`: a cell is read back.
-/

namespace AskSql.Sqlite

open AskSql.Decimal

/-- What is shown of a cell. A text is as long as it is shown. -/
inductive Shown where
  | null
  | integer (value : Int64)
  | real (value : Float)
  | text (content : List Char)
  | blob (bytes : List UInt8)

/-- What is shown of a cell. -/
def Cell.shown (limit : Nat) : Cell → Shown
  | null => .null
  | integer n => .integer n
  | real x => .real x
  | text bytes => .text (shownText limit bytes)
  | blob bytes => .blob bytes

/-- Any cell but a number that is none. -/
def Cell.NotNaN : Cell → Prop
  | real x => x.isNaN = false
  | _ => True

namespace Shown

/-- A cell as JSON: null and numbers that are not finite as null, other numbers as numbers, a text
without its quotes, and bytes as they are escaped between theirs. -/
def toJson : Shown → Json
  | null => .null
  | integer n => .integer n.toInt
  | real x => if x.isNaN || x.isInf then .null else .real x
  | text content => .text (String.ofList content)
  | blob bytes => .text (String.ofList (Text.escapeBytes bytes))

lemma toJson_shown (limit : Nat) (cell : Cell) : (cell.shown limit).toJson = cell.toJson limit := by
  cases cell <;> rfl

/-! ### The reader -/

/-- Whether a character belongs to a word. -/
def inWord (c : Char) : Bool := c != ',' && c != ')'

/-- The cell of a numeral, an integer if it has neither fraction nor exponent. -/
def ofNumeral (n : Numeral) : Shown :=
  if n.fraction = [] ∧ n.exponent = none then integer (Int64.ofInt n.integer) else real n.toFloat

/-- The cell of a word. -/
def ofWord (word : List Char) : Option Shown :=
  if word = ['N', 'o', 'n', 'e'] then some null
  else if word = Cell.layout.infinity then some (real (infinite false))
  else if word = '-' :: Cell.layout.infinity then some (real (infinite true))
  else
    match Numeral.read word with
    | some (n, []) => some (ofNumeral n)
    | _ => none

/-- Reads a word from the front of a text. -/
def readWord (s : List Char) : Option (Shown × List Char) :=
  (ofWord (s.takeWhile inWord)).map fun cell => (cell, s.dropWhile inWord)

/-- Whether a character is one of the two quotes. -/
def isQuote (c : Char) : Bool := c == '\'' || c == '"'

/-- Reads a cell from the front of a text, by its first character. -/
def read : List Char → Option (Shown × List Char)
  | [] => none
  | c :: rest =>
      if c = 'b' then (Text.readBytes (rest.drop 1)).map fun read => (blob read.1, read.2)
      else if isQuote c then (Text.unquote (c :: rest)).map fun read => (text read.1, read.2)
      else readWord (c :: rest)

/-! ### Words -/

/-- A text that is read as a word, whatever follows it. -/
structure IsWord (word : List Char) : Prop where
  ne_nil : word ≠ []
  inWord : ∀ c ∈ word, inWord c = true
  head : ∀ c ∈ word.head?, c ≠ 'b' ∧ isQuote c = false

/-- A word is read up to the comma or the bracket behind it. -/
lemma IsWord.read {word : List Char} (h : IsWord word) {c : Char} (hc : Shown.inWord c = false)
    {cell : Shown} (hcell : ofWord word = some cell) (rest : List Char) :
    Shown.read (word ++ c :: rest) = some (cell, c :: rest) := by
  have hstop : ¬ Shown.inWord c = true := ne_true_of_eq_false hc
  have hword : readWord (word ++ c :: rest) = some (cell, c :: rest) := by
    rw [readWord, List.takeWhile_append_of_pos h.inWord, List.dropWhile_append_of_pos h.inWord,
      List.takeWhile_cons_of_neg hstop, List.dropWhile_cons_of_neg hstop, List.append_nil, hcell]
    rfl
  cases word with
  | nil => exact absurd rfl h.ne_nil
  | cons d word =>
      obtain ⟨hbytes, hquote⟩ : d ≠ 'b' ∧ isQuote d = false := h.head d rfl
      rw [List.cons_append, Shown.read, if_neg hbytes, if_neg (ne_true_of_eq_false hquote)]
      exact hword

/-- What a format writes of a number is a word. -/
lemma IsWord.of_writes {word : List Char} (hne : word ≠ [])
    (h : ∀ c ∈ word, Cell.layout.Writes c) : IsWord word where
  ne_nil := hne
  inWord c hc := by
    have hne : ∀ d, ¬ Cell.layout.Writes d → c ≠ d := by
      rintro d hd rfl
      exact hd (h c hc)
    rw [Shown.inWord, Bool.and_eq_true, bne_iff_ne, bne_iff_ne]
    exact ⟨hne ',' (by decide), hne ')' (by decide)⟩
  head c hc := by
    have hne : ∀ d, ¬ Cell.layout.Writes d → c ≠ d := by
      rintro d hd rfl
      exact hd (h c (List.mem_of_head? hc))
    rw [isQuote, Bool.or_eq_false_iff, beq_eq_false_iff_ne, beq_eq_false_iff_ne]
    exact ⟨hne 'b' (by decide), hne '\'' (by decide), hne '"' (by decide)⟩

lemma isWord_null : IsWord ['N', 'o', 'n', 'e'] where
  ne_nil := List.cons_ne_nil _ _
  inWord := List.all_eq_true.mp rfl
  head c hc := by
    cases hc
    exact ⟨by decide, rfl⟩

/-- Integers are written with digits and a minus sign. -/
lemma isWord_integer (i : Int) : IsWord (Json.writeInteger i) := by
  have hdigit : ∀ n, ∀ c ∈ digitsOf n, Cell.layout.Writes c := fun n c hc =>
    .inl (isDigit_of_mem_digitsOf hc)
  cases i with
  | ofNat n => exact .of_writes (digitsOf_ne_nil n) (hdigit n)
  | negSucc n =>
      refine .of_writes (List.cons_ne_nil _ _) fun c hc => ?_
      rcases List.mem_cons.mp hc with rfl | hc
      · exact .inr (.inl (by decide))
      · exact hdigit (n + 1) c hc

/-! ### Words are read back -/

/-- A numeral is none of the other words. -/
lemma ofWord_of_read {word : List Char} {n : Numeral} (h : Numeral.read word = some (n, [])) :
    ofWord word = some (ofNumeral n) := by
  have hother : ∀ other, Numeral.read other = none → word ≠ other := by
    rintro other hnone rfl
    rw [hnone] at h
    cases h
  rw [ofWord, if_neg (hother _ rfl), if_neg (hother _ rfl), if_neg (hother _ rfl), h]

/-- An integer is read back as an integer. -/
lemma ofWord_integer (n : Int64) : ofWord (Json.writeInteger n.toInt) = some (integer n) := by
  have hnumeral : ofNumeral (Numeral.ofInteger n.toInt) = integer n := by
    rw [ofNumeral, if_pos ⟨rfl, rfl⟩, Numeral.integer_ofInteger, Int64.ofInt_toInt]
  rw [ofWord_of_read (Numeral.read_writeInteger n.toInt), hnumeral]

/-- Any other number is read back to the bit, and never as an integer. -/
lemma ofWord_real {x : Float} (h : x.isNaN = false) :
    ofWord (Cell.layout.float x) = some (real x) := by
  cases hinf : x.isInf with
  | true =>
      obtain ⟨negative, htext, rfl⟩ := @Layout.float_of_isInf Cell.layout x h hinf
      rw [htext]
      cases negative with
      | true => rfl
      | false => rfl
  | false =>
      obtain ⟨n, hread, hreal, rfl⟩ := @Layout.read_float Cell.layout (.inr rfl) x h hinf
      rw [ofWord_of_read hread, ofNumeral, if_neg]
      rintro ⟨hfraction, hexponent⟩
      rcases hreal with hne | hne
      · exact hne hfraction
      · exact hne hexponent

lemma isQuote_quoteFor (text : List Char) : isQuote (Text.quoteFor text) = true := by
  rcases Text.quoteFor_eq text with hquote | hquote
  · rw [hquote]
    rfl
  · rw [hquote]
    rfl

lemma isWord_real {x : Float} (h : x.isNaN = false) : IsWord (Cell.layout.float x) := by
  refine .of_writes (fun hnil => ?_) fun c hc => Layout.float_writes hc
  have hword := ofWord_real h
  rw [hnil] at hword
  cases hword

end Shown

/-- **A cell is read back** in front of a comma or a bracket: its kind, and what is shown of it. -/
theorem Cell.read_render (limit : Nat) {cell : Cell} (h : cell.NotNaN) {c : Char}
    (hc : Shown.inWord c = false) (rest : List Char) :
    Shown.read (cell.render limit ++ c :: rest) = some (cell.shown limit, c :: rest) := by
  cases cell with
  | null => exact Shown.isWord_null.read hc rfl rest
  | integer n => exact (Shown.isWord_integer n.toInt).read hc (Shown.ofWord_integer n) rest
  | real x => exact (Shown.isWord_real h).read hc (Shown.ofWord_real h) rest
  | text bytes =>
      have hread := Text.unquote_quote (shownText limit bytes) (c :: rest)
      have hquote := Shown.isQuote_quoteFor (shownText limit bytes)
      have hbytes : Text.quoteFor (shownText limit bytes) ≠ 'b' := by
        intro hb
        rw [hb] at hquote
        cases hquote
      rw [Text.quote, List.append_assoc, List.cons_append] at hread
      rw [Cell.render, Text.quote, List.append_assoc, List.cons_append, Shown.read, if_neg hbytes,
        if_pos hquote, hread]
      rfl
  | blob bytes =>
      have hread := Text.readBytes_escapeBytes bytes (c :: rest)
      have hrender : render limit (blob bytes) ++ c :: rest
          = 'b' :: '\'' :: (Text.escapeBytes bytes ++ '\'' :: c :: rest) := by
        simp [render]
      rw [hrender, Shown.read, if_pos rfl, List.drop_succ_cons, List.drop_zero, hread]
      rfl

/-- What is shown of a number tells the sign of zero. -/
example : Shown.real 0.0 ≠ .real (-0.0) := by
  intro h
  have hbits : (0.0 : Float).toBits = (-0.0 : Float).toBits :=
    congrArg Float.toBits (Shown.real.inj h)
  exact absurd hbits (by decide)

end AskSql.Sqlite
