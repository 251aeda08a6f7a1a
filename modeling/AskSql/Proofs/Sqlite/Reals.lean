import AskSql.Proofs.Decimal.Rewriting
import AskSql.Sqlite.Rows

/-!
How the real numbers of a result are shown.

A finite number in a row is its scientific notation, rewritten by the decisions for rows. Rewriting
comes to a result for every notation, whatever its digits and its exponent are, and the result
denotes the same number: from 10^-4 to below 10^16 in positional form, and with its exponent split
off otherwise. So a reader of rows takes no real number for an integer and no two for the same.

* `Cell.ShowsReal`: what a row shows of a number.
* `Cell.rewrite?_shows`: what it shows of any notation.
* `Cell.render_real_eq`: a real number is shown as its notation, rewritten.
* `Cell.real_shown`: all of it in one.
-/

namespace AskSql.Sqlite.Cell

open Decimal

/-- The text shows the number of a notation. -/
structure ShowsReal (s : Scientific) (text : List Char) : Prop where
  /-- The notation denotes its number. -/
  source : Denotes s.text s.negative s.value
  /-- The text denotes the same number with the same sign. -/
  same : Denotes text s.negative s.value
  /-- It has digits on both sides of a point from 10^-4 to below 10^16. -/
  positional_iff : s.IsPositional text ↔ -4 ≤ s.exponent ∧ s.exponent < 16
  /-- Otherwise it is the mantissa, the exponent mark, a sign and two digits or more. -/
  exponential_iff : s.IsExponential 2 text ↔ ¬ (-4 ≤ s.exponent ∧ s.exponent < 16)
  /-- It is the text of no integer. -/
  no_integer : ∀ i, text ≠ Json.writeInteger i

/-- Every notation is rewritten to a text that shows its number. -/
lemma rewrite?_shows {s : Scientific} (hs : s.Normal) :
    ∃ text, layout.rewrite? s.text = some text ∧ ShowsReal s text :=
  ⟨_, layout.rewrite?_text hs.bounded, {
    source := Scientific.denotes_text hs.zero
    same := Scientific.denotes_textIn hs.zero (.inr rfl)
    positional_iff := @Scientific.isPositional_textIn_iff s layout rfl hs.zero
    exponential_iff := @Scientific.isExponential_textIn_iff s layout rfl hs.zero
    no_integer := Scientific.textIn_ne_writeInteger (.inr rfl) hs.zero }⟩

/-- A finite number is shown as its notation, rewritten. -/
lemma render_real_eq (limit : Nat) {x : Float} (hnan : x.isNaN = false) (hinf : x.isInf = false) :
    layout.rewrite? (Scientific.ofFloat layout.tie x).text = some (render limit (.real x)) := by
  have hbounded := (Scientific.ofFloat_normal layout.tie hnan hinf).bounded
  rw [layout.rewrite?_text hbounded, render,
    Scientific.float_eq_textIn (by decide) (by decide) hnan hinf]

/-- **Real numbers are shown as what they are.** Every notation is rewritten to a text that shows
its number, and different ones to different texts; and a finite number has a notation from which it
is read back, and is shown as this notation, rewritten. -/
theorem real_shown :
    (∀ s : Scientific, s.Normal → ∃ text, layout.rewrite? s.text = some text ∧ ShowsReal s text)
    ∧ (∀ s t : Scientific, s.Normal → t.Normal → s.text ≠ t.text →
      layout.rewrite? s.text ≠ layout.rewrite? t.text)
    ∧ ∀ x : Float, x.isNaN = false → x.isInf = false →
      (Scientific.ofFloat layout.tie x).Normal
      ∧ (∃ n, Numeral.read (Scientific.ofFloat layout.tie x).text = some (n, []) ∧ n.toFloat = x)
      ∧ ∀ limit, layout.rewrite? (Scientific.ofFloat layout.tie x).text
        = some (render limit (.real x)) := by
  refine ⟨fun s => rewrite?_shows, fun s t hs ht hne heq => ?_, fun x hnan hinf => ?_⟩
  · exact hne (congrArg Scientific.text (Layout.rewrite?_injective (.inr rfl) hs ht heq))
  · exact ⟨Scientific.ofFloat_normal layout.tie hnan hinf,
      Scientific.read_ofFloat layout.tie hnan hinf, fun limit => render_real_eq limit hnan hinf⟩

/-- The numbers -1.2e-5 and -1.2e-4, of which the first gets an exponent of two digits and the other
has its point moved, and the least whole number with an exponent. -/
theorem edges_shown :
    (∃ text, layout.rewrite? "-1.2e-5".toList = some text ∧ ShowsReal ⟨true, 12, -5⟩ text
      ∧ text = "-1.2e-05".toList)
    ∧ layout.rewrite? "-1.2e-5".toList ≠ layout.rewrite? "-1.2e-4".toList
    ∧ (∃ n, Numeral.read "1e16".toList = some (n, []) ∧ n.toFloat = 1e16)
    ∧ ∀ limit, render limit (.real 1e16) = "1e+16".toList := by
  have hsmall : Scientific.Normal ⟨true, 12, -5⟩ := ⟨by decide, by decide, by decide⟩
  have hlarger : Scientific.Normal ⟨true, 12, -4⟩ := ⟨by decide, by decide, by decide⟩
  obtain ⟨text, htext, hshows⟩ := real_shown.1 _ hsmall
  obtain ⟨-, hread, hrender⟩ := real_shown.2.2 1e16 rfl rfl
  have hwritten : Scientific.ofFloat layout.tie 1e16 = ⟨false, 1, 16⟩ := by decide +kernel
  have hrewritten : layout.rewrite? (Scientific.mk true 12 (-5)).text
      = some "-1.2e-05".toList := by decide +kernel
  have hwhole : layout.rewrite? (Scientific.mk false 1 16).text = some "1e+16".toList := by
    decide +kernel
  rw [hwritten] at hread hrender
  refine ⟨⟨text, htext, hshows, ?_⟩, real_shown.2.1 _ _ hsmall hlarger (by decide), hread,
    fun limit => ?_⟩
  · exact Option.some.inj (htext.symm.trans hrewritten)
  · exact Option.some.inj ((hrender limit).symm.trans hwhole)

end AskSql.Sqlite.Cell
