import AskSql.Proofs.Decimal.Scientific
import AskSql.Proofs.Text.Occurrence

/-!
Scientific notation, rewritten by the decisions of a format.

To be rewritten, a text in scientific notation is taken apart, and either its exponent is written
anew, or the point is moved by the exponent and zeros fill what is missing on one side of the
digits. Some steps have no result for all arguments: no text is cut behind its end, no fewer zeros
than none are filled in, and the least integer of 32 bits has no absolute value. Rewriting a
notation never meets such an argument, and what comes out is what the format makes of the notation.

The two shapes that come out tell from each other by the exponent mark, and neither of them is the
text of an integer.

* `Layout.rewrite?_text`: rewriting comes to a result, and to which one.
* `Scientific.IsPositional`, `Scientific.IsExponential`: the two shapes.
* `Scientific.isPositional_textIn_iff`, `Scientific.isExponential_textIn_iff`: which of them comes
  out.
* `Layout.rewrite?_injective`: different notations are rewritten to different texts.
-/

namespace AskSql.Decimal

/-! ### Rewriting -/

lemma readInteger?_writeInteger {i : Int} (h : i.natAbs < 2 ^ 31) :
    readInteger? (Json.writeInteger i) = some i := by
  have hdigits : ∀ c ∈ digitsOf i.natAbs, c.isDigit = true := fun c hc => isDigit_of_mem_digitsOf hc
  have hsign := Numeral.readSign_append (.inl rfl) (decide (i < 0)) hdigits
  have htake := Numeral.takeDigits?_append hdigits (digitsOf_ne_nil _) Numeral.stops_nil
  have hvalue : (if decide (i < 0) then -(digitsValue (digitsOf i.natAbs) : Int)
      else digitsValue (digitsOf i.natAbs)) = i := Numeral.integer_ofInteger i
  have hbounds : -0x80000000 ≤ i ∧ i < 0x80000000 := by omega
  rw [List.append_nil] at htake
  simp only [decide_eq_true_eq] at hsign
  rw [readInteger?, Numeral.writeInteger_eq, hsign]
  dsimp only
  rw [htake]
  dsimp only
  rw [hvalue, if_pos hbounds]

namespace Layout

/-- The point is moved within the digits and the zeros that are filled in. -/
lemma positional?_eq (digits : List Char) (exponent : Int) :
    positional? digits exponent = some (positional digits exponent) := by
  rw [positional?, positional]
  split
  · next hexponent =>
      have hzeros : 0 ≤ -exponent - 1 := by omega
      rw [zeros?, if_pos hzeros]
      rfl
  · dsimp only
    split
    · next hshort =>
        have hzeros : 0 ≤ ((exponent.toNat + 1 : Nat) : Int) - digits.length := by omega
        have hcount : (((exponent.toNat + 1 : Nat) : Int) - digits.length).toNat
            = exponent.toNat + 1 - digits.length := by omega
        rw [zeros?, if_pos hzeros, hcount]
        rfl
    · next hlong =>
        have hwithin : exponent.toNat + 1 ≤ digits.length := by omega
        rw [cutAt?, if_pos hwithin]
        rfl

end Layout

namespace Scientific

/-- The mantissa is digits and a point, so no other character is in it. -/
lemma not_mem_mantissa {s : Scientific} {c : Char} (hdigit : c.isDigit = false) (hpoint : c ≠ '.') :
    c ∉ s.mantissa := by
  intro hc
  rcases Layout.mem_mantissa hc with hc | hc
  · rw [isDigit_of_mem_digitsOf hc] at hdigit
    cases hdigit
  · exact hpoint hc

lemma not_mem_sign {s : Scientific} {c : Char} (hc : c ≠ '-') : c ∉ s.sign := by
  rw [sign]
  split
  · exact fun hmem => hc (List.mem_singleton.mp hmem)
  · exact List.not_mem_nil

/-- Without its point the mantissa is the digits. -/
lemma filter_mantissa (s : Scientific) : s.mantissa.filter (· ≠ '.') = digitsOf s.digits := by
  have hkeep : ∀ ds : List Char, (∀ c ∈ ds, c ∈ digitsOf s.digits) → ds.filter (· ≠ '.') = ds := by
    intro ds hds
    refine List.filter_eq_self.mpr fun c hc => decide_eq_true ?_
    rintro rfl
    exact absurd (isDigit_of_mem_digitsOf (hds '.' hc)) (by decide)
  rw [mantissa, Layout.mantissa_eq, List.filter_append, hkeep _ fun c hc => List.mem_of_mem_take hc]
  split
  · next hnil =>
      rw [List.filter_nil, ← hnil, List.take_append_drop]
  · rw [List.filter_cons_of_neg (by decide), hkeep _ fun c hc => List.mem_of_mem_drop hc,
      List.take_append_drop]

/-- A notation is taken apart into its parts. -/
lemma takeApart_text {s : Scientific} (h : s.exponent.natAbs < 2 ^ 31) :
    Layout.takeApart s.text = (s.sign, s.mantissa, s.exponent) := by
  have hmark : 'e' ∉ s.sign ++ s.mantissa := by
    rw [List.mem_append, not_or]
    exact ⟨not_mem_sign (by decide), not_mem_mantissa rfl (by decide)⟩
  have hsplit : Text.splitAtFirst ['e'] s.text
      = some (s.sign ++ s.mantissa, Json.writeInteger s.exponent) := by
    have hnot : ¬ ['e'] <:+: s.sign ++ s.mantissa := fun hin =>
      hmark (hin.subset List.mem_cons_self)
    exact Text.splitAtFirst_of_not_infix List.not_mem_nil hnot _
  rw [Layout.takeApart, hsplit]
  dsimp only
  rw [readInteger?_writeInteger h, Option.getD_some]
  rw [sign]
  cases s.negative with
  | true => rfl
  | false =>
      have hminus : ∀ rest, s.mantissa ≠ '-' :: rest := by
        intro rest heq
        exact not_mem_mantissa (s := s) rfl (by decide) (heq ▸ List.mem_cons_self)
      rw [if_neg Bool.false_ne_true, List.nil_append]
      split
      · next rest heq => exact absurd heq (hminus rest)
      · rfl

end Scientific

/-- **Rewriting comes to a result**, which is what the format makes of the notation. -/
theorem Layout.rewrite?_text (layout : Layout) {s : Scientific} (h : s.exponent.natAbs < 2 ^ 31) :
    layout.rewrite? s.text = some (s.textIn layout) := by
  rw [rewrite?, Scientific.takeApart_text h, Scientific.textIn, form]
  dsimp only
  split
  · rw [Scientific.filter_mantissa, positional?_eq]
    rfl
  · have hsize : s.exponent.natAbs < 0x80000000 := h
    rw [absolute?, if_pos hsize, scientific, Scientific.mantissa]
    simp

/-! ### The two shapes -/

namespace Scientific

/-- The sign, and digits on both sides of a point. -/
def IsPositional (s : Scientific) (text : List Char) : Prop :=
  ∃ whole fraction, whole ≠ [] ∧ fraction ≠ [] ∧ (∀ c ∈ whole ++ fraction, c.isDigit = true)
    ∧ text = s.sign ++ whole ++ '.' :: fraction

/-- The sign and the mantissa, and behind an exponent mark the exponent with a sign and at least so
many digits. -/
def IsExponential (s : Scientific) (width : Nat) (text : List Char) : Prop :=
  ∃ digits, width ≤ digits.length ∧ (∀ c ∈ digits, c.isDigit = true)
    ∧ digitsValue digits = s.exponent.natAbs
    ∧ text = s.sign ++ s.mantissa ++ 'e' :: (if s.exponent < 0 then '-' else '+') :: digits

variable {s : Scientific} {text : List Char}

lemma IsPositional.not_mem_mark (h : s.IsPositional text) : 'e' ∉ text := by
  obtain ⟨whole, fraction, -, -, hdigits, rfl⟩ := h
  have hpart : 'e' ∉ whole ++ fraction := fun hmem => absurd (hdigits 'e' hmem) (by decide)
  rw [List.mem_append, not_or] at hpart
  rw [List.mem_append, List.mem_append, List.mem_cons]
  rintro ((hsign | hwhole) | hpoint | hfraction)
  · exact not_mem_sign (by decide) hsign
  · exact hpart.1 hwhole
  · exact absurd hpoint (by decide)
  · exact hpart.2 hfraction

lemma IsExponential.mem_mark {width : Nat} (h : s.IsExponential width text) : 'e' ∈ text := by
  obtain ⟨digits, -, -, -, rfl⟩ := h
  simp

variable {layout : Layout}

/-- A number with an exponent from the range of the format comes out in positional form. -/
lemma isPositional_textIn (hzero : s.digits = 0 → s.exponent = 0)
    (hrange : layout.positionalFrom ≤ s.exponent ∧ s.exponent < layout.positionalBelow) :
    s.IsPositional (s.textIn layout) := by
  have hwellFormed := numeral_wellFormed hzero layout
  have hreal := layout.numeral_isReal s.negative s.exponent (digitsOf_ne_nil s.digits)
  have hexponent : (s.numeral layout).exponent = none := by
    rw [numeral, Layout.numeral, if_pos hrange, Layout.positionalNumeral]
    dsimp only
    split_ifs <;> rfl
  have hfraction : (s.numeral layout).fraction ≠ [] :=
    hreal.resolve_right (not_not_intro hexponent)
  have hnegative : (s.numeral layout).negative = s.negative := layout.numeral_negative _ _ _
  refine ⟨_, _, hwellFormed.whole_ne_nil, hfraction,
    List.forall_mem_append.mpr ⟨hwellFormed.whole_digits, hwellFormed.fraction_digits⟩, ?_⟩
  rw [← numeral_text, Numeral.text, if_neg hfraction, hexponent, Numeral.exponentText,
    List.append_nil, hnegative, sign]

/-- Any other number comes out with its exponent split off. -/
lemma isExponential_textIn (hplus : layout.plusSign = ['+'])
    (hrange : ¬ (layout.positionalFrom ≤ s.exponent ∧ s.exponent < layout.positionalBelow)) :
    s.IsExponential layout.exponentWidth (s.textIn layout) := by
  refine ⟨Layout.exponentDigits layout.exponentWidth s.exponent.natAbs, ?_,
    fun c hc => Layout.isDigit_of_mem_exponentDigits hc, Layout.digitsValue_exponentDigits _ _, ?_⟩
  · rw [Layout.exponentDigits, List.length_append, List.length_replicate]
    omega
  · rw [textIn, Layout.form, if_neg hrange, Layout.scientific, hplus, mantissa]
    split
    · simp
    · simp

lemma isPositional_textIn_iff (hplus : layout.plusSign = ['+'])
    (hzero : s.digits = 0 → s.exponent = 0) : s.IsPositional (s.textIn layout)
      ↔ layout.positionalFrom ≤ s.exponent ∧ s.exponent < layout.positionalBelow := by
  refine ⟨fun h => ?_, isPositional_textIn hzero⟩
  by_contra hrange
  exact h.not_mem_mark (isExponential_textIn hplus hrange).mem_mark

lemma isExponential_textIn_iff (hplus : layout.plusSign = ['+'])
    (hzero : s.digits = 0 → s.exponent = 0) :
    s.IsExponential layout.exponentWidth (s.textIn layout)
      ↔ ¬ (layout.positionalFrom ≤ s.exponent ∧ s.exponent < layout.positionalBelow) := by
  refine ⟨fun h hrange => ?_, isExponential_textIn hplus⟩
  exact (isPositional_textIn hzero hrange).not_mem_mark h.mem_mark

/-- Neither shape is the text of an integer. -/
lemma textIn_ne_writeInteger (hplus : layout.plusSign = [] ∨ layout.plusSign = ['+'])
    (hzero : s.digits = 0 → s.exponent = 0) (i : Int) :
    s.textIn layout ≠ Json.writeInteger i := by
  intro heq
  have hread := read_textIn hzero hplus
  rw [heq, Numeral.read_writeInteger] at hread
  obtain ⟨hsame, -⟩ := Prod.mk.inj (Option.some.inj hread)
  have hreal : (s.numeral layout).IsReal :=
    layout.numeral_isReal s.negative s.exponent (digitsOf_ne_nil s.digits)
  rw [← hsame] at hreal
  rcases hreal with hfraction | hexponent
  · exact hfraction rfl
  · exact hexponent rfl

end Scientific

/-- **Different notations are rewritten to different texts.** -/
theorem Layout.rewrite?_injective {layout : Layout}
    (hplus : layout.plusSign = [] ∨ layout.plusSign = ['+']) {s t : Scientific} (hs : s.Normal)
    (ht : t.Normal) (h : layout.rewrite? s.text = layout.rewrite? t.text) : s = t := by
  rw [layout.rewrite?_text hs.bounded, layout.rewrite?_text ht.bounded] at h
  have hdenotes := Scientific.denotes_textIn hs.zero hplus
  rw [Option.some.inj h] at hdenotes
  obtain ⟨hnegative, hvalue⟩ := hdenotes.unique (Scientific.denotes_textIn ht.zero hplus)
  exact Scientific.eq_of_value hs ht hnegative hvalue

end AskSql.Decimal
