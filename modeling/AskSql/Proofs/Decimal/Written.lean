import AskSql.Proofs.Decimal.Characters
import AskSql.Proofs.Decimal.Interval
import AskSql.Decimal.Numeral

/-!
Numerals, written down and read back.

A numeral is written as its sign, its digits, its fraction and its exponent, one after the other,
and each of them ends where the next begins: at a point, at an exponent mark, or at the end of the
text. So every numeral is read back from its text. Both forms in which a format writes a decimal
are texts of numerals, and these stand for the decimal.

* `digitsValue_append`, `digitsValue_digitsOf`: the number that digits stand for.
* `Numeral.text`, `Numeral.WellFormed`: a numeral written down.
* `Numeral.read_text`: it is read back.
* `Numeral.value`: the rational that a numeral stands for, without its sign.
* `Layout.numeral`: the numeral of a decimal in the form that a format picks.
* `Layout.numeral_text`, `Layout.numeral_value`: it is what the format writes, and stands for the
  decimal.
-/

namespace AskSql.Decimal

/-! ### Digits -/

lemma digitsValue_append (xs ys : List Char) :
    digitsValue (xs ++ ys) = digitsValue xs * 10 ^ ys.length + digitsValue ys := by
  have happend : Nat.ofDigitChars 10 (xs ++ ys) 0
      = 10 ^ ys.length * Nat.ofDigitChars 10 xs 0 + Nat.ofDigitChars 10 ys 0 := by
    rw [Nat.ofDigitChars_append, Nat.ofDigitChars_eq_ofDigitChars_zero]
  rw [mul_comm]
  exact happend

lemma digitsValue_replicate_zero (n : Nat) : digitsValue (List.replicate n '0') = 0 :=
  Nat.ofDigitChars_replicate_zero

/-- Zeros in front of digits do not count. -/
lemma digitsValue_replicate_append (n : Nat) (ds : List Char) :
    digitsValue (List.replicate n '0' ++ ds) = digitsValue ds := by
  rw [digitsValue_append, digitsValue_replicate_zero, zero_mul, zero_add]

/-- The digits of a number stand for it. -/
lemma digitsValue_digitsOf (n : Nat) : digitsValue (digitsOf n) = n :=
  Nat.ofDigitChars_ten_toDigits

lemma digitsOf_ne_nil (n : Nat) : digitsOf n ≠ [] := Nat.toDigits_ne_nil

/-- A positive number does not begin with a zero. -/
lemma head_digitsOf_ne_zero {n : Nat} (h : 0 < n) : (digitsOf n).head? ≠ some '0' := by
  have hdigit : ∀ m < 10, 0 < m → Nat.digitChar m ≠ '0' := by decide
  induction n using Nat.strongRecOn with
  | ind n ih =>
      by_cases hn : n < 10
      · rw [digitsOf, Nat.toDigits_of_lt_base hn]
        simpa using hdigit n hn h
      · have hdiv : 0 < n / 10 := by omega
        rw [digitsOf, Nat.toDigits_of_base_le (by decide) (by omega),
          List.head?_append_of_ne_nil _ Nat.toDigits_ne_nil]
        exact ih (n / 10) (by omega) hdiv

namespace Numeral

/-! ### Texts of numerals -/

/-- The text of an exponent; `plus` stands before one that is not negative. -/
def exponentText (plus : List Char) : Option (Bool × List Char) → List Char
  | none => []
  | some (negative, digits) => 'e' :: (if negative then ['-'] else plus) ++ digits

/-- The text of a numeral. -/
def text (plus : List Char) (n : Numeral) : List Char :=
  (if n.negative then ['-'] else []) ++ n.whole
    ++ (if n.fraction = [] then [] else '.' :: n.fraction) ++ exponentText plus n.exponent

/-- All parts consist of digits, none is empty that may not be, and only a single zero begins with
one. -/
structure WellFormed (n : Numeral) : Prop where
  whole_digits : ∀ c ∈ n.whole, c.isDigit = true
  whole_ne_nil : n.whole ≠ []
  whole_zero : n.whole.head? = some '0' → n.whole = ['0']
  fraction_digits : ∀ c ∈ n.fraction, c.isDigit = true
  exponent_digits : ∀ e ∈ n.exponent, e.2 ≠ [] ∧ ∀ c ∈ e.2, c.isDigit = true

section Reading

variable {ds rest : List Char}

/-- A text that goes on with something else than a digit. -/
def Stops (rest : List Char) : Prop := ∀ c ∈ rest.head?, c.isDigit = false

lemma stops_nil : Stops [] := by
  intro c hc
  cases hc

lemma stops_cons {c : Char} (hc : c.isDigit = false) (rest : List Char) : Stops (c :: rest) := by
  rintro d hd
  rwa [← Option.some.inj hd]

lemma takeDigits_append (hds : ∀ c ∈ ds, c.isDigit = true) (hrest : Stops rest) :
    takeDigits (ds ++ rest) = (ds, rest) := by
  have hstop : rest.takeWhile Char.isDigit = [] ∧ rest.dropWhile Char.isDigit = rest := by
    cases rest with
    | nil => exact ⟨rfl, rfl⟩
    | cons c rest =>
        have hc : ¬ c.isDigit = true := by
          rw [hrest c rfl]
          exact Bool.false_ne_true
        exact ⟨List.takeWhile_cons_of_neg hc, List.dropWhile_cons_of_neg hc⟩
  rw [takeDigits, List.takeWhile_append_of_pos hds, List.dropWhile_append_of_pos hds, hstop.1,
    hstop.2, List.append_nil]

lemma takeDigits?_append (hds : ∀ c ∈ ds, c.isDigit = true) (hne : ds ≠ []) (hrest : Stops rest) :
    takeDigits? (ds ++ rest) = some (ds, rest) := by
  rw [takeDigits?, takeDigits_append hds hrest]
  cases ds with
  | nil => exact absurd rfl hne
  | cons c ds => rfl

lemma readWhole_append (hds : ∀ c ∈ ds, c.isDigit = true) (hne : ds ≠ [])
    (hzero : ds.head? = some '0' → ds = ['0']) (hrest : Stops rest) :
    readWhole (ds ++ rest) = some (ds, rest) := by
  by_cases hhead : ds.head? = some '0'
  · rw [hzero hhead]
    rfl
  · have hnot : ∀ tail, ds ++ rest ≠ '0' :: tail := by
      intro tail heq
      rw [← List.head?_append_of_ne_nil ds hne, heq] at hhead
      exact hhead rfl
    rw [readWhole.eq_def]
    split
    · next tail heq => exact absurd heq (hnot tail)
    · exact takeDigits?_append hds hne hrest

lemma readFraction_append (hds : ∀ c ∈ ds, c.isDigit = true) (hrest : Stops rest)
    (hpoint : rest.head? ≠ some '.') :
    readFraction ((if ds = [] then [] else '.' :: ds) ++ rest) = some (ds, rest) := by
  by_cases hempty : ds = []
  · rw [if_pos hempty, hempty, List.nil_append, readFraction.eq_def]
    split
    · next tail => exact absurd rfl hpoint
    · rfl
  · rw [if_neg hempty, List.cons_append, readFraction]
    exact takeDigits?_append hds hempty hrest

lemma readSign_append {plus : List Char} (hplus : plus = [] ∨ plus = ['+']) (negative : Bool)
    (hds : ∀ c ∈ ds, c.isDigit = true) :
    readSign ((if negative then ['-'] else plus) ++ ds) = (negative, ds) := by
  cases negative with
  | true => rfl
  | false =>
      rcases hplus with rfl | rfl
      · -- digits do not look like a sign
        have hnot : ∀ c ∈ ['+', '-'], ∀ tail, ds ≠ c :: tail := by
          rintro c hc tail rfl
          have hsign : ∀ c ∈ ['+', '-'], c.isDigit = false :=
            List.forall_mem_cons.mpr ⟨rfl, List.forall_mem_singleton.mpr rfl⟩
          have hdigit := hds c List.mem_cons_self
          rw [hsign c hc] at hdigit
          cases hdigit
        rw [if_neg Bool.false_ne_true, List.nil_append, readSign.eq_def]
        split
        · next tail => exact absurd rfl (hnot '+' (by decide) tail)
        · next tail => exact absurd rfl (hnot '-' (by decide) tail)
        · rfl
      · rfl

lemma readExponent_text {plus : List Char} (hplus : plus = [] ∨ plus = ['+'])
    {e : Option (Bool × List Char)} (he : ∀ d ∈ e, d.2 ≠ [] ∧ ∀ c ∈ d.2, c.isDigit = true) :
    readExponent (exponentText plus e) = some (e, []) := by
  cases e with
  | none => rfl
  | some e =>
      obtain ⟨negative, digits⟩ := e
      obtain ⟨hne, hdigits⟩ : digits ≠ [] ∧ ∀ c ∈ digits, c.isDigit = true := he _ rfl
      have htake := takeDigits?_append hdigits hne stops_nil
      rw [List.append_nil] at htake
      rw [exponentText, List.cons_append, readExponent, if_pos (Or.inl rfl),
        readSign_append hplus negative hdigits]
      dsimp only
      rw [htake]
      rfl

/-- What is read after the sign. -/
def readUnsigned (negative : Bool) (s : List Char) : Option (Numeral × List Char) := do
  let (whole, s) ← readWhole s
  let (fraction, s) ← readFraction s
  let (exponent, s) ← readExponent s
  return (⟨negative, whole, fraction, exponent⟩, s)

lemma read_minus (s : List Char) : read ('-' :: s) = readUnsigned true s := rfl

lemma read_of_head_ne {s : List Char} (h : s.head? ≠ some '-') :
    read s = readUnsigned false s := by
  rw [read]
  · rfl
  · rintro rest rfl
    exact h rfl

/-- The parts are read one after the other. -/
lemma readUnsigned_eq {negative : Bool} {s s₁ s₂ s₃ whole fraction : List Char}
    {exponent : Option (Bool × List Char)} (hwhole : readWhole s = some (whole, s₁))
    (hfraction : readFraction s₁ = some (fraction, s₂))
    (hexponent : readExponent s₂ = some (exponent, s₃)) :
    readUnsigned negative s = some (⟨negative, whole, fraction, exponent⟩, s₃) := by
  simp [readUnsigned, hwhole, hfraction, hexponent]

end Reading

/-- **A numeral is read back from its text.** -/
theorem read_text {plus : List Char} (hplus : plus = [] ∨ plus = ['+']) {n : Numeral}
    (h : n.WellFormed) : read (n.text plus) = some (n, []) := by
  have hexponent := readExponent_text hplus h.exponent_digits
  have hmark : Stops (exponentText plus n.exponent)
      ∧ (exponentText plus n.exponent).head? ≠ some '.' := by
    cases n.exponent with
    | none => exact ⟨stops_nil, by simp [exponentText]⟩
    | some e => exact ⟨stops_cons rfl _, by simp [exponentText]⟩
  have hfraction := readFraction_append h.fraction_digits hmark.1 hmark.2
  have hpoint : Stops ((if n.fraction = [] then [] else '.' :: n.fraction)
      ++ exponentText plus n.exponent) := by
    split
    · exact hmark.1
    · exact stops_cons rfl _
  have hwhole := readWhole_append h.whole_digits h.whole_ne_nil h.whole_zero hpoint
  have hunsigned : ∀ negative, readUnsigned negative (n.whole
      ++ ((if n.fraction = [] then [] else '.' :: n.fraction) ++ exponentText plus n.exponent))
        = some (⟨negative, n.whole, n.fraction, n.exponent⟩, []) := fun _ =>
    readUnsigned_eq hwhole hfraction hexponent
  rw [text, List.append_assoc, List.append_assoc]
  cases hnegative : n.negative with
  | true =>
      rw [if_pos rfl, List.singleton_append, read_minus, hunsigned, ← hnegative]
  | false =>
      rw [if_neg Bool.false_ne_true, List.nil_append, read_of_head_ne, hunsigned, ← hnegative]
      rw [List.head?_append_of_ne_nil _ h.whole_ne_nil]
      intro hhead
      have hdigit := h.whole_digits '-' (List.mem_of_head? hhead)
      cases hdigit

/-! ### The number that a numeral stands for -/

/-- The magnitude of a numeral. -/
def value (n : Numeral) : ℚ :=
  digitsValue (n.whole ++ n.fraction) * 10 ^ (n.writtenExponent - n.fraction.length)

/-- Without an exponent the point alone counts. -/
lemma value_none (negative : Bool) (whole fraction : List Char) :
    (⟨negative, whole, fraction, none⟩ : Numeral).value
      = digitsValue (whole ++ fraction) * 10 ^ (-(fraction.length : Int)) := by
  rw [value, writtenExponent, zero_sub]

/-- A numeral that is not the text of an integer. -/
def IsReal (n : Numeral) : Prop := n.fraction ≠ [] ∨ n.exponent ≠ none

end Numeral

/-! ### The two forms of a decimal -/

namespace Layout

/-- The numeral of a decimal in positional form. -/
def positionalNumeral (negative : Bool) (digits : List Char) (exponent : Int) : Numeral :=
  if exponent < 0 then
    ⟨negative, ['0'], List.replicate (-exponent - 1).toNat '0' ++ digits, none⟩
  else
    let whole := exponent.toNat + 1
    if digits.length ≤ whole then
      ⟨negative, digits ++ List.replicate (whole - digits.length) '0', ['0'], none⟩
    else ⟨negative, digits.take whole, digits.drop whole, none⟩

/-- The numeral of a decimal with its exponent split off. -/
def scientificNumeral (layout : Layout) (negative : Bool) (digits : List Char) (exponent : Int) :
    Numeral :=
  ⟨negative, digits.take 1, digits.drop 1,
    some (decide (exponent < 0), exponentDigits layout.exponentWidth exponent.natAbs)⟩

/-- The numeral of a decimal in the form that the format picks. -/
def numeral (layout : Layout) (negative : Bool) (digits : List Char) (exponent : Int) : Numeral :=
  if layout.positionalFrom ≤ exponent ∧ exponent < layout.positionalBelow then
    positionalNumeral negative digits exponent
  else layout.scientificNumeral negative digits exponent

variable (layout : Layout) (negative : Bool) {digits : List Char} (exponent : Int)

lemma numeral_negative (digits : List Char) :
    (layout.numeral negative digits exponent).negative = negative := by
  rw [numeral, positionalNumeral, scientificNumeral]
  dsimp only
  split_ifs <;> rfl

lemma digitsValue_exponentDigits (width n : Nat) : digitsValue (exponentDigits width n) = n := by
  rw [exponentDigits, digitsValue_replicate_append, digitsValue_digitsOf]

lemma exponentDigits_ne_nil (width n : Nat) : exponentDigits width n ≠ [] := by
  rw [exponentDigits]
  exact List.append_ne_nil_of_right_ne_nil _ (digitsOf_ne_nil n)

/-- A point comes after the first digit, if there are more. -/
lemma mantissa_eq (digits : List Char) : mantissa digits
    = digits.take 1 ++ if digits.drop 1 = [] then [] else '.' :: digits.drop 1 := by
  match digits with
  | [] => rfl
  | [d] => rfl
  | d :: e :: rest => rfl

section Digits

variable (hne : digits ≠ [])

include hne

lemma positionalNumeral_text (plus : List Char) :
    (positionalNumeral negative digits exponent).text plus
      = (if negative then ['-'] else []) ++ positional digits exponent := by
  rw [positionalNumeral, positional]
  split
  · simp [Numeral.text, Numeral.exponentText, hne]
  · dsimp only
    split
    · simp [Numeral.text, Numeral.exponentText]
    · next hlong =>
        have hdrop : digits.drop (exponent.toNat + 1) ≠ [] := by
          rw [ne_eq, List.drop_eq_nil_iff]
          exact hlong
        simp [Numeral.text, Numeral.exponentText, hdrop]

omit hne in
lemma positionalNumeral_value : (positionalNumeral negative digits exponent).value
    = digitsValue digits * 10 ^ (exponent + 1 - digits.length) := by
  rw [positionalNumeral]
  split
  · next hexponent =>
      have hdigits : ['0'] ++ (List.replicate (-exponent - 1).toNat '0' ++ digits)
          = List.replicate ((-exponent - 1).toNat + 1) '0' ++ digits := rfl
      rw [Numeral.value_none, hdigits, digitsValue_replicate_append]
      congr 2
      rw [List.length_append, List.length_replicate]
      omega
  · next hexponent =>
      dsimp only
      split
      · next hshort =>
          have hzeros : List.replicate (exponent.toNat + 1 - digits.length) '0' ++ ['0']
              = List.replicate (exponent.toNat + 1 - digits.length + 1) '0' :=
            List.replicate_succ'.symm
          have hpow : (10 : ℚ) ^ (exponent.toNat + 1 - digits.length + 1) * 10 ^ (-1 : Int)
              = 10 ^ (exponent + 1 - digits.length) := by
            rw [← zpow_natCast, ← zpow_add₀ (by norm_num)]
            congr 1
            omega
          rw [Numeral.value_none, List.append_assoc, hzeros, digitsValue_append,
            digitsValue_replicate_zero, List.length_replicate, ← hpow, add_zero, Nat.cast_mul,
            Nat.cast_pow, mul_assoc]
          rfl
      · next hlong =>
          rw [Numeral.value_none, List.take_append_drop, List.length_drop]
          congr 2
          omega

omit hne in
lemma scientificNumeral_text :
    (layout.scientificNumeral negative digits exponent).text layout.plusSign
      = (if negative then ['-'] else []) ++ layout.scientific digits exponent := by
  rw [scientificNumeral, scientific, mantissa_eq, Numeral.text, Numeral.exponentText]
  simp

lemma scientificNumeral_value : (layout.scientificNumeral negative digits exponent).value
    = digitsValue digits * 10 ^ (exponent + 1 - digits.length) := by
  have hlength : 0 < digits.length := List.length_pos_iff.mpr hne
  have hwritten :
      (layout.scientificNumeral negative digits exponent).writtenExponent = exponent := by
    rw [Numeral.writtenExponent, scientificNumeral]
    dsimp only
    rw [digitsValue_exponentDigits]
    split
    · next hneg =>
        have hlt := of_decide_eq_true hneg
        omega
    · next hpos =>
        have hge : ¬ exponent < 0 := fun hlt => hpos (decide_eq_true hlt)
        omega
  rw [Numeral.value, hwritten, scientificNumeral, List.take_append_drop, List.length_drop]
  congr 2
  omega

/-- The numeral is what the format writes. -/
lemma numeral_text : (layout.numeral negative digits exponent).text layout.plusSign
    = (if negative then ['-'] else []) ++ layout.form digits exponent := by
  rw [numeral, form]
  split
  · exact positionalNumeral_text negative exponent hne layout.plusSign
  · exact scientificNumeral_text layout negative exponent

/-- It stands for the decimal. -/
lemma numeral_value : (layout.numeral negative digits exponent).value
    = digitsValue digits * 10 ^ (exponent + 1 - digits.length) := by
  rw [numeral]
  split
  · exact positionalNumeral_value negative exponent
  · exact scientificNumeral_value layout negative exponent hne

/-- It is not the text of an integer. -/
lemma numeral_isReal : (layout.numeral negative digits exponent).IsReal := by
  rw [numeral]
  split
  · left
    rw [positionalNumeral]
    dsimp only
    split_ifs with hexponent hshort
    · exact List.append_ne_nil_of_right_ne_nil _ hne
    · exact List.cons_ne_nil _ _
    · rw [ne_eq, List.drop_eq_nil_iff]
      exact hshort
  · right
    exact Option.some_ne_none _

lemma positionalNumeral_wellFormed (hdigits : ∀ c ∈ digits, c.isDigit = true)
    (hzero : digits.head? ≠ some '0') :
    (positionalNumeral negative digits exponent).WellFormed := by
  have hzeros : ∀ n, ∀ c ∈ List.replicate n '0', c.isDigit = true := fun n c hc =>
    isDigit_of_mem_replicate hc
  have hzeroDigit : ∀ c ∈ ['0'], c.isDigit = true :=
      List.forall_mem_singleton.mpr rfl
  rw [positionalNumeral]
  dsimp only
  split_ifs with hexponent hshort
  · exact {
      whole_digits := hzeroDigit
      whole_ne_nil := List.cons_ne_nil _ _
      whole_zero := fun _ => rfl
      fraction_digits := List.forall_mem_append.mpr ⟨hzeros _, hdigits⟩
      exponent_digits := fun e he => by cases he }
  · exact {
      whole_digits := List.forall_mem_append.mpr ⟨hdigits, hzeros _⟩
      whole_ne_nil := List.append_ne_nil_of_left_ne_nil hne _
      whole_zero := fun hhead => by
        rw [List.head?_append_of_ne_nil _ hne] at hhead
        exact absurd hhead hzero
      fraction_digits := hzeroDigit
      exponent_digits := fun e he => by cases he }
  · have htake : (digits.take (exponent.toNat + 1)).head? = digits.head? := by
      rw [List.head?_take, if_neg (Nat.succ_ne_zero _)]
    exact {
      whole_digits := fun c hc => hdigits c (List.mem_of_mem_take hc)
      whole_ne_nil := by simp [hne]
      whole_zero := fun hhead => by
        rw [htake] at hhead
        exact absurd hhead hzero
      fraction_digits := fun c hc => hdigits c (List.mem_of_mem_drop hc)
      exponent_digits := fun e he => by cases he }

/-- With the exponent split off a single digit stands before the point, so that it may be a zero. -/
lemma scientificNumeral_wellFormed (hdigits : ∀ c ∈ digits, c.isDigit = true) :
    (layout.scientificNumeral negative digits exponent).WellFormed where
  whole_digits c hc := hdigits c (List.mem_of_mem_take hc)
  whole_ne_nil := by simp [scientificNumeral, hne]
  whole_zero hhead := by
    rw [scientificNumeral] at hhead ⊢
    cases digits with
    | nil => exact absurd rfl hne
    | cons d digits =>
        cases hhead
        rfl
  fraction_digits c hc := hdigits c (List.mem_of_mem_drop hc)
  exponent_digits e he := by
    cases he
    exact ⟨exponentDigits_ne_nil _ _, fun c hc => isDigit_of_mem_exponentDigits hc⟩

lemma numeral_wellFormed (hdigits : ∀ c ∈ digits, c.isDigit = true)
    (hzero : digits.head? ≠ some '0') : (layout.numeral negative digits exponent).WellFormed := by
  rw [numeral]
  split
  · exact positionalNumeral_wellFormed negative exponent hne hdigits hzero
  · exact scientificNumeral_wellFormed layout negative exponent hne hdigits

end Digits

end Layout

end AskSql.Decimal
