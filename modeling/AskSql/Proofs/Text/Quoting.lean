import AskSql.Text.Quoted
import Mathlib.Tactic.Lemma
import Mathlib.Tactic.SplitIfs

/-!
Texts and bytes between quotes, read back.

Between quotes every character is read back by itself, escaped or not, and none is taken for the
closing quote. So a quoted text is read from the front of any text that it begins, and so are
bytes.

* `unquoteBody_escapeChar`: one character of a text is read back.
* `unquote_quote`: a quoted text is read back, whatever follows it.
* `readBytes`: reads bytes up to the closing quote.
* `readBytes_escapeByte`: one byte is read back.
* `readBytes_escapeBytes`: bytes are read back, whatever follows their quote.
-/

namespace AskSql.Text

/-! ### Texts -/

section Texts

variable {q c : Char}

/-- A character behind a backslash is escaped. -/
lemma unquoteBody_escaped (q c : Char) (rest : List Char) :
    unquoteBody q ('\\' :: c :: rest)
      = (unquoteBody q rest).map fun read => (unescapeChar c :: read.1, read.2) := rfl

/-- A character that is neither a backslash nor the quote stands for itself. -/
lemma unquoteBody_cons (hslash : c ≠ '\\') (hquote : c ≠ q) (rest : List Char) :
    unquoteBody q (c :: rest) = (unquoteBody q rest).map fun read => (c :: read.1, read.2) := by
  rw [unquoteBody, if_neg hquote]
  rintro d tail rfl -
  exact hslash rfl

/-- The quote ends the text. -/
lemma unquoteBody_quote (hslash : q ≠ '\\') (rest : List Char) :
    unquoteBody q (q :: rest) = some ([], rest) := by
  rw [unquoteBody, if_pos rfl]
  rintro d tail rfl -
  exact hslash rfl

/-- One character of a text is read back. -/
lemma unquoteBody_escapeChar (hq : q = '\'' ∨ q = '"') (c : Char) (rest : List Char) :
    unquoteBody q (escapeChar q c ++ rest)
      = (unquoteBody q rest).map fun read => (c :: read.1, read.2) := by
  rw [escapeChar]
  split_ifs with hslash hline hreturn htab hquote
  · rw [hslash]
    exact unquoteBody_escaped q '\\' rest
  · rw [hline]
    exact unquoteBody_escaped q 'n' rest
  · rw [hreturn]
    exact unquoteBody_escaped q 'r' rest
  · rw [htab]
    exact unquoteBody_escaped q 't' rest
  · -- neither quote is the letter of an escape
    have hself : unescapeChar c = c := by
      rcases hq with rfl | rfl
      · rw [hquote]
        rfl
      · rw [hquote]
        rfl
    rw [List.cons_append, List.singleton_append, unquoteBody_escaped, hself]
  · exact unquoteBody_cons hslash hquote rest

lemma unquoteBody_flatMap (hq : q = '\'' ∨ q = '"') (text rest : List Char) :
    unquoteBody q (text.flatMap (escapeChar q) ++ q :: rest) = some (text, rest) := by
  induction text with
  | nil =>
      have hslash : q ≠ '\\' := by
        rcases hq with rfl | rfl
        · decide
        · decide
      exact unquoteBody_quote hslash rest
  | cons c text ih =>
      rw [List.flatMap_cons, List.append_assoc, unquoteBody_escapeChar hq, ih]
      rfl

lemma quoteFor_eq (text : List Char) : quoteFor text = '\'' ∨ quoteFor text = '"' := by
  rw [quoteFor]
  split
  · exact .inr rfl
  · exact .inl rfl

/-- **A quoted text is read back**, whatever follows it. -/
theorem unquote_quote (text rest : List Char) :
    unquote (quote text ++ rest) = some (text, rest) := by
  have hbody := unquoteBody_flatMap (quoteFor_eq text) text rest
  rw [quote, List.append_assoc, List.cons_append, List.singleton_append]
  rcases quoteFor_eq text with hquote | hquote
  · rw [hquote] at hbody ⊢
    exact hbody
  · rw [hquote] at hbody ⊢
    exact hbody

end Texts

/-! ### Bytes -/

/-- Reads up to the first unescaped single quote: the bytes, and what follows the quote. -/
def readBytes : List Char → Option (List UInt8 × List Char)
  | [] => none
  | '\\' :: 'x' :: high :: low :: rest =>
      (hexByte high low).bind fun byte =>
        (readBytes rest).map fun read => (byte :: read.1, read.2)
  | '\\' :: c :: rest =>
      (readBytes rest).map fun read => ((unescapeChar c).toUInt8 :: read.1, read.2)
  | c :: rest =>
      if c = '\'' then some ([], rest)
      else (readBytes rest).map fun read => (c.toUInt8 :: read.1, read.2)

lemma hexValue_hexDigit : ∀ n < 16, hexValue (hexDigit n) = some n := by decide

/-- A byte is read back from its two digits. -/
lemma hexByte_hexDigit {n : Nat} (h : n < 256) :
    hexByte (hexDigit (n / 16)) (hexDigit (n % 16)) = some (UInt8.ofNat n) := by
  have hhigh := hexValue_hexDigit (n / 16) (by omega)
  have hlow := hexValue_hexDigit (n % 16) (by omega)
  simp only [hexByte, hhigh, hlow, Option.bind_eq_bind, Option.bind_some, Nat.div_add_mod]
  rfl

section Byte

variable {b : UInt8} {c : Char}

lemma toUInt8_eq (h : c.toNat = b.toNat) : c.toUInt8 = b := by
  have hsame : UInt8.ofNat c.toNat = UInt8.ofNat b.toNat := congrArg UInt8.ofNat h
  rwa [UInt8.ofNat_toNat] at hsame

lemma toNat_ofNat {n : Nat} (h : n < 256) : (Char.ofNat n).toNat = n := by
  have hvalid : n.isValidChar := .inl (by omega)
  rw [Char.ofNat, dif_pos hvalid]
  rfl

/-- A character behind a backslash is escaped, unless it announces two digits. -/
lemma readBytes_escaped (c : Char) (hc : c ≠ 'x') (hb : (unescapeChar c).toNat = b.toNat)
    (rest : List Char) :
    readBytes ('\\' :: c :: rest) = (readBytes rest).map fun read => (b :: read.1, read.2) := by
  rw [readBytes, toUInt8_eq hb]
  rintro high low tail rfl -
  exact hc rfl

/-- A character that is neither a backslash nor the quote stands for itself. -/
lemma readBytes_cons (hslash : c ≠ '\\') (hquote : c ≠ '\'') (hb : c.toNat = b.toNat)
    (rest : List Char) :
    readBytes (c :: rest) = (readBytes rest).map fun read => (b :: read.1, read.2) := by
  rw [readBytes, if_neg hquote, toUInt8_eq hb]
  · rintro high low tail rfl -
    exact hslash rfl
  · rintro d tail rfl -
    exact hslash rfl

/-- One byte is read back. -/
lemma readBytes_escapeByte (b : UInt8) (rest : List Char) :
    readBytes (escapeByte b ++ rest) = (readBytes rest).map fun read => (b :: read.1, read.2) := by
  have hbound : b.toNat < 256 := b.toNat_lt
  rw [escapeByte]
  split_ifs with htab hreturn hline hquotes hvisible
  · exact readBytes_escaped 't' (by decide) htab.symm rest
  · exact readBytes_escaped 'r' (by decide) hreturn.symm rest
  · exact readBytes_escaped 'n' (by decide) hline.symm rest
  · rcases hquotes with hquote | hquote | hslash
    · rw [hquote]
      exact readBytes_escaped '\'' (by decide) hquote.symm rest
    · rw [hquote]
      exact readBytes_escaped '"' (by decide) hquote.symm rest
    · rw [hslash]
      exact readBytes_escaped '\\' (by decide) hslash.symm rest
  · -- a visible character that is not escaped is none of those that are
    have hne : ∀ c, b.toNat ≠ c.toNat → Char.ofNat b.toNat ≠ c := by
      rintro c hne rfl
      exact hne (toNat_ofNat hbound).symm
    obtain ⟨hquote, -, hslash⟩ := not_or.mp hquotes |>.imp_right not_or.mp
    exact readBytes_cons (hne '\\' hslash) (hne '\'' hquote) (toNat_ofNat hbound) rest
  · have hhex := hexByte_hexDigit hbound
    rw [UInt8.ofNat_toNat] at hhex
    rw [List.cons_append, List.cons_append, List.cons_append, List.cons_append, List.nil_append,
      readBytes, hhex, Option.bind_some]

end Byte

/-- **Bytes are read back**, whatever follows their quote. -/
theorem readBytes_escapeBytes (bytes : List UInt8) (rest : List Char) :
    readBytes (escapeBytes bytes ++ '\'' :: rest) = some (bytes, rest) := by
  rw [escapeBytes]
  induction bytes with
  | nil => rfl
  | cons b bytes ih =>
      rw [List.flatMap_cons, List.append_assoc, readBytes_escapeByte, ih]
      rfl

end AskSql.Text
