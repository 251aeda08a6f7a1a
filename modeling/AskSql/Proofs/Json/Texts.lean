import AskSql.Json.Printer
import AskSql.Json.Reader
import AskSql.Proofs.Text.Quoting

/-!
JSON texts, written down and read back.

A character is written as itself or as an escape, and in either form it is read back alone, so the
quote at the end is the first one that is not behind a backslash.

* `readChar_escape`: one character of a text is read back.
* `readTextBody_flatMap`: all of them are, if there are steps enough.
* `readText_writeText`: a text is read back, whatever follows it.
-/

namespace AskSql.Json

section Characters

variable {c : Char}

/-- The four digits of a control character are read back. -/
lemma readHex_control (hcontrol : c.toNat < 0x20) (rest : List Char) :
    readHex ('0' :: '0' :: Text.hexDigit (c.toNat / 16) :: Text.hexDigit (c.toNat % 16) :: rest)
      = some (c.toNat, rest) := by
  have hzero : Text.hexValue '0' = some 0 := rfl
  have hhigh := Text.hexValue_hexDigit (c.toNat / 16) (by omega)
  have hlow := Text.hexValue_hexDigit (c.toNat % 16) (by omega)
  have hnumber : ((0 * 16 + 0) * 16 + c.toNat / 16) * 16 + c.toNat % 16 = c.toNat := by omega
  simp only [readHex, hzero, hhigh, hlow, Option.bind_eq_bind, Option.bind_some, hnumber]
  rfl

lemma readUnicodeEscape_control (hcontrol : c.toNat < 0x20) (rest : List Char) :
    readUnicodeEscape
        ('0' :: '0' :: Text.hexDigit (c.toNat / 16) :: Text.hexDigit (c.toNat % 16) :: rest)
      = some (c, rest) := by
  have hlow : ¬ (0xDC00 ≤ c.toNat ∧ c.toNat ≤ 0xDFFF) := by omega
  have hhigh : ¬ (0xD800 ≤ c.toNat ∧ c.toNat ≤ 0xDBFF) := by omega
  rw [readUnicodeEscape, readHex_control hcontrol]
  simp only [Option.bind_eq_bind, Option.bind_some, if_neg hlow, if_neg hhigh, Char.ofNat_toNat]
  rfl

/-- One character of a text is read back: whatever it is written as, this does not begin with the
quote. -/
lemma readChar_escape (c : Char) : ∃ first tail, escape c = first :: tail ∧ first ≠ '"'
    ∧ ∀ rest, readChar first (tail ++ rest) = some (c, rest) := by
  rw [escape]
  split_ifs with hquote hslash hback hform hline hreturn htab hcontrol
  · exact ⟨'\\', _, rfl, by decide, fun rest => by rw [hquote]; rfl⟩
  · exact ⟨'\\', _, rfl, by decide, fun rest => by rw [hslash]; rfl⟩
  · exact ⟨'\\', _, rfl, by decide, fun rest => by rw [hback]; rfl⟩
  · exact ⟨'\\', _, rfl, by decide, fun rest => by rw [hform]; rfl⟩
  · exact ⟨'\\', _, rfl, by decide, fun rest => by rw [hline]; rfl⟩
  · exact ⟨'\\', _, rfl, by decide, fun rest => by rw [hreturn]; rfl⟩
  · exact ⟨'\\', _, rfl, by decide, fun rest => by rw [htab]; rfl⟩
  · exact ⟨'\\', _, rfl, by decide, readUnicodeEscape_control hcontrol⟩
  · refine ⟨c, [], rfl, hquote, fun rest => ?_⟩
    rw [readChar.eq_def, if_neg hslash, if_neg hcontrol]
    rfl

end Characters

/-! ### Texts -/

/-- One step reads one character. -/
lemma readTextBody_escape (n : Nat) (c : Char) (rest : List Char) :
    readTextBody (n + 1) (escape c ++ rest)
      = (readTextBody n rest).map fun read => (c :: read.1, read.2) := by
  obtain ⟨first, tail, hescape, hquote, hread⟩ := readChar_escape c
  rw [hescape, List.cons_append, readTextBody, if_neg hquote, hread]
  simp only [Option.bind_eq_bind, Option.bind_some]
  cases readTextBody n rest with
  | none => rfl
  | some read => rfl

lemma readTextBody_flatMap {n : Nat} {text : List Char} (hsteps : text.length < n)
    (rest : List Char) :
    readTextBody n (text.flatMap escape ++ '"' :: rest) = some (text, rest) := by
  induction text generalizing n with
  | nil =>
      cases n with
      | zero => exact absurd hsteps (Nat.not_lt_zero _)
      | succ n => rfl
  | cons c text ih =>
      cases n with
      | zero => exact absurd hsteps (Nat.not_lt_zero _)
      | succ n =>
          rw [List.flatMap_cons, List.append_assoc, readTextBody_escape,
            ih (Nat.lt_of_succ_lt_succ hsteps)]
          rfl

/-- A text is not shorter when it is written. -/
lemma length_le_flatMap_escape (text : List Char) : text.length ≤ (text.flatMap escape).length := by
  induction text with
  | nil => exact Nat.zero_le _
  | cons c text ih =>
      obtain ⟨first, tail, hescape, -⟩ := readChar_escape c
      rw [List.flatMap_cons, List.length_append, hescape, List.length_cons, List.length_cons]
      omega

/-- **A text is read back**, whatever follows it. -/
theorem readText_writeText (s : String) (rest : List Char) :
    readText (writeText s ++ rest) = some (s, rest) := by
  have hsteps : s.toList.length < (s.toList.flatMap escape ++ '"' :: rest).length := by
    have hle := length_le_flatMap_escape s.toList
    rw [List.length_append, List.length_cons]
    omega
  have htext : writeText s ++ rest = '"' :: (s.toList.flatMap escape ++ '"' :: rest) := by
    rw [writeText, List.append_assoc]
    rfl
  rw [htext]
  show (readTextBody _ (s.toList.flatMap escape ++ '"' :: rest)).map _ = _
  rw [readTextBody_flatMap hsteps, Option.map_some, String.ofList_toList]

end AskSql.Json
