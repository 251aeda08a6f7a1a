/-!
Reading bytes as UTF-8 text, with a mark in the place of what is no text.

Each maximal run of bytes that begins a character and does not complete it, and each byte that
begins none, becomes one U+FFFD. So nothing valid is lost, and a broken character costs one mark.

* `Lead`: what a leading byte promises, the number of bytes to follow and the range of the first.
* `decodeOne`: one character from the front of the bytes.
* `decode`: the whole text.
-/

namespace AskSql.Text.Utf8

/-- What the leading byte of a character of several bytes promises: how many bytes follow, between
which bounds the first of them lies, and the bits that the leading byte contributes. -/
structure Lead where
  tails : Nat
  low : Nat
  high : Nat
  bits : Nat

/-- The promise of a leading byte, none for a byte that leads no character of several bytes.
The narrower bounds leave out overlong forms, surrogates and numbers above U+10FFFF. -/
def Lead.ofByte (b : Nat) : Option Lead :=
  if 0xC2 ≤ b ∧ b ≤ 0xDF then some ⟨1, 0x80, 0xBF, b - 0xC0⟩
  else if b = 0xE0 then some ⟨2, 0xA0, 0xBF, 0⟩
  else if b = 0xED then some ⟨2, 0x80, 0x9F, 0xD⟩
  else if 0xE1 ≤ b ∧ b ≤ 0xEF then some ⟨2, 0x80, 0xBF, b - 0xE0⟩
  else if b = 0xF0 then some ⟨3, 0x90, 0xBF, 0⟩
  else if 0xF1 ≤ b ∧ b ≤ 0xF3 then some ⟨3, 0x80, 0xBF, b - 0xF0⟩
  else if b = 0xF4 then some ⟨3, 0x80, 0x8F, 4⟩
  else none

/-- Reads `n` following bytes, the first one between the given bounds, onto the bits read so far.
The number is missing if a byte does not fit; the rest then starts with that byte. -/
def tails : Nat → Nat → Nat → Nat → List UInt8 → Option Nat × List UInt8
  | 0, _, _, bits, bytes => (some bits, bytes)
  | _ + 1, _, _, _, [] => (none, [])
  | n + 1, low, high, bits, b :: bytes =>
      if low ≤ b.toNat ∧ b.toNat ≤ high then
        tails n 0x80 0xBF (bits * 64 + (b.toNat - 0x80)) bytes
      else (none, b :: bytes)

/-- Following bytes are taken from the front. -/
theorem tails_length_le (n low high bits : Nat) (bytes : List UInt8) :
    (tails n low high bits bytes).2.length ≤ bytes.length := by
  induction n generalizing low high bits bytes with
  | zero => simp [tails]
  | succ n ih =>
      cases bytes with
      | nil => simp [tails]
      | cons b bytes =>
          unfold tails
          split
          · exact Nat.le_succ_of_le (ih ..)
          · exact Nat.le_refl _

/-- The mark for bytes that are no text. -/
def replacement : Char := '\uFFFD'

/-- The character that starts with the byte `b`, and the bytes after it. -/
def decodeOne (b : UInt8) (bytes : List UInt8) : Char × List UInt8 :=
  if b.toNat < 0x80 then (Char.ofNat b.toNat, bytes)
  else
    match Lead.ofByte b.toNat with
    | none => (replacement, bytes)
    | some lead =>
        let read := tails lead.tails lead.low lead.high lead.bits bytes
        (read.1.elim replacement Char.ofNat, read.2)

/-- A character uses up no more than the bytes that follow. -/
theorem decodeOne_length_le (b : UInt8) (bytes : List UInt8) :
    (decodeOne b bytes).2.length ≤ bytes.length := by
  unfold decodeOne
  split
  · exact Nat.le_refl _
  · split
    · exact Nat.le_refl _
    · exact tails_length_le ..

/-- The text that the bytes stand for. -/
def decode : List UInt8 → List Char
  | [] => []
  | b :: bytes => (decodeOne b bytes).1 :: decode (decodeOne b bytes).2
termination_by bytes => bytes.length
decreasing_by exact Nat.lt_succ_of_le (decodeOne_length_le b bytes)

end AskSql.Text.Utf8
