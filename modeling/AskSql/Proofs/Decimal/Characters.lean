import AskSql.Embedding
import Mathlib.Data.List.Basic
import Mathlib.Tactic.Lemma

/-!
The characters that numbers are written with.

Whatever the number is, a format writes it with digits, a point, an exponent mark and a minus sign,
with its own plus sign, or with its own words for what is no finite number.

* `Layout.Writes`: the characters that a format may use.
* `Layout.float_writes`, `Layout.float32_writes`: it uses no others.
* `Embedding.exists_cons_chars`, `Embedding.mem_chars`: what a vector is written with, behind its
  first bracket and in all.
-/

namespace AskSql

namespace Decimal

/-- Decimal digits are digits. -/
lemma isDigit_of_mem_digitsOf {n : Nat} {c : Char} (h : c ∈ digitsOf n) : c.isDigit = true :=
  Nat.isDigit_of_mem_toDigits (by decide) (by decide) h

lemma isDigit_of_mem_replicate {n : Nat} {c : Char} (h : c ∈ List.replicate n '0') :
    c.isDigit = true := by
  rw [List.eq_of_mem_replicate h]
  rfl

namespace Layout

/-- The characters that a format may use. -/
def Writes (layout : Layout) (c : Char) : Prop :=
  c.isDigit = true ∨ c ∈ ['.', 'e', '-'] ∨ c ∈ layout.plusSign ∨ c ∈ layout.notANumber
    ∨ c ∈ layout.infinity

instance (layout : Layout) : DecidablePred layout.Writes := fun c =>
  inferInstanceAs (Decidable (c.isDigit = true ∨ c ∈ ['.', 'e', '-'] ∨ c ∈ layout.plusSign
    ∨ c ∈ layout.notANumber ∨ c ∈ layout.infinity))

variable {digits : List Char} {c : Char}

/-- In positional form there are digits and a point. -/
lemma mem_positional (hdigits : ∀ d ∈ digits, d.isDigit = true) {exponent : Int}
    (h : c ∈ positional digits exponent) : c.isDigit = true ∨ c = '.' := by
  have hzero : '0'.isDigit = true := rfl
  rw [positional] at h
  split at h
  · simp only [List.mem_append, List.mem_cons, List.not_mem_nil, or_false] at h
    rcases h with ((rfl | rfl) | h) | h
    · exact .inl hzero
    · exact .inr rfl
    · exact .inl (isDigit_of_mem_replicate h)
    · exact .inl (hdigits c h)
  · dsimp only at h
    split at h
    · simp only [List.mem_append, List.mem_cons, List.not_mem_nil, or_false] at h
      rcases h with (h | h) | rfl | rfl
      · exact .inl (hdigits c h)
      · exact .inl (isDigit_of_mem_replicate h)
      · exact .inr rfl
      · exact .inl hzero
    · simp only [List.mem_append, List.mem_singleton] at h
      rcases h with (h | rfl) | h
      · exact .inl (hdigits c (List.mem_of_mem_take h))
      · exact .inr rfl
      · exact .inl (hdigits c (List.mem_of_mem_drop h))

/-- A point comes in among the digits at most. -/
lemma mem_mantissa (h : c ∈ mantissa digits) : c ∈ digits ∨ c = '.' := by
  match digits, h with
  | [], h => exact .inl h
  | [d], h => exact .inl h
  | d :: e :: rest, h =>
      simp only [mantissa, List.mem_cons] at h ⊢
      tauto

lemma isDigit_of_mem_exponentDigits {width n : Nat} (h : c ∈ exponentDigits width n) :
    c.isDigit = true := by
  rw [exponentDigits] at h
  rcases List.mem_append.mp h with h | h
  · exact isDigit_of_mem_replicate h
  · exact isDigit_of_mem_digitsOf h

variable {layout : Layout}

lemma scientific_writes (hdigits : ∀ d ∈ digits, d.isDigit = true) {exponent : Int}
    (h : c ∈ layout.scientific digits exponent) : layout.Writes c := by
  rw [scientific] at h
  rcases List.mem_append.mp h with h | h
  · rcases List.mem_append.mp h with h | h
    · rcases List.mem_append.mp h with h | h
      · rcases mem_mantissa h with h | rfl
        · exact .inl (hdigits c h)
        · exact .inr (.inl (by decide))
      · rw [List.mem_singleton.mp h]
        exact .inr (.inl (by decide))
    · split at h
      · rw [List.mem_singleton.mp h]
        exact .inr (.inl (by decide))
      · exact .inr (.inr (.inl h))
  · exact .inl (isDigit_of_mem_exponentDigits h)

lemma form_writes (hdigits : ∀ d ∈ digits, d.isDigit = true) {exponent : Int}
    (h : c ∈ layout.form digits exponent) : layout.Writes c := by
  rw [form] at h
  split at h
  · rcases mem_positional hdigits h with h | rfl
    · exact .inl h
    · exact .inr (.inl (by decide))
  · exact scientific_writes hdigits h

lemma sign_writes {p : Prop} [Decidable p] (h : c ∈ if p then ['-'] else []) :
    layout.Writes c := by
  split at h
  · obtain rfl := List.mem_singleton.mp h
    exact .inr (.inl (by decide))
  · cases h

lemma signed_writes {negative : Bool} {x : Binary} (h : c ∈ layout.signed negative x) :
    layout.Writes c := by
  rw [signed] at h
  rcases List.mem_append.mp h with h | h
  · exact sign_writes h
  · split at h
    · have hzero : c = '0' ∨ c = '.' ∨ c = '0' := by simpa using h
      rcases hzero with rfl | rfl | rfl
      · exact .inl rfl
      · exact .inr (.inl (by decide))
      · exact .inl rfl
    · exact form_writes (fun d hd => isDigit_of_mem_digitsOf hd) h

/-- A format uses no other characters, whatever kind of number it writes. -/
lemma number_writes {nan inf negative : Bool} {p : Prop} [Decidable p] {x : Binary}
    (h : c ∈ if nan then layout.notANumber
      else if inf then (if p then ['-'] else []) ++ layout.infinity
      else layout.signed negative x) : layout.Writes c := by
  split at h
  · exact .inr (.inr (.inr (.inl h)))
  · split at h
    · rcases List.mem_append.mp h with h | h
      · exact sign_writes h
      · exact .inr (.inr (.inr (.inr h)))
    · exact signed_writes h

/-- It uses no others for the numbers of 64 bits. -/
theorem float_writes {x : Float} (h : c ∈ layout.float x) : layout.Writes c := number_writes h

/-- It uses no others for the numbers of 32 bits. -/
theorem float32_writes {x : Float32} (h : c ∈ layout.float32 x) : layout.Writes c :=
  number_writes h

end Layout

end Decimal

namespace Embedding

lemma mem_intercalate {separator : List Char} {parts : List (List Char)} {c : Char}
    (h : c ∈ List.intercalate separator parts) : c ∈ separator ∨ ∃ part ∈ parts, c ∈ part := by
  induction parts with
  | nil => cases h
  | cons part parts ih =>
      cases parts with
      | nil =>
          rw [List.intercalate_singleton] at h
          exact .inr ⟨part, List.mem_singleton_self part, h⟩
      | cons next parts =>
          rw [List.intercalate_cons_cons, List.mem_append, List.mem_append] at h
          rcases h with (h | h) | h
          · exact .inr ⟨part, List.mem_cons_self, h⟩
          · exact .inl h
          · exact (ih h).imp_right fun ⟨other, hother, hc⟩ =>
              ⟨other, List.mem_cons_of_mem _ hother, hc⟩

/-- Behind its opening bracket a vector goes on with its numbers, commas and blanks, and ends with
the other bracket. -/
lemma exists_cons_chars (v : Embedding) :
    ∃ c rest, chars v = '[' :: c :: rest
      ∧ ∀ d ∈ c :: rest, d ∈ [']', ',', ' '] ∨ layout.Writes d := by
  have hne : List.intercalate [',', ' '] (v.map numberText) ++ [']'] ≠ [] := by simp
  obtain ⟨c, rest, hrest⟩ := List.exists_cons_of_ne_nil hne
  refine ⟨c, rest, ?_, fun d hd => ?_⟩
  · rw [chars, List.cons_append, hrest]
  · rw [← hrest, List.mem_append] at hd
    rcases hd with hd | hd
    · rcases mem_intercalate hd with hd | ⟨part, hpart, hd⟩
      · exact .inl (List.mem_cons_of_mem _ hd)
      · obtain ⟨x, -, rfl⟩ := List.mem_map.mp hpart
        exact .inr (Decimal.Layout.float32_writes hd)
    · rw [List.mem_singleton.mp hd]
      exact .inl (by decide)

/-- A vector is written with brackets, commas and blanks, and with what its numbers are written
with. -/
theorem mem_chars {v : Embedding} {c : Char} (h : c ∈ chars v) :
    c ∈ ['[', ']', ',', ' '] ∨ layout.Writes c := by
  obtain ⟨first, rest, hchars, hrest⟩ := exists_cons_chars v
  rw [hchars] at h
  rcases List.mem_cons.mp h with rfl | h
  · exact .inl (by decide)
  · exact (hrest c h).imp_left (List.mem_cons_of_mem _)

end Embedding

end AskSql
