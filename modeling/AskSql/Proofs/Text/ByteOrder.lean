import Mathlib.Tactic.Lemma
import Mathlib.Tactic.SplitIfs

/-!
The order of texts and the order of their bytes.

Texts are compared by their characters. UTF-8 puts the higher bits of a character into the earlier
bytes, and the longer its form, the greater is the first byte; so of two characters the smaller one
has the smaller bytes, whatever follows them, and sorting texts sorts their bytes.

* `utf8`: the bytes of a text.
* `utf8EncodeChar_append_lt`: the bytes of a smaller character come first.
* `utf8_lt_iff`, `utf8_le_iff`: the two orders agree.
-/

namespace AskSql.Text

/-- The bytes of a text. -/
def utf8 (s : String) : List UInt8 := s.toUTF8.data.toList

/-- The bytes of a text are those of its characters. -/
lemma utf8_eq (s : String) : utf8 s = s.toList.flatMap String.utf8EncodeChar := by
  obtain ⟨cs, rfl⟩ : ∃ cs, s = String.ofList cs := ⟨s.toList, String.ofList_toList.symm⟩
  rw [utf8, String.toUTF8_eq_toByteArray, String.toByteArray_ofList, String.toList_ofList,
    List.utf8Encode, List.data_toByteArray]

/-- The bytes of a smaller character come first, whatever follows them. -/
lemma utf8EncodeChar_append_lt {c d : Char} (h : c < d) (xs ys : List UInt8) :
    String.utf8EncodeChar c ++ xs < String.utf8EncodeChar d ++ ys := by
  have hlt : c.val.toNat < d.val.toNat := h
  have hbound : d.val.toNat < 0x110000 := by
    rcases d.valid with hsmall | ⟨-, hlarge⟩
    · exact Nat.lt_trans hsmall (by decide)
    · exact hlarge
  -- six bits go into each byte after the first
  have htwo : ∀ n, n / 4096 = n / 64 / 64 := fun n => (Nat.div_div_eq_div_mul n 64 64).symm
  have hthree : ∀ n, n / 262144 = n / 64 / 64 / 64 := fun n => by
    rw [← htwo, Nat.div_div_eq_div_mul]
  simp only [String.utf8EncodeChar, htwo, hthree]
  -- one case for each pair of lengths
  split_ifs
  all_goals
    simp only [List.cons_append, List.cons_lt_cons_iff, UInt8.lt_iff_toNat_lt, ← UInt8.toNat_inj,
      UInt8.toNat_ofNat']
    omega

/-- The bytes of the smaller of two lists of characters come first. -/
lemma flatMap_utf8EncodeChar_lt {cs ds : List Char} (h : cs < ds) :
    cs.flatMap String.utf8EncodeChar < ds.flatMap String.utf8EncodeChar := by
  induction h with
  | nil =>
      next d ds =>
        rw [List.flatMap_nil, List.flatMap_cons]
        obtain ⟨b, bs, hbytes⟩ := List.exists_cons_of_ne_nil (@String.utf8EncodeChar_ne_nil d)
        rw [hbytes]
        exact List.nil_lt_cons b _
  | rel hlt =>
      rw [List.flatMap_cons, List.flatMap_cons]
      exact utf8EncodeChar_append_lt hlt _ _
  | cons _ ih =>
      rw [List.flatMap_cons, List.flatMap_cons]
      exact List.append_left_lt ih

/-- **The order of texts is the order of their bytes.** -/
theorem utf8_lt_iff (s t : String) : utf8 s < utf8 t ↔ s < t := by
  have hmono : ∀ s t : String, s < t → utf8 s < utf8 t := by
    intro s t h
    rw [utf8_eq, utf8_eq]
    exact flatMap_utf8EncodeChar_lt h
  refine ⟨fun h => String.not_le.mp fun hle => ?_, hmono s t⟩
  by_cases heq : t = s
  · exact List.lt_irrefl _ (heq ▸ h)
  · have hlt : t < s := String.not_le.mp fun hge => heq (String.le_antisymm hle hge)
    exact List.lt_asymm h (hmono t s hlt)

/-- The weak orders agree as well. -/
theorem utf8_le_iff (s t : String) : utf8 s ≤ utf8 t ↔ s ≤ t := by
  rw [← List.not_lt, utf8_lt_iff, String.not_lt]

end AskSql.Text
