import AskSql.Text.Shortened
import Mathlib.Data.List.DropRight
import Mathlib.Tactic.Lemma

/-!
What a limit leaves of a text.

A text that is too long is cut where a word ends. What fits in front of the dots is taken, and of
this the part before its last space, or all of it if there is no space to cut at.

From three characters on the dots fit, and the limit holds. Below, nothing of the text is taken and
the dots are left alone, longer than the limit, so that the limit holds for those texts only that
are not cut. In either case a text that was cut is not changed by a second cut.

* `EndsAtWord`: where a text is cut back to.
* `Shortens`: what a limit leaves of a text. Just one text is left (`Shortens.unique`).
* `shorten_shortens`: it is the text that shortening gives.
* `length_shorten_le_iff`: when the limit holds.
* `shorten_eq_iff_shortens`: what shortening gives, and that a second cut changes nothing.
-/

namespace AskSql.Text

variable {limit : Nat} {text head part : List Char}

/-! ### The last space -/

/-- The part of a text before its last space, or all of it if it has no space. -/
def EndsAtWord (text part : List Char) : Prop :=
  (' ' ∉ text ∧ part = text) ∨ ∃ rest, text = part ++ ' ' :: rest ∧ ' ' ∉ rest

/-- From behind, the search for a space passes over a text that has none. -/
lemma forall_mem_reverse_ne (h : ' ' ∉ text) : ∀ c ∈ text.reverse, (c != ' ') = true := by
  intro c hc
  rw [bne_iff_ne]
  rintro rfl
  exact h (List.mem_reverse.mp hc)

/-- A space that no other space follows is the last one. -/
lemma beforeLastSpace_append {rest : List Char} (h : ' ' ∉ rest) (part : List Char) :
    beforeLastSpace (part ++ ' ' :: rest) = part := by
  have hback : (part ++ ' ' :: rest).reverse = rest.reverse ++ ' ' :: part.reverse := by simp
  have hdrop : (' ' :: part.reverse).dropWhile (· != ' ') = ' ' :: part.reverse := rfl
  rw [beforeLastSpace, hback, List.dropWhile_append_of_pos (forall_mem_reverse_ne h), hdrop]
  exact List.reverse_reverse part

/-- Without a space the text is left whole. -/
lemma beforeLastSpace_of_not_mem (h : ' ' ∉ text) : beforeLastSpace text = text := by
  rw [beforeLastSpace, List.dropWhile_eq_nil_iff.mpr (forall_mem_reverse_ne h)]

lemma endsAtWord_iff : EndsAtWord text part ↔ part = beforeLastSpace text := by
  constructor
  · rintro (⟨hnone, rfl⟩ | ⟨rest, rfl, hrest⟩)
    · exact (beforeLastSpace_of_not_mem hnone).symm
    · exact (beforeLastSpace_append hrest part).symm
  · rintro rfl
    by_cases hspace : ' ' ∈ text
    · -- the first space from behind
      obtain ⟨behind, before, hback, hbehind⟩ :=
        List.eq_append_cons_of_mem (List.mem_reverse.mpr hspace)
      have htext : text = before.reverse ++ ' ' :: behind.reverse := by
        rw [← List.reverse_reverse text, hback]
        simp
      have hrest : ' ' ∉ behind.reverse := mt List.mem_reverse.mp hbehind
      refine .inr ⟨behind.reverse, ?_, hrest⟩
      rw [htext, beforeLastSpace_append hrest]
    · exact .inl ⟨hspace, beforeLastSpace_of_not_mem hspace⟩

lemma EndsAtWord.isPrefix (h : EndsAtWord text part) : part <+: text := by
  rcases h with ⟨-, rfl⟩ | ⟨rest, rfl, -⟩
  · exact List.prefix_rfl
  · exact List.prefix_append part _

lemma beforeLastSpace_isPrefix (text : List Char) : beforeLastSpace text <+: text :=
  (endsAtWord_iff.mpr rfl).isPrefix

/-! ### What is left -/

/-- What a limit leaves of a text. -/
structure Shortens (limit : Nat) (text result : List Char) : Prop where
  /-- Without a limit, or within it, the whole text. -/
  kept : limit = 0 ∨ text.length ≤ limit → result = text
  /-- Otherwise a first part of the text and three dots. The part lies within what leaves room for
  the dots, and ends there with a word. -/
  cut : ¬ (limit = 0 ∨ text.length ≤ limit) →
    ∃ part, part <+: text ∧ EndsAtWord (text.take (limit - 3)) part
      ∧ result = part ++ ['.', '.', '.']

lemma shorten_of_fits (h : limit = 0 ∨ text.length ≤ limit) : shorten limit text = text := by
  rw [shorten, if_pos h]

lemma shorten_of_long (h : ¬ (limit = 0 ∨ text.length ≤ limit)) :
    shorten limit text = beforeLastSpace (text.take (limit - 3)) ++ ['.', '.', '.'] := by
  rw [shorten, if_neg h]
  rfl

lemma shorten_shortens (limit : Nat) (text : List Char) :
    Shortens limit text (shorten limit text) where
  kept h := shorten_of_fits h
  cut h := by
    have hword : EndsAtWord (text.take (limit - 3)) (beforeLastSpace (text.take (limit - 3))) :=
      endsAtWord_iff.mpr rfl
    exact ⟨_, hword.isPrefix.trans (List.take_prefix _ text), hword, shorten_of_long h⟩

/-- Just one text is left. -/
lemma Shortens.unique {result : List Char} (h : Shortens limit text result) :
    shorten limit text = result := by
  by_cases hfits : limit = 0 ∨ text.length ≤ limit
  · rw [shorten_of_fits hfits, h.kept hfits]
  · obtain ⟨part, -, hword, rfl⟩ := h.cut hfits
    rw [shorten_of_long hfits, endsAtWord_iff.mp hword]

/-! ### How long it is -/

/-- The dots come on top of what leaves room for them. -/
lemma length_shorten_le_of_long (h : ¬ (limit = 0 ∨ text.length ≤ limit)) :
    (shorten limit text).length ≤ limit - 3 + 3 := by
  rw [shorten_of_long h, List.length_append]
  calc (beforeLastSpace (text.take (limit - 3))).length + 3
      ≤ (text.take (limit - 3)).length + 3 :=
        Nat.add_le_add_right (beforeLastSpace_isPrefix _).length_le 3
    _ ≤ limit - 3 + 3 := Nat.add_le_add_right (List.length_take_le _ _) 3

/-- A text that is cut ends in the dots, so it is never shorter than they are. -/
lemma le_length_shorten_of_long (h : ¬ (limit = 0 ∨ text.length ≤ limit)) :
    3 ≤ (shorten limit text).length := by
  rw [shorten_of_long h, List.length_append]
  exact Nat.le_add_left 3 _

/-- A limit holds for a text just if there is room for the dots or none are needed. -/
lemma length_shorten_le_iff (hlimit : 1 ≤ limit) (text : List Char) :
    (shorten limit text).length ≤ limit ↔ 3 ≤ limit ∨ text.length ≤ limit := by
  by_cases hfits : limit = 0 ∨ text.length ≤ limit
  · rw [shorten_of_fits hfits]
    omega
  · have hupper := length_shorten_le_of_long hfits
    have hlower := le_length_shorten_of_long hfits
    omega

/-- If there is no room for more than the dots, the dots are left alone. -/
lemma shorten_of_tight (h : ¬ (limit = 0 ∨ text.length ≤ limit)) (htight : limit ≤ 3) :
    shorten limit text = ['.', '.', '.'] := by
  rw [shorten_of_long h, Nat.sub_eq_zero_of_le htight, List.take_zero,
    beforeLastSpace_of_not_mem List.not_mem_nil, List.nil_append]

/-- So they are where the limit does not hold. -/
lemma shorten_of_exceeds (hlimit : 1 ≤ limit) (h : limit < (shorten limit text).length) :
    shorten limit text = ['.', '.', '.'] := by
  have hnot := mt (length_shorten_le_iff hlimit text).mpr (Nat.not_le_of_lt h)
  exact shorten_of_tight (by omega) (by omega)

/-! ### A second cut -/

/-- A text that was cut is not changed by a second cut. -/
lemma shorten_shorten (limit : Nat) (text : List Char) :
    shorten limit (shorten limit text) = shorten limit text := by
  by_cases hfits : limit = 0 ∨ text.length ≤ limit
  · rw [shorten_of_fits hfits, shorten_of_fits hfits]
  · by_cases hroom : 3 ≤ limit
    · -- the limit holds after the first cut
      refine shorten_of_fits (.inr ?_)
      exact (length_shorten_le_iff (by omega) text).mpr (.inl hroom)
    · -- the dots are too long again, and are cut to themselves
      have htight : limit ≤ 3 := by omega
      have hdots : ¬ (limit = 0 ∨ ['.', '.', '.'].length ≤ limit) := by
        rw [List.length_cons, List.length_cons, List.length_singleton]
        omega
      rw [shorten_of_tight hfits htight, shorten_of_tight hdots htight]

/-- **A text is cut at its last word and nowhere else.** What shortening gives is what the limit
leaves of the text, and nothing else is; shortening it once more changes nothing. -/
theorem shorten_eq_iff_shortens (limit : Nat) (text : List Char) :
    (∀ result, shorten limit text = result ↔ Shortens limit text result)
      ∧ shorten limit (shorten limit text) = shorten limit text := by
  refine ⟨fun result => ⟨?_, Shortens.unique⟩, shorten_shorten limit text⟩
  rintro rfl
  exact shorten_shortens limit text

example : shorten 12 "the quick brown fox".toList = "the...".toList := by decide

end AskSql.Text
