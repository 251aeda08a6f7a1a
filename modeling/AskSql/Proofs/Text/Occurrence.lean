import AskSql.Text.Search
import Mathlib.Data.List.Basic
import Mathlib.Tactic.Lemma

/-!
Where a pattern occurs first.

The search goes through a text from the left, so all depends on the places at which an occurrence
may begin. A part of a text is clear of a pattern when none begins there, whatever of it may lie
behind.

* `splitAtFirst_eq_none_iff`: the search fails just if the pattern does not occur.
* `splitAtFirst_append_left`: what follows an occurrence does not matter to the search.
* `not_infix_upToFirst`: before the first occurrence there is none.
* `Clear`: no occurrence begins within a part of the text.
* `splitAtFirst_clear`: a clear part is passed over.
* `Clear.of_not_infix`: a part without the pattern is clear if the pattern does not go on with the
  character that follows.
* `splitAtFirst_of_not_infix`: so a pattern whose first character is its only one of that kind is
  found behind any text without it.
-/

namespace AskSql.Text

variable {p : List Char}

/-! ### The search -/

/-- A pattern that the text begins with is found at once. -/
lemma splitAtFirst_prefix (p after : List Char) :
    splitAtFirst p (p ++ after) = some ([], after) := by
  cases h : p ++ after with
  | nil =>
      obtain ⟨rfl, rfl⟩ := List.append_eq_nil_iff.mp h
      rfl
  | cons c rest =>
      have hprefix : p.isPrefixOf? (c :: rest) = some after :=
        List.isPrefixOf?_eq_some_iff_append_eq.mpr h
      rw [splitAtFirst, hprefix]

/-- A character at which the pattern does not begin is passed over. -/
lemma splitAtFirst_cons {c : Char} {rest : List Char} (h : ¬ p <+: c :: rest) :
    splitAtFirst p (c :: rest)
      = (splitAtFirst p rest).map fun parts => (c :: parts.1, parts.2) := by
  cases hprefix : p.isPrefixOf? (c :: rest) with
  | none => rw [splitAtFirst, hprefix]
  | some after => exact absurd ⟨after, List.isPrefixOf?_eq_some_iff_append_eq.mp hprefix⟩ h

/-- The search fails just if the pattern does not occur. -/
lemma splitAtFirst_eq_none_iff (p text : List Char) :
    splitAtFirst p text = none ↔ ¬ p <:+: text := by
  induction text with
  | nil =>
      rw [splitAtFirst, List.infix_nil, ← List.isEmpty_iff]
      cases p.isEmpty with
      | false => simp
      | true => simp
  | cons c rest ih =>
      rw [List.infix_cons_iff]
      by_cases h : p <+: c :: rest
      · obtain ⟨after, hafter⟩ := h
        rw [← hafter, splitAtFirst_prefix]
        simp
      · rw [splitAtFirst_cons h, Option.map_eq_none_iff, ih]
        simp [h]

/-- A pattern is looked for with success just if it occurs. -/
lemma occursIn_iff (p text : List Char) : occursIn p text = true ↔ p <:+: text := by
  rw [occursIn, Option.isSome_iff_ne_none, ne_eq, splitAtFirst_eq_none_iff, not_not]

lemma occursIn_eq_false_iff (p text : List Char) : occursIn p text = false ↔ ¬ p <:+: text := by
  rw [← occursIn_iff, Bool.not_eq_true]

/-- The parts and the pattern between them are the text. -/
lemma append_of_splitAtFirst {text before after : List Char}
    (h : splitAtFirst p text = some (before, after)) : before ++ p ++ after = text := by
  induction text generalizing before with
  | nil =>
      rw [splitAtFirst] at h
      split at h
      · next hempty =>
          cases h
          rw [List.isEmpty_iff.mp hempty]
          rfl
      · cases h
  | cons c rest ih =>
      by_cases hprefix : p <+: c :: rest
      · obtain ⟨tail, htail⟩ := hprefix
        rw [← htail, splitAtFirst_prefix] at h
        cases h
        exact htail
      · rw [splitAtFirst_cons hprefix, Option.map_eq_some_iff] at h
        obtain ⟨⟨before', after'⟩, hrest, heq⟩ := h
        cases heq
        rw [← ih hrest]
        rfl

/-- What follows an occurrence does not matter to the search. -/
lemma splitAtFirst_append_left {text before after : List Char}
    (h : splitAtFirst p text = some (before, after)) (more : List Char) :
    splitAtFirst p (text ++ more) = some (before, after ++ more) := by
  induction text generalizing before with
  | nil =>
      have hparts := append_of_splitAtFirst h
      obtain ⟨rfl, rfl, rfl⟩ : before = [] ∧ p = [] ∧ after = [] := by simpa using hparts
      exact splitAtFirst_prefix [] more
  | cons c rest ih =>
      by_cases hprefix : p <+: c :: rest
      · obtain ⟨tail, htail⟩ := hprefix
        rw [← htail, splitAtFirst_prefix] at h
        cases h
        rw [← htail, List.append_assoc, splitAtFirst_prefix]
      · rw [splitAtFirst_cons hprefix, Option.map_eq_some_iff] at h
        obtain ⟨⟨before', after'⟩, hrest, heq⟩ := h
        cases heq
        -- the occurrence that was found leaves no room for one that reaches beyond the text
        have hlength : p.length ≤ (c :: rest).length := by
          rw [← append_of_splitAtFirst hrest]
          simp only [List.length_cons, List.length_append]
          omega
        have hstill : ¬ p <+: c :: (rest ++ more) := fun hlong =>
          hprefix (List.prefix_of_prefix_length_le hlong (List.prefix_append (c :: rest) more)
            hlength)
        rw [List.cons_append, splitAtFirst_cons hstill, ih hrest]
        rfl

/-- What stands before the first occurrence holds none. -/
lemma not_infix_of_splitAtFirst {text before after : List Char} (hp : p ≠ [])
    (h : splitAtFirst p text = some (before, after)) : ¬ p <:+: before := by
  intro hin
  cases hsplit : splitAtFirst p before with
  | none => exact (splitAtFirst_eq_none_iff p before).mp hsplit hin
  | some parts =>
      obtain ⟨first, rest⟩ := parts
      -- an occurrence within `before` would have been found in its place
      have hsame := splitAtFirst_append_left hsplit (p ++ after)
      rw [← List.append_assoc, append_of_splitAtFirst h, h] at hsame
      obtain ⟨rfl, -⟩ := Prod.mk.inj (Option.some.inj hsame)
      have hlength := congrArg List.length (append_of_splitAtFirst hsplit)
      simp only [List.length_append] at hlength
      exact hp (List.length_eq_zero_iff.mp (by omega))

/-- What stands before the first occurrence is part of the text. -/
lemma upToFirst_isInfix (p text : List Char) : upToFirst p text <:+: text := by
  rw [upToFirst]
  cases hsplit : splitAtFirst p text with
  | none => exact List.infix_rfl
  | some parts =>
      rw [← append_of_splitAtFirst hsplit, List.append_assoc]
      exact (List.prefix_append parts.1 (p ++ parts.2)).isInfix

/-- And the pattern does not occur in it. -/
lemma not_infix_upToFirst (hp : p ≠ []) (text : List Char) : ¬ p <:+: upToFirst p text := by
  rw [upToFirst]
  cases hsplit : splitAtFirst p text with
  | none => exact (splitAtFirst_eq_none_iff p text).mp hsplit
  | some parts => exact not_infix_of_splitAtFirst hp hsplit

/-! ### Clear parts of a text -/

/-- No occurrence of the pattern begins within `text`, which is followed by `rest`. -/
def Clear (p text rest : List Char) : Prop :=
  ∀ tail, tail <:+ text → tail ≠ [] → ¬ p <+: tail ++ rest

lemma Clear.nil (p rest : List Char) : Clear p [] rest := by
  intro tail htail hne
  exact absurd (List.suffix_nil.mp htail) hne

lemma clear_cons_iff {c : Char} {text rest : List Char} :
    Clear p (c :: text) rest ↔ ¬ p <+: c :: (text ++ rest) ∧ Clear p text rest := by
  constructor
  · intro h
    exact ⟨h _ List.suffix_rfl (List.cons_ne_nil c text),
      fun tail htail => h tail (htail.trans (List.suffix_cons c text))⟩
  · rintro ⟨hhead, htext⟩ tail htail hne
    rcases List.suffix_cons_iff.mp htail with rfl | htail
    · exact hhead
    · exact htext tail htail hne

lemma Clear.append {first second rest : List Char} (hfirst : Clear p first (second ++ rest))
    (hsecond : Clear p second rest) : Clear p (first ++ second) rest := by
  induction first with
  | nil => exact hsecond
  | cons c first ih =>
      obtain ⟨hhead, hfirst⟩ := clear_cons_iff.mp hfirst
      rw [List.cons_append, clear_cons_iff, List.append_assoc]
      exact ⟨hhead, ih hfirst⟩

/-- A clear part is passed over. -/
lemma splitAtFirst_clear {text rest : List Char} (h : Clear p text rest) :
    splitAtFirst p (text ++ rest)
      = (splitAtFirst p rest).map fun parts => (text ++ parts.1, parts.2) := by
  induction text with
  | nil => simp
  | cons c text ih =>
      obtain ⟨hhead, htext⟩ := clear_cons_iff.mp h
      rw [List.cons_append, splitAtFirst_cons hhead, ih htext, Option.map_map]
      rfl

/-- A part without the pattern is clear if the character that follows occurs nowhere in the pattern
but at its beginning: an occurrence could not go on with it. -/
lemma Clear.of_not_infix {text : List Char} (h : ¬ p <:+: text) {c : Char} (hc : c ∉ p.tail)
    (rest : List Char) : Clear p text (c :: rest) := by
  intro tail htail hne hprefix
  have hnot : ¬ p <+: tail := fun hp => h (hp.isInfix.trans htail.isInfix)
  rcases List.prefix_or_prefix_of_prefix hprefix (List.prefix_append tail (c :: rest)) with hp | hp
  · exact hnot hp
  · obtain ⟨more, rfl⟩ := hp
    rw [List.prefix_append_right_inj] at hprefix
    cases more with
    | nil => exact hnot (by simp)
    | cons d more =>
        obtain ⟨rfl, -⟩ := List.cons_prefix_cons.mp hprefix
        cases tail with
        | nil => exact hne rfl
        | cons e tail => exact hc (by simp)

/-- A part in which the first character of the pattern does not occur is clear. -/
lemma Clear.of_not_mem {c : Char} {text : List Char} (h : c ∉ text) (rest : List Char) :
    Clear (c :: p) text rest := by
  intro tail htail hne hprefix
  cases tail with
  | nil => exact hne rfl
  | cons d tail =>
      obtain ⟨rfl, -⟩ := List.cons_prefix_cons.mp hprefix
      exact h (htail.subset List.mem_cons_self)

/-- A pattern whose first character does not come back in it is found behind any text without it. -/
lemma splitAtFirst_of_not_infix {c : Char} {before : List Char} (hc : c ∉ p)
    (h : ¬ c :: p <:+: before) (after : List Char) :
    splitAtFirst (c :: p) (before ++ (c :: p ++ after)) = some (before, after) := by
  have hclear : Clear (c :: p) before (c :: p ++ after) := Clear.of_not_infix h hc (p ++ after)
  rw [splitAtFirst_clear hclear, splitAtFirst_prefix]
  simp

/-! ### Padding -/

/-- Characters that do not occur in the pattern cannot complete an occurrence. -/
lemma infix_of_infix_append {left text : List Char} (hp : p ≠ []) (hleft : ∀ c ∈ left, c ∉ p)
    (h : p <:+: left ++ text) : p <:+: text := by
  induction left with
  | nil => exact h
  | cons c left ih =>
      obtain ⟨hc, hleft⟩ := List.forall_mem_cons.mp hleft
      rcases List.infix_cons_iff.mp h with hprefix | h
      · cases p with
        | nil => exact absurd rfl hp
        | cons d p =>
            obtain ⟨rfl, -⟩ := List.cons_prefix_cons.mp hprefix
            exact absurd List.mem_cons_self hc
      · exact ih hleft h

/-- The same at both ends. -/
lemma infix_of_infix_pad {left text right : List Char} (hp : p ≠ []) (hleft : ∀ c ∈ left, c ∉ p)
    (hright : ∀ c ∈ right, c ∉ p) (h : p <:+: left ++ text ++ right) : p <:+: text := by
  have hback : p.reverse <:+: right.reverse ++ (left ++ text).reverse := by
    rw [← List.reverse_append, List.reverse_infix]
    exact h
  have hleftText : p <:+: left ++ text := by
    rw [← List.reverse_infix]
    refine infix_of_infix_append (by simpa using hp) (fun c hc => ?_) hback
    rw [List.mem_reverse] at hc ⊢
    exact hright c hc
  exact infix_of_infix_append hp hleft hleftText

end AskSql.Text
