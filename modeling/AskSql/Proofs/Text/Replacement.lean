import AskSql.Proofs.Text.Occurrence

/-!
What a replacement can bring about.

A text is its pieces with the pattern between them, and replacing the pattern puts another text
between the same pieces. If the first character of the pattern does not come back in it, occurrences
cannot overlap, so pieces without the pattern are found again whatever they begin and end with.

Replacing puts texts next to each other that were apart before. A label cannot come into being at
such a joint if it does not go on with the first character of the text that is put in and begins
nowhere within that text: an occurrence that begins before the joint would have to go on with the
first character behind it.

* `intercalate_pieces`, `isInfix_of_mem_pieces`, `not_infix_of_mem_pieces`: the pieces between the
  occurrences make up the text, are parts of it and do not hold the pattern.
* `pieces_intercalate`, `replaceAll_intercalate`: texts that are joined by the pattern are its
  pieces, and replacing the pattern joins them by another text.
* `not_infix_intercalate_of_clear`: no label comes into being where a text that is clear of it is
  put between others; `not_infix_replaceAll_self`: nor does a pattern in its own places.
* `not_infix_intercalate`, `not_infix_replaceAll`: a text without the first character of the label
  is clear of it.
* `filter_replaceAll`: characters that are neither in the pattern nor in what takes its place stay
  as they are.
-/

namespace AskSql.Text

/-! ### Pieces -/

/-- A text without the pattern is one piece. -/
lemma pieces_eq_singleton {pattern text : List Char} (h : ¬ pattern <:+: text) :
    pieces pattern text = [text] := by
  rw [pieces, (splitAtFirst_eq_none_iff pattern text).mpr h]

/-- A first piece ends where the pattern occurs first, and the search goes on behind it. -/
lemma pieces_of_split {pattern text before after : List Char} (hp : pattern ≠ [])
    (h : splitAtFirst pattern text = some (before, after)) :
    pieces pattern text = before :: pieces pattern after := by
  have hlt : after.length < text.length := by
    have hpos := List.length_pos_iff.mpr hp
    rw [← append_of_splitAtFirst h]
    simp only [List.length_append]
    omega
  rw [pieces, h]
  exact if_pos hlt

lemma pieces_ne_nil (pattern text : List Char) : pieces pattern text ≠ [] := by
  rw [pieces]
  split
  · exact List.cons_ne_nil _ _
  · split
    · exact List.cons_ne_nil _ _
    · exact List.cons_ne_nil _ _

/-- The pieces with the pattern between them are the text. -/
lemma intercalate_pieces (pattern text : List Char) :
    List.intercalate pattern (pieces pattern text) = text := by
  induction text using pieces.induct pattern with
  | case1 text hnone =>
      rw [pieces, hnone]
      exact List.intercalate_singleton
  | case2 text before after hsplit hlt ih =>
      rw [pieces, hsplit]
      dsimp only
      rw [if_pos hlt, List.intercalate_cons_of_ne_nil (pieces_ne_nil pattern after), ih,
        append_of_splitAtFirst hsplit]
  | case3 text before after hsplit hge =>
      rw [pieces, hsplit]
      dsimp only
      rw [if_neg hge, List.intercalate_singleton]

/-- A text that is joined with others is part of the whole. -/
lemma isInfix_intercalate {separator part : List Char} {parts : List (List Char)}
    (h : part ∈ parts) : part <:+: List.intercalate separator parts := by
  induction parts with
  | nil => cases h
  | cons first rest ih =>
      by_cases hrest : rest = []
      · subst hrest
        obtain rfl := List.mem_singleton.mp h
        exact ⟨[], [], by simp⟩
      · rw [List.intercalate_cons_of_ne_nil hrest, List.append_assoc]
        rcases List.mem_cons.mp h with rfl | h
        · exact (List.prefix_append _ _).isInfix
        · rw [← List.append_assoc]
          exact (ih h).trans (List.suffix_append _ _).isInfix

/-- What stands between the occurrences of a pattern is part of the text. -/
lemma isInfix_of_mem_pieces {pattern text piece : List Char} (h : piece ∈ pieces pattern text) :
    piece <:+: text := by
  have hpart : piece <:+: List.intercalate pattern (pieces pattern text) := isInfix_intercalate h
  rwa [intercalate_pieces] at hpart

/-- The pattern does not occur in it. -/
lemma not_infix_of_mem_pieces {pattern text piece : List Char} (hp : pattern ≠ [])
    (h : piece ∈ pieces pattern text) : ¬ pattern <:+: piece := by
  induction text using pieces.induct pattern with
  | case1 text hnone =>
      have hnot := (splitAtFirst_eq_none_iff pattern text).mp hnone
      rw [pieces_eq_singleton hnot, List.mem_singleton] at h
      rwa [h]
  | case2 text before after hsplit hlt ih =>
      rw [pieces_of_split hp hsplit] at h
      rcases List.mem_cons.mp h with rfl | h
      · exact not_infix_of_splitAtFirst hp hsplit
      · exact ih h
  | case3 text before after hsplit hge =>
      have hlength := congrArg List.length (append_of_splitAtFirst hsplit)
      have hpos := List.length_pos_iff.mpr hp
      simp only [List.length_append] at hlength
      omega

section Joined

variable {c : Char} {p : List Char} (hc : c ∉ p) {parts : List (List Char)} (hne : parts ≠ [])
  (hparts : ∀ part ∈ parts, ¬ c :: p <:+: part)

include hc hne hparts

/-- Texts that are joined by a pattern are found again: an occurrence that began before a joint
would hold the first character of the pattern twice. -/
lemma pieces_intercalate : pieces (c :: p) (List.intercalate (c :: p) parts) = parts := by
  induction parts with
  | nil => exact absurd rfl hne
  | cons part parts ih =>
      obtain ⟨hpart, hrest⟩ := List.forall_mem_cons.mp hparts
      cases parts with
      | nil => rw [List.intercalate_singleton, pieces_eq_singleton hpart]
      | cons next parts =>
          have hsplit := splitAtFirst_of_not_infix hc hpart
            (List.intercalate (c :: p) (next :: parts))
          rw [List.intercalate_cons_cons, List.append_assoc,
            pieces_of_split (List.cons_ne_nil c p) hsplit, ih (List.cons_ne_nil _ _) hrest]

/-- So replacing the pattern joins them by the other text. -/
lemma replaceAll_intercalate (replacement : List Char) :
    replaceAll (c :: p) replacement (List.intercalate (c :: p) parts)
      = List.intercalate replacement parts := by
  rw [replaceAll, pieces_intercalate hc hne hparts]

end Joined

/-! ### Joints -/

section Clear

variable {d : Char} {label more : List Char} (hlabel : label ≠ []) (hd : d ∉ label.tail)
  (hclear : ∀ rest, Clear label (d :: more) rest)

include hlabel hd hclear

/-- No label comes into being where a text is put between others, if the label does not go on with
its first character and begins nowhere within it. -/
lemma not_infix_intercalate_of_clear {parts : List (List Char)}
    (hparts : ∀ part ∈ parts, ¬ label <:+: part) :
    ¬ label <:+: List.intercalate (d :: more) parts := by
  induction parts with
  | nil => exact fun h => hlabel (List.infix_nil.mp h)
  | cons part parts ih =>
      obtain ⟨hpart, hrest⟩ := List.forall_mem_cons.mp hparts
      cases parts with
      | nil => rwa [List.intercalate_singleton]
      | cons next parts =>
          -- neither in the part nor in the text behind it does an occurrence begin
          have hboth : Clear label (part ++ d :: more)
              (List.intercalate (d :: more) (next :: parts)) :=
            (Clear.of_not_infix hpart hd _).append (hclear _)
          rw [List.intercalate_cons_cons, ← splitAtFirst_eq_none_iff, splitAtFirst_clear hboth,
            (splitAtFirst_eq_none_iff _ _).mpr (ih hrest)]
          rfl

/-- So nothing is left of a pattern after such a text has taken its place. -/
lemma not_infix_replaceAll_self (text : List Char) :
    ¬ label <:+: replaceAll label (d :: more) text :=
  not_infix_intercalate_of_clear hlabel hd hclear fun _ hpiece =>
    not_infix_of_mem_pieces hlabel hpiece

end Clear

section Joints

variable {c d : Char} {label more : List Char} (hc : c ∉ d :: more) (hd : d ∉ label)

include hc hd

/-- No label comes into being where a text is put between others, if it neither holds the first
character of the label nor begins with another one of it. -/
lemma not_infix_intercalate {parts : List (List Char)}
    (hparts : ∀ part ∈ parts, ¬ c :: label <:+: part) :
    ¬ c :: label <:+: List.intercalate (d :: more) parts :=
  not_infix_intercalate_of_clear (List.cons_ne_nil c label) hd
    (fun rest => Clear.of_not_mem hc rest) hparts

/-- Nor does it where such a text takes the place of a pattern. -/
lemma not_infix_replaceAll {text : List Char} (htext : ¬ c :: label <:+: text)
    (pattern : List Char) : ¬ c :: label <:+: replaceAll pattern (d :: more) text :=
  not_infix_intercalate hc hd fun _ hpiece hin => htext (hin.trans (isInfix_of_mem_pieces hpiece))

end Joints

/-! ### What stays as it is -/

/-- Of joined texts, what the separator has nothing of is what the texts have of it. -/
lemma filter_intercalate {keep : Char → Bool} {separator : List Char}
    (h : ∀ c ∈ separator, keep c = false) (parts : List (List Char)) :
    (List.intercalate separator parts).filter keep = parts.flatMap (List.filter keep) := by
  have hseparator : separator.filter keep = [] := by
    simpa [List.filter_eq_nil_iff] using h
  induction parts with
  | nil => rfl
  | cons part parts ih =>
      by_cases hparts : parts = []
      · simp [hparts]
      · rw [List.intercalate_cons_of_ne_nil hparts, List.filter_append, List.filter_append,
          hseparator, ih, List.append_nil, List.flatMap_cons]

/-- What neither the pattern nor the text in its place has anything of stays as it is, in its
order. -/
lemma filter_replaceAll {keep : Char → Bool} {pattern replacement : List Char}
    (hpattern : ∀ c ∈ pattern, keep c = false) (hreplacement : ∀ c ∈ replacement, keep c = false)
    (text : List Char) : (replaceAll pattern replacement text).filter keep = text.filter keep := by
  calc (replaceAll pattern replacement text).filter keep
      = (pieces pattern text).flatMap (List.filter keep) := filter_intercalate hreplacement _
    _ = (List.intercalate pattern (pieces pattern text)).filter keep :=
        (filter_intercalate hpattern _).symm
    _ = text.filter keep := by rw [intercalate_pieces]

/-- What a filter keeps is told by what it leaves, in number too. -/
lemma count_eq_of_filter_eq {keep : Char → Bool} {c : Char} (hc : keep c = true)
    {text other : List Char} (h : text.filter keep = other.filter keep) :
    text.count c = other.count c := by
  rw [← List.count_filter hc, h, List.count_filter hc]

end AskSql.Text
