import AskSql.Proofs.Prompt.Segments

/-!
How templates are read, as rules.

The rules say what stands at the front of a template: a doubled brace, a variable, or a character
that stands for itself because neither of them begins with it. At most one of them applies, so a
template is read in one way only, and the scan from the left finds that reading, whatever braces are
left open, are doubled or stand side by side.

* `Marked`: a text that begins with a doubled brace or with a variable.
* `Reads`: the rules.
* `scanOne_cases`: what one step of the scan does.
* `reads_iff`: the tokens of the scan are the one reading of a template.
-/

namespace AskSql.Template

/-! ### The rules -/

/-- A brace, of either kind. -/
def IsBrace (c : Char) : Prop := c = '\x7b' ∨ c = '\x7d'

/-- A text that begins with a doubled brace or with a variable. -/
inductive Marked : List Char → Prop
  | doubled {c : Char} (h : IsBrace c) (rest : List Char) : Marked (c :: c :: rest)
  | slot {name : List Char} (h : isName name = true) (rest : List Char) :
      Marked ('\x7b' :: (name ++ '\x7d' :: rest))

/-- The tokens that a template is read as. -/
inductive Reads : List Char → List Token → Prop
  | nil : Reads [] []
  | doubled {c : Char} {rest : List Char} {tokens : List Token} (h : IsBrace c)
      (hrest : Reads rest tokens) : Reads (c :: c :: rest) (.char c :: tokens)
  | slot {name rest : List Char} {tokens : List Token} (h : isName name = true)
      (hrest : Reads rest tokens) :
      Reads ('\x7b' :: (name ++ '\x7d' :: rest)) (.slot name :: tokens)
  | plain {c : Char} {rest : List Char} {tokens : List Token} (h : ¬ Marked (c :: rest))
      (hrest : Reads rest tokens) : Reads (c :: rest) (.char c :: tokens)

/-! ### The scan -/

/-- What is read as a name and the brace that closes it. -/
lemma readName_eq_some {s name rest : List Char} (h : readName s = some (name, rest)) :
    isName name = true ∧ s = name ++ '\x7d' :: rest := by
  rw [readName] at h
  split at h
  · next after heq =>
      split at h
      · next hname =>
          obtain ⟨rfl, rfl⟩ := Prod.mk.inj (Option.some.inj h)
          exact ⟨hname, by rw [← heq, List.takeWhile_append_dropWhile]⟩
      · cases h
  · cases h

/-- One step of the scan follows the rule that applies. -/
lemma scanOne_cases (c : Char) (rest : List Char) :
    (∃ after, IsBrace c ∧ rest = c :: after ∧ scanOne c rest = (.char c, after))
    ∨ (∃ name after, isName name = true ∧ c = '\x7b' ∧ rest = name ++ '\x7d' :: after
        ∧ scanOne c rest = (.slot name, after))
    ∨ (¬ Marked (c :: rest) ∧ scanOne c rest = (.char c, rest)) := by
  unfold scanOne
  split
  · next hopen =>
      subst hopen
      split
      · next after => exact .inl ⟨after, .inl rfl, rfl, rfl⟩
      · next hnot =>
          split
          · next name after hname =>
              obtain ⟨hisName, rfl⟩ := readName_eq_some hname
              exact .inr (.inl ⟨name, after, hisName, rfl, rfl, rfl⟩)
          · next hnone =>
              refine .inr (.inr ⟨fun hmarked => ?_, rfl⟩)
              cases hmarked with
              | doubled _ after => exact hnot after rfl
              | slot hname after =>
                  rw [readName_append hname] at hnone
                  cases hnone
  · next hopen =>
      split
      · next hclose =>
          subst hclose
          split
          · next after => exact .inl ⟨after, .inr rfl, rfl, rfl⟩
          · next hnot =>
              refine .inr (.inr ⟨fun hmarked => ?_, rfl⟩)
              cases hmarked with
              | doubled _ after => exact hnot after rfl
      · next hclose =>
          refine .inr (.inr ⟨fun hmarked => ?_, rfl⟩)
          cases hmarked with
          | doubled hbrace _ => exact hbrace.elim hopen hclose
          | slot => exact hopen rfl

/-- A character that no doubled brace and no variable begins with is read as itself. -/
lemma scan_plain {c : Char} {rest : List Char} (h : ¬ Marked (c :: rest)) :
    scan (c :: rest) = .char c :: scan rest := by
  rcases scanOne_cases c rest with ⟨after, hbrace, rfl, -⟩ | ⟨name, after, hname, rfl, rfl, -⟩
    | ⟨-, hone⟩
  · exact absurd (.doubled hbrace after) h
  · exact absurd (.slot hname after) h
  · rw [scan, hone]

/-- A doubled brace is read as a single one. -/
lemma scan_doubled {c : Char} (h : IsBrace c) (rest : List Char) :
    scan (c :: c :: rest) = .char c :: scan rest := by
  have hescape : escape c = [c, c] := if_pos h
  have hscan := scan_escape c rest
  rwa [hescape] at hscan

/-- The scan reads by the rules. -/
lemma reads_scan (s : List Char) : Reads s (scan s) := by
  induction s using scan.induct with
  | case1 =>
      rw [scan]
      exact .nil
  | case2 c rest ih =>
      rw [scan]
      rcases scanOne_cases c rest with ⟨after, hbrace, rfl, hone⟩
        | ⟨name, after, hname, rfl, rfl, hone⟩ | ⟨hplain, hone⟩
      · rw [hone] at ih ⊢
        exact .doubled hbrace ih
      · rw [hone] at ih ⊢
        exact .slot hname ih
      · rw [hone] at ih ⊢
        exact .plain hplain ih

/-- No other reading follows the rules. -/
lemma Reads.scan_eq {s : List Char} {tokens : List Token} (h : Reads s tokens) :
    scan s = tokens := by
  induction h with
  | nil => rw [scan]
  | doubled hbrace _ ih => rw [scan_doubled hbrace, ih]
  | slot hname _ ih =>
      have hscan := scan_slot hname
      simp only [List.cons_append, List.append_assoc, List.nil_append] at hscan
      rw [hscan, ih]
  | plain hplain _ ih => rw [scan_plain hplain, ih]

/-- **The one reading of a template.** The tokens of the scan are those that the rules give. -/
theorem reads_iff {s : List Char} {tokens : List Token} : Reads s tokens ↔ tokens = scan s := by
  constructor
  · exact fun h => h.scan_eq.symm
  · rintro rfl
    exact reads_scan s

end AskSql.Template
