import AskSql.Text.Blank
import Mathlib.Data.List.Basic
import Mathlib.Data.List.DropRight
import Mathlib.Tactic.Lemma

/-!
What trimming takes off.

Trimming looks at both ends of a text only. Around a text that is bare at its ends, the two sides
are trimmed apart from each other, so that each of them can be followed on its own.

* `Bare`: a text that neither begins nor ends with a character of a class.
* `trimEnds_around`: what stands around a bare text is trimmed side by side.
* `trimEnds_pad`: characters of the class around a bare text are taken off, and nothing else.
* `bare_trimEnds`: a trimmed text is bare.
* `dropWhile_layers`: two classes in turn, trimmed in turn.
-/

namespace AskSql.Text

variable {p f : Char → Bool}

/-- Neither the first nor the last character of the text belongs to the class. -/
def Bare (p : Char → Bool) (text : List Char) : Prop :=
  (∀ c ∈ text.head?, p c = false) ∧ ∀ c ∈ text.getLast?, p c = false

lemma bare_iff_all (p : Char → Bool) (text : List Char) :
    Bare p text ↔ (text.head?.all (!p ·) && text.getLast?.all (!p ·)) = true := by
  rw [Bare, Bool.and_eq_true, Option.all_eq_true, Option.all_eq_true]
  simp

instance (p : Char → Bool) (text : List Char) : Decidable (Bare p text) :=
  decidable_of_iff _ (bare_iff_all p text).symm

lemma Bare.of_forall {text : List Char} (h : ∀ c ∈ text, p c = false) : Bare p text :=
  ⟨fun c hc => h c (List.mem_of_head? hc), fun c hc => h c (List.mem_of_getLast? hc)⟩

/-- Between characters of other classes any text is bare. -/
lemma Bare.between {left right : List Char} (hleft : left ≠ []) (hl : ∀ c ∈ left, p c = false)
    (hright : right ≠ []) (hr : ∀ c ∈ right, p c = false) (text : List Char) :
    Bare p (left ++ text ++ right) := by
  refine ⟨fun c hc => hl c ?_, fun c hc => hr c ?_⟩
  · rw [List.append_assoc, List.head?_append_of_ne_nil _ hleft] at hc
    exact List.mem_of_head? hc
  · rw [List.getLast?_append_of_ne_nil _ hright] at hc
    exact List.mem_of_getLast? hc

/-! ### One end -/

/-- Trimming at the end is dropping from the right. -/
lemma trimEnd_eq (p : Char → Bool) (text : List Char) : trimEnd p text = text.rdropWhile p := rfl

/-- Trimming at the beginning stops at the latest where a bare text begins. -/
lemma dropWhile_append_bare {text : List Char} (hne : text ≠ [])
    (h : ∀ c ∈ text.head?, p c = false) (left : List Char) :
    (left ++ text).dropWhile p = left.dropWhile p ++ text := by
  cases text with
  | nil => exact absurd rfl hne
  | cons c text =>
      have hc : ¬ p c = true := by
        rw [h c rfl]
        exact Bool.false_ne_true
      rw [List.dropWhile_append, List.dropWhile_cons_of_neg hc]
      split
      · next hempty => rw [List.isEmpty_iff.mp hempty, List.nil_append]
      · rfl

/-- Trimming at the end stops at the latest where a bare text ends. -/
lemma trimEnd_append_bare {text : List Char} (hne : text ≠ [])
    (h : ∀ c ∈ text.getLast?, p c = false) (right : List Char) :
    trimEnd p (text ++ right) = text ++ trimEnd p right := by
  have hback : (right.reverse ++ text.reverse).dropWhile p
      = right.reverse.dropWhile p ++ text.reverse := by
    refine dropWhile_append_bare (by simpa using hne) (fun c hc => h c ?_) right.reverse
    rwa [List.head?_reverse] at hc
  rw [trimEnd, List.reverse_append, hback, List.reverse_append, List.reverse_reverse, trimEnd]

/-! ### Both ends -/

/-- What stands around a bare text is trimmed side by side. -/
lemma trimEnds_around {text : List Char} (hne : text ≠ []) (h : Bare p text)
    (left right : List Char) :
    trimEnds p (left ++ text ++ right) = left.dropWhile p ++ text ++ trimEnd p right := by
  have hleft : (left ++ (text ++ right)).dropWhile p = left.dropWhile p ++ (text ++ right) := by
    refine dropWhile_append_bare (by simp [hne]) (fun c hc => h.1 c ?_) left
    rwa [List.head?_append_of_ne_nil _ hne] at hc
  have hright : trimEnd p (left.dropWhile p ++ text ++ right)
      = left.dropWhile p ++ text ++ trimEnd p right := by
    refine trimEnd_append_bare (by simp [hne]) (fun c hc => h.2 c ?_) right
    rwa [List.getLast?_append_of_ne_nil _ hne] at hc
  rw [trimEnds, List.append_assoc, hleft, ← List.append_assoc, hright]

/-- Characters of the class around a bare text are taken off, and nothing else. -/
lemma trimEnds_pad {left text right : List Char} (hleft : ∀ c ∈ left, p c = true) (h : Bare p text)
    (hright : ∀ c ∈ right, p c = true) : trimEnds p (left ++ text ++ right) = text := by
  have hdrop : left.dropWhile p = [] := List.dropWhile_eq_nil_iff.mpr hleft
  by_cases hne : text = []
  · rw [hne, List.append_nil, trimEnds, List.dropWhile_append_of_pos hleft,
      List.dropWhile_eq_nil_iff.mpr hright]
    rfl
  · rw [trimEnds_around hne h, hdrop, trimEnd_eq, List.rdropWhile_eq_nil_iff.mpr hright,
      List.nil_append, List.append_nil]

/-- From a bare text nothing is taken off. -/
lemma trimEnds_of_bare {text : List Char} (h : Bare p text) : trimEnds p text = text := by
  have hpad := trimEnds_pad (List.forall_mem_nil _) h (List.forall_mem_nil _)
  rwa [List.nil_append, List.append_nil] at hpad

/-- Nothing is left of a text that consists of the class. -/
lemma trimEnds_of_forall {text : List Char} (h : ∀ c ∈ text, p c = true) :
    trimEnds p text = [] := by
  have hpad := trimEnds_pad h (Bare.of_forall (List.forall_mem_nil _)) (List.forall_mem_nil _)
  rwa [List.append_nil, List.append_nil] at hpad

/-- What is left by trimming is part of the text. -/
lemma trimEnds_isInfix (p : Char → Bool) (text : List Char) : trimEnds p text <:+: text := by
  rw [trimEnds, trimEnd_eq]
  exact (List.rdropWhile_prefix p _).isInfix.trans (List.dropWhile_suffix p).isInfix

/-- A trimmed text is bare. -/
lemma bare_trimEnds (p : Char → Bool) (text : List Char) : Bare p (trimEnds p text) := by
  rw [trimEnds, trimEnd_eq]
  constructor
  · intro c hc
    -- trimming at the end leaves the first character in its place, unless it leaves nothing
    obtain ⟨rest, hrest⟩ := List.rdropWhile_prefix p (text.dropWhile p)
    have hhead : (text.dropWhile p).head? = some c := by
      rw [← hrest, List.head?_append, hc]
      rfl
    have hdrop := List.head?_dropWhile_not p text
    rw [hhead] at hdrop
    simpa using hdrop
  · intro c hc
    obtain ⟨hne, rfl⟩ := List.mem_getLast?_eq_getLast hc
    simpa using List.rdropWhile_last_not p (text.dropWhile p) hne

/-- Layers of two classes that have no character in common are gone when the classes are trimmed in
turn, also if a layer is empty. -/
lemma dropWhile_layers (hapart : ∀ c, f c = true → p c = false) {outer middle inner : List Char}
    (houter : ∀ c ∈ outer, p c = true) (hmiddle : ∀ c ∈ middle, f c = true)
    (hinner : ∀ c ∈ inner, p c = true) :
    (((outer ++ (middle ++ inner)).dropWhile p).dropWhile f).dropWhile p = [] := by
  rw [List.dropWhile_append_of_pos houter, List.dropWhile_eq_nil_iff]
  cases middle with
  | nil =>
      rw [List.nil_append, List.dropWhile_eq_nil_iff.mpr hinner]
      simp
  | cons c middle =>
      have hc : ¬ p c = true := by
        rw [hapart c (hmiddle c List.mem_cons_self)]
        exact Bool.false_ne_true
      rw [List.cons_append, List.dropWhile_cons_of_neg hc, ← List.cons_append,
        List.dropWhile_append_of_pos hmiddle]
      intro d hd
      exact hinner d ((List.dropWhile_suffix f).subset hd)

/-- The same at the end of a text. -/
lemma trimEnd_layers (hapart : ∀ c, f c = true → p c = false) {outer middle inner : List Char}
    (houter : ∀ c ∈ outer, p c = true) (hmiddle : ∀ c ∈ middle, f c = true)
    (hinner : ∀ c ∈ inner, p c = true) :
    trimEnd p (trimEnd f (trimEnd p (inner ++ middle ++ outer))) = [] := by
  have hback := dropWhile_layers hapart
    (fun c hc => houter c (List.mem_reverse.mp hc)) (fun c hc => hmiddle c (List.mem_reverse.mp hc))
    (fun c hc => hinner c (List.mem_reverse.mp hc))
  have htext : inner ++ middle ++ outer
      = (outer.reverse ++ (middle.reverse ++ inner.reverse)).reverse := by simp
  rw [htext, trimEnd_eq, trimEnd_eq, trimEnd_eq, List.rdropWhile_reverse, List.rdropWhile_reverse,
    List.rdropWhile_reverse, hback, List.reverse_nil]

end AskSql.Text
