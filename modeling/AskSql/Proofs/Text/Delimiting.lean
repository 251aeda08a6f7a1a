import AskSql.Proofs.Text.Quoting
import Mathlib.Data.List.DropRight

/-!
Where a quoted text ends.

A quote ends a text unless a backslash escapes it, and a backslash escapes what follows it unless it
is escaped itself. So it is the number of backslashes in front of a quote that counts: with an odd
number the last of them escapes the quote. Between the quotes of `quote` each character of the text
is written as itself or as a backslash and a letter, and after either of them the number in front of
the next character is even again. This is the invariant that carries the proofs: the quote in use
never stands there unescaped, and the one behind the text is not escaped.

* `Escapes`: whether a text escapes the character behind it.
* `Scans`: a text scanned from its opening quote to the first one of that kind that is not escaped.
* `Yields`: what it yields when the escapes are undone.
* `unquote_of_yields`: this is what the reader of quoted texts reads.
* `escapeChar_cases`: the two ways in which a character is written.
* `explained_flatMap`: a character between the quotes is not the quote in use, or it is escaped.
* `quote_selfDelimiting`: a quoted text yields the text, whatever follows it.
-/

namespace AskSql.Text

/-! ### Escapes -/

/-- How many backslashes a text ends with. -/
def slashesAtEnd (text : List Char) : Nat := (text.rtakeWhile (· == '\\')).length

/-- Whether a text escapes the character behind it: of the backslashes that it ends with every
second one is escaped by the one before it. -/
def Escapes (text : List Char) : Prop := slashesAtEnd text % 2 = 1

instance (text : List Char) : Decidable (Escapes text) :=
  inferInstanceAs (Decidable (slashesAtEnd text % 2 = 1))

@[simp] lemma not_escapes_nil : ¬ Escapes [] := by decide

/-- A backslash escapes what follows it unless it is escaped itself. -/
@[simp] lemma escapes_concat (text : List Char) (c : Char) :
    Escapes (text ++ [c]) ↔ c = '\\' ∧ ¬ Escapes text := by
  rw [Escapes, Escapes, slashesAtEnd, slashesAtEnd, List.rtakeWhile_concat]
  by_cases hc : c = '\\'
  · simp [hc]
    omega
  · simp [hc]

/-- A backslash and the character behind it escape the next one only if both of them are
backslashes, behind an odd number of others. -/
@[simp] lemma escapes_pair (text : List Char) (c : Char) :
    Escapes (text ++ ['\\', c]) ↔ c = '\\' ∧ Escapes text := by
  have hpair : text ++ ['\\', c] = text ++ ['\\'] ++ [c] := by simp
  rw [hpair, escapes_concat, escapes_concat]
  simp

/-- A character that is no backslash changes nothing for what stands behind others, -/
lemma escapes_cons {c : Char} (hc : c ≠ '\\') (text : List Char) :
    Escapes (c :: text) ↔ Escapes text := by
  induction text using List.reverseRecOn with
  | nil => simpa [hc] using escapes_concat [] c
  | append_singleton text d ih => rw [← List.cons_append, escapes_concat, escapes_concat, ih]

/-- and neither do a backslash and the character that it escapes. -/
lemma escapes_cons_cons (c : Char) (text : List Char) :
    Escapes ('\\' :: c :: text) ↔ Escapes text := by
  induction text using List.reverseRecOn with
  | nil => simpa using escapes_pair [] c
  | append_singleton text d ih =>
      rw [← List.cons_append, ← List.cons_append, escapes_concat, escapes_concat, ih]

/-- The character that a letter behind a backslash stands for, if there is such an escape. -/
def letter? (q c : Char) : Option Char :=
  if c = '\\' ∨ c = q then some c
  else if c = 'n' then some '\n'
  else if c = 'r' then some '\r'
  else if c = 't' then some '\t'
  else none

/-- Undoes the escapes of a text that is written between the quotes `q`. -/
def unescape? (q : Char) : List Char → Option (List Char)
  | [] => some []
  | '\\' :: c :: rest =>
      (letter? q c).bind fun c => (unescape? q rest).map (c :: ·)
  | c :: rest => if c = '\\' then none else (unescape? q rest).map (c :: ·)

/-! ### Scanning -/

/-- Whether a character is one of the two quotes. -/
def IsQuote (c : Char) : Prop := c = '\'' ∨ c = '"'

/-- What stands in front of the first quote that is not escaped: each quote of the same kind in it
is escaped, and the one behind it is not. -/
structure Closed (q : Char) (body : List Char) : Prop where
  closes : ¬ Escapes body
  first : ∀ before after, body = before ++ q :: after → Escapes before

/-- A text is scanned from its opening quote: `body` stands between it and the first quote of the
same kind that is not escaped, and `rest` behind that one. -/
structure Scans (s : List Char) (q : Char) (body rest : List Char) : Prop where
  isQuote : IsQuote q
  split : s = q :: (body ++ q :: rest)
  closed : Closed q body

/-- What a text yields when it is scanned and the escapes are undone. -/
def Yields (s text rest : List Char) : Prop :=
  ∃ q body, Scans s q body rest ∧ unescape? q body = some text

/-- Whether a text has a quote of either kind that is escaped. -/
def HasEscapedQuote (s : List Char) : Prop :=
  ∃ before c after, s = before ++ c :: after ∧ IsQuote c ∧ Escapes before

/-! ### Characters between quotes -/

/-- The characters that never stand between quotes: those that end a line, and the tab. -/
def breaks : List Char := ['\n', '\r', '\t']

section Characters

variable {q c d : Char}

lemma IsQuote.ne_slash (hq : IsQuote q) : '\\' ≠ q := by
  rcases hq with rfl | rfl
  · decide
  · decide

lemma IsQuote.not_mem_breaks (hq : IsQuote q) : q ∉ breaks := by
  rcases hq with rfl | rfl
  · decide
  · decide

/-- The quote in use is escaped. -/
lemma IsQuote.escapeChar_self (hq : IsQuote q) : escapeChar q q = ['\\', q] := by
  rcases hq with rfl | rfl
  · rfl
  · rfl

/-- A quote escapes nothing. -/
lemma IsQuote.not_escapes (hq : IsQuote q) : ¬ Escapes [q] := by
  intro h
  exact hq.ne_slash ((escapes_concat [] q).mp h).1.symm

/-- Neither quote is one of the letters that stand for other characters. -/
lemma letter?_letters (hq : IsQuote q) :
    letter? q 'n' = some '\n' ∧ letter? q 'r' = some '\r' ∧ letter? q 't' = some '\t' := by
  rcases hq with rfl | rfl
  · exact ⟨rfl, rfl, rfl⟩
  · exact ⟨rfl, rfl, rfl⟩

/-- A character is written as itself or as a backslash and a letter. -/
lemma escapeChar_cases (hq : IsQuote q) (c : Char) :
    (escapeChar q c = [c] ∧ c ≠ '\\' ∧ c ≠ q ∧ c ∉ breaks)
      ∨ ∃ d, escapeChar q c = ['\\', d] ∧ letter? q d = some c := by
  obtain ⟨hn, hr, ht⟩ := letter?_letters hq
  rw [escapeChar]
  split_ifs with hslash hline hreturn htab hquote
  · exact .inr ⟨'\\', rfl, by simp [letter?, hslash]⟩
  · exact .inr ⟨'n', rfl, hline ▸ hn⟩
  · exact .inr ⟨'r', rfl, hreturn ▸ hr⟩
  · exact .inr ⟨'t', rfl, htab ▸ ht⟩
  · exact .inr ⟨c, rfl, by simp [letter?, hquote]⟩
  · exact .inl ⟨rfl, hslash, hquote, by simp [breaks, hline, hreturn, htab]⟩

/-- No letter of an escape is a character that ends a line, or a tab. -/
lemma not_mem_breaks_of_letter? (hq : IsQuote q) (h : letter? q d = some c) : d ∉ breaks := by
  intro hbreak
  have hd : d = '\n' ∨ d = '\r' ∨ d = '\t' := by simpa [breaks] using hbreak
  have hnone : letter? q d = none := by
    rcases hq with rfl | rfl
    · rcases hd with rfl | rfl | rfl <;> rfl
    · rcases hd with rfl | rfl | rfl <;> rfl
  rw [hnone] at h
  cases h

/-- A quote is the letter of an escape only if it is the one in use, and then it stands for
itself. -/
lemma eq_of_letter? (hd : IsQuote d) (h : letter? q d = some c) : d = q ∧ c = q := by
  by_cases hquote : d = q
  · subst hquote
    simp_all [letter?]
  · rcases hd with rfl | rfl
    · simp [letter?, hquote] at h
    · simp [letter?, hquote] at h

/-- The reader of quoted texts undoes the same escapes. -/
lemma unescapeChar_of_letter? (hq : IsQuote q) (h : letter? q d = some c) : unescapeChar d = c := by
  rw [letter?] at h
  split_ifs at h with hself hn hr ht
  · cases h
    rcases hq with rfl | rfl
    · rcases hself with rfl | rfl <;> rfl
    · rcases hself with rfl | rfl <;> rfl
  · cases h
    rw [hn]
    rfl
  · cases h
    rw [hr]
    rfl
  · cases h
    rw [ht]
    rfl

end Characters

/-! ### Readers -/

section Reading

variable {q c : Char} {s body text rest : List Char}

/-- Behind a character that is no backslash the first quote that is not escaped stays the first. -/
lemma Closed.of_cons (h : Closed q (c :: body)) (hc : c ≠ '\\') : Closed q body where
  closes := (escapes_cons hc body).not.mp h.closes
  first before after hbody :=
    (escapes_cons hc before).mp (h.first (c :: before) after (congrArg (c :: ·) hbody))

/-- So it does behind a backslash and the character that it escapes. -/
lemma Closed.of_cons_cons (h : Closed q ('\\' :: c :: body)) : Closed q body where
  closes := (escapes_cons_cons c body).not.mp h.closes
  first before after hbody := (escapes_cons_cons c before).mp
    (h.first ('\\' :: c :: before) after (congrArg ('\\' :: c :: ·) hbody))

/-- The first character is no quote, as nothing in front of it escapes it. -/
lemma Closed.head_ne (h : Closed q (c :: body)) : c ≠ q := by
  rintro rfl
  exact not_escapes_nil (h.first [] body rfl)

/-- The reader of quoted texts reads up to the first quote that is not escaped. -/
lemma Closed.unquoteBody (hq : IsQuote q) (h : Closed q body) (htext : unescape? q body = some text)
    (rest : List Char) : unquoteBody q (body ++ q :: rest) = some (text, rest) := by
  fun_induction unescape? q body generalizing text with
  | case1 =>
      cases htext
      exact unquoteBody_quote hq.ne_slash.symm rest
  | case2 c body ih =>
      obtain ⟨d, hd, htext⟩ := Option.bind_eq_some_iff.mp htext
      obtain ⟨text, hbody, rfl⟩ := Option.map_eq_some_iff.mp htext
      rw [List.cons_append, List.cons_append, unquoteBody_escaped, ih h.of_cons_cons hbody,
        Option.map_some, unescapeChar_of_letter? hq hd]
  | case3 => cases htext
  | case4 c body _ hslash ih =>
      obtain ⟨text, hbody, rfl⟩ := Option.map_eq_some_iff.mp htext
      rw [List.cons_append, unquoteBody_cons hslash h.head_ne, ih (h.of_cons hslash) hbody,
        Option.map_some]

/-- **What a text yields is what is read from it.** -/
theorem unquote_of_yields (h : Yields s text rest) : unquote s = some (text, rest) := by
  obtain ⟨q, body, hscans, htext⟩ := h
  have hbody := hscans.closed.unquoteBody hscans.isQuote htext rest
  rw [hscans.split]
  rcases hscans.isQuote with rfl | rfl
  · exact hbody
  · exact hbody

end Reading

/-! ### Texts between quotes -/

/-- What the text says of a character that stands behind `before` in what is written of the text: it
is not escaped, and then it is not the quote in use, or it is the letter of an escape that stands
for a character of the text. -/
def Explained (q : Char) (text before : List Char) (c : Char) : Prop :=
  (¬ Escapes before ∧ c ≠ q) ∨ (Escapes before ∧ ∃ d ∈ text, letter? q c = some d)

section Texts

variable {q c : Char} {text more before after done : List Char}

lemma Explained.mono (h : Explained q text before c) (hsub : text ⊆ more) :
    Explained q more before c :=
  h.imp_right fun ⟨hescapes, d, hd, hletter⟩ => ⟨hescapes, d, hsub hd, hletter⟩

/-- Each character of a text is taken back by itself. -/
lemma unescape?_escapeChar (hq : IsQuote q) (c : Char) (rest : List Char) :
    unescape? q (escapeChar q c ++ rest) = (unescape? q rest).map (c :: ·) := by
  obtain ⟨hbare, hslash, -, -⟩ | ⟨d, hescape, hletter⟩ := escapeChar_cases hq c
  · rw [hbare, List.singleton_append, unescape?, if_neg hslash]
    rintro d tail rfl -
    exact hslash rfl
  · rw [hescape, List.cons_append, List.singleton_append, unescape?, hletter, Option.bind_some]

lemma unescape?_flatMap (hq : IsQuote q) (text : List Char) :
    unescape? q (text.flatMap (escapeChar q)) = some text := by
  induction text with
  | nil => rfl
  | cons c text ih => rw [List.flatMap_cons, unescape?_escapeChar hq, ih, Option.map_some]

/-- Behind a character nothing is escaped if nothing was in front of it. -/
lemma not_escapes_escapeChar (hq : IsQuote q) (hdone : ¬ Escapes done) (c : Char) :
    ¬ Escapes (done ++ escapeChar q c) := by
  obtain ⟨hbare, hslash, -, -⟩ | ⟨d, hescape, -⟩ := escapeChar_cases hq c
  · simp [hbare, hslash]
  · simp [hescape, hdone]

lemma not_escapes_flatMap (hq : IsQuote q) (hdone : ¬ Escapes done) (text : List Char) :
    ¬ Escapes (done ++ text.flatMap (escapeChar q)) := by
  induction text generalizing done with
  | nil => simpa using hdone
  | cons c text ih =>
      rw [List.flatMap_cons, ← List.append_assoc]
      exact ih (not_escapes_escapeChar hq hdone c)

/-- Of what is written of a character, a letter behind a backslash is escaped and nothing else. -/
lemma explained_escapeChar (hq : IsQuote q) (hdone : ¬ Escapes done) {d : Char}
    (h : escapeChar q d = before ++ c :: after) : Explained q [d] (done ++ before) c := by
  obtain ⟨hbare, -, hquote, -⟩ | ⟨l, hescape, hletter⟩ := escapeChar_cases hq d
  · rw [hbare, List.singleton_eq_append_iff] at h
    obtain ⟨rfl, hc⟩ | ⟨-, hc⟩ := h
    · obtain ⟨rfl, -⟩ := List.cons.inj hc
      exact .inl ⟨by simpa using hdone, hquote⟩
    · cases hc
  · rw [hescape] at h
    match before, h with
    | [], h =>
        obtain ⟨rfl, -⟩ := List.cons.inj h
        exact .inl ⟨by simpa using hdone, hq.ne_slash⟩
    | [slash], h =>
        obtain ⟨rfl, htail⟩ := List.cons.inj h
        obtain ⟨rfl, -⟩ := List.cons.inj htail
        exact .inr ⟨by simpa using hdone, d, List.mem_singleton_self d, hletter⟩
    | _ :: _ :: _, h => simp at h

/-- Every character between the quotes is accounted for by the text. -/
lemma explained_flatMap (hq : IsQuote q) (hdone : ¬ Escapes done)
    (h : text.flatMap (escapeChar q) = before ++ c :: after) :
    Explained q text (done ++ before) c := by
  induction text generalizing before done with
  | nil => simp at h
  | cons d text ih =>
      have hlater : ∀ later, before = escapeChar q d ++ later →
          text.flatMap (escapeChar q) = later ++ c :: after →
          Explained q (d :: text) (done ++ before) c := by
        rintro later rfl hrest
        rw [← List.append_assoc]
        exact (ih (not_escapes_escapeChar hq hdone d) hrest).mono (List.subset_cons_self d text)
      rw [List.flatMap_cons] at h
      -- the character belongs to what is written of `d`, or else to what is written behind it
      obtain ⟨later, hbefore, hrest⟩ | ⟨part, hpart, hrest⟩ := List.append_eq_append_iff.mp h
      · exact hlater later hbefore hrest
      · cases part with
        | nil => exact hlater [] (by simpa using hpart.symm) (by simpa using hrest.symm)
        | cons e part =>
            obtain ⟨rfl, -⟩ := List.cons.inj hrest
            exact (explained_escapeChar hq hdone hpart).mono (by simp)

end Texts

/-! ### Quoted texts -/

/-- A rendering of a text from which the text is told, and the end of the rendering with it. -/
structure SelfDelimiting (text rendered : List Char) : Prop where
  /-- Whatever follows the rendering, it yields the text and leaves what follows. -/
  yields : ∀ rest text' rest', Yields (rendered ++ rest) text' rest' ↔ text' = text ∧ rest' = rest
  /-- It has one line and no tab. -/
  unbroken : ∀ c ∈ rendered, c ∉ breaks
  /-- It begins with a double quote if there is a single quote in the text and no double one. -/
  double_iff : rendered.head? = some '"' ↔ '\'' ∈ text ∧ '"' ∉ text
  /-- A quote is escaped in it if both kinds are in the text. -/
  escaped_iff : HasEscapedQuote rendered ↔ '\'' ∈ text ∧ '"' ∈ text

section Quoted

variable {text : List Char}

lemma isQuote_quoteFor (text : List Char) : IsQuote (quoteFor text) := quoteFor_eq text

lemma quoteFor_eq_double_iff (text : List Char) :
    quoteFor text = '"' ↔ '\'' ∈ text ∧ '"' ∉ text := by
  rw [quoteFor]
  split
  · next h => simpa using h
  · next h => simpa using h

/-- The quote in use is in the text only if the other one is too. -/
lemma quoteFor_mem_iff (text : List Char) : quoteFor text ∈ text ↔ '\'' ∈ text ∧ '"' ∈ text := by
  have hdouble := quoteFor_eq_double_iff text
  rcases quoteFor_eq text with hquote | hquote
  · have hnot : ¬ ('\'' ∈ text ∧ '"' ∉ text) := by
      rw [← hdouble, hquote]
      decide
    rw [hquote]
    tauto
  · have hboth := hdouble.mp hquote
    rw [hquote]
    tauto

/-- In a quoted text the scan finds all that is written of the text. -/
lemma scans_quote (text rest : List Char) :
    Scans (quote text ++ rest) (quoteFor text) (text.flatMap (escapeChar (quoteFor text)))
      rest where
  isQuote := isQuote_quoteFor text
  split := by simp [quote]
  closed := {
    closes := not_escapes_flatMap (isQuote_quoteFor text) not_escapes_nil text
    first := fun before after h => by
      have hquote := explained_flatMap (isQuote_quoteFor text) not_escapes_nil h
      simp only [Explained, ne_eq, not_true_eq_false, and_false, false_or] at hquote
      exact hquote.1 }

lemma yields_quote_iff (text rest text' rest' : List Char) :
    Yields (quote text ++ rest) text' rest' ↔ text' = text ∧ rest' = rest := by
  constructor
  · intro h
    have hread := unquote_of_yields h
    rw [unquote_quote] at hread
    cases hread
    exact ⟨rfl, rfl⟩
  · rintro ⟨rfl, rfl⟩
    exact ⟨_, _, scans_quote text' rest', unescape?_flatMap (isQuote_quoteFor text') text'⟩

lemma not_mem_breaks_of_mem_quote {c : Char} (hc : c ∈ quote text) : c ∉ breaks := by
  have hq := isQuote_quoteFor text
  have hparts : c = quoteFor text ∨ ∃ d ∈ text, c ∈ escapeChar (quoteFor text) d := by
    simp only [quote, List.mem_append, List.mem_cons, List.mem_flatMap] at hc
    tauto
  obtain rfl | ⟨d, -, hd⟩ := hparts
  · exact hq.not_mem_breaks
  · obtain ⟨hbare, -, -, hbreak⟩ | ⟨l, hescape, hletter⟩ := escapeChar_cases hq d
    · rw [hbare, List.mem_singleton] at hd
      rwa [hd]
    · rw [hescape, List.mem_pair] at hd
      obtain rfl | rfl := hd
      · decide
      · exact not_mem_breaks_of_letter? hq hletter

/-- A quote that is escaped is the one in use, and it stands for itself. -/
lemma mem_of_hasEscapedQuote (h : HasEscapedQuote (quote text)) : quoteFor text ∈ text := by
  have hq := isQuote_quoteFor text
  obtain ⟨before, c, after, hsplit, hc, hescapes⟩ := h
  cases before with
  | nil => exact absurd hescapes not_escapes_nil
  | cons opening before =>
      obtain ⟨rfl, htail⟩ : quoteFor text = opening
          ∧ text.flatMap (escapeChar (quoteFor text)) ++ [quoteFor text] = before ++ c :: after :=
        List.cons.inj hsplit
      obtain rfl | ⟨after, last, rfl⟩ := List.eq_nil_or_concat after
      · -- the closing quote is not escaped
        obtain ⟨rfl, -⟩ := List.append_inj' htail rfl
        exact absurd hescapes (not_escapes_flatMap hq hq.not_escapes text)
      · rw [List.concat_eq_append, ← List.cons_append, ← List.append_assoc] at htail
        obtain ⟨hbody, -⟩ := List.append_inj' htail rfl
        obtain ⟨hnot, -⟩ | ⟨-, d, hd, hletter⟩ := explained_flatMap hq hq.not_escapes hbody
        · exact absurd hescapes hnot
        · rwa [(eq_of_letter? hc hletter).2] at hd

/-- The quote in use is escaped wherever it is in the text. -/
lemma hasEscapedQuote_of_mem (h : quoteFor text ∈ text) : HasEscapedQuote (quote text) := by
  have hq := isQuote_quoteFor text
  have hself := hq.escapeChar_self
  obtain ⟨left, right, htext⟩ := List.append_of_mem h
  refine ⟨[quoteFor text] ++ left.flatMap (escapeChar (quoteFor text)) ++ ['\\'], quoteFor text,
    right.flatMap (escapeChar (quoteFor text)) ++ [quoteFor text], ?_, hq, ?_⟩
  · rw [quote]
    generalize quoteFor text = q at hself htext ⊢
    simp [htext, hself]
  · exact (escapes_concat _ _).mpr ⟨rfl, not_escapes_flatMap hq hq.not_escapes left⟩

end Quoted

/-- **A quoted text delimits itself.** Scanned from its opening quote to the first one of that kind
which no backslash escapes, it yields the text and leaves whatever follows it. -/
theorem quote_selfDelimiting (text : List Char) : SelfDelimiting text (quote text) where
  yields rest text' rest' := yields_quote_iff text rest text' rest'
  unbroken _ hc := not_mem_breaks_of_mem_quote hc
  double_iff := by
    rw [← quoteFor_eq_double_iff]
    simp [quote]
  escaped_iff := by
    rw [← quoteFor_mem_iff]
    exact ⟨mem_of_hasEscapedQuote, hasEscapedQuote_of_mem⟩

/-- A backslash in front of both quotes: of three backslashes the last one escapes the quote. -/
example : quote ['\\', '\'', '"'] = ['\'', '\\', '\\', '\\', '\'', '"', '\''] := rfl

end AskSql.Text
