import AskSql.Json.Record
import AskSql.Proofs.Decimal.RoundTrip
import AskSql.Proofs.Dictionary
import AskSql.Proofs.Json.Texts

/-!
What readers take from the front of a text.

In written text a value is followed by a comma, by a closing bracket or by nothing, and a reader
that takes a value from its text leaves what follows as it is. The texts of values do not begin with
a blank or with a closing bracket. From this a list is read item by item, a member behind its key,
and an integer up to its last digit.

* `Delimits`: what follows a value.
* `Opens`: how the text of a value begins.
* `Reads`: a reader that takes a value from its text.
* `reads_text`, `reads_integer`: texts, and integers of 64 bits.
* `readList_writeCommas`, `Reads.member`: lists and members.
* `reads_optional`, `reads_readArray`, `reads_readMap`: what fields hold.
* `Reads.readAll_eq`: a value that stands alone.
-/

namespace AskSql.Json

open AskSql.Decimal

/-- What follows a value: a comma, a closing bracket or nothing. -/
def Delimits (rest : List Char) : Prop := ∀ c ∈ rest.head?, c ∈ [',', ']', '\x7d']

lemma delimits_nil : Delimits [] := nofun

lemma delimits_cons {c : Char} (hc : c ∈ [',', ']', '\x7d']) (rest : List Char) :
    Delimits (c :: rest) := by
  rintro d hd
  rwa [← Option.some.inj hd]

/-- A text that begins neither with a blank nor with a closing bracket. -/
def Opens (text : List Char) : Prop :=
  ∃ c tail, text = c :: tail ∧ isSpace c = false ∧ c ∉ [']', '\x7d']

/-- A reader takes a value from its text and leaves what follows. -/
structure Reads {α : Type} (reader : Reader α) (text : List Char) (x : α) : Prop where
  opens : Opens text
  takes : ∀ rest, Delimits rest → reader (text ++ rest) = some (x, rest)

section Opening

variable {text rest : List Char} {c : Char}

lemma skipSpace_cons (hc : isSpace c = false) (rest : List Char) :
    skipSpace (c :: rest) = c :: rest :=
  List.dropWhile_cons_of_neg (by rw [hc]; exact Bool.false_ne_true)

lemma opens_cons (hspace : isSpace c = false) (hclose : c ∉ [']', '\x7d']) (rest : List Char) :
    Opens (c :: rest) := ⟨c, rest, rfl, hspace, hclose⟩

lemma Opens.append (h : Opens text) (rest : List Char) : Opens (text ++ rest) := by
  obtain ⟨c, tail, rfl, hspace, hclose⟩ := h
  exact opens_cons hspace hclose (tail ++ rest)

lemma Opens.skipSpace_eq (h : Opens text) : skipSpace text = text := by
  obtain ⟨c, tail, rfl, hspace, -⟩ := h
  exact skipSpace_cons hspace tail

lemma Opens.ne_nil (h : Opens text) : text ≠ [] := by
  obtain ⟨c, tail, rfl, -⟩ := h
  exact List.cons_ne_nil c tail

lemma opens_writeText (s : String) : Opens (writeText s) :=
  opens_cons rfl (by decide) _

lemma opens_writeMember (key : String) (value : List Char) : Opens (writeMember key value) :=
  (opens_writeText key).append _

lemma opens_writeArray (parts : List (List Char)) : Opens (writeArray parts) :=
  opens_cons rfl (by decide) _

lemma opens_writeObject (parts : List (List Char)) : Opens (writeObject parts) :=
  opens_cons rfl (by decide) _

lemma reads_text (s : String) : Reads readText (writeText s) s :=
  ⟨opens_writeText s, fun rest _ => readText_writeText s rest⟩

end Opening

/-! ### Integers -/

/-- An integer of 64 bits, with or without a sign. -/
def Fits (n : Int) : Prop := -2 ^ 63 ≤ n ∧ n < 2 ^ 64
deriving Decidable

/-- A delimiter is not a digit, a point or an exponent mark. -/
lemma delimiter_ends {c : Char} (hc : c ∈ [',', ']', '\x7d']) :
    c.isDigit = false ∧ c ≠ '.' ∧ c ≠ 'e' ∧ c ≠ 'E' := by
  have hall : ∀ c ∈ [',', ']', '\x7d'], c.isDigit = false ∧ c ≠ '.' ∧ c ≠ 'e' ∧ c ≠ 'E' := by
    simp [Char.isDigit]
  exact hall c hc

lemma Delimits.stops {rest : List Char} (h : Delimits rest) : Numeral.Stops rest
    ∧ rest.head? ≠ some '.' ∧ Numeral.readExponent rest = some (none, rest) := by
  cases rest with
  | nil => exact ⟨Numeral.stops_nil, nofun, rfl⟩
  | cons c rest =>
      obtain ⟨hdigit, hpoint, hlower, hupper⟩ := delimiter_ends (h c rfl)
      refine ⟨Numeral.stops_cons hdigit rest, fun hhead => hpoint (Option.some.inj hhead), ?_⟩
      rw [Numeral.readExponent, if_neg (not_or.mpr ⟨hlower, hupper⟩)]

lemma readUnsigned_digitsOf (negative : Bool) (n : Nat) {rest : List Char}
    (hrest : Delimits rest) : Numeral.readUnsigned negative (digitsOf n ++ rest)
      = some (⟨negative, digitsOf n, [], none⟩, rest) := by
  obtain ⟨hstops, hpoint, hexponent⟩ := hrest.stops
  have hform := Numeral.ofInteger_wellFormed n
  have hwhole : Numeral.readWhole (digitsOf n ++ rest) = some (digitsOf n, rest) :=
    Numeral.readWhole_append hform.whole_digits hform.whole_ne_nil hform.whole_zero hstops
  have hfraction : Numeral.readFraction rest = some ([], rest) :=
    Numeral.readFraction_append (List.forall_mem_nil _) hstops hpoint
  exact Numeral.readUnsigned_eq hwhole hfraction hexponent

/-- An integer begins with a digit or with a sign. -/
lemma writeInteger_head (n : Int) : ∃ c tail, writeInteger n = c :: tail
    ∧ (c.isDigit = true ∨ c = '-') := by
  cases n with
  | ofNat n =>
      obtain ⟨c, tail, htext⟩ := List.exists_cons_of_ne_nil (digitsOf_ne_nil n)
      have hdigit : c.isDigit = true :=
        isDigit_of_mem_digitsOf (htext ▸ List.mem_cons_self : c ∈ digitsOf n)
      exact ⟨c, tail, htext, .inl hdigit⟩
  | negSucc n => exact ⟨'-', digitsOf (n + 1), rfl, .inr rfl⟩

/-- An integer is read back up to its last digit. -/
lemma read_writeInteger_append (n : Int) {rest : List Char} (hrest : Delimits rest) :
    Numeral.read (writeInteger n ++ rest) = some (Numeral.ofInteger n, rest) := by
  cases n with
  | ofNat n =>
      have hsign : (digitsOf n ++ rest).head? ≠ some '-' := by
        rw [List.head?_append_of_ne_nil _ (digitsOf_ne_nil n)]
        intro hhead
        have hdigit := isDigit_of_mem_digitsOf (List.mem_of_head? hhead)
        cases hdigit
      rw [writeInteger, Numeral.read_of_head_ne hsign, readUnsigned_digitsOf false n hrest]
      rfl
  | negSucc n =>
      have hnegative : decide (Int.negSucc n < 0) = true := decide_eq_true (Int.negSucc_lt_zero n)
      rw [writeInteger, List.cons_append, Numeral.read_minus, readUnsigned_digitsOf true _ hrest,
        Numeral.ofInteger, hnegative]
      rfl

/-- Digits are collected as long as the number that they stand for fits. -/
lemma addWhole_eq {taken digits : List Char}
    (h : digitsValue (taken ++ digits) ≤ significandLimit) :
    (Significand.mk (digitsValue taken) 0).addWhole digits
      = ⟨digitsValue (taken ++ digits), 0⟩ := by
  induction digits generalizing taken with
  | nil => rw [List.append_nil]; rfl
  | cons c digits ih =>
      have hnext : digitsValue taken * 10 + digitValue c = digitsValue (taken ++ [c]) := by
        rw [digitsValue_append]
        simp [digitsValue]
      have hsplit : taken ++ c :: digits = taken ++ [c] ++ digits := by simp
      rw [hsplit] at h ⊢
      have hfits : digitsValue (taken ++ [c]) ≤ significandLimit := by
        refine le_trans ?_ h
        rw [digitsValue_append (taken ++ [c])]
        exact (Nat.le_mul_of_pos_right _ (by positivity)).trans (Nat.le_add_right _ _)
      rw [Significand.addWhole, Significand.fits, hnext, if_pos (decide_eq_true hfits)]
      exact ih h

lemma ofNumeral_ofInteger {n : Int} (h : Fits n) :
    ofNumeral (Numeral.ofInteger n) = some (integer n) := by
  obtain ⟨hlow, hhigh⟩ := h
  have hvalue : digitsValue ([] ++ digitsOf n.natAbs) = n.natAbs := digitsValue_digitsOf _
  have hlimit : digitsValue ([] ++ digitsOf n.natAbs) ≤ significandLimit := by
    rw [hvalue, significandLimit]
    omega
  have hwhole : (Significand.mk 0 0).addWhole (digitsOf n.natAbs) = ⟨n.natAbs, 0⟩ :=
    (addWhole_eq hlimit).trans (by rw [hvalue])
  simp only [ofNumeral, Numeral.ofInteger, hwhole, if_true]
  by_cases hnegative : n < 0
  · have hmagnitude : ¬ (n.natAbs = 0 ∨ negativeLimit < n.natAbs) := by
      rw [negativeLimit]
      omega
    rw [if_neg (by simpa using hnegative), if_neg hmagnitude]
    congr 2
    omega
  · rw [if_pos (by simpa using hnegative)]
    congr 2
    omega

/-- An integer does not begin like anything else. -/
lemma integer_head_ne {c d : Char} (hc : c.isDigit = true ∨ c = '-')
    (hd : d ∈ [' ', '\n', '\t', '\r', '"', 'n', 't', 'f', '[', ']', '\x7b', '\x7d']) : c ≠ d := by
  have hother : ∀ d ∈ [' ', '\n', '\t', '\r', '"', 'n', 't', 'f', '[', ']', '\x7b', '\x7d'],
      ¬ (d.isDigit = true ∨ d = '-') := by
    simp [Char.isDigit]
  rintro rfl
  exact hother c hd hc

lemma opens_writeInteger (n : Int) : Opens (writeInteger n) := by
  obtain ⟨c, tail, htext, hc⟩ := writeInteger_head n
  have hspace : isSpace c = false := by
    rw [isSpace]
    simp [integer_head_ne hc]
  have hclose : c ∉ [']', '\x7d'] := by simp [integer_head_ne hc]
  rw [htext]
  exact opens_cons hspace hclose tail

/-- Integers of 64 bits are read back. -/
lemma reads_integer {n : Int} (h : Fits n) : Reads readNumber (writeInteger n) (integer n) where
  opens := opens_writeInteger n
  takes rest hrest := by
    rw [readNumber, ((opens_writeInteger n).append rest).skipSpace_eq,
      read_writeInteger_append n hrest]
    simp [ofNumeral_ofInteger h]

/-! ### Lists -/

section Lists

variable {α : Type} {item : Reader α} {writer : α → List Char} {close : Char} {x : α} {xs : List α}

lemma close_ends (hclose : close ∈ [']', '\x7d']) : isSpace close = false ∧ close ≠ ',' := by
  have hall : ∀ c ∈ [']', '\x7d'], isSpace c = false ∧ c ≠ ',' := by simp [isSpace]
  exact hall close hclose

/-- A list has as many parts as characters at most, if no part is empty. -/
lemma length_le_writeCommas {parts : List (List Char)} (h : ∀ part ∈ parts, Opens part) :
    parts.length ≤ (writeCommas parts).length := by
  induction parts using writeCommas.induct with
  | case1 => exact Nat.zero_le _
  | case2 part =>
      rw [writeCommas]
      exact List.length_pos_iff.mpr (h part List.mem_cons_self).ne_nil
  | case3 part next parts ih =>
      have hnext := ih fun part hpart => h part (List.mem_cons_of_mem _ hpart)
      simp only [writeCommas, List.length_append, List.length_cons] at hnext ⊢
      omega

/-- A list that has parts does not begin like its end, and it has characters enough to be read part
by part. -/
lemma exists_cons_writeCommas (hclose : close ∈ [']', '\x7d']) {part : List Char}
    {parts : List (List Char)} (h : ∀ p ∈ part :: parts, Opens p) (rest : List Char) :
    ∃ c tail, writeCommas (part :: parts) ++ close :: rest = c :: tail ∧ isSpace c = false
      ∧ c ≠ close ∧ (part :: parts).length ≤ (c :: tail).length := by
  have hpart : Opens part := h part List.mem_cons_self
  have hopens : Opens (writeCommas (part :: parts)) := by
    cases parts with
    | nil => exact hpart
    | cons next parts => exact hpart.append _
  obtain ⟨c, tail, htext, hspace, hc⟩ := hopens.append (close :: rest)
  refine ⟨c, tail, htext, hspace, fun heq => hc (heq ▸ hclose), ?_⟩
  rw [← htext, List.length_append]
  exact (length_le_writeCommas h).trans (Nat.le_add_right _ _)

/-- A closing bracket is the last thing that is read of a list. -/
lemma readItems_last (hclose : close ∈ [']', '\x7d']) (hx : Reads item (writer x) x) (n : Nat)
    (rest : List Char) :
    readItems close item (n + 1) (writer x ++ close :: rest) = some ([x], rest) := by
  have hend : Delimits (close :: rest) := delimits_cons (List.mem_cons_of_mem _ hclose) rest
  have hspace : skipSpace (close :: rest) = close :: rest :=
    skipSpace_cons (close_ends hclose).1 rest
  simp [readItems, hx.takes _ hend, hspace, (close_ends hclose).2]

/-- Behind a comma there is more to read. -/
lemma readItems_more (close : Char) (hx : Reads item (writer x) x) (n : Nat) (rest : List Char) :
    readItems close item (n + 1) (writer x ++ ',' :: rest)
      = (readItems close item n rest).map fun read => (x :: read.1, read.2) := by
  have hspace : skipSpace (',' :: rest) = ',' :: rest := skipSpace_cons rfl rest
  simp only [readItems, hx.takes _ (delimits_cons List.mem_cons_self rest), hspace,
    Option.bind_eq_bind, Option.bind_some, if_true]
  cases readItems close item n rest with
  | none => rfl
  | some read => rfl

/-- Items with commas between them are read one after the other, up to the closing bracket. -/
lemma readItems_writeCommas (hclose : close ∈ [']', '\x7d'])
    (h : ∀ y ∈ x :: xs, Reads item (writer y) y) {n : Nat} (hn : xs.length < n)
    (rest : List Char) :
    readItems close item n (writeCommas ((x :: xs).map writer) ++ close :: rest)
      = some (x :: xs, rest) := by
  obtain ⟨hx, hxs⟩ := List.forall_mem_cons.mp h
  induction xs generalizing x n with
  | nil =>
      cases n with
      | zero => cases hn
      | succ n => exact readItems_last hclose hx n rest
  | cons y xs ih =>
      cases n with
      | zero => cases hn
      | succ n =>
          have hmore := ih hxs (Nat.lt_of_succ_lt_succ hn) (hxs y List.mem_cons_self)
            fun z hz => hxs z (List.mem_cons_of_mem _ hz)
          rw [List.map_cons, List.map_cons, writeCommas, List.append_assoc, List.cons_append,
            readItems_more close hx, ← List.map_cons, hmore]
          rfl

/-- **The items of a list are read back.** -/
lemma readList_writeCommas (hclose : close ∈ [']', '\x7d'])
    (h : ∀ x ∈ xs, Reads item (writer x) x) (rest : List Char) :
    readList close item (writeCommas (xs.map writer) ++ close :: rest) = some (xs, rest) := by
  cases xs with
  | nil =>
      rw [List.map_nil, writeCommas, List.nil_append, readList,
        skipSpace_cons (close_ends hclose).1]
      exact if_pos rfl
  | cons x xs =>
      have hopens : ∀ part ∈ (x :: xs).map writer, Opens part := by
        intro part hpart
        obtain ⟨y, hy, rfl⟩ := List.mem_map.mp hpart
        exact (h y hy).opens
      obtain ⟨c, tail, htext, hspace, hopen, hsteps⟩ := exists_cons_writeCommas hclose hopens rest
      rw [List.length_cons, List.length_map] at hsteps
      have hitems := readItems_writeCommas hclose h hsteps rest
      rw [List.map_cons, htext] at hitems ⊢
      rw [readList, skipSpace_cons hspace]
      dsimp only
      rw [if_neg hopen, hitems]

/-- A member is read as its key and its value. -/
lemma Reads.member {reader : Reader α} {value : List Char} (h : Reads reader value x)
    (key : String) : Reads (readMember readText reader) (writeMember key value) (key, x) where
  opens := opens_writeMember key value
  takes rest hrest := by
    have hspace : skipSpace (':' :: (value ++ rest)) = ':' :: (value ++ rest) :=
      skipSpace_cons rfl _
    rw [writeMember, List.append_assoc, List.cons_append, readMember, readText_writeText]
    simp [hspace, h.takes rest hrest]

end Lists

/-! ### What fields hold -/

section Fields

variable {α : Type} {reader : Reader α} {writer : α → List Char} {text : List Char} {x : α}

/-- A value that may be missing is read back if it is not written like null. -/
lemma reads_optional (o : Option α)
    (h : ∀ x ∈ o, Reads reader (writer x) x ∧ (writer x).head? ≠ some 'n') :
    Reads (optional reader) (writeOptional writer o) o := by
  cases o with
  | none => exact ⟨opens_cons rfl (by decide) _, fun rest _ => rfl⟩
  | some x =>
      obtain ⟨hx, hnull⟩ := h x rfl
      refine ⟨hx.opens, fun rest hrest => ?_⟩
      obtain ⟨c, tail, htext, hspace, -⟩ := hx.opens
      have hopen : c ≠ 'n' := by
        rintro rfl
        exact hnull (by rw [htext]; rfl)
      have hread := hx.takes rest hrest
      rw [writeOptional, optional, (hx.opens.append rest).skipSpace_eq]
      split
      · next other heq =>
          rw [htext] at heq
          exact absurd (List.cons.inj heq).1 hopen
      · rw [hread]
        rfl

/-- An array is read back. -/
lemma reads_readArray {xs : List α} (h : ∀ x ∈ xs, Reads reader (writer x) x) :
    Reads (readArray (some reader)) (writeArray (xs.map writer)) xs where
  opens := opens_writeArray _
  takes rest _ := by
    have hspace : ∀ s, skipSpace ('[' :: s) = '[' :: s := skipSpace_cons rfl
    rw [writeArray, List.cons_append, List.cons_append, List.append_assoc, readArray, hspace]
    exact readList_writeCommas (by decide) h rest

/-- The entries of a dictionary are read back. -/
lemma readList_entries {entries : List (String × α)}
    (h : ∀ entry ∈ entries, Reads reader (writer entry.2) entry.2) (rest : List Char) :
    readList '\x7d' (readMember readText reader)
        (writeCommas (entries.map fun entry => writeMember entry.1 (writer entry.2))
          ++ '\x7d' :: rest)
      = some (entries, rest) :=
  readList_writeCommas (by decide) (fun entry hentry => (h entry hentry).member entry.1) rest

/-- A dictionary is read back. -/
lemma reads_readMap (d : Dictionary α)
    (h : ∀ entry ∈ d.entries, Reads reader (writer entry.2) entry.2) :
    Reads (readMap (some reader))
      (writeObject (d.entries.map fun entry => writeMember entry.1 (writer entry.2))) d where
  opens := opens_writeObject _
  takes rest _ := by
    have hspace : ∀ s, skipSpace ('\x7b' :: s) = '\x7b' :: s := skipSpace_cons rfl
    rw [writeObject, List.cons_append, List.cons_append, List.append_assoc, readMap, hspace]
    show (readList '\x7d' (readMember readText reader) _).map _ = _
    rw [List.singleton_append, readList_entries h, Option.map_some, Dictionary.ofList_entries]

/-- A value that stands alone is read back. -/
lemma Reads.readAll_eq (h : Reads reader text x) : readAll reader text = some x := by
  have hread := h.takes [] delimits_nil
  rw [List.append_nil] at hread
  rw [readAll, hread]
  rfl

end Fields

end AskSql.Json
