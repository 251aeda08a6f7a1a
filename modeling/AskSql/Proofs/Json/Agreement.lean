import AskSql.Proofs.Json.Values

/-!
Readers that agree with each other.

The fields of a record are read by readers of their own, each of which knows what it looks for,
while `readValue` reads whatever value stands there. Where both take something from the front of a
text, they end at the same place, and what the one has read tells what the other has. So the fields
of a record can be compared with the members of the value that the same text stands for.

* `Agree`: where both readers take something, they leave the same, and what they read is related.
* `Agree.readItems`, `Agree.readList`, `Agree.readMember`: lists and members of what agrees.
* `agree_skipNested`: passing over a value ends where the value ends.
* `agree_readText`, `agree_readBool`, `agree_optional`, `agree_readArray`, `agree_readMap`: what
  fields hold, as values.
-/

namespace AskSql.Json

open AskSql.Decimal

/-- Where both readers take something from the front of a text, they leave the same, and what they
have read is related. -/
def Agree {α β : Type} (R : α → β → Prop) (reader : Reader α) (other : Reader β) : Prop :=
  ∀ ⦃s x rest y rest'⦄, reader s = some (x, rest) → other s = some (y, rest') →
    rest' = rest ∧ R x y

/-! ### Lists -/

section Lists

variable {α β κ γ : Type} {R : α → β → Prop} {S : κ → γ → Prop} {reader : Reader α}
  {other : Reader β} {key : Reader κ} {name : Reader γ} {close : Char}

lemma Agree.refl (reader : Reader α) : Agree Eq reader reader := by
  intro s x rest y rest' hx hy
  obtain ⟨rfl, rfl⟩ := Prod.mk.inj (Option.some.inj (hx.symm.trans hy))
  exact ⟨rfl, rfl⟩

/-- What follows an item of a list: a comma and more items, or the end. -/
def readMore (close : Char) (item : Reader α) (n : Nat) (s : List Char) :
    Option (List α × List Char) :=
  match skipSpace s with
  | [] => none
  | c :: s =>
      if c = ',' then readItems close item n s else if c = close then some ([], s) else none

lemma readItems_succ (close : Char) (item : Reader α) (n : Nat) (s : List Char) :
    readItems close item (n + 1) s = (item s).bind fun read =>
      (readMore close item n read.2).map fun more => (read.1 :: more.1, more.2) := by
  rw [readItems]
  cases item s with
  | none => rfl
  | some read =>
      simp only [Option.bind_eq_bind, Option.bind_some, readMore]
      cases skipSpace read.2 with
      | nil => rfl
      | cons c tail =>
          dsimp only
          split_ifs
          · cases readItems close item n tail <;> rfl
          · rfl
          · rfl

/-- A list goes on behind a comma, and it ends with the closing bracket. -/
lemma readMore_eq_some {n : Nat} {s rest : List Char} {xs : List α}
    (h : readMore close reader n s = some (xs, rest)) :
    (∃ tail, skipSpace s = ',' :: tail ∧ readItems close reader n tail = some (xs, rest))
      ∨ (skipSpace s = close :: rest ∧ close ≠ ',' ∧ xs = []) := by
  rw [readMore] at h
  split at h
  · cases h
  · next c tail hs =>
      split_ifs at h with hcomma hclose
      · exact .inl ⟨tail, hcomma ▸ hs, h⟩
      · obtain ⟨rfl, rfl⟩ := Prod.mk.inj (Option.some.inj h)
        exact .inr ⟨hclose ▸ hs, hclose ▸ hcomma, rfl⟩

lemma readItems_eq_some {n : Nat} {s rest : List Char} {xs : List α}
    (h : readItems close reader n s = some (xs, rest)) :
    ∃ m x next more, n = m + 1 ∧ reader s = some (x, next)
      ∧ readMore close reader m next = some (more, rest) ∧ xs = x :: more := by
  cases n with
  | zero => cases h
  | succ n =>
      rw [readItems_succ] at h
      obtain ⟨⟨x, next⟩, hx, h⟩ := Option.bind_eq_some_iff.mp h
      obtain ⟨⟨more, rest'⟩, hmore, heq⟩ := Option.map_eq_some_iff.mp h
      obtain ⟨rfl, rfl⟩ := Prod.mk.inj heq
      exact ⟨n, x, next, more, rfl, hx, hmore, rfl⟩

/-- Items that agree make lists that agree, however many steps either reader has left. -/
lemma Agree.readItems (h : Agree R reader other) (close : Char) (n m : Nat) :
    Agree (List.Forall₂ R) (readItems close reader n) (readItems close other m) := by
  intro s xs rest ys rest' hxs hys
  induction n generalizing m s xs ys with
  | zero => cases hxs
  | succ n ih =>
      obtain ⟨n, x, next, more, heq, hx, hmore, rfl⟩ := readItems_eq_some hxs
      obtain ⟨m, y, next', more', rfl, hy, hmore', rfl⟩ := readItems_eq_some hys
      obtain rfl := Nat.succ.inj heq
      obtain ⟨rfl, hxy⟩ := h hx hy
      obtain ⟨tail, hs, hmore⟩ | ⟨hs, hclose, rfl⟩ := readMore_eq_some hmore
      · obtain ⟨tail', hs', hmore'⟩ | ⟨hs', hclose, -⟩ := readMore_eq_some hmore'
        · obtain ⟨-, rfl⟩ := List.cons.inj (hs.symm.trans hs')
          obtain ⟨hrest, hitems⟩ := ih m hmore hmore'
          exact ⟨hrest, .cons hxy hitems⟩
        · exact absurd (List.cons.inj (hs.symm.trans hs')).1.symm hclose
      · obtain ⟨tail', hs', -⟩ | ⟨hs', -, rfl⟩ := readMore_eq_some hmore'
        · exact absurd (List.cons.inj (hs.symm.trans hs')).1 hclose
        · exact ⟨(List.cons.inj (hs'.symm.trans hs)).2, .cons hxy .nil⟩

lemma Agree.readList (h : Agree R reader other) (close : Char) :
    Agree (List.Forall₂ R) (readList close reader) (readList close other) := by
  intro s xs rest ys rest' hxs hys
  rw [Json.readList] at hxs hys
  split at hxs
  · cases hxs
  · next c tail hs =>
      rw [hs] at hys
      dsimp only at hys
      split_ifs at hxs hys
      · obtain ⟨rfl, rfl⟩ := Prod.mk.inj (Option.some.inj hxs)
        obtain ⟨rfl, rfl⟩ := Prod.mk.inj (Option.some.inj hys)
        exact ⟨rfl, .nil⟩
      · exact h.readItems close _ _ hxs hys

lemma readMember_eq_some {s rest : List Char} {k : κ} {x : α}
    (h : readMember key reader s = some ((k, x), rest)) :
    ∃ next tail, key s = some (k, next) ∧ skipSpace next = ':' :: tail
      ∧ reader tail = some (x, rest) := by
  rw [readMember] at h
  obtain ⟨⟨k, next⟩, hk, h⟩ := Option.bind_eq_some_iff.mp h
  dsimp only at h
  split at h
  · next tail hs =>
      obtain ⟨⟨x, rest⟩, hx, heq⟩ := Option.bind_eq_some_iff.mp h
      cases heq
      exact ⟨next, tail, hk, hs, hx⟩
  · cases h

/-- Members agree if their keys and their values do. -/
lemma Agree.readMember (hkey : Agree S key name) (h : Agree R reader other) :
    Agree (fun member member' => S member.1 member'.1 ∧ R member.2 member'.2)
      (readMember key reader) (readMember name other) := by
  intro s x rest y rest' hx hy
  obtain ⟨next, tail, hk, hs, hx⟩ := readMember_eq_some hx
  obtain ⟨next', tail', hk', hs', hy⟩ := readMember_eq_some hy
  obtain ⟨rfl, hS⟩ := hkey hk hk'
  obtain ⟨-, rfl⟩ := List.cons.inj (hs.symm.trans hs')
  obtain ⟨hrest, hR⟩ := h hx hy
  exact ⟨hrest, hS, hR⟩

end Lists

/-! ### Values by their first character -/

section First

variable {s rest : List Char} {c : Char}

lemma skipSpace_skipSpace (s : List Char) : skipSpace (skipSpace s) = skipSpace s :=
  List.dropWhile_idempotent _ _

lemma readText_skipSpace (s : List Char) : readText (skipSpace s) = readText s := by
  rw [readText, skipSpace_skipSpace, readText]

lemma readValue_skipSpace (depth : Nat) (s : List Char) :
    readValue depth (skipSpace s) = readValue depth s := by
  rw [readValue_eq, readOne, skipSpace_skipSpace, readOne]

variable {inner : Option (Reader Json)} {v : Json} {rest' : List Char}

lemma readOne_of_quote (hs : skipSpace s = '"' :: rest) :
    readOne inner s = (readText s).map fun read => (text read.1, read.2) := by
  rw [readOne, hs]
  dsimp only
  rw [if_pos rfl, ← hs, readText_skipSpace]

lemma readOne_of_null (hs : skipSpace s = 'n' :: rest) :
    readOne inner s = (readWord ['u', 'l', 'l'] rest).map fun read => (null, read.2) := by
  simp [readOne, hs]

lemma readOne_of_true (hs : skipSpace s = 't' :: rest) :
    readOne inner s = (readWord ['r', 'u', 'e'] rest).map fun read => (bool true, read.2) := by
  simp [readOne, hs]

lemma readOne_of_false (hs : skipSpace s = 'f' :: rest) :
    readOne inner s
      = (readWord ['a', 'l', 's', 'e'] rest).map fun read => (bool false, read.2) := by
  simp [readOne, hs]

/-- Behind an opening bracket a value is an array. -/
lemma readOne_of_bracket (hs : skipSpace s = '[' :: rest) (h : readOne inner s = some (v, rest')) :
    ∃ item, inner = some item ∧ ∃ items, readList ']' item rest = some (items, rest')
      ∧ array items = v := by
  simpa [readOne, hs, Option.bind_eq_some_iff] using h

/-- Behind an opening brace it is an object. -/
lemma readOne_of_brace (hs : skipSpace s = '\x7b' :: rest) (h : readOne inner s = some (v, rest')) :
    ∃ item, inner = some item
      ∧ ∃ members, readList '\x7d' (readMember readText item) rest = some (members, rest')
        ∧ ofDictionary (Dictionary.ofList members) = v := by
  simpa [readOne, hs, Option.bind_eq_some_iff] using h

end First

/-! ### Passing over values -/

section Skipping

variable {s rest rest' : List Char} {c : Char}

/-- The number behind an escape is one of the plane, or the first of a pair. -/
lemma readUnicodeEscape_eq_some {c' : Char} (h : readUnicodeEscape s = some (c', rest)) :
    ∃ n next, readHex s = some (n, next)
      ∧ (rest = next
        ∨ ∃ tail low, next = '\\' :: 'u' :: tail ∧ readHex tail = some (low, rest)) := by
  rw [readUnicodeEscape] at h
  obtain ⟨⟨n, next⟩, hn, h⟩ := Option.bind_eq_some_iff.mp h
  refine ⟨n, next, hn, ?_⟩
  dsimp only at h
  split_ifs at h
  · split at h
    · next tail =>
        obtain ⟨⟨low, after⟩, hlow, h⟩ := Option.bind_eq_some_iff.mp h
        dsimp only at h
        split_ifs at h
        obtain ⟨-, rfl⟩ := Prod.mk.inj (Option.some.inj h)
        exact .inr ⟨tail, low, rfl, hlow⟩
    · cases h
  · obtain ⟨-, rfl⟩ := Prod.mk.inj (Option.some.inj h)
    exact .inl rfl

lemma skipTextBody_unicode (n : Nat) (s : List Char) :
    skipTextBody (n + 1) ('\\' :: 'u' :: s)
      = (readHex s).bind fun read => skipTextBody n read.2 := rfl

lemma skipTextBody_short (n : Nat) (hc : c ≠ 'u') (s : List Char) :
    skipTextBody (n + 1) ('\\' :: c :: s) = (shortEscape c).bind fun _ => skipTextBody n s := by
  simp [skipTextBody]

lemma skipTextBody_plain (n : Nat) (hquote : c ≠ '"') (hslash : c ≠ '\\')
    (hcontrol : ¬ c.toNat < 0x20) (s : List Char) :
    skipTextBody (n + 1) (c :: s) = skipTextBody n s := by
  rw [skipTextBody.eq_def]
  dsimp only
  rw [if_neg hquote, if_neg hslash, if_neg hcontrol]

lemma skipTextBody_quote (n : Nat) (s : List Char) :
    skipTextBody (n + 1) ('"' :: s) = some ((), s) := rfl

/-- A character that can be read from a text is passed over, in two steps if it is a pair. -/
lemma skipTextBody_of_readChar {n : Nat} {c' : Char} (hquote : c ≠ '"')
    (hread : readChar c s = some (c', rest)) (hskip : skipTextBody n (c :: s) = some ((), rest')) :
    ∃ m, skipTextBody m rest = some ((), rest') := by
  cases n with
  | zero => cases hskip
  | succ n =>
      rw [readChar.eq_def] at hread
      split_ifs at hread with hslash hcontrol
      · subst hslash
        split at hread
        · next tail =>
            obtain ⟨k, next, hk, hrest⟩ := readUnicodeEscape_eq_some hread
            rw [skipTextBody_unicode, hk, Option.bind_some] at hskip
            obtain rfl | ⟨tail, low, rfl, hlow⟩ := hrest
            · exact ⟨n, hskip⟩
            · cases n with
              | zero => cases hskip
              | succ n =>
                  rw [skipTextBody_unicode, hlow, Option.bind_some] at hskip
                  exact ⟨n, hskip⟩
        · next d tail hd =>
            obtain ⟨e, he, heq⟩ := Option.map_eq_some_iff.mp hread
            cases heq
            rw [skipTextBody_short n hd, he, Option.bind_some] at hskip
            exact ⟨n, hskip⟩
        · cases hread
      · cases hread
        rw [skipTextBody_plain n hquote hslash hcontrol] at hskip
        exact ⟨n, hskip⟩

/-- The end of a text is found whether it is read or passed over. -/
lemma skipTextBody_of_readTextBody {n m : Nat} {body : List Char}
    (hread : readTextBody n s = some (body, rest)) (hskip : skipTextBody m s = some ((), rest')) :
    rest' = rest := by
  induction n generalizing m s body with
  | zero => cases hread
  | succ n ih =>
      cases s with
      | nil => cases hread
      | cons c s =>
          rw [readTextBody] at hread
          split_ifs at hread with hquote
          · cases hread
            cases m with
            | zero => cases hskip
            | succ m =>
                rw [hquote, skipTextBody_quote] at hskip
                cases hskip
                rfl
          · obtain ⟨⟨d, next⟩, hd, hread⟩ := Option.bind_eq_some_iff.mp hread
            obtain ⟨⟨body, after⟩, hbody, heq⟩ := Option.bind_eq_some_iff.mp hread
            cases heq
            obtain ⟨m, hskip⟩ := skipTextBody_of_readChar hquote hd hskip
            exact ih hbody hskip

lemma agree_skipText : Agree (fun _ _ => True) skipText readText := by
  intro s x rest y rest' hx hy
  rw [readText] at hy
  rw [skipText] at hx
  split at hx
  · next tail hs =>
      rw [hs] at hy
      obtain ⟨read, hread, heq⟩ := Option.map_eq_some_iff.mp hy
      cases heq
      exact ⟨(skipTextBody_of_readTextBody hread hx).symm, trivial⟩
  · cases hx

lemma deeper_eq_some {α : Type} {reader : Nat → Reader α} {item : Reader α} {depth : Nat}
    (h : deeper reader depth = some item) : ∃ inner, depth = inner + 1 ∧ item = reader inner := by
  cases depth with
  | zero => cases h
  | succ depth => exact ⟨depth, rfl, (Option.some.inj h).symm⟩

lemma readNumber_eq_some {v : Json} (h : readNumber s = some (v, rest)) :
    ∃ n, Numeral.read (skipSpace s) = some (n, rest) := by
  rw [readNumber] at h
  obtain ⟨⟨n, next⟩, hn, h⟩ := Option.bind_eq_some_iff.mp h
  obtain ⟨value, -, heq⟩ := Option.bind_eq_some_iff.mp h
  cases heq
  exact ⟨n, hn⟩

/-- **Passing over a value ends where the value ends.** -/
lemma agree_skipNested (n depth : Nat) :
    Agree (fun _ _ => True) (skipNested n) (readValue depth) := by
  intro s x rest v rest' hx hv
  refine ⟨?_, trivial⟩
  induction n generalizing depth s x rest v rest' with
  | zero => cases hx
  | succ n ih =>
      have hinner : ∀ depth, Agree (fun _ _ => True) (skipNested n) (readValue depth) :=
        fun depth s x rest v rest' hx hv => ⟨ih depth hx hv, trivial⟩
      rw [readValue_eq] at hv
      rw [skipNested, skipOne] at hx
      cases hs : skipSpace s with
      | nil => simp [readOne, hs] at hv
      | cons c tail =>
          rw [hs] at hx
          dsimp only at hx
          split_ifs at hx with hquote hnull htrue hfalse hbracket hbrace
          · subst hquote
            obtain ⟨read, hread, heq⟩ := Option.map_eq_some_iff.mp (readOne_of_quote hs ▸ hv)
            cases heq
            rw [← hs] at hx
            rw [← readText_skipSpace] at hread
            exact (agree_skipText hx hread).1
          · subst hnull
            rw [readOne_of_null hs, hx] at hv
            cases hv
            rfl
          · subst htrue
            rw [readOne_of_true hs, hx] at hv
            cases hv
            rfl
          · subst hfalse
            rw [readOne_of_false hs, hx] at hv
            cases hv
            rfl
          · subst hbracket
            obtain ⟨item, hitem, items, hitems, -⟩ := readOne_of_bracket hs hv
            obtain ⟨depth, rfl, rfl⟩ := deeper_eq_some hitem
            obtain ⟨read, hread, heq⟩ := Option.map_eq_some_iff.mp hx
            cases heq
            exact ((hinner depth).readList ']' hread hitems).1
          · subst hbrace
            obtain ⟨item, hitem, members, hmembers, -⟩ := readOne_of_brace hs hv
            obtain ⟨depth, rfl, rfl⟩ := deeper_eq_some hitem
            obtain ⟨read, hread, heq⟩ := Option.map_eq_some_iff.mp hx
            cases heq
            exact ((agree_skipText.readMember (hinner depth)).readList '\x7d' hread hmembers).1
          · obtain ⟨read, hread, heq⟩ := Option.map_eq_some_iff.mp hx
            cases heq
            rw [readOne, hs] at hv
            dsimp only at hv
            rw [if_neg hquote, if_neg hnull, if_neg htrue, if_neg hfalse, if_neg hbracket,
              if_neg hbrace] at hv
            obtain ⟨n, hn⟩ := readNumber_eq_some hv
            rw [← hs, skipSpace_skipSpace, hs, hread] at hn
            cases hn
            rfl

end Skipping

/-! ### What fields hold -/

section Fields

variable {α : Type} {R : α → Json → Prop} {reader : Reader α} (depth : Nat)

lemma agree_readText : Agree (fun s v => v = text s) readText (readValue depth) := by
  intro s x rest v rest' hx hv
  obtain ⟨tail, hs⟩ : ∃ tail, skipSpace s = '"' :: tail := by
    rw [readText] at hx
    split at hx
    · next tail hs => exact ⟨tail, hs⟩
    · cases hx
  rw [readValue_eq, readOne_of_quote hs, hx] at hv
  cases hv
  exact ⟨rfl, rfl⟩

lemma agree_readBool : Agree (fun b v => v = bool b) readBool (readValue depth) := by
  intro s x rest v rest' hx hv
  rw [readValue_eq] at hv
  rw [readBool] at hx
  split at hx
  · next tail hs =>
      obtain ⟨read, hread, heq⟩ := Option.map_eq_some_iff.mp hx
      rw [readOne_of_true hs, hread] at hv
      cases heq
      cases hv
      exact ⟨rfl, rfl⟩
  · next tail hs =>
      obtain ⟨read, hread, heq⟩ := Option.map_eq_some_iff.mp hx
      rw [readOne_of_false hs, hread] at hv
      cases heq
      cases hv
      exact ⟨rfl, rfl⟩
  · cases hx

/-- A value that may be missing is null, or else it is read. -/
lemma agree_optional (h : Agree R reader (readValue depth)) :
    Agree (fun o v => (o = none ∧ v = null) ∨ ∃ x, o = some x ∧ R x v) (optional reader)
      (readValue depth) := by
  intro s x rest v rest' hx hv
  rw [optional] at hx
  split at hx
  · next tail hs =>
      obtain ⟨read, hread, heq⟩ := Option.map_eq_some_iff.mp hx
      rw [readValue_eq, readOne_of_null hs, hread] at hv
      cases heq
      cases hv
      exact ⟨rfl, .inl ⟨rfl, rfl⟩⟩
  · obtain ⟨read, hread, heq⟩ := Option.map_eq_some_iff.mp hx
    cases heq
    rw [← readValue_skipSpace] at hv
    obtain ⟨hrest, hR⟩ := h hread hv
    exact ⟨hrest, .inr ⟨_, rfl, hR⟩⟩

lemma agree_readArray :
    Agree (fun items v => v = array items) (readArray (deeper readValue depth))
      (readValue depth) := by
  intro s x rest v rest' hx hv
  rw [readArray] at hx
  split at hx
  · next tail hs =>
      rw [readValue_eq] at hv
      obtain ⟨item, hitem, items, hitems, rfl⟩ := readOne_of_bracket hs hv
      rw [hitem, Option.bind_some, hitems] at hx
      cases hx
      exact ⟨rfl, rfl⟩
  · cases hx

lemma agree_readMap :
    Agree (fun _ _ => True) (readMap (deeper (fun _ => readText) depth)) (readValue depth) := by
  intro s x rest v rest' hx hv
  rw [readMap] at hx
  split at hx
  · next tail hs =>
      rw [readValue_eq] at hv
      obtain ⟨item, hitem, members, hmembers, -⟩ := readOne_of_brace hs hv
      obtain ⟨depth, rfl, rfl⟩ := deeper_eq_some hitem
      obtain ⟨read, hread, heq⟩ := Option.map_eq_some_iff.mp hx
      cases heq
      have hagree := ((Agree.refl readText).readMember (agree_readText depth)).readList '\x7d'
      exact ⟨(hagree hread hmembers).1, trivial⟩
  · cases hx

end Fields

end AskSql.Json
