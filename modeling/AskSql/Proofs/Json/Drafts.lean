import AskSql.Proofs.Json.Agreement

/-!
Records compared with the values that the same texts stand for.

A record is read into a draft, value after value, each under the name of its field: from an object
under the names of the members, from an array under the names of the fields in their order. Here one
place of the draft is followed. The field of one name fills it, and no other touches it, so in the
end it holds what was read last under that name, or what it held before.

* `Sets`: what a value that is read under a name does to the place.
* `Filled`: values that are read into a draft one after the other.
* `Filled.found`: what the place holds in the end.
* `FieldsAgree`: fields of which only the one of the name fills the place.
* `filled_readRecord`: a record is filled from the members or the items of the value.
-/

namespace AskSql.Json

variable {δ α γ : Type} {get : δ → Option α} {key : String} {R : α → Json → Prop}

/-! ### Values under names -/

/-- What a value that is read under a name does to one place of a draft: under its own name the
place holds what the value stands for, and under every other name it stays as it is. -/
def Sets (get : δ → Option α) (key : String) (R : α → Json → Prop) (name : String) (draft : δ)
    (value : Json) (next : δ) : Prop :=
  if name = key then ∃ x, get next = some x ∧ R x value else get next = get draft

lemma sets_self {draft next : δ} {value : Json} :
    Sets get key R key draft value next ↔ ∃ x, get next = some x ∧ R x value := by
  rw [Sets, if_pos rfl]

lemma sets_of_ne {name : String} (h : name ≠ key) {draft next : δ} {value : Json} :
    Sets get key R name draft value next ↔ get next = get draft := by
  rw [Sets, if_neg h]

/-- Values that are read into a draft under their names, one after the other. -/
inductive Filled (get : δ → Option α) (key : String) (R : α → Json → Prop) :
    δ → List (String × Json) → δ → Prop where
  | nil (draft : δ) : Filled get key R draft [] draft
  | cons {draft next final : δ} {name : String} {value : Json} {members : List (String × Json)}
      (h : Sets get key R name draft value next) (hrest : Filled get key R next members final) :
      Filled get key R draft ((name, value) :: members) final

/-- The place holds what was read last under its name, or else what it held before. -/
lemma Filled.found {draft final : δ} {members : List (String × Json)}
    (h : Filled get key R draft members final) :
    (members.reverse.lookup key = none ∧ get final = get draft)
      ∨ ∃ value x, members.reverse.lookup key = some value ∧ get final = some x ∧ R x value := by
  induction h with
  | nil draft => exact .inl ⟨rfl, rfl⟩
  | @cons draft next final name value members h hrest ih =>
      rw [List.reverse_cons, List.lookup_append, Dictionary.lookup_entry, List.lookup_nil]
      obtain ⟨hnone, hget⟩ | ⟨last, x, hlast, hget, hR⟩ := ih
      · rw [hnone, Option.none_or, hget]
        by_cases hname : name = key
        · subst hname
          obtain ⟨x, hx, hR⟩ := sets_self.mp h
          rw [if_pos rfl]
          exact .inr ⟨value, x, rfl, hx, hR⟩
        · rw [if_neg (Ne.symm hname)]
          exact .inl ⟨rfl, (sets_of_ne hname).mp h⟩
      · rw [hlast]
        exact .inr ⟨last, x, rfl, hget, hR⟩

/-! ### Fields -/

variable {fields : List (RecordField δ)} {depth : Nat}

/-- Fields that are read to the ends of values, and of which only those of one name fill a place. -/
def FieldsAgree (get : δ → Option α) (key : String) (R : α → Json → Prop) (depth : Nat)
    (fields : List (RecordField δ)) : Prop :=
  ∀ field ∈ fields, ∀ draft, Agree (fun next value => Sets get key R field.name draft value next)
    (field.read draft) (readValue depth)

/-- A field that is kept in one place of the draft is read as its reader reads. -/
lemma agree_of {β : Type} {S : β → Json → Prop} {name : String} {omissible : Bool}
    {get' : δ → Option β} {set : δ → β → δ} {reader : Reader β}
    (h : Agree S reader (readValue depth)) (draft : δ)
    (hsets : ∀ x value, S x value → Sets get key R name draft value (set draft x)) :
    Agree (fun next value => Sets get key R name draft value next)
      ((RecordField.of name omissible get' set reader).read draft) (readValue depth) := by
  intro s next rest value rest' hnext hvalue
  obtain ⟨read, hread, heq⟩ := Option.map_eq_some_iff.mp hnext
  cases heq
  obtain ⟨hrest, hS⟩ := h hread hvalue
  exact ⟨hrest, hsets _ _ hS⟩

/-- A member is read as its field is, and passed over if it has none. -/
lemma agree_readNamed (h : FieldsAgree get key R depth fields)
    (hkey : ∃ field ∈ fields, field.name = key) (draft : δ) (name : String) :
    Agree (fun next value => Sets get key R name draft value next) (readNamed fields draft name)
      (readValue depth) := by
  intro s next rest value rest' hnext hvalue
  rw [readNamed] at hnext
  cases hfind : fields.find? (fun field => field.name == name) with
  | none =>
      rw [hfind] at hnext
      obtain ⟨read, hread, heq⟩ := Option.map_eq_some_iff.mp hnext
      cases heq
      have hname : name ≠ key := by
        rintro rfl
        obtain ⟨field, hfield, hname⟩ := hkey
        exact List.find?_eq_none.mp hfind field hfield (beq_iff_eq.mpr hname)
      exact ⟨(agree_skipNested _ depth hread hvalue).1, (sets_of_ne hname).mpr rfl⟩
  | some field =>
      rw [hfind] at hnext
      have hname : field.name = name := by simpa using List.find?_some hfind
      dsimp only at hnext
      split_ifs at hnext
      obtain ⟨hrest, hsets⟩ := h field (List.mem_of_find?_eq_some hfind) draft hnext hvalue
      exact ⟨hrest, hname ▸ hsets⟩

/-! ### Members -/

section Members

variable {draft final : δ} {s rest rest' : List Char}

lemma readMembers_eq_some {n : Nat} (h : readMembers fields n draft s = some (final, rest)) :
    ∃ m name after tail next behind, n = m + 1 ∧ readText s = some (name, after)
      ∧ skipSpace after = ':' :: tail ∧ readNamed fields draft name tail = some (next, behind)
      ∧ ((∃ more, skipSpace behind = ',' :: more
          ∧ readMembers fields m next more = some (final, rest))
        ∨ (skipSpace behind = '\x7d' :: rest ∧ next = final)) := by
  cases n with
  | zero => cases h
  | succ n =>
      rw [readMembers] at h
      obtain ⟨⟨name, after⟩, hname, h⟩ := Option.bind_eq_some_iff.mp h
      dsimp only at h
      split at h
      · next tail hcolon =>
          obtain ⟨⟨next, behind⟩, hnext, h⟩ := Option.bind_eq_some_iff.mp h
          refine ⟨n, name, after, tail, next, behind, rfl, hname, hcolon, hnext, ?_⟩
          dsimp only at h
          split at h
          · next more hcomma => exact .inl ⟨more, hcomma, h⟩
          · next more hclose =>
              cases h
              exact .inr ⟨hclose, rfl⟩
          · cases h
      · cases h

/-- Blanks in front of a list may be passed over if they may be in front of its items. -/
lemma readItems_skipSpace {close : Char} {item : Reader α}
    (hitem : ∀ s, item (skipSpace s) = item s) (n : Nat) (s : List Char) :
    readItems close item n (skipSpace s) = readItems close item n s := by
  cases n with
  | zero => rfl
  | succ n => rw [readItems_succ, hitem, ← readItems_succ]

lemma readMember_skipSpace (reader : Reader α) (s : List Char) :
    readMember readText reader (skipSpace s) = readMember readText reader s := by
  rw [readMember, readText_skipSpace, ← readMember]

/-- The members of an object are read into the draft, each under its name. -/
lemma filled_readMembers (h : FieldsAgree get key R depth fields)
    (hkey : ∃ field ∈ fields, field.name = key) {n m : Nat} {members : List (String × Json)}
    (hfinal : readMembers fields n draft s = some (final, rest))
    (hmembers : readItems '\x7d' (readMember readText (readValue depth)) m s
      = some (members, rest')) :
    Filled get key R draft members final := by
  induction n generalizing m s draft members with
  | zero => cases hfinal
  | succ n ih =>
      obtain ⟨n, name, after, tail, next, behind, heq, hname, hcolon, hnext, hmore⟩ :=
        readMembers_eq_some hfinal
      obtain rfl := Nat.succ.inj heq
      obtain ⟨m, ⟨name', value⟩, after', others, rfl, hmember, hothers, rfl⟩ :=
        readItems_eq_some hmembers
      obtain ⟨before, tail', hname', hcolon', hvalue⟩ := readMember_eq_some hmember
      cases hname.symm.trans hname'
      cases hcolon.symm.trans hcolon'
      obtain ⟨rfl, hsets⟩ := agree_readNamed h hkey draft name hnext hvalue
      refine .cons hsets ?_
      obtain ⟨more, hcomma, hfinal⟩ | ⟨hclose, rfl⟩ := hmore
      · obtain ⟨more', hcomma', hothers⟩ | ⟨hclose, -, -⟩ := readMore_eq_some hothers
        · cases hcomma.symm.trans hcomma'
          exact ih hfinal hothers
        · cases hcomma.symm.trans hclose
      · obtain ⟨more', hcomma, -⟩ | ⟨-, -, rfl⟩ := readMore_eq_some hothers
        · cases hclose.symm.trans hcomma
        · exact .nil next

end Members

/-! ### Items -/

section Items

variable {draft final : δ} {s rest rest' : List Char} {items : List Json}

lemma readPositional_nil_eq_some {first : Bool}
    (h : readPositional first [] draft s = some (final, rest)) : draft = final := by
  rw [readPositional] at h
  dsimp only at h
  split at h
  · cases h
    rfl
  · cases h

/-- Behind an item the array ends, or the next field is read behind a comma. -/
lemma readPositional_more_eq_some {field : RecordField δ}
    (h : readPositional false (field :: fields) draft s = some (final, rest)) :
    (skipSpace s = ']' :: rest ∧ draft = final)
      ∨ ∃ tail next behind, skipSpace s = ',' :: tail ∧ field.read draft tail = some (next, behind)
        ∧ readPositional false fields next behind = some (final, rest) := by
  rw [readPositional] at h
  dsimp only at h
  split at h
  · next tail hs =>
      split_ifs at h
      cases h
      exact .inl ⟨hs, rfl⟩
  · next c tail hclose hs =>
      rw [if_neg Bool.false_ne_true] at h
      split_ifs at h with hcomma
      obtain ⟨⟨next, behind⟩, hnext, h⟩ := Option.bind_eq_some_iff.mp h
      exact .inr ⟨tail, next, behind, hcomma ▸ hs, hnext, h⟩
  · cases h

/-- The items of an array behind the first one are read into the draft, each under the name of its
field. -/
lemma filled_readPositional_more (h : FieldsAgree get key R depth fields) {n : Nat}
    (hfinal : readPositional false fields draft s = some (final, rest))
    (hitems : readMore ']' (readValue depth) n s = some (items, rest')) :
    Filled get key R draft ((fields.map RecordField.name).zip items) final := by
  induction fields generalizing n s draft items with
  | nil =>
      cases readPositional_nil_eq_some hfinal
      exact .nil _
  | cons field fields ih =>
      obtain ⟨hfield, hfields⟩ := List.forall_mem_cons.mp h
      obtain ⟨hclose, rfl⟩ | ⟨tail, next, behind, hcomma, hnext, hfinal⟩ :=
        readPositional_more_eq_some hfinal
      · obtain ⟨tail, hcomma, -⟩ | ⟨-, -, rfl⟩ := readMore_eq_some hitems
        · cases hclose.symm.trans hcomma
        · exact .nil draft
      · obtain ⟨tail', hcomma', hitems⟩ | ⟨hclose, -, -⟩ := readMore_eq_some hitems
        · cases hcomma.symm.trans hcomma'
          obtain ⟨n, value, behind', others, -, hvalue, hothers, rfl⟩ := readItems_eq_some hitems
          obtain ⟨rfl, hsets⟩ := hfield draft hnext hvalue
          exact .cons hsets (ih hfields hfinal hothers)
        · cases hcomma.symm.trans hclose

/-- The items of an array are read into the draft, each under the name of its field. -/
lemma filled_readPositional (h : FieldsAgree get key R depth fields)
    (hfinal : readPositional true fields draft s = some (final, rest))
    (hitems : readList ']' (readValue depth) s = some (items, rest')) :
    Filled get key R draft ((fields.map RecordField.name).zip items) final := by
  cases fields with
  | nil =>
      cases readPositional_nil_eq_some hfinal
      exact .nil draft
  | cons field fields =>
      obtain ⟨hfield, hfields⟩ := List.forall_mem_cons.mp h
      rw [readPositional] at hfinal
      rw [readList] at hitems
      dsimp only at hfinal
      split at hfinal
      · next tail hs =>
          rw [hs] at hitems
          split_ifs at hfinal
          cases hfinal
          cases hitems
          exact .nil draft
      · next c tail hclose hs =>
          rw [hs] at hitems
          dsimp only at hitems
          rw [if_neg hclose] at hitems
          rw [if_pos rfl] at hfinal
          obtain ⟨⟨next, behind⟩, hnext, hfinal⟩ := Option.bind_eq_some_iff.mp hfinal
          obtain ⟨n, value, behind', others, -, hvalue, hothers, rfl⟩ := readItems_eq_some hitems
          rw [← hs] at hnext
          rw [← readValue_skipSpace] at hvalue
          obtain ⟨rfl, hsets⟩ := hfield draft hnext hvalue
          exact .cons hsets (filled_readPositional_more hfields hfinal hothers)
      · cases hfinal

end Items

/-! ### Records -/

section Records

variable {fields : Nat → List (RecordField δ)} {draft : δ} {finish : δ → Option γ} {x : γ}
  {s rest rest' : List Char}

/-- A record is what a draft is finished to, filled from an object or from an array. -/
lemma readRecord_eq_some
    (h : readRecord fields draft finish (depth + 1) s = some (x, rest)) :
    ∃ final, finish final = some x
      ∧ ((∃ tail, skipSpace s = '\x7b' :: tail
          ∧ ((skipSpace tail = '\x7d' :: rest ∧ final = draft)
            ∨ ((∀ more, skipSpace tail ≠ '\x7d' :: more)
              ∧ readMembers (fields depth) (skipSpace tail).length draft (skipSpace tail)
                = some (final, rest))))
        ∨ ∃ tail, skipSpace s = '[' :: tail
          ∧ readPositional true (fields depth) draft tail = some (final, rest)) := by
  by_cases hbrace : ∃ tail, skipSpace s = '\x7b' :: tail
  · obtain ⟨tail, hs⟩ := hbrace
    simp only [readRecord, hs] at h
    split at h
    · next more hend =>
        obtain ⟨⟨y, _⟩, hy, heq⟩ := Option.bind_eq_some_iff.mp h
        cases hy
        obtain ⟨z, hz, heq⟩ := Option.bind_eq_some_iff.mp heq
        cases heq
        exact ⟨draft, hz, .inl ⟨tail, hs, .inl ⟨hend, rfl⟩⟩⟩
    · next hopen =>
        obtain ⟨⟨final, _⟩, hfinal, heq⟩ := Option.bind_eq_some_iff.mp h
        obtain ⟨z, hz, heq⟩ := Option.bind_eq_some_iff.mp heq
        cases heq
        exact ⟨final, hz, .inl ⟨tail, hs, .inr ⟨hopen, hfinal⟩⟩⟩
  · by_cases hbracket : ∃ tail, skipSpace s = '[' :: tail
    · obtain ⟨tail, hs⟩ := hbracket
      simp only [readRecord, hs] at h
      obtain ⟨⟨final, _⟩, hfinal, heq⟩ := Option.bind_eq_some_iff.mp h
      obtain ⟨z, hz, heq⟩ := Option.bind_eq_some_iff.mp heq
      cases heq
      exact ⟨final, hz, .inr ⟨tail, hs, hfinal⟩⟩
    · simp_all [readRecord]

/-- **A record is filled from the value that its text stands for**: from the members of an object,
or from the items of an array under the names of the fields. -/
theorem filled_readRecord {v : Json} (h : FieldsAgree get key R depth (fields depth))
    (hkey : ∃ field ∈ fields depth, field.name = key)
    (hrecord : readRecord fields draft finish (depth + 1) s = some (x, rest))
    (hvalue : readValue (depth + 1) s = some (v, rest')) :
    ∃ final, finish final = some x
      ∧ ((∃ members, v = ofDictionary (Dictionary.ofList members)
          ∧ Filled get key R draft members final)
        ∨ ∃ items, v = array items
          ∧ Filled get key R draft (((fields depth).map RecordField.name).zip items) final) := by
  rw [readValue_eq] at hvalue
  obtain ⟨final, hfinish, ⟨tail, hs, hobject⟩ | ⟨tail, hs, harray⟩⟩ := readRecord_eq_some hrecord
  · obtain ⟨item, hitem, members, hmembers, rfl⟩ := readOne_of_brace hs hvalue
    cases hitem
    refine ⟨final, hfinish, .inl ⟨members, rfl, ?_⟩⟩
    rw [readList] at hmembers
    obtain ⟨hend, rfl⟩ | ⟨hopen, hfinal⟩ := hobject
    · rw [hend] at hmembers
      cases hmembers
      exact .nil final
    · split at hmembers
      · cases hmembers
      · next c more hmore =>
          have hc : c ≠ '\x7d' := by
            rintro rfl
            exact hopen more hmore
          rw [if_neg hc, ← readItems_skipSpace (readMember_skipSpace _)] at hmembers
          exact filled_readMembers h hkey hfinal hmembers
  · obtain ⟨item, hitem, items, hitems, rfl⟩ := readOne_of_bracket hs hvalue
    cases hitem
    exact ⟨final, hfinish, .inr ⟨items, rfl, filled_readPositional h harray hitems⟩⟩

end Records

end AskSql.Json
