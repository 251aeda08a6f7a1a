import AskSql.Proofs.Json.Readers

/-!
JSON values, written down and read back.

The first character of a value decides how it is read: by a quote, a letter, a bracket, or else as a
number. Numbers with a fraction or an exponent are rounded when they are read, so values without
them are looked at here. Of these every one is read back, if its arrays and objects do not stand
deeper in each other than the reader goes.

* `Plain`: values without floating-point numbers, up to a depth.
* `Plain.reads`, `Plain.parse_write`: they are read back, among others and alone.
-/

namespace AskSql.Json

/-- A value without floating-point numbers in which at most `depth` arrays and objects stand in each
other. Its integers are of 64 bits, and the keys of its objects ascend. -/
inductive Plain : Nat → Json → Prop where
  | null (depth : Nat) : Plain depth null
  | bool (depth : Nat) (b : Bool) : Plain depth (bool b)
  | integer (depth : Nat) {n : Int} (h : Fits n) : Plain depth (integer n)
  | text (depth : Nat) (s : String) : Plain depth (text s)
  | array {depth : Nat} {items : List Json} (h : ∀ item ∈ items, Plain depth item) :
      Plain (depth + 1) (array items)
  | object {depth : Nat} (d : Dictionary Json) (h : ∀ entry ∈ d.entries, Plain depth entry.2) :
      Plain (depth + 1) (ofDictionary d)

/-- A value that fits into a depth fits into every greater one. -/
lemma Plain.mono {depth limit : Nat} {v : Json} (h : Plain depth v) (hle : depth ≤ limit) :
    Plain limit v := by
  induction h generalizing limit with
  | null _ => exact .null limit
  | bool _ b => exact .bool limit b
  | integer _ hn => exact .integer limit hn
  | text _ s => exact .text limit s
  | array _ ih =>
      cases limit with
      | zero => cases hle
      | succ limit => exact .array fun item hitem => ih item hitem (Nat.le_of_succ_le_succ hle)
  | object d _ ih =>
      cases limit with
      | zero => cases hle
      | succ limit =>
          exact .object d fun entry hentry => ih entry hentry (Nat.le_of_succ_le_succ hle)

lemma writeItems_eq (items : List Json) : writeItems items = items.map write := by
  induction items with
  | nil => rw [writeItems, List.map_nil]
  | cons item items ih => rw [writeItems, ih, List.map_cons]

lemma writeMembers_eq (members : List (String × Json)) :
    writeMembers members = members.map fun member => writeMember member.1 (write member.2) := by
  induction members with
  | nil => rw [writeMembers, List.map_nil]
  | cons member members ih => rw [writeMembers, ih, List.map_cons]

/-! ### By the first character -/

lemma readValue_eq (depth : Nat) : readValue depth = readOne (deeper readValue depth) := by
  cases depth with
  | zero => rfl
  | succ depth => rfl

section First

variable {reader : Reader Json} {s rest : List Char}

lemma readOne_array {items : List Json} (h : readList ']' reader s = some (items, rest)) :
    readOne (some reader) ('[' :: s) = some (array items, rest) := by
  show (readList ']' reader s).bind _ = _
  rw [h]
  rfl

lemma readOne_object {members : List (String × Json)}
    (h : readList '\x7d' (readMember readText reader) s = some (members, rest)) :
    readOne (some reader) ('\x7b' :: s)
      = some (ofDictionary (Dictionary.ofList members), rest) := by
  show (readList '\x7d' (readMember readText reader) s).bind _ = _
  rw [h]
  rfl

lemma readOne_integer (inner : Option (Reader Json)) {n : Int} (h : Fits n)
    (hrest : Delimits rest) : readOne inner (writeInteger n ++ rest) = some (integer n, rest) := by
  have hread := (reads_integer h).takes rest hrest
  have hspace := ((opens_writeInteger n).append rest).skipSpace_eq
  obtain ⟨c, tail, htext, hc⟩ := writeInteger_head n
  rw [htext, List.cons_append] at hread hspace ⊢
  rw [readOne, hspace]
  dsimp only
  rw [if_neg (integer_head_ne hc (by decide)), if_neg (integer_head_ne hc (by decide)),
    if_neg (integer_head_ne hc (by decide)), if_neg (integer_head_ne hc (by decide)),
    if_neg (integer_head_ne hc (by decide)), if_neg (integer_head_ne hc (by decide)), hread]

end First

/-- **Values are read back.** -/
theorem Plain.reads {depth : Nat} {v : Json} (h : Plain depth v) :
    Reads (readValue depth) v.write v := by
  -- the depth that is left goes down with the value, so the induction is on both
  induction h with
  | null depth =>
      rw [readValue_eq, write]
      exact ⟨opens_cons rfl (by decide) _, fun _ _ => rfl⟩
  | bool depth b =>
      rw [readValue_eq]
      cases b with
      | false =>
          rw [write]
          exact ⟨opens_cons rfl (by decide) _, fun _ _ => rfl⟩
      | true =>
          rw [write]
          exact ⟨opens_cons rfl (by decide) _, fun _ _ => rfl⟩
  | integer depth hn =>
      rw [readValue_eq, write]
      exact ⟨opens_writeInteger _, fun _ hrest => readOne_integer _ hn hrest⟩
  | text depth s =>
      rw [readValue_eq, write]
      refine ⟨opens_writeText s, fun rest _ => ?_⟩
      show (readText (writeText s ++ rest)).map _ = _
      rw [readText_writeText]
      rfl
  | array _ ih =>
      rw [readValue_eq, write, writeItems_eq, deeper]
      refine ⟨opens_writeArray _, fun rest _ => ?_⟩
      rw [writeArray, List.cons_append, List.cons_append, List.append_assoc]
      exact readOne_array (readList_writeCommas (by decide) ih rest)
  | object d _ ih =>
      rw [readValue_eq, ofDictionary, write, writeMembers_eq, deeper]
      refine ⟨opens_writeObject _, fun rest _ => ?_⟩
      rw [writeObject, List.cons_append, List.cons_append, List.append_assoc]
      have hread := readOne_object (readList_entries ih rest)
      rwa [Dictionary.ofList_entries] at hread

/-- As the whole of a text, a value is parsed. -/
lemma Plain.parse_write {depth : Nat} {v : Json} (h : Plain depth v) (hle : depth ≤ depthLimit) :
    parse (String.ofList v.write) = some v := by
  rw [parse, String.toList_ofList]
  exact (h.mono hle).reads.readAll_eq

end AskSql.Json
