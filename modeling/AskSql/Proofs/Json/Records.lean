import AskSql.Proofs.Json.Readers

/-!
Records, read back from an object of their fields.

The members of the object are read one after the other, each into the draft that the ones before it
have left, and the record is what the last draft is finished to.

* `Fills`: members that fill a draft.
* `readMembers_of_fills`: they are read up to the closing bracket.
* `Fills.reads`: the record is read.
-/

namespace AskSql.Json

variable {δ : Type} {fields : List (RecordField δ)} {draft next final : δ} {name : String}
  {value : List Char} {parts : List (List Char)}

/-- Members fill a draft, one after the other. -/
inductive Fills (fields : List (RecordField δ)) : δ → List (List Char) → δ → Prop where
  | nil (draft : δ) : Fills fields draft [] draft
  | cons {draft next final : δ} {name : String} {value : List Char} {parts : List (List Char)}
      (h : Reads (readNamed fields draft name) value next) (hrest : Fills fields next parts final) :
      Fills fields draft (writeMember name value :: parts) final

/-- A field that the draft does not have yet is filled by its value. -/
lemma Fills.field {α : Type} {omissible : Bool} {get : δ → Option α} {set : δ → α → δ}
    {reader : Reader α} {x : α}
    (hfield : fields.find? (fun field => field.name == name)
      = some (.of name omissible get set reader))
    (hnew : get draft = none) (h : Reads reader value x)
    (hrest : Fills fields (set draft x) parts final) :
    Fills fields draft (writeMember name value :: parts) final := by
  refine .cons ⟨h.opens, fun rest hend => ?_⟩ hrest
  have hmissing : (RecordField.of name omissible get set reader).isRead draft = false := by
    show (get draft).isSome = false
    rw [hnew]
    rfl
  rw [readNamed, hfield]
  dsimp only
  rw [hmissing, if_neg Bool.false_ne_true]
  show (reader (value ++ rest)).map _ = _
  rw [h.takes rest hend, Option.map_some]

lemma Fills.opens (h : Fills fields draft parts final) : ∀ part ∈ parts, Opens part := by
  induction h with
  | nil => exact List.forall_mem_nil _
  | cons h _ ih => exact List.forall_mem_cons.mpr ⟨opens_writeMember _ _, ih⟩

/-- A closing bracket is the last thing that is read of an object. -/
lemma readMembers_last (h : Reads (readNamed fields draft name) value final) (n : Nat)
    (rest : List Char) :
    readMembers fields (n + 1) draft (writeMember name value ++ '\x7d' :: rest)
      = some (final, rest) := by
  have hcolon : ∀ s, skipSpace (':' :: s) = ':' :: s := skipSpace_cons rfl
  have hclose : skipSpace ('\x7d' :: rest) = '\x7d' :: rest := skipSpace_cons rfl rest
  have hend : Delimits ('\x7d' :: rest) := delimits_cons (by decide) rest
  rw [writeMember, List.append_assoc, List.cons_append, readMembers]
  simp [readText_writeText, hcolon, h.takes _ hend, hclose]

/-- Behind a comma there is more to read. -/
lemma readMembers_more (h : Reads (readNamed fields draft name) value next) (n : Nat)
    (rest : List Char) :
    readMembers fields (n + 1) draft (writeMember name value ++ ',' :: rest)
      = readMembers fields n next rest := by
  have hcolon : ∀ s, skipSpace (':' :: s) = ':' :: s := skipSpace_cons rfl
  have hcomma : skipSpace (',' :: rest) = ',' :: rest := skipSpace_cons rfl rest
  have hend : Delimits (',' :: rest) := delimits_cons (by decide) rest
  rw [writeMember, List.append_assoc, List.cons_append, readMembers]
  simp [readText_writeText, hcolon, h.takes _ hend, hcomma]

/-- Members that fill a draft are read one after the other, up to the closing bracket. -/
lemma readMembers_of_fills (h : Fills fields draft parts final) (hne : parts ≠ []) {n : Nat}
    (hn : parts.length ≤ n) (rest : List Char) :
    readMembers fields n draft (writeCommas parts ++ '\x7d' :: rest) = some (final, rest) := by
  induction h generalizing n with
  | nil => exact absurd rfl hne
  | cons h hrest ih =>
      cases n with
      | zero => cases hn
      | succ n =>
          cases hrest with
          | nil => exact readMembers_last h n rest
          | cons hnext hrest =>
              have hmore := ih (List.cons_ne_nil _ _) (Nat.le_of_succ_le_succ hn)
              rw [writeCommas, List.append_assoc, List.cons_append, readMembers_more h, hmore]

/-- **A record is read back** if its members fill a draft that is finished to it. -/
theorem Fills.reads {α : Type} {fields : Nat → List (RecordField δ)} {depth : Nat}
    {finish : δ → Option α} {x : α} (h : Fills (fields depth) draft parts final) (hne : parts ≠ [])
    (hfinish : finish final = some x) :
    Reads (readRecord fields draft finish (depth + 1)) (writeObject parts) x where
  opens := opens_writeObject parts
  takes rest _ := by
    obtain ⟨part, more, rfl⟩ := List.exists_cons_of_ne_nil hne
    obtain ⟨c, tail, htext, hspace, hclose, hsteps⟩ :=
      exists_cons_writeCommas (List.mem_cons_of_mem _ List.mem_cons_self) h.opens rest
    have hmembers := readMembers_of_fills h hne (htext ▸ hsteps) rest
    have hopen : skipSpace ('\x7b' :: c :: tail) = '\x7b' :: c :: tail :=
      skipSpace_cons rfl _
    rw [writeObject, List.cons_append, List.cons_append, List.append_assoc, List.singleton_append,
      htext]
    rw [htext] at hmembers
    simp only [readRecord, hopen, skipSpace_cons hspace]
    -- the first member begins with a quote, so the object is not taken for an empty one
    split
    · next other heq => exact absurd (List.cons.inj heq).1 hclose
    · rw [hmembers]
      simp [hfinish]

end AskSql.Json
