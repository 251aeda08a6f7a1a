/-!
Finite maps from texts.

A dictionary keeps its entries in strictly ascending order of their keys, the order of code points,
which is also the order of their UTF-8 bytes. So a dictionary has one form: two dictionaries that
answer every look-up alike are equal, whatever the order in which they were filled.

* `insert`: binds a key, replacing an earlier binding.
* `merge`: adds the entries of a second dictionary, which win.
* `ofList`: fills an empty dictionary from the left, so the last binding of a key stays.
-/

namespace AskSql

/-- A finite map from texts to `α`, its keys strictly ascending. -/
structure Dictionary (α : Type) where
  entries : List (String × α)
  sorted : entries.Pairwise (fun a b => a.1 < b.1)

namespace Dictionary

variable {α : Type}

/-! ### Insertion into a sorted list -/

/-- Puts a binding at its place among entries in ascending order. -/
def insertEntry (key : String) (value : α) : List (String × α) → List (String × α)
  | [] => [(key, value)]
  | entry :: rest =>
      if key < entry.1 then (key, value) :: entry :: rest
      else if key = entry.1 then (key, value) :: rest
      else entry :: insertEntry key value rest

/-- Every entry after an insertion is the new one or an old one. -/
theorem mem_insertEntry {key : String} {value : α} {entry : String × α}
    {entries : List (String × α)} (h : entry ∈ insertEntry key value entries) :
    entry = (key, value) ∨ entry ∈ entries := by
  induction entries with
  | nil => exact .inl (by simpa [insertEntry] using h)
  | cons first rest ih =>
      unfold insertEntry at h
      split at h
      · rcases List.mem_cons.mp h with h | h
        · exact .inl h
        · exact .inr h
      · split at h
        · rcases List.mem_cons.mp h with h | h
          · exact .inl h
          · exact .inr (List.mem_cons_of_mem _ h)
        · rcases List.mem_cons.mp h with h | h
          · exact .inr (h ▸ List.mem_cons_self)
          · exact (ih h).imp id (List.mem_cons_of_mem _)

/-- Insertion keeps the keys strictly ascending. -/
theorem insertEntry_sorted (key : String) (value : α) {entries : List (String × α)}
    (h : entries.Pairwise (fun a b => a.1 < b.1)) :
    (insertEntry key value entries).Pairwise (fun a b => a.1 < b.1) := by
  induction entries with
  | nil => simp [insertEntry]
  | cons first rest ih =>
      obtain ⟨hfirst, hrest⟩ := List.pairwise_cons.mp h
      unfold insertEntry
      split
      · next hlt =>
          refine List.pairwise_cons.mpr ⟨fun entry hentry => ?_, h⟩
          rcases List.mem_cons.mp hentry with rfl | hentry
          · exact hlt
          · exact String.lt_trans hlt (hfirst entry hentry)
      · next hlt =>
          split
          · next heq =>
              exact List.pairwise_cons.mpr ⟨fun entry hentry => heq ▸ hfirst entry hentry, hrest⟩
          · next hne =>
              refine List.pairwise_cons.mpr ⟨fun entry hentry => ?_, ih hrest⟩
              rcases mem_insertEntry hentry with rfl | hentry
              · have hle : first.1 ≤ key := String.not_lt.mp hlt
                by_cases hgt : first.1 < key
                · exact hgt
                · exact absurd (String.le_antisymm (String.not_lt.mp hgt) hle) hne
              · exact hfirst entry hentry

/-! ### Operations -/

/-- The dictionary without entries. -/
def empty : Dictionary α := ⟨[], .nil⟩

instance : EmptyCollection (Dictionary α) := ⟨empty⟩

instance : Inhabited (Dictionary α) := ⟨empty⟩

/-- Binds `key` to `value`, in place of what it was bound to. -/
def insert (d : Dictionary α) (key : String) (value : α) : Dictionary α :=
  ⟨insertEntry key value d.entries, insertEntry_sorted key value d.sorted⟩

/-- What `key` is bound to. -/
def get? (d : Dictionary α) (key : String) : Option α :=
  d.entries.lookup key

/-- Whether `key` is bound. -/
def contains (d : Dictionary α) (key : String) : Bool :=
  (d.get? key).isSome

/-- Adds bindings from left to right; a later one of the same key wins. -/
def insertAll (d : Dictionary α) (bindings : List (String × α)) : Dictionary α :=
  bindings.foldl (fun d binding => d.insert binding.1 binding.2) d

/-- The dictionary of a list of bindings; the last one of a key wins. -/
def ofList (bindings : List (String × α)) : Dictionary α :=
  empty.insertAll bindings

/-- Adds the entries of `other`, which win over those of `d`. -/
def merge (d other : Dictionary α) : Dictionary α :=
  d.insertAll other.entries

/-! ### Look-ups -/

@[simp] theorem get?_empty (key : String) : (empty : Dictionary α).get? key = none := rfl

/-- Looking up in a list looks at its first entry, then at the rest. -/
theorem lookup_entry (key first : String) (value : α) (rest : List (String × α)) :
    ((first, value) :: rest).lookup key = if key = first then some value else rest.lookup key := by
  by_cases h : key = first
  · simp [h]
  · simp [List.lookup_cons, h, beq_false_of_ne h]

/-- Looking up in a list after an insertion. -/
theorem lookup_insertEntry (key other : String) (value : α) (entries : List (String × α)) :
    (insertEntry key value entries).lookup other =
      if other = key then some value else entries.lookup other := by
  induction entries with
  | nil => simp [insertEntry, lookup_entry]
  | cons first rest ih =>
      obtain ⟨k, v⟩ := first
      unfold insertEntry
      split
      · simp only [lookup_entry]
      · split
        · next heq =>
            have heq : key = k := heq
            subst heq
            simp only [lookup_entry]
            split <;> rfl
        · next hne =>
            have hne : key ≠ k := hne
            simp only [lookup_entry, ih]
            by_cases h : other = k
            · subst h
              simp [Ne.symm hne]
            · simp [h]

/-- An inserted key is bound to the new value, and every other look-up is as before. -/
theorem get?_insert (d : Dictionary α) (key other : String) (value : α) :
    (d.insert key value).get? other = if other = key then some value else d.get? other :=
  lookup_insertEntry key other value d.entries

end Dictionary

end AskSql
