import AskSql.Dictionary
import Mathlib.Tactic.Lemma

/-!
What a dictionary answers.

A dictionary is filled by insertions alone, so every look-up can be traced to the last binding of
its key. Because the entries are kept in ascending order, the look-ups also determine the entries.

* `get?_insertAll`: a look-up after many insertions finds the last binding of the key.
* `insertAll_append`, `insertAll_comm`: insertions in two goes, and in either order.
* `get?_merge`: the second of two merged dictionaries wins.
* `ext_get?`: dictionaries that answer every look-up alike are equal.
* `merge_empty_left`: merging into the empty dictionary changes nothing.
* `ofList_entries`: a dictionary is filled from its own entries.
-/

namespace AskSql.Dictionary

variable {α : Type}

/-! ### Look-ups among ascending entries -/

/-- No key below all keys of a list is bound in it. -/
lemma lookup_eq_none_of_lt {key : String} {entries : List (String × α)}
    (h : ∀ entry ∈ entries, key < entry.1) : entries.lookup key = none := by
  rw [List.lookup_eq_none_iff]
  intro entry hentry
  have hne : key ≠ entry.1 := fun heq => String.lt_irrefl _ (heq ▸ h entry hentry)
  exact bne_iff_ne.mpr hne

/-- The first key is not bound again. -/
lemma lookup_rest {first : String × α} {rest : List (String × α)}
    (h : (first :: rest).Pairwise (fun a b => a.1 < b.1)) : rest.lookup first.1 = none :=
  lookup_eq_none_of_lt (List.pairwise_cons.mp h).1

/-- Ascending entries look the same from both ends, since each key is bound once. -/
lemma lookup_reverse {entries : List (String × α)}
    (h : entries.Pairwise (fun a b => a.1 < b.1)) (key : String) :
    entries.reverse.lookup key = entries.lookup key := by
  induction entries with
  | nil => rfl
  | cons first rest ih =>
      obtain ⟨k, v⟩ := first
      have hrest := (List.pairwise_cons.mp h).2
      have hfirst : rest.lookup k = none := lookup_rest h
      rw [List.reverse_cons, List.lookup_append, ih hrest, lookup_entry, lookup_entry]
      by_cases hkey : key = k
      · rw [hkey, hfirst]
        simp
      · rw [if_neg hkey, if_neg hkey, List.lookup_nil, Option.or_none]

/-- Of two ascending lists with the same look-ups, neither begins with a smaller key. -/
lemma not_lt_of_lookup_eq {first other : String × α} {rest others : List (String × α)}
    (hother : (other :: others).Pairwise (fun a b => a.1 < b.1))
    (h : ∀ key, (first :: rest).lookup key = (other :: others).lookup key) :
    ¬ first.1 < other.1 := by
  intro hlt
  have hbelow : ∀ entry ∈ other :: others, first.1 < entry.1 := by
    intro entry hentry
    rcases List.mem_cons.mp hentry with rfl | hentry
    · exact hlt
    · exact String.lt_trans hlt ((List.pairwise_cons.mp hother).1 entry hentry)
  have hfirst := h first.1
  rw [lookup_eq_none_of_lt hbelow, List.lookup_cons_self] at hfirst
  cases hfirst

/-- Ascending entries are determined by their look-ups. -/
lemma entries_eq_of_lookup_eq {entries others : List (String × α)}
    (hentries : entries.Pairwise (fun a b => a.1 < b.1))
    (hothers : others.Pairwise (fun a b => a.1 < b.1))
    (h : ∀ key, entries.lookup key = others.lookup key) : entries = others := by
  induction entries generalizing others with
  | nil =>
      cases others with
      | nil => rfl
      | cons other others =>
          have hother := h other.1
          rw [List.lookup_nil, List.lookup_cons_self] at hother
          cases hother
  | cons first rest ih =>
      cases others with
      | nil =>
          have hfirst := h first.1
          rw [List.lookup_nil, List.lookup_cons_self] at hfirst
          cases hfirst
      | cons other others =>
          have hge := not_lt_of_lookup_eq hothers h
          have hle := not_lt_of_lookup_eq hentries fun key => (h key).symm
          have hkeys : first.1 = other.1 :=
            String.le_antisymm (String.not_lt.mp hle) (String.not_lt.mp hge)
          obtain ⟨k, v⟩ := first
          obtain ⟨k', w⟩ := other
          have hkeys : k = k' := hkeys
          subst hkeys
          have hvalue := h k
          rw [List.lookup_cons_self, List.lookup_cons_self] at hvalue
          have hrests : ∀ key, rest.lookup key = others.lookup key := by
            intro key
            by_cases hkey : key = k
            · rw [hkey, lookup_rest hentries, lookup_rest hothers]
            · have hlook := h key
              rwa [lookup_entry, lookup_entry, if_neg hkey, if_neg hkey] at hlook
          rw [Option.some.inj hvalue,
            ih (List.pairwise_cons.mp hentries).2 (List.pairwise_cons.mp hothers).2 hrests]

/-! ### Look-ups in dictionaries -/

/-- Dictionaries that answer every look-up alike are equal. -/
theorem ext_get? {d other : Dictionary α} (h : ∀ key, d.get? key = other.get? key) : d = other := by
  have hentries := entries_eq_of_lookup_eq d.sorted other.sorted h
  cases d
  cases other
  congr

/-- After many insertions a look-up finds the last binding of its key, or else what was there. -/
theorem get?_insertAll (d : Dictionary α) (bindings : List (String × α)) (key : String) :
    (d.insertAll bindings).get? key = (bindings.reverse.lookup key).or (d.get? key) := by
  induction bindings generalizing d with
  | nil => rfl
  | cons binding bindings ih =>
      have hstep : d.insertAll (binding :: bindings)
          = (d.insert binding.1 binding.2).insertAll bindings := rfl
      rw [hstep, ih, get?_insert, List.reverse_cons, List.lookup_append, lookup_entry,
        List.lookup_nil, Option.or_assoc]
      by_cases hkey : key = binding.1
      · rw [if_pos hkey, if_pos hkey, Option.some_or]
      · rw [if_neg hkey, if_neg hkey, Option.none_or]

/-- Bindings may be added at once or one list after the other. -/
lemma insertAll_append (d : Dictionary α) (first second : List (String × α)) :
    d.insertAll (first ++ second) = (d.insertAll first).insertAll second :=
  List.foldl_append

/-- Bindings of different keys may be added in either order. -/
theorem insertAll_comm {first second : List (String × α)}
    (h : ∀ binding ∈ first, ∀ other ∈ second, binding.1 ≠ other.1) (d : Dictionary α) :
    (d.insertAll first).insertAll second = (d.insertAll second).insertAll first := by
  refine ext_get? fun key => ?_
  simp only [get?_insertAll, ← Option.or_assoc]
  congr 1
  -- at most one of the two lists binds the key
  cases hsecond : second.reverse.lookup key with
  | none => rw [Option.none_or, Option.or_none]
  | some value =>
      obtain ⟨other, hother, hkey⟩ :=
        List.lookup_isSome_iff.mp (Option.isSome_iff_exists.mpr ⟨value, hsecond⟩)
      have hfirst : first.reverse.lookup key = none := by
        rw [List.lookup_eq_none_iff]
        intro binding hbinding
        have hne := h binding (List.mem_reverse.mp hbinding) other (List.mem_reverse.mp hother)
        rw [← eq_of_beq hkey] at hne
        exact bne_iff_ne.mpr hne.symm
      rw [hfirst, Option.or_none, Option.none_or]

/-- What `other` binds wins in a merge, and what it does not bind is as it was. -/
theorem get?_merge (d other : Dictionary α) (key : String) :
    (d.merge other).get? key = (other.get? key).or (d.get? key) := by
  rw [merge, get?_insertAll, lookup_reverse other.sorted]
  rfl

/-- Merging into the empty dictionary changes nothing. -/
theorem merge_empty_left (d : Dictionary α) : empty.merge d = d := by
  refine ext_get? fun key => ?_
  rw [get?_merge, get?_empty, Option.or_none]

/-- A dictionary is filled from its own entries. -/
theorem ofList_entries (d : Dictionary α) : ofList d.entries = d := merge_empty_left d

end AskSql.Dictionary
