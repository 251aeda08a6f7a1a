import AskSql.VectorStore
import Mathlib.Data.List.Basic
import Mathlib.Tactic.Lemma

/-!
What a store of vectors holds.

The first document that is added fixes the dimension of a store, and with it which of the documents
added later are kept. So the contents are a function of all that was ever added, however it was
added and whatever was searched for in between.

* `StoreRequest`, `VectorStore.run`: what is asked of a store, and a series of requests with the
  answers to the searches among them.
* `dimensionOf`, `fitting`: the dimension that documents fix, and those of them that have it.
* `VectorStore.Holds`: the store holds what was added and fits. One request keeps this
  (`Holds.effect`), and so does a series of them (`Holds.run`).
* `VectorStore.search_fails_iff`: when a search fails.
* `VectorStore.KeepsFitting`, `VectorStore.run_keepsFitting`: what is true after every series of
  requests to a new store.
-/

namespace AskSql

variable {α : Type}

/-! ### Requests -/

/-- What is asked of a store. -/
inductive StoreRequest (α : Type) where
  | add (d : Document α)
  | addAll (ds : List (Document α))
  | search (v : Embedding) (k : Nat)

namespace StoreRequest

/-- The documents that a request brings. -/
def documents : StoreRequest α → List (Document α)
  | add d => [d]
  | addAll ds => ds
  | search _ _ => []

/-- The store after a request. -/
def effect (store : VectorStore α) : StoreRequest α → VectorStore α
  | add d => store.add d
  | addAll ds => store.addAll ds
  | search _ _ => store

/-- The answer to a request; only a search has one. -/
def answer (store : VectorStore α) : StoreRequest α → Option (Except Failure (List (Match α)))
  | search v k => some (store.search v k)
  | _ => none

/-- Whether a request only searches. -/
def isSearch : StoreRequest α → Bool
  | search _ _ => true
  | _ => false

end StoreRequest

/-- All documents that a series of requests brings, in order. -/
def addedBy (requests : List (StoreRequest α)) : List (Document α) :=
  requests.flatMap StoreRequest.documents

/-- A series of requests: the store that is reached, and the answer to each of them. -/
def VectorStore.run (store : VectorStore α) :
    List (StoreRequest α) → VectorStore α × List (Option (Except Failure (List (Match α))))
  | [] => (store, [])
  | request :: requests =>
      let (last, answers) := run (request.effect store) requests
      (last, request.answer store :: answers)

/-! ### Documents of one dimension -/

/-- The dimension that documents fix: that of the first one. -/
def dimensionOf (ds : List (Document α)) : Option Nat := ds.head?.map (·.embedding.length)

/-- The documents that have the dimension of the first one, in order. -/
def fitting (ds : List (Document α)) : List (Document α) :=
  ds.filter fun d => dimensionOf ds = some d.embedding.length

@[simp] lemma dimensionOf_eq_none_iff {ds : List (Document α)} :
    dimensionOf ds = none ↔ ds = [] := by
  simp [dimensionOf]

/-- A document behind others does not change their dimension. -/
lemma dimensionOf_append {ds : List (Document α)} (h : ds ≠ []) (more : List (Document α)) :
    dimensionOf (ds ++ more) = dimensionOf ds := by
  rw [dimensionOf, dimensionOf, List.head?_append_of_ne_nil _ h]

/-- The first document fits. -/
lemma fitting_cons (d : Document α) (ds : List (Document α)) :
    fitting (d :: ds) = d :: ds.filter fun x => d.embedding.length = x.embedding.length := by
  simp [fitting, dimensionOf]

/-- So some document fits as soon as there is one. -/
@[simp] lemma fitting_eq_nil_iff {ds : List (Document α)} : fitting ds = [] ↔ ds = [] := by
  cases ds with
  | nil => simp [fitting]
  | cons d ds => simp [fitting_cons]

/-- One more document is kept just if it has the dimension of the others. -/
lemma fitting_append_singleton {ds : List (Document α)} (h : ds ≠ []) (d : Document α) :
    fitting (ds ++ [d])
      = if dimensionOf ds = some d.embedding.length then fitting ds ++ [d] else fitting ds := by
  rw [fitting, dimensionOf_append h, List.filter_append]
  split
  case isTrue hd => simp [hd, fitting]
  case isFalse hd => simp [hd, fitting]

namespace VectorStore

/-! ### The invariant -/

/-- The store holds, of the documents that were added, those that fit, and knows their dimension. -/
structure Holds (store : VectorStore α) (added : List (Document α)) : Prop where
  documents : store.documents = fitting added
  dimension : store.dimension = dimensionOf added

/-- A new store holds nothing. -/
lemma holds_nil : Holds ({} : VectorStore α) [] := ⟨rfl, rfl⟩

namespace Holds

variable {store : VectorStore α} {added : List (Document α)}

/-- One more document. -/
lemma add (h : store.Holds added) (d : Document α) : (store.add d).Holds (added ++ [d]) := by
  obtain ⟨hdocuments, hdimension⟩ := h
  by_cases hadded : added = []
  · -- the first document fixes the dimension
    subst hadded
    constructor <;> simp [VectorStore.add, hdocuments, hdimension, fitting, dimensionOf]
  · obtain ⟨n, hn⟩ : ∃ n, dimensionOf added = some n :=
      Option.ne_none_iff_exists'.mp (mt dimensionOf_eq_none_iff.mp hadded)
    constructor
    · simp only [VectorStore.add, hdocuments, hdimension, fitting_append_singleton hadded, hn,
        Option.getD_some, Option.some.injEq, eq_comm (a := n)]
    · simp [VectorStore.add, hdimension, dimensionOf_append hadded, hn]

/-- Documents from left to right. -/
lemma addAll (h : store.Holds added) (ds : List (Document α)) :
    (store.addAll ds).Holds (added ++ ds) := by
  induction ds generalizing store added with
  | nil => simpa [VectorStore.addAll] using h
  | cons d ds ih => simpa [VectorStore.addAll] using ih (h.add d)

/-- One request. -/
lemma effect (h : store.Holds added) (request : StoreRequest α) :
    (request.effect store).Holds (added ++ request.documents) := by
  cases request with
  | add d => exact h.add d
  | addAll ds => exact h.addAll ds
  | search v k => simpa [StoreRequest.effect, StoreRequest.documents] using h

/-- A series of requests. -/
lemma run (h : store.Holds added) (requests : List (StoreRequest α)) :
    (store.run requests).1.Holds (added ++ addedBy requests) := by
  induction requests generalizing store added with
  | nil => simpa [VectorStore.run, addedBy] using h
  | cons request requests ih =>
      simpa [VectorStore.run, addedBy] using ih (h.effect request)

end Holds

/-! ### Searching -/

/-- A search fails just if the store has a dimension and the vector has another one. -/
lemma search_fails_iff (store : VectorStore α) (v : Embedding) (k : Nat) :
    (∃ failure, store.search v k = .error failure)
      ↔ store.dimension ≠ none ∧ store.dimension ≠ some v.length := by
  rw [search]
  cases store.dimension with
  | none => simp
  | some n =>
      by_cases hv : v.length = n
      · simp [hv]
      · simp [hv, eq_comm (a := n)]

/-- Searches may be left out of a series. -/
lemma run_of_searches_left_out (store : VectorStore α) (requests : List (StoreRequest α)) :
    (store.run (requests.filter (!·.isSearch))).1 = (store.run requests).1 := by
  induction requests generalizing store with
  | nil => rfl
  | cons request requests ih =>
      cases request with
      | search v k => simpa [StoreRequest.isSearch, run, StoreRequest.effect] using ih store
      | add d => simpa [StoreRequest.isSearch, run] using ih _
      | addAll ds => simpa [StoreRequest.isSearch, run] using ih _

/-- A search within a series is answered from the store that the requests before it have led to. -/
lemma run_answer (store : VectorStore α) {requests : List (StoreRequest α)} {i : Nat}
    {v : Embedding} {k : Nat} (h : requests[i]? = some (.search v k)) :
    (store.run requests).2[i]? = some (some ((store.run (requests.take i)).1.search v k)) := by
  induction requests generalizing store i with
  | nil => simp at h
  | cons request requests ih =>
      cases i with
      | zero =>
          obtain rfl : request = .search v k := by simpa using h
          rfl
      | succ i => simpa [run] using ih (request.effect store) (by simpa using h)

/-! ### Whole runs -/

/-- What is true of the store and of the answers after a series of requests. -/
structure KeepsFitting (requests : List (StoreRequest α)) (store : VectorStore α)
    (answers : List (Option (Except Failure (List (Match α))))) : Prop where
  /-- Of all documents that were added, those with the dimension of the very first one are there, in
  order. -/
  documents : store.documents
    = (addedBy requests).filter fun d =>
        (addedBy requests).head?.map (·.embedding.length) = some d.embedding.length
  /-- That dimension is recorded. -/
  dimension : store.dimension = (addedBy requests).head?.map (·.embedding.length)
  /-- There is none just if no document was ever added. -/
  nothing_added : store.dimension = none ↔ addedBy requests = []
  /-- And just if there are no documents. -/
  nothing_kept : store.dimension = none ↔ store.documents = []
  size : store.size = store.documents.length
  isEmpty : store.isEmpty = true ↔ store.size = 0
  /-- The same store is reached without the searches. -/
  searches : (VectorStore.run {} (requests.filter (!·.isSearch))).1 = store
  /-- A search fails just if there are documents and their dimension is not that of the vector. -/
  fails : ∀ v k, (∃ failure, store.search v k = .error failure)
    ↔ store.documents ≠ [] ∧ store.dimension ≠ some v.length
  /-- In an empty store a search finds nothing. -/
  nothing : store.documents = [] → ∀ v k, store.search v k = .ok []
  /-- Every search in the series is answered from the store that was reached before it. -/
  answers : ∀ i v k, requests[i]? = some (.search v k) →
    answers[i]? = some (some ((VectorStore.run {} (requests.take i)).1.search v k))

/-- **What a store holds.** After any series of requests to a new store, additions of single
documents and of many with searches in between, the store holds the documents of the dimension that
the first one had, and nothing else; searches leave no trace, and fail just if the vector is not of
that dimension. -/
theorem run_keepsFitting (requests : List (StoreRequest α)) :
    KeepsFitting requests (VectorStore.run {} requests).1 (VectorStore.run {} requests).2 := by
  have hholds : (VectorStore.run {} requests).1.Holds (addedBy requests) := by
    simpa using holds_nil.run requests
  have hnone : (VectorStore.run {} requests).1.dimension = none
      ↔ (VectorStore.run {} requests).1.documents = [] := by
    rw [hholds.dimension, hholds.documents, dimensionOf_eq_none_iff, fitting_eq_nil_iff]
  refine ⟨hholds.documents, hholds.dimension, ?_, hnone, rfl, ?_,
    run_of_searches_left_out {} requests, fun v k => ?_, fun hempty v k => ?_,
    fun i v k h => run_answer {} h⟩
  · rw [hholds.dimension, dimensionOf_eq_none_iff]
  · rw [VectorStore.isEmpty, VectorStore.size, List.isEmpty_iff, List.length_eq_zero_iff]
  · rw [search_fails_iff, ne_eq, hnone]
  · rw [search, hnone.mpr hempty]

end VectorStore

end AskSql
