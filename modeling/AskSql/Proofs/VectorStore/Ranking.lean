import AskSql.Proofs.VectorStore.Contents
import AskSql.Proofs.VectorStore.Scores
import Mathlib.Data.List.Sort

/-!
The ranking behind a search.

A search gives back the beginning of one arrangement of the documents: higher scores come first, and
among documents of the same score those that were added earlier. This is so whatever the bits of the
scores are, NaNs and zeros of both signs included; that they are those of the cosine does not
matter. To tell equal documents apart, each match is taken together with the place at which its
document stands in the store.

* `VectorStore.Before`: which of two placed matches comes first. Of two places at most one does
  (`Before.asymm`), and the one that sorting puts first does (`before_of_closer`).
* `VectorStore.Ranking`: an arrangement of all matches in this order. There is one
  (`ranking_sorted`), and only one (`Ranking.unique`).
* `VectorStore.TopMatches`: what the matches found by a search are.
* `VectorStore.Ranks`, `VectorStore.search_topMatches`: searches of every store that a series of
  requests leads to.
-/

namespace AskSql

variable {α : Type}

namespace VectorStore

/-! ### The order of matches -/

/-- Every match with the place of its document in the store. -/
def placed (store : VectorStore α) (v : Embedding)
    (similarity : Embedding → Embedding → UInt32) : List (Match α × Nat) :=
  (store.scored v similarity).zipIdx

/-- A placed match comes before another one if it has the higher score, or the same score and the
earlier place. -/
def Before (a b : Match α × Nat) : Prop :=
  Embedding.Below b.1.bits a.1.bits ∨ (a.1.bits = b.1.bits ∧ a.2 < b.2)

/-- The same order in terms of ranks. -/
lemma before_iff {a b : Match α × Nat} :
    Before a b ↔ Embedding.rank b.1.bits < Embedding.rank a.1.bits
      ∨ (Embedding.rank a.1.bits = Embedding.rank b.1.bits ∧ a.2 < b.2) := by
  rw [Before, Embedding.rank_lt_iff, Embedding.rank_inj]

/-- Of two placed matches at most one comes before the other. -/
lemma Before.asymm {a b : Match α × Nat} (h : Before a b) : ¬ Before b a := by
  rw [before_iff] at h ⊢
  omega

/-- Sorting by closeness, with places to decide among equals, leads to that order. -/
lemma before_of_closer {a b : Match α × Nat} (hplaces : a.2 ≠ b.2)
    (h : List.zipIdxLE Match.closer a b = true) : Before a b := by
  rw [before_iff]
  simp only [List.zipIdxLE, Match.closer, decide_eq_true_eq] at h
  split_ifs at h with hab hba
  · -- neither is closer
    rw [decide_eq_true_eq] at h
    omega
  · omega

lemma closer_trans (a b c : Match α) (hab : a.closer b = true) (hbc : b.closer c = true) :
    a.closer c = true := by
  simp only [Match.closer, decide_eq_true_eq] at hab hbc ⊢
  omega

lemma closer_total (a b : Match α) : (a.closer b || b.closer a) = true := by
  simp only [Match.closer, Bool.or_eq_true, decide_eq_true_eq]
  omega

/-! ### Rankings -/

/-- An arrangement of all matches, higher scores first and earlier places first among equals. -/
structure Ranking (store : VectorStore α) (v : Embedding)
    (similarity : Embedding → Embedding → UInt32) (ranking : List (Match α × Nat)) : Prop where
  perm : ranking.Perm (store.placed v similarity)
  ordered : ranking.Pairwise Before

section Sorted

variable (store : VectorStore α) (v : Embedding) (similarity : Embedding → Embedding → UInt32)

/-- The matches without their places. -/
lemma placed_map_fst : (store.placed v similarity).map Prod.fst = store.scored v similarity :=
  List.zipIdx_map_fst 0 _

/-- No two matches have the same place. -/
lemma places_nodup {ranking : List (Match α × Nat)} (h : ranking.Perm (store.placed v similarity)) :
    (ranking.map Prod.snd).Nodup := by
  have hplaces : (ranking.map Prod.snd).Perm
      (List.range' 0 (store.scored v similarity).length) := by
    have hmap := h.map Prod.snd
    rwa [placed, List.zipIdx_map_snd] at hmap
  exact hplaces.nodup_iff.mpr List.nodup_range'

/-- All placed matches, sorted by closeness and then by place. -/
def sorted : List (Match α × Nat) :=
  (store.placed v similarity).mergeSort (List.zipIdxLE Match.closer)

/-- Sorting yields a ranking. -/
lemma ranking_sorted : Ranking store v similarity (sorted store v similarity) := by
  have hperm : (sorted store v similarity).Perm (store.placed v similarity) :=
    List.mergeSort_perm _ _
  have hcloser : (sorted store v similarity).Pairwise fun a b =>
      List.zipIdxLE Match.closer a b = true :=
    List.pairwise_mergeSort (List.zipIdxLE_trans closer_trans) (List.zipIdxLE_total closer_total) _
  have hplaces : (sorted store v similarity).Pairwise fun a b => a.2 ≠ b.2 :=
    List.pairwise_map.mp (places_nodup store v similarity hperm)
  exact ⟨hperm, (hplaces.and hcloser).imp fun ⟨hne, hle⟩ => before_of_closer hne hle⟩

/-- The sort of a search keeps equals in order, so the places may be forgotten. -/
lemma sorted_map_fst :
    (sorted store v similarity).map Prod.fst
      = (store.scored v similarity).mergeSort Match.closer :=
  List.mergeSort_zipIdx

/-- The matches without their scores are the documents. -/
lemma scored_map_document : (store.scored v similarity).map (·.document) = store.documents := by
  rw [scored, List.map_map]
  exact List.map_id _

end Sorted

variable {store : VectorStore α} {v : Embedding} {similarity : Embedding → Embedding → UInt32}
  {ranking : List (Match α × Nat)}

namespace Ranking

/-- There is only one ranking. -/
lemma unique {other : List (Match α × Nat)} (hother : Ranking store v similarity other)
    (h : Ranking store v similarity ranking) : other = ranking := by
  refine (hother.perm.trans h.perm.symm).eq_of_pairwise ?_ hother.ordered h.ordered
  intro a b _ _ hab hba
  exact absurd hba hab.asymm

/-- A ranking is as long as the store. -/
lemma length_eq (h : Ranking store v similarity ranking) : ranking.length = store.size := by
  rw [h.perm.length_eq, placed, List.length_zipIdx, scored, List.length_map, size]

/-- The matches of a ranking are those of the store. -/
lemma map_fst_perm (h : Ranking store v similarity ranking) :
    (ranking.map Prod.fst).Perm (store.scored v similarity) := by
  have hmap := h.perm.map Prod.fst
  rwa [placed_map_fst] at hmap

/-- What stands further down in a ranking comes after. -/
lemma before (h : Ranking store v similarity ranking) (k : Nat) :
    ∀ a ∈ ranking.take k, ∀ b ∈ ranking.drop k, Before a b := by
  have hordered := h.ordered
  rw [← List.take_append_drop k ranking, List.pairwise_append] at hordered
  exact hordered.2.2

end Ranking

/-! ### Searches -/

/-- What the matches are that a search for `k` documents finds. -/
structure TopMatches (store : VectorStore α) (v : Embedding)
    (similarity : Embedding → Embedding → UInt32) (ranking : List (Match α × Nat)) (k : Nat)
    (found : List (Match α)) : Prop where
  /-- They are the first ones of the ranking. -/
  first : found = (ranking.take (min k store.size)).map Prod.fst
  length : found.length = min k store.size
  /-- Each of them is a document of the store with its similarity to the vector. -/
  scores : ∀ m ∈ found, m.document ∈ store.documents
    ∧ m.bits = similarity v m.document.embedding
  /-- No document is found more often than it is there. -/
  subperm : (found.map (·.document)).Subperm store.documents
  /-- Whatever is left out scores lower than all that is found, or the same and was added later. -/
  omitted : ∀ a ∈ ranking.take k, ∀ b ∈ ranking.drop k, Before a b

/-- The beginning of a ranking has all the properties of what a search finds. -/
lemma Ranking.topMatches (h : Ranking store v similarity ranking) (k : Nat) :
    TopMatches store v similarity ranking k ((ranking.take k).map Prod.fst) := by
  have hbegin : ((ranking.take k).map Prod.fst).Sublist (ranking.map Prod.fst) :=
    (List.take_sublist k ranking).map Prod.fst
  have hdocuments : ((ranking.map Prod.fst).map (·.document)).Perm store.documents := by
    have hmap := h.map_fst_perm.map (·.document)
    rwa [scored_map_document] at hmap
  refine ⟨?_, ?_, fun m hm => ?_, ?_, h.before k⟩
  · rw [← h.length_eq, ← List.take_eq_take_min]
  · rw [List.length_map, List.length_take, h.length_eq]
  · obtain ⟨d, hd, rfl⟩ := List.mem_map.mp (h.map_fst_perm.subset (hbegin.subset hm))
    exact ⟨hd, rfl⟩
  · exact (hbegin.map (·.document)).subperm.trans hdocuments.subperm

/-- A vector of the dimension of the store is answered with the beginning of the sorted matches, and
so is every vector if nothing was added. -/
lemma Holds.search {added : List (Document α)} (hstore : store.Holds added)
    (hv : ∀ n, store.dimension = some n → v.length = n)
    (similarity : Embedding → Embedding → UInt32) (k : Nat) :
    store.search v k similarity = .ok (((sorted store v similarity).take k).map Prod.fst) := by
  rw [VectorStore.search]
  cases hdimension : store.dimension with
  | none =>
      have hempty : store.documents = [] := by
        rw [hstore.documents, fitting_eq_nil_iff, ← dimensionOf_eq_none_iff, ← hstore.dimension,
          hdimension]
      have hnothing : sorted store v similarity = [] := by
        rw [← List.length_eq_zero_iff, (ranking_sorted store v similarity).length_eq, size, hempty]
        rfl
      rw [hnothing, List.take_nil]
      rfl
  | some n =>
      rw [List.map_take, sorted_map_fst]
      exact if_pos (hv n hdimension)

/-- How the searches for a vector go, whatever number of documents they ask for. -/
structure Ranks (store : VectorStore α) (v : Embedding)
    (similarity : Embedding → Embedding → UInt32) (ranking : List (Match α × Nat)) : Prop where
  /-- The documents are arranged by their scores, and by age among equals. -/
  isRanking : Ranking store v similarity ranking
  /-- That leaves no choice. -/
  unique : ∀ other, Ranking store v similarity other → other = ranking
  /-- A search succeeds with the beginning of the arrangement. -/
  finds : ∀ k, ∃ found, store.search v k similarity = .ok found
    ∧ TopMatches store v similarity ranking k found
  /-- A search for fewer documents finds the beginning of what a search for more finds. -/
  isPrefix : ∀ {k k' found found'}, k ≤ k' → store.search v k similarity = .ok found →
    store.search v k' similarity = .ok found' → found <+: found'

/-- Searches of a store that holds what was added. -/
lemma Holds.ranks {added : List (Document α)} (hstore : store.Holds added)
    (hv : ∀ n, store.dimension = some n → v.length = n)
    (similarity : Embedding → Embedding → UInt32) :
    Ranks store v similarity (sorted store v similarity) := by
  have hranking := ranking_sorted store v similarity
  have hsearch := hstore.search hv similarity
  refine ⟨hranking, fun other hother => hother.unique hranking,
    fun k => ⟨_, hsearch k, hranking.topMatches k⟩, ?_⟩
  intro k k' found found' hle hfound hfound'
  rw [hsearch, Except.ok.injEq] at hfound hfound'
  rw [← hfound, ← hfound']
  exact (List.take_prefix_take_left hle).map Prod.fst

/-- **Searches find the closest documents.** After any series of requests to a new store, a vector
of the dimension of the store ranks its documents by their similarities in the total order of
numbers, whatever these are, and earlier documents first among equals; a search for `k` of them
finds the first `k`. The scores of a plain search are the cosines. -/
theorem search_topMatches (requests : List (StoreRequest α)) (v : Embedding)
    (h : ∀ n, (VectorStore.run {} requests).1.dimension = some n → v.length = n) :
    (∀ similarity, ∃ ranking, Ranks (VectorStore.run {} requests).1 v similarity ranking)
      ∧ ∀ k found, (VectorStore.run {} requests).1.search v k = .ok found →
        ∀ m ∈ found, m.score = Embedding.cosine v m.document.embedding := by
  have hholds : (VectorStore.run {} requests).1.Holds (addedBy requests) := by
    simpa using holds_nil.run requests
  refine ⟨fun similarity => ⟨_, hholds.ranks h similarity⟩, fun k found hfound m hm => ?_⟩
  obtain ⟨_, hsearch, htop⟩ := (hholds.ranks h Embedding.similarity).finds k
  obtain rfl := Except.ok.inj (hsearch.symm.trans hfound)
  rw [Match.score, (htop.scores m hm).2, Embedding.similarity, Embedding.ofBits_scoreBits]

/-- A document that is added twice, one that has no length, and one that points the other way. -/
def twins : List (StoreRequest Nat) :=
  [.addAll [⟨"east", "east", 0, [1, 0]⟩, ⟨"nowhere", "nowhere", 1, [0, 0]⟩],
    .search [0, 1] 2, .add ⟨"west", "west", 2, [-1, 0]⟩, .add ⟨"east", "east", 0, [1, 0]⟩]

/-- In this store, a search to the east ranks all four documents. -/
theorem twins_topMatches :
    (∀ n, (VectorStore.run {} twins).1.dimension = some n → ([2, 0] : Embedding).length = n)
      ∧ (VectorStore.run {} twins).1.size = 4
      ∧ ∃ ranking, Ranks (VectorStore.run {} twins).1 [2, 0] Embedding.similarity ranking := by
  have hdimension : ∀ n, (VectorStore.run {} twins).1.dimension = some n →
      ([2, 0] : Embedding).length = n := by
    intro n hn
    exact Option.some.inj hn
  exact ⟨hdimension, rfl, (search_topMatches twins [2, 0] hdimension).1 Embedding.similarity⟩

end VectorStore

end AskSql
