import AskSql.Proofs.VectorStore.Ranking

/-!
The ranking of a store that grows.

A document that a store accepts comes in at one place of the ranking and moves nothing else. All
scores that are not lower than its own stay ahead of it, equal ones too, since the documents behind
them are older; all that are lower stay behind it. So a search for everything finds what it found
before, with one match more, and a search for `k` documents finds no old document that it would not
have found before.

* `VectorStore.Accepts`: the store does not leave a document out.
* `VectorStore.Ranking.of_add`: the ranking of the grown store is the one from before, with one
  match put in.
* `VectorStore.Grows`: searches before and after a document was added.
* `VectorStore.add_grows`: what is true of every store that a series of requests leads to.
-/

namespace AskSql

variable {α : Type}

/-- What was put in between two parts is taken out again. -/
lemma eraseIdx_between {β : Type} (before after : List β) (x : β) :
    (before ++ x :: after).eraseIdx before.length = before ++ after := by
  rw [List.eraseIdx_append_of_length_le le_rfl, Nat.sub_self, List.eraseIdx_cons_zero]

/-- Without what was put in, a beginning is a beginning of what was there before. -/
lemma eraseIdx_take_isPrefix {β : Type} (before after : List β) (x : β) (k : Nat) :
    ((before ++ x :: after).take k).eraseIdx before.length <+: (before ++ after).take k := by
  rcases Nat.le_total k before.length with hle | hle
  · -- the beginning ends before the place
    rw [List.take_append_of_le_length hle, List.take_append_of_le_length hle,
      List.eraseIdx_of_length_le (by rw [List.length_take]; omega)]
  · obtain ⟨j, rfl⟩ := Nat.exists_eq_add_of_le hle
    rw [List.take_length_add_append, List.take_length_add_append]
    cases j with
    | zero =>
        rw [List.take_zero, List.take_zero, List.append_nil, List.eraseIdx_of_length_le le_rfl]
    | succ j =>
        have hshorter : after.take j <+: after.take (j + 1) :=
          List.take_prefix_take_left (Nat.le_succ j)
        rw [List.take_succ_cons, eraseIdx_between]
        exact (List.prefix_append_right_inj before).mpr hshorter

namespace VectorStore

variable {store : VectorStore α} {d : Document α} {v : Embedding}
  {similarity : Embedding → Embedding → UInt32}

/-! ### One more document -/

/-- The store does not leave the document out. -/
def Accepts (store : VectorStore α) (d : Document α) : Prop :=
  (store.add d).size = store.size + 1

/-- An accepted document stands behind all others. -/
lemma Accepts.documents (h : store.Accepts d) :
    (store.add d).documents = store.documents ++ [d] := by
  simp only [Accepts, size, add] at h ⊢
  split_ifs at h ⊢ with hfits
  · rfl
  · omega

/-- A store that has a dimension keeps it. -/
lemma dimension_add {n : Nat} (h : store.dimension = some n) (d : Document α) :
    (store.add d).dimension = some n := by
  rw [add, h, Option.getD_some]

/-- The match of an accepted document, with its place. -/
lemma Accepts.placed (h : store.Accepts d) :
    (store.add d).placed v similarity
      = store.placed v similarity ++ [(⟨d, similarity v d.embedding⟩, store.size)] := by
  have hscored : (store.add d).scored v similarity
      = store.scored v similarity ++ [⟨d, similarity v d.embedding⟩] := by
    rw [scored, h.documents, List.map_append]
    rfl
  have hlength : (store.scored v similarity).length = store.size := List.length_map _
  rw [VectorStore.placed, hscored, List.zipIdx_append, hlength, Nat.zero_add]
  rfl

/-- The places of a store are smaller than its size. -/
lemma place_lt_size {a : Match α × Nat} (h : a ∈ store.placed v similarity) : a.2 < store.size := by
  have hlength : (store.scored v similarity).length = store.size := List.length_map _
  have hlt := List.snd_lt_of_mem_zipIdx h
  omega

/-- The ranking of the grown store is the one from before, with the match of the new document put
in. -/
lemma Ranking.of_add {ranking : List (Match α × Nat)} (haccepts : store.Accepts d)
    (h : Ranking (store.add d) v similarity ranking) :
    ∃ before after,
      ranking = before ++ (⟨d, similarity v d.embedding⟩, store.size) :: after
        ∧ Ranking store v similarity (before ++ after) := by
  have hperm := h.perm
  rw [haccepts.placed] at hperm
  have hmem : (⟨d, similarity v d.embedding⟩, store.size) ∈ ranking :=
    hperm.mem_iff.mpr (List.mem_append_right _ List.mem_cons_self)
  obtain ⟨before, after, rfl⟩ := List.append_of_mem hmem
  refine ⟨before, after, rfl, ?_, ?_⟩
  · have hfront := List.perm_middle.symm.trans (hperm.trans (List.perm_append_singleton _ _))
    exact hfront.cons_inv
  · exact h.ordered.sublist ((List.sublist_cons_self _ _).append_left before)

/-! ### Searches before and after -/

/-- The searches for a vector before and after a document was added. What a search for everything
finds before is cut in two where the new match comes in. -/
structure Grows (store : VectorStore α) (d : Document α) (v : Embedding)
    (similarity : Embedding → Embedding → UInt32) (ahead behind : List (Match α)) : Prop where
  /-- All documents were found before. -/
  length : ahead.length + behind.length = store.size
  searched : ∀ k, store.search v k similarity = .ok ((ahead ++ behind).take k)
  /-- The new match comes in between the two parts, and nothing else changes. -/
  searches : ∀ k, (store.add d).search v k similarity
    = .ok ((ahead ++ ⟨d, similarity v d.embedding⟩ :: behind).take k)
  /-- What scores the same as the new document, or higher, is ahead of it. -/
  ahead_not_below : ∀ m ∈ ahead, ¬ Embedding.Below m.bits (similarity v d.embedding)
  /-- What is behind it scores lower. -/
  behind_below : ∀ m ∈ behind, Embedding.Below m.bits (similarity v d.embedding)
  /-- Without the new match, a search for everything finds what it found before. -/
  erased : ∀ k found found', store.size < k → store.search v k similarity = .ok found →
    (store.add d).search v k similarity = .ok found' →
      found'[ahead.length]? = some ⟨d, similarity v d.embedding⟩
        ∧ found'.eraseIdx ahead.length = found
  /-- Without the new match, any search finds the beginning of what it found before. -/
  kept : ∀ k found found', store.search v k similarity = .ok found →
    (store.add d).search v k similarity = .ok found' → found'.eraseIdx ahead.length <+: found

/-- Searches in a store that holds what was added, and in the same store with one document more. -/
lemma Holds.grows {added : List (Document α)} (hstore : store.Holds added)
    (haccepts : store.Accepts d) (hv : (store.add d).dimension = some v.length)
    (similarity : Embedding → Embedding → UInt32) :
    ∃ ahead behind, Grows store d v similarity ahead behind := by
  have hgrown := ranking_sorted (store.add d) v similarity
  obtain ⟨before, after, hsorted, hranking⟩ := hgrown.of_add haccepts
  have hold : ∀ n, store.dimension = some n → v.length = n := by
    intro n hn
    exact (Option.some.inj ((dimension_add hn d).symm.trans hv)).symm
  have hnew : ∀ n, (store.add d).dimension = some n → v.length = n := by
    intro n hn
    exact Option.some.inj (hv.symm.trans hn)
  have hsearched : ∀ k, store.search v k similarity
      = .ok ((before.map Prod.fst ++ after.map Prod.fst).take k) := by
    intro k
    rw [hstore.search hold, (ranking_sorted store v similarity).unique hranking, List.map_take,
      List.map_append]
  have hsearches : ∀ k, (store.add d).search v k similarity
      = .ok ((before.map Prod.fst
          ++ ⟨d, similarity v d.embedding⟩ :: after.map Prod.fst).take k) := by
    intro k
    rw [(hstore.add d).search hnew, hsorted, List.map_take, List.map_append, List.map_cons]
  have hlength : (before.map Prod.fst).length + (after.map Prod.fst).length = store.size := by
    rw [List.length_map, List.length_map, ← List.length_append, hranking.length_eq]
  have hordered := hgrown.ordered
  rw [hsorted, List.pairwise_append, List.pairwise_cons] at hordered
  obtain ⟨-, ⟨hbehind, -⟩, hahead⟩ := hordered
  refine ⟨before.map Prod.fst, after.map Prod.fst, hlength, hsearched, hsearches, ?_, ?_, ?_, ?_⟩
  · intro m hm
    obtain ⟨a, ha, rfl⟩ := List.mem_map.mp hm
    have hbefore := before_iff.mp (hahead a ha _ List.mem_cons_self)
    rw [← Embedding.rank_lt_iff]
    dsimp only at hbefore
    omega
  · intro m hm
    obtain ⟨b, hb, rfl⟩ := List.mem_map.mp hm
    -- an equal score would have to come with a later place, and there is none
    have hplace : b.2 < store.size :=
      place_lt_size (hranking.perm.subset (List.mem_append_right _ hb))
    have hafter := before_iff.mp (hbehind b hb)
    rw [← Embedding.rank_lt_iff]
    dsimp only at hafter
    omega
  · intro k found found' hk hfound hfound'
    obtain rfl := Except.ok.inj ((hsearched k).symm.trans hfound)
    obtain rfl := Except.ok.inj ((hsearches k).symm.trans hfound')
    rw [List.take_of_length_le (by simp only [List.length_append, List.length_cons]; omega),
      List.take_of_length_le (by rw [List.length_append]; omega)]
    exact ⟨by simp, eraseIdx_between _ _ _⟩
  · intro k found found' hfound hfound'
    obtain rfl := Except.ok.inj ((hsearched k).symm.trans hfound)
    obtain rfl := Except.ok.inj ((hsearches k).symm.trans hfound')
    exact eraseIdx_take_isPrefix _ _ _ k

/-- **A ranking is stable under growth.** After any series of requests to a new store, let it accept
one more document, and let a vector have the dimension of the store. Then, whatever the similarities
are, the match of the new document comes in at one place of what a search for everything finds,
behind all matches that score the same, and the others keep their scores and their order; and an
old document that is among the closest `k` was among them before. -/
theorem add_grows (requests : List (StoreRequest α)) (d : Document α) (v : Embedding)
    (haccepts : (VectorStore.run {} requests).1.Accepts d)
    (hv : ((VectorStore.run {} requests).1.add d).dimension = some v.length) :
    ∀ similarity, ∃ ahead behind,
      Grows (VectorStore.run {} requests).1 d v similarity ahead behind := by
  have hholds : (VectorStore.run {} requests).1.Holds (addedBy requests) := by
    simpa using holds_nil.run requests
  exact hholds.grows haccepts hv

/-- A third document that points east, and is further away than the twins. -/
def thirdEast : Document Nat := ⟨"east", "east", 3, [3, 0]⟩

/-- In the store of the twins it comes in at one place among four matches. -/
theorem twins_grows :
    (VectorStore.run {} twins).1.Accepts thirdEast
      ∧ ((VectorStore.run {} twins).1.add thirdEast).dimension = some ([2, 0] : Embedding).length
      ∧ ∃ ahead behind,
        Grows (VectorStore.run {} twins).1 thirdEast [2, 0] Embedding.similarity ahead behind
          ∧ ahead.length + behind.length = 4 := by
  obtain ⟨ahead, behind, hgrows⟩ := add_grows twins thirdEast [2, 0] rfl rfl Embedding.similarity
  exact ⟨rfl, rfl, ahead, behind, hgrows, hgrows.length⟩

end VectorStore

end AskSql
