import AskSql.Embedding

/-!
A store of vectors in memory, searched by similarity.

Documents keep the order in which they are added. The first one fixes the dimension of the store,
and a document of another dimension is left out. A search compares the vector of a question with
every document by the cosine of their angle and gives back the closest ones, earlier ones first
among equals.

* `VectorStore.add`: adds a document.
* `Embedding.cosine`, `Embedding.similarity`: how close two vectors are, as a number and in bits.
* `Embedding.rank`: the total order of numbers, in which all bits have their place.
* `VectorStore.search`: the closest documents, by this similarity or by another one.
-/

namespace AskSql

/-- A document in a store. -/
structure Document (α : Type) where
  id : String
  text : String
  payload : α
  embedding : Embedding

/-- A document that a search has found, with the bits of its score. -/
structure Match (α : Type) where
  document : Document α
  bits : UInt32

/-- The score of a match. -/
def Match.score {α : Type} (m : Match α) : Float32 := Float32.ofBits m.bits

/-! ### Similarity -/

namespace Embedding

/-- The sum of numbers from left to right. It starts at negative zero, which changes no sum. -/
def total (xs : List Float32) : Float32 := xs.foldl (· + ·) (-0.0)

/-- The sum of the products of coordinates. -/
def dot (a b : Embedding) : Float32 := total (a.zipWith (· * ·) b)

/-- The length of a vector. -/
def norm (a : Embedding) : Float32 := (dot a a).sqrt

/-- The cosine of the angle between two vectors, zero if one of them has no length. -/
def cosine (a b : Embedding) : Float32 :=
  if a.length ≠ b.length then 0
  else
    let na := norm a
    let nb := norm b
    if na == 0 || nb == 0 then 0 else dot a b / (na * nb)

/-- The bits of a score, by which it is ranked. There is only one NaN among the numbers here, and it
gets the bits of the negative one that invalid operations make, so it comes last. A machine differs
in this: a NaN keeps a sign and a payload of its own, and is ranked by them, so that a positive one
comes first. A search by such bits takes them as its similarity. -/
def scoreBits (score : Float32) : UInt32 := if score.isNaN then 0xFFC00000 else score.toBits

/-- How close two vectors are: the bits of their cosine. -/
def similarity (a b : Embedding) : UInt32 := scoreBits (cosine a b)

/-- The place of bits in the total order of numbers: numbers stand by size, negative zero below
zero, and NaNs below all numbers if they have a minus sign, else above. -/
def rank (bits : UInt32) : Int :=
  if bits.toNat < 0x80000000 then bits.toNat else 0x7FFFFFFF - (bits.toNat : Int)

end Embedding

/-- Whether a match comes before another one, or is as close as it. -/
def Match.closer {α : Type} (a b : Match α) : Bool :=
  Embedding.rank b.bits ≤ Embedding.rank a.bits

/-! ### The store -/

/-- Documents in the order in which they were added, and the dimension that the first one fixed. -/
structure VectorStore (α : Type) where
  documents : List (Document α) := []
  dimension : Option Nat := none

namespace VectorStore

variable {α : Type}

/-- Adds a document, unless its dimension is not that of the store. -/
def add (store : VectorStore α) (d : Document α) : VectorStore α :=
  let dimension := store.dimension.getD d.embedding.length
  ⟨if d.embedding.length = dimension then store.documents ++ [d] else store.documents,
    some dimension⟩

/-- Adds documents from left to right. -/
def addAll (store : VectorStore α) (ds : List (Document α)) : VectorStore α := ds.foldl add store

/-- The number of documents. -/
def size (store : VectorStore α) : Nat := store.documents.length

/-- Whether there are no documents. -/
def isEmpty (store : VectorStore α) : Bool := store.documents.isEmpty

/-- Every document with its similarity to a vector. -/
def scored (store : VectorStore α) (v : Embedding) (similarity : Embedding → Embedding → UInt32) :
    List (Match α) :=
  store.documents.map fun d => ⟨d, similarity v d.embedding⟩

/-- The closest documents to a vector, at most `k` of them. -/
def search (store : VectorStore α) (v : Embedding) (k : Nat)
    (similarity : Embedding → Embedding → UInt32 := Embedding.similarity) :
    Except Failure (List (Match α)) :=
  match store.dimension with
  | none => .ok []
  | some dimension =>
      if v.length = dimension then
        .ok (((store.scored v similarity).mergeSort Match.closer).take k)
      else .error (.embedding (.wrongDimension v.length dimension))

end VectorStore

end AskSql
