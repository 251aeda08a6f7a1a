import AskSql.Proofs.Json.Values
import AskSql.Proofs.Paths
import AskSql.VectorStore
import Mathlib.Data.List.Forall2

/-!
What is read from the reply of an embedding model.

A reply carries its vector as an array in the first item of its data. A reply without that array
comes to a failure that says which part of the way to it is missing. With it the reply comes to a
vector always: the numbers of the array are rounded in their order, and its other items are passed
over. So the vector is as long as the array just if the array holds nothing but numbers.

* `HasData`, `Carries`: how far the way to the vector leads in a reply, and the array at its end.
* `Rounds`: the numbers of an array item for item, rounded to 32 bits.
* `Complete`: an outcome in which no item of the array is lost.
* `Reads`, `vector_reads`: what a reply comes to, and when it is complete.
* `embed_of_reply`: the model gives what the reply comes to.
-/

namespace AskSql.EmbeddingClient

variable {reply : Json} {items : List Json}

/-! ### The way to the vector -/

/-- The data of a reply are an array with a first item. -/
def HasData (reply : Json) : Prop :=
  ∃ first others, reply.member? "data" = some (.array (first :: others))

/-- The array that a reply carries in the place of the vector. -/
def Carries (reply : Json) (items : List Json) : Prop :=
  ∃ first others, reply.member? "data" = some (.array (first :: others))
    ∧ first.member? "embedding" = some (.array items)

/-- The numbers of an array, item for item, rounded to 32 bits. -/
def Rounds (items : List Json) (v : Embedding) : Prop :=
  List.Forall₂ (fun item x => item.number?.map Float.toFloat32 = some x) items v

/-- Whether a value is a number. -/
def isNumber (value : Json) : Bool := value.number?.isSome

/-- An outcome in which no item of the array is lost: a failure of the embedding model, or a vector
with as many entries as the array has items. -/
def Complete (reply : Json) : Except Failure Embedding → Prop
  | .error failure => ∃ fault, failure = .embedding fault
  | .ok v => ∃ items, Carries reply items ∧ Rounds items v

/-- A reply carries one array at most. -/
lemma Carries.unique {others : List Json} (h : Carries reply items) (h' : Carries reply others) :
    items = others := by
  obtain ⟨first, rest, hdata, hitems⟩ := h
  obtain ⟨first', rest', hdata', hitems'⟩ := h'
  rw [hdata] at hdata'
  obtain ⟨rfl, -⟩ : first = first' ∧ rest = rest' := by simpa using hdata'
  rw [hitems] at hitems'
  simpa using hitems'

/-! ### The numbers of an array -/

/-- Items that are no numbers are passed over. -/
lemma rounds_filter (items : List Json) :
    Rounds (items.filter isNumber) (items.filterMap fun x => x.number?.map Float.toFloat32) := by
  induction items with
  | nil => exact .nil
  | cons item items ih =>
      cases hnumber : item.number? with
      | none => simpa [isNumber, hnumber] using ih
      | some value =>
          have hfirst : item.number?.map Float.toFloat32 = some value.toFloat32 := by
            rw [hnumber, Option.map_some]
          have hrounds : Rounds (item :: items.filter isNumber) (value.toFloat32
              :: items.filterMap fun x => x.number?.map Float.toFloat32) := .cons hfirst ih
          simpa [isNumber, hnumber] using hrounds

/-- The vector is as long as the array just if nothing is passed over. -/
lemma rounds_filterMap_iff :
    Rounds items (items.filterMap fun x => x.number?.map Float.toFloat32)
      ↔ ∀ item ∈ items, isNumber item = true := by
  constructor
  · intro h
    have hlength := h.length_eq.symm
    rw [List.filterMap_length_eq_length] at hlength
    intro item hitem
    simpa [isNumber] using hlength item hitem
  · intro h
    have hrounds := rounds_filter items
    rwa [List.filter_eq_self.mpr h] at hrounds

/-! ### Replies -/

lemma vector_of_carries (h : Carries reply items) :
    vector reply = .ok (items.filterMap fun x => x.number?.map Float.toFloat32) := by
  obtain ⟨first, others, hdata, hitems⟩ := h
  rw [vector, Json.bind_items?_eq_some_iff.mpr hdata]
  dsimp only
  rw [Json.bind_items?_eq_some_iff.mpr hitems]

lemma vector_of_hasData (h : HasData reply) (hnone : ∀ items, ¬ Carries reply items) :
    vector reply = .error (.embedding .noVector) := by
  obtain ⟨first, others, hdata⟩ := h
  have harray : (first.member? "embedding").bind Json.items? = none := by
    rw [Option.eq_none_iff_forall_ne_some]
    intro items hitems
    exact hnone items ⟨first, others, hdata, Json.bind_items?_eq_some_iff.mp hitems⟩
  rw [vector, Json.bind_items?_eq_some_iff.mpr hdata]
  dsimp only
  rw [harray]

lemma vector_of_not_hasData (h : ¬ HasData reply) : vector reply = .error (.embedding .noData) := by
  rw [vector]
  split
  · next first others hdata => exact absurd ⟨first, others, Json.bind_items?_eq_some_iff.mp hdata⟩ h
  · rfl

/-- What a reply comes to. -/
structure Reads (reply : Json) (outcome : Except Failure Embedding) : Prop where
  /-- Without data, or without an array in the place of the vector, a failure that says so. -/
  noData : ¬ HasData reply → outcome = .error (.embedding .noData)
  noVector : HasData reply → (∀ items, ¬ Carries reply items) →
    outcome = .error (.embedding .noVector)
  /-- Otherwise the numbers of the array. -/
  numbers : ∀ items, Carries reply items →
    ∃ v, outcome = .ok v ∧ Rounds (items.filter isNumber) v
  /-- No item is lost just if the array holds nothing but numbers. -/
  complete_iff : Complete reply outcome
    ↔ ∀ items, Carries reply items → ∀ item ∈ items, isNumber item = true

lemma complete_vector_iff (reply : Json) : Complete reply (vector reply)
    ↔ ∀ items, Carries reply items → ∀ item ∈ items, isNumber item = true := by
  by_cases h : ∃ items, Carries reply items
  · obtain ⟨items, hitems⟩ := h
    rw [vector_of_carries hitems]
    constructor
    · rintro ⟨found, hfound, hrounds⟩ others hothers
      obtain rfl := hitems.unique hfound
      obtain rfl := hitems.unique hothers
      exact rounds_filterMap_iff.mp hrounds
    · intro hall
      exact ⟨items, hitems, rounds_filterMap_iff.mpr (hall items hitems)⟩
  · have hnone : ∀ items, ¬ Carries reply items := not_exists.mp h
    have hfails : Complete reply (vector reply) := by
      by_cases hdata : HasData reply
      · rw [vector_of_hasData hdata hnone]
        exact ⟨_, rfl⟩
      · rw [vector_of_not_hasData hdata]
        exact ⟨_, rfl⟩
    exact iff_of_true hfails fun items hitems => absurd hitems (hnone items)

lemma vector_reads (reply : Json) : Reads reply (vector reply) where
  noData := vector_of_not_hasData
  noVector := vector_of_hasData
  numbers items hitems := ⟨_, vector_of_carries hitems, rounds_filter items⟩
  complete_iff := complete_vector_iff reply

/-! ### From the reply to the model -/

/-- An online client gives what the reply comes to. -/
lemma embed_of_reply {σ : Type} {client : EmbeddingClient} (honline : client.isOffline = false)
    {transport : Http.Transport σ} {mode : CallMode} {text : String} {before after : σ}
    (h : Http.exchange transport mode (client.request text) faults before = (.ok reply, after)) :
    client.embed transport mode text before = (vector reply, after) := by
  rw [embed_eq, if_neg (ne_true_of_eq_false honline), Session.bind_eq_andThen,
    Session.andThen_of_ok h]
  cases vector reply <;> rfl

/-- **What is read from the reply of an embedding model.** Whatever the reply is, it comes to a
failure of the embedding model if it does not carry an array in the place of the vector, and else to
the numbers of that array in their order. So an array is read in full just if all of its items are
numbers. What the reply comes to is what the model gives for a text, whoever brings the reply. -/
theorem reply_readsNumbers (reply : Json) :
    Reads reply (vector reply)
      ∧ ∀ {σ : Type} (client : EmbeddingClient) (transport : Http.Transport σ) (mode : CallMode)
          (text : String) (before after : σ), client.isOffline = false →
        Http.exchange transport mode (client.request text) faults before = (.ok reply, after) →
          client.embed transport mode text before = (vector reply, after) :=
  ⟨vector_reads reply, fun _ _ _ _ _ _ honline h => embed_of_reply honline h⟩

/-- A reply of two numbers. -/
def whole : Json :=
  .ofDictionary (.ofList [("data", .array [.ofDictionary (.ofList
    [("embedding", .array [.integer 1, .integer 2])])])])

/-- A service that gives it for every text. -/
def wholeService : Http.Transport Unit where
  send _ _ state := (.ok ⟨200, some (String.ofList whole.write)⟩, state)

/-- A client with a key, which asks the service. -/
def wholeClient : EmbeddingClient := ⟨"key", "http://localhost", "m"⟩

lemma parse_whole : Json.parse (String.ofList whole.write) = some whole := by
  have hnumbers : ∀ item ∈ [Json.integer 1, Json.integer 2], Json.Plain 0 item :=
    List.forall_mem_cons.mpr ⟨.integer 0 (by decide),
      List.forall_mem_singleton.mpr (.integer 0 (by decide))⟩
  have hitem : Json.Plain 2 (.ofDictionary (.ofList
      [("embedding", .array [.integer 1, .integer 2])])) :=
    .object _ (List.forall_mem_singleton.mpr (.array hnumbers))
  have hreply : Json.Plain 4 whole :=
    .object _ (List.forall_mem_singleton.mpr (.array (List.forall_mem_singleton.mpr hitem)))
  exact hreply.parse_write (by decide)

/-- Both numbers come from the service into the vector. -/
theorem whole_readsNumbers :
    wholeClient.isOffline = false
      ∧ Http.exchange wholeService .blocking (wholeClient.request "hi") faults () = (.ok whole, ())
      ∧ wholeClient.embed wholeService .blocking "hi" () = (vector whole, ())
      ∧ Complete whole (vector whole)
      ∧ vector whole = .ok [(1 : Float).toFloat32, (2 : Float).toFloat32] := by
  have honline : wholeClient.isOffline = false := by decide
  have hvalue : Http.Reply.value ⟨200, some (String.ofList whole.write)⟩ faults = .ok whole := by
    rw [Http.Reply.value, if_pos (by decide)]
    dsimp only
    rw [parse_whole]
  have hexchange : Http.exchange wholeService .blocking (wholeClient.request "hi") faults ()
      = (.ok whole, ()) := congrArg (·, ()) hvalue
  obtain ⟨hreads, hmodel⟩ := reply_readsNumbers whole
  have hembed := hmodel wholeClient wholeService .blocking "hi" () () honline hexchange
  refine ⟨honline, hexchange, hembed, hreads.complete_iff.mpr fun items hitems => ?_, rfl⟩
  obtain ⟨first, others, hdata, hembedding⟩ := hitems
  cases hdata
  cases hembedding
  simp [isNumber, Json.number?]

/-- A reply in which a text stands among the numbers. -/
def torn : Json :=
  .object [("data", .array [.object [("embedding", .array [.real 0.5, .text "x", .real 2.0])]])]

/-- The text is passed over, and the vector is one entry short. It is no failure, so a store of the
dimension that the array has leaves out a document with that vector without a word. -/
theorem torn_shortened :
    Carries torn [.real 0.5, .text "x", .real 2.0]
      ∧ vector torn = .ok [(0.5 : Float).toFloat32, (2.0 : Float).toFloat32]
      ∧ ¬ Complete torn (vector torn)
      ∧ ∀ (store : VectorStore Unit) (d : Document Unit), store.dimension = some 3 →
        vector torn = .ok d.embedding → (store.add d).documents = store.documents := by
  have hcarries : Carries torn [.real 0.5, .text "x", .real 2.0] := ⟨_, _, rfl, rfl⟩
  have hvector : vector torn = .ok [(0.5 : Float).toFloat32, (2.0 : Float).toFloat32] := rfl
  refine ⟨hcarries, hvector, fun hcomplete => ?_, fun store d hstore hd => ?_⟩
  · have htext := (complete_vector_iff torn).mp hcomplete _ hcarries (.text "x") (by simp)
    cases htext
  · rw [hvector] at hd
    have hlength : d.embedding.length = 2 := by rw [← Except.ok.inj hd]; rfl
    simp [VectorStore.add, hstore, hlength]

end AskSql.EmbeddingClient
