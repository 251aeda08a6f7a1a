import AskSql.Proofs.Json.Values
import AskSql.Proofs.Paths

/-!
What is read from the reply of a language model.

A reply carries an answer if the first of its choices is not filtered out and has words for its
message. Nothing else about it counts: what stands in the other choices, or next to them, is not
looked at. A reply may also have a member for an error. One that is null reports nothing, as with
any member that may be missing; but a reply is refused for such a member already, so with it an
answer is lost.

* `Says`, `Carries`: the words of a choice, and the answer that a reply carries.
* `ReportsError`: a reply whose member for an error says something.
* `Fair`: an outcome in which an answer is accepted just if the reply reports no error.
* `Weighs`, `content_weighs`: what a reply comes to, and when that is fair.
* `complete_of_reply`: the model gives what the reply comes to.
-/

namespace AskSql.ChatClient

variable {reply choice : Json} {words : String}

/-! ### The way to the answer -/

/-- The words of a choice, if there are any and the choice is not filtered out. -/
structure Says (choice : Json) (words : String) : Prop where
  unfiltered : choice.member? "finish_reason" ≠ some (.text "content_filter")
  message : ∃ message, choice.member? "message" = some message
    ∧ message.member? "content" = some (.text words)
  nonempty : words ≠ ""

/-- The answer that a reply carries, which is what the first of its choices says. -/
def Carries (reply : Json) (words : String) : Prop :=
  ∃ first others, reply.member? "choices" = some (.array (first :: others)) ∧ Says first words

/-- The member for an error is there and is not null. -/
def ReportsError (reply : Json) : Prop := ∃ error, reply.given? "error" = some error

/-- An outcome in which an answer is accepted just if the reply reports no error, and everything
else is a failure of the language model. -/
structure Fair (reply : Json) (outcome : Except Failure String) : Prop where
  accepted_iff : ∀ words, outcome = .ok words ↔ ¬ ReportsError reply ∧ Carries reply words
  refused : ∀ failure, outcome = .error failure → ∃ fault, failure = .llm fault

lemma not_reportsError_iff :
    ¬ ReportsError reply
      ↔ reply.member? "error" = none ∨ reply.member? "error" = some .null := by
  rw [← Json.given?_eq_none_iff, ReportsError, ← Option.isSome_iff_exists,
    Option.not_isSome_iff_eq_none]

lemma choiceContent_eq_some_iff :
    choiceContent choice = some words
      ↔ ∃ message, choice.member? "message" = some message
          ∧ message.member? "content" = some (.text words) := by
  rw [choiceContent, Json.bind_text?_eq_some_iff, Option.bind_eq_some_iff]

/-! ### Replies -/

lemma content_of_error {error : Json} (h : reply.member? "error" = some error) :
    content reply = .error (.llm (.errorReply error)) := by
  rw [content, h]

/-- Without a member for an error, the answer is accepted. -/
lemma content_of_carries (herror : reply.member? "error" = none) (h : Carries reply words) :
    content reply = .ok words := by
  obtain ⟨first, others, hchoices, hfirst⟩ := h
  rw [content, herror]
  dsimp only
  rw [Json.bind_items?_eq_some_iff.mpr hchoices]
  dsimp only
  rw [if_neg (mt Json.bind_text?_eq_some_iff.mp hfirst.unfiltered),
    choiceContent_eq_some_iff.mpr hfirst.message]
  exact if_neg hfirst.nonempty

/-- Only a reply with a first choice is accepted, and without a member for an error. -/
lemma choices_of_content (h : content reply = .ok words) :
    reply.member? "error" = none
      ∧ ∃ first others, reply.member? "choices" = some (.array (first :: others)) := by
  rw [content] at h
  split at h
  · cases h
  · next herror =>
      refine ⟨herror, ?_⟩
      split at h
      · cases h
      · cases h
      · next first others hchoices =>
          exact ⟨first, others, Json.bind_items?_eq_some_iff.mp hchoices⟩

/-- What is accepted is an answer. -/
lemma carries_of_content (h : content reply = .ok words) :
    reply.member? "error" = none ∧ Carries reply words := by
  obtain ⟨herror, first, others, hchoices⟩ := choices_of_content h
  refine ⟨herror, first, others, hchoices, ?_⟩
  rw [content, herror, Json.bind_items?_eq_some_iff.mpr hchoices] at h
  dsimp only at h
  split_ifs at h with hfiltered
  split at h
  · cases h
  · next found hfound =>
      split_ifs at h with hempty
      obtain rfl := Except.ok.inj h
      exact ⟨mt Json.bind_text?_eq_some_iff.mpr hfiltered, choiceContent_eq_some_iff.mp hfound,
        hempty⟩

lemma content_eq_ok_iff :
    content reply = .ok words ↔ reply.member? "error" = none ∧ Carries reply words :=
  ⟨carries_of_content, fun h => content_of_carries h.1 h.2⟩

/-- Whichever check a reply does not pass, the failure is one of the language model. -/
lemma llm_of_content {failure : Failure} (h : content reply = .error failure) :
    ∃ fault, failure = .llm fault := by
  rw [content] at h
  (repeat' split at h) <;> cases h <;> exact ⟨_, rfl⟩

/-- What a reply comes to. -/
structure Weighs (reply : Json) (outcome : Except Failure String) : Prop where
  /-- An answer is accepted just if there is no member for an error. -/
  accepted_iff : ∀ words,
    outcome = .ok words ↔ reply.member? "error" = none ∧ Carries reply words
  /-- Everything else is a failure of the language model. -/
  refused : ∀ failure, outcome = .error failure → ∃ fault, failure = .llm fault
  /-- The other choices do not matter. -/
  first_decides : ∀ {other first : Json} {others others' : List Json},
    reply.member? "choices" = some (.array (first :: others)) →
      other.member? "choices" = some (.array (first :: others')) →
        other.member? "error" = reply.member? "error" →
          ∀ words, content other = .ok words ↔ outcome = .ok words
  /-- An answer is lost just if a null stands for the error. -/
  fair_iff : Fair reply outcome
    ↔ ¬ (reply.member? "error" = some .null ∧ ∃ words, Carries reply words)

/-- Replies with the same first choice carry the same answer. -/
lemma carries_iff_of_first {first : Json} {others : List Json}
    (h : reply.member? "choices" = some (.array (first :: others))) :
    Carries reply words ↔ Says first words := by
  constructor
  · rintro ⟨first', others', hchoices, hfirst⟩
    rw [h] at hchoices
    obtain ⟨rfl, -⟩ : first = first' ∧ others = others' := by simpa using hchoices
    exact hfirst
  · intro hfirst
    exact ⟨first, others, h, hfirst⟩

lemma fair_content_iff (reply : Json) :
    Fair reply (content reply)
      ↔ ¬ (reply.member? "error" = some .null ∧ ∃ words, Carries reply words) := by
  constructor
  · rintro hfair ⟨hnull, words, hwords⟩
    have hok := (hfair.accepted_iff words).mpr ⟨not_reportsError_iff.mpr (.inr hnull), hwords⟩
    rw [content_of_error hnull] at hok
    cases hok
  · intro h
    refine ⟨fun words => content_eq_ok_iff.trans (and_congr_left fun hwords => ?_),
      fun _ => llm_of_content⟩
    have hnull : reply.member? "error" ≠ some .null := fun hnull => h ⟨hnull, words, hwords⟩
    rw [not_reportsError_iff, or_iff_left hnull]

lemma content_weighs (reply : Json) : Weighs reply (content reply) where
  accepted_iff _ := content_eq_ok_iff
  refused _ := llm_of_content
  first_decides hreply hother herror words := by
    rw [content_eq_ok_iff, content_eq_ok_iff, herror, carries_iff_of_first hreply,
      carries_iff_of_first hother]
  fair_iff := fair_content_iff reply

/-! ### From the reply to the model -/

/-- An online client gives what the reply comes to. -/
lemma complete_of_reply {σ : Type} {client : ChatClient} (honline : client.isOffline = false)
    {transport : Http.Transport σ} {mode : CallMode} {prompt : String} {before after : σ}
    (h : Http.exchange transport mode (client.request prompt) faults before = (.ok reply, after)) :
    client.complete transport mode prompt before = (content reply, after) := by
  rw [complete_eq, if_neg (ne_true_of_eq_false honline), Session.bind_eq_andThen,
    Session.andThen_of_ok h]
  cases content reply <;> rfl

/-- **What is read from the reply of a language model.** Whatever the reply is, it comes to the
answer that it carries if it has no member for an error, and else to a failure of the language
model. So the one thing that goes wrong is an answer next to a null in the place of the error. What
the reply comes to is what the model gives for a prompt, whoever brings the reply. -/
theorem reply_weighsAnswers (reply : Json) :
    Weighs reply (content reply)
      ∧ ∀ {σ : Type} (client : ChatClient) (transport : Http.Transport σ) (mode : CallMode)
          (prompt : String) (before after : σ), client.isOffline = false →
        Http.exchange transport mode (client.request prompt) faults before = (.ok reply, after) →
          client.complete transport mode prompt before = (content reply, after) :=
  ⟨content_weighs reply, fun _ _ _ _ _ _ honline h => complete_of_reply honline h⟩

/-- A choice with words, which has come to its end. -/
def spoken : Json :=
  .ofDictionary (.ofList [("finish_reason", .text "stop"),
    ("message", .ofDictionary (.ofList [("content", .text "SELECT 1")]))])

/-- A reply with the choice and another one, which is null. -/
def plain : Json := .ofDictionary (.ofList [("choices", .array [spoken, .null])])

/-- A service that gives it for every prompt. -/
def plainService : Http.Transport Unit where
  send _ _ state := (.ok ⟨200, some (String.ofList plain.write)⟩, state)

/-- A client with a key, which asks the service. -/
def plainClient : ChatClient := { apiKey := "key", modelName := "m", baseUrl := "http://localhost" }

lemma says_spoken : Says spoken "SELECT 1" where
  unfiltered := by
    have hstop : spoken.member? "finish_reason" = some (.text "stop") := rfl
    simp [hstop]
  message := ⟨_, rfl, rfl⟩
  nonempty := by decide

lemma parse_plain : Json.parse (String.ofList plain.write) = some plain := by
  have hmessage : Json.Plain 1 (.ofDictionary (.ofList [("content", .text "SELECT 1")])) :=
    .object _ (List.forall_mem_singleton.mpr (.text 0 _))
  have hchoice : Json.Plain 2 spoken :=
    .object _ (List.forall_mem_cons.mpr ⟨.text 1 _, List.forall_mem_singleton.mpr hmessage⟩)
  have hreply : Json.Plain 4 plain :=
    .object _ (List.forall_mem_singleton.mpr
      (.array (List.forall_mem_cons.mpr ⟨hchoice, List.forall_mem_singleton.mpr (.null 2)⟩)))
  exact hreply.parse_write (by decide)

/-- The words come from the service into the completion. -/
theorem plain_weighsAnswers :
    plainClient.isOffline = false
      ∧ Http.exchange plainService .blocking (plainClient.request "hi") faults () = (.ok plain, ())
      ∧ plainClient.complete plainService .blocking "hi" () = (content plain, ())
      ∧ Fair plain (content plain)
      ∧ content plain = .ok "SELECT 1" := by
  have honline : plainClient.isOffline = false := by decide
  have hvalue : Http.Reply.value ⟨200, some (String.ofList plain.write)⟩ faults = .ok plain := by
    rw [Http.Reply.value, if_pos (by decide)]
    dsimp only
    rw [parse_plain]
  have hexchange : Http.exchange plainService .blocking (plainClient.request "hi") faults ()
      = (.ok plain, ()) := congrArg (·, ()) hvalue
  obtain ⟨hweighs, hmodel⟩ := reply_weighsAnswers plain
  have herror : plain.member? "error" = none := rfl
  have hcomplete := hmodel plainClient plainService .blocking "hi" () () honline hexchange
  refine ⟨honline, hexchange, hcomplete, hweighs.fair_iff.mpr fun hnull => ?_,
    (hweighs.accepted_iff _).mpr ⟨herror, ?_⟩⟩
  · rw [herror] at hnull
    cases hnull.1
  · exact ⟨spoken, [.null], rfl, says_spoken⟩

/-- The choice next to a null in the place of the error. -/
def hollow : Json := .object [("choices", .array [spoken]), ("error", .null)]

/-- The null reports no error, and the answer is refused for it. A null reason for the end of the
choice counts as none. -/
theorem hollow_refused :
    Carries hollow "SELECT 1"
      ∧ ¬ ReportsError hollow
      ∧ content hollow = .error (.llm (.errorReply .null))
      ∧ ¬ Fair hollow (content hollow)
      ∧ content (.object [("choices", .array [.object [("finish_reason", .null),
          ("message", .object [("content", .text "SELECT 1")])]])]) = .ok "SELECT 1" := by
  have hcarries : Carries hollow "SELECT 1" := ⟨spoken, [], rfl, says_spoken⟩
  have hnull : hollow.member? "error" = some .null := rfl
  have hunfair : ¬ Fair hollow (content hollow) := fun hfair =>
    (fair_content_iff hollow).mp hfair ⟨hnull, _, hcarries⟩
  exact ⟨hcarries, not_reportsError_iff.mpr (.inr hnull), content_of_error hnull, hunfair, rfl⟩

end AskSql.ChatClient
