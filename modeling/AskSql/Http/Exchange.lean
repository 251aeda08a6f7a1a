import AskSql.Http.Status
import AskSql.Json.Reader
import AskSql.Session

/-!
One exchange with a service that speaks JSON over HTTP.

* `Request`, `Reply`: what is sent and what comes back. The body of a reply is missing when it broke
  off before its end.
* `Transport`: the way to send a request; it may find nobody at the other end.
* `Faults`: how the three ways in which an exchange can fail are told.
* `exchange`: sends a request and reads the JSON value in the reply.
-/

namespace AskSql.Http

variable {σ : Type}

/-- A JSON value that is posted to an address. -/
structure Request where
  url : String
  authorization : String
  body : Json

/-- What comes back. -/
structure Reply where
  status : Nat
  /-- The body, missing if it broke off. -/
  body : Option String

/-- The way to send a request. Without a reply there is a reason. -/
structure Transport (σ : Type) where
  send : CallMode → Request → σ → Except String Reply × σ

/-- A transport that finds nobody. -/
def Transport.unreachable (reason : String) : Transport σ where
  send _ _ state := (.error reason, state)

/-- How the ways in which an exchange can fail are told. -/
structure Faults where
  callFailed : String → Failure
  badStatus : Nat → String → Failure
  unreadable : String → Failure

/-- The JSON value in a reply. -/
def Reply.value (reply : Reply) (faults : Faults) : Except Failure Json :=
  if isSuccess reply.status then
    match reply.body with
    | none => .error (faults.unreadable "the body broke off")
    | some body =>
        match Json.parse body with
        | none => .error (faults.unreadable "the body is not JSON")
        | some value => .ok value
  else .error (faults.badStatus reply.status (reply.body.getD "Unknown error"))

/-- Sends a request and reads the JSON value in the reply. -/
def exchange (transport : Transport σ) (mode : CallMode) (request : Request) (faults : Faults) :
    Session σ Json := fun state =>
  match transport.send mode request state with
  | (.error reason, state) => (.error (faults.callFailed reason), state)
  | (.ok reply, state) => (reply.value faults, state)

end AskSql.Http
