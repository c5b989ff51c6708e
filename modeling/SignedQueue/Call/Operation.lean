import SignedQueue.Reply
import SignedQueue.Request.Message
/-!
**Operations.** An operation of the service is a way to turn a request into a message, and to read
what comes back. Whatever the reader has to know of the request is noted while the message is built,
and goes with this one call.

* `Operation`: the description of an operation;
* `Operation.readReply`: what a response means.
-/

namespace SignedQueue

/-- How a successful response is read. -/
inductive ReplyReader (γ α : Type) where
  /-- The response says nothing beyond its status; the value is always the same. -/
  | ignore (value : α)
  /-- The response is read in the light of what was noted of its request. -/
  | read (reader : γ → Response → Attempt α)

/-- An operation of the service, from requests `ρ` to values `α`. What it notes of a request is of
type `γ`. -/
structure Operation (ρ γ α : Type) where
  name : String
  /-- The method of its requests, whatever `build` says. -/
  method : Method
  /-- The message of a request, with a path that may be relative, and what is noted of it. -/
  build : ρ → Except CallError (RequestMessage × γ)
  reply : ReplyReader γ α
  /-- Reads a response that reports a failure. -/
  refusal : Response → Interruption

namespace Operation

variable {ρ γ α : Type}

/-- The value of a successful response to a request of which something was noted. -/
def readSuccess (operation : Operation ρ γ α) (noted : γ) (response : Response) : Attempt α :=
  match operation.reply with
  | .ignore value => .ok value
  | .read reader => reader noted response

/-- What a response means to a request of which something was noted. -/
def readReply (operation : Operation ρ γ α) (noted : γ) (response : Response) : Attempt α :=
  if response.status.isSuccess then operation.readSuccess noted response
  else .error (operation.refusal response)

/-- How logs show an operation. -/
def describe (operation : Operation ρ γ α) : String :=
  "ActionDef \x7b name: " ++ Quoted.quote operation.name ++ ", method: " ++ operation.method.name ++
    " \x7d"

end Operation

end SignedQueue
