import SignedQueue.Queue.Operations
/-!
**Any request.** A request of any of the eight operations, and the value of any of them.

* `QueueRequest.visit`: treats a request by its operation;
* `QueueRequest.message`: the message that a request builds.
-/

namespace SignedQueue.Queue

/-- A request of one of the operations. -/
inductive QueueRequest where
  | getAccountAttributes
  | setAccountAttributes (attributes : AccountAttributes)
  | createQueue (attributes : QueueAttributes)
  | setQueueAttributes (attributes : QueueAttributes)
  | getQueueAttributes (queueName : String)
  | sendMessage (request : SendRequest)
  | receiveMessages (request : ReceiveRequest)
  | deleteMessages (request : DeleteRequest)
  deriving DecidableEq

/-- The value of one of the operations. -/
inductive QueueValue where
  | done
  | accountAttributes (attributes : AccountAttributes)
  | queueUrl (address : String)
  | queueAttributes (attributes : QueueAttributes)
  | receipt (receipt : MessageReceipt)
  | messages (messages : List ReceivedMessage)
  deriving DecidableEq

namespace QueueRequest

/-- Treats a request by its operation. The treatment is also told what the operation notes of the
request, and what kind of value it gives. -/
def visit {β : Type}
    (treat : {ρ γ α : Type} → Operation ρ γ α → ρ → γ → (α → QueueValue) → β) : QueueRequest → β
  | .getAccountAttributes => treat Queue.getAccountAttributes () () .accountAttributes
  | .setAccountAttributes attributes =>
    treat Queue.setAccountAttributes attributes () fun _ => .done
  | .createQueue attributes => treat Queue.createQueue attributes () .queueUrl
  | .setQueueAttributes attributes => treat Queue.setQueueAttributes attributes () fun _ => .done
  | .getQueueAttributes queueName => treat Queue.getQueueAttributes queueName () .queueAttributes
  | .sendMessage request => treat Queue.sendMessage request () .receipt
  | .receiveMessages request => treat Queue.receiveMessages request request.encoding .messages
  | .deleteMessages request => treat Queue.deleteMessages request () fun _ => .done

/-- The name of the operation of a request. -/
def operationName (request : QueueRequest) : String :=
  request.visit fun operation _ _ _ => operation.name

/-- The message that a request builds. -/
def message (request : QueueRequest) : Except CallError RequestMessage :=
  request.visit fun operation request _ _ => (operation.build request).map Prod.fst

end QueueRequest

end SignedQueue.Queue
