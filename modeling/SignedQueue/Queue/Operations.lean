import SignedQueue.Call.Operation
import SignedQueue.Queue.Message
/-!
**Operations on queues.** Eight operations: reading and setting the attributes of an account and of
a queue, creating a queue, and sending, receiving and deleting messages.

* `queuePath`, `messagesPath`: where a queue and its messages are;
* `getAccountAttributes` to `deleteMessages`: the operations;
* `deleteRefusal`: the failure of a batch of which some items were not deleted.
-/

namespace SignedQueue.Queue

/-! ### Names and paths -/

/-- The longest name of a queue. -/
def maxNameLength : Nat := 256

/-- The most messages that are received or deleted at once. -/
def maxBatch : Nat := 16

/-- A character of the name of a queue. -/
def isNameChar (character : Char) : Bool :=
  character.isAlphanum || character = '-'

/-- Whether a text may name a queue: a letter, then letters, figures and hyphens. -/
def isQueueName (name : String) : Bool :=
  match name.toList with
  | [] => false
  | first :: rest =>
    first.isAlpha && rest.all isNameChar && (first :: rest).length ≤ maxNameLength

/-- An argument that is refused. -/
def invalid (message : String) : CallError :=
  { kind := .invalidArgument, message }

/-- The path of a queue. -/
def queuePath (name : String) : Except CallError String :=
  if isQueueName name then .ok ("/queues/" ++ name)
  else .error (invalid ("invalid queue name " ++ Quoted.quote name))

/-- The path of the messages of a queue. -/
def messagesPath (name : String) : Except CallError String :=
  (queuePath name).map (· ++ "/messages")

/-- The path of the attributes of the account. -/
def accountPath : String := "/?accountmeta=true"

/-- The query that asks for attributes to be set. -/
def overrideQuery : String := "?metaoverride=true"

/-- A message with a method, a path and the octets of a document. -/
def withDocument (method : Method) (path document : String) : RequestMessage :=
  { method, resourcePath := path, body := some (Utf8.encode document) }

/-- A message with a method and a path, and no body. -/
def bare (method : Method) (path : String) : RequestMessage :=
  { method, resourcePath := path }

/-! ### Readers -/

/-- Reads the document of a response. -/
def readDocument {γ α : Type} (read : γ → Markup.Element → Except CallError α) (noted : γ)
    (response : Response) : Attempt α :=
  .ofResult do read noted (← response.document)

/-- The address of a queue that was created. -/
def readLocation (response : Response) : Except CallError String :=
  match response.header? "Location" with
  | some location => .ok location
  | none =>
    .error
      { kind := .responseUnparsable, message := "queue created without location header" }

/-! ### Accounts and queues -/

/-- Gets the attributes of the account. -/
def getAccountAttributes : Operation Unit Unit AccountAttributes where
  name := "GetAccountMeta"
  method := .get
  build _ := .ok (bare .get accountPath, ())
  reply := .read (readDocument fun _ root => .ok (.ofElement root))
  refusal := Response.refusal

/-- Sets the attributes of the account. -/
def setAccountAttributes : Operation AccountAttributes Unit Unit where
  name := "SetAccountMeta"
  method := .put
  build attributes := .ok (withDocument .put accountPath attributes.write, ())
  reply := .ignore ()
  refusal := Response.refusal

/-- Creates a queue, and gives its address. -/
def createQueue : Operation QueueAttributes Unit String where
  name := "CreateQueue"
  method := .put
  build attributes := do
    let path ← queuePath attributes.queueName
    return (withDocument .put path attributes.write, ())
  reply := .read fun _ response => .ofResult (readLocation response)
  refusal := Response.refusal

/-- Sets the attributes of a queue. -/
def setQueueAttributes : Operation QueueAttributes Unit Unit where
  name := "SetQueueAttributes"
  method := .put
  build attributes := do
    let path ← queuePath attributes.queueName
    return (withDocument .put (path ++ overrideQuery) attributes.write, ())
  reply := .ignore ()
  refusal := Response.refusal

/-- Gets the attributes of a queue. -/
def getQueueAttributes : Operation String Unit QueueAttributes where
  name := "GetQueueAttributes"
  method := .get
  build name := (queuePath name).map fun path => (bare .get path, ())
  reply := .read (readDocument fun _ root => QueueAttributes.ofElement root)
  refusal := Response.refusal

/-! ### Messages -/

/-- Sends a message. -/
def sendMessage : Operation SendRequest Unit MessageReceipt where
  name := "SendMessage"
  method := .post
  build request := do
    let path ← messagesPath request.queueName
    return (withDocument .post path (← request.write), ())
  reply := .read (readDocument fun _ root => MessageReceipt.ofElement root)
  refusal := Response.refusal

/-- The query of a receiver: how many messages it takes and how long it waits. -/
def receiveQuery (request : ReceiveRequest) : Except CallError String := do
  let number ←
    match request.numOfMessages with
    | none => pure []
    | some number =>
      if 0 < number.toNat ∧ number.toNat ≤ maxBatch then
        pure ["numOfMessages=" ++ toString number.toNat]
      else
        .error
          (invalid
            ("num_of_messages must be in 1..=" ++ toString maxBatch ++ ", got " ++
              toString number.toNat))
  let wait := (request.waitSeconds.map fun wait => "waitseconds=" ++ toString wait.toNat).toList
  let parts := number ++ wait
  return if parts = [] then "" else "?" ++ "&".intercalate parts

/-- Receives messages. Their bodies are read in the encoding of the request, which is noted. -/
def receiveMessages : Operation ReceiveRequest BodyEncoding (List ReceivedMessage) where
  name := "ReceiveMessage"
  method := .get
  build request := do
    let path ← messagesPath request.queueName
    return (bare .get (path ++ (← receiveQuery request)), request.encoding)
  reply := .read (readDocument ReceivedMessage.listOfElement)
  refusal := Response.refusal

/-- One failed item of a batch. -/
def itemFailure (element : Markup.Element) : ItemFailure :=
  { code := (element.textOr "ErrorCode" (some "")).getD ""
    message := (element.textOr "ErrorMessage" (some "")).getD ""
    key := element.textOr "ReceiptHandle" none }

/-- The failure of a batch that lists its failed items. -/
def batchFailure (response : Response) (root : Markup.Element) : CallError :=
  let failures := (root.childrenNamed "Error").map itemFailure
  { kind := .mandatoryHandling
    message := toString failures.length ++ " receipt handles failed to delete"
    requestId := response.header? Response.requestIdHeader
    context := [response.statusLine]
    failures }

/-- The failure that the response to a batch reports: failed items, or else the failure of the whole
request. -/
def deleteRefusal (response : Response) : Interruption :=
  match Markup.Element.parse response.body with
  | .error _ => response.refusal
  | .ok root =>
    if root.name = "Errors" then .failed (batchFailure response root) else response.refusal

/-- Deletes messages. -/
def deleteMessages : Operation DeleteRequest Unit Unit where
  name := "BatchDeleteMessage"
  method := .delete
  build request := do
    let count := request.receiptHandles.length
    if count = 0 ∨ maxBatch < count then
      throw
        (invalid
          ("batch delete takes 1 to " ++ toString maxBatch ++ " receipt handles, got " ++
            toString count))
    let path ← messagesPath request.queueName
    return (withDocument .delete path request.write, ())
  reply := .ignore ()
  refusal := deleteRefusal

end SignedQueue.Queue
