import SignedQueue.Queue.Attributes
import SignedQueue.Queue.BodyEncoding
/-!
**Messages in a queue.** What is sent to a queue, what is received from it, and what is deleted.

* `SendRequest.write`: the document of a message that is sent;
* `MessageReceipt.ofElement`: the receipt for it;
* `ReceivedMessage.listOfElement`: the messages that are received;
* `DeleteRequest.write`: the document of the handles of messages that are deleted.
-/

namespace SignedQueue.Queue

open Markup

/-! ### Sending -/

/-- A message that is sent. -/
structure SendRequest where
  queueName : String
  body : Octets
  /-- The seconds before the message can be received. -/
  delaySeconds : Option UInt64 := none
  /-- The priority of the message; 1 goes first. -/
  priority : Option UInt64 := none
  encoding : BodyEncoding := .base64
  deriving DecidableEq

/-- The document of a message that is sent. -/
def SendRequest.write (request : SendRequest) : Except CallError String := do
  let body ← request.encoding.encode request.body
  return Document.write "Message"
    [ .text "MessageBody" (some body),
      QueueAttributes.number "DelaySeconds" request.delaySeconds,
      QueueAttributes.number "Priority" request.priority ]

/-- The receipt for a message that has been sent. -/
structure MessageReceipt where
  messageId : String
  /-- The digest of the body as the service got it. -/
  bodyDigest : Option String
  /-- The handle of the message, which is there if its delivery is delayed. -/
  receiptHandle : Option String
  deriving Repr, DecidableEq

/-- The receipt that an element shows. -/
def MessageReceipt.ofElement (root : Element) : Except CallError MessageReceipt := do
  let messageId ← asked (root.require "MessageId")
  return {
    messageId
    bodyDigest := root.textOr "MessageBodyMD5" none
    receiptHandle := root.textOr "ReceiptHandle" none }

/-! ### Receiving -/

/-- What a receiver asks for. -/
structure ReceiveRequest where
  queueName : String
  waitSeconds : Option UInt64 := none
  numOfMessages : Option UInt32 := none
  encoding : BodyEncoding := .base64
  deriving DecidableEq

/-- A message that is received. -/
structure ReceivedMessage where
  messageId : String
  receiptHandle : String
  /-- The digest of the body as the service keeps it. -/
  bodyDigest : Option String
  body : Octets
  /-- The instant at which the message was sent, in milliseconds. -/
  enqueueTime : Option Int64
  /-- The instant from which the message can be received again, in milliseconds. -/
  nextVisibleTime : Option Int64
  /-- The instant at which the message was first received, in milliseconds. -/
  firstDequeueTime : Option Int64
  dequeueCount : Option UInt64
  priority : Option UInt64
  deriving DecidableEq

namespace ReceivedMessage

/-- The message that an element shows. Its id, handle and body have to be there, and whatever is
there has to be well formed. -/
def ofElement (encoding : BodyEncoding) (element : Element) : Except CallError ReceivedMessage := do
  let time (name : String) := asked (element.valueOr name none Element.readInt64)
  let count (name : String) := asked (element.valueOr name none Element.readUInt64)
  let messageId ← asked (element.require "MessageId")
  let receiptHandle ← asked (element.require "ReceiptHandle")
  let body ← encoding.decode (← asked (element.require "MessageBody"))
  let enqueueTime ← time "EnqueueTime"
  let nextVisibleTime ← time "NextVisibleTime"
  let firstDequeueTime ← time "FirstDequeueTime"
  let dequeueCount ← count "DequeueCount"
  let priority ← count "Priority"
  return {
    messageId, receiptHandle, body, enqueueTime, nextVisibleTime, firstDequeueTime, dequeueCount
    priority
    bodyDigest := element.textOr "MessageBodyMD5" none }

/-- The messages that a document shows: those of a batch in order, or one. -/
def listOfElement (encoding : BodyEncoding) (root : Element) :
    Except CallError (List ReceivedMessage) :=
  if root.name = "Messages" then (root.childrenNamed "Message").mapM (ofElement encoding)
  else (ofElement encoding root).map ([·])

end ReceivedMessage

/-! ### Deleting -/

/-- The handles of messages that are deleted. -/
structure DeleteRequest where
  queueName : String
  receiptHandles : List String
  deriving Repr, DecidableEq

/-- The document of the handles of messages that are deleted. -/
def DeleteRequest.write (request : DeleteRequest) : String :=
  Document.write "ReceiptHandles"
    (request.receiptHandles.map fun handle => .text "ReceiptHandle" (some handle))

end SignedQueue.Queue
