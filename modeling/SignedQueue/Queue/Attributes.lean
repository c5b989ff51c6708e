import SignedQueue.Markup.Document
import SignedQueue.Markup.Element
import SignedQueue.Text.Ascii
/-!
**Attributes.** An account and a queue have attributes that can be set, and a queue has counters and
times that only the service fills in. Only attributes that are set are written.

* `AccountAttributes.write`, `AccountAttributes.ofElement`: the attributes of an account as a
  document;
* `QueueAttributes.write`, `QueueAttributes.ofElement`: the attributes of a queue as a document.
-/

namespace SignedQueue.Queue

open Markup

/-- What an element says, or the error of a response that cannot be read. -/
def asked {α : Type} (answer : Except Element.Shortfall α) : Except CallError α :=
  answer.mapError Element.Shortfall.toCallError

/-! ### Accounts -/

/-- The attributes of an account. -/
structure AccountAttributes where
  /-- The bucket that takes the logs of the service; an empty one turns logging off. -/
  loggingBucket : Option String := none
  deriving Repr, DecidableEq

namespace AccountAttributes

/-- The document of the attributes of an account. -/
def write (attributes : AccountAttributes) : String :=
  Document.write "Account" [.text "LoggingBucket" attributes.loggingBucket]

/-- The attributes of an account that an element shows. -/
def ofElement (root : Element) : AccountAttributes :=
  { loggingBucket := root.textOr "LoggingBucket" none }

end AccountAttributes

/-! ### Queues -/

/-- The attributes of a queue. -/
structure QueueAttributes where
  queueName : String
  /-- The seconds before a new message can be received. -/
  delaySeconds : Option UInt64 := none
  maximumMessageSize : Option UInt64 := none
  /-- The seconds for which a message is kept. -/
  messageRetentionPeriod : Option UInt64 := none
  /-- The seconds for which a received message cannot be received again. -/
  visibilityTimeout : Option UInt64 := none
  /-- The seconds for which a receiver waits, where it does not say. -/
  pollingWaitSeconds : Option UInt64 := none
  loggingEnabled : Option Bool := none
  /-- The messages that can be received. -/
  activeMessages : Option UInt64 := none
  /-- The messages that have been received and not deleted. -/
  inactiveMessages : Option UInt64 := none
  /-- The messages that cannot be received yet. -/
  delayMessages : Option UInt64 := none
  createTime : Option Int64 := none
  lastModifyTime : Option Int64 := none
  deriving DecidableEq

namespace QueueAttributes

/-- A truth value as it is written. -/
def writeBool (value : Bool) : String :=
  if value then "True" else "False"

/-- The truth value of a text in any case. -/
def readBool (text : String) : Except CallError Bool :=
  if Ascii.sameIgnoringCase text "true" then .ok true
  else if Ascii.sameIgnoringCase text "false" then .ok false
  else
    .error
      { kind := .responseUnparsable, message := "invalid boolean value " ++ Quoted.quote text }

/-- A field with a number. -/
def number (name : String) (value : Option UInt64) : Field :=
  .text name (value.map fun value => toString value.toNat)

/-- The fields of the attributes that can be set. -/
def fields (attributes : QueueAttributes) : List Field :=
  [ number "DelaySeconds" attributes.delaySeconds,
    number "MaximumMessageSize" attributes.maximumMessageSize,
    number "MessageRetentionPeriod" attributes.messageRetentionPeriod,
    number "VisibilityTimeout" attributes.visibilityTimeout,
    number "PollingWaitSeconds" attributes.pollingWaitSeconds,
    .text "LoggingEnabled" (attributes.loggingEnabled.map writeBool) ]

/-- The document of the attributes that can be set. -/
def write (attributes : QueueAttributes) : String :=
  Document.write "Queue" attributes.fields

/-- The attributes of a queue that an element shows. Only the name has to be there, but whatever is
there has to be well formed. -/
def ofElement (root : Element) : Except CallError QueueAttributes := do
  let count (name : String) := asked (root.valueOr name none Element.readUInt64)
  let time (name : String) := asked (root.valueOr name none Element.readInt64)
  let queueName ← asked (root.require "QueueName")
  let delaySeconds ← count "DelaySeconds"
  let maximumMessageSize ← count "MaximumMessageSize"
  let messageRetentionPeriod ← count "MessageRetentionPeriod"
  let visibilityTimeout ← count "VisibilityTimeout"
  let pollingWaitSeconds ← count "PollingWaitSeconds"
  let loggingEnabled ← (root.textOr "LoggingEnabled" none).mapM readBool
  let activeMessages ← count "ActiveMessages"
  let inactiveMessages ← count "InactiveMessages"
  let delayMessages ← count "DelayMessages"
  let createTime ← time "CreateTime"
  let lastModifyTime ← time "LastModifyTime"
  return {
    queueName, delaySeconds, maximumMessageSize, messageRetentionPeriod, visibilityTimeout
    pollingWaitSeconds, loggingEnabled, activeMessages, inactiveMessages, delayMessages
    createTime, lastModifyTime }

end QueueAttributes

end SignedQueue.Queue
