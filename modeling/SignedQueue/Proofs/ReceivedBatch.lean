import Mathlib
import SignedQueue.Queue.Operations
import SignedQueue.Proofs.DocumentOrder
import SignedQueue.Proofs.WrittenBatch
import SignedQueue.Proofs.WrittenNumbers
/-!
**A batch of messages is received as it was sent, or not at all.** Each message is read from the
fields of its own item: a value that an item does not give is not there, whatever the other items
give. One item that cannot be read makes the whole batch unreadable.

* `ReceivedMessage.Shows`, `ReceivedMessage.Tells`: what fields have to say for a value, and for a
  message, to be read from them;
* `ReceivedMessage.ofElement_eq_ok_iff`: it is read exactly if they do;
* `ReceivedMessage.IsLaidOut`: the fields of a message in any order;
* `ReceivedMessage.Defective`: fields that no message can be read from;
* `receives_batch`: a batch of messages comes back, and a batch with a defective item is an error.
-/

namespace SignedQueue

open Markup

/-! ### What an element says -/

namespace Markup.Element

theorem says?_ofFields (item name : String) (fields : List Field) :
    (ofFields item fields).says? name = Field.shown? name fields := by
  have said := textOr_ofFields item name fields none
  rwa [textOr_eq_says?, Option.or_none, Option.or_none] at said

/-- Every shortfall is a response that cannot be read. -/
theorem Shortfall.kind_toCallError (shortfall : Shortfall) :
    shortfall.toCallError.kind = .responseUnparsable := by
  cases shortfall <;> rfl

end Markup.Element

namespace Queue

theorem asked_eq_ok_iff {α : Type} {answer : Except Element.Shortfall α} {value : α} :
    asked answer = .ok value ↔ answer = .ok value :=
  mapError_eq_ok

/-- A body is read from the text that it is written as, and from no other. -/
theorem BodyEncoding.decode_eq_ok_iff {encoding : BodyEncoding} {text : String} {body : Octets} :
    encoding.decode text = .ok body ↔ encoding.encode body = .ok text := by
  cases encoding with
  | base64 => rw [base64_decode_eq_ok_iff, encode, Except.ok.injEq, eq_comm]
  | raw => rw [decode, encode, mapError_eq_ok, Utf8.decode_eq_ok_iff, Except.ok.injEq, eq_comm]

/-- A computation that fails only because a response cannot be read. -/
def FailsToRead {α : Type} (reading : Except CallError α) : Prop :=
  ∀ error, reading = .error error → error.kind = .responseUnparsable

namespace FailsToRead

variable {α β : Type}

theorem asked (answer : Except Element.Shortfall α) : FailsToRead (asked answer) := by
  intro error failed
  obtain ⟨shortfall, -, rfl⟩ := mapError_eq_error.mp failed
  exact shortfall.kind_toCallError

theorem bind {first : Except CallError α} {next : α → Except CallError β}
    (here : FailsToRead first) (later : ∀ value, FailsToRead (next value)) :
    FailsToRead (first >>= next) := by
  intro error failed
  rcases bind_eq_error.mp failed with failed | ⟨value, -, failed⟩
  · exact here error failed
  · exact later value error failed

theorem decode (encoding : BodyEncoding) (text : String) : FailsToRead (encoding.decode text) := by
  intro error failed
  cases encoding with
  | base64 => exact BodyEncoding.kind_of_base64_decode failed
  | raw => cases failed

end FailsToRead

namespace ReceivedMessage

variable {layout : List Field} {message : ReceivedMessage}

/-! ### Fields that a message is read from -/

/-- A value that fields show under a name in some spelling, or none where they show nothing. -/
def Shows {ν : Type} (spelling : String → ν → Prop) (name : String) (layout : List Field) :
    Option ν → Prop :=
  Option.Rel spelling (Field.shown? name layout)

/-- A text that spells a time, which may be negative. -/
def SpellsTime (text : String) (time : Int64) : Prop :=
  Numeral.Spells True text.toList time.toInt

/-- A text that spells a number without a minus sign. -/
def SpellsCount (text : String) (count : UInt64) : Prop :=
  Numeral.Spells False text.toList count.toNat

theorem exists_shows {ν : Type} {spelling : String → ν → Prop} {name : String}
    (legible : ∀ text, Field.shown? name layout = some text → ∃ value, spelling text value) :
    ∃ number, Shows spelling name layout number := by
  unfold Shows
  cases shown : Field.shown? name layout with
  | none => exact ⟨none, .none⟩
  | some text =>
    obtain ⟨value, spells⟩ := legible text shown
    exact ⟨some value, .some spells⟩

/-- What an element has to say for a message to be read from it: its id, its handle and the text of
its body, and of the rest what it has and nothing else. -/
structure IsToldBy (encoding : BodyEncoding) (element : Element) (message : ReceivedMessage) :
    Prop where
  messageId : element.says? "MessageId" = some message.messageId
  receiptHandle : element.says? "ReceiptHandle" = some message.receiptHandle
  body :
    ∃ text, element.says? "MessageBody" = some text ∧ encoding.encode message.body = .ok text
  enqueueTime : element.Shows SpellsTime "EnqueueTime" message.enqueueTime
  nextVisibleTime : element.Shows SpellsTime "NextVisibleTime" message.nextVisibleTime
  firstDequeueTime : element.Shows SpellsTime "FirstDequeueTime" message.firstDequeueTime
  dequeueCount : element.Shows SpellsCount "DequeueCount" message.dequeueCount
  priority : element.Shows SpellsCount "Priority" message.priority
  bodyDigest : element.says? "MessageBodyMD5" = message.bodyDigest

/-- A message is read from exactly the elements that tell it. -/
theorem ofElement_eq_ok_iff_isToldBy {encoding : BodyEncoding} {element : Element} :
    ofElement encoding element = .ok message ↔ IsToldBy encoding element message := by
  simp only [ofElement, bind_eq_ok, asked_eq_ok_iff, Element.require_eq_ok_iff,
    Element.valueOr_eq_ok_iff, Element.textOr_eq_says?, Option.or_none,
    BodyEncoding.decode_eq_ok_iff, Element.readInt64_eq_ok_iff, Element.readUInt64_eq_ok_iff]
  constructor
  · rintro ⟨messageId, idShown, receiptHandle, handleShown, text, bodyShown, body, written,
      enqueueTime, enqueueShown, nextVisibleTime, nextShown, firstDequeueTime, firstShown,
      dequeueCount, countShown, priority, priorityShown, made⟩
    cases made
    exact ⟨idShown, handleShown, ⟨text, bodyShown, written⟩, enqueueShown, nextShown, firstShown,
      countShown, priorityShown, rfl⟩
  · rintro ⟨idShown, handleShown, ⟨text, bodyShown, written⟩, enqueueShown, nextShown, firstShown,
      countShown, priorityShown, digestShown⟩
    refine ⟨_, idShown, _, handleShown, _, bodyShown, _, written, _, enqueueShown, _, nextShown, _,
      firstShown, _, countShown, _, priorityShown, ?_⟩
    rw [digestShown]
    rfl

/-- What fields have to say for a message to be read from them: its id, its handle and its body in
Base64, and of the rest what it has and nothing else. -/
structure Tells (layout : List Field) (message : ReceivedMessage) : Prop where
  messageId : Field.shown? "MessageId" layout = some message.messageId
  receiptHandle : Field.shown? "ReceiptHandle" layout = some message.receiptHandle
  body : Field.shown? "MessageBody" layout = some (Base64.encode message.body)
  enqueueTime : Shows SpellsTime "EnqueueTime" layout message.enqueueTime
  nextVisibleTime : Shows SpellsTime "NextVisibleTime" layout message.nextVisibleTime
  firstDequeueTime : Shows SpellsTime "FirstDequeueTime" layout message.firstDequeueTime
  dequeueCount : Shows SpellsCount "DequeueCount" layout message.dequeueCount
  priority : Shows SpellsCount "Priority" layout message.priority
  bodyDigest : Field.shown? "MessageBodyMD5" layout = message.bodyDigest

/-- A message is read from exactly the fields that tell it. -/
theorem ofElement_eq_ok_iff {item : String} :
    ofElement .base64 (Element.ofFields item layout) = .ok message ↔ Tells layout message := by
  have shows {ν : Type} (spelling : String → ν → Prop) (name : String) (number : Option ν) :
      (Element.ofFields item layout).Shows spelling name number ↔
        Shows spelling name layout number := by
    rw [Element.Shows, Shows, Element.says?_ofFields]
  rw [ofElement_eq_ok_iff_isToldBy]
  constructor
  · rintro ⟨idShown, handleShown, ⟨text, bodyShown, written⟩, enqueueShown, nextShown, firstShown,
      countShown, priorityShown, digestShown⟩
    cases written
    simp only [Element.says?_ofFields, shows] at *
    exact ⟨idShown, handleShown, bodyShown, enqueueShown, nextShown, firstShown, countShown,
      priorityShown, digestShown⟩
  · rintro ⟨idShown, handleShown, bodyShown, enqueueShown, nextShown, firstShown, countShown,
      priorityShown, digestShown⟩
    simp only [← Element.says?_ofFields item, ← shows] at *
    exact ⟨idShown, handleShown, ⟨_, bodyShown, rfl⟩, enqueueShown, nextShown, firstShown,
      countShown, priorityShown, digestShown⟩

theorem failsToRead_ofElement (encoding : BodyEncoding) (element : Element) :
    FailsToRead (ofElement encoding element) := by
  refine .bind (.asked _) fun _ => .bind (.asked _) fun _ => .bind (.asked _) fun text =>
    .bind (.decode encoding text) fun _ => ?_
  refine .bind (.asked _) fun _ => .bind (.asked _) fun _ => .bind (.asked _) fun _ =>
    .bind (.asked _) fun _ => .bind (.asked _) fun _ => ?_
  exact fun error failed => nomatch failed

/-! ### The fields of a message -/

/-- A field with a time. -/
def time (name : String) (value : Option Int64) : Field :=
  .text name (value.map fun value => toString value.toInt)

/-- The fields of a message, with its body in Base64. -/
def fields (message : ReceivedMessage) : List Field :=
  [ .text "MessageId" (some message.messageId),
    .text "ReceiptHandle" (some message.receiptHandle),
    .text "MessageBodyMD5" message.bodyDigest,
    .binary "MessageBody" (some message.body),
    time "EnqueueTime" message.enqueueTime,
    time "NextVisibleTime" message.nextVisibleTime,
    time "FirstDequeueTime" message.firstDequeueTime,
    QueueAttributes.number "DequeueCount" message.dequeueCount,
    QueueAttributes.number "Priority" message.priority ]

/-- The fields of a message in any order, where no blanks stand around its texts. -/
structure IsLaidOut (layout : List Field) (message : ReceivedMessage) : Prop where
  order : layout.Perm message.fields
  messageId : Unpadded message.messageId
  receiptHandle : Unpadded message.receiptHandle
  bodyDigest : ∀ digest ∈ message.bodyDigest, Unpadded digest

/-- The names of the fields of a message. -/
def fieldNames : List String :=
  ["MessageId", "ReceiptHandle", "MessageBodyMD5", "MessageBody", "EnqueueTime", "NextVisibleTime",
    "FirstDequeueTime", "DequeueCount", "Priority"]

theorem names_fields (message : ReceivedMessage) : message.fields.map Field.name = fieldNames :=
  rfl

theorem IsLaidOut.shown? (laid : IsLaidOut layout message) {name : String} {value : Option String}
    (member : ⟨name, value⟩ ∈ message.fields) (unpadded : ∀ text ∈ value, Unpadded text) :
    Field.shown? name layout = value := by
  have distinct : (message.fields.map Field.name).Nodup := by
    rw [names_fields]
    decide
  exact Field.shown?_of_perm distinct laid.order member unpadded

/-- A layout shows a number that its message has, as it is written. -/
theorem IsLaidOut.shows (laid : IsLaidOut layout message) {ν : Type}
    {spelling : String → ν → Prop} {written : ν → String} {name : String} {number : Option ν}
    (member : ⟨name, number.map written⟩ ∈ message.fields)
    (trimmed : ∀ value, trimBlanks (written value) = written value)
    (spells : ∀ value, spelling (written value) value) : Shows spelling name layout number := by
  have unpadded : ∀ text ∈ number.map written, Unpadded text := by
    intro text given
    obtain ⟨value, -, rfl⟩ := Option.map_eq_some_iff.mp given
    exact trimBlanks_eq_self_iff.mp (trimmed value)
  rw [Shows, laid.shown? member unpadded]
  cases number with
  | none => exact .none
  | some value => exact .some (spells value)

theorem IsLaidOut.showsTime (laid : IsLaidOut layout message) {name : String}
    {value : Option Int64} (member : time name value ∈ message.fields) :
    Shows SpellsTime name layout value := by
  rw [time, Field.text, Option.or_none] at member
  exact laid.shows member (fun value => trimBlanks_toString_int value.toInt)
    fun value => Numeral.spells_toString value.toInt (.inr trivial)

theorem IsLaidOut.showsCount (laid : IsLaidOut layout message) {name : String}
    {value : Option UInt64} (member : QueueAttributes.number name value ∈ message.fields) :
    Shows SpellsCount name layout value := by
  rw [QueueAttributes.number, Field.text, Option.or_none] at member
  exact laid.shows member (fun value => trimBlanks_toString value.toNat)
    fun value => Numeral.spells_toString value.toNat (.inl (Int.natCast_nonneg _))

/-- A message is read from its fields in any order. -/
theorem IsLaidOut.tells (laid : IsLaidOut layout message) : Tells layout message where
  messageId := laid.shown? (.head _) (by simpa using laid.messageId)
  receiptHandle := laid.shown? (by simp [fields, Field.text]) (by simpa using laid.receiptHandle)
  body := by
    refine laid.shown? (by simp [fields, Field.binary]) ?_
    simpa using trimBlanks_eq_self_iff.mp (Base64.trimBlanks_encode message.body)
  enqueueTime := laid.showsTime (by simp [fields])
  nextVisibleTime := laid.showsTime (by simp [fields])
  firstDequeueTime := laid.showsTime (by simp [fields])
  dequeueCount := laid.showsCount (by simp [fields])
  priority := laid.showsCount (by simp [fields])
  bodyDigest := laid.shown? (by simp [fields, Field.text]) laid.bodyDigest

theorem IsLaidOut.plain (laid : IsLaidOut layout message) :
    ∀ field ∈ layout, IsPlainName field.name := by
  apply Field.plain_of_perm laid.order
  rw [names_fields]
  decide

/-! ### Fields that no message is read from -/

/-- The fields that a message cannot do without. -/
def neededNames : List String :=
  ["MessageId", "ReceiptHandle", "MessageBody"]

/-- The fields that show times. -/
def timeNames : List String :=
  ["EnqueueTime", "NextVisibleTime", "FirstDequeueTime"]

/-- The fields that show counts. -/
def countNames : List String :=
  ["DequeueCount", "Priority"]

/-- Fields of which a needed one is absent, or that show something that is no number of the type, or
a body that no octets are written as in Base64. -/
inductive Defective (layout : List Field) : Prop
  | lacks {name : String} (needed : name ∈ neededNames) (absent : Field.shown? name layout = none)
  | badTime {name text : String} (among : name ∈ timeNames)
      (shown : Field.shown? name layout = some text)
      (malformed : ∀ time, ¬ SpellsTime text time)
  | badCount {name text : String} (among : name ∈ countNames)
      (shown : Field.shown? name layout = some text)
      (malformed : ∀ count, ¬ SpellsCount text count)
  | badBody {text : String} (shown : Field.shown? "MessageBody" layout = some text)
      (malformed : ∀ body, text ≠ Base64.encode body)

theorem Tells.showsTime (tells : Tells layout message) {name : String} (among : name ∈ timeNames) :
    ∃ time, Shows SpellsTime name layout time := by
  simp only [timeNames, List.mem_cons, List.not_mem_nil, or_false] at among
  rcases among with rfl | rfl | rfl
  · exact ⟨_, tells.enqueueTime⟩
  · exact ⟨_, tells.nextVisibleTime⟩
  · exact ⟨_, tells.firstDequeueTime⟩

theorem Tells.showsCount (tells : Tells layout message) {name : String}
    (among : name ∈ countNames) : ∃ count, Shows SpellsCount name layout count := by
  simp only [countNames, List.mem_cons, List.not_mem_nil, or_false] at among
  rcases among with rfl | rfl
  · exact ⟨_, tells.dequeueCount⟩
  · exact ⟨_, tells.priority⟩

theorem Tells.shown_of_needed (tells : Tells layout message) {name : String}
    (needed : name ∈ neededNames) : ∃ text, Field.shown? name layout = some text := by
  simp only [neededNames, List.mem_cons, List.not_mem_nil, or_false] at needed
  rcases needed with rfl | rfl | rfl
  · exact ⟨_, tells.messageId⟩
  · exact ⟨_, tells.receiptHandle⟩
  · exact ⟨_, tells.body⟩

/-- Defective fields tell no message. -/
theorem Defective.not_tells (defective : Defective layout) : ¬ Tells layout message := by
  intro tells
  cases defective with
  | lacks needed absent =>
    obtain ⟨text, shown⟩ := tells.shown_of_needed needed
    rw [absent] at shown
    cases shown
  | badTime among shown malformed =>
    obtain ⟨time, shows⟩ := tells.showsTime among
    obtain ⟨value, spells⟩ := exists_of_rel shows shown
    exact malformed value spells
  | badCount among shown malformed =>
    obtain ⟨count, shows⟩ := tells.showsCount among
    obtain ⟨value, spells⟩ := exists_of_rel shows shown
    exact malformed value spells
  | badBody shown malformed =>
    rw [tells.body] at shown
    exact malformed _ (Option.some.inj shown).symm

/-- Fields that are not defective tell a message. -/
theorem exists_tells (sound : ¬ Defective layout) : ∃ message, Tells layout message := by
  have shown (name : String) (needed : name ∈ neededNames) :
      ∃ text, Field.shown? name layout = some text :=
    Option.ne_none_iff_exists'.mp fun absent => sound (.lacks needed absent)
  have timed (name : String) (among : name ∈ timeNames) :
      ∃ time, Shows SpellsTime name layout time := by
    refine exists_shows fun text shown => ?_
    by_contra none
    exact sound (.badTime among shown fun time spells => none ⟨time, spells⟩)
  have counted (name : String) (among : name ∈ countNames) :
      ∃ count, Shows SpellsCount name layout count := by
    refine exists_shows fun text shown => ?_
    by_contra none
    exact sound (.badCount among shown fun count spells => none ⟨count, spells⟩)
  obtain ⟨messageId, idShown⟩ := shown "MessageId" (by decide)
  obtain ⟨receiptHandle, handleShown⟩ := shown "ReceiptHandle" (by decide)
  obtain ⟨text, bodyShown⟩ := shown "MessageBody" (by decide)
  obtain ⟨body, rfl⟩ : ∃ body, text = Base64.encode body := by
    by_contra none
    exact sound (.badBody bodyShown fun body same => none ⟨body, same⟩)
  obtain ⟨enqueueTime, enqueueShown⟩ := timed "EnqueueTime" (by decide)
  obtain ⟨nextVisibleTime, nextShown⟩ := timed "NextVisibleTime" (by decide)
  obtain ⟨firstDequeueTime, firstShown⟩ := timed "FirstDequeueTime" (by decide)
  obtain ⟨dequeueCount, countShown⟩ := counted "DequeueCount" (by decide)
  obtain ⟨priority, priorityShown⟩ := counted "Priority" (by decide)
  exact ⟨⟨messageId, receiptHandle, Field.shown? "MessageBodyMD5" layout, body, enqueueTime,
    nextVisibleTime, firstDequeueTime, dequeueCount, priority⟩, idShown, handleShown, bodyShown,
    enqueueShown, nextShown, firstShown, countShown, priorityShown, rfl⟩

end ReceivedMessage

/-! ### Batches -/

section Batches

variable {response : Response} {items : List (List Field)}

theorem readSuccess_batch (plain : ∀ layout ∈ items, ∀ field ∈ layout, IsPlainName field.name)
    (written : response.body = Utf8.encode (Document.writeBatch "Messages" "Message" items)) :
    receiveMessages.readSuccess .base64 response =
      .ofResult ((items.map (Element.ofFields "Message")).mapM
        (ReceivedMessage.ofElement .base64)) := by
  have plainRoot : IsPlainName "Messages" := by decide
  have plainName : IsPlainName "Message" := by decide
  have document : response.document =
      .ok (.mk "Messages" "" (items.map (Element.ofFields "Message"))) := by
    rw [Response.document, written, Element.parse_writeBatch plainRoot plainName plain]
    rfl
  show Attempt.ofResult (response.document >>= ReceivedMessage.listOfElement .base64) = _
  rw [document]
  show Attempt.ofResult (ReceivedMessage.listOfElement .base64
    (.mk "Messages" "" (items.map (Element.ofFields "Message")))) = _
  rw [ReceivedMessage.listOfElement, Element.childrenNamed_batch]
  exact congrArg Attempt.ofResult (if_pos rfl)

/-- A batch is received as some messages exactly if its items tell these messages, in order. -/
theorem readSuccess_batch_eq_ok_iff
    (plain : ∀ layout ∈ items, ∀ field ∈ layout, IsPlainName field.name)
    (written : response.body = Utf8.encode (Document.writeBatch "Messages" "Message" items))
    {messages : List ReceivedMessage} :
    receiveMessages.readSuccess .base64 response = .ok messages ↔
      List.Forall₂ ReceivedMessage.Tells items messages := by
  rw [readSuccess_batch plain written, Attempt.ofResult, mapError_eq_ok, mapM_eq_ok_iff,
    List.forall₂_map_left_iff]
  simp only [ReceivedMessage.ofElement_eq_ok_iff]

/-- A batch is read exactly if none of its items is defective. -/
theorem exists_mapM_ofElement_iff (items : List (List Field)) :
    (∃ messages, (items.map (Element.ofFields "Message")).mapM
        (ReceivedMessage.ofElement .base64) = .ok messages) ↔
      ¬ ∃ layout ∈ items, ReceivedMessage.Defective layout := by
  constructor
  · rintro ⟨messages, read⟩ ⟨layout, member, defective⟩
    obtain ⟨message, read⟩ := forall_mem_of_mapM read _ (List.mem_map_of_mem member)
    exact defective.not_tells (ReceivedMessage.ofElement_eq_ok_iff.mp read)
  · intro sound
    refine exists_mapM_eq_ok fun element member => ?_
    obtain ⟨layout, among, rfl⟩ := List.mem_map.mp member
    obtain ⟨message, tells⟩ :=
      ReceivedMessage.exists_tells fun defective => sound ⟨layout, among, defective⟩
    exact ⟨message, ReceivedMessage.ofElement_eq_ok_iff.mpr tells⟩

/-- **A batch of messages comes back, or it is an error.** To a receiver that takes Base64, the
messages come back in order, each with what its own item gives it, in whatever order its fields are
written. Where the fields of an item are defective, and only there, the response cannot be read, and
no message of the batch is received. -/
theorem receives_batch
    (written : response.body = Utf8.encode (Document.writeBatch "Messages" "Message" items)) :
    (∀ messages, List.Forall₂ ReceivedMessage.IsLaidOut items messages →
      receiveMessages.readSuccess .base64 response = .ok messages) ∧
    ((∀ layout ∈ items, ∀ field ∈ layout, IsPlainName field.name) →
      ((∃ layout ∈ items, ReceivedMessage.Defective layout) ↔
        ∃ error, receiveMessages.readSuccess .base64 response = .error (.failed error) ∧
          error.kind = .responseUnparsable)) := by
  refine ⟨fun messages laid => ?_, fun plain => ?_⟩
  · have plain := Field.plain_of_forall₂ (fun _ _ => ReceivedMessage.IsLaidOut.plain) laid
    rw [readSuccess_batch_eq_ok_iff plain written]
    exact laid.imp fun _ _ => ReceivedMessage.IsLaidOut.tells
  · have reads := exists_mapM_ofElement_iff items
    rw [readSuccess_batch plain written]
    cases outcome : (items.map (Element.ofFields "Message")).mapM
        (ReceivedMessage.ofElement .base64) with
    | ok messages =>
      rw [outcome] at reads
      exact iff_of_false (reads.mp ⟨messages, rfl⟩) fun found => nomatch found
    | error error =>
      rw [outcome] at reads
      refine iff_of_true (by_contra fun sound => nomatch reads.mpr sound) ⟨error, rfl, ?_⟩
      obtain ⟨element, -, fails⟩ := mapM_eq_error outcome
      exact ReceivedMessage.failsToRead_ofElement _ _ error fails

end Batches

/-- The response to a receiver that shows some items. -/
def showing (items : List (List Field)) : Response where
  status := ⟨200⟩
  headers := []
  body := Utf8.encode (Document.writeBatch "Messages" "Message" items)

/-- A message with a digest, times at the ends of their range, and signs of markup in its handle. -/
def eventful : ReceivedMessage where
  messageId := "1"
  receiptHandle := "<MessageId>2&"
  bodyDigest := some "MessageBody"
  body := [0xFF, 0x00]
  enqueueTime := some (-9223372036854775808)
  nextVisibleTime := some 9223372036854775807
  firstDequeueTime := none
  dequeueCount := some 18446744073709551615
  priority := none

/-- A message with nothing but what it needs. -/
def uneventful : ReceivedMessage where
  messageId := ""
  receiptHandle := "2"
  bodyDigest := none
  body := []
  enqueueTime := none
  nextVisibleTime := none
  firstDequeueTime := none
  dequeueCount := none
  priority := none

/-- A message comes twice, in two orders of its fields; a minus sign before a count is a defect. -/
theorem receives_batch_twice :
    receiveMessages.readSuccess .base64
        (showing [eventful.fields.reverse, uneventful.fields, eventful.fields]) =
      .ok [eventful, uneventful, eventful] ∧
    ∃ error,
      receiveMessages.readSuccess .base64
          (showing [eventful.fields, .text "DequeueCount" (some "-0") :: uneventful.fields]) =
        .error (.failed error) ∧ error.kind = .responseUnparsable := by
  have written (items : List (List Field)) : (showing items).body =
      Utf8.encode (Document.writeBatch "Messages" "Message" items) := by
    rw [showing]
  have reads (items : List (List Field)) := receives_batch (written items)
  constructor
  · refine (reads _).1 _ (.cons ?_ (.cons ?_ (.cons ?_ .nil)))
    · exact ⟨List.reverse_perm _, by decide, by decide, by simp [eventful]; decide⟩
    · exact ⟨.refl _, by decide, by decide, by simp [uneventful]⟩
    · exact ⟨.refl _, by decide, by decide, by simp [eventful]; decide⟩
  · refine ((reads _).2 ?_).mp ⟨_, List.mem_cons_of_mem _ (.head _), ?_⟩
    · decide
    · refine .badCount (show "DequeueCount" ∈ ReceivedMessage.countNames by decide)
        (show _ = some "-0" by decide) ?_
      intro count spells
      exact (Numeral.spells_minus_iff.mp spells).1

end Queue

end SignedQueue
