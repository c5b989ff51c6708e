import Mathlib
import SignedQueue.Queue.Request
import SignedQueue.Proofs.Departure
/-!
**Which request a path belongs to.** The path of a request can be taken apart again: the name of a
queue stands between two slashes as it was given, and the query holds the operation's own parameters
and nothing else. With the method it tells the operation, the queue and what a receiver asks for.

* `PathParts`: what stands between the slashes of a path, and the parameters of its query;
* `QueueRequest.parts`: the parts of the path of each request;
* `QueueRequest.visit_build`: the path that the message of a request has;
* `QueueRequest.visit_notes`: what is noted of a request;
* `QueueRequest.path_determines`: what can be told from a method and a path.
-/

namespace SignedQueue.Queue

/-! ### Paths taken apart -/

/-- What stands between the slashes of a path, and the parameters of its query. -/
structure PathParts where
  segments : List String
  parameters : List String := []
  deriving Repr, DecidableEq

namespace PathParts

/-- The pieces of a text between marks. -/
def pieces (mark : Char) (characters : List Char) : List String :=
  (characters.splitOn mark).map String.ofList

/-- A path is cut at its first `?`, and what stands before it is split at the slashes. -/
def ofPath (path : String) : PathParts where
  segments := pieces '/' (path.toList.takeWhile (· ≠ '?'))
  parameters :=
    match path.toList.dropWhile (· ≠ '?') with
    | [] => []
    | _ :: query => pieces '&' query

/-- The path that some parts make. -/
def path (parts : PathParts) : String :=
  "/".intercalate parts.segments ++
    if parts.parameters = [] then "" else "?" ++ "&".intercalate parts.parameters

/-- Parts of which each can be told from its neighbours. -/
structure Apart (parts : PathParts) : Prop where
  filled : parts.segments ≠ []
  segments : ∀ segment ∈ parts.segments, '/' ∉ segment.toList ∧ '?' ∉ segment.toList
  parameters : ∀ parameter ∈ parts.parameters, '&' ∉ parameter.toList

theorem pieces_intercalate {mark : Char} {texts : List String} (filled : texts ≠ [])
    (absent : ∀ text ∈ texts, mark ∉ text.toList) :
    pieces mark ([mark].intercalate (texts.map String.toList)) = texts := by
  have apart : ∀ characters ∈ texts.map String.toList, mark ∉ characters := by
    intro characters member
    obtain ⟨text, inside, rfl⟩ := List.mem_map.mp member
    exact absent text inside
  rw [pieces, List.splitOn_intercalate mark apart (by simpa using filled), List.map_map]
  simp

/-- What is not in any of the texts nor the mark is not between them. -/
theorem notMem_intercalate {mark character : Char} (differ : character ≠ mark)
    {texts : List String} (absent : ∀ text ∈ texts, character ∉ text.toList) :
    character ∉ [mark].intercalate (texts.map String.toList) := by
  induction texts with
  | nil => simp
  | cons text rest ih =>
    rw [List.forall_mem_cons] at absent
    cases rest with
    | nil => simpa using absent.1
    | cons next rest =>
      rw [List.map_cons, List.map_cons, List.intercalate_cons_cons, List.mem_append,
        List.mem_append, List.mem_singleton]
      rintro ((member | same) | member)
      · exact absent.1 member
      · exact differ same
      · exact ih absent.2 member

/-- The parts of a path are read off it again. -/
theorem ofPath_path {parts : PathParts} (apart : parts.Apart) : ofPath parts.path = parts := by
  obtain ⟨segments, parameters⟩ := parts
  obtain ⟨filled, clean, separate⟩ := apart
  have slashes := pieces_intercalate filled fun segment member => (clean segment member).1
  have noQuery : ∀ character ∈ ['/'].intercalate (segments.map String.toList),
      decide (character ≠ '?') = true := by
    intro character member
    rw [decide_eq_true_eq]
    rintro rfl
    exact notMem_intercalate (by decide) (fun segment inside => (clean segment inside).2) member
  unfold ofPath path
  by_cases empty : parameters = []
  · subst empty
    simp only [if_true, String.toList_append, String.toList_intercalate, String.reduceToList,
      List.append_nil]
    rw [List.takeWhile_eq_self_iff.mpr noQuery, List.dropWhile_eq_nil_iff.mpr noQuery, slashes]
  · simp only [if_neg empty, String.toList_append, String.toList_intercalate, String.reduceToList]
    rw [List.takeWhile_append_of_pos noQuery, List.dropWhile_append_of_pos noQuery]
    simp [slashes, pieces_intercalate empty separate]

end PathParts

/-! ### The parts of each request -/

theorem mem_nameChars {name : String} (valid : isQueueName name = true) {character : Char}
    (member : character ∈ name.toList) : isNameChar character = true := by
  unfold isQueueName at valid
  cases characters : name.toList with
  | nil =>
    rw [characters] at member
    cases member
  | cons first rest =>
    rw [characters] at valid member
    simp only [Bool.and_eq_true] at valid
    obtain ⟨⟨letter, others⟩, _⟩ := valid
    rcases List.mem_cons.mp member with rfl | later
    · simp [isNameChar, Char.isAlphanum, letter]
    · exact List.all_eq_true.mp others character later

/-- The name of a queue holds no character that parts a path. -/
theorem notMem_queueName {name : String} (valid : isQueueName name = true) :
    '/' ∉ name.toList ∧ '?' ∉ name.toList :=
  ⟨fun slash => absurd (mem_nameChars valid slash) (by decide),
    fun mark => absurd (mem_nameChars valid mark) (by decide)⟩

theorem queuePath_eq_ok {name path : String} :
    queuePath name = .ok path ↔ isQueueName name = true ∧ path = "/queues/" ++ name := by
  unfold queuePath
  split_ifs with valid
  · simp [valid, eq_comm]
  · simp [valid]

theorem messagesPath_eq_ok {name path : String} :
    messagesPath name = .ok path ↔
      isQueueName name = true ∧ path = "/queues/" ++ name ++ "/messages" := by
  rw [messagesPath, map_eq_ok]
  constructor
  · rintro ⟨queue, made, rfl⟩
    obtain ⟨valid, rfl⟩ := queuePath_eq_ok.mp made
    exact ⟨valid, rfl⟩
  · rintro ⟨valid, rfl⟩
    exact ⟨_, queuePath_eq_ok.mpr ⟨valid, rfl⟩, rfl⟩

/-- The parameters of a receiver, each of which is there only if it is given. -/
def receiveParameters (request : ReceiveRequest) : List String :=
  (request.numOfMessages.map fun number => "numOfMessages=" ++ toString number.toNat).toList ++
    (request.waitSeconds.map fun wait => "waitseconds=" ++ toString wait.toNat).toList

theorem receiveQuery_eq_ok {request : ReceiveRequest} {query : String}
    (made : receiveQuery request = .ok query) :
    query =
      if receiveParameters request = [] then ""
      else "?" ++ "&".intercalate (receiveParameters request) := by
  unfold receiveQuery at made
  rw [receiveParameters]
  cases asked : request.numOfMessages with
  | none =>
    rw [asked] at made
    cases made
    rfl
  | some number =>
    rw [asked] at made
    simp only at made
    split_ifs at made
    · cases made
      rfl
    · cases made

namespace QueueRequest

/-- The queue that a request is about, where its operation takes one. -/
def queueName? : QueueRequest → Option String
  | .getAccountAttributes => none
  | .setAccountAttributes _ => none
  | .createQueue attributes => some attributes.queueName
  | .setQueueAttributes attributes => some attributes.queueName
  | .getQueueAttributes queueName => some queueName
  | .sendMessage request => some request.queueName
  | .receiveMessages request => some request.queueName
  | .deleteMessages request => some request.queueName

/-- How many messages a receiver takes, and how long it waits. -/
def receives? : QueueRequest → Option (Option UInt32 × Option UInt64)
  | .receiveMessages request => some (request.numOfMessages, request.waitSeconds)
  | _ => none

/-- The method of the operation of a request. -/
def method (request : QueueRequest) : Method :=
  request.visit fun operation _ _ _ => operation.method

/-- The parts of the path of a request. -/
def parts : QueueRequest → PathParts
  | .getAccountAttributes => { segments := ["", ""], parameters := ["accountmeta=true"] }
  | .setAccountAttributes _ => { segments := ["", ""], parameters := ["accountmeta=true"] }
  | .createQueue attributes => { segments := ["", "queues", attributes.queueName] }
  | .setQueueAttributes attributes =>
    { segments := ["", "queues", attributes.queueName], parameters := ["metaoverride=true"] }
  | .getQueueAttributes queueName => { segments := ["", "queues", queueName] }
  | .sendMessage request => { segments := ["", "queues", request.queueName, "messages"] }
  | .receiveMessages request =>
    { segments := ["", "queues", request.queueName, "messages"]
      parameters := receiveParameters request }
  | .deleteMessages request => { segments := ["", "queues", request.queueName, "messages"] }

theorem path_queue (name : String) (parameters : List String) :
    PathParts.path { segments := ["", "queues", name], parameters } =
      "/queues/" ++ name ++
        if parameters = [] then "" else "?" ++ "&".intercalate parameters := by
  have segments : "/".intercalate ["", "queues", name] = "/queues/" ++ name := by
    rw [← String.toList_inj]
    simp
  rw [PathParts.path, segments]

theorem path_messages (name : String) (parameters : List String) :
    PathParts.path { segments := ["", "queues", name, "messages"], parameters } =
      "/queues/" ++ name ++ "/messages" ++
        if parameters = [] then "" else "?" ++ "&".intercalate parameters := by
  have segments : "/".intercalate ["", "queues", name, "messages"] =
      "/queues/" ++ name ++ "/messages" := by
    rw [← String.toList_inj]
    simp
  rw [PathParts.path, segments]

/-- Of a request is noted what `visit` tells. Its message has its operation's method, and the path
that its parts make. A queue that it names has a name that is accepted. -/
theorem visit_build (request : QueueRequest) :
    request.visit fun operation own noted _ =>
      ∀ message given, operation.build own = .ok (message, given) →
        given = noted ∧ message.method = request.method ∧
          message.resourcePath = request.parts.path ∧
            ∀ name ∈ request.queueName?, isQueueName name = true := by
  cases request with
  | getAccountAttributes =>
    intro message given made
    cases made
    exact ⟨rfl, rfl, by decide +kernel, nofun⟩
  | setAccountAttributes attributes =>
    intro message given made
    cases made
    refine ⟨rfl, rfl, ?_, nofun⟩
    exact (by decide +kernel : accountPath = PathParts.path ⟨["", ""], ["accountmeta=true"]⟩)
  | createQueue attributes =>
    intro message given made
    obtain ⟨path, located, made⟩ := bind_eq_ok.mp made
    obtain ⟨valid, rfl⟩ := queuePath_eq_ok.mp located
    cases made
    refine ⟨rfl, rfl, ?_, by simpa [queueName?] using valid⟩
    rw [parts, path_queue, if_pos rfl, String.append_empty, withDocument]
  | setQueueAttributes attributes =>
    intro message given made
    obtain ⟨path, located, made⟩ := bind_eq_ok.mp made
    obtain ⟨valid, rfl⟩ := queuePath_eq_ok.mp located
    cases made
    refine ⟨rfl, rfl, ?_, by simpa [queueName?] using valid⟩
    rw [parts, path_queue, if_neg (List.cons_ne_nil _ _)]
    rfl
  | getQueueAttributes name =>
    intro message given made
    obtain ⟨path, located, made⟩ := map_eq_ok.mp made
    obtain ⟨valid, rfl⟩ := queuePath_eq_ok.mp located
    cases made
    refine ⟨rfl, rfl, ?_, by simpa [queueName?] using valid⟩
    rw [parts, path_queue, if_pos rfl, String.append_empty, bare]
  | sendMessage request =>
    intro message given made
    obtain ⟨path, located, made⟩ := bind_eq_ok.mp made
    obtain ⟨valid, rfl⟩ := messagesPath_eq_ok.mp located
    obtain ⟨document, _, made⟩ := bind_eq_ok.mp made
    cases made
    refine ⟨rfl, rfl, ?_, by simpa [queueName?] using valid⟩
    rw [parts, path_messages, if_pos rfl, String.append_empty, withDocument]
  | receiveMessages request =>
    intro message given made
    obtain ⟨path, located, made⟩ := bind_eq_ok.mp made
    obtain ⟨valid, rfl⟩ := messagesPath_eq_ok.mp located
    obtain ⟨query, asked, made⟩ := bind_eq_ok.mp made
    cases made
    refine ⟨rfl, rfl, ?_, by simpa [queueName?] using valid⟩
    rw [parts, path_messages, receiveQuery_eq_ok asked, bare]
  | deleteMessages request =>
    intro message given made
    simp only [Queue.deleteMessages] at made
    obtain ⟨_, made⟩ := check_eq_ok.mp made
    obtain ⟨path, located, made⟩ := bind_eq_ok.mp made
    obtain ⟨valid, rfl⟩ := messagesPath_eq_ok.mp located
    cases made
    refine ⟨rfl, rfl, ?_, by simpa [queueName?] using valid⟩
    rw [parts, path_messages, if_pos rfl, String.append_empty, withDocument]

theorem visit_notes (request : QueueRequest) :
    request.visit fun operation own noted _ => operation.Notes own noted := by
  have built := request.visit_build
  cases request <;> exact fun message given builds => (built message given builds).1

theorem resourcePath_message {request : QueueRequest} {message : RequestMessage}
    (made : request.message = .ok message) :
    message.method = request.method ∧ message.resourcePath = request.parts.path ∧
      ∀ name ∈ request.queueName?, isQueueName name = true := by
  have each {ρ γ α : Type} {operation : Operation ρ γ α} {own : ρ} {noted : γ}
      {told : RequestMessage → Prop}
      (built : ∀ message given, operation.build own = .ok (message, given) →
        given = noted ∧ told message)
      (made : (operation.build own).map Prod.fst = .ok message) : told message := by
    obtain ⟨⟨_, _⟩, builds, rfl⟩ := map_eq_ok.mp made
    exact (built _ _ builds).2
  have built := request.visit_build
  cases request <;> exact each built made

/-! ### What a path tells -/

/-- A figure is no mark of a query. -/
theorem mark_notMem_parameter {name : String} (clean : '&' ∉ name.toList) (number : Nat) :
    '&' ∉ (name ++ toString number).toList := by
  rw [show toString number = number.repr from rfl, Nat.repr_eq_ofList_toDigits,
    String.toList_append, String.toList_ofList, List.mem_append]
  rintro (member | figure)
  · exact clean member
  · exact absurd (Nat.isDigit_of_mem_toDigits (by decide) (by decide) figure) (by decide)

theorem mark_notMem_receiveParameters (request : ReceiveRequest) :
    ∀ parameter ∈ receiveParameters request, '&' ∉ parameter.toList := by
  intro parameter member
  rcases List.mem_append.mp member with counted | timed
  · obtain ⟨number, _, rfl⟩ := Option.map_eq_some_iff.mp (Option.mem_toList.mp counted)
    exact mark_notMem_parameter (by decide) _
  · obtain ⟨wait, _, rfl⟩ := Option.map_eq_some_iff.mp (Option.mem_toList.mp timed)
    exact mark_notMem_parameter (by decide) _

/-- The parts of a request whose queue has a name that is accepted can be told from each other. -/
theorem apart_parts {request : QueueRequest}
    (named : ∀ name ∈ request.queueName?, isQueueName name = true) : request.parts.Apart := by
  have queue {name : String} (valid : isQueueName name = true) :
      ∀ segment ∈ ["", "queues", name], '/' ∉ segment.toList ∧ '?' ∉ segment.toList := by
    simpa using notMem_queueName valid
  have messages {name : String} (valid : isQueueName name = true) :
      ∀ segment ∈ ["", "queues", name, "messages"],
        '/' ∉ segment.toList ∧ '?' ∉ segment.toList := by
    simpa using notMem_queueName valid
  cases request with
  | getAccountAttributes | setAccountAttributes =>
    exact ⟨List.cons_ne_nil _ _, by simp [parts], by simp [parts]⟩
  | createQueue attributes =>
    exact ⟨List.cons_ne_nil _ _, queue (named _ rfl), nofun⟩
  | setQueueAttributes attributes =>
    exact ⟨List.cons_ne_nil _ _, queue (named _ rfl), by simp [parts]⟩
  | getQueueAttributes name => exact ⟨List.cons_ne_nil _ _, queue (named _ rfl), nofun⟩
  | sendMessage request => exact ⟨List.cons_ne_nil _ _, messages (named _ rfl), nofun⟩
  | receiveMessages request =>
    exact ⟨List.cons_ne_nil _ _, messages (named _ rfl), mark_notMem_receiveParameters request⟩
  | deleteMessages request => exact ⟨List.cons_ne_nil _ _, messages (named _ rfl), nofun⟩

/-- Two optional items of different kinds can be told from the list of what is there. -/
theorem optional_append_inj {α β γ : Type} {write : α → γ} {write' : β → γ}
    (injective : Function.Injective write) (injective' : Function.Injective write')
    (differ : ∀ item item', write item ≠ write' item') {first second : Option α}
    {first' second' : Option β}
    (same : (first.map write).toList ++ (first'.map write').toList =
      (second.map write).toList ++ (second'.map write').toList) :
    first = second ∧ first' = second' := by
  have differ' : ∀ item item', write' item' ≠ write item :=
    fun item item' => (differ item item').symm
  cases first <;> cases second <;> cases first' <;> cases second' <;>
    simp_all [injective.eq_iff, injective'.eq_iff]

/-- What a receiver asks for can be told from its parameters. -/
theorem receiveParameters_inj {first second : ReceiveRequest}
    (same : receiveParameters first = receiveParameters second) :
    first.numOfMessages = second.numOfMessages ∧ first.waitSeconds = second.waitSeconds := by
  have number {start : String} {first second : Nat}
      (equal : start ++ toString first = start ++ toString second) : first = second :=
    Nat.repr_inj.mp (String.append_right_inj _ |>.mp equal)
  refine optional_append_inj (fun _ _ equal => UInt32.toNat_inj.mp (number equal))
    (fun _ _ equal => UInt64.toNat_inj.mp (number equal)) (fun count wait equal => ?_) same
  have heads := congrArg (fun text => text.toList.head?) equal
  simp at heads

/-- The name of the operation that a method and the parts of a path belong to. -/
def operationAt (method : Method) (parts : PathParts) : String :=
  match parts.segments.length with
  | 2 => if method = .get then "GetAccountMeta" else "SetAccountMeta"
  | 3 =>
    if method = .get then "GetQueueAttributes"
    else if parts.parameters = [] then "CreateQueue"
    else "SetQueueAttributes"
  | _ =>
    if method = .get then "ReceiveMessage"
    else if method = .post then "SendMessage"
    else "BatchDeleteMessage"

theorem operationName_eq (request : QueueRequest) :
    request.operationName = operationAt request.method request.parts := by
  cases request <;> rfl

theorem queueName?_eq (request : QueueRequest) :
    request.queueName? = request.parts.segments[2]? := by
  cases request <;> rfl

/-- Only one operation asks for messages. -/
theorem exists_receive {request : QueueRequest}
    (receiver : request.operationName = "ReceiveMessage") :
    ∃ receive, request = .receiveMessages receive := by
  cases request with
  | receiveMessages receive => exact ⟨receive, rfl⟩
  | getAccountAttributes => exact absurd receiver (by decide)
  | setAccountAttributes => exact absurd receiver (by decide : "SetAccountMeta" ≠ _)
  | createQueue => exact absurd receiver (by decide : "CreateQueue" ≠ _)
  | setQueueAttributes => exact absurd receiver (by decide : "SetQueueAttributes" ≠ _)
  | getQueueAttributes => exact absurd receiver (by decide : "GetQueueAttributes" ≠ _)
  | sendMessage => exact absurd receiver (by decide : "SendMessage" ≠ _)
  | deleteMessages => exact absurd receiver (by decide : "BatchDeleteMessage" ≠ _)

theorem receives?_eq_none {request : QueueRequest}
    (other : request.operationName ≠ "ReceiveMessage") : request.receives? = none := by
  cases request with
  | receiveMessages request => exact absurd rfl other
  | _ => rfl

/-- The method of a request and the parts of its path tell its operation, its queue and what it
asks for. -/
theorem parts_inj {first second : QueueRequest} (sameMethod : first.method = second.method)
    (sameParts : first.parts = second.parts) :
    first.operationName = second.operationName ∧ first.queueName? = second.queueName? ∧
      first.receives? = second.receives? := by
  have sameName : first.operationName = second.operationName := by
    rw [operationName_eq, operationName_eq, sameMethod, sameParts]
  refine ⟨sameName, by rw [queueName?_eq, queueName?_eq, sameParts], ?_⟩
  by_cases receiver : first.operationName = "ReceiveMessage"
  · obtain ⟨receive, rfl⟩ := exists_receive receiver
    obtain ⟨receive', rfl⟩ := exists_receive (sameName ▸ receiver)
    obtain ⟨number, wait⟩ := receiveParameters_inj (congrArg PathParts.parameters sameParts)
    rw [receives?, receives?, number, wait]
  · rw [receives?_eq_none receiver, receives?_eq_none (sameName ▸ receiver)]

/-- **A path belongs to one operation, one queue and one query.** Requests whose messages have the
same method and path agree in their operation, in their queue and in what a receiver asks for, and
each path falls into the parts of its request. -/
theorem path_determines :
    (∀ first second firstMessage secondMessage, QueueRequest.message first = .ok firstMessage →
      QueueRequest.message second = .ok secondMessage →
        firstMessage.method = secondMessage.method →
          firstMessage.resourcePath = secondMessage.resourcePath →
            first.operationName = second.operationName ∧ first.queueName? = second.queueName? ∧
              first.receives? = second.receives?) ∧
      ∀ request message, QueueRequest.message request = .ok message →
        PathParts.ofPath message.resourcePath = request.parts := by
  have taken {request : QueueRequest} {message : RequestMessage}
      (made : request.message = .ok message) :
      PathParts.ofPath message.resourcePath = request.parts := by
    obtain ⟨_, path, named⟩ := resourcePath_message made
    rw [path, PathParts.ofPath_path (apart_parts named)]
  refine ⟨?_, fun request message made => taken made⟩
  intro first second firstMessage secondMessage made made' sameMethod samePath
  have method := (resourcePath_message made).1
  have method' := (resourcePath_message made').1
  refine parts_inj (method.symm.trans (sameMethod.trans method')) ?_
  rw [← taken made, ← taken made', samePath]

/-- A queue may be called as a part of a path is: its messages are not those of another one. -/
theorem path_determines_messages :
    ∃ message, (receiveMessages
        { queueName := "messages", waitSeconds := some 3, numOfMessages := some 16 }).message =
          .ok message ∧
      PathParts.ofPath message.resourcePath =
          ⟨["", "queues", "messages", "messages"], ["numOfMessages=16", "waitseconds=3"]⟩ ∧
        ∀ (other : QueueRequest) message', other.message = .ok message' →
          message'.method = message.method → message'.resourcePath = message.resourcePath →
            other.queueName? = some "messages" ∧ other.receives? = some (some 16, some 3) := by
  refine ⟨bare .get "/queues/messages/messages?numOfMessages=16&waitseconds=3",
    by decide +kernel, ?_, ?_⟩
  · exact path_determines.2 (receiveMessages
      { queueName := "messages", waitSeconds := some 3, numOfMessages := some 16 }) _
      (by decide +kernel)
  · intro other message' made method path
    exact (path_determines.1 other (receiveMessages
      { queueName := "messages", waitSeconds := some 3, numOfMessages := some 16 }) _ _ made
      (by decide +kernel) method path).2

end QueueRequest

end SignedQueue.Queue
