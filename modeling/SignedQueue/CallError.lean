import SignedQueue.Text.Quoted
/-!
**Errors of a call.** Whatever goes wrong in a call is one `CallError`: a kind, which fixes who
raised it, a code, a message, and what else is known. A caller branches on the kind or its category
and never on a text.

* `ErrorKind`, `ErrorCategory`: what went wrong, and who has to deal with it;
* `CallError.describe`: the one-line form;
* `CallError.layout`: the form on many lines.
-/

namespace SignedQueue

/-! ### Kinds and categories -/

/-- What went wrong. -/
inductive ErrorKind where
  | invalidArgument
  | configInvalid
  | signatureFailed
  | transport
  | timeout
  | cancelled
  | responseUnparsable
  | unexpected
  /-- The service reports a failure of the whole request. -/
  | service
  /-- The service reports failures of single items. -/
  | mandatoryHandling
  deriving Repr, DecidableEq

/-- Who has to deal with an error. -/
inductive ErrorCategory where
  | onThisSide
  | byService
  /-- Reported by the service for items that the caller must look at. -/
  | byItem
  deriving Repr, DecidableEq

namespace ErrorKind

/-- The category of a kind. -/
def category : ErrorKind → ErrorCategory
  | .service => .byService
  | .mandatoryHandling => .byItem
  | _ => .onThisSide

/-- The name of a kind. -/
def name : ErrorKind → String
  | .invalidArgument => "InvalidArgument"
  | .configInvalid => "ConfigInvalid"
  | .signatureFailed => "SignatureFailed"
  | .transport => "Transport"
  | .timeout => "Timeout"
  | .cancelled => "Cancelled"
  | .responseUnparsable => "ResponseUnparsable"
  | .unexpected => "Unexpected"
  | .service => "Service"
  | .mandatoryHandling => "MandatoryHandling"

/-- A kind in words. -/
def describe : ErrorKind → String
  | .invalidArgument => "invalid argument"
  | .configInvalid => "invalid configuration"
  | .signatureFailed => "signature computation failed"
  | .transport => "transport error"
  | .timeout => "timed out"
  | .cancelled => "cancelled"
  | .responseUnparsable => "response unparsable"
  | .unexpected => "unexpected error"
  | .service => "service error"
  | .mandatoryHandling => "service error requires handling"

end ErrorKind

/-! ### Errors -/

/-- One failed item of a batch. -/
structure ItemFailure where
  code : String
  message : String
  /-- What names the item, such as a receipt handle. -/
  key : Option String
  deriving Repr, DecidableEq

/-- What went wrong in a call. -/
structure CallError where
  kind : ErrorKind
  /-- The service's own code; an error raised on this side has the code `Unknown`. -/
  code : String := "Unknown"
  message : String
  /-- The id that names the request, on this side or at the service. -/
  requestId : Option String := none
  hostId : Option String := none
  /-- Further lines, for whoever looks for the cause. -/
  context : List String := []
  failures : List ItemFailure := []
  /-- The text of the error behind this one. -/
  source : Option String := none
  deriving Repr, DecidableEq

namespace CallError

/-- The category of an error is its kind's. -/
def category (error : CallError) : ErrorCategory :=
  error.kind.category

/-- Whether an error was raised on this side. -/
def isLocal (error : CallError) : Bool :=
  error.category = .onThisSide

/-- The error with a further line of context. -/
def withContext (error : CallError) (line : String) : CallError :=
  { error with context := error.context ++ [line] }

/-- The error with the given request id, unless it carries one already. -/
def orRequestId (error : CallError) (requestId : Option String) : CallError :=
  { error with requestId := error.requestId.or requestId }

/-- An error of a kind whose message is the text of the fault behind it. -/
def ofFault (kind : ErrorKind) (fault : String) : CallError :=
  { kind, message := fault, source := some fault }

/-- An error that the service reports with a code of its own. -/
def reported (code message : String) : CallError :=
  { kind := .service, code, message }

@[simp]
theorem orRequestId_kind (error : CallError) (requestId : Option String) :
    (error.orRequestId requestId).kind = error.kind := rfl

@[simp]
theorem withContext_kind (error : CallError) (line : String) :
    (error.withContext line).kind = error.kind := rfl

/-! ### One line -/

/-- An error on one line: its kind and code, then whatever else it carries. -/
def describe (error : CallError) : String :=
  let message := if error.message = "" then "" else " => " ++ error.message
  let requestId := (error.requestId.map (", request_id: " ++ ·)).getD ""
  let hostId := (error.hostId.map (", host_id: " ++ ·)).getD ""
  let failures :=
    if error.failures = [] then "" else ", failed items: " ++ toString error.failures.length
  let context :=
    if error.context = [] then ""
    else ", context: \x7b " ++ ", ".intercalate error.context ++ " \x7d"
  let source := (error.source.map (", source: " ++ ·)).getD ""
  error.kind.describe ++ " [" ++ error.code ++ "]" ++ message ++ requestId ++ hostId ++ failures ++
    context ++ source

/-! ### Many lines -/

/-- Lines moved one level to the right. -/
def indent (lines : List String) : List String :=
  lines.map ("    " ++ ·)

/-- Lines of which the last one ends with a comma. -/
def withComma : List String → List String
  | [] => []
  | [line] => [line ++ ","]
  | line :: rest => line :: withComma rest

/-- Lines of which the first one follows a text. -/
def after (text : String) : List String → List String
  | [] => [text]
  | line :: rest => (text ++ line) :: rest

/-- Items between an opening and a closing line, one level to the right and each followed by a
comma; without items both stand on one line. -/
def block (opening closing : String) (items : List (List String)) : List String :=
  if items.isEmpty then [opening ++ closing]
  else opening :: indent (items.flatMap withComma) ++ [closing]

/-- An optional text on lines. -/
def optionLines : Option String → List String
  | none => ["None"]
  | some text => block "Some(" ")" [[Quoted.quote text]]

/-- A failed item on lines. -/
def failureLines (failure : ItemFailure) : List String :=
  block "ItemFailure \x7b" "\x7d"
    [ after "code: " [Quoted.quote failure.code],
      after "message: " [Quoted.quote failure.message],
      after "key: " (optionLines failure.key) ]

/-- An error on many lines, field by field. An error with another one behind it has no such form. -/
def layout (error : CallError) : Option String :=
  match error.source with
  | some _ => none
  | none =>
    some <| "\n".intercalate <| block "Error \x7b" "\x7d"
      [ after "kind: " [error.kind.name],
        after "code: " [Quoted.quote error.code],
        after "message: " [Quoted.quote error.message],
        after "request_id: " (optionLines error.requestId),
        after "host_id: " (optionLines error.hostId),
        after "context: " (block "[" "]" (error.context.map fun line => [Quoted.quote line])),
        after "failures: " (block "[" "]" (error.failures.map failureLines)),
        after "source: " ["None"] ]

end CallError

end SignedQueue
