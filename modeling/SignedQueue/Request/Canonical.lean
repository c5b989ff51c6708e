import SignedQueue.Request.Message
/-!
**The text that is signed.** A signature covers the method, three headers, the service's own headers
in a fixed order, and the resource.

* `Canonical.headers`: headers with the service's own names in lower case, in the order of their
  names;
* `Canonical.stringToSign`: the text that a signature covers.
-/

namespace SignedQueue.Canonical

/-- What the names of the service's own headers begin with, in lower case. -/
def servicePrefix : String := "x-mns-"

/-- Whether a name in lower case is one of the service's own. -/
def isService (name : String) : Bool :=
  servicePrefix.toList.isPrefixOf name.toList

/-- Puts a value under a name into entries that stand in the order of their names. -/
def put (name value : String) : List (String × String) → List (String × String)
  | [] => [(name, value)]
  | entry :: rest =>
    if name < entry.1 then (name, value) :: entry :: rest
    else if name = entry.1 then (name, value) :: rest
    else entry :: put name value rest

/-- Adds a header. The service's own names are put in lower case; of several names that become one,
the name that was in lower case already keeps its value, else the first one. -/
def add (entries : List (String × String)) (entry : String × String) : List (String × String) :=
  let (name, value) := entry
  let lower := Ascii.lower name
  if !isService lower then put name value entries
  else if name = lower ∨ (entries.lookup lower).isNone then put lower value entries
  else entries

/-- Headers with the service's own names in lower case, in the order of their names. -/
def headers (entries : List (String × String)) : List (String × String) :=
  entries.foldl add []

/-- The service's own headers, one to a line. -/
def serviceLines (entries : List (String × String)) : List String :=
  ((headers entries).filter fun entry => isService entry.1).map fun (name, value) =>
    name ++ ":" ++ value

/-- The text that a signature covers. A header that is absent counts as empty. -/
def stringToSign (message : RequestMessage) : String :=
  let header (name : String) := (message.header? name).getD ""
  message.method.name ++ "\n" ++ header "Content-MD5" ++ "\n" ++ header "Content-Type" ++ "\n" ++
    header "Date" ++ "\n" ++ "\n".intercalate (serviceLines message.headers.entries) ++ "\n" ++
    message.resource

end SignedQueue.Canonical
