import Mathlib
import SignedQueue.Queue.Attributes
import SignedQueue.Proofs.RequestPaths
import SignedQueue.Proofs.WrittenBatch
import SignedQueue.Proofs.WrittenNumbers
/-!
**The attributes of a queue come back as they were set.** They are sent without the name of the
queue, which the service adds when it shows them. What is not set is not written and comes back as
not set; what is set comes back as it was, zero and false as well.

* `Markup.Element.find?_of_nodup`: what is found of fields with different names;
* `QueueAttributes.Shows`: an element that shows the name, what is set, and nothing else;
* `QueueAttributes.ofElement_of_shows`: what is read in such an element;
* `QueueAttributes.settings`: which attributes are set;
* `QueueAttributes.reads_back_echoed`: the document comes back as the attributes.
-/

namespace SignedQueue

open Markup

/-! ### Fields with different names -/

/-- Of fields with different names each is found under its own name if it is set, and nothing is
found there if it is not. -/
theorem Markup.Element.find?_of_nodup {fields : List Field}
    (distinct : (fields.map Field.name).Nodup) {field : Field} (member : field ∈ fields)
    (root : String) :
    (Element.mk root "" (fields.filterMap Field.readElement?)).find? field.name =
      field.readElement? := by
  have found := Element.find?_ofFields root field.name fields
  rwa [Field.said?_of_perm distinct (.refl fields) member] at found

theorem Markup.Element.find?_of_notMem {fields : List Field} {name : String}
    (absent : name ∉ fields.map Field.name) (root : String) :
    (Element.mk root "" (fields.filterMap Field.readElement?)).find? name = none := by
  apply Element.findAmong_unset
  rintro field member rfl
  exact absurd (List.mem_map_of_mem member) absent

namespace Queue

namespace QueueAttributes

variable {root : Element} {name : String} {attributes : QueueAttributes}

/-! ### Values -/

theorem readElement?_number (name : String) (value : Option UInt64) :
    (number name value).readElement? =
      value.map fun value => .mk name (toString value.toNat) [] := by
  cases value with
  | none => rfl
  | some value =>
    exact congrArg (fun text => some (Element.mk name text [])) (trimBlanks_toString _)

theorem valueOr_number {value : Option UInt64}
    (found : root.find? name = (number name value).readElement?) :
    root.valueOr name none Element.readUInt64 = .ok value := by
  rw [Element.valueOr, found, readElement?_number]
  cases value with
  | none => rfl
  | some value => simp only [Option.map_some, Element.text, Element.readUInt64_toString]

theorem textOr_writeBool {value : Option Bool}
    (found : root.find? name = (Field.text name (value.map writeBool)).readElement?) :
    root.textOr name none = value.map writeBool := by
  rw [Element.textOr, found]
  rcases value with _ | _ | _ <;> rfl

theorem mapM_readBool (value : Option Bool) : (value.map writeBool).mapM readBool = .ok value := by
  rcases value with _ | _ | _ <;> rfl

/-! ### What an element shows -/

/-- The names of the counters and times that only the service fills in. -/
def filledByService : List String :=
  ["ActiveMessages", "InactiveMessages", "DelayMessages", "CreateTime", "LastModifyTime"]

/-- The attributes without what only the service fills in. -/
def settable (attributes : QueueAttributes) : QueueAttributes :=
  { attributes with
    activeMessages := none
    inactiveMessages := none
    delayMessages := none
    createTime := none
    lastModifyTime := none }

/-- An element that shows the name of a queue and the attributes that are set, and nothing of what
the service fills in. -/
structure Shows (attributes : QueueAttributes) (root : Element) : Prop where
  name : root.find? "QueueName" = some (.mk "QueueName" attributes.queueName [])
  set : ∀ field ∈ attributes.fields, root.find? field.name = field.readElement?
  bare : ∀ name ∈ filledByService, root.find? name = none

/-- What is read in an element that shows attributes. -/
theorem ofElement_of_shows (shows : attributes.Shows root) :
    ofElement root = .ok attributes.settable := by
  have count (name : String) (value : Option UInt64)
      (member : number name value ∈ attributes.fields) :
      root.valueOr name none Element.readUInt64 = .ok value :=
    valueOr_number (shows.set _ member)
  have absent {α : Type} (name : String) (read : String → Except String α)
      (filled : name ∈ filledByService) : root.valueOr name none read = .ok none := by
    rw [Element.valueOr, shows.bare name filled]
  have logged : Field.text "LoggingEnabled" (attributes.loggingEnabled.map writeBool) ∈
      attributes.fields := by simp [fields]
  have logging : root.textOr "LoggingEnabled" none = attributes.loggingEnabled.map writeBool :=
    textOr_writeBool (shows.set _ logged)
  have named : root.require "QueueName" = .ok attributes.queueName := by
    rw [Element.require, shows.name]
    rfl
  simp only [ofElement, asked, named, logging, mapM_readBool,
    count "DelaySeconds" attributes.delaySeconds (by simp [fields]),
    count "MaximumMessageSize" attributes.maximumMessageSize (by simp [fields]),
    count "MessageRetentionPeriod" attributes.messageRetentionPeriod (by simp [fields]),
    count "VisibilityTimeout" attributes.visibilityTimeout (by simp [fields]),
    count "PollingWaitSeconds" attributes.pollingWaitSeconds (by simp [fields]),
    absent "ActiveMessages" _ (by decide), absent "InactiveMessages" _ (by decide),
    absent "DelayMessages" _ (by decide), absent "CreateTime" _ (by decide),
    absent "LastModifyTime" _ (by decide)]
  rfl

/-! ### The document that comes back -/

/-- The field by which the service adds the name of a queue. -/
def echo (attributes : QueueAttributes) : Field :=
  .text "QueueName" (some attributes.queueName)

/-- The names of the fields that come back. -/
def echoedNames : List String :=
  ["QueueName", "DelaySeconds", "MaximumMessageSize", "MessageRetentionPeriod", "VisibilityTimeout",
    "PollingWaitSeconds", "LoggingEnabled"]

theorem isPlainName_echoed : ∀ name ∈ echoedNames, IsPlainName name := by
  decide

/-- No blanks stand around the name of a queue. -/
theorem trimBlanks_queueName {name : String} (valid : isQueueName name = true) :
    trimBlanks name = name := by
  have none : ∀ blank ∈ [' ', '\t', '\r', '\n'], ¬ isNameChar blank = true := by simp [isNameChar]
  apply trimBlanks_of_notMem
  exact fun blank among member => none blank among (mem_nameChars valid member)

section Echoed

variable {before after : List Field} (split : attributes.fields = before ++ after)

include split

theorem names_echoed :
    ((before ++ attributes.echo :: after).map Field.name).Perm echoedNames := by
  have names : echoedNames = (attributes.echo :: attributes.fields).map Field.name := rfl
  rw [names, split]
  exact List.perm_middle.map Field.name

/-- The document with the name added anywhere is read as an element that shows the attributes. -/
theorem shows_echoed (valid : isQueueName attributes.queueName = true) :
    ∃ root, Element.parse (Utf8.encode (Document.write "Queue"
        (before ++ attributes.echo :: after))) = .ok root ∧ attributes.Shows root := by
  -- wherever the name is added, the names are the same up to their order
  have names := names_echoed split
  have plain : ∀ field ∈ before ++ attributes.echo :: after, IsPlainName field.name :=
    fun field member => isPlainName_echoed _ (names.mem_iff.mp (List.mem_map_of_mem member))
  have distinct : ((before ++ attributes.echo :: after).map Field.name).Nodup :=
    names.nodup_iff.mpr (by decide)
  have plainRoot : IsPlainName "Queue" := by decide
  refine ⟨_, Element.parse_write plainRoot plain, ?_, ?_, ?_⟩
  · have echoed : attributes.echo ∈ before ++ attributes.echo :: after := by simp
    rw [show "QueueName" = attributes.echo.name from rfl, Element.find?_of_nodup distinct echoed]
    exact congrArg (fun text => some (Element.mk _ text [])) (trimBlanks_queueName valid)
  · intro field member
    apply Element.find?_of_nodup distinct
    rw [split, List.mem_append] at member
    rw [List.mem_append, List.mem_cons]
    exact member.imp_right .inr
  · intro name filled
    apply Element.find?_of_notMem
    have apart : ∀ name ∈ filledByService, name ∉ echoedNames := by decide
    rw [names.mem_iff]
    exact apart name filled

end Echoed

/-- Which of the attributes are set, in the order in which they are written. -/
def settings (attributes : QueueAttributes) : List (String × Bool) :=
  [ ("DelaySeconds", attributes.delaySeconds.isSome),
    ("MaximumMessageSize", attributes.maximumMessageSize.isSome),
    ("MessageRetentionPeriod", attributes.messageRetentionPeriod.isSome),
    ("VisibilityTimeout", attributes.visibilityTimeout.isSome),
    ("PollingWaitSeconds", attributes.pollingWaitSeconds.isSome),
    ("LoggingEnabled", attributes.loggingEnabled.isSome) ]

/-- There is one element for each field that is set. -/
theorem names_readElements (fields : List Field) :
    (fields.filterMap Field.readElement?).map Element.name =
      ((fields.map fun field => (field.name, field.value.isSome)).filter Prod.snd).map
        Prod.fst := by
  induction fields with
  | nil => rfl
  | cons field rest ih =>
    obtain ⟨name, value⟩ := field
    cases value with
    | none => exact ih
    | some value => exact congrArg (name :: ·) ih

theorem settings_eq (attributes : QueueAttributes) :
    attributes.settings = attributes.fields.map fun field => (field.name, field.value.isSome) := by
  simp [settings, fields, number, Field.text]

/-- The attributes that are set come back as they were, wherever the service adds the name of the
queue to their document, and all else comes back as not set. The document has one element for each
attribute that is set, whatever its value, and none for the others. -/
theorem reads_back_echoed (valid : isQueueName attributes.queueName = true) :
    (∀ before after, attributes.fields = before ++ after →
      ∃ root, Element.parse (Utf8.encode (Document.write "Queue"
          (before ++ attributes.echo :: after))) = .ok root ∧
        ofElement root = .ok attributes.settable) ∧
      ∃ root, Element.parse (Utf8.encode attributes.write) = .ok root ∧
        root.children.map Element.name = (attributes.settings.filter Prod.snd).map Prod.fst := by
  constructor
  · intro before after split
    obtain ⟨root, parsed, shows⟩ := shows_echoed split valid
    exact ⟨root, parsed, ofElement_of_shows shows⟩
  · have plain : ∀ field ∈ attributes.fields, IsPlainName field.name :=
      fun field member =>
        isPlainName_echoed _ (List.mem_cons_of_mem _ (List.mem_map_of_mem member))
    have plainRoot : IsPlainName "Queue" := by decide
    refine ⟨_, Element.parse_write plainRoot plain, ?_⟩
    rw [settings_eq]
    exact names_readElements attributes.fields

/-- Attributes with zeros, the largest number and a truth value that is false, and some that are not
set. -/
def sparse : QueueAttributes where
  queueName := "jobs-1"
  delaySeconds := some 0
  visibilityTimeout := some 18446744073709551615
  loggingEnabled := some false
  activeMessages := some 7

theorem reads_back_echoed_sparse :
    isQueueName sparse.queueName = true ∧
      sparse.fields = sparse.fields.take 3 ++ sparse.fields.drop 3 ∧
        (∃ root, Element.parse (Utf8.encode (Document.write "Queue"
            (sparse.fields.take 3 ++ sparse.echo :: sparse.fields.drop 3))) = .ok root ∧
          ofElement root = .ok { sparse with activeMessages := none }) ∧
        ∃ root, Element.parse (Utf8.encode sparse.write) = .ok root ∧
          root.children.map Element.name =
            ["DelaySeconds", "VisibilityTimeout", "LoggingEnabled"] := by
  have valid : isQueueName sparse.queueName = true := by decide
  have split : sparse.fields = sparse.fields.take 3 ++ sparse.fields.drop 3 :=
    (List.take_append_drop 3 _).symm
  obtain ⟨back, document⟩ := reads_back_echoed valid
  exact ⟨valid, split, back _ _ split, document⟩

end QueueAttributes

end Queue

end SignedQueue
