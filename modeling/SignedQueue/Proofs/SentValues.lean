import Mathlib
import SignedQueue.Queue.Message
import SignedQueue.Proofs.Base64Groups
import SignedQueue.Proofs.WrittenDocument
/-!
**What is read of the values that an entity was sent with.** Octets that travel in Base64 come back
as they were. A text comes back as it was exactly if no blanks stand around it, since the reader
leaves these out wherever they stand.

* `Markup.Element.findAmong_set`: the field that a look-up finds among fields that are written;
* `Queue.binary_reads_back`: octets;
* `Queue.text_reads_back_iff`: bodies that travel as they are, attributes and handles.
-/

namespace SignedQueue

open Markup

/-! ### Looking up what has been written -/

section LookUp

variable {name : String} {before after : List Field}

/-- Fields that are not set or have another name are passed over. -/
theorem Markup.Element.findAmong_skip
    (absent : ∀ field ∈ before, field.name = name → field.value = none) :
    Element.findAmong name ((before ++ after).filterMap Field.readElement?) =
      Element.findAmong name (after.filterMap Field.readElement?) := by
  induction before with
  | nil => rfl
  | cons field rest ih =>
    rw [List.forall_mem_cons] at absent
    obtain ⟨fieldName, value⟩ := field
    rw [List.cons_append]
    cases value with
    | none => exact ih absent.2
    | some value =>
      have other : ¬ (Element.mk fieldName (trimBlanks value) []).name = name :=
        fun same => nomatch absent.1 same
      show Element.findAmong name (.mk fieldName (trimBlanks value) [] ::
        (rest ++ after).filterMap Field.readElement?) = _
      rw [Element.findAmong, if_neg other]
      exact ih absent.2

/-- The first field with a name that is set is found. -/
theorem Markup.Element.findAmong_set (value : String)
    (absent : ∀ field ∈ before, field.name = name → field.value = none) :
    Element.findAmong name ((before ++ ⟨name, some value⟩ :: after).filterMap
      Field.readElement?) = some (.mk name (trimBlanks value) []) := by
  rw [Element.findAmong_skip absent]
  exact if_pos rfl

/-- A name under which no field is set is not found. -/
theorem Markup.Element.findAmong_unset
    (absent : ∀ field ∈ before, field.name = name → field.value = none) :
    Element.findAmong name (before.filterMap Field.readElement?) = none := by
  have skipped : Element.findAmong name ((before ++ []).filterMap Field.readElement?) = none :=
    Element.findAmong_skip absent
  rwa [List.append_nil] at skipped

/-- The texts of fields with one name are read in order. -/
theorem Markup.Element.texts_of_fields (root name : String) (texts : List String) :
    ((Element.mk root "" ((texts.map fun text => Field.text name (some text)).filterMap
      Field.readElement?)).childrenNamed name).map Element.text = texts.map trimBlanks := by
  induction texts with
  | nil => rfl
  | cons text rest ih =>
    rw [Element.childrenNamed, Element.children] at ih ⊢
    have written : (Field.text name (some text)).readElement? =
        some (.mk name (trimBlanks text) []) := rfl
    have named : decide ((Element.mk name (trimBlanks text) []).name = name) = true :=
      decide_eq_true rfl
    rw [List.map_cons, List.filterMap_cons_some written, List.filter_cons, if_pos named,
      List.map_cons, ih]
    rfl

end LookUp

/-! ### Octets in Base64 -/

theorem Base64.isBlankChar_symbol (value : Nat) : isBlankChar (symbol value) = false := by
  have all : ∀ value < 64, isBlankChar (symbol value) = false := by decide
  by_cases small : value < 64
  · exact all value small
  · have slash : symbol value = '/' := by
      unfold symbol
      rw [if_neg (by omega), if_neg (by omega), if_neg (by omega), if_neg (by omega)]
    rw [slash]
    rfl

theorem Base64.mem_symbols {octets : Octets} {character : Char}
    (member : character ∈ symbols octets) :
    character = '=' ∨ ∃ value, character = symbol value := by
  induction octets using symbols.induct with
  | case1 first second third rest ih =>
    simp only [symbols, List.mem_cons] at member
    rcases member with rfl | rfl | rfl | rfl | member
    on_goal 5 => exact ih member
    all_goals exact .inr ⟨_, rfl⟩
  | case2 first second =>
    simp only [symbols, List.mem_cons, List.not_mem_nil, or_false] at member
    rcases member with rfl | rfl | rfl | rfl <;> simp
  | case3 first =>
    simp only [symbols, List.mem_cons, List.not_mem_nil, or_false] at member
    rcases member with rfl | rfl | rfl | rfl <;> simp
  | case4 => cases member

/-- No blanks stand around a text in Base64. -/
theorem Base64.trimBlanks_encode (octets : Octets) :
    trimBlanks (encode octets) = encode octets := by
  refine trimBlanks_eq_self_iff.mpr (unpadded_of_forall fun character member => ?_)
  rw [encode, String.toList_ofList] at member
  rcases mem_symbols member with rfl | ⟨value, rfl⟩
  · rfl
  · exact isBlankChar_symbol value

/-- Octets of a field in Base64 are read back, also where the field is not set. -/
theorem Markup.Element.binary_of_fields {name : String} {before after : List Field}
    (root : String) (value : Option Octets)
    (first : ∀ field ∈ before, field.name = name → field.value = none)
    (only : value = none → ∀ field ∈ after, field.name = name → field.value = none) :
    (Element.mk root "" ((before ++ Field.binary name value :: after).filterMap
      Field.readElement?)).binary name = .ok value := by
  rw [Element.binary, Element.find?]
  cases value with
  | none =>
    have absent : ∀ field ∈ before ++ Field.binary name none :: after,
        field.name = name → field.value = none := by
      intro field member same
      rcases List.mem_append.mp member with member | member
      · exact first field member same
      · rcases List.mem_cons.mp member with rfl | member
        · rfl
        · exact only rfl field member same
    rw [Element.findAmong_unset absent]
  | some octets =>
    have found : Element.findAmong name ((before ++ Field.binary name (some octets) ::
        after).filterMap Field.readElement?) =
          some (.mk name (trimBlanks (Base64.encode octets)) []) := Element.findAmong_set _ first
    rw [found]
    show (Element.decodeBase64 (trimBlanks (Base64.encode octets))).map some = _
    rw [Element.decodeBase64, Base64.trimBlanks_encode, Base64.decode_eq_ok_iff.mpr rfl]
    rfl

namespace Queue

/-- The body of a message that is sent is read without the blanks around its text. -/
theorem SendRequest.require_body {request : SendRequest} {text : String}
    (encoded : request.encoding.encode request.body = .ok text) :
    ∃ document root, request.write = .ok document ∧
      Element.parse (Utf8.encode document) = .ok root ∧
        root.require "MessageBody" = .ok (trimBlanks text) := by
  have plain : ∀ field ∈
      [ Field.text "MessageBody" (some text),
        QueueAttributes.number "DelaySeconds" request.delaySeconds,
        QueueAttributes.number "Priority" request.priority ], IsPlainName field.name := by
    simp only [List.forall_mem_cons]
    exact ⟨show IsPlainName "MessageBody" by decide, show IsPlainName "DelaySeconds" by decide,
      show IsPlainName "Priority" by decide, List.forall_mem_nil _⟩
  have plainRoot : IsPlainName "Message" := by decide
  refine ⟨_, _, ?_, Element.parse_write plainRoot plain, rfl⟩
  rw [SendRequest.write, encoded]
  rfl

theorem BodyEncoding.base64_decode_eq_ok_iff {text : String} {body : Octets} :
    BodyEncoding.base64.decode text = .ok body ↔ text = Base64.encode body := by
  rw [BodyEncoding.decode, mapError_eq_ok, Element.decodeBase64, mapError_eq_ok,
    Base64.decode_eq_ok_iff]

theorem BodyEncoding.kind_of_base64_decode {text : String} {error : CallError}
    (failed : BodyEncoding.base64.decode text = .error error) :
    error.kind = .responseUnparsable := by
  simp only [BodyEncoding.decode, Element.decodeBase64] at failed
  cases read : Base64.decode text with
  | ok octets =>
    rw [read] at failed
    cases failed
  | error fault =>
    rw [read] at failed
    cases failed
    rfl

/-- **Octets come back as they were.** This holds of the body of a message that is sent in Base64,
and of a field with octets among any other fields of which none before it has its name, where a
field that is not set is read as none. Only the text that octets are written as is read as these
octets; a text that is not written for any octets is an error. -/
theorem binary_reads_back :
    (∀ request : SendRequest, request.encoding = .base64 →
      ∃ document root text, request.write = .ok document ∧
        Element.parse (Utf8.encode document) = .ok root ∧
          root.require "MessageBody" = .ok text ∧
            BodyEncoding.base64.decode text = .ok request.body) ∧
    (∀ (root name : String) (before after : List Field) (value : Option Octets),
      IsPlainName root →
      (∀ field ∈ before ++ .binary name value :: after, IsPlainName field.name) →
      (∀ field ∈ before, field.name = name → field.value = none) →
      (value = none → ∀ field ∈ after, field.name = name → field.value = none) →
      ∃ tree, Element.parse (Utf8.encode (Document.write root
          (before ++ .binary name value :: after))) = .ok tree ∧
        tree.binary name = .ok value) ∧
    ∀ text, (∃ body, BodyEncoding.base64.decode text = .ok body ∧ text = Base64.encode body) ∨
      (∀ body, text ≠ Base64.encode body) ∧
        ∃ error, BodyEncoding.base64.decode text = .error error ∧
          error.kind = .responseUnparsable := by
  refine ⟨fun request encoding => ?_, ?_, fun text => ?_⟩
  · -- the reader leaves blanks out here too, but a text in Base64 has none around it
    have encoded : request.encoding.encode request.body = .ok (Base64.encode request.body) := by
      rw [encoding]
      rfl
    obtain ⟨document, root, written, parsed, required⟩ := SendRequest.require_body encoded
    refine ⟨document, root, _, written, parsed, required, ?_⟩
    exact BodyEncoding.base64_decode_eq_ok_iff.mpr (Base64.trimBlanks_encode _)
  · intro root name before after value plainRoot plain first only
    exact ⟨_, Element.parse_write plainRoot plain, Element.binary_of_fields root value first only⟩
  · cases decoded : BodyEncoding.base64.decode text with
    | ok body => exact .inl ⟨body, rfl, BodyEncoding.base64_decode_eq_ok_iff.mp decoded⟩
    | error error =>
      refine .inr ⟨fun body same => ?_, error, rfl, BodyEncoding.kind_of_base64_decode decoded⟩
      rw [BodyEncoding.base64_decode_eq_ok_iff.mpr same] at decoded
      cases decoded

theorem binary_reads_back_empty :
    (∃ document root text,
      SendRequest.write { queueName := "q", body := [0xFF, 0x20], priority := some 8 } =
          .ok document ∧
        Element.parse (Utf8.encode document) = .ok root ∧ root.require "MessageBody" = .ok text ∧
          BodyEncoding.base64.decode text = .ok [0xFF, 0x20]) ∧
    (∃ tree, Element.parse (Utf8.encode (Document.write "Entity"
        [.text "Name" (some "<Value>"), .binary "Value" (some []), .text "Name" none])) =
          .ok tree ∧
        tree.binary "Value" = .ok (some [])) := by
  refine ⟨binary_reads_back.1 _ rfl, ?_⟩
  refine binary_reads_back.2.1 "Entity" "Value" [.text "Name" (some "<Value>")]
    [.text "Name" none] (some []) (by decide) ?_ ?_ nofun
  · simp only [List.cons_append, List.nil_append, List.forall_mem_cons]
    exact ⟨by decide, by decide, by decide, List.forall_mem_nil _⟩
  · simp only [List.forall_mem_cons]
    exact ⟨by decide, List.forall_mem_nil _⟩

/-! ### Texts -/

theorem AccountAttributes.parse_write (attributes : AccountAttributes) :
    ∃ root, Element.parse (Utf8.encode attributes.write) = .ok root ∧
      AccountAttributes.ofElement root = ⟨attributes.loggingBucket.map trimBlanks⟩ := by
  have plain : ∀ field ∈ [Field.text "LoggingBucket" attributes.loggingBucket],
      IsPlainName field.name := by
    simp only [List.forall_mem_singleton]
    show IsPlainName "LoggingBucket"
    decide
  have plainRoot : IsPlainName "Account" := by decide
  refine ⟨_, Element.parse_write plainRoot plain, ?_⟩
  rcases attributes with ⟨_ | bucket⟩ <;> rfl

theorem DeleteRequest.parse_write (request : DeleteRequest) :
    ∃ root, Element.parse (Utf8.encode request.write) = .ok root ∧
      (root.childrenNamed "ReceiptHandle").map Element.text =
        request.receiptHandles.map trimBlanks := by
  have plain : ∀ field ∈ request.receiptHandles.map fun handle =>
      Field.text "ReceiptHandle" (some handle), IsPlainName field.name := by
    intro field member
    obtain ⟨handle, _, rfl⟩ := List.mem_map.mp member
    show IsPlainName "ReceiptHandle"
    decide
  have plainRoot : IsPlainName "ReceiptHandles" := by decide
  refine ⟨_, Element.parse_write plainRoot plain, ?_⟩
  exact Element.texts_of_fields "ReceiptHandles" "ReceiptHandle" request.receiptHandles

theorem map_trimBlanks_eq_self_iff {texts : List String} :
    texts.map trimBlanks = texts ↔ ∀ text ∈ texts, Unpadded text := by
  have pointwise : texts.map trimBlanks = texts.map id ↔
      ∀ text ∈ texts, trimBlanks text = id text := List.map_inj_left
  rw [List.map_id] at pointwise
  rw [pointwise]
  exact forall₂_congr fun _ _ => trimBlanks_eq_self_iff

/-- **A text comes back as it was exactly if no blanks stand around it.** This holds of every body
that travels as it is, of the attributes of every account and of the handles of every batch. The
text that is read is always the one that was sent less the blanks around it; that of a bucket is
there exactly if one was set. -/
theorem text_reads_back_iff (sent : SendRequest) (attributes : AccountAttributes)
    (deleted : DeleteRequest) :
    (∀ text, sent.encoding = .raw → sent.encoding.encode sent.body = .ok text →
      ∃ document root carried body, sent.write = .ok document ∧
        Element.parse (Utf8.encode document) = .ok root ∧
          root.require "MessageBody" = .ok carried ∧ BodyEncoding.raw.decode carried = .ok body ∧
            body = Utf8.encode (trimBlanks text) ∧ (body = sent.body ↔ Unpadded text)) ∧
    (∃ root, Element.parse (Utf8.encode attributes.write) = .ok root ∧
      AccountAttributes.ofElement root = ⟨attributes.loggingBucket.map trimBlanks⟩ ∧
        (AccountAttributes.ofElement root = attributes ↔
          ∀ bucket ∈ attributes.loggingBucket, Unpadded bucket)) ∧
    ∃ root, Element.parse (Utf8.encode deleted.write) = .ok root ∧
      (root.childrenNamed "ReceiptHandle").map Element.text =
          deleted.receiptHandles.map trimBlanks ∧
        ((root.childrenNamed "ReceiptHandle").map Element.text = deleted.receiptHandles ↔
          ∀ handle ∈ deleted.receiptHandles, Unpadded handle) := by
  refine ⟨fun text encoding encoded => ?_, ?_, ?_⟩
  · obtain ⟨document, root, written, parsed, required⟩ := SendRequest.require_body encoded
    refine ⟨document, root, _, _, written, parsed, required, rfl, rfl, ?_⟩
    -- only octets that are those of a text are sent as they are, and so the texts are compared
    rw [encoding, BodyEncoding.encode, mapError_eq_ok, Utf8.decode_eq_ok_iff] at encoded
    rw [encoded, Utf8.encode_injective.eq_iff, trimBlanks_eq_self_iff]
  · obtain ⟨root, parsed, read⟩ := attributes.parse_write
    refine ⟨root, parsed, read, ?_⟩
    rw [read]
    rcases attributes with ⟨_ | bucket⟩
    · simp
    · simp [trimBlanks_eq_self_iff]
  · obtain ⟨root, parsed, read⟩ := deleted.parse_write
    exact ⟨root, parsed, read, read ▸ map_trimBlanks_eq_self_iff⟩

theorem text_reads_back_iff_markup :
    (∃ document root carried body,
      SendRequest.write { queueName := "queue", body := Utf8.encode "<a> & b", encoding := .raw } =
          .ok document ∧
        Element.parse (Utf8.encode document) = .ok root ∧
          root.require "MessageBody" = .ok carried ∧ BodyEncoding.raw.decode carried = .ok body ∧
            body = Utf8.encode "<a> & b") ∧
    ∃ root, Element.parse (Utf8.encode (AccountAttributes.write ⟨some ""⟩)) = .ok root ∧
      AccountAttributes.ofElement root = ⟨some ""⟩ := by
  obtain ⟨bodies, ⟨root, parsed, _, same⟩, _⟩ := text_reads_back_iff
    { queueName := "queue", body := Utf8.encode "<a> & b", encoding := .raw } ⟨some ""⟩
    ⟨"queue", []⟩
  refine ⟨?_, root, parsed, same.mpr (by decide)⟩
  obtain ⟨document, root, carried, body, written, parsed, required, decoded, _, same⟩ :=
    bodies "<a> & b" rfl (mapError_eq_ok.mpr (Utf8.decode_eq_ok_iff.mpr rfl))
  exact ⟨document, root, carried, body, written, parsed, required, decoded,
    same.mpr (by decide)⟩

/-- Blanks around a body, a bucket and a handle are lost, also where they are all there is. -/
theorem text_lost_around_blanks :
    (∃ document root carried,
      SendRequest.write { queueName := "queue", body := Utf8.encode " a\n", encoding := .raw } =
          .ok document ∧
        Element.parse (Utf8.encode document) = .ok root ∧
          root.require "MessageBody" = .ok carried ∧
            BodyEncoding.raw.decode carried = .ok (Utf8.encode "a") ∧
              Utf8.encode "a" ≠ Utf8.encode " a\n") ∧
    (∃ root, Element.parse (Utf8.encode (AccountAttributes.write ⟨some " "⟩)) = .ok root ∧
      AccountAttributes.ofElement root = ⟨some ""⟩ ∧
        AccountAttributes.ofElement root ≠ ⟨some " "⟩) ∧
    ∃ root, Element.parse (Utf8.encode (DeleteRequest.write ⟨"queue", ["\ta"]⟩)) = .ok root ∧
      (root.childrenNamed "ReceiptHandle").map Element.text = ["a"] := by
  have body : trimBlanks " a\n" = "a" := by decide +kernel
  have bucket : trimBlanks " " = "" := by decide +kernel
  have handle : trimBlanks "\ta" = "a" := by decide +kernel
  refine ⟨?_, ?_, ?_⟩
  · have encoded : BodyEncoding.raw.encode (Utf8.encode " a\n") = .ok " a\n" :=
      mapError_eq_ok.mpr (Utf8.decode_eq_ok_iff.mpr rfl)
    obtain ⟨document, root, written, parsed, required⟩ := SendRequest.require_body
      (show ({ queueName := "queue", body := Utf8.encode " a\n", encoding := .raw } :
        SendRequest).encoding.encode _ = _ from encoded)
    rw [body] at required
    exact ⟨document, root, "a", written, parsed, required, rfl, by decide +kernel⟩
  · obtain ⟨root, parsed, read⟩ := AccountAttributes.parse_write ⟨some " "⟩
    rw [Option.map_some, bucket] at read
    refine ⟨root, parsed, read, ?_⟩
    rw [read]
    decide
  · obtain ⟨root, parsed, read⟩ := DeleteRequest.parse_write ⟨"queue", ["\ta"]⟩
    rw [List.map_singleton, handle] at read
    exact ⟨root, parsed, read⟩

end Queue

end SignedQueue
