import Mathlib
import SignedQueue.Signature.Scheme
import SignedQueue.Proofs.Base64Groups
import SignedQueue.Proofs.CanonicalHeaders
import SignedQueue.Proofs.SignedResource
/-!
**The text that is signed stands for one request only.** It is read from its start: the method and
three values end with their lines, the service's own headers stand on lines that begin with an `x`,
and the resource begins with a slash, so that what is covered can be told from the text.

* `Canonical.SameCovered`: two messages agree in all that a signature covers;
* `Canonical.lines_inj`: lines of headers are told apart, whatever begins with a slash after them;
* `Canonical.stringToSign_eq_iff`: messages that travel have the same text exactly if they agree.
-/

namespace SignedQueue

/-! ### Names and values that travel -/

theorem Method.eq_of_name {first second : Method} (same : first.name = second.name) :
    first = second := by
  cases first
  cases second
  cases same
  rfl

theorem Http.notMem_of_isToken {text : String} {character : Char} (token : isToken text = true)
    (other : isTokenChar character = false) : character ∉ text.toList := by
  rw [isToken, Bool.and_eq_true, List.all_eq_true] at token
  intro member
  rw [token.2 character member] at other
  cases other

theorem Http.isToken_of_isHeaderName {name : String} (valid : isHeaderName name = true) :
    isToken name = true := by
  rw [isHeaderName, Bool.and_eq_true] at valid
  exact valid.1

theorem Http.lineFeed_notMem_of_isHeaderValue {value : String}
    (valid : isHeaderValue value = true) : '\n' ∉ value.toList := by
  rw [isHeaderValue, List.all_eq_true] at valid
  intro member
  have inside := valid _ member
  simp at inside

/-- The value of a header of a message that travels, also of one that is absent, is on one line. -/
theorem RequestMessage.lineFeed_notMem_header {message : RequestMessage} {request : HttpRequest}
    (travels : message.toHttp = .ok request) (name : String) :
    '\n' ∉ ((message.header? name).getD "").toList := by
  cases read : message.header? name with
  | none => simp
  | some value =>
    obtain ⟨spelling, member, _⟩ := HeaderFields.get?_eq_some.mp read
    exact Http.lineFeed_notMem_of_isHeaderValue (valid_of_toHttp travels _ member).2

/-! ### Lines of headers -/

namespace Canonical

/-- A header on a line of its own. -/
def line (entry : String × String) : List Char :=
  entry.1.toList ++ ':' :: (entry.2.toList ++ ['\n'])

/-- A header of the service whose line can be told from others: its name holds no colon, and its
value no end of a line. -/
structure IsLine (entry : String × String) : Prop where
  service : isService entry.1 = true
  colon : ':' ∉ entry.1.toList
  lineFeed : '\n' ∉ entry.2.toList

theorem IsLine.exists_cons {entry : String × String} (isLine : IsLine entry) :
    ∃ rest, line entry = 'x' :: rest := by
  obtain ⟨rest, split⟩ := List.isPrefixOf_iff_prefix.mp isLine.service
  have first : servicePrefix.toList = 'x' :: "-mns-".toList := by decide +kernel
  rw [line, ← split, first]
  exact ⟨_, rfl⟩

theorem isLine_of_mem {message : RequestMessage} {request : HttpRequest}
    (travels : message.toHttp = .ok request) :
    ∀ entry ∈ serviceHeaders message.headers, IsLine entry := by
  rintro ⟨name, value⟩ listed
  obtain ⟨service, spelling, rfl, member⟩ := mem_serviceHeaders.mp listed
  obtain ⟨validName, validValue⟩ := RequestMessage.valid_of_toHttp travels _ member
  refine ⟨service, ?_, Http.lineFeed_notMem_of_isHeaderValue validValue⟩
  intro colon
  rw [Ascii.lower, String.toList_ofList] at colon
  -- names are listed in lower case, and no other character than a colon becomes one
  obtain ⟨character, characterMember, lowered⟩ := List.mem_map.mp colon
  obtain rfl := eq_of_toLower_eq (by decide) lowered
  have token := Http.isToken_of_isHeaderName validName
  exact Http.notMem_of_isToken token (by decide) characterMember

/-- Lines of headers begin with an `x`. -/
theorem lines_ne {entries : List (String × String)} {character : Char} {rest others : List Char}
    (lines : ∀ entry ∈ entries, IsLine entry) (filled : entries ≠ []) (other : 'x' ≠ character) :
    entries.flatMap line ++ rest ≠ character :: others := by
  obtain ⟨entry, more, rfl⟩ := List.exists_cons_of_ne_nil filled
  obtain ⟨text, begins⟩ := (lines entry List.mem_cons_self).exists_cons
  rw [List.flatMap_cons, begins]
  intro same
  exact other (List.cons.inj same).1

theorem line_inj {first second : String × String} {rest others : List Char}
    (firstLine : IsLine first) (secondLine : IsLine second)
    (same : line first ++ rest = line second ++ others) : first = second ∧ rest = others := by
  simp only [line, List.append_assoc, List.cons_append, List.nil_append] at same
  obtain ⟨names, same⟩ := append_mark_inj firstLine.colon secondLine.colon same
  obtain ⟨values, same⟩ := append_mark_inj firstLine.lineFeed secondLine.lineFeed same
  exact ⟨Prod.ext (String.toList_inj.mp names) (String.toList_inj.mp values), same⟩

/-- Lines of headers and a text after them that begins with a slash are determined by all of them
together. -/
theorem lines_inj {first second : List (String × String)} {rest others : List Char}
    (firstLines : ∀ entry ∈ first, IsLine entry) (secondLines : ∀ entry ∈ second, IsLine entry)
    (same : first.flatMap line ++ '/' :: rest = second.flatMap line ++ '/' :: others) :
    first = second ∧ rest = others := by
  induction first generalizing second with
  | nil =>
    cases second with
    | nil => exact ⟨rfl, by simpa using same⟩
    | cons head tail =>
      exact absurd same.symm (lines_ne secondLines (List.cons_ne_nil _ _) (by decide))
  | cons entry entries ih =>
    cases second with
    | nil => exact absurd same (lines_ne firstLines (List.cons_ne_nil _ _) (by decide))
    | cons head tail =>
      rw [List.forall_mem_cons] at firstLines secondLines
      rw [List.flatMap_cons, List.flatMap_cons, List.append_assoc, List.append_assoc] at same
      obtain ⟨rfl, later⟩ := line_inj firstLines.1 secondLines.1 same
      obtain ⟨rfl, last⟩ := ih firstLines.2 secondLines.2 later
      exact ⟨rfl, last⟩

/-! ### The text -/

/-- What stands after the three values: the lines of the service's own headers, or an empty one if
there are none, and the resource. -/
def afterDate (message : RequestMessage) : List Char :=
  (if serviceHeaders message.headers = [] then ['\n']
    else (serviceHeaders message.headers).flatMap line) ++ message.resource.toList

theorem intercalate_lineFeed (lines : List (List Char)) (rest : List Char) :
    ['\n'].intercalate lines ++ '\n' :: rest =
      (if lines = [] then ['\n'] else lines.flatMap (· ++ ['\n'])) ++ rest := by
  induction lines with
  | nil => rfl
  | cons first others ih =>
    rw [if_neg (List.cons_ne_nil _ _)]
    cases others with
    | nil => simp
    | cons second others =>
      rw [if_neg (List.cons_ne_nil _ _)] at ih
      rw [List.intercalate_cons_cons, List.append_assoc, ih, ← List.append_assoc]
      rfl

theorem toList_serviceLines (fields : HeaderFields) :
    (serviceLines fields.entries).map String.toList =
      (serviceHeaders fields).map fun entry => entry.1.toList ++ ':' :: entry.2.toList := by
  have colon : ":".toList = [':'] := by decide +kernel
  show List.map String.toList (List.map _ (serviceHeaders fields)) = _
  rw [List.map_map]
  refine List.map_congr_left fun entry _ => ?_
  show (entry.1 ++ ":" ++ entry.2).toList = _
  rw [String.toList_append, String.toList_append, colon, List.append_assoc]
  rfl

theorem intercalate_serviceLines (message : RequestMessage) :
    ['\n'].intercalate ((serviceLines message.headers.entries).map String.toList) ++
      '\n' :: message.resource.toList = afterDate message := by
  have ended : (fun entry : String × String =>
      entry.1.toList ++ ':' :: entry.2.toList ++ ['\n']) = line := by
    funext entry
    rw [line, List.append_assoc]
    rfl
  rw [toList_serviceLines, intercalate_lineFeed, List.flatMap_map, afterDate]
  simp only [List.map_eq_nil_iff, ended]

theorem toList_stringToSign (message : RequestMessage) :
    (stringToSign message).toList =
      message.method.name.toList ++ '\n' :: (((message.header? "Content-MD5").getD "").toList ++
        '\n' :: (((message.header? "Content-Type").getD "").toList ++
          '\n' :: (((message.header? "Date").getD "").toList ++ '\n' :: afterDate message))) := by
  have feed : "\n".toList = ['\n'] := by decide +kernel
  rw [← intercalate_serviceLines]
  simp only [stringToSign, String.toList_append, String.toList_intercalate, feed,
    List.append_assoc, List.cons_append, List.nil_append]

section Messages

variable {first second : RequestMessage} {firstRequest secondRequest : HttpRequest}

/-- The service's own headers and the resource are determined by what stands after the values. -/
theorem afterDate_inj (firstTravels : first.toHttp = .ok firstRequest)
    (secondTravels : second.toHttp = .ok secondRequest)
    (same : afterDate first = afterDate second) :
    serviceHeaders first.headers = serviceHeaders second.headers ∧
      first.resource = second.resource := by
  have firstLines := isLine_of_mem firstTravels
  have secondLines := isLine_of_mem secondTravels
  -- without headers of the service an end of a line comes first, with any of them an `x`
  unfold afterDate at same
  split_ifs at same with firstNone secondNone secondNone
  · rw [firstNone, secondNone]
    exact ⟨rfl, String.toList_inj.mp (List.append_cancel_left same)⟩
  · exact absurd same.symm (lines_ne secondLines secondNone (by decide))
  · exact absurd same (lines_ne firstLines firstNone (by decide))
  · obtain ⟨rest, slash⟩ := first.exists_resource
    obtain ⟨others, slash'⟩ := second.exists_resource
    rw [slash, slash'] at same
    obtain ⟨headers, rfl⟩ := lines_inj firstLines secondLines same
    exact ⟨headers, String.toList_inj.mp (slash.trans slash'.symm)⟩

/-- A header of the service is read exactly if it is among the service's own headers. -/
theorem header?_eq_some_iff {message : RequestMessage} {name value : String}
    (service : isService (Ascii.lower name) = true) :
    message.header? name = some value ↔
      (Ascii.lower name, value) ∈ serviceHeaders message.headers := by
  rw [RequestMessage.header?, HeaderFields.get?_eq_some, mem_serviceHeaders,
    and_iff_right service]
  exact exists_congr fun spelling => and_comm

/-- Two messages agree in all that a signature covers. A header that is absent counts as empty among
the three values, but not among the service's own headers. -/
structure SameCovered (first second : RequestMessage) : Prop where
  method : first.method = second.method
  values : ∀ name ∈ ["Content-MD5", "Content-Type", "Date"],
    (first.header? name).getD "" = (second.header? name).getD ""
  service : ∀ name, isService (Ascii.lower name) = true → first.header? name = second.header? name
  resource : first.resource = second.resource

theorem SameCovered.symm (covered : SameCovered first second) : SameCovered second first where
  method := covered.method.symm
  values name member := (covered.values name member).symm
  service name service := (covered.service name service).symm
  resource := covered.resource.symm

theorem SameCovered.mem_serviceHeaders (covered : SameCovered first second)
    {entry : String × String} (member : entry ∈ serviceHeaders first.headers) :
    entry ∈ serviceHeaders second.headers := by
  obtain ⟨name, value⟩ := entry
  obtain ⟨service, spelling, rfl, _⟩ := Canonical.mem_serviceHeaders.mp member
  rw [← header?_eq_some_iff service] at member ⊢
  rw [← covered.service spelling service, member]

theorem SameCovered.stringToSign_eq (covered : SameCovered first second) :
    stringToSign first = stringToSign second := by
  refine stringToSign_congr covered.method covered.resource covered.values ?_
  refine (inOrder_serviceHeaders first.headers).ext (inOrder_serviceHeaders second.headers) ?_
  exact fun entry => ⟨covered.mem_serviceHeaders, covered.symm.mem_serviceHeaders⟩

theorem SameCovered.of_stringToSign_eq (firstTravels : first.toHttp = .ok firstRequest)
    (secondTravels : second.toHttp = .ok secondRequest)
    (same : stringToSign first = stringToSign second) : SameCovered first second := by
  have firstFeed := RequestMessage.lineFeed_notMem_header firstTravels
  have secondFeed := RequestMessage.lineFeed_notMem_header secondTravels
  rw [← String.toList_inj, toList_stringToSign, toList_stringToSign] at same
  obtain ⟨method, same⟩ := append_mark_inj (Http.notMem_of_isToken first.method.isToken (by decide))
    (Http.notMem_of_isToken second.method.isToken (by decide)) same
  obtain ⟨digest, same⟩ := append_mark_inj (firstFeed _) (secondFeed _) same
  obtain ⟨form, same⟩ := append_mark_inj (firstFeed _) (secondFeed _) same
  obtain ⟨date, same⟩ := append_mark_inj (firstFeed _) (secondFeed _) same
  obtain ⟨headers, resource⟩ := afterDate_inj firstTravels secondTravels same
  refine ⟨?_, ?_, fun name service => ?_, resource⟩
  · exact Method.eq_of_name (String.toList_inj.mp method)
  · intro name member
    simp only [List.mem_cons, List.not_mem_nil, or_false] at member
    rcases member with rfl | rfl | rfl
    · exact String.toList_inj.mp digest
    · exact String.toList_inj.mp form
    · exact String.toList_inj.mp date
  · refine Option.ext fun value => ?_
    rw [header?_eq_some_iff service, header?_eq_some_iff service, headers]

/-- **The text that is signed is unambiguous.** Two messages that travel, to whatever endpoints,
have the same text exactly if they agree in all that a signature covers. So a signature under a
secret that fits both is one of messages that agree, or of two texts with the same keyed digest. -/
theorem stringToSign_eq_iff (firstTravels : first.toHttp = .ok firstRequest)
    (secondTravels : second.toHttp = .ok secondRequest) :
    (stringToSign first = stringToSign second ↔ SameCovered first second) ∧
      ∀ secret, Scheme.signatureOf secret (stringToSign first) =
          Scheme.signatureOf secret (stringToSign second) →
        SameCovered first second ∨
          Utf8.encode (stringToSign first) ≠ Utf8.encode (stringToSign second) ∧
            Hmac.sha1 (Utf8.encode secret) (Utf8.encode (stringToSign first)) =
              Hmac.sha1 (Utf8.encode secret) (Utf8.encode (stringToSign second)) := by
  have agree : stringToSign first = stringToSign second ↔ SameCovered first second :=
    ⟨.of_stringToSign_eq firstTravels secondTravels, SameCovered.stringToSign_eq⟩
  refine ⟨agree, fun secret fits => ?_⟩
  by_cases same : stringToSign first = stringToSign second
  · exact .inl (agree.mp same)
  · exact .inr ⟨Utf8.encode_injective.ne same, Base64.encode_injective fits⟩

theorem stringToSign_eq_iff_spelling :
    SameCovered
      { method := .get
        endpoint := "http://one"
        resourcePath := "queue"
        headers := .ofList [("x-mns-version", "2015-06-06"), ("Content-Type", "")] }
      { method := .get
        endpoint := "http://two/"
        resourcePath := "//queue"
        headers := .ofList [("X-Mns-Version", "2015-06-06")] } := by
  have firstTravels :
      RequestMessage.toHttp
          { method := .get
            endpoint := "http://one"
            resourcePath := "queue"
            headers := .ofList [("x-mns-version", "2015-06-06"), ("Content-Type", "")] } =
        .ok ⟨.get, ⟨"http", "one", "/queue", none⟩,
          [⟨"x-mns-version", "2015-06-06", false⟩, ⟨"content-type", "", false⟩], []⟩ := by
    decide +kernel
  have secondTravels :
      RequestMessage.toHttp
          { method := .get
            endpoint := "http://two/"
            resourcePath := "//queue"
            headers := .ofList [("X-Mns-Version", "2015-06-06")] } =
        .ok ⟨.get, ⟨"http", "two", "/queue", none⟩,
          [⟨"x-mns-version", "2015-06-06", false⟩], []⟩ := by
    decide +kernel
  exact (stringToSign_eq_iff firstTravels secondTravels).1.mp (by decide +kernel)

end Messages

end Canonical

end SignedQueue
