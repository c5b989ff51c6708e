import Mathlib
import SignedQueue.Call.Dispatch
import SignedQueue.Proofs.Departure
import SignedQueue.Proofs.SessionToken
import SignedQueue.Proofs.UnambiguousText
/-!
**The order of the caller's own headers.** They are set one after another, in whatever order the
caller's table gives them. Two entries whose names differ in case only stand for one header, and the
later one wins; all other entries leave each other alone.

* `HeaderFields.get?_setAll_congr`: fields that agree are read alike in every order;
* `RequestMessage.exists_same_toHttp`: messages whose headers are read alike become the same request
  up to the order of its headers;
* `Action.sentAlike_iff`: exactly when the order makes no difference to what is signed and sent;
* `Action.order_decides_sent`: two orders of one table that send different headers.
-/

namespace SignedQueue

/-! ### Fields in another order -/

/-- The value read under a name after fields have been set does not depend on their order, if all
that have this name in some case agree. -/
theorem HeaderFields.get?_setAll_congr (fields : HeaderFields) {name : String}
    {entries others : List (String × String)} (perm : entries.Perm others)
    (agree : ∀ first ∈ entries, ∀ second ∈ entries, Ascii.lower first.1 = Ascii.lower name →
      Ascii.lower second.1 = Ascii.lower name → first.2 = second.2) :
    (fields.setAll entries).get? name = (fields.setAll others).get? name := by
  rw [get?_setAll, get?_setAll]
  congr 1
  apply find?_map_perm ((entries.reverse_perm.trans perm).trans others.reverse_perm.symm)
  intro first member second member' named named'
  rw [Ascii.sameIgnoringCase_iff] at named named'
  exact agree first (List.mem_reverse.mp member) second (List.mem_reverse.mp member') named named'

/-- The field that is set last is read under its name. -/
theorem HeaderFields.get?_setAll_concat (fields : HeaderFields) (entries : List (String × String))
    (last : String × String) {name : String} (same : Ascii.lower last.1 = Ascii.lower name) :
    (fields.setAll (entries ++ [last])).get? name = some last.2 := by
  rw [get?_setAll, List.reverse_concat, List.find?_cons, Ascii.sameIgnoringCase_iff.mpr same]
  rfl

/-! ### Requests that differ in the order of their headers -/

/-- Two requests that differ at most in the order of their headers. -/
structure HttpRequest.Same (first second : HttpRequest) : Prop where
  method : first.method = second.method
  target : first.target = second.target
  headers : first.headers.Perm second.headers
  body : first.body = second.body

/-- The case of letters makes no difference to whether a character may stand in a token. -/
theorem Http.isTokenChar_toLower (character : Char) :
    isTokenChar character.toLower = isTokenChar character := by
  by_cases letter : character.isAlpha = true
  · have lowered : character.toLower.isAlpha = true :=
      (Char.isAlpha_toLower_eq_isAlpha character).trans letter
    simp [isTokenChar, Char.isAlphanum, letter, lowered]
  · have small : ¬ character.isUpper = true := fun upper => letter (by simp [Char.isAlpha, upper])
    rw [Char.toLower_eq_of_not_isUpper small]

theorem Http.isHeaderName_lower (name : String) :
    isHeaderName (Ascii.lower name) = isHeaderName name := by
  simp [isHeaderName, isToken, Ascii.lower, List.all_map, Function.comp_def, isTokenChar_toLower]

theorem HttpHeader.exists_ofEntry {entry : String × String}
    (name : Http.isHeaderName entry.1 = true) (value : Http.isHeaderValue entry.2 = true) :
    ∃ header, HttpHeader.ofEntry entry = .ok header := by
  refine ⟨⟨Ascii.lower entry.1, entry.2, Ascii.lower entry.1 = "authorization"⟩, ?_⟩
  simp only [HttpHeader.ofEntry]
  exact check_eq_ok.mpr ⟨by simp [name], check_eq_ok.mpr ⟨by simp [value], rfl⟩⟩

namespace RequestMessage

variable {first second : RequestMessage} {sent other : HttpRequest}

/-- A message travels if its address can be read and its headers are valid. -/
theorem exists_toHttp {target : Target} (parsed : Target.parse first.url = .ok target)
    (valid : ∀ entry ∈ first.headers.entries,
      Http.isHeaderName entry.1 = true ∧ Http.isHeaderValue entry.2 = true) :
    ∃ sent, first.toHttp = .ok sent := by
  have each : ∀ entry ∈ first.headers.entries, ∃ header, HttpHeader.ofEntry entry = .ok header :=
    fun entry member => HttpHeader.exists_ofEntry (valid entry member).1 (valid entry member).2
  obtain ⟨headers, made⟩ := exists_mapM_eq_ok each
  exact ⟨_, bind_eq_ok.mpr
    ⟨target, mapError_eq_ok.mpr parsed, bind_eq_ok.mpr ⟨headers, made, rfl⟩⟩⟩

/-- The headers of a request that travels are those that its message is read to have. -/
theorem mem_headers_toHttp (travels : first.toHttp = .ok sent) {header : HttpHeader} :
    header ∈ sent.headers ↔
      ∃ name, first.header? name = some header.value ∧ header.name = Ascii.lower name ∧
        header.sensitive = decide (header.name = "authorization") := by
  obtain ⟨_, _, headers, _⟩ := toHttp_eq_ok travels
  rw [headers, List.mem_map]
  constructor
  · rintro ⟨⟨name, value⟩, member, rfl⟩
    exact ⟨name, HeaderFields.get?_eq_some.mpr ⟨name, member, rfl⟩, rfl, rfl⟩
  · rintro ⟨name, read, named, hidden⟩
    obtain ⟨spelling, member, same⟩ := HeaderFields.get?_eq_some.mp read
    refine ⟨_, member, ?_⟩
    cases header
    simp only [HttpHeader.ofField, same] at named hidden ⊢
    rw [hidden, named]

/-- Messages to one address whose headers are read alike become the same request, up to the order of
its headers. -/
theorem exists_same_toHttp (method : first.method = second.method) (url : first.url = second.url)
    (body : first.body = second.body) (fields : ∀ name, first.header? name = second.header? name)
    (travels : first.toHttp = .ok sent) : ∃ other, second.toHttp = .ok other ∧ sent.Same other := by
  obtain ⟨parsed, sameMethod, _, sameBody⟩ := toHttp_eq_ok travels
  have valid : ∀ entry ∈ second.headers.entries,
      Http.isHeaderName entry.1 = true ∧ Http.isHeaderValue entry.2 = true := by
    rintro ⟨name, value⟩ member
    have read : second.header? name = some value :=
      HeaderFields.get?_eq_some.mpr ⟨name, member, rfl⟩
    rw [← fields name] at read
    obtain ⟨spelling, member', same⟩ := HeaderFields.get?_eq_some.mp read
    obtain ⟨validName, validValue⟩ := valid_of_toHttp travels _ member'
    rw [← Http.isHeaderName_lower, same, Http.isHeaderName_lower] at validName
    exact ⟨validName, validValue⟩
  obtain ⟨other, travels'⟩ := exists_toHttp (url ▸ parsed) valid
  obtain ⟨parsed', sameMethod', _, sameBody'⟩ := toHttp_eq_ok travels'
  refine ⟨other, travels', ?_, ?_, ?_, ?_⟩
  · rw [sameMethod, sameMethod', method]
  · rw [← url, parsed] at parsed'
    exact Except.ok.inj parsed'
  · refine (List.perm_ext_iff_of_nodup (nodup_headers_toHttp travels).of_map
      (nodup_headers_toHttp travels').of_map).mpr ?_
    intro header
    rw [mem_headers_toHttp travels, mem_headers_toHttp travels']
    simp only [fields]
  · rw [sameBody, sameBody', body]

/-- Two messages that are read alike: under every name they have the same header, they have the same
text to sign, and they become the same request or none. -/
structure SentAlike (first second : RequestMessage) : Prop where
  fields : ∀ name, first.header? name = second.header? name
  text : Canonical.stringToSign first = Canonical.stringToSign second
  request : ∀ sent, first.toHttp = .ok sent → ∃ other, second.toHttp = .ok other ∧ sent.Same other

end RequestMessage

/-! ### What is sent under a credential -/

namespace Scheme

variable {credential : Option Credential} {message : RequestMessage}

/-- The form in which a message is sent: signed under a credential, or as it is. -/
def form (credential : Option Credential) (message : RequestMessage) : RequestMessage :=
  match credential with
  | none => message
  | some credential => signed credential message

/-- Whether signing sets the header with a name, whatever was there before. -/
def Sets (credential : Option Credential) (name : String) : Prop :=
  ∃ signer, credential = some signer ∧
    (Ascii.lower name = authorizationHeader ∨
      Ascii.lower name = tokenHeader ∧ signer.sessionToken.isSome)

/-- The name of a header that signing does not set is that of neither header of a signature. -/
theorem ne_of_not_sets {signer : Credential} {name : String}
    (untouched : ¬ Sets (some signer) name) :
    Ascii.lower name ≠ Ascii.lower authorizationHeader ∧
      ∀ token, signer.sessionToken = some token → Ascii.lower name ≠ Ascii.lower tokenHeader := by
  constructor
  · intro same
    exact untouched ⟨signer, rfl, .inl (same.trans (by decide +kernel))⟩
  · intro token session same
    refine untouched ⟨signer, rfl, .inr ⟨same.trans (by decide +kernel), ?_⟩⟩
    rw [session]
    rfl

/-- Signing leaves every other header alone. -/
theorem header?_form_of_not_sets {name : String} (untouched : ¬ Sets credential name) :
    (form credential message).header? name = message.header? name := by
  cases credential with
  | none => rfl
  | some signer =>
    obtain ⟨notSigned, notToken⟩ := ne_of_not_sets untouched
    rw [form, signed, RequestMessage.header?, RequestMessage.setHeader, HeaderFields.get?_set,
      if_neg notSigned.symm, setToken]
    cases session : signer.sessionToken with
    | none => rfl
    | some token =>
      exact (HeaderFields.get?_set _ _ _ _).trans (if_neg (notToken token session).symm)

/-- Neither the three values that a signature covers nor the service's own headers are among those
that signing sets. -/
theorem not_sets_of_covered {name : String}
    (covered : name ∈ ["Content-MD5", "Content-Type", "Date"] ∨
      Canonical.isService (Ascii.lower name) = true) : ¬ Sets credential name := by
  have apart : ∀ own ∈ [authorizationHeader, tokenHeader], Canonical.isService own = false ∧
      ∀ value ∈ ["Content-MD5", "Content-Type", "Date"], Ascii.lower value ≠ own := by
    decide +kernel
  have others : ∀ own ∈ [authorizationHeader, tokenHeader], Ascii.lower name ≠ own := by
    intro own member same
    obtain ⟨foreign, values⟩ := apart own member
    rcases covered with value | service
    · exact values name value same
    · rw [same, foreign] at service
      cases service
  rintro ⟨_, _, same | ⟨same, _⟩⟩
  · exact others _ (by simp) same
  · exact others _ (by simp) same

theorem form_frame (credential : Option Credential) (message : RequestMessage) :
    (form credential message).method = message.method ∧
      (form credential message).url = message.url ∧
        (form credential message).body = message.body ∧
          Canonical.stringToSign (form credential message) = Canonical.stringToSign message := by
  cases credential with
  | none => exact ⟨rfl, rfl, rfl, rfl⟩
  | some signer =>
    refine ⟨?_, ?_, ?_, stringToSign_signed signer message⟩
    all_goals
      rw [form, signed, setToken]
      cases signer.sessionToken <;> rfl

/-- Messages whose headers are read alike, but for those that signing sets, are sent alike. -/
theorem sentAlike_form {first second : RequestMessage} (method : first.method = second.method)
    (endpoint : first.endpoint = second.endpoint) (path : first.resourcePath = second.resourcePath)
    (body : first.body = second.body)
    (fields : ∀ name, ¬ Sets credential name → first.header? name = second.header? name) :
    (form credential first).SentAlike (form credential second) := by
  have covered : Canonical.SameCovered first second := by
    refine ⟨method, fun name member => ?_, fun name service => ?_, ?_⟩
    · rw [fields name (not_sets_of_covered (.inl member))]
    · exact fields name (not_sets_of_covered (.inr service))
    · rw [RequestMessage.resource, RequestMessage.resource, endpoint, path]
  have url : first.url = second.url := by
    rw [RequestMessage.url, RequestMessage.url, endpoint, path]
  have alike : ∀ name,
      (form credential first).header? name = (form credential second).header? name := by
    intro name
    by_cases set : Sets credential name
    · obtain ⟨signer, rfl, same | ⟨same, given⟩⟩ := set
      · have named : Ascii.lower name = Ascii.lower authorizationHeader :=
          same.trans (by decide +kernel)
        unfold form RequestMessage.header?
        rw [HeaderFields.get?_congr _ named, HeaderFields.get?_congr _ named]
        exact (header?_signed signer first).trans
          (covered.stringToSign_eq ▸ (header?_signed signer second).symm)
      · have named : Ascii.lower name = Ascii.lower tokenHeader := same.trans (by decide +kernel)
        unfold form RequestMessage.header?
        rw [HeaderFields.get?_congr _ named, HeaderFields.get?_congr _ named]
        refine (header?_token_signed signer first).trans
          (Eq.trans ?_ (header?_token_signed signer second).symm)
        rw [Option.or_of_isSome given, Option.or_of_isSome given]
    · rw [header?_form_of_not_sets set, header?_form_of_not_sets set, fields name set]
  obtain ⟨firstMethod, firstUrl, firstBody, firstText⟩ := form_frame credential first
  obtain ⟨secondMethod, secondUrl, secondBody, secondText⟩ := form_frame credential second
  refine ⟨alike, ?_, fun sent travels => ?_⟩
  · rw [firstText, secondText, covered.stringToSign_eq]
  · refine RequestMessage.exists_same_toHttp ?_ ?_ ?_ alike travels
    · rw [firstMethod, secondMethod, method]
    · rw [firstUrl, secondUrl, url]
    · rw [firstBody, secondBody, body]

end Scheme

/-! ### The caller's own headers -/

namespace Action

variable {ρ γ α : Type} {action : Action ρ γ α} {now : Moment} {custom : List (String × String)}
  {request : ρ}

/-- The order in which the caller's own headers are set makes no difference to what is signed and
sent, under a credential or without one, exactly if all entries whose names differ in case only have
the same value, but for the names that signing sets anyway. -/
theorem sentAlike_iff {built : RequestMessage} {noted : γ}
    (builds : action.buildMessage request = .ok (built, noted)) (credential : Option Credential) :
    (∀ first second firstMessage secondMessage, first.Perm custom → second.Perm custom →
        action.message now first request = .ok firstMessage →
          action.message now second request = .ok secondMessage →
            (Scheme.form credential firstMessage).SentAlike
              (Scheme.form credential secondMessage)) ↔
      ∀ first ∈ custom, ∀ second ∈ custom, Ascii.lower first.1 = Ascii.lower second.1 →
        ¬ Scheme.Sets credential first.1 → first.2 = second.2 := by
  constructor
  · intro alike first firstMember second secondMember same untouched
    -- once the first of the two entries is set last, and once the second
    have firstLast : (custom.erase first ++ [first]).Perm custom :=
      (List.perm_append_singleton _ _).trans (List.perm_cons_erase firstMember).symm
    have secondLast : (custom.erase second ++ [second]).Perm custom :=
      (List.perm_append_singleton _ _).trans (List.perm_cons_erase secondMember).symm
    have read := (alike _ _ _ _ firstLast secondLast
      ((message_eq_ok_of_buildMessage builds).mpr rfl)
      ((message_eq_ok_of_buildMessage builds).mpr rfl)).fields first.1
    rw [Scheme.header?_form_of_not_sets untouched, Scheme.header?_form_of_not_sets untouched,
      RequestMessage.header?, RequestMessage.header?, HeaderFields.get?_setAll_concat _ _ _ rfl,
      HeaderFields.get?_setAll_concat _ _ _ same.symm] at read
    exact Option.some.inj read
  · intro agree first second firstMessage secondMessage firstPerm secondPerm firstMade secondMade
    obtain rfl := (message_eq_ok_of_buildMessage builds).mp firstMade
    obtain rfl := (message_eq_ok_of_buildMessage builds).mp secondMade
    refine Scheme.sentAlike_form rfl rfl rfl rfl fun name untouched => ?_
    refine HeaderFields.get?_setAll_congr _ (firstPerm.trans secondPerm.symm) ?_
    intro entry entryMember other otherMember named named'
    refine agree entry (firstPerm.mem_iff.mp entryMember) other (firstPerm.mem_iff.mp otherMember)
      (named.trans named'.symm) ?_
    rintro ⟨signer, rfl, set⟩
    rw [named] at set
    exact untouched ⟨signer, rfl, set⟩

/-- An action of a client that does not sign. -/
def unsignedListing : Action Unit Unit Unit where
  operation :=
    { name := "ListQueues"
      method := .get
      build := fun _ => .ok ({ method := .get, resourcePath := "/queues" }, ())
      reply := .ignore ()
      refusal := fun _ => .brokeDown none }
  client :=
    { context := { transport := true, runtime := true }
      config := { endpoint := "http://host" }
      signer := none }
  requestId := none

/-- Spellings that agree, and spellings of a header that signing sets. -/
def spellings : List (String × String) :=
  [("X-Trace", "one"), ("x-trace", "one"), ("Authorization", "none"), ("authorization", "any")]

theorem sentAlike_iff_spellings :
    unsignedListing.buildMessage () =
        .ok ({ method := .get, endpoint := "http://host", resourcePath := "/queues" }, ()) ∧
      ∀ first second firstMessage secondMessage,
        first.Perm spellings → second.Perm spellings →
          unsignedListing.message 0 first () = .ok firstMessage →
            unsignedListing.message 0 second () = .ok secondMessage →
              (Scheme.form (some ⟨"AK", "SK", none, none⟩) firstMessage).SentAlike
                (Scheme.form (some ⟨"AK", "SK", none, none⟩) secondMessage) := by
  have builds : unsignedListing.buildMessage () =
      .ok ({ method := .get, endpoint := "http://host", resourcePath := "/queues" }, ()) := by
    decide +kernel
  refine ⟨builds, (sentAlike_iff builds _).mpr ?_⟩
  have agree : ∀ first ∈ spellings, ∀ second ∈ spellings,
      Ascii.lower first.1 = Ascii.lower second.1 →
        Ascii.lower first.1 = Scheme.authorizationHeader ∨ first.2 = second.2 := by
    decide +kernel
  intro first firstMember second secondMember same untouched
  exact (agree first firstMember second secondMember same).resolve_left fun signed =>
    untouched ⟨_, rfl, .inl signed⟩

/-- Two orders of one table of headers, in which the later entry is the one that is sent. -/
theorem order_decides_sent :
    let sent (custom : List (String × String)) :=
      (unsignedListing.execute 0 true custom none () {}).sent.map (·.header? "x-trace")
    [("X-Trace", "one"), ("x-trace", "two")].Perm [("x-trace", "two"), ("X-Trace", "one")] ∧
      sent [("X-Trace", "one"), ("x-trace", "two")] = [some "two"] ∧
        sent [("x-trace", "two"), ("X-Trace", "one")] = [some "one"] :=
  ⟨.swap _ _ _, by decide +kernel, by decide +kernel⟩

end Action

end SignedQueue
