import Mathlib
import SignedQueue.Proofs.Signing
/-!
**A signature covers what is sent.** Whoever receives a request and knows its resource can rebuild
the text that was signed: from the method, three headers, and the service's own headers in the order
of their names. Neither the headers that signing adds nor names that are put in lower case on the
way change it.

* `HttpRequest.coveredText`: the text as the receiver rebuilds it;
* `RequestMessage.coveredText_eq`: it is the text of the message that became the request;
* `Action.authorization_covers_sent`: the signature of a request that is sent is one of this text.
-/

namespace SignedQueue

/-! ### The receiver's side -/

namespace HttpRequest

/-- The value of the header with a name in lower case. -/
def header? (request : HttpRequest) (name : String) : Option String :=
  (request.headers.find? fun header => header.name == name).map (·.value)

/-- The service's own headers, put in the order of their names. -/
def serviceHeaders (request : HttpRequest) : List HttpHeader :=
  (request.headers.filter fun header => Canonical.isService header.name).mergeSort
    fun first second => first.name ≤ second.name

/-- The text that the signature of a request for a resource has to cover. -/
def coveredText (request : HttpRequest) (resource : String) : String :=
  let header (name : String) := (request.header? name).getD ""
  let lines := request.serviceHeaders.map fun header => header.name ++ ":" ++ header.value
  request.method.name ++ "\n" ++ header "content-md5" ++ "\n" ++ header "content-type" ++ "\n" ++
    header "date" ++ "\n" ++ "\n".intercalate lines ++ "\n" ++ resource

/-- The signature that a request for a resource carries is the one of its covered text under a
credential. -/
def SignedUnder (request : HttpRequest) (credential : Credential) (resource : String) : Prop :=
  request.header? "authorization" =
    some ("MNS " ++ credential.accessKeyId ++ ":" ++
      Base64.encode (Hmac.sha1 (Utf8.encode credential.accessKeySecret)
        (Utf8.encode (request.coveredText resource))))

end HttpRequest

/-! ### Both sides agree -/

namespace RequestMessage

variable {message : RequestMessage} {request : HttpRequest}

/-- A header is received under its name in lower case with the value that the message has. -/
theorem header?_toHttp (travels : message.toHttp = .ok request) (name : String) :
    request.header? (Ascii.lower name) = message.header? name := by
  obtain ⟨_, _, headers, _⟩ := toHttp_eq_ok travels
  rw [HttpRequest.header?, headers, List.find?_map, Option.map_map]
  rfl

/-- No two headers of a request that travels have the same name. -/
theorem nodup_headers_toHttp (travels : message.toHttp = .ok request) :
    (request.headers.map HttpHeader.name).Nodup := by
  obtain ⟨_, _, headers, _⟩ := toHttp_eq_ok travels
  rw [headers, List.map_map]
  exact message.headers.distinct

/-- Headers put in the order of their names stand in it, each name once. -/
theorem inOrder_serviceHeaders_toHttp (travels : message.toHttp = .ok request) :
    Canonical.InOrder (request.serviceHeaders.map fun header => (header.name, header.value)) := by
  have sorted : request.serviceHeaders.Pairwise fun first second => first.name ≤ second.name := by
    have trans (first second third : HttpHeader) :
        decide (first.name ≤ second.name) = true → decide (second.name ≤ third.name) = true →
          decide (first.name ≤ third.name) = true := by
      simpa using String.le_trans
    have total (first second : HttpHeader) :
        (decide (first.name ≤ second.name) || decide (second.name ≤ first.name)) = true := by
      simpa using String.le_total first.name second.name
    have inOrder := List.pairwise_mergeSort trans total
      (request.headers.filter fun header => Canonical.isService header.name)
    simpa [HttpRequest.serviceHeaders] using inOrder
  have distinct : (request.serviceHeaders.map HttpHeader.name).Nodup :=
    (((List.mergeSort_perm _ _).map HttpHeader.name).nodup_iff).mpr
      ((nodup_headers_toHttp travels).sublist (List.filter_sublist.map _))
  rw [Canonical.InOrder, List.pairwise_map]
  refine (sorted.and (List.pairwise_map.mp distinct)).imp fun ⟨le, differ⟩ => ?_
  exact String.not_le.mp fun ge => differ (String.le_antisymm le ge)

/-- The receiver finds the service's own headers as the message has them. -/
theorem serviceHeaders_toHttp (travels : message.toHttp = .ok request) :
    request.serviceHeaders.map (fun header => (header.name, header.value)) =
      Canonical.serviceHeaders message.headers := by
  refine (inOrder_serviceHeaders_toHttp travels).ext
    (Canonical.inOrder_serviceHeaders message.headers) fun (name, value) => ?_
  obtain ⟨_, _, headers, _⟩ := toHttp_eq_ok travels
  rw [Canonical.mem_serviceHeaders, List.mem_map]
  simp only [HttpRequest.serviceHeaders, List.mem_mergeSort, List.mem_filter, headers,
    List.mem_map, Prod.mk.injEq]
  constructor
  · rintro ⟨_, ⟨⟨⟨spelling, _⟩, member, rfl⟩, service⟩, rfl, rfl⟩
    exact ⟨service, spelling, rfl, member⟩
  · rintro ⟨service, spelling, rfl, member⟩
    exact ⟨_, ⟨⟨_, member, rfl⟩, service⟩, rfl, rfl⟩

/-- The receiver rebuilds the text of the message that became the request. -/
theorem coveredText_eq (travels : message.toHttp = .ok request) :
    request.coveredText message.resource = Canonical.stringToSign message := by
  obtain ⟨_, method, _⟩ := toHttp_eq_ok travels
  have lines : request.serviceHeaders.map (fun header => header.name ++ ":" ++ header.value) =
      Canonical.serviceLines message.headers.entries := by
    have same := congrArg (List.map fun entry : String × String => entry.1 ++ ":" ++ entry.2)
      (serviceHeaders_toHttp travels)
    rw [List.map_map] at same
    exact same
  have md5 := header?_toHttp travels "Content-MD5"
  have contentType := header?_toHttp travels "Content-Type"
  have date := header?_toHttp travels "Date"
  simp only [HttpRequest.coveredText, Canonical.stringToSign, lines, method, ← md5, ← contentType,
    ← date]
  rfl

end RequestMessage

/-! ### Requests that are sent -/

namespace Action

variable {ρ γ α : Type}

/-- **A signature covers what is sent.** Whatever happens to a flight of a client that signs, a
request that it has sent carries the signature, under a credential that the flight came by, of the
text that the receiver rebuilds; and signing its message has not changed that text. -/
theorem authorization_covers_sent {action : Action ρ γ α} {provider : Provider} {now : Moment}
    {insideRuntime : Bool} {custom : List (String × String)} {request : ρ} {flight : Flight α}
    {events : List Flight.Event} {sent : HttpRequest}
    (signer : action.client.signer = some ⟨provider, .headerSignature⟩)
    (takesOff : action.takeOff now insideRuntime custom request = .ok flight)
    (handedOver : sent ∈ (flight.run events).sent) :
    ∃ message credential,
      action.message now custom request = .ok message ∧
        Flight.MayUse provider events credential ∧
          (Scheme.signed credential message).toHttp = .ok sent ∧
            sent.SignedUnder credential message.resource ∧
              Canonical.stringToSign (Scheme.signed credential message) =
                Canonical.stringToSign message := by
  obtain ⟨message, made, carries⟩ := carries_takeOff signer takesOff
  obtain ⟨credential, allowed, travels⟩ := (Flight.carries_run carries).sent sent handedOver
  refine ⟨message, credential, made, allowed, travels, ?_,
    Scheme.stringToSign_signed credential message⟩
  have covered : sent.coveredText message.resource = Canonical.stringToSign message := by
    rw [← Scheme.resource_signed credential, RequestMessage.coveredText_eq travels,
      Scheme.stringToSign_signed]
  have received := RequestMessage.header?_toHttp travels Scheme.authorizationHeader
  rw [Scheme.header?_signed, ← covered] at received
  exact received

/-- The action that lists the queues of a host, signed under a fixed credential with a token. -/
def listing : Action Unit Unit Unit where
  operation :=
    { name := "ListQueues"
      method := .get
      build := fun _ => .ok ({ method := .get, resourcePath := "/queues" }, ())
      reply := .ignore ()
      refusal := fun _ => .brokeDown none }
  client :=
    { context := { transport := true, runtime := true }
      config := { endpoint := "http://host" }
      signer := some ⟨.fixed ⟨"AK", "SK", some "token", none⟩, .headerSignature⟩ }
  requestId := some "id"

/-- The steps of a call that asks for its credential, signs and sends. -/
def fiveSteps : List Flight.Event :=
  List.replicate 5 (.advance 0 {})

theorem authorization_covers_sent_listing :
    ∃ flight sent,
      listing.takeOff 0 false [("X-MNS-Trace", "yes"), ("AUTHORIZATION", "none")] () = .ok flight ∧
        sent ∈ (flight.run fiveSteps).sent ∧
          ∃ message credential,
            listing.message 0 [("X-MNS-Trace", "yes"), ("AUTHORIZATION", "none")] () =
                .ok message ∧
              Flight.MayUse (.fixed ⟨"AK", "SK", some "token", none⟩) fiveSteps credential ∧
                (Scheme.signed credential message).toHttp = .ok sent ∧
                  sent.SignedUnder credential message.resource ∧
                    Canonical.stringToSign (Scheme.signed credential message) =
                      Canonical.stringToSign message := by
  have sends :
      (match listing.takeOff 0 false [("X-MNS-Trace", "yes"), ("AUTHORIZATION", "none")] () with
        | .ok flight => !(flight.run fiveSteps).sent.isEmpty
        | .error _ => false) = true := by decide +kernel
  split at sends
  · rename_i flight takesOff
    obtain ⟨sent, handedOver⟩ :=
      List.exists_mem_of_ne_nil _ (by simpa using sends)
    exact ⟨flight, sent, takesOff, handedOver,
      authorization_covers_sent rfl takesOff handedOver⟩
  · cases sends

end Action

end SignedQueue
