import Mathlib
import SignedQueue.Proofs.HeaderFields
import SignedQueue.Proofs.WebAddress
/-!
**The resource that is signed and the one that is asked for.** The resource of a message is cut out
of its endpoint, while the request that travels is read off the whole address. Both agree for an
endpoint that is at most followed by a path, and for texts without a `#`; a query or a fragment
right after the authority parts them.

* `RequestMessage.pathAndQuery_toHttp`, `RequestMessage.toList_resource`: what each of the two is;
* `RequestMessage.SignsItsTarget`: when they agree;
* `RequestMessage.pathAndQuery_eq_resource_iff`: they agree exactly then.
-/

namespace SignedQueue

/-! ### Slashes at the end -/

/-- A text without the slashes at its end. -/
abbrev trimmed (characters : List Char) : List Char :=
  characters.rdropWhile (· = '/')

/-- What ends with something else than a slash is not cut. -/
theorem trimmed_append {front : List Char} (last : ∃ character ∈ front.getLast?, character ≠ '/')
    (tail : List Char) : trimmed (front ++ tail) = front ++ trimmed tail := by
  obtain ⟨character, member, noSlash⟩ := last
  obtain ⟨init, rfl⟩ := List.getLast?_eq_some_iff.mp member
  rw [trimmed, List.rdropWhile, List.reverse_append, List.dropWhile_append]
  split_ifs with empty
  · have slashes : trimmed tail = [] := by
      rw [trimmed, List.rdropWhile, List.isEmpty_iff.mp empty, List.reverse_nil]
    rw [slashes, List.reverse_append, List.append_nil]
    simp [noSlash]
  · rw [List.reverse_append, List.reverse_reverse]
    rfl

/-- What is not a slash stays. -/
theorem mem_trimmed {character : Char} (noSlash : character ≠ '/') (characters : List Char) :
    character ∈ trimmed characters ↔ character ∈ characters := by
  constructor
  · exact fun member => (List.rdropWhile_prefix _ _).subset member
  · intro member
    rw [← List.rdropWhile_append_rtakeWhile (p := (· = '/')) (l := characters)] at member
    refine (List.mem_append.mp member).resolve_right fun cut => noSlash ?_
    simpa using List.mem_rtakeWhile_imp cut

/-- Cutting slashes at the end leaves what stands before the first slash as it is. -/
theorem trimmed_eq (characters : List Char) :
    trimmed characters =
      characters.takeWhile (· ≠ '/') ++ trimmed (characters.dropWhile (· ≠ '/')) := by
  have whole := List.takeWhile_append_dropWhile (p := (· ≠ '/')) (l := characters)
  cases last : (characters.takeWhile (· ≠ '/')).getLast? with
  | none =>
    rw [List.getLast?_eq_none_iff.mp last, List.nil_append] at whole ⊢
    rw [whole]
  | some character =>
    have noSlash := List.mem_takeWhile_imp (List.mem_of_getLast? last)
    rw [← trimmed_append ⟨character, last, by simpa using noSlash⟩, whole]

/-- What is left of a path without the slashes at its end is nothing or begins with a slash. -/
theorem trimmed_dropWhile (characters : List Char) :
    trimmed (characters.dropWhile (· ≠ '/')) = [] ∨
      ∃ rest, trimmed (characters.dropWhile (· ≠ '/')) = '/' :: rest := by
  have stops := List.head?_dropWhile_not (· ≠ '/') characters
  cases left : trimmed (characters.dropWhile (· ≠ '/')) with
  | nil => exact .inl rfl
  | cons character rest =>
    obtain ⟨cut, whole⟩ := List.rdropWhile_prefix (· = '/') (characters.dropWhile (· ≠ '/'))
    rw [show List.rdropWhile (· = '/') (characters.dropWhile (· ≠ '/')) = character :: rest
      from left] at whole
    rw [← whole] at stops
    obtain rfl : character = '/' := by simpa using stops
    exact .inr ⟨rest, rfl⟩

/-! ### Comparing the two texts -/

/-- What follows a `#` does not matter up to it. -/
theorem takeWhile_append_of_hash {front : List Char} (hash : '#' ∈ front) (tail : List Char) :
    (front ++ tail).takeWhile (· ≠ '#') = front.takeWhile (· ≠ '#') := by
  rw [List.takeWhile_append, if_neg]
  intro whole
  have all := List.takeWhile_eq_self_iff.mp
    ((List.takeWhile_prefix (· ≠ '#')).eq_of_length whole) '#' hash
  simp at all

section Comparison

variable {tail sub : List Char}

theorem dropWhile_eq_of_slash (slash : tail.head? ∈ [none, some '/']) :
    tail.dropWhile (· ≠ '/') = tail := by
  cases tail with
  | nil => rfl
  | cons first rest =>
    obtain rfl : first = '/' := by simpa using slash
    simp

/-- A joined path begins with a slash if it did so before or was nothing. -/
theorem head?_append_slash_iff :
    (trimmed tail ++ '/' :: sub).head? = some '/' ↔ tail.head? ∈ [none, some '/'] := by
  by_cases slash : tail.head? ∈ [none, some '/']
  · refine iff_of_true ?_ slash
    rw [← dropWhile_eq_of_slash slash]
    rcases trimmed_dropWhile tail with left | ⟨rest, left⟩
    · rw [left]
      rfl
    · rw [left]
      rfl
  · refine iff_of_false ?_ slash
    rw [trimmed_eq]
    cases tail with
    | nil => simp at slash
    | cons first rest =>
      have other : first ≠ '/' := by simpa using slash
      simp [other]

/-- After nothing or a slash, both texts are the same up to a `#`. -/
theorem sees_eq_signs_of_slash (slash : tail.head? ∈ [none, some '/']) :
    (trimmed tail ++ '/' :: sub).takeWhile (· ≠ '#') =
        trimmed (tail.dropWhile (· ≠ '/')) ++ '/' :: sub ↔ '#' ∉ tail ∧ '#' ∉ sub := by
  rw [dropWhile_eq_of_slash slash, List.takeWhile_eq_self_iff,
    ← mem_trimmed (by decide : '#' ≠ '/') tail, List.forall_mem_append,
    List.forall_mem_cons]
  simp [List.forall_mem_ne']

/-- A part before the first slash goes unseen only if a `#` stands in it, and then the path has to
repeat it up to there. -/
theorem sees_eq_signs_iff {before cut : List Char} (begins : before ≠ []) (clean : '/' ∉ before)
    (slashed : cut = [] ∨ ∃ rest, cut = '/' :: rest) :
    '/' :: (before ++ cut ++ '/' :: sub).takeWhile (· ≠ '#') = cut ++ '/' :: sub ↔
      '#' ∈ before ∧ cut = [] ∧ sub = before.takeWhile (· ≠ '#') := by
  constructor
  · intro same
    have visible : '#' ∉ cut ++ '/' :: sub := by
      rw [← same, List.mem_cons]
      rintro (impossible | member)
      · exact absurd impossible (by decide)
      · simpa using List.mem_takeWhile_imp member
    -- without a `#` the whole of the left text would be seen, and it is longer by `before`
    have hash : '#' ∈ before := by
      by_contra noHash
      have all : (before ++ cut ++ '/' :: sub).takeWhile (· ≠ '#') =
          before ++ cut ++ '/' :: sub := by
        rw [List.takeWhile_eq_self_iff, List.append_assoc]
        intro character member
        rw [decide_eq_true_eq]
        rintro rfl
        exact (List.mem_append.mp member).elim noHash visible
      have lengths := congrArg List.length same
      have positive := List.length_pos_iff.mpr begins
      rw [all] at lengths
      simp only [List.length_cons, List.length_append] at lengths
      omega
    rw [List.append_assoc, takeWhile_append_of_hash hash] at same
    rcases slashed with rfl | ⟨rest, rfl⟩
    · rw [List.nil_append, List.cons.injEq] at same
      exact ⟨hash, rfl, same.2.symm⟩
    · rw [List.cons_append, List.cons.injEq] at same
      have slash : '/' ∈ before.takeWhile (· ≠ '#') := by
        rw [same.2]
        simp
      exact absurd ((List.takeWhile_prefix _).subset slash) clean
  · rintro ⟨hash, rfl, rfl⟩
    rw [List.append_assoc, takeWhile_append_of_hash hash, List.nil_append]

/-- After anything else, both texts are the same only if a `#` hides the path that is joined, and
this path repeats what stands before the `#`. -/
theorem sees_eq_signs_of_no_slash (noSlash : tail.head? ∉ [none, some '/']) :
    '/' :: (trimmed tail ++ '/' :: sub).takeWhile (· ≠ '#') =
        trimmed (tail.dropWhile (· ≠ '/')) ++ '/' :: sub ↔
      '#' ∈ tail ∧ '/' ∉ trimmed tail ∧ sub = tail.takeWhile (· ≠ '#') := by
  have clean : '/' ∉ tail.takeWhile (· ≠ '/') := fun member => by
    simpa using List.mem_takeWhile_imp member
  have begins : tail.takeWhile (· ≠ '/') ≠ [] := by
    cases tail with
    | nil => simp at noSlash
    | cons first rest =>
      have other : first ≠ '/' := by simpa using noSlash
      simp [other]
  have slashed := trimmed_dropWhile tail
  have hash_iff : '#' ∈ tail ↔ '#' ∈ tail.takeWhile (· ≠ '/') ∨
      '#' ∈ trimmed (tail.dropWhile (· ≠ '/')) := by
    rw [← mem_trimmed (by decide : '#' ≠ '/'), trimmed_eq, List.mem_append]
  have whole := List.takeWhile_append_dropWhile (p := (· ≠ '/')) (l := tail)
  rw [trimmed_eq, sees_eq_signs_iff begins clean slashed, hash_iff, List.mem_append,
    or_iff_right clean]
  generalize tail.takeWhile (· ≠ '/') = before at *
  constructor
  · rintro ⟨hash, noCut, rfl⟩
    refine ⟨.inl hash, ?_, ?_⟩
    · rw [noCut]
      exact List.not_mem_nil
    · rw [← whole, takeWhile_append_of_hash hash]
  · rintro ⟨hash, noCut, rfl⟩
    have empty : trimmed (tail.dropWhile (· ≠ '/')) = [] := by
      refine slashed.resolve_right ?_
      rintro ⟨rest, same⟩
      exact noCut (same ▸ List.mem_cons_self)
    rw [empty, or_iff_left List.not_mem_nil] at hash
    refine ⟨hash, empty, ?_⟩
    rw [← takeWhile_append_of_hash hash (tail.dropWhile (· ≠ '/')), whole]

end Comparison

/-! ### The two resources -/

namespace WebAddress

theorem ends_join (address : WebAddress) (sub : List Char) :
    ∀ character ∈ (trimmed address.rest ++ '/' :: sub).head?,
      Target.endsAuthority character = true := by
  intro character member
  obtain ⟨cut, whole⟩ := List.rdropWhile_prefix (· = '/') address.rest
  cases left : trimmed address.rest with
  | nil =>
    obtain rfl : '/' = character := by simpa [left] using member
    rfl
  | cons first rest =>
    refine address.ends character ?_
    rw [← whole, show address.rest.rdropWhile (· = '/') = first :: rest from left]
    simpa [left] using member

/-- The address with a further path, joined by one slash. -/
def join (address : WebAddress) (sub : List Char) : WebAddress :=
  { address with
    rest := trimmed address.rest ++ '/' :: sub
    ends := address.ends_join sub }

theorem characters_join (address : WebAddress) (sub : List Char) :
    (address.join sub).characters = trimmed address.characters ++ '/' :: sub := by
  have last : ∃ character ∈ (address.scheme ++ "://".toList ++ address.authority).getLast?,
      character ≠ '/' := by
    refine ⟨address.authority.getLast address.hosted, ?_, ?_⟩
    · rw [List.getLast?_append_of_ne_nil _ address.hosted]
      exact List.getLast?_eq_some_getLast address.hosted
    · intro slash
      have inside := address.inside _ (List.getLast_mem address.hosted)
      rw [slash] at inside
      cases inside
  rw [characters, characters, ← List.append_assoc _ address.authority, trimmed_append last]
  simp [join]

end WebAddress

namespace RequestMessage

/-- A path without the slashes at its beginning. -/
def relative (path : String) : List Char :=
  path.toList.dropWhile (· = '/')

/-- What follows the authority of an endpoint: a path, a query, a fragment, or nothing. -/
def afterAuthority (endpoint : String) : List Char :=
  match cut "://".toList endpoint.toList with
  | some (_, rest) => rest.dropWhile fun character => !Target.endsAuthority character
  | none => []

theorem toList_joinPath (base sub : String) :
    (joinPath base sub).toList = trimmed base.toList ++ '/' :: relative sub := by
  simp [joinPath, trimSlashesEnd, trimSlashesStart, trimmed, List.rdropWhile, relative]

/-- The resource begins with a slash, whatever the endpoint is. -/
theorem exists_resource (message : RequestMessage) :
    ∃ rest, message.resource.toList = '/' :: rest := by
  obtain ⟨tail, path⟩ : ∃ tail : List Char, (endpointPath message.endpoint).toList =
      tail.dropWhile (· ≠ '/') := ⟨_, String.toList_ofList⟩
  rw [resource, toList_joinPath, path]
  rcases trimmed_dropWhile tail with empty | ⟨rest, begins⟩
  · rw [empty]
    exact ⟨_, rfl⟩
  · rw [begins]
    exact ⟨_, rfl⟩

section Address

variable {endpoint : String} {address : WebAddress}

theorem afterAuthority_eq (same : endpoint.toList = address.characters) :
    afterAuthority endpoint = address.rest := by
  rw [afterAuthority, same, WebAddress.characters, cut_scheme address.web.colon_notMem]
  exact address.dropWhile_authority

/-- The path of an endpoint begins with the first slash after its authority. -/
theorem toList_endpointPath (same : endpoint.toList = address.characters) :
    (endpointPath endpoint).toList = (afterAuthority endpoint).dropWhile (· ≠ '/') := by
  have noSlash : ∀ character ∈ address.authority, decide (character ≠ '/') = true := by
    intro character member
    rw [decide_eq_true_eq]
    rintro rfl
    cases address.inside _ member
  rw [afterAuthority_eq same]
  simp only [endpointPath, same, WebAddress.characters, cut_scheme address.web.colon_notMem,
    String.toList_ofList]
  rw [List.dropWhile_append_of_pos noSlash]

end Address

variable {config : Config} {message : RequestMessage} {request : HttpRequest}

/-- What is signed of an endpoint is what follows its authority from the first slash on. -/
theorem toList_resource (valid : config.validate = .ok ())
    (configured : message.endpoint = config.endpoint) :
    message.resource.toList =
      trimmed ((afterAuthority message.endpoint).dropWhile (· ≠ '/')) ++
        '/' :: relative message.resourcePath := by
  obtain ⟨address, same⟩ := WebAddress.exists_of_validate valid
  rw [resource, toList_joinPath, configured, toList_endpointPath same]

/-- What is asked for is what follows the authority and the path, up to a `#`. -/
theorem pathAndQuery_toHttp (valid : config.validate = .ok ())
    (configured : message.endpoint = config.endpoint) (travels : message.toHttp = .ok request) :
    request.target.pathAndQuery.toList =
      (if (afterAuthority message.endpoint).head? ∈ [none, some '/'] then [] else ['/']) ++
        (trimmed (afterAuthority message.endpoint) ++
          '/' :: relative message.resourcePath).takeWhile (· ≠ '#') := by
  obtain ⟨address, same⟩ := WebAddress.exists_of_validate valid
  obtain ⟨parsed, -⟩ := toHttp_eq_ok travels
  have joined : message.url.toList = (address.join (relative message.resourcePath)).characters := by
    rw [url, toList_joinPath, configured, same, WebAddress.characters_join]
  rw [WebAddress.pathAndQuery_eq _ joined parsed, configured, afterAuthority_eq same]
  show (if (trimmed address.rest ++ '/' :: relative message.resourcePath).head? = some '/'
    then [] else ['/']) ++ _ = _
  rw [ite_congr (propext head?_append_slash_iff) (fun _ => rfl) fun _ => rfl]
  rfl

/-- Whether what is signed of an endpoint and a path is what is asked for: a path follows the
authority or nothing does, and there is no `#`; or else a `#` hides the path that is joined, and
this path repeats what stands before the `#`. -/
def SignsItsTarget (endpoint path : String) : Prop :=
  ((afterAuthority endpoint).head? ∈ [none, some '/'] ∧
      '#' ∉ afterAuthority endpoint ∧ '#' ∉ relative path) ∨
    ('#' ∈ afterAuthority endpoint ∧ '/' ∉ trimmed (afterAuthority endpoint) ∧
      relative path = (afterAuthority endpoint).takeWhile (· ≠ '#'))
  deriving Decidable

/-- The resource that is signed is the one that is asked for exactly if the endpoint and the path
allow it. -/
theorem pathAndQuery_eq_resource_iff (valid : config.validate = .ok ())
    (configured : message.endpoint = config.endpoint) (travels : message.toHttp = .ok request) :
    request.target.pathAndQuery = message.resource ↔
      SignsItsTarget message.endpoint message.resourcePath := by
  rw [← String.toList_inj, pathAndQuery_toHttp valid configured travels,
    toList_resource valid configured, SignsItsTarget]
  generalize afterAuthority message.endpoint = tail
  generalize relative message.resourcePath = sub
  by_cases slash : tail.head? ∈ [none, some '/']
  · rw [if_pos slash, List.nil_append, sees_eq_signs_of_slash slash]
    refine ⟨fun clean => .inl ⟨slash, clean⟩, ?_⟩
    rintro (⟨_, clean⟩ | ⟨hash, noSlash, _⟩)
    · exact clean
    · have left := trimmed_dropWhile tail
      rw [dropWhile_eq_of_slash slash] at left
      rcases left with empty | ⟨rest, begins⟩
      · rw [← mem_trimmed (by decide : '#' ≠ '/'), empty] at hash
        cases hash
      · rw [begins] at noSlash
        exact absurd List.mem_cons_self noSlash
  -- a query or a fragment comes first, so the first alternative is out of the question
  · rw [if_neg slash, List.singleton_append, sees_eq_signs_of_no_slash slash]
    exact ⟨.inr, fun either => either.resolve_left fun first => slash first.1⟩

theorem pathAndQuery_eq_resource_prefixed :
    Config.validate { endpoint := "http://host:80/one//" } = .ok () ∧
      ∃ request,
        toHttp
            { method := .get, endpoint := "http://host:80/one//", resourcePath := "/two?three" } =
          .ok request ∧
          request.target.pathAndQuery = "/one/two?three" := by
  have valid : Config.validate { endpoint := "http://host:80/one//" } = .ok () := by
    decide +kernel
  have travels :
      toHttp { method := .get, endpoint := "http://host:80/one//", resourcePath := "/two?three" } =
        .ok ⟨.get, ⟨"http", "host:80", "/one/two", "three"⟩, [], []⟩ := by
    decide +kernel
  refine ⟨valid, _, travels, ?_⟩
  rw [(pathAndQuery_eq_resource_iff valid rfl travels).mpr (by decide +kernel)]
  decide +kernel

/-- A query after the authority of an endpoint is asked for but not signed; a slash in it is taken
for the path. -/
theorem pathAndQuery_ne_resource_query :
    Config.validate { endpoint := "http://host?one=two/three" } = .ok () ∧
      ∃ request,
        toHttp
              { method := .get, endpoint := "http://host?one=two/three", resourcePath := "/four" } =
            .ok request ∧
          request.target.pathAndQuery = "/?one=two/three/four" ∧
            resource
                { method := .get
                  endpoint := "http://host?one=two/three"
                  resourcePath := "/four" } =
              "/three/four" := by
  refine ⟨by decide +kernel,
    ⟨.get, ⟨"http", "host", "", "one=two/three/four"⟩, [], []⟩, ?_, ?_, ?_⟩
  all_goals decide +kernel

end RequestMessage

end SignedQueue
