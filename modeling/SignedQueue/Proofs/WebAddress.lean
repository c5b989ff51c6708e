import Mathlib
import SignedQueue.Client.Config
import SignedQueue.Text.Cut
import SignedQueue.Proofs.Success
/-!
**The parts of an address of the web.** An endpoint that a configuration may have is a scheme, an
authority, and what follows it, and each of the three can be read off again.

* `WebAddress`: the parts of an address;
* `WebAddress.exists_of_validate`: every endpoint that is accepted has them;
* `WebAddress.host_eq`: the scheme and the authority that are read off an address;
* `WebAddress.pathAndQuery_eq`: what the host sees of an address.
-/

namespace SignedQueue

/-- A character that becomes no letter in lower case was that character. -/
theorem eq_of_toLower_eq {character other : Char} (noLetter : other.isAlpha = false)
    (same : character.toLower = other) : character = other := by
  have unchanged : ¬ character.isUpper := fun upper => by
    have letter := Char.isAlpha_toLower_eq_isAlpha character
    rw [same, noLetter, Char.isAlpha, upper] at letter
    simp at letter
  rw [← same, Char.toLower_eq_of_not_isUpper unchanged]

/-- A text is cut at its first `://` if no colon stands before it. -/
theorem cut_scheme {before after : List Char} (absent : ':' ∉ before) :
    cut "://".toList (before ++ "://".toList ++ after) = some (before, after) := by
  rw [show "://".toList = [':', '/', '/'] by simp, List.append_assoc]
  exact cut_append absent

/-- What is left of items without as many as are kept of them. -/
theorem drop_length_takeWhile {α : Type} (keep : α → Bool) (items : List α) :
    items.drop (items.takeWhile keep).length = items.dropWhile keep := by
  have left : (items.takeWhile keep ++ items.dropWhile keep).drop (items.takeWhile keep).length =
      items.dropWhile keep := List.drop_left
  rwa [List.takeWhile_append_dropWhile] at left

namespace Target

/-! ### The scheme -/

/-- The characters of a scheme of the web. -/
def IsWebScheme (mark : List Char) : Prop :=
  mark.map Char.toLower = "http".toList ∨ mark.map Char.toLower = "https".toList

theorem IsWebScheme.colon_notMem {mark : List Char} (web : IsWebScheme mark) : ':' ∉ mark := by
  intro member
  have lowered : ':' ∈ mark.map Char.toLower := List.mem_map.mpr ⟨':', member, rfl⟩
  rcases web with same | same <;> simp [same] at lowered

/-- A scheme of the web is read off an address that begins with it. -/
theorem splitScheme_web {mark : List Char} (web : IsWebScheme mark) (rest : List Char) :
    splitScheme (mark ++ "://".toList ++ rest) =
      .ok (some (String.ofList (mark.map Char.toLower)), rest) := by
  have colons : "://".toList.map Char.toLower = "://".toList := by decide +kernel
  have lowered (count : Nat) :
      ((mark ++ "://".toList ++ rest).take count).map Char.toLower =
        (mark.map Char.toLower ++ "://".toList ++ rest.map Char.toLower).take count := by
    rw [List.map_take, List.map_append, List.map_append, colons]
  have after : (mark ++ "://".toList ++ rest).drop (mark.length + 3) = rest :=
    List.drop_left' (by simp)
  simp only [splitScheme, lowered]
  rcases web with same | same
  · have four : mark.length = 4 := by simpa using congrArg List.length same
    rw [four] at after
    rw [same, if_pos (by simp), after, String.ofList_toList]
  · have five : mark.length = 5 := by simpa using congrArg List.length same
    rw [five] at after
    rw [same, if_neg (by simp), if_pos (by simp), after, String.ofList_toList]

/-- Characters that become a scheme of the web and `://` in lower case are such a scheme and this
mark. -/
theorem exists_mark {characters : List Char} {scheme : String}
    (web : scheme = "http" ∨ scheme = "https")
    (same : characters.map Char.toLower = scheme.toList ++ "://".toList) :
    ∃ mark, IsWebScheme mark ∧ characters = mark ++ "://".toList := by
  obtain ⟨mark, colons, rfl, markSame, colonsSame⟩ := List.map_eq_append_iff.mp same
  refine ⟨mark, ?_, ?_⟩
  · rcases web with rfl | rfl
    · exact .inl markSame
    · exact .inr markSame
  · congr 1
    have three : colons.length = 3 := by simpa using congrArg List.length colonsSame
    match colons, three with
    | [first, second, third], _ =>
      simp only [List.map_cons, List.map_nil, String.reduceToList, List.cons.injEq] at colonsSame
      obtain ⟨colon, slash, slash', -⟩ := colonsSame
      rw [eq_of_toLower_eq (by decide) colon, eq_of_toLower_eq (by decide) slash,
        eq_of_toLower_eq (by decide) slash']
      rfl

/-- An address with a scheme of the web begins with it. -/
theorem splitScheme_eq_ok {characters rest : List Char} {scheme : String}
    (split : splitScheme characters = .ok (some scheme, rest))
    (web : scheme = "http" ∨ scheme = "https") :
    ∃ mark, IsWebScheme mark ∧ characters = mark ++ "://".toList ++ rest := by
  simp only [splitScheme] at split
  split_ifs at split with http https other long
  · cases split
    obtain ⟨mark, marked, same⟩ := exists_mark (.inl rfl) http
    exact ⟨mark, marked, by rw [← same, List.take_append_drop]⟩
  · cases split
    obtain ⟨mark, marked, same⟩ := exists_mark (.inr rfl) https
    exact ⟨mark, marked, by rw [← same, List.take_append_drop]⟩
  · cases split
    obtain ⟨_, colons⟩ := other
    obtain ⟨after, colons⟩ := List.isPrefixOf_iff_prefix.mp colons
    refine ⟨characters.takeWhile isSchemeChar, ?_, ?_⟩
    · rcases web with same | same
      · exact .inl (by rw [String.ofList_eq.mp same]; decide)
      · exact .inr (by rw [String.ofList_eq.mp same]; decide)
    · rw [drop_length_takeWhile] at colons ⊢
      rw [← colons, List.drop_left' (by simp), List.append_assoc, colons,
        List.takeWhile_append_dropWhile]
  · cases split

/-! ### The authority and what follows it -/

theorem splitAuthority_eq_ok {characters authority after : List Char}
    (split : splitAuthority characters = .ok (authority, after)) :
    authority = characters.takeWhile (fun character => !endsAuthority character) ∧
      after = characters.dropWhile fun character => !endsAuthority character := by
  obtain ⟨_, _, split⟩ := bind_eq_ok.mp split
  cases split
  exact ⟨rfl, drop_length_takeWhile _ _⟩

/-- A path and a query, as they are written one after the other. -/
def written (path : String) (query : Option String) : List Char :=
  path.toList ++ (query.map fun query => '?' :: query.toList).getD []

theorem readQuery_eq_ok {characters : List Char} {query : String}
    (read : readQuery characters = .ok query) :
    query.toList = characters.takeWhile (· ≠ '#') := by
  simp only [readQuery] at read
  split_ifs at read
  cases read
  exact String.toList_ofList

/-- What is read of a path and a query is everything up to a `#`. -/
theorem readPath_eq_ok {characters : List Char} {path : String} {query : Option String}
    (read : readPath characters = .ok (path, query)) :
    path.toList = characters.takeWhile (fun character => character ≠ '?' && character ≠ '#') ∧
      written path query = characters.takeWhile (· ≠ '#') := by
  let stays : Char → Bool := fun character => character ≠ '?' && character ≠ '#'
  have whole : characters.takeWhile stays ++ characters.dropWhile stays = characters :=
    List.takeWhile_append_dropWhile
  have inside : ∀ character ∈ characters.takeWhile stays, decide (character ≠ '#') = true :=
    fun character member => by
      have kept := List.mem_takeWhile_imp member
      simp only [stays, Bool.and_eq_true] at kept
      exact kept.2
  have cutOff : characters.takeWhile (· ≠ '#') =
      characters.takeWhile stays ++ (characters.dropWhile stays).takeWhile (· ≠ '#') := by
    conv_lhs => rw [← whole]
    rw [List.takeWhile_append_of_pos inside]
  simp only [readPath, drop_length_takeWhile] at read
  obtain ⟨_, read⟩ := check_eq_ok.mp read
  rw [cutOff]
  split at read
  · rename_i rest found
    obtain ⟨query, queried, read⟩ := bind_eq_ok.mp read
    cases read
    refine ⟨String.toList_ofList, ?_⟩
    rw [show characters.dropWhile stays = '?' :: rest from found]
    simp [written, readQuery_eq_ok queried, stays]
  · rename_i noQuery
    cases read
    refine ⟨String.toList_ofList, ?_⟩
    have stops := List.head?_dropWhile_not stays characters
    cases left : characters.dropWhile stays with
    | nil => simp [written, stays]
    | cons character rest =>
      have hash : character = '#' := by
        rw [left] at stops
        by_contra other
        obtain rfl : character = '?' := by simpa [stays, other] using stops
        exact noQuery rest left
      simp [written, hash, stays]

/-- An address is read part by part: its scheme, and after a scheme its authority and its path and
query. -/
theorem parseFull_eq_ok {characters : List Char} {target : Target}
    (parsed : parseFull characters = .ok target) :
    ∃ rest, splitScheme characters = .ok (target.scheme, rest) ∧
      (target.scheme.isSome → ∃ authority after,
        splitAuthority rest = .ok (authority, after) ∧ authority ≠ [] ∧
          target.authority = some (String.ofList authority) ∧
            readPath after = .ok (target.path, target.query)) := by
  obtain ⟨⟨found, rest⟩, split, parsed⟩ := bind_eq_ok.mp parsed
  cases found with
  | none =>
    -- an authority alone has no scheme, and nothing is said of it
    obtain ⟨⟨authority, after⟩, _, parsed⟩ := bind_eq_ok.mp parsed
    obtain ⟨_, parsed⟩ := check_eq_ok.mp parsed
    cases parsed
    exact ⟨rest, split, nofun⟩
  | some found =>
    obtain ⟨_, parsed⟩ := check_eq_ok.mp parsed
    obtain ⟨⟨authority, after⟩, divided, parsed⟩ := bind_eq_ok.mp parsed
    obtain ⟨nonempty, parsed⟩ := check_eq_ok.mp parsed
    obtain ⟨⟨path, query⟩, read, parsed⟩ := bind_eq_ok.mp parsed
    cases parsed
    exact ⟨rest, split, fun _ => ⟨authority, after, divided, nonempty, rfl, read⟩⟩

/-- An address with a scheme is read in full. -/
theorem parseFull_of_parse {text : String} {target : Target} (parsed : parse text = .ok target)
    (scheme : target.scheme.isSome) : parseFull text.toList = .ok target := by
  simp only [parse] at parsed
  split_ifs at parsed
  split at parsed
  · cases parsed
  · cases read : readPath ('/' :: _) with
    | error fault =>
      rw [read] at parsed
      cases parsed
    | ok found =>
      rw [read] at parsed
      cases parsed
      cases scheme
  · cases parsed
    cases scheme
  · exact parsed

theorem toList_pathAndQuery (target : Target) :
    target.pathAndQuery.toList =
      (if target.path = "" then ['/'] else []) ++ written target.path target.query := by
  unfold pathAndQuery written
  cases target.query <;> split_ifs with empty <;> simp [empty]

end Target

/-! ### Addresses -/

/-- The parts of an address of the web. -/
structure WebAddress where
  scheme : List Char
  authority : List Char
  /-- A path, a query, a fragment, or nothing. -/
  rest : List Char
  web : Target.IsWebScheme scheme
  hosted : authority ≠ []
  inside : ∀ character ∈ authority, Target.endsAuthority character = false
  ends : ∀ character ∈ rest.head?, Target.endsAuthority character = true

namespace WebAddress

/-- An address as it is written. -/
def characters (address : WebAddress) : List Char :=
  address.scheme ++ "://".toList ++ (address.authority ++ address.rest)

theorem dropWhile_authority (address : WebAddress) :
    (address.authority ++ address.rest).dropWhile (fun character =>
      !Target.endsAuthority character) = address.rest := by
  rw [List.dropWhile_append_of_pos fun character member => by simp [address.inside _ member]]
  cases left : address.rest with
  | nil => rfl
  | cons character rest =>
    have stops := address.ends character (by simp [left])
    simp [stops]

/-- Every endpoint that is accepted is an address of the web. -/
theorem exists_of_validate {config : Config} (valid : config.validate = .ok ()) :
    ∃ address : WebAddress, config.endpoint.toList = address.characters := by
  unfold Config.validate at valid
  split at valid
  · cases valid
  · rename_i target parsed
    split_ifs at valid with accepted
    obtain ⟨scheme, isScheme, web⟩ : ∃ scheme, target.scheme = some scheme ∧
        (scheme = "http" ∨ scheme = "https") := by
      rcases accepted.1 with same | same
      · exact ⟨_, same, .inl rfl⟩
      · exact ⟨_, same, .inr rfl⟩
    have found : target.scheme.isSome := by rw [isScheme]; rfl
    obtain ⟨rest, split, parts⟩ := Target.parseFull_eq_ok (Target.parseFull_of_parse parsed found)
    obtain ⟨authority, after, divided, hosted, _⟩ := parts found
    rw [isScheme] at split
    obtain ⟨mark, marked, same⟩ := Target.splitScheme_eq_ok split web
    obtain ⟨rfl, rfl⟩ := Target.splitAuthority_eq_ok divided
    refine ⟨⟨mark, _, rest.dropWhile fun character => !Target.endsAuthority character, marked,
      hosted, fun character member => ?_, fun character member => ?_⟩, ?_⟩
    · simpa using List.mem_takeWhile_imp member
    · have stops := List.head?_dropWhile_not (fun character => !Target.endsAuthority character) rest
      rw [Option.mem_def.mp member] at stops
      simpa using stops
    · rw [same, characters, List.takeWhile_append_dropWhile]

/-- An address begins with a letter of its scheme. -/
theorem exists_characters_eq_cons (address : WebAddress) :
    ∃ character rest, address.characters = character :: rest ∧ character ≠ '/' ∧
      character ≠ '*' := by
  have letter : ∃ character ∈ address.scheme.head?, character.toLower = 'h' := by
    rcases address.web with same | same
    all_goals
      have first := congrArg List.head? same
      simpa using first
  obtain ⟨character, first, lowered⟩ := letter
  obtain ⟨rest, same⟩ := List.head?_eq_some_iff.mp first
  refine ⟨character, rest ++ "://".toList ++ (address.authority ++ address.rest),
    by rw [characters, same]; rfl, ?_, ?_⟩
  · rintro rfl
    exact absurd lowered (by decide)
  · rintro rfl
    exact absurd lowered (by decide)

/-- An address is read in full. -/
theorem parseFull_of_parse (address : WebAddress) {text : String} {target : Target}
    (same : text.toList = address.characters) (parsed : Target.parse text = .ok target) :
    Target.parseFull address.characters = .ok target := by
  obtain ⟨character, rest, written, noSlash, noStar⟩ := address.exists_characters_eq_cons
  simp only [Target.parse, same, written] at parsed
  split_ifs at parsed
  rw [written]
  split at parsed
  · cases parsed
  · simp_all
  · simp_all
  · exact parsed

theorem takeWhile_authority (address : WebAddress) :
    (address.authority ++ address.rest).takeWhile (fun character =>
      !Target.endsAuthority character) = address.authority := by
  have whole := List.takeWhile_append_dropWhile (p := fun character =>
    !Target.endsAuthority character) (l := address.authority ++ address.rest)
  rwa [dropWhile_authority, List.append_cancel_right_eq] at whole

/-- The host of an address is its authority, whatever follows it. -/
theorem host_eq (address : WebAddress) {text : String} {target : Target}
    (same : text.toList = address.characters) (parsed : Target.parse text = .ok target) :
    target.scheme = some (String.ofList (address.scheme.map Char.toLower)) ∧
      target.authority = some (String.ofList address.authority) := by
  obtain ⟨rest, split, parts⟩ := Target.parseFull_eq_ok (address.parseFull_of_parse same parsed)
  rw [characters, Target.splitScheme_web address.web, Except.ok.injEq, Prod.mk.injEq] at split
  obtain ⟨scheme, rfl⟩ := split
  obtain ⟨authority, after, divided, _, host, _⟩ := parts (by rw [← scheme]; rfl)
  obtain ⟨rfl, _⟩ := Target.splitAuthority_eq_ok divided
  rw [takeWhile_authority] at host
  exact ⟨scheme.symm, host⟩

/-- What the host sees of an address is what follows the authority, up to a `#`. -/
theorem pathAndQuery_eq (address : WebAddress) {text : String} {target : Target}
    (same : text.toList = address.characters) (parsed : Target.parse text = .ok target) :
    target.pathAndQuery.toList =
      (if address.rest.head? = some '/' then [] else ['/']) ++
        address.rest.takeWhile (· ≠ '#') := by
  obtain ⟨rest, split, parts⟩ := Target.parseFull_eq_ok (address.parseFull_of_parse same parsed)
  rw [characters, Target.splitScheme_web address.web, Except.ok.injEq, Prod.mk.injEq] at split
  obtain ⟨scheme, rfl⟩ := split
  obtain ⟨authority, after, divided, _, _, read⟩ := parts (by rw [← scheme]; rfl)
  obtain ⟨_, rfl⟩ := Target.splitAuthority_eq_ok divided
  rw [dropWhile_authority] at read
  obtain ⟨path, written⟩ := Target.readPath_eq_ok read
  have empty : target.path = "" ↔ ¬ address.rest.head? = some '/' := by
    rw [← String.toList_inj, path]
    cases left : address.rest with
    | nil => simp
    | cons character rest =>
      have stops := address.ends character (by simp [left])
      simp only [Target.endsAuthority, Bool.or_eq_true, decide_eq_true_eq] at stops
      rcases stops with (rfl | rfl) | rfl <;> simp
  rw [Target.toList_pathAndQuery, written, ite_congr (propext empty) (fun _ => rfl) fun _ => rfl,
    ite_not]

end WebAddress

end SignedQueue
