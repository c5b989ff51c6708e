import Mathlib
import SignedQueue.Proofs.CustomHeaders
/-!
**Headers are stored as a table that ignores case.** A message keeps its headers in a table that
tells the spellings of a name apart and gives its entries in whatever order. Still the value that is
read under a name is the last one that was set under it in any case, and neither the text that is
signed nor the request that travels depends on the order.

* `HeaderFields.lastCall?`: the last of some calls that set a header with a name;
* `RequestMessage.Becomes`: what a message may become by such calls, its table being reordered at
  will;
* `RequestMessage.Becomes.perm`: all that it may become has the same entries;
* `RequestMessage.StoresLast`: what its headers are, stated of the calls alone;
* `RequestMessage.storesLast_of_becomes`: a run of calls ends in such a message, and runs that agree
  on the last value of each name end in the same text to sign.
-/

namespace SignedQueue

/-! ### The last call with a name -/

namespace HeaderFields

/-- The last of some calls that set the header with a name, in any case. -/
def lastCall? (calls : List (String × String)) (name : String) : Option (String × String) :=
  (calls.filter fun call => Ascii.sameIgnoringCase call.1 name).getLast?

theorem lastCall?_concat (calls : List (String × String)) (last : String × String)
    (name : String) :
    lastCall? (calls ++ [last]) name =
      if Ascii.lower last.1 = Ascii.lower name then some last else lastCall? calls name := by
  unfold lastCall?
  rw [List.filter_append]
  by_cases same : Ascii.lower last.1 = Ascii.lower name
  · rw [if_pos same, List.filter_singleton, Ascii.sameIgnoringCase_iff.mpr same]
    exact List.getLast?_concat
  · rw [if_neg same, List.filter_singleton, Ascii.sameIgnoringCase, beq_false_of_ne same]
    exact congrArg List.getLast? (List.append_nil _)

theorem lastCall?_isSome {calls : List (String × String)} {name : String} :
    (lastCall? calls name).isSome ↔ ∃ call ∈ calls, Ascii.lower call.1 = Ascii.lower name := by
  rw [lastCall?, List.getLast?_isSome, ne_eq, List.filter_eq_nil_iff]
  simp

/-- After some calls on an empty table, the last value of each name is read. -/
theorem get?_ofList (calls : List (String × String)) (name : String) :
    (ofList calls).get? name = (lastCall? calls name).map Prod.snd := by
  rw [ofList, get?_setAll, lastCall?, List.getLast?_eq_head?_reverse, ← List.filter_reverse,
    List.head?_filter]
  exact Option.or_none

/-- After some calls on an empty table, an entry is stored exactly if the call that made it was the
last one with its name. -/
theorem mem_ofList {calls : List (String × String)} {entry : String × String} :
    entry ∈ (ofList calls).entries ↔ lastCall? calls entry.1 = some entry := by
  induction calls using List.reverseRecOn with
  | nil => exact ⟨nofun, nofun⟩
  | append_singleton rest last ih =>
    have step : ofList (rest ++ [last]) = (ofList rest).set last.1 last.2 := by
      rw [ofList, setAll, List.foldl_append]
      rfl
    rw [step, mem_set, lastCall?_concat, ih]
    by_cases same : Ascii.lower last.1 = Ascii.lower entry.1
    · rw [if_pos same, Option.some.injEq, eq_comm]
      exact or_iff_left fun other => other.2 same.symm
    · rw [if_neg same, and_iff_left (Ne.symm same)]
      refine or_iff_right ?_
      rintro rfl
      exact same rfl

/-- What is read does not depend on the order in which a table gives its entries. -/
theorem get?_of_perm {fields stored : HeaderFields} (order : stored.entries.Perm fields.entries)
    (name : String) : stored.get? name = fields.get? name := by
  ext value
  rw [get?_eq_some, get?_eq_some]
  simp only [order.mem_iff]

/-- Setting a field in tables with the same entries leaves tables with the same entries. -/
theorem set_perm {fields stored : HeaderFields} (order : stored.entries.Perm fields.entries)
    (name value : String) : (stored.set name value).entries.Perm (fields.set name value).entries :=
  (order.filter _).append_right _

end HeaderFields

namespace RequestMessage

open HeaderFields (lastCall? ofList)

/-! ### Runs of calls -/

/-- What a message may have become after some calls that set headers. Each call may change the order
in which the table gives its entries. -/
inductive Becomes (fresh : RequestMessage) : List (String × String) → RequestMessage → Prop
  | untouched : Becomes fresh [] fresh
  | set {calls : List (String × String)} {message : RequestMessage}
      (before : Becomes fresh calls message) (name value : String) (stored : HeaderFields)
      (order : stored.entries.Perm (message.setHeader name value).headers.entries) :
      Becomes fresh (calls ++ [(name, value)])
        { message.setHeader name value with headers := stored }

variable {fresh message other : RequestMessage} {calls others : List (String × String)}

/-- Calls that set headers change nothing else of a message. -/
theorem Becomes.frame (becomes : fresh.Becomes calls message) :
    message = { fresh with headers := message.headers } := by
  induction becomes with
  | untouched => rfl
  | set before name value stored order ih =>
    rw [ih]
    rfl

/-- Whatever the order of the table meanwhile, its entries are those that the calls leave one after
another. -/
theorem Becomes.perm (becomes : fresh.Becomes calls message) :
    message.headers.entries.Perm (fresh.headers.setAll calls).entries := by
  induction becomes with
  | untouched => exact List.Perm.refl _
  | @set calls message before name value stored order ih =>
    have step : fresh.headers.setAll (calls ++ [(name, value)]) =
        (fresh.headers.setAll calls).set name value := by
      rw [HeaderFields.setAll, List.foldl_append]
      rfl
    rw [step]
    exact order.trans (HeaderFields.set_perm ih name value)

/-- The calls one after another, with a table that keeps its order, are such a run. -/
theorem becomes_setAll (fresh : RequestMessage) (calls : List (String × String)) :
    fresh.Becomes calls { fresh with headers := fresh.headers.setAll calls } := by
  induction calls using List.reverseRecOn with
  | nil => exact .untouched
  | append_singleton rest last ih =>
    have run := Becomes.set ih last.1 last.2 _ (List.Perm.refl _)
    rw [HeaderFields.setAll, List.foldl_append]
    exact run

/-! ### What a run ends in -/

/-- A message whose headers are those that the last call with each name has set. -/
structure StoresLast (calls : List (String × String)) (message : RequestMessage) : Prop where
  /-- No two names are equal but for case. -/
  distinct :
    message.headers.entries.Pairwise fun first second => Ascii.lower first.1 ≠ Ascii.lower second.1
  /-- An entry is stored, in its own spelling, exactly if it is the last one with its name. -/
  stored : ∀ entry, entry ∈ message.headers.entries ↔ lastCall? calls entry.1 = some entry
  value : ∀ name, message.header? name = (lastCall? calls name).map Prod.snd
  present :
    ∀ name, message.headers.contains name = true ↔
      ∃ call ∈ calls, Ascii.lower call.1 = Ascii.lower name
  /-- The request that travels has one header for each entry, under the name in lower case, and no
  two of them have the same name. -/
  travels :
    ∀ request, message.toHttp = .ok request →
      request.headers = message.headers.entries.map HttpHeader.ofField ∧
        (request.headers.map HttpHeader.name).Nodup

theorem Becomes.header?_eq (becomes : fresh.Becomes calls message) (bare : fresh.headers = .empty)
    (name : String) : message.header? name = (ofList calls).get? name := by
  have order := becomes.perm
  rw [bare] at order
  exact HeaderFields.get?_of_perm order name

theorem Becomes.storesLast (becomes : fresh.Becomes calls message)
    (bare : fresh.headers = .empty) : message.StoresLast calls := by
  have order := becomes.perm
  rw [bare] at order
  have value (name : String) : message.header? name = (lastCall? calls name).map Prod.snd :=
    (becomes.header?_eq bare name).trans (HeaderFields.get?_ofList calls name)
  refine ⟨List.pairwise_map.mp message.headers.distinct, ?_, value, ?_, ?_⟩
  · intro entry
    rw [order.mem_iff]
    exact HeaderFields.mem_ofList
  · intro name
    have read : message.headers.get? name = (lastCall? calls name).map Prod.snd := value name
    rw [HeaderFields.contains, read, Option.isSome_map, HeaderFields.lastCall?_isSome]
  · intro request travels
    obtain ⟨_, _, headers, _⟩ := toHttp_eq_ok travels
    exact ⟨headers, nodup_headers_toHttp travels⟩

/-- Two runs from one message that are read alike have the same text to sign. -/
theorem Becomes.stringToSign_eq (becomes : fresh.Becomes calls message)
    (becomes' : fresh.Becomes others other)
    (alike : ∀ name, message.header? name = other.header? name) :
    Canonical.stringToSign message = Canonical.stringToSign other := by
  have frame := becomes.frame
  have frame' := becomes'.frame
  have covered : Canonical.SameCovered message other := by
    refine ⟨?_, fun name _ => ?_, fun name _ => alike name, ?_⟩
    · rw [frame, frame']
    · rw [alike name]
    · rw [frame, frame']
      rfl
  exact covered.stringToSign_eq

/-- Whatever the order in which a message gives its headers, after some calls that set headers it
has those that the last call with each name has set. The text to sign depends on nothing but the
last value of each name; in particular not on the order of calls whose names differ by more than
case. -/
theorem storesLast_of_becomes (bare : fresh.headers = .empty) :
    (∀ calls message, fresh.Becomes calls message → message.StoresLast calls) ∧
      ∀ calls others message other, fresh.Becomes calls message → fresh.Becomes others other →
        ((∀ name, (lastCall? calls name).map Prod.snd = (lastCall? others name).map Prod.snd) →
            Canonical.stringToSign message = Canonical.stringToSign other) ∧
          (calls.Perm others → (calls.map fun call => Ascii.lower call.1).Nodup →
            Canonical.stringToSign message = Canonical.stringToSign other) := by
  refine ⟨fun _ _ becomes => becomes.storesLast bare, ?_⟩
  intro calls others message other becomes becomes'
  constructor
  · intro same
    refine becomes.stringToSign_eq becomes' fun name => ?_
    rw [(becomes.storesLast bare).value, (becomes'.storesLast bare).value, same]
  · intro perm distinct
    refine becomes.stringToSign_eq becomes' fun name => ?_
    rw [becomes.header?_eq bare, becomes'.header?_eq bare]
    refine HeaderFields.get?_setAll_congr .empty perm ?_
    intro first firstMember second secondMember named named'
    rw [List.inj_on_of_nodup_map distinct firstMember secondMember (named.trans named'.symm)]

/-- Two runs with other spellings and another order, of which one sets a header twice and the other
gives its entries the other way round. -/
theorem storesLast_of_becomes_spellings :
    let fresh : RequestMessage := { method := .get, resourcePath := "/queues" }
    let calls := [("X-Mns-A", "one"), ("Date", "today"), ("x-mns-a", "two")]
    let others := [("X-MNS-A", "two"), ("DATE", "today")]
    let message := { fresh with headers := .ofList calls }
    let other := { fresh with headers := .ofList others.reverse }
    fresh.Becomes calls message ∧ fresh.Becomes others other ∧ message.StoresLast calls ∧
      other.StoresLast others ∧ Canonical.stringToSign message = Canonical.stringToSign other := by
  intro fresh calls others message other
  have becomes : fresh.Becomes calls message := becomes_setAll fresh calls
  have becomes' : fresh.Becomes others other := by
    have bare : fresh.Becomes [] fresh := .untouched
    have first := Becomes.set bare "X-MNS-A" "two" _ (List.Perm.refl _)
    exact .set first "DATE" "today" (ofList others.reverse) (by decide +kernel)
  have law := @storesLast_of_becomes fresh rfl
  refine ⟨becomes, becomes', law.1 _ _ becomes, law.1 _ _ becomes', ?_⟩
  refine (law.2 _ _ _ _ becomes becomes').1 fun name => ?_
  have service : ∀ spelling ∈ ["X-Mns-A", "x-mns-a", "X-MNS-A"],
      Ascii.lower spelling = "x-mns-a" := by decide +kernel
  have date : ∀ spelling ∈ ["Date", "DATE"], Ascii.lower spelling = "date" := by decide +kernel
  simp only [List.forall_mem_cons] at service date
  simp only [calls, others, lastCall?, Ascii.sameIgnoringCase, List.filter_cons, List.filter_nil,
    service, date]
  by_cases own : "x-mns-a" = Ascii.lower name
  · rw [← own]
    rfl
  · rw [beq_false_of_ne own]
    cases "date" == Ascii.lower name <;> rfl

end RequestMessage

end SignedQueue
