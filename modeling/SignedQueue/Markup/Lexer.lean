import SignedQueue.Text.Cut
import SignedQueue.Markup.Event
/-!
**A document as a sequence of events.** The reader goes from angle bracket to angle bracket. It
checks that every closing tag names the innermost open element, and stops at the first fault.

* `Markup.readMarkup`: the markup that follows a `<`, and what comes after it;
* `Markup.scan`: all events of a document, and the fault that ended them, if any.
-/

namespace SignedQueue.Markup

/-! ### Cutting at the end of a markup -/

/-- What stands before and after the first `>` that closes no bracket opened in between; `depth`
brackets are open. -/
def cutBalanced (depth : Nat) : Octets → Option (Octets × Octets)
  | [] => none
  | octet :: rest =>
    if octet = 62 then
      match depth with
      | 0 => some ([], rest)
      | depth + 1 => (cutBalanced depth rest).map fun (before, after) => (octet :: before, after)
    else
      let depth := if octet = 60 then depth + 1 else depth
      (cutBalanced depth rest).map fun (before, after) => (octet :: before, after)

/-- What stands before and after the first `>` outside quotes; `quote` is the quote that is open. -/
def cutTag (quote : Option UInt8) : Octets → Option (Octets × Octets)
  | [] => none
  | octet :: rest =>
    match quote with
    | none =>
      if octet = 62 then some ([], rest)
      else
        let quote := if octet = 34 ∨ octet = 39 then some octet else none
        (cutTag quote rest).map fun (before, after) => (octet :: before, after)
    | some mark =>
      let quote := if octet = mark then none else some mark
      (cutTag quote rest).map fun (before, after) => (octet :: before, after)

theorem cutBalanced_length {depth : Nat} {octets before after : Octets}
    (found : cutBalanced depth octets = some (before, after)) : after.length ≤ octets.length := by
  induction octets generalizing depth before with
  | nil => simp [cutBalanced] at found
  | cons octet rest ih =>
    simp only [cutBalanced] at found
    repeat' split at found
    · injection found with same
      injection same with _ same
      subst same
      simp
    all_goals
      simp only [Option.map_eq_some_iff, Prod.mk.injEq, Prod.exists] at found
      obtain ⟨_, _, inner, _, rfl⟩ := found
      exact Nat.le_succ_of_le (ih inner)

theorem cutTag_length {quote : Option UInt8} {octets before after : Octets}
    (found : cutTag quote octets = some (before, after)) : after.length ≤ octets.length := by
  induction octets generalizing quote before with
  | nil => simp [cutTag] at found
  | cons octet rest ih =>
    simp only [cutTag] at found
    repeat' split at found
    · injection found with same
      injection same with _ same
      subst same
      simp
    all_goals
      simp only [Option.map_eq_some_iff, Prod.mk.injEq, Prod.exists] at found
      obtain ⟨_, _, inner, _, rfl⟩ := found
      exact Nat.le_succ_of_le (ih inner)

/-! ### The markup after an opening bracket -/

/-- The octets of a text in ASCII. -/
def ascii (text : String) : Octets :=
  text.toList.map fun character => UInt8.ofNat character.toNat

/-- An ASCII capital in lower case; any other octet is itself. -/
def lowerOctet (octet : UInt8) : UInt8 :=
  if 65 ≤ octet ∧ octet ≤ 90 then octet + 32 else octet

/-- What follows `mark`, if the octets begin with it in any case. -/
def afterMark (mark octets : Octets) : Option Octets :=
  if (octets.take mark.length).map lowerOctet = mark.map lowerOctet then
    some (octets.drop mark.length)
  else none

/-- What begins with `<!`: a text taken as it stands, a comment or a declaration of the document's
type. The first octet decides what it has to be. -/
def readDeclaration : Octets → Except Fault (Event × Octets)
  | 91 :: rest =>
    if (ascii "CDATA[").isPrefixOf rest then
      match cut (ascii "]]>") (rest.drop 6) with
      | some (raw, after) => .ok (.cdata raw, after)
      | none => .error .unclosedCdata
    else .error .unclosedCdata
  | 45 :: rest =>
    if (ascii "-").isPrefixOf rest then
      match cut (ascii "-->") (rest.drop 1) with
      | some (_, after) => .ok (.other, after)
      | none => .error .unclosedComment
    else .error .unclosedComment
  | octet :: rest =>
    if lowerOctet octet = 100 then
      match afterMark (ascii "OCTYPE") rest with
      | some rest =>
        match cutBalanced 0 rest with
        | some (content, after) =>
          if content.all isBlank then .error .namelessDoctype else .ok (.doctype, after)
        | none => .error .unclosedDoctype
      | none => .error .unclosedDoctype
    else .error .unknownMarkup
  | [] => .error .unknownMarkup

/-- What begins with `<?` ends with `?>`, and its two question marks are different ones. -/
def readInstruction (octets : Octets) : Except Fault (Event × Octets) :=
  if octets.head? = some 62 then .error .unclosedInstruction
  else
    match cut (ascii "?>") octets with
    | some (_, after) => .ok (.other, after)
    | none => .error .unclosedInstruction

/-- The name in a closing tag, which may be followed by blanks; blanks alone are a name. -/
def closingName (content : Octets) : Octets :=
  if content.all isBlank then content else trimEnd content

/-- What begins with `</`. -/
def readClose (octets : Octets) : Except Fault (Event × Octets) :=
  match cutTag none octets with
  | some (content, after) => .ok (.close (closingName content), after)
  | none => .error .unclosedTag

/-- A tag that opens an element, or one that ends with a slash and has no content. -/
def openingEvent (content : Octets) : Event :=
  if content.getLast? = some 47 then .empty ⟨content.dropLast⟩ else .start ⟨content⟩

/-- The markup that follows a `<`, and what comes after it. -/
def readMarkup : Octets → Except Fault (Event × Octets)
  | 33 :: rest => readDeclaration rest
  | 63 :: rest => readInstruction rest
  | 47 :: rest => readClose rest
  | octets =>
    match cutTag none octets with
    | some (content, after) => .ok (openingEvent content, after)
    | none => .error .unclosedTag

theorem readDeclaration_length {octets after : Octets} {event : Event}
    (read : readDeclaration octets = .ok (event, after)) : after.length ≤ octets.length := by
  unfold readDeclaration at read
  repeat' split at read
  all_goals try (simp at read; done)
  · rename_i rest _ raw found
    have shorter := cut_length (by assumption)
    simp only [Except.ok.injEq, Prod.mk.injEq] at read
    obtain ⟨_, rfl⟩ := read
    simp only [List.length_drop, List.length_cons] at *
    omega
  · have shorter := cut_length (by assumption)
    simp only [Except.ok.injEq, Prod.mk.injEq] at read
    obtain ⟨_, rfl⟩ := read
    simp only [List.length_drop, List.length_cons] at *
    omega
  · rename_i marked _ _ _ _ _
    have shorter := cutBalanced_length (by assumption)
    simp only [Except.ok.injEq, Prod.mk.injEq] at read
    obtain ⟨_, rfl⟩ := read
    unfold afterMark at *
    split at marked
    · injection marked with same
      subst same
      simp only [List.length_drop, List.length_cons] at *
      omega
    · simp at marked

theorem readMarkup_length {octets after : Octets} {event : Event}
    (read : readMarkup octets = .ok (event, after)) : after.length ≤ octets.length := by
  unfold readMarkup at read
  split at read
  · exact Nat.le_succ_of_le (readDeclaration_length read)
  · unfold readInstruction at read
    repeat' split at read
    · simp at read
    · have shorter := cut_length (by assumption)
      simp only [Except.ok.injEq, Prod.mk.injEq] at read
      obtain ⟨_, rfl⟩ := read
      exact Nat.le_succ_of_le shorter
    · simp at read
  · unfold readClose at read
    split at read
    · have shorter := cutTag_length (by assumption)
      simp only [Except.ok.injEq, Prod.mk.injEq] at read
      obtain ⟨_, rfl⟩ := read
      exact Nat.le_succ_of_le shorter
    · simp at read
  · split at read
    · have shorter := cutTag_length (by assumption)
      simp only [Except.ok.injEq, Prod.mk.injEq] at read
      obtain ⟨_, rfl⟩ := read
      exact shorter
    · simp at read

/-! ### The events of a document -/

/-- The names of the open elements after an event, innermost first. A closing tag has to name the
innermost one. -/
def enclose (opened : List Octets) : Event → Except Fault (List Octets)
  | .start tag => .ok (tag.name :: opened)
  | .close name =>
    match opened with
    | [] => .error (.unmatchedClose name)
    | innermost :: outer =>
      if name = innermost then .ok outer else .error (.mismatchedClose innermost name)
  | _ => .ok opened

/-- The events of a document, and the fault that ended them. -/
structure Scan where
  events : List Event
  fault : Option Fault
  deriving Repr, DecidableEq

/-- A sequence of events with one more at its head. -/
def Scan.cons (event : Event) (scan : Scan) : Scan :=
  { scan with events := event :: scan.events }

/-- The events of the octets that follow when `opened` are the names of the open elements. -/
def scanFrom (opened : List Octets) (octets : Octets) : Scan :=
  match octets with
  | [] => ⟨[], none⟩
  | octet :: rest =>
    if octet = 60 then
      match read : readMarkup rest with
      | .error fault => ⟨[], some fault⟩
      | .ok (event, after) =>
        match enclose opened event with
        | .error fault => ⟨[], some fault⟩
        | .ok opened =>
          have := readMarkup_length read
          (scanFrom opened after).cons event
    else
      have := (List.dropWhile_suffix (· != 60) (l := rest)).length_le
      (scanFrom opened (rest.dropWhile (· != 60))).cons (.text (octet :: rest.takeWhile (· != 60)))
termination_by octets.length

/-- Octets without the mark of their encoding, which may stand before a document. -/
def withoutByteOrderMark (octets : Octets) : Octets :=
  if [0xEF, 0xBB, 0xBF].isPrefixOf octets then octets.drop 3 else octets

/-- All events of a document. -/
def scan (document : Octets) : Scan :=
  scanFrom [] (withoutByteOrderMark document)

end SignedQueue.Markup
