import Mathlib
import SignedQueue.Markup.Document
import SignedQueue.Proofs.WrittenText
/-!
**A document that is written is read back as the tree that it was written from.** What stands within
an element is put together from texts and elements, and the reader takes it apart into the same ones
whatever the texts contain.

* `IsPlainName`: names that may stand in a tag;
* `ReadsAs`: octets that the reader takes for a text and some children of the element around them;
* `ReadsAs.written`, `ReadsAs.element`, `ReadsAs.append`, `ReadsAs.join`: how such octets are put
  together;
* `Element.parse_rooted`, `Element.parse_write`: the tree of a document with a root element, and of
  one with the fields of an entity in it;
* `Document.parse_write_texts`: this tree in terms of the names, texts and defaults.
-/

namespace SignedQueue.Markup

/-! ### Names -/

/-- A name that may stand in a tag: ASCII letters and figures. -/
def IsPlainName (name : String) : Prop :=
  ∀ character ∈ name.toList, character.isAlphanum = true

instance (name : String) : Decidable (IsPlainName name) :=
  List.decidableBAll _ _

/-- The characters that end a name, or have a meaning of their own in a tag. -/
def marks : List Char :=
  ['\t', '\n', '\r', ' ', '!', '"', '\'', '/', ':', '>', '?']

/-- An octet that is none of the marks. -/
structure InName (octet : UInt8) : Prop where
  noBlank : isBlank octet = false
  noExclamation : octet ≠ 33
  noQuotes : octet ≠ 34 ∧ octet ≠ 39
  noSlash : octet ≠ 47
  noColon : octet ≠ 58
  noBracket : octet ≠ 62
  noQuestion : octet ≠ 63

namespace IsPlainName

variable {name : String}

theorem ne_mark {octet : UInt8} (plain : IsPlainName name) (member : octet ∈ Utf8.encode name)
    (mark : Char) (special : mark ∈ marks) : octet ≠ UInt8.ofNat mark.toNat := by
  have all : marks.all (fun mark => mark.toNat < 0x80 ∧ mark.isAlphanum = false) = true := by
    decide
  simp only [List.all_eq_true, decide_eq_true_eq] at all
  obtain ⟨ascii, other⟩ := all mark special
  obtain ⟨character, characterMember, member⟩ := List.mem_flatMap.mp member
  intro same
  obtain rfl : character = mark := (Utf8.octet_eq_iff member ascii).mp same
  rw [plain character characterMember] at other
  cases other

theorem inName (plain : IsPlainName name) : ∀ octet ∈ Utf8.encode name, InName octet := by
  intro octet member
  have ne := plain.ne_mark member
  have space : octet ≠ 32 := ne ' ' (by decide)
  have tab : octet ≠ 9 := ne '\t' (by decide)
  have carriage : octet ≠ 13 := ne '\r' (by decide)
  have feed : octet ≠ 10 := ne '\n' (by decide)
  exact
    { noBlank := by simp [isBlank, space, tab, carriage, feed]
      noExclamation := ne '!' (by decide)
      noQuotes := ⟨ne '"' (by decide), ne '\'' (by decide)⟩
      noSlash := ne '/' (by decide)
      noColon := ne ':' (by decide)
      noBracket := ne '>' (by decide)
      noQuestion := ne '?' (by decide) }

end IsPlainName

/-! ### Tags

The octets 60 and 62 are the brackets around a tag, 47 is the slash, 34 and 39 are the quotes; 33
and 63 begin declarations and instructions. -/

/-- Octets that end no tag and change no quotes are passed over. -/
theorem cutTag_append {quote : Option UInt8} {passed rest : Octets}
    (plain : ∀ octet ∈ passed,
      match quote with
      | none => octet ≠ 62 ∧ octet ≠ 34 ∧ octet ≠ 39
      | some mark => octet ≠ mark) :
    cutTag quote (passed ++ rest) =
      (cutTag quote rest).map fun (before, after) => (passed ++ before, after) := by
  induction passed with
  | nil => simp
  | cons octet others ih =>
    rw [List.forall_mem_cons] at plain
    have later := ih plain.2
    cases quote with
    | none =>
      obtain ⟨ends, double, single⟩ := plain.1
      rw [List.cons_append, cutTag]
      simp only [if_neg ends, double, single, or_self, if_false, later, Option.map_map]
      rfl
    | some mark =>
      rw [List.cons_append, cutTag]
      simp only [if_neg plain.1, later, Option.map_map]
      rfl

/-- A quoted value ends no tag. -/
theorem cutTag_quoted {before value : Octets} (after : Octets)
    (plain : before.all (fun octet => octet ≠ 62 ∧ octet ≠ 34 ∧ octet ≠ 39) = true)
    (noQuote : 34 ∉ value) :
    cutTag none (before ++ 34 :: (value ++ 34 :: 62 :: after)) =
      some (before ++ 34 :: (value ++ [34]), after) := by
  have ended : cutTag (some 34) (34 :: 62 :: after) = some ([34], after) := rfl
  have quoted : cutTag (some 34) (value ++ 34 :: 62 :: after) = some (value ++ [34], after) := by
    have passes : ∀ octet ∈ value, octet ≠ 34 := by
      rintro octet member rfl
      exact noQuote member
    rw [cutTag_append passes, ended]
    rfl
  simp only [List.all_eq_true, decide_eq_true_eq] at plain
  rw [cutTag_append plain, cutTag, if_neg (by decide)]
  show Option.map _ (Option.map _ (cutTag (some 34) (value ++ 34 :: 62 :: after))) = _
  rw [quoted]
  rfl

/-- Which tag it is shows in the first octet; all others open an element. -/
theorem readMarkup_of_head {octets : Octets}
    (opening : ∀ first ∈ octets.head?, first ≠ 33 ∧ first ≠ 63 ∧ first ≠ 47) :
    readMarkup octets =
      match cutTag none octets with
      | some (content, after) => .ok (openingEvent content, after)
      | none => .error .unclosedTag := by
  unfold readMarkup
  split
  · exact absurd rfl (opening 33 rfl).1
  · exact absurd rfl (opening 63 rfl).2.1
  · exact absurd rfl (opening 47 rfl).2.2
  · rfl

/-- What stands in a tag that opens an element with a name: the name, and what follows it. -/
structure Opens (content : Octets) (name : String) : Prop where
  read : ∀ after, readMarkup (content ++ 62 :: after) = .ok (.start ⟨content⟩, after)
  name_eq : Tag.name ⟨content⟩ = Utf8.encode name
  localName_eq : Tag.localName ⟨content⟩ = Utf8.encode name

/-- What may stand behind the name in a tag: nothing, or what is set apart by a blank and neither
ends the tag nor closes the element. -/
structure AreAttributes (attributes : Octets) : Prop where
  blank : ∀ first ∈ attributes.head?, isBlank first = true
  noSlash : attributes.getLast? ≠ some 47
  whole : ∀ after, cutTag none (attributes ++ 62 :: after) = some (attributes, after)

theorem areAttributes_nil : AreAttributes [] where
  blank _ found := nomatch found
  noSlash found := nomatch found
  whole _ := rfl

namespace IsPlainName

variable {name : String} {attributes : Octets}

theorem cutTag_name (plain : IsPlainName name) (rest : Octets) :
    cutTag none (Utf8.encode name ++ rest) =
      (cutTag none rest).map fun (before, after) => (Utf8.encode name ++ before, after) :=
  cutTag_append fun octet member =>
    ⟨(plain.inName octet member).noBracket, (plain.inName octet member).noQuotes⟩

theorem tagName (plain : IsPlainName name) (attached : AreAttributes attributes) :
    Tag.name ⟨Utf8.encode name ++ attributes⟩ = Utf8.encode name := by
  have inside : ∀ octet ∈ Utf8.encode name, (!isBlank octet) = true := by
    intro octet member
    rw [(plain.inName octet member).noBlank]
    rfl
  have stops : attributes.takeWhile (fun octet => !isBlank octet) = [] := by
    cases attributes with
    | nil => rfl
    | cons first rest =>
      refine List.takeWhile_cons_of_neg ?_
      rw [attached.blank first rfl]
      decide
  rw [Tag.name, List.takeWhile_append_of_pos inside, stops, List.append_nil]

theorem localPart_encode (plain : IsPlainName name) :
    localPart (Utf8.encode name) = Utf8.encode name := by
  refine if_neg fun found => ?_
  rw [List.contains_iff_mem] at found
  exact (plain.inName 58 found).noColon rfl

/-- A tag with a plain name begins with none of the octets that tell other markup. -/
theorem head?_tag (plain : IsPlainName name) (attached : AreAttributes attributes)
    (after : Octets) :
    ∀ first ∈ (Utf8.encode name ++ (attributes ++ 62 :: after)).head?,
      first ≠ 33 ∧ first ≠ 63 ∧ first ≠ 47 := by
  intro first found
  rw [List.head?_append, List.head?_append, Option.mem_def, Option.or_eq_some_iff,
    Option.or_eq_some_iff] at found
  rcases found with inName | ⟨_, inAttributes | ⟨_, bracket⟩⟩
  · have letter := plain.inName first (List.mem_of_head? inName)
    exact ⟨letter.noExclamation, letter.noQuestion, letter.noSlash⟩
  · have white := attached.blank first inAttributes
    simp only [isBlank, Bool.or_eq_true, decide_eq_true_eq] at white
    rcases white with ((rfl | rfl) | rfl) | rfl <;> decide
  · cases bracket
    decide

theorem openingEvent_tag (plain : IsPlainName name) (attached : AreAttributes attributes) :
    openingEvent (Utf8.encode name ++ attributes) = .start ⟨Utf8.encode name ++ attributes⟩ := by
  refine if_neg fun last => ?_
  rw [List.getLast?_append, Option.or_eq_some_iff] at last
  rcases last with inAttributes | ⟨_, inName⟩
  · exact attached.noSlash inAttributes
  · exact (plain.inName 47 (List.mem_of_getLast? inName)).noSlash rfl

/-- A plain name opens an element, also with attributes behind it. -/
theorem opens (plain : IsPlainName name) (attached : AreAttributes attributes) :
    Opens (Utf8.encode name ++ attributes) name where
  read after := by
    rw [List.append_assoc, readMarkup_of_head (plain.head?_tag attached after), plain.cutTag_name,
      attached.whole, ← plain.openingEvent_tag attached]
    rfl
  name_eq := plain.tagName attached
  localName_eq := by rw [Tag.localName, plain.tagName attached, plain.localPart_encode]

theorem opens_self (plain : IsPlainName name) : Opens (Utf8.encode name) name := by
  have bare := plain.opens areAttributes_nil
  rwa [List.append_nil] at bare

/-- A plain name closes its element. -/
theorem readMarkup_close (plain : IsPlainName name) (after : Octets) :
    readMarkup (47 :: (Utf8.encode name ++ 62 :: after)) =
      .ok (.close (Utf8.encode name), after) := by
  have noBlanks : (Utf8.encode name).rdropWhile isBlank = Utf8.encode name := by
    rw [rdropWhile_eq_self_iff_getLast?]
    intro last found
    exact (plain.inName last (List.mem_of_getLast? found)).noBlank
  have sameName : closingName (Utf8.encode name) = Utf8.encode name := by
    rw [closingName, trimEnd]
    split_ifs
    · rfl
    · exact noBlanks
  show readClose (Utf8.encode name ++ 62 :: after) = _
  rw [readClose, plain.cutTag_name]
  show Except.ok (Event.close (closingName (Utf8.encode name ++ [])), after) = _
  rw [List.append_nil, sameName]

end IsPlainName

/-! ### Scanning -/

theorem scanFrom_markup {opened opened' : List Octets} {rest after : Octets} {event : Event}
    (read : readMarkup rest = .ok (event, after)) (kept : enclose opened event = .ok opened') :
    scanFrom opened (60 :: rest) = (scanFrom opened' after).cons event := by
  rw [scanFrom, if_pos rfl]
  split <;> simp_all

theorem scanFrom_text {raw : Octets} (opened : List Octets) (after : Octets) (filled : raw ≠ [])
    (noBracket : 60 ∉ raw) :
    scanFrom opened (raw ++ 60 :: after) = (scanFrom opened (60 :: after)).cons (.text raw) := by
  obtain ⟨octet, rest, rfl⟩ := List.exists_cons_of_ne_nil filled
  rw [List.mem_cons, not_or] at noBracket
  have passes : ∀ other ∈ rest, (other != 60) = true := by
    intro other member
    rw [bne_iff_ne]
    rintro rfl
    exact noBracket.2 member
  rw [List.cons_append, scanFrom, if_neg (Ne.symm noBracket.1),
    List.dropWhile_append_of_pos passes, List.takeWhile_append_of_pos passes]
  simp

theorem exists_encode_declaration :
    ∃ form, Utf8.encode Document.declaration = 60 :: 63 :: (form ++ [63, 62]) ∧
      63 ∉ form ∧ form.head? = some 120 := by
  refine ⟨ascii "xml version=\"1.0\" encoding=\"UTF-8\"", ?_, ?_, ?_⟩
  all_goals decide +kernel

/-- The declaration that a document begins with says nothing. -/
theorem scan_declaration (after : Octets) :
    scan (Utf8.encode Document.declaration ++ after) = (scanFrom [] after).cons .other := by
  obtain ⟨form, same, noQuestion, first⟩ := exists_encode_declaration
  have found : cut (ascii "?>") (form ++ 63 :: ([62] ++ after)) = some (form, after) := by
    rw [show ascii "?>" = [63, 62] by decide +kernel]
    exact cut_append noQuestion
  have read : readMarkup (63 :: (form ++ 63 :: ([62] ++ after))) = .ok (.other, after) := by
    show readInstruction (form ++ 63 :: ([62] ++ after)) = _
    have noBracket : (form ++ 63 :: ([62] ++ after)).head? ≠ some 62 := by
      rw [List.head?_append, first, Option.some_or]
      decide
    rw [readInstruction, if_neg noBracket, found]
  have kept : enclose [] .other = .ok [] := rfl
  rw [← scanFrom_markup read kept, scan, same, List.cons_append, List.cons_append,
    List.append_assoc]
  rfl

/-! ### What stands within an element -/

/-- Octets that are read as these events, whatever is open and whichever markup follows. -/
def ScansTo (written : Octets) (events : List Event) : Prop :=
  ∀ opened after, scanFrom opened (written ++ 60 :: after) =
    events.foldr Scan.cons (scanFrom opened (60 :: after))

/-- The events of two parts follow one another, if the second part begins with markup. -/
theorem ScansTo.append {first second : Octets} {events later : List Event}
    (scans : ScansTo first events) (scansLater : ScansTo second later)
    (bracket : ∀ octet ∈ second.head?, octet = 60) :
    ScansTo (first ++ second) (events ++ later) := by
  intro opened after
  rw [List.foldr_append, ← scansLater, List.append_assoc]
  -- what follows the first part is markup: that of the second part, or that which follows both
  cases second with
  | nil => exact scans opened after
  | cons octet rest =>
    obtain rfl := bracket octet rfl
    exact scans opened (rest ++ 60 :: after)

/-- The events of a text that is written: none if it is empty. -/
def textEvents (text : String) : List Event :=
  if text = "" then [] else [.text (Utf8.encode (Reference.escape text))]

theorem scansTo_text (text : String) :
    ScansTo (Utf8.encode (Reference.escape text)) (textEvents text) := by
  intro opened after
  unfold textEvents
  split
  · rename_i empty
    rw [empty]
    rfl
  · rename_i filled
    exact scanFrom_text opened after (mt written_eq_nil_iff.mp filled) (bracket_notMem_written text)

/-- Events that give the innermost open element a text and some children, and do nothing else. -/
def Adds (events : List Event) (text : String) (children : List Element) : Prop :=
  ∀ (innermost : Element) outer root,
    (events.filterMap Event.trimmed).foldlM Builder.step ⟨innermost :: outer, root⟩ =
      .ok ⟨.mk innermost.name (innermost.text ++ text) (innermost.children ++ children) :: outer,
        root⟩

/-- Octets that the reader takes for a text and some children of the innermost open element. -/
def ReadsAs (written : Octets) (text : String) (children : List Element) : Prop :=
  ∃ events, ScansTo written events ∧ Adds events text children

theorem ReadsAs.nil : ReadsAs [] "" [] := by
  refine ⟨[], fun _ _ => rfl, ?_⟩
  rintro ⟨name, text, children⟩ outer root
  simp only [Element.name, Element.text, Element.children, String.append_empty, List.append_nil]
  rfl

/-- What is read of two parts is put together, if the second one begins with markup. -/
theorem ReadsAs.append {first second : Octets} {text more : String}
    {children others : List Element} (firstReads : ReadsAs first text children)
    (secondReads : ReadsAs second more others) (bracket : ∀ octet ∈ second.head?, octet = 60) :
    ReadsAs (first ++ second) (text ++ more) (children ++ others) := by
  obtain ⟨events, scans, adds⟩ := firstReads
  obtain ⟨later, scansLater, addsLater⟩ := secondReads
  refine ⟨events ++ later, scans.append scansLater bracket, fun innermost outer root => ?_⟩
  rw [List.filterMap_append, List.foldlM_append, adds]
  show List.foldlM Builder.step _ _ = _
  rw [addsLater]
  simp only [Element.name, Element.text, Element.children, String.append_assoc, List.append_assoc]

theorem trimmed_written (text : String) :
    Event.trimmed (.text (Utf8.encode (Reference.escape text))) =
      if trimBlanks text = "" then none
      else some (.text (Utf8.encode (Reference.escape (trimBlanks text)))) := by
  simp only [Event.trimmed, trim_written, written_eq_nil_iff]

theorem step_written (text : String) (innermost : Element) (outer : List Element)
    (root : Option Element) :
    Builder.step ⟨innermost :: outer, root⟩ (.text (Utf8.encode (Reference.escape text))) =
      .ok ⟨innermost.addText text :: outer, root⟩ := by
  show (Element.resolvedText _).map _ = _
  rw [resolvedText_written]
  rfl

/-- A text that is written is read without the blanks around it. -/
theorem ReadsAs.written (text : String) :
    ReadsAs (Utf8.encode (Reference.escape text)) (trimBlanks text) [] := by
  by_cases empty : text = ""
  · rw [empty]
    exact ReadsAs.nil
  refine ⟨textEvents text, scansTo_text text, ?_⟩
  rintro ⟨name, before, children⟩ outer root
  rw [textEvents, if_neg empty, List.filterMap_cons, trimmed_written, List.append_nil]
  -- a text of blanks alone is no event, which is as good as an empty text
  by_cases blank : trimBlanks text = ""
  · rw [if_pos blank, blank, String.append_empty]
    rfl
  · rw [if_neg blank, List.filterMap_nil, List.foldlM_cons, step_written]
    rfl

/-! ### Elements -/

/-- An element as it is written, with what stands in its opening tag and between its tags. -/
def elementOctets (content : Octets) (name : String) (inner : Octets) : Octets :=
  60 :: (content ++ 62 :: (inner ++ 60 :: 47 :: (Utf8.encode name ++ [62])))

/-- The events of an element: its tags, and the events between them. -/
def elementEvents (content : Octets) (name : String) (events : List Event) : List Event :=
  .start ⟨content⟩ :: (events ++ [.close (Utf8.encode name)])

section Element

variable {content inner : Octets} {name text : String} {children : List Element}
  {events : List Event}

theorem ScansTo.element (scans : ScansTo inner events) (opens : Opens content name)
    (plain : IsPlainName name) (opened : List Octets) (after : Octets) :
    scanFrom opened (elementOctets content name inner ++ after) =
      (elementEvents content name events).foldr Scan.cons (scanFrom opened after) := by
  have start : enclose opened (.start ⟨content⟩) = .ok (Utf8.encode name :: opened) := by
    rw [enclose, opens.name_eq]
  have closed : scanFrom (Utf8.encode name :: opened)
      (60 :: 47 :: (Utf8.encode name ++ 62 :: after)) =
        (scanFrom opened after).cons (.close (Utf8.encode name)) :=
    scanFrom_markup (plain.readMarkup_close after) (if_pos rfl)
  have shape : elementOctets content name inner ++ after =
      60 :: (content ++ 62 :: (inner ++ 60 :: 47 :: (Utf8.encode name ++ 62 :: after))) := by
    simp [elementOctets]
  rw [shape, scanFrom_markup (opens.read _) start, scans, closed, elementEvents, List.foldr_cons,
    List.foldr_append]
  rfl

/-- For the stack, the events of an element are one element that is closed. -/
theorem Adds.element (adds : Adds events text children) (opens : Opens content name)
    (builder : Builder) :
    ((elementEvents content name events).filterMap Event.trimmed).foldlM Builder.step builder =
      builder.attach (.mk name text children) := by
  have named : Builder.elementOf ⟨content⟩ = .named name := by
    rw [Builder.elementOf, opens.localName_eq, Utf8.lossy_encode]
  have tags : (elementEvents content name events).filterMap Event.trimmed =
      .start ⟨content⟩ :: (events.filterMap Event.trimmed ++ [.close (Utf8.encode name)]) := by
    simp [elementEvents, Event.trimmed]
  rw [tags, List.foldlM_cons]
  show List.foldlM Builder.step ⟨Builder.elementOf ⟨content⟩ :: builder.opened, builder.root⟩ _ = _
  rw [named, List.foldlM_append, adds]
  show List.foldlM Builder.step _ [.close (Utf8.encode name)] = _
  rw [List.foldlM_cons]
  simp only [List.foldlM_nil, bind_pure]
  show builder.attach (.mk name ("" ++ text) ([] ++ children)) = _
  rw [String.empty_append, List.nil_append]

/-- An element is read as the only child. -/
theorem ReadsAs.element (opens : Opens content name) (plain : IsPlainName name)
    (reads : ReadsAs inner text children) :
    ReadsAs (elementOctets content name inner) "" [.mk name text children] := by
  obtain ⟨events, scans, adds⟩ := reads
  refine ⟨elementEvents content name events, fun opened after => ?_,
    fun innermost outer root => ?_⟩
  · exact scans.element opens plain opened (60 :: after)
  · rw [adds.element opens, String.append_empty]
    cases innermost
    rfl

theorem foldr_scanCons (events : List Event) :
    events.foldr Scan.cons ⟨[], none⟩ = ⟨events, none⟩ := by
  induction events with
  | nil => rfl
  | cons event rest ih =>
    rw [List.foldr_cons, ih]
    rfl

/-- The events of a document with a root element. -/
theorem ScansTo.scan_root (scans : ScansTo inner events) (opens : Opens content name)
    (plain : IsPlainName name) :
    scan (Utf8.encode Document.declaration ++ elementOctets content name inner) =
      ⟨.other :: elementEvents content name events, none⟩ := by
  have ended : scanFrom [] [] = ⟨[], none⟩ := by
    rw [scanFrom]
  rw [scan_declaration, ← List.append_nil (elementOctets content name inner),
    scans.element opens plain, ended, foldr_scanCons]
  rfl

/-- A document with a root element is read as this element. -/
theorem ReadsAs.parse_root (reads : ReadsAs inner text children) (opens : Opens content name)
    (plain : IsPlainName name) :
    Element.parse (Utf8.encode Document.declaration ++ elementOctets content name inner) =
      .ok (.mk name text children) := by
  obtain ⟨events, scans, adds⟩ := reads
  have whole := scans.scan_root opens plain
  simp only [Element.parse, whole]
  show Element.ofEvents (.other :: (elementEvents content name events).filterMap _) = _
  rw [Element.ofEvents, List.foldlM_cons]
  show (do
    let builder ← ((elementEvents content name events).filterMap Event.trimmed).foldlM
      Builder.step Builder.start
    builder.finish : Except Element.Fault Element) = _
  rw [adds.element opens]
  rfl

end Element

/-! ### Documents -/

/-- The element that a field is read back as, if it is set. -/
def Field.readElement? (field : Field) : Option Element :=
  field.value.map fun value => .mk field.name (trimBlanks value) []

theorem encode_element (tag name inner : String) :
    Utf8.encode ("<" ++ tag ++ ">" ++ inner ++ "</" ++ name ++ ">") =
      elementOctets (Utf8.encode tag) name (Utf8.encode inner) := by
  have opening : Utf8.encode "<" = [60] := by decide +kernel
  have closing : Utf8.encode "</" = [60, 47] := by decide +kernel
  have ending : Utf8.encode ">" = [62] := by decide +kernel
  simp [elementOctets, opening, closing, ending]

theorem Field.readsAs_write {field : Field} (plain : IsPlainName field.name) :
    ReadsAs (Utf8.encode field.write) "" field.readElement?.toList := by
  obtain ⟨name, value⟩ := field
  cases value with
  | none => exact ReadsAs.nil
  | some value =>
    have reads := (ReadsAs.written value).element plain.opens_self plain
    rwa [← encode_element] at reads

/-- A field that is set begins with a bracket. -/
theorem Field.head?_write (field : Field) :
    ∀ octet ∈ (Utf8.encode field.write).head?, octet = 60 := by
  obtain ⟨name, value⟩ := field
  intro octet first
  cases value with
  | none => cases first
  | some value =>
    rw [Field.write, encode_element] at first
    exact (Option.some.inj first).symm

/-- What is written piece by piece, each beginning with a bracket, is read piece by piece. -/
theorem ReadsAs.join {α : Type} {pieces : List α} {write : α → String} {read : α → List Element}
    (bracket : ∀ piece, ∀ octet ∈ (Utf8.encode (write piece)).head?, octet = 60)
    (each : ∀ piece ∈ pieces, ReadsAs (Utf8.encode (write piece)) "" (read piece)) :
    ReadsAs (Utf8.encode (String.join (pieces.map write))) "" (pieces.flatMap read) ∧
      ∀ octet ∈ (Utf8.encode (String.join (pieces.map write))).head?, octet = 60 := by
  induction pieces with
  | nil => exact ⟨ReadsAs.nil, fun _ first => nomatch first⟩
  | cons piece rest ih =>
    rw [List.forall_mem_cons] at each
    obtain ⟨reads, follows⟩ := ih each.2
    rw [List.map_cons, String.join_cons, Utf8.encode_append, List.flatMap_cons]
    refine ⟨each.1.append reads follows, fun octet first => ?_⟩
    rw [List.head?_append, Option.mem_def, Option.or_eq_some_iff] at first
    rcases first with first | ⟨_, first⟩
    · exact bracket piece octet first
    · exact follows octet first

theorem Field.readsAs_join {fields : List Field}
    (plain : ∀ field ∈ fields, IsPlainName field.name) :
    ReadsAs (Utf8.encode (String.join (fields.map Field.write))) ""
      (fields.filterMap Field.readElement?) := by
  rw [List.filterMap_eq_flatMap_toList]
  exact (ReadsAs.join Field.head?_write fun field member =>
    field.readsAs_write (plain field member)).1

/-- The tag of the root of a document shows its namespace. -/
theorem areAttributes_namespace :
    AreAttributes (Utf8.encode (" xmlns=\"" ++ Document.namespaceName ++ "\"")) := by
  have shape : Utf8.encode (" xmlns=\"" ++ Document.namespaceName ++ "\"") =
      Utf8.encode " xmlns=" ++ 34 :: (Utf8.encode Document.namespaceName ++ [34]) := by
    decide +kernel
  have noQuote : 34 ∉ Utf8.encode Document.namespaceName := by decide +kernel
  have space : (Utf8.encode " xmlns=").head? = some 32 := by decide +kernel
  rw [shape]
  refine ⟨fun first found => ?_, fun last => ?_, fun after => ?_⟩
  · rw [List.head?_append, space] at found
    cases found
    rfl
  · rw [← List.cons_append, ← List.append_assoc, List.getLast?_concat] at last
    cases last
  · rw [List.append_assoc, List.cons_append, List.append_assoc]
    exact cutTag_quoted after (by decide +kernel) noQuote

/-- What stands in the opening tag of the root of a document. -/
def rootContent (root : String) : Octets :=
  Utf8.encode root ++ Utf8.encode (" xmlns=\"" ++ Document.namespaceName ++ "\"")

theorem encode_rooted (root inner : String) :
    Utf8.encode (Document.declaration ++ "<" ++ root ++ " xmlns=\"" ++ Document.namespaceName ++
      "\">" ++ inner ++ "</" ++ root ++ ">") =
      Utf8.encode Document.declaration ++
        elementOctets (rootContent root) root (Utf8.encode inner) := by
  have shape : Document.declaration ++ "<" ++ root ++ " xmlns=\"" ++ Document.namespaceName ++
      "\">" ++ inner ++ "</" ++ root ++ ">" =
      Document.declaration ++ ("<" ++ (root ++ (" xmlns=\"" ++ Document.namespaceName ++ "\"")) ++
        ">" ++ inner ++ "</" ++ root ++ ">") := by
    have quoted : "\">" = "\"" ++ ">" := by decide +kernel
    rw [quoted]
    simp only [String.append_assoc]
  rw [shape, Utf8.encode_append, encode_element, Utf8.encode_append root, rootContent]

/-- What stands in the root element of a document is read as its text and children. -/
theorem Element.parse_rooted {root inner text : String} {children : List Element}
    (plainRoot : IsPlainName root) (reads : ReadsAs (Utf8.encode inner) text children) :
    Element.parse (Utf8.encode (Document.declaration ++ "<" ++ root ++ " xmlns=\"" ++
      Document.namespaceName ++ "\">" ++ inner ++ "</" ++ root ++ ">")) =
      .ok (.mk root text children) := by
  rw [encode_rooted]
  exact reads.parse_root (plainRoot.opens areAttributes_namespace) plainRoot

/-- A document that is written is read as its root with one child for each field that is set, in
order, each with its text less the blanks around it. -/
theorem Element.parse_write {root : String} {fields : List Field} (plainRoot : IsPlainName root)
    (plain : ∀ field ∈ fields, IsPlainName field.name) :
    Element.parse (Utf8.encode (Document.write root fields)) =
      .ok (.mk root "" (fields.filterMap Field.readElement?)) :=
  Element.parse_rooted plainRoot (Field.readsAs_join plain)

/-- **No text of a document is taken for markup.** Whatever the texts and defaults contain, the tree
has the root that was given and, in order, one childless element for each field that has a text. -/
theorem Document.parse_write_texts {root : String} (plainRoot : IsPlainName root)
    (calls : List (String × Option String × Option String))
    (plain : ∀ call ∈ calls, IsPlainName call.1) :
    Element.parse (Utf8.encode (Document.write root
        (calls.map fun (name, value, default) => Field.text name value default))) =
      .ok (.mk root "" (calls.filterMap fun (name, value, default) =>
        (value.or default).map fun text => .mk name (trimBlanks text) [])) := by
  have plainFields : ∀ field ∈ calls.map fun (name, value, default) =>
      Field.text name value default, IsPlainName field.name := by
    intro field member
    obtain ⟨call, callMember, rfl⟩ := List.mem_map.mp member
    exact plain call callMember
  rw [Element.parse_write plainRoot plainFields, List.filterMap_map]
  rfl

theorem Document.parse_write_texts_hostile :
    Element.parse (Utf8.encode (Document.write "Message"
        [ .text "MessageBody" (some "]]></MessageBody><Priority a='\x3e'>1&lt;<!-- ") none,
          .text "DelaySeconds" none none,
          .text "Priority" none (some "\t8\n") ])) =
      .ok (.mk "Message" ""
        [ .mk "MessageBody" "]]></MessageBody><Priority a='\x3e'>1&lt;<!--" [],
          .mk "Priority" "8" [] ]) := by
  refine (Document.parse_write_texts (by decide)
    [ ("MessageBody", some "]]></MessageBody><Priority a='\x3e'>1&lt;<!-- ", none),
      ("DelaySeconds", none, none), ("Priority", none, some "\t8\n") ] (by decide)).trans ?_
  rfl

end SignedQueue.Markup
