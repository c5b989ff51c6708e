import Mathlib
import SignedQueue.Proofs.EnvelopeReader
import SignedQueue.Proofs.WrittenTree
/-!
**A written envelope is read as what its fields say.** The reader of an envelope goes from place to
place. Through a field it comes back to the root with the text of this field, and through any other
child with nothing, whatever stands in it.

* `itemsOf`, `contentItems`: a tree and the content of a root as the reader meets them;
* `Leads`: items that take the reader from one place to another;
* `leads_field`, `leads_unknown`: a field, and a child that is passed over;
* `LaysOut`: children of a root that say the texts of some fields;
* `Notice`: what an envelope says;
* `decode_document`: an envelope is read from a document whose children say it.
-/

namespace SignedQueue.Envelope

open Markup

/-! ### The items of a tree -/

/-- The items of a text that is written: none if it is empty. -/
def textItems (text : String) : List Item :=
  if text = "" then [] else [.text [.plain (Utf8.encode (Reference.escape text))]]

mutual

/-- The items of a written element. -/
def itemsOf : Element → List Item
  | .mk name text children =>
    .opening ⟨Utf8.encode name⟩ :: (textItems text ++ (itemsAmong children ++ [.closing]))

/-- The items of some written elements. -/
def itemsAmong : List Element → List Item
  | [] => []
  | element :: rest => itemsOf element ++ itemsAmong rest

end

/-- The items of written content. -/
def contentItems (content : Content) : List Item :=
  content.parts.foldr (fun part rest => textItems part.1 ++ (itemsOf part.2 ++ rest))
    (textItems content.ending)

/-- Whether an event ends the text before it. -/
def endsText : Event → Bool
  | .text _ | .cdata _ | .other => false
  | _ => true

/-- A text before an event that ends it is an item of its own. -/
theorem ofEventsAfter_of_head {pieces : List Piece} {events : List Event}
    (ends : ∀ event ∈ events.head?, endsText event = true) :
    Item.ofEventsAfter pieces events = Item.ofPieces pieces ++ Item.ofEventsAfter [] events := by
  cases events with
  | nil =>
    rw [Item.ofEventsAfter, Item.ofEventsAfter]
    exact (List.append_nil _).symm
  | cons event rest =>
    have ended := ends event rfl
    cases event with
    | start tag => rfl
    | empty tag => rfl
    | close name => rfl
    | text raw => cases ended
    | cdata raw => cases ended
    | doctype => rfl
    | other => cases ended

theorem ofEventsAfter_text (text : String) {events : List Event}
    (ends : ∀ event ∈ events.head?, endsText event = true) :
    Item.ofEventsAfter [] (textEvents text ++ events) =
      textItems text ++ Item.ofEventsAfter [] events := by
  unfold textEvents textItems
  split
  · rfl
  · exact ofEventsAfter_of_head ends

theorem endsText_head?_eventsAll (name : Octets) (rest : List Event) :
    ∀ elements : List Element,
      ∀ event ∈ (Element.eventsAll elements ++ .close name :: rest).head?, endsText event = true
  | [], event, first => by
    obtain rfl := Option.some.inj first
    rfl
  | .mk _ _ _ :: _, event, first => by
    obtain rfl := Option.some.inj first
    rfl

mutual

theorem ofEventsAfter_events (rest : List Event) : ∀ element : Element,
    Item.ofEventsAfter [] (element.events ++ rest) =
      itemsOf element ++ Item.ofEventsAfter [] rest
  | .mk name text children => by
    have inner := ofEventsAfter_eventsAll (.close (Utf8.encode name) :: rest) children
    have whole :=
      ofEventsAfter_text text (endsText_head?_eventsAll (Utf8.encode name) rest children)
    rw [inner] at whole
    simp only [Element.events, elementEvents, itemsOf, List.cons_append, List.append_assoc,
      List.nil_append]
    show Item.opening _ :: Item.ofEventsAfter [] _ = _
    rw [whole]
    rfl

theorem ofEventsAfter_eventsAll (rest : List Event) : ∀ elements : List Element,
    Item.ofEventsAfter [] (Element.eventsAll elements ++ rest) =
      itemsAmong elements ++ Item.ofEventsAfter [] rest
  | [] => rfl
  | element :: others => by
    rw [Element.eventsAll, itemsAmong, List.append_assoc, List.append_assoc,
      ofEventsAfter_events _ element, ofEventsAfter_eventsAll rest others]

end

theorem ofEventsAfter_content (content : Content) (name : Octets) (rest : List Event) :
    Item.ofEventsAfter [] (content.events ++ .close name :: rest) =
      contentItems content ++ .closing :: Item.ofEventsAfter [] rest := by
  obtain ⟨parts, ending⟩ := content
  have ends (child : Element) (others : List Event) :
      ∀ event ∈ (child.events ++ others).head?, endsText event = true := by
    obtain ⟨name, said, children⟩ := child
    intro event first
    obtain rfl := Option.some.inj first
    rfl
  induction parts with
  | nil =>
    show Item.ofEventsAfter [] (textEvents ending ++ .close name :: rest) =
      textItems ending ++ Item.ofEventsAfter [] (.close name :: rest)
    refine ofEventsAfter_text ending fun event first => ?_
    obtain rfl := Option.some.inj first
    rfl
  | cons part others ih =>
    obtain ⟨text, child⟩ := part
    show Item.ofEventsAfter [] (textEvents text ++
      (child.events ++ Content.events ⟨others, ending⟩) ++ .close name :: rest) =
      textItems text ++ (itemsOf child ++ contentItems ⟨others, ending⟩) ++ _
    simp only [List.append_assoc]
    rw [ofEventsAfter_text text (ends child _), ofEventsAfter_events, ih]

/-! ### From place to place -/

/-- Items that take a reader from one place to another, whatever prefixes are in force. -/
def Leads (items : List Item) (place next : Place) : Prop :=
  ∀ scopes trimming, ∃ scopes' trimming',
    items.foldlM Reader.step ⟨place, scopes, trimming⟩ = .ok ⟨next, scopes', trimming'⟩

namespace Leads

variable {items more : List Item} {place next last : Place}

theorem nil : Leads [] place place :=
  fun scopes trimming => ⟨scopes, trimming, rfl⟩

theorem append (first : Leads items place next) (rest : Leads more next last) :
    Leads (items ++ more) place last := by
  intro scopes trimming
  obtain ⟨scopes, trimming, reached⟩ := first scopes trimming
  obtain ⟨scopes, trimming, ends⟩ := rest scopes trimming
  refine ⟨scopes, trimming, ?_⟩
  rw [List.foldlM_append, reached]
  exact ends

theorem cons {item : Item} (first : Leads [item] place next) (rest : Leads more next last) :
    Leads (item :: more) place last :=
  first.append rest

theorem step {item : Item}
    (steps : ∀ scopes trimming, ∃ scopes' trimming',
      Reader.step ⟨place, scopes, trimming⟩ item = .ok ⟨next, scopes', trimming'⟩) :
    Leads [item] place next := by
  intro scopes trimming
  obtain ⟨scopes', trimming', moves⟩ := steps scopes trimming
  exact ⟨scopes', trimming', by rw [List.foldlM_cons, moves]; rfl⟩

end Leads

/-! ### Plain tags and written texts -/

section Written

variable {name text : String}

/-- A tag with nothing but a plain name has no attributes. -/
theorem attributes_plain (plain : IsPlainName name) (unique : Bool) :
    attributes unique ⟨Utf8.encode name⟩ = [] := by
  rw [attributes, plain.opens_self.name_eq, List.drop_length, attributesFrom]
  rfl

theorem ofTag_plain (plain : IsPlainName name) :
    Binding.ofTag ⟨Utf8.encode name⟩ = .ok [] := by
  rw [Binding.ofTag, attributes_plain plain]
  rfl

theorem isNil_plain (plain : IsPlainName name) (scopes : Scopes) :
    Tag.isNil ⟨Utf8.encode name⟩ scopes = false := by
  rw [Tag.isNil, attributes_plain plain]
  rfl

theorem meanings_written (text : String) :
    Piece.meanings [.plain (Utf8.encode (Reference.escape text))] = .ok text := by
  have characters : Utf8.lossyChars (Utf8.encode (Reference.escape text)) =
      (Reference.escape text).toList := Utf8.lossyChars_flatMap _
  have meant : [Piece.plain (Utf8.encode (Reference.escape text))].mapM Piece.meaning =
      .ok [text.toList] := by
    rw [List.mapM_cons, Piece.meaning, characters, Reference.resolve_escape]
    rfl
  rw [Piece.meanings, meant]
  show Except.ok (String.ofList (text.toList ++ [])) = _
  rw [List.append_nil, String.ofList_toList]

/-- Of a text that is written blanks are left out at its ends, and a text is left or nothing. -/
theorem trimmed_written (trimming : Bool) (text : String) :
    Piece.trimmed trimming [.plain (Utf8.encode (Reference.escape text))] = [] ∨
      ∃ said, Piece.trimmed trimming [.plain (Utf8.encode (Reference.escape text))] =
        [.plain (Utf8.encode (Reference.escape said))] := by
  cases trimming with
  | true =>
    by_cases blank : Markup.trimStart (Utf8.encode (Reference.escape text)) = []
    · refine .inl ?_
      rw [Piece.trimmed, if_pos rfl, Piece.trimStart, if_pos blank]
      rfl
    · refine .inr ⟨trimBlanks text, ?_⟩
      rw [Piece.trimmed, if_pos rfl, Piece.trimStart, if_neg blank, ← trim_written]
      rfl
  | false =>
    have agree : ∀ character, ∀ octet ∈ writtenChar character,
        isBlank octet = isBlankChar character := fun _ _ member => (mem_writtenChar member).2
    refine .inr ⟨String.ofList (text.toList.rdropWhile isBlankChar), ?_⟩
    rw [encode_escape, encode_escape, String.toList_ofList,
      ← rdropWhile_flatMap writtenChar_ne_nil agree]
    rfl

/-- A text without blanks around it is left as it is. -/
theorem trimmed_unpadded (unpadded : Unpadded text) (filled : text ≠ "") :
    Piece.trimmed true [.plain (Utf8.encode (Reference.escape text))] =
      [.plain (Utf8.encode (Reference.escape text))] := by
  have same : trim (Utf8.encode (Reference.escape text)) = Utf8.encode (Reference.escape text) := by
    rw [trim_written, trimBlanks_eq_self_iff.mpr unpadded]
  have kept : Markup.trimStart (Utf8.encode (Reference.escape text)) ≠ [] := by
    intro blank
    rw [trim, blank] at same
    exact filled (written_eq_nil_iff.mp same.symm)
  rw [Piece.trimmed, if_pos rfl, Piece.trimStart, if_neg kept]
  exact congrArg (fun raw => [Piece.plain raw]) same

end Written

/-! ### Steps on written items -/

section Steps

variable {name : String} {place next last : Place} {items : List Item} {root : Root}

/-- A tag with a plain name binds nothing, and does what it does at this place. -/
theorem step_opening (plain : IsPlainName name) (reading : place.isReading = true)
    (settled : ∀ scopes, place.settle scopes = place)
    (opens : place.openTag ⟨Utf8.encode name⟩ = .ok next) (scopes : Scopes) (trimming : Bool) :
    Reader.step ⟨place, scopes, trimming⟩ (.opening ⟨Utf8.encode name⟩) =
      .ok ⟨next, [] :: scopes, true⟩ := by
  rw [Reader.step, if_pos reading, Reader.read, ofTag_plain plain]
  show (((place.settle ([] :: scopes)).openTag ⟨Utf8.encode name⟩) >>= fun place =>
    (Except.ok (⟨place, [] :: scopes, true⟩ : Reader) : Except Fault Reader)) = _
  rw [settled, opens]
  rfl

theorem leads_opening (plain : IsPlainName name) (reading : place.isReading = true)
    (settled : ∀ scopes, place.settle scopes = place)
    (opens : place.openTag ⟨Utf8.encode name⟩ = .ok next) :
    Leads [.opening ⟨Utf8.encode name⟩] place next :=
  .step fun scopes trimming => ⟨_, _, step_opening plain reading settled opens scopes trimming⟩

theorem leads_closing (reading : place.isReading = true)
    (settled : ∀ scopes, place.settle scopes = place) (closes : place.closeTag = .ok next) :
    Leads [.closing] place next := by
  refine .step fun scopes trimming => ⟨scopes.tail, true, ?_⟩
  rw [Reader.step, if_pos reading, Reader.read]
  show ((place.settle scopes).closeTag >>= fun place =>
    (Except.ok (⟨place, scopes.tail, true⟩ : Reader) : Except Fault Reader)) = _
  rw [settled, closes]
  rfl

/-- A written text is read, if anything is left of it without the blanks around it. -/
theorem leads_text {text : String} (reading : place.isReading = true)
    (settled : ∀ scopes, place.settle scopes = place) (stays : Leads items place last)
    (takes : ∀ said, ∃ next, place.takeText (.ok said) = .ok next ∧ Leads items next last) :
    Leads (textItems text ++ items) place last := by
  unfold textItems
  split
  · exact stays
  intro scopes trimming
  have steps : Reader.step ⟨place, scopes, trimming⟩
      (.text [.plain (Utf8.encode (Reference.escape text))]) =
      Reader.read ⟨place, scopes, trimming⟩
        (.text [.plain (Utf8.encode (Reference.escape text))]) := if_pos reading
  rw [List.singleton_append, List.foldlM_cons, steps, Reader.read]
  rcases trimmed_written trimming text with blank | ⟨said, left⟩
  · simp only [blank]
    exact stays scopes trimming
  · obtain ⟨next, taken, rest⟩ := takes said
    simp only [left, meanings_written, settled, taken]
    exact rest scopes false

/-! ### What is passed over -/

/-- What is passed over: a tag counts, a text does not. -/
theorem leads_passing_text (root : Root) (name : Octets) (depth : Nat) (outer : Option Octets)
    (text : String) :
    Leads (textItems text) (.passing root name depth outer) (.passing root name depth outer) := by
  unfold textItems
  split
  · exact .nil
  · exact .step fun scopes trimming => ⟨scopes, trimming, rfl⟩

mutual

/-- Where everything is passed over, a tree leaves the reader where it was. -/
theorem leads_passing (root : Root) (name : Octets) (outer : Option Octets) :
    ∀ (element : Element) (depth : Nat),
      Leads (itemsOf element) (.passing root name depth outer) (.passing root name depth outer)
  | .mk tag text children, depth => by
    have opens : Leads [.opening ⟨Utf8.encode tag⟩] (.passing root name depth outer)
        (.passing root name (depth + 1) outer) :=
      .step fun scopes trimming => ⟨scopes, trimming, rfl⟩
    have closes : Leads [.closing] (.passing root name (depth + 1) outer)
        (.passing root name depth outer) :=
      .step fun scopes trimming => ⟨scopes, trimming, rfl⟩
    have inner := leads_passing_among root name outer children (depth + 1)
    exact opens.cons ((leads_passing_text root name (depth + 1) outer text).append
      (inner.append closes))

theorem leads_passing_among (root : Root) (name : Octets) (outer : Option Octets) :
    ∀ (elements : List Element) (depth : Nat),
      Leads (itemsAmong elements) (.passing root name depth outer)
        (.passing root name depth outer)
  | [], _ => .nil
  | element :: rest, depth =>
    (leads_passing root name outer element depth).append
      (leads_passing_among root name outer rest depth)

end

theorem leads_passing_end (root : Root) (name : Octets) (outer : Option Octets)
    (elements : List Element) :
    Leads (itemsAmong elements ++ [.closing]) (.passing root name 0 outer)
      (Place.leave root outer) :=
  (leads_passing_among root name outer elements 0).append
    (.step fun scopes trimming => ⟨scopes, trimming, rfl⟩)

/-- The rest of an element of which no more than the next item is looked at. -/
theorem leads_peeking (root : Root) (tag : Octets) (outer : Option Octets) (text : String)
    {elements : List Element} (plain : ∀ element ∈ elements, element.IsPlain) :
    Leads (textItems text ++ (itemsAmong elements ++ [.closing])) (.peeking root tag outer)
      (Place.leave root outer) := by
  refine leads_text rfl (fun _ => rfl) ?_ fun said =>
    ⟨_, rfl, leads_passing_end root tag outer elements⟩
  cases elements with
  | nil => exact leads_closing rfl (fun _ => rfl) rfl
  | cons element rest =>
    obtain ⟨name, said, children⟩ := element
    have plainName := (Element.isPlain_mk.mp (plain _ List.mem_cons_self)).1
    have opens : Leads [.opening ⟨Utf8.encode name⟩] (.peeking root tag outer)
        (.passing root tag 1 outer) := leads_opening plainName rfl (fun _ => rfl) rfl
    have closes : Leads [.closing] (.passing root tag 1 outer) (.passing root tag 0 outer) :=
      .step fun scopes trimming => ⟨scopes, trimming, rfl⟩
    have first := opens.cons ((leads_passing_text root tag 1 outer said).append
      ((leads_passing_among root tag outer children 1).append closes))
    rw [itemsAmong, List.append_assoc]
    exact first.append (leads_passing_end root tag outer rest)

/-- A child of the root that is no field is passed over, whatever stands in it. -/
theorem leads_unknown (root : Root) {child : Element} (plain : child.IsPlain)
    (unknown : FieldName.ofLabel? (Utf8.encode child.name) = none) :
    Leads (itemsOf child) (.within root) (.within root) := by
  obtain ⟨name, text, children⟩ := child
  obtain ⟨plainName, plainChildren⟩ := Element.isPlain_mk.mp plain
  have unknown : FieldName.ofLabel? (Utf8.encode name) = none := unknown
  have opens : Place.openTag ⟨Utf8.encode name⟩ (.within root) =
      .ok (.entering root (Utf8.encode name)) := by
    show Place.openChild root _ = _
    rw [Place.openChild, plainName.opens_self.localName_eq, unknown, plainName.opens_self.name_eq]
  refine (leads_opening plainName rfl (fun _ => rfl) opens).cons ?_
  refine leads_text rfl (fun _ => rfl) ?_ fun said =>
    ⟨_, rfl, leads_peeking root _ none "" plainChildren⟩
  cases children with
  | nil => exact leads_closing rfl (fun _ => rfl) rfl
  | cons element rest =>
    obtain ⟨inner, said, grandchildren⟩ := element
    obtain ⟨plainFirst, plainRest⟩ := List.forall_mem_cons.mp plainChildren
    obtain ⟨plainInner, plainGrandchildren⟩ := Element.isPlain_mk.mp plainFirst
    have opens : Leads [.opening ⟨Utf8.encode inner⟩] (.entering root (Utf8.encode name))
        (.peeking root (Utf8.encode inner) (some (Utf8.encode name))) := by
      refine leads_opening plainInner rfl (fun _ => rfl) ?_
      show Except.ok (Place.peeking root (Tag.name _) _) = _
      rw [plainInner.opens_self.name_eq]
    have first := opens.cons
      (leads_peeking root (Utf8.encode inner) (some (Utf8.encode name)) said plainGrandchildren)
    rw [itemsAmong, List.append_assoc]
    exact first.append (leads_peeking root _ none "" plainRest)

/-! ### Fields -/

theorem isPlainName_label (field : FieldName) : IsPlainName field.label := by
  cases field <;> decide

theorem ofLabel?_label (field : FieldName) :
    FieldName.ofLabel? (Utf8.encode field.label) = some field := by
  cases field <;> decide +kernel

/-- The tag of a field that has not been read opens this field. Whether it has a value is not in
question, as neither its tag nor the root's has a mark. -/
theorem openChild_label {field : FieldName} (fresh : root.fields.lookup field = none)
    (valued : ∀ scopes, root.tag.isNil scopes = false) :
    ∃ place, Place.openChild root ⟨Utf8.encode field.label⟩ = .ok place ∧
      place.isReading = true ∧
        ∀ scopes, place.settle scopes = .inField root field (Utf8.encode field.label) none := by
  have plain := isPlainName_label field
  have named := plain.opens_self.name_eq
  rw [Place.openChild, plain.opens_self.localName_eq, ofLabel?_label]
  simp only [fresh, Option.isSome_none, Bool.false_eq_true, if_false]
  split
  · refine ⟨_, rfl, rfl, fun scopes => ?_⟩
    rw [Place.settle, valued, isNil_plain plain, named]
    rfl
  · exact ⟨_, rfl, rfl, fun scopes => by rw [named]; rfl⟩

/-- A field gives its text. -/
theorem leads_field (root : Root) {field : FieldName} {text : String} (unpadded : Unpadded text)
    (fresh : root.fields.lookup field = none) (valued : ∀ scopes, root.tag.isNil scopes = false) :
    Leads (itemsOf (.mk field.label text [])) (.within root)
      (.within { root with fields := (field, some text) :: root.fields }) := by
  intro scopes trimming
  obtain ⟨place, opens, reading, settled⟩ := openChild_label fresh valued
  replace opens : Place.openTag ⟨Utf8.encode field.label⟩ (.within root) = .ok place := opens
  have opening :=
    step_opening (isPlainName_label field) rfl (fun _ => rfl) opens scopes trimming
  refine ⟨scopes, true, ?_⟩
  rw [itemsOf, List.foldlM_cons, opening]
  show List.foldlM Reader.step ⟨place, [] :: scopes, true⟩ (textItems text ++ [.closing]) = _
  unfold textItems
  split
  · rename_i empty
    rw [List.nil_append, List.foldlM_cons, Reader.step, if_pos reading, Reader.read, settled, empty]
    rfl
  · rename_i filled
    have said : Reader.step ⟨place, [] :: scopes, true⟩
        (.text [.plain (Utf8.encode (Reference.escape text))]) =
        .ok ⟨.inField root field (Utf8.encode field.label) (some text), [] :: scopes, false⟩ := by
      rw [Reader.step, if_pos reading, Reader.read]
      simp only [trimmed_unpadded unpadded filled, meanings_written, settled]
      rfl
    rw [List.singleton_append, List.foldlM_cons, said]
    rfl

theorem leads_within_text (root : Root) (text : String) :
    Leads (textItems text) (.within root) (.within root) := by
  have leads : Leads (textItems text ++ []) (.within root) (.within root) :=
    leads_text rfl (fun _ => rfl) .nil fun _ => ⟨_, rfl, .nil⟩
  rwa [List.append_nil] at leads

end Steps

/-! ### The children of a root -/

/-- Children of a root that say texts: each text stands in a child of its own with the name of its
field, without blanks around it. These children stand in any order among others with other names,
whatever stands in those. -/
structure LaysOut (children : List Element) (said : FieldName → Option String) : Prop where
  plain : ∀ child ∈ children, child.IsPlain
  fields : ∀ field, children.filter (·.name = field.label) =
    ((said field).map fun text => .mk field.label text []).toList
  unpadded : ∀ field, ∀ text ∈ said field, Unpadded text

namespace LaysOut

variable {child : Element} {rest : List Element} {said : FieldName → Option String}

/-- Without a child that is no field, the others say the same. -/
theorem of_unknown (laid : LaysOut (child :: rest) said)
    (unknown : FieldName.ofLabel? (Utf8.encode child.name) = none) : LaysOut rest said where
  plain := (List.forall_mem_cons.mp laid.plain).2
  fields field := by
    have other : child.name ≠ field.label := by
      intro same
      rw [same, ofLabel?_label] at unknown
      cases unknown
    rw [← laid.fields field, List.filter_cons_of_neg (by simpa using other)]
  unpadded := laid.unpadded

/-- A child that is a field has its text, and the others say nothing for this field. -/
theorem of_field (laid : LaysOut (child :: rest) said) {field : FieldName}
    (named : FieldName.ofLabel? (Utf8.encode child.name) = some field) :
    ∃ text, said field = some text ∧ child = .mk field.label text [] ∧
      LaysOut rest (Function.update said field none) := by
  have label : child.name = field.label := Utf8.encode_injective (eq_of_ofLabel? named)
  have here := laid.fields field
  rw [List.filter_cons_of_pos (by simpa using label)] at here
  obtain ⟨text, spoken⟩ : ∃ text, said field = some text := by
    cases spoken : said field with
    | none =>
      rw [spoken] at here
      cases here
    | some text => exact ⟨text, rfl⟩
  rw [spoken] at here
  obtain ⟨alone, none⟩ := List.cons.inj here
  refine ⟨text, spoken, alone, (List.forall_mem_cons.mp laid.plain).2, fun other => ?_,
    fun other text given => ?_⟩
  · by_cases same : other = field
    · rw [same, Function.update_self]
      exact none
    · have apart : child.name ≠ other.label := by
        rw [label]
        revert same
        cases other <;> cases field <;> decide
      rw [Function.update_of_ne same, ← laid.fields other,
        List.filter_cons_of_neg (by simpa using apart)]
  · by_cases same : other = field
    · rw [same, Function.update_self] at given
      cases given
    · rw [Function.update_of_ne same] at given
      exact laid.unpadded other text given

end LaysOut

/-- The content of a root is read as what its children say. -/
theorem leads_content {tag : Tag} (valued : ∀ scopes, tag.isNil scopes = false) (ending : String) :
    ∀ (parts : List (String × Element)) (fields : Fields) (said : FieldName → Option String),
      LaysOut (parts.map Prod.snd) said →
        (∀ field, (said field).isSome → fields.lookup field = none) →
          ∃ read : Fields,
            Leads (contentItems ⟨parts, ending⟩) (.within ⟨tag, fields⟩) (.within ⟨tag, read⟩) ∧
              ∀ field, read.lookup field = (fields.lookup field).or ((said field).map some) := by
  intro parts
  induction parts with
  | nil =>
    intro fields said laid _
    refine ⟨fields, leads_within_text _ ending, fun field => ?_⟩
    have none : said field = none := by
      simpa using (laid.fields field).symm
    rw [none, Option.map_none, Option.or_none]
  | cons part rest ih =>
    obtain ⟨text, child⟩ := part
    intro fields said laid fresh
    cases named : FieldName.ofLabel? (Utf8.encode child.name) with
    | none =>
      obtain ⟨read, leads, looks⟩ := ih fields said (laid.of_unknown named) fresh
      have passes := leads_unknown ⟨tag, fields⟩ (laid.plain child List.mem_cons_self) named
      exact ⟨read, (leads_within_text _ text).append (passes.append leads), looks⟩
    | some field =>
      obtain ⟨spoken, given, rfl, later⟩ := laid.of_field named
      have absent : fields.lookup field = none := fresh field (by rw [given]; rfl)
      have others : ∀ other, (Function.update said field none other).isSome →
          List.lookup other ((field, some spoken) :: fields) = none := by
        intro other has
        have apart : other ≠ field := by
          rintro rfl
          rw [Function.update_self] at has
          cases has
        rw [Function.update_of_ne apart] at has
        rw [List.lookup_cons, beq_false_of_ne apart]
        exact fresh other has
      obtain ⟨read, leads, looks⟩ := ih ((field, some spoken) :: fields) _ later others
      have reads := leads_field ⟨tag, fields⟩ (laid.unpadded field spoken given) absent
        valued
      refine ⟨read, (leads_within_text _ text).append (reads.append leads), fun other => ?_⟩
      rw [looks other, List.lookup_cons]
      by_cases same : other = field
      · rw [same, beq_self_eq_true, absent, given]
        rfl
      · rw [beq_false_of_ne same, Function.update_of_ne same]

/-! ### Envelopes -/

/-- What an envelope says. A message, an id of the request and a host may be left out. -/
structure Notice where
  code : String
  message : Option String
  requestId : Option String
  hostId : Option String
  deriving Repr, DecidableEq

namespace Notice

/-- The text that a notice has for a field. -/
def text (notice : Notice) : FieldName → Option String
  | .code => some notice.code
  | .message => notice.message
  | .requestId => notice.requestId
  | .hostId => notice.hostId

/-- The envelope that says a notice. A message that is left out is empty. -/
def envelope (notice : Notice) : ErrorEnvelope :=
  { code := notice.code
    message := notice.message.getD ""
    requestId := notice.requestId
    hostId := notice.hostId }

end Notice

section Document

variable {root : String}

theorem attributesFrom_namespace (unique : Bool) (length : Nat) :
    attributesFrom unique length []
        (Utf8.encode (" xmlns=\"" ++ Document.namespaceName ++ "\"")) =
      [.ok ⟨Utf8.encode "xmlns", Utf8.encode Document.namespaceName⟩] := by
  cbv

theorem attributes_root (plain : IsPlainName root) (unique : Bool) :
    attributes unique ⟨rootContent root⟩ =
      [.ok ⟨Utf8.encode "xmlns", Utf8.encode Document.namespaceName⟩] := by
  have named : Tag.name ⟨rootContent root⟩ = Utf8.encode root :=
    (plain.opens areAttributes_namespace).name_eq
  rw [attributes, named, rootContent, List.drop_left]
  exact attributesFrom_namespace unique _

/-- The tag of the root opens it. Its only attribute binds no prefix and is no mark. -/
theorem leads_root (plain : IsPlainName root) :
    Leads [.opening ⟨rootContent root⟩] .before (.within ⟨⟨rootContent root⟩, []⟩) := by
  have bindings : Binding.ofTag ⟨rootContent root⟩ =
      .ok [⟨[], Utf8.encode Document.namespaceName⟩] := by
    rw [Binding.ofTag, attributes_root plain]
    decide +kernel
  have checked : checkAttributes ⟨rootContent root⟩ = .ok () := by
    rw [checkAttributes, attributes_root plain]
    rfl
  refine .step fun scopes trimming =>
    ⟨[⟨[], Utf8.encode Document.namespaceName⟩] :: scopes, true, ?_⟩
  have reads : Reader.step ⟨.before, scopes, trimming⟩ (.opening ⟨rootContent root⟩) =
      Reader.read ⟨.before, scopes, trimming⟩ (.opening ⟨rootContent root⟩) := rfl
  rw [reads, Reader.read, bindings]
  show ((checkAttributes ⟨rootContent root⟩).map _ >>= fun place =>
    (Except.ok (⟨place, _, true⟩ : Reader) : Except Fault Reader)) = _
  rw [checked]
  rfl

theorem isNil_root (plain : IsPlainName root) (scopes : Scopes) :
    Tag.isNil ⟨rootContent root⟩ scopes = false := by
  rw [Tag.isNil, attributes_root plain, List.any_cons, List.any_nil, Bool.or_false]
  have noColon : (Utf8.encode "xmlns").contains 58 = false := by decide +kernel
  simp only [noColon, Bool.false_and]

/-- **A written envelope is read as what it says.** -/
theorem decode_document {content : Content} {notice : Notice} (plain : IsPlainName root)
    (laid : LaysOut content.children notice.text) :
    ErrorEnvelope.decode (Utf8.encode (content.document root)) = .ok notice.envelope := by
  have absent : ∀ field, (notice.text field).isSome → ([] : Fields).lookup field = none :=
    fun _ _ => rfl
  obtain ⟨read, leads, looks⟩ :=
    leads_content (isNil_root plain) content.ending content.parts [] notice.text laid absent
  have items : Item.ofEvents (.other :: elementEvents (rootContent root) root content.events) =
      .opening ⟨rootContent root⟩ :: (contentItems content ++ [.closing]) := by
    rw [elementEvents]
    show Item.opening _ :: Item.ofEventsAfter [] (content.events ++ [.close (Utf8.encode root)]) = _
    rw [ofEventsAfter_content]
    rfl
  have closes : Leads [.closing] (.within ⟨⟨rootContent root⟩, read⟩) (.after read) :=
    leads_closing rfl (fun _ => rfl) rfl
  obtain ⟨scopes, trimming, run⟩ := ((leads_root plain).cons (leads.append closes)) [] true
  have fields : readFields (Utf8.encode (content.document root)) = .ok read := by
    rw [readFields, content.scan_document plain laid.plain, items]
    show (List.foldlM Reader.step ⟨.before, [], true⟩ _ >>= fun reader => reader.finish none) = _
    rw [run]
    rfl
  have characters := Utf8.chars_eq_ok_iff.mpr (rfl : Utf8.encode (content.document root) = _)
  rw [ErrorEnvelope.decode, characters]
  show (readFields (Utf8.encode (content.document root)) >>= ErrorEnvelope.ofFields) = _
  rw [fields]
  show ErrorEnvelope.ofFields read = _
  have looks (field : FieldName) : read.lookup field = (notice.text field).map some := looks field
  simp only [ErrorEnvelope.ofFields, looks, Notice.text, Notice.envelope, Option.map_some]
  cases notice.message <;> cases notice.requestId <;> cases notice.hostId <;> rfl

end Document

end SignedQueue.Envelope
