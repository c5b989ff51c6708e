import Mathlib
import SignedQueue.Envelope.Basic
import SignedQueue.Proofs.Success
import SignedQueue.Proofs.TreeOutline
/-!
**What any document does to the reader of an envelope.** The reader knows how deep it stands. It
reads a code only at the tag of a child of the root with this name, and it breaks down only where
the text of a child of the root is parted.

* `Occurs`: an event that stands so deep among others;
* `Does`, `does_step`: all that a step of the reader can do;
* `StandsAt`: the depth of a place; `Codeless`, `HasText`: places without a code, and after a text;
* `Throughout`: what holds of every item at its depth;
* `lookup_code_of_not_hasCode`: in a document without a code none is read;
* `readFields_ne_partedText`: where the reader does not break down.
-/

namespace SignedQueue.Envelope

open Markup

/-! ### Events and items at their depths -/

/-- An event stands among others where so many elements are open. -/
def Occurs (events : List Event) (depth : Int) (event : Event) : Prop :=
  ∃ before, before ++ [event] <+: events ∧ nesting before = depth

theorem Occurs.head (event : Event) (rest : List Event) : Occurs (event :: rest) 0 event :=
  ⟨[], ⟨rest, rfl⟩, rfl⟩

theorem Occurs.tail {rest : List Event} {depth : Int} {event : Event}
    (occurs : Occurs rest depth event) (first : Event) :
    Occurs (first :: rest) (first.nesting + depth) event := by
  obtain ⟨before, ⟨after, same⟩, rfl⟩ := occurs
  exact ⟨first :: before, ⟨after, congrArg (first :: ·) same⟩, nesting_cons first before⟩

theorem Occurs.mem {events : List Event} {depth : Int} {event : Event}
    (occurs : Occurs events depth event) : event ∈ events := by
  obtain ⟨before, head, -⟩ := occurs
  exact head.subset (List.mem_append_right before List.mem_cons_self)

/-- How many elements an item opens; one less than none if it closes one. -/
def nestingOf : Item → Int
  | .opening _ => 1
  | .closing => -1
  | _ => 0

/-- Whether an item is a text. -/
def isText : Item → Bool
  | .text _ => true
  | _ => false

/-- What holds of every item where it stands, at its depth and before the items that follow it. -/
def Throughout (holds : Int → Item → List Item → Prop) : Int → List Item → Prop
  | _, [] => True
  | depth, item :: rest => holds depth item rest ∧ Throughout holds (depth + nestingOf item) rest

theorem throughout_ofPieces {holds : Int → Item → List Item → Prop}
    (texts : ∀ depth pieces rest, (∀ item ∈ rest.head?, isText item = false) →
      holds depth (.text pieces) rest)
    {depth : Int} {items : List Item} (pieces : List Piece)
    (apart : ∀ item ∈ items.head?, isText item = false) (later : Throughout holds depth items) :
    Throughout holds depth (Item.ofPieces pieces ++ items) := by
  unfold Item.ofPieces
  split
  · exact later
  · refine ⟨texts depth pieces items apart, ?_⟩
    show Throughout holds (depth + 0) items
    rwa [add_zero]

/-- Tags and declarations of which something holds at the depths where they stand. -/
structure Admits (holds : Int → Item → List Item → Prop) (depth : Int) (events : List Event) :
    Prop where
  start : ∀ deeper tag rest, Occurs events deeper (.start tag) →
    holds (depth + deeper) (.opening tag) rest
  empty : ∀ deeper tag rest, Occurs events deeper (.empty tag) →
    holds (depth + deeper) (.opening tag) rest
  doctype : ∀ deeper rest, Occurs events deeper .doctype →
    holds (depth + deeper) .declaration rest

theorem Admits.tail {holds : Int → Item → List Item → Prop} {depth : Int} {event : Event}
    {rest : List Event} (admits : Admits holds depth (event :: rest)) :
    Admits holds (depth + event.nesting) rest where
  start deeper tag items occurs := by
    rw [add_assoc]
    exact admits.start _ tag items (occurs.tail event)
  empty deeper tag items occurs := by
    rw [add_assoc]
    exact admits.empty _ tag items (occurs.tail event)
  doctype deeper items occurs := by
    rw [add_assoc]
    exact admits.doctype _ items (occurs.tail event)

/-- It holds of the items of a document because it holds of its events. No text follows another
text. -/
theorem throughout_ofEvents {holds : Int → Item → List Item → Prop}
    (texts : ∀ depth pieces rest, (∀ item ∈ rest.head?, isText item = false) →
      holds depth (.text pieces) rest)
    (closes : ∀ depth rest, holds depth .closing rest) :
    ∀ (events : List Event) (depth : Int) (pieces : List Piece), Admits holds depth events →
      Throughout holds depth (Item.ofEventsAfter pieces events) := by
  intro events
  induction events with
  | nil =>
    intro depth pieces _
    rw [Item.ofEventsAfter, ← List.append_nil (Item.ofPieces pieces)]
    exact throughout_ofPieces texts pieces (fun _ first => nomatch first) trivial
  | cons event rest ih =>
    intro depth pieces admits
    have later (pieces : List Piece) := ih (depth + event.nesting) pieces admits.tail
    have whole {item : Item} {items : List Item} (other : isText item = false)
        (all : Throughout holds depth (item :: items)) :
        Throughout holds depth (Item.ofPieces pieces ++ item :: items) := by
      refine throughout_ofPieces texts pieces (fun first found => ?_) all
      obtain rfl := Option.some.inj found
      exact other
    cases event with
    | start tag =>
      have here := admits.start 0 tag (Item.ofEventsAfter [] rest) (.head _ rest)
      rw [add_zero] at here
      exact whole rfl ⟨here, later []⟩
    | empty tag =>
      have here := admits.empty 0 tag (.closing :: Item.ofEventsAfter [] rest) (.head _ rest)
      rw [add_zero] at here
      have back : depth + nestingOf (.opening tag) + nestingOf .closing =
          depth + (Event.empty tag).nesting := by
        simp [nestingOf, Event.nesting]
      refine whole rfl ⟨here, closes _ _, ?_⟩
      rw [back]
      exact later []
    | close name => exact whole rfl ⟨closes _ _, later []⟩
    | doctype =>
      have here := admits.doctype 0 (Item.ofEventsAfter [] rest) (.head _ rest)
      rw [add_zero] at here
      exact whole rfl ⟨here, later []⟩
    | text raw =>
      have level : depth + (Event.text raw).nesting = depth := add_zero depth
      exact level ▸ later (pieces ++ [.plain raw])
    | cdata raw =>
      have level : depth + (Event.cdata raw).nesting = depth := add_zero depth
      exact level ▸ later (pieces ++ [.verbatim raw])
    | other =>
      have level : depth + Event.other.nesting = depth := add_zero depth
      exact level ▸ later pieces

/-! ### All that a step can do -/

/-- What an item does at a place. -/
inductive Does : Item → Place → Place → Prop
  | root {tag : Tag} : Does (.opening tag) .before (.within ⟨tag, []⟩)
  | unknown {tag : Tag} {root : Root} : Does (.opening tag) (.within root) (.entering root tag.name)
  | option {tag : Tag} {root : Root} {field : FieldName}
      (named : FieldName.ofLabel? tag.localName = some field) :
      Does (.opening tag) (.within root) (.opened root field tag)
  | field {tag : Tag} {root : Root} {field : FieldName}
      (named : FieldName.ofLabel? tag.localName = some field) :
      Does (.opening tag) (.within root) (.inField root field tag.name none)
  | inside {tag : Tag} {root : Root} {name : Octets} :
      Does (.opening tag) (.entering root name) (.peeking root tag.name (some name))
  | beside {tag : Tag} {root : Root} {name : Octets} {outer : Option Octets} :
      Does (.opening tag) (.peeking root name outer) (.passing root name 1 outer)
  | deeper {tag : Tag} {root : Root} {name : Octets} {depth : Nat} {outer : Option Octets} :
      Does (.opening tag) (.passing root name depth outer) (.passing root name (depth + 1) outer)
  | finish {root : Root} : Does .closing (.within root) (.after root.fields)
  | unset {root : Root} {field : FieldName} {tag : Tag} :
      Does .closing (.opened root field tag)
        (.within { root with fields := (field, some "") :: root.fields })
  | set {root : Root} {field : FieldName} {name : Octets} {text : Option String} :
      Does .closing (.inField root field name text)
        (.within { root with fields := (field, some (text.getD "")) :: root.fields })
  | over {root : Root} {name : Octets} : Does .closing (.entering root name) (.within root)
  | back {root : Root} {name : Octets} {depth : Nat} {outer : Option Octets} :
      Does .closing (.passing root name (depth + 1) outer) (.passing root name depth outer)
  | leave {root : Root} {name : Octets} {outer : Option Octets} {place : Place}
      (last : place = .peeking root name outer ∨ place = .passing root name 0 outer) :
      Does .closing place (Place.leave root outer)
  | begin {pieces : List Piece} {root : Root} {field : FieldName} {tag : Tag} {text : String} :
      Does (.text pieces) (.opened root field tag) (.inField root field tag.name (some text))
  | say {pieces : List Piece} {root : Root} {field : FieldName} {name : Octets} {text : String} :
      Does (.text pieces) (.inField root field name none) (.inField root field name (some text))
  | skip {pieces : List Piece} {root : Root} {name : Octets} :
      Does (.text pieces) (.entering root name) (.peeking root name none)
  | look {item : Item} {root : Root} {name : Octets} {outer : Option Octets}
      (level : nestingOf item = 0) :
      Does item (.peeking root name outer) (.passing root name 0 outer)
  | stay {item : Item} {place : Place} (level : nestingOf item = 0) : Does item place place
  | ended {item : Item} {fields : Fields} : Does item (.after fields) (.after fields)

variable {place settled after : Place}

theorem does_openTag {tag : Tag} (opens : place.openTag tag = .ok after) :
    Does (.opening tag) place after := by
  cases place with
  | before =>
    obtain ⟨_, _, rfl⟩ := map_eq_ok.mp opens
    exact .root
  | within root =>
    replace opens : Place.openChild root tag = .ok after := opens
    unfold Place.openChild at opens
    split at opens
    · cases opens
      exact .unknown
    · rename_i field named
      split at opens
      · cases opens
      · split at opens
        · cases opens
          exact .option named
        · cases opens
          exact .field named
  | opened root field opener => cases opens
  | inField root field name text => cases opens
  | entering root name => cases opens; exact .inside
  | peeking root name outer => cases opens; exact .beside
  | passing root name depth outer => cases opens; exact .deeper
  | after fields => cases opens; exact .ended

theorem does_closeTag (closes : place.closeTag = .ok after) : Does .closing place after := by
  cases place with
  | before => cases closes
  | within root => cases closes; exact .finish
  | opened root field tag => cases closes; exact .unset
  | inField root field name text => cases closes; exact .set
  | entering root name => cases closes; exact .over
  | peeking root name outer => cases closes; exact .leave (.inl rfl)
  | passing root name depth outer =>
    cases depth with
    | zero => cases closes; exact .leave (.inr rfl)
    | succ depth => cases closes; exact .back
  | after fields => cases closes; exact .ended

theorem does_takeText {pieces : List Piece} {content : Except Reference.Fault String}
    (takes : place.takeText content = .ok after) : Does (.text pieces) place after := by
  cases place with
  | before =>
    obtain ⟨_, _, never⟩ := bind_eq_ok.mp takes
    cases never
  | within root =>
    obtain ⟨_, _, same⟩ := bind_eq_ok.mp takes
    cases same
    exact .stay rfl
  | opened root field tag =>
    obtain ⟨_, _, same⟩ := bind_eq_ok.mp takes
    cases same
    exact .begin
  | inField root field name text =>
    obtain ⟨_, _, same⟩ := bind_eq_ok.mp takes
    cases text with
    | none => cases same; exact .say
    | some text => cases same
  | entering root name =>
    obtain ⟨_, _, same⟩ := bind_eq_ok.mp takes
    cases same
    exact .skip
  | peeking root name outer => cases takes; exact .look rfl
  | passing root name depth outer => cases takes; exact .stay rfl
  | after fields => cases takes; exact .ended

theorem does_takeDeclaration (place : Place) : Does .declaration place place.takeDeclaration := by
  cases place with
  | peeking root name outer => exact .look rfl
  | _ => exact .stay rfl

/-- A place, or what is settled there: whether a field has a value. -/
def Settles (place settled : Place) : Prop :=
  settled = place ∨ ∃ scopes, settled = place.settle scopes

variable {reader next : Reader} {item : Item}

theorem does_pass (passes : reader.pass item = .ok next) : Does item reader.place next.place := by
  cases item with
  | opening tag =>
    obtain ⟨place, opens, made⟩ := bind_eq_ok.mp passes
    cases made
    exact does_openTag opens
  | closing =>
    obtain ⟨place, closes, made⟩ := bind_eq_ok.mp passes
    cases made
    exact does_closeTag closes
  | text pieces =>
    cases passes
    exact .stay rfl
  | declaration =>
    cases passes
    exact .stay rfl

theorem does_read (reads : reader.read item = .ok next) :
    ∃ settled, Settles reader.place settled ∧ Does item settled next.place := by
  cases item with
  | opening tag =>
    obtain ⟨bindings, -, rest⟩ := bind_eq_ok.mp reads
    obtain ⟨place, opens, made⟩ := bind_eq_ok.mp rest
    cases made
    exact ⟨_, .inr ⟨_, rfl⟩, does_openTag opens⟩
  | closing =>
    obtain ⟨place, closes, made⟩ := bind_eq_ok.mp reads
    cases made
    exact ⟨_, .inr ⟨_, rfl⟩, does_closeTag closes⟩
  | text pieces =>
    rw [Reader.read] at reads
    split at reads
    · cases reads
      exact ⟨_, .inl rfl, .stay rfl⟩
    · obtain ⟨place, takes, made⟩ := bind_eq_ok.mp reads
      cases made
      exact ⟨_, .inr ⟨_, rfl⟩, does_takeText takes⟩
  | declaration =>
    cases reads
    exact ⟨_, .inr ⟨_, rfl⟩, does_takeDeclaration _⟩

/-- Whatever a step of the reader does, it does to its place or to what is settled there. -/
theorem does_step (steps : reader.step item = .ok next) :
    ∃ settled, Settles reader.place settled ∧ Does item settled next.place := by
  unfold Reader.step at steps
  split at steps
  · exact does_read steps
  · exact ⟨_, .inl rfl, does_pass steps⟩

/-! ### The depth of a place -/

/-- How deep a place is in what is passed over together with `outer`. -/
def depthWithin (outer : Option Octets) : Int :=
  if outer.isSome then 3 else 2

/-- A place where so many elements are open. After the root the reader does not count them. -/
def StandsAt (depth : Int) : Place → Prop
  | .before => depth = 0
  | .within _ => depth = 1
  | .opened _ _ _ | .inField _ _ _ _ | .entering _ _ => depth = 2
  | .peeking _ _ outer => depth = depthWithin outer
  | .passing _ _ inner outer => depth = depthWithin outer + inner
  | .after _ => True

variable {depth : Int}

theorem StandsAt.settles (stands : StandsAt depth place) (settles : Settles place settled) :
    StandsAt depth settled := by
  rcases settles with rfl | ⟨scopes, rfl⟩
  · exact stands
  · cases place with
    | opened root field tag =>
      have two : depth = 2 := stands
      rw [Place.settle]
      split <;> exact two
    | _ => exact stands

/-- An item leads as much deeper as it opens elements. -/
theorem StandsAt.does (stands : StandsAt depth place) (does : Does item place after) :
    StandsAt (depth + nestingOf item) after := by
  cases does with
  | stay level => rwa [level, add_zero]
  | look level =>
    rw [level]
    simpa [StandsAt] using stands
  | leave last =>
    rename_i root name outer
    have deep : depth = depthWithin outer := by
      rcases last with rfl | rfl <;> simpa [StandsAt] using stands
    rw [deep]
    cases outer <;> rfl
  | inside =>
    show depth + 1 = 3
    rw [show depth = 2 from stands]
    rfl
  | skip =>
    show depth + 0 = 2
    rw [show depth = 2 from stands]
    rfl
  | _ =>
    simp only [StandsAt, depthWithin, nestingOf, Nat.cast_add, Nat.cast_one] at *
    try omega

/-! ### Places without a code -/

/-- A place before which no code has been read, and that is in none. -/
def Codeless : Place → Prop
  | .before => True
  | .within root | .entering root _ | .peeking root _ _ | .passing root _ _ _ =>
    root.fields.lookup .code = none
  | .opened root field _ | .inField root field _ _ =>
    root.fields.lookup .code = none ∧ field ≠ .code
  | .after fields => fields.lookup .code = none

theorem lookup_cons_of_ne {field : FieldName} (fields : Fields) (value : Option String)
    (other : field ≠ .code) :
    List.lookup .code ((field, value) :: fields) = fields.lookup .code := by
  rw [List.lookup_cons, beq_false_of_ne other.symm]

theorem Codeless.settles (codeless : Codeless place) (settles : Settles place settled) :
    Codeless settled := by
  rcases settles with rfl | ⟨scopes, rfl⟩
  · exact codeless
  · cases place with
    | opened root field tag =>
      obtain ⟨none, other⟩ := codeless
      rw [Place.settle]
      split
      · exact (lookup_cons_of_ne _ _ other).trans none
      · exact ⟨none, other⟩
    | _ => exact codeless

/-- A code is read only at the tag of a child of the root with its name. -/
theorem Codeless.does (codeless : Codeless place) (does : Does item place after)
    (other : ∀ tag root, item = .opening tag → place = .within root →
      FieldName.ofLabel? tag.localName ≠ some .code) : Codeless after := by
  cases does with
  | root => rfl
  | option named => exact ⟨codeless, fun same => other _ _ rfl rfl (same ▸ named)⟩
  | field named => exact ⟨codeless, fun same => other _ _ rfl rfl (same ▸ named)⟩
  | unset => exact (lookup_cons_of_ne _ _ codeless.2).trans codeless.1
  | set => exact (lookup_cons_of_ne _ _ codeless.2).trans codeless.1
  | leave last =>
    rename_i root name outer
    have none : root.fields.lookup .code = none := by
      rcases last with rfl | rfl <;> exact codeless
    cases outer <;> exact none
  | _ => exact codeless

theorem eq_of_ofLabel? {name : Octets} {field : FieldName}
    (named : FieldName.ofLabel? name = some field) : name = Utf8.encode field.label := by
  have same := List.find?_some named
  exact of_decide_eq_true same

/-- The tag of no child of the root has the name of a code. -/
def NoCode (depth : Int) (item : Item) (_ : List Item) : Prop :=
  ∀ tag, item = .opening tag → depth = 1 → tag.localName ≠ Utf8.encode FieldName.code.label

theorem Codeless.step (codeless : Codeless reader.place) (stands : StandsAt depth reader.place)
    {rest : List Item} (noCode : NoCode depth item rest) (steps : reader.step item = .ok next) :
    Codeless next.place ∧ StandsAt (depth + nestingOf item) next.place := by
  obtain ⟨settled, settles, does⟩ := does_step steps
  have standsHere := stands.settles settles
  refine ⟨(codeless.settles settles).does does fun tag root opens within named => ?_,
    standsHere.does does⟩
  rw [within] at standsHere
  exact noCode tag opens standsHere (eq_of_ofLabel? named)

theorem Codeless.run {items : List Item} (noCode : Throughout NoCode depth items)
    (codeless : Codeless reader.place) (stands : StandsAt depth reader.place)
    (runs : items.foldlM Reader.step reader = .ok next) : Codeless next.place := by
  induction items generalizing depth reader with
  | nil =>
    cases runs
    exact codeless
  | cons item rest ih =>
    rw [List.foldlM_cons] at runs
    obtain ⟨between, steps, later⟩ := bind_eq_ok.mp runs
    obtain ⟨stillCodeless, deeper⟩ := codeless.step stands noCode.1 steps
    exact ih noCode.2 stillCodeless deeper later

/-! ### Places after a text -/

/-- A place in a field whose text has been read. -/
def HasText : Place → Prop
  | .inField _ _ _ (some _) => True
  | _ => False

theorem HasText.of_settles (settles : Settles place settled) (has : HasText settled) :
    HasText place := by
  rcases settles with rfl | ⟨scopes, rfl⟩
  · exact has
  · cases place with
    | opened root field tag =>
      rw [Place.settle] at has
      split at has <;> exact has.elim
    | _ => exact has

theorem HasText.standsAt (has : HasText place) (stands : StandsAt depth place) : depth = 2 := by
  cases place with
  | inField root field name text => exact stands
  | _ => exact has.elim

/-- A field is left at any tag. It has a text after a text, or after a declaration if it had one. -/
theorem HasText.of_does (does : Does item place after) (has : HasText after) :
    isText item = true ∨ item = .declaration ∧ HasText place := by
  cases does with
  | begin => exact .inl rfl
  | say => exact .inl rfl
  | stay level =>
    cases item with
    | opening tag => cases level
    | closing => cases level
    | text pieces => exact .inl rfl
    | declaration => exact .inr ⟨rfl, has⟩
  | leave last =>
    rename_i root name outer
    cases outer <;> exact has.elim
  | _ => exact has.elim

theorem ne_partedText_of_openTag {tag : Tag} : place.openTag tag ≠ .error .partedText := by
  intro fails
  cases place with
  | before =>
    have unchecked : checkAttributes tag = .error .partedText := map_eq_error.mp fails
    unfold checkAttributes at unchecked
    split at unchecked <;> cases unchecked
  | within root =>
    replace fails : Place.openChild root tag = .error .partedText := fails
    unfold Place.openChild at fails
    repeat' split at fails
    all_goals cases fails
  | _ => cases fails

theorem ne_partedText_of_closeTag : place.closeTag ≠ .error .partedText := by
  intro fails
  cases place with
  | passing root name depth outer => cases depth <;> cases fails
  | _ => cases fails

theorem hasText_of_takeText {content : Except Reference.Fault String}
    (fails : place.takeText content = .error .partedText) : HasText place := by
  cases content with
  | error reason => cases place <;> cases fails
  | ok said =>
    cases place with
    | inField root field name text =>
      cases text with
      | none => cases fails
      | some text => trivial
    | _ => cases fails

/-- The reader breaks down only at a text in a field whose text it has read. -/
theorem hasText_of_step (fails : reader.step item = .error .partedText) :
    isText item = true ∧ HasText reader.place := by
  unfold Reader.step at fails
  split at fails
  · cases item with
    | opening tag =>
      rcases bind_eq_error.mp fails with unbound | ⟨_, -, rest⟩
      · obtain ⟨fault, -, other⟩ := mapError_eq_error.mp unbound
        cases other
      · rcases bind_eq_error.mp rest with fails | ⟨_, -, made⟩
        · exact absurd fails ne_partedText_of_openTag
        · cases made
    | closing =>
      rcases bind_eq_error.mp fails with fails | ⟨_, -, made⟩
      · exact absurd fails ne_partedText_of_closeTag
      · cases made
    | text pieces =>
      rw [Reader.read] at fails
      split at fails
      · cases fails
      · rcases bind_eq_error.mp fails with fails | ⟨_, -, made⟩
        · exact ⟨rfl, .of_settles (.inr ⟨_, rfl⟩) (hasText_of_takeText fails)⟩
        · cases made
    | declaration => cases fails
  · cases item with
    | opening tag =>
      rcases bind_eq_error.mp fails with fails | ⟨_, -, made⟩
      · exact absurd fails ne_partedText_of_openTag
      · cases made
    | closing =>
      rcases bind_eq_error.mp fails with fails | ⟨_, -, made⟩
      · exact absurd fails ne_partedText_of_closeTag
      · cases made
    | text pieces => cases fails
    | declaration => cases fails

/-- No declaration stands directly in a child of the root, and no text follows another text. -/
def Unparted (depth : Int) (item : Item) (rest : List Item) : Prop :=
  (item = .declaration → depth ≠ 2) ∧
    (isText item = true → ∀ later ∈ rest.head?, isText later = false)

/-- Where a reader comes to from what is not parted, no text follows in a field that has one. -/
theorem apart_of_step {rest : List Item} (stands : StandsAt depth reader.place)
    (unparted : Unparted depth item rest) (steps : reader.step item = .ok next)
    (has : HasText next.place) : ∀ later ∈ rest.head?, isText later = false := by
  obtain ⟨settled, settles, does⟩ := does_step steps
  rcases has.of_does does with text | ⟨declared, had⟩
  · exact unparted.2 text
  · exact absurd (had.standsAt (stands.settles settles)) (unparted.1 declared)

theorem run_ne_partedText {items : List Item} (unparted : Throughout Unparted depth items)
    (stands : StandsAt depth reader.place)
    (apart : HasText reader.place → ∀ item ∈ items.head?, isText item = false) :
    items.foldlM Reader.step reader ≠ .error .partedText := by
  induction items generalizing depth reader with
  | nil => exact fun fails => nomatch fails
  | cons item rest ih =>
    rw [List.foldlM_cons]
    intro fails
    rcases bind_eq_error.mp fails with breaks | ⟨next, steps, later⟩
    · obtain ⟨text, has⟩ := hasText_of_step breaks
      rw [apart has item rfl] at text
      cases text
    · obtain ⟨settled, settles, does⟩ := does_step steps
      exact ih unparted.2 ((stands.settles settles).does does)
        (apart_of_step stands unparted.1 steps) later

/-! ### Documents -/

theorem standsAt_start : StandsAt 0 Reader.start.place :=
  rfl

/-- A document that has a code: the tag of a child of the root has this name. -/
def HasCode (document : Octets) : Prop :=
  ∃ tag : Tag, tag.localName = Utf8.encode FieldName.code.label ∧
    (Occurs (scan document).events 1 (.start tag) ∨ Occurs (scan document).events 1 (.empty tag))

/-- A document with a declaration of its type directly in a child of the root. -/
def DeclaresInChild (document : Octets) : Prop :=
  Occurs (scan document).events 2 .doctype

variable {document : Octets}

/-- A document has no code if no tag in it has this name. -/
theorem not_hasCode_of_tags
    (other : ∀ tag, .start tag ∈ (scan document).events ∨ .empty tag ∈ (scan document).events →
      tag.localName ≠ Utf8.encode FieldName.code.label) : ¬ HasCode document := by
  rintro ⟨tag, named, opens | closed⟩
  · exact other tag (.inl opens.mem) named
  · exact other tag (.inr closed.mem) named

/-- In a document without a code none is read. -/
theorem lookup_code_of_not_hasCode (codeless : ¬ HasCode document) {fields : Fields}
    (read : readFields document = .ok fields) : List.lookup .code fields = none := by
  obtain ⟨reader, runs, finishes⟩ := bind_eq_ok.mp read
  have noCode {deeper : Int} {tag : Tag} {rest : List Item}
      (occurs : Occurs (scan document).events deeper (.start tag) ∨
        Occurs (scan document).events deeper (.empty tag)) :
      NoCode (0 + deeper) (.opening tag) rest := by
    rintro _ ⟨⟩ one named
    rw [zero_add] at one
    exact codeless ⟨tag, named, one ▸ occurs⟩
  have throughout : Throughout NoCode 0 (Item.ofEvents (scan document).events) :=
    throughout_ofEvents (fun _ _ _ _ => nofun) (fun _ _ => nofun) _ 0 []
      { start := fun _ _ _ occurs => noCode (.inl occurs)
        empty := fun _ _ _ occurs => noCode (.inr occurs)
        doctype := fun _ _ _ => nofun }
  have starts : Codeless Reader.start.place := trivial
  have ended := starts.run throughout standsAt_start runs
  unfold Reader.finish at finishes
  cases place : reader.place with
  | after read =>
    rw [place] at ended finishes
    cases finishes
    exact ended
  | _ => rw [place] at finishes; cases finishes

/-- Where no declaration stands in a child of the root, the reader does not break down. -/
theorem readFields_ne_partedText (undeclared : ¬ DeclaresInChild document) :
    readFields document ≠ .error .partedText := by
  have throughout : Throughout Unparted 0 (Item.ofEvents (scan document).events) :=
    throughout_ofEvents (fun _ _ _ apart => ⟨nofun, fun _ => apart⟩)
      (fun _ _ => ⟨nofun, nofun⟩) _ 0 []
      { start := fun _ _ _ _ => ⟨nofun, nofun⟩
        empty := fun _ _ _ _ => ⟨nofun, nofun⟩
        doctype := fun deeper rest occurs => by
          refine ⟨fun _ two => ?_, nofun⟩
          rw [zero_add] at two
          exact undeclared (show Occurs _ 2 .doctype from two ▸ occurs) }
  intro fails
  rcases bind_eq_error.mp fails with runs | ⟨reader, -, finishes⟩
  · exact run_ne_partedText throughout standsAt_start (fun has => has.elim) runs
  · unfold Reader.finish at finishes
    cases place : reader.place with
    | before =>
      rw [place] at finishes
      cases fault : (scan document).fault <;> rw [fault] at finishes <;> cases finishes
    | _ => rw [place] at finishes; cases finishes

end SignedQueue.Envelope
