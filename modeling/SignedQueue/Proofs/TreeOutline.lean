import Mathlib
import SignedQueue.Markup.Tree
import SignedQueue.Proofs.Success
/-!
**A tree has the elements of its events, each with the text directly in it.** The outline of a tree
lists its elements in the order of the document, with depth, name and text. The outline of events is
read off the events alone: the depth of a tag is the number of elements that are open before it, and
the text of an element is what follows its tag at this depth, up to the tag that closes it.

* `Line`, `Element.outline`: the outline of a tree;
* `textWithin`, `outlineFrom`: the outline of events;
* `Balanced`, `Readable`: events that close what they open, and whose texts can be read;
* `Builder.outline_step`, `Builder.awaits_step`: what one event does to what is still to come;
* `Element.ofEvents_outline`: events make a tree exactly if they are one balanced root element whose
  texts can be read, and the tree has their outline.
-/

namespace SignedQueue.Markup

/-! ### Depths and texts of events -/

/-- How many elements an event opens; one less than none if it closes one. -/
def Event.nesting : Event → Int
  | .start _ => 1
  | .close _ => -1
  | _ => 0

/-- How many more elements some events open than they close. -/
def nesting (events : List Event) : Int :=
  (events.map Event.nesting).sum

/-- Whether an event begins an element. -/
def Event.begins : Event → Bool
  | .start _ | .empty _ => true
  | _ => false

/-- What an event says in the element around it: text with its references replaced, and verbatim
text as it stands. -/
def Event.said : Event → Except Element.Fault String
  | .text raw => Element.resolvedText raw
  | .cdata raw => .ok (Utf8.lossy raw)
  | _ => .ok ""

/-- Where `depth` elements are open, some events close them all and whatever they open themselves,
and no event closes what is not open. -/
structure Balanced (depth : Int) (events : List Event) : Prop where
  opened : ∀ before, before <+: events → 0 ≤ depth + nesting before
  closed : depth + nesting events = 0

/-- Where `depth` elements are open before some events, every text that stands within an element can
be read. -/
def Readable (depth : Int) (events : List Event) : Prop :=
  ∀ before event, before ++ [event] <+: events → 0 < depth + nesting before →
    ∃ text, event.said = .ok text

/-- The text directly within an element that is still open before some events, with `deeper`
elements open in it: what is said while no other one is open in it, up to the tag that closes it. -/
def textWithin (deeper : Nat) : List Event → String
  | [] => ""
  | .start _ :: rest => textWithin (deeper + 1) rest
  | .close _ :: rest =>
    match deeper with
    | 0 => ""
    | deeper + 1 => textWithin deeper rest
  | event :: rest =>
    (if deeper = 0 then event.said.toOption.getD "" else "") ++ textWithin deeper rest

/-! ### Outlines -/

/-- An element in an outline: how many elements it stands in, its name, and the text directly in it.
-/
structure Line where
  depth : Int
  name : String
  text : String
  deriving Repr, DecidableEq

/-- The elements whose tags are among some events, in order, where `depth` elements are open before
them. -/
def outlineFrom (depth : Int) : List Event → List Line
  | [] => []
  | .start tag :: rest =>
    ⟨depth, Utf8.lossy tag.localName, textWithin 0 rest⟩ :: outlineFrom (depth + 1) rest
  | .empty tag :: rest => ⟨depth, Utf8.lossy tag.localName, ""⟩ :: outlineFrom depth rest
  | event :: rest => outlineFrom (depth + event.nesting) rest

/-- Events whose tags form one element: they are balanced, and one element stands in no other. -/
structure OneRoot (events : List Event) : Prop where
  balanced : Balanced 0 events
  single : (outlineFrom 0 events).countP (·.depth = 0) = 1

mutual

/-- An element at a depth and all its descendants, in the order of the document. -/
def Element.outline (depth : Int) : Element → List Line
  | .mk name text children => ⟨depth, name, text⟩ :: outlineAmong (depth + 1) children

/-- Some elements at a depth, each with its descendants. -/
def Element.outlineAmong (depth : Int) : List Element → List Line
  | [] => []
  | element :: rest => element.outline depth ++ outlineAmong depth rest

end

theorem Element.outlineAmong_append (depth : Int) (before after : List Element) :
    outlineAmong depth (before ++ after) =
      outlineAmong depth before ++ outlineAmong depth after := by
  induction before with
  | nil => rfl
  | cons element rest ih => rw [List.cons_append, outlineAmong, outlineAmong, ih, List.append_assoc]

section Events

variable {depth : Int} {event : Event} {rest : List Event}

theorem nesting_cons (event : Event) (rest : List Event) :
    nesting (event :: rest) = event.nesting + nesting rest := by
  simp [nesting]

theorem balanced_nil : Balanced depth [] ↔ depth = 0 := by
  constructor
  · intro balanced
    simpa [nesting] using balanced.closed
  · rintro rfl
    exact ⟨fun before whole => by simp [List.prefix_nil.mp whole, nesting], rfl⟩

theorem balanced_cons :
    Balanced depth (event :: rest) ↔ 0 ≤ depth ∧ Balanced (depth + event.nesting) rest := by
  constructor
  · rintro ⟨opened, closed⟩
    refine ⟨by simpa [nesting] using opened [] List.nil_prefix, fun before found => ?_, ?_⟩
    · rw [add_assoc, ← nesting_cons]
      exact opened _ (List.prefix_cons_inj event |>.mpr found)
    · rwa [add_assoc, ← nesting_cons]
  · rintro ⟨least, opened, closed⟩
    refine ⟨fun before found => ?_, by rwa [nesting_cons, ← add_assoc]⟩
    rcases List.prefix_cons_iff.mp found with rfl | ⟨before, rfl, found⟩
    · simpa [nesting] using least
    · rw [nesting_cons, ← add_assoc]
      exact opened before (List.prefix_cons_inj event |>.mp found)

theorem readable_cons :
    Readable depth (event :: rest) ↔
      (0 < depth → ∃ text, event.said = .ok text) ∧ Readable (depth + event.nesting) rest := by
  constructor
  · intro readable
    refine ⟨fun within => readable [] event ?_ (by simpa [nesting] using within), ?_⟩
    · exact List.prefix_cons_inj event |>.mpr List.nil_prefix
    · intro before later found within
      refine readable (event :: before) later (List.prefix_cons_inj event |>.mpr found) ?_
      rwa [nesting_cons, ← add_assoc]
  · rintro ⟨first, others⟩ before later found within
    cases before with
    | nil =>
      obtain rfl := (List.cons_prefix_cons.mp found).1
      exact first (by simpa [nesting] using within)
    | cons head before =>
      obtain ⟨rfl, inner⟩ := List.cons_prefix_cons.mp found
      rw [nesting_cons, ← add_assoc] at within
      exact others before later inner within

theorem countP_outlineFrom_cons :
    (outlineFrom depth (event :: rest)).countP (·.depth = 0) =
      (if event.begins = true ∧ depth = 0 then 1 else 0) +
        (outlineFrom (depth + event.nesting) rest).countP (·.depth = 0) := by
  cases event with
  | start tag => simp [outlineFrom, Event.nesting, Event.begins, List.countP_cons, Nat.add_comm]
  | empty tag => simp [outlineFrom, Event.nesting, Event.begins, List.countP_cons, Nat.add_comm]
  | _ => simp [outlineFrom, Event.nesting, Event.begins]

/-- An event that opens and closes nothing adds to the text of the innermost open element. -/
theorem textWithin_cons (level : event.nesting = 0) (deeper : Nat) (rest : List Event) :
    textWithin deeper (event :: rest) =
      (if deeper = 0 then event.said.toOption.getD "" else "") ++ textWithin deeper rest := by
  cases event with
  | start tag => cases level
  | close name => cases level
  | _ => rfl

theorem textWithin_silent (level : event.nesting = 0) (silent : event.said = .ok "")
    (deeper : Nat) (rest : List Event) :
    textWithin deeper (event :: rest) = textWithin deeper rest := by
  rw [textWithin_cons level, silent]
  exact (congrArg (· ++ _) (ite_self "")).trans String.empty_append

end Events

namespace Builder

/-! ### What is still to come of a stack -/

/-- The outline of the elements on a stack, outermost first, when the events that follow have been
read; `deeper` elements are open in the first of them. -/
def outlineOpen (events : List Event) (deeper : Nat) : List Element → List Line
  | [] => []
  | element :: outer =>
    outlineOpen events (deeper + 1) outer ++
      ⟨outer.length, element.name, element.text ++ textWithin deeper events⟩ ::
        Element.outlineAmong (outer.length + 1) element.children

/-- The outline of what has been read, when the events that follow have been read. -/
def outlineRead (builder : Builder) (events : List Event) : List Line :=
  builder.root.elim [] (Element.outline 0) ++ outlineOpen events 0 builder.opened

/-- The outline of what has been read and of what follows. -/
def outline (builder : Builder) (events : List Event) : List Line :=
  builder.outlineRead events ++ outlineFrom builder.opened.length events

/-- How many elements that stand in no other have been read, closed or not. -/
def roots (builder : Builder) : Nat :=
  builder.root.toList.length + if builder.opened = [] then 0 else 1

/-- Events that complete what has been read to one root element. -/
structure Awaits (builder : Builder) (events : List Event) : Prop where
  balanced : Balanced builder.opened.length events
  readable : Readable builder.opened.length events
  single : builder.roots + (outlineFrom builder.opened.length events).countP (·.depth = 0) = 1

variable {builder next : Builder} {event : Event} {events rest : List Event} {element : Element}

/-- An outline of a stack depends on the events only through the texts of the open elements. -/
theorem outlineOpen_congr {others : List Event} {first second : Nat}
    (same : ∀ deeper, textWithin (first + deeper) events = textWithin (second + deeper) others)
    (opened : List Element) :
    outlineOpen events first opened = outlineOpen others second opened := by
  induction opened generalizing first second with
  | nil => rfl
  | cons element outer ih =>
    have further : ∀ deeper, textWithin (first + 1 + deeper) events =
        textWithin (second + 1 + deeper) others := by
      intro deeper
      rw [add_assoc, add_assoc]
      exact same (1 + deeper)
    rw [outlineOpen, outlineOpen, ih further, show textWithin first events = _ from same 0]
    rfl

theorem outline_eq (element : Element) (depth : Int) :
    element.outline depth =
      ⟨depth, element.name, element.text⟩ :: Element.outlineAmong (depth + 1) element.children := by
  cases element
  rfl

/-- A closed element comes last in the outline of what has been read. -/
theorem outlineRead_attach (attached : builder.attach element = .ok next) (events : List Event) :
    next.outlineRead events =
        builder.outlineRead events ++ element.outline builder.opened.length ∧
      next.opened.length = builder.opened.length := by
  obtain ⟨opened, root⟩ := builder
  cases opened with
  | nil =>
    cases root with
    | some root => cases attached
    | none =>
      cases attached
      simp [outlineRead, outlineOpen]
  | cons parent outer =>
    cases attached
    obtain ⟨name, text, children⟩ := parent
    simp [outlineRead, outlineOpen, Element.addChild, Element.outlineAmong_append,
      Element.outlineAmong, Element.name, Element.text, Element.children]

/-- What is said belongs to the innermost open element. -/
theorem outlineRead_addText (level : event.nesting = 0)
    (added : builder.addText event.said = .ok next) (rest : List Event) :
    next.outlineRead rest = builder.outlineRead (event :: rest) ∧
      next.opened.length = builder.opened.length := by
  obtain ⟨opened, root⟩ := builder
  cases opened with
  | nil =>
    cases added
    exact ⟨rfl, rfl⟩
  | cons innermost outer =>
    obtain ⟨text, said, rfl⟩ := map_eq_ok.mp added
    have further : outlineOpen rest 1 outer = outlineOpen (event :: rest) 1 outer := by
      apply outlineOpen_congr
      intro deeper
      rw [textWithin_cons level, if_neg (by omega), String.empty_append]
    have here : textWithin 0 (event :: rest) = text ++ textWithin 0 rest := by
      rw [textWithin_cons level, said]
      rfl
    obtain ⟨name, before, children⟩ := innermost
    simp [outlineRead, outlineOpen, further, here, Element.addText, Element.name, Element.text,
      Element.children, String.append_assoc]

/-- An event that is no tag and says nothing changes no outline. -/
theorem outlineRead_silent (level : event.nesting = 0) (silent : event.said = .ok "")
    (rest : List Event) : builder.outlineRead (event :: rest) = builder.outlineRead rest := by
  rw [outlineRead, outlineRead,
    outlineOpen_congr (fun _ => textWithin_silent level silent _ rest) builder.opened]

/-- What one event adds to what has been read, it takes from what is to come. -/
theorem outline_step (steps : builder.step event = .ok next) (rest : List Event) :
    next.outline rest = builder.outline (event :: rest) := by
  cases event with
  | start tag =>
    cases steps
    have further : outlineOpen rest 1 builder.opened =
        outlineOpen (.start tag :: rest) 0 builder.opened := by
      apply outlineOpen_congr
      intro deeper
      rw [textWithin, Nat.zero_add, Nat.add_comm]
    simp [outline, outlineRead, outlineOpen, outlineFrom, further, elementOf, Element.named,
      Element.name, Element.text, Element.children, Element.outlineAmong]
  | empty tag =>
    have attached : builder.attach (elementOf tag) = .ok next := steps
    obtain ⟨read, same⟩ := outlineRead_attach attached rest
    rw [outline, outline, read, same, outlineRead_silent rfl rfl]
    simp [outlineFrom, outline_eq, elementOf, Element.named, Element.name, Element.text,
      Element.children, Element.outlineAmong]
  | close name =>
    obtain ⟨opened, root⟩ := builder
    cases opened with
    | nil => cases steps
    | cons innermost outer =>
      have attached : (Builder.mk outer root).attach innermost = .ok next := steps
      obtain ⟨read, same⟩ := outlineRead_attach attached rest
      have further : outlineOpen (.close name :: rest) 1 outer = outlineOpen rest 0 outer := by
        apply outlineOpen_congr
        intro deeper
        rw [Nat.add_comm, textWithin, Nat.zero_add]
      rw [outline, outline, read, same]
      simp [outlineRead, outlineOpen, further, outlineFrom, Event.nesting, outline_eq, textWithin]
  | text raw =>
    have added : builder.addText (Event.text raw).said = .ok next := steps
    obtain ⟨read, same⟩ := outlineRead_addText rfl added rest
    simp [outline, read, same, outlineFrom, Event.nesting]
  | cdata raw =>
    have added : builder.addText (Event.cdata raw).said = .ok next := steps
    obtain ⟨read, same⟩ := outlineRead_addText rfl added rest
    simp [outline, read, same, outlineFrom, Event.nesting]
  | doctype =>
    cases steps
    have silent : builder.outlineRead (.doctype :: rest) = _ := outlineRead_silent rfl rfl rest
    simp [outline, silent, outlineFrom, Event.nesting]
  | other =>
    cases steps
    have silent : builder.outlineRead (.other :: rest) = _ := outlineRead_silent rfl rfl rest
    simp [outline, silent, outlineFrom, Event.nesting]

/-! ### Which events are one element -/

theorem roots_attach (attached : builder.attach element = .ok next) :
    next.opened.length = builder.opened.length ∧
      next.roots = builder.roots + if builder.opened.length = 0 then 1 else 0 := by
  obtain ⟨opened, root⟩ := builder
  cases opened with
  | nil =>
    cases root with
    | some root => cases attached
    | none =>
      cases attached
      exact ⟨rfl, rfl⟩
  | cons parent outer =>
    cases attached
    exact ⟨rfl, rfl⟩

/-- What an event changes in the number of open elements and of roots, and what it takes for
granted. -/
structure Takes (builder : Builder) (event : Event) (next : Builder) : Prop where
  depth : (next.opened.length : Int) = builder.opened.length + event.nesting
  roots :
    next.roots =
      builder.roots + if event.begins = true ∧ (builder.opened.length : Int) = 0 then 1 else 0
  said : 0 < (builder.opened.length : Int) → ∃ text, event.said = .ok text

theorem takes_addText (level : event.nesting = 0) (silent : event.begins = false)
    (added : builder.addText event.said = .ok next) : builder.Takes event next := by
  obtain ⟨opened, root⟩ := builder
  cases opened with
  | nil =>
    cases added
    exact ⟨by simp [level], by simp [silent], fun within => by simp at within⟩
  | cons innermost outer =>
    obtain ⟨text, said, rfl⟩ := map_eq_ok.mp added
    exact ⟨by simp [level], by simp [silent, roots], fun _ => ⟨text, said⟩⟩

theorem takes_step (steps : builder.step event = .ok next) : builder.Takes event next := by
  cases event with
  | start tag =>
    cases steps
    refine ⟨rfl, ?_, fun _ => ⟨"", rfl⟩⟩
    cases opened : builder.opened with
    | nil => simp [roots, Event.begins, opened]
    | cons innermost outer =>
      have deep : ¬ (outer.length : Int) + 1 = 0 := by omega
      simp [roots, Event.begins, opened, deep]
  | empty tag =>
    obtain ⟨same, more⟩ := roots_attach steps
    exact ⟨by simp [same, Event.nesting], by simp [more, Event.begins], fun _ => ⟨"", rfl⟩⟩
  | close name =>
    obtain ⟨opened, root⟩ := builder
    cases opened with
    | nil => cases steps
    | cons innermost outer =>
      have attached : (Builder.mk outer root).attach innermost = .ok next := steps
      obtain ⟨same, more⟩ := roots_attach attached
      refine ⟨by simp [same, Event.nesting], ?_, fun _ => ⟨"", rfl⟩⟩
      cases outer <;> simp_all [roots, Event.begins]
  | text raw => exact takes_addText rfl rfl steps
  | cdata raw => exact takes_addText rfl rfl steps
  | doctype =>
    cases steps
    exact ⟨by simp [Event.nesting], by simp [Event.begins], fun _ => ⟨"", rfl⟩⟩
  | other =>
    cases steps
    exact ⟨by simp [Event.nesting], by simp [Event.begins], fun _ => ⟨"", rfl⟩⟩

/-- Where an event can be taken, what follows it has to complete what there is then. -/
theorem awaits_step (steps : builder.step event = .ok next) (rest : List Event) :
    builder.Awaits (event :: rest) ↔ next.Awaits rest := by
  obtain ⟨depth, roots, said⟩ := takes_step steps
  constructor
  · rintro ⟨balanced, readable, single⟩
    rw [countP_outlineFrom_cons, ← depth, ← add_assoc, ← roots] at single
    rw [balanced_cons, ← depth] at balanced
    rw [readable_cons, ← depth] at readable
    exact ⟨balanced.2, readable.2, single⟩
  · rintro ⟨balanced, readable, single⟩
    rw [depth] at balanced readable single
    refine ⟨balanced_cons.mpr ⟨Int.natCast_nonneg _, balanced⟩,
      readable_cons.mpr ⟨said, readable⟩, ?_⟩
    rw [countP_outlineFrom_cons, ← add_assoc, ← roots, single]

/-- Where an event cannot be taken, nothing completes what there is. -/
theorem not_awaits_of_step {fault : Element.Fault} (fails : builder.step event = .error fault)
    (rest : List Event) : ¬ builder.Awaits (event :: rest) := by
  rintro ⟨balanced, readable, single⟩
  rw [balanced_cons] at balanced
  rw [readable_cons] at readable
  rw [countP_outlineFrom_cons] at single
  obtain ⟨opened, root⟩ := builder
  cases event with
  | start tag => cases fails
  | empty tag =>
    -- a second root
    cases opened with
    | cons parent outer => cases fails
    | nil =>
      cases root with
      | none => cases fails
      | some root => simp [roots, Event.begins] at single
  | close name =>
    cases opened with
    | nil =>
      have least := balanced.2.opened [] List.nil_prefix
      simp [nesting, Event.nesting] at least
    | cons innermost outer =>
      -- the root, closed where there is one already
      cases outer with
      | cons parent outer => cases fails
      | nil =>
        cases root with
        | none => cases fails
        | some root =>
          simp only [roots, Option.toList_some, List.length_singleton] at single
          simp at single
          omega
  | text raw =>
    cases opened with
    | nil => cases fails
    | cons innermost outer =>
      obtain ⟨text, said⟩ := readable.1 (by simp)
      have unread := map_eq_error.mp fails
      rw [show Element.resolvedText raw = .ok text from said] at unread
      cases unread
  | cdata raw => cases opened <;> cases fails
  | doctype => cases fails
  | other => cases fails

theorem awaits_nil : builder.Awaits [] ↔ ∃ tree, builder.finish = .ok tree := by
  obtain ⟨opened, root⟩ := builder
  cases opened with
  | cons innermost outer =>
    refine iff_of_false ?_ (fun found => nomatch found)
    rintro ⟨balanced, -, -⟩
    rw [balanced_nil] at balanced
    simp at balanced
    omega
  | nil =>
    have empty (before : List Event) (event : Event) : ¬ before ++ [event] <+: [] := by
      simp [List.prefix_nil]
    cases root with
    | none =>
      refine iff_of_false ?_ (fun found => nomatch found)
      rintro ⟨-, -, single⟩
      simp [roots, outlineFrom] at single
    | some root =>
      refine iff_of_true ⟨balanced_nil.mpr rfl, fun before event found => ?_, rfl⟩ ⟨root, rfl⟩
      exact absurd found (empty before event)

/-- What is read of a stack and the events that follow. -/
def complete (builder : Builder) (events : List Event) : Except Element.Fault Element := do
  let builder ← events.foldlM step builder
  builder.finish

theorem complete_cons (builder : Builder) (event : Event) (rest : List Event) :
    builder.complete (event :: rest) = builder.step event >>= fun next => next.complete rest := by
  rw [complete, List.foldlM_cons, bind_assoc]
  rfl

/-- A stack is completed by the events that it awaits, and by no others. -/
theorem exists_complete_iff :
    (∃ tree, builder.complete events = .ok tree) ↔ builder.Awaits events := by
  induction events generalizing builder with
  | nil => exact awaits_nil.symm
  | cons event rest ih =>
    rw [complete_cons]
    cases steps : builder.step event with
    | ok next => exact ih.trans (awaits_step steps rest).symm
    | error fault => exact iff_of_false (fun found => nomatch found) (not_awaits_of_step steps rest)

theorem outline_finish {tree : Element} (finished : builder.finish = .ok tree) :
    builder.outline [] = tree.outline 0 := by
  obtain ⟨opened, root⟩ := builder
  cases opened with
  | cons innermost outer => cases finished
  | nil =>
    cases root with
    | none => cases finished
    | some root =>
      cases finished
      simp [outline, outlineRead, outlineOpen, outlineFrom]

/-- The tree that completes a stack has the outline of the stack and of the events. -/
theorem outline_complete {tree : Element} (completed : builder.complete events = .ok tree) :
    builder.outline events = tree.outline 0 := by
  induction events generalizing builder with
  | nil => exact outline_finish completed
  | cons event rest ih =>
    rw [complete_cons] at completed
    obtain ⟨next, steps, completed⟩ := bind_eq_ok.mp completed
    rw [← outline_step steps rest]
    exact ih completed

end Builder

namespace Element

/-- Every fault is a response that cannot be read. -/
theorem Fault.kind_toCallError (fault : Fault) : fault.toCallError.kind = .responseUnparsable := by
  cases fault <;> rfl

/-- **Events make the tree that they outline.** They make a tree exactly if their tags form one
balanced root element and every text within it can be read; otherwise the response cannot be read.
The elements of the tree, in order, have the depths and names of the tags, and each has the text
that the events say directly within it. -/
theorem ofEvents_outline (events : List Event) :
    ((∃ tree, ofEvents events = .ok tree) ↔ OneRoot events ∧ Readable 0 events) ∧
      (∀ fault, ofEvents events = .error fault →
        fault.toCallError.kind = .responseUnparsable) ∧
        ∀ tree, ofEvents events = .ok tree → tree.outline 0 = outlineFrom 0 events := by
  refine ⟨?_, fun fault _ => fault.kind_toCallError, fun tree read => ?_⟩
  · show (∃ tree, Builder.start.complete events = .ok tree) ↔ _
    rw [Builder.exists_complete_iff]
    constructor
    · rintro ⟨balanced, readable, single⟩
      exact ⟨⟨balanced, by simpa [Builder.roots, Builder.start] using single⟩, readable⟩
    · rintro ⟨⟨balanced, single⟩, readable⟩
      exact ⟨balanced, readable, by simpa [Builder.roots, Builder.start] using single⟩
  · have completed : Builder.start.complete events = .ok tree := read
    have whole := Builder.outline_complete completed
    simpa [Builder.outline, Builder.outlineRead, Builder.outlineOpen, Builder.start]
      using whole.symm

theorem ofEvents_outline_nested :
    ∃ tree,
      ofEvents
          [ .other,
            .start ⟨Utf8.encode "q:Messages xmlns='u'"⟩,
            .text (Utf8.encode "1&lt;"),
            .start ⟨Utf8.encode "Message"⟩,
            .text (Utf8.encode "in"),
            .close (Utf8.encode "Message"),
            .empty ⟨Utf8.encode "Message"⟩,
            .cdata (Utf8.encode "2&lt;"),
            .close (Utf8.encode "q:Messages"),
            .text (Utf8.encode "&lost;") ] = .ok tree ∧
        tree.outline 0 =
          [⟨0, "Messages", "1<2&lt;"⟩, ⟨1, "Message", "in"⟩, ⟨1, "Message", ""⟩] := by
  refine ⟨.mk "Messages" "1<2&lt;" [.mk "Message" "in" [], .mk "Message" "" []], ?_⟩
  refine (and_iff_left_of_imp fun read => ?_).mpr (by cbv)
  exact ((ofEvents_outline _).2.2 _ read).trans (by decide +kernel)

end Element

end SignedQueue.Markup
