import Mathlib
import SignedQueue.Reply
import SignedQueue.Proofs.WrittenEnvelope
/-!
**A refused request fails as its envelope says, or with a response that cannot be read.** An
envelope is read with its code, its message and its ids, in whatever order these stand and whatever
else stands among them. A body that is no envelope is shown as far as it fits into a line.

* `IsLongestHead`: the longest beginning of some characters that fits;
* `Response.failed_of_decode_error`: the error of a body that is no envelope;
* `Response.kind_refusal`: an envelope, or a response that cannot be read;
* `Response.refusal_tells`: what every response comes to, unless its reader breaks down;
* `Response.refusal_breaksDown`: a body without a code at which it does.
-/

namespace SignedQueue

open Markup Envelope

/-- The longest beginning of some characters that has at most so many of them. -/
structure IsLongestHead (most : Nat) (all : List Char) (shown : String) : Prop where
  head : shown.toList <+: all
  fits : shown.length ≤ most
  longest : ∀ other, other <+: all → other.length ≤ most → other <+: shown.toList

theorem isLongestHead_take (most : Nat) (all : List Char) :
    IsLongestHead most all (String.ofList (all.take most)) where
  head := by
    rw [String.toList_ofList]
    exact List.take_prefix most all
  fits := by
    rw [String.length_ofList, List.length_take]
    exact min_le_left _ _
  longest other head fits := by
    rw [String.toList_ofList]
    exact List.prefix_take_iff.mpr ⟨head, fits⟩

namespace Response

variable {response : Response}

/-! ### Bodies that are no envelope -/

/-- A body that is no envelope makes a response that cannot be read, and is shown as far as it fits.
-/
theorem failed_of_decode_error {fault : Envelope.Fault}
    (fails : ErrorEnvelope.decode response.body = .error fault) (whole : fault ≠ .partedText) :
    ∃ error shown, response.refusal = .failed error ∧ error.kind = .responseUnparsable ∧
      error.context = [response.statusLine, "body: " ++ shown] ∧
        IsLongestHead 200 (Utf8.lossyChars response.body) shown := by
  obtain ⟨error, meant, kind, bare⟩ : ∃ error, ErrorEnvelope.interruption fault = .failed error ∧
      error.kind = .responseUnparsable ∧ error.context = [] := by
    cases fault with
    | partedText => exact absurd rfl whole
    | _ => exact ⟨_, rfl, rfl, rfl⟩
  have read : ErrorEnvelope.read response.body = .error (.failed error) := by
    rw [ErrorEnvelope.read, fails, ← meant]
    rfl
  refine ⟨response.unreadable error, _, ?_, kind, ?_, isLongestHead_take 200 _⟩
  · rw [refusal, read]
  · show error.context ++ [response.statusLine] ++ [response.bodyLine] = _
    rw [bare]
    rfl

/-- The failure that a response reports is that of an envelope, or the response cannot be read. -/
theorem kind_refusal {error : CallError} (refused : response.refusal = .failed error) :
    error.kind = .service ∨ error.kind = .responseUnparsable := by
  unfold refusal at refused
  split at refused
  · cases refused
    exact .inl rfl
  · rename_i reported read
    cases refused
    obtain ⟨fault, -, meant⟩ := mapError_eq_error.mp read
    unfold ErrorEnvelope.interruption at meant
    split at meant <;> cases meant <;> exact .inr rfl
  · cases refused

theorem decode_of_brokeDown {said : Option String} (broke : response.refusal = .brokeDown said) :
    ErrorEnvelope.decode response.body = .error .partedText := by
  cases outcome : ErrorEnvelope.decode response.body with
  | ok envelope =>
    rw [refusal, ErrorEnvelope.read, outcome] at broke
    cases broke
  | error fault =>
    by_contra other
    obtain ⟨error, _, refused, -⟩ :=
      failed_of_decode_error outcome fun parted => other (congrArg Except.error parted)
    rw [refused] at broke
    cases broke

theorem brokeDown_of_partedText
    (parted : ErrorEnvelope.decode response.body = .error .partedText) :
    ∃ said, response.refusal = .brokeDown said := by
  rw [refusal, ErrorEnvelope.read, parted]
  exact ⟨_, rfl⟩

theorem decode_ne_partedText (undeclared : ¬ DeclaresInChild response.body) :
    ErrorEnvelope.decode response.body ≠ .error .partedText := by
  intro parted
  rcases bind_eq_error.mp parted with noText | ⟨_, -, rest⟩
  · obtain ⟨fault, -, other⟩ := mapError_eq_error.mp noText
    cases other
  · rcases bind_eq_error.mp rest with fails | ⟨fields, -, lacks⟩
    · exact readFields_ne_partedText undeclared fails
    · unfold ErrorEnvelope.ofFields at lacks
      split at lacks <;> cases lacks

theorem decode_of_no_text (noText : ∀ text, response.body ≠ Utf8.encode text) :
    ∃ fault, ErrorEnvelope.decode response.body = .error (.notText fault) := by
  cases outcome : Utf8.chars response.body with
  | error fault =>
    refine ⟨fault, ?_⟩
    rw [ErrorEnvelope.decode, outcome]
    rfl
  | ok characters =>
    refine absurd ?_ (noText (String.ofList characters))
    rw [Utf8.encode, String.toList_ofList]
    exact Utf8.chars_eq_ok_iff.mp outcome

theorem decode_of_not_hasCode (codeless : ¬ HasCode response.body) :
    ∃ fault, ErrorEnvelope.decode response.body = .error fault := by
  cases outcome : ErrorEnvelope.decode response.body with
  | error fault => exact ⟨fault, rfl⟩
  | ok envelope =>
    obtain ⟨_, _, rest⟩ := bind_eq_ok.mp outcome
    obtain ⟨fields, read, found⟩ := bind_eq_ok.mp rest
    rw [ErrorEnvelope.ofFields, lookup_code_of_not_hasCode codeless read] at found
    cases found

/-! ### Envelopes -/

/-- A written envelope makes the error that the service reports. The envelope names the request, or
else the header does. -/
theorem refusal_document {root : String} {content : Content} {notice : Notice}
    (plain : IsPlainName root) (laid : LaysOut content.children notice.text)
    (written : response.body = Utf8.encode (content.document root)) :
    response.refusal = .failed
      { kind := .service
        code := notice.code
        message := notice.message.getD ""
        requestId := notice.requestId.or (response.header? "x-mns-request-id")
        hostId := notice.hostId
        context := [response.statusLine] } := by
  have read : ErrorEnvelope.read response.body = .ok notice.envelope := by
    rw [ErrorEnvelope.read, written, decode_document plain laid]
    rfl
  rw [refusal, read]
  rfl

/-- **A refusal is what its envelope says, or a response that cannot be read.** Its reader breaks
down only where a declaration of the document's type stands directly in a child of the root. The
fields of an envelope are read in any order, among texts and elements that are no fields. A body
that is no text, or that has no code, makes a response that cannot be read, unless the reader breaks
down; the error gives the status, and as much of the body as fits into a line. -/
theorem refusal_tells (response : Response) :
    (∀ error, response.refusal = .failed error →
      error.kind = .service ∨ error.kind = .responseUnparsable) ∧
    (∀ said, response.refusal = .brokeDown said →
      (∃ text, response.body = Utf8.encode text) ∧ DeclaresInChild response.body) ∧
    (∀ (root : String) (content : Content) (notice : Notice), IsPlainName root →
      LaysOut content.children notice.text →
      response.body = Utf8.encode (content.document root) →
        response.refusal = .failed
          { kind := .service
            code := notice.code
            message := notice.message.getD ""
            requestId := notice.requestId.or (response.header? "x-mns-request-id")
            hostId := notice.hostId
            context := [response.statusLine] }) ∧
    ((∀ text, response.body ≠ Utf8.encode text) ∨ ¬ HasCode response.body →
      (∃ said, response.refusal = .brokeDown said) ∨
        ∃ error shown, response.refusal = .failed error ∧ error.kind = .responseUnparsable ∧
          error.context = [response.statusLine, "body: " ++ shown] ∧
            IsLongestHead 200 (Utf8.lossyChars response.body) shown) := by
  refine ⟨fun error refused => kind_refusal refused, fun said broke => ⟨?_, ?_⟩,
    fun root content notice plain laid written => refusal_document plain laid written,
    fun lacks => ?_⟩
  · by_contra noText
    rw [not_exists] at noText
    obtain ⟨fault, fails⟩ := decode_of_no_text noText
    rw [decode_of_brokeDown broke] at fails
    cases fails
  · by_contra undeclared
    exact decode_ne_partedText undeclared (decode_of_brokeDown broke)
  · obtain ⟨fault, fails⟩ : ∃ fault, ErrorEnvelope.decode response.body = .error fault := by
      rcases lacks with noText | codeless
      · obtain ⟨fault, fails⟩ := decode_of_no_text noText
        exact ⟨_, fails⟩
      · exact decode_of_not_hasCode codeless
    by_cases parted : fault = .partedText
    · exact .inl (brokeDown_of_partedText (parted ▸ fails))
    · exact .inr (failed_of_decode_error fails parted)

/-- A response of a gateway, which names the request. -/
def relayed (body : Octets) : Response where
  status := ⟨502⟩
  headers := [("X-Mns-Request-Id", Utf8.encode "R1")]
  body := body

/-- An envelope on several lines, with its host before its code, and with a code and a request id in
an element that is no field. -/
def scattered (fields : List (String × Element)) : Content where
  parts :=
    ("\n  ", .mk "Detail" "at <b>" [.mk "Code" "0" [], .mk "RequestId" "0" []]) ::
      ("\n  ", .mk "HostId" "h" []) :: ("\n  ", .mk "Code" "Q&A" []) :: fields
  ending := "\n"

/-- The header names the request only where the envelope does not. A page of a gateway is no
envelope, and neither is a body that is no text. -/
theorem refusal_tells_relayed :
    (relayed (Utf8.encode ((scattered []).document "Error"))).refusal = .failed
        { kind := .service
          code := "Q&A"
          message := ""
          requestId := some "R1"
          hostId := some "h"
          context := ["status: 502 Bad Gateway"] } ∧
      (relayed (Utf8.encode ((scattered [("", .mk "RequestId" "R2" []),
          ("", .mk "Message" "1 < 2" [])]).document "Error"))).refusal =
        .failed
          { kind := .service
            code := "Q&A"
            message := "1 < 2"
            requestId := some "R2"
            hostId := some "h"
            context := ["status: 502 Bad Gateway"] } ∧
      ∀ body ∈ [[0x61, 0xFF], Utf8.encode "<html><body/></html>"],
        ∃ error shown, (relayed body).refusal = .failed error ∧
          error.kind = .responseUnparsable ∧
            error.context = ["status: 502 Bad Gateway", "body: " ++ shown] ∧
              IsLongestHead 200 (Utf8.lossyChars body) shown := by
  have whole (body : Octets) : (relayed body).body = body := by rw [relayed]
  have named (body : Octets) : (relayed body).header? "x-mns-request-id" = some "R1" := by
    have bare : (relayed []).header? "x-mns-request-id" = some "R1" := by decide +kernel
    exact bare
  have status (body : Octets) : (relayed body).statusLine = "status: 502 Bad Gateway" := by
    have bare : (relayed []).statusLine = "status: 502 Bad Gateway" := by decide +kernel
    exact bare
  have written (fields : List (String × Element)) (notice : Notice)
      (laid : LaysOut (scattered fields).children notice.text) :=
    (refusal_tells (relayed (Utf8.encode ((scattered fields).document "Error")))).2.2.1 "Error"
      (scattered fields) notice (by decide) laid (whole _)
  have breaks (body : Octets) := (refusal_tells (relayed body)).2.1
  have unreadable (body : Octets) := (refusal_tells (relayed body)).2.2.2
  have page : (scan (Utf8.encode "<html><body/></html>")).events =
      [.start ⟨Utf8.encode "html"⟩, .empty ⟨Utf8.encode "body"⟩, .close (Utf8.encode "html")] := by
    decide +kernel
  have noText : ∀ text, [0x61, 0xFF] ≠ Utf8.encode text := by
    intro text same
    have broken : (Utf8.decode [0x61, 0xFF]).isOk = false := by decide +kernel
    rw [Utf8.decode_eq_ok_iff.mpr same] at broken
    cases broken
  have noCode : ¬ HasCode (Utf8.encode "<html><body/></html>") := by
    refine not_hasCode_of_tags fun tag member => ?_
    simp only [page, List.mem_cons, List.not_mem_nil, or_false, Event.start.injEq,
      Event.empty.injEq, reduceCtorEq, false_or] at member
    rcases member with rfl | rfl <;> decide +kernel
  simp only [named, status, whole] at written breaks unreadable
  refine ⟨written [] ⟨"Q&A", none, none, some "h"⟩ ?_,
    written [("", .mk "RequestId" "R2" []), ("", .mk "Message" "1 < 2" [])]
      ⟨"Q&A", some "1 < 2", some "R2", some "h"⟩ ?_, ?_⟩
  · exact ⟨by decide, fun field => by cases field <;> rfl, fun field => by cases field <;> decide⟩
  · exact ⟨by decide, fun field => by cases field <;> rfl, fun field => by cases field <;> decide⟩
  · rw [List.forall_mem_cons, List.forall_mem_singleton]
    constructor
    · refine (unreadable _ (.inl noText)).resolve_left fun ⟨said, broke⟩ => ?_
      obtain ⟨text, same⟩ := (breaks _ said broke).1
      exact noText text same
    · refine (unreadable _ (.inr noCode)).resolve_left fun ⟨said, broke⟩ => ?_
      have declared := Occurs.mem (breaks _ said broke).2
      simp [page] at declared

/-- A body without a code, in which a declaration parts the text of a message. -/
def parted : Response where
  status := ⟨403⟩
  headers := []
  body := Utf8.encode "<Error><Message>a<!DOCTYPE x>b</Message></Error>"

/-- The reader does not survive a text that is parted: there is no error at all. -/
theorem refusal_breaksDown :
    ¬ HasCode parted.body ∧
      parted.refusal = .brokeDown (some "internal error: entered unreachable code") := by
  have events : (scan parted.body).events =
      [.start ⟨Utf8.encode "Error"⟩, .start ⟨Utf8.encode "Message"⟩, .text [97], .doctype,
        .text [98], .close (Utf8.encode "Message"), .close (Utf8.encode "Error")] := by
    decide +kernel
  refine ⟨not_hasCode_of_tags fun tag member => ?_, by decide +kernel⟩
  simp only [events, List.mem_cons, List.not_mem_nil, or_false, Event.start.injEq, reduceCtorEq]
    at member
  rcases member with rfl | rfl <;> decide +kernel

end Response

end SignedQueue
