import NodeConsole.Proofs.Requests
import NodeConsole.Proofs.Shapes
import NodeConsole.Proofs.Turn

/-!
What is heard of a call, told from what the transport brings: the texts in the bytes of a response,
a value that has the shape of one, or the reason why there is neither. A call ends with what is
heard, and where nothing is, the page of its failure gives the call and the reason (`reply_heard`).
-/

namespace NodeConsole

open Json (Fields Value)

namespace Rpc

open Shape (text? Mismatch)

def assembled (call : NodeCall) (texts : List Text) : call.Reply :=
  match call with
  | .run _ => texts.getLast?.getD ""
  | .eval _ => texts.getLast?.getD ""
  | .listPeers => texts

def shaped? (call : NodeCall) (response : Value) : Option call.Reply :=
  match call with
  | .run _ => text? (response.field "output")
  | .eval _ => text? (response.field "output")
  | .listPeers =>
    match response.field "peers" with
    | .array items => items.mapM text?
    | _ => none

def departures (call : NodeCall) (response : Value) : List Mismatch :=
  match checked call response with
  | .ok _ => []
  | .error mismatches => mismatches

def hear (call : NodeCall) : Outcome → Except Text call.Reply
  | .bytes content =>
    match Wire.texts? content with
    | some texts =>
      .ok (assembled call (texts.map fun text => Text.ofString (Utf8.toStringLossy text)))
    | none => .error "Response message parsing error"
  | .value response =>
    match shaped? call response with
    | some reply => .ok reply
    | none => .error ("Unexpected response: " ++ Shape.listing (departures call response))
  | .error cause =>
    match cause.details with
    | some details => .error (if details = "" then cause.message else details)
    | none => .error cause.message

def complaint (call : NodeCall) (reason : Text) : Text :=
  match call with
  | .run _ => "Repl.Run failed: " ++ reason
  | .eval _ => "Repl.Eval failed: " ++ reason
  | .listPeers => "Diagnostics.ListPeers failed: " ++ reason

theorem checked_eq_ok_iff (call : NodeCall) (response : Value) (reply : call.Reply) :
    checked call response = .ok reply ↔ shaped? call response = some reply := by
  cases call with
  | run line => exact (Shape.textField_eq_ok_iff ..).trans (Shape.text?_eq_some_iff ..).symm
  | eval fileName => exact (Shape.textField_eq_ok_iff ..).trans (Shape.text?_eq_some_iff ..).symm
  | listPeers =>
      rw [checked, shaped?]
      cases response with
      | object fields =>
          rw [peers]
          cases Value.field (.object fields) "peers" with
          | array items => exact Shape.texts_eq_ok_iff _ items reply
          | _ => constructor <;> (intro agreed; cases agreed)
      | _ => constructor <;> (intro agreed; cases agreed)

def holding (call : NodeCall) (texts : List Text) : Value :=
  match call with
  | .run _ => .object [("output", (texts.map Value.string).getLast?.getD (.ofString ""))]
  | .eval _ => .object [("output", (texts.map Value.string).getLast?.getD (.ofString ""))]
  | .listPeers => .object [("peers", .array (texts.map Value.string))]

theorem decode?_holding (call : NodeCall) (content : List UInt8) :
    (method call).response.decode? content =
      (Wire.texts? content).map fun texts =>
        holding call (texts.map fun text => Text.ofString (Utf8.toStringLossy text)) := by
  rw [Message.decode?]
  congr 1
  funext texts
  have strings : (texts.map fun text => Value.ofString (Utf8.toStringLossy text)) =
      (texts.map fun text => Text.ofString (Utf8.toStringLossy text)).map Value.string := by
    rw [List.map_map]
    rfl
  cases call with
  | run line => exact congrArg (fun values =>
      Value.object [("output", values.getLast?.getD (.ofString ""))]) strings
  | eval fileName => exact congrArg (fun values =>
      Value.object [("output", values.getLast?.getD (.ofString ""))]) strings
  | listPeers => exact congrArg (fun values => Value.object [("peers", .array values)]) strings

theorem text?_getLast (texts : List Text) :
    text? ((texts.map Value.string).getLast?.getD (.ofString "")) =
      some (texts.getLast?.getD "") := by
  rw [List.getLast?_map]
  cases texts.getLast? <;> rfl

theorem checked_holding (call : NodeCall) (texts : List Text) :
    checked call (holding call texts) = .ok (assembled call texts) := by
  rw [checked_eq_ok_iff]
  cases call with
  | run line =>
      rw [shaped?, holding, Value.field, fields_get_only]
      exact text?_getLast texts
  | eval fileName =>
      rw [shaped?, holding, Value.field, fields_get_only]
      exact text?_getLast texts
  | listPeers =>
      simp only [shaped?, holding, Value.field, fields_get_only]
      exact Shape.mapM_text?_iff.mpr rfl

/-- The bytes of a response, if they can be read, always have the shape of one. -/
theorem reply_bytes (call : NodeCall) (content : List UInt8) :
    reply call (.bytes content) =
      match Wire.texts? content with
      | some texts =>
        .ok (assembled call (texts.map fun text => Text.ofString (Utf8.toStringLossy text)))
      | none => .error (transportFailure call unreadable) := by
  simp only [reply, decode?_holding]
  cases Wire.texts? content with
  | none => rfl
  | some texts => simp only [Option.map_some, checked_holding]

theorem message_complaint (call : NodeCall) (reason : Text) (status : Option Int)
    (details : Option Text) :
    (Failure.call (callName call) reason status details).message = complaint call reason := by
  have begun (name start : String) (same : Text.ofString name ++ " failed: " = start) :
      (Failure.call name reason status details).message = start ++ reason :=
    congrArg (fun start => start ++ reason) same
  cases call with
  | run line => exact begun "Repl.Run" "Repl.Run failed: " (by decide)
  | eval fileName => exact begun "Repl.Eval" "Repl.Eval failed: " (by decide)
  | listPeers => exact begun "Diagnostics.ListPeers" "Diagnostics.ListPeers failed: " (by decide)

end Rpc

namespace Ui

open Http (Response)

theorem ofFailure_call (call : NodeCall) (reason : Text) (status : Option Int)
    (details : Option Text) :
    Response.ofFailure (.call (Rpc.callName call) reason status details) =
      .ofError (Rpc.complaint call reason) 502 := by
  rw [← Rpc.message_complaint call reason status details]
  rfl

/-- A call succeeds with what is heard of it, and the page of one that fails gives the reason. -/
theorem reply_heard (call : NodeCall) (outcome : Rpc.Outcome) :
    match Rpc.reply call outcome with
    | .ok reply => Rpc.hear call outcome = .ok reply
    | .error cause => ∃ reason, Rpc.hear call outcome = .error reason ∧
        Response.ofFailure cause = .ofError (Rpc.complaint call reason) 502 := by
  cases outcome with
  | error cause =>
      obtain ⟨code, details, message⟩ := cause
      cases details with
      | none => exact ⟨message, rfl, ofFailure_call call message code none⟩
      | some details => exact ⟨_, rfl, ofFailure_call call _ code (some details)⟩
  | value response =>
      simp only [Rpc.reply, Rpc.hear]
      cases judged : Rpc.checked call response with
      | ok reply => rw [(Rpc.checked_eq_ok_iff call response reply).mp judged]
      | error mismatches =>
          have misshapen : Rpc.shaped? call response = none := by
            rw [Option.eq_none_iff_forall_ne_some]
            intro reply shaped
            rw [(Rpc.checked_eq_ok_iff call response reply).mpr shaped] at judged
            cases judged
          rw [misshapen, Rpc.departures, judged]
          exact ⟨_, rfl, ofFailure_call call _ none none⟩
  | bytes content =>
      rw [Rpc.reply_bytes, Rpc.hear]
      cases Wire.texts? content with
      | none => exact ⟨_, rfl, ofFailure_call call _ (some 13) _⟩
      | some texts => rfl

end Ui

end NodeConsole
