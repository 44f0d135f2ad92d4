import NodeConsole.Proofs.Answering
import NodeConsole.Proofs.Erasure
import NodeConsole.Proofs.Replies

/-!
What becomes of a call, for every outcome of its transport. A call succeeds with what a response of
the right shape holds; otherwise it fails as a remote call, with the reason that the transport
gives or with a report of each place where the response departs from that shape. On the page such
a failure is never an internal one.
-/

namespace NodeConsole

open Json (Fields Kind Value)

namespace Rpc

open Shape (Mismatch Step text? mapM_text?_iff)

inductive Shaped : (call : NodeCall) → Value → call.Reply → Prop
  | run {line : Text} {fields : Fields} {output : Text}
      (holds : Fields.get fields "output" = .string output) :
      Shaped (.run line) (.object fields) output
  | eval {fileName : Text} {fields : Fields} {output : Text}
      (holds : Fields.get fields "output" = .string output) :
      Shaped (.eval fileName) (.object fields) output
  | listPeers {fields : Fields} {peers : List Text}
      (holds : Fields.get fields "peers" = .array (peers.map .string)) :
      Shaped .listPeers (.object fields) peers

/-- A place where a value departs from the shape of a response, what it should hold and what it
holds. -/
inductive Departs : NodeCall → Value → Mismatch → Prop
  | noObject {call : NodeCall} {response : Value} (other : response.kind ≠ .object) :
      Departs call response { path := [], expected := .object, received := response.kind }
  | run {line : Text} {fields : Fields} (other : (Fields.get fields "output").kind ≠ .string) :
      Departs (.run line) (.object fields)
        { path := [.field "output"], expected := .string
          received := (Fields.get fields "output").kind }
  | eval {fileName : Text} {fields : Fields} (other : (Fields.get fields "output").kind ≠ .string) :
      Departs (.eval fileName) (.object fields)
        { path := [.field "output"], expected := .string
          received := (Fields.get fields "output").kind }
  | peers {fields : Fields} (other : (Fields.get fields "peers").kind ≠ .array) :
      Departs .listPeers (.object fields)
        { path := [.field "peers"], expected := .array
          received := (Fields.get fields "peers").kind }
  | peer {fields : Fields} {items : List Value} {index : Nat} {item : Value}
      (listed : Fields.get fields "peers" = .array items) (found : items[index]? = some item)
      (other : item.kind ≠ .string) :
      Departs .listPeers (.object fields)
        { path := [.field "peers", .item index], expected := .string, received := item.kind }

/-- Reports of all departures of a response, each once and those of peers by ascending index. -/
structure Reports (call : NodeCall) (response : Value) (reports : List Mismatch) : Prop where
  ne_nil : reports ≠ []
  mem_iff : ∀ report, report ∈ reports ↔ Departs call response report
  ascending : reports.Pairwise fun earlier later => ∃ first second, first < second ∧
    earlier.path = [.field "peers", .item first] ∧ later.path = [.field "peers", .item second]

theorem shaped?_eq_some_iff (call : NodeCall) (response : Value) (reply : call.Reply) :
    shaped? call response = some reply ↔ Shaped call response reply := by
  have text?_iff (value : Value) (given : Text) :
      text? value = some given ↔ value = .string given := by
    cases value <;> simp [text?]
  constructor
  · intro shaped
    cases response with
    | object fields =>
        cases call with
        | run line => exact .run ((text?_iff _ _).mp shaped)
        | eval fileName => exact .eval ((text?_iff _ _).mp shaped)
        | listPeers =>
            rw [shaped?] at shaped
            split at shaped
            · rename_i items listed
              rw [mapM_text?_iff] at shaped
              exact .listPeers (listed.trans (congrArg Value.array shaped))
            · cases shaped
    | _ => cases call <;> cases shaped
  · intro shaped
    cases shaped with
    | run holds => exact (text?_iff _ _).mpr holds
    | eval holds => exact (text?_iff _ _).mpr holds
    | @listPeers fields peers holds =>
        have listed : (Value.object fields).field "peers" = .array (peers.map Value.string) := holds
        rw [shaped?, listed]
        exact mapM_text?_iff.mpr rfl

theorem reports_one {call : NodeCall} {response : Value} {report : Mismatch}
    (departs : Departs call response report)
    (only : ∀ other, Departs call response other → other = report) :
    Reports call response [report] where
  ne_nil := List.cons_ne_nil report []
  mem_iff other := by
    rw [List.mem_singleton]
    constructor
    · rintro rfl
      exact departs
    · exact only other
  ascending := List.pairwise_singleton _ report

theorem reports_noObject (call : NodeCall) {response : Value} (other : response.kind ≠ .object) :
    Reports call response
      [{ path := [], expected := .object, received := response.kind }] := by
  apply reports_one (.noObject other)
  intro report departs
  cases departs with
  | noObject _ => rfl
  | _ => exact absurd rfl other

theorem reports_peers {fields : Fields} {items : List Value} {reports : List Mismatch}
    (listed : Fields.get fields "peers" = .array items)
    (refused : Shape.texts [.field "peers"] items = .error reports) :
    Reports .listPeers (.object fields) reports := by
  obtain ⟨some, rfl⟩ := (Shape.texts_eq_error_iff _ items reports).mp refused
  refine ⟨some, ?_, Shape.reports_ascending [.field "peers"] items⟩
  intro report
  rw [Shape.mem_reports_iff]
  constructor
  · rintro ⟨index, item, found, other, rfl⟩
    exact .peer listed found other
  · intro departs
    cases departs with
    | noObject noObject => exact absurd rfl noObject
    | peers noArray =>
        rw [listed] at noArray
        exact absurd rfl noArray
    | @peer _ others index item same found other =>
        rw [listed] at same
        cases same
        exact ⟨index, item, found, other, rfl⟩

theorem peers_eq_error {response : Value} {reports : List Mismatch}
    (refused : peers response = .error reports) : Reports .listPeers response reports := by
  by_cases object : response.kind = .object
  · obtain ⟨fields, rfl⟩ := (Shape.kind_object_iff response).mp object
    rw [peers] at refused
    by_cases array : (Fields.get fields "peers").kind = .array
    · obtain ⟨items, listed⟩ := (Shape.kind_array_iff _).mp array
      have held : (Value.object fields).field "peers" = .array items := listed
      rw [held] at refused
      exact reports_peers listed refused
    · have reported : reports = [{
          path := [.field "peers"], expected := .array
          received := (Fields.get fields "peers").kind }] := by
        split at refused
        · rename_i items listed
          exact absurd (congrArg Value.kind listed) array
        · exact (Except.error.inj refused).symm
      rw [reported]
      apply reports_one (.peers array)
      intro report departs
      cases departs with
      | noObject noObject => exact absurd rfl noObject
      | peers _ => rfl
      | peer listed _ _ =>
          rw [listed] at array
          exact absurd rfl array
  · rw [peers] at refused
    · cases refused
      exact reports_noObject .listPeers object
    · rintro fields rfl
      exact object rfl

theorem checked_eq_error {call : NodeCall} {response : Value} {reports : List Mismatch}
    (refused : checked call response = .error reports) : Reports call response reports := by
  cases call with
  | run line =>
      rw [checked, Shape.textField_eq_error_iff] at refused
      rcases refused with ⟨other, rfl⟩ | ⟨fields, rfl, other, rfl⟩
      · exact reports_noObject _ other
      · apply reports_one (.run other)
        intro report departs
        cases departs with
        | noObject noObject => exact absurd rfl noObject
        | run _ => rfl
  | eval fileName =>
      rw [checked, Shape.textField_eq_error_iff] at refused
      rcases refused with ⟨other, rfl⟩ | ⟨fields, rfl, other, rfl⟩
      · exact reports_noObject _ other
      · apply reports_one (.eval other)
        intro report departs
        cases departs with
        | noObject noObject => exact absurd rfl noObject
        | eval _ => rfl
  | listPeers => exact peers_eq_error refused

def Fails (call : NodeCall) (outcome : Outcome) (reason : Text) (code : Option Int)
    (details : Option Text) : Prop :=
  ∃ failure, reply call outcome = .error failure ∧
    failure = .call (callName call) reason code details ∧ failure.message = complaint call reason

def unexpected (reports : List Mismatch) : Text :=
  "Unexpected response: " ++ Shape.listing reports

/-- What becomes of a call, by the outcome of its transport. The reports of a response stand in the
reason as a document that can be read; the bound is that of the whole numbers which a numeral keeps
apart, and no array has so many items. -/
structure Classified (call : NodeCall) : Prop where
  described : ∀ (code : Option Int) (details message : Text), details ≠ "" →
    Fails call (.error { code, details := some details, message }) details code (some details)
  undescribed : ∀ (code : Option Int) (details : Option Text) (message : Text),
    details = none ∨ details = some "" →
    Fails call (.error { code, details, message }) message code details
  shaped_iff : ∀ response result,
    reply call (.value response) = .ok result ↔ Shaped call response result
  misshapen : ∀ response, (∀ result, ¬ Shaped call response result) →
    ∃ reports, Reports call response reports ∧
      Fails call (.value response) (unexpected reports) none none ∧
      ((∀ items, response.field "peers" = .array items → items.length ≤ 2 ^ 53) →
        Shape.Lists (Shape.listing reports) reports)
  exhaustive : ∀ outcome, (∃ result, reply call outcome = .ok result) ∨
    ∃ reason code details, Fails call outcome reason code details

theorem Departs.index_small {call : NodeCall} {response : Value} {report : Mismatch}
    (departs : Departs call response report)
    (short : ∀ items, response.field "peers" = .array items → items.length ≤ 2 ^ 53) {index : Nat}
    (within : .item index ∈ report.path) : index < 2 ^ 53 := by
  cases departs with
  | @peer fields items other item listed found _ =>
      have inside : other < items.length := (List.getElem?_eq_some_iff.mp found).1
      have same : index = other := by simpa using within
      have bound := short items listed
      omega
  | _ => simp at within

theorem fails_of_reply {call : NodeCall} {outcome : Outcome} {reason : Text} {code : Option Int}
    {details : Option Text}
    (failed : reply call outcome = .error (.call (callName call) reason code details)) :
    Fails call outcome reason code details :=
  ⟨_, failed, rfl, message_complaint call reason code details⟩

theorem reply_value (call : NodeCall) (response : Value) :
    reply call (.value response) =
      match checked call response with
      | .ok result => .ok result
      | .error reports => .error (.call (callName call) (unexpected reports) none none) := by
  rfl

theorem classified (call : NodeCall) : Classified call where
  described code details message present := by
    apply fails_of_reply
    simp only [reply, transportFailure, Option.getD_some, present, if_false]
  undescribed code details message absent := by
    apply fails_of_reply
    rcases absent with rfl | rfl
    · rfl
    · rfl
  shaped_iff response result := by
    rw [reply_value, ← shaped?_eq_some_iff, ← checked_eq_ok_iff]
    cases checked call response <;> simp
  misshapen response misshapen := by
    cases judged : checked call response with
    | ok result =>
        rw [checked_eq_ok_iff, shaped?_eq_some_iff] at judged
        exact absurd judged (misshapen result)
    | error reports =>
        have reported := checked_eq_error judged
        refine ⟨reports, reported, fails_of_reply ?_, ?_⟩
        · rw [reply_value, judged]
        · intro short
          exact Shape.listing_lists fun report listed index within =>
            ((reported.mem_iff report).mp listed).index_small short within
  exhaustive outcome := by
    cases outcome with
    | error cause => exact .inr ⟨_, _, _, fails_of_reply rfl⟩
    | value response =>
        cases judged : checked call response with
        | ok result => exact .inl ⟨result, by rw [reply_value, judged]⟩
        | error reports =>
            exact .inr ⟨_, none, none, fails_of_reply (by rw [reply_value, judged])⟩
    | bytes content =>
        have read := reply_bytes call content
        cases texts : Wire.texts? content with
        | some texts =>
            rw [texts] at read
            exact .inl ⟨_, read⟩
        | none =>
            rw [texts] at read
            exact .inr ⟨_, _, _, fails_of_reply read⟩

end Rpc

namespace Ui

open Http
open Http.Server (Event find? past reached received? own calls outcomes)

variable {ι : Type} [DecidableEq ι]

def OverClient (events : List (Event ι)) : Prop :=
  ∀ id reply, .reply id reply ∈ events → ∀ call, ∃ outcome, reply call = Rpc.reply call outcome

theorem expectedCalls_calling {received : Received}
    (calling : purpose received.request = .view ∨ Accepted received)
    (outcomes : List (NodeCall × Bool)) : expectedCalls received outcomes ≠ [] := by
  rcases calling with views | ⟨submits, code, submitted⟩
  · simp [expectedCalls, Purpose.calls, views]
  · simp only [expectedCalls, Purpose.calls, submits, submitted]
    split <;> simp

omit [DecidableEq ι] in
/-- The last call of a request that makes one decides its status. -/
theorem AnsweredOnce.status {id : ι} {received : Received}
    {history : List (Server.Occurrence ι)} {exchange : Exchange}
    (once : AnsweredOnce id received history exchange) (called : calls history ≠ []) {status : Int}
    (sent : exchange.response.head.map (·.status) = some status) : status = 200 ∨ status = 502 := by
  obtain ⟨answered, succeeded, failed, _⟩ := once.sent status sent
  cases last : (outcomes history).getLast? with
  | none =>
      rw [List.getLast?_eq_none_iff.mp last, List.map_nil] at answered
      exact absurd answered.symm called
  | some outcome =>
      obtain ⟨call, succeeds⟩ := outcome
      cases succeeds with
      | true => exact .inl (succeeded.mpr ⟨call, last⟩)
      | false => exact .inr (failed.mpr ⟨call, List.mem_of_getLast? last⟩)

omit [DecidableEq ι] in
theorem AnsweredOnce.head_isSome {id : ι} {received : Received}
    {history : List (Server.Occurrence ι)} {exchange : Exchange}
    (once : AnsweredOnce id received history exchange)
    (complete : received.delivery.isComplete = true)
    (answered : (outcomes history).map (·.1) = calls history) :
    exchange.response.head.isSome = true := by
  have settled := once.settled complete answered
  rcases once.response_once with ⟨_, unsent, _⟩ | ⟨status, html, whole, _⟩
  · rw [unsent] at settled
    cases settled
  · rw [whole]
    rfl

/-- Every outcome of every call is a reply to it or a failure of it, and the response to a request
that calls the node never blames the page. -/
theorem outcomes_classified :
    (∀ call, Rpc.Classified call) ∧
    ∀ events : List (Event ι), OverClient events → ∀ id received,
      received? id events = some received →
      purpose received.request = .view ∨ Accepted received →
      let history := own id (past (server .listener) events)
      ∃ exchange, find? (reached (server .listener) events) id = some exchange ∧
        (∀ status, exchange.response.head.map (·.status) = some status →
          status = 200 ∨ status = 502) ∧
        (received.delivery.isComplete = true → (outcomes history).map (·.1) = calls history →
          exchange.response.head.isSome = true) := by
  refine ⟨Rpc.classified, ?_⟩
  intro events made id received came calling history
  obtain ⟨exchange, found, once⟩ := reached_answeredOnce (.of_client made) came
  have called : calls history ≠ [] := by
    rw [once.calls_eq]
    exact expectedCalls_calling calling _
  exact ⟨exchange, found, fun status => once.status called, once.head_isSome⟩

/-- A peer that is no string is reported, and the page that waits for it answers 502. -/
theorem misshapen_peer_classified :
    let response := Value.object [("peers", .array [.string "a", .null])]
    let events : List (Event Nat) :=
      [.arrive 0 {}, .reply 0 fun call => Rpc.reply call (.value response)]
    let answer := find? (reached (server .listener) events) 0
    (∃ reports, Rpc.Reports .listPeers response reports ∧
      Rpc.Fails .listPeers (.value response) (Rpc.unexpected reports) none none ∧
      Shape.Lists (Shape.listing reports) reports) ∧
    OverClient events ∧ received? 0 events = some { request := {} } ∧ purpose {} = .view ∧
    (∃ exchange, answer = some exchange ∧
      ∀ status, exchange.response.head.map (·.status) = some status →
        status = 200 ∨ status = 502) ∧
    answer.bind (·.response.head.map (·.status)) = some 502 := by
  intro response events answer
  have made : OverClient events := by
    intro id reply sent call
    simp only [events, List.mem_cons, List.not_mem_nil, or_false, reduceCtorEq, false_or,
      Event.reply.injEq] at sent
    obtain ⟨_, rfl⟩ := sent
    exact ⟨.value response, rfl⟩
  have misshapen (result : NodeCall.Reply .listPeers) :
      ¬ Rpc.Shaped .listPeers response result := by
    rw [← Rpc.shaped?_eq_some_iff]
    exact nofun
  have short (items : List Value) (listed : response.field "peers" = .array items) :
      items.length ≤ 2 ^ 53 := by
    cases listed
    decide
  have came : received? 0 events = some { request := {} } := rfl
  have views : purpose {} = .view := by decide +kernel
  obtain ⟨classified, answered⟩ := outcomes_classified (ι := Nat)
  obtain ⟨exchange, found, status, _⟩ := answered events made 0 _ came (.inl views)
  obtain ⟨reports, reported, fails, lists⟩ := (classified .listPeers).misshapen response misshapen
  refine ⟨⟨reports, reported, fails, lists short⟩, made, came, views, ?_, ?_⟩
  · exact ⟨exchange, found, status⟩
  · decide +kernel

end Ui

end NodeConsole
