import NodeConsole.Proofs.Turn

/-!
What becomes of the pages that a handler sends before it returns or fails. `Performs` tells which
pages those are, `Settled` what the client gets and what is logged: the first page stands, and a
failure is shown only where nothing was sent. Each step that carries a handler on leads there
(`run_furthers`), and what the client has seen stays.
-/

namespace NodeConsole.Http

structure Sending where
  status : Int
  html : Text

namespace Sending

def ofError (message : Text) (status : Int) : Sending where
  status := status
  html := Page.errorPage (Number.integerText status) message

def response (sending : Sending) : Response :=
  .whole sending.status sending.html

end Sending

def Response.after : List Sending → Response
  | [] => {}
  | first :: _ => first.response

def Response.Kept (earlier later : Response) : Prop :=
  earlier.head.isSome = true → later.head = earlier.head ∧ later.body = earlier.body

theorem Response.Kept.trans {earlier middle later : Response} (kept : earlier.Kept middle)
    (further : middle.Kept later) : earlier.Kept later := by
  intro headed
  obtain ⟨head, body⟩ := kept headed
  rw [← head] at headed
  obtain ⟨sameHead, sameBody⟩ := further headed
  exact ⟨sameHead.trans head, sameBody.trans body⟩

namespace Handler

def performing : List Sending → Except Failure Unit → Handler
  | [], .ok () => .finish
  | [], .error cause => .fail cause
  | sending :: rest, ending => .send sending.status sending.html (performing rest ending)

/-- The pages that a handler sends and how it ends, by what it gets to read on its way. -/
inductive Performs : Handler → List Sending → Except Failure Unit → Prop
  | finish : Performs .finish [] (.ok ())
  | fail {cause} : Performs (.fail cause) [] (.error cause)
  | send {status html next sends ending} (rest : Performs next sends ending) :
      Performs (.send status html next) (⟨status, html⟩ :: sends) ending
  | readForm {next sends ending} (form : Form) (rest : Performs (next form) sends ending) :
      Performs (.readForm next) sends ending
  | formFails {next} (cause : Failure) : Performs (.readForm next) [] (.error cause)
  | ask {call next sends ending} (reply : call.Reply) (rest : Performs (next reply) sends ending) :
      Performs (.ask call next) sends ending
  | callFails {call next} (cause : Failure) : Performs (.ask call next) [] (.error cause)
  | submit {code next sends ending} (rest : Performs next sends ending) :
      Performs (.submit code next) sends ending
  | complete {store next sends ending} (rest : Performs next sends ending) :
      Performs (.complete store next) sends ending
  | view {next sends ending} (session : Session) (rest : Performs (next session) sends ending) :
      Performs (.view next) sends ending

def Leads (handler : Handler) (sent : List Sending) (next : Handler) : Prop :=
  ∀ sends ending, Performs next sends ending → Performs handler (sent ++ sends) ending

theorem performs_total (handler : Handler) : ∃ sends ending, Performs handler sends ending := by
  induction handler with
  | finish => exact ⟨[], .ok (), .finish⟩
  | fail cause => exact ⟨[], .error cause, .fail⟩
  | send status html next ih =>
      obtain ⟨sends, ending, rest⟩ := ih
      exact ⟨_, ending, .send rest⟩
  | readForm next ih => exact ⟨[], .error .textless, .formFails _⟩
  | ask call next ih => exact ⟨[], .error .textless, .callFails _⟩
  | submit code next ih =>
      obtain ⟨sends, ending, rest⟩ := ih
      exact ⟨sends, ending, .submit rest⟩
  | complete store next ih =>
      obtain ⟨sends, ending, rest⟩ := ih
      exact ⟨sends, ending, .complete rest⟩
  | view next ih =>
      obtain ⟨sends, ending, rest⟩ := ih {}
      exact ⟨sends, ending, .view {} rest⟩

theorem performs_performing_iff (sends made : List Sending) (ending outcome : Except Failure Unit) :
    Performs (performing sends ending) made outcome ↔ made = sends ∧ outcome = ending := by
  induction sends generalizing made with
  | nil =>
      cases ending with
      | ok _ =>
          constructor
          · intro performs
            cases performs
            exact ⟨rfl, rfl⟩
          · rintro ⟨rfl, rfl⟩
            exact .finish
      | error cause =>
          constructor
          · intro performs
            cases performs
            exact ⟨rfl, rfl⟩
          · rintro ⟨rfl, rfl⟩
            exact .fail
  | cons first rest ih =>
      constructor
      · intro performs
        cases performs with
        | send performs =>
            obtain ⟨rfl, rfl⟩ := (ih _).mp performs
            exact ⟨rfl, rfl⟩
      · rintro ⟨rfl, rfl⟩
        exact .send ((ih rest).mpr ⟨rfl, rfl⟩)

inductive Advanced (handler : Handler) (sent : List Sending) : Response → Progress → Prop
  | awaitForm {more next} (leads : handler.Leads more (.readForm next))
      (few : (sent ++ more).length ≤ 1) :
      Advanced handler sent (.after (sent ++ more)) (.awaitForm next)
  | awaitReply {more call next} (leads : handler.Leads more (.ask call next))
      (few : (sent ++ more).length ≤ 1) :
      Advanced handler sent (.after (sent ++ more)) (.awaitReply call next)
  | ended {more ending} (performs : handler.Performs more ending)
      (few : (sent ++ more).length ≤ 1) :
      Advanced handler sent (.after (sent ++ more)) (.done ending)
  | refused {more ending} (performs : handler.Performs more ending)
      (many : 2 ≤ (sent ++ more).length) :
      Advanced handler sent (.after (sent ++ more)) (.done (.error .headersSent))

theorem Leads.refl (handler : Handler) : handler.Leads [] handler :=
  fun _ _ performs => performs

theorem Leads.trans {handler middle next : Handler} {first second : List Sending}
    (leads : handler.Leads first middle) (further : middle.Leads second next) :
    handler.Leads (first ++ second) next := by
  intro sends ending performs
  rw [List.append_assoc]
  exact leads _ _ (further _ _ performs)

theorem Advanced.of_leads {handler next : Handler} {sent new : List Sending} {response : Response}
    {progress : Progress} (leads : handler.Leads new next)
    (advanced : next.Advanced (sent ++ new) response progress) :
    handler.Advanced sent response progress := by
  cases advanced with
  | awaitForm further few =>
      rw [List.append_assoc] at few ⊢
      exact .awaitForm (leads.trans further) few
  | awaitReply further few =>
      rw [List.append_assoc] at few ⊢
      exact .awaitReply (leads.trans further) few
  | ended performs few =>
      rw [List.append_assoc] at few ⊢
      exact .ended (leads _ _ performs) few
  | refused performs many =>
      rw [List.append_assoc] at many ⊢
      exact .refused (leads _ _ performs) many

theorem Advanced.of_silent {handler next : Handler} {sent : List Sending} {response : Response}
    {progress : Progress} (leads : handler.Leads [] next)
    (advanced : next.Advanced sent response progress) :
    handler.Advanced sent response progress := by
  apply Advanced.of_leads leads
  rw [List.append_nil]
  exact advanced

/-- A handler never gets past its second page. -/
theorem advance_advanced (handler : Handler) (turn : Turn Unit) (sent : List Sending)
    (few : sent.length ≤ 1) (stands : turn.response = .after sent) :
    handler.Advanced sent (handler.advance .none turn).1.response
      (handler.advance .none turn).2 := by
  induction handler generalizing turn sent with
  | finish =>
      have ended : Handler.finish.Advanced sent (.after (sent ++ [])) (.done (.ok ())) :=
        .ended .finish (by simpa using few)
      simpa [advance, stands] using ended
  | fail cause =>
      have ended : (Handler.fail cause).Advanced sent (.after (sent ++ []))
          (.done (.error cause)) := .ended .fail (by simpa using few)
      simpa [advance, stands] using ended
  | send status html next ih =>
      cases sent with
      | nil =>
          have opened : turn.response.sendHtml html status =
              .ok (Sending.response ⟨status, html⟩) := by
            rw [stands]
            rfl
          have leads : (Handler.send status html next).Leads [⟨status, html⟩] next :=
            fun _ _ rest => .send rest
          simp only [advance, opened]
          exact .of_leads leads (ih _ [⟨status, html⟩] (Nat.le_refl 1) rfl)
      | cons first rest =>
          -- the head is sent, so what the handler would go on to do never happens
          obtain ⟨sends, ending, performs⟩ := next.performs_total
          have closed : turn.response.sendHtml html status = .error .headersSent := by
            rw [stands]
            rfl
          have refused : (Handler.send status html next).advance .none turn =
              (turn, .done (.error .headersSent)) := by
            simp only [advance, closed]
          have many : 2 ≤ ((first :: rest) ++ (⟨status, html⟩ :: sends)).length := by
            simp only [List.length_append, List.length_cons]
            omega
          rw [refused, stands]
          exact .refused (.send performs) many
  | readForm next ih =>
      have awaits : (Handler.readForm next).Advanced sent (.after (sent ++ [])) (.awaitForm next) :=
        .awaitForm (.refl _) (by simpa using few)
      simpa [advance, stands, Surroundings.none] using awaits
  | ask call next ih =>
      have awaits : (Handler.ask call next).Advanced sent (.after (sent ++ []))
          (.awaitReply call next) := .awaitReply (.refl _) (by simpa using few)
      simpa [advance, stands, Surroundings.none] using awaits
  | submit code next ih =>
      exact .of_silent (fun _ _ rest => .submit rest) (ih _ sent few stands)
  | complete store next ih =>
      exact .of_silent (fun _ _ rest => .complete rest) (ih _ sent few stands)
  | view next ih =>
      exact .of_silent (fun _ _ rest => .view turn.session rest)
        (ih turn.session turn sent few stands)

theorem advance_kept (handler : Handler) (turn : Turn Unit)
    (headed : turn.response.head.isSome = true) :
    (handler.advance .none turn).1.response = turn.response := by
  induction handler generalizing turn with
  | send status html next ih =>
      obtain ⟨head, sent⟩ := Option.isSome_iff_exists.mp headed
      have closed : turn.response.sendHtml html status = .error .headersSent := by
        simp only [Response.sendHtml, Response.writeHead, sent]
        rfl
      simp only [advance, closed]
  | submit code next ih => exact ih _ headed
  | complete store next ih => exact ih _ headed
  | view next ih => exact ih turn.session turn headed
  | _ => rfl

end Handler

inductive Blames : Failure → Int → Text → Prop
  | request {message status} : Blames (.request message status) status message
  | missingField {field} : Blames (.missingField field) 400 ("Missing form field: " ++ field)
  | call {method message code details} :
      Blames (.call method message code details) 502 (method ++ " failed: " ++ message)
  | bare {text} : Blames (.bare text) 500 "Internal Server Error"
  | other {cause} (noRequest : ∀ message status, cause ≠ .request message status)
      (noField : ∀ field, cause ≠ .missingField field)
      (noCall : ∀ method message code details, cause ≠ .call method message code details)
      (noBare : ∀ text, cause ≠ .bare text) : Blames cause 500 cause.message

theorem blames (cause : Failure) : Blames cause cause.responseStatus cause.pageMessage := by
  cases cause with
  | request message status => exact .request
  | missingField field => exact .missingField
  | call method message code details => exact .call
  | bare text => exact .bare
  | _ => exact .other nofun nofun nofun nofun

def unhandledEntry (cause : Failure) : LogEntry where
  level := .error
  text := "Unhandled request error:"
  cause := some cause

/-- The response to a handler that sends these pages and ends like this, and what is logged. -/
inductive Settled (heading : Text) :
    List Sending → Except Failure Unit → Response → List LogEntry → Prop
  | unsent : Settled heading [] (.ok ()) {} []
  | sent {page} : Settled heading [page] (.ok ()) page.response []
  | failed {cause status message} (blamed : Blames cause status message) :
      Settled heading [] (.error cause) (.ofError message status) [failureEntry heading cause]
  | failedLate {page cause} :
      Settled heading [page] (.error cause) { page.response with ends := 2 }
        [failureEntry heading cause, unhandledEntry .headersSent]
  | sentAgain {first second rest ending} :
      Settled heading (first :: second :: rest) ending { first.response with ends := 2 }
        [failureEntry heading .headersSent, unhandledEntry .headersSent]

inductive Fares (heading : Text) (handler : Handler) : Exchange → List LogEntry → Prop
  | awaitForm {sent next body} (leads : handler.Leads sent (.readForm next))
      (few : sent.length ≤ 1) :
      Fares heading handler
        { heading, response := .after sent, body, progress := .awaitForm next } []
  | awaitReply {sent call next body} (leads : handler.Leads sent (.ask call next))
      (few : sent.length ≤ 1) :
      Fares heading handler
        { heading, response := .after sent, body, progress := .awaitReply call next } []
  | done {sends ending response body outcome logs} (performs : handler.Performs sends ending)
      (settled : Settled heading sends ending response logs) :
      Fares heading handler { heading, response, body, progress := .done outcome } logs

theorem Fares.contained {heading : Text} {handler : Handler} {exchange : Exchange}
    {logs : List LogEntry} (fares : Fares heading handler exchange logs) :
    exchange.rejected = none := by
  cases fares <;> rfl

theorem Fares.of_done {heading : Text} {handler : Handler} {exchange : Exchange}
    {logs : List LogEntry} (fares : Fares heading handler exchange logs)
    (done : exchange.progress.isDone = true) :
    ∃ sends ending, handler.Performs sends ending ∧
      Settled heading sends ending exchange.response logs := by
  cases fares with
  | done performs settled => exact ⟨_, _, performs, settled⟩
  | _ => cases done

theorem Fares.of_waiting {heading : Text} {handler : Handler} {exchange : Exchange}
    {logs : List LogEntry} (fares : Fares heading handler exchange logs)
    (waits : exchange.progress.isDone = false) :
    logs = [] ∧ ∃ sent, sent.length ≤ 1 ∧ exchange.response = .after sent := by
  cases fares with
  | awaitForm leads few => exact ⟨rfl, _, few, rfl⟩
  | awaitReply leads few => exact ⟨rfl, _, few, rfl⟩
  | done performs settled => cases waits

/-- A handler that does nothing but send is never waited for. -/
theorem Fares.settled {heading : Text} {sends : List Sending} {ending : Except Failure Unit}
    {exchange : Exchange} {logs : List LogEntry}
    (fares : Fares heading (.performing sends ending) exchange logs) :
    Settled heading sends ending exchange.response logs := by
  have one {made : List Sending} {outcome : Except Failure Unit}
      (performs : (Handler.performing sends ending).Performs made outcome) :
      made = sends ∧ outcome = ending :=
    (Handler.performs_performing_iff sends made ending outcome).mp performs
  cases fares with
  | awaitForm leads few =>
      have first := (one (leads _ _ (.formFails .textless))).2
      have second := (one (leads _ _ (.formFails .headersSent))).2
      cases first.trans second.symm
  | awaitReply leads few =>
      have first := (one (leads _ _ (.callFails .textless))).2
      have second := (one (leads _ _ (.callFails .headersSent))).2
      cases first.trans second.symm
  | done performs settled =>
      obtain ⟨rfl, rfl⟩ := one performs
      exact settled

theorem conclude_settled {heading : Text} {sends : List Sending} {ending : Except Failure Unit}
    {conclusion : Exchange.Conclusion} (few : sends.length ≤ 1)
    (concluded : Exchange.conclude .listener heading (.after sends) ending = conclusion) :
    Settled heading sends ending conclusion.response conclusion.logs ∧
      conclusion.rejected = none := by
  subst concluded
  match sends, ending with
  | [], .ok () => exact ⟨.unsent, rfl⟩
  | [], .error cause => exact ⟨.failed (blames cause), rfl⟩
  | [page], .ok () => exact ⟨.sent, rfl⟩
  | [page], .error cause => exact ⟨.failedLate, rfl⟩
  | _ :: _ :: _, _ => simp at few

theorem run_fares {heading : Text} {handler next : Handler} {sent : List Sending}
    (leads : handler.Leads sent next) (few : sent.length ≤ 1) (body : Body) (progress : Progress)
    (session : Session) :
    let step := Exchange.run .listener .none
      { heading, response := .after sent, body, progress } next session ()
    Fares heading handler step.exchange step.logs := by
  have advanced : handler.Advanced [] _ _ :=
    .of_leads leads (Handler.advance_advanced next
      { session, response := .after sent, world := () } sent few rfl)
  unfold Exchange.run
  simp only
  generalize next.advance .none { session, response := .after sent, world := () } = reached
    at advanced
  obtain ⟨⟨after, response, world, calls⟩, stands⟩ := reached
  simp only at advanced ⊢
  cases advanced with
  | awaitForm further few => exact .awaitForm further few
  | awaitReply further few => exact .awaitReply further few
  | @ended more ending performs few =>
      simp only
      generalize concluded : Exchange.conclude .listener heading _ _ = conclusion
      obtain ⟨settled, contained⟩ := conclude_settled few concluded
      rw [contained]
      exact .done performs settled
  | @refused more ending performs many =>
      match more, many with
      | _ :: _ :: _, _ => exact .done performs .sentAgain

/-- A step about a request brings its exchange on, and what its client sees stays. -/
def Furthers (heading : Text) (handler : Handler) (exchange : Exchange) (logs : List LogEntry)
    (step : Step Unit) : Prop :=
  Fares heading handler step.exchange (logs ++ step.logs) ∧
    exchange.response.Kept step.exchange.response

theorem run_furthers {heading : Text} {handler next : Handler} {sent : List Sending}
    (leads : handler.Leads sent next) (few : sent.length ≤ 1) (body : Body) (progress : Progress)
    (session : Session) :
    let exchange : Exchange := { heading, response := .after sent, body, progress }
    Furthers heading handler exchange [] (exchange.run .listener .none next session ()) := by
  intro exchange
  refine ⟨run_fares leads few body progress session, ?_⟩
  intro headed
  cases sent with
  | nil => cases headed
  | cons first rest =>
      have kept := Handler.advance_kept next
        { session, response := first.response, world := () } rfl
      simp only [exchange, Exchange.run, Response.after] at kept ⊢
      generalize next.advance .none { session, response := first.response, world := () } = reached
        at kept
      obtain ⟨⟨after, response, world, calls⟩, stands⟩ := reached
      simp only at kept
      subst kept
      cases stands with
      | done outcome => cases outcome <;> exact ⟨rfl, rfl⟩
      | _ => exact ⟨rfl, rfl⟩

theorem still_furthers {heading : Text} {handler : Handler} {exchange : Exchange}
    {logs : List LogEntry} (fares : Fares heading handler exchange logs) (session : Session) :
    Furthers heading handler exchange logs (exchange.still session ()) := by
  refine ⟨?_, fun _ => ⟨rfl, rfl⟩⟩
  rw [Exchange.still, List.append_nil]
  exact fares

theorem receive_furthers {heading : Text} {handler : Handler} {exchange : Exchange}
    {logs : List LogEntry} (fares : Fares heading handler exchange logs) (content : List UInt8)
    (session : Session) :
    Furthers heading handler exchange logs ((exchange.receive content).still session ()) := by
  cases fares with
  | awaitForm leads few => exact ⟨.awaitForm leads few, fun _ => ⟨rfl, rfl⟩⟩
  | awaitReply leads few => exact still_furthers (.awaitReply leads few) session
  | done performs settled => exact still_furthers (.done performs settled) session

theorem resumeForm_furthers {heading : Text} {handler : Handler} {exchange : Exchange}
    {logs : List LogEntry} (fares : Fares heading handler exchange logs)
    (form : Except Failure Form) (session : Session) :
    Furthers heading handler exchange logs
      (exchange.resumeForm .listener .none form session ()) := by
  cases fares with
  | @awaitForm sent next body leads few =>
      cases form with
      | ok fields =>
          have answered : handler.Leads (sent ++ []) (next fields) :=
            leads.trans fun _ _ rest => .readForm fields rest
          rw [List.append_nil] at answered
          exact run_furthers answered few body _ session
      | error cause =>
          have answered : handler.Leads (sent ++ []) (.fail cause) := by
            refine leads.trans fun sends ending performs => ?_
            cases performs
            exact .formFails cause
          rw [List.append_nil] at answered
          exact run_furthers answered few body _ session
  | awaitReply leads few => exact still_furthers (.awaitReply leads few) session
  | done performs settled => exact still_furthers (.done performs settled) session

theorem resumeReply_furthers {heading : Text} {handler : Handler} {exchange : Exchange}
    {logs : List LogEntry} (fares : Fares heading handler exchange logs)
    (reply : (call : NodeCall) → Except Failure call.Reply) (session : Session) :
    Furthers heading handler exchange logs
      (exchange.resumeReply .listener .none reply session ()) := by
  cases fares with
  | awaitForm leads few => exact still_furthers (.awaitForm leads few) session
  | @awaitReply sent call next body leads few =>
      simp only [Exchange.resumeReply]
      cases reply call with
      | ok result =>
          have answered : handler.Leads (sent ++ []) (next result) :=
            leads.trans fun _ _ rest => .ask result rest
          rw [List.append_nil] at answered
          exact run_furthers answered few body _ session
      | error cause =>
          have answered : handler.Leads (sent ++ []) (.fail cause) := by
            refine leads.trans fun sends ending performs => ?_
            cases performs
            exact .callFails cause
          rw [List.append_nil] at answered
          exact run_furthers answered few body _ session
  | done performs settled => exact still_furthers (.done performs settled) session

end NodeConsole.Http
