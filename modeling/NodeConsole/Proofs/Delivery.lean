import NodeConsole.Proofs.Erasure
import NodeConsole.Proofs.FormCoding
import NodeConsole.Proofs.Machine

/-!
Texts on their way to the node. Code that is posted in a form, code that the command line gives and
the name of a file all arrive there as they were given, however a form comes in and whatever else is
in it.
-/

namespace NodeConsole

/-- A request to a method of the node has this text in the one field of its message. -/
structure Rpc.Request.Carries (request : Rpc.Request) (path : String) (message : Rpc.Message)
    (field text : String) : Prop where
  path_eq : request.path = path
  text_eq : Wire.text? request.body = some text
  object_eq : (Utf8.ofString text).length < 2 ^ 32 →
    message.decode? request.body = some (.object [(field, .ofString text)])

theorem Rpc.carries_run (target : Text) (code : String) :
    (Rpc.request target (.run code)).Carries "/rnode.Repl/Run" .runRequest "line" code := by
  rw [Rpc.request_run]
  exact ⟨rfl, Wire.text?_textField code, Rpc.decode?_textField "CmdRequest" "line" code⟩

theorem Rpc.carries_eval (target : Text) (fileName : String) :
    (Rpc.request target (.eval fileName)).Carries "/rnode.Repl/Eval" .evalRequest "fileName"
      fileName := by
  rw [Rpc.request_eval]
  exact ⟨rfl, Wire.text?_textField fileName,
    Rpc.decode?_textField "EvalRequest" "fileName" fileName⟩

namespace Ui

open Http
open Http.Server (Event Occurrence past reached own received? occurrences submissions)

/-- Chunks that are within the limit, and together a form whose first field of the name is this
code. -/
structure Posts (chunks : List (List UInt8)) (code : String) : Prop where
  within : chunks.flatten.length ≤ 1024 * 1024
  fields : ∃ before after, chunks.flatten = Form.serialize (before ++ ("rho1", code) :: after) ∧
    ∀ field ∈ before, field.1 ≠ "rho1"

variable {chunks : List (List UInt8)} {code : String}

theorem Posts.lookup (posts : Posts chunks code) :
    (Form.ofBytes chunks.flatten).get? codeField = some code := by
  obtain ⟨before, after, written, others⟩ := posts.fields
  rw [written, Form.ofBytes_serialize]
  exact Form.get?_append others code after

theorem Posts.submitted (posts : Posts chunks code) (request : Request) :
    submitted? ⟨request, .ended chunks⟩ = some (.ok code) := by
  have within : chunks.flatten.length ≤ bodyLimit := posts.within
  simp only [submitted?, Delivery.form?, if_pos within, Option.map_some, codeIn, posts.lookup]

theorem Posts.codeOf (posts : Posts chunks code) (request : Request) (body : request.body = chunks)
    (ends : request.abort = none) : Machine.codeOf request = .ok code := by
  have found : (Form.ofBytes chunks.flatten).pairs.lookup "rho1" = some code := by
    rw [← Form.get?_eq_lookup]
    exact posts.lookup
  simp only [Machine.codeOf, ends, body, if_neg (Nat.not_lt.mpr posts.within), found]

variable {ι : Type}

theorem Course.submissions_eq {entry : Http.Entry} {id : ι} {received : Received}
    {history : List (Occurrence ι)} {standing? : Option Standing} {code : Text}
    (course : Course entry id (some received) history standing?)
    (asks : purpose received.request = .submit) (accepted : submitted? received = some (.ok code)) :
    submissions history = [(id, code)] := by
  have begun_eq {before : List (Occurrence ι)} (begun : Begun id received before) :
      submissions before = [(id, code)] := by
    cases begun with
    | view views => rw [asks] at views; cases views
    | submit _ same => rw [accepted] at same; cases same; rfl
  cases course with
  | reading => cases accepted
  | running _ same => rw [accepted] at same; cases same; rfl
  | listing begun =>
      rw [Server.submissions_append, begun_eq begun]
      rfl
  | closed ended =>
      cases ended with
      | unreadable other => rw [asks] at other; cases other
      | refused other => rw [asks] at other; cases other
      | unaccepted _ other => rw [accepted] at other; cases other
      | runFailed _ same => rw [accepted] at same; cases same; rfl
      | listed begun =>
          rw [Server.submissions_append, begun_eq begun]
          rfl
      | listFailed begun =>
          rw [Server.submissions_append, begun_eq begun]
          rfl

/-- A request whose body still comes in waits for the rest of it. -/
theorem Course.of_incoming {entry : Http.Entry} {id : ι} {request : Request}
    {history : List (Occurrence ι)} {standing? : Option Standing}
    (course : Course entry id (some ⟨request, .incoming chunks⟩) history standing?)
    (asks : purpose request = .submit) :
    ∃ heading, standing? = some ⟨heading, chunks.foldl Body.receive {}, .reading⟩ := by
  have notBegun {before : List (Occurrence ι)}
      (begun : Begun id ⟨request, .incoming chunks⟩ before) : False := by
    cases begun with
    | view views => rw [asks] at views; cases views
    | submit _ accepted => cases accepted
  cases course with
  | reading => exact ⟨_, rfl⟩
  | running _ accepted => cases accepted
  | listing begun => exact (notBegun begun).elim
  | closed ended =>
      cases ended with
      | unreadable other => rw [asks] at other; cases other
      | refused other => rw [asks] at other; cases other
      | unaccepted _ rejected => cases rejected
      | runFailed _ accepted => cases accepted
      | listed begun => exact (notBegun begun).elim
      | listFailed begun => exact (notBegun begun).elim

variable [DecidableEq ι]

theorem Posts.submits (posts : Posts chunks code) (entry : Http.Entry) (earlier : List (Event ι))
    (id : ι) (request : Request) (asks : purpose request = .submit)
    (came : received? id earlier = some ⟨request, .incoming chunks⟩) :
    (∀ later, submissions (own id (past (server entry) (earlier ++ .bodyEnd id :: later))) =
      [(id, (code : Text))]) ∧
    (reached (server entry) (earlier ++ [.bodyEnd id])).session.code = code := by
  have submitted := posts.submitted request
  have ended : received? id (earlier ++ [.bodyEnd id]) = some ⟨request, .ended chunks⟩ := by
    rw [Server.received?_concat, came]
    exact Server.receive_own id _ _ rfl
  have accepted : Accepted ⟨request, .ended chunks⟩ := ⟨asks, code, submitted⟩
  constructor
  -- what is submitted never changes afterwards, so that the whole run may be looked at
  · intro later
    obtain ⟨standing?, _, course⟩ := reached_course entry (earlier ++ .bodyEnd id :: later) id
    have still := accepted.received?_append ended later
    rw [List.append_assoc, List.singleton_append] at still
    rw [still] at course
    exact course.submissions_eq asks submitted
  · obtain ⟨standing?, next?, _, course, turn⟩ := reached_turn entry earlier (.bodyEnd id)
    have mine : received? (Event.bodyEnd id).id earlier = some ⟨request, .incoming chunks⟩ := came
    rw [mine] at course
    obtain ⟨heading, rfl⟩ := course.of_incoming asks
    rw [submitted?_ended, Option.some.injEq] at submitted
    generalize (reached (server entry) (earlier ++ [.bodyEnd id])).session = session at turn ⊢
    generalize occurrences (server entry) (reached (server entry) earlier) (.bodyEnd id) = new
      at turn
    cases turn with
    | unread pastBody => exact absurd rfl pastBody
    | submitted same =>
        rw [submitted] at same
        cases same
        rfl
    | unaccepted rejected =>
        rw [submitted] at rejected
        cases rejected

open Program (Line transmit)

theorem Machine.run_sent (code : String) (session : Session) (transport : Program.Transport) :
    (Machine.run code session transport).1.session.code = code ∧
    ∃ others, (Machine.run code session transport).1.sent =
        ("/rnode.Repl/Run", Wire.textField (Utf8.ofString code)) :: others ∧
      ∀ other ∈ others, other.1 = "/rnode.Diagnostics/ListPeers" := by
  unfold Machine.run
  cases Rpc.hear (.run code) transport.next with
  | error reason => exact ⟨rfl, [], rfl, nofun⟩
  | ok output => exact ⟨rfl, _, rfl, by simp [Machine.list]⟩

theorem Posts.sends (posts : Posts chunks code) (session : Session) (line : Line)
    (request : Request) (asks : purpose request = .submit) (body : request.body = chunks)
    (ends : request.abort = none) :
    let step := (server .listener).serve transmit request session line
    step.session.code = code ∧ ∃ sent others, step.world.sent = line.sent ++ sent :: others ∧
      sent.Carries "/rnode.Repl/Run" .runRequest "line" code ∧
      ∀ other ∈ others, other.path = "/rnode.Diagnostics/ListPeers" := by
  have answered : Machine.answer session line.transport request =
      Machine.run code session line.transport := by
    rw [Machine.answer, asks]
    simp only [Machine.submit, posts.codeOf request body ends]
  obtain ⟨_, remembered, world⟩ := serve_answers session line request
  obtain ⟨submitted, others, sent, besides⟩ := Machine.run_sent code session line.transport
  rw [answered] at remembered world
  rw [sent] at world
  generalize (server .listener).serve transmit request session line = step at remembered world ⊢
  refine ⟨by rw [remembered, submitted], Rpc.request line.target (.run code),
    others.map fun other => { target := line.target, path := other.1, body := other.2 }, ?_,
    Rpc.carries_run line.target code, ?_⟩
  · rw [Rpc.request_run]
    exact congrArg Line.sent world
  · intro other member
    obtain ⟨pair, among, rfl⟩ := List.mem_map.mp member
    exact besides pair among

end Ui

namespace Program

open CommandLine (Action Trace evaluate)

/-- An invocation that has the node evaluate something sends the request for that and no other. -/
theorem sent_of_evaluated {invocation : Invocation} {happenings : Happenings} {host : Text}
    {port : Int} {warnings : List LogEntry} {call : NodeCall} {output : Except Failure Text}
    (traced : (trace invocation happenings).actions =
      warnings.map .warn ++ (evaluate (.connect host port) call output).actions) :
    (run invocation happenings).sent = [Rpc.request (Rpc.target host port) call] := by
  have connects : (trace invocation happenings).connects = [(host, port)] := by
    rw [Trace.connects, traced]
    cases output <;> simp [evaluate, List.filterMap_map]
  have calls : (trace invocation happenings).calls = [call] := by
    rw [Trace.calls, traced]
    cases output <;> simp [evaluate, List.filterMap_map]
  have served : (trace invocation happenings).served = [] := by
    rw [Trace.served, traced]
    cases output <;> simp [evaluate, List.filterMap_map]
  have idle : isServing (trace invocation happenings) = false := by
    rw [isServing, served]
    rfl
  simp only [run, connects, calls, idle]
  rfl

structure AsksToRun (arguments : List Text) (code : Text) : Prop where
  notWeb : ("-w" : Text) ∉ arguments
  inline : ("-c" : Text) ∈ arguments
  last : arguments.getLast? = some code

structure AsksToEvaluate (arguments : List Text) (fileName : Text) : Prop where
  notWeb : ("-w" : Text) ∉ arguments
  notInline : ("-c" : Text) ∉ arguments
  first : arguments.head? = some fileName
  noInfo : fileName ∉ (["--help", "-h", "--version", "-v"] : List Text)

theorem AsksToRun.mode {arguments : List Text} {code : Text} (asks : AsksToRun arguments code) :
    CommandLine.info? ("rnode-client" :: arguments) = none ∧
      CommandLine.mode ("rnode-client" :: arguments) = .ok (.inline code) := by
  have inlineListed : ((Text.ofString "rnode-client") :: arguments).contains "-c" = true :=
    List.contains_iff_mem.mpr (List.mem_cons_of_mem _ asks.inline)
  have webAbsent : ((Text.ofString "rnode-client") :: arguments).contains "-w" = false := by
    rw [← Bool.not_eq_true, List.contains_iff_mem, List.mem_cons]
    exact not_or.mpr ⟨by decide, asks.notWeb⟩
  have code : ((Text.ofString "rnode-client") :: arguments).getLast? = some code := by
    rw [List.getLast?_cons, asks.last]
    rfl
  constructor
  · rw [CommandLine.info?, inlineListed, Bool.or_true, if_pos rfl]
  · simp only [CommandLine.mode, webAbsent, inlineListed, Bool.false_eq_true, if_false, if_true,
      code, Option.getD_some]

theorem AsksToEvaluate.mode {arguments : List Text} {fileName : Text}
    (asks : AsksToEvaluate arguments fileName) :
    CommandLine.info? ("rnode-client" :: arguments) = none ∧
      CommandLine.mode ("rnode-client" :: arguments) = .ok (.file fileName) := by
  have absent (flag : Text) (other : flag ≠ "rnode-client") (notGiven : flag ∉ arguments) :
      ((Text.ofString "rnode-client") :: arguments).contains flag = false := by
    rw [← Bool.not_eq_true, List.contains_iff_mem, List.mem_cons]
    exact not_or.mpr ⟨other, notGiven⟩
  have webAbsent := absent "-w" (by decide) asks.notWeb
  have inlineAbsent := absent "-c" (by decide) asks.notInline
  have noInfo := asks.noInfo
  simp only [List.mem_cons, List.not_mem_nil, or_false, not_or] at noInfo
  have first := asks.first
  cases arguments with
  | nil => cases first
  | cons given rest =>
      cases first
      constructor
      · rw [CommandLine.info?, webAbsent, inlineAbsent]
        simp [noInfo]
      · simp only [CommandLine.mode, webAbsent, inlineAbsent, Bool.false_eq_true, if_false]

/-- The configuration that an invocation loads, where a connection can be made with it. -/
structure Connects (invocation : Invocation) (config : Config) : Prop where
  loaded : (Config.load invocation.system invocation.environment).result = .ok config
  opened : ∃ target, Rpc.connect config.host config.port = .ok target

theorem Connects.actions {invocation : Invocation} {config : Config}
    (connects : Connects invocation config) (happenings : Happenings) {mode : CommandLine.Mode}
    (asks : CommandLine.info? invocation.allArguments = none ∧
      CommandLine.mode invocation.allArguments = .ok mode) :
    let opened := Action.connect config.host config.port
    let reply (call : NodeCall) := Rpc.reply call happenings.transport.next
    (trace invocation happenings).actions =
      (Config.load invocation.system invocation.environment).warnings.map .warn ++
        match mode with
        | .web => (CommandLine.serve opened config.webPort happenings.listening).actions
        | .inline code => (evaluate opened (.run code) (reply (.run code))).actions
        | .file name => (evaluate opened (.eval name) (reply (.eval name))).actions := by
  obtain ⟨loaded, target, opened⟩ := connects
  obtain ⟨noInfo, chosen⟩ := asks
  simp only [trace, CommandLine.invoke, noInfo, loaded, CommandLine.run, chosen, opened]
  cases mode <;> rfl

end Program

open Http (Request Received Delivery)
open Http.Server (Event past reached own received? submissions)
open Program (AsksToEvaluate AsksToRun Connects Happenings Invocation Line transmit)

theorem Http.Server.received?_chunks {ι : Type} [DecidableEq ι] (id : ι) (request : Request)
    (chunks : List (List UInt8)) :
    received? id (.arrive id request :: chunks.map (.chunk id)) =
      some ⟨request, .incoming chunks⟩ := by
  induction chunks using List.reverseRecOn with
  | nil => exact receive_arrival id request
  | append_singleton chunks content ih =>
      rw [List.map_append, ← List.cons_append]
      refine (received?_concat ..).trans ?_
      rw [ih]
      exact receive_own id _ _ rfl

/-- What the three ways to the node have in common: the text that the node reads is the one that was
given. A form may come in between the events of any other requests. -/
theorem code_reaches_node {ι : Type} [DecidableEq ι] (text : String) :
    (∀ chunks, Ui.Posts chunks text →
      (∀ (entry : Http.Entry) (earlier later : List (Event ι)) (id : ι) (request : Request),
        Ui.purpose request = .submit →
        received? id earlier = some ⟨request, .incoming chunks⟩ →
        submissions (own id (past (Ui.server entry) (earlier ++ .bodyEnd id :: later))) =
          [(id, (text : Text))] ∧
        (reached (Ui.server entry) (earlier ++ [.bodyEnd id])).session.code = text) ∧
      ∀ (session : Session) (line : Line) (request : Request),
        Ui.purpose request = .submit → request.body = chunks → request.abort = none →
        let step := (Ui.server .listener).serve transmit request session line
        step.session.code = text ∧ ∃ sent others, step.world.sent = line.sent ++ sent :: others ∧
          sent.Carries "/rnode.Repl/Run" .runRequest "line" text ∧
          ∀ other ∈ others, other.path = "/rnode.Diagnostics/ListPeers") ∧
    (∀ (invocation : Invocation) (config : Config) (happenings : Happenings),
      Connects invocation config → AsksToRun invocation.arguments text →
      ∃ sent, (Program.run invocation happenings).sent = [sent] ∧
        sent.Carries "/rnode.Repl/Run" .runRequest "line" text) ∧
    ∀ (invocation : Invocation) (config : Config) (happenings : Happenings),
      Connects invocation config → AsksToEvaluate invocation.arguments text →
      ∃ sent, (Program.run invocation happenings).sent = [sent] ∧
        sent.Carries "/rnode.Repl/Eval" .evalRequest "fileName" text := by
  refine ⟨?_, ?_, ?_⟩
  · intro chunks posts
    refine ⟨?_, posts.sends⟩
    intro entry earlier later id request asks came
    obtain ⟨once, remembered⟩ := posts.submits entry earlier id request asks came
    exact ⟨once later, remembered⟩
  · intro invocation config happenings connects asks
    have traced := connects.actions happenings asks.mode
    exact ⟨_, Program.sent_of_evaluated traced, Rpc.carries_run _ text⟩
  · intro invocation config happenings connects asks
    have traced := connects.actions happenings asks.mode
    exact ⟨_, Program.sent_of_evaluated traced, Rpc.carries_eval _ text⟩

def awkward : String := "for(x <- @\"a+b & c=%2B?\") \x7b x!(\"é|😀\x00\") \x7d\n"

def awkwardChunks : List (List UInt8) :=
  (Form.serialize [("note", "1"), ("rho1", awkward), ("rho1", "")]).map fun byte => [byte]

def awkwardRequest : Request where
  method := some "POST"
  host := some "localhost:8888"
  body := awkwardChunks

theorem awkward_posts : Ui.Posts awkwardChunks awkward := by
  have whole : awkwardChunks.flatten =
      Form.serialize ([("note", "1")] ++ ("rho1", awkward) :: [("rho1", "")]) :=
    List.flatMap_singleton' _
  refine ⟨by rw [whole]; decide +kernel, [("note", "1")], [("rho1", "")], whole, by decide⟩

def awkwardInvocation (arguments : List Text) : Invocation where
  system := FileTree.empty.toSystem "/" fun _ => ""
  directory := "/"
  environment := []
  arguments := arguments

theorem awkward_connects (arguments : List Text) :
    Connects (awkwardInvocation arguments) Config.standard := by
  constructor
  · change (Config.load (FileTree.empty.toSystem "/" fun _ => "") []).result = .ok Config.standard
    decide +kernel
  · have opened : Rpc.connect Config.standard.host Config.standard.port =
        .ok (Rpc.target Config.standard.host Config.standard.port) := by
      decide +kernel
    exact ⟨_, opened⟩

theorem awkward_reaches_node :
    submissions (own 0 (past (Ui.server .listener)
        ((.arrive 0 awkwardRequest :: awkwardChunks.map (.chunk 0)) ++ [.bodyEnd 0]))) =
      [(0, (awkward : Text))] ∧
    (∀ line : Line, ∃ sent others,
      ((Ui.server .listener).serve transmit awkwardRequest {} line).world.sent =
        line.sent ++ sent :: others ∧
      sent.Carries "/rnode.Repl/Run" .runRequest "line" awkward) ∧
    (∀ happenings : Happenings, ∃ sent,
      (Program.run (awkwardInvocation ["-c", awkward]) happenings).sent = [sent] ∧
      sent.Carries "/rnode.Repl/Run" .runRequest "line" awkward) ∧
    ∀ happenings : Happenings, ∃ sent,
      (Program.run (awkwardInvocation [(awkward : Text)]) happenings).sent = [sent] ∧
      sent.Carries "/rnode.Repl/Eval" .evalRequest "fileName" awkward := by
  have asks : Ui.purpose awkwardRequest = .submit := by
    decide +kernel
  have inline : AsksToRun ["-c", (awkward : Text)] awkward :=
    ⟨by decide +kernel, by simp, rfl⟩
  have named : AsksToEvaluate [(awkward : Text)] awkward :=
    ⟨by decide +kernel, by decide +kernel, rfl, by decide +kernel⟩
  obtain ⟨posted, run, evaluated⟩ := @code_reaches_node Nat _ awkward
  obtain ⟨submitted, carried⟩ := posted awkwardChunks awkward_posts
  refine ⟨?_, ?_, ?_, ?_⟩
  · exact (submitted .listener _ [] 0 awkwardRequest asks
      (Http.Server.received?_chunks 0 awkwardRequest awkwardChunks)).1
  · intro line
    obtain ⟨_, sent, others, whole, carries, _⟩ := carried {} line awkwardRequest asks rfl rfl
    exact ⟨sent, others, whole, carries⟩
  · exact fun happenings => run _ _ happenings (awkward_connects _) inline
  · exact fun happenings => evaluated _ _ happenings (awkward_connects _) named

end NodeConsole
