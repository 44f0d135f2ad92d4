import NodeConsole.Proofs.History
import NodeConsole.Proofs.Turn

/-!
Which route of a table answers a request. It is the first one that takes the request, and its
handler is the only one that is carried out; without one the request is turned away. A table matters
for nothing but the requests that arrive (`step_congr`), so tables that select alike make servers
that run alike (`runEvents_congr`): a route can be put in or taken out unseen by requests for other
paths, and two neighbours that never take the same request can change places.
-/

namespace NodeConsole.Http

/-- The method of a request, GET where none is given or an empty one. -/
inductive Request.HasMethod (request : Request) : Text → Prop
  | given {method : Text} (given : request.method = some method) (filled : method ≠ "") :
      HasMethod request method
  | empty (given : request.method = some "") : HasMethod request "GET"
  | absent (absent : request.method = none) : HasMethod request "GET"

theorem Request.HasMethod.methodName {request : Request} {method : Text}
    (has : request.HasMethod method) : request.methodName = method := by
  cases has with
  | given given filled =>
      have present : method.isEmpty = false := by
        obtain ⟨units⟩ := method
        cases units with
        | nil => exact absurd rfl filled
        | cons unit units => rfl
      simp only [Request.methodName, Request.given, given, Option.filter_some, present,
        Bool.not_false, if_true, Option.getD_some]
  | empty given =>
      rw [Request.methodName, given]
      rfl
  | absent absent =>
      rw [Request.methodName, absent]
      rfl

namespace Route

variable {routes before after : List Route} {route first second : Route} {method path : Text}

def Takes (route : Route) (method path : Text) : Prop :=
  route.path = path ∧ (route.method = "*" ∨ route.method = method)

instance (route : Route) (method path : Text) : Decidable (route.Takes method path) :=
  inferInstanceAs (Decidable (_ ∧ _))

structure FirstTaking (routes : List Route) (method path : Text) (place : Nat) (route : Route) :
    Prop where
  stands : routes[place]? = some route
  takes : route.Takes method path
  earliest : ∀ earlier other, earlier < place → routes[earlier]? = some other →
    ¬ other.Takes method path

theorem select_eq (routes : List Route) (method path : Text) :
    select routes method path =
      match routes.find? fun route => route.Takes method path with
      | some route => .handle route.handler
      | none => if ∃ route ∈ routes, route.path = path then .methodNotAllowed else .notFound := by
  have taken : ((routes.filter fun route => route.path = path).find?
      fun route => route.takesMethod method) =
        routes.find? fun route => route.Takes method path := by
    rw [List.find?_filter]
    congr
    funext route
    rw [Bool.eq_iff_iff]
    simp only [Bool.or_eq_true, decide_eq_true_eq, takesMethod]
    rfl
  simp only [select, taken]
  cases routes.find? fun route => route.Takes method path with
  | some route => rfl
  | none =>
      by_cases known : ∃ route ∈ routes, route.path = path
      · rw [if_pos known, if_neg]
        simpa [List.filter_eq_nil_iff] using known
      · rw [if_neg known, if_pos]
        simpa [List.filter_eq_nil_iff] using known

theorem find?_eq_some_iff :
    (routes.find? fun route => route.Takes method path) = some route ↔
      ∃ place, FirstTaking routes method path place route := by
  rw [List.find?_eq_some_iff_getElem]
  constructor
  · rintro ⟨takes, place, within, stands, earliest⟩
    refine ⟨place, List.getElem?_eq_some_iff.mpr ⟨within, stands⟩, of_decide_eq_true takes, ?_⟩
    intro earlier other before found
    obtain ⟨_, rfl⟩ := List.getElem?_eq_some_iff.mp found
    simpa using earliest earlier before
  · rintro ⟨place, taking⟩
    obtain ⟨within, stands⟩ := List.getElem?_eq_some_iff.mp taking.stands
    refine ⟨decide_eq_true taking.takes, place, within, stands, ?_⟩
    intro earlier before
    have untaken := taking.earliest earlier routes[earlier] before (List.getElem?_eq_getElem _)
    simpa using untaken

theorem find?_eq_none_iff :
    (routes.find? fun route => route.Takes method path) = none ↔
      ∀ route ∈ routes, ¬ route.Takes method path := by
  simp [List.find?_eq_none]

theorem FirstTaking.unique {place other : Nat} (taking : FirstTaking routes method path place first)
    (also : FirstTaking routes method path other second) : other = place ∧ second = first := by
  have same : second = first := Option.some.inj
    ((find?_eq_some_iff.mpr ⟨other, also⟩).symm.trans (find?_eq_some_iff.mpr ⟨place, taking⟩))
  have notBefore : ¬ other < place :=
    fun before => taking.earliest other second before also.stands also.takes
  have notAfter : ¬ place < other :=
    fun before => also.earliest place first before taking.stands taking.takes
  exact ⟨by omega, same⟩

theorem select_insert (other : route.path ≠ path) :
    select (before ++ route :: after) method path = select (before ++ after) method path := by
  have same : ((before ++ route :: after).filter fun route => route.path = path) =
      (before ++ after).filter fun route => route.path = path := by
    simp [List.filter_append, other]
  simp only [select, same]

theorem select_exchange (apart : ¬ (first.Takes method path ∧ second.Takes method path)) :
    select (before ++ second :: first :: after) method path =
      select (before ++ first :: second :: after) method path := by
  have found : ((before ++ second :: first :: after).find? fun route => route.Takes method path) =
      (before ++ first :: second :: after).find? fun route => route.Takes method path := by
    simp only [List.find?_append, List.find?_cons]
    congr 1
    by_cases taken : first.Takes method path
    · have untaken : ¬ second.Takes method path := fun also => apart ⟨taken, also⟩
      simp [taken, untaken]
    · simp [taken]
  have members : (∃ route ∈ before ++ second :: first :: after, route.path = path) ↔
      ∃ route ∈ before ++ first :: second :: after, route.path = path := by
    have same (route : Route) : route ∈ before ++ second :: first :: after ↔
        route ∈ before ++ first :: second :: after := by
      simp only [List.mem_append, List.mem_cons]
      tauto
    simp only [same]
  simp only [select_eq, found, members]

end Route

section Tables

variable {σ : Type} {routes others : List Route} {request : Request}

theorem start_congr (entry : Entry) (around : Surroundings σ) (session : Session) (world : σ)
    (same : ∀ url, request.url? = some url →
      Route.select others request.methodName url.pathname =
        Route.select routes request.methodName url.pathname) :
    Exchange.start entry around others request session world =
      Exchange.start entry around routes request session world := by
  unfold Exchange.start
  cases readable : request.url? with
  | none => rfl
  | some url => simp only [same url readable]

variable {ι : Type} [DecidableEq ι]

/-- A table is looked at only when a request arrives. -/
theorem step_congr (entry : Entry) (state : Server.State ι) (event : Server.Event ι)
    (same : ∀ id request url, event = .arrive id request → request.url? = some url →
      Route.select others request.methodName url.pathname =
        Route.select routes request.methodName url.pathname) :
    Server.step ⟨entry, others⟩ state event = Server.step ⟨entry, routes⟩ state event := by
  cases event with
  | arrive id request =>
      have started := start_congr entry .none state.session ()
        fun url readable => same id request url rfl readable
      simp only [Server.step, started]
  | _ => rfl

theorem runEvents_congr {server other : Server}
    (same : ∀ (state : Server.State ι) event, other.step state event = server.step state event)
    (state : Server.State ι) (events : List (Server.Event ι)) :
    other.runEvents state events = server.runEvents state events := by
  induction events using List.reverseRecOn with
  | nil => simp only [Server.runEvents, List.foldl_nil]
  | append_singleton events event ih =>
      rw [Server.runEvents_concat, Server.runEvents_concat, ih, same]

end Tables

section Answers

variable {σ : Type}

/-- A step in which one handler is carried out, once, and nothing else is done: the calls that are
made and what is left behind are its own, also when it fails on its way. -/
structure CarriesOut (entry : Entry) (around : Surroundings σ) (heading : Text) (handler : Handler)
    (session : Session) (world : σ) (step : Step σ) : Prop where
  run : step =
    Exchange.run entry around { heading, progress := .done (.ok ()) } handler session world
  calls : step.calls = (handler.advance around { session, response := {}, world }).1.calls
  sessionLeft : step.session = (handler.advance around { session, response := {}, world }).1.session
  worldLeft : step.world = (handler.advance around { session, response := {}, world }).1.world
  progress :
    step.exchange.progress = (handler.advance around { session, response := {}, world }).2

inductive Answers (entry : Entry) (around : Surroundings σ) (routes : List Route)
    (method path : Text) (session : Session) (world : σ) : Step σ → Prop
  | handled {place : Nat} {route : Route} {step : Step σ}
      (first : Route.FirstTaking routes method path place route)
      (carries : CarriesOut entry around (method ++ " " ++ path) route.handler session world step) :
      Answers entry around routes method path session world step
  | methodNotAllowed (untaken : ∀ route ∈ routes, ¬ route.Takes method path)
      (known : ∃ route ∈ routes, route.path = path) :
      Answers entry around routes method path session world {
        exchange := {
          heading := method ++ " " ++ path
          response := .ofError "Method Not Allowed" 405
          progress := .done (.ok ()) }
        session, world }
  | notFound (unknown : ∀ route ∈ routes, route.path ≠ path) :
      Answers entry around routes method path session world {
        exchange := {
          heading := method ++ " " ++ path
          response := .ofError "Not Found" 404
          progress := .done (.ok ()) }
        session, world }

theorem run_carriesOut (entry : Entry) (around : Surroundings σ) (heading : Text)
    (handler : Handler) (session : Session) (world : σ) :
    CarriesOut entry around heading handler session world
      (Exchange.run entry around { heading, progress := .done (.ok ()) } handler session
        world) := by
  have carried (exchange : Exchange) :
      let step := Exchange.run entry around exchange handler session world
      let own := handler.advance around { session, response := exchange.response, world }
      step.calls = own.1.calls ∧ step.session = own.1.session ∧ step.world = own.1.world ∧
        step.exchange.progress = own.2 := by
    simp only [Exchange.run]
    split
    next done => exact ⟨rfl, rfl, rfl, rfl⟩
    next => exact ⟨rfl, rfl, rfl, rfl⟩
  obtain ⟨calls, left, world, progress⟩ := carried { heading, progress := .done (.ok ()) }
  exact ⟨rfl, calls, left, world, progress⟩

theorem start_answers (entry : Entry) (around : Surroundings σ) (routes : List Route)
    {request : Request} {url : Url} {method : Text} (readable : request.url? = some url)
    (has : request.HasMethod method) (session : Session) (world : σ) :
    Answers entry around routes method url.pathname session world
      (Exchange.start entry around routes request session world) := by
  simp only [Exchange.start, readable, has.methodName, Route.select_eq]
  cases found : routes.find? fun route => route.Takes method url.pathname with
  | some route =>
      obtain ⟨place, taking⟩ := Route.find?_eq_some_iff.mp found
      exact .handled taking (run_carriesOut ..)
  | none =>
      have untaken := Route.find?_eq_none_iff.mp found
      by_cases known : ∃ route ∈ routes, route.path = url.pathname
      · simp only [if_pos known]
        exact .methodNotAllowed untaken known
      · simp only [if_neg known]
        exact .notFound fun route listed same => known ⟨route, listed, same⟩

variable {ι : Type} [DecidableEq ι]

/-- A readable request gets its answer from the first route that takes it, whose handler alone is
carried out, or is turned away. So a route makes no difference to requests for other paths, nor does
the order of two neighbours that never take the same request: not to a request that is answered in
one go, and not to a run of a server. -/
theorem routes_select_exactly (entry : Entry) (around : Surroundings σ) :
    (∀ routes request url method session world, request.url? = some url →
      request.HasMethod method →
      Answers entry around routes method url.pathname session world
        (Exchange.start entry around routes request session world)) ∧
    (∀ before route after,
      (∀ request session world,
        (∀ url, request.url? = some url → (url.pathname : Text) ≠ route.path) →
        Exchange.start entry around (before ++ route :: after) request session world =
          Exchange.start entry around (before ++ after) request session world) ∧
      ∀ (state : Server.State ι) event,
        (∀ id request url, event = .arrive id request → request.url? = some url →
          (url.pathname : Text) ≠ route.path) →
        Server.step ⟨entry, before ++ route :: after⟩ state event =
          Server.step ⟨entry, before ++ after⟩ state event) ∧
    ∀ before first second after,
      (∀ method path, ¬ (Route.Takes first method path ∧ Route.Takes second method path)) →
      (∀ request session world,
        Exchange.start entry around (before ++ second :: first :: after) request session world =
          Exchange.start entry around (before ++ first :: second :: after) request session world) ∧
      ∀ (state : Server.State ι) events,
        Server.runEvents ⟨entry, before ++ second :: first :: after⟩ state events =
          Server.runEvents ⟨entry, before ++ first :: second :: after⟩ state events := by
  refine ⟨?_, ?_, ?_⟩
  · intro routes request url method session world readable has
    exact start_answers entry around routes readable has session world
  · intro before route after
    refine ⟨?_, ?_⟩
    · intro request session world other
      refine start_congr entry around session world ?_
      intro url readable
      exact Route.select_insert (Ne.symm (other url readable))
    · intro state event other
      refine step_congr entry state event ?_
      intro id request url arrives readable
      exact Route.select_insert (Ne.symm (other id request url arrives readable))
  · intro before first second after apart
    refine ⟨?_, ?_⟩
    · intro request session world
      exact start_congr entry around session world fun _ _ => Route.select_exchange (apart _ _)
    · intro state events
      refine runEvents_congr ?_ state events
      intro state event
      exact step_congr entry state event fun _ _ _ _ _ => Route.select_exchange (apart _ _)

/-- The star stands in front of the route for GET, so it answers though it fails; the other two
routes may change places. -/
theorem failing_star_answers :
    let post : Route := { method := "POST", path := "/", handler := .finish }
    let star : Route := { method := "*", path := "/", handler := .fail (.missingField "x") }
    let get : Route := { method := "GET", path := "/", handler := .send 200 "shown" .finish }
    let start (routes : List Route) : Step Unit :=
      Exchange.start .listener .none routes {} {} ()
    (∃ url, ({} : Request).url? = some url ∧ (url.pathname : Text) = "/") ∧
    Request.HasMethod {} "GET" ∧
    (start [post, star, get]).exchange.response = .ofError "Missing form field: x" 400 ∧
    (∀ method path, ¬ (post.Takes method path ∧ get.Takes method path)) ∧
    start [get, post, star] = start [post, get, star] ∧
    start [post, { star with path := "/x" }, get] = start [post, get] := by
  intro post star get start
  obtain ⟨selected, inserted, exchanged⟩ := @routes_select_exactly Unit Nat _ .listener .none
  have root : ({} : Request).url?.map (·.pathname) = some "/" := by decide +kernel
  obtain ⟨url, readable, path⟩ := Option.map_eq_some_iff.mp root
  have has : Request.HasMethod {} "GET" := .absent rfl
  have apart (method path : Text) : ¬ (post.Takes method path ∧ get.Takes method path) := by
    rintro ⟨⟨_, first⟩, _, second⟩
    have named : ("POST" : Text) ≠ "*" ∧ ("GET" : Text) ≠ "*" ∧ ("POST" : Text) ≠ "GET" := by decide
    rcases first with same | rfl
    · exact named.1 same
    · rcases second with same | same
      · exact named.2.1 same
      · exact named.2.2 same.symm
  have elsewhere (other : Url) (reads : ({} : Request).url? = some other) :
      (other.pathname : Text) ≠ "/x" := by
    rw [Option.some.inj (reads.symm.trans readable), path]
    decide
  have first : Route.FirstTaking [post, star, get] "GET" "/" 1 star := by
    refine ⟨rfl, ⟨rfl, .inl rfl⟩, ?_⟩
    intro earlier other before found
    obtain rfl : earlier = 0 := by omega
    cases found
    decide
  have answers := selected [post, star, get] {} url "GET" {} () readable has
  rw [path] at answers
  refine ⟨⟨url, readable, congrArg Text.ofString path⟩, has, ?_, apart,
    (exchanged [] post get [star] apart).1 {} {} (), (inserted [post] _ [get]).1 {} {} () elsewhere⟩
  change (Exchange.start .listener .none [post, star, get] {} {} ()).exchange.response = _
  generalize Exchange.start .listener .none [post, star, get] {} {} () = step at answers
  cases answers with
  | handled taking carries =>
      obtain ⟨rfl, rfl⟩ := first.unique taking
      rw [carries.run]
      rfl
  | methodNotAllowed untaken => exact absurd first.takes (untaken star (by simp))
  | notFound unknown => exact absurd rfl (unknown star (by simp))

end Answers

end NodeConsole.Http
