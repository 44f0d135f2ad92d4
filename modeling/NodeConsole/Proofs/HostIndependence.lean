import NodeConsole.Proofs.PlainTarget

/-!
What a request's host and query have to say in which route it takes: nothing. The target is read
against a URL that the host is pasted into, but of that URL only the scheme is looked at once the
target starts with a slash (`readRelative?_reading`), and the scheme is always the same. A question
mark right behind that slash ends the path, whatever follows.
-/

namespace NodeConsole

namespace Url

def reading (url : Url) : String × Form :=
  (url.pathname, url.parameters)

theorem rooted_reading (base other : Url) (text : List Char) :
    (readRelative?.rooted base text).reading = (readRelative?.rooted other text).reading := by
  rfl

theorem readRelative?_reading {base other : Url} (same : base.scheme = other.scheme)
    (rest : List Char) :
    (readRelative? base ('/' :: rest)).map reading =
      (readRelative? other ('/' :: rest)).map reading := by
  cases rest with
  | nil => exact congrArg some (rooted_reading base other [])
  | cons second rest =>
      by_cases doubled : isSlash true second = true
      · -- behind two slashes a host follows, so nothing is left of the base but its scheme
        simp only [readRelative?, doubled, Bool.and_true, show isSlash true '/' = true from rfl,
          if_true, same]
      · simp only [readRelative?, doubled, Bool.and_false, show isSlash true '/' = true from rfl,
          if_true, Bool.false_eq_true, if_false]
        exact congrArg some (rooted_reading base other (second :: rest))

theorem splitScheme?_slash (rest : List Char) : splitScheme? ('/' :: rest) = none := by
  rfl

theorem strip_slash (text : List Char) : ∃ rest, strip ('/' :: text) = '/' :: rest := by
  have visible : ∀ char ∈ ['/'], isSpaceOrControl char = false :=
    List.forall_mem_singleton.mpr rfl
  exact strip_front visible (List.cons_ne_nil _ _) text

/-- A question mark right behind the first slash leaves only that slash for the path. -/
theorem readRelative?_query (base : Url) (query : List Char) :
    (readRelative? base ('/' :: '?' :: query)).map (·.pathname) = some "/" := by
  rfl

end Url

namespace Http.Request

def aimed (request : Request) (target : Text) (host : Option Text) : Request :=
  { request with target := some target, host }

variable {host other : Option Text} {base : Url}

theorem url?_aimed (request : Request) (named : base? host = some base) (rest : Text) :
    (request.aimed ("/" ++ rest) host).url? =
      Url.readRelative? base (Url.strip ('/' :: rest.toChars)) := by
  have shown : (given (some ("/" ++ rest)) "/").toString.toList = '/' :: rest.toChars := by
    change String.toList (String.ofList ("/" ++ rest : Text).toChars) = _
    rw [String.toList_ofList]
    exact Text.toChars_cons '/' rest
  obtain ⟨behind, stripped⟩ := Url.strip_slash rest.toChars
  simp only [url?, aimed, named, Option.bind_eq_bind, Option.bind_some, Url.read?, shown, stripped,
    Url.splitScheme?_slash]

theorem reading_aimed (request : Request) (named : (base? host).isSome)
    (also : (base? other).isSome) (rest : Text) :
    (request.aimed ("/" ++ rest) host).url?.map Url.reading =
      (request.aimed ("/" ++ rest) other).url?.map Url.reading := by
  obtain ⟨first, named⟩ := Option.isSome_iff_exists.mp named
  obtain ⟨second, also⟩ := Option.isSome_iff_exists.mp also
  obtain ⟨behind, stripped⟩ := Url.strip_slash rest.toChars
  have same : first.scheme = second.scheme := by
    rw [base?_scheme named, base?_scheme also]
  rw [url?_aimed request named, url?_aimed request also, stripped]
  exact Url.readRelative?_reading same behind

theorem pathname_root (request : Request) (named : (base? host).isSome) :
    (request.aimed "/" host).url?.map (·.pathname) = some "/" := by
  obtain ⟨base, named⟩ := Option.isSome_iff_exists.mp named
  have target : ("/" : Text) = "/" ++ ⟨[]⟩ := by
    rfl
  rw [target, url?_aimed request named]
  rfl

theorem pathname_query (request : Request) (named : (base? host).isSome) (query : Text) :
    (request.aimed ("/?" ++ query) host).url?.map (·.pathname) = some "/" := by
  obtain ⟨base, named⟩ := Option.isSome_iff_exists.mp named
  have front : ("/?" ++ query : Text) = "/" ++ ("?" ++ query) := by
    rfl
  have question : ("?" ++ query : Text).toChars = '?' :: query.toChars :=
    Text.toChars_cons '?' query
  have visible : ∀ char ∈ ['/', '?'], Url.isSpaceOrControl char = false :=
    List.forall_mem_cons.mpr ⟨rfl, List.forall_mem_singleton.mpr rfl⟩
  obtain ⟨behind, stripped⟩ := Url.strip_front visible (List.cons_ne_nil _ _) query.toChars
  rw [front, url?_aimed request named, question]
  change (Url.readRelative? base (Url.strip (['/', '?'] ++ query.toChars))).map _ = _
  rw [stripped]
  exact Url.readRelative?_query base behind

end Http.Request

namespace Http

variable {σ : Type}

/-- A server knows nothing of a readable request but the path, and the method. -/
theorem start_of_reading (entry : Entry) (around : Surroundings σ) (routes : List Route)
    {request other : Request} (session : Session) (world : σ)
    (method : request.methodName = other.methodName)
    (reading : request.url?.map Url.reading = other.url?.map Url.reading) :
    Exchange.start entry around routes request session world =
      Exchange.start entry around routes other session world := by
  have path : request.url?.map (·.pathname) = other.url?.map (·.pathname) := by
    have first := congrArg (Option.map Prod.fst) reading
    rwa [Option.map_map, Option.map_map] at first
  simp only [Exchange.start, method]
  cases readable : request.url? with
  | none =>
      rw [readable] at path
      rw [Option.map_eq_none_iff.mp path.symm]
  | some url =>
      rw [readable] at path
      obtain ⟨seen, otherwise, same⟩ := Option.map_eq_some_iff.mp path.symm
      simp only [otherwise, same]

/-- Two hosts against which targets can be read at all make no difference to a target that starts
with a slash: it has the same path and parameters under both, or cannot be read under either, and
so the same route is taken. What is asked for behind a first slash and a question mark is always
the root. -/
theorem host_and_query_steer_nothing (request : Request) :
    (∀ (rest : Text) host other,
      (Request.base? host).isSome → (Request.base? other).isSome →
      (request.aimed ("/" ++ rest) host).url?.map Url.reading =
        (request.aimed ("/" ++ rest) other).url?.map Url.reading ∧
      ∀ entry (around : Surroundings σ) routes session world,
        Exchange.start entry around routes (request.aimed ("/" ++ rest) host) session world =
          Exchange.start entry around routes (request.aimed ("/" ++ rest) other) session world) ∧
    ∀ (query : Text) host, (Request.base? host).isSome →
      (request.aimed "/" host).url?.map (·.pathname) = some "/" ∧
      (request.aimed ("/?" ++ query) host).url?.map (·.pathname) = some "/" := by
  refine ⟨?_, ?_⟩
  · intro rest host other named also
    have reading := Request.reading_aimed request named also rest
    refine ⟨reading, ?_⟩
    intro entry around routes session world
    exact start_of_reading entry around routes session world rfl reading
  · intro query host named
    exact ⟨Request.pathname_root request named, Request.pathname_query request named query⟩

/-- A host full of delimiters leaves a target with a backslash and dot segments where it is read
without any host. -/
theorem delimiters_in_host_ignored :
    let host : Option Text := some "user:pw@h.example:81/a?b#c"
    let rest : Text := "/x\\y/../%2e/z?q=1"
    let query : Text := "?/x#"
    (Request.base? host).isSome ∧ (Request.base? none).isSome ∧
      (Request.aimed {} ("/" ++ rest) host).url?.map Url.reading = some ("/z", ⟨[("q", "1")]⟩) ∧
      (Request.aimed {} ("/?" ++ query) host).url?.map (·.pathname) = some "/" := by
  intro host rest query
  have named : (Request.base? host).isSome := by decide +kernel
  have also : (Request.base? none).isSome := by decide +kernel
  have read : (Request.aimed {} ("/" ++ rest) none).url?.map Url.reading =
      some ("/z", ⟨[("q", "1")]⟩) := by
    decide +kernel
  obtain ⟨hosts, queries⟩ := @host_and_query_steer_nothing Unit {}
  exact ⟨named, also, (hosts rest host none named also).1.trans read, (queries query host named).2⟩

end Http

end NodeConsole
