import Mathlib.Data.List.TakeDrop
import Mathlib.Data.List.TakeWhile
import NodeConsole.Proofs.Course
import NodeConsole.Proofs.TextCoding

/-!
Targets of letters, digits, hyphens, underscores and slashes, and which of them the server of the
page does not know. A target is read as a reference: behind two slashes it names a host, and only
what follows the host is its path.
-/

namespace NodeConsole

namespace Url

def isPlainChar (char : Char) : Bool :=
  isLetter char || isDigit char || ['-', '_', '/'].contains char

theorem isPlainChar_toNat {char : Char} (plain : isPlainChar char = true) :
    0x20 < char.toNat ∧ char.toNat ≤ 0x7E := by
  simp only [isPlainChar, isLetter, isDigit, Bool.or_eq_true, Bool.and_eq_true, decide_eq_true_eq,
    Char.le_def, UInt32.le_iff_toNat_le, List.contains_eq_mem, List.mem_cons, List.not_mem_nil,
    or_false] at plain
  have lower := plain
  change ((97 ≤ char.toNat ∧ char.toNat ≤ 122 ∨ 65 ≤ char.toNat ∧ char.toNat ≤ 90) ∨
    48 ≤ char.toNat ∧ char.toNat ≤ 57) ∨ _ at lower
  rcases lower with codes | rfl | rfl | rfl
  · omega
  · decide
  · decide
  · decide

theorem isPlainChar_ne {char other : Char} (plain : isPlainChar char = true)
    (notPlain : isPlainChar other = false) : char ≠ other := by
  rintro rfl
  rw [plain] at notPlain
  cases notPlain

theorem isSlash_plain {char : Char} (plain : isPlainChar char = true) :
    isSlash true char = decide (char = '/') := by
  have notBackslash : char ≠ '\\' := isPlainChar_ne plain rfl
  simp [isSlash, notBackslash]

theorem dropWhile_eq_self {α : Type} {test : α → Bool} {items : List α}
    (none : ∀ item ∈ items, test item = false) : items.dropWhile test = items := by
  cases items with
  | nil => rfl
  | cons item items => simp [none item (by simp)]

theorem span_eq_self {α : Type} {test : α → Bool} {items : List α}
    (all : ∀ item ∈ items, test item = true) : items.span test = (items, []) := by
  rw [List.span_eq_takeWhile_dropWhile, List.takeWhile_eq_self_iff.mpr all,
    List.dropWhile_eq_nil_iff.mpr all]

theorem strip_plain {text : List Char} (plain : ∀ char ∈ text, isPlainChar char = true) :
    strip text = text := by
  have visible : ∀ char ∈ text, isSpaceOrControl char = false := by
    intro char member
    have bounds := isPlainChar_toNat (plain char member)
    simp [isSpaceOrControl, bounds.1]
  have kept : ∀ char ∈ text, (!(['\t', '\n', '\r'].contains char)) = true := by
    intro char member
    have bounds := isPlainChar_toNat (plain char member)
    simp only [Bool.not_eq_true', List.contains_eq_mem, decide_eq_false_iff_not, List.mem_cons,
      List.not_mem_nil, or_false]
    rintro (rfl | rfl | rfl)
    · exact absurd bounds.1 (by decide)
    · exact absurd bounds.1 (by decide)
    · exact absurd bounds.1 (by decide)
  have reversed : ∀ char ∈ text.reverse, isSpaceOrControl char = false := by
    intro char member
    exact visible char (List.mem_reverse.mp member)
  rw [strip, dropWhile_eq_self visible, dropWhile_eq_self reversed, List.reverse_reverse]
  exact List.filter_eq_self.mpr kept

theorem splitQuery_plain {text : List Char} (plain : ∀ char ∈ text, isPlainChar char = true) :
    splitQuery true text = (text, none) := by
  have noFragment : withoutFragment text = text := by
    refine List.takeWhile_eq_self_iff.mpr ?_
    intro char member
    exact decide_eq_true (isPlainChar_ne (plain char member) rfl)
  have noQuery : text.span (· ≠ '?') = (text, []) := by
    refine span_eq_self ?_
    intro char member
    exact decide_eq_true (isPlainChar_ne (plain char member) rfl)
  rw [splitQuery, noFragment, noQuery]

theorem isEscapedInPath_plain {char : Char} (plain : isPlainChar char = true) :
    isEscapedInPath char = false := by
  have bounds := isPlainChar_toNat plain
  have noControl : isControl char = false := by
    simp only [isControl, Bool.or_eq_false_iff, decide_eq_false_iff_not]
    omega
  have unlisted : [' ', '"', '#', '<', '>', '?', '`', '\x7b', '\x7d'].contains char = false := by
    rw [List.contains_eq_mem, decide_eq_false_iff_not]
    intro member
    have others : [' ', '"', '#', '<', '>', '?', '`', '\x7b', '\x7d'].all
        (fun other => !isPlainChar other) = true := by
      decide
    have notPlain := List.all_eq_true.mp others char member
    rw [plain] at notPlain
    cases notPlain
  rw [isEscapedInPath, noControl, unlisted]
  rfl

theorem mem_of_mem_splitOnP {α : Type} {test : α → Bool} {items part : List α} {item : α}
    (among : part ∈ items.splitOnP test) (member : item ∈ part) : item ∈ items := by
  induction items generalizing part with
  | nil =>
      simp at among
      simp [among] at member
  | cons first items ih =>
      rw [List.splitOnP_cons_eq_if_modifyHead] at among
      split at among
      · rcases List.mem_cons.mp among with rfl | later
        · cases member
        · exact List.mem_cons_of_mem first (ih later member)
      · cases parts : items.splitOnP test with
        | nil =>
            rw [parts] at among
            cases among
        | cons head others =>
            rw [parts] at among ih
            rcases List.mem_cons.mp among with rfl | later
            · rcases List.mem_cons.mp member with rfl | later
              · exact List.mem_cons_self
              · exact List.mem_cons_of_mem first (ih List.mem_cons_self later)
            · exact List.mem_cons_of_mem first (ih (List.mem_cons_of_mem head later) member)

theorem extend_plain {text : List Char} (plain : ∀ char ∈ text, isPlainChar char = true) :
    extend true false [] text = text.splitOnP (isSlash true) := by
  have raw : (text.any fun char => isEscapedInPath char || char = '%' || char = '\\') = false := by
    rw [List.any_eq_false]
    intro char member
    have noEscape : char ≠ '%' := isPlainChar_ne (plain char member) rfl
    have noBackslash : char ≠ '\\' := isPlainChar_ne (plain char member) rfl
    simp [isEscapedInPath_plain (plain char member), noEscape, noBackslash]
  have noDot (part : List Char) (within : ∀ char ∈ part, char ∈ text) : part.head? ≠ some '.' := by
    intro starts
    have member := within '.' (List.mem_of_head? starts)
    exact isPlainChar_ne (plain '.' member) rfl rfl
  have noHidden : ((text.splitOnP (isSlash true)).find? fun segment => segment.head? = some '.') =
      none := by
    rw [List.find?_eq_none]
    intro segment among
    simpa using noDot segment fun char member => mem_of_mem_splitOnP among member
  have isPlainText : isPlain false text (text.splitOnP (isSlash true)) = true := by
    simp [isPlain, raw, noDot text fun _ member => member, noHidden]
  rw [extend, isPlainText]
  rfl

theorem flatMap_segments {text : List Char} (plain : ∀ char ∈ text, isPlainChar char = true) :
    ((text.splitOnP (isSlash true)).flatMap fun segment => '/' :: segment) = '/' :: text := by
  induction text with
  | nil => rfl
  | cons char text ih =>
      have rest := ih fun other member => plain other (List.mem_cons_of_mem char member)
      rw [List.splitOnP_cons_eq_if_modifyHead]
      have slash := isSlash_plain (plain char List.mem_cons_self)
      by_cases isSeparator : char = '/'
      · rw [if_pos (by rw [slash, isSeparator]; rfl), List.flatMap_cons, rest, isSeparator]
        rfl
      · rw [if_neg (by simp [slash, isSeparator])]
        cases parts : text.splitOnP (isSlash true) with
        | nil =>
            rw [parts] at rest
            cases rest
        | cons head others =>
            rw [parts, List.flatMap_cons, List.cons_append, List.cons.injEq] at rest
            rw [List.modifyHead_cons, List.flatMap_cons, List.cons_append, List.cons_append, rest.2]

theorem splitPort_plain {text : List Char} (plain : ∀ char ∈ text, isPlainChar char = true)
    (bracketed : Bool) (done : List Char) :
    splitPort bracketed done text = (done.reverse ++ text, none) := by
  induction text generalizing bracketed done with
  | nil => rw [splitPort, List.append_nil]
  | cons char text ih =>
      have noColon : char ≠ ':' := isPlainChar_ne (plain char List.mem_cons_self) rfl
      rw [splitPort, if_neg (fun colon => noColon colon.1)]
      simp only
      rw [ih fun other member => plain other (List.mem_cons_of_mem char member)]
      simp

theorem host?_nil : host? true [] = none := by
  rfl

theorem authorityHost?_plain {text : List Char}
    (plain : ∀ char ∈ text, isPlainChar char = true) :
    authorityHost? true text = host? true text := by
  have noUser : hostPort? text = some text := by
    have absent : text.contains '@' = false := by
      rw [List.contains_eq_mem, decide_eq_false_iff_not]
      intro member
      exact isPlainChar_ne (plain '@' member) rfl rfl
    rw [hostPort?, absent]
    rfl
  rw [authorityHost?, noUser]
  simp only [Option.bind_eq_bind, Option.bind_some, splitPort_plain plain, List.reverse_nil,
    List.nil_append, Bool.and_true]
  cases text with
  | nil => exact host?_nil.symm
  | cons char text => rfl

theorem span_congr {α : Type} {test other : α → Bool} {items : List α}
    (same : ∀ item ∈ items, test item = other item) : items.span test = items.span other := by
  rw [List.span_eq_takeWhile_dropWhile, List.span_eq_takeWhile_dropWhile]
  induction items with
  | nil => rfl
  | cons item items ih =>
      have rest := ih fun later member => same later (List.mem_cons_of_mem item member)
      rw [Prod.mk.injEq] at rest ⊢
      rw [List.takeWhile_cons, List.takeWhile_cons, List.dropWhile_cons, List.dropWhile_cons,
        same item List.mem_cons_self, rest.1, rest.2]
      exact ⟨rfl, rfl⟩

def hostPart (target : List Char) : List Char :=
  (target.dropWhile (· = '/')).takeWhile (· ≠ '/')

def pathPart (target : List Char) : List Char :=
  (target.dropWhile (· = '/')).dropWhile (· ≠ '/')

theorem pathname_segments (url : Url) (path : List (List Char))
    (located : url.location = .segments path) :
    url.pathname = String.ofList (path.flatMap fun segment => '/' :: segment) := by
  rw [pathname, located]

theorem readPath_plain {text : List Char} (plain : ∀ char ∈ text, isPlainChar char = true) :
    readPath true false [] text = (.segments (text.splitOnP (isSlash true)), none) := by
  rw [readPath, splitQuery_plain plain]
  simp only [extend_plain plain]

/-- Behind a host the path is what stands there, or a slash alone. -/
theorem readPathStart_plain {text : List Char} (plain : ∀ char ∈ text, isPlainChar char = true)
    (starts : ∀ first ∈ text.head?, first = '/') :
    ∃ path, readPathStart true false text = (.segments path, none) ∧
      (path.flatMap fun segment => '/' :: segment) = if text = [] then ['/'] else text := by
  cases text with
  | nil => exact ⟨[[]], rfl, rfl⟩
  | cons first rest =>
      have slash : first = '/' := starts first rfl
      subst slash
      have plainRest : ∀ char ∈ rest, isPlainChar char = true := fun char member =>
        plain char (List.mem_cons_of_mem '/' member)
      refine ⟨rest.splitOnP (isSlash true), ?_, ?_⟩
      · rw [readPathStart, splitQuery_plain plain]
        exact readPath_plain plainRest
      · rw [flatMap_segments plainRest, if_neg (List.cons_ne_nil '/' rest)]

theorem readAuthority?_plain {scheme text : List Char} (special : isSpecial scheme = true)
    (plain : ∀ char ∈ text, isPlainChar char = true) :
    (readAuthority? scheme text).map (·.pathname) =
      (host? true (text.takeWhile (· ≠ '/'))).map fun _ =>
        String.ofList
          (if text.dropWhile (· ≠ '/') = [] then ['/'] else text.dropWhile (· ≠ '/')) := by
  have separated : (text.span fun char => !(isSlash true char || char = '?' || char = '#')) =
      (text.takeWhile (· ≠ '/'), text.dropWhile (· ≠ '/')) := by
    rw [← List.span_eq_takeWhile_dropWhile]
    refine span_congr ?_
    intro char member
    have noQuery : char ≠ '?' := isPlainChar_ne (plain char member) rfl
    have noFragment : char ≠ '#' := isPlainChar_ne (plain char member) rfl
    simp [isSlash_plain (plain char member), noQuery, noFragment]
  have plainHost : ∀ char ∈ text.takeWhile (· ≠ '/'), isPlainChar char = true := fun char member =>
    plain char (List.takeWhile_subset _ member)
  have plainPath : ∀ char ∈ text.dropWhile (· ≠ '/'), isPlainChar char = true := fun char member =>
    plain char ((List.dropWhile_sublist _).subset member)
  have starts : ∀ first ∈ (text.dropWhile (· ≠ '/')).head?, first = '/' := by
    intro first among
    have stops := List.head?_dropWhile_not (· ≠ '/') text
    rw [Option.mem_def.mp among] at stops
    simpa using stops
  obtain ⟨path, started, joined⟩ := readPathStart_plain plainPath starts
  simp only [readAuthority?, special, separated, authorityHost?_plain plainHost, Option.map_map]
  cases host? true (text.takeWhile (· ≠ '/')) with
  | none => rfl
  | some host =>
      simp only [Option.map_some, Function.comp, started, Option.some.injEq]
      rw [pathname_segments _ path rfl, joined]

theorem readRelative?_plain {base : Url} (special : isSpecial base.scheme = true)
    {rest : List Char} (more : rest ≠ []) (plain : ∀ char ∈ rest, isPlainChar char = true) :
    (readRelative? base ('/' :: rest)).map (·.pathname) =
      if rest.head? = some '/' then
        (host? true (hostPart rest)).map fun _ =>
          String.ofList (if pathPart rest = [] then ['/'] else pathPart rest)
      else some (String.ofList ('/' :: rest)) := by
  cases rest with
  | nil => exact absurd rfl more
  | cons second others =>
      have slash := isSlash_plain (plain second List.mem_cons_self)
      have plainOthers : ∀ char ∈ others, isPlainChar char = true := fun char member =>
        plain char (List.mem_cons_of_mem second member)
      by_cases doubled : second = '/'
      · subst doubled
        have dropped : others.dropWhile (isSlash true) = others.dropWhile (· = '/') := by
          have same := span_congr fun char member => isSlash_plain (plainOthers char member)
          rw [List.span_eq_takeWhile_dropWhile, List.span_eq_takeWhile_dropWhile] at same
          exact (Prod.mk.inj same).2
        have plainBehind : ∀ char ∈ others.dropWhile (· = '/'), isPlainChar char = true :=
          fun char member => plainOthers char ((List.dropWhile_sublist _).subset member)
        rw [if_pos (show ('/' :: others).head? = some '/' from rfl), readRelative?]
        simp only [decide_true, isSlash, Bool.true_or, Bool.and_self, if_true]
        change (readAuthority? base.scheme (others.dropWhile (isSlash true))).map (·.pathname) = _
        rw [dropped, readAuthority?_plain special plainBehind]
        rfl
      · have single : isSlash true second = false := by simp [slash, doubled]
        rw [if_neg (by simp [doubled]), readRelative?]
        simp only [single, Bool.and_false, Bool.false_eq_true, if_false]
        change some (pathname (readRelative?.rooted base (second :: others))) = _
        rw [readRelative?.rooted, readPath_plain plain, pathname_segments _ _ rfl,
          flatMap_segments plain]

/-- What stands in front of a text and has nothing to strip stays in front of it. -/
theorem strip_front {front : List Char} (visible : ∀ char ∈ front, isSpaceOrControl char = false)
    (present : front ≠ []) (text : List Char) : ∃ rest, strip (front ++ text) = front ++ rest := by
  have kept : front.filter (fun char => !(['\t', '\n', '\r'].contains char)) = front := by
    refine List.filter_eq_self.mpr ?_
    intro char member
    have hidden : ∀ other ∈ ['\t', '\n', '\r'], isSpaceOrControl other = true :=
      List.all_eq_true.mp (by decide)
    rw [Bool.not_eq_true', List.contains_eq_mem, decide_eq_false_iff_not]
    intro among
    have clear := visible char member
    rw [hidden char among] at clear
    cases clear
  have reversed : ∀ char ∈ front.reverse, isSpaceOrControl char = false := fun char member =>
    visible char (List.mem_reverse.mp member)
  have starts : (front ++ text).dropWhile isSpaceOrControl = front ++ text := by
    cases front with
    | nil => exact absurd rfl present
    | cons char front => simp [visible char List.mem_cons_self]
  simp only [strip, starts, List.reverse_append, List.dropWhile_append]
  split
  · refine ⟨[], ?_⟩
    rw [dropWhile_eq_self reversed, List.reverse_reverse, kept, List.append_nil]
  · refine ⟨(text.reverse.dropWhile isSpaceOrControl).reverse.filter
      fun char => !(['\t', '\n', '\r'].contains char), ?_⟩
    rw [List.reverse_append, List.reverse_reverse, List.filter_append, kept]

end Url

namespace Http.Request

/-- The URL that a target is read against has the scheme of the web, whatever the host. -/
theorem base?_scheme {host : Option Text} {base : Url} (named : base? host = some base) :
    base.scheme = "http".toList := by
  have shown : ("http://".toList.all fun char => !Url.isSpaceOrControl char) = true := by
    decide
  have visible : ∀ char ∈ "http://".toList, Url.isSpaceOrControl char = false :=
    fun char member => (Bool.not_eq_true' _).mp (List.all_eq_true.mp shown char member)
  obtain ⟨rest, stripped⟩ :=
    Url.strip_front visible (by decide) (given host "localhost").toString.toList
  have split : Url.splitScheme? ("http://".toList ++ rest) =
      some ("http".toList, '/' :: '/' :: rest) := by
    rfl
  rw [base?, Url.read?, String.toList_append, stripped] at named
  simp only [split] at named
  change Url.readAuthority? "http".toList _ = some base at named
  obtain ⟨host, _, rfl⟩ := Option.map_eq_some_iff.mp named
  rfl

theorem url?_eq {request : Request} {base : Url} {rest : List Char}
    (named : base? request.host = some base)
    (asks : request.target = some (Text.ofChars ('/' :: rest)))
    (plain : ∀ char ∈ rest, Url.isPlainChar char = true) :
    request.url? = Url.readRelative? base ('/' :: rest) := by
  have stripped : Url.strip ('/' :: rest) = '/' :: rest := by
    refine Url.strip_plain ?_
    intro char member
    rcases List.mem_cons.mp member with rfl | later
    · rfl
    · exact plain char later
  have unschemed : Url.splitScheme? ('/' :: rest) = none := by
    rfl
  have target : (given request.target "/").toString.toList = '/' :: rest := by
    rw [asks]
    change String.toList (String.ofList (Text.ofChars ('/' :: rest)).toChars) = '/' :: rest
    rw [Text.toChars_ofChars, String.toList_ofList]
  rw [url?, named]
  simp only [Option.bind_eq_bind, Option.bind_some, Url.read?, target, stripped, unschemed]

end Http.Request

namespace Ui

open Http
open Http.Server (Event Occurrence occurrences reached received?)

theorem purpose_otherPath_iff (request : Request) :
    purpose request = .otherPath ↔
      ∃ path, request.url?.map (·.pathname) = some path ∧ path ≠ "/" := by
  unfold purpose
  cases request.url? with
  | none => simp
  | some url =>
      simp only [Option.map_some, Option.some.injEq, exists_eq_left']
      by_cases root : url.pathname = "/"
      · simp only [root, ne_eq, not_true_eq_false, if_false, iff_false]
        split
        · exact nofun
        · split
          · exact nofun
          · exact nofun
      · have different : (url.pathname : Text) ≠ "/" := fun same =>
          root (Text.ofString_injective same)
        simp only [ne_eq, different, not_false_eq_true, if_true, root]

/-- A request is turned away as unknown: it is answered at once, no call is made for it, and the
session is left alone. -/
def TurnedAway {ι : Type} [DecidableEq ι] (entry : Http.Entry) (events : List (Event ι)) (id : ι)
    (request : Request) : Prop :=
  (∃ exchange, exchange.response = .ofError "Not Found" 404 ∧
    occurrences (server entry) (reached (server entry) events) (.arrive id request) =
      [.finished id exchange]) ∧
  (reached (server entry) (events ++ [.arrive id request])).session =
    (reached (server entry) events).session

variable {ι : Type} [DecidableEq ι]

theorem turnedAway_iff (entry : Http.Entry) (events : List (Event ι)) (id : ι)
    (request : Request) (fresh : received? id events = none) :
    TurnedAway entry events id request ↔ purpose request = .otherPath := by
  obtain ⟨standing?, next?, _, course, turn⟩ := reached_turn entry events (.arrive id request)
  have absent : standing? = none := by
    have missing : received? (Event.arrive id request).id events = none := fresh
    rw [missing] at course
    generalize Server.own (Event.arrive id request).id _ = history at course
    cases course
    rfl
  subst absent
  unfold TurnedAway
  generalize occurrences (server entry) (reached (server entry) events) (.arrive id request) = new
    at turn ⊢
  generalize (reached (server entry) (events ++ [.arrive id request])).session = later at turn ⊢
  cases turn with
  | unknown notArrival => exact absurd rfl (notArrival request)
  | unreadable asks =>
      simp only [asks, reduceCtorEq, iff_false]
      rintro ⟨⟨exchange, answered, happened⟩, _⟩
      cases entry with
      | dispatcher =>
          cases happened
          cases congrArg Response.head answered
      | listener => cases happened
  | refused asks =>
      cases which : purpose request with
      | otherPath =>
          rw [which] at asks
          cases asks
          exact ⟨fun _ => rfl, fun _ => ⟨⟨_, rfl, rfl⟩, rfl⟩⟩
      | otherMethod =>
          rw [which] at asks
          cases asks
          simp only [reduceCtorEq, iff_false]
          rintro ⟨⟨exchange, answered, happened⟩, _⟩
          cases happened
          have status := congrArg (fun response => response.head.map (·.status)) answered
          exact absurd (Option.some.inj status) (by decide)
      | _ => simp [which, Purpose.refusal?] at asks
  | viewed asks =>
      simp only [asks, reduceCtorEq, iff_false]
      rintro ⟨⟨exchange, _, happened⟩, _⟩
      cases happened
  | admitted asks =>
      simp only [asks, reduceCtorEq, iff_false]
      rintro ⟨⟨exchange, _, happened⟩, _⟩
      cases happened

/-- A target that is a slash and then letters, digits, hyphens, underscores and slashes. -/
def IsPlainTarget (target : List Char) : Prop :=
  ∃ rest, target = '/' :: rest ∧ rest ≠ [] ∧ ∀ char ∈ rest, Url.isPlainChar char = true

/-- Of all plain targets, the server turns away those that are a path of their own, and those that
name a host, by two slashes in front, and have more behind it than a slash. -/
theorem plain_target_turned_away_iff (entry : Http.Entry) (events : List (Event ι)) (id : ι)
    (request : Request) (target : List Char) (base : Url) (fresh : received? id events = none)
    (named : Request.base? request.host = some base)
    (asks : request.target = some (Text.ofChars target)) (plain : IsPlainTarget target) :
    TurnedAway entry events id request ↔
      ¬ ['/', '/'] <+: target ∨
        (Url.host? true (Url.hostPart target)).isSome ∧ Url.pathPart target ∉ [[], ['/']] := by
  obtain ⟨rest, rfl, more, plainRest⟩ := plain
  have special : Url.isSpecial base.scheme = true := by
    rw [Request.base?_scheme named]
    decide
  -- the target is read as a reference, whose path then decides
  have path := Url.readRelative?_plain special more plainRest
  rw [turnedAway_iff entry events id request fresh, purpose_otherPath_iff,
    Request.url?_eq named asks plainRest, path]
  have sameHost : Url.hostPart ('/' :: rest) = Url.hostPart rest := rfl
  have samePath : Url.pathPart ('/' :: rest) = Url.pathPart rest := rfl
  have different (path : List Char) : String.ofList path ≠ "/" ↔ path ≠ ['/'] := by
    rw [ne_eq, ne_eq, ← String.toList_inj, String.toList_ofList]
    rfl
  by_cases doubled : rest.head? = some '/'
  · have starts : ['/', '/'] <+: '/' :: rest := by
      cases rest with
      | nil => cases doubled
      | cons second others =>
          cases doubled
          exact ⟨others, rfl⟩
    rw [if_pos doubled, sameHost, samePath]
    cases Url.host? true (Url.hostPart rest) with
    | none => simp [starts]
    | some host =>
        by_cases nothing : Url.pathPart rest = []
        · simp [starts, nothing]
        · simp [starts, nothing, different]
  · have single : ¬ ['/', '/'] <+: '/' :: rest := by
      rintro ⟨others, same⟩
      cases same
      exact doubled rfl
    rw [if_neg doubled]
    simp only [single, not_false_eq_true, true_or, iff_true]
    refine ⟨_, rfl, (different _).mpr ?_⟩
    intro same
    exact more (List.cons.inj same).2

theorem path_behind_host_turned_away :
    let request : Request :=
      { method := some "GET", target := some (Text.ofChars ['/', '/', 'x', '/', 'y'])
        host := some "localhost:8888" }
    received? 7 crossed = none ∧ IsPlainTarget ['/', '/', 'x', '/', 'y'] ∧
      (∃ base, Request.base? request.host = some base) ∧
      TurnedAway .listener crossed 7 request := by
  intro request
  have plain : IsPlainTarget ['/', '/', 'x', '/', 'y'] :=
    ⟨['/', 'x', '/', 'y'], rfl, by decide, List.all_eq_true.mp (by decide)⟩
  obtain ⟨base, named⟩ : ∃ base, Request.base? request.host = some base :=
    Option.isSome_iff_exists.mp (by decide +kernel)
  refine ⟨rfl, plain, ⟨base, named⟩, ?_⟩
  refine (plain_target_turned_away_iff .listener crossed 7 request _ base rfl named rfl plain).mpr
    (.inr ⟨?_, ?_⟩)
  · decide +kernel
  · decide

theorem doubled_slash_served :
    ¬ ∀ target, IsPlainTarget target →
      TurnedAway .listener ([] : List (Event Nat)) 0
        { method := some "GET", target := some (Text.ofChars target)
          host := some "localhost:8888" } := by
  intro unserved
  have turned := unserved ['/', '/', 'x']
    ⟨['/', 'x'], rfl, by decide, List.all_eq_true.mp (by decide)⟩
  rw [turnedAway_iff _ _ _ _ rfl] at turned
  revert turned
  decide +kernel

end Ui

end NodeConsole
