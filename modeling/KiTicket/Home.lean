import KiTicket.Lib.Effects
import KiTicket.EventList
import KiTicket.Fetch

/-! `Home.tsx`, the list of events in the browser. Filters change faster than answers come:
each change takes back the request before it and, a moment later, asks again. -/
namespace KiTicket.Home
open Runs Effects Api Events
open Broker (Json)

/-- What the effect depends on. -/
structure Filters where
  query : Text
  genre : Text
  city : Text
  /-- The start of a day, in milliseconds. -/
  «from» : Option Int
  available : Bool
  page : Nat
deriving DecidableEq

/-- The parameters of the URL, converted; `read` is how the database reads what
`toISOString` writes. An empty one is not set. -/
def Filters.toQuery (read : Int → Date) (filters : Filters) : EventQueryDto where
  q := if filters.query = [] then none else some filters.query
  genre := if filters.genre = [] then none else some filters.genre
  city := if filters.city = [] then none else some filters.city
  «from» := filters.«from».map read
  «to» := none
  available := if filters.available then some (toBoolean "true".toList) else none
  page := filters.page
  limit := 12

structure View where
  events : List EventEntity
  pages : Nat
  total : Nat
  loading : Bool
  error : Text
deriving DecidableEq

/-- How far a start of the effect has come. -/
inductive State where
  | timer
  | calling (progress : Api.Progress EventPage)
  | settled
  | done

/-- What comes next for a start of the effect. -/
inductive Choice where
  /-- The timer goes off, an attempt begins, or a callback is run. -/
  | proceed
  /-- The server answers the request. -/
  | list (now : Nat) (order : RowOrder)
  | refuse (status : Nat) (body : Option Json)
  | lose (timedOut : Bool)

section
variable (ilike : Text → Text → Bool) (read : Int → Date) (s : Site)

/-- What the choice makes of the request that is under way. -/
def Choice.fetched (filters : Filters) : Choice → Option (Fetched EventPage)
  | .proceed => none
  | .list now order =>
    if (filters.toQuery read).accepted then
      ((filters.toQuery read).list ilike s now order).toOption.map .ok
    else none
  | .refuse status body => some (.refused status body)
  | .lose timedOut => some (.lost timedOut)

/-- The next attempt, or the callback; an aborted call was cleaned up before. -/
def callback (active : Bool) (view : View) : Api.Progress EventPage → Option (State × View)
  | .resolved page => some (.settled, if active then
      { view with events := page.items, pages := max 1 page.pages, total := page.total } else view)
  | .rejected error => some (.settled, if active then { view with error := error.message } else view)
  | .aborted => some (.settled, view)
  | progress => (progress.fetch !active).map fun progress => (.calling progress, view)

def turn (filters : Filters) (active : Bool) (choice : Choice) (view : View) :
    State → Option (State × View)
  | .timer =>
    match choice with
    | .proceed => if active then some (.calling (.ready 0), { view with error := [] }) else none
    | _ => none
  | .calling progress =>
    match choice with
    | .proceed => callback active view progress
    | _ => (choice.fetched ilike read s filters).bind fun fetched =>
      (progress.settle true (!active) fetched).map fun progress => (.calling progress, view)
  | .settled =>
    match choice with
    | .proceed => some (.done, if active then { view with loading := false } else view)
    | _ => none
  | .done => none

end

variable {cfg : Config} {ilike : Text → Text → Bool} {read : Int → Date} {s : Site}
  {filters : Filters} {active : Bool} {choice : Choice} {state state' : State} {view view' : View}

/-- What a turn of a start can be. -/
inductive Turned (ilike : Text → Text → Bool) (read : Int → Date) (s : Site) (filters : Filters)
    (active : Bool) (choice : Choice) (view : View) : State → State → View → Prop where
  | fired (on : active = true) :
      Turned ilike read s filters active choice view .timer (.calling (.ready 0)) { view with error := [] }
  | began {attempt : Nat} :
      Turned ilike read s filters active choice view (.calling (.ready attempt))
        (.calling (if !active then .aborted else .sent attempt)) view
  | ended {attempt : Nat} {fetched : Fetched EventPage}
      (fetches : choice.fetched ilike read s filters = some fetched) :
      Turned ilike read s filters active choice view (.calling (.sent attempt))
        (.calling (Api.receive true (!active) attempt fetched)) view
  | answered {page : EventPage} :
      Turned ilike read s filters active choice view (.calling (.resolved page)) .settled
        (if active then { view with
          events := page.items, pages := max 1 page.pages, total := page.total } else view)
  | failed {error : ApiError} :
      Turned ilike read s filters active choice view (.calling (.rejected error)) .settled
        (if active then { view with error := error.message } else view)
  | takenBack :
      Turned ilike read s filters active choice view (.calling .aborted) .settled view
  | finished :
      Turned ilike read s filters active choice view .settled .done
        (if active then { view with loading := false } else view)

theorem turned_callback {progress : Api.Progress EventPage}
    (moves : callback active view progress = some (state', view')) :
    Turned ilike read s filters active choice view (.calling progress) state' view' := by
  cases progress with
  | ready =>
    cases moves
    exact .began
  | sent => cases moves
  | resolved =>
    cases moves
    exact .answered
  | rejected =>
    cases moves
    exact .failed
  | aborted =>
    cases moves
    exact .takenBack

theorem turned_settle {progress : Api.Progress EventPage}
    (moves : (choice.fetched ilike read s filters).bind (fun fetched =>
      (progress.settle true (!active) fetched).map fun progress => (State.calling progress, view)) =
        some (state', view')) :
    Turned ilike read s filters active choice view (.calling progress) state' view' := by
  obtain ⟨fetched, fetches, moves⟩ := Option.bind_eq_some_iff.mp moves
  obtain ⟨progress', settles, last⟩ := Option.map_eq_some_iff.mp moves
  cases last
  cases progress with
  | sent =>
    cases settles
    exact .ended fetches
  | _ => cases settles

theorem turned_of_turn
    (moves : turn ilike read s filters active choice view state = some (state', view')) :
    Turned ilike read s filters active choice view state state' view' := by
  cases state with
  | timer =>
    cases choice with
    | proceed =>
      cases active with
      | false => cases moves
      | true =>
        cases moves
        exact .fired rfl
    | _ => cases moves
  | calling progress =>
    cases choice with
    | proceed => exact turned_callback moves
    | _ => exact turned_settle moves
  | settled =>
    cases choice with
    | proceed =>
      cases moves
      exact .finished
    | _ => cases moves
  | done => cases moves

theorem Turned.quiet (turned : Turned ilike read s filters false choice view state state' view') :
    view' = view := by
  cases turned with
  | fired on => cases on
  | _ => rfl

/-- The effect of the page. The values change by the inputs and the two buttons. -/
def hook (cfg : Config) (ilike : Text → Text → Bool) (read : Int → Date) :
    Hook Site Site.Action Filters State View Choice Empty where
  env s a := s.step cfg a
  start _ := .timer
  enter _ view := { view with loading := true }
  turn s filters active choice state view := turn ilike read s filters active choice view state
  act _ input _ := input.elim
  quiet moves := (turned_of_turn moves).quiet

/-- The page before its first effect. -/
def opened (s : Site) : Component Site Filters State View := ⟨s, [], ⟨[], 1, 0, true, []⟩⟩

/-! ## What is shown -/

abbrev Record := List (Transition (Component Site Filters State View)
  (Effects.Action Site.Action Filters Choice Empty))

/-- The server answered with the page, to these filters. -/
def Listed (ilike : Text → Text → Bool) (read : Int → Date) (filters : Filters) (ts : Record)
    (page : EventPage) : Prop :=
  ∃ t ∈ ts, ∃ now order,
    (filters.toQuery read).list ilike t.source.env now order = .ok page

/-- A request of the start ended with the error. -/
def Refused (ilike : Text → Text → Bool) (read : Int → Date) (filters : Filters) (i : Nat)
    (ts : Record) (error : ApiError) : Prop :=
  ∃ t ∈ ts, ∃ choice fetched, t.action = .turn i choice ∧
    choice.fetched ilike read t.source.env filters = some fetched ∧ fetched.Tells error

/-- What the page is to show after a change of the filters. -/
def Shown (ilike : Text → Text → Bool) (read : Int → Date) (filters : Filters) (i : Nat)
    (before : View) (ts : Record) (view : View) : Prop :=
  (∃ page, Listed ilike read filters ts page ∧
    view = { before with
      events := page.items, pages := max 1 page.pages, total := page.total, error := [] }) ∨
  ∃ error, Refused ilike read filters i ts error ∧ view = { before with error := error.message }

/-- Turns a start can still make. -/
def State.left : State → Nat
  | .timer => 7
  | .calling (.ready attempt) => 6 - 2 * attempt
  | .calling (.sent attempt) => 5 - 2 * attempt
  | .calling _ => 2
  | .settled => 1
  | .done => 0

/-- Where a call of the start stands that is not cleaned up. -/
def Reached (ilike : Text → Text → Bool) (read : Int → Date) (filters : Filters) (i : Nat)
    (ts : Record) : Api.Progress EventPage → Prop
  | .ready attempt | .sent attempt => attempt < 2
  | .resolved page => Listed ilike read filters ts page
  | .rejected error => Refused ilike read filters i ts error
  | .aborted => False

/-- What the page shows while the newest start is in this state. -/
def Showing (ilike : Text → Text → Bool) (read : Int → Date) (filters : Filters) (i : Nat)
    (before : View) (ts : Record) (view : View) : State → Prop
  | .timer => view = { before with loading := true }
  | .calling progress =>
    view = { before with loading := true, error := [] } ∧ Reached ilike read filters i ts progress
  | .settled => Shown ilike read filters i { before with loading := true } ts view
  | .done => Shown ilike read filters i { before with loading := false } ts view

variable {i : Nat} {ts : Record} {before : View} {page : EventPage} {error : ApiError}
  {t : Transition (Component Site Filters State View) (Effects.Action Site.Action Filters Choice Empty)}

theorem Listed.concat (listed : Listed ilike read filters ts page) :
    Listed ilike read filters (ts ++ [t]) page := by
  obtain ⟨u, member, answered⟩ := listed
  exact ⟨u, List.mem_append_left _ member, answered⟩

theorem Refused.concat (refused : Refused ilike read filters i ts error) :
    Refused ilike read filters i (ts ++ [t]) error := by
  obtain ⟨u, member, told⟩ := refused
  exact ⟨u, List.mem_append_left _ member, told⟩

theorem Shown.concat (shown : Shown ilike read filters i before ts view) :
    Shown ilike read filters i before (ts ++ [t]) view := by
  rcases shown with ⟨page, listed, same⟩ | ⟨error, refused, same⟩
  · exact .inl ⟨page, listed.concat, same⟩
  · exact .inr ⟨error, refused.concat, same⟩

theorem Showing.concat (showing : Showing ilike read filters i before ts view state) :
    Showing ilike read filters i before (ts ++ [t]) view state := by
  cases state with
  | timer => exact showing
  | settled | done => exact Shown.concat showing
  | calling progress =>
    refine ⟨showing.1, ?_⟩
    cases progress with
    | resolved => exact Listed.concat showing.2
    | rejected => exact Refused.concat showing.2
    | _ => exact showing.2

theorem listed_of_fetched (fetches : choice.fetched ilike read s filters = some (.ok page)) :
    ∃ now order, (filters.toQuery read).list ilike s now order = .ok page := by
  cases choice with
  | list now order =>
    simp only [Choice.fetched] at fetches
    split at fetches
    · obtain ⟨answer, answered, same⟩ := Option.map_eq_some_iff.mp fetches
      cases same
      refine ⟨now, order, ?_⟩
      cases listed : (filters.toQuery read).list ilike s now order with
      | error => simp [listed, Except.toOption] at answered
      | ok other =>
        rw [listed] at answered
        exact congrArg Except.ok (Option.some.inj answered)
    · cases fetches
  | proceed | refuse | lose => cases fetches

/-- What the end of an attempt leads to is what the record shows. -/
theorem reached_of_ended {attempt : Nat} {fetched : Fetched EventPage}
    (own : t.action = .turn i choice)
    (fetches : choice.fetched ilike read t.source.env filters = some fetched) :
    Reached ilike read filters i (ts ++ [t]) (Api.receive true false attempt fetched) := by
  have member : t ∈ ts ++ [t] := List.mem_concat_self
  rcases receive_cases true attempt fetched with
    ⟨page, rfl, resolved⟩ | ⟨more, again⟩ | ⟨error, tells, rejected⟩
  · rw [resolved]
    exact ⟨t, member, listed_of_fetched fetches⟩
  · rw [again]
    exact more
  · rw [rejected]
    exact ⟨t, member, choice, fetched, own, fetches, tells⟩

theorem Showing.turned (showing : Showing ilike read filters i before ts view state)
    (own : t.action = .turn i choice)
    (turned : Turned ilike read t.source.env filters true choice view state state' view') :
    Showing ilike read filters i before (ts ++ [t]) view' state' := by
  cases turned with
  | fired =>
    obtain rfl : view = { before with loading := true } := showing
    exact ⟨rfl, Nat.zero_lt_two⟩
  | began => exact ⟨showing.1, showing.2⟩
  | ended fetches => exact ⟨showing.1, reached_of_ended own fetches⟩
  | answered =>
    obtain ⟨rfl, listed⟩ := showing
    exact .inl ⟨_, Listed.concat listed, rfl⟩
  | failed =>
    obtain ⟨rfl, refused⟩ := showing
    exact .inr ⟨_, Refused.concat refused, rfl⟩
  | takenBack => exact showing.2.elim
  | finished =>
    rcases Shown.concat showing with ⟨page, listed, rfl⟩ | ⟨error, refused, rfl⟩
    · exact .inl ⟨page, listed, rfl⟩
    · exact .inr ⟨error, refused, rfl⟩

theorem Turned.left_lt (turned : Turned ilike read s filters true choice view state state' view')
    (showing : Showing ilike read filters i before ts view state) : state'.left < state.left := by
  cases turned with
  | fired | finished => decide
  | answered | failed | takenBack => exact Nat.one_lt_two
  | @began attempt =>
    have few : attempt < 2 := showing.2
    simp only [State.left, Bool.not_true, Bool.false_eq_true, if_false]
    omega
  | @ended attempt fetched fetches =>
    have few : attempt < 2 := showing.2
    rcases receive_cases true attempt fetched with
      ⟨page, -, resolved⟩ | ⟨more, again⟩ | ⟨error, -, rejected⟩
    · simp only [Bool.not_true, resolved, State.left]
      omega
    · simp only [Bool.not_true, again, State.left]
      omega
    · simp only [Bool.not_true, rejected, State.left]
      omega

theorem Shown.loading {loading : Bool}
    (shown : Shown ilike read filters i { before with loading } ts view) : view.loading = loading := by
  rcases shown with ⟨page, -, rfl⟩ | ⟨error, -, rfl⟩ <;> rfl

/-- The page is loading until the newest start is over. -/
theorem Showing.loading (showing : Showing ilike read filters i before ts view state) :
    view.loading = true ∧ state ≠ .done ∨
      Shown ilike read filters i { before with loading := false } ts view ∧ state = .done := by
  cases state with
  | timer =>
    obtain rfl : view = { before with loading := true } := showing
    exact .inl ⟨rfl, fun gone => (by cases gone)⟩
  | calling progress =>
    obtain ⟨rfl, -⟩ := showing
    exact .inl ⟨rfl, fun gone => (by cases gone)⟩
  | settled => exact .inl ⟨Shown.loading showing, fun gone => (by cases gone)⟩
  | done => exact .inr ⟨showing, rfl⟩

/-- A start that is not over can go on. -/
theorem Showing.proceeds (showing : Showing ilike read filters i before ts view state)
    (busy : state ≠ .done) :
    ∃ choice moved, turn ilike read s filters true choice view state = some moved := by
  cases state with
  | timer | settled => exact ⟨.proceed, _, rfl⟩
  | done => exact absurd rfl busy
  | calling progress =>
    cases progress with
    | sent => exact ⟨.lose true, _, rfl⟩
    | aborted => exact showing.2.elim
    | ready | resolved | rejected => exact ⟨.proceed, _, rfl⟩

/-- A turn of the start with this number. -/
def turnOf (i : Nat) (t : Transition (Component Site Filters State View)
    (Effects.Action Site.Action Filters Choice Empty)) : Bool :=
  match t.action with
  | .turn j _ => j = i
  | _ => false

/-- After a change of the filters the page is loading for at most seven turns of the start it
led to. Then it shows what the server answered to these filters since the change, or the error
a request of that start ended with over what was shown before: whatever is answered to older
filters changes nothing. -/
theorem newest_shown {c₀ c c' : Component Site Filters State View}
    (changed : (hook cfg ilike read).step c₀ (.change filters) = some c)
    (run : Run (hook cfg ilike read).step c ts c') (calm : ∀ t ∈ ts, t.action.Calm) :
    (c'.view.loading = false →
      Shown ilike read filters c₀.tasks.length { c₀.view with loading := false } ts c'.view) ∧
    ts.countP (turnOf c₀.tasks.length) ≤ 7 ∧
    (c'.view.loading = true → ∃ choice c'',
      (hook cfg ilike read).step c' (.turn c₀.tasks.length choice) = some c'') := by
  have alone := alone_of_run (R := fun ts state view =>
      Showing ilike read filters c₀.tasks.length c₀.view ts view state ∧
        ts.countP (turnOf c₀.tasks.length) + state.left ≤ 7)
    changed run calm ⟨rfl, le_rfl⟩ ?_ ?_ ?_
  · obtain ⟨env, tasks, view⟩ := c'
    obtain ⟨before, state, rfl, size, -, showing, few⟩ := alone
    refine ⟨fun loaded => ?_, by omega, fun loading => ?_⟩
    · rcases showing.loading with ⟨loading, -⟩ | ⟨shown, -⟩
      · rw [loaded] at loading
        cases loading
      · exact shown
    · have busy : state ≠ .done := by
        rcases showing.loading with ⟨-, busy⟩ | ⟨shown, -⟩
        · exact busy
        · rw [shown.loading] at loading
          cases loading
      obtain ⟨choice, moved, moves⟩ := showing.proceeds (s := env) busy
      exact ⟨choice, _, size ▸ step_newest moves⟩
  · rintro ts t state view ⟨showing, few⟩ other
    refine ⟨showing.concat, ?_⟩
    have mine : turnOf c₀.tasks.length t = false := by
      unfold turnOf
      split
      · rename_i j choice acts
        exact decide_eq_false fun same => other choice (same ▸ acts)
      · rfl
    simpa [mine] using few
  · rintro ts t choice state state' view view' ⟨showing, few⟩ own moves
    have turned := turned_of_turn moves
    refine ⟨showing.turned own turned, ?_⟩
    have fewer := turned.left_lt showing
    have mine : turnOf c₀.tasks.length t = true := by
      rw [turnOf, own]
      exact decide_eq_true rfl
    rw [List.countP_append, List.countP_singleton, if_pos mine]
    omega
  · intro _ _ input
    exact input.elim

/-- The rows as they are stored where that is an order. -/
def storedOrder : RowOrder := fun rows =>
  if sorted : rows.Pairwise fun x y => x.startsAt ≤ y.startsAt then ⟨rows, .refl _, sorted⟩
  else Paging.arrange Event.startsAt rows

def unfiltered : Filters := ⟨[], [], [], none, false, 1⟩

def music : Filters := { unfiltered with genre := "Music".toList }

abbrev plainHook := hook sampleConfig (fun text term => text == term) fun time => some (1000 * time)

abbrev openPage : Component Site Filters State View := opened (launched _ openSite_enabled)

/-- A genre is chosen while the whole list is being asked for. -/
def choosing : List (Effects.Action Site.Action Filters Choice Empty) :=
  [.change unfiltered, .turn 0 .proceed, .turn 0 .proceed] ++ [.change music]

theorem choosing_enabled : (exec plainHook.step openPage choosing).isSome = true := by
  decide +kernel

abbrev chosen : Component Site Filters State View :=
  replay plainHook.step openPage choosing choosing_enabled

/-- The whole list comes before what was chosen is asked for. -/
def overtaken : List (Effects.Action Site.Action Filters Choice Empty) :=
  [.turn 0 (.list 0 storedOrder), .turn 0 .proceed, .turn 1 .proceed, .turn 1 .proceed,
    .turn 1 (.list 0 storedOrder), .turn 1 .proceed, .turn 0 .proceed, .turn 1 .proceed]

theorem overtaken_enabled : (exec plainHook.step chosen overtaken).isSome = true := by
  decide +kernel

theorem newest_shown_overtaken :
    (replay plainHook.step chosen overtaken overtaken_enabled).view.loading = false ∧
      Shown (fun text term => text == term) (fun time => some (1000 * time)) music 1
        ⟨[], 1, 0, false, []⟩ (transitions plainHook.step chosen overtaken)
        (replay plainHook.step chosen overtaken overtaken_enabled).view := by
  have loaded : (replay plainHook.step chosen overtaken overtaken_enabled).view.loading = false := by
    decide +kernel
  have calm : Within Effects.Action.Calm (transitions plainHook.step chosen overtaken) :=
    within_replay overtaken_enabled (by simp [overtaken, Effects.Action.Calm])
  exact ⟨loaded,
    (newest_shown (step_replay choosing_enabled) (run_replay overtaken_enabled) calm).1 loaded⟩

end KiTicket.Home
