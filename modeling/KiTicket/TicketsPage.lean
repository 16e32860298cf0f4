import KiTicket.Lib.Effects
import KiTicket.Fetch
import KiTicket.Wallet

/-! `Tickets.tsx`, the wallet in the browser. It asks for the tickets and then for the picture
of each; where the list cannot be had it shows the one it kept under the id of the user. -/
namespace KiTicket.TicketsPage
open Runs Effects Api Tickets
open Broker (Json)

/-- A ticket, with what its picture says if there is one. -/
structure StoredTicket where
  entry : WalletTicket
  qr : Option Text
deriving DecidableEq

structure View where
  tickets : List StoredTicket
  loading : Bool
  error : Text
  /-- `localStorage`, under `narm-tickets-` and the id of a user. -/
  cache : Text → Option (List StoredTicket)

/-- How far `load` has come. -/
inductive State where
  /-- The list is asked for; these states its queries have found so far. -/
  | listing (call : Api.Progress (List WalletTicket)) (queries : List Site)
  | enriching (wallet : List WalletTicket) (calls : List (Api.Progress (Uuid × Text)))
  | done

/-- What comes next for the picture of one ticket. -/
inductive Picture where
  | begin
  | serve
  | refuse (status : Nat) (body : Option Json)
  | lose (timedOut : Bool)

inductive Choice where
  /-- `load` goes on; `stores` says whether `localStorage` takes what it is given. -/
  | proceed (stores : Bool)
  | query
  | list (issuedAt : Uuid → Nat)
  | refuse (status : Nat) (body : Option Json)
  | lose (timedOut : Bool)
  | picture (j : Nat) (picture : Picture)

def Choice.fetched (user : AuthenticatedUser) (queries : List Site) :
    Choice → Option (Fetched (List WalletTicket))
  | .list issuedAt =>
    match queries with
    | [first, second, third, fourth] =>
      (Tickets.list issuedAt user first second third fourth).toOption.map .ok
    | _ => none
  | .refuse status body => some (.refused status body)
  | .lose timedOut => some (.lost timedOut)
  | _ => none

/-- A call for the picture of the ticket. -/
def Picture.next (s : Site) (user : AuthenticatedUser) (active : Bool) (entry : WalletTicket)
    (call : Api.Progress (Uuid × Text)) : Picture → Option (Api.Progress (Uuid × Text))
  | .begin => call.fetch !active
  | .serve => (qr s.db user entry.ticket.id.text).toOption.bind fun picture =>
    call.settle true (!active) (.ok picture)
  | .refuse status body => call.settle true (!active) (.refused status body)
  | .lose timedOut => call.settle true (!active) (.lost timedOut)

def settled : Api.Progress (Uuid × Text) → Bool
  | .ready _ | .sent _ => false
  | _ => true

def enrich (entry : WalletTicket) : Api.Progress (Uuid × Text) → StoredTicket
  | .resolved (_, text) => ⟨entry, some text⟩
  | _ => ⟨entry, none⟩

def qrFailures (tickets : List StoredTicket) : Nat := tickets.countP (·.qr.isNone)

/-- `toLocaleString("fa-IR")` is the browser's. -/
def notice (toLocaleString : Nat → Text) (failures : Nat) : Text :=
  "کد QR تعداد ".toList ++ toLocaleString failures ++
    " بلیت موقتاً دریافت نشد؛ اطلاعات بلیت‌ها محفوظ است.".toList

section
variable (toLocaleString : Nat → Text)

def View.show (view : View) (user : AuthenticatedUser) (stores : Bool) (enriched : List StoredTicket) :
    View where
  tickets := enriched
  loading := false
  error := if qrFailures enriched = 0 then view.error else notice toLocaleString (qrFailures enriched)
  cache := if stores then Function.update view.cache user.sub (some enriched) else view.cache

/-- The `catch` of `load`. -/
def View.recall (view : View) (user : AuthenticatedUser) (message : Text) : View :=
  { view with tickets := (view.cache user.sub).getD [], error := message, loading := false }

def turn (s : Site) (user : AuthenticatedUser) (active : Bool) (choice : Choice) (view : View) :
    State → Option (State × View)
  | .listing call queries =>
    match choice with
    | .proceed _ =>
      match call with
      | .resolved wallet => some (.enriching wallet (wallet.map fun _ => .ready 0), view)
      | .rejected error => some (.done, if active then view.recall user error.message else view)
      | .aborted => some (.done, view)
      | call => (call.fetch !active).map fun call => (.listing call [], view)
    | .query =>
      match call with
      | .sent n => some (.listing (.sent n) (queries ++ [s]), view)
      | _ => none
    | _ => (choice.fetched user queries).bind fun fetched =>
      (call.settle true (!active) fetched).map fun call => (.listing call queries, view)
  | .enriching wallet calls =>
    match choice with
    | .picture j picture => wallet[j]?.bind fun entry => calls[j]?.bind fun call =>
      (picture.next s user active entry call).map fun call =>
        (.enriching wallet (calls.set j call), view)
    | .proceed stores =>
      if calls.all settled then
        some (.done, if active then view.show toLocaleString user stores (wallet.zipWith enrich calls)
          else view)
      else none
    | _ => none
  | .done => none

end

variable {cfg : Config} {toLocaleString : Nat → Text} {s : Site} {user : AuthenticatedUser}
  {active : Bool} {choice : Choice} {state state' : State} {view view' : View} {text : Text}
  {wallet : List WalletTicket} {entry : WalletTicket} {call call' : Api.Progress (Uuid × Text)}

/-- What a turn of `load` can be. -/
inductive Turned (toLocaleString : Nat → Text) (s : Site) (user : AuthenticatedUser) (active : Bool)
    (choice : Choice) (view : View) : State → State → View → Prop where
  | began {n : Nat} {queries : List Site} :
      Turned toLocaleString s user active choice view (.listing (.ready n) queries)
        (.listing (if !active then .aborted else .sent n) []) view
  | queried {n : Nat} {queries : List Site} :
      Turned toLocaleString s user active choice view (.listing (.sent n) queries)
        (.listing (.sent n) (queries ++ [s])) view
  | ended {n : Nat} {queries : List Site} {fetched : Fetched (List WalletTicket)}
      (fetches : choice.fetched user queries = some fetched) :
      Turned toLocaleString s user active choice view (.listing (.sent n) queries)
        (.listing (Api.receive true (!active) n fetched) queries) view
  | listed {wallet : List WalletTicket} {queries : List Site} :
      Turned toLocaleString s user active choice view (.listing (.resolved wallet) queries)
        (.enriching wallet (wallet.map fun _ => .ready 0)) view
  | failed {error : ApiError} {queries : List Site} :
      Turned toLocaleString s user active choice view (.listing (.rejected error) queries) .done
        (if active then view.recall user error.message else view)
  | takenBack {queries : List Site} :
      Turned toLocaleString s user active choice view (.listing .aborted queries) .done view
  | pictured {wallet : List WalletTicket} {calls : List (Api.Progress (Uuid × Text))} {j : Nat}
      {entry : WalletTicket} {call' : Api.Progress (Uuid × Text)} (here : wallet[j]? = some entry)
      (drawn : ∀ id text, call' = .resolved (id, text) →
        qr s.db user entry.ticket.id.text = .ok (id, text)) :
      Turned toLocaleString s user active choice view (.enriching wallet calls)
        (.enriching wallet (calls.set j call')) view
  | finished {wallet : List WalletTicket} {calls : List (Api.Progress (Uuid × Text))} {stores : Bool}
      (all : ∀ call ∈ calls, settled call = true) :
      Turned toLocaleString s user active choice view (.enriching wallet calls) .done
        (if active then view.show toLocaleString user stores (wallet.zipWith enrich calls) else view)

theorem drawn_of_next {picture : Picture} (moves : picture.next s user active entry call = some call')
    (id : Uuid) (text : Text) (resolved : call' = .resolved (id, text)) :
    qr s.db user entry.ticket.id.text = .ok (id, text) := by
  subst resolved
  have ends {fetched : Fetched (Uuid × Text)}
      (settles : call.settle true (!active) fetched = some (.resolved (id, text))) :
      fetched = .ok (id, text) := by
    cases call with
    | sent n => exact fetched_of_resolved (Option.some.inj settles)
    | _ => cases settles
  cases picture with
  | begin =>
    cases call with
    | ready n => cases active <;> cases moves
    | _ => cases moves
  | serve =>
    obtain ⟨picture, served, settles⟩ := Option.bind_eq_some_iff.mp moves
    cases ends settles
    cases answered : qr s.db user entry.ticket.id.text with
    | error => simp [answered, Except.toOption] at served
    | ok other =>
      rw [answered] at served
      exact congrArg Except.ok (Option.some.inj served)
  | refuse | lose => cases ends moves

theorem turned_of_turn
    (moves : turn toLocaleString s user active choice view state = some (state', view')) :
    Turned toLocaleString s user active choice view state state' view' := by
  cases state with
  | done => cases moves
  | listing call queries =>
    have ends (moves : (choice.fetched user queries).bind (fun fetched =>
        (call.settle true (!active) fetched).map fun call => (State.listing call queries, view)) =
          some (state', view')) :
        Turned toLocaleString s user active choice view (.listing call queries) state' view' := by
      obtain ⟨fetched, fetches, moves⟩ := Option.bind_eq_some_iff.mp moves
      obtain ⟨call', settles, last⟩ := Option.map_eq_some_iff.mp moves
      cases last
      cases call with
      | sent =>
        cases settles
        exact .ended fetches
      | _ => cases settles
    cases choice with
    | list | refuse | lose | picture => exact ends moves
    | query =>
      cases call with
      | sent =>
        cases moves
        exact .queried
      | _ => cases moves
    | proceed =>
      cases call with
      | ready =>
        cases moves
        exact .began
      | sent => cases moves
      | resolved =>
        cases moves
        exact .listed
      | rejected =>
        cases moves
        exact .failed
      | aborted =>
        cases moves
        exact .takenBack
  | enriching wallet calls =>
    cases choice with
    | query | list | refuse | lose => cases moves
    | picture j picture =>
      obtain ⟨entry, here, moves⟩ := Option.bind_eq_some_iff.mp moves
      obtain ⟨call, -, moves⟩ := Option.bind_eq_some_iff.mp moves
      obtain ⟨call', next, last⟩ := Option.map_eq_some_iff.mp moves
      cases last
      exact .pictured here (drawn_of_next next)
    | proceed stores =>
      simp only [turn] at moves
      split at moves
      · rename_i all
        cases moves
        exact .finished (List.all_eq_true.mp all)
      · cases moves

theorem Turned.quiet (turned : Turned toLocaleString s user false choice view state state' view') :
    view' = view := by
  cases turned <;> rfl

/-- The effect of the page; without a session it does nothing. -/
def hook (cfg : Config) (toLocaleString : Nat → Text) :
    Hook Site Site.Action (Option AuthenticatedUser) State View Choice Empty where
  env s a := s.step cfg a
  start session := if session.isSome then .listing (.ready 0) [] else .done
  enter session view := if session.isSome then { view with loading := true, error := [] } else view
  turn s session active choice state view := session.bind fun user =>
    turn toLocaleString s user active choice view state
  act _ input _ := input.elim
  quiet moves := by
    obtain ⟨user, -, moves⟩ := Option.bind_eq_some_iff.mp moves
    exact (turned_of_turn moves).quiet

/-! ## What is shown -/

abbrev Page := Component Site (Option AuthenticatedUser) State View

abbrev Record :=
  List (Transition Page (Effects.Action Site.Action (Option AuthenticatedUser) Choice Empty))

/-- The server answered the user with the wallet, its queries made one after the other. -/
def Listed (user : AuthenticatedUser) (ts : Record) (wallet : List WalletTicket) : Prop :=
  ∃ us : Record, us.Sublist ts ∧ ∃ issuedAt first second third fourth,
    us.map (·.source.env) = [first, second, third, fourth] ∧
      Tickets.list issuedAt user first second third fourth = .ok wallet

/-- The server answered the user with the picture. -/
def Drawn (user : AuthenticatedUser) (ts : Record) (entry : WalletTicket) (text : Text) : Prop :=
  ∃ t ∈ ts, ∃ id, qr t.source.env.db user entry.ticket.id.text = .ok (id, text)

/-- The request of the start for the list ended with the error. -/
def Refused (user : AuthenticatedUser) (i : Nat) (ts : Record) (error : ApiError) : Prop :=
  ∃ t ∈ ts, ∃ choice queries fetched, t.action = .turn i choice ∧
    choice.fetched user queries = some fetched ∧ fetched.Tells error

/-- The wallet as the server answered it. A picture may be missing, and is counted then. -/
structure Online (toLocaleString : Nat → Text) (user : AuthenticatedUser) (before : View) (ts : Record)
    (view : View) : Prop where
  listed : Listed user ts (view.tickets.map StoredTicket.entry)
  drawn : ∀ ticket ∈ view.tickets, ∀ text, ticket.qr = some text → Drawn user ts ticket.entry text
  error : view.error = if qrFailures view.tickets = 0 then []
    else notice toLocaleString (qrFailures view.tickets)
  cache : view.cache = before.cache ∨
    view.cache = Function.update before.cache user.sub (some view.tickets)

/-- What was kept under the id of the user, with the error. -/
structure Offline (user : AuthenticatedUser) (i : Nat) (before : View) (ts : Record) (view : View) :
    Prop where
  tickets : view.tickets = (before.cache user.sub).getD []
  error : ∃ error, Refused user i ts error ∧ view.error = error.message
  cache : view.cache = before.cache

/-- Where the call for the list stands. -/
def Reached (user : AuthenticatedUser) (i : Nat) (ts : Record) : Api.Progress (List WalletTicket) → Prop
  | .ready _ | .sent _ => True
  | .resolved wallet => Listed user ts wallet
  | .rejected error => Refused user i ts error
  | .aborted => False

def Showing (toLocaleString : Nat → Text) (user : AuthenticatedUser) (i : Nat) (before : View)
    (ts : Record) (view : View) : State → Prop
  | .listing call queries =>
    view = { before with loading := true, error := [] } ∧ Reached user i ts call ∧
      ∃ us : Record, us.Sublist ts ∧ us.map (·.source.env) = queries
  | .enriching wallet calls =>
    view = { before with loading := true, error := [] } ∧ Listed user ts wallet ∧
      calls.length = wallet.length ∧
      ∀ (j : Nat) (entry : WalletTicket) (id : Uuid) (text : Text), wallet[j]? = some entry →
        calls[j]? = some (.resolved (id, text)) → Drawn user ts entry text
  | .done => Online toLocaleString user before ts view ∨ Offline user i before ts view

variable {i : Nat} {ts : Record} {before : View} {error : ApiError}
  {t : Transition Page (Effects.Action Site.Action (Option AuthenticatedUser) Choice Empty)}

theorem Listed.concat (listed : Listed user ts wallet) : Listed user (ts ++ [t]) wallet := by
  obtain ⟨us, within, answered⟩ := listed
  exact ⟨us, within.trans (List.sublist_append_left _ _), answered⟩

theorem Drawn.concat (drawn : Drawn user ts entry text) : Drawn user (ts ++ [t]) entry text := by
  obtain ⟨u, member, answered⟩ := drawn
  exact ⟨u, List.mem_append_left _ member, answered⟩

theorem Refused.concat (refused : Refused user i ts error) : Refused user i (ts ++ [t]) error := by
  obtain ⟨u, member, ended⟩ := refused
  exact ⟨u, List.mem_append_left _ member, ended⟩

theorem Showing.concat (showing : Showing toLocaleString user i before ts view state) :
    Showing toLocaleString user i before (ts ++ [t]) view state := by
  cases state with
  | listing call queries =>
    obtain ⟨same, reached, us, within, found⟩ := showing
    refine ⟨same, ?_, us, within.trans (List.sublist_append_left _ _), found⟩
    cases call with
    | resolved => exact Listed.concat reached
    | rejected => exact Refused.concat reached
    | _ => exact reached
  | enriching =>
    obtain ⟨same, listed, pairs, drawn⟩ := showing
    exact ⟨same, listed.concat, pairs, fun j entry id text here there =>
      (drawn j entry id text here there).concat⟩
  | done =>
    rcases showing with online | ⟨tickets, ⟨error, refused, told⟩, cache⟩
    · exact .inl ⟨online.listed.concat,
        fun ticket member text shown => (online.drawn ticket member text shown).concat,
        online.error, online.cache⟩
    · exact .inr ⟨tickets, ⟨error, refused.concat, told⟩, cache⟩

theorem list_of_fetched {queries : List Site}
    (fetches : choice.fetched user queries = some (.ok wallet)) :
    ∃ issuedAt first second third fourth, queries = [first, second, third, fourth] ∧
      Tickets.list issuedAt user first second third fourth = .ok wallet := by
  cases choice with
  | list issuedAt =>
    simp only [Choice.fetched] at fetches
    split at fetches
    · rename_i first second third fourth
      obtain ⟨answer, answered, same⟩ := Option.map_eq_some_iff.mp fetches
      cases same
      refine ⟨issuedAt, first, second, third, fourth, rfl, ?_⟩
      cases listed : Tickets.list issuedAt user first second third fourth with
      | error => simp [listed, Except.toOption] at answered
      | ok other =>
        rw [listed] at answered
        exact congrArg Except.ok (Option.some.inj answered)
    · cases fetches
  | _ => cases fetches

/-- The tickets that are shown, one by one. -/
theorem mem_zipWith_enrich {calls : List (Api.Progress (Uuid × Text))} {ticket : StoredTicket}
    (member : ticket ∈ wallet.zipWith enrich calls) (shown : ticket.qr = some text) :
    ∃ (j : Nat) (id : Uuid), wallet[j]? = some ticket.entry ∧
      calls[j]? = some (.resolved (id, text)) := by
  obtain ⟨j, at_j⟩ := List.mem_iff_getElem?.mp member
  obtain ⟨entry, call, here, there, rfl⟩ := List.getElem?_zipWith_eq_some.mp at_j
  cases call with
  | resolved picture =>
    obtain ⟨id, said⟩ := picture
    cases shown
    exact ⟨j, id, here, there⟩
  | _ => cases shown

theorem entry_enrich (entry : WalletTicket) (call : Api.Progress (Uuid × Text)) :
    (enrich entry call).entry = entry := by
  unfold enrich
  split <;> rfl

theorem map_entry_enrich {calls : List (Api.Progress (Uuid × Text))}
    (pairs : calls.length = wallet.length) :
    (wallet.zipWith enrich calls).map StoredTicket.entry = wallet := by
  have kept : ∀ entry call, (enrich entry call).entry = id entry := entry_enrich
  rw [Lists.map_zipWith_left kept pairs.ge, List.map_id]

theorem Showing.turned (showing : Showing toLocaleString user i before ts view state)
    (own : t.action = .turn i choice)
    (turned : Turned toLocaleString t.source.env user true choice view state state' view') :
    Showing toLocaleString user i before (ts ++ [t]) view' state' := by
  cases turned with
  | began => exact ⟨showing.1, trivial, [], List.nil_sublist _, rfl⟩
  | queried =>
    obtain ⟨same, -, us, within, rfl⟩ := showing
    refine ⟨same, trivial, us ++ [t], within.append_right _, ?_⟩
    exact List.map_append
  | @ended n queries fetched fetches =>
    obtain ⟨same, -, us, within, found⟩ := showing
    have later : us.Sublist (ts ++ [t]) := within.trans (List.sublist_append_left _ _)
    refine ⟨same, ?_, us, later, found⟩
    rcases receive_cases true n fetched with ⟨wallet, rfl, ends⟩ | ⟨-, ends⟩ | ⟨error, tells, ends⟩
    · rw [Bool.not_true, ends]
      obtain ⟨issuedAt, first, second, third, fourth, rfl, listed⟩ := list_of_fetched fetches
      exact ⟨us, later, issuedAt, first, second, third, fourth, found, listed⟩
    · rw [Bool.not_true, ends]
      trivial
    · rw [Bool.not_true, ends]
      exact ⟨t, List.mem_concat_self, choice, queries, fetched, own, fetches, tells⟩
  | listed =>
    obtain ⟨same, listed, -⟩ := showing
    refine ⟨same, Listed.concat listed, List.length_map _, fun j entry id text _ there => ?_⟩
    rw [List.getElem?_map] at there
    obtain ⟨_, -, none⟩ := Option.map_eq_some_iff.mp there
    cases none
  | failed =>
    obtain ⟨rfl, refused, -⟩ := showing
    exact .inr ⟨rfl, ⟨_, Refused.concat refused, rfl⟩, rfl⟩
  | takenBack => exact showing.2.1.elim
  | @pictured wallet calls j entry call' here drawn =>
    obtain ⟨same, listed, pairs, before⟩ := showing
    refine ⟨same, listed.concat, by rw [List.length_set, pairs], fun k other id text at_k there => ?_⟩
    by_cases same : j = k
    · subst same
      rw [here, Option.some.injEq] at at_k
      have bound : j < calls.length := pairs ▸ (List.getElem?_eq_some_iff.mp here).1
      rw [List.getElem?_set_self bound, Option.some.injEq] at there
      subst there
      exact ⟨t, List.mem_concat_self, id, at_k ▸ drawn id text rfl⟩
    · rw [List.getElem?_set_ne same] at there
      exact (before k other id text at_k there).concat
  | @finished wallet calls stores all =>
    obtain ⟨rfl, listed, pairs, drawn⟩ := showing
    refine .inl ⟨?_, fun ticket member text shown => ?_, rfl, ?_⟩
    · exact (map_entry_enrich pairs).symm ▸ listed.concat
    · obtain ⟨j, id, here, there⟩ := mem_zipWith_enrich member shown
      exact (drawn j _ id text here there).concat
    · cases stores with
      | false => exact .inl rfl
      | true => exact .inr rfl

theorem Showing.loaded (showing : Showing toLocaleString user i before ts view state)
    (loaded : view.loading = false) :
    Online toLocaleString user before ts view ∨ Offline user i before ts view := by
  cases state with
  | done => exact showing
  | listing | enriching =>
    obtain ⟨rfl, -⟩ := showing
    cases loaded

abbrev plainHook := hook sampleConfig fun failures => (toString failures).toList

/-- The page as it opens, with nothing kept. -/
abbrev openPage : Page := ⟨launched soldOut soldOut_enabled, [], ⟨[], true, [], fun _ => none⟩⟩

/-- The administrator is answered first; the picture of the customer's ticket is drawn at
the second attempt. -/
def answered : List (Effects.Action Site.Action (Option AuthenticatedUser) Choice Empty) :=
  [.turn 0 .query, .turn 0 (.list fun _ => 0), .turn 1 (.proceed true), .turn 1 .query,
    .turn 1 .query, .turn 1 .query, .turn 1 .query, .turn 0 (.proceed true),
    .turn 1 (.list fun _ => 0), .turn 1 (.proceed true), .turn 1 (.picture 0 .begin),
    .turn 1 (.picture 0 (.lose false)), .turn 1 (.picture 0 .begin), .turn 1 (.picture 0 .serve),
    .turn 1 (.proceed true)]

end KiTicket.TicketsPage
