import KiTicket.Gateway
import KiTicket.Reserving
import KiTicket.TicketsPage

/-! The wallet that a browser keeps: `localStorage`, one list of tickets under the id of each
user. `Tickets.tsx` replaces it by what the server lists, and `pay` of `Checkout.tsx` merges
into it what has just been bought. Sessions come and go meanwhile. -/
namespace KiTicket.Browser
open Runs Effects KiTicket.Lists Reservations Payments Tickets
open TicketsPage (StoredTicket Picture settled enrich)
open Broker (Json)
open Events (InventorySeat)

/-! ## Paying -/

/-- What the checkout knows of the reservation it is for. -/
structure StoredReservation where
  eventTitle : Option Text
  seats : List InventorySeat

/-- How far a run of `pay` has come. A request has a process from when it arrives. -/
inductive Stage where
  | starting (idempotencyKey : Text) (pid : Option Nat)
  | completing (payment : Payment) (pid : Option Nat)
  | enriching (wallet : List WalletTicket) (calls : List (Api.Progress (Uuid × Text)))
  | done

/-- A run of `pay`, with what it has closed over. -/
structure Purchase where
  user : AuthenticatedUser
  reservationId : Text
  reservation : StoredReservation
  outcome : PaymentOutcome
  stage : Stage

/-- `ردیف ${seat.row}، صندلی ${seat.number}` -/
def seatLabel (seat : InventorySeat) : Text :=
  "ردیف ".toList ++ seat.row ++ "، صندلی ".toList ++ (toString seat.number).toList

/-- The ticket as it is kept. -/
def StoredReservation.entry (reservation : StoredReservation) (ticket : Ticket) : WalletTicket where
  ticket := ticket
  eventTitle := reservation.eventTitle
  eventStartsAt := none
  seatLabel := (reservation.seats.find? (·.id.text = ticket.seatId)).map seatLabel

/-- The request that has been sent and has not arrived. -/
def Purchase.request (purchase : Purchase) : Option Request :=
  match purchase.stage with
  | .starting idempotencyKey none =>
    some (.start purchase.user ⟨purchase.reservationId, idempotencyKey⟩)
  | .completing payment none =>
    some (.complete purchase.user payment.id.text ⟨purchase.outcome, none⟩)
  | _ => none

def Purchase.arrive (purchase : Purchase) (pid : Nat) : Purchase :=
  match purchase.stage with
  | .starting idempotencyKey _ => { purchase with stage := .starting idempotencyKey (some pid) }
  | .completing payment _ => { purchase with stage := .completing payment (some pid) }
  | _ => purchase

/-- The answer of the process that serves it. -/
def Purchase.answer (purchase : Purchase) (procs : List Proc) : Option Purchase :=
  match purchase.stage with
  | .starting _ (some pid) =>
    match procs[pid]? with
    | some (.done (.payment payment)) => some { purchase with stage := .completing payment none }
    | _ => none
  | .completing _ (some pid) =>
    match procs[pid]? with
    | some (.done (.completed payment _ tickets)) => some { purchase with
        stage := if payment.state = .success then
          .enriching (tickets.map purchase.reservation.entry) (tickets.map fun _ => .ready 0)
        else .done }
    | _ => none
  | _ => none

/-- A request is refused or lost: the `catch` of `pay`. -/
def Purchase.lose (purchase : Purchase) : Option Purchase :=
  match purchase.stage with
  | .starting _ _ | .completing _ _ => some { purchase with stage := .done }
  | _ => none

/-- What becomes of the call for one picture, which nobody aborts. -/
def Purchase.picture (purchase : Purchase) (s : Site) (j : Nat) (picture : Picture) :
    Option Purchase :=
  match purchase.stage with
  | .enriching wallet calls => wallet[j]?.bind fun entry => calls[j]?.bind fun call =>
    (picture.next s purchase.user true entry call).map fun call =>
      { purchase with stage := .enriching wallet (calls.set j call) }
  | _ => none

/-- What is kept of the same ticket goes. -/
def merge (existing stored : List StoredTicket) : List StoredTicket :=
  (existing.filter fun ticket =>
    !stored.any fun next => next.entry.ticket.id = ticket.entry.ticket.id) ++ stored

/-- The tickets, once the last picture is there or has failed. -/
def Purchase.stored (purchase : Purchase) : Option (List StoredTicket) :=
  match purchase.stage with
  | .enriching wallet calls =>
    if calls.all settled then some (wallet.zipWith enrich calls) else none
  | _ => none

/-! ## One browser -/

/-- The site, and the runs of `pay` in this browser. -/
structure Env where
  site : Site
  purchases : List Purchase

def Env.update (env : Env) (i : Nat) (purchase : Purchase) : Env :=
  { env with purchases := env.purchases.set i purchase }

/-- What happens to runs of `pay`, by their number. -/
inductive Input where
  | pay (user : AuthenticatedUser) (reservationId : Text) (reservation : StoredReservation)
      (idempotencyKey : Text) (outcome : PaymentOutcome)
  /-- A request arrives. -/
  | deliver (i : Nat)
  /-- Its answer arrives. -/
  | answer (i : Nat)
  | lose (i : Nat)
  | picture (i j : Nat) (picture : Picture)
  /-- The tickets are kept; `reads` and `stores` say whether `localStorage` can be used. -/
  | keep (i : Nat) (reads stores : Bool)

/-- `localStorage` after `setItem` of the merged list. -/
def keep (view : TicketsPage.View) (userId : Text) (reads stores : Bool) (stored : List StoredTicket) :
    TicketsPage.View :=
  let existing := if reads then (view.cache userId).getD [] else []
  if stores then
    { view with cache := Function.update view.cache userId (some (merge existing stored)) }
  else view

def act (cfg : Config) (env : Env) (view : TicketsPage.View) : Input → Option (Env × TicketsPage.View)
  | .pay user reservationId reservation idempotencyKey outcome =>
    some ({ env with purchases := env.purchases ++
      [⟨user, reservationId, reservation, outcome, .starting idempotencyKey none⟩] }, view)
  | .deliver i => env.purchases[i]?.bind fun purchase => purchase.request.bind fun request =>
    (env.site.step cfg (.booking (.request request))).map fun site =>
      ({ env with site }.update i (purchase.arrive env.site.world.procs.length), view)
  | .answer i => env.purchases[i]?.bind fun purchase =>
    (purchase.answer env.site.world.procs).map fun purchase => (env.update i purchase, view)
  | .lose i => env.purchases[i]?.bind fun purchase =>
    purchase.lose.map fun purchase => (env.update i purchase, view)
  | .picture i j picture => env.purchases[i]?.bind fun purchase =>
    (purchase.picture env.site j picture).map fun purchase => (env.update i purchase, view)
  | .keep i reads stores => env.purchases[i]?.bind fun purchase => purchase.stored.map fun stored =>
    (env.update i { purchase with stage := .done },
      keep view purchase.user.sub reads stores stored)

/-- The tickets page with runs of `pay` beside it. -/
def hook (cfg : Config) (toLocaleString : Nat → Text) :
    Hook Env Site.Action (Option AuthenticatedUser) TicketsPage.State TicketsPage.View
      TicketsPage.Choice Input where
  env env a := (env.site.step cfg a).map fun site => { env with site }
  start := (TicketsPage.hook cfg toLocaleString).start
  enter := (TicketsPage.hook cfg toLocaleString).enter
  turn env := (TicketsPage.hook cfg toLocaleString).turn env.site
  act env input view := act cfg env view input
  quiet := (TicketsPage.hook cfg toLocaleString).quiet

/-! ## Whose tickets these are -/

variable {cfg : Config} {toLocaleString : Nat → Text} {s s' : Site} {db db' db'' : Db}
  {user : AuthenticatedUser} {userId text : Text} {stored : StoredTicket}
  {tickets existing : List StoredTicket} {wallet : List WalletTicket} {entry : WalletTicket}
  {calls : List (Api.Progress (Uuid × Text))}

/-- The ticket is issued, to this user, and a picture it has is its own. -/
structure Owned (db : Db) (userId : Text) (stored : StoredTicket) : Prop where
  issued : stored.entry.ticket.IssuedIn db.tickets.rows
  owns : db.Owns userId stored.entry.ticket.reservationId
  picture : ∀ text, stored.qr = some text → text = qrText stored.entry.ticket

/-- Tickets of one user, each once. -/
structure Owning (db : Db) (userId : Text) (tickets : List StoredTicket) : Prop where
  owned : ∀ stored ∈ tickets, Owned db userId stored
  distinct : (tickets.map fun stored => stored.entry.ticket.id).Nodup

/-- Tickets as the server gives them to a user. -/
structure Given (db : Db) (userId : Text) (tickets : List Ticket) : Prop where
  issued : ∀ ticket ∈ tickets, ticket.IssuedIn db.tickets.rows
  owns : ∀ ticket ∈ tickets, db.Owns userId ticket.reservationId
  distinct : (tickets.map Ticket.id).Nodup

/-- What is issued stays issued, and to whom. -/
structure Retains (db db' : Db) : Prop where
  issued : ∀ ticket : Ticket, ticket.IssuedIn db.tickets.rows → ticket.IssuedIn db'.tickets.rows
  owns : ∀ userId id, db.Owns userId id → db'.Owns userId id

theorem Retains.refl : Retains db db := ⟨fun _ => id, fun _ _ => id⟩

theorem Retains.trans (first : Retains db db') (second : Retains db' db'') : Retains db db'' where
  issued ticket issued := second.issued ticket (first.issued ticket issued)
  owns userId id owns := second.owns userId id (first.owns userId id owns)

theorem retains_of_step {a : Site.Action} (sound : s.Sound) (taken : Site.step cfg s a = some s') :
    Retains s.db s'.db := by
  cases Site.step_cases taken
  case booking moves =>
    exact ⟨fun _ issued => issued.next moves, fun _ _ owns => owns.next sound.world moves⟩
  all_goals exact ⟨fun _ => id, fun _ _ => id⟩

theorem Owning.mono (owning : Owning db userId tickets) (retains : Retains db db') :
    Owning db' userId tickets where
  owned stored member :=
    have owned := owning.owned stored member
    ⟨retains.issued _ owned.issued, retains.owns _ _ owned.owns, owned.picture⟩
  distinct := owning.distinct

theorem Given.mono {tickets : List Ticket} (given : Given db userId tickets)
    (retains : Retains db db') : Given db' userId tickets where
  issued ticket member := retains.issued _ (given.issued ticket member)
  owns ticket member := retains.owns _ _ (given.owns ticket member)
  distinct := given.distinct

theorem Owning.nil : Owning db userId [] where
  owned _ member := absurd member List.not_mem_nil
  distinct := List.nodup_nil

theorem Owning.merge (kept : Owning db userId existing) (more : Owning db userId tickets) :
    Owning db userId (merge existing tickets) where
  owned stored member := by
    rcases List.mem_append.mp member with old | new
    · exact kept.owned stored (List.mem_of_mem_filter old)
    · exact more.owned stored new
  distinct := by
    rw [Browser.merge, List.map_append, List.nodup_append]
    refine ⟨kept.distinct.sublist (List.filter_sublist.map _), more.distinct, ?_⟩
    intro id old other new same
    obtain ⟨left, member, rfl⟩ := List.mem_map.mp old
    obtain ⟨right, fresh, rfl⟩ := List.mem_map.mp new
    have gone := (List.mem_filter.mp member).2
    rw [Bool.not_eq_true', List.any_eq_false] at gone
    exact gone right fresh (decide_eq_true same.symm)

theorem nodup_ids (tickets : Table Ticket) : (tickets.rows.map Ticket.id).Nodup := by
  refine List.pairwise_map.mpr (tickets.unique.imp ?_)
  intro a b apart same
  simp [clash, same] at apart

/-- The server lists what is the user's. -/
theorem given_of_list {issuedAt : Uuid → Nat} {first second third fourth : Site}
    (listed : Tickets.list issuedAt user first second third fourth = .ok wallet)
    (opened : Retains first.db db) (read : Retains second.db db) :
    Given db user.sub (wallet.map WalletTicket.ticket) := by
  simp only [Tickets.list] at listed
  split at listed
  · cases listed
    exact ⟨fun _ member => absurd member List.not_mem_nil,
      fun _ member => absurd member List.not_mem_nil, List.nodup_nil⟩
  split at listed <;> cases listed
  have same : WalletTicket.ticket ∘ Tickets.listed (reservationsOf user first.db) third
      fourth.db.catalog.seats.rows = id := rfl
  rw [List.map_map, same, List.map_id]
  constructor
  case issued =>
    intro ticket shown
    exact read.issued _ ⟨ticket, (mem_ticketsOf.mp shown).1, rfl⟩
  case owns =>
    intro ticket shown
    obtain ⟨-, r, booked, of, mine⟩ := mem_ticketsOf.mp shown
    exact opened.owns _ _ ⟨r, booked, of, mine⟩
  case distinct =>
    have sorted : (ticketsOf issuedAt (reservationsOf user first.db) second.db).Perm
        (second.db.tickets.rows.filter _) := List.mergeSort_perm _ _
    exact (sorted.map Ticket.id).nodup_iff.mpr
      ((nodup_ids second.db.tickets).sublist (List.filter_sublist.map _))

/-- The picture the server draws for a ticket is its own. -/
theorem text_of_qr {ticket : Ticket} {id : Uuid} (issued : ticket.IssuedIn db.tickets.rows)
    (given : qr db user ticket.id.text = .ok (id, text)) : text = qrText ticket := by
  obtain ⟨row, member, same⟩ := issued
  have token : row.token = ticket.token :=
    (congrArg Ticket.token same : row.issued.token = ticket.issued.token)
  obtain ⟨other, drawn, named, names, said, -⟩ := row_of_qr given
  have one : other.id = row.id := by
    rw [uuid?_text, Option.some.injEq] at names
    exact named.trans (names.symm.trans (id_of_issued same).symm)
  obtain rfl : other = row := db.tickets.eq_of_clash drawn member (decide_eq_true (.inl one))
  rw [said]
  unfold qrText
  rw [token]

/-! ### While the pictures are asked for -/

structure Enriching (db : Db) (userId : Text) (wallet : List WalletTicket)
    (calls : List (Api.Progress (Uuid × Text))) : Prop where
  given : Given db userId (wallet.map WalletTicket.ticket)
  pairs : calls.length = wallet.length
  drawn : ∀ (j : Nat) (entry : WalletTicket) (id : Uuid) (text : Text), wallet[j]? = some entry →
    calls[j]? = some (.resolved (id, text)) → text = qrText entry.ticket

theorem Given.enriching (given : Given db userId (wallet.map WalletTicket.ticket)) :
    Enriching db userId wallet (wallet.map fun _ => .ready 0) where
  given := given
  pairs := List.length_map _
  drawn j entry id text _ there := by
    rw [List.getElem?_map] at there
    obtain ⟨_, -, none⟩ := Option.map_eq_some_iff.mp there
    cases none

theorem Enriching.mono (enriching : Enriching db userId wallet calls) (retains : Retains db db') :
    Enriching db' userId wallet calls :=
  ⟨enriching.given.mono retains, enriching.pairs, enriching.drawn⟩

theorem Enriching.set {j : Nat} {call : Api.Progress (Uuid × Text)}
    (enriching : Enriching db userId wallet calls) (here : wallet[j]? = some entry)
    (drawn : ∀ id text, call = .resolved (id, text) →
      qr db user entry.ticket.id.text = .ok (id, text)) :
    Enriching db userId wallet (calls.set j call) where
  given := enriching.given
  pairs := by rw [List.length_set, enriching.pairs]
  drawn k other id text at_k there := by
    by_cases same : j = k
    · subst same
      rw [here, Option.some.injEq] at at_k
      have bound : j < calls.length := enriching.pairs ▸ (List.getElem?_eq_some_iff.mp here).1
      rw [List.getElem?_set_self bound, Option.some.injEq] at there
      have issued := enriching.given.issued _ (List.mem_map_of_mem (List.mem_of_getElem? here))
      exact at_k ▸ text_of_qr issued (drawn id text there)
    · rw [List.getElem?_set_ne same] at there
      exact enriching.drawn k other id text at_k there

theorem Enriching.owning (enriching : Enriching db userId wallet calls) :
    Owning db userId (wallet.zipWith enrich calls) where
  owned stored member := by
    have entries := TicketsPage.map_entry_enrich enriching.pairs
    have listed : stored.entry.ticket ∈ wallet.map WalletTicket.ticket :=
      List.mem_map_of_mem (entries ▸ List.mem_map_of_mem member)
    refine ⟨enriching.given.issued _ listed, enriching.given.owns _ listed, fun text shown => ?_⟩
    obtain ⟨j, id, here, there⟩ := TicketsPage.mem_zipWith_enrich member shown
    exact enriching.drawn j _ id text here there
  distinct := by
    have ids := enriching.given.distinct
    rw [← TicketsPage.map_entry_enrich enriching.pairs, List.map_map, List.map_map] at ids
    exact ids

/-! ### The tickets page -/

/-- What a start of the page has been given so far is the user's. -/
def Holds (db : Db) (user : AuthenticatedUser) : TicketsPage.State → Prop
  | .listing call queries => (∀ query ∈ queries, Retains query.db db) ∧
      ∀ wallet, call = .resolved wallet → Given db user.sub (wallet.map WalletTicket.ticket)
  | .enriching wallet calls => Enriching db user.sub wallet calls
  | .done => True

variable {active : Bool} {choice : TicketsPage.Choice} {state state' : TicketsPage.State}
  {view view' : TicketsPage.View}

theorem Holds.mono (holds : Holds db user state) (retains : Retains db db') : Holds db' user state := by
  cases state with
  | listing =>
    obtain ⟨queried, given⟩ := holds
    exact ⟨fun query member => (queried query member).trans retains,
      fun wallet resolved => (given wallet resolved).mono retains⟩
  | enriching => exact Enriching.mono holds retains
  | done => trivial

theorem Holds.turned (holds : Holds s.db user state)
    (turned : TicketsPage.Turned toLocaleString s user active choice view state state' view') :
    Holds s.db user state' := by
  cases turned with
  | began =>
    refine ⟨fun query member => (by cases member), fun wallet resolved => ?_⟩
    split at resolved <;> cases resolved
  | queried =>
    refine ⟨fun query member => ?_, fun wallet resolved => (by cases resolved)⟩
    rcases List.mem_append.mp member with earlier | now
    · exact holds.1 query earlier
    · cases List.mem_singleton.mp now
      exact .refl
  | ended fetches =>
    refine ⟨holds.1, fun wallet resolved => ?_⟩
    rw [Api.fetched_of_resolved resolved] at fetches
    obtain ⟨issuedAt, first, second, third, fourth, rfl, listed⟩ := TicketsPage.list_of_fetched fetches
    exact given_of_list listed (holds.1 first (by simp)) (holds.1 second (by simp))
  | @listed wallet => exact (holds.2 wallet rfl).enriching
  | failed | takenBack | finished => trivial
  | pictured here drawn => exact Enriching.set holds here drawn

/-! ### A payment -/

/-- What the process that serves a complete of this user is going to be answered with. -/
def Completes (db : Db) (user : AuthenticatedUser) : Proc → Prop
  | .complete state =>
    match state with
    | .findPayment asker _ _ | .findReservation asker _ _ => asker = user
    | .findSeats _ _ r | .findTickets _ r | .commit _ _ r _ =>
      r.userId = user.sub ∧ db.Owns user.sub r.id
    | .release result => Given db user.sub result.tickets
  | .done (.completed _ _ tickets) => Given db user.sub tickets
  | .done (.error _) => True
  | _ => False

variable {p p' : Proc} {c : Choice} {held : List RowLock} {server server' : Server}

theorem Completes.mono (completes : Completes db user p) (retains : Retains db db') :
    Completes db' user p := by
  cases p with
  | complete state =>
    cases state with
    | findPayment | findReservation => exact completes
    | findSeats | findTickets | commit => exact ⟨completes.1, retains.owns _ _ completes.2⟩
    | release => exact Given.mono completes retains
  | done response =>
    cases response with
    | completed => exact Given.mono completes retains
    | _ => exact completes
  | _ => exact completes

theorem completes_of_turn {state : Complete} {next : Next Complete}
    (turn : state.turn cfg c held server = some (server', next))
    (completes : Completes server.db user (.complete state)) (retains : Retains server.db server'.db) :
    Completes server'.db user (next.proc .complete) := by
  cases state <;> simp only [Complete.turn] at turn
  case findPayment =>
    split at turn
    · cases turn
      trivial
    split at turn
    · cases turn
      trivial
    split at turn <;> cases turn
    exact completes
  case findReservation asker body p =>
    obtain rfl : asker = user := completes
    split at turn
    · cases turn
      trivial
    rename_i r found
    split at turn
    · cases turn
    split at turn <;> cases turn
    · trivial
    rename_i mine
    obtain ⟨named, owns⟩ := owns_of_find found
    exact ⟨not_not.mp mine, not_not.mp mine ▸ named ▸ owns⟩
  case findSeats =>
    split at turn <;> cases turn <;> exact completes
  case findTickets p r =>
    cases turn
    constructor
    case issued => exact fun ticket member => ⟨ticket, List.mem_of_mem_filter member, rfl⟩
    case owns =>
      intro ticket member
      have of : ticket.reservationId = r.id := of_decide_eq_true (List.mem_filter.mp member).2
      exact of ▸ completes.2
    case distinct => exact (nodup_ids server.db.tickets).sublist (List.filter_sublist.map _)
  case commit body p r seats =>
    have mine : server'.db.Owns user.sub r.id := retains.owns _ _ completes.2
    split at turn
    · split at turn
      · cases turn
        trivial
      split at turn
      · split at turn
        · cases turn
        split at turn <;> cases turn
        · trivial
        rename_i db result confirmed
        unfold confirm at confirmed
        dsimp only at confirmed
        split at confirmed <;> cases confirmed
        rename_i _ tickets' _ inserted
        have rows := Table.insert?_eq_some.mp inserted
        constructor
        case issued =>
          exact fun ticket member => ⟨ticket, rows ▸ List.mem_append_right _ member, rfl⟩
        case owns =>
          intro ticket member
          obtain ⟨_, -, _, -, rfl⟩ := exists_of_mem_zipWith member
          exact mine
        case distinct =>
          have distinct := nodup_ids tickets'
          rw [rows, List.map_append, List.nodup_append] at distinct
          exact distinct.2.1
      · cases turn
    · cases turn
      exact ⟨fun _ member => absurd member List.not_mem_nil,
        fun _ member => absurd member List.not_mem_nil, List.nodup_nil⟩
  case release =>
    cases turn
    exact completes.mono retains

theorem Completes.turn (completes : Completes server.db user p)
    (turn : p.turn cfg c held server = some (server', p')) (retains : Retains server.db server'.db) :
    Completes server'.db user p' := by
  cases p <;> simp only [Proc.turn, turnOf_eq_some] at turn
  case complete state =>
    obtain ⟨next, turn, rfl⟩ := turn
    split at turn
    · cases state with
      | release =>
        cases turn
        exact completes.mono retains
      | _ =>
        cases turn
        trivial
    · exact completes_of_turn turn completes retains
  case done => cases turn
  all_goals exact completes.elim

/-- What a run of `pay` has been given so far is its user's. -/
def Backed (s : Site) (purchase : Purchase) : Prop :=
  match purchase.stage with
  | .completing _ (some pid) =>
    ∃ p, s.world.procs[pid]? = some p ∧ Completes s.db purchase.user p
  | .enriching wallet calls => Enriching s.db purchase.user.sub wallet calls
  | _ => True

variable {purchase purchase' : Purchase}

theorem Backed.next {a : Site.Action} (backed : Backed s purchase) (sound : s.Sound)
    (taken : Site.step cfg s a = some s') : Backed s' purchase := by
  have retains := retains_of_step sound taken
  unfold Backed at backed ⊢
  split
  · rename_i pid at_stage
    rw [at_stage] at backed
    obtain ⟨p, serving, completes⟩ := backed
    exact Site.process_of_step taken serving completes (fun completes => completes.mono retains)
      (fun _ _ _ completes turn => completes.turn turn retains) trivial
  · rename_i at_stage
    rw [at_stage] at backed
    exact backed.mono retains
  · trivial

theorem backed_of_answer (backed : Backed s purchase)
    (answered : purchase.answer s.world.procs = some purchase') : Backed s purchase' := by
  unfold Purchase.answer at answered
  split at answered
  · split at answered <;> cases answered
    trivial
  · rename_i payment pid at_stage
    simp only [Backed, at_stage] at backed
    obtain ⟨p, serving, completes⟩ := backed
    rw [serving] at answered
    split at answered <;> cases answered
    rename_i tickets done
    cases done
    simp only [Backed]
    split
    · rename_i later
      split at later <;> cases later
    · rename_i enriched
      split at enriched <;> cases enriched
      have same : WalletTicket.ticket ∘ purchase.reservation.entry = id := rfl
      have given : Given s.db purchase.user.sub
          ((tickets.map purchase.reservation.entry).map WalletTicket.ticket) := by
        rw [List.map_map, same, List.map_id]
        exact completes
      have enriching := given.enriching
      rw [List.map_map] at enriching
      exact enriching
    · trivial
  · cases answered

theorem backed_of_picture {j : Nat} {picture : Picture} (backed : Backed s purchase)
    (moves : purchase.picture s j picture = some purchase') : Backed s purchase' := by
  unfold Purchase.picture at moves
  split at moves
  · rename_i wallet calls at_stage
    simp only [Backed, at_stage] at backed
    obtain ⟨entry, here, moves⟩ := Option.bind_eq_some_iff.mp moves
    obtain ⟨call, -, moves⟩ := Option.bind_eq_some_iff.mp moves
    obtain ⟨call', next, rfl⟩ := Option.map_eq_some_iff.mp moves
    exact backed.set here (TicketsPage.drawn_of_next next)
  · cases moves

/-- A request arrives, and has a process. -/
theorem backed_of_deliver {request : Request} (sent : purchase.request = some request)
    (arrives : Site.step cfg s (.booking (.request request)) = some s') :
    Backed s' (purchase.arrive s.world.procs.length) := by
  unfold Purchase.request at sent
  split at sent
  · rename_i at_stage
    simp only [Purchase.arrive, at_stage, Backed]
  · rename_i at_stage
    cases sent
    simp only [Purchase.arrive, at_stage, Backed]
    exact ⟨_, (Site.serving_of_request arrives).2, rfl⟩
  · cases sent

/-! ### The browser -/

/-- Under an id there is nothing but what belongs to that user, and a page that has loaded
shows nothing but what belongs to the user whose session it is. -/
structure Private (env : Env) (session : Option (Option AuthenticatedUser)) (view : TicketsPage.View) :
    Prop where
  sound : env.site.Sound
  purchases : ∀ purchase ∈ env.purchases, Backed env.site purchase
  cache : ∀ id tickets, view.cache id = some tickets → Owning env.site.db id tickets
  tickets : ∀ user, session = some (some user) → view.loading = false →
    Owning env.site.db user.sub view.tickets

variable {env env' : Env} {session : Option (Option AuthenticatedUser)} {input : Input} {i : Nat}

theorem Private.next {a : Site.Action} (kept : Private env session view)
    (taken : Site.step cfg env.site a = some s') : Private { env with site := s' } session view := by
  have retains := retains_of_step kept.sound taken
  constructor
  case sound => exact (kept.sound.next taken).1
  case purchases => exact fun purchase member => (kept.purchases purchase member).next kept.sound taken
  case cache => exact fun id tickets found => (kept.cache id tickets found).mono retains
  case tickets => exact fun user now loaded => (kept.tickets user now loaded).mono retains

theorem Private.turned (kept : Private env session view) (holds : Holds env.site.db user state)
    (own : active = true → session = some (some user))
    (turned : TicketsPage.Turned toLocaleString env.site user active choice view state state' view') :
    Private env session view' := by
  cases turned with
  | began | queried | ended | listed | takenBack | pictured => exact kept
  | failed =>
    cases active with
    | false => exact kept
    | true =>
      refine ⟨kept.sound, kept.purchases, kept.cache, fun other now _ => ?_⟩
      rw [own rfl] at now
      cases now
      rw [if_pos rfl, TicketsPage.View.recall]
      cases found : view.cache user.sub with
      | none => exact .nil
      | some tickets => exact kept.cache _ _ found
  | @finished wallet calls stores all =>
    cases active with
    | false => exact kept
    | true =>
      refine ⟨kept.sound, kept.purchases, fun id tickets found => ?_, fun other now _ => ?_⟩
      · cases stores with
        | false => exact kept.cache id tickets found
        | true =>
          by_cases same : id = user.sub
          · subst same
            cases (Function.update_self _ _ view.cache).symm.trans found
            exact Enriching.owning holds
          · exact kept.cache id tickets ((Function.update_of_ne same _ view.cache).symm.trans found)
      · rw [own rfl] at now
        cases now
        exact Enriching.owning holds

theorem Private.update (kept : Private env session view) (backed : Backed env.site purchase) :
    Private (env.update i purchase) session view where
  sound := kept.sound
  purchases := Pool.forall_set kept.purchases backed fun _ _ _ _ backed => backed
  cache := kept.cache
  tickets := kept.tickets

theorem Private.keep {reads stores : Bool} (kept : Private env session view)
    (owning : Owning env.site.db userId tickets) :
    Private env session (keep view userId reads stores tickets) := by
  have existing : Owning env.site.db userId (if reads then (view.cache userId).getD [] else []) := by
    cases reads with
    | false => exact .nil
    | true =>
      cases found : view.cache userId with
      | none => exact .nil
      | some tickets => exact kept.cache _ _ found
  cases stores with
  | false => exact kept
  | true =>
    refine ⟨kept.sound, kept.purchases, fun id others found => ?_, kept.tickets⟩
    by_cases same : id = userId
    · subst same
      cases (Function.update_self _ _ view.cache).symm.trans found
      exact existing.merge owning
    · exact kept.cache id others ((Function.update_of_ne same _ view.cache).symm.trans found)

theorem Private.act (kept : Private env session view)
    (acts : act cfg env view input = some (env', view')) :
    Private env' session view' ∧ Retains env.site.db env'.site.db := by
  cases input with
  | pay =>
    cases acts
    refine ⟨⟨kept.sound, fun purchase member => ?_, kept.cache, kept.tickets⟩, .refl⟩
    rcases List.mem_append.mp member with old | new
    · exact kept.purchases purchase old
    · cases List.mem_singleton.mp new
      trivial
  | deliver i =>
    obtain ⟨purchase, here, acts⟩ := Option.bind_eq_some_iff.mp acts
    obtain ⟨request, sent, acts⟩ := Option.bind_eq_some_iff.mp acts
    obtain ⟨site, arrives, last⟩ := Option.map_eq_some_iff.mp acts
    cases last
    exact ⟨(kept.next arrives).update (backed_of_deliver sent arrives),
      retains_of_step kept.sound arrives⟩
  | answer i =>
    obtain ⟨purchase, here, acts⟩ := Option.bind_eq_some_iff.mp acts
    obtain ⟨purchase', answers, last⟩ := Option.map_eq_some_iff.mp acts
    cases last
    have backed := kept.purchases purchase (List.mem_of_getElem? here)
    exact ⟨kept.update (backed_of_answer backed answers), .refl⟩
  | lose i =>
    obtain ⟨purchase, here, acts⟩ := Option.bind_eq_some_iff.mp acts
    obtain ⟨purchase', lost, last⟩ := Option.map_eq_some_iff.mp acts
    cases last
    refine ⟨kept.update ?_, .refl⟩
    unfold Purchase.lose at lost
    split at lost <;> cases lost <;> trivial
  | picture i j picture =>
    obtain ⟨purchase, here, acts⟩ := Option.bind_eq_some_iff.mp acts
    obtain ⟨purchase', moves, last⟩ := Option.map_eq_some_iff.mp acts
    cases last
    have backed := kept.purchases purchase (List.mem_of_getElem? here)
    exact ⟨kept.update (backed_of_picture backed moves), .refl⟩
  | keep i reads stores =>
    obtain ⟨purchase, here, acts⟩ := Option.bind_eq_some_iff.mp acts
    obtain ⟨tickets, settled, last⟩ := Option.map_eq_some_iff.mp acts
    cases last
    have backed := kept.purchases purchase (List.mem_of_getElem? here)
    have owning : Owning env.site.db purchase.user.sub tickets := by
      unfold Purchase.stored at settled
      split at settled
      · rename_i at_stage
        simp only [Backed, at_stage] at backed
        split at settled <;> cases settled
        exact backed.owning
      · cases settled
    have finished : Backed env.site { purchase with stage := .done } := trivial
    exact ⟨(kept.update finished).keep owning, .refl⟩

theorem keeps_private : (hook cfg toLocaleString).Keeps
    (fun env session state => ∀ user, session = some user → Holds env.site.db user state) Private where
  env kept moves := by
    obtain ⟨site, taken, rfl⟩ := Option.map_eq_some_iff.mp moves
    exact ⟨kept.next taken, fun _ _ holds user same =>
      (holds user same).mono (retains_of_step kept.sound taken)⟩
  enter session kept := by
    cases session with
    | none =>
      exact ⟨⟨kept.sound, kept.purchases, kept.cache, fun user now => (by cases now)⟩,
        fun user now => (by cases now)⟩
    | some user =>
      refine ⟨⟨kept.sound, kept.purchases, kept.cache, fun other now loaded => (by cases loaded)⟩,
        fun other now => ?_⟩
      exact ⟨fun query member => (by cases member), fun wallet resolved => (by cases resolved)⟩
  turn kept holds own moves := by
    obtain ⟨user, rfl, moves⟩ := Option.bind_eq_some_iff.mp moves
    have turned := TicketsPage.turned_of_turn moves
    refine ⟨kept.turned (holds user rfl) own turned, ?_⟩
    rintro _ ⟨⟩
    exact (holds user rfl).turned turned
  act kept acts := by
    obtain ⟨kept, retains⟩ := kept.act acts
    exact ⟨kept, fun _ _ holds user same => (holds user same).mono retains⟩

abbrev Page :=
  Component Env (Option AuthenticatedUser) TicketsPage.State TicketsPage.View

/-- Whatever sessions come and go in one browser, whoever pays in it, and however late or
seldom the answers come: what is kept under the id of a user are tickets issued to this user,
each once, as is what the tickets page shows once it has loaded for the user, and each
picture is that of its ticket. -/
theorem own_tickets {c c' : Page} {us : List (Transition Site Site.Action)}
    {ts : List (Transition Page (Effects.Action Site.Action (Option AuthenticatedUser)
      TicketsPage.Choice Input))}
    {listing : Listing} (before : Run (Site.step cfg) (.unbooked listing) us c.env.site)
    (opened : c.tasks = [] ∧ c.env.purchases = [])
    (kept : ∀ id tickets, c.view.cache id = some tickets → Owning c.env.site.db id tickets)
    (run : Run (hook cfg toLocaleString).step c ts c') :
    (∀ id tickets, c'.view.cache id = some tickets → Owning c'.env.site.db id tickets) ∧
      ∀ user, c'.latest = some (some user) → c'.view.loading = false →
        Owning c'.env.site.db user.sub c'.view.tickets := by
  obtain ⟨idle, nothing⟩ := opened
  have shelf : Private c.env c.latest c.view := by
    refine ⟨Site.sound_unbooked.run before, by simp [nothing], kept, fun user now => ?_⟩
    rw [Component.latest, idle] at now
    cases now
  have start : Kept (fun env session state => ∀ user, session = some user →
      Holds env.site.db user state) Private c := ⟨by simp [idle], by simp [idle], shelf⟩
  have after := (start.run keeps_private run).view
  exact ⟨after.cache, after.tickets⟩

abbrev plainHook := hook sampleConfig fun failures => (toString failures).toList

theorem reservedSite_enabled : (exec (Site.step sampleConfig) .empty
    (setUp ++ price 3 (flat 0xc) ++ publish 4 ++ reserve.map .booking)).isSome = true := by
  decide +kernel

/-- Nothing is kept yet, and the customer has reserved seat `a…`. -/
abbrev shared : Page :=
  ⟨⟨launched _ reservedSite_enabled, []⟩, [], ⟨[], true, [], fun _ => none⟩⟩

/-- The customer pays, while the tickets page is an administrator's, and looks at the ticket
when the server cannot be reached. -/
def paying : List (Effects.Action Site.Action (Option AuthenticatedUser) TicketsPage.Choice Input) :=
  [.change (some ⟨['a'], .admin⟩),
    .act (.pay customer (flatText '1') ⟨none, []⟩ (List.replicate 8 'k') .success),
    .act (.deliver 0)] ++
  (startTurns 1 1 (flat 3)).map (fun a => .env (.booking a)) ++
  [.act (.answer 0), .act (.deliver 0)] ++
  (completeTurns 2 2 [flat 4] [['r'], ['t']]).map (fun a => .env (.booking a)) ++
  [.act (.answer 0), .act (.picture 0 0 .begin), .act (.picture 0 0 .serve),
    .act (.keep 0 true true), .change (some customer), .turn 1 (.proceed true),
    .turn 1 (.lose false), .turn 1 (.proceed true), .turn 1 (.lose false), .turn 1 (.proceed true)]

theorem paying_enabled : (exec plainHook.step shared paying).isSome = true := by
  decide +kernel

abbrev paid : Page := replay plainHook.step shared paying paying_enabled

theorem own_tickets_paid :
    paid.view.tickets.map StoredTicket.qr = [some (qrText sampleTicket)] ∧
      (∀ id tickets, paid.view.cache id = some tickets → Owning paid.env.site.db id tickets) ∧
      ∀ user, paid.latest = some (some user) → paid.view.loading = false →
        Owning paid.env.site.db user.sub paid.view.tickets := by
  have before : Run (Site.step sampleConfig)
      (.unbooked ⟨⟨.empty, .empty, .empty, .empty⟩, .empty, fun _ => .blank⟩) _ shared.env.site :=
    run_replay reservedSite_enabled
  exact ⟨by decide +kernel, own_tickets before ⟨rfl, rfl⟩ (fun id tickets found => by cases found)
    (run_replay paying_enabled)⟩

end KiTicket.Browser
