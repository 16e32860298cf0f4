import Mathlib.Data.List.Sort
import KiTicket.CheckIns
import KiTicket.Consistency
import KiTicket.Currency

/-! `tickets.controller.ts`, the calls that only read. A wallet is put together from four
queries, between which anybody may write; tickets are never deleted, nor is what they are
for, so none gets lost in between. The QR code of a ticket holds its token, and the door
looks a token up by its digest. -/
namespace KiTicket
open Reservations Payments WaitingRoom Runs KiTicket.Lists

/-! ## The calls -/

namespace Tickets

/-- `ticketing://verify/${ticket.token}` -/
def qrText (ticket : Ticket) : Text := "ticketing://verify/".toList ++ ticket.token

/-- `GET /tickets/:id/qr`, up to the picture. -/
def qr (db : Db) (user : AuthenticatedUser) (path : Text) : Except Failure (Uuid × Text) :=
  match uuid? path with
  | none => .error .invalidUuid
  | some id =>
    match db.tickets.rows.find? (·.id = id) with
    | none => .error (.notFound "Ticket not found")
    | some ticket =>
      match findReservation db ticket.reservationId with
      | none => .error .entityNotFound
      | some reservation =>
        if reservation.userId ≠ user.sub ∧ user.role ≠ .admin then .error (.forbidden "Forbidden")
        else .ok (ticket.id, qrText ticket)

structure Verification where
  valid : Bool
  checkedIn : Bool
  /-- The id and the seat id. -/
  ticket : Option (Uuid × Text)
deriving DecidableEq

/-- `GET /tickets/verify/:token` -/
def verify (cfg : Config) (db : Db) (token : Text) : Verification :=
  let ticket := db.tickets.rows.find? (·.qrHash = cfg.sha256Hex token)
  ⟨ticket.isSome, (ticket.bind Ticket.checkedInAt).isSome, ticket.map fun ticket => (ticket.id, ticket.seatId)⟩

/-- `GET /tickets/reservation/:id` -/
def byReservation (db : Db) (user : AuthenticatedUser) (path : Text) : Except Failure (List Ticket) :=
  match uuid? path with
  | none => .error .invalidUuid
  | some id =>
    match findReservation db id with
    | none => .error (.notFound "Reservation not found")
    | some reservation =>
      if reservation.userId ≠ user.sub ∧ user.role ≠ .admin then .error (.forbidden "Forbidden")
      -- the varchar column is compared with the path as it was typed
      else .ok (db.tickets.rows.filter (·.reservationId.text = path))

/-- A ticket as the wallet shows it. -/
structure WalletTicket where
  ticket : Ticket
  eventTitle : Option Text
  eventStartsAt : Option Nat
  seatLabel : Option Text
deriving DecidableEq

/-- `${seat.row}-${seat.number}` -/
def seatLabel (seat : Seat) : Text := seat.row ++ '-' :: (toString seat.number).toList

/-- The object `list` makes of a ticket, with what it has read of reservations, events and seats. -/
def listed (reservations : List Reservation) (events : Site) (seats : List Seat) (ticket : Ticket) :
    WalletTicket :=
  let reservation := reservations.find? (·.id = ticket.reservationId)
  let event := reservation.bind fun reservation =>
    events.db.catalog.events.rows.find? (·.id = reservation.eventId)
  let seat := seats.find? (·.id.text = ticket.seatId)
  ⟨ticket, event.map fun event => (events.columns event.id).title, event.map Event.startsAt,
    seat.map seatLabel⟩

/-- The reservations `list` starts from, in the first query. -/
def reservationsOf (user : AuthenticatedUser) (db : Db) : List Reservation :=
  db.reservations.rows.filter (·.userId = user.sub)

/-- Their tickets, in the second. -/
def ticketsOf (issuedAt : Uuid → Nat) (reservations : List Reservation) (db : Db) : List Ticket :=
  (db.tickets.rows.filter (·.reservationId ∈ reservations.map Reservation.id)).mergeSort
    fun a b => issuedAt b.id ≤ issuedAt a.id

/-- `GET /tickets`. Its four queries find the site in these states; `issuedAt` is when a
ticket was stored. -/
def list (issuedAt : Uuid → Nat) (user : AuthenticatedUser) (first second third fourth : Site) :
    Except Failure (List WalletTicket) :=
  let reservations := reservationsOf user first.db
  if reservations = [] then .ok []
  else
    let tickets := ticketsOf issuedAt reservations second.db
    -- `whereInIds` reads the seat ids as uuids
    if tickets.any fun ticket => (uuid? ticket.seatId).isNone then .error .invalidUuid
    else .ok (tickets.map (listed reservations third fourth.db.catalog.seats.rows))

end Tickets

open Tickets

variable {cfg : Config} {listing : Listing} {s s' : Site} {ts us vs ws : List (Transition Site Site.Action)}
  {user : AuthenticatedUser} {ticket : Ticket} {path token : Text} {id : Uuid}

/-! ## What later states keep -/

theorem Site.Sound.grows_run (sound : s.Sound) (run : Run (Site.step cfg) s ts s') :
    s.db.catalog.Grows s'.db.catalog := by
  have kept : s'.Sound ∧ s.db.catalog.Grows s'.db.catalog := by
    refine run.invariant (P := fun s' => s'.Sound ∧ s.db.catalog.Grows s'.db.catalog)
      (fun _ _ => (trivial : True)) ⟨sound, Catalog.grows_refl⟩ ?_
    rintro s₁ a s₂ ⟨sound, grown⟩ - taken
    obtain ⟨sound', grows⟩ := sound.next taken
    exact ⟨sound', grown.trans grows⟩
  exact kept.2

theorem issued_of_run (run : Run (Site.step cfg) s ts s') (issued : ticket.IssuedIn s.db.tickets.rows) :
    ticket.IssuedIn s'.db.tickets.rows := by
  refine run.invariant (P := fun s => ticket.IssuedIn s.db.tickets.rows)
    (fun _ _ => (trivial : True)) issued ?_
  rintro s₁ a s₂ issued - taken
  cases Site.step_cases taken
  case booking moves => exact issued.next moves
  all_goals exact issued

/-- Behind a stored ticket are a confirmed reservation, its event and its seat. -/
theorem backed_of_ticket (sound : s.Sound) (stored : ticket ∈ s.db.tickets.rows) :
    ∃ r ∈ s.db.reservations.rows, r.id = ticket.reservationId ∧ r.state = .confirmed ∧
      ∃ seat ∈ s.db.catalog.seats.rows, uuid? ticket.seatId = some seat.id := by
  have given : ticket.issued ∈ (s.db.booking ticket.reservationId).tickets :=
    mem_booking_tickets.mpr ⟨ticket, stored, rfl, rfl⟩
  have coherent := sound.coherent ticket.reservationId
  obtain ⟨r, found⟩ := coherent.exists_of_ticket given
  obtain ⟨member, named⟩ := booking_reservation_eq_some.mp found
  obtain ⟨row, held, of, same, -⟩ := row_of_ticket sound.coherent stored
  obtain ⟨-, venueId, -, seated⟩ := sound.placed.stored _ r found
  obtain ⟨seat, listed, read, -⟩ := seated row (mem_booking_seats.mpr ⟨held, of⟩)
  exact ⟨r, member, named, coherent.confirmed_of_ticket found given, seat, listed, same ▸ read⟩

theorem hosted_of_reservation {r : Reservation} (sound : s.Sound) (stored : r ∈ s.db.reservations.rows) :
    ∃ event ∈ s.db.catalog.events.rows, event.id = r.eventId := by
  obtain ⟨-, venueId, ⟨event, member, named, -⟩, -⟩ :=
    sound.placed.stored r.id r (booking_reservation_eq_some.mpr ⟨stored, rfl⟩)
  exact ⟨event, member, named⟩

/-! ## The wallet -/

/-- What a wallet shows when its queries find the site in these states. -/
structure WalletOf (issuedAt : Uuid → Nat) (user : AuthenticatedUser) (first second third fourth : Site)
    (wallet : List WalletTicket) : Prop where
  /-- Each ticket of the user's reservations, and no other, and each once. -/
  whole : (wallet.map WalletTicket.ticket).Perm (second.db.tickets.rows.filter fun ticket =>
    first.db.reservations.rows.any fun r => r.id = ticket.reservationId ∧ r.userId = user.sub)
  newest : wallet.Pairwise fun a b => issuedAt b.ticket.id ≤ issuedAt a.ticket.id
  /-- None that was there at the start is missing. -/
  kept : ∀ r ∈ first.db.reservations.rows, r.userId = user.sub → ∀ ticket ∈ first.db.tickets.rows,
    ticket.reservationId = r.id → ∃ entry ∈ wallet, entry.ticket.issued = ticket.issued
  titled : ∀ entry ∈ wallet, ∃ r ∈ first.db.reservations.rows,
    r.id = entry.ticket.reservationId ∧ r.userId = user.sub ∧
      ∃ event ∈ third.db.catalog.events.rows, event.id = r.eventId ∧
        entry.eventTitle = some (third.columns event.id).title ∧
        entry.eventStartsAt = some event.startsAt
  /-- The label is found under the spelling the API returns, and under no other. -/
  labelled : ∀ entry ∈ wallet, ∃ seat ∈ fourth.db.catalog.seats.rows,
    uuid? entry.ticket.seatId = some seat.id ∧
      entry.seatLabel = if asReturned entry.ticket.seatId then some (seatLabel seat) else none

section List
variable {issuedAt : Uuid → Nat} {first second third fourth : Site}

/-- The entries, ticket by ticket. -/
def Tickets.entries (issuedAt : Uuid → Nat) (user : AuthenticatedUser)
    (first second third fourth : Site) : List WalletTicket :=
  (ticketsOf issuedAt (reservationsOf user first.db) second.db).map
    (listed (reservationsOf user first.db) third fourth.db.catalog.seats.rows)

theorem mem_ticketsOf : ticket ∈ ticketsOf issuedAt (reservationsOf user first.db) second.db ↔
    ticket ∈ second.db.tickets.rows ∧
      ∃ r ∈ first.db.reservations.rows, r.id = ticket.reservationId ∧ r.userId = user.sub := by
  rw [ticketsOf, (List.mergeSort_perm _ _).mem_iff, List.mem_filter, decide_eq_true_eq, reservationsOf]
  simp only [List.mem_map, List.mem_filter, decide_eq_true_eq]
  grind

theorem list_eq (valid : ∀ ticket ∈ second.db.tickets.rows, (uuid? ticket.seatId).isSome = true) :
    list issuedAt user first second third fourth =
      .ok (entries issuedAt user first second third fourth) := by
  unfold list entries
  by_cases none : reservationsOf user first.db = []
  · simp [none, ticketsOf]
  · rw [if_neg none, if_neg]
    rw [List.any_eq_true]
    rintro ⟨ticket, member, bad⟩
    rw [Option.isNone_iff_eq_none] at bad
    have good := valid ticket (mem_ticketsOf.mp member).1
    rw [bad] at good
    cases good

theorem find?_event {db : Db} {event : Event} (stored : event ∈ db.catalog.events.rows) :
    db.catalog.events.rows.find? (·.id = event.id) = some event := by
  refine Table.find?_eq_some_of_mem stored (decide_eq_true rfl) fun a b left right => ?_
  rw [decide_eq_true_eq] at left right
  simp [clash, left, right]

theorem find?_seat {db : Db} {seat : Seat} (stored : seat ∈ db.catalog.seats.rows) :
    db.catalog.seats.rows.find? (·.id.text = seat.id.text) = some seat := by
  refine Table.find?_eq_some_of_mem stored (decide_eq_true rfl) fun a b left right => ?_
  rw [decide_eq_true_eq, Uuid.text_inj] at left right
  simp [clash, left, right]

/-- The reservation a ticket belongs to is found among the user's. -/
theorem exists_reservation {r : Reservation} (stored : r ∈ first.db.reservations.rows)
    (mine : r.userId = user.sub) (of : r.id = ticket.reservationId) :
    (reservationsOf user first.db).find? (·.id = ticket.reservationId) = some r := by
  have ids : ((reservationsOf user first.db).map Reservation.id).Nodup := by
    refine List.pairwise_map.mpr ((first.db.reservations.unique.sublist List.filter_sublist).imp ?_)
    intro a b apart same
    simp [clash, same] at apart
  rw [← of]
  exact find?_key ids (List.mem_filter.mpr ⟨stored, decide_eq_true mine⟩)

theorem seatLabel_listed {events : Site} {reservations : List Reservation} {seat : Seat}
    (stored : seat ∈ fourth.db.catalog.seats.rows) (read : uuid? ticket.seatId = some seat.id) :
    (listed reservations events fourth.db.catalog.seats.rows ticket).seatLabel =
      if asReturned ticket.seatId then some (seatLabel seat) else none := by
  by_cases spelled : asReturned ticket.seatId = true
  · rw [if_pos spelled, listed, eq_text_of_asReturned spelled read, find?_seat stored, Option.map_some]
  · rw [if_neg spelled]
    have absent : fourth.db.catalog.seats.rows.find? (·.id.text = ticket.seatId) = none := by
      rw [List.find?_eq_none]
      intro other _ same
      exact spelled (asReturned_iff.mpr ⟨other.id, (of_decide_eq_true same).symm⟩)
    rw [listed, absent, Option.map_none]

/-- The entries show the whole wallet, whatever happens between the queries. -/
theorem walletOf_entries (sound : first.Sound) (opened : Run (Site.step cfg) first ts second)
    (read : Run (Site.step cfg) second us third) (looked : Run (Site.step cfg) third vs fourth) :
    WalletOf issuedAt user first second third fourth
      (entries issuedAt user first second third fourth) := by
  have later := sound.run opened
  constructor
  case whole =>
    have same : WalletTicket.ticket ∘ listed (reservationsOf user first.db) third
        fourth.db.catalog.seats.rows = id := rfl
    rw [entries, List.map_map, same, List.map_id]
    refine (List.mergeSort_perm _ _).trans (.of_eq (List.filter_congr fun ticket _ => ?_))
    rw [Bool.eq_iff_iff, decide_eq_true_eq, List.any_eq_true, reservationsOf]
    simp only [List.mem_map, List.mem_filter, decide_eq_true_eq]
    grind
  case newest =>
    rw [entries, List.pairwise_map]
    refine (List.pairwise_mergeSort ?_ ?_ _).imp of_decide_eq_true
    · intro a b c first second
      simp only [decide_eq_true_eq] at first second ⊢
      exact second.trans first
    · intro a b
      simpa only [Bool.or_eq_true, decide_eq_true_eq] using Nat.le_total _ _
  case kept =>
    intro r stored owned ticket issued of
    obtain ⟨row, member, same⟩ := issued_of_run opened ⟨ticket, issued, rfl⟩
    have reservation : row.reservationId = r.id := (congrArg Ticket.reservationId same).trans of
    exact ⟨_, List.mem_map_of_mem (mem_ticketsOf.mpr ⟨member, r, stored, reservation.symm, owned⟩),
      same⟩
  case titled =>
    intro entry member
    obtain ⟨ticket, shown, rfl⟩ := List.mem_map.mp member
    obtain ⟨-, r, stored, of, owned⟩ := mem_ticketsOf.mp shown
    obtain ⟨event, hosted, named⟩ := hosted_of_reservation sound stored
    obtain ⟨event', hosted', same, -⟩ :=
      ((sound.grows_run opened).trans (later.grows_run read)).events event hosted
    refine ⟨r, stored, of, owned, event', hosted', same.trans named, ?_⟩
    have found := find?_event hosted'
    rw [same, named] at found
    simp only [listed, exists_reservation stored owned of, Option.bind_some, found, Option.map_some,
      and_self]
  case labelled =>
    intro entry member
    obtain ⟨ticket, shown, rfl⟩ := List.mem_map.mp member
    obtain ⟨-, -, -, -, seat, placed, spelled⟩ := backed_of_ticket later (mem_ticketsOf.mp shown).1
    have grown := (later.grows_run read).trans ((later.run read).grows_run looked)
    exact ⟨seat, grown.seats placed, spelled, seatLabel_listed (grown.seats placed) spelled⟩

end List

/-- A wallet shows every ticket of its owner's reservations and nobody else's, the newest
first, each under its event, whatever else happens between the queries. -/
theorem wallet_complete (issuedAt : Uuid → Nat) (user : AuthenticatedUser)
    {first second third fourth : Site} (before : Run (Site.step cfg) (.unbooked listing) ts first)
    (opened : Run (Site.step cfg) first us second) (read : Run (Site.step cfg) second vs third)
    (looked : Run (Site.step cfg) third ws fourth) :
    ∃ wallet, list issuedAt user first second third fourth = .ok wallet ∧
      WalletOf issuedAt user first second third fourth wallet := by
  have sound := Site.sound_unbooked.run before
  refine ⟨_, list_eq fun ticket stored => ?_, walletOf_entries sound opened read looked⟩
  obtain ⟨-, -, -, -, seat, -, spelled⟩ := backed_of_ticket (sound.run opened) stored
  rw [spelled]
  rfl

/-- The sold-out site, where nothing is set up to begin with. -/
theorem sold_run : Run (Site.step sampleConfig)
    (.unbooked ⟨⟨.empty, .empty, .empty, .empty⟩, .empty, fun _ => .blank⟩)
    (transitions (Site.step sampleConfig) .empty soldOut) (launched soldOut soldOut_enabled) :=
  run_replay soldOut_enabled

theorem scanned_enabled : (exec (Site.step sampleConfig) (launched soldOut soldOut_enabled)
    ((scan :: scanTurns 3).map .booking)).isSome = true := by
  decide +kernel

/-- The site once the ticket has been checked in. -/
def scannedSite : Site :=
  replay (Site.step sampleConfig) (launched soldOut soldOut_enabled) _ scanned_enabled

/-- The customer looks while the organizer checks the ticket in. -/
theorem wallet_complete_sold : ∃ wallet,
    list (fun _ => 0) customer (launched soldOut soldOut_enabled) (launched soldOut soldOut_enabled)
      scannedSite scannedSite = .ok wallet ∧
    WalletOf (fun _ => 0) customer (launched soldOut soldOut_enabled)
      (launched soldOut soldOut_enabled) scannedSite scannedSite wallet :=
  wallet_complete (fun _ => 0) customer sold_run .nil (run_replay scanned_enabled) .nil

/-! ## The QR code -/

/-- Every ticket is stored under the digest of its token. -/
def Db.Hashed (cfg : Config) (db : Db) : Prop :=
  ∀ row ∈ db.tickets.rows, row.qrHash = cfg.sha256Hex row.token

section Hashed
variable {c : Choice} {held : List RowLock} {server server' : Server} {p p' : Proc}

theorem hashed_of_same (hashed : server.db.Hashed cfg)
    (same : server'.db.tickets = server.db.tickets) : server'.db.Hashed cfg := by
  rw [Db.Hashed, same]
  exact hashed

theorem Payments.Complete.hashed {state : Complete} {next : Next Complete}
    (hashed : server.db.Hashed cfg) (turn : state.turn cfg c held server = some (server', next)) :
    server'.db.Hashed cfg := by
  cases state
  case commit body p r seats =>
    simp only [Complete.turn] at turn
    split at turn
    · split at turn
      · cases turn
        exact hashed_of_same hashed rfl
      split at turn
      · split at turn
        · cases turn
        split at turn <;> cases turn
        · exact hashed
        rename_i db result confirmed
        unfold confirm at confirmed
        dsimp only at confirmed
        split at confirmed <;> cases confirmed
        rename_i issued
        intro row member
        rcases List.mem_append.mp (Table.insert?_eq_some.mp issued ▸ member) with old | new
        · exact hashed row old
        · obtain ⟨_, -, _, -, rfl⟩ := exists_of_mem_zipWith new
          rfl
      · cases turn
    · cases turn
      exact hashed
  all_goals
    apply hashed_of_same hashed
    grind [Complete.turn, Complete.finish, Server.refuse, Server.stay, releaseLocks, Server.emit]

theorem Tickets.CheckIn.hashed {state : CheckIn} {next : Next CheckIn}
    (hashed : server.db.Hashed cfg) (turn : state.turn c server = some (server', next)) :
    server'.db.Hashed cfg := by
  rcases CheckIn.tickets turn with same | ⟨ticket, -, saved, -⟩
  · exact hashed_of_same hashed same
  · rw [saved]
    intro row member
    rw [rows_saveCheckedIn] at member
    obtain ⟨before, stored, rfl⟩ := List.mem_map.mp member
    split
    · exact hashed before stored
    · exact hashed before stored

theorem hashed_turn (hashed : server.db.Hashed cfg)
    (turn : p.turn cfg c held server = some (server', p')) : server'.db.Hashed cfg := by
  cases p <;> simp only [Proc.turn, turnOf_eq_some] at turn
  case done => cases turn
  all_goals
    obtain ⟨next, turn, -⟩ := turn
    rename_i state
  case complete =>
    split at turn
    · cases state <;> simp only [Complete.fault] at turn <;> cases turn <;> exact hashed
    · exact Complete.hashed hashed turn
  case checkIn =>
    split at turn
    · cases turn
      exact hashed
    · exact CheckIn.hashed hashed turn
  case expire =>
    apply hashed_of_same hashed
    split at turn
    · cases state <;> simp only [Expire.fault, Expire.finish] at turn
      case release => exact Expire.loop_tickets turn rfl
      all_goals
        cases turn
        rfl
    · exact Expire.tickets turn
  all_goals
    apply hashed_of_same hashed
    cases state <;>
      grind [Create.turn, Create.fault, Cancel.turn, Cancel.fault, Cancel.finish, Start.turn,
        Start.fault, Join.turn, Admit.turn, Server.refuse, Server.stay, releaseLocks, Server.emit,
        Draft.insert, removeSeats, setState]

end Hashed

theorem hashed_of_run (run : Run (Site.step cfg) (.unbooked listing) ts s) : s.db.Hashed cfg := by
  refine run.invariant (P := fun s => s.db.Hashed cfg) (fun _ _ => (trivial : True)) ?_ ?_
  · intro row member
    cases member
  rintro s₁ a s₂ hashed - taken
  cases Site.step_cases taken
  case booking moves =>
    cases step_cases moves
    case turn turn => exact hashed_turn hashed turn
    all_goals exact hashed
  all_goals exact hashed

/-! ## At the door -/

/-- No other stored token has the digest of this one. -/
def Db.Apart (cfg : Config) (db : Db) (token : Text) : Prop :=
  ∀ row ∈ db.tickets.rows, cfg.sha256Hex row.token = cfg.sha256Hex token → row.token = token

/-- The token is that of a ticket for a seat its reservation holds, and that is paid for. -/
def Db.Sold (db : Db) (token : Text) : Prop :=
  ∃ ticket ∈ db.tickets.rows, ticket.token = token ∧
    ∃ r ∈ db.reservations.rows, r.id = ticket.reservationId ∧ r.state = .confirmed ∧
      (∃ row ∈ db.reservationSeats.rows, row.reservationId = r.id ∧ row.seatId = ticket.seatId ∧
        row.state = .booked) ∧
      ∃ p ∈ db.payments.rows, p.reservationId = r.id ∧ p.state = .success ∧ p.amount = r.totalAmount

section Door
variable {db : Db}

theorem verify_stored (hashed : db.Hashed cfg) (apart : db.Apart cfg ticket.token)
    (stored : ticket ∈ db.tickets.rows) : verify cfg db ticket.token =
      ⟨true, ticket.checkedInAt.isSome, some (ticket.id, ticket.seatId)⟩ := by
  have found : db.tickets.rows.find? (·.qrHash = cfg.sha256Hex ticket.token) = some ticket := by
    obtain ⟨row, hit⟩ : ∃ row, db.tickets.rows.find?
        (·.qrHash = cfg.sha256Hex ticket.token) = some row :=
      Option.isSome_iff_exists.mp (List.find?_isSome.mpr
        ⟨ticket, stored, decide_eq_true (hashed ticket stored)⟩)
    have member := List.mem_of_find?_eq_some hit
    have digest : row.qrHash = cfg.sha256Hex ticket.token := by simpa using List.find?_some hit
    have token := apart row member (hashed row member ▸ digest)
    rw [hit, Option.some.injEq]
    exact db.tickets.eq_of_clash member stored (decide_eq_true (.inr (.inl token)))
  rw [verify, found]
  rfl

theorem exists_of_valid (hashed : db.Hashed cfg) (apart : db.Apart cfg token)
    (valid : (verify cfg db token).valid = true) : ∃ row ∈ db.tickets.rows, row.token = token := by
  obtain ⟨row, hit⟩ := Option.isSome_iff_exists.mp valid
  have member := List.mem_of_find?_eq_some hit
  have digest : row.qrHash = cfg.sha256Hex token := by simpa using List.find?_some hit
  exact ⟨row, member, apart row member (hashed row member ▸ digest)⟩

end Door

theorem sold_of_ticket (sound : s.Sound) (stored : ticket ∈ s.db.tickets.rows) :
    s.db.Sold ticket.token := by
  obtain ⟨r, member, named, confirmed, -⟩ := backed_of_ticket sound stored
  obtain ⟨row, held, of, same, -⟩ := row_of_ticket sound.coherent stored
  have coherent := sound.coherent r.id
  have found : (s.db.booking r.id).reservation = some r := booking_reservation_eq_some.mpr ⟨member, rfl⟩
  obtain ⟨holds, -, p, paid, success⟩ := coherent.confirmed found confirmed
  obtain ⟨charged, pays⟩ := booking_payment_eq_some.mp paid
  have mine : row.reservationId = r.id := of.trans named.symm
  exact ⟨ticket, stored, rfl, r, member, named, confirmed,
    ⟨row, held, mine, same, holds.uniform row (mem_booking_seats.mpr ⟨held, mine⟩)⟩,
    p, charged, pays, success, (coherent.amount found paid).1⟩

/-- What check-ins work on was issued. -/
theorem reads_of_run (run : Run (Site.step cfg) (.unbooked listing) ts s) :
    ∀ p ∈ s.world.procs, p.Reads s.db.tickets.rows := by
  refine run.invariant (P := fun s => ∀ p ∈ s.world.procs, p.Reads s.db.tickets.rows)
    (fun _ _ => (trivial : True)) ?_ ?_
  · intro p member
    cases member
  rintro s₁ a s₂ reads - taken
  cases Site.step_cases taken
  case booking moves => exact reads_next reads moves
  all_goals exact reads

theorem scanned_of_run (reads : ∀ p ∈ s.world.procs, p.Reads s.db.tickets.rows)
    (run : Run (Site.step cfg) s ts s') (scanned : s.db.Scanned id) : s'.db.Scanned id := by
  have kept : (∀ p ∈ s'.world.procs, p.Reads s'.db.tickets.rows) ∧ s'.db.Scanned id := by
    refine run.invariant (P := fun s => (∀ p ∈ s.world.procs, p.Reads s.db.tickets.rows) ∧
      s.db.Scanned id) (fun _ _ => (trivial : True)) ⟨reads, scanned⟩ ?_
    rintro s₁ a s₂ ⟨reads, scanned⟩ - taken
    cases Site.step_cases taken
    case booking moves =>
      exact ⟨reads_next reads moves, (scanned_step reads moves).mpr (.inl scanned)⟩
    all_goals exact ⟨reads, scanned⟩
  exact kept.2

/-- What the door says of a stored ticket, at any time after. -/
theorem verify_after (before : Run (Site.step cfg) (.unbooked listing) ts s)
    (stored : ticket ∈ s.db.tickets.rows) (after : Run (Site.step cfg) s us s')
    (apart : s'.db.Apart cfg ticket.token) : (verify cfg s'.db ticket.token).valid = true ∧
      ((verify cfg s'.db ticket.token).checkedIn = true ↔ s'.db.Scanned ticket.id) ∧
      (verify cfg s'.db ticket.token).ticket = some (ticket.id, ticket.seatId) := by
  obtain ⟨row, member, same⟩ := issued_of_run after ⟨ticket, stored, rfl⟩
  have token : row.token = ticket.token :=
    (congrArg Ticket.token same : row.issued.token = ticket.issued.token)
  have seat : row.seatId = ticket.seatId :=
    (congrArg Ticket.seatId same : row.issued.seatId = ticket.issued.seatId)
  have found := verify_stored (hashed_of_run (before.append after)) (token ▸ apart) member
  rw [token, seat, id_of_issued same] at found
  rw [found]
  refine ⟨rfl, ⟨fun shown => ⟨row, member, id_of_issued same, shown⟩, ?_⟩, rfl⟩
  rintro ⟨other, kept, named, scanned⟩
  rwa [s'.db.tickets.eq_of_clash kept member (decide_eq_true (.inl (named.trans (id_of_issued same).symm)))]
    at scanned

/-- The door lets in who holds the token of a ticket for a seat that is sold, and goes on
doing so; what it has found checked in stays checked in. -/
theorem verify_sold (before : Run (Site.step cfg) (.unbooked listing) ts s)
    (after : Run (Site.step cfg) s us s') (apart : s'.db.Apart cfg token) :
    ((verify cfg s'.db token).valid = true ↔ s'.db.Sold token) ∧
      ((verify cfg s.db token).valid = true →
        (verify cfg s'.db token).ticket = (verify cfg s.db token).ticket ∧
          ((verify cfg s.db token).checkedIn = true → (verify cfg s'.db token).checkedIn = true)) := by
  have whole := before.append after
  refine ⟨⟨fun valid => ?_, ?_⟩, fun valid => ?_⟩
  · obtain ⟨ticket, stored, rfl⟩ := exists_of_valid (hashed_of_run whole) apart valid
    exact sold_of_ticket (Site.sound_unbooked.run whole) stored
  · rintro ⟨ticket, stored, rfl, -⟩
    exact (verify_after whole stored .nil apart).1
  · -- tickets stay, so no token stored before has the digest either
    have apart' : s.db.Apart cfg token := by
      intro row member digest
      obtain ⟨row', member', same⟩ := issued_of_run after ⟨row, member, rfl⟩
      have token : row'.token = row.token :=
        (congrArg Ticket.token same : row'.issued.token = row.issued.token)
      exact token ▸ apart row' member' (token ▸ digest)
    obtain ⟨ticket, stored, rfl⟩ := exists_of_valid (hashed_of_run before) apart' valid
    obtain ⟨-, now, shown⟩ := verify_after before stored .nil apart'
    obtain ⟨-, later, shown'⟩ := verify_after before stored after apart
    exact ⟨shown'.trans shown.symm,
      fun checked => later.mpr (scanned_of_run (reads_of_run before) after (now.mp checked))⟩

instance {db : Db} : DecidablePred (db.Apart cfg) := fun token =>
  inferInstanceAs (Decidable (∀ row ∈ db.tickets.rows, cfg.sha256Hex row.token = cfg.sha256Hex token →
    row.token = token))

theorem verify_sold_scanned : ((verify sampleConfig scannedSite.db ['t']).valid = true ↔
      scannedSite.db.Sold ['t']) ∧
    ((verify sampleConfig (launched soldOut soldOut_enabled).db ['t']).valid = true →
      (verify sampleConfig scannedSite.db ['t']).ticket =
          (verify sampleConfig (launched soldOut soldOut_enabled).db ['t']).ticket ∧
        ((verify sampleConfig (launched soldOut soldOut_enabled).db ['t']).checkedIn = true →
          (verify sampleConfig scannedSite.db ['t']).checkedIn = true)) :=
  verify_sold sold_run (run_replay scanned_enabled) (by decide +kernel)

/-- The user may see the ticket. -/
def Db.Shows (db : Db) (user : AuthenticatedUser) (ticket : Ticket) : Prop :=
  user.role = .admin ∨
    ∃ r ∈ db.reservations.rows, r.id = ticket.reservationId ∧ r.userId = user.sub

theorem row_of_qr {db : Db} {text : Text} (given : qr db user path = .ok (id, text)) :
    ∃ ticket ∈ db.tickets.rows, ticket.id = id ∧ uuid? path = some id ∧ text = qrText ticket ∧
      db.Shows user ticket := by
  unfold qr at given
  split at given
  · cases given
  rename_i read names
  split at given
  · cases given
  rename_i ticket found
  split at given
  · cases given
  rename_i r owned
  split at given <;> cases given
  rename_i allowed
  have named : ticket.id = read := by simpa using List.find?_some found
  obtain ⟨member, of⟩ := booking_reservation_eq_some.mp (findReservation_eq.symm.trans owned)
  refine ⟨ticket, List.mem_of_find?_eq_some found, rfl, named ▸ names, rfl, ?_⟩
  by_cases admin : user.role = .admin
  · exact .inl admin
  · exact .inr ⟨r, member, of, by_contra fun other => allowed ⟨other, admin⟩⟩

/-- A QR code is given to the owner of the ticket or to an administrator, and the text in
it opens the door from then on. -/
theorem qr_verifies (before : Run (Site.step cfg) (.unbooked listing) ts s) {text : Text}
    (given : qr s.db user path = .ok (id, text)) :
    ∃ ticket ∈ s.db.tickets.rows, ticket.id = id ∧ uuid? path = some id ∧ text = qrText ticket ∧
      s.db.Shows user ticket ∧ ∀ us s', Run (Site.step cfg) s us s' → s'.db.Apart cfg ticket.token →
        (verify cfg s'.db ticket.token).valid = true ∧
          ((verify cfg s'.db ticket.token).checkedIn = true ↔ s'.db.Scanned id) ∧
          (verify cfg s'.db ticket.token).ticket = some (id, ticket.seatId) := by
  obtain ⟨ticket, stored, rfl, names, drawn, shows⟩ := row_of_qr given
  exact ⟨ticket, stored, rfl, names, drawn, shows, fun us s' after apart =>
    verify_after before stored after apart⟩

theorem qr_verifies_sold : ∃ ticket ∈ (launched soldOut soldOut_enabled).db.tickets.rows,
    ticket.id = flat 4 ∧ uuid? (flatText '4') = some (flat 4) ∧ qrText sampleTicket = qrText ticket ∧
      (launched soldOut soldOut_enabled).db.Shows customer ticket ∧
      ∀ us s', Run (Site.step sampleConfig) (launched soldOut soldOut_enabled) us s' →
        s'.db.Apart sampleConfig ticket.token →
        (verify sampleConfig s'.db ticket.token).valid = true ∧
          ((verify sampleConfig s'.db ticket.token).checkedIn = true ↔ s'.db.Scanned (flat 4)) ∧
          (verify sampleConfig s'.db ticket.token).ticket = some (flat 4, ticket.seatId) :=
  qr_verifies sold_run (by decide +kernel)

/-! ## The tickets of one reservation -/

/-- A confirmed reservation shows a ticket for each of its seats, in some order, and any
other shows none. Under another spelling of its id it shows none at all. -/
theorem byReservation_seats (run : Run (Site.step cfg) (.unbooked listing) ts s)
    {tickets : List Ticket} (given : byReservation s.db user path = .ok tickets) :
    ∃ r ∈ s.db.reservations.rows, uuid? path = some r.id ∧ (user.role = .admin ∨ r.userId = user.sub) ∧
      (tickets.map Ticket.seatId).Perm
        (if asReturned path ∧ r.state = .confirmed then
          (s.db.reservationSeats.rows.filter (·.reservationId = r.id)).map ReservationSeat.seatId
        else []) := by
  unfold byReservation at given
  split at given
  · cases given
  rename_i read names
  split at given
  · cases given
  rename_i r owned
  split at given <;> cases given
  rename_i allowed
  have found := findReservation_eq.symm.trans owned
  obtain ⟨member, rfl⟩ := booking_reservation_eq_some.mp found
  refine ⟨r, member, names, ?_, ?_⟩
  · by_cases admin : user.role = .admin
    · exact .inl admin
    · exact .inr (by_contra fun other => allowed ⟨other, admin⟩)
  have coherent := (Site.sound_unbooked.run run).coherent r.id
  by_cases spelled : asReturned path = true
  · -- the column holds the id the way the path spells it
    have same : path = r.id.text := eq_text_of_asReturned spelled names
    have tickets : (s.db.booking r.id).tickets.map Ticket.seatId =
        (s.db.tickets.rows.filter (·.reservationId.text = path)).map Ticket.seatId := by
      simp only [Db.booking, List.map_map, same, Uuid.text_inj]
      rfl
    rw [← tickets]
    by_cases confirmed : r.state = .confirmed
    · rw [if_pos ⟨spelled, confirmed⟩]
      exact .of_eq (coherent.confirmed found confirmed).2.1
    · rw [if_neg fun both => confirmed both.2]
      have none : (s.db.booking r.id).tickets = [] := by
        rw [List.eq_nil_iff_forall_not_mem]
        exact fun ticket given => confirmed (coherent.confirmed_of_ticket found given)
      rw [none, List.map_nil]
  · have none : s.db.tickets.rows.filter (·.reservationId.text = path) = [] := by
      refine List.filter_eq_nil_iff.mpr fun ticket _ same => ?_
      exact spelled (asReturned_iff.mpr ⟨ticket.reservationId, (of_decide_eq_true same).symm⟩)
    rw [if_neg fun both => spelled both.1, none, List.map_nil]

/-- The customer buys both seats with one reservation. -/
def pairSold : List Site.Action :=
  setUp ++ price 3 (flat 0xc) ++ publish 4 ++
    (.request (.create customer ⟨flatText 'e', [flatText 'a', flatText 'b'], none⟩) ::
      createTurns 0 0 (flat 1) [flat 2, flat 7] ++ pay ++
      .request (.complete customer (flatText '3') ⟨.success, none⟩) ::
      completeTurns 2 2 [flat 4, flat 5] [['r'], ['t'], ['u']]).map .booking

theorem pairSold_enabled : (exec (Site.step sampleConfig) .empty pairSold).isSome = true := by
  decide +kernel

theorem pairSold_run : Run (Site.step sampleConfig)
    (.unbooked ⟨⟨.empty, .empty, .empty, .empty⟩, .empty, fun _ => .blank⟩)
    (transitions (Site.step sampleConfig) .empty pairSold) (launched pairSold pairSold_enabled) :=
  run_replay pairSold_enabled

/-- The ticket for the second of two seats. -/
def otherTicket : Ticket := ⟨flat 5, flat 1, flatText 'b', ['u'], otherDigest, none⟩

theorem byReservation_seats_sold :
    ∃ r ∈ (launched pairSold pairSold_enabled).db.reservations.rows, uuid? (flatText '1') = some r.id ∧
      (customer.role = .admin ∨ r.userId = customer.sub) ∧
      ([sampleTicket, otherTicket].map Ticket.seatId).Perm
        (if asReturned (flatText '1') ∧ r.state = .confirmed then
          ((launched pairSold pairSold_enabled).db.reservationSeats.rows.filter
            (·.reservationId = r.id)).map ReservationSeat.seatId
        else []) :=
  byReservation_seats pairSold_run (by decide +kernel)

end KiTicket
