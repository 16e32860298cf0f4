import Mathlib.Logic.Relation
import KiTicket.Amounts
import KiTicket.Starts

/-! The takings of an event. What an organizer is shown is a sum of doubles, and exact as
long as it is a safe integer. It need not be: with a price that fits its column, ninety-one
seats sold one after the other come to more, and the figure is wrong. -/
namespace KiTicket
open Runs Reservations Payments KiTicket.Lists
open Events (analytics successfulPayments venueSeats)

variable {cfg : Config} {s s' : Site} {server server' : Server} {p : Proc} {front : List Proc}
  {choices : List Choice} {response : Response} {ts : List (Transition Site Site.Action)}

/-! ## While the takings are safe -/

/-- At every point of a run over the whole site, with ids spelled as the API returns
them, the figures of every event conserve seats, also while requests are in flight, since
what a transaction writes it writes at once; and money, when every reservation that was
confirmed found room in what its event had taken. -/
theorem figures_conserved (run : Run (Site.step cfg) .empty ts s)
    (inside : Within Site.Action.AsReturned ts) :
    (∀ event ∈ s.db.catalog.events.rows, s.SeatsConserved event) ∧
      ((∀ t ∈ ts, FindsRoom t) → ∀ event ∈ s.db.catalog.events.rows, s.Conserved event) := by
  have both : s.Sound ∧ s.Spelled := by
    refine run.invariant (P := fun s => s.Sound ∧ s.Spelled) inside
      ⟨Site.sound_empty, Site.spelled_empty⟩ ?_
    rintro s a s' ⟨sound, spelled⟩ allowed taken
    exact ⟨(sound.next taken).1, spelled.next allowed taken⟩
  refine ⟨fun event => both.1.seats_conserved both.2, fun room event listed => ?_⟩
  have safe : s.Sound ∧ ∀ eventId, s.db.revenue eventId ≤ Doubles.maxSafe := by
    refine run.invariant (P := fun s => s.Sound ∧ ∀ eventId, s.db.revenue eventId ≤ Doubles.maxSafe)
      room ⟨Site.sound_empty, fun _ => Nat.zero_le _⟩ ?_
    rintro s a s' ⟨sound, safe⟩ finds taken
    exact ⟨(sound.next taken).1, (revenue_next sound taken safe).mpr finds⟩
  exact both.1.conserved both.2 listed (safe.2 event.id)

theorem figures_conserved_sold :
    (launched soldOut soldOut_enabled).Conserved ⟨flat 0xe, ['o'], flatText '8', 1000000, true⟩ :=
  (figures_conserved (run_replay soldOut_enabled)
    (within_replay soldOut_enabled (by decide +kernel))).2 (by decide +kernel) _ (by decide +kernel)

/-! ## One request after the other -/

/-- A turn with nobody else's rows locked. -/
def Proc.TurnAlone (cfg : Config) (x y : Server × Proc) : Prop :=
  ∃ c, x.2.turn cfg c [] x.1 = some y

/-- Some turns of one request, nobody in between. -/
abbrev Proc.Alone (cfg : Config) : Server × Proc → Server × Proc → Prop :=
  Relation.ReflTransGen (TurnAlone cfg)

/-- From the one site to the other by requests that spell ids as the API returns them. -/
def Site.Reaches (cfg : Config) (s s' : Site) : Prop :=
  ∃ ts, Run (Site.step cfg) s ts s' ∧ Within Site.Action.AsReturned ts

theorem Site.Reaches.trans {middle : Site} (first : Site.Reaches cfg s middle)
    (second : Site.Reaches cfg middle s') : Site.Reaches cfg s s' := by
  obtain ⟨ts, run, inside⟩ := first
  obtain ⟨us, run', inside'⟩ := second
  exact ⟨ts ++ us, run.append run', within_append.mpr ⟨inside, inside'⟩⟩

theorem Site.Reaches.single {a : Site.Action} (taken : Site.step cfg s a = some s')
    (spelled : a.AsReturned) : Site.Reaches cfg s s' :=
  ⟨_, .single taken, fun _ member => List.mem_singleton.mp member ▸ spelled⟩

/-- The site with these requests, the last of them at work. -/
def Site.serving (s : Site) (front : List Proc) (x : Server × Proc) : Site :=
  { s with world := ⟨x.1, front ++ [x.2]⟩ }

theorem step_serving {x y : Server × Proc} (quiet : ∀ p ∈ front, p.held = []) {c : Choice}
    (turn : x.2.turn cfg c [] x.1 = some y) :
    Site.step cfg (s.serving front x) (.booking (.turn front.length c)) = some (s.serving front y) := by
  have serving : (front ++ [x.2])[front.length]? = some x.2 := List.getElem?_concat_length
  have others : (Pool.others ⟨x.1, front ++ [x.2]⟩ front.length).flatMap Proc.held = [] := by
    rw [Pool.others, List.eraseIdx_append_of_length_le (Nat.le_refl _), Nat.sub_self]
    simpa using quiet
  have replaced : (front ++ [x.2]).set front.length y.2 = front ++ [y.2] := by simp
  simp only [Site.step, Site.serving, step, serving, Option.bind_eq_bind, Option.bind_some, others,
    turn, replaced]
  rfl

theorem reaches_of_alone {x y : Server × Proc} (quiet : ∀ p ∈ front, p.held = [])
    (alone : Proc.Alone cfg x y) : Site.Reaches cfg (s.serving front x) (s.serving front y) := by
  induction alone with
  | refl => exact ⟨[], .nil, fun _ none => absurd none List.not_mem_nil⟩
  | tail _ turn ih =>
    obtain ⟨c, turn⟩ := turn
    exact ih.trans (.single (step_serving quiet turn) trivial)

/-- A request that comes in and is answered before the next one. -/
theorem reaches_of_request {r : Request} (quiet : ∀ p ∈ front, p.held = [])
    (accepted : r.accepted = true) (spelled : r.asReturned = true)
    (alone : Proc.Alone cfg (server, r.proc) (server', .done response)) :
    Site.Reaches cfg { s with world := ⟨server, front⟩ }
      { s with world := ⟨server', front ++ [.done response]⟩ } := by
  have arrives : Site.step cfg { s with world := ⟨server, front⟩ } (.booking (.request r)) =
      some (s.serving front (server, r.proc)) := by
    simp only [Site.step, step, if_pos accepted]
    rfl
  exact (Site.Reaches.single arrives spelled).trans (reaches_of_alone quiet alone)

theorem alone_of_create {state : Create} (calm : ∀ c ∈ choices, ¬c.fault = true)
    (alone : state.alone cfg choices server = some (server', response)) :
    Proc.Alone cfg (server, .create state) (server', .done response) := by
  induction choices generalizing state server with
  | nil => cases alone
  | cons c choices ih =>
    simp only [Create.alone] at alone
    have works := calm c List.mem_cons_self
    split at alone
    · cases alone
    · rename_i turn
      cases alone
      refine .single ⟨c, ?_⟩
      simp [Proc.turn, turnOf, if_neg works, turn, Next.proc]
    · rename_i next turn
      refine .head ⟨c, ?_⟩ (ih (fun c member => calm c (List.mem_cons_of_mem _ member)) alone)
      simp [Proc.turn, turnOf, if_neg works, turn, Next.proc]

theorem alone_of_start {c : Choice} {fuel : Nat} {state : Start} (works : ¬c.fault = true)
    (alone : state.alone c fuel server = some (server', response)) :
    Proc.Alone cfg (server, .start state) (server', .done response) := by
  induction fuel generalizing state server with
  | zero => cases alone
  | succ fuel ih =>
    simp only [Start.alone] at alone
    split at alone
    · cases alone
    · rename_i turn
      cases alone
      refine .single ⟨c, ?_⟩
      simp [Proc.turn, turnOf, if_neg works, turn, Next.proc]
    · rename_i next turn
      refine .head ⟨c, ?_⟩ (ih alone)
      simp [Proc.turn, turnOf, if_neg works, turn, Next.proc]

section Confirms
variable {user : AuthenticatedUser} {path : Text} {payment : Payment} {r : Reservation}
  {seats : List ReservationSeat} {ids : List Uuid} {reference : Text} {tokens : List Text} {now : Nat}
  {reservationSeats : Table ReservationSeat} {tickets : Table Ticket}

/-- A completion of a payment that is due, with success and in time. -/
theorem alone_confirms (names : uuid? path = some payment.id)
    (found : server.db.payments.rows.find? (·.id = payment.id) = some payment)
    (due : payment.state = .pending)
    (owned : findReservation server.db payment.reservationId = some r) (mine : r.userId = user.sub)
    (early : now < r.expiresAt)
    (held : server.db.reservationSeats.rows.filter (·.reservationId = r.id) = seats)
    (any : seats ≠ []) (counted : ids.length = seats.length) (drawn : tokens.length = seats.length)
    (booked : saveBooked seats server.db.reservationSeats = some reservationSeats)
    (issued : server.db.tickets.insert?
      (newTickets cfg { r with state := .confirmed } seats ids tokens) = some tickets) :
    ∃ server' response, Proc.Alone cfg
        (server, .complete (.findPayment user path ⟨.success, none⟩)) (server', .done response) ∧
      server'.db = savePayment (setState { server.db with reservationSeats, tickets } r.id .confirmed)
        { payment with state := .success, reference := some reference } ∧
      server'.locks = (LockService.release server.locks r.eventId.text
        (seats.map ReservationSeat.seatId) r.id.text).1 ∧
      server'.drawn = server.drawn := by
  have first : Proc.TurnAlone cfg (server, .complete (.findPayment user path ⟨.success, none⟩))
      (server, .complete (.findReservation user ⟨.success, none⟩ payment)) := by
    refine ⟨{}, ?_⟩
    simp only [Proc.turn, turnOf, Complete.turn, names, found]
    rfl
  have second : Proc.TurnAlone cfg (server, .complete (.findReservation user ⟨.success, none⟩ payment))
      (server, .complete (.findSeats ⟨.success, none⟩ payment r)) := by
    refine ⟨{}, ?_⟩
    simp only [Proc.turn, turnOf, Complete.turn, owned, if_neg (not_not.mpr mine)]
    rfl
  have third : Proc.TurnAlone cfg (server, .complete (.findSeats ⟨.success, none⟩ payment r))
      (server, .complete (.commit ⟨.success, none⟩ payment r seats)) := by
    refine ⟨{}, ?_⟩
    simp only [Proc.turn, turnOf, Complete.turn, held, if_neg (not_not.mpr due)]
    rfl
  let paid : Payment := { payment with state := .success, reference := some reference }
  let confirmed : Reservation := { r with state := .confirmed }
  let new := newTickets cfg confirmed seats ids tokens
  let db := savePayment (setState { server.db with reservationSeats, tickets } r.id .confirmed) paid
  have fourth : Proc.TurnAlone cfg (server, .complete (.commit ⟨.success, none⟩ payment r seats))
      ({ server with db },
        .complete (.release ⟨paid, confirmed, new, seats.map ReservationSeat.seatId⟩)) := by
    refine ⟨{ now, ids, tokens := reference :: tokens }, ?_⟩
    have fits : ¬(ids.length ≠ seats.length ∨ tokens.length ≠ seats.length) :=
      not_or.mpr ⟨not_not.mpr counted, not_not.mpr drawn⟩
    have granted : determinePaymentTransition .success (decide (r.expiresAt ≤ now)) =
        ⟨.success, .success, .confirmed, none⟩ := by
      rw [decide_eq_false (Nat.not_le.mpr early)]
      rfl
    simp only [Proc.turn, turnOf, Complete.turn, granted, if_neg any, if_neg fits, confirm, booked,
      issued, if_true]
    rfl
  exact ⟨_, _, .head first (.head second (.head third (.head fourth (.single ⟨{}, rfl⟩)))),
    rfl, rfl, rfl⟩

end Confirms

/-! ## A house of ninety-one seats -/

def nthText (n : Nat) : Text :=
  Nat.digitChar (n % 10) :: Nat.digitChar (n / 10) :: List.replicate 6 '0' ++
    '-' :: List.replicate 4 '0' ++ '-' :: '4' :: List.replicate 3 '0' ++
    '-' :: 'a' :: List.replicate 3 '0' ++ '-' :: List.replicate 12 '0'

private theorem nth_valid : ∀ n : Fin 100,
    uuidLayout (nthText n) = true ∧ lower (nthText n) = nthText n := by
  decide +kernel

/-- A hundred ids, told apart by their first two digits. -/
def nth (n : Nat) : Uuid :=
  let n := Fin.ofNat 100 n
  ⟨nthText n, (nth_valid n).1, (nth_valid n).2⟩

/-- The number an id was made from. -/
def numberOf (id : Uuid) : Nat :=
  match id.text with
  | ones :: tens :: _ => ones.toNat - '0'.toNat + 10 * (tens.toNat - '0'.toNat)
  | _ => 0

private theorem numberOf_fin : ∀ n : Fin 100, numberOf (nth n) = n := by
  decide +kernel

theorem nth_inj {m n : Nat} (left : m < 91) (right : n < 91) : nth m = nth n ↔ m = n := by
  refine ⟨fun same => ?_, fun same => same ▸ rfl⟩
  have first : numberOf (nth m) = m := numberOf_fin ⟨m, by omega⟩
  have second : numberOf (nth n) = n := numberOf_fin ⟨n, by omega⟩
  rw [← first, same, second]

/-- The highest price the column holds. -/
def topPrice : Amount := ⟨99999999999999, by decide⟩

/-- Seven rows of thirteen seats, each at that price. -/
def hall : List Site.Action :=
  [.request (.createVenue organizer ⟨['v', 'v'], ['c', 'c'], []⟩), .turn 0 { ids := [flat 8] },
    .request (.createSector organizer (flatText '8') ⟨['s'], 7, 13, none⟩), .turn 1 {},
    .turn 1 { ids := [flat 0xd] }, .turn 1 { ids := (List.range 91).map nth },
    .request (.createEvent organizer sampleEvent), .turn 2 {}, .turn 2 { ids := [flat 0xe] },
    .request (.addPricing organizer (flatText 'e') ⟨none, ['p'], 99999999999999, none⟩), .turn 3 {},
    .turn 3 { ids := [flat 0xc] }] ++ publish 4

theorem hall_enabled : (exec (Site.step sampleConfig) .empty hall).isSome = true := by
  decide +kernel

def house : Catalog := (launched hall hall_enabled).db.catalog

def concert : Event := ⟨flat 0xe, ['o'], flatText '8', 1000000, true⟩

def chair (n : Nat) : Seat :=
  ⟨nth n, flat 0xd, [Char.ofNat (65 + n / 13)], n % 13 + 1, false⟩

/-- The one category, for every seat. -/
def fare : PricingCategory := ⟨flat 0xc, flatText 'e', none, ['p'], topPrice, ['I', 'R', 'R']⟩

theorem house_rows : house.events.rows = [concert] ∧
    house.sectors.rows = [⟨flat 0xd, flatText '8', ['s']⟩] ∧
    house.seats.rows = (List.range 91).map chair ∧
    house.prices.rows = [fare] := by
  decide +kernel

/-! ## Seat after seat -/

/-- What is stored of the purchase of a seat, reservation, row, payment and ticket under
the number of the seat: by state, since each is stored before it is confirmed. -/
def purchaseOf (n : Nat) (state : ReservationState) : Reservation :=
  ⟨nth n, customer.sub, flat 0xe, state, 600000, topPrice, ['I', 'R', 'R']⟩

def rowOf (n : Nat) (state : SeatState) : ReservationSeat :=
  ⟨nth n, nth n, flat 0xe, (nth n).text, state, topPrice⟩

def paymentOf (n : Nat) (state : PaymentState) (reference : Option Text) : Payment :=
  ⟨nth n, nth n, some (nth n).text, state, topPrice, ['I', 'R', 'R'], reference, none⟩

def ticketOf (n : Nat) : Ticket :=
  ⟨nth n, nth n, (nth n).text, (nth n).text,
    sampleConfig.sha256Hex (nth n).text, none⟩

/-- The first `n` seats of the house are sold, and nothing else has happened. -/
structure Server.SoldTo (server : Server) (n : Nat) : Prop where
  catalog : server.db.catalog = house
  reservations : server.db.reservations.rows = (List.range n).map (purchaseOf · .confirmed)
  rows : server.db.reservationSeats.rows = (List.range n).map (rowOf · .booked)
  payments : server.db.payments.rows = (List.range n).map fun k => paymentOf k .success (some ['r'])
  tickets : server.db.tickets.rows = (List.range n).map ticketOf
  undrawn : ∀ k, n ≤ k → k < 91 → nth k ∉ server.drawn
  unlocked : ∀ key, server.locks.get key = none

section First
variable {α : Type} {n : Nat} {f g : Nat → α} {x : α}

theorem mem_first (member : x ∈ (List.range n).map f) : ∃ k < n, f k = x := by
  obtain ⟨k, below, same⟩ := List.mem_map.mp member
  exact ⟨k, List.mem_range.mp below, same⟩

/-- An update that leaves the rows before the last one alone. -/
theorem map_last {update : α → α} (others : ∀ k < n, update (f k) = f k) (last : update x = f n) :
    ((List.range n).map f ++ [x]).map update = (List.range (n + 1)).map f := by
  rw [List.map_append, List.range_succ, List.map_append, List.map_singleton, List.map_singleton, last,
    List.map_map]
  congr 1
  exact List.map_congr_left fun k member => others k (List.mem_range.mp member)

theorem filter_last {p : α → Bool} (others : ∀ k < n, p (f k) = false) (last : p x = true) :
    ((List.range n).map f ++ [x]).filter p = [x] := by
  rw [List.filter_append, List.filter_eq_nil_iff.mpr, List.nil_append, List.filter_cons_of_pos last,
    List.filter_nil]
  intro y member
  obtain ⟨k, below, rfl⟩ := mem_first member
  exact Bool.eq_false_iff.mp (others k below)

theorem find?_last {p : α → Bool} (others : ∀ k < n, p (f k) = false) (last : p x = true) :
    ((List.range n).map f ++ [x]).find? p = some x := by
  rw [← List.head?_filter, filter_last others last, List.head?_cons]

/-- A new row after the first `n`. -/
theorem insert_last [UniqueKeys α] {table : Table α} (rows : table.rows = (List.range n).map f)
    (apart : ∀ k < n, clash (f k) x = false) :
    ∃ table', table.insert? [x] = some table' ∧ table'.rows = (List.range n).map f ++ [x] := by
  have fresh : ∀ y ∈ table.rows, ∀ z ∈ [x], clash y z = false := by
    intro y member z new
    obtain ⟨k, below, rfl⟩ := mem_first (rows ▸ member)
    exact List.mem_singleton.mp new ▸ apart k below
  obtain ⟨table', inserted⟩ := Table.exists_insert? (List.pairwise_singleton _ x) fresh
  exact ⟨table', inserted, rows ▸ Table.insert?_eq_some.mp inserted⟩

end First

/-- The same, with seat `n` reserved under a lock and these payments started. -/
structure Server.Holding (server : Server) (n : Nat) (opened : List Payment) : Prop where
  catalog : server.db.catalog = house
  reservations : server.db.reservations.rows =
    (List.range n).map (purchaseOf · .confirmed) ++ [purchaseOf n .pending]
  rows : server.db.reservationSeats.rows =
    (List.range n).map (rowOf · .booked) ++ [rowOf n .locked]
  payments : server.db.payments.rows =
    ((List.range n).map fun k => paymentOf k .success (some ['r'])) ++ opened
  tickets : server.db.tickets.rows = (List.range n).map ticketOf
  undrawn : ∀ k, n + 1 ≤ k → k < 91 → nth k ∉ server.drawn
  locked : ∃ store, (∀ key, store.get key = none) ∧
    LockService.acquire sampleConfig store (flat 0xe).text [(nth n).text] (nth n).text =
      .ok server.locks

section Sells
variable {n : Nat} (below : n < 91)

def seatRequest (n : Nat) : CreateReservationDto := ⟨(flat 0xe).text, [(nth n).text], none⟩

def seatDraw (n : Nat) : Draw := ⟨0, 0, 0, nth n, [nth n]⟩

theorem house_venue : venueSeats house concert.venueId = house.seats.rows := by
  obtain ⟨-, sectors, seats, -⟩ := house_rows
  rw [venueSeats, sectors, List.filter_eq_self]
  intro seat member
  obtain ⟨k, -, rfl⟩ := mem_first (seats ▸ member)
  rfl

include below

theorem apart_of_lt {k : Nat} (earlier : k < n) : nth k ≠ nth n :=
  mt (nth_inj (earlier.trans below) below).mp (Nat.ne_of_lt earlier)

theorem not_named_of_lt : ∀ k < n, decide (nth k = nth n) = false :=
  fun _ earlier => decide_eq_false (apart_of_lt below earlier)

theorem selection_house : house.selection concert.venueId (seatRequest n).seatIds = [chair n] := by
  have ids : (seatRequest n).seatIds = [nth n].map Uuid.text := rfl
  rw [ids, selection_of_ids, house_venue]
  have member : chair n ∈ house.seats.rows := by
    rw [house_rows.2.2.1]
    exact List.mem_map_of_mem (List.mem_range.mpr below)
  refine Table.filter_eq_singleton member (decide_eq_true List.mem_cons_self) fun a b left right => ?_
  simp only [List.map_singleton, List.mem_singleton, Uuid.text_inj, decide_eq_true_eq] at left right
  simp [clash, left, right]

/-- The next seat is reserved. -/
theorem create_holds (sold : server.SoldTo n) : ∃ server' response,
    Proc.Alone sampleConfig (server, .create (.assertAdmission customer (seatRequest n)))
      (server', .done response) ∧ server'.Holding n [] := by
  have published : WaitingRoom.findPublished server.db concert.id = some concert := by
    rw [WaitingRoom.findPublished, sold.catalog, house_rows.1]
    rfl
  have selected : server.db.catalog.selection concert.venueId (seatRequest n).seatIds = [chair n] := by
    rw [sold.catalog, selection_house below]
  have pricing : server.db.catalog.pricing concert.id = [fare] := by
    rw [Catalog.pricing, sold.catalog, house_rows.2.2.2]
    rfl
  have priced : seatPrices [fare] [chair n] = some [((nth n).text, topPrice)] := rfl
  let draft := drafted (seatDraw n) customer (seatRequest n) concert [fare] [((nth n).text, topPrice)]
  have total : Amount.ofNat? draft.totalAmount = some topPrice := by
    simp [draft, drafted, Draft.totalAmount, Draft.price, seatRequest, topPrice, Amount.ofNat?]
  have line : List.zipWith draft.seat [nth n] draft.seatIds = [rowOf n .locked] := by
    simp [draft, drafted, Draft.seat, Draft.price, seatRequest, rowOf, concert, seatDraw]
  obtain ⟨reservations, stored, reservationRows⟩ : ∃ reservations,
      server.db.reservations.insert? [purchaseOf n .pending] = some reservations ∧ _ :=
    insert_last sold.reservations (not_named_of_lt below)
  obtain ⟨reservationSeats, saved, seatRows⟩ : ∃ reservationSeats,
      server.db.reservationSeats.insert? [rowOf n .locked] = some reservationSeats ∧ _ :=
    insert_last sold.rows fun k earlier => by simp [clash, rowOf, apart_of_lt below earlier]
  have inserted : draft.insert sampleConfig { now := 0, ids := [nth n] } server.db =
      .ok ({ server.db with reservations, reservationSeats }, purchaseOf n .pending) := by
    have charged : draft.reservation sampleConfig 0 topPrice = purchaseOf n .pending := rfl
    simp only [Draft.insert, total, charged, line, stored, saved]
  obtain ⟨locks, acquired⟩ : ∃ locks, LockService.acquire sampleConfig server.locks
      (flat 0xe).text draft.seatIds (nth n).text = .ok locks :=
    acquire_of_unlocked (List.nodup_singleton _) fun _ _ => sold.unlocked _
  have free : server.db.Unoccupied concert.id draft.seatIds := by
    intro row member _ asked
    obtain ⟨k, earlier, rfl⟩ := mem_first (sold.rows ▸ member)
    exact apart_of_lt below earlier (Uuid.text_injective (List.mem_singleton.mp asked))
  obtain ⟨server', alone, db', locks', drawn'⟩ : ∃ server' : Server, _ ∧ server'.db = _ ∧ _ :=
    @alone_stores sampleConfig { server.db with reservations, reservationSeats }
      { server with drawn := nth n :: server.drawn } draft (seatDraw n) locks
      (purchaseOf n .pending) acquired free rfl inserted
  have whole : (Create.assertAdmission customer (seatRequest n)).alone sampleConfig (seatDraw n).choices
      server = some (server', .reservation (purchaseOf n .pending)) := by
    have read : uuid? (seatRequest n).eventId = some concert.id := uuid?_text _
    have counted : (server.db.catalog.selection concert.venueId (seatRequest n).seatIds).length =
        (seatRequest n).seatIds.length := by rw [selected]; rfl
    rw [alone_of_selected read published rfl (by decide : 0 < 1000000) counted, selected,
      alone_priced (sold.undrawn n (Nat.le_refl n) below) (by rw [pricing, priced]), pricing]
    exact alone
  have calm : ∀ c ∈ (seatDraw n).choices, ¬c.fault = true := by
    simp [Draw.choices]
  refine ⟨server', _, alone_of_create calm whole, ?_⟩
  exact {
    catalog := by rw [db', sold.catalog]
    reservations := by rw [db', reservationRows]
    rows := by rw [db', seatRows]
    payments := by rw [db', sold.payments, List.append_nil]
    tickets := by rw [db', sold.tickets]
    undrawn := fun k later within => by
      rw [drawn', List.mem_cons, nth_inj within below]
      exact not_or.mpr ⟨by omega, sold.undrawn k (by omega) within⟩
    locked := ⟨server.locks, sold.unlocked, locks' ▸ acquired⟩ }

/-- The payment for the seat is started. -/
theorem start_holds (holding : server.Holding n []) : ∃ server' response,
    Proc.Alone sampleConfig
      (server, .start (.findByKey customer ⟨(nth n).text, (nth n).text⟩))
      (server', .done response) ∧ server'.Holding n [paymentOf n .pending none] := by
  have payments := holding.payments
  rw [List.append_nil] at payments
  have unknown : server.db.keyed (nth n).text = none := by
    rw [Db.keyed, payments, List.find?_eq_none]
    intro payment member same
    obtain ⟨k, earlier, rfl⟩ := mem_first member
    simp only [paymentOf, Option.some.injEq, Uuid.text_inj, decide_eq_true_eq] at same
    exact apart_of_lt below earlier same
  have stored : findReservation server.db (nth n) = some (purchaseOf n .pending) := by
    rw [findReservation, holding.reservations]
    exact find?_last (not_named_of_lt below) (decide_eq_true rfl)
  have payable : Payable server.db customer ⟨(nth n).text, (nth n).text⟩
      (purchaseOf n .pending) 0 :=
    ⟨uuid?_text _, stored, rfl, rfl, (by decide : 0 < 600000)⟩
  obtain ⟨table, inserted, rows⟩ : ∃ table, server.db.payments.insert?
      [paymentOf n .pending none] = some table ∧ _ :=
    insert_last payments fun k earlier => by simp [clash, paymentOf, apart_of_lt below earlier]
  obtain ⟨server', alone, db', locks', drawn'⟩ :=
    alone_inserted (c := { ids := [nth n] }) rfl unknown payable inserted
  refine ⟨server', _, alone_of_start (by simp) alone, ?_⟩
  exact {
    catalog := by rw [db', holding.catalog]
    reservations := by rw [db', holding.reservations]
    rows := by rw [db', holding.rows]
    payments := by rw [db', rows]
    tickets := by rw [db', holding.tickets]
    undrawn := drawn' ▸ holding.undrawn
    locked := locks' ▸ holding.locked }

/-- And succeeds. -/
theorem complete_sells (holding : server.Holding n [paymentOf n .pending none]) :
    ∃ server' response, Proc.Alone sampleConfig
      (server, .complete (.findPayment customer (nth n).text ⟨.success, none⟩))
      (server', .done response) ∧ server'.SoldTo (n + 1) := by
  have found : server.db.payments.rows.find? (·.id = nth n) = some (paymentOf n .pending none) := by
    rw [holding.payments]
    exact find?_last (not_named_of_lt below) (decide_eq_true rfl)
  have owned : findReservation server.db (nth n) = some (purchaseOf n .pending) := by
    rw [findReservation, holding.reservations]
    exact find?_last (not_named_of_lt below) (decide_eq_true rfl)
  have held : server.db.reservationSeats.rows.filter (·.reservationId = nth n) =
      [rowOf n .locked] := by
    rw [holding.rows]
    exact filter_last (not_named_of_lt below) (decide_eq_true rfl)
  obtain ⟨tickets, issued, ticketRows⟩ : ∃ tickets,
      server.db.tickets.insert? [ticketOf n] = some tickets ∧ _ :=
    insert_last holding.tickets fun k earlier => by simp [clash, ticketOf, apart_of_lt below earlier]
  obtain ⟨reservationSeats, booked, seatRows⟩ : ∃ reservationSeats,
      saveBooked [rowOf n .locked] server.db.reservationSeats = some reservationSeats ∧
        reservationSeats.rows = (List.range (n + 1)).map (rowOf · .booked) := by
    have kept : ([rowOf n .locked].filter fun seat =>
        server.db.reservationSeats.rows.all (·.id ≠ seat.id)) = [] := by
      rw [holding.rows]
      simp
    cases booked : saveBooked [rowOf n .locked] server.db.reservationSeats with
    | none =>
      simp only [saveBooked, kept, List.map_nil] at booked
      rw [Table.insert?_eq_some.mpr (List.append_nil _).symm] at booked
      cases booked
    | some table =>
      refine ⟨table, rfl, ?_⟩
      simp only [saveBooked, kept, List.map_nil, Table.insert?_eq_some, List.append_nil] at booked
      rw [booked, Table.rows_update, holding.rows]
      refine map_last (fun k earlier => if_neg ?_) (if_pos ?_)
      · simp [rowOf, (apart_of_lt below earlier).symm]
      · simp [rowOf]
  have confirms := @alone_confirms sampleConfig server customer (nth n).text
    (paymentOf n .pending none) (purchaseOf n .pending) [rowOf n .locked] [nth n] ['r']
    [(nth n).text] 0 reservationSeats tickets
  obtain ⟨server', response, alone, db', locks', drawn'⟩ := confirms (uuid?_text _) found rfl owned rfl
    (by decide : 0 < 600000) held (List.cons_ne_nil _ _) rfl rfl booked issued
  obtain ⟨store, unlocked, acquired⟩ := holding.locked
  have restored := LockService.restores acquired (by decide : 0 < 600)
  refine ⟨server', response, alone, ?_⟩
  exact {
    catalog := by
      rw [db']
      exact holding.catalog
    reservations := by
      rw [db']
      refine (congrArg (List.map _) holding.reservations).trans ?_
      exact map_last (fun k earlier => if_neg (apart_of_lt below earlier)) (if_pos rfl)
    rows := by
      rw [db']
      exact seatRows
    payments := by
      rw [db']
      refine (congrArg (List.map _) holding.payments).trans ?_
      exact map_last (fun k earlier => if_neg (apart_of_lt below earlier)) (if_pos rfl)
    tickets := by
      rw [db', List.range_succ, List.map_append]
      exact ticketRows
    undrawn := drawn' ▸ holding.undrawn
    unlocked := fun key => by
      rw [locks', ← KeyStore.live_eq_none]
      exact (restored.live key).trans (KeyStore.live_eq_none.mpr (unlocked key)) }

end Sells

/-- No booking request, and nothing of one. -/
def Site.Action.OfCatalog : Site.Action → Prop
  | .booking _ => False
  | _ => True

instance : DecidablePred Site.Action.OfCatalog
  | .booking _ => .isFalse id
  | .request _ | .turn _ _ | .crash _ => .isTrue trivial

/-- Setting a catalog up books nothing. -/
theorem initial_of_catalog (run : Run (Site.step cfg) .empty ts s)
    (only : Within Site.Action.OfCatalog ts) : s.world = initial s.db.catalog := by
  refine run.invariant (P := fun s => s.world = initial s.db.catalog) only rfl ?_
  intro s a s' fresh catalog taken
  cases Site.step_cases taken
  case booking => exact catalog.elim
  case request => exact fresh
  case crash => exact fresh
  case turn listing _ _ =>
    change ({ s.world with shared := { s.world.shared with
      db := { s.world.db with catalog := listing.catalog } } } : World) = initial listing.catalog
    rw [fresh]
    rfl

private theorem accepted_fin : ∀ n : Fin 91, (Request.create customer (seatRequest n)).accepted = true ∧
    (Request.start customer ⟨(nth n).text, (nth n).text⟩).accepted = true := by
  decide +kernel

theorem asReturned_text (id : Uuid) : asReturned id.text = true := asReturned_iff.mpr ⟨id, rfl⟩

theorem quiet_append (response : Response) (quiet : ∀ p ∈ front, p.held = []) :
    ∀ p ∈ front ++ [.done response], p.held = [] := by
  intro p member
  rcases List.mem_append.mp member with old | new
  · exact quiet p old
  · rw [List.mem_singleton.mp new]
    rfl

/-- The house fills up, one seat after the other. -/
theorem exists_soldTo (n : Nat) (most : n ≤ 91) : ∃ server front,
    Site.Reaches sampleConfig { s with world := initial house } { s with world := ⟨server, front⟩ } ∧
      (∀ p ∈ front, p.held = []) ∧ server.SoldTo n := by
  induction n with
  | zero =>
    have same (catalog : Catalog) : (initial catalog).shared.db.catalog = catalog := rfl
    have idle : (initial house).shared.SoldTo 0 :=
      ⟨same house, rfl, rfl, rfl, rfl, fun _ _ _ => List.not_mem_nil, fun _ => rfl⟩
    have stays : Site.Reaches sampleConfig { s with world := initial house }
        { s with world := initial house } := ⟨[], .nil, fun _ none => absurd none List.not_mem_nil⟩
    exact ⟨_, [], stays, fun _ none => absurd none List.not_mem_nil, idle⟩
  | succ n ih =>
    obtain ⟨server, front, reached, quiet, sold⟩ := ih (by omega)
    have below : n < 91 := by omega
    obtain ⟨reserving, paying⟩ := accepted_fin ⟨n, below⟩
    obtain ⟨server₁, response₁, alone₁, held⟩ := create_holds below sold
    have quiet₁ := quiet_append response₁ quiet
    obtain ⟨server₂, response₂, alone₂, opened⟩ := start_holds below held
    have quiet₂ := quiet_append response₂ quiet₁
    obtain ⟨server₃, response₃, alone₃, sold'⟩ := complete_sells below opened
    have first := reached.trans (reaches_of_request (r := .create customer (seatRequest n)) quiet reserving
      (by simp [Request.asReturned, seatRequest, asReturned_text]) alone₁)
    have second := first.trans (reaches_of_request
      (r := .start customer ⟨(nth n).text, (nth n).text⟩) quiet₁ paying (asReturned_text _)
      alone₂)
    have third := second.trans (reaches_of_request
      (r := .complete customer (nth n).text ⟨.success, none⟩) quiet₂ rfl (asReturned_text _) alone₃)
    exact ⟨server₃, _, third, quiet_append response₃ quiet₂, sold'⟩

theorem exists_fullHouse : ∃ s, Site.Reaches sampleConfig .empty s ∧ s.world.shared.SoldTo 91 := by
  have opened : (launched hall hall_enabled).world = initial house :=
    initial_of_catalog (run_replay hall_enabled) (within_replay hall_enabled (by decide +kernel))
  have built : Site.Reaches sampleConfig .empty (launched hall hall_enabled) :=
    ⟨_, run_replay hall_enabled, within_replay hall_enabled (by decide +kernel)⟩
  generalize launched hall hall_enabled = s at opened built
  obtain ⟨server, front, filled, -, sold⟩ := exists_soldTo 91 (Nat.le_refl _)
  rw [← opened] at filled
  exact ⟨_, built.trans filled, sold⟩

/-- The organizer of the full house is shown one less than its seats have cost. -/
theorem revenue_rounded : ¬ ∀ (ts : List (Transition Site Site.Action)) (s : Site),
    Run (Site.step sampleConfig) .empty ts s → Within Site.Action.AsReturned ts →
    ∀ event ∈ s.db.catalog.events.rows, s.Conserved event := by
  intro conserved
  obtain ⟨s, ⟨ts, run, inside⟩, sold⟩ := exists_fullHouse
  have listed : concert ∈ s.db.catalog.events.rows := by
    rw [sold.catalog, house_rows.1]
    exact List.mem_cons_self
  have paid : successfulPayments s.db concert.id.text = s.db.payments.rows := by
    refine List.filter_eq_self.mpr fun payment member => decide_eq_true ?_
    obtain ⟨k, within, rfl⟩ := mem_first (sold.payments ▸ member)
    refine ⟨List.mem_map.mpr ⟨purchaseOf k .confirmed, List.mem_filter.mpr ⟨?_, ?_⟩, rfl⟩, rfl⟩
    · rw [sold.reservations]
      exact List.mem_map_of_mem (List.mem_range.mpr within)
    · exact decide_eq_true ⟨rfl, rfl⟩
  have booked : s.db.rowsOf concert.id .booked = s.db.reservationSeats.rows := by
    refine List.filter_eq_self.mpr fun row member => decide_eq_true ?_
    obtain ⟨k, -, rfl⟩ := mem_first (sold.rows ▸ member)
    exact ⟨rfl, rfl⟩
  obtain ⟨figures, reported⟩ : ∃ figures, analytics s.db organizer concert.id.text = .ok figures := by
    have owned : Events.ownedEvent s.db.catalog.events concert.id.text organizer = .ok concert :=
      ownedEvent_eq_ok.mpr ⟨listed, uuid?_text concert.id, .inr rfl⟩
    simp only [analytics, owned]
    exact ⟨_, rfl⟩
  have shown := (analytics_eq_ok listed reported).1
  have costs := ((conserved ts s run inside concert listed).revenue organizer figures reported).1
  have takings : Doubles.sum (((List.range 91).map fun k => paymentOf k .success (some ['r'])).map
      (·.amount.value)) = 9099999999999908 := by decide +kernel
  have prices : (((List.range 91).map (rowOf · .booked)).map (·.price.value)).sum =
      9099999999999909 := by decide +kernel
  rw [paid, sold.payments, takings] at shown
  rw [booked, sold.rows, prices, shown] at costs
  exact absurd costs (by decide)

end KiTicket
