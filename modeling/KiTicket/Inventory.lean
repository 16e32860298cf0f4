import KiTicket.Figures
import KiTicket.SeatLocks

/-! What the event page offers and what `create` sells. Each works out seats, prices and
occupancy for itself: the page shows a seat without a category as available and free of
charge, a create refuses it; the page compares the event's id as it was typed, a create
as it was stored. Everything else the two see alike. -/
namespace KiTicket
open Runs Reservations KiTicket.Lists
open Events (EventDetail InventorySeat detail inventorySeat seatState venueSeats)

variable {cfg : Config} {db : Db} {s : Site} {listing : Listing} {path : Text} {now : Nat}
  {page : EventDetail} {seats : List InventorySeat} {server : Server} {draft : Draft}
  {ts : List (Transition Site Site.Action)}

/-- A create run to its end with nobody in between, with what each of its turns reads
off its clock and draws. -/
def Reservations.Create.alone (cfg : Config) :
    List Choice → Server → Create → Option (Server × Response)
  | [], _, _ => none
  | c :: choices, server, state =>
    match state.turn cfg c server with
    | none => none
    | some (server', .done response) => some (server', response)
    | some (server', .go next) => alone cfg choices server' next

/-- The clock readings of a create, the reservation's id and those of its rows. -/
structure Draw where
  admittedAt : Nat
  foundAt : Nat
  savedAt : Nat
  id : Uuid
  rows : List Uuid

def Draw.choices (draw : Draw) : List Choice :=
  [{ now := draw.admittedAt }, { now := draw.foundAt }, {}, {}, { ids := [draw.id] }, {}, {},
    { now := draw.savedAt, ids := draw.rows }, {}]

/-- No row has one of the ids, and there is one for each seat. -/
structure Draw.Fresh (draw : Draw) (db : Db) (seats : Nat) : Prop where
  unused : ∀ r ∈ db.reservations.rows, r.id ≠ draw.id
  counted : draw.rows.length = seats
  distinct : draw.rows.Nodup
  new : ∀ row ∈ db.reservationSeats.rows, row.id ∉ draw.rows

/-- No row of the event is for one of the seats. -/
def Db.Unoccupied (db : Db) (eventId : Uuid) (seatIds : List Text) : Prop :=
  ∀ row ∈ db.reservationSeats.rows, row.eventId = eventId → row.seatId ∉ seatIds

/-- An admitted customer asks for seats the page shows as available; their locks are
free and the event has not started. -/
structure Offered (cfg : Config) (s : Site) (path : Text) (page : EventDetail)
    (seats : List InventorySeat) (user : AuthenticatedUser) (body : CreateReservationDto)
    (draw : Draw) : Prop where
  shown : ∃ now, detail s.venues s.db now path = .ok page
  listed : seats ⊆ page.inventory
  available : ∀ seat ∈ seats, seat.state = .available
  event : uuid? body.eventId = some page.event.id
  chosen : body.seatIds = seats.map (·.id.text)
  accepted : body.accepted = true
  admitted : WaitingRoom.assertAdmission cfg s.db.entries.rows draw.admittedAt body.eventId user.sub
    body.admissionToken = .ok ()
  early : draw.foundAt < page.event.startsAt
  unlocked : ∀ seat ∈ seats,
    s.world.shared.locks.get (LockService.key page.event.id.text seat.id.text) = none
  undrawn : draw.id ∉ s.world.shared.drawn
  fresh : draw.Fresh s.db seats.length

/-- The create goes through, at the sum of the prices shown. -/
def Sold (cfg : Config) (s : Site) (seats : List InventorySeat) (user : AuthenticatedUser)
    (body : CreateReservationDto) (draw : Draw) : Prop :=
  ∃ server r, (Create.assertAdmission user body).alone cfg draw.choices s.world.shared =
      some (server, .reservation r) ∧
    r ∈ server.db.reservations.rows ∧ r.totalAmount.value = (seats.map (·.price.value)).sum

/-- Every seat has a category under the event's id, their prices fit the column, and the
page was asked for by that id; or, asked for in another spelling, the seats are free all
the same and the categories under that spelling add up to as much. -/
def Sellable (s : Site) (path : Text) (page : EventDetail) (seats : List InventorySeat) : Prop :=
  ∃ prices, List.Forall₂ (fun seat price => s.db.catalog.Covers page.event.id seat.id.text price)
      seats prices ∧
    (prices.map (·.price.value)).sum < 10 ^ 14 ∧
    (path = page.event.id.text ∨
      s.db.Unoccupied page.event.id (seats.map (·.id.text)) ∧
        (seats.map (·.price.value)).sum = (prices.map (·.price.value)).sum)

/-! ## The seats a create selects -/

/-- The seats a create selects, among those of the event's venue. -/
def Catalog.selection (catalog : Catalog) (venueId : Text) (seatIds : List Text) : List Seat :=
  (venueSeats catalog venueId).filter fun seat => seatIds.any fun seatId => uuid? seatId = some seat.id

theorem selection_read {catalog : Catalog} {venueId : Text} {seatIds : List Text} :
    (catalog.seats.rows.filter fun seat =>
      seat.sectorId ∈ (catalog.sectors.rows.filter (·.venueId = venueId)).map Sector.id ∧
        some seat.id ∈ seatIds.map uuid?) = catalog.selection venueId seatIds := by
  simp only [Catalog.selection, venueSeats, List.filter_filter]
  apply List.filter_congr
  intro seat _
  rw [Bool.eq_iff_iff]
  simp only [decide_eq_true_eq, Bool.and_eq_true, List.any_eq_true, List.mem_map]
  exact and_comm

theorem selection_of_ids {catalog : Catalog} {venueId : Text} {ids : List Uuid} :
    catalog.selection venueId (ids.map Uuid.text) =
      (venueSeats catalog venueId).filter fun seat => seat.id.text ∈ ids.map Uuid.text := by
  apply List.filter_congr
  intro seat _
  rw [Bool.eq_iff_iff, List.any_eq_true, decide_eq_true_eq]
  constructor
  · rintro ⟨_, asked, named⟩
    obtain ⟨id, -, rfl⟩ := List.mem_map.mp asked
    rw [decide_eq_true_eq, uuid?_text, Option.some.injEq] at named
    exact named ▸ asked
  · intro asked
    exact ⟨_, asked, decide_eq_true (uuid?_text _)⟩

/-! ## A create alone, from its first turn to the draft -/

section Alone
variable {user : AuthenticatedUser} {body : CreateReservationDto} {draw : Draw}

/-- What a create goes on with once it has priced its seats. -/
def drafted (draw : Draw) (user : AuthenticatedUser) (body : CreateReservationDto) (event : Event)
    (pricing : List PricingCategory) (prices : List (Text × Amount)) : Draft :=
  ⟨draw.id, user.sub, event, body.seatIds, prices,
    (pricing.head?.map PricingCategory.currency).getD ['I', 'R', 'R']⟩

theorem alone_of_selected {event : Event} (read : uuid? body.eventId = some event.id)
    (published : WaitingRoom.findPublished server.db event.id = some event)
    (admitted : WaitingRoom.assertAdmission cfg server.db.entries.rows draw.admittedAt body.eventId
      user.sub body.admissionToken = .ok ())
    (early : draw.foundAt < event.startsAt)
    (counted : (server.db.catalog.selection event.venueId body.seatIds).length = body.seatIds.length) :
    (Create.assertAdmission user body).alone cfg draw.choices server =
      (Create.findPricing user body event
        (server.db.catalog.selection event.venueId body.seatIds)).alone cfg
          (draw.choices.drop 4) server := by
  have first : (Create.assertAdmission user body).turn cfg { now := draw.admittedAt } server =
      some (server, .go (.findEvent user body)) := by
    simp only [Create.turn, admitted]
    rfl
  have second : (Create.findEvent user body).turn cfg { now := draw.foundAt } server =
      some (server, .go (.findSectors user body event)) := by
    simp only [Create.turn, read, published]
    rw [if_neg (Nat.not_le.mpr early)]
    rfl
  have fourth (ids : List Uuid)
      (sectors : ids = (server.db.catalog.sectors.rows.filter (·.venueId = event.venueId)).map
        Sector.id) :
      (Create.findSeats user body event ids).turn cfg {} server =
        some (server, .go (.findPricing user body event
          (server.db.catalog.selection event.venueId body.seatIds))) := by
    subst sectors
    simp only [Create.turn, selection_read]
    exact if_neg (not_not.mpr counted)
  have third : (Create.findSectors user body event).turn cfg {} server =
      some (server, .go (.findSeats user body event
        ((server.db.catalog.sectors.rows.filter (·.venueId = event.venueId)).map Sector.id))) := rfl
  simp only [Draw.choices, Create.alone, first, second, third, fourth _ rfl, List.drop]

theorem alone_unpriced {event : Event} {selectedSeats : List Seat}
    (unpriced : seatPrices (server.db.catalog.pricing event.id) selectedSeats = none) :
    (Create.findPricing user body event selectedSeats).alone cfg (draw.choices.drop 4) server =
      some (server, .error (.conflict "Selected seat has no pricing category")) := by
  have turn : (Create.findPricing user body event selectedSeats).turn cfg { ids := [draw.id] }
      server = some (server, .done (.error (.conflict "Selected seat has no pricing category"))) := by
    unfold Catalog.pricing at unpriced
    simp only [Create.turn, unpriced]
    rfl
  simp only [Draw.choices, List.drop, Create.alone, turn]

theorem alone_priced {event : Event} {selectedSeats : List Seat} {prices : List (Text × Amount)}
    (undrawn : draw.id ∉ server.drawn)
    (priced : seatPrices (server.db.catalog.pricing event.id) selectedSeats = some prices) :
    (Create.findPricing user body event selectedSeats).alone cfg (draw.choices.drop 4) server =
      (Create.acquire (drafted draw user body event (server.db.catalog.pricing event.id)
        prices)).alone cfg (draw.choices.drop 5)
          { server with drawn := draw.id :: server.drawn } := by
  have turn : (Create.findPricing user body event selectedSeats).turn cfg { ids := [draw.id] }
      server = some ({ server with drawn := draw.id :: server.drawn },
        .go (.acquire (drafted draw user body event (server.db.catalog.pricing event.id) prices))) := by
    unfold Catalog.pricing at priced ⊢
    simp only [Create.turn, priced]
    exact if_neg undrawn
  simp only [Draw.choices, List.drop, Create.alone, turn]

/-! ## From the draft to the end -/

theorem acquire_of_unlocked {eventId : Uuid} {owner : Text} {seatIds : List Text}
    (distinct : seatIds.Nodup)
    (unlocked : ∀ seatId ∈ seatIds, server.locks.get (LockService.key eventId.text seatId) = none) :
    ∃ locks, LockService.acquire cfg server.locks eventId.text seatIds owner = .ok locks := by
  rcases @LockService.acquire_cases cfg server.locks eventId seatIds owner with
    ⟨wins, -, -⟩ | ⟨-, locked, -⟩
  · rw [LockService.wins] at wins
    cases acquired : LockService.acquire cfg server.locks eventId.text seatIds owner with
    | ok locks => exact ⟨locks, rfl⟩
    | error failure =>
      rw [acquired] at wins
      cases wins
  · obtain ⟨seatId, chosen, live⟩ := locked distinct
    rw [unlocked seatId chosen] at live
    cases live

theorem insert_of_unoccupied {total : Amount} (fresh : draw.Fresh server.db draft.seatIds.length)
    (id : draft.id = draw.id) (distinct : draft.seatIds.Nodup)
    (unoccupied : server.db.Unoccupied draft.event.id draft.seatIds)
    (fits : Amount.ofNat? draft.totalAmount = some total) :
    ∃ db, draft.insert cfg { now := draw.savedAt, ids := draw.rows } server.db =
        .ok (db, draft.reservation cfg draw.savedAt total) ∧
      draft.reservation cfg draw.savedAt total ∈ db.reservations.rows := by
  obtain ⟨reservations, stored⟩ : ∃ reservations, server.db.reservations.insert?
      [draft.reservation cfg draw.savedAt total] = some reservations := by
    refine Table.exists_insert? (List.pairwise_singleton _ _) fun r member new mine => ?_
    rw [List.mem_singleton.mp mine]
    simp [clash, Draft.reservation, id, fresh.unused r member]
  obtain ⟨rows, saved⟩ : ∃ rows, server.db.reservationSeats.insert?
      (List.zipWith draft.seat draw.rows draft.seatIds) = some rows := by
    have ids : (List.zipWith draft.seat draw.rows draft.seatIds).map ReservationSeat.id = draw.rows := by
      rw [map_zipWith_left (h := fun row => row) (fun _ _ => rfl) fresh.counted.le, List.map_id']
    have seatIds : (List.zipWith draft.seat draw.rows draft.seatIds).map ReservationSeat.seatId =
        draft.seatIds :=
      seatIds_of_rows fresh.counted
    refine Table.exists_insert? ?_ ?_
    · have left := fresh.distinct
      have right := distinct
      rw [← ids, List.Nodup, List.pairwise_map] at left
      rw [← seatIds, List.Nodup, List.pairwise_map] at right
      exact (left.and right).imp fun apart => by simp [clash, apart.1, apart.2]
    · intro row member new mine
      have named : new.id ∈ draw.rows := ids ▸ List.mem_map_of_mem mine
      have seat : new.seatId ∈ draft.seatIds := seatIds ▸ List.mem_map_of_mem mine
      obtain ⟨_, -, _, -, rfl⟩ := exists_of_mem_zipWith mine
      have other : row.id ≠ _ := fun same => fresh.new row member (same ▸ named)
      have apart : ¬(row.eventId = draft.event.id ∧ row.seatId = _) := fun same =>
        unoccupied row member same.1 (same.2 ▸ seat)
      exact decide_eq_false (not_or.mpr ⟨other, apart⟩)
  refine ⟨{ server.db with reservations, reservationSeats := rows }, ?_, ?_⟩
  · simp only [Draft.insert, fits, stored, saved]
  · rw [Table.insert?_eq_some.mp stored]
    exact List.mem_append_right _ List.mem_cons_self

/-- No row of the event is for one of the seats, as the transaction looks for them. -/
theorem unoccupied_iff {eventId : Uuid} {seatIds : List Text} : db.Unoccupied eventId seatIds ↔
    ¬(db.reservationSeats.rows.any fun row => row.eventId = eventId ∧ row.seatId ∈ seatIds) = true := by
  rw [List.any_eq_true]
  constructor
  · rintro unoccupied ⟨row, member, taken⟩
    obtain ⟨event, seat⟩ := of_decide_eq_true taken
    exact unoccupied row member event seat
  · intro none row member event seat
    exact none ⟨row, member, decide_eq_true ⟨event, seat⟩⟩

/-- A drafted create whose locks and inserts go through. -/
theorem alone_stores {locks : KeyStore Text Text} {r : Reservation}
    (acquired : LockService.acquire cfg server.locks draft.event.id.text draft.seatIds draft.id.text =
      .ok locks)
    (unoccupied : server.db.Unoccupied draft.event.id draft.seatIds)
    (counted : draw.rows.length = draft.seatIds.length)
    (inserted : draft.insert cfg { now := draw.savedAt, ids := draw.rows } server.db = .ok (db, r)) :
    ∃ server', (Create.acquire draft).alone cfg (draw.choices.drop 5) server =
        some (server', .reservation r) ∧
      server'.db = db ∧ server'.locks = locks ∧ server'.drawn = server.drawn := by
  have first : (Create.acquire draft).turn cfg {} server =
      some ({ server with locks }, .go (.findOccupied draft)) := by
    simp only [Create.turn, acquired]
  have second : (Create.findOccupied draft).turn cfg {} { server with locks } =
      some ({ server with locks }, .go (.save draft)) :=
    if_neg (unoccupied_iff.mp unoccupied)
  have third : (Create.save draft).turn cfg { now := draw.savedAt, ids := draw.rows }
      { server with locks } = some ({ server with db, locks },
        .go (.announce r draft.seatIds)) := by
    simp only [Create.turn, inserted]
    exact if_neg (not_not.mpr counted)
  obtain ⟨server', fourth, same⟩ : ∃ server', (Create.announce r draft.seatIds).turn cfg {}
        { server with db, locks } = some (server', .done (.reservation r)) ∧
      server'.db = db ∧ server'.locks = locks ∧ server'.drawn = server.drawn :=
    ⟨_, rfl, rfl, rfl, rfl⟩
  refine ⟨server', ?_, same⟩
  simp only [Draw.choices, List.drop, Create.alone, first, second, third, fourth]

/-- A drafted create is refused, or stores what it was drafted for. -/
inductive Ending (cfg : Config) (draw : Draw) (server : Server) (draft : Draft) : Prop where
  | occupied {server' : Server} {failure : Failure}
      (occupied : ¬ server.db.Unoccupied draft.event.id draft.seatIds)
      (alone : (Create.acquire draft).alone cfg (draw.choices.drop 5) server =
        some (server', .error failure))
  | overflows {server' : Server} {failure : Failure} (large : 10 ^ 14 ≤ draft.totalAmount)
      (alone : (Create.acquire draft).alone cfg (draw.choices.drop 5) server =
        some (server', .error failure))
  | stores {server' : Server} {total : Amount}
      (unoccupied : server.db.Unoccupied draft.event.id draft.seatIds)
      (charged : total.value = draft.totalAmount)
      (alone : (Create.acquire draft).alone cfg (draw.choices.drop 5) server =
        some (server', .reservation (draft.reservation cfg draw.savedAt total)))
      (stored : draft.reservation cfg draw.savedAt total ∈ server'.db.reservations.rows)

section Drafted
variable (fresh : draw.Fresh server.db draft.seatIds.length) (id : draft.id = draw.id)
  (distinct : draft.seatIds.Nodup)
  (unlocked : ∀ seatId ∈ draft.seatIds,
    server.locks.get (LockService.key draft.event.id.text seatId) = none)
include fresh id distinct unlocked

theorem ending_of_draft : Ending cfg draw server draft := by
  obtain ⟨locks, acquired⟩ : ∃ locks, LockService.acquire cfg server.locks draft.event.id.text
      draft.seatIds draft.id.text = .ok locks :=
    acquire_of_unlocked distinct unlocked
  have first : (Create.acquire draft).turn cfg {} server =
      some ({ server with locks }, .go (.findOccupied draft)) := by
    simp only [Create.turn, acquired]
  by_cases unoccupied : server.db.Unoccupied draft.event.id draft.seatIds
  case neg =>
    have second : (Create.findOccupied draft).turn cfg {} { server with locks } =
        some ({ server with locks }, .go (.release draft unavailable)) :=
      if_pos (not_not.mp (mt unoccupied_iff.mpr unoccupied))
    have ended : (Create.acquire draft).alone cfg (draw.choices.drop 5) server =
        some (releaseLocks { server with locks } draft.event.id draft.seatIds draft.id,
          .error unavailable) := by
      simp only [Draw.choices, List.drop, Create.alone, first, second]
      rfl
    exact .occupied unoccupied ended
  case pos =>
    have second : (Create.findOccupied draft).turn cfg {} { server with locks } =
        some ({ server with locks }, .go (.save draft)) :=
      if_neg (unoccupied_iff.mp unoccupied)
    have counted : ¬draw.rows.length ≠ draft.seatIds.length := not_not.mpr fresh.counted
    by_cases fits : draft.totalAmount < 10 ^ 14
    case neg =>
      have third : (Create.save draft).turn cfg { now := draw.savedAt, ids := draw.rows }
          { server with locks } = some ({ server with locks },
            .go (.release draft .numericOverflow)) := by
        simp only [Create.turn, Draft.insert, Amount.ofNat?, dif_neg fits]
        exact if_neg counted
      have ended : (Create.acquire draft).alone cfg (draw.choices.drop 5) server =
          some (releaseLocks { server with locks } draft.event.id draft.seatIds draft.id,
            .error .numericOverflow) := by
        simp only [Draw.choices, List.drop, Create.alone, first, second, third]
        rfl
      exact .overflows (Nat.not_lt.mp fits) ended
    case pos =>
      obtain ⟨total, charged⟩ : ∃ total, Amount.ofNat? draft.totalAmount = some total :=
        ⟨_, dif_pos fits⟩
      obtain ⟨db, inserted, stored⟩ :=
        @insert_of_unoccupied cfg server draft draw total fresh id distinct unoccupied charged
      obtain ⟨server', ended, same, -⟩ : ∃ server' : Server, _ ∧ server'.db = db ∧ _ :=
        alone_stores acquired unoccupied fresh.counted inserted
      exact .stores unoccupied (Amount.value_of_ofNat? charged) ended (same ▸ stored)

/-- A drafted create goes through at a sum exactly when the seats have no rows and the
sum is what the draft comes to and fits its column. -/
theorem alone_of_draft {total : Nat} :
    (∃ server' r, (Create.acquire draft).alone cfg (draw.choices.drop 5) server =
        some (server', .reservation r) ∧
      r ∈ server'.db.reservations.rows ∧ r.totalAmount.value = total) ↔
    server.db.Unoccupied draft.event.id draft.seatIds ∧ draft.totalAmount = total ∧
      total < 10 ^ 14 := by
  have ending : Ending cfg draw server draft := ending_of_draft fresh id distinct unlocked
  cases ending
  case occupied occupied alone =>
    refine iff_of_false ?_ fun ⟨unoccupied, _⟩ => occupied unoccupied
    rintro ⟨server', r, alone', -⟩
    rw [alone] at alone'
    cases alone'
  case overflows large alone =>
    refine iff_of_false ?_ fun ⟨_, same, fits⟩ => by omega
    rintro ⟨server', r, alone', -⟩
    rw [alone] at alone'
    cases alone'
  case stores server' amount unoccupied charged alone stored =>
    constructor
    · rintro ⟨_, _, alone', -, same⟩
      rw [alone] at alone'
      cases alone'
      have paid : amount.value = total := same
      exact ⟨unoccupied, charged.symm.trans paid, paid ▸ amount.fits⟩
    · rintro ⟨-, same, -⟩
      exact ⟨server', _, alone, stored, charged.trans same⟩

end Drafted
end Alone

/-! ## The two side by side -/

theorem exists_seatPrices {pricing : List PricingCategory} {selectedSeats : List Seat}
    (covered : ∀ seat ∈ selectedSeats, ∃ price, category pricing seat = some price) :
    ∃ prices, seatPrices pricing selectedSeats = some prices := by
  induction selectedSeats with
  | nil => exact ⟨[], rfl⟩
  | cons seat selectedSeats ih =>
    obtain ⟨price, found⟩ := covered seat List.mem_cons_self
    obtain ⟨prices, rest⟩ := ih fun other member => covered other (List.mem_cons_of_mem _ member)
    refine ⟨(seat.id.text, price.price) :: prices, ?_⟩
    unfold seatPrices at rest ⊢
    rw [List.mapM_cons, found, rest]
    rfl

section Offered
variable {user : AuthenticatedUser} {body : CreateReservationDto} {draw : Draw}
  (offered : Offered cfg s path page seats user body draw)
include offered

theorem Offered.distinct : body.seatIds.Nodup := by
  have accepted := offered.accepted
  simp only [CreateReservationDto.accepted, Bool.and_eq_true, decide_eq_true_eq] at accepted
  exact accepted.1.1.2

/-- An offered seat is one of the venue's, as the page shows it. -/
theorem Offered.of_venue {shown : InventorySeat} (member : shown ∈ seats) :
    ∃ seat ∈ venueSeats s.db.catalog page.event.venueId,
      inventorySeat (s.db.reservationSeats.rows.filter (·.eventId.text = path))
        (s.db.catalog.prices.rows.filter (·.eventId = path)) seat = shown := by
  obtain ⟨now, page_shown⟩ := offered.shown
  have listed := offered.listed member
  rw [(detail_page page_shown).2.1] at listed
  exact List.mem_map.mp listed

theorem Offered.selection_eq : s.db.catalog.selection page.event.venueId body.seatIds =
    (venueSeats s.db.catalog page.event.venueId).filter fun seat => seat.id.text ∈ body.seatIds := by
  have ids : body.seatIds = (seats.map InventorySeat.id).map Uuid.text := by
    rw [offered.chosen, List.map_map]
    rfl
  rw [ids, selection_of_ids]

theorem Offered.selected : Selected s.db.catalog body.seatIds
    (s.db.catalog.selection page.event.venueId body.seatIds) where
  known := List.filter_sublist.trans List.filter_sublist
  named seat member := by
    obtain ⟨seatId, asked, named⟩ := List.any_eq_true.mp (List.mem_filter.mp member).2
    exact List.mem_map.mpr ⟨seatId, asked, of_decide_eq_true named⟩
  counted := by
    rw [offered.selection_eq]
    refine length_filter_key venueSeats_nodup offered.distinct ?_
    intro seatId asked
    rw [offered.chosen] at asked
    obtain ⟨shown, member, rfl⟩ := List.mem_map.mp asked
    obtain ⟨seat, placed, rfl⟩ := offered.of_venue member
    exact List.mem_map_of_mem placed

/-- The create runs alone up to where it has selected the seats. -/
theorem Offered.alone : (Create.assertAdmission user body).alone cfg draw.choices s.world.shared =
    (Create.findPricing user body page.event
      (s.db.catalog.selection page.event.venueId body.seatIds)).alone cfg (draw.choices.drop 4)
        s.world.shared := by
  obtain ⟨now, shown⟩ := offered.shown
  exact alone_of_selected offered.event (detail_page shown).1 offered.admitted offered.early
    offered.selected.counted

/-- Seats that each have a category can be priced. -/
theorem Offered.priced {charged : List PricingCategory}
    (covers : List.Forall₂
      (fun seat price => s.db.catalog.Covers page.event.id seat.id.text price) seats charged) :
    ∃ prices, seatPrices (s.db.catalog.pricing page.event.id)
      (s.db.catalog.selection page.event.venueId body.seatIds) = some prices := by
  refine exists_seatPrices fun seat member => ?_
  rw [offered.selection_eq] at member
  obtain ⟨placed, asked⟩ := List.mem_filter.mp member
  rw [decide_eq_true_eq, offered.chosen] at asked
  obtain ⟨shown, chosen, same⟩ := List.mem_map.mp asked
  obtain ⟨price, -, found, known, named, category⟩ := exists_of_mem_left covers chosen
  rw [same, uuid?_text, Option.some.injEq] at named
  have seats : found = seat :=
    Table.eq_of_clash known (mem_venueSeats.mp placed).1 (by simp [clash, named])
  exact ⟨price, seats ▸ category⟩

/-- Where the page was asked for by the event's own id, the seats have no rows. -/
theorem Offered.unoccupied (sound : s.Sound) (canonical : path = page.event.id.text) :
    s.db.Unoccupied page.event.id body.seatIds := by
  intro row stored event asked
  rw [offered.chosen] at asked
  obtain ⟨shown, member, same⟩ := List.mem_map.mp asked
  obtain ⟨seat, -, rfl⟩ := offered.of_venue member
  have free := offered.available _ member
  subst canonical
  have occupied : ∀ row ∈ s.db.reservationSeats.rows.filter (·.eventId.text = page.event.id.text),
      row.state ≠ .available := fun row member =>
    occupied_of_row sound.coherent (List.mem_filter.mp member).1
  refine (seatState_eq_available occupied).mp free (List.mem_map.mpr ⟨row, ?_, same.symm⟩)
  exact List.mem_filter.mpr ⟨stored, by simp [event]⟩

/-- And the page shows what a create charges. -/
theorem Offered.price (canonical : path = page.event.id.text) {shown : InventorySeat}
    {price : PricingCategory} (member : shown ∈ seats)
    (covers : s.db.catalog.Covers page.event.id shown.id.text price) :
    shown.price = price.price := by
  obtain ⟨seat, placed, rfl⟩ := offered.of_venue member
  obtain ⟨found, known, named, category⟩ := covers
  have same : found = seat := by
    have named : uuid? seat.id.text = some found.id := named
    rw [uuid?_text, Option.some.injEq] at named
    exact Table.eq_of_clash known (mem_venueSeats.mp placed).1 (by simp [clash, named])
  subst same canonical
  have category : Reservations.category
      (s.db.catalog.prices.rows.filter (·.eventId = page.event.id.text)) found = some price := category
  simp only [inventorySeat, category, Option.map_some, Option.getD_some]

end Offered

/-- What a create charges for some seats adds up over their categories. -/
theorem sum_of_covers {catalog : Catalog} {eventId : Uuid} {shown : List InventorySeat}
    {charged : List PricingCategory} (price : InventorySeat → Amount)
    (covers : List.Forall₂ (fun seat price => catalog.Covers eventId seat.id.text price) shown
      charged)
    (same : ∀ seat ∈ shown, ∀ category, catalog.Covers eventId seat.id.text category →
      price seat = category.price) :
    (shown.map fun seat => (price seat).value).sum = (charged.map (·.price.value)).sum := by
  induction covers with
  | nil => rfl
  | cons first _ ih =>
    rw [List.map_cons, List.map_cons, List.sum_cons, List.sum_cons,
      same _ List.mem_cons_self _ first,
      ih fun seat member => same seat (List.mem_cons_of_mem _ member)]

section Drafted
variable {user : AuthenticatedUser} {body : CreateReservationDto} {draw : Draw}
  (offered : Offered cfg s path page seats user body draw) {prices : List (Text × Amount)}
  (priced : seatPrices (s.db.catalog.pricing page.event.id)
    (s.db.catalog.selection page.event.venueId body.seatIds) = some prices)
include offered priced

/-- The draft takes the price of the category that covers the seat. -/
theorem Offered.drafted_price {shown : InventorySeat} (member : shown ∈ seats) :
    ∃ price, s.db.catalog.Covers page.event.id shown.id.text price ∧
      (drafted draw user body page.event (s.db.catalog.pricing page.event.id) prices).price
        shown.id.text = price.price := by
  have asked : shown.id.text ∈ body.seatIds := offered.chosen ▸ List.mem_map_of_mem member
  obtain ⟨price, covers, charged⟩ := (drafted draw user body page.event
    (s.db.catalog.pricing page.event.id) prices).price_of_selected offered.selected priced asked
  rw [if_pos (asReturned_iff.mpr ⟨shown.id, rfl⟩)] at charged
  exact ⟨price, covers, charged⟩

theorem Offered.drafted_total {charged : List PricingCategory}
    (covers : List.Forall₂
      (fun seat price => s.db.catalog.Covers page.event.id seat.id.text price) seats charged) :
    (drafted draw user body page.event (s.db.catalog.pricing page.event.id) prices).totalAmount =
      (charged.map (·.price.value)).sum := by
  rw [← sum_of_covers (fun shown => (drafted draw user body page.event
    (s.db.catalog.pricing page.event.id) prices).price shown.id.text) covers]
  · unfold Draft.totalAmount
    rw [show (drafted draw user body page.event (s.db.catalog.pricing page.event.id)
      prices).seatIds = seats.map (·.id.text) from offered.chosen, List.map_map]
    rfl
  · intro shown member price covers
    obtain ⟨other, covers', charged⟩ := offered.drafted_price priced member
    rw [charged, covers'.unique covers]

end Drafted

/-- Seats that the page shows as available are sold at the prices shown exactly when each
has a category under the event's id, the prices fit the column they are added up in, and
the page was asked for by the event's id as it is stored (or its other spelling happens to
show the same). -/
theorem sold_iff {user : AuthenticatedUser} {body : CreateReservationDto} {draw : Draw}
    (run : Run (Site.step cfg) (.unbooked listing) ts s)
    (offered : Offered cfg s path page seats user body draw) :
    Sold cfg s seats user body draw ↔ Sellable s path page seats := by
  have sound : s.Sound := Site.sound_unbooked.run run
  unfold Sold
  rw [offered.alone]
  cases priced : seatPrices (s.db.catalog.pricing page.event.id)
      (s.db.catalog.selection page.event.venueId body.seatIds) with
  | none =>
    rw [alone_unpriced priced]
    refine iff_of_false ?_ ?_
    · rintro ⟨server, r, alone, -⟩
      cases alone
    · rintro ⟨charged, covers, -⟩
      obtain ⟨prices, found⟩ := offered.priced covers
      rw [priced] at found
      cases found
  | some prices =>
    have unlocked : ∀ seatId ∈ body.seatIds,
        s.world.shared.locks.get (LockService.key page.event.id.text seatId) = none := by
      intro seatId asked
      rw [offered.chosen] at asked
      obtain ⟨shown, member, rfl⟩ := List.mem_map.mp asked
      exact offered.unlocked shown member
    have fresh : draw.Fresh s.db body.seatIds.length := by
      rw [offered.chosen, List.length_map]
      exact offered.fresh
    rw [alone_priced offered.undrawn priced, alone_of_draft fresh rfl offered.distinct unlocked]
    constructor
    · rintro ⟨unoccupied, total, fits⟩
      obtain ⟨charged, covers⟩ := exists_forall₂ fun shown member =>
        (offered.drafted_price priced member).imp fun _ => And.left
      rw [offered.drafted_total priced covers] at total
      exact ⟨charged, covers, total ▸ fits, .inr ⟨offered.chosen ▸ unoccupied, total.symm⟩⟩
    · rintro ⟨charged, covers, fits, either⟩
      rw [offered.drafted_total priced covers]
      rcases either with canonical | ⟨unoccupied, same⟩
      · have same := sum_of_covers InventorySeat.price covers fun shown member price =>
          offered.price canonical member
        exact ⟨offered.unoccupied sound canonical, same.symm, same ▸ fits⟩
      · have free : s.db.Unoccupied page.event.id body.seatIds := offered.chosen ▸ unoccupied
        exact ⟨free, same.symm, same ▸ fits⟩

/-- Nothing set up yet. -/
def blank : Listing := ⟨⟨.empty, .empty, .empty, .empty⟩, .empty, fun _ => .blank⟩

/-- What the page of the sample event shows, apart from its sectors, prices and seats. -/
def samplePage (sectors : List Sector) (pricing : List PricingCategory)
    (inventory : List InventorySeat) : EventDetail where
  event := ⟨flat 0xe, ['o'], flatText '8', 1000000, true⟩
  venue := ⟨flat 8, ['v', 'v'], ['c', 'c'], []⟩
  sectors := sectors
  pricing := pricing
  bookable := true
  availability := inventory.length
  inventory := inventory

def sampleSeat (number : Nat) (id : Uuid) : InventorySeat :=
  ⟨id, flat 0xd, ['A'], number, false, .available, samplePrice, ['I', 'R', 'R']⟩

/-- The page of the open site. -/
def openPage : EventDetail :=
  samplePage [⟨flat 0xd, flatText '8', ['s']⟩]
    [⟨flat 0xc, flatText 'e', none, ['p'], samplePrice, ['I', 'R', 'R']⟩]
    [sampleSeat 1 (flat 0xa), sampleSeat 2 (flat 0xb)]

/-- A request for one seat, and what it draws. -/
def requestFor (seat : Char) : CreateReservationDto := ⟨flatText 'e', [flatText seat], none⟩

def sampleDraw : Draw := ⟨0, 0, 0, flat 1, [flat 2]⟩

/-- A site nobody has booked from offers the seat, by what can be computed. -/
theorem offered_of_checks {digit : Char} {shown : InventorySeat}
    (checks : (detail s.venues s.db 0 (flatText 'e') = .ok page ∧ shown ∈ page.inventory ∧
        shown.state = .available ∧ uuid? (flatText 'e') = some page.event.id ∧
        flatText digit = shown.id.text ∧ (requestFor digit).accepted = true ∧
        0 < page.event.startsAt) ∧
      s.world.shared.locks.get (LockService.key page.event.id.text shown.id.text) = none ∧
      sampleDraw.id ∉ s.world.shared.drawn ∧
      s.db.reservations.rows = [] ∧ s.db.reservationSeats.rows = []) :
    Offered sampleConfig s (flatText 'e') page [shown] customer (requestFor digit) sampleDraw := by
  obtain ⟨⟨detailed, listed, available, event, chosen, accepted, early⟩, unlocked, undrawn,
    unreserved, unbooked⟩ := checks
  refine ⟨⟨0, detailed⟩, ?_, ?_, event, congrArg (fun text => [text]) chosen, accepted, rfl, early, ?_,
    undrawn, ?_, rfl, List.nodup_singleton _, ?_⟩
  · exact fun seat member => List.mem_singleton.mp member ▸ listed
  · exact fun seat member => List.mem_singleton.mp member ▸ available
  · exact fun seat member => List.mem_singleton.mp member ▸ unlocked
  · intro r member
    rw [unreserved] at member
    cases member
  · intro row member
    rw [unbooked] at member
    cases member

theorem openSite_offers : Offered sampleConfig (launched _ openSite_enabled) (flatText 'e') openPage
    [sampleSeat 1 (flat 0xa)] customer (requestFor 'a') sampleDraw :=
  offered_of_checks (by decide +kernel)

theorem sold_iff_open : Sold sampleConfig (launched _ openSite_enabled) [sampleSeat 1 (flat 0xa)]
    customer (requestFor 'a') sampleDraw := by
  have run : Run (Site.step sampleConfig) (.unbooked blank) _ _ := run_replay openSite_enabled
  refine (sold_iff run openSite_offers).mpr ⟨[⟨flat 0xc, flatText 'e', none, ['p'], samplePrice,
    ['I', 'R', 'R']⟩], .cons ?_ .nil, by decide, .inl (by decide +kernel)⟩
  exact ⟨⟨flat 0xa, flat 0xd, ['A'], 1, false⟩, by decide +kernel, by decide +kernel,
    by decide +kernel⟩

/-- Only one of the venue's two sectors has a price. -/
def halfPriced : List Site.Action :=
  setUp ++
    [.request (.createSector organizer (flatText '8') ⟨['t'], 1, 1, none⟩), .turn 3 {},
      .turn 3 { ids := [flat 7] }, .turn 3 { ids := [flat 6] },
      .request (.addPricing organizer (flatText 'e') ⟨some (flatText 'd'), ['p'], 50, none⟩),
      .turn 4 {}, .turn 4 {}, .turn 4 { ids := [flat 0xc] }] ++ publish 5

theorem halfPriced_enabled : (exec (Site.step sampleConfig) .empty halfPriced).isSome = true := by
  decide +kernel

def unpricedSeat : InventorySeat :=
  ⟨flat 6, flat 7, ['A'], 1, false, .available, zero, ['I', 'R', 'R']⟩

theorem halfPriced_offers : Offered sampleConfig (launched _ halfPriced_enabled) (flatText 'e')
    (samplePage [⟨flat 0xd, flatText '8', ['s']⟩, ⟨flat 7, flatText '8', ['t']⟩]
      [⟨flat 0xc, flatText 'e', some (flatText 'd'), ['p'], samplePrice, ['I', 'R', 'R']⟩]
      [sampleSeat 1 (flat 0xa), sampleSeat 2 (flat 0xb), unpricedSeat])
    [unpricedSeat] customer (requestFor '6') sampleDraw :=
  offered_of_checks (by decide +kernel)

/-- A seat of the other sector is shown as available, for nothing, and refused. -/
theorem shown_not_sold : ¬ ∀ (cfg : Config) (listing : Listing)
    (ts : List (Transition Site Site.Action)) (s : Site) (path : Text) (page : EventDetail)
    (seats : List InventorySeat) (user : AuthenticatedUser) (body : CreateReservationDto)
    (draw : Draw), Run (Site.step cfg) (.unbooked listing) ts s →
    Offered cfg s path page seats user body draw → Sold cfg s seats user body draw := by
  intro every
  have run : Run (Site.step sampleConfig) (.unbooked blank) _ _ := run_replay halfPriced_enabled
  obtain ⟨server, r, alone, -⟩ := every _ _ _ _ _ _ _ _ _ _ run halfPriced_offers
  have refused : ((Create.assertAdmission customer (requestFor '6')).alone sampleConfig
      sampleDraw.choices (launched _ halfPriced_enabled).world.shared).map Prod.snd =
        some (.error (.conflict "Selected seat has no pricing category")) := by
    decide +kernel
  rw [alone] at refused
  cases refused

end KiTicket
