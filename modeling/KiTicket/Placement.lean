import KiTicket.Creation

/-! Where seats lie. A create reads the event, its venue's sectors, their seats and
the event's prices one after the other and books what it has read; all of this stays
true while the catalog only grows, so every row that is ever stored is for a seat of
its event's venue, at a currency the event is priced in. -/
namespace KiTicket
open Runs Reservations KiTicket.Lists

variable {cfg : Config} {catalog catalog' : Catalog} {w w' : World} {a : Action} {c : Choice}
  {held : List RowLock} {server server' : Server} {p p' : Proc} {id : Uuid} {r : Reservation}
  {ts : List (Transition World Action)}

/-- What editing a catalog leaves in place. -/
structure Catalog.Grows (catalog catalog' : Catalog) : Prop where
  sectors : catalog.sectors.rows ⊆ catalog'.sectors.rows
  seats : catalog.seats.rows ⊆ catalog'.seats.rows
  prices : catalog.prices.rows ⊆ catalog'.prices.rows
  events : ∀ event ∈ catalog.events.rows, ∃ event' ∈ catalog'.events.rows,
    event'.id = event.id ∧ event'.venueId = event.venueId ∧ event'.organizerId = event.organizerId

theorem Catalog.grows_refl : catalog.Grows catalog :=
  ⟨fun _ => id, fun _ => id, fun _ => id, fun event member => ⟨event, member, rfl, rfl, rfl⟩⟩

theorem Catalog.Grows.trans {catalog'' : Catalog} (first : catalog.Grows catalog')
    (second : catalog'.Grows catalog'') : catalog.Grows catalog'' where
  sectors := List.Subset.trans first.sectors second.sectors
  seats := List.Subset.trans first.seats second.seats
  prices := List.Subset.trans first.prices second.prices
  events event member := by
    obtain ⟨event', member', id, venue, organizer⟩ := first.events event member
    obtain ⟨event'', member'', id', venue', organizer'⟩ := second.events event' member'
    exact ⟨event'', member'', id'.trans id, venue'.trans venue, organizer'.trans organizer⟩

/-- There is a sector of this id in the venue. -/
def Catalog.Within (catalog : Catalog) (venueId : Text) (sectorId : Uuid) : Prop :=
  ∃ sector ∈ catalog.sectors.rows, sector.id = sectorId ∧ sector.venueId = venueId

/-- The string names a seat of the venue. -/
def Catalog.Seated (catalog : Catalog) (venueId seatId : Text) : Prop :=
  ∃ seat ∈ catalog.seats.rows, uuid? seatId = some seat.id ∧ catalog.Within venueId seat.sectorId

/-- The event is held in the venue. -/
def Catalog.Hosts (catalog : Catalog) (eventId : Uuid) (venueId : Text) : Prop :=
  ∃ event ∈ catalog.events.rows, event.id = eventId ∧ event.venueId = venueId

/-- Some category of the event is in the currency. -/
def Catalog.Trades (catalog : Catalog) (eventId : Uuid) (currency : Text) : Prop :=
  ∃ price ∈ catalog.pricing eventId, price.currency = currency

section Grows
variable (grows : catalog.Grows catalog')
include grows

theorem Catalog.Within.mono {venueId : Text} {sectorId : Uuid}
    (within : catalog.Within venueId sectorId) : catalog'.Within venueId sectorId := by
  obtain ⟨sector, member, named, placed⟩ := within
  exact ⟨sector, grows.sectors member, named, placed⟩

theorem Catalog.Seated.mono {venueId seatId : Text} (seated : catalog.Seated venueId seatId) :
    catalog'.Seated venueId seatId := by
  obtain ⟨seat, member, named, within⟩ := seated
  exact ⟨seat, grows.seats member, named, within.mono grows⟩

theorem Catalog.Hosts.mono {venueId : Text} (hosts : catalog.Hosts id venueId) :
    catalog'.Hosts id venueId := by
  obtain ⟨event, member, named, placed⟩ := hosts
  obtain ⟨event', member', same, venue, -⟩ := grows.events event member
  exact ⟨event', member', same.trans named, venue.trans placed⟩

theorem Catalog.Trades.mono {currency : Text} (trades : catalog.Trades id currency) :
    catalog'.Trades id currency := by
  obtain ⟨price, member, same⟩ := trades
  obtain ⟨stored, named⟩ := List.mem_filter.mp member
  exact ⟨price, List.mem_filter.mpr ⟨grows.prices stored, named⟩, same⟩

end Grows

/-! ## What a create has read -/

/-- A draft's event, seats and currency come from the catalog. -/
structure Reservations.Draft.Placed (catalog : Catalog) (draft : Draft) : Prop where
  hosted : catalog.Hosts draft.event.id draft.event.venueId
  seated : ∀ seatId ∈ draft.seatIds, catalog.Seated draft.event.venueId seatId
  traded : draft.seatIds ≠ [] → catalog.Trades draft.event.id draft.currency

def Reservations.Create.Placed (catalog : Catalog) : Create → Prop
  | .assertAdmission _ _ | .findEvent _ _ | .announce _ _ | .release _ _ => True
  | .findSectors _ _ event => catalog.Hosts event.id event.venueId
  | .findSeats _ _ event sectorIds =>
    catalog.Hosts event.id event.venueId ∧ ∀ id ∈ sectorIds, catalog.Within event.venueId id
  | .findPricing _ body event seats =>
    catalog.Hosts event.id event.venueId ∧ seats.length = body.seatIds.length ∧
      ∀ seatId ∈ body.seatIds, catalog.Seated event.venueId seatId
  | .acquire draft | .findOccupied draft | .save draft => draft.Placed catalog

def Proc.Placed (catalog : Catalog) : Proc → Prop
  | .create state => state.Placed catalog
  | _ => True

theorem Reservations.Draft.Placed.mono {draft : Draft} (placed : draft.Placed catalog)
    (grows : catalog.Grows catalog') : draft.Placed catalog' where
  hosted := placed.hosted.mono grows
  seated seatId asked := (placed.seated seatId asked).mono grows
  traded asked := (placed.traded asked).mono grows

theorem Proc.Placed.mono (placed : p.Placed catalog) (grows : catalog.Grows catalog') :
    p.Placed catalog' := by
  cases p <;> try trivial
  rename_i state
  cases state
  case findSectors => exact Catalog.Hosts.mono grows placed
  case findSeats =>
    exact ⟨placed.1.mono grows, fun id member => (placed.2 id member).mono grows⟩
  case findPricing =>
    exact ⟨placed.1.mono grows, placed.2.1,
      fun seatId asked => (placed.2.2 seatId asked).mono grows⟩
  case acquire | findOccupied | save => exact Draft.Placed.mono placed grows
  all_goals trivial

theorem category_mem {pricing : List PricingCategory} {seat : Seat} {price : PricingCategory}
    (found : category pricing seat = some price) : price ∈ pricing := by
  rw [category, Option.orElse_eq_orElse, Option.orElse_eq_or, Option.or_eq_some_iff] at found
  rcases found with first | ⟨-, default⟩
  · exact List.mem_of_find?_eq_some first
  · exact List.mem_of_find?_eq_some default

theorem Reservations.Create.placed {state : Create} {next : Next Create}
    (turn : state.turn cfg c server = some (server', next)) (placed : state.Placed server.db.catalog) :
    (next.proc .create).Placed server.db.catalog := by
  cases state <;> simp only [Create.turn] at turn
  case assertAdmission => split at turn <;> cases turn <;> trivial
  case findEvent =>
    split at turn
    · cases turn
      trivial
    split at turn
    · cases turn
      trivial
    rename_i event found
    split at turn <;> cases turn
    · trivial
    · exact ⟨event, List.mem_of_find?_eq_some found, rfl, rfl⟩
  case findSectors user body event =>
    cases turn
    refine ⟨placed, fun id member => ?_⟩
    obtain ⟨sector, chosen, rfl⟩ := List.mem_map.mp member
    obtain ⟨stored, venue⟩ := List.mem_filter.mp chosen
    exact ⟨sector, stored, rfl, of_decide_eq_true venue⟩
  case findSeats user body event sectorIds =>
    split at turn <;> cases turn
    · trivial
    rename_i counted
    have chosen : ∀ seat ∈ server.db.catalog.seats.rows.filter fun seat =>
        seat.sectorId ∈ sectorIds ∧ some seat.id ∈ body.seatIds.map uuid?,
        seat.sectorId ∈ sectorIds ∧ some seat.id ∈ body.seatIds.map uuid? := fun seat member =>
      of_decide_eq_true (List.mem_filter.mp member).2
    have selected : Selected server.db.catalog body.seatIds _ :=
      ⟨List.filter_sublist, fun seat member => (chosen seat member).2, not_not.mp counted⟩
    refine ⟨placed.1, not_not.mp counted, fun seatId asked => ?_⟩
    obtain ⟨seat, member, named⟩ := selected.resolves asked
    exact ⟨seat, (List.mem_filter.mp member).1, named, placed.2 _ (chosen seat member).1⟩
  case findPricing user body event seats =>
    obtain ⟨hosts, counted, seated⟩ := placed
    split at turn
    · cases turn
      trivial
    rename_i prices priced
    split at turn
    · split at turn <;> cases turn
      refine ⟨hosts, seated, fun asked => ?_⟩
      -- a seat that was priced has a category, so the event has a first one
      obtain ⟨seat, chosen⟩ := List.exists_mem_of_length_pos
        (counted ▸ List.length_pos_iff.mpr asked)
      obtain ⟨entry, -, hit⟩ := exists_of_mem_left (forall₂_of_mapM priced) chosen
      obtain ⟨price, covers, -⟩ := Option.map_eq_some_iff.mp hit
      cases pricing : server.db.catalog.pricing event.id with
      | nil =>
        have found := category_mem covers
        rw [← Catalog.pricing, pricing] at found
        cases found
      | cons first rest =>
        refine ⟨first, pricing ▸ List.mem_cons_self, ?_⟩
        rw [← Catalog.pricing, pricing]
        rfl
    · cases turn
  case acquire =>
    split at turn <;> cases turn
    · trivial
    · exact placed
  case findOccupied =>
    split at turn <;> cases turn
    · trivial
    · exact placed
  case save =>
    split at turn
    · cases turn
    · split at turn <;> cases turn <;> trivial
  case announce =>
    cases turn
    trivial
  case release =>
    cases turn
    trivial

theorem Proc.placed (turn : p.turn cfg c held server = some (server', p'))
    (placed : p.Placed server.db.catalog) : p'.Placed server.db.catalog := by
  cases p <;> simp only [Proc.turn, turnOf_eq_some] at turn
  case create state =>
    obtain ⟨next, turn, rfl⟩ := turn
    split at turn
    · cases state <;> simp only [Create.fault] at turn <;> cases turn <;> trivial
    · exact Create.placed turn placed
  case done => cases turn
  all_goals
    obtain ⟨next, -, rfl⟩ := turn
    cases next <;> trivial

/-! ## What is stored -/

/-- A reservation's event is held somewhere and priced in the reservation's currency,
and the rows are for seats of that venue. -/
def Catalog.Accommodates (catalog : Catalog) (r : Reservation) (rows : List ReservationSeat) : Prop :=
  catalog.Trades r.eventId r.currency ∧ ∃ venueId, catalog.Hosts r.eventId venueId ∧
    ∀ row ∈ rows, catalog.Seated venueId row.seatId

theorem Catalog.Accommodates.mono {rows : List ReservationSeat}
    (placed : catalog.Accommodates r rows) (grows : catalog.Grows catalog') :
    catalog'.Accommodates r rows := by
  obtain ⟨trades, venueId, hosts, seated⟩ := placed
  exact ⟨trades.mono grows, venueId, hosts.mono grows,
    fun row member => (seated row member).mono grows⟩

structure World.Placed (w : World) : Prop where
  procs : ∀ p ∈ w.procs, p.Placed w.db.catalog
  stored : ∀ id r, (w.db.booking id).reservation = some r →
    w.db.catalog.Accommodates r (w.db.booking id).seats

theorem placed_initial : World.Placed (initial catalog) where
  procs p member := absurd member List.not_mem_nil
  stored id r stored := by cases stored

/-- A turn keeps what every process has read in place. -/
theorem World.Placed.procs_next (placed : World.Placed w) (taken : step cfg w a = some w') :
    ∀ p ∈ w'.procs, p.Placed w'.db.catalog := by
  rw [catalog_of_step taken]
  refine forall_procs taken placed.procs (fun _ kept => kept) ?_ ?_ ?_
  · intro r
    cases r <;> trivial
  · exact fun _ => trivial
  · exact fun _ _ _ _ _ mine turn => Proc.placed turn mine

theorem World.Placed.next (placed : World.Placed w) (sound : World.Sound (fun _ => True) w)
    (coherent : ∀ id, (w.db.booking id).Coherent) (taken : step cfg w a = some w') :
    World.Placed w' := by
  refine ⟨placed.procs_next taken, fun id r after => ?_⟩
  rw [catalog_of_step taken]
  rcases reservation_cases sound taken after with ⟨old, before, -⟩ | created
  · obtain ⟨trades, venueId, hosts, seated⟩ := placed.stored id old before
    rcases (sound.next spelled_any taken).2.booking id with same | ⟨m, -, move⟩
    · rw [same, before, Option.some.injEq] at after
      rw [same, ← after]
      exact ⟨trades, venueId, hosts, seated⟩
    · obtain ⟨state, after'⟩ := move.reservation_of_some before
      rw [after, Option.some.injEq] at after'
      subst after'
      refine ⟨trades, venueId, hosts, fun row member => ?_⟩
      obtain ⟨row', stored, same⟩ := move.seats_of_some before row member
      rw [← same]
      exact seated row' stored
  · obtain @⟨pid, c, draft, total, serving, -, absent, lengths, rows⟩ := created
    have drafted : draft.Placed w.db.catalog := placed.procs _ (List.mem_of_getElem? serving)
    have asked : draft.seatIds ≠ [] ∧ ∀ seatId ∈ draft.seatIds, True :=
      sound.sound _ (List.mem_of_getElem? serving)
    have empty : (w.db.booking draft.id).seats = [] := by
      rw [(coherent draft.id).of_none absent]
      rfl
    refine ⟨drafted.traded asked.1, _, drafted.hosted, fun row member => ?_⟩
    rw [rows, empty, List.nil_append] at member
    obtain ⟨_, -, seatId, chosen, rfl⟩ := exists_of_mem_zipWith member
    exact drafted.seated seatId chosen

theorem placed_of_run (run : Run (step cfg) (initial catalog) ts w) : World.Placed w := by
  have both : (World.Sound (fun _ => True) w ∧ ∀ id, (w.db.booking id).Coherent) ∧
      World.Placed w := by
    refine run.invariant (P := fun w => (World.Sound (fun _ => True) w ∧
      ∀ id, (w.db.booking id).Coherent) ∧ World.Placed w) within_any
      ⟨⟨sound_initial, fun _ => Booking.coherent_nothing⟩, placed_initial⟩ ?_
    rintro w a w' ⟨⟨sound, coherent⟩, placed⟩ - taken
    exact ⟨sound.coherent_next coherent taken, placed.next sound coherent taken⟩
  exact both.2

end KiTicket
