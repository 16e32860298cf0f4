import Mathlib.Data.Rat.Floor
import KiTicket.Lib.Doubles
import KiTicket.Reservations

/-! `catalog.controller.ts`: what organizers set up and edit, and what the two event
pages report. A handler is again the sequence of its awaited calls. The columns the
booking side never reads, venues and the times events end at, are kept here. -/
namespace KiTicket

/-! ## Rows and request bodies -/

structure Venue where
  id : Uuid
  name : Text
  city : Text
  address : Text
deriving DecidableEq

instance : UniqueKeys Venue where
  clash a b := a.id = b.id
  clash_comm a b := by simp only [eq_comm]

/-- The columns of an event only its own controller reads; `tags` as `simple-array` stores
them. -/
structure EventColumns where
  title : Text
  description : Text
  genre : Text
  city : Text
  tags : Text
  endsAt : Option Nat
deriving DecidableEq

def EventColumns.blank : EventColumns := ⟨[], [], [], [], [], none⟩

/-- The catalog, with the columns only its own controller reads. -/
structure Listing where
  catalog : Catalog
  venues : Table Venue
  columns : Uuid → EventColumns

/-- `new Date(...)` of a string, in milliseconds; `none` is an invalid date. -/
abbrev Date := Option Int

/-- A property of an object: `none` is undefined, and `some none` is null. -/
abbrev Field (α : Type) := Option (Option α)

/-- An event in memory. -/
structure EventEntity where
  id : Uuid
  organizerId : Text
  venueId : Text
  title : Field Text
  description : Field Text
  genre : Field Text
  city : Field Text
  tags : Field Text
  startsAt : Field Nat
  endsAt : Field Nat
  published : Bool
deriving DecidableEq

/-- An event as it is loaded. -/
def EventEntity.of (event : Event) (columns : EventColumns) : EventEntity where
  id := event.id
  organizerId := event.organizerId
  venueId := event.venueId
  title := some (some columns.title)
  description := some (some columns.description)
  genre := some (some columns.genre)
  city := some (some columns.city)
  tags := some (some columns.tags)
  startsAt := some (some event.startsAt)
  endsAt := some columns.endsAt
  published := event.published

structure CreateVenueDto where
  name : Text
  city : Text
  address : Text
deriving DecidableEq

def CreateVenueDto.accepted (body : CreateVenueDto) : Bool :=
  decide (2 ≤ body.name.length ∧ body.name.length ≤ 120) &&
    decide (2 ≤ body.city.length ∧ body.city.length ≤ 80) && decide (body.address.length ≤ 300)

structure CreateSectorDto where
  name : Text
  rows : Nat
  seatsPerRow : Nat
  accessibleFirstRow : Option Bool
deriving DecidableEq

def CreateSectorDto.accepted (body : CreateSectorDto) : Bool :=
  decide (1 ≤ body.name.length ∧ body.name.length ≤ 80) &&
    decide (1 ≤ body.rows ∧ body.rows ≤ 52) &&
    decide (1 ≤ body.seatsPerRow ∧ body.seatsPerRow ≤ 200)

structure CreateEventDto where
  venueId : Text
  title : Text
  description : Text
  genre : Text
  city : Text
  tags : Option (List Text)
  startsAt : Date
  endsAt : Option Date
deriving DecidableEq

def CreateEventDto.accepted (body : CreateEventDto) : Bool :=
  isUUID body.venueId && decide (2 ≤ body.title.length ∧ body.title.length ≤ 180) &&
    decide (body.description.length ≤ 5000) &&
    decide (2 ≤ body.genre.length ∧ body.genre.length ≤ 80) &&
    decide (2 ≤ body.city.length ∧ body.city.length ≤ 80) &&
    body.tags.all fun tags => decide (tags.length ≤ 20)

/-- `venueId` is not among the fields, and the pipe refuses what is not. A field the
request leaves out is a property of the body all the same, and undefined; null passes
`IsOptional`. -/
structure UpdateEventDto where
  title : Field Text
  description : Field Text
  genre : Field Text
  city : Field Text
  tags : Field (List Text)
  startsAt : Field Date
  endsAt : Field Date
deriving DecidableEq

/-- A field's value, where it has one. -/
def Field.value (field : Field α) : Option α := field.join

def UpdateEventDto.accepted (body : UpdateEventDto) : Bool :=
  (Field.value body.title).all (fun title => decide (2 ≤ title.length ∧ title.length ≤ 180)) &&
    (Field.value body.description).all (fun text => decide (text.length ≤ 5000)) &&
    (Field.value body.tags).all fun tags => decide (tags.length ≤ 20)

structure CreatePricingDto where
  sectorId : Option Text
  name : Text
  price : ℚ
  currency : Option Text
deriving DecidableEq

def CreatePricingDto.accepted (body : CreatePricingDto) : Bool :=
  body.sectorId.all isUUID && decide (1 ≤ body.name.length ∧ body.name.length ≤ 80) &&
    decide (0 ≤ body.price) && body.currency.all fun currency => currency.length = 3

/-- A number stored in a `decimal(14, 0)` column, rounded half up. -/
def Amount.round? (price : ℚ) : Option Amount := Amount.ofNat? (price + 1 / 2).floor.toNat

/-! ## Replies -/

inductive Reply where
  | venue (venue : Venue)
  | sector (sector : Sector) (capacity : Nat)
  | event (event : EventEntity)
  | category (category : PricingCategory)
  | badRequest (message : String)
  | error (failure : Failure)
deriving DecidableEq

/-- Where a catalog request stands after a turn. -/
inductive After (σ : Type) where
  | go (state : σ)
  | done (reply : Reply)

namespace Listing

def refuse (listing : Listing) (failure : Failure) : Option (Listing × After σ) :=
  some (listing, .done (.error failure))

def stay (listing : Listing) (state : σ) : Option (Listing × After σ) :=
  some (listing, .go state)

end Listing

/-- `findOneByOrFail({ id })` of a venue. -/
def venueOrFail (venues : Table Venue) (venueId : Text) : Except Failure Venue :=
  match uuid? venueId with
  | none => .error .invalidUuid
  | some id =>
    match venues.rows.find? (·.id = id) with
    | none => .error .entityNotFound
    | some venue => .ok venue

/-! ## `VenuesController` -/

namespace Venues

/-- `POST /venues` -/
inductive Create where
  | save (body : CreateVenueDto)
deriving DecidableEq

def Create.turn (c : Choice) (listing : Listing) : Create → Option (Listing × After Create)
  | .save body =>
    match c.ids with
    | [id] =>
      let venue : Venue := ⟨id, body.name, body.city, body.address⟩
      match listing.venues.insert? [venue] with
      | some venues => some ({ listing with venues }, .done (.venue venue))
      | none => listing.refuse .duplicateKey
    | _ => none

/-- The letters of `value`, put before `label`. -/
def rowLabelLoop : Nat → Nat → Text → Text
  | 0, _, label => label
  | fuel + 1, value, label =>
    if value = 0 then label
    else rowLabelLoop fuel ((value - 1) / 26) (Char.ofNat (65 + (value - 1) % 26) :: label)

/-- `value` goes down in every round, so it bounds their number. -/
def rowLabel (index : Nat) : Text := rowLabelLoop (index + 1) (index + 1) []

example : [0, 25, 26, 51].map rowLabel = [['A'], ['Z'], ['A', 'A'], ['A', 'Z']] := by decide

/-- `POST /venues/:id/sectors` -/
inductive CreateSector where
  | findVenue (venueId : Text) (body : CreateSectorDto)
  | saveSector (venueId : Text) (body : CreateSectorDto)
  | saveSeats (sector : Sector) (body : CreateSectorDto)
deriving DecidableEq

/-- The seats of a new sector, row by row, still without their ids. -/
def newSeats (sector : Sector) (body : CreateSectorDto) : List (Uuid → Seat) :=
  (List.range body.rows).flatMap fun rowIndex =>
    (List.range' 1 body.seatsPerRow).map fun number id =>
      ⟨id, sector.id, rowLabel rowIndex, number,
        body.accessibleFirstRow.getD false && decide (rowIndex = 0)⟩

def CreateSector.turn (c : Choice) (listing : Listing) :
    CreateSector → Option (Listing × After CreateSector)
  | .findVenue venueId body =>
    match venueOrFail listing.venues venueId with
    | .error failure => listing.refuse failure
    | .ok _ => listing.stay (.saveSector venueId body)
  | .saveSector venueId body =>
    match c.ids with
    | [id] =>
      let sector : Sector := ⟨id, venueId, body.name⟩
      match listing.catalog.sectors.insert? [sector] with
      | some sectors =>
        some ({ listing with catalog := { listing.catalog with sectors } },
          .go (.saveSeats sector body))
      | none => listing.refuse .duplicateKey
    | _ => none
  | .saveSeats sector body =>
    -- the chunks of the insert share one transaction
    let seats := List.zipWith (fun seat id => seat id) (newSeats sector body) c.ids
    if seats.length ≠ (newSeats sector body).length then none
    else
      match listing.catalog.seats.insert? seats with
      | some seats' =>
        some ({ listing with catalog := { listing.catalog with seats := seats' } },
          .done (.sector sector seats.length))
      | none => listing.refuse .duplicateKey

/-! ### `GET /venues/:id/layout` -/

structure Layout where
  venue : Venue
  capacity : Nat
  sectors : List (Sector × List Seat)
deriving DecidableEq

/-- The order of seats in a layout; on labels, which are capital letters, `localeCompare`
is the order of their characters. -/
def seatBefore (a b : Seat) : Bool :=
  decide (a.row < b.row) || (a.row == b.row && decide (a.number ≤ b.number))

def layout (listing : Listing) (path : Text) : Except Failure Layout :=
  match uuid? path with
  | none => .error .invalidUuid
  | some id =>
    match listing.venues.rows.find? (·.id = id) with
    | none => .error (.notFound "Venue not found")
    | some venue =>
      let sectors := listing.catalog.sectors.rows.filter (·.venueId = path)
      let seats := listing.catalog.seats.rows.filter (·.sectorId ∈ sectors.map Sector.id)
      .ok {
        venue
        capacity := seats.length
        sectors := sectors.map fun sector =>
          (sector, (seats.filter (·.sectorId = sector.id)).mergeSort seatBefore) }

end Venues

/-! ## `EventsController` -/

namespace Events
open Reservations

/-- Whether `validateEventTimes` lets the times pass. -/
def validEventTimes (now : Nat) (startsAt : Date) (endsAt : Option Date) (requireFuture : Bool) :
    Bool :=
  match startsAt, endsAt with
  | none, _ | _, some none => false
  | some startsAt, none => !(requireFuture && decide (startsAt ≤ now))
  | some startsAt, some (some endsAt) =>
    !(requireFuture && decide (startsAt ≤ now)) && decide (startsAt < endsAt)

/-- A valid date, as it is stored. -/
def storedDate (date : Date) : Nat := (date.getD 0).toNat

def ownedEvent (events : Table Event) (path : Text) (user : AuthenticatedUser) :
    Except Failure Event :=
  match uuid? path with
  | none => .error .invalidUuid
  | some id =>
    match events.rows.find? (·.id = id) with
    | none => .error (.notFound "Event not found")
    | some event =>
      if user.role ≠ .admin ∧ event.organizerId ≠ user.sub then
        .error (.forbidden "You do not own this event")
      else .ok event

/-- A value of type `simple-array`, as it is stored. -/
def simpleArray (tags : List Text) : Text := [','].intercalate tags

/-- No column but `endsAt` takes a null. -/
def storable (entity : EventEntity) : Bool :=
  entity.title != some none && entity.description != some none && entity.genre != some none &&
    entity.city != some none && entity.tags != some none && entity.startsAt != some none

/-- What `save` makes of a column: an undefined property leaves it as it is. -/
def written (field : Field α) (stored : α) : α := (Field.value field).getD stored

def writtenColumns (entity : EventEntity) (columns : EventColumns) : EventColumns where
  title := written entity.title columns.title
  description := written entity.description columns.description
  genre := written entity.genre columns.genre
  city := written entity.city columns.city
  tags := written entity.tags columns.tags
  endsAt := entity.endsAt.getD columns.endsAt

def writtenEvent (entity : EventEntity) (event : Event) : Event where
  id := event.id
  organizerId := entity.organizerId
  venueId := entity.venueId
  startsAt := written entity.startsAt event.startsAt
  published := entity.published

/-- `save` of an event that was loaded: the row is read again, and every column whose
property is defined is written. -/
def saveEvent (listing : Listing) (entity : EventEntity) : Listing where
  catalog := { listing.catalog with
    events := listing.catalog.events.update
      (fun row => if row.id = entity.id then writtenEvent entity row else row)
      (by intro a b; simp only [clash]; split <;> split <;> rfl) }
  venues := listing.venues
  columns id :=
    if id = entity.id then writtenColumns entity (listing.columns id) else listing.columns id

def invalidTimes : Reply := .badRequest "Event times are invalid"

/-- `POST /events` -/
inductive Create where
  | findVenue (user : AuthenticatedUser) (body : CreateEventDto)
  | save (user : AuthenticatedUser) (body : CreateEventDto)
deriving DecidableEq

def Create.turn (c : Choice) (listing : Listing) : Create → Option (Listing × After Create)
  | .findVenue user body =>
    match venueOrFail listing.venues body.venueId with
    | .error failure => listing.refuse failure
    | .ok _ =>
      if validEventTimes c.now body.startsAt body.endsAt true then listing.stay (.save user body)
      else some (listing, .done invalidTimes)
  | .save user body =>
    match c.ids with
    | [id] =>
      let event : Event := ⟨id, user.sub, body.venueId, storedDate body.startsAt, false⟩
      let columns : EventColumns := ⟨body.title, body.description, body.genre, body.city,
        simpleArray (body.tags.getD []), body.endsAt.map storedDate⟩
      match listing.catalog.events.insert? [event] with
      | some events =>
        some ({ listing with
            catalog := { listing.catalog with events }
            columns := fun other => if other = id then columns else listing.columns other },
          .done (.event (.of event columns)))
      | none => listing.refuse .duplicateKey
    | _ => none

/-- `PATCH /events/:id` -/
inductive Update where
  | findOwned (user : AuthenticatedUser) (path : Text) (body : UpdateEventDto)
  | save (entity : EventEntity)
deriving DecidableEq

/-- `Object.assign(event, body, ...)`, which assigns undefined properties too. -/
def assign (entity : EventEntity) (body : UpdateEventDto) : EventEntity :=
  { entity with
    title := body.title
    description := body.description
    genre := body.genre
    city := body.city
    tags := body.tags.map (·.map simpleArray)
    startsAt := body.startsAt.map (·.map storedDate)
    endsAt := body.endsAt.map (·.map storedDate) }

/-- Whether `update` lets the body pass for an event with these times. -/
def validUpdate (now : Nat) (startsAt : Nat) (endsAt : Option Nat) (body : UpdateEventDto) : Bool :=
  validEventTimes now ((Field.value body.startsAt).getD (some (startsAt : Int)))
    (Field.value body.endsAt <|> endsAt.map fun stored => some (stored : Int))
    (Field.value body.startsAt).isSome

def Update.turn (c : Choice) (listing : Listing) : Update → Option (Listing × After Update)
  | .findOwned user path body =>
    match ownedEvent listing.catalog.events path user with
    | .error failure => listing.refuse failure
    | .ok event =>
      let columns := listing.columns event.id
      if validUpdate c.now event.startsAt columns.endsAt body then
        listing.stay (.save (assign (.of event columns) body))
      else some (listing, .done invalidTimes)
  | .save entity =>
    if storable entity then some (saveEvent listing entity, .done (.event entity))
    else listing.refuse .notNull

/-- `POST /events/:id/pricing` -/
inductive AddPricing where
  | findOwned (user : AuthenticatedUser) (path : Text) (body : CreatePricingDto)
  | findSector (event : Event) (path : Text) (body : CreatePricingDto) (sectorId : Text)
  | save (path : Text) (body : CreatePricingDto)
deriving DecidableEq

/-- The row `addPricing` inserts: the path and the sector id as they were typed. -/
def newPricing (id : Uuid) (path : Text) (body : CreatePricingDto) (price : Amount) :
    PricingCategory :=
  ⟨id, path, body.sectorId, body.name, price, body.currency.getD ['I', 'R', 'R']⟩

def AddPricing.turn (c : Choice) (listing : Listing) :
    AddPricing → Option (Listing × After AddPricing)
  | .findOwned user path body =>
    match ownedEvent listing.catalog.events path user with
    | .error failure => listing.refuse failure
    | .ok event =>
      match body.sectorId with
      | none => listing.stay (.save path body)
      | some sectorId => listing.stay (.findSector event path body sectorId)
  | .findSector event path body sectorId =>
    match uuid? sectorId with
    | none => listing.refuse .invalidUuid
    | some id =>
      if listing.catalog.sectors.rows.any fun sector =>
          sector.id = id ∧ sector.venueId = event.venueId then
        listing.stay (.save path body)
      else listing.refuse (.notFound "Sector does not belong to the event venue")
  | .save path body =>
    match c.ids with
    | [id] =>
      match Amount.round? body.price with
      | none => listing.refuse .numericOverflow
      | some price =>
        let category := newPricing id path body price
        match listing.catalog.prices.insert? [category] with
        | some prices =>
          some ({ listing with catalog := { listing.catalog with prices } },
            .done (.category category))
        | none => listing.refuse .duplicateKey
    | _ => none

/-- `POST /events/:id/publish` -/
inductive Publish where
  | findOwned (user : AuthenticatedUser) (path : Text)
  | exist (path : Text) (entity : EventEntity)
  | save (entity : EventEntity)
deriving DecidableEq

def Publish.turn (listing : Listing) : Publish → Option (Listing × After Publish)
  | .findOwned user path =>
    match ownedEvent listing.catalog.events path user with
    | .error failure => listing.refuse failure
    | .ok event => listing.stay (.exist path (.of event (listing.columns event.id)))
  | .exist path entity =>
    if listing.catalog.prices.rows.any (·.eventId = path) then
      listing.stay (.save { entity with published := true })
    else listing.refuse (.forbidden "At least one price is required")
  | .save entity => some (saveEvent listing entity, .done (.event entity))

/-- `GET /events/mine` -/
def listOwned (listing : Listing) (user : AuthenticatedUser) : List EventEntity :=
  let events := listing.catalog.events.rows.filter fun event =>
    user.role = .admin ∨ event.organizerId = user.sub
  (events.mergeSort fun a b => a.startsAt ≤ b.startsAt).map fun event =>
    .of event (listing.columns event.id)

/-! ### `GET /events/:id` -/

structure InventorySeat where
  id : Uuid
  sectorId : Uuid
  row : Text
  number : Nat
  accessible : Bool
  state : SeatState
  price : Amount
  currency : Text
deriving DecidableEq

structure EventDetail where
  event : Event
  venue : Venue
  sectors : List Sector
  pricing : List PricingCategory
  bookable : Bool
  availability : Nat
  inventory : List InventorySeat
deriving DecidableEq

/-- `stateBySeat.get(seat.id) ?? AVAILABLE`: of several entries the map keeps the last. -/
def seatState (states : List ReservationSeat) (seat : Seat) : SeatState :=
  ((states.reverse.find? (·.seatId = seat.id.text)).map ReservationSeat.state).getD .available

/-- One seat of the inventory. Where no category covers it, it is shown as free of charge. -/
def inventorySeat (states : List ReservationSeat) (pricing : List PricingCategory) (seat : Seat) :
    InventorySeat :=
  let price := category pricing seat
  ⟨seat.id, seat.sectorId, seat.row, seat.number, seat.accessible, seatState states seat,
    (price.map PricingCategory.price).getD zero,
    (price.map PricingCategory.currency).getD ['I', 'R', 'R']⟩

/-- The seats of a venue, as `detail`, `analytics` and `create` look them up. -/
def venueSeats (catalog : Catalog) (venueId : Text) : List Seat :=
  let sectorIds := (catalog.sectors.rows.filter (·.venueId = venueId)).map Sector.id
  catalog.seats.rows.filter (·.sectorId ∈ sectorIds)

/-- `detail`, its queries made with nothing written in between. -/
def detail (venues : Table Venue) (db : Db) (now : Nat) (path : Text) : Except Failure EventDetail :=
  match uuid? path with
  | none => .error .invalidUuid
  | some id =>
    match WaitingRoom.findPublished db id with
    | none => .error (.notFound "رویداد پیدا نشد")
    | some event =>
      match venueOrFail venues event.venueId with
      | .error failure => .error failure
      | .ok venue =>
        let states := db.reservationSeats.rows.filter (·.eventId.text = path)
        let pricing := db.catalog.prices.rows.filter (·.eventId = path)
        let inventory := (venueSeats db.catalog event.venueId).map (inventorySeat states pricing)
        let bookable := decide (now < event.startsAt)
        .ok {
          event, venue
          sectors := db.catalog.sectors.rows.filter (·.venueId = event.venueId)
          pricing, bookable
          availability := if bookable then inventory.countP (·.state = .available) else 0
          inventory }

/-! ### `GET /events/:id/analytics` -/

structure Analytics where
  reservations : Nat
  confirmedReservations : Nat
  bookedSeats : Nat
  remainingSeats : Int
  capacity : Nat
  revenue : Nat
  currency : Text
deriving DecidableEq

/-- The payments whose amounts `analytics` adds up. -/
def successfulPayments (db : Db) (path : Text) : List Payment :=
  let confirmed := db.reservations.rows.filter fun row =>
    row.eventId.text = path ∧ row.state = .confirmed
  db.payments.rows.filter fun row =>
    row.reservationId ∈ confirmed.map Reservation.id ∧ row.state = .success

/-- `analytics`, its queries made with nothing written in between. -/
def analytics (db : Db) (user : AuthenticatedUser) (path : Text) : Except Failure Analytics :=
  match ownedEvent db.catalog.events path user with
  | .error failure => .error failure
  | .ok event =>
    let reservations := db.reservations.rows.filter (·.eventId.text = path)
    let payments := successfulPayments db path
    let bookedSeats := db.reservationSeats.rows.countP fun row =>
      row.eventId.text = path ∧ row.state = .booked
    let capacity := (venueSeats db.catalog event.venueId).length
    .ok {
      reservations := reservations.length
      confirmedReservations := reservations.countP (·.state = .confirmed)
      bookedSeats, capacity
      remainingSeats := max 0 ((capacity : Int) - bookedSeats)
      revenue := Doubles.sum (payments.map (·.amount.value))
      currency := (payments.head?.map Payment.currency).getD ['I', 'R', 'R'] }

end Events
end KiTicket
