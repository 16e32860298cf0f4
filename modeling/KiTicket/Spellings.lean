import KiTicket.Calls
import KiTicket.Figures
import KiTicket.Housing

/-! One call, its ids spelled in two ways. A row is found by a `uuid`, whatever the letter
case; the rows that belong to it are found by the string the caller typed. So two
spellings of an event's id show the same page only where nothing was found by either. -/
namespace KiTicket
open Runs Events KiTicket.Lists

variable {cfg : Config} {db : Db} {s : Site} {choices : List Choice} {id id' : Text} {event : Event}
  {user : AuthenticatedUser}

/-! ## The two-run law -/

/-- One id in two letter cases. -/
def Spellings (id id' : Text) : Prop := (uuid? id).isSome = true ∧ lower id = lower id'

/-- The same call, its ids typed in another letter case. -/
inductive Respelled : CatalogCall → CatalogCall → Prop where
  | detail {now : Nat} {id id' : Text} (ids : Spellings id id') :
      Respelled (.read (.detail now id)) (.read (.detail now id'))
  | analytics {user : AuthenticatedUser} {id id' : Text} (ids : Spellings id id') :
      Respelled (.read (.analytics user id)) (.read (.analytics user id'))
  | createSector {user : AuthenticatedUser} {id id' : Text} {body : CreateSectorDto}
      (ids : Spellings id id') :
      Respelled (.write (.createSector user id body)) (.write (.createSector user id' body))
  | createEvent {user : AuthenticatedUser} {id id' : Text} {body : CreateEventDto}
      (ids : Spellings id id') :
      Respelled (.write (.createEvent user { body with venueId := id }))
        (.write (.createEvent user { body with venueId := id' }))
  | addPricing {user : AuthenticatedUser} {id id' : Text} {body : CreatePricingDto}
      {sectorId sectorId' : Option Text} (ids : Spellings id id')
      (sectorIds : Option.Rel Spellings sectorId sectorId') :
      Respelled (.write (.addPricing user id { body with sectorId }))
        (.write (.addPricing user id' { body with sectorId := sectorId' }))
  | publish {user : AuthenticatedUser} {id id' : Text} (ids : Spellings id id') :
      Respelled (.write (.publish user id)) (.write (.publish user id'))

def PricingCategory.folded (price : PricingCategory) : PricingCategory :=
  { price with eventId := lower price.eventId, sectorId := price.sectorId.map lower }

def Reply.folded : Reply → Reply
  | .sector new capacity => .sector { new with venueId := lower new.venueId } capacity
  | .event entity => .event { entity with venueId := lower entity.venueId }
  | .category price => .category price.folded
  | other => other

/-- The answer, up to the spelling of the ids in it. -/
def Answer.folded : Answer → Answer
  | .page (.ok shown) =>
    .page (.ok { shown with pricing := shown.pricing.map PricingCategory.folded })
  | .reply answer => .reply answer.folded
  | other => other

def Proc.response? : Proc → Option Response
  | .done response => some response
  | _ => none

/-- What everyone gets to see of a site: its pages, the answers to the bookings, and
whatever else can be read. -/
structure View (β : Type) where
  pages : PageRead → Answer
  responses : List (Option Response)
  other : β

def Site.view (other : Site → β) (s : Site) : View β :=
  ⟨s.read, s.world.procs.map Proc.response?, other s⟩

/-- The answers agree, and nobody can tell later which of the two calls it was. -/
def Same (cfg : Config) (other : Site → β) (left right : Site × Answer) : Prop :=
  left.2.folded = right.2.folded ∧ Alike (Site.step cfg) (Site.view other) left.1 right.1

/-! ## Where the spelling does not matter -/

/-- One of the first `n` calls fails. -/
def Fails (n : Nat) (choices : List Choice) : Prop := ∃ c ∈ choices.take n, c.fault = true

/-- The id drawn at turn `n`. -/
def drawnAt (n : Nat) (choices : List Choice) : Option Uuid := choices[n]?.bind (·.ids.head?)

/-- The event's page is public. -/
def Site.Announced (s : Site) (id : Text) (event : Event) : Prop :=
  ∃ eventId, uuid? id = some eventId ∧ WaitingRoom.findPublished s.db eventId = some event

/-- No price was added under this spelling. -/
def Site.Unpriced (s : Site) (id : Text) : Prop :=
  ∀ price ∈ s.db.catalog.prices.rows, price.eventId ≠ id

/-- No row of the event is for a seat of its venue, the seat's id spelled as returned. -/
def Site.Untouched (s : Site) (event : Event) : Prop :=
  ∀ seat ∈ venueSeats s.db.catalog event.venueId, ∀ row ∈ s.db.rowsFor event.id,
    row.seatId ≠ seat.id.text

/-- The body names no sector, or one of the event's venue. -/
def Site.SectorFits (s : Site) (event : Event) (sectorId : Option Text) : Prop :=
  ∀ typed ∈ sectorId, ∃ sector ∈ s.db.catalog.sectors.rows,
    uuid? typed = some sector.id ∧ sector.venueId = event.venueId

/-- Where two spellings of a call come to the same: they are one spelling, or nothing is
stored under either, or both are refused for a reason that has nothing to do with it. -/
def Site.Indifferent (s : Site) (choices : List Choice) : CatalogCall → CatalogCall → Prop
  | .read (.detail _ id), .read (.detail _ id') => id = id' ∨
    ∀ event, s.Announced id event → s.Unpriced id ∧ s.Unpriced id' ∧
      ((id ≠ event.id.text ∧ id' ≠ event.id.text) ∨ s.Untouched event)
  | .read (.analytics user id), .read (.analytics _ id') => id = id' ∨
    ∀ event, organizes user = true → ownedEvent s.db.catalog.events id user = .ok event →
      (id ≠ event.id.text ∧ id' ≠ event.id.text) ∨
        ∀ row ∈ s.db.reservations.rows, row.eventId ≠ event.id
  | .write (.createSector _ id body), .write (.createSector _ id' _) =>
    id = id' ∨ Fails 2 choices ∨ ∀ venue, venueOrFail s.venues id = .ok venue →
      ∃ new, drawnAt 1 choices = some new ∧
        s.db.catalog.sectors.Clashes ⟨new, id, body.name⟩ ∧
        s.db.catalog.sectors.Clashes ⟨new, id', body.name⟩
  | .write (.createEvent _ body), .write (.createEvent _ body') =>
    body.venueId = body'.venueId ∨ Fails 2 choices ∨
      ∀ venue c, venueOrFail s.venues body.venueId = .ok venue → c ∈ choices.head? →
        validEventTimes c.now body.startsAt body.endsAt true = true →
          ∃ new, drawnAt 1 choices = some new ∧ ∃ event ∈ s.db.catalog.events.rows, event.id = new
  | .write (.addPricing user id body), .write (.addPricing _ id' body') =>
    let saves := if body.sectorId = none then 1 else 2
    (id = id' ∧ body.sectorId = body'.sectorId) ∨ Fails (saves + 1) choices ∨
      ∀ event price, ownedEvent s.db.catalog.events id user = .ok event →
        s.SectorFits event body.sectorId → Amount.round? body.price = some price →
          ∃ new, drawnAt saves choices = some new ∧
            s.db.catalog.prices.Clashes (newPricing new id body price) ∧
            s.db.catalog.prices.Clashes (newPricing new id' body' price)
  | .write (.publish user id), .write (.publish _ id') => Fails 2 choices ∨
    ∀ event, ownedEvent s.db.catalog.events id user = .ok event → (s.Unpriced id ↔ s.Unpriced id')
  | _, _ => True

/-! ## Spellings -/

/-- Both spellings name one row. -/
theorem Spellings.uuid? (ids : Spellings id id') : KiTicket.uuid? id = KiTicket.uuid? id' := by
  simp only [KiTicket.uuid?, usual?, ids.2]

theorem venueOrFail_congr {venues : Table Venue} (ids : Spellings id id') :
    venueOrFail venues id = venueOrFail venues id' := by
  simp only [venueOrFail, ids.uuid?]

theorem ownedEvent_congr {events : Table Event} (ids : Spellings id id') :
    ownedEvent events id user = ownedEvent events id' user := by
  simp only [ownedEvent, ids.uuid?]

/-- An id's own text is one of its spellings. -/
theorem text_eq_iff {u v : Uuid} (named : uuid? id = some u) : v.text = id ↔ v = u ∧ id = u.text := by
  constructor
  · rintro rfl
    rw [uuid?_text, Option.some.injEq] at named
    exact ⟨named, congrArg Uuid.text named⟩
  · rintro ⟨rfl, spelled⟩
    exact spelled.symm

/-! ## What a page finds by the typed id -/

/-- The rows the page finds: all of the event's, or none. -/
theorem rows_typed {u : Uuid} (named : uuid? id = some u) :
    (db.reservationSeats.rows.filter fun row => row.eventId.text = id) =
      if id = u.text then db.rowsFor u else [] := by
  simp only [text_eq_iff named]
  split
  · rename_i own
    simp only [own, and_true]
    rfl
  · rename_i other
    simp only [other, and_false, decide_false]
    exact List.filter_eq_nil_iff.mpr fun _ _ => Bool.false_ne_true

theorem prices_typed : s.Unpriced id ↔
    s.db.catalog.prices.rows.filter (fun price => price.eventId = id) = [] := by
  simp only [Site.Unpriced, List.filter_eq_nil_iff, decide_eq_true_eq]

/-- A page, from the rows and the prices that were found for it. -/
def pageOf (db : Db) (now : Nat) (event : Event) (venue : Venue) (states : List ReservationSeat)
    (pricing : List PricingCategory) : EventDetail :=
  let inventory := (venueSeats db.catalog event.venueId).map (inventorySeat states pricing)
  let bookable := decide (now < event.startsAt)
  { event, venue
    sectors := db.catalog.sectors.rows.filter (·.venueId = event.venueId)
    pricing, bookable
    availability := if bookable then inventory.countP (·.state = .available) else 0
    inventory }

theorem pageOf_congr {now : Nat} {venue : Venue} {states states' : List ReservationSeat}
    {pricing : List PricingCategory} (same : ∀ seat ∈ venueSeats db.catalog event.venueId,
      seatState states seat = seatState states' seat) :
    pageOf db now event venue states pricing = pageOf db now event venue states' pricing := by
  have inventory : (venueSeats db.catalog event.venueId).map (inventorySeat states pricing) =
      (venueSeats db.catalog event.venueId).map (inventorySeat states' pricing) :=
    List.map_congr_left fun seat member => by simp only [inventorySeat, same seat member]
  simp only [pageOf, inventory]

theorem idle_iff (named : uuid? id = some event.id) :
    (∀ row ∈ s.db.reservations.rows, row.eventId.text ≠ id) ↔
      id ≠ event.id.text ∨ ∀ row ∈ s.db.reservations.rows, row.eventId ≠ event.id := by
  simp only [ne_eq, text_eq_iff named, not_and]
  by_cases own : id = event.id.text
  · simp [own]
  · simp [own]

theorem Site.Announced.congr (announced : s.Announced id event) (ids : Spellings id id') :
    s.Announced id' event := by
  obtain ⟨eventId, named, found⟩ := announced
  exact ⟨eventId, ids.uuid? ▸ named, found⟩

theorem Site.Announced.listed (announced : s.Announced id event) :
    event ∈ s.db.catalog.events.rows ∧ uuid? id = some event.id := by
  obtain ⟨eventId, named, found⟩ := announced
  have matched := List.find?_some found
  rw [decide_eq_true_eq] at matched
  exact ⟨List.mem_of_find?_eq_some found, matched.1 ▸ named⟩

theorem detail_announced {now : Nat} {venue : Venue} (announced : s.Announced id event)
    (hosted : venueOrFail s.venues event.venueId = .ok venue) :
    detail s.venues s.db now id = .ok (pageOf s.db now event venue
      (if id = event.id.text then s.db.rowsFor event.id else [])
      (s.db.catalog.prices.rows.filter (·.eventId = id))) := by
  rw [← rows_typed announced.listed.2]
  obtain ⟨eventId, named, found⟩ := announced
  simp only [detail, named, found, hosted]
  rfl

theorem detail_unannounced {now : Nat} (ids : Spellings id id')
    (unannounced : ∀ event, ¬s.Announced id event) :
    detail s.venues s.db now id = detail s.venues s.db now id' := by
  simp only [detail, ids.uuid?]
  split
  · rfl
  rename_i eventId named
  split
  · rfl
  · rename_i event found
    exact absurd ⟨eventId, ids.uuid? ▸ named, found⟩ (unannounced event)

/-- Rows under two spellings are different rows, so they are the same rows only if there
are none. -/
theorem unpriced_of_folded (different : id ≠ id')
    (same : (s.db.catalog.prices.rows.filter (·.eventId = id)).map PricingCategory.folded =
      (s.db.catalog.prices.rows.filter (·.eventId = id')).map PricingCategory.folded) :
    s.Unpriced id := by
  intro price stored typed
  have shown : price.folded ∈
      (s.db.catalog.prices.rows.filter (·.eventId = id')).map PricingCategory.folded :=
    same ▸ List.mem_map_of_mem (List.mem_filter.mpr ⟨stored, decide_eq_true typed⟩)
  obtain ⟨other, chosen, folded⟩ := List.mem_map.mp shown
  obtain ⟨known, typed'⟩ := List.mem_filter.mp chosen
  have one : other.id = price.id := by
    change other.folded.id = price.folded.id
    rw [folded]
  have row : other = price := Table.eq_of_clash known stored (by simp [clash, one])
  exact different (typed.symm.trans (row ▸ of_decide_eq_true typed'))

section Sound
variable (sound : s.Sound)
include sound

theorem untouched_iff : s.Untouched event ↔ ∀ seat ∈ venueSeats s.db.catalog event.venueId,
    seatState (s.db.rowsFor event.id) seat = .available := by
  have occupied : ∀ row ∈ s.db.rowsFor event.id, row.state ≠ .available := fun row member =>
    occupied_of_row sound.coherent (List.mem_filter.mp member).1
  refine forall₂_congr fun seat _ => ?_
  rw [seatState_eq_available occupied, List.mem_map]
  exact ⟨fun untouched ⟨row, member, same⟩ => untouched row member same,
    fun absent row member same => absent ⟨row, member, same⟩⟩

theorem detail_iff {now : Nat} (housed : s.Housed) (ids : Spellings id id') :
    (Answer.page (detail s.venues s.db now id)).folded =
        (Answer.page (detail s.venues s.db now id')).folded ↔
      s.Indifferent choices (.read (.detail now id)) (.read (.detail now id')) := by
  by_cases announced : ∃ event, s.Announced id event
  · obtain ⟨event, announced⟩ := announced
    obtain ⟨venue, hosted⟩ := housed.events event announced.listed.1
    have only {other : Event} (also : s.Announced id other) : other = event := by
      refine Table.eq_of_clash also.listed.1 announced.listed.1 ?_
      have same := also.listed.2.symm.trans announced.listed.2
      rw [Option.some.injEq] at same
      simp [clash, same]
    rw [detail_announced announced hosted, detail_announced (announced.congr ids) hosted]
    constructor
    · intro same
      by_cases typed : id = id'
      · exact .inl typed
      have pages := Except.ok.inj (Answer.page.inj same)
      have prices := congrArg EventDetail.pricing pages
      have seats := List.map_inj_left.mp (congrArg EventDetail.inventory pages)
      refine .inr fun other also => ?_
      obtain rfl := only also
      refine ⟨unpriced_of_folded typed prices, unpriced_of_folded (Ne.symm typed) prices.symm, ?_⟩
      by_cases own : id = other.id.text
      · have apart : id' ≠ other.id.text := fun own' => typed (own.trans own'.symm)
        refine .inr ((untouched_iff sound).mpr fun seat member => ?_)
        have state := congrArg InventorySeat.state (seats seat member)
        simpa [inventorySeat, seatState, own, apart] using state
      · by_cases own' : id' = other.id.text
        · refine .inr ((untouched_iff sound).mpr fun seat member => ?_)
          have state := congrArg InventorySeat.state (seats seat member)
          simpa [inventorySeat, seatState, own, own'] using state.symm
        · exact .inl ⟨own, own'⟩
    · rintro (rfl | indifferent)
      · rfl
      obtain ⟨unpriced, unpriced', states⟩ := indifferent event announced
      rw [prices_typed.mp unpriced, prices_typed.mp unpriced']
      rcases states with ⟨other, other'⟩ | untouched
      · rw [if_neg other, if_neg other']
      · rw [untouched_iff sound] at untouched
        rw [pageOf_congr fun seat member => ?_]
        split <;> split
        · rfl
        · exact untouched seat member
        · exact (untouched seat member).symm
        · rfl
  · have unannounced : ∀ event, ¬s.Announced id event := fun event known => announced ⟨event, known⟩
    rw [detail_unannounced ids unannounced]
    exact iff_of_true rfl (.inr fun event known => absurd known (unannounced event))

/-- With nothing booked under a spelling, its figures are those of an empty house. -/
theorem analytics_idle (owned : ownedEvent s.db.catalog.events id user = .ok event)
    (idle : ∀ row ∈ s.db.reservations.rows, row.eventId.text ≠ id) :
    analytics s.db user id = .ok ⟨0, 0, 0, (venueSeats s.db.catalog event.venueId).length,
      (venueSeats s.db.catalog event.venueId).length, 0, ['I', 'R', 'R']⟩ := by
  have reservations : s.db.reservations.rows.filter (·.eventId.text = id) = [] :=
    List.filter_eq_nil_iff.mpr fun row member => by simpa using idle row member
  have payments : successfulPayments s.db id = [] := by
    refine List.eq_nil_iff_forall_not_mem.mpr fun p counted => ?_
    obtain ⟨-, -, row, member, -, typed, -⟩ := mem_successfulPayments.mp counted
    exact idle row member typed
  have booked : (s.db.reservationSeats.rows.countP fun row =>
      row.eventId.text = id ∧ row.state = .booked) = 0 := by
    refine List.countP_eq_zero.mpr fun row stored counted => ?_
    obtain ⟨r, member, -, here, -⟩ := reservation_of_row sound.coherent stored
    rw [decide_eq_true_eq] at counted
    exact idle r member (here ▸ counted.1)
  simp only [analytics, owned, reservations, payments, booked]
  simp [Doubles.sum]

theorem analytics_iff (ids : Spellings id id') :
    (s.read (.analytics user id)).folded = (s.read (.analytics user id')).folded ↔
      s.Indifferent choices (.read (.analytics user id)) (.read (.analytics user id')) := by
  by_cases guarded : organizes user = true
  swap
  · have refused : s.read (.analytics user id) = s.read (.analytics user id') := by
      simp only [Site.read, if_neg guarded]
    exact iff_of_true (by rw [refused]) (.inr fun _ organizes => absurd organizes guarded)
  simp only [Site.read, if_pos guarded]
  cases owned : ownedEvent s.db.catalog.events id user with
  | error failure =>
    have owned' : ownedEvent s.db.catalog.events id' user = .error failure :=
      ownedEvent_congr ids ▸ owned
    have refused : analytics s.db user id = analytics s.db user id' := by
      simp only [analytics, owned, owned']
    refine iff_of_true (by rw [refused]) (.inr fun event _ found => ?_)
    rw [owned] at found
    cases found
  | ok event =>
    have owned' : ownedEvent s.db.catalog.events id' user = .ok event := ownedEvent_congr ids ▸ owned
    have typed : (∀ row ∈ s.db.reservations.rows, row.eventId.text ≠ id) ↔
        id ≠ event.id.text ∨ ∀ row ∈ s.db.reservations.rows, row.eventId ≠ event.id :=
      idle_iff (ownedEvent_eq_ok.mp owned).2.1
    have typed' : (∀ row ∈ s.db.reservations.rows, row.eventId.text ≠ id') ↔
        id' ≠ event.id.text ∨ ∀ row ∈ s.db.reservations.rows, row.eventId ≠ event.id :=
      idle_iff (ownedEvent_eq_ok.mp owned').2.1
    constructor
    · intro same
      by_cases equal : id = id'
      · exact .inl equal
      refine .inr fun other _ found => ?_
      rw [owned, Except.ok.injEq] at found
      subst found
      have counts : (s.db.reservations.rows.filter (·.eventId.text = id)).length =
          (s.db.reservations.rows.filter (·.eventId.text = id')).length := by
        have figures := Answer.figures.inj same
        simp only [analytics, owned, owned', Except.ok.injEq] at figures
        exact congrArg Analytics.reservations figures
      have idle : (∀ row ∈ s.db.reservations.rows, row.eventId.text ≠ id) ↔
          ∀ row ∈ s.db.reservations.rows, row.eventId.text ≠ id' := by
        simpa only [List.length_eq_zero_iff, List.filter_eq_nil_iff, decide_eq_true_eq] using
          (counts ▸ Iff.rfl : (s.db.reservations.rows.filter (·.eventId.text = id)).length = 0 ↔
            (s.db.reservations.rows.filter (·.eventId.text = id')).length = 0)
      rw [typed, typed'] at idle
      -- at most one of the two spellings is the stored one
      by_cases own : id = event.id.text
      · have apart : id' ≠ event.id.text := fun own' => equal (own.trans own'.symm)
        exact .inr ((idle.mpr (.inl apart)).resolve_left (not_not.mpr own))
      · by_cases own' : id' = event.id.text
        · exact .inr ((idle.mp (.inl own)).resolve_left (not_not.mpr own'))
        · exact .inl ⟨own, own'⟩
    · rintro (rfl | indifferent)
      · rfl
      have both := indifferent event guarded owned
      rw [analytics_idle sound owned (typed.mpr (both.imp_left And.left)),
        analytics_idle sound owned' (typed'.mpr (both.imp_left And.right))]

end Sound

end KiTicket
