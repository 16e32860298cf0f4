import KiTicket.Outcomes
import KiTicket.Site

/-! Money and currencies. A reservation takes the currency of the event's first price
row and its amount from the rows of its seats; a payment copies both, and the
analytics report the first payment's currency for the sum. All of them name the same
currency as long as no category is added to an event in another currency than those
it has. -/
namespace KiTicket
open Runs Events

variable {cfg : Config} {db : Db} {s s' : Site} {a : Site.Action}
  {ts : List (Transition Site Site.Action)}

/-- A reservation, its payment and the categories of its seats are in one currency, and
the analytics add up payments in the currency they report. -/
structure Db.OneCurrency (db : Db) : Prop where
  seats : ∀ r ∈ db.reservations.rows, ∀ row ∈ db.reservationSeats.rows, row.reservationId = r.id →
    ∀ price, db.catalog.Covers r.eventId row.seatId price → price.currency = r.currency
  payments : ∀ r ∈ db.reservations.rows, ∀ p ∈ db.payments.rows, p.reservationId = r.id →
    p.currency = r.currency
  analytics : ∀ user path figures, analytics db user path = .ok figures →
    ∀ p ∈ successfulPayments db path, p.currency = figures.currency

/-- The categories of an event are in one currency. -/
def Catalog.Uniform (catalog : Catalog) : Prop :=
  ∀ x ∈ catalog.prices.rows, ∀ y ∈ catalog.prices.rows, x.eventId = y.eventId →
    x.currency = y.currency

/-- A category about to be added is in the currency of those that the event has. -/
def CatalogProc.AddsSameCurrency (catalog : Catalog) : CatalogProc → Prop
  | .addPricing (.save path body) => ∀ price ∈ catalog.prices.rows, price.eventId = path →
      price.currency = body.currency.getD ['I', 'R', 'R']
  | _ => True

def AddsSameCurrency (t : Transition Site Site.Action) : Prop :=
  match t.action with
  | .turn pid _ => ∀ p ∈ t.source.procs[pid]?, p.AddsSameCurrency t.source.db.catalog
  | _ => True

theorem Catalog.Uniform.next (sound : s.Sound) (uniform : s.db.catalog.Uniform)
    (taken : Site.step cfg s a = some s') (same : AddsSameCurrency ⟨s, a, s'⟩) :
    s'.db.catalog.Uniform := by
  cases Site.step_cases taken
  case booking a world moves =>
    have kept : world.db.catalog = s.db.catalog := catalog_of_step moves
    exact kept ▸ uniform
  case request => exact uniform
  case turn pid c p p' listing serving turn =>
    have grown := CatalogProc.grown (sound.procs p (List.mem_of_getElem? serving)) turn
    rcases grown.prices with kept | ⟨path, body, id, price, rfl, added⟩
    · unfold Catalog.Uniform
      exact kept ▸ uniform
    · have fits := same _ serving
      intro x left y right event
      change x ∈ listing.catalog.prices.rows at left
      change y ∈ listing.catalog.prices.rows at right
      rw [added, List.mem_append, List.mem_singleton] at left right
      rcases left with left | rfl <;> rcases right with right | rfl
      · exact uniform x left y right event
      · exact fits x left event
      · exact (fits y right event.symm).symm
      · rfl
  case crash => exact uniform

/-- Whatever the event trades in is what it is priced in. -/
theorem Catalog.Uniform.trades {catalog : Catalog} {eventId : Uuid} {x y : Text}
    (uniform : catalog.Uniform) (left : catalog.Trades eventId x) (right : catalog.Trades eventId y) :
    x = y := by
  obtain ⟨a, member, rfl⟩ := left
  obtain ⟨b, member', rfl⟩ := right
  obtain ⟨stored, event⟩ := List.mem_filter.mp member
  obtain ⟨stored', event'⟩ := List.mem_filter.mp member'
  exact uniform a stored b stored' ((of_decide_eq_true event).trans (of_decide_eq_true event').symm)

theorem mem_successfulPayments {path : Text} {p : Payment} :
    p ∈ successfulPayments db path ↔ p ∈ db.payments.rows ∧ p.state = .success ∧
      ∃ r ∈ db.reservations.rows, r.id = p.reservationId ∧ r.eventId.text = path ∧
        r.state = .confirmed := by
  simp only [successfulPayments, List.mem_filter, List.mem_map, decide_eq_true_eq]
  constructor
  · rintro ⟨stored, ⟨r, ⟨member, event, state⟩, named⟩, success⟩
    exact ⟨stored, success, r, member, named, event, state⟩
  · rintro ⟨stored, success, r, member, named, event, state⟩
    exact ⟨stored, ⟨r, ⟨member, event, state⟩, named⟩, success⟩

section Sound
variable (sound : s.Sound)
include sound

theorem Site.Sound.trades {r : Reservation} (stored : r ∈ s.db.reservations.rows) :
    s.db.catalog.Trades r.eventId r.currency :=
  (sound.placed.stored r.id r (booking_reservation_eq_some.mpr ⟨stored, rfl⟩)).1

theorem Site.Sound.currency {r : Reservation} {p : Payment} (stored : r ∈ s.db.reservations.rows)
    (paid : p ∈ s.db.payments.rows) (of : p.reservationId = r.id) : p.currency = r.currency :=
  ((sound.coherent r.id).amount (booking_reservation_eq_some.mpr ⟨stored, rfl⟩)
    (booking_payment_eq_some.mpr ⟨paid, of⟩)).2

theorem oneCurrency_of_uniform (uniform : s.db.catalog.Uniform) : s.db.OneCurrency where
  seats r stored row member of price covers := by
    obtain ⟨seat, -, -, found⟩ := covers
    exact uniform.trades ⟨price, category_mem found, rfl⟩ (sound.trades stored)
  payments r stored p paid of := sound.currency stored paid of
  analytics user path figures reported p counted := by
    have charged {p : Payment} (counted : p ∈ successfulPayments s.db path) :
        ∃ r ∈ s.db.reservations.rows, r.eventId.text = path ∧ p.currency = r.currency := by
      obtain ⟨paid, -, r, stored, named, event, -⟩ := mem_successfulPayments.mp counted
      exact ⟨r, stored, event, sound.currency stored paid named.symm⟩
    unfold Events.analytics at reported
    split at reported <;> cases reported
    dsimp only
    cases all : successfulPayments s.db path with
    | nil =>
      rw [all] at counted
      cases counted
    | cons first rest =>
      -- two payments for one event
      obtain ⟨r, stored, event, mine⟩ := charged counted
      obtain ⟨r', stored', event', first'⟩ := charged (all ▸ List.mem_cons_self)
      have same : r.eventId = r'.eventId := Uuid.text_injective (event.trans event'.symm)
      have trades := sound.trades stored
      rw [same] at trades
      rw [mine, uniform.trades trades (sound.trades stored'), ← first']
      rfl

end Sound

/-- In a run in which categories are added in the currency their event is priced in,
all money of an event is in that currency. -/
theorem money_in_one_currency (run : Run (Site.step cfg) .empty ts s)
    (same : ∀ t ∈ ts, AddsSameCurrency t) : s.db.OneCurrency := by
  have both : s.Sound ∧ s.db.catalog.Uniform := by
    refine run.invariant (P := fun s => s.Sound ∧ s.db.catalog.Uniform) same
      ⟨Site.sound_empty, fun x member => absurd member List.not_mem_nil⟩ ?_
    rintro s a s' ⟨sound, uniform⟩ same taken
    exact ⟨(sound.next taken).1, uniform.next sound taken same⟩
  exact oneCurrency_of_uniform both.1 both.2

/-- The customer buys seat `a…` at the open site. -/
def soldOut : List Site.Action :=
  setUp ++ price 3 (flat 0xc) ++ publish 4 ++ purchase.map .booking

theorem soldOut_enabled : (exec (Site.step sampleConfig) .empty soldOut).isSome = true := by
  decide +kernel

instance {catalog : Catalog} : DecidablePred (CatalogProc.AddsSameCurrency catalog) := by
  intro p
  unfold CatalogProc.AddsSameCurrency
  split
  · infer_instance
  · infer_instance

instance : DecidablePred AddsSameCurrency
  | ⟨s, .turn pid _, _⟩ =>
    inferInstanceAs (Decidable (∀ p ∈ s.procs[pid]?, p.AddsSameCurrency s.db.catalog))
  | ⟨_, .booking _, _⟩ | ⟨_, .request _, _⟩ | ⟨_, .crash _, _⟩ => .isTrue trivial

theorem money_in_one_currency_sold : (launched soldOut soldOut_enabled).db.OneCurrency :=
  money_in_one_currency (run_replay soldOut_enabled) (by decide +kernel)

/-- The sector's own category, in another currency than the default one. -/
def dollars : PricingCategory :=
  ⟨flat 9, flatText 'e', some (flatText 'd'), ['q'], samplePrice, ['U', 'S', 'D']⟩

/-- Seat `a…`, priced in dollars, is reserved in the currency of the default price. -/
def mixed : List Site.Action :=
  setUp ++ price 3 (flat 0xc) ++
    [.request (.addPricing organizer (flatText 'e')
        ⟨some (flatText 'd'), ['q'], 50, some ['U', 'S', 'D']⟩),
      .turn 4 {}, .turn 4 {}, .turn 4 { ids := [flat 9] }] ++
    publish 5 ++ reserve.map .booking

theorem mixed_enabled : (exec (Site.step sampleConfig) .empty mixed).isSome = true := by
  decide +kernel

theorem money_in_two_currencies : ¬ ∀ (cfg : Config) (ts : List (Transition Site Site.Action))
    (s : Site), Run (Site.step cfg) .empty ts s → s.db.OneCurrency := by
  intro every
  have one := every sampleConfig _ _ (run_replay mixed_enabled)
  have same := one.seats (sampleReservation .pending) (by decide +kernel)
    ⟨flat 2, flat 1, flat 0xe, flatText 'a', .locked, samplePrice⟩ (by decide +kernel) rfl dollars
    ⟨⟨flat 0xa, flat 0xd, ['A'], 1, false⟩, by decide +kernel, by decide +kernel, by decide +kernel⟩
  revert same
  decide

end KiTicket
