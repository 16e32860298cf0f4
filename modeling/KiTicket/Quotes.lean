import KiTicket.Currency

/-! Prices and the order of rows. Both pages take the first category that `find` comes
to, and neither query says in which order it wants the rows. An event can have several
default categories and several for one sector, so a seat has one price exactly when the
categories it could be priced by agree. -/
namespace KiTicket
open Runs Reservations Events KiTicket.Lists

variable {pricing xs ys : List PricingCategory} {x : PricingCategory} {seat : Seat}

/-- `candidate.sectorId === seat.sectorId` -/
def ofSector (seat : Seat) (price : PricingCategory) : Bool :=
  price.sectorId = some seat.sectorId.text

/-- The categories a seat could be priced by: those of its sector, or the default ones
where its sector has none. -/
def candidates (pricing : List PricingCategory) (seat : Seat) : List PricingCategory :=
  if pricing.any (ofSector seat) then pricing.filter (ofSector seat)
  else pricing.filter PricingCategory.isDefault

/-- Whichever of its candidates a seat is priced by, it costs the same. -/
def OnePrice (pricing : List PricingCategory) (seat : Seat) : Prop :=
  ∀ x ∈ candidates pricing seat, ∀ y ∈ candidates pricing seat,
    x.price = y.price ∧ x.currency = y.currency

/-- The inventory `detail` shows of some seats and the prices `create` looks up for any
of them, whatever order the rows come in. -/
structure SameInAnyOrder (pricing : List PricingCategory) (seats : List Seat) : Prop where
  quoted : ∀ xs ys, xs.Perm pricing → ys.Perm pricing → ∀ states,
    seats.map (inventorySeat states xs) = seats.map (inventorySeat states ys)
  charged : ∀ xs ys, xs.Perm pricing → ys.Perm pricing → ∀ selectedSeats ⊆ seats,
    seatPrices xs selectedSeats = seatPrices ys selectedSeats

theorem category_eq_head? : category pricing seat = (candidates pricing seat).head? := by
  unfold category candidates
  change (pricing.find? (ofSector seat) <|> pricing.find? PricingCategory.isDefault) = _
  cases found : pricing.find? (ofSector seat) with
  | some first =>
    have sectored : pricing.any (ofSector seat) = true :=
      List.any_eq_true.mpr ⟨first, List.mem_of_find?_eq_some found, List.find?_some found⟩
    rw [if_pos sectored, List.head?_filter, found]
    rfl
  | none =>
    have unsectored : ¬pricing.any (ofSector seat) = true := by
      rw [List.any_eq_true]
      rintro ⟨price, member, own⟩
      exact List.find?_eq_none.mp found price member own
    rw [if_neg unsectored, List.head?_filter]
    rfl

theorem candidates_perm (perm : xs.Perm ys) : (candidates xs seat).Perm (candidates ys seat) := by
  have same : xs.any (ofSector seat) = ys.any (ofSector seat) := by
    rw [Bool.eq_iff_iff, List.any_eq_true, List.any_eq_true]
    simp only [perm.mem_iff]
  unfold candidates
  rw [same]
  split
  · exact perm.filter _
  · exact perm.filter _

/-- A candidate that comes first is the category. -/
theorem category_front {rest : List PricingCategory} (candidate : x ∈ candidates (x :: rest) seat) :
    category (x :: rest) seat = some x := by
  rw [category_eq_head?]
  unfold candidates at candidate ⊢
  split at candidate
  · rename_i sectored
    have own := (List.mem_filter.mp candidate).2
    rw [if_pos sectored, List.filter_cons, if_pos own, List.head?_cons]
  · rename_i unsectored
    have default := (List.mem_filter.mp candidate).2
    rw [if_neg unsectored, List.filter_cons, if_pos default, List.head?_cons]

theorem OnePrice.category (one : OnePrice pricing seat) (left : xs.Perm pricing)
    (right : ys.Perm pricing) :
    (Reservations.category xs seat).map (fun price => (price.price, price.currency)) =
      (Reservations.category ys seat).map fun price => (price.price, price.currency) := by
  have first : (candidates xs seat).Perm (candidates pricing seat) := candidates_perm left
  have second : (candidates ys seat).Perm (candidates pricing seat) := candidates_perm right
  rw [category_eq_head?, category_eq_head?]
  cases atLeft : candidates xs seat with
  | nil =>
    rw [atLeft] at first
    rw [List.perm_nil.mp (second.trans first.symm)]
  | cons x xs' =>
    cases atRight : candidates ys seat with
    | nil =>
      rw [atRight] at second
      rw [List.nil_perm.mp (second.trans first.symm)] at atLeft
      cases atLeft
    | cons y ys' =>
      obtain ⟨price, currency⟩ := one x (first.subset (atLeft ▸ List.mem_cons_self))
        y (second.subset (atRight ▸ List.mem_cons_self))
      simp [price, currency]

theorem candidate_mem (candidate : x ∈ candidates pricing seat) : x ∈ pricing := by
  unfold candidates at candidate
  split at candidate
  · exact (List.mem_filter.mp candidate).1
  · exact (List.mem_filter.mp candidate).1

/-- Some order of the rows has the candidate picked. -/
theorem exists_order (candidate : x ∈ candidates pricing seat) :
    ∃ xs, xs.Perm pricing ∧ category xs seat = some x := by
  obtain ⟨rest, perm⟩ := exists_perm_cons (candidate_mem candidate)
  exact ⟨x :: rest, perm, category_front ((candidates_perm perm).mem_iff.mpr candidate)⟩

section OnePrice
variable (one : OnePrice pricing seat) (left : xs.Perm pricing) (right : ys.Perm pricing)
include one left right

theorem inventorySeat_of_onePrice (states : List ReservationSeat) :
    inventorySeat states xs seat = inventorySeat states ys seat := by
  have same := one.category left right
  have price := congrArg (Option.map Prod.fst) same
  have currency := congrArg (Option.map Prod.snd) same
  simp only [Option.map_map, Function.comp_def] at price currency
  simp only [inventorySeat, price, currency]

theorem priced_of_onePrice :
    ((category xs seat).map fun price => (seat.id.text, price.price)) =
      (category ys seat).map fun price => (seat.id.text, price.price) := by
  have price := congrArg (Option.map fun entry => (seat.id.text, entry.1)) (one.category left right)
  simpa only [Option.map_map, Function.comp_def] using price

end OnePrice

theorem seatPrices_congr {selectedSeats : List Seat}
    (same : ∀ seat ∈ selectedSeats,
      ((category xs seat).map fun price => (seat.id.text, price.price)) =
        (category ys seat).map fun price => (seat.id.text, price.price)) :
    seatPrices xs selectedSeats = seatPrices ys selectedSeats := by
  induction selectedSeats with
  | nil => rfl
  | cons seat selectedSeats ih =>
    unfold seatPrices at ih ⊢
    rw [List.mapM_cons, List.mapM_cons, same seat List.mem_cons_self,
      ih fun other member => same other (List.mem_cons_of_mem _ member)]

/-- What the pages show of some seats and charge for them does not depend on the order
of an event's categories exactly when the candidates of every seat agree in price and
currency. -/
theorem same_in_any_order_iff (pricing : List PricingCategory) (seats : List Seat) :
    SameInAnyOrder pricing seats ↔ ∀ seat ∈ seats, OnePrice pricing seat := by
  constructor
  · intro same seat member x left y right
    obtain ⟨xs, perm, picked⟩ := exists_order left
    obtain ⟨ys, perm', picked'⟩ := exists_order right
    have shown := List.map_inj_left.mp (same.quoted xs ys perm perm' []) seat member
    simp only [inventorySeat, picked, picked', InventorySeat.mk.injEq, Option.map_some,
      Option.getD_some, true_and] at shown
    exact shown
  · intro one
    refine ⟨?_, ?_⟩
    · intro xs ys left right states
      exact List.map_congr_left fun seat member =>
        inventorySeat_of_onePrice (one seat member) left right states
    · intro xs ys left right selectedSeats chosen
      exact seatPrices_congr fun seat member =>
        priced_of_onePrice (one seat (chosen member)) left right

/-- A default price of 50, and once more with 60: neither row has a sector, so the
unique constraint lets both in. -/
def corrected : List Site.Action :=
  setUp ++ price 3 (flat 0xc) ++
    [.request (.addPricing organizer (flatText 'e') ⟨none, ['p'], 60, none⟩), .turn 4 {},
      .turn 4 { ids := [flat 9] }] ++ publish 5

theorem corrected_enabled : (exec (Site.step sampleConfig) .empty corrected).isSome = true := by
  decide +kernel

theorem price_depends_on_order : ¬ ∀ (cfg : Config) (ts : List (Transition Site Site.Action))
    (s : Site), Run (Site.step cfg) .empty ts s → ∀ event ∈ s.db.catalog.events.rows,
      SameInAnyOrder (s.db.catalog.pricing event.id) (venueSeats s.db.catalog event.venueId) := by
  intro every
  have same := every sampleConfig _ _ (run_replay corrected_enabled)
    ⟨flat 0xe, ['o'], flatText '8', 1000000, true⟩ (by decide +kernel)
  have quoted := same.quoted _ _ (.refl _) (List.reverse_perm _) []
  revert quoted
  decide +kernel

end KiTicket
