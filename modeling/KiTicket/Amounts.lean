import Mathlib.Algebra.Order.BigOperators.Group.List
import KiTicket.Lib.Doubles
import KiTicket.Inventory

/-! Amounts and the columns and numbers that hold them. A price column and a total column
hold the same amounts, so whether a reservation can be stored depends on what the dearest
seats of its venue come to; the revenue of an event is a sum of doubles, and goes up with
every payment that completes. -/
namespace KiTicket
open Runs Reservations KiTicket.Lists
open Events (venueSeats successfulPayments)

variable {cfg : Config} {catalog : Catalog} {event : Event} {draft : Draft} {seat : Seat}
  {seatId : Text} {s s' : Site} {a : Site.Action} {ts : List (Transition Site Site.Action)}
  {w w' : World} {eventId : Uuid}

/-! ## The total of a reservation -/

/-- What `create` has drafted when it comes to add up the prices: for an accepted list of
seats, all of the event's venue and each with a category. -/
structure Catalog.Drafts (catalog : Catalog) (draft : Draft) : Prop where
  accepted : ∃ body : CreateReservationDto, body.accepted = true ∧ body.seatIds = draft.seatIds
  counted : (catalog.selection draft.event.venueId draft.seatIds).length = draft.seatIds.length
  priced : seatPrices (catalog.pricing draft.event.id)
    (catalog.selection draft.event.venueId draft.seatIds) = some draft.seatPrices

/-- `totalAmount`, as `create` adds it up. -/
def Reservations.Draft.added (draft : Draft) : Nat :=
  Doubles.sum (draft.seatIds.map fun seatId => (draft.price seatId).value)

/-- Every accepted list of seats comes to a total that fits its column, and no create is
refused for an overflow. -/
def Catalog.TotalsFit (catalog : Catalog) (event : Event) : Prop :=
  ∀ draft : Draft, draft.event = event → catalog.Drafts draft →
    draft.added < 10 ^ 14 ∧ ∀ cfg c db, draft.insert cfg c db ≠ .error .numericOverflow

/-- What the category of a seat charges for it. -/
def Catalog.seatPrice (catalog : Catalog) (event : Event) (seat : Seat) : Nat :=
  ((category (catalog.pricing event.id) seat).map (·.price.value)).getD 0

/-- The seats of the venue that a list can name and that have a category. -/
def Catalog.sellable (catalog : Catalog) (event : Event) : List Seat :=
  (venueSeats catalog event.venueId).filter fun seat =>
    isUUID4 seat.id.text && (category (catalog.pricing event.id) seat).isSome

/-- From the dearest down. -/
def Catalog.byPrice (catalog : Catalog) (event : Event) : List Seat :=
  (catalog.sellable event).mergeSort fun x y =>
    decide (catalog.seatPrice event y ≤ catalog.seatPrice event x)

/-- The ten dearest seats, or all where there are fewer. -/
def Catalog.dearest (catalog : Catalog) (event : Event) : List Seat :=
  (catalog.byPrice event).take 10

/-- The seats a list names as the API spells them. -/
def Catalog.billed (catalog : Catalog) (event : Event) (seatIds : List Text) : List Seat :=
  (venueSeats catalog event.venueId).filter fun seat => seatIds.contains seat.id.text

/-- A create that has priced the seats of an accepted list goes on with such a draft. -/
theorem drafts_of_turn {user : AuthenticatedUser} {body : CreateReservationDto} {c : Choice}
    {server server' : Server} (accepted : body.accepted = true)
    (counted : (server.db.catalog.selection event.venueId body.seatIds).length = body.seatIds.length)
    (turn : (Create.findPricing user body event
        (server.db.catalog.selection event.venueId body.seatIds)).turn cfg c server =
      some (server', .go (.acquire draft))) :
    draft.event = event ∧ server.db.catalog.Drafts draft := by
  simp only [Create.turn] at turn
  split at turn
  · cases turn
  rename_i prices priced
  split at turn
  · split at turn <;> cases turn
    exact ⟨rfl, ⟨body, accepted, rfl⟩, counted, priced⟩
  · cases turn

theorem mem_billed {seatIds : List Text} : seat ∈ catalog.billed event seatIds ↔
    seat ∈ venueSeats catalog event.venueId ∧ seat.id.text ∈ seatIds := by
  rw [Catalog.billed, List.mem_filter, List.contains_iff_mem]

theorem insert_eq_overflow {c : Choice} {db : Db} :
    draft.insert cfg c db = .error .numericOverflow ↔ 10 ^ 14 ≤ draft.totalAmount := by
  unfold Draft.insert
  by_cases fits : draft.totalAmount < 10 ^ 14
  · rw [Amount.ofNat?, dif_pos fits]
    refine iff_of_false ?_ (Nat.not_le.mpr fits)
    dsimp only
    split
    · intro failed
      cases failed
    · intro failed
      cases failed
  · rw [Amount.ofNat?, dif_neg fits]
    exact iff_of_true rfl (Nat.not_lt.mp fits)

theorem byPrice_sorted : (catalog.byPrice event).Pairwise fun x y =>
    catalog.seatPrice event y ≤ catalog.seatPrice event x := by
  have sorted : (catalog.byPrice event).Pairwise fun x y =>
      decide (catalog.seatPrice event y ≤ catalog.seatPrice event x) = true := by
    apply List.pairwise_mergeSort
    · intro x y z before after
      rw [decide_eq_true_eq] at before after ⊢
      exact after.trans before
    · intro x y
      rw [Bool.or_eq_true, decide_eq_true_eq, decide_eq_true_eq]
      exact Nat.le_total _ _
  exact sorted.imp of_decide_eq_true

namespace Catalog.Drafts
variable (drafts : catalog.Drafts draft)
include drafts

theorem short : draft.seatIds.length ≤ 10 := by
  obtain ⟨body, accepted, same⟩ := drafts.accepted
  simp only [CreateReservationDto.accepted, Bool.and_eq_true, decide_eq_true_eq, same] at accepted
  exact accepted.1.1.1.2.2

theorem distinct : draft.seatIds.Nodup := by
  obtain ⟨body, accepted, same⟩ := drafts.accepted
  simp only [CreateReservationDto.accepted, Bool.and_eq_true, decide_eq_true_eq, same] at accepted
  exact accepted.1.1.2

theorem isUUID4 (member : seatId ∈ draft.seatIds) : KiTicket.isUUID4 seatId = true := by
  obtain ⟨body, accepted, same⟩ := drafts.accepted
  simp only [CreateReservationDto.accepted, Bool.and_eq_true, same] at accepted
  exact List.all_eq_true.mp accepted.1.2 seatId member

/-- Ten amounts add up far below where a double would be rounded. -/
theorem added_eq : draft.added = draft.totalAmount := by
  apply Doubles.sum_of_le
  have bound : (draft.seatIds.map fun seatId => (draft.price seatId).value).sum ≤
      (draft.seatIds.map fun seatId => (draft.price seatId).value).length * 10 ^ 14 := by
    refine List.sum_le_card_nsmul _ _ ?_
    intro amount member
    obtain ⟨seatId, -, rfl⟩ := List.mem_map.mp member
    exact (draft.price seatId).fits.le
  have short := drafts.short
  rw [List.length_map] at bound
  omega

theorem selected : Selected catalog draft.seatIds
    (catalog.selection draft.event.venueId draft.seatIds) where
  known := List.filter_sublist.trans List.filter_sublist
  named seat member := by
    obtain ⟨seatId, asked, named⟩ := List.any_eq_true.mp (List.mem_filter.mp member).2
    exact List.mem_map.mpr ⟨seatId, asked, of_decide_eq_true named⟩
  counted := drafts.counted

/-- A seat named as the API spells it is priced by its category. -/
theorem price_eq (asked : seat.id.text ∈ draft.seatIds)
    (placed : seat ∈ venueSeats catalog draft.event.venueId) :
    (draft.price seat.id.text).value = catalog.seatPrice draft.event seat ∧
      (category (catalog.pricing draft.event.id) seat).isSome = true := by
  obtain ⟨price, ⟨found, known, named, covers⟩, charged⟩ :=
    draft.price_of_selected drafts.selected drafts.priced asked
  rw [uuid?_text, Option.some.injEq] at named
  obtain rfl : found = seat :=
    Table.eq_of_clash known (mem_venueSeats.mp placed).1 (by simp [clash, named])
  rw [if_pos (asReturned_iff.mpr ⟨_, rfl⟩)] at charged
  rw [Catalog.seatPrice, covers, charged]
  exact ⟨rfl, rfl⟩

theorem billed_perm : ((catalog.billed draft.event draft.seatIds).map fun seat => seat.id.text).Perm
    (draft.seatIds.filter asReturned) := by
  have single : ((catalog.billed draft.event draft.seatIds).map fun seat => seat.id.text).Nodup :=
    venueSeats_nodup.sublist (List.filter_sublist.map _)
  refine (List.perm_ext_iff_of_nodup single (drafts.distinct.filter _)).mpr fun seatId => ?_
  rw [List.mem_map, List.mem_filter]
  constructor
  · rintro ⟨seat, member, rfl⟩
    exact ⟨(mem_billed.mp member).2, asReturned_iff.mpr ⟨_, rfl⟩⟩
  · rintro ⟨asked, spelled⟩
    obtain ⟨seat, chosen, named⟩ := drafts.selected.resolves asked
    have same : seatId = seat.id.text := eq_text_of_asReturned spelled named
    exact ⟨seat, mem_billed.mpr ⟨(List.mem_filter.mp chosen).1, same ▸ asked⟩, same.symm⟩

/-- Seats named in another spelling cost nothing, the others what their categories say. -/
theorem total_eq : draft.totalAmount =
    ((catalog.billed draft.event draft.seatIds).map (catalog.seatPrice draft.event)).sum := by
  have split := sum_filter_or (p := fun _ => true) (q := asReturned) (r := fun text => !asReturned text)
    (f := fun seatId => (draft.price seatId).value) (fun text => by simp) (fun text => by simp)
    draft.seatIds
  have free : ((draft.seatIds.filter fun text => !asReturned text).map
      fun seatId => (draft.price seatId).value).sum = 0 := by
    refine List.sum_eq_zero fun amount member => ?_
    obtain ⟨seatId, chosen, rfl⟩ := List.mem_map.mp member
    obtain ⟨asked, other⟩ := List.mem_filter.mp chosen
    obtain ⟨price, -, charged⟩ := draft.price_of_selected drafts.selected drafts.priced asked
    rw [charged, if_neg (by simpa using other)]
    rfl
  rw [List.filter_true, free, Nat.add_zero, ← (drafts.billed_perm.map _).sum_nat, List.map_map] at split
  rw [Draft.totalAmount, split]
  refine congrArg List.sum (List.map_congr_left fun seat member => ?_)
  obtain ⟨placed, asked⟩ := mem_billed.mp member
  exact (drafts.price_eq asked placed).1

/-- No list comes to more than the dearest seats. -/
theorem total_le : draft.totalAmount ≤
    ((catalog.dearest draft.event).map (catalog.seatPrice draft.event)).sum := by
  have short : (catalog.billed draft.event draft.seatIds).length ≤ 10 := by
    have names := drafts.billed_perm.length_eq
    rw [List.length_map] at names
    exact names ▸ (List.length_filter_le _ _).trans drafts.short
  have distinct : (catalog.billed draft.event draft.seatIds).Nodup :=
    (venueSeats_nodup.of_map).filter _
  have within : catalog.billed draft.event draft.seatIds ⊆ catalog.byPrice draft.event := by
    intro seat member
    obtain ⟨placed, asked⟩ := mem_billed.mp member
    refine (List.mergeSort_perm _ _).mem_iff.mpr (List.mem_filter.mpr ⟨placed, ?_⟩)
    rw [Bool.and_eq_true]
    exact ⟨drafts.isUUID4 asked, (drafts.price_eq asked placed).2⟩
  rw [drafts.total_eq]
  exact sum_le_sum_take byPrice_sorted (List.subperm_of_subset distinct within) short

end Catalog.Drafts

theorem sellable_nodup : (catalog.sellable event).Nodup := venueSeats_nodup.of_map.filter _

theorem dearest_nodup : (catalog.dearest event).Nodup :=
  ((List.mergeSort_perm _ _).nodup_iff.mpr sellable_nodup).sublist (List.take_sublist _ _)

theorem sellable_of_dearest (member : seat ∈ catalog.dearest event) :
    seat ∈ catalog.sellable event :=
  (List.mergeSort_perm _ _).mem_iff.mp (List.mem_of_mem_take member)

/-- Of ten seats or fewer all count. -/
theorem sum_dearest (few : (catalog.sellable event).length ≤ 10) :
    ((catalog.dearest event).map (catalog.seatPrice event)).sum =
      ((catalog.sellable event).map (catalog.seatPrice event)).sum := by
  have perm : (catalog.byPrice event).Perm (catalog.sellable event) := List.mergeSort_perm _ _
  rw [Catalog.dearest, List.take_of_length_le (perm.length_eq ▸ few)]
  exact (perm.map _).sum_nat

theorem mem_sellable : seat ∈ catalog.sellable event ↔ seat ∈ venueSeats catalog event.venueId ∧
    isUUID4 seat.id.text = true ∧ (category (catalog.pricing event.id) seat).isSome = true := by
  rw [Catalog.sellable, List.mem_filter, Bool.and_eq_true]

theorem billed_dearest : (catalog.billed event
    ((catalog.dearest event).map fun seat => seat.id.text)).Perm (catalog.dearest event) := by
  refine (List.perm_ext_iff_of_nodup (venueSeats_nodup.of_map.filter _) dearest_nodup).mpr fun seat => ?_
  rw [← Catalog.billed, mem_billed, List.mem_map]
  constructor
  · rintro ⟨placed, other, chosen, same⟩
    have placed' := (mem_sellable.mp (sellable_of_dearest chosen)).1
    rwa [← List.inj_on_of_nodup_map venueSeats_nodup placed' placed same]
  · intro chosen
    exact ⟨(mem_sellable.mp (sellable_of_dearest chosen)).1, seat, chosen, rfl⟩

/-- The dearest seats can be asked for, and come to what they cost. -/
theorem exists_draft (any : catalog.dearest event ≠ []) : ∃ draft : Draft, draft.event = event ∧
    catalog.Drafts draft ∧
    draft.totalAmount = ((catalog.dearest event).map (catalog.seatPrice event)).sum := by
  let seatIds := (catalog.dearest event).map fun seat => seat.id.text
  have selection : catalog.selection event.venueId seatIds = catalog.billed event seatIds := by
    have named : catalog.selection event.venueId
        (((catalog.dearest event).map Seat.id).map Uuid.text) = _ := selection_of_ids
    rw [List.map_map] at named
    refine named.trans (List.filter_congr fun seat _ => ?_)
    rw [Bool.eq_iff_iff, decide_eq_true_eq, List.contains_iff_mem]
    rfl
  have covered : ∀ seat ∈ catalog.billed event seatIds,
      ∃ price, category (catalog.pricing event.id) seat = some price := by
    intro seat member
    have chosen := billed_dearest.mem_iff.mp member
    exact Option.isSome_iff_exists.mp (mem_sellable.mp (sellable_of_dearest chosen)).2.2
  obtain ⟨prices, priced⟩ := exists_seatPrices covered
  have accepted : (⟨flatText 'e', seatIds, none⟩ : CreateReservationDto).accepted = true := by
    have length : seatIds.length = (catalog.dearest event).length := List.length_map _
    have some : 0 < (catalog.dearest event).length := List.length_pos_iff.mpr any
    have most : (catalog.dearest event).length ≤ 10 := List.length_take_le _ _
    have distinct : seatIds.Nodup := by
      refine dearest_nodup.map_on fun x left y right same => ?_
      exact List.inj_on_of_nodup_map venueSeats_nodup (mem_sellable.mp (sellable_of_dearest left)).1
        (mem_sellable.mp (sellable_of_dearest right)).1 same
    have versions : seatIds.all isUUID4 = true := by
      refine List.all_eq_true.mpr fun seatId member => ?_
      obtain ⟨seat, chosen, rfl⟩ := List.mem_map.mp member
      exact (mem_sellable.mp (sellable_of_dearest chosen)).2.1
    have event : isUUID (flatText 'e') = true := by decide +kernel
    simp only [CreateReservationDto.accepted, Bool.and_eq_true, decide_eq_true_eq]
    exact ⟨⟨⟨⟨event, by omega⟩, distinct⟩, versions⟩, rfl⟩
  have drafts : catalog.Drafts ⟨event.id, [], event, seatIds, prices, []⟩ := by
    refine ⟨⟨_, accepted, rfl⟩, ?_, ?_⟩
    · rw [selection, billed_dearest.length_eq, List.length_map]
    · rw [selection]
      exact priced
  refine ⟨_, rfl, drafts, ?_⟩
  rw [drafts.total_eq]
  exact (billed_dearest.map _).sum_nat

/-- Every list fits exactly when the dearest seats do. -/
theorem totals_fit_iff : catalog.TotalsFit event ↔
    ((catalog.dearest event).map (catalog.seatPrice event)).sum < 10 ^ 14 := by
  constructor
  · intro fits
    by_cases any : catalog.dearest event = []
    · rw [any]
      exact (by decide : 0 < 10 ^ 14)
    · obtain ⟨draft, same, drafts, total⟩ := exists_draft any
      rw [← total, ← drafts.added_eq]
      exact (fits draft same drafts).1
  · rintro fits draft rfl drafts
    have below : draft.totalAmount < 10 ^ 14 := drafts.total_le.trans_lt fits
    exact ⟨drafts.added_eq ▸ below, fun cfg c db => mt insert_eq_overflow.mp (Nat.not_le.mpr below)⟩

/-! ## The revenue of an event -/

/-- What the confirmed reservations of an event have been charged. -/
def Db.revenue (db : Db) (eventId : Uuid) : Nat :=
  ((db.confirmed eventId).map (·.totalAmount.value)).sum

/-- What a reservation adds to the revenue of an event. -/
def Reservation.charged (eventId : Uuid) (r : Reservation) : Nat :=
  if r.eventId = eventId ∧ r.state = .confirmed then r.totalAmount.value else 0

def Booking.charged (eventId : Uuid) (b : Booking) : Nat :=
  (b.reservation.map (Reservation.charged eventId)).getD 0

/-- The revenue `analytics` reports, of the rows in any order, is a safe integer and the
sum of the amounts. -/
def Db.RevenueExact (db : Db) : Prop :=
  ∀ (eventId : Uuid) (rows : List Payment), rows.Perm (successfulPayments db eventId.text) →
    Doubles.sum (rows.map (·.amount.value)) ≤ Doubles.maxSafe ∧
      Doubles.sum (rows.map (·.amount.value)) = (rows.map (·.amount.value)).sum

/-- A reservation that the step confirms finds room in the revenue of its event. -/
def FindsRoom (t : Transition Site Site.Action) : Prop :=
  ∀ r ∈ t.target.db.reservations.rows, r.state = .confirmed →
    World.stateOf t.source.world r.id ≠ some .confirmed →
      t.source.db.revenue r.eventId + r.totalAmount.value ≤ Doubles.maxSafe

/-- A revenue that is safe is exact. -/
theorem Db.revenueExact_iff_safe {db : Db} : db.RevenueExact ↔
    ∀ (eventId : Uuid) (rows : List Payment), rows.Perm (successfulPayments db eventId.text) →
      Doubles.sum (rows.map (·.amount.value)) ≤ Doubles.maxSafe := by
  constructor
  · intro exact eventId rows perm
    exact (exact eventId rows perm).1
  · intro safe eventId rows perm
    exact Doubles.sum_safe_iff.mpr (Doubles.sum_le_maxSafe_iff.mp (safe eventId rows perm))

theorem revenueExact_iff (coherent : ∀ id, (s.db.booking id).Coherent) :
    s.db.RevenueExact ↔ ∀ eventId, s.db.revenue eventId ≤ Doubles.maxSafe := by
  refine forall_congr' fun eventId => ?_
  rw [Db.revenue, ← sum_successfulPayments coherent]
  constructor
  · intro exact
    exact Doubles.sum_safe_iff.mp (exact _ (.refl _))
  · intro safe rows perm
    rw [← (perm.map _).sum_nat] at safe
    exact Doubles.sum_safe_iff.mpr safe

theorem revenue_eq {db : Db} :
    db.revenue eventId = (db.reservations.rows.map (Reservation.charged eventId)).sum := by
  unfold Reservation.charged
  rw [List.sum_map_ite]
  simp [Db.revenue, Db.confirmed]

theorem reservation_ids {db : Db} : (db.reservations.rows.map Reservation.id).Nodup := by
  rw [List.Nodup, List.pairwise_map]
  exact db.reservations.unique.imp fun apart same => by simp [clash, same] at apart

/-- What one booking does to the revenue when nothing happens to the others. -/
theorem revenue_elsewhere {db db' : Db} {moved : Uuid}
    (elsewhere : ∀ id, id ≠ moved → (db'.booking id).reservation = (db.booking id).reservation) :
    db'.revenue eventId + (db.booking moved).charged eventId =
      db.revenue eventId + (db'.booking moved).charged eventId := by
  rw [revenue_eq, revenue_eq]
  exact sum_elsewhere reservation_ids reservation_ids elsewhere

theorem charged_of_unconfirmed {r : Reservation} (unconfirmed : r.state ≠ .confirmed) :
    r.charged eventId = 0 :=
  if_neg fun both => unconfirmed both.2

/-- A booking whose reservation is not confirmed is charged nothing. -/
theorem Booking.charged_eq_zero {b : Booking}
    (unconfirmed : ∀ r, b.reservation = some r → r.state ≠ .confirmed) : b.charged eventId = 0 := by
  unfold Booking.charged
  cases of : b.reservation with
  | none => rfl
  | some r => exact charged_of_unconfirmed (unconfirmed r of)

/-- A move confirms a reservation, or it charges nothing. -/
theorem Booking.Step.charged_cases {m : Move} {b b' : Booking} (step : Booking.Step m b b')
    (coherent : b.Coherent) :
    ((∀ eventId, b'.charged eventId = b.charged eventId) ∧
      ∀ r', b'.reservation = some r' → r'.state = .confirmed → b.reservation = some r') ∨
    ∃ r r', b.reservation = some r ∧ r.state ≠ .confirmed ∧ b'.reservation = some r' ∧
      r'.state = .confirmed := by
  have neither (before : ∀ r, b.reservation = some r → r.state ≠ .confirmed)
      (after : ∀ r, b'.reservation = some r → r.state ≠ .confirmed) :
      (∀ eventId, b'.charged eventId = b.charged eventId) ∧
        ∀ r', b'.reservation = some r' → r'.state = .confirmed → b.reservation = some r' :=
    ⟨fun eventId => by rw [charged_eq_zero before, charged_eq_zero after],
      fun r' of confirmed => absurd confirmed (after r' of)⟩
  cases step
  case create pending _ _ =>
    refine .inl (neither (fun r of => by cases of) fun r of => ?_)
    cases of
    rw [pending]
    exact ReservationState.noConfusion
  case cancel pending _ =>
    refine .inl (neither (fun r of => ?_) fun r of => ?_) <;> cases of
    · rw [pending]
      exact ReservationState.noConfusion
    · exact ReservationState.noConfusion
  case expire pending =>
    refine .inl (neither (fun r of => ?_) fun r of => ?_) <;> cases of
    · rw [pending]
      exact ReservationState.noConfusion
    · exact ReservationState.noConfusion
  case start => exact .inl ⟨fun _ => rfl, fun _ same _ => same⟩
  case confirm opened _ granted _ =>
    exact .inr ⟨_, _, rfl, (coherent.open_payment rfl rfl opened).1, rfl,
      (transition_spec _ _).2.2.2.1.mp granted⟩
  case compensate opened refused =>
    refine .inl (neither (fun r of => ?_) fun r of => ?_) <;> cases of
    · exact (coherent.open_payment rfl rfl opened).1
    · exact mt (transition_spec _ _).2.2.2.1.mpr refused

section Next
variable (safe : ∀ eventId, s.db.revenue eventId ≤ Doubles.maxSafe)
include safe

theorem room_of_quiet
    (same : ∀ id, (s'.db.booking id).reservation = (s.db.booking id).reservation) :
    (∀ eventId, s'.db.revenue eventId ≤ Doubles.maxSafe) ↔ FindsRoom ⟨s, a, s'⟩ := by
  constructor
  · intro _ r stored confirmed new
    have of : (s'.db.booking r.id).reservation = some r := booking_reservation_eq_some.mpr ⟨stored, rfl⟩
    exact absurd (stateOf_eq_some.mpr ⟨r, (same r.id).symm.trans of, confirmed⟩) new
  · intro _ eventId
    -- any id will do for the one that moved
    have moved : s'.db.revenue eventId + (s.db.booking eventId).charged eventId =
        s.db.revenue eventId + (s'.db.booking eventId).charged eventId :=
      revenue_elsewhere fun id _ => same id
    rw [Booking.charged, Booking.charged, same] at moved
    exact (Nat.add_right_cancel moved) ▸ safe eventId

theorem room_of_move {m : Move} {moved : Uuid} (coherent : (s.db.booking moved).Coherent)
    (step : Booking.Step m (s.db.booking moved) (s'.db.booking moved))
    (elsewhere : ∀ id, id ≠ moved → s'.db.booking id = s.db.booking id) :
    (∀ eventId, s'.db.revenue eventId ≤ Doubles.maxSafe) ↔ FindsRoom ⟨s, a, s'⟩ := by
  have gains (eventId : Uuid) : s'.db.revenue eventId + (s.db.booking moved).charged eventId =
      s.db.revenue eventId + (s'.db.booking moved).charged eventId :=
    revenue_elsewhere fun id other => congrArg Booking.reservation (elsewhere id other)
  -- what another booking has confirmed was confirmed before
  have only {r : Reservation} (stored : r ∈ s'.db.reservations.rows) (confirmed : r.state = .confirmed)
      (new : World.stateOf s.world r.id ≠ some .confirmed) :
      (s'.db.booking moved).reservation = some r := by
    have of : (s'.db.booking r.id).reservation = some r := booking_reservation_eq_some.mpr ⟨stored, rfl⟩
    by_cases here : r.id = moved
    · exact here ▸ of
    · rw [elsewhere r.id here] at of
      exact absurd (stateOf_eq_some.mpr ⟨r, of, confirmed⟩) new
  rcases step.charged_cases coherent with ⟨same, kept⟩ | ⟨r, r', of, unconfirmed, of', confirmed⟩
  · constructor
    · intro _ r stored confirmed new
      obtain ⟨member, named⟩ := booking_reservation_eq_some.mp (only stored confirmed new)
      have before := kept r (only stored confirmed new) confirmed
      exact absurd (stateOf_eq_some.mpr ⟨r, named.symm ▸ before, confirmed⟩) new
    · intro _ eventId
      have gain := gains eventId
      rw [same eventId] at gain
      exact (Nat.add_right_cancel gain) ▸ safe eventId
  · have nothing (eventId : Uuid) : (s.db.booking moved).charged eventId = 0 :=
      Booking.charged_eq_zero fun other of' => by
        rw [of, Option.some.injEq] at of'
        exact of' ▸ unconfirmed
    have charges (eventId : Uuid) :
        (s'.db.booking moved).charged eventId = r'.charged eventId := by
      rw [Booking.charged, of']
      rfl
    constructor
    · intro within q stored confirmed' new
      have same := only stored confirmed' new
      rw [of', Option.some.injEq] at same
      subst same
      have gain := gains r'.eventId
      have bound := within r'.eventId
      rw [nothing, charges, Reservation.charged, if_pos ⟨rfl, confirmed⟩] at gain
      dsimp only
      omega
    · intro room eventId
      have gain := gains eventId
      rw [nothing, charges, Reservation.charged] at gain
      by_cases here : r'.eventId = eventId
      · subst here
        obtain ⟨stored, named⟩ := booking_reservation_eq_some.mp of'
        have new : World.stateOf s.world r'.id ≠ some .confirmed := by
          intro confirmed
          obtain ⟨q, of'', state⟩ := stateOf_eq_some.mp confirmed
          rw [named, of, Option.some.injEq] at of''
          exact unconfirmed (of'' ▸ state)
        have bound := room r' stored confirmed new
        rw [if_pos ⟨rfl, confirmed⟩] at gain
        dsimp only at bound
        omega
      · rw [if_neg fun both => here both.1] at gain
        have bound := safe eventId
        omega

end Next

theorem revenue_next (sound : s.Sound) (taken : Site.step cfg s a = some s')
    (safe : ∀ eventId, s.db.revenue eventId ≤ Doubles.maxSafe) :
    (∀ eventId, s'.db.revenue eventId ≤ Doubles.maxSafe) ↔ FindsRoom ⟨s, a, s'⟩ := by
  cases Site.step_cases taken
  case booking a world moves =>
    cases (sound.world.next spelled_any moves).2
    case same unchanged => exact room_of_quiet safe fun id => congrArg Booking.reservation (unchanged id)
    case moves step elsewhere => exact room_of_move safe (sound.coherent _) step elsewhere
  case request => exact room_of_quiet safe fun _ => rfl
  case turn => exact room_of_quiet safe fun _ => rfl
  case crash => exact room_of_quiet safe fun _ => rfl

/-- For every set of prices, all totals fit their column exactly when the ten dearest
seats of the venue do; and in a run the revenue of every event stays an exact, safe
integer exactly when every reservation that is confirmed finds room in it. -/
theorem amounts_fit_iff {listing : Listing} (run : Run (Site.step cfg) (.unbooked listing) ts s) :
    (∀ (catalog : Catalog) (event : Event), catalog.TotalsFit event ↔
      ((catalog.dearest event).map (catalog.seatPrice event)).sum < 10 ^ 14) ∧
    ((∀ before middle, before <+: ts → Run (Site.step cfg) (.unbooked listing) before middle →
      middle.db.RevenueExact) ↔ ∀ t ∈ ts, FindsRoom t) := by
  refine ⟨fun _ _ => totals_fit_iff, ?_⟩
  refine run.prefixes_iff (P := fun _ s => s.db.RevenueExact)
    ((revenueExact_iff Site.sound_unbooked.coherent).mpr fun _ => Nat.zero_le _) ?_
  intro ts s a s' before taken exact
  have sound : s.Sound := Site.sound_unbooked.run before
  rw [revenueExact_iff (sound.next taken).1.coherent]
  exact revenue_next sound taken ((revenueExact_iff sound.coherent).mp exact)

instance {t : Transition Site Site.Action} : Decidable (FindsRoom t) := by
  unfold FindsRoom
  infer_instance

/-- The event of the sample catalog. -/
def sampleRow : Event := ⟨flat 0xe, ['o'], ['v'], 1000000, true⟩

theorem amounts_fit_iff_sold :
    sampleCatalog.TotalsFit sampleRow ∧ (launched soldOut soldOut_enabled).db.RevenueExact := by
  have run : Run (Site.step sampleConfig) (.unbooked blank) _ _ := run_replay soldOut_enabled
  obtain ⟨totals, revenue⟩ := amounts_fit_iff run
  have small : ((sampleCatalog.dearest sampleRow).map (sampleCatalog.seatPrice sampleRow)).sum < 10 ^ 14 := by
    rw [sum_dearest (by decide +kernel)]
    decide +kernel
  exact ⟨(totals _ _).mpr small,
    revenue.mpr (by decide +kernel) _ _ List.prefix_rfl run⟩

/-- The sample catalog with a price of 60 000 000 000 000. -/
def dear : Catalog := { sampleCatalog with
  prices := ⟨[⟨flat 0xc, flatText 'e', none, ['p'], ⟨6 * 10 ^ 13, by decide⟩, ['I', 'R', 'R']⟩],
    by simp⟩ }

/-- Two seats come to more than the total column holds. -/
theorem two_seats_overflow : ¬ dear.TotalsFit sampleRow := by
  rw [totals_fit_iff, sum_dearest (by decide +kernel)]
  decide +kernel

end KiTicket
