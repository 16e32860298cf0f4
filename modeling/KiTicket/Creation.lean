import Mathlib.Data.List.Perm.Subperm
import KiTicket.Consistency
import KiTicket.Frames

/-! Creating a reservation. The seat ids of the request are `uuid`s where `create`
looks up the seats, and strings where the body is validated, where a price is
looked up, where a lock is taken and where the unique constraint compares them.
The two notions agree on the spelling the API returns and on no other. -/
namespace KiTicket
open Runs Reservations KiTicket.Lists

variable {cfg : Config} {catalog : Catalog} {w w' : World} {ts : List (Transition World Action)}
  {c : Choice} {held : List RowLock} {server server' : Server} {seatIds : List Text}
  {seats : List Seat} {seatId : Text}

/-- The categories `create` reads for an event. -/
def Catalog.pricing (catalog : Catalog) (eventId : Uuid) : List PricingCategory :=
  catalog.prices.rows.filter (·.eventId = eventId.text)

/-- The category that covers the seat an id names, in any spelling. -/
def Catalog.Covers (catalog : Catalog) (eventId : Uuid) (seatId : Text) (price : PricingCategory) :
    Prop :=
  ∃ seat ∈ catalog.seats.rows, uuid? seatId = some seat.id ∧
    category (catalog.pricing eventId) seat = some price

/-- One category at most covers a seat. -/
theorem Catalog.Covers.unique {eventId : Uuid} {x y : PricingCategory}
    (left : catalog.Covers eventId seatId x) (right : catalog.Covers eventId seatId y) : x = y := by
  obtain ⟨seat, known, named, covers⟩ := left
  obtain ⟨seat', known', named', covers'⟩ := right
  rw [named, Option.some.injEq] at named'
  obtain rfl : seat = seat' := Table.eq_of_clash known known' (by simp [clash, named'])
  rw [covers, Option.some.injEq] at covers'
  exact covers'

/-! ## The seats a request selects -/

/-- Seats of the catalog that the request names, as many as it has ids. -/
structure Selected (catalog : Catalog) (seatIds : List Text) (seats : List Seat) : Prop where
  known : seats.Sublist catalog.seats.rows
  named : ∀ seat ∈ seats, some seat.id ∈ seatIds.map uuid?
  counted : seats.length = seatIds.length

/-- The seats have different ids, so as many ids as seats leaves none over. -/
theorem Selected.perm (selected : Selected catalog seatIds seats) :
    (seats.map fun seat => some seat.id).Perm (seatIds.map uuid?) := by
  have distinct : (seats.map fun seat => some seat.id).Nodup := by
    rw [List.Nodup, List.pairwise_map]
    exact (catalog.seats.unique.sublist selected.known).imp fun apart same => by
      simp [clash, Option.some.inj same] at apart
  have within : (seats.map fun seat => some seat.id) ⊆ seatIds.map uuid? := by
    intro id member
    obtain ⟨seat, chosen, rfl⟩ := List.mem_map.mp member
    exact selected.named seat chosen
  exact (List.subperm_of_subset distinct within).perm_of_length_le (by simp [selected.counted])

theorem Selected.resolves (selected : Selected catalog seatIds seats) (member : seatId ∈ seatIds) :
    ∃ seat ∈ seats, uuid? seatId = some seat.id := by
  have image := selected.perm.mem_iff.mpr (List.mem_map_of_mem member)
  obtain ⟨seat, chosen, same⟩ := List.mem_map.mp image
  exact ⟨seat, chosen, same.symm⟩

/-- The price map has the spelling the seats were read back in, and no other. -/
theorem lookup_seatPrices {pricing : List PricingCategory} {prices : List (Text × Amount)}
    {seat : Seat} (distinct : seats.Pairwise fun a b => a.id ≠ b.id)
    (priced : seatPrices pricing seats = some prices) (chosen : seat ∈ seats)
    (named : uuid? seatId = some seat.id) :
    ∃ price, category pricing seat = some price ∧
      prices.lookup seatId = if seatId = seat.id.text then some price.price else none := by
  have entries := forall₂_of_mapM priced
  clear priced
  induction entries with
  | nil => cases chosen
  | @cons first entry seats prices hit entries ih =>
    obtain ⟨price, covers, rfl⟩ := Option.map_eq_some_iff.mp hit
    obtain ⟨apart, distinct⟩ := List.pairwise_cons.mp distinct
    rw [List.lookup_cons]
    rcases List.mem_cons.mp chosen with rfl | later
    · refine ⟨price, covers, ?_⟩
      by_cases canonical : seatId = seat.id.text
      · simp [canonical]
      · have missed : prices.lookup seatId = none := by
          rw [List.lookup_eq_none_iff]
          intro entry member
          obtain ⟨other, chosen, hit⟩ := exists_of_mem_right entries member
          obtain ⟨_, -, rfl⟩ := Option.map_eq_some_iff.mp hit
          rw [bne_iff_ne]
          rintro rfl
          rw [uuid?_text, Option.some.injEq] at named
          exact apart other chosen named.symm
        rw [beq_eq_false_iff_ne.mpr canonical, if_neg canonical]
        exact missed
    · obtain ⟨price, covers, found⟩ := ih distinct later
      refine ⟨price, covers, ?_⟩
      have skipped : (seatId == first.id.text) = false := by
        rw [beq_eq_false_iff_ne]
        rintro rfl
        rw [uuid?_text, Option.some.injEq] at named
        exact apart seat later named
      rw [skipped]
      exact found

/-- The price of a requested seat: of the category that covers it when the id is
spelled as the seat was read back, and nothing otherwise. -/
theorem Reservations.Draft.price_of_selected {draft : Draft} (selected : Selected catalog draft.seatIds seats)
    (priced : Reservations.seatPrices (catalog.pricing draft.event.id) seats = some draft.seatPrices)
    (member : seatId ∈ draft.seatIds) :
    ∃ price, catalog.Covers draft.event.id seatId price ∧
      draft.price seatId = if asReturned seatId = true then price.price else zero := by
  obtain ⟨seat, chosen, named⟩ := selected.resolves member
  have distinct : seats.Pairwise fun a b => a.id ≠ b.id :=
    (catalog.seats.unique.sublist selected.known).imp fun apart same => by simp [clash, same] at apart
  obtain ⟨price, covers, found⟩ := lookup_seatPrices distinct priced chosen named
  refine ⟨price, ⟨seat, selected.known.subset chosen, named, covers⟩, ?_⟩
  have canonical : asReturned seatId = true ↔ seatId = seat.id.text :=
    ⟨fun spelled => eq_text_of_asReturned spelled named, fun same => asReturned_iff.mpr ⟨_, same⟩⟩
  rw [Draft.price, found]
  by_cases same : seatId = seat.id.text
  · rw [if_pos same, if_pos (canonical.mpr same), Option.getD_some]
  · rw [if_neg same, if_neg (mt canonical.mp same), Option.getD_none]

/-! ## What a create has read -/

def Reservations.Create.Priced (catalog : Catalog) : Create → Prop
  | .findPricing _ body _ seats => Selected catalog body.seatIds seats
  | .acquire draft | .findOccupied draft | .save draft =>
    ∃ seats, Selected catalog draft.seatIds seats ∧
      seatPrices (catalog.pricing draft.event.id) seats = some draft.seatPrices
  | _ => True

/-- The seats and the prices of a request come from the catalog. -/
def Proc.Priced (catalog : Catalog) : Proc → Prop
  | .create state => state.Priced catalog
  | _ => True

theorem Reservations.Create.priced {state : Create} {next : Next Create}
    (turn : state.turn cfg c server = some (server', next)) (priced : state.Priced server.db.catalog) :
    (next.proc .create).Priced server.db.catalog := by
  cases state <;> simp only [Create.turn] at turn
  case assertAdmission => split at turn <;> cases turn <;> trivial
  case findEvent =>
    split at turn
    · cases turn
      trivial
    split at turn
    · cases turn
      trivial
    split at turn <;> cases turn <;> trivial
  case findSectors =>
    cases turn
    trivial
  case findSeats user body event sectorIds =>
    split at turn <;> cases turn
    · trivial
    rename_i counted
    refine ⟨List.filter_sublist, ?_, not_not.mp counted⟩
    intro seat chosen
    exact (of_decide_eq_true (List.mem_filter.mp chosen).2).2
  case findPricing user body event seats =>
    split at turn
    · cases turn
      trivial
    rename_i prices found
    split at turn
    · split at turn <;> cases turn
      exact ⟨seats, priced, found⟩
    · cases turn
  case acquire =>
    split at turn <;> cases turn
    · trivial
    · exact priced
  case findOccupied =>
    split at turn <;> cases turn
    · trivial
    · exact priced
  case save =>
    split at turn
    · cases turn
    · split at turn <;> cases turn <;> trivial
  case announce =>
    cases turn
    trivial
  case release =>
    cases turn
    trivial

theorem Proc.priced {p p' : Proc} (turn : p.turn cfg c held server = some (server', p'))
    (priced : p.Priced server.db.catalog) : p'.Priced server.db.catalog := by
  cases p <;> simp only [Proc.turn, turnOf_eq_some] at turn
  case create state =>
    obtain ⟨next, turn, rfl⟩ := turn
    split at turn
    · cases state <;> simp only [Create.fault] at turn <;> cases turn <;> trivial
    · exact Create.priced turn priced
  case done => cases turn
  all_goals
    obtain ⟨next, -, rfl⟩ := turn
    cases next <;> trivial

theorem priced_of_run (run : Run (step cfg) (initial catalog) ts w) :
    w.db.catalog = catalog ∧ ∀ p ∈ w.procs, p.Priced catalog := by
  refine run.invariant (P := fun w => w.db.catalog = catalog ∧ ∀ p ∈ w.procs, p.Priced catalog)
    within_any ⟨rfl, fun p member => absurd member List.not_mem_nil⟩ ?_
  rintro w a w' ⟨rfl, priced⟩ - taken
  refine ⟨catalog_of_step taken, forall_procs taken priced (fun _ kept => kept) ?_ ?_ ?_⟩
  · intro r
    cases r <;> trivial
  · exact fun _ => trivial
  · exact fun _ _ _ _ _ mine turn => Proc.priced turn mine

/-! ## What a create stores -/

/-- Two strings that name the same row. -/
def SameId (a b : Text) : Prop := ∃ id : Uuid, uuid? a = some id ∧ uuid? b = some id

/-- No row of the event is for one of the seats. -/
def Db.Free (db : Db) (eventId : Uuid) (seatIds : List Text) : Prop :=
  ∀ row ∈ db.reservationSeats.rows, row.eventId = eventId →
    ∀ seatId ∈ seatIds, ¬ SameId row.seatId seatId

/-- No row of the event is for one of the seats in another spelling of its id. -/
def Db.Spelled (db : Db) (eventId : Uuid) (seatIds : List Text) : Prop :=
  ∀ row ∈ db.reservationSeats.rows, row.eventId = eventId →
    ∀ seatId ∈ seatIds, SameId row.seatId seatId → row.seatId = seatId

/-- Every row of the reservation has the price of the category that covers its
seat, and the reservation is charged their sum. -/
structure Db.Priced (db : Db) (r : Reservation) : Prop where
  covered : ∀ row ∈ db.seatsOf r, ∃ price, db.catalog.Covers r.eventId row.seatId price ∧
    row.price = price.price
  total : r.totalAmount.value = ((db.seatsOf r).map (·.price.value)).sum

variable {draft : Draft} {r : Reservation} {pid : Nat}

/-- A turn that commits a create, taken apart. -/
theorem insert_of_commit (serving : w.procs[pid]? = some (.create (.save draft)))
    (taken : step cfg w (.turn pid c) = some w')
    (commits : w'.procs[pid]? = some (.create (.announce r seatIds))) :
    draft.insert cfg c w.db = .ok (w'.db, r) ∧ c.ids.length = draft.seatIds.length := by
  obtain ⟨p, p', at_pid, turn, procs⟩ := step_turn taken
  rw [serving, Option.some.injEq] at at_pid
  subst at_pid
  rw [procs, List.getElem?_set_self (List.getElem?_eq_some_iff.mp serving).1,
    Option.some.injEq] at commits
  subst commits
  rcases save_cases turn with ⟨-, failure, released⟩ | ⟨db, stored, same, going, inserted, lengths⟩
  · cases released
  · cases going
    have stored : w'.db = db := congrArg Server.db same
    rw [stored]
    exact ⟨inserted, lengths⟩

/-- The rows of the new reservation are those the draft asks for. -/
theorem seatsOf_insert (absent : w.db.booking draft.id = .nothing) {db' : Db}
    (inserted : draft.insert cfg c w.db = .ok (db', r)) :
    r.eventId = draft.event.id ∧ r.totalAmount.value = draft.totalAmount ∧
      db'.seatsOf r = List.zipWith draft.seat c.ids draft.seatIds := by
  obtain ⟨total, stored, rfl, -, -, after⟩ := draft_insert inserted
  refine ⟨rfl, Amount.value_of_ofNat? stored, ?_⟩
  have rows : (db'.booking draft.id).seats = List.zipWith draft.seat c.ids draft.seatIds := by
    rw [after, if_pos rfl, absent]
    rfl
  exact rows

/-- The unique constraint keeps a seat from being stored twice in one spelling. -/
theorem not_mem_of_insert {db db' : Db} (inserted : draft.insert cfg c db = .ok (db', r))
    (lengths : c.ids.length = draft.seatIds.length) {row : ReservationSeat}
    (member : row ∈ db.reservationSeats.rows) (event : row.eventId = draft.event.id) :
    row.seatId ∉ draft.seatIds := by
  intro taken
  rw [← seatIds_of_rows lengths, List.mem_map] at taken
  obtain ⟨new, fresh, same⟩ := taken
  obtain ⟨_, -, -, -, grown, -⟩ := draft_insert inserted
  have unique := db'.reservationSeats.unique
  rw [grown, List.pairwise_append] at unique
  have apart := unique.2.2 row member new fresh
  obtain ⟨_, -, _, -, rfl⟩ := exists_of_mem_zipWith fresh
  simp [clash, event, ← same, Draft.seat] at apart

theorem Db.free_iff_spelled {db : Db} {eventId : Uuid}
    (apart : ∀ row ∈ db.reservationSeats.rows, row.eventId = eventId → row.seatId ∉ seatIds) :
    db.Free eventId seatIds ↔ db.Spelled eventId seatIds := by
  constructor
  · intro free row member mine seatId wanted same
    exact absurd same (free row member mine seatId wanted)
  · intro spelled row member mine seatId wanted same
    rw [← spelled row member mine seatId wanted same] at wanted
    exact apart row member mine wanted

/-- A requested seat gets the price that covers it when its id is spelled as
returned, or when that price is nothing. -/
theorem Reservations.Draft.price_covered_iff (selected : Selected catalog draft.seatIds seats)
    (priced : Reservations.seatPrices (catalog.pricing draft.event.id) seats = some draft.seatPrices)
    (wanted : seatId ∈ draft.seatIds) :
    (∃ price, catalog.Covers draft.event.id seatId price ∧ draft.price seatId = price.price) ↔
      asReturned seatId = true ∨
        ∀ price, catalog.Covers draft.event.id seatId price → price.price = zero := by
  obtain ⟨price, covers, charged⟩ := draft.price_of_selected selected priced wanted
  rw [charged]
  constructor
  · rintro ⟨other, covers', paid⟩
    rw [covers'.unique covers] at paid
    by_cases spelled : asReturned seatId = true
    · exact .inl spelled
    · rw [if_neg spelled] at paid
      exact .inr fun other covers' => covers'.unique covers ▸ paid.symm
  · rintro (spelled | free)
    · exact ⟨price, covers, if_pos spelled⟩
    · refine ⟨price, covers, ?_⟩
      rw [free price covers, ite_self]

/-- What a create commits is free and priced as the catalog says exactly when no
row of the event is for a requested seat under another spelling and each id is
spelled as the API returns it, or its seat costs nothing. -/
theorem create_sound_iff (run : Run (step cfg) (initial catalog) ts w)
    (serving : w.procs[pid]? = some (.create (.save draft)))
    (taken : step cfg w (.turn pid c) = some w')
    (commits : w'.procs[pid]? = some (.create (.announce r seatIds))) :
    w.db.Free draft.event.id draft.seatIds ∧ w'.db.Priced r ↔
      w.db.Spelled draft.event.id draft.seatIds ∧
        ∀ seatId ∈ draft.seatIds, asReturned seatId = true ∨
          ∀ price, catalog.Covers draft.event.id seatId price → price.price = zero := by
  obtain ⟨inserted, lengths⟩ := insert_of_commit serving taken commits
  obtain ⟨known, read⟩ := priced_of_run run
  obtain ⟨seats, selected, prices⟩ := read _ (List.mem_of_getElem? serving)
  obtain ⟨_, -, -, absent, -, -⟩ := draft_insert inserted
  obtain ⟨event, total, rows⟩ := seatsOf_insert ((coherent_of_run run).of_none absent) inserted
  have known' : w'.db.catalog = catalog := (catalog_of_step taken).trans known
  rw [Db.free_iff_spelled fun row member => not_mem_of_insert inserted lengths member]
  refine and_congr_right fun _ => ?_
  constructor
  · intro priced seatId wanted
    rw [← Draft.price_covered_iff selected prices wanted]
    rw [← seatIds_of_rows lengths, ← rows, List.mem_map] at wanted
    obtain ⟨row, stored, rfl⟩ := wanted
    obtain ⟨price, covers, paid⟩ := priced.covered row stored
    rw [known', event] at covers
    rw [rows] at stored
    obtain ⟨_, -, _, -, rfl⟩ := exists_of_mem_zipWith stored
    exact ⟨price, covers, paid⟩
  · intro charged
    refine ⟨?_, ?_⟩
    · intro row stored
      rw [rows] at stored
      obtain ⟨_, -, seatId, wanted, rfl⟩ := exists_of_mem_zipWith stored
      rw [known', event]
      exact (Draft.price_covered_iff selected prices wanted).mpr (charged seatId wanted)
    · rw [total, rows, draft_total lengths]

/-- A request for one seat, in some spelling, up to where its reservation is stored. -/
def ask (pid : Nat) (seat : Char) (id : Uuid) : List Action :=
  .request (.create customer ⟨flatText 'e', [flatText seat], none⟩) ::
    (createTurns pid 0 id []).take 7

/-- What is stored then, at a price. -/
def sampleStored (id : Uuid) (total : Amount) : Reservation :=
  ⟨id, ['u'], flat 0xe, .pending, 600000, total, ['I', 'R', 'R']⟩

private theorem ask_enabled : (exec (step sampleConfig) (initial sampleCatalog)
    (ask 0 'a' (flat 1) ++ [.turn 0 { ids := [flat 2] }])).isSome = true := by
  decide +kernel

private theorem ask_ready : (replayed _ (enabled_of_append ask_enabled)).procs[0]? =
    some (.create (.save ⟨flat 1, ['u'], ⟨flat 0xe, ['o'], ['v'], 1000000, true⟩, [flatText 'a'],
      [(flatText 'a', samplePrice)], ['I', 'R', 'R']⟩)) := by
  decide +kernel

private theorem ask_stores : (replayed _ ask_enabled).procs[0]? =
    some (.create (.announce (sampleStored (flat 1) samplePrice) [flatText 'a'])) := by
  decide +kernel

theorem create_sound_iff_ask :
    (replayed _ (enabled_of_append ask_enabled)).db.Free (flat 0xe) [flatText 'a'] ∧
      (replayed _ ask_enabled).db.Priced (sampleStored (flat 1) samplePrice) := by
  have none : (replayed _ (enabled_of_append ask_enabled)).db.reservationSeats.rows = [] := by
    decide +kernel
  have returned : ∀ seatId ∈ [flatText 'a'], asReturned seatId = true := by
    decide +kernel
  refine (create_sound_iff (run_replay _) ask_ready (step_replay ask_enabled) ask_stores).mpr
    ⟨?_, fun seatId wanted => .inl (returned seatId wanted)⟩
  intro row member
  rw [none] at member
  cases member

private theorem again_enabled : (exec (step sampleConfig) (initial sampleCatalog)
    (reserve ++ ask 1 'A' (flat 3) ++ [.turn 1 { ids := [flat 4] }])).isSome = true := by
  decide +kernel

private theorem again_ready : (replayed _ (enabled_of_append again_enabled)).procs[1]? =
    some (.create (.save ⟨flat 3, ['u'], ⟨flat 0xe, ['o'], ['v'], 1000000, true⟩, [flatText 'A'],
      [(flatText 'a', samplePrice)], ['I', 'R', 'R']⟩)) := by
  decide +kernel

private theorem again_stores : (replayed _ again_enabled).procs[1]? =
    some (.create (.announce (sampleStored (flat 3) zero) [flatText 'A'])) := by
  decide +kernel

/-- A seat that is reserved is asked for once more with its id in capital letters:
it is stored a second time, and for nothing. -/
theorem seat_stored_twice :
    ¬ ∀ (cfg : Config) (catalog : Catalog) (ts : List (Transition World Action)) (w w' : World)
      (pid : Nat) (c : Choice) (draft : Draft) (r : Reservation) (seatIds : List Text),
      Run (step cfg) (initial catalog) ts w → w.procs[pid]? = some (.create (.save draft)) →
      step cfg w (.turn pid c) = some w' →
      w'.procs[pid]? = some (.create (.announce r seatIds)) →
      w.db.Free draft.event.id draft.seatIds ∧ w'.db.Priced r := by
  intro sound
  have held : ∃ row ∈ (replayed _ (enabled_of_append again_enabled)).db.reservationSeats.rows,
      row.eventId = flat 0xe ∧ row.seatId = (flat 0xa).text := by
    decide +kernel
  have again : uuid? (flatText 'A') = some (flat 0xa) := by
    decide +kernel
  obtain ⟨free, -⟩ := sound _ _ _ _ _ _ _ _ _ _ (run_replay _) again_ready
    (step_replay again_enabled) again_stores
  obtain ⟨row, member, event, seat⟩ := held
  refine free row member event (flatText 'A') List.mem_cons_self ⟨flat 0xa, ?_, again⟩
  rw [seat, uuid?_text]

end KiTicket
