import KiTicket.Calls
import KiTicket.Housing
import KiTicket.RowLabels

/-! What `createSector` leaves behind. It saves the sector in one transaction and the seats
in the next, so a failure in between leaves a sector without seats, under a name that can
not be used again; a failure at any other point leaves everything as it was. -/
namespace KiTicket
open Runs Venues

variable {cfg : Config} {listing listing' : Listing} {catalog : Catalog} {c : Choice}
  {p p' : CatalogProc} {sector : Sector} {body : CreateSectorDto} {s s' : Site} {a : Site.Action}
  {ts : List (Transition Site Site.Action)} {choices : List Choice} {venueId : Text} {id : Uuid}

/-! ## Sectors and their seats -/

/-- The sector whose seats a request is about to save, and the body they come from. -/
def CatalogProc.building : CatalogProc → List (Sector × CreateSectorDto)
  | .createSector (.saveSeats sector body) => [(sector, body)]
  | _ => []

def CatalogProc.claims (p : CatalogProc) : List Uuid := p.building.map (·.1.id)

/-- Every seat is in a stored sector. -/
def Catalog.Sectored (catalog : Catalog) : Prop :=
  ∀ seat ∈ catalog.seats.rows, ∃ sector ∈ catalog.sectors.rows, sector.id = seat.sectorId

/-- The sector is stored and has no seats yet. -/
def Catalog.Awaits (catalog : Catalog) (sector : Sector) : Prop :=
  sector ∈ catalog.sectors.rows ∧ ∀ seat ∈ catalog.seats.rows, seat.sectorId ≠ sector.id

/-- Every seat is in a stored sector, and a sector whose seats are about to be saved has
none yet and is nobody else's to fill. -/
structure Site.Laid (s : Site) : Prop where
  seats : s.db.catalog.Sectored
  empty : ∀ p ∈ s.procs, ∀ b ∈ p.building, s.db.catalog.Awaits b.1
  exclusive : Pool.Exclusive CatalogProc.claims s.procs

/-- Neither about to save a sector's seats nor answered with a sector. -/
def CatalogProc.idle : CatalogProc → Bool
  | .createSector (.saveSeats _ _) | .done (.sector _ _) => false
  | _ => true

theorem CatalogProc.claims_of_idle (idle : p.idle = true) : p.building = [] ∧ p.claims = [] := by
  unfold CatalogProc.claims CatalogProc.building
  split
  · cases idle
  · exact ⟨rfl, rfl⟩

/-- What one turn does to the sectors and seats. -/
inductive Builds (c : Choice) (listing listing' : Listing) (p p' : CatalogProc) : Prop
  | idle (sectors : listing'.catalog.sectors = listing.catalog.sectors)
      (seats : listing'.catalog.seats = listing.catalog.seats) (none : p'.idle = true)
  | sector {venueId : Text} {body : CreateSectorDto} {id : Uuid}
      (asks : p = .createSector (.saveSector venueId body))
      (sectors : listing.catalog.sectors.insert? [⟨id, venueId, body.name⟩] =
        some listing'.catalog.sectors)
      (seats : listing'.catalog.seats = listing.catalog.seats)
      (goes : p' = .createSector (.saveSeats ⟨id, venueId, body.name⟩ body))
  | seats {sector : Sector} {body : CreateSectorDto}
      (asks : p = .createSector (.saveSeats sector body))
      (sectors : listing'.catalog.sectors = listing.catalog.sectors)
      (seats : listing.catalog.seats.insert? (grid sector body c.ids) = some listing'.catalog.seats)
      (all : (places body).length ≤ c.ids.length)
      (answered : p' = .done (.sector sector (places body).length))

theorem length_grid {ids : List Uuid} :
    (grid sector body ids).length = min (places body).length ids.length := by
  rw [grid_eq, List.length_zipWith]

theorem Venues.CreateSector.builds {state : Venues.CreateSector} {after : After Venues.CreateSector}
    (turn : state.turn c listing = some (listing', after)) :
    Builds c listing listing' (.createSector state) (after.proc .createSector) := by
  cases state <;> simp only [Venues.CreateSector.turn] at turn
  case findVenue =>
    split at turn <;> cases turn <;> exact .idle rfl rfl rfl
  case saveSector venueId body =>
    split at turn
    · split at turn <;> cases turn
      · rename_i id _ sectors inserted
        exact .sector rfl inserted rfl rfl
      · exact .idle rfl rfl rfl
    · cases turn
  case saveSeats sector body =>
    split at turn
    · cases turn
    rename_i drawn
    have all : (grid sector body c.ids).length = (places body).length := by
      rw [grid, not_not.mp drawn, newSeats_eq, List.length_map]
    split at turn <;> cases turn
    · rename_i seats inserted
      refine .seats rfl rfl inserted ?_ (congrArg (CatalogProc.done ∘ Reply.sector sector) all)
      rw [length_grid] at all
      exact all ▸ Nat.min_le_right _ _
    · exact .idle rfl rfl rfl

theorem CatalogProc.builds (turn : p.turn c listing = some (listing', p')) :
    Builds c listing listing' p p' := by
  cases p <;> simp only [CatalogProc.turn, afterOf_eq_some] at turn
  case done => cases turn
  all_goals
    obtain ⟨after, turn, rfl⟩ := turn
    split at turn
    · cases turn
      exact .idle rfl rfl rfl
  case createVenue.isFalse state _ =>
    cases state
    simp only [Venues.Create.turn] at turn
    split at turn
    · split at turn <;> cases turn <;> exact .idle rfl rfl rfl
    · cases turn
  case createSector.isFalse state _ => exact Venues.CreateSector.builds turn
  case createEvent.isFalse state _ =>
    cases state <;> simp only [Events.Create.turn] at turn
    case findVenue =>
      split at turn
      · cases turn
        exact .idle rfl rfl rfl
      · split at turn <;> cases turn <;> exact .idle rfl rfl rfl
    case save =>
      split at turn
      · split at turn <;> cases turn <;> exact .idle rfl rfl rfl
      · cases turn
  case updateEvent.isFalse state _ =>
    cases state <;> simp only [Events.Update.turn] at turn
    case findOwned =>
      split at turn
      · cases turn
        exact .idle rfl rfl rfl
      · split at turn <;> cases turn <;> exact .idle rfl rfl rfl
    case save => split at turn <;> cases turn <;> exact .idle rfl rfl rfl
  case addPricing.isFalse state _ =>
    cases state <;> simp only [Events.AddPricing.turn] at turn
    case findOwned =>
      split at turn
      · cases turn
        exact .idle rfl rfl rfl
      · split at turn <;> cases turn <;> exact .idle rfl rfl rfl
    case findSector =>
      split at turn
      · cases turn
        exact .idle rfl rfl rfl
      · split at turn <;> cases turn <;> exact .idle rfl rfl rfl
    case save =>
      split at turn
      · split at turn
        · cases turn
          exact .idle rfl rfl rfl
        · split at turn <;> cases turn <;> exact .idle rfl rfl rfl
      · cases turn
  case publish.isFalse state _ =>
    cases state <;> simp only [Events.Publish.turn] at turn
    case findOwned => split at turn <;> cases turn <;> exact .idle rfl rfl rfl
    case exist => split at turn <;> cases turn <;> exact .idle rfl rfl rfl
    case save =>
      cases turn
      exact .idle rfl rfl rfl

/-! ## In every reachable site -/

theorem Site.laid_unbooked (sectored : listing.catalog.Sectored) : (Site.unbooked listing).Laid where
  seats := sectored
  empty _ member := absurd member List.not_mem_nil
  exclusive _ _ _ _ _ at_i := by simp [Site.unbooked] at at_i

theorem claims_request (r : CatalogRequest) : r.proc.claims = [] := by
  cases r <;> rfl

theorem building_request (r : CatalogRequest) : r.proc.building = [] := by
  cases r <;> rfl

/-- A claimed sector is stored. -/
theorem Site.Laid.claimed (laid : s.Laid) {pid : Nat} (serving : s.procs[pid]? = some p)
    (claims : id ∈ p.claims) : ∃ sector ∈ s.db.catalog.sectors.rows, sector.id = id := by
  obtain ⟨b, building, rfl⟩ := List.mem_map.mp claims
  exact ⟨b.1, (laid.empty p (List.mem_of_getElem? serving) b building).1, rfl⟩

theorem own_of_grid {ids : List Uuid} {seat : Seat} (member : seat ∈ grid sector body ids) :
    seat.sectorId = sector.id := by
  rw [grid_eq] at member
  obtain ⟨place, -, id, -, rfl⟩ := Lists.exists_of_mem_zipWith member
  rfl

/-- The id of a sector that is let in is new. -/
theorem fresh_of_insert {sectors sectors' : Table Sector} {name : Text}
    (inserted : sectors.insert? [⟨id, venueId, name⟩] = some sectors') :
    ∀ old ∈ sectors.rows, old.id ≠ id := by
  intro old stored same
  have apart := Table.clash_false_of_insert? inserted stored List.mem_cons_self
  simp [clash, same] at apart

section Turn
variable {pid : Nat} (laid : s.Laid)
include laid

private theorem laid_of_idle (sectors : listing.catalog.sectors = s.db.catalog.sectors)
    (seats : listing.catalog.seats = s.db.catalog.seats) (none : p'.idle = true) :
    Site.Laid { s.relist listing with procs := s.procs.set pid p' } := by
  have awaits (sector : Sector) : s.db.catalog.Awaits sector → listing.catalog.Awaits sector := by
    rw [Catalog.Awaits, Catalog.Awaits, sectors, seats]
    exact id
  refine ⟨?_, ?_, laid.exclusive.set fun j q _ _ x claims => ?_⟩
  · change listing.catalog.Sectored
    rw [Catalog.Sectored, sectors, seats]
    exact laid.seats
  · refine Pool.forall_set laid.empty ?_ fun _ q _ _ before b building => awaits b.1 (before b building)
    rw [(CatalogProc.claims_of_idle none).1]
    exact fun b building => absurd building List.not_mem_nil
  · rw [(CatalogProc.claims_of_idle none).2] at claims
    cases claims

private theorem laid_of_sector
    (sectors : s.db.catalog.sectors.insert? [⟨id, venueId, body.name⟩] = some listing.catalog.sectors)
    (seats : listing.catalog.seats = s.db.catalog.seats) :
    Site.Laid { s.relist listing with
      procs := s.procs.set pid (.createSector (.saveSeats ⟨id, venueId, body.name⟩ body)) } := by
  have rows := Table.insert?_eq_some.mp sectors
  have fresh := fresh_of_insert sectors
  refine ⟨?_, ?_, laid.exclusive.set fun j q _ at_j x claims theirs => ?_⟩
  · change listing.catalog.Sectored
    rw [Catalog.Sectored, seats, rows]
    intro seat member
    obtain ⟨sector, stored, named⟩ := laid.seats seat member
    exact ⟨sector, List.mem_append_left _ stored, named⟩
  · refine Pool.forall_set (B := fun q => ∀ b ∈ q.building, listing.catalog.Awaits b.1)
      laid.empty ?_ fun _ q _ _ before b building => ?_
    · intro b building
      obtain rfl := List.mem_singleton.mp building
      rw [Catalog.Awaits, rows, seats]
      refine ⟨List.mem_concat_self, fun seat member same => ?_⟩
      obtain ⟨old, stored, named⟩ := laid.seats seat member
      exact fresh old stored (named.trans same)
    · rw [Catalog.Awaits, rows, seats]
      exact ⟨List.mem_append_left _ (before b building).1, (before b building).2⟩
  · obtain rfl := List.mem_singleton.mp claims
    obtain ⟨old, stored, named⟩ := laid.claimed at_j theirs
    exact fresh old stored named

private theorem laid_of_seats {reply : Reply}
    (serving : s.procs[pid]? = some (.createSector (.saveSeats sector body)))
    (sectors : listing.catalog.sectors = s.db.catalog.sectors)
    (seats : s.db.catalog.seats.insert? (grid sector body c.ids) = some listing.catalog.seats) :
    Site.Laid { s.relist listing with procs := s.procs.set pid (.done reply) } := by
  have rows := Table.insert?_eq_some.mp seats
  have mine := laid.empty _ (List.mem_of_getElem? serving) (sector, body) List.mem_cons_self
  refine ⟨?_, ?_, laid.exclusive.release serving fun x claims => absurd claims List.not_mem_nil⟩
  · change listing.catalog.Sectored
    rw [Catalog.Sectored, rows, sectors]
    intro seat member
    rcases List.mem_append.mp member with old | new
    · exact laid.seats seat old
    · exact ⟨sector, mine.1, (own_of_grid new).symm⟩
  · refine Pool.forall_set (B := fun q => ∀ b ∈ q.building, listing.catalog.Awaits b.1)
      laid.empty ?_ fun j q different at_j before b building => ?_
    · exact fun b building => absurd building List.not_mem_nil
    rw [Catalog.Awaits, rows, sectors]
    refine ⟨(before b building).1, fun seat member => ?_⟩
    rcases List.mem_append.mp member with old | new
    · exact (before b building).2 seat old
    · rw [own_of_grid new]
      intro same
      have theirs : sector.id ∈ q.claims := same ▸ List.mem_map_of_mem building
      exact laid.exclusive pid j _ q (Ne.symm different) serving at_j _ List.mem_cons_self theirs

end Turn

theorem Site.Laid.next (laid : s.Laid) (taken : Site.step cfg s a = some s') : s'.Laid := by
  cases Site.step_cases taken
  case booking a world moves =>
    have same : world.db.catalog = s.db.catalog := catalog_of_step moves
    exact ⟨same ▸ laid.seats, same ▸ laid.empty, laid.exclusive⟩
  case request r accepted =>
    refine ⟨laid.seats, fun p member => ?_, laid.exclusive.append (claims_request r)⟩
    rcases List.mem_append.mp member with old | new
    · exact laid.empty p old
    · rw [List.mem_singleton.mp new, building_request]
      exact fun b building => absurd building List.not_mem_nil
  case turn pid c p p' listing serving turn =>
    cases CatalogProc.builds turn
    case idle sectors seats none => exact laid_of_idle laid sectors seats none
    case sector asks sectors seats goes =>
      subst goes
      exact laid_of_sector laid sectors seats
    case seats asks sectors seats all answered =>
      subst asks answered
      exact laid_of_seats laid serving sectors seats
  case crash pid p serving =>
    refine ⟨laid.seats, ?_, laid.exclusive.release serving fun x claims => ?_⟩
    · refine Pool.forall_set laid.empty ?_ fun _ _ _ _ => id
      exact fun b building => absurd building List.not_mem_nil
    · exact absurd claims List.not_mem_nil

theorem Site.Laid.run (laid : s.Laid) (run : Run (Site.step cfg) s ts s') : s'.Laid :=
  run.invariant (fun _ _ => (trivial : True)) laid fun _ _ _ laid _ taken => laid.next taken

/-! ## One call, wherever it fails -/

/-- The seats of a sector, in the order they were saved. -/
def Catalog.seatsIn (catalog : Catalog) (sector : Sector) : List Seat :=
  catalog.seats.rows.filter (·.sectorId = sector.id)

/-- The sector is there with all its seats, each in its own place, or nothing was written. -/
def AllOrNothing (listing listing' : Listing) (venueId : Text) (body : CreateSectorDto) : Prop :=
  listing' = listing ∨
    ∃ sector ∈ listing'.catalog.sectors.rows, sector.venueId = venueId ∧ sector.name = body.name ∧
      (listing'.catalog.seatsIn sector).length = body.rows * body.seatsPerRow ∧
      (listing'.catalog.seatsIn sector).Pairwise fun a b => ¬(a.row = b.row ∧ a.number = b.number)

/-- The sector that the first two calls of `createSector` leave stored, and the choices
that are left for the third. -/
def savedSector (listing : Listing) (venueId : Text) (body : CreateSectorDto) :
    List Choice → Option (Sector × Table Sector × List Choice)
  | c :: d :: rest =>
    if c.fault ∨ d.fault then none
    else
      match venueOrFail listing.venues venueId, d.ids with
      | .ok _, [id] =>
        (listing.catalog.sectors.insert? [⟨id, venueId, body.name⟩]).map fun sectors =>
          (⟨id, venueId, body.name⟩, sectors, rest)
      | _, _ => none
  | _ => none

/-- The sector goes in and the call that saves its seats fails. -/
def seatsFail (listing : Listing) (venueId : Text) (body : CreateSectorDto) (choices : List Choice) :
    Bool :=
  match savedSector listing venueId body choices with
  | some (sector, _, c :: _) =>
    c.fault || (listing.catalog.seats.insert? (grid sector body c.ids)).isNone
  | _ => false

section Alone
variable {left : Listing × Reply}

/-- Up to the third call nothing is written, or the sector is. -/
theorem savedSector_cases
    (served : (CatalogProc.createSector (.findVenue venueId body)).alone choices listing = some left) :
    (savedSector listing venueId body choices = none ∧ left.1 = listing) ∨
    ∃ id sectors rest,
      savedSector listing venueId body choices = some (⟨id, venueId, body.name⟩, sectors, rest) ∧
      listing.catalog.sectors.insert? [⟨id, venueId, body.name⟩] = some sectors ∧
      (CatalogProc.createSector (.saveSeats ⟨id, venueId, body.name⟩ body)).alone rest
        { listing with catalog := { listing.catalog with sectors } } = some left := by
  cases choices with
  | nil => cases served
  | cons c rest =>
    by_cases failed : c.fault = true
    · rw [alone_fault (fun _ => CatalogProc.noConfusion) failed] at served
      cases served
      refine .inl ⟨?_, rfl⟩
      cases rest with
      | nil => rfl
      | cons d rest => exact if_pos (.inl failed)
    rw [alone_cons fun _ => CatalogProc.noConfusion] at served
    simp only [CatalogProc.turn, if_neg failed, CreateSector.turn] at served
    cases found : venueOrFail listing.venues venueId with
    | error failure =>
      simp only [found, Listing.refuse, afterOf, Option.map_some, Option.bind_some, After.proc,
        alone_done, Option.some.injEq] at served
      refine .inl ⟨?_, served ▸ rfl⟩
      cases rest with
      | nil => rfl
      | cons d rest => simp [savedSector, found]
    | ok venue =>
      simp only [found, Listing.stay, afterOf, Option.map_some, Option.bind_some, After.proc] at served
      cases rest with
      | nil => cases served
      | cons d rest =>
        by_cases failed' : d.fault = true
        · rw [alone_fault (fun _ => CatalogProc.noConfusion) failed'] at served
          cases served
          exact .inl ⟨if_pos (.inr failed'), rfl⟩
        rw [alone_cons fun _ => CatalogProc.noConfusion] at served
        simp only [CatalogProc.turn, if_neg failed', CreateSector.turn] at served
        split at served
        swap
        · cases served
        rename_i id drawn
        cases inserted : listing.catalog.sectors.insert? [⟨id, venueId, body.name⟩] with
        | none =>
          simp only [inserted, Listing.refuse, afterOf, Option.map_some, Option.bind_some,
            After.proc, alone_done, Option.some.injEq] at served
          exact .inl ⟨by simp [savedSector, failed, failed', found, drawn, inserted], served ▸ rfl⟩
        | some sectors =>
          simp only [inserted, afterOf, Option.map_some, Option.bind_some, After.proc] at served
          refine .inr ⟨id, sectors, rest, ?_, inserted, served⟩
          simp [savedSector, failed, failed', found, drawn, inserted]

/-- The third call saves all the seats or none. -/
theorem saveSeats_cases
    (served : (CatalogProc.createSector (.saveSeats sector body)).alone choices listing = some left) :
    ∃ c rest, choices = c :: rest ∧
      (((c.fault = true ∨ listing.catalog.seats.insert? (grid sector body c.ids) = none) ∧
        left.1 = listing) ∨
      ∃ seats, c.fault = false ∧ listing.catalog.seats.insert? (grid sector body c.ids) = some seats ∧
        (places body).length ≤ c.ids.length ∧
        left.1 = { listing with catalog := { listing.catalog with seats } }) := by
  match choices with
  | [] => cases served
  | c :: rest =>
    refine ⟨c, rest, rfl, ?_⟩
    by_cases failed : c.fault = true
    · rw [alone_fault (fun _ => CatalogProc.noConfusion) failed] at served
      cases served
      exact .inl ⟨.inl failed, rfl⟩
    rw [alone_cons fun _ => CatalogProc.noConfusion] at served
    obtain ⟨⟨listing', p'⟩, turn, ends⟩ := Option.bind_eq_some_iff.mp served
    simp only [CatalogProc.turn, if_neg failed, afterOf_eq_some] at turn
    obtain ⟨after, turn, rfl⟩ := turn
    simp only [CreateSector.turn] at turn
    split at turn
    · cases turn
    rename_i drawn
    have all : (grid sector body c.ids).length = (places body).length := by
      rw [grid, not_not.mp drawn, newSeats_eq, List.length_map]
    rw [← grid] at turn
    split at turn <;> cases turn
    · rename_i seats inserted
      cases alone_ends ends
      rw [length_grid] at all
      exact .inr ⟨seats, Bool.eq_false_iff.mpr failed, inserted, all ▸ Nat.min_le_right _ _, rfl⟩
    · rename_i refused
      cases alone_ends ends
      exact .inl ⟨.inr refused, rfl⟩

end Alone

/-- Sectors of one venue and one name are the same. -/
theorem sector_unique {sectors : Table Sector} {x y : Sector} (left : x ∈ sectors.rows)
    (right : y ∈ sectors.rows) (venue : x.venueId = y.venueId) (name : x.name = y.name) : x = y :=
  Table.eq_of_clash left right (by simp [clash, venue, name])

theorem seatsIn_eq_nil (none : ∀ seat ∈ catalog.seats.rows, seat.sectorId ≠ sector.id) :
    catalog.seatsIn sector = [] :=
  List.filter_eq_nil_iff.mpr fun seat member => by simpa using none seat member

/-- Once all its seats are saved, a sector has the seats of its grid and no others. -/
theorem seatsIn_of_insert {catalog' : Catalog} {ids : List Uuid}
    (none : ∀ seat ∈ catalog.seats.rows, seat.sectorId ≠ sector.id)
    (inserted : catalog.seats.insert? (grid sector body ids) = some catalog'.seats) :
    catalog'.seatsIn sector = grid sector body ids := by
  have kept : (grid sector body ids).filter (·.sectorId = sector.id) = grid sector body ids :=
    List.filter_eq_self.mpr fun seat member => decide_eq_true (own_of_grid member)
  have old : catalog.seats.rows.filter (·.sectorId = sector.id) = [] := seatsIn_eq_nil none
  rw [Catalog.seatsIn, Table.insert?_eq_some.mp inserted, List.filter_append, old, kept,
    List.nil_append]

section Saved
variable {sectors : Table Sector}
  (inserted : listing.catalog.sectors.insert? [⟨id, venueId, body.name⟩] = some sectors)
  (fresh : ∀ seat ∈ listing.catalog.seats.rows, seat.sectorId ≠ id)
include inserted fresh

/-- A sector without its seats is neither all nor nothing. -/
theorem not_allOrNothing_of_sector (accepted : body.accepted = true) :
    ¬AllOrNothing listing { listing with catalog := { listing.catalog with sectors } } venueId body := by
  have stored : (⟨id, venueId, body.name⟩ : Sector) ∈ sectors.rows := by
    rw [Table.insert?_eq_some.mp inserted]
    exact List.mem_concat_self
  rintro (kept | ⟨sector, known, venue, name, size, -⟩)
  · have before : sectors = listing.catalog.sectors := congrArg (·.catalog.sectors) kept
    exact fresh_of_insert inserted _ (before ▸ stored) rfl
  · obtain rfl := sector_unique known stored venue name
    have none : Catalog.seatsIn { listing.catalog with sectors } ⟨id, venueId, body.name⟩ = [] :=
      seatsIn_eq_nil fresh
    have some : 0 < body.rows * body.seatsPerRow := by
      simp only [CreateSectorDto.accepted, Bool.and_eq_true, decide_eq_true_eq] at accepted
      exact Nat.mul_pos accepted.1.2.1 accepted.2.1
    exact Nat.ne_of_lt some ((congrArg List.length none).symm.trans size)

theorem allOrNothing_of_seats {seats : Table Seat} {ids : List Uuid}
    (filled : listing.catalog.seats.insert? (grid ⟨id, venueId, body.name⟩ body ids) = some seats)
    (drawn : (places body).length ≤ ids.length) :
    AllOrNothing listing { listing with catalog := { listing.catalog with sectors, seats } } venueId
      body := by
  have stored : (⟨id, venueId, body.name⟩ : Sector) ∈ sectors.rows := by
    rw [Table.insert?_eq_some.mp inserted]
    exact List.mem_concat_self
  have all : Catalog.seatsIn { listing.catalog with sectors, seats } ⟨id, venueId, body.name⟩ =
      grid ⟨id, venueId, body.name⟩ body ids :=
    seatsIn_of_insert fresh filled
  refine .inr ⟨⟨id, venueId, body.name⟩, stored, rfl, rfl, ?_⟩
  rw [all, length_grid, Nat.min_eq_left drawn, length_places]
  refine ⟨rfl, (grid_apart _ body ids).imp_of_mem fun first second apart same => apart ?_⟩
  exact ⟨(own_of_grid first).trans (own_of_grid second).symm, same⟩

end Saved

/-- A call of `createSector` on a site that some run has led to leaves the sector with all
its seats, or everything as it was, exactly when its last call does not fail where the
others went through. -/
theorem createSector_all_or_nothing_iff {user : AuthenticatedUser} {served : Site × Answer}
    (sectored : listing.catalog.Sectored) (run : Run (Site.step cfg) (.unbooked listing) ts s)
    (ends : s.serve choices (.write (.createSector user venueId body)) = some served) :
    AllOrNothing s.listing served.1.listing venueId body ↔
      seatsFail s.listing venueId body choices = false := by
  have laid := (Site.laid_unbooked sectored).run run
  simp only [Site.serve] at ends
  split at ends
  swap
  · cases ends
  rename_i accepted
  obtain ⟨left, answered, rfl⟩ := Option.map_eq_some_iff.mp ends
  change AllOrNothing s.listing left.1 venueId body ↔ _
  rcases savedSector_cases answered with ⟨none, same⟩ | ⟨id, sectors, rest, saved, inserted, goes⟩
  · exact iff_of_true (.inl same) (by rw [seatsFail, none])
  have fresh : ∀ seat ∈ s.db.catalog.seats.rows, seat.sectorId ≠ id := by
    intro seat member same
    obtain ⟨old, stored, named⟩ := laid.seats seat member
    exact fresh_of_insert inserted old stored (named.trans same)
  obtain ⟨c, more, rfl, ⟨failed, same⟩ | ⟨seats, healthy, filled, drawn, same⟩⟩ := saveSeats_cases goes
  · refine iff_of_false ?_ ?_
    · rw [same]
      exact not_allOrNothing_of_sector inserted fresh (Bool.and_eq_true_iff.mp accepted).2
    · rw [seatsFail, saved, Bool.not_eq_false, Bool.or_eq_true, Option.isNone_iff_eq_none]
      exact failed
  · refine iff_of_true ?_ ?_
    · rw [same]
      exact allOrNothing_of_seats inserted fresh filled drawn
    · have filled : s.listing.catalog.seats.insert? (grid ⟨id, venueId, body.name⟩ body c.ids) =
          some seats := filled
      simp only [seatsFail, saved, healthy, filled, Option.isNone_some, Bool.or_self]

/-- A site with nothing but a venue `8…`. -/
private theorem venue_enabled :
    (exec (Site.step sampleConfig) .empty (setUp.take 2)).isSome = true := by
  decide +kernel

/-- A sector `d…` of two seats. -/
private def twoSeats (last : Choice) : Option (Site × Answer) :=
  (launched (setUp.take 2) venue_enabled).serve [{}, { ids := [flat 0xd] }, last]
    (.write (.createSector organizer (flatText '8') ⟨['s'], 1, 2, none⟩))

private theorem twoSeats_served :
    (twoSeats { ids := [flat 0xa, flat 0xb] }).isSome = true := by
  decide +kernel

theorem createSector_all_or_nothing_iff_saved :
    AllOrNothing (launched (setUp.take 2) venue_enabled).listing
      ((twoSeats { ids := [flat 0xa, flat 0xb] }).get twoSeats_served).1.listing
      (flatText '8') ⟨['s'], 1, 2, none⟩ :=
  have run : Run (Site.step sampleConfig)
      (.unbooked ⟨⟨.empty, .empty, .empty, .empty⟩, .empty, fun _ => .blank⟩) _ _ :=
    run_replay venue_enabled
  (createSector_all_or_nothing_iff (fun _ member => absurd member List.not_mem_nil) run
    (Option.some_get twoSeats_served).symm).mpr (by decide +kernel)

private theorem twoSeats_failed : (twoSeats { fault := true }).isSome = true := by
  decide +kernel

/-- The seats of the new sector can not be saved: the sector is there without them. -/
theorem sector_without_seats :
    ¬ ∀ (cfg : Config) (listing : Listing) (ts : List (Transition Site Site.Action)) (s : Site)
      (choices : List Choice) (user : AuthenticatedUser) (venueId : Text) (body : CreateSectorDto)
      (served : Site × Answer), listing.catalog.Sectored →
      Run (Site.step cfg) (.unbooked listing) ts s →
      s.serve choices (.write (.createSector user venueId body)) = some served →
      AllOrNothing s.listing served.1.listing venueId body := by
  intro whole
  have both := whole sampleConfig ⟨⟨.empty, .empty, .empty, .empty⟩, .empty, fun _ => .blank⟩ _ _ _ _ _ _
    _ (fun _ member => absurd member List.not_mem_nil) (run_replay venue_enabled)
    (Option.some_get twoSeats_failed).symm
  rcases both with kept | half
  · have sectors := congrArg (·.catalog.sectors.rows.length) kept
    revert sectors
    decide +kernel
  · revert half
    decide +kernel

end KiTicket
