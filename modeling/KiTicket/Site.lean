import KiTicket.Events
import KiTicket.Placement

/-! The whole site: the booking API over a catalog that organizers set up and edit at
the same time. A step is one of the booking side, the arrival of a catalog request,
one of its turns, or its crash. The catalog only grows, so what holds of the bookings
over a fixed catalog holds here. -/
namespace KiTicket
open Runs

inductive CatalogRequest where
  | createVenue (user : AuthenticatedUser) (body : CreateVenueDto)
  | createSector (user : AuthenticatedUser) (venueId : Text) (body : CreateSectorDto)
  | createEvent (user : AuthenticatedUser) (body : CreateEventDto)
  | updateEvent (user : AuthenticatedUser) (id : Text) (body : UpdateEventDto)
  | addPricing (user : AuthenticatedUser) (id : Text) (body : CreatePricingDto)
  | publish (user : AuthenticatedUser) (id : Text)
deriving DecidableEq

/-- `@Roles(Role.ORGANIZER, Role.ADMIN)` -/
def organizes (user : AuthenticatedUser) : Bool := user.role = .organizer ∨ user.role = .admin

def CatalogRequest.accepted : CatalogRequest → Bool
  | .createVenue user body => organizes user && body.accepted
  | .createSector user _ body => organizes user && body.accepted
  | .createEvent user body => organizes user && body.accepted
  | .updateEvent user _ body => organizes user && body.accepted
  | .publish user _ => organizes user
  | .addPricing user _ body => organizes user && body.accepted

/-- Every id in the request is spelled as the API returns it. -/
def CatalogRequest.asReturned : CatalogRequest → Bool
  | .createVenue _ _ => true
  | .createSector _ id _ | .updateEvent _ id _ | .publish _ id => KiTicket.asReturned id
  | .createEvent _ body => KiTicket.asReturned body.venueId
  | .addPricing _ id body => KiTicket.asReturned id && body.sectorId.all KiTicket.asReturned

/-- A catalog request being served, or one that was answered. -/
inductive CatalogProc where
  | createVenue (state : Venues.Create)
  | createSector (state : Venues.CreateSector)
  | createEvent (state : Events.Create)
  | updateEvent (state : Events.Update)
  | addPricing (state : Events.AddPricing)
  | publish (state : Events.Publish)
  | done (reply : Reply)
deriving DecidableEq

def CatalogRequest.proc : CatalogRequest → CatalogProc
  | .createVenue _ body => .createVenue (.save body)
  | .createSector _ venueId body => .createSector (.findVenue venueId body)
  | .createEvent user body => .createEvent (.findVenue user body)
  | .updateEvent user id body => .updateEvent (.findOwned user id body)
  | .addPricing user id body => .addPricing (.findOwned user id body)
  | .publish user id => .publish (.findOwned user id)

def After.proc (wrap : σ → CatalogProc) : After σ → CatalogProc
  | .go state => wrap state
  | .done reply => .done reply

def afterOf (wrap : σ → CatalogProc) (outcome : Option (Listing × After σ)) :
    Option (Listing × CatalogProc) :=
  outcome.map fun (listing, after) => (listing, after.proc wrap)

/-- One turn; a call that fails ends the request. -/
def CatalogProc.turn (c : Choice) (listing : Listing) :
    CatalogProc → Option (Listing × CatalogProc)
  | .createVenue state =>
    afterOf .createVenue (if c.fault then listing.refuse .fault else state.turn c listing)
  | .createSector state =>
    afterOf .createSector (if c.fault then listing.refuse .fault else state.turn c listing)
  | .createEvent state =>
    afterOf .createEvent (if c.fault then listing.refuse .fault else state.turn c listing)
  | .updateEvent state =>
    afterOf .updateEvent (if c.fault then listing.refuse .fault else state.turn c listing)
  | .addPricing state =>
    afterOf .addPricing (if c.fault then listing.refuse .fault else state.turn c listing)
  | .publish state =>
    afterOf .publish (if c.fault then listing.refuse .fault else state.turn listing)
  | .done _ => none

structure Site where
  /-- The booking side, with the catalog in its database. -/
  world : World
  venues : Table Venue
  columns : Uuid → EventColumns
  procs : List CatalogProc

namespace Site

inductive Action where
  | booking (a : KiTicket.Action)
  | request (request : CatalogRequest)
  | turn (pid : Nat) (choice : Choice)
  | crash (pid : Nat)
deriving DecidableEq

def listing (s : Site) : Listing := ⟨s.world.db.catalog, s.venues, s.columns⟩

/-- The same bookings over another catalog. -/
def relist (s : Site) (listing : Listing) : Site where
  world := { s.world with
    shared := { s.world.shared with db := { s.world.db with catalog := listing.catalog } } }
  venues := listing.venues
  columns := listing.columns
  procs := s.procs

def step (cfg : Config) (s : Site) : Action → Option Site
  | .booking a => (KiTicket.step cfg s.world a).map fun world => { s with world }
  | .request r => if r.accepted then some { s with procs := s.procs ++ [r.proc] } else none
  | .turn pid c => do
    let proc ← s.procs[pid]?
    let (listing, proc') ← proc.turn c s.listing
    some { s.relist listing with procs := s.procs.set pid proc' }
  | .crash pid =>
    match s.procs[pid]? with
    | none | some (.done _) => none
    | some _ => some { s with procs := s.procs.set pid (.done (.error .crash)) }

/-- A catalog nobody has booked from and no request is editing. -/
def unbooked (listing : Listing) : Site := ⟨initial listing.catalog, listing.venues, listing.columns, []⟩

/-- Nothing set up yet. -/
def empty : Site := ⟨initial ⟨.empty, .empty, .empty, .empty⟩, .empty, fun _ => .blank, []⟩

/-- The ids of a request are spelled as the API returns them. -/
def Action.AsReturned : Action → Prop
  | .booking a => a.AsReturned
  | .request r => r.asReturned = true
  | _ => True

instance : DecidablePred Action.AsReturned
  | .booking a => inferInstanceAs (Decidable a.AsReturned)
  | .request r => inferInstanceAs (Decidable (r.asReturned = true))
  | .turn _ _ | .crash _ => .isTrue trivial

abbrev db (s : Site) : Db := s.world.db

/-- What a step can do, action by action. -/
inductive Taken (cfg : Config) (s : Site) : Action → Site → Prop where
  | booking {a : KiTicket.Action} {world : World} (taken : KiTicket.step cfg s.world a = some world) :
      Taken cfg s (.booking a) { s with world }
  | request {r : CatalogRequest} (accepted : r.accepted = true) :
      Taken cfg s (.request r) { s with procs := s.procs ++ [r.proc] }
  | turn {pid : Nat} {c : Choice} {p p' : CatalogProc} {listing : Listing}
      (serving : s.procs[pid]? = some p) (turn : p.turn c s.listing = some (listing, p')) :
      Taken cfg s (.turn pid c) { s.relist listing with procs := s.procs.set pid p' }
  | crash {pid : Nat} {p : CatalogProc} (serving : s.procs[pid]? = some p) :
      Taken cfg s (.crash pid) { s with procs := s.procs.set pid (.done (.error .crash)) }

variable {cfg : Config} {s s' : Site} {a : Action}

theorem step_cases (taken : step cfg s a = some s') : Taken cfg s a s' := by
  cases a
  case booking a =>
    obtain ⟨world, moves, rfl⟩ := Option.map_eq_some_iff.mp taken
    exact .booking moves
  case request r =>
    simp only [step] at taken
    split at taken <;> cases taken
    exact .request (by assumption)
  case turn pid c =>
    obtain ⟨p, serving, taken⟩ := Option.bind_eq_some_iff.mp taken
    obtain ⟨⟨listing, p'⟩, turn, last⟩ := Option.bind_eq_some_iff.mp taken
    cases last
    exact .turn serving turn
  case crash pid =>
    simp only [step] at taken
    split at taken <;> cases taken
    exact .crash (by assumption)

end Site

/-! ## The catalog only grows -/

variable {cfg : Config} {listing listing' : Listing} {catalog catalog' : Catalog} {c : Choice}
  {p p' : CatalogProc} {event : Event} {entity : EventEntity} {s s' : Site} {a : Site.Action}
  {ts : List (Transition Site Site.Action)}

/-- The event is stored, and neither its venue nor its organizer is another. -/
def Catalog.Lists (catalog : Catalog) (entity : EventEntity) : Prop :=
  ∃ row ∈ catalog.events.rows,
    row.id = entity.id ∧ row.venueId = entity.venueId ∧ row.organizerId = entity.organizerId

theorem Catalog.Lists.mono (lists : catalog.Lists entity) (grows : catalog.Grows catalog') :
    catalog'.Lists entity := by
  obtain ⟨row, member, named, venue, organizer⟩ := lists
  obtain ⟨row', member', named', venue', organizer'⟩ := grows.events row member
  exact ⟨row', member', named'.trans named, venue'.trans venue, organizer'.trans organizer⟩

/-- The event a request may edit is the stored one of that id, and its caller's. -/
theorem ownedEvent_eq_ok {events : Table Event} {path : Text} {user : AuthenticatedUser} :
    Events.ownedEvent events path user = .ok event ↔ event ∈ events.rows ∧
      uuid? path = some event.id ∧ (user.role = .admin ∨ event.organizerId = user.sub) := by
  constructor
  · intro owned
    unfold Events.ownedEvent at owned
    split at owned
    · cases owned
    rename_i id named
    split at owned
    · cases owned
    rename_i row hit
    split at owned <;> cases owned
    rename_i allowed
    have same : event.id = id := by simpa using List.find?_some hit
    refine ⟨List.mem_of_find?_eq_some hit, same ▸ named, ?_⟩
    by_contra neither
    exact allowed ⟨fun admin => neither (.inl admin), fun own => neither (.inr own)⟩
  · rintro ⟨stored, named, allowed⟩
    have found : events.rows.find? (·.id = event.id) = some event := by
      refine Table.find?_eq_some_of_mem stored (decide_eq_true rfl) fun a b left right => ?_
      rw [decide_eq_true_eq] at left right
      simp [clash, left, right]
    have mine : ¬(user.role ≠ .admin ∧ event.organizerId ≠ user.sub) := by tauto
    simp only [Events.ownedEvent, named, found, if_neg mine]

theorem lists_of_owned {path : Text} {user : AuthenticatedUser}
    {columns : EventColumns} (owned : Events.ownedEvent catalog.events path user = .ok event) :
    catalog.Lists (.of event columns) :=
  ⟨event, (ownedEvent_eq_ok.mp owned).1, rfl, rfl, rfl⟩

/-- An event that a request is about to save is stored. -/
def CatalogProc.Loaded (catalog : Catalog) : CatalogProc → Prop
  | .updateEvent (.save entity) | .publish (.exist _ entity) | .publish (.save entity) =>
    catalog.Lists entity
  | _ => True

theorem CatalogProc.Loaded.mono (loaded : p.Loaded catalog) (grows : catalog.Grows catalog') :
    p.Loaded catalog' := by
  cases p <;> try trivial
  case updateEvent state =>
    cases state
    case findOwned => trivial
    case save => exact Catalog.Lists.mono loaded grows
  case publish state =>
    cases state
    case findOwned => trivial
    case exist => exact Catalog.Lists.mono loaded grows
    case save => exact Catalog.Lists.mono loaded grows

theorem rows_saveEvent : (Events.saveEvent listing entity).catalog.events.rows =
    listing.catalog.events.rows.map fun row =>
      if row.id = entity.id then Events.writtenEvent entity row else row := rfl

theorem Catalog.Lists.grows (lists : listing.catalog.Lists entity) :
    listing.catalog.Grows (Events.saveEvent listing entity).catalog where
  sectors := fun _ => id
  seats := fun _ => id
  prices := fun _ => id
  events other member := by
    refine ⟨if other.id = entity.id then Events.writtenEvent entity other else other, ?_, ?_⟩
    · rw [rows_saveEvent]
      exact List.mem_map_of_mem member
    · split
      · rename_i same
        obtain ⟨row, stored, named, venue, organizer⟩ := lists
        have unique : row = other :=
          Table.eq_of_clash stored member (by simp [clash, named, same])
        subst unique
        exact ⟨rfl, venue.symm, organizer.symm⟩
      · exact ⟨rfl, rfl, rfl⟩

theorem grows_of_insert {α : Type} [UniqueKeys α] {table table' : Table α} {new : List α}
    (inserted : table.insert? new = some table') : table.rows ⊆ table'.rows := by
  rw [Table.insert?_eq_some.mp inserted]
  exact List.subset_append_left _ _

/-- What one turn does to the catalog: it grows, and a price comes from `addPricing`. -/
structure Grown (listing listing' : Listing) (p p' : CatalogProc) : Prop where
  grows : listing.catalog.Grows listing'.catalog
  loaded : p'.Loaded listing'.catalog
  prices : listing'.catalog.prices = listing.catalog.prices ∨
    ∃ path body id price, p = .addPricing (.save path body) ∧
      listing'.catalog.prices.rows =
        listing.catalog.prices.rows ++ [Events.newPricing id path body price]

theorem Grown.stays (loaded : p'.Loaded listing.catalog) : Grown listing listing p p' :=
  ⟨Catalog.grows_refl, loaded, .inl rfl⟩

theorem Venues.Create.grown {state : Venues.Create} {after : After Venues.Create}
    (turn : state.turn c listing = some (listing', after)) :
    Grown listing listing' (.createVenue state) (after.proc .createVenue) := by
  cases state
  simp only [Venues.Create.turn] at turn
  split at turn
  · split at turn <;> cases turn
    · exact ⟨Catalog.grows_refl, trivial, .inl rfl⟩
    · exact .stays trivial
  · cases turn

theorem Venues.CreateSector.grown {state : Venues.CreateSector} {after : After Venues.CreateSector}
    (turn : state.turn c listing = some (listing', after)) :
    Grown listing listing' (.createSector state) (after.proc .createSector) := by
  cases state <;> simp only [Venues.CreateSector.turn] at turn
  case findVenue =>
    split at turn <;> cases turn <;> exact .stays trivial
  case saveSector =>
    split at turn
    · split at turn <;> cases turn
      · rename_i sectors inserted
        exact ⟨⟨grows_of_insert inserted, fun _ => id, fun _ => id,
          fun event member => ⟨event, member, rfl, rfl, rfl⟩⟩, trivial, .inl rfl⟩
      · exact .stays trivial
    · cases turn
  case saveSeats =>
    split at turn
    · cases turn
    · split at turn <;> cases turn
      · rename_i seats inserted
        exact ⟨⟨fun _ => id, grows_of_insert inserted, fun _ => id,
          fun event member => ⟨event, member, rfl, rfl, rfl⟩⟩, trivial, .inl rfl⟩
      · exact .stays trivial

theorem Events.Create.grown {state : Events.Create} {after : After Events.Create}
    (turn : state.turn c listing = some (listing', after)) :
    Grown listing listing' (.createEvent state) (after.proc .createEvent) := by
  cases state <;> simp only [Events.Create.turn] at turn
  case findVenue =>
    split at turn
    · cases turn
      exact .stays trivial
    · split at turn <;> cases turn <;> exact .stays trivial
  case save =>
    split at turn
    · split at turn <;> cases turn
      · rename_i events inserted
        exact ⟨⟨fun _ => id, fun _ => id, fun _ => id,
          fun event member => ⟨event, grows_of_insert inserted member, rfl, rfl, rfl⟩⟩, trivial,
          .inl rfl⟩
      · exact .stays trivial
    · cases turn

theorem Events.Update.grown {state : Events.Update} {after : After Events.Update}
    (loaded : (CatalogProc.updateEvent state).Loaded listing.catalog)
    (turn : state.turn c listing = some (listing', after)) :
    Grown listing listing' (.updateEvent state) (after.proc .updateEvent) := by
  cases state <;> simp only [Events.Update.turn] at turn
  case findOwned user path body =>
    split at turn
    · cases turn
      exact .stays trivial
    rename_i event owned
    split at turn <;> cases turn
    · have lists : listing.catalog.Lists (.of event (listing.columns event.id)) :=
        lists_of_owned owned
      exact .stays lists
    · exact .stays trivial
  case save entity =>
    split at turn <;> cases turn
    · exact ⟨Catalog.Lists.grows loaded, trivial, .inl rfl⟩
    · exact .stays trivial

theorem Events.AddPricing.grown {state : Events.AddPricing} {after : After Events.AddPricing}
    (turn : state.turn c listing = some (listing', after)) :
    Grown listing listing' (.addPricing state) (after.proc .addPricing) := by
  cases state <;> simp only [Events.AddPricing.turn] at turn
  case findOwned =>
    split at turn
    · cases turn
      exact .stays trivial
    · split at turn <;> cases turn <;> exact .stays trivial
  case findSector =>
    split at turn
    · cases turn
      exact .stays trivial
    · split at turn <;> cases turn <;> exact .stays trivial
  case save path body =>
    split at turn
    · split at turn
      · cases turn
        exact .stays trivial
      split at turn <;> cases turn
      · rename_i prices inserted
        exact ⟨⟨fun _ => id, fun _ => id, grows_of_insert inserted,
          fun event member => ⟨event, member, rfl, rfl, rfl⟩⟩, trivial,
          .inr ⟨path, body, _, _, rfl, Table.insert?_eq_some.mp inserted⟩⟩
      · exact .stays trivial
    · cases turn

theorem Events.Publish.grown {state : Events.Publish} {after : After Events.Publish}
    (loaded : (CatalogProc.publish state).Loaded listing.catalog)
    (turn : state.turn listing = some (listing', after)) :
    Grown listing listing' (.publish state) (after.proc .publish) := by
  cases state <;> simp only [Events.Publish.turn] at turn
  case findOwned =>
    split at turn <;> cases turn
    · exact .stays trivial
    · rename_i event owned
      have lists : listing.catalog.Lists (.of event (listing.columns event.id)) := lists_of_owned owned
      exact .stays lists
  case exist path entity =>
    split at turn <;> cases turn
    · exact .stays loaded
    · exact .stays trivial
  case save entity =>
    cases turn
    exact ⟨Catalog.Lists.grows loaded, trivial, .inl rfl⟩

theorem afterOf_eq_some {σ : Type} {wrap : σ → CatalogProc} {outcome : Option (Listing × After σ)} :
    afterOf wrap outcome = some (listing', p') ↔
      ∃ after, outcome = some (listing', after) ∧ p' = after.proc wrap := by
  simp only [afterOf, Option.map_eq_some_iff, Prod.exists, Prod.mk.injEq]
  constructor
  · rintro ⟨_, after, taken, rfl, rfl⟩
    exact ⟨after, taken, rfl⟩
  · rintro ⟨after, taken, rfl⟩
    exact ⟨_, after, taken, rfl, rfl⟩

/-- A call that fails changes nothing. -/
private theorem grown_of_fault {σ : Type} {wrap : σ → CatalogProc} {after : After σ}
    (failed : listing.refuse .fault = some (listing', after)) :
    Grown listing listing' p (after.proc wrap) := by
  cases failed
  exact .stays trivial

theorem CatalogProc.grown (loaded : p.Loaded listing.catalog)
    (turn : p.turn c listing = some (listing', p')) : Grown listing listing' p p' := by
  cases p <;> simp only [CatalogProc.turn, afterOf_eq_some] at turn
  case done => cases turn
  all_goals
    obtain ⟨after, turn, rfl⟩ := turn
    split at turn
    · exact grown_of_fault turn
  · exact Venues.Create.grown turn
  · exact Venues.CreateSector.grown turn
  · exact Events.Create.grown turn
  · exact Events.Update.grown loaded turn
  · exact Events.AddPricing.grown turn
  · exact Events.Publish.grown loaded turn

/-! ## What every reachable site satisfies -/

/-- The bookings agree with one another and lie in the catalog, and an event that a
request is about to save is stored. -/
structure Site.Sound (s : Site) : Prop where
  world : World.Sound (fun _ => True) s.world
  coherent : ∀ id, (s.db.booking id).Coherent
  placed : World.Placed s.world
  procs : ∀ p ∈ s.procs, p.Loaded s.db.catalog

theorem Site.sound_unbooked : (Site.unbooked listing).Sound where
  world := sound_initial
  coherent _ := Booking.coherent_nothing
  placed := placed_initial
  procs _ member := absurd member List.not_mem_nil

theorem Site.sound_empty : Site.empty.Sound :=
  @Site.sound_unbooked ⟨⟨.empty, .empty, .empty, .empty⟩, .empty, fun _ => .blank⟩

/-- A larger catalog takes nothing away. -/
theorem World.Placed.relist {w : World} (placed : World.Placed w)
    (grows : w.db.catalog.Grows catalog') : World.Placed { w with
      shared := { w.shared with db := { w.db with catalog := catalog' } } } where
  procs p member := (placed.procs p member).mono grows
  stored id r stored := (placed.stored id r stored).mono grows

/-- The catalog requests after a step: one has taken a turn, or died, or arrived. -/
theorem Site.forall_procs {P Q : CatalogProc → Prop} (taken : Site.step cfg s a = some s')
    (before : ∀ p ∈ s.procs, P p) (kept : ∀ p, P p → Q p) (arrives : ∀ r : CatalogRequest, Q r.proc)
    (answered : ∀ reply, Q (.done reply))
    (turn : ∀ pid c p p', a = .turn pid c → P p → p.turn c s.listing = some (s'.listing, p') → Q p') :
    ∀ p ∈ s'.procs, Q p := by
  cases Site.step_cases taken
  case booking => exact fun p member => kept p (before p member)
  case request r accepted =>
    intro p member
    rcases List.mem_append.mp member with old | new
    · exact kept p (before p old)
    · exact List.mem_singleton.mp new ▸ arrives r
  case turn pid c p p' listing serving moves =>
    refine Pool.forall_set before ?_ fun _ q _ _ => kept q
    exact turn pid c p p' rfl (before p (List.mem_of_getElem? serving)) moves
  case crash pid p serving =>
    exact Pool.forall_set before (answered _) fun _ q _ _ => kept q

theorem Site.grows_of_step (procs : ∀ p ∈ s.procs, p.Loaded s.db.catalog)
    (taken : Site.step cfg s a = some s') : s.db.catalog.Grows s'.db.catalog := by
  cases Site.step_cases taken
  case booking a world moves =>
    have same : world.db.catalog = s.db.catalog := catalog_of_step moves
    exact same ▸ Catalog.grows_refl
  case turn pid c p p' listing serving turn =>
    exact (CatalogProc.grown (procs p (List.mem_of_getElem? serving)) turn).grows
  all_goals exact Catalog.grows_refl

theorem Site.Sound.next (sound : s.Sound) (taken : Site.step cfg s a = some s') :
    s'.Sound ∧ s.db.catalog.Grows s'.db.catalog := by
  have grows := Site.grows_of_step sound.procs taken
  have procs : ∀ p ∈ s'.procs, p.Loaded s'.db.catalog := by
    refine Site.forall_procs taken sound.procs (fun p loaded => loaded.mono grows) ?_ ?_ ?_
    · intro r
      cases r <;> trivial
    · exact fun _ => trivial
    · exact fun _ _ _ _ _ loaded turn => (CatalogProc.grown loaded turn).loaded
  refine ⟨?_, grows⟩
  cases Site.step_cases taken
  case booking a world moves =>
    obtain ⟨next, coherent⟩ := sound.world.coherent_next sound.coherent moves
    exact ⟨next, coherent, sound.placed.next sound.world sound.coherent moves, procs⟩
  case turn =>
    exact ⟨⟨sound.world.sound, sound.world.exclusive⟩, sound.coherent, sound.placed.relist grows,
      procs⟩
  all_goals exact ⟨sound.world, sound.coherent, sound.placed, procs⟩

theorem Site.Sound.run (sound : s.Sound) (run : Run (Site.step cfg) s ts s') : s'.Sound :=
  run.invariant (fun _ _ => (trivial : True)) sound fun _ _ _ sound _ taken => (sound.next taken).1

/-! ## A site to try things on -/

def sampleEvent : CreateEventDto where
  venueId := flatText '8'
  title := ['t', 't']
  description := []
  genre := ['g', 'g']
  city := ['c', 'c']
  tags := none
  startsAt := some 1000000
  endsAt := none

/-- A venue `8…` with a sector `d…` of two seats, `a…` and `b…`, and an event `e…` in it. -/
def setUp : List Site.Action :=
  [.request (.createVenue organizer ⟨['v', 'v'], ['c', 'c'], []⟩), .turn 0 { ids := [flat 8] },
    .request (.createSector organizer (flatText '8') ⟨['s'], 1, 2, none⟩), .turn 1 {},
    .turn 1 { ids := [flat 0xd] }, .turn 1 { ids := [flat 0xa, flat 0xb] },
    .request (.createEvent organizer sampleEvent), .turn 2 {},
    .turn 2 { ids := [flat 0xe] }]

/-- A default price of 50 for the event. -/
def price (pid : Nat) (id : Uuid) : List Site.Action :=
  [.request (.addPricing organizer (flatText 'e') ⟨none, ['p'], 50, none⟩), .turn pid {},
    .turn pid { ids := [id] }]

def publish (pid : Nat) : List Site.Action :=
  [.request (.publish organizer (flatText 'e')), .turn pid {}, .turn pid {}, .turn pid {}]

/-- The site after some actions, none of which had to wait. -/
abbrev launched (actions : List Site.Action)
    (enabled : (exec (Site.step sampleConfig) .empty actions).isSome = true) : Site :=
  replay (Site.step sampleConfig) .empty actions enabled

theorem openSite_enabled :
    (exec (Site.step sampleConfig) .empty (setUp ++ price 3 (flat 0xc) ++ publish 4)).isSome =
      true := by
  decide +kernel

end KiTicket
