import KiTicket.Site

/-! Every event takes place at a venue that is stored: `create` looks the venue up, and
neither an edit nor anything else moves an event or takes a venue away. -/
namespace KiTicket
open Runs Events

variable {cfg : Config} {listing listing' : Listing} {c : Choice} {p : CatalogProc} {id : Text}
  {s s' : Site} {a : Site.Action} {ts : List (Transition Site Site.Action)}

/-- Every event is at a stored venue. -/
def Listing.Housed (listing : Listing) : Prop :=
  ∀ event ∈ listing.catalog.events.rows, ∃ venue, venueOrFail listing.venues event.venueId = .ok venue

/-- An event at this venue is about to be saved. -/
def CatalogProc.Hosts (venueId : Text) : CatalogProc → Prop
  | .createEvent (.save _ body) => body.venueId = venueId
  | _ => False

/-- Every event is at a stored venue, also one that is about to be saved. -/
structure Site.Housed (s : Site) : Prop where
  events : s.listing.Housed
  procs : ∀ p ∈ s.procs, ∀ venueId, p.Hosts venueId → ∃ venue, venueOrFail s.venues venueId = .ok venue

theorem find?_venue {venues : Table Venue} {venue : Venue} (stored : venue ∈ venues.rows) :
    venues.rows.find? (·.id = venue.id) = some venue := by
  refine Table.find?_eq_some_of_mem stored (decide_eq_true rfl) fun a b left right => ?_
  rw [decide_eq_true_eq] at left right
  simp [clash, left, right]

theorem venueOrFail_eq_ok {venues : Table Venue} {venue : Venue} :
    venueOrFail venues id = .ok venue ↔ venue ∈ venues.rows ∧ uuid? id = some venue.id := by
  constructor
  · intro found
    unfold venueOrFail at found
    split at found
    · cases found
    rename_i venueId named
    split at found <;> cases found
    rename_i hit
    have same : venue.id = venueId := by simpa using List.find?_some hit
    exact ⟨List.mem_of_find?_eq_some hit, same ▸ named⟩
  · rintro ⟨stored, named⟩
    simp only [venueOrFail, named, find?_venue stored]

theorem venueOrFail_mono {venues venues' : Table Venue} {venue : Venue}
    (found : venueOrFail venues id = .ok venue) (grows : venues.rows ⊆ venues'.rows) :
    venueOrFail venues' id = .ok venue := by
  obtain ⟨stored, named⟩ := venueOrFail_eq_ok.mp found
  exact venueOrFail_eq_ok.mpr ⟨grows stored, named⟩

/-- What one turn does to the venues and to where the events take place. -/
structure Hosted (listing listing' : Listing) (p p' : CatalogProc) : Prop where
  venues : listing.venues.rows ⊆ listing'.venues.rows
  events : ∀ event ∈ listing'.catalog.events.rows,
    (∃ old ∈ listing.catalog.events.rows, old.venueId = event.venueId) ∨ p.Hosts event.venueId
  proc : ∀ venueId, p'.Hosts venueId → ∃ venue, venueOrFail listing.venues venueId = .ok venue

theorem Hosted.saves {entity : EventEntity} {reply : Reply}
    (lists : listing.catalog.Lists entity) :
    Hosted listing (saveEvent listing entity) p (.done reply) where
  venues := fun _ => id
  events event member := by
    rw [rows_saveEvent] at member
    obtain ⟨row, stored, rfl⟩ := List.mem_map.mp member
    split
    · obtain ⟨loaded, known, -, venue, -⟩ := lists
      exact .inl ⟨loaded, known, venue⟩
    · exact .inl ⟨row, stored, rfl⟩
  proc _ hosts := hosts.elim

/-- Most turns leave the events alone. -/
theorem Hosted.of_events {listing' : Listing} {p' : CatalogProc}
    (events : listing'.catalog.events = listing.catalog.events)
    (venues : listing.venues.rows ⊆ listing'.venues.rows) (idle : ∀ venueId, ¬p'.Hosts venueId) :
    Hosted listing listing' p p' where
  venues := venues
  events event member := .inl ⟨event, events ▸ member, rfl⟩
  proc venueId hosts := absurd hosts (idle venueId)

theorem Hosted.idle {p' : CatalogProc} (idle : ∀ venueId, ¬p'.Hosts venueId) :
    Hosted listing listing p p' :=
  .of_events rfl (fun _ => id) idle

theorem Venues.Create.hosted {state : Venues.Create} {after : After Venues.Create}
    (turn : state.turn c listing = some (listing', after)) :
    Hosted listing listing' (.createVenue state) (after.proc .createVenue) := by
  cases state
  simp only [Venues.Create.turn] at turn
  split at turn
  · split at turn <;> cases turn
    · rename_i venues inserted
      exact .of_events rfl (grows_of_insert inserted) fun _ => id
    · exact .idle fun _ => id
  · cases turn

theorem Venues.CreateSector.hosted {state : Venues.CreateSector} {after : After Venues.CreateSector}
    (turn : state.turn c listing = some (listing', after)) :
    Hosted listing listing' (.createSector state) (after.proc .createSector) := by
  cases state <;> simp only [Venues.CreateSector.turn] at turn
  case findVenue => split at turn <;> cases turn <;> exact .idle fun _ => id
  case saveSector =>
    split at turn
    · split at turn <;> cases turn
      · exact .of_events rfl (fun _ => id) fun _ => id
      · exact .idle fun _ => id
    · cases turn
  case saveSeats =>
    split at turn
    · cases turn
    · split at turn <;> cases turn
      · exact .of_events rfl (fun _ => id) fun _ => id
      · exact .idle fun _ => id

theorem Events.Create.hosted {state : Events.Create} {after : After Events.Create}
    (turn : state.turn c listing = some (listing', after)) :
    Hosted listing listing' (.createEvent state) (after.proc .createEvent) := by
  cases state <;> simp only [Events.Create.turn] at turn
  case findVenue user body =>
    split at turn
    · cases turn
      exact .idle fun _ => id
    · rename_i venue found
      split at turn <;> cases turn
      · refine ⟨fun _ => id, fun event member => .inl ⟨event, member, rfl⟩, fun venueId hosts => ?_⟩
        exact ⟨venue, (show body.venueId = venueId from hosts) ▸ found⟩
      · exact .idle fun _ => id
  case save user body =>
    split at turn
    · split at turn <;> cases turn
      · rename_i events inserted
        refine ⟨fun _ => id, fun event member => ?_, fun _ hosts => hosts.elim⟩
        change event ∈ events.rows at member
        rw [Table.insert?_eq_some.mp inserted, List.mem_append, List.mem_singleton] at member
        rcases member with old | rfl
        · exact .inl ⟨event, old, rfl⟩
        · exact .inr rfl
      · exact .idle fun _ => id
    · cases turn

theorem Events.Update.hosted {state : Events.Update} {after : After Events.Update}
    (loaded : (CatalogProc.updateEvent state).Loaded listing.catalog)
    (turn : state.turn c listing = some (listing', after)) :
    Hosted listing listing' (.updateEvent state) (after.proc .updateEvent) := by
  cases state <;> simp only [Events.Update.turn] at turn
  case findOwned =>
    split at turn
    · cases turn
      exact .idle fun _ => id
    · split at turn <;> cases turn <;> exact .idle fun _ => id
  case save entity =>
    split at turn <;> cases turn
    · exact .saves loaded
    · exact .idle fun _ => id

theorem Events.AddPricing.hosted {state : Events.AddPricing} {after : After Events.AddPricing}
    (turn : state.turn c listing = some (listing', after)) :
    Hosted listing listing' (.addPricing state) (after.proc .addPricing) := by
  cases state <;> simp only [Events.AddPricing.turn] at turn
  case findOwned =>
    split at turn
    · cases turn
      exact .idle fun _ => id
    · split at turn <;> cases turn <;> exact .idle fun _ => id
  case findSector =>
    split at turn
    · cases turn
      exact .idle fun _ => id
    · split at turn <;> cases turn <;> exact .idle fun _ => id
  case save =>
    split at turn
    · split at turn
      · cases turn
        exact .idle fun _ => id
      split at turn <;> cases turn
      · exact .of_events rfl (fun _ => id) fun _ => id
      · exact .idle fun _ => id
    · cases turn

theorem Events.Publish.hosted {state : Events.Publish} {after : After Events.Publish}
    (loaded : (CatalogProc.publish state).Loaded listing.catalog)
    (turn : state.turn listing = some (listing', after)) :
    Hosted listing listing' (.publish state) (after.proc .publish) := by
  cases state <;> simp only [Events.Publish.turn] at turn
  case findOwned => split at turn <;> cases turn <;> exact .idle fun _ => id
  case exist => split at turn <;> cases turn <;> exact .idle fun _ => id
  case save =>
    cases turn
    exact .saves loaded

theorem CatalogProc.hosted {p' : CatalogProc} (loaded : p.Loaded listing.catalog)
    (turn : p.turn c listing = some (listing', p')) : Hosted listing listing' p p' := by
  cases p <;> simp only [CatalogProc.turn, afterOf_eq_some] at turn
  case done => cases turn
  all_goals
    obtain ⟨after, turn, rfl⟩ := turn
    split at turn
    · cases turn
      exact .idle fun _ => id
  · exact Venues.Create.hosted turn
  · exact Venues.CreateSector.hosted turn
  · exact Events.Create.hosted turn
  · exact Events.Update.hosted loaded turn
  · exact Events.AddPricing.hosted turn
  · exact Events.Publish.hosted loaded turn

theorem Site.venues_of_step (taken : Site.step cfg s a = some s') (sound : s.Sound) :
    s.venues.rows ⊆ s'.venues.rows := by
  cases Site.step_cases taken
  case turn pid c p p' listing serving turn =>
    exact (CatalogProc.hosted (sound.procs p (List.mem_of_getElem? serving)) turn).venues
  all_goals exact fun _ => id

theorem Site.Housed.next (housed : s.Housed) (sound : s.Sound)
    (taken : Site.step cfg s a = some s') : s'.Housed := by
  have kept {venueId : Text} (known : ∃ venue, venueOrFail s.venues venueId = .ok venue) :
      ∃ venue, venueOrFail s'.venues venueId = .ok venue :=
    known.imp fun _ found => venueOrFail_mono found (Site.venues_of_step taken sound)
  refine ⟨?_, ?_⟩
  · cases Site.step_cases taken
    case booking a world moves =>
      have same : { s with world }.listing = s.listing :=
        congrArg (Listing.mk · s.venues s.columns) (catalog_of_step moves)
      exact same ▸ housed.events
    case turn pid c p p' listing serving turn =>
      have member := List.mem_of_getElem? serving
      intro event stored
      rcases (CatalogProc.hosted (sound.procs p member) turn).events event stored with
        ⟨old, known, same⟩ | hosts
      · exact kept (same ▸ housed.events old known)
      · exact kept (housed.procs p member _ hosts)
    all_goals exact housed.events
  · refine Site.forall_procs taken (fun p member => And.intro (sound.procs p member)
      (housed.procs p member)) (fun p both venueId hosts => kept (both.2 venueId hosts)) ?_ ?_ ?_
    · intro r
      cases r <;> exact fun _ hosts => hosts.elim
    · exact fun _ _ hosts => hosts.elim
    · intro pid c p p' _ both turn venueId hosts
      exact kept ((CatalogProc.hosted both.1 turn).proc venueId hosts)

theorem housed_of_run (housed : listing.Housed) (run : Run (Site.step cfg) (.unbooked listing) ts s) :
    s.Sound ∧ s.Housed := by
  refine run.invariant (P := fun s => s.Sound ∧ s.Housed) (fun _ _ => (trivial : True))
    ⟨Site.sound_unbooked, housed, fun _ member => absurd member List.not_mem_nil⟩ ?_
  rintro s a s' ⟨sound, housed⟩ - taken
  exact ⟨(sound.next taken).1, housed.next sound taken⟩

end KiTicket
