import KiTicket.Site

/-! Edits of one event side by side. A request loads the event, changes its copy and
saves it: an update writes the columns its body names and `published` as it was loaded, a
publish writes every column. So what is lost is what somebody else has saved in between,
and what a start and an end are checked against may have changed. -/
namespace KiTicket
open Runs Events

variable {cfg : Config} {s s' : Site} {a : Site.Action} {ts : List (Transition Site Site.Action)}
  {t : Transition Site Site.Action} {listing listing' : Listing} {catalog catalog' : Catalog}
  {p p' : CatalogProc} {r : CatalogRequest} {c : Choice} {entity : EventEntity} {event row : Event}
  {columns : EventColumns} {user : AuthenticatedUser} {path : Text} {body : UpdateEventDto}
  {now startsAt startsAt' : Nat} {endsAt endsAt' : Option Nat} {id : Uuid}

/-! ## Requests one after the other -/

/-- Turn after turn until the request is answered, nobody else at work. -/
def CatalogProc.settle (c : Choice) : Nat → Listing → CatalogProc → Option Listing
  | _, listing, .done _ => some listing
  | 0, _, _ => none
  | fuel + 1, listing, p => (p.turn c listing).bind fun (listing, p) => settle c fuel listing p

/-- A request served alone; an edit takes three turns at most. -/
def serially (listing : Listing) (served : CatalogRequest × Nat) : Option Listing :=
  CatalogProc.settle { now := served.2 } 3 listing served.1.proc

/-- The catalog requests of a run, in the order they arrived. -/
def arrivals (ts : List (Transition Site Site.Action)) : List CatalogRequest :=
  ts.filterMap fun t => match t.action with
    | .request r => some r
    | _ => none

/-- Its handler has answered, and not a call that failed. -/
def CatalogProc.answered (c : Choice) : CatalogProc → Bool
  | .done _ => !c.fault
  | _ => false

/-- The request that is answered in a step. -/
def answers (t : Transition Site Site.Action) : List Nat :=
  match t.action with
  | .turn pid c => if t.target.procs[pid]?.any (·.answered c) then [pid] else []
  | _ => []

/-- Only PATCH and publish requests on one event arrive. -/
def Site.Action.Edits (event : Uuid) : Site.Action → Prop
  | .request (.updateEvent _ path _) | .request (.publish _ path) => uuid? path = some event
  | .request _ => False
  | _ => True

instance {event : Uuid} : Decidable (a.Edits event) := by
  unfold Site.Action.Edits
  split <;> infer_instance

/-- The event ends, if it does, after it starts. -/
def Listing.Ordered (listing : Listing) (id : Uuid) : Prop :=
  ∀ row ∈ listing.catalog.events.rows, row.id = id →
    ∀ endsAt ∈ (listing.columns id).endsAt, row.startsAt < endsAt

def Listing.Published (listing : Listing) (id : Uuid) : Prop :=
  ∃ row ∈ listing.catalog.events.rows, row.id = id ∧ row.published = true

instance : Decidable (listing.Ordered id) := by
  unfold Listing.Ordered
  infer_instance

instance : Decidable (listing.Published id) := by
  unfold Listing.Published
  infer_instance

/-! ## Saves that lose nothing -/

/-- An update finds `published` as it was loaded, and leaves the times in order. -/
def FreshUpdate (listing : Listing) (entity : EventEntity) : Prop :=
  ∀ row ∈ listing.catalog.events.rows, row.id = entity.id → row.published = entity.published ∧
    ∀ endsAt ∈ (Field.value entity.endsAt <|> (listing.columns entity.id).endsAt),
      written entity.startsAt row.startsAt < endsAt

/-- A publish finds every column but `published` as it was loaded. -/
def FreshPublish (listing : Listing) (entity : EventEntity) : Prop :=
  ∀ row ∈ listing.catalog.events.rows, row.id = entity.id →
    { EventEntity.of row (listing.columns entity.id) with published := true } = entity

def CatalogProc.Fresh (c : Choice) (listing : Listing) : CatalogProc → Prop
  | .updateEvent (.save entity) =>
    c.fault = false → storable entity = true → FreshUpdate listing entity
  | .publish (.save entity) => c.fault = false → FreshPublish listing entity
  | _ => True

/-- A step that saves nothing stale. -/
def Fresh (t : Transition Site Site.Action) : Prop :=
  match t.action with
  | .turn pid c => ∀ p ∈ t.source.procs[pid]?, p.Fresh c t.source.listing
  | _ => True

instance : Decidable (p.Fresh c listing) := by
  unfold CatalogProc.Fresh FreshUpdate FreshPublish
  split <;> infer_instance

instance : Decidable (Fresh t) := by
  unfold Fresh
  split <;> infer_instance

/-! ## What a request has loaded -/

/-- The user may edit the event the path names, and it is still stored. -/
structure Loads (catalog : Catalog) (user : AuthenticatedUser) (path : Text) (entity : EventEntity) :
    Prop where
  named : uuid? path = some entity.id
  owned : user.role = .admin ∨ entity.organizerId = user.sub
  lists : catalog.Lists entity

theorem Loads.mono (loads : Loads catalog user path entity) (grows : catalog.Grows catalog') :
    Loads catalog' user path entity :=
  ⟨loads.named, loads.owned, loads.lists.mono grows⟩

theorem loads_of_owned (columns : EventColumns)
    (owned : ownedEvent catalog.events path user = .ok event) :
    Loads catalog user path (.of event columns) :=
  ⟨(ownedEvent_eq_ok.mp owned).2.1, (ownedEvent_eq_ok.mp owned).2.2, lists_of_owned owned⟩

/-- It can be loaded again. -/
theorem Loads.again (loads : Loads catalog user path entity) :
    ∃ row ∈ catalog.events.rows, ownedEvent catalog.events path user = .ok row ∧
      row.id = entity.id ∧ row.venueId = entity.venueId ∧ row.organizerId = entity.organizerId := by
  obtain ⟨row, stored, id, venue, organizer⟩ := loads.lists
  have owned : ownedEvent catalog.events path user = .ok row :=
    ownedEvent_eq_ok.mpr ⟨stored, id ▸ loads.named, organizer ▸ loads.owned⟩
  exact ⟨row, stored, owned, id, venue, organizer⟩

/-- What a request in flight has found out. -/
def CatalogProc.Served (catalog : Catalog) (r : CatalogRequest) : CatalogProc → Prop
  | .updateEvent (.findOwned user path body) => r = .updateEvent user path body
  | .updateEvent (.save entity) => ∃ user path body event columns now,
      r = .updateEvent user path body ∧ entity = assign (.of event columns) body ∧
      Loads catalog user path entity ∧ validUpdate now event.startsAt columns.endsAt body = true
  | .publish (.findOwned user path) => r = .publish user path
  | .publish (.exist path entity) => ∃ user, r = .publish user path ∧ Loads catalog user path entity
  | .publish (.save entity) => ∃ user path, r = .publish user path ∧
      Loads catalog user path entity ∧ entity.published = true ∧
      catalog.prices.rows.any (·.eventId = path) = true
  | .done _ => True
  | _ => False

theorem CatalogProc.Served.mono (served : p.Served catalog r) (grows : catalog.Grows catalog') :
    p.Served catalog' r := by
  cases p <;> try exact served
  case updateEvent state =>
    cases state <;> try exact served
    obtain ⟨user, path, body, event, columns, now, same, assigned, loads, valid⟩ := served
    exact ⟨user, path, body, event, columns, now, same, assigned, loads.mono grows, valid⟩
  case publish state =>
    cases state <;> try exact served
    case exist =>
      obtain ⟨user, same, loads⟩ := served
      exact ⟨user, same, loads.mono grows⟩
    case save =>
      obtain ⟨user, path, same, loads, published, priced⟩ := served
      obtain ⟨price, stored, named⟩ := List.any_eq_true.mp priced
      exact ⟨user, path, same, loads.mono grows, published,
        List.any_eq_true.mpr ⟨price, grows.prices stored, named⟩⟩

/-! ## Validating again -/

theorem value_map {f : α → β} (field : Field α) :
    Field.value (field.map (·.map f)) = (Field.value field).map f := by
  rcases field with _ | _ | _ <;> rfl

/-- What was validated against other times is valid for these, if it leaves them in order. -/
theorem validUpdate_again (valid : validUpdate now startsAt endsAt body = true)
    (order : ∀ endsAt ∈ ((Field.value body.endsAt).map storedDate <|> endsAt'),
      ((Field.value body.startsAt).map storedDate).getD startsAt' < endsAt) :
    validUpdate now startsAt' endsAt' body = true := by
  unfold validUpdate validEventTimes at valid ⊢
  generalize Field.value body.startsAt = starts at valid order ⊢
  generalize Field.value body.endsAt = ends at valid order ⊢
  rcases starts with _ | _ | starts
  case some.none => cases valid
  all_goals
    rcases ends with _ | _ | ends
    · cases endsAt <;> cases endsAt' <;> simp_all [storedDate] <;> omega
    · cases valid
    · simp_all [storedDate]

/-! ## A request answered as if it were alone -/

theorem serially_update (owned : ownedEvent listing.catalog.events path user = .ok row)
    (valid : validUpdate now row.startsAt (listing.columns row.id).endsAt body = true) :
    serially listing (.updateEvent user path body, now) =
      some (if storable (assign (.of row (listing.columns row.id)) body) then
        saveEvent listing (assign (.of row (listing.columns row.id)) body) else listing) := by
  simp only [serially, CatalogRequest.proc, CatalogProc.settle, CatalogProc.turn, Update.turn, owned,
    valid, Bool.false_eq_true, if_false, if_true, Listing.stay, afterOf, Option.map_some,
    Option.bind_some, After.proc]
  split <;> rfl

theorem serially_update_refused (owned : ownedEvent listing.catalog.events path user = .ok row)
    (invalid : validUpdate now row.startsAt (listing.columns row.id).endsAt body = false) :
    serially listing (.updateEvent user path body, now) = some listing := by
  simp only [serially, CatalogRequest.proc, CatalogProc.settle, CatalogProc.turn, Update.turn, owned,
    invalid, Bool.false_eq_true, if_false, afterOf, Option.map_some, Option.bind_some, After.proc]

theorem serially_publish (owned : ownedEvent listing.catalog.events path user = .ok row) :
    serially listing (.publish user path, now) =
      some (if listing.catalog.prices.rows.any (·.eventId = path) then
        saveEvent listing { EventEntity.of row (listing.columns row.id) with published := true }
        else listing) := by
  simp only [serially, CatalogRequest.proc, CatalogProc.settle, CatalogProc.turn, Publish.turn, owned,
    Bool.false_eq_true, if_false, Listing.stay, afterOf, Option.map_some, Option.bind_some, After.proc]
  split <;> rfl

/-- An entity is what a body makes of the row as it is now, if only what the body names
and `published` could differ. -/
theorem assign_of (assigned : entity = assign (.of event columns) body) (id : row.id = entity.id)
    (venue : row.venueId = entity.venueId) (organizer : row.organizerId = entity.organizerId)
    (published : row.published = entity.published) (columns' : EventColumns) :
    assign (.of row columns') body = entity := by
  subst assigned
  simp only [assign, EventEntity.of] at id venue organizer published ⊢
  rw [id, venue, organizer, published]

theorem update_serially {state : Update} {reply : Reply}
    (served : (CatalogProc.updateEvent state).Served listing.catalog r)
    (fresh : ∀ entity, state = .save entity → storable entity = true → FreshUpdate listing entity)
    (turn : state.turn c listing = some (listing', .done reply)) :
    ∃ now, serially listing (r, now) = some listing' := by
  cases state <;> simp only [Update.turn] at turn
  case findOwned user path body =>
    obtain rfl : r = .updateEvent user path body := served
    refine ⟨c.now, ?_⟩
    split at turn
    · rename_i failure owned
      cases turn
      simp only [serially, CatalogRequest.proc, CatalogProc.settle, CatalogProc.turn, Update.turn,
        owned, Bool.false_eq_true, if_false, Listing.refuse, afterOf, Option.map_some,
        Option.bind_some, After.proc]
    · rename_i row owned
      split at turn <;> cases turn
      rename_i invalid
      exact serially_update_refused owned (by simpa using invalid)
  case save entity =>
    obtain ⟨user, path, body, event, columns, now, rfl, assigned, loads, valid⟩ := served
    obtain ⟨row, stored, owned, id, venue, organizer⟩ := loads.again
    refine ⟨now, ?_⟩
    split at turn <;> cases turn
    · rename_i complete
      obtain ⟨published, order⟩ := fresh entity rfl complete row stored id
      have again := assign_of assigned id venue organizer published (listing.columns row.id)
      rw [serially_update owned, again, if_pos complete]
      refine validUpdate_again valid ?_
      rw [assigned] at order id
      simpa only [assign, value_map, written, id] using order
    · rename_i incomplete
      cases valid' : validUpdate now row.startsAt (listing.columns row.id).endsAt body with
      | false => exact serially_update_refused owned valid'
      | true =>
        have same : storable (assign (.of row (listing.columns row.id)) body) = storable entity := by
          rw [assigned]
          rfl
        rw [serially_update owned valid', same, if_neg incomplete]

theorem publish_serially {state : Publish} {reply : Reply}
    (served : (CatalogProc.publish state).Served listing.catalog r)
    (fresh : ∀ entity, state = .save entity → FreshPublish listing entity)
    (turn : state.turn listing = some (listing', .done reply)) :
    ∃ now, serially listing (r, now) = some listing' := by
  refine ⟨0, ?_⟩
  cases state <;> simp only [Publish.turn] at turn
  case findOwned user path =>
    obtain rfl : r = .publish user path := served
    split at turn
    · rename_i failure owned
      cases turn
      simp only [serially, CatalogRequest.proc, CatalogProc.settle, CatalogProc.turn, Publish.turn,
        owned, Bool.false_eq_true, if_false, Listing.refuse, afterOf, Option.map_some,
        Option.bind_some, After.proc]
    · cases turn
  case exist path entity =>
    obtain ⟨user, rfl, loads⟩ := served
    obtain ⟨row, stored, owned, -⟩ := loads.again
    split at turn <;> cases turn
    rename_i unpriced
    rw [serially_publish owned, if_neg unpriced]
  case save entity =>
    cases turn
    obtain ⟨user, path, rfl, loads, -, priced⟩ := served
    obtain ⟨row, stored, owned, id, -⟩ := loads.again
    rw [serially_publish owned, if_pos priced, id, fresh entity rfl row stored id]

/-! ## What a save keeps -/

theorem mem_saveEvent (stored : row ∈ (saveEvent listing entity).catalog.events.rows) :
    ∃ old ∈ listing.catalog.events.rows, row.id = old.id ∧
      row = if old.id = entity.id then writtenEvent entity old else old := by
  rw [rows_saveEvent] at stored
  obtain ⟨old, member, rfl⟩ := List.mem_map.mp stored
  refine ⟨old, member, ?_, rfl⟩
  split <;> rfl

theorem Listing.Ordered.save (ordered : listing.Ordered id)
    (order : ∀ row ∈ listing.catalog.events.rows, row.id = entity.id →
      ∀ endsAt ∈ entity.endsAt.getD (listing.columns entity.id).endsAt,
        written entity.startsAt row.startsAt < endsAt) :
    (saveEvent listing entity).Ordered id := by
  intro row stored named endsAt ends
  obtain ⟨old, member, same, rfl⟩ := mem_saveEvent stored
  rw [named] at same
  by_cases mine : id = entity.id
  · simp only [saveEvent, if_pos mine] at ends
    rw [if_pos (same.symm.trans mine)]
    rw [mine] at ends
    exact order old member (same.symm.trans mine) endsAt ends
  · simp only [saveEvent, if_neg mine] at ends
    rw [if_neg (same ▸ mine)]
    exact ordered old member same.symm endsAt ends

theorem Listing.Published.save (published : listing.Published id)
    (kept : ∀ row ∈ listing.catalog.events.rows, row.id = entity.id → row.published = true →
      entity.published = true) : (saveEvent listing entity).Published id := by
  obtain ⟨row, stored, named, public'⟩ := published
  refine ⟨_, List.mem_map_of_mem stored, ?_, ?_⟩
  · split <;> exact named
  · split
    · exact kept row stored (by assumption) public'
    · exact public'

theorem FreshUpdate.order (fresh : FreshUpdate listing entity) : ∀ row ∈ listing.catalog.events.rows,
    row.id = entity.id → ∀ endsAt ∈ entity.endsAt.getD (listing.columns entity.id).endsAt,
      written entity.startsAt row.startsAt < endsAt := by
  intro row stored named endsAt ends
  apply (fresh row stored named).2 endsAt
  rcases same : entity.endsAt with _ | _ | _ <;> rw [same] at ends
  · exact ends
  · cases ends
  · exact ends

theorem FreshPublish.order (fresh : FreshPublish listing entity)
    (ordered : listing.Ordered entity.id) : ∀ row ∈ listing.catalog.events.rows,
    row.id = entity.id → ∀ endsAt ∈ entity.endsAt.getD (listing.columns entity.id).endsAt,
      written entity.startsAt row.startsAt < endsAt := by
  intro row stored named endsAt ends
  have same := fresh row stored named
  rw [← same] at ends ⊢
  exact ordered row stored named endsAt ends

/-! ## One turn -/

theorem CatalogProc.Served.loaded (served : p.Served catalog r) : p.Loaded catalog := by
  cases p <;> try trivial
  case updateEvent state =>
    cases state <;> try trivial
    obtain ⟨_, _, _, _, _, _, -, -, loads, -⟩ := served
    exact loads.lists
  case publish state =>
    cases state <;> try trivial
    · obtain ⟨_, -, loads⟩ := served
      exact loads.lists
    · obtain ⟨_, _, -, loads, -⟩ := served
      exact loads.lists

/-- A request goes on knowing what it has loaded. -/
theorem CatalogProc.Served.turn (served : p.Served listing.catalog r)
    (turn : p.turn c listing = some (listing', p')) : p'.Served listing.catalog r := by
  cases p <;> simp only [CatalogProc.turn, afterOf_eq_some] at turn
  case updateEvent state =>
    obtain ⟨after, turn, rfl⟩ := turn
    split at turn
    · cases turn
      trivial
    cases state <;> simp only [Update.turn] at turn
    case findOwned user path body =>
      split at turn
      · cases turn
        trivial
      rename_i event owned
      split at turn <;> cases turn
      · rename_i valid
        have loads := loads_of_owned (listing.columns event.id) owned
        exact ⟨user, path, body, event, _, c.now, served, rfl,
          ⟨loads.named, loads.owned, loads.lists⟩, valid⟩
      · trivial
    case save =>
      split at turn <;> cases turn <;> trivial
  case publish state =>
    obtain ⟨after, turn, rfl⟩ := turn
    split at turn
    · cases turn
      trivial
    cases state <;> simp only [Publish.turn] at turn
    case findOwned user path =>
      split at turn <;> cases turn
      · trivial
      · rename_i event owned
        exact ⟨user, served, loads_of_owned _ owned⟩
    case exist path entity =>
      obtain ⟨user, same, loads⟩ := served
      split at turn <;> cases turn
      · rename_i priced
        exact ⟨user, path, same, ⟨loads.named, loads.owned, loads.lists⟩, rfl, priced⟩
      · trivial
    case save =>
      cases turn
      trivial
  case done => cases turn
  all_goals cases served

/-- What a turn that saves nothing stale makes of the event. -/
structure Edited (event : Uuid) (listing listing' : Listing) : Prop where
  ordered : listing'.Ordered event
  published : listing.Published event → listing'.Published event

theorem Edited.stays (ordered : listing.Ordered id) : Edited id listing listing :=
  ⟨ordered, fun published => published⟩

theorem edited_update (ordered : listing.Ordered id) (fresh : FreshUpdate listing entity) :
    Edited id listing (saveEvent listing entity) :=
  ⟨ordered.save fresh.order, fun published => published.save fun row stored named public' =>
    (fresh row stored named).1.symm.trans public'⟩

theorem edited_publish (ordered : listing.Ordered id) (mine : entity.id = id)
    (fresh : FreshPublish listing entity) (published : entity.published = true) :
    Edited id listing (saveEvent listing entity) :=
  ⟨ordered.save (fresh.order (mine ▸ ordered)), fun before => before.save fun _ _ _ _ => published⟩

theorem CatalogProc.Served.edited (served : p.Served listing.catalog r) (fresh : p.Fresh c listing)
    (edits : (Site.Action.request r).Edits id) (ordered : listing.Ordered id)
    (turn : p.turn c listing = some (listing', p')) : Edited id listing listing' := by
  cases p <;> simp only [CatalogProc.turn, afterOf_eq_some] at turn
  case updateEvent state =>
    obtain ⟨after, turn, rfl⟩ := turn
    split at turn
    · cases turn
      exact .stays ordered
    rename_i calls
    cases state <;> simp only [Update.turn] at turn
    case findOwned =>
      split at turn
      · cases turn
        exact .stays ordered
      split at turn <;> cases turn <;> exact .stays ordered
    case save entity =>
      split at turn <;> cases turn
      · exact edited_update ordered (fresh (by simpa using calls) (by assumption))
      · exact .stays ordered
  case publish state =>
    obtain ⟨after, turn, rfl⟩ := turn
    split at turn
    · cases turn
      exact .stays ordered
    rename_i calls
    cases state <;> simp only [Publish.turn] at turn
    case findOwned =>
      split at turn <;> cases turn <;> exact .stays ordered
    case exist =>
      split at turn <;> cases turn <;> exact .stays ordered
    case save entity =>
      cases turn
      obtain ⟨user, path, rfl, loads, published, -⟩ := served
      have mine : entity.id = id := Option.some.inj (loads.named.symm.trans edits)
      exact edited_publish ordered mine (fresh (by simpa using calls)) published
  case done => cases turn
  all_goals cases served

/-- A publish that is answered with the event has published it. -/
theorem CatalogProc.Served.publishes {user : AuthenticatedUser} {path : Text}
    (served : p.Served listing.catalog (.publish user path)) (named : uuid? path = some id)
    (turn : p.turn c listing = some (listing', .done (.event entity))) : listing'.Published id := by
  cases p <;> simp only [CatalogProc.turn, afterOf_eq_some] at turn
  case updateEvent state =>
    cases state
    · cases served
    · obtain ⟨_, _, _, _, _, _, same, -⟩ := served
      cases same
  case publish state =>
    obtain ⟨after, turn, same⟩ := turn
    split at turn
    · cases turn
      cases same
    cases state <;> simp only [Publish.turn] at turn
    case findOwned =>
      split at turn <;> cases turn <;> cases same
    case exist =>
      split at turn <;> cases turn <;> cases same
    case save =>
      cases turn
      cases same
      obtain ⟨_, _, same, loads, published, -⟩ := served
      cases same
      have mine : entity.id = id := Option.some.inj (loads.named.symm.trans named)
      obtain ⟨row, stored, id', -⟩ := loads.lists
      refine ⟨_, List.mem_map_of_mem stored, ?_, ?_⟩
      · rw [if_pos id']
        exact id'.trans mine
      · rw [if_pos id']
        exact published
  case done => cases turn
  all_goals cases served

/-- A request that its handler answers might have been made alone just then. -/
theorem CatalogProc.Served.serially {reply : Reply} (served : p.Served listing.catalog r)
    (fresh : p.Fresh c listing) (calls : c.fault = false)
    (turn : p.turn c listing = some (listing', .done reply)) :
    ∃ now, KiTicket.serially listing (r, now) = some listing' := by
  cases p <;> simp only [CatalogProc.turn, afterOf_eq_some, calls, Bool.false_eq_true, if_false] at turn
  case updateEvent state =>
    obtain ⟨after, turn, same⟩ := turn
    cases after <;> cases same
    exact update_serially served (fun entity at' complete => by
      subst at'
      exact fresh calls complete) turn
  case publish state =>
    obtain ⟨after, turn, same⟩ := turn
    cases after <;> cases same
    exact publish_serially served (fun entity at' => by
      subst at'
      exact fresh calls) turn
  case done => cases turn
  all_goals cases served

theorem of_answered (answered : p.answered c = true) : ∃ reply, p = .done reply ∧ c.fault = false := by
  cases p <;> first | cases answered | skip
  exact ⟨_, rfl, by simpa [CatalogProc.answered] using answered⟩

/-- Nothing is saved before the answer, nor by a call that fails. -/
theorem CatalogProc.Served.idle (served : p.Served listing.catalog r)
    (turn : p.turn c listing = some (listing', p'))
    (unanswered : p'.answered c = false) : listing' = listing := by
  cases p <;> simp only [CatalogProc.turn, afterOf_eq_some] at turn
  case updateEvent state =>
    obtain ⟨after, turn, rfl⟩ := turn
    split at turn
    · cases turn
      rfl
    rename_i calls
    cases state <;> simp only [Update.turn] at turn
    case findOwned =>
      split at turn
      · cases turn
        rfl
      split at turn <;> cases turn <;> rfl
    case save =>
      split at turn <;> cases turn <;> exact absurd unanswered (by simp [CatalogProc.answered, After.proc, calls])
  case publish state =>
    obtain ⟨after, turn, rfl⟩ := turn
    split at turn
    · cases turn
      rfl
    rename_i calls
    cases state <;> simp only [Publish.turn] at turn
    case findOwned =>
      split at turn <;> cases turn <;> rfl
    case exist =>
      split at turn <;> cases turn <;> rfl
    case save =>
      cases turn
      exact absurd unanswered (by simp [CatalogProc.answered, After.proc, calls])
  case done => cases turn
  all_goals cases served

/-! ## A run -/

/-- How far the edits of a run have come: the requests answered so far, one after the
other, lead to where the listing is. -/
structure Editing (event : Uuid) (start : Listing) (ts : List (Transition Site Site.Action))
    (s : Site) : Prop where
  serial : ∃ us, Run serially start us s.listing ∧
    List.Forall₂ (fun pid u => (arrivals ts)[pid]? = some u.action.1) (ts.flatMap answers) us
  arrived : s.procs.length = (arrivals ts).length
  edits : ∀ r ∈ arrivals ts, (Site.Action.request r).Edits event
  served : ∀ (pid : Nat) p r, s.procs[pid]? = some p → (arrivals ts)[pid]? = some r →
    p.Served s.listing.catalog r
  ordered : s.listing.Ordered event
  published : ∀ (pid : Nat) user path entity, (arrivals ts)[pid]? = some (.publish user path) →
    s.procs[pid]? = some (.done (.event entity)) → s.listing.Published event

theorem arrivals_concat (ts : List (Transition Site Site.Action)) (t : Transition Site Site.Action) :
    arrivals (ts ++ [t]) = arrivals ts ++ arrivals [t] :=
  List.filterMap_append

/-- A step in which nobody is answered and the listing stays as it is. -/
theorem Editing.keep {start : Listing} (editing : Editing id start ts s)
    (listing : s'.listing = s.listing) (arrived : arrivals [t] = []) (answered : answers t = [])
    (procs : ∀ (pid : Nat) p, s'.procs[pid]? = some p → s.procs[pid]? = some p ∨
      p = .done (.error .crash)) (length : s'.procs.length = s.procs.length) :
    Editing id start (ts ++ [t]) s' := by
  have same : arrivals (ts ++ [t]) = arrivals ts := by
    rw [arrivals_concat, arrived, List.append_nil]
  refine ⟨?_, by rw [length, same, editing.arrived], by rw [same]; exact editing.edits, ?_,
    by rw [listing]; exact editing.ordered, ?_⟩
  · rw [List.flatMap_append, List.flatMap_singleton, answered, List.append_nil, same, listing]
    exact editing.serial
  · rw [same, listing]
    intro pid p r at_pid requested
    rcases procs pid p at_pid with before | rfl
    · exact editing.served pid p r before requested
    · trivial
  · rw [same, listing]
    intro pid user path entity requested at_pid
    rcases procs pid _ at_pid with before | crashed
    · exact editing.published pid user path entity requested before
    · cases crashed

theorem Editing.request {start : Listing} (editing : Editing id start ts s)
    (edits : (Site.Action.request r).Edits id) :
    Editing id start (ts ++ [⟨s, .request r, { s with procs := s.procs ++ [r.proc] }⟩])
      { s with procs := s.procs ++ [r.proc] } := by
  generalize arrives : (⟨s, .request r, { s with procs := s.procs ++ [r.proc] }⟩ :
    Transition Site Site.Action) = t
  have same : arrivals (ts ++ [t]) = arrivals ts ++ [r] := by
    rw [arrivals_concat, ← arrives]
    rfl
  have started : r.proc.Served s.listing.catalog r := by
    cases r <;> first | rfl | cases edits
  have unanswered (reply : Reply) : r.proc ≠ .done reply := by
    cases r <;> exact fun same => by cases same
  refine ⟨?_, by simp [same, editing.arrived], ?_, ?_, editing.ordered, ?_⟩
  · obtain ⟨us, serial, pairs⟩ := editing.serial
    refine ⟨us, serial, ?_⟩
    have answered : answers t = [] := by
      rw [← arrives]
      rfl
    rw [List.flatMap_append, List.flatMap_singleton, answered, List.append_nil, same]
    refine pairs.imp fun pid u requested => ?_
    rw [List.getElem?_append_left (List.getElem?_eq_some_iff.mp requested).1, requested]
  · intro r' member
    rw [same] at member
    rcases List.mem_append.mp member with old | new
    · exact editing.edits r' old
    · rwa [List.mem_singleton.mp new]
  · intro pid p r' at_pid requested
    rw [same] at requested
    rcases Nat.lt_or_ge pid s.procs.length with old | new
    · rw [List.getElem?_append_left old] at at_pid
      rw [List.getElem?_append_left (editing.arrived ▸ old)] at requested
      exact editing.served pid p r' at_pid requested
    · rw [List.getElem?_append_right new] at at_pid
      rw [List.getElem?_append_right (editing.arrived ▸ new), ← editing.arrived] at requested
      rw [List.getElem?_singleton] at at_pid requested
      split at at_pid <;> cases at_pid
      rw [if_pos (by assumption)] at requested
      cases requested
      exact started
  · intro pid user path entity requested at_pid
    rw [same] at requested
    rcases Nat.lt_or_ge pid s.procs.length with old | new
    · rw [List.getElem?_append_left old] at at_pid
      rw [List.getElem?_append_left (editing.arrived ▸ old)] at requested
      exact editing.published pid user path entity requested at_pid
    · rw [List.getElem?_append_right new, List.getElem?_singleton] at at_pid
      split at at_pid
      · exact absurd (Option.some.inj at_pid) (unanswered _)
      · cases at_pid

theorem Editing.turn {start : Listing} {pid : Nat} (editing : Editing id start ts s)
    (serving : s.procs[pid]? = some p) (turn : p.turn c s.listing = some (listing', p'))
    (fresh : p.Fresh c s.listing) :
    Editing id start (ts ++ [⟨s, .turn pid c, { s.relist listing' with procs := s.procs.set pid p' }⟩])
      { s.relist listing' with procs := s.procs.set pid p' } := by
  generalize takes : (⟨s, .turn pid c, { s.relist listing' with procs := s.procs.set pid p' }⟩ :
    Transition Site Site.Action) = t
  have size := (List.getElem?_eq_some_iff.mp serving).1
  have same : arrivals (ts ++ [t]) = arrivals ts := by
    rw [arrivals_concat, ← takes]
    exact List.append_nil _
  obtain ⟨r, requested⟩ : ∃ r, (arrivals ts)[pid]? = some r :=
    ⟨_, List.getElem?_eq_getElem (editing.arrived ▸ size)⟩
  have mine := editing.served pid p r serving requested
  have edits := editing.edits r (List.mem_of_getElem? requested)
  have grown := CatalogProc.grown mine.loaded turn
  have edited := mine.edited fresh edits editing.ordered turn
  refine ⟨?_, by simp [same, editing.arrived], by rw [same]; exact editing.edits, ?_, edited.ordered, ?_⟩
  · obtain ⟨us, serial, pairs⟩ := editing.serial
    have told : answers t = if p'.answered c then [pid] else [] := by
      rw [← takes]
      simp only [answers, List.getElem?_set_self size, Option.any_some]
    rw [List.flatMap_append, List.flatMap_singleton, same, told]
    cases answered : p'.answered c with
    | true =>
      obtain ⟨reply, rfl, calls⟩ := of_answered answered
      obtain ⟨now, alone⟩ := mine.serially fresh calls turn
      exact ⟨us ++ [⟨s.listing, (r, now), listing'⟩], serial.snoc alone,
        List.rel_append pairs (.cons requested .nil)⟩
    | false =>
      have idle : listing' = s.listing := mine.idle turn answered
      rw [if_neg Bool.false_ne_true, List.append_nil]
      exact ⟨us, idle ▸ serial, pairs⟩
  · rw [same]
    intro other q r' at_other requested'
    rcases Pool.getElem?_set_cases at_other with ⟨rfl, rfl, -⟩ | ⟨-, before⟩
    · cases requested.symm.trans requested'
      exact (mine.turn turn).mono grown.grows
    · exact (editing.served other q r' before requested').mono grown.grows
  · rw [same]
    intro other user path entity requested' at_other
    rcases Pool.getElem?_set_cases at_other with ⟨rfl, rfl, -⟩ | ⟨-, before⟩
    · cases requested.symm.trans requested'
      exact mine.publishes edits turn
    · exact edited.published (editing.published other user path entity requested' before)

/-- The sample event with its price, not published yet, and nobody at work. -/
def draft : Site :=
  .unbooked (launched (setUp ++ price 3 (flat 0xc)) (enabled_of_append openSite_enabled)).listing

end KiTicket
