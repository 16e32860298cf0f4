import KiTicket.Auth
import KiTicket.Calls

/-! `EventForm.tsx`. A submit makes up to three calls, to create an event, to price it and
to publish it; after one that failed the next submit goes on where it was. What was sent
before it is not sent again, whatever the fields say by then. -/
namespace KiTicket.EventForm
open Runs Events

structure Fields where
  venueId : Text
  title : Text
  description : Text
  genre : Text
  city : Text
  startsAt : Option Int
  /-- The input takes whole numbers from 0. -/
  price : Nat
  tags : Text
deriving DecidableEq

/-- The call a submit is at. -/
inductive Stage where
  | create
  | price (event : Uuid)
  | publish (event : Uuid)
deriving DecidableEq

/-- A submit under way, with the fields and the flag as they were when it began. -/
structure Submission where
  fields : Fields
  pricingReady : Bool
  stage : Stage
deriving DecidableEq

/-- The state of the component; of the draft only the id is used. -/
structure Form where
  fields : Fields
  draft : Option Uuid
  pricingReady : Bool
  /-- What `loading` stands for. -/
  submission : Option Submission
deriving DecidableEq

def Form.initial : Form :=
  ⟨⟨[], [], [], "Music".toList, [], none, 2500000, []⟩, none, false, none⟩

inductive Edit where
  | venue (next : Text)
  | title (text : Text)
  | description (text : Text)
  | genre (text : Text)
  | city (text : Text)
  | startsAt (date : Option Int)
  | price (price : Nat)
  | tags (text : Text)
deriving DecidableEq

/-- A change of an input; another venue also sets the city. -/
def Fields.edit (venues : List Venue) (fields : Fields) : Edit → Fields
  | .venue next =>
    { fields with
      venueId := next
      city := ((venues.find? (·.id.text = next)).map Venue.city).getD [] }
  | .title text => { fields with title := text }
  | .description text => { fields with description := text }
  | .genre text => { fields with genre := text }
  | .city text => { fields with city := text }
  | .startsAt date => { fields with startsAt := date }
  | .price price => { fields with price }
  | .tags text => { fields with tags := text }

/-- `tags.split(",").map((tag) => tag.trim()).filter(Boolean)` -/
def Fields.tagList (fields : Fields) : List Text :=
  ((fields.tags.splitOn ',').map Auth.trim).filter (· ≠ [])

def Fields.event (fields : Fields) : CreateEventDto where
  venueId := fields.venueId
  title := fields.title
  description := fields.description
  genre := fields.genre
  city := fields.city
  tags := some fields.tagList
  startsAt := fields.startsAt
  endsAt := none

def Fields.pricing (fields : Fields) : CreatePricingDto :=
  ⟨none, "استاندارد".toList, fields.price, some ['I', 'R', 'R']⟩

def Submission.request (user : AuthenticatedUser) (submission : Submission) : CatalogRequest :=
  match submission.stage with
  | .create => .createEvent user submission.fields.event
  | .price event => .addPricing user event.text submission.fields.pricing
  | .publish event => .publish user event.text

/-- What a form has done since it was last reset. -/
inductive Happening where
  | created (event : Uuid) (fields : Fields)
  | priced (event : Uuid) (fields : Fields)
deriving DecidableEq

structure World where
  listing : Listing
  form : Form
  since : List Happening
  /-- The events `done` was called with. -/
  finished : List Uuid

inductive Action where
  | edit (edit : Edit)
  | submit
  /-- The call of the submit is answered. -/
  | answer (choices : List Choice)
  /-- It does not reach the server. -/
  | lose
deriving DecidableEq

/-- The stage after the event has been made. -/
def stageOf (pricingReady : Bool) (event : Uuid) : Stage :=
  if pricingReady then .publish event else .price event

/-- The state at the start of a submit. -/
def Form.submit (form : Form) : Form :=
  match form.fields.startsAt with
  -- the calendar is still empty
  | none => form
  | some _ => { form with submission := some {
      fields := form.fields
      pricingReady := form.pricingReady
      stage := (form.draft.map (stageOf form.pricingReady)).getD .create } }

/-- The `catch` block. -/
def World.fail (w : World) : World := { w with form := { w.form with submission := none } }

/-- What a submit makes of an answer. -/
def World.receive (w : World) (submission : Submission) (reply : Reply) : World :=
  match submission.stage, reply with
  | .create, .event entity =>
    { w with
      form := { w.form with
        draft := some entity.id
        submission := some { submission with stage := stageOf submission.pricingReady entity.id } }
      since := w.since ++ [.created entity.id submission.fields] }
  | .price event, .category _ =>
    { w with
      form := { w.form with
        pricingReady := true
        submission := some { submission with stage := .publish event } }
      since := w.since ++ [.priced event submission.fields] }
  | .publish event, .event _ =>
    { w with
      form := {
        fields := { w.form.fields with title := [], description := [], startsAt := none, tags := [] }
        draft := none
        pricingReady := false
        submission := none }
      since := []
      finished := w.finished ++ [event] }
  | _, _ => w.fail

def step (user : AuthenticatedUser) (venues : List Venue) (w : World) : Action → Option World
  | .edit edit => some { w with form := { w.form with fields := w.form.fields.edit venues edit } }
  | .submit =>
    -- the button is disabled while a submit is under way
    if w.form.submission.isSome then none else some { w with form := w.form.submit }
  | .answer choices =>
    match w.form.submission with
    | none => none
    | some submission =>
      let request := submission.request user
      if request.accepted then
        (request.proc.alone choices w.listing).map fun (listing, reply) =>
          { w with listing }.receive submission reply
      else some w.fail
  | .lose => if w.form.submission.isSome then some w.fail else none

def opened (listing : Listing) : World := ⟨listing, .initial, [], []⟩

/-! ## What is to be shown -/

/-- What the fields but the price come to on the server. -/
def Fields.sent (fields : Fields) : Text × Option Int × EventColumns :=
  (fields.venueId, fields.startsAt, ⟨fields.title, fields.description, fields.genre, fields.city,
    simpleArray fields.tagList, none⟩)

/-- The row of an event, read like the fields it was made from. -/
def Listing.read (listing : Listing) (event : Event) : Text × Option Int × EventColumns :=
  (event.venueId, some event.startsAt, listing.columns event.id)

def pricesOf (listing : Listing) (event : Uuid) : List Nat :=
  (listing.catalog.prices.rows.filter (·.eventId = event.text)).map (·.price.value)

def Happening.made : Happening → Option Uuid
  | .created event _ => some event
  | .priced _ _ => none

/-- Of the events made since the last reset there is exactly this one, it is published,
and it is as the fields say, with one price. -/
def AsSubmitted (since : List Happening) (listing : Listing) (event : Uuid) (fields : Fields) : Prop :=
  since.filterMap Happening.made = [event] ∧ pricesOf listing event = [fields.price] ∧
    ∃ row ∈ listing.catalog.events.rows, row.id = event ∧ row.published = true ∧
      Listing.read listing row = fields.sent

/-- What was sent in a call that went through is what the fields say. -/
def Happening.Agrees (fields : Fields) : Happening → Prop
  | .created _ sent => sent.sent = fields.sent
  | .priced _ sent => sent.price = fields.price

instance {happening : Happening} : Decidable (happening.Agrees fields) := by
  cases happening <;> unfold Happening.Agrees <;> infer_instance

/-- The step ends a submit of the fields with `done(event)`. -/
def Finishes (t : Transition World Action) (event : Uuid) (fields : Fields) : Prop :=
  t.target.finished = t.source.finished ++ [event] ∧
    ∃ submission, t.source.form.submission = some submission ∧ submission.fields = fields

variable {user : AuthenticatedUser} {venues : List Venue} {w w' : World} {a : Action}
  {listing : Listing} {catalog catalog' : Catalog} {left : Listing × Reply} {choices : List Choice}
  {id : Uuid} {sent fields : Fields} {ts : List (Transition World Action)}
  {t : Transition World Action}

/-! ## The three calls -/

theorem valid_of_times {now : Nat} {startsAt : Date} {endsAt : Option Date}
    (valid : validEventTimes now startsAt endsAt true = true) :
    startsAt = some (storedDate startsAt : Int) := by
  obtain _ | time := startsAt
  · simp [validEventTimes] at valid
  · have later : (now : Int) < time := by
      unfold validEventTimes at valid
      split at valid <;> simp_all
    have stored : (time.toNat : Int) = time := Int.toNat_of_nonneg (by omega)
    rw [storedDate, Option.getD_some, stored]

/-- The call was refused and has changed nothing. -/
inductive Refused (listing : Listing) : Listing × Reply → Prop where
  | badRequest (message : String) : Refused listing (listing, .badRequest message)
  | error (failure : Failure) : Refused listing (listing, .error failure)

/-- A create is refused, or there is a new row with what was sent. -/
theorem createEvent_spec {body : CreateEventDto} (ends : body.endsAt = none)
    (served : (CatalogProc.createEvent (.findVenue user body)).alone choices listing = some left) :
    Refused listing left ∨
    ∃ row columns events, listing.catalog.events.insert? [row] = some events ∧
      left = ({ listing with
        catalog := { listing.catalog with events }
        columns := fun other => if other = row.id then columns else listing.columns other },
        .event (.of row columns)) ∧
      row.organizerId = user.sub ∧ row.venueId = body.venueId ∧
      body.startsAt = some (row.startsAt : Int) ∧
      columns = ⟨body.title, body.description, body.genre, body.city,
        simpleArray (body.tags.getD []), none⟩ := by
  rcases alone_turn (fun _ => CatalogProc.noConfusion) served with failed | ⟨c, rest, _, _, healthy, turn, goes⟩
  · exact .inl (failed ▸ .error _)
  simp only [CatalogProc.turn, if_neg healthy, Events.Create.turn] at turn
  split at turn
  · cases turn
    cases alone_ends goes
    exact .inl (.error _)
  split at turn
  swap
  · cases turn
    cases alone_ends goes
    exact .inl (.badRequest _)
  rename_i valid
  cases turn
  simp only [After.proc] at goes
  rcases alone_turn (fun _ => CatalogProc.noConfusion) goes with failed | ⟨d, more, _, _, healthy', turn, goes⟩
  · exact .inl (failed ▸ .error _)
  simp only [CatalogProc.turn, if_neg healthy', Events.Create.turn] at turn
  split at turn
  swap
  · cases turn
  rename_i id drawn
  split at turn
  swap
  · cases turn
    cases alone_ends goes
    exact .inl (.error _)
  rename_i events inserted
  cases turn
  cases alone_ends goes
  exact .inr ⟨_, _, events, inserted, rfl, rfl, rfl, valid_of_times valid, by rw [ends]; rfl⟩

theorem addPricing_spec {path : Text} {body : CreatePricingDto} (whole : body.sectorId = none)
    (served : (CatalogProc.addPricing (.findOwned user path body)).alone choices listing = some left) :
    Refused listing left ∨
    ∃ event id price prices, ownedEvent listing.catalog.events path user = .ok event ∧
      Amount.round? body.price = some price ∧
      listing.catalog.prices.insert? [newPricing id path body price] = some prices ∧
      left = ({ listing with catalog := { listing.catalog with prices } },
        .category (newPricing id path body price)) := by
  rcases alone_turn (fun _ => CatalogProc.noConfusion) served with failed | ⟨c, rest, _, _, healthy, turn, goes⟩
  · exact .inl (failed ▸ .error _)
  simp only [CatalogProc.turn, if_neg healthy, Events.AddPricing.turn, whole] at turn
  split at turn
  · cases turn
    cases alone_ends goes
    exact .inl (.error _)
  rename_i event owned
  cases turn
  simp only [After.proc] at goes
  rcases alone_turn (fun _ => CatalogProc.noConfusion) goes with failed | ⟨d, more, _, _, healthy', turn, goes⟩
  · exact .inl (failed ▸ .error _)
  simp only [CatalogProc.turn, if_neg healthy', Events.AddPricing.turn] at turn
  split at turn
  swap
  · cases turn
  rename_i id drawn
  split at turn
  · cases turn
    cases alone_ends goes
    exact .inl (.error _)
  rename_i price rounded
  split at turn
  swap
  · cases turn
    cases alone_ends goes
    exact .inl (.error _)
  rename_i prices inserted
  cases turn
  cases alone_ends goes
  exact .inr ⟨event, id, price, prices, owned, rounded, inserted, rfl⟩

theorem publish_spec {path : Text}
    (served : (CatalogProc.publish (.findOwned user path)).alone choices listing = some left) :
    Refused listing left ∨
    ∃ event, ownedEvent listing.catalog.events path user = .ok event ∧
      left = (saveEvent listing { EventEntity.of event (listing.columns event.id) with published := true },
        .event { EventEntity.of event (listing.columns event.id) with published := true }) := by
  rcases alone_turn (fun _ => CatalogProc.noConfusion) served with failed | ⟨c, rest, _, _, healthy, turn, goes⟩
  · exact .inl (failed ▸ .error _)
  simp only [CatalogProc.turn, if_neg healthy, Events.Publish.turn] at turn
  split at turn
  · cases turn
    cases alone_ends goes
    exact .inl (.error _)
  rename_i event owned
  cases turn
  simp only [After.proc] at goes
  rcases alone_turn (fun _ => CatalogProc.noConfusion) goes with failed | ⟨d, more, _, _, healthy', turn, goes⟩
  · exact .inl (failed ▸ .error _)
  simp only [CatalogProc.turn, if_neg healthy', Events.Publish.turn] at turn
  split at turn
  swap
  · cases turn
    cases alone_ends goes
    exact .inl (.error _)
  cases turn
  simp only [After.proc] at goes
  rcases alone_turn (fun _ => CatalogProc.noConfusion) goes with failed | ⟨e, last, _, _, healthy'', turn, goes⟩
  · exact .inl (failed ▸ .error _)
  simp only [CatalogProc.turn, if_neg healthy'', Events.Publish.turn] at turn
  cases turn
  cases alone_ends goes
  exact .inr ⟨event, owned, rfl⟩

/-! ## Prices belong to events -/

/-- Every price is of a stored event. -/
def Priced (catalog : Catalog) : Prop :=
  ∀ price ∈ catalog.prices.rows, ∃ event ∈ catalog.events.rows, uuid? price.eventId = some event.id

def Stored (catalog : Catalog) (path : Text) : Prop :=
  ∃ event ∈ catalog.events.rows, uuid? path = some event.id

theorem Stored.mono {path : Text} (stored : Stored catalog path) (grows : catalog.Grows catalog') :
    Stored catalog' path := by
  obtain ⟨event, member, named⟩ := stored
  obtain ⟨event', member', same, -⟩ := grows.events event member
  exact ⟨event', member', named.trans (congrArg some same.symm)⟩

theorem stored_of_owned {event : Event} {path : Text}
    (owned : ownedEvent catalog.events path user = .ok event) : Stored catalog path :=
  ⟨event, (ownedEvent_eq_ok.mp owned).1, (ownedEvent_eq_ok.mp owned).2.1⟩

/-- A request that is going to save a price has found the event. -/
def Prices (catalog : Catalog) : CatalogProc → Prop
  | .addPricing (.findSector _ path _ _) | .addPricing (.save path _) => Stored catalog path
  | _ => True

theorem Prices.mono {p : CatalogProc} (prices : Prices catalog p) (grows : catalog.Grows catalog') :
    Prices catalog' p := by
  cases p <;> try trivial
  case addPricing state =>
    cases state
    case findOwned => trivial
    case findSector => exact Stored.mono prices grows
    case save => exact Stored.mono prices grows

theorem Prices.turn {c : Choice} {p p' : CatalogProc} {listing' : Listing}
    (prices : Prices listing.catalog p) (grows : listing.catalog.Grows listing'.catalog)
    (turn : p.turn c listing = some (listing', p')) : Prices listing'.catalog p' := by
  cases p <;> simp only [CatalogProc.turn, afterOf_eq_some] at turn
  case done => cases turn
  case addPricing state =>
    obtain ⟨after, turn, rfl⟩ := turn
    split at turn
    · cases turn
      trivial
    cases state <;> simp only [Events.AddPricing.turn] at turn
    case findOwned user path body =>
      split at turn
      · cases turn
        trivial
      rename_i event owned
      split at turn <;> cases turn <;> exact stored_of_owned owned
    case findSector event path body sectorId =>
      split at turn
      · cases turn
        trivial
      split at turn <;> cases turn
      · exact prices
      · trivial
    case save path body =>
      split at turn
      · split at turn
        · cases turn
          trivial
        split at turn <;> cases turn <;> trivial
      · cases turn
  all_goals
    obtain ⟨after, -, rfl⟩ := turn
    cases after <;> trivial

/-- Every price of a reachable site is of a stored event. -/
theorem priced_of_run {cfg : Config} {s : Site} {ts : List (Transition Site Site.Action)}
    (run : Run (Site.step cfg) .empty ts s) : Priced s.listing.catalog := by
  have kept : s.Sound ∧ Priced s.db.catalog ∧ ∀ p ∈ s.procs, Prices s.db.catalog p := by
    refine run.invariant (P := fun s => s.Sound ∧ Priced s.db.catalog ∧
      ∀ p ∈ s.procs, Prices s.db.catalog p) (fun _ _ => (trivial : True)) ⟨Site.sound_empty, ?_, ?_⟩ ?_
    · exact fun _ member => absurd member List.not_mem_nil
    · exact fun _ member => absurd member List.not_mem_nil
    · rintro s a s' ⟨sound, priced, procs⟩ - taken
      have grows := Site.grows_of_step sound.procs taken
      have old : ∀ price ∈ s.db.catalog.prices.rows, Stored s'.db.catalog price.eventId :=
        fun price member => Stored.mono (priced price member) grows
      refine ⟨(sound.next taken).1, ?_, ?_⟩
      · cases Site.step_cases taken
        case booking a world moves =>
          have same : world.db.catalog = s.db.catalog := catalog_of_step moves
          exact fun price member => old price (same ▸ member)
        case turn pid c p p' listing serving turn =>
          have serves := List.mem_of_getElem? serving
          intro price member
          change price ∈ listing.catalog.prices.rows at member
          rcases (CatalogProc.grown (sound.procs p serves) turn).prices with
            kept | ⟨path, body, id, value, rfl, added⟩
          · exact old price (kept ▸ member)
          · rw [added] at member
            rcases List.mem_append.mp member with before | new
            · exact old price before
            · rw [List.mem_singleton.mp new]
              exact Stored.mono (procs _ serves) grows
        all_goals exact old
      · refine Site.forall_procs taken procs (fun _ prices => prices.mono grows) ?_ ?_ ?_
        · intro r
          cases r <;> trivial
        · exact fun _ => trivial
        · exact fun _ _ _ _ _ prices turn => prices.turn grows turn
  exact kept.2.1

/-! ## What a form keeps -/

/-- The event is stored as it was sent, and its organizer is the user. -/
def Made (user : AuthenticatedUser) (listing : Listing) (id : Uuid) (sent : Fields) : Prop :=
  ∃ row ∈ listing.catalog.events.rows, row.id = id ∧ row.organizerId = user.sub ∧
    Listing.read listing row = sent.sent

/-- The three states between two resets, and where a submit under way is in each. -/
inductive Tracks (user : AuthenticatedUser) (w : World) : Prop where
  | blank (none : w.form.draft = none) (unset : w.form.pricingReady = false) (since : w.since = [])
      (at' : ∀ submission ∈ w.form.submission,
        submission.stage = .create ∧ submission.pricingReady = false)
  | made (id : Uuid) (sent : Fields) (draft : w.form.draft = some id)
      (unset : w.form.pricingReady = false) (since : w.since = [.created id sent])
      (stored : Made user w.listing id sent) (unpriced : pricesOf w.listing id = [])
      (at' : ∀ submission ∈ w.form.submission, submission.stage = .price id)
  | priced (id : Uuid) (sent priced : Fields) (draft : w.form.draft = some id)
      (set : w.form.pricingReady = true) (since : w.since = [.created id sent, .priced id priced])
      (stored : Made user w.listing id sent) (prices : pricesOf w.listing id = [priced.price])
      (at' : ∀ submission ∈ w.form.submission, submission.stage = .publish id)

/-- A submit that ends in an error changes nothing else. -/
theorem Tracks.fail (tracks : Tracks user w) : Tracks user w.fail := by
  cases tracks with
  | blank none unset since _ => exact .blank none unset since (by simp [World.fail])
  | made id sent draft unset since stored unpriced _ =>
    exact .made id sent draft unset since stored unpriced (by simp [World.fail])
  | priced id sent price draft set since stored prices _ =>
    exact .priced id sent price draft set since stored prices (by simp [World.fail])

theorem Tracks.submit (tracks : Tracks user w) : Tracks user { w with form := w.form.submit } := by
  unfold Form.submit
  split
  · exact tracks
  cases tracks with
  | blank none unset since _ =>
    refine .blank none unset since ?_
    simp [none, unset]
  | made id sent draft unset since stored unpriced _ =>
    refine .made id sent draft unset since stored unpriced ?_
    simp [draft, unset, stageOf]
  | priced id sent price draft set since stored prices _ =>
    refine .priced id sent price draft set since stored prices ?_
    simp [draft, set, stageOf]

/-! ## One step -/

/-- The form after `done` was called. -/
def Form.reset (form : Form) : Form where
  fields := { form.fields with title := [], description := [], startsAt := none, tags := [] }
  draft := none
  pricingReady := false
  submission := none

inductive Stepped (user : AuthenticatedUser) (venues : List Venue) (w : World) :
    Action → World → Prop where
  | edit (edit : Edit) : Stepped user venues w (.edit edit)
      { w with form := { w.form with fields := w.form.fields.edit venues edit } }
  | submit : Stepped user venues w .submit { w with form := w.form.submit }
  | failed (a : Action) : Stepped user venues w a w.fail
  | created (choices : List Choice) (submission : Submission)
      (pending : w.form.submission = some submission) (stage : submission.stage = .create)
      (row : Event) (events : Table Event) (columns : EventColumns)
      (inserted : w.listing.catalog.events.insert? [row] = some events)
      (own : row.organizerId = user.sub)
      (sent : (row.venueId, some (row.startsAt : Int), columns) = submission.fields.sent) :
      Stepped user venues w (.answer choices)
        { w with
          listing := { w.listing with
            catalog := { w.listing.catalog with events }
            columns := fun other => if other = row.id then columns else w.listing.columns other }
          form := { w.form with
            draft := some row.id
            submission := some { submission with stage := stageOf submission.pricingReady row.id } }
          since := w.since ++ [.created row.id submission.fields] }
  | priced (choices : List Choice) (submission : Submission)
      (pending : w.form.submission = some submission) (event : Uuid)
      (stage : submission.stage = .price event) (row : Event) (id : Uuid) (price : Amount)
      (prices : Table PricingCategory)
      (owned : ownedEvent w.listing.catalog.events event.text user = .ok row)
      (value : price.value = submission.fields.price)
      (inserted : w.listing.catalog.prices.insert?
        [newPricing id event.text submission.fields.pricing price] = some prices) :
      Stepped user venues w (.answer choices)
        { w with
          listing := { w.listing with catalog := { w.listing.catalog with prices } }
          form := { w.form with
            pricingReady := true
            submission := some { submission with stage := .publish event } }
          since := w.since ++ [.priced event submission.fields] }
  | finished (choices : List Choice) (submission : Submission)
      (pending : w.form.submission = some submission) (event : Uuid)
      (stage : submission.stage = .publish event) (row : Event)
      (owned : ownedEvent w.listing.catalog.events event.text user = .ok row) :
      Stepped user venues w (.answer choices)
        { listing := saveEvent w.listing
            { EventEntity.of row (w.listing.columns row.id) with published := true }
          form := w.form.reset
          since := []
          finished := w.finished ++ [event] }

theorem value_of_round {n : Nat} {price : Amount} (rounded : Amount.round? (n : ℚ) = some price) :
    price.value = n := by
  have half : ⌊(n : ℚ) + 1 / 2⌋ = n := by
    rw [Int.floor_eq_iff]
    constructor <;> norm_num
  have same : price.value = ⌊(n : ℚ) + 1 / 2⌋.toNat := Amount.value_of_ofNat? rounded
  rwa [half, Int.toNat_natCast] at same

theorem World.receive_refused {submission : Submission} {reply : Reply}
    (refused : Refused w.listing (listing, reply)) :
    { w with listing }.receive submission reply = w.fail := by
  cases refused <;> cases stage : submission.stage <;> simp only [World.receive, stage]

theorem step_cases (taken : step user venues w a = some w') : Stepped user venues w a w' := by
  cases a <;> simp only [step] at taken
  case edit edit =>
    cases taken
    exact .edit edit
  case submit =>
    split at taken <;> cases taken
    exact .submit
  case lose =>
    split at taken <;> cases taken
    exact .failed _
  case answer choices =>
    split at taken
    · cases taken
    rename_i submission pending
    split at taken
    swap
    · cases taken
      exact .failed _
    obtain ⟨⟨listing, reply⟩, served, rfl⟩ := Option.map_eq_some_iff.mp taken
    cases stage : submission.stage with
    | create =>
      simp only [Submission.request, stage, CatalogRequest.proc] at served
      rcases createEvent_spec rfl served with refused |
        ⟨row, columns, events, inserted, same, own, venue, starts, written⟩
      · exact World.receive_refused refused ▸ .failed _
      · cases same
        simp only [World.receive, stage]
        refine .created choices submission pending stage row events columns inserted own ?_
        rw [venue, ← starts, written]
        rfl
    | price event =>
      simp only [Submission.request, stage, CatalogRequest.proc] at served
      rcases addPricing_spec rfl served with refused |
        ⟨row, id, price, prices, owned, rounded, inserted, same⟩
      · exact World.receive_refused refused ▸ .failed _
      · cases same
        simp only [World.receive, stage]
        exact .priced choices submission pending event stage row id price prices owned
          (value_of_round rounded) inserted
    | publish event =>
      simp only [Submission.request, stage, CatalogRequest.proc] at served
      rcases publish_spec served with refused | ⟨row, owned, same⟩
      · exact World.receive_refused refused ▸ .failed _
      · cases same
        simp only [World.receive, stage]
        exact .finished choices submission pending event stage row owned

theorem Priced.grows (priced : Priced catalog) (grows : catalog.Grows catalog')
    (same : catalog'.prices = catalog.prices) : Priced catalog' := by
  intro price member
  rw [same] at member
  exact Stored.mono (priced price member) grows

/-- No price is of an event that is not stored. -/
theorem unpriced_of_insert {row : Event} {events : Table Event} (priced : Priced listing.catalog)
    (inserted : listing.catalog.events.insert? [row] = some events) : pricesOf listing row.id = [] := by
  refine List.map_eq_nil_iff.mpr (List.filter_eq_nil_iff.mpr fun price member own => ?_)
  obtain ⟨event, stored, named⟩ := priced price member
  rw [of_decide_eq_true own, uuid?_text, Option.some.injEq] at named
  have apart := Table.clash_false_of_insert? inserted stored List.mem_cons_self
  simp [clash, named] at apart

theorem tracks_next (priced : Priced w.listing.catalog) (tracks : Tracks user w)
    (stepped : Stepped user venues w a w') : Priced w'.listing.catalog ∧ Tracks user w' := by
  cases stepped with
  | edit edit =>
    refine ⟨priced, ?_⟩
    cases tracks with
    | blank none unset since at' => exact .blank none unset since at'
    | made id sent draft unset since stored unpriced at' =>
      exact .made id sent draft unset since stored unpriced at'
    | priced id sent price draft set since stored prices at' =>
      exact .priced id sent price draft set since stored prices at'
  | submit => exact ⟨priced, tracks.submit⟩
  | failed => exact ⟨priced, tracks.fail⟩
  | created choices submission pending stage row events columns inserted own sent =>
    have rows := Table.insert?_eq_some.mp inserted
    refine ⟨priced.grows ⟨fun _ => id, fun _ => id, fun _ => id, fun event member =>
      ⟨event, grows_of_insert inserted member, rfl, rfl, rfl⟩⟩ rfl, ?_⟩
    have unpriced := unpriced_of_insert priced inserted
    cases tracks with
    | blank none unset since at' =>
      refine .made row.id submission.fields rfl unset (by simp [since]) ?_ unpriced ?_
      · refine ⟨row, ?_, rfl, own, ?_⟩
        · rw [rows]
          exact List.mem_concat_self
        · simp only [Listing.read, if_true]
          exact sent
      · simp [(at' submission pending).2, stageOf]
    | made id _ _ _ _ _ _ at' => cases stage.symm.trans (at' submission pending)
    | priced id _ _ _ _ _ _ _ at' => cases stage.symm.trans (at' submission pending)
  | priced choices submission pending event stage row id price prices owned value inserted =>
    have rows := Table.insert?_eq_some.mp inserted
    constructor
    · intro category member
      change category ∈ prices.rows at member
      rw [rows] at member
      rcases List.mem_append.mp member with old | new
      · exact priced category old
      · rw [List.mem_singleton.mp new]
        exact stored_of_owned owned
    · cases tracks with
      | blank _ _ _ at' => cases stage.symm.trans (at' submission pending).1
      | made id sent draft unset since stored unpriced at' =>
        cases stage.symm.trans (at' submission pending)
        refine .priced event sent submission.fields draft rfl (by simp [since]) stored ?_ (by simp)
        have none := List.map_eq_nil_iff.mp unpriced
        simp only [pricesOf, rows, List.filter_append, none]
        simp [newPricing, value]
      | priced id _ _ _ _ _ _ _ at' => cases stage.symm.trans (at' submission pending)
  | finished choices submission pending event stage row owned =>
    have lists : w.listing.catalog.Lists (.of row (w.listing.columns row.id)) := lists_of_owned owned
    have saved : w.listing.catalog.Lists
        { EventEntity.of row (w.listing.columns row.id) with published := true } := lists
    refine ⟨priced.grows saved.grows rfl, ?_⟩
    exact .blank rfl rfl rfl (by simp [Form.reset])

theorem tracks_of_run (priced : Priced listing.catalog)
    (run : Run (step user venues) (opened listing) ts w) :
    Priced w.listing.catalog ∧ Tracks user w := by
  refine run.invariant (P := fun w => Priced w.listing.catalog ∧ Tracks user w)
    (fun _ _ => (trivial : True)) ⟨priced, .blank rfl rfl rfl (by simp [opened, Form.initial])⟩ ?_
  rintro w a w' ⟨priced, tracks⟩ - taken
  exact tracks_next priced tracks (step_cases taken)

/-! ## The published event -/

/-- The row as it is saved: nothing has changed but that it is published. -/
theorem read_saveEvent {row : Event} (owned : ownedEvent listing.catalog.events id.text user = .ok row) :
    ∃ row' ∈ (saveEvent listing
        { EventEntity.of row (listing.columns row.id) with published := true }).catalog.events.rows,
      row'.id = id ∧ row'.published = true ∧
      Listing.read (saveEvent listing
        { EventEntity.of row (listing.columns row.id) with published := true }) row' =
        Listing.read listing row := by
  obtain ⟨stored, named, -⟩ := ownedEvent_eq_ok.mp owned
  rw [uuid?_text, Option.some.injEq] at named
  refine ⟨_, List.mem_map_of_mem stored, ?_⟩
  have own : row.id = ({ EventEntity.of row (listing.columns row.id) with published := true } :
      EventEntity).id := rfl
  rw [if_pos own]
  refine ⟨named.symm, rfl, ?_⟩
  change (row.venueId, some (row.startsAt : Int), if row.id = row.id then _ else _) = _
  rw [if_pos rfl]
  rfl

theorem row_unique {table : Table Event} {x y : Event} (left : x ∈ table.rows) (right : y ∈ table.rows)
    (same : x.id = y.id) : x = y :=
  Table.eq_of_clash left right (by simp [clash, same])

/-- When a submit ends with `done(event)`, exactly one event has been made since the last
reset, it is published and it is with its one price what the form said at this submit,
exactly when what was sent in the calls that went through before is what it said. -/
theorem as_submitted_iff {cfg : Config} {s : Site} {us : List (Transition Site Site.Action)}
    (before : Run (Site.step cfg) .empty us s)
    (run : Run (step user venues) (opened s.listing) ts w) (member : t ∈ ts)
    (finishes : Finishes t id fields) :
    AsSubmitted t.source.since t.target.listing id fields ↔
      ∀ happening ∈ t.source.since, happening.Agrees fields := by
  obtain ⟨_, _, rfl, first, taken, -⟩ := run.split member
  obtain ⟨-, tracks⟩ := tracks_of_run (priced_of_run before) first
  obtain ⟨done, submission, pending, rfl⟩ := finishes
  obtain ⟨source, action, target⟩ := t
  have stepped : Stepped user venues source action target := step_cases taken
  dsimp only at done pending tracks ⊢
  cases stepped with
  | finished choices submission' pending' event stage row owned =>
    cases pending.symm.trans pending'
    obtain rfl : event = id := by simpa using done
    cases tracks with
    | blank _ _ _ at' => cases stage.symm.trans (at' _ pending).1
    | made _ _ _ _ _ _ _ at' => cases stage.symm.trans (at' _ pending)
    | priced id sent price draft set since stored prices at' =>
      cases stage.symm.trans (at' _ pending)
      obtain ⟨known, named, -⟩ := ownedEvent_eq_ok.mp owned
      rw [uuid?_text, Option.some.injEq] at named
      obtain ⟨origin, there, named', -, reads⟩ := stored
      obtain rfl := row_unique known there (named.symm.trans named'.symm)
      obtain ⟨row', saved, own, published, same⟩ := read_saveEvent owned
      have size : pricesOf (saveEvent source.listing
          { EventEntity.of row (source.listing.columns row.id) with published := true }) event =
          [price.price] := prices
      rw [since, AsSubmitted, size]
      simp only [List.filterMap_cons, Happening.made, List.filterMap_nil, true_and, List.mem_cons,
        List.not_mem_nil, or_false, forall_eq_or_imp, forall_eq, Happening.Agrees, List.cons.injEq,
        and_true]
      rw [and_comm]
      refine and_congr_left fun _ => ⟨?_, fun equal => ?_⟩
      · rintro ⟨other, stored', own', -, reads'⟩
        rw [row_unique stored' saved (own'.trans own.symm), same, reads] at reads'
        exact reads'
      · exact ⟨row', saved, own, published, same.trans (reads.trans equal)⟩
  | _ => simp [World.fail] at done

/-! ## A form to try things on -/

private theorem house_enabled : (exec (Site.step sampleConfig) .empty (setUp.take 2)).isSome = true := by
  decide +kernel

/-- The venue `8…` and a form for events in it. -/
def house : World := opened (launched (setUp.take 2) house_enabled).listing

def houseStep : World → Action → Option World :=
  step organizer [⟨flat 8, ['v', 'v'], ['c', 'c'], []⟩]

/-- The form is filled in and submitted, and all but the last call go through. -/
def fillIn : List Action :=
  [.edit (.venue (flatText '8')), .edit (.title ['t', 't']), .edit (.description ['d', 'd']),
    .edit (.startsAt (some 1000000)), .submit, .answer [{}, { ids := [flat 0xe] }],
    .answer [{}, { ids := [flat 0xc] }]]

def filledIn (price : Nat) : Fields :=
  ⟨flatText '8', ['t', 't'], ['d', 'd'], "Music".toList, ['c', 'c'], some 1000000, price, []⟩

private theorem publish_enabled :
    (exec houseStep house (fillIn ++ [.answer [{}, {}, {}]])).isSome = true := by
  decide +kernel

theorem as_submitted_iff_at_once : AsSubmitted
    (replay houseStep house fillIn (enabled_of_append publish_enabled)).since
    (replay houseStep house _ publish_enabled).listing (flat 0xe) (filledIn 2500000) := by
  have finishes : Finishes ⟨replay houseStep house fillIn (enabled_of_append publish_enabled),
      .answer [{}, {}, {}], replay houseStep house _ publish_enabled⟩ (flat 0xe) (filledIn 2500000) :=
    ⟨by decide +kernel, ⟨filledIn 2500000, false, .publish (flat 0xe)⟩, by decide +kernel, rfl⟩
  exact (as_submitted_iff (run_replay house_enabled)
    ((run_replay (enabled_of_append publish_enabled)).snoc (step_replay publish_enabled))
    List.mem_concat_self finishes).mpr (by decide +kernel)

/-- The publish call is lost, the price is changed, and the form submitted again. -/
def reprice : List Action := fillIn ++ [.lose, .edit (.price 1), .submit]

private theorem reprice_enabled :
    (exec houseStep house (reprice ++ [.answer [{}, {}, {}]])).isSome = true := by
  decide +kernel

/-- The event is published at the price before the change. -/
theorem published_outdated :
    ¬ ∀ (cfg : Config) (us : List (Transition Site Site.Action)) (s : Site) (user : AuthenticatedUser)
      (venues : List Venue) (ts : List (Transition World Action)) (w : World)
      (t : Transition World Action) (id : Uuid) (fields : Fields),
      Run (Site.step cfg) .empty us s → Run (step user venues) (opened s.listing) ts w → t ∈ ts →
      Finishes t id fields → AsSubmitted t.source.since t.target.listing id fields := by
  intro submitted
  have finishes : Finishes ⟨replay houseStep house reprice (enabled_of_append reprice_enabled),
      .answer [{}, {}, {}], replay houseStep house _ reprice_enabled⟩ (flat 0xe) (filledIn 1) :=
    ⟨by decide +kernel, ⟨filledIn 1, true, .publish (flat 0xe)⟩, by decide +kernel, rfl⟩
  have both := submitted _ _ _ _ _ _ _ _ _ _ (run_replay house_enabled)
    ((run_replay (enabled_of_append reprice_enabled)).snoc (step_replay reprice_enabled))
    List.mem_concat_self finishes
  exact absurd both.2.1 (by decide +kernel)

end KiTicket.EventForm
