import KiTicket.Spellings

/-! Writes under two spellings of their ids. A write stores the string that was typed, so
of two writes that go through, a later page tells which one it was: the layout of the
venue, the organizer's events, or the event's own page once it is published. -/
namespace KiTicket
open Runs Events

variable {cfg : Config} {s : Site} {listing : Listing} {choices rest : List Choice} {c : Choice}
  {id id' : Text} {event : Event} {user : AuthenticatedUser} {p : CatalogProc}
  {ts : List (Transition Site Site.Action)}

section Writes
variable {left right : Listing × Reply}

/-! ## Two rows for one table -/

theorem same_refl {other : Site → β} {served : Site × Answer} : Same cfg other served served :=
  ⟨rfl, Alike.refl⟩

/-- Sites with different pages can be told apart at once. -/
theorem told_by_page {other : Site → β} {first second : Site} (page : PageRead)
    (differ : first.read page ≠ second.read page) :
    ¬Alike (Site.step cfg) (Site.view other) first second :=
  fun alike => differ (congrFun (congrArg View.pages alike.now) page)

/-- Of two requests that each tried to store a row, nobody can tell which it was if it is
one row or both were refused; otherwise one of the rows tells. -/
theorem same_iff_of_attempts {α : Type} [UniqueKeys α] {table : Table α} {row row' : α}
    {other : Site → β} (part : Listing → Table α) (self : ∀ a : α, clash a a = true)
    (kept : part left.1 = table.attempt row) (kept' : part right.1 = table.attempt row')
    (equal : row = row' ∨ (table.Clashes row ∧ table.Clashes row') → left = right)
    (told : row ∈ (part left.1).rows → row ∉ (part right.1).rows →
      ¬Alike (Site.step cfg) (Site.view other) (s.answered left).1 (s.answered right).1)
    (told' : row' ∈ (part right.1).rows → row' ∉ (part left.1).rows →
      ¬Alike (Site.step cfg) (Site.view other) (s.answered right).1 (s.answered left).1) :
    Same cfg other (s.answered left) (s.answered right) ↔
      row = row' ∨ (table.Clashes row ∧ table.Clashes row') := by
  constructor
  · intro same
    by_contra apart
    have rows := Table.attempt_apart self apart
    rw [← kept, ← kept'] at rows
    rcases rows with ⟨stored, absent⟩ | ⟨stored, absent⟩
    · exact told stored absent same.2
    · exact told' stored absent same.2.symm
  · intro one
    rw [equal one]
    exact same_refl

/-! ## `POST /venues/:id/sectors` -/

theorem alone_saveSeats {sector : Sector} {body : CreateSectorDto} {left : Listing × Reply}
    (served : (CatalogProc.createSector (.saveSeats sector body)).alone choices listing = some left) :
    left.1.venues = listing.venues ∧ left.1.catalog.sectors = listing.catalog.sectors := by
  cases choices with
  | nil => cases served
  | cons c rest =>
    rw [alone_cons fun _ => CatalogProc.noConfusion] at served
    obtain ⟨⟨listing', p'⟩, turn, ends⟩ := Option.bind_eq_some_iff.mp served
    simp only [CatalogProc.turn, afterOf_eq_some] at turn
    obtain ⟨after, turn, rfl⟩ := turn
    split at turn
    · cases turn
      cases alone_ends ends
      exact ⟨rfl, rfl⟩
    simp only [Venues.CreateSector.turn] at turn
    split at turn
    · cases turn
    split at turn <;> cases turn
    · cases alone_ends ends
      exact ⟨rfl, rfl⟩
    · cases alone_ends ends
      exact ⟨rfl, rfl⟩

theorem alone_saveSector {body : CreateSectorDto} {left : Listing × Reply} (healthy : ¬c.fault = true)
    (served : (CatalogProc.createSector (.saveSector id body)).alone (c :: rest) listing = some left) :
    ∃ new, c.ids.head? = some new ∧ left.1.venues = listing.venues ∧
      left.1.catalog.sectors = listing.catalog.sectors.attempt ⟨new, id, body.name⟩ ∧
      (listing.catalog.sectors.Clashes ⟨new, id, body.name⟩ →
        left = (listing, .error .duplicateKey)) := by
  rw [alone_cons fun _ => CatalogProc.noConfusion] at served
  simp only [CatalogProc.turn, if_neg healthy, Venues.CreateSector.turn] at served
  split at served
  swap
  · cases served
  rename_i new drawn
  refine ⟨new, by simp [drawn], ?_⟩
  split at served
  · rename_i sectors inserted
    obtain ⟨venues, kept⟩ := alone_saveSeats served
    have stored := Table.attempt_of_insert? inserted
    have fits := Table.not_clashes_of_insert? inserted
    exact ⟨venues, kept.trans stored, fun clashes => absurd clashes fits⟩
  · rename_i refused
    have ended : (listing, Reply.error .duplicateKey) = left := by
      simpa [afterOf, Listing.refuse, After.proc] using served
    subst ended
    exact ⟨rfl, (Table.attempt_of_clashes (Table.insert?_singleton_eq_none.mp refused)).symm,
      fun _ => rfl⟩

/-- Both are answered alike before they come to store anything, or both come to it. -/
theorem createSector_cases {body : CreateSectorDto} (ids : Spellings id id')
    (served : (CatalogProc.createSector (.findVenue id body)).alone choices listing = some left)
    (served' : (CatalogProc.createSector (.findVenue id' body)).alone choices listing = some right) :
    (left = right ∧ (Fails 2 choices ∨ ∀ venue, venueOrFail listing.venues id ≠ .ok venue)) ∨
      ∃ c d more venue, choices = c :: d :: more ∧ ¬Fails 2 choices ∧ ¬d.fault = true ∧
        venueOrFail listing.venues id = .ok venue ∧
        (CatalogProc.createSector (.saveSector id body)).alone (d :: more) listing = some left ∧
        (CatalogProc.createSector (.saveSector id' body)).alone (d :: more) listing = some right := by
  have looked := look (fun _ => ∀ venue, venueOrFail listing.venues id ≠ .ok venue)
    (fun _ => ∃ venue, venueOrFail listing.venues id = .ok venue)
    (.createSector (.saveSector id body)) (.createSector (.saveSector id' body))
    (fun _ => CatalogProc.noConfusion) (fun _ => CatalogProc.noConfusion) served served' ?_
  · obtain ⟨c, rest, rfl, ⟨same, failed | unknown⟩ | ⟨healthy, ⟨venue, found⟩, goes, goes'⟩⟩ := looked
    · exact .inl ⟨same, .inl ⟨c, by simp, failed⟩⟩
    · exact .inl ⟨same, .inr unknown⟩
    obtain ⟨d, more, rfl, ⟨same, failed⟩ | fine⟩ := makes_call (fun _ => CatalogProc.noConfusion)
      (fun _ => CatalogProc.noConfusion) goes goes'
    · exact .inl ⟨same, .inl ⟨d, by simp, failed⟩⟩
    · exact .inr ⟨c, d, more, venue, rfl, by simp [Fails, healthy, fine], fine, found, goes, goes'⟩
  · intro c healthy
    simp only [CatalogProc.turn, if_neg healthy, Venues.CreateSector.turn, ← venueOrFail_congr ids]
    cases venueOrFail listing.venues id with
    | error failure => exact .inl ⟨by simp, .error failure, rfl, rfl⟩
    | ok venue => exact .inr ⟨⟨venue, rfl⟩, rfl, rfl⟩

theorem sectors_of_layout {layout : Venues.Layout} (shown : Venues.layout listing id = .ok layout) :
    layout.sectors.map Prod.fst = listing.catalog.sectors.rows.filter (·.venueId = id) := by
  unfold Venues.layout at shown
  split at shown
  · cases shown
  split at shown <;> cases shown
  simp [List.map_map, Function.comp_def]

/-- A sector one of two venues has is in its layout. -/
theorem told_by_layout {other : Site → β} {first second : Site} {row : Sector} {venue : Venue}
    (known : venueOrFail first.venues row.venueId = .ok venue)
    (stored : row ∈ first.db.catalog.sectors.rows) (absent : row ∉ second.db.catalog.sectors.rows) :
    ¬Alike (Site.step cfg) (Site.view other) first second := by
  refine told_by_page (.layout row.venueId) fun same => ?_
  have layouts := Answer.layout.inj same
  obtain ⟨layout, shown⟩ : ∃ layout, Venues.layout first.listing row.venueId = .ok layout := by
    obtain ⟨member, named⟩ := venueOrFail_eq_ok.mp known
    have found : first.listing.venues.rows.find? (·.id = venue.id) = some venue :=
      find?_venue member
    simp only [Venues.layout, named, found]
    exact ⟨_, rfl⟩
  have sectors := sectors_of_layout shown
  rw [sectors_of_layout (layouts ▸ shown)] at sectors
  have listed : row ∈ first.db.catalog.sectors.rows.filter (·.venueId = row.venueId) :=
    List.mem_filter.mpr ⟨stored, decide_eq_true rfl⟩
  have here : row ∈ second.db.catalog.sectors.rows.filter (·.venueId = row.venueId) :=
    sectors ▸ listed
  exact absent (List.mem_filter.mp here).1

theorem createSector_iff {other : Site → β} {body : CreateSectorDto} (ids : Spellings id id')
    (served : (CatalogProc.createSector (.findVenue id body)).alone choices s.listing = some left)
    (served' : (CatalogProc.createSector (.findVenue id' body)).alone choices s.listing = some right) :
    Same cfg other (s.answered left) (s.answered right) ↔ s.Indifferent choices
      (.write (.createSector user id body)) (.write (.createSector user id' body)) := by
  rcases createSector_cases ids served served' with ⟨rfl, stuck⟩ |
    ⟨c, d, more, venue, rfl, healthy, fine, found, goes, goes'⟩
  · exact iff_of_true same_refl (.inr (stuck.imp_right fun unknown venue found =>
      absurd found (unknown venue)))
  obtain ⟨new, drawn, venues, sectors, refused⟩ := alone_saveSector fine goes
  obtain ⟨new', drawn', venues', sectors', refused'⟩ := alone_saveSector fine goes'
  obtain rfl : new = new' := Option.some.inj (drawn.symm.trans drawn')
  have found' := (venueOrFail_congr ids).symm.trans found
  have known : venueOrFail (s.answered left).1.venues id = .ok venue :=
    (congrArg (venueOrFail · id) venues).trans found
  have known' : venueOrFail (s.answered right).1.venues id' = .ok venue :=
    (congrArg (venueOrFail · id') venues').trans found'
  refine (same_iff_of_attempts (·.catalog.sectors) (fun a => by simp [clash]) sectors sectors' ?_
    (fun stored absent => told_by_layout known stored absent)
    (fun stored absent => told_by_layout known' stored absent)).trans ?_
  · rintro (equal | ⟨first, second⟩)
    · obtain rfl : id = id' := congrArg Sector.venueId equal
      exact Option.some.inj (served.symm.trans served')
    · rw [refused first, refused' second]
  constructor
  · rintro (equal | both)
    · exact .inl (congrArg Sector.venueId equal)
    · exact .inr (.inr fun _ _ => ⟨new, drawn, both⟩)
  · rintro (rfl | failed | clashes)
    · exact .inl rfl
    · exact absurd failed healthy
    · obtain ⟨other, drawnTwice, both⟩ := clashes venue found
      obtain rfl : new = other := Option.some.inj (drawn.symm.trans drawnTwice)
      exact .inr both

/-! ## `POST /events` -/

theorem createEvent_cases {body : CreateEventDto} (ids : Spellings id id')
    (served : (CatalogProc.createEvent (.findVenue user { body with venueId := id })).alone choices
      listing = some left)
    (served' : (CatalogProc.createEvent (.findVenue user { body with venueId := id' })).alone choices
      listing = some right) :
    (left = right ∧ (Fails 2 choices ∨ ∀ venue c, venueOrFail listing.venues id = .ok venue →
      c ∈ choices.head? → ¬validEventTimes c.now body.startsAt body.endsAt true = true)) ∨
      ∃ c d more venue, choices = c :: d :: more ∧ ¬Fails 2 choices ∧ ¬d.fault = true ∧
        venueOrFail listing.venues id = .ok venue ∧
        validEventTimes c.now body.startsAt body.endsAt true = true ∧
        (CatalogProc.createEvent (.save user { body with venueId := id })).alone (d :: more) listing =
          some left ∧
        (CatalogProc.createEvent (.save user { body with venueId := id' })).alone (d :: more) listing =
          some right := by
  have looked := look
    (fun c => ∀ venue, venueOrFail listing.venues id = .ok venue →
      ¬validEventTimes c.now body.startsAt body.endsAt true = true)
    (fun c => ∃ venue, venueOrFail listing.venues id = .ok venue ∧
      validEventTimes c.now body.startsAt body.endsAt true = true)
    (.createEvent (.save user { body with venueId := id }))
    (.createEvent (.save user { body with venueId := id' }))
    (fun _ => CatalogProc.noConfusion) (fun _ => CatalogProc.noConfusion) served served' ?_
  · obtain ⟨c, rest, rfl, ⟨same, failed | stuck⟩ | ⟨healthy, ⟨venue, found, valid⟩, goes, goes'⟩⟩ :=
      looked
    · exact .inl ⟨same, .inl ⟨c, by simp, failed⟩⟩
    · refine .inl ⟨same, .inr fun venue first found here => ?_⟩
      obtain rfl : c = first := Option.some.inj here
      exact stuck venue found
    obtain ⟨d, more, rfl, ⟨same, failed⟩ | fine⟩ := makes_call (fun _ => CatalogProc.noConfusion)
      (fun _ => CatalogProc.noConfusion) goes goes'
    · exact .inl ⟨same, .inl ⟨d, by simp, failed⟩⟩
    · exact .inr ⟨c, d, more, venue, rfl, by simp [Fails, healthy, fine], fine, found, valid, goes,
        goes'⟩
  · intro c healthy
    simp only [CatalogProc.turn, if_neg healthy, Events.Create.turn, ← venueOrFail_congr ids]
    cases venueOrFail listing.venues id with
    | error failure => exact .inl ⟨by simp, .error failure, rfl, rfl⟩
    | ok venue =>
      by_cases valid : validEventTimes c.now body.startsAt body.endsAt true = true
      · exact .inr ⟨⟨venue, rfl, valid⟩, by simp [valid, afterOf, Listing.stay, After.proc],
          by simp [valid, afterOf, Listing.stay, After.proc]⟩
      · exact .inl ⟨fun _ _ => valid, invalidTimes, by simp [valid, afterOf, After.proc],
          by simp [valid, afterOf, After.proc]⟩

theorem alone_saveEvent {body : CreateEventDto} (healthy : ¬c.fault = true)
    (served : (CatalogProc.createEvent (.save user body)).alone (c :: rest) listing = some left) :
    ∃ new, c.ids.head? = some new ∧ left.1.catalog.events = listing.catalog.events.attempt
        ⟨new, user.sub, body.venueId, storedDate body.startsAt, false⟩ ∧
      (listing.catalog.events.Clashes
          ⟨new, user.sub, body.venueId, storedDate body.startsAt, false⟩ →
        left = (listing, .error .duplicateKey)) := by
  rw [alone_cons fun _ => CatalogProc.noConfusion] at served
  simp only [CatalogProc.turn, if_neg healthy, Events.Create.turn] at served
  split at served
  swap
  · cases served
  rename_i new drawn
  refine ⟨new, by simp [drawn], ?_⟩
  split at served
  · rename_i events inserted
    simp only [afterOf, Option.map_some, After.proc, Option.bind_some, alone_done,
      Option.some.injEq] at served
    subst served
    have stored := Table.attempt_of_insert? inserted
    have fits := Table.not_clashes_of_insert? inserted
    exact ⟨stored, fun clashes => absurd clashes fits⟩
  · rename_i refused
    have ended : (listing, Reply.error .duplicateKey) = left := by
      simpa [afterOf, Listing.refuse, After.proc] using served
    subst ended
    exact ⟨(Table.attempt_of_clashes (Table.insert?_singleton_eq_none.mp refused)).symm,
      fun _ => rfl⟩

theorem mem_listOwned {entity : EventEntity} : entity ∈ listOwned listing user ↔
    ∃ event ∈ listing.catalog.events.rows, (user.role = .admin ∨ event.organizerId = user.sub) ∧
      entity = .of event (listing.columns event.id) := by
  simp only [listOwned, List.mem_map, List.mem_mergeSort, List.mem_filter, decide_eq_true_eq]
  constructor
  · rintro ⟨event, ⟨stored, mine⟩, rfl⟩
    exact ⟨event, stored, mine, rfl⟩
  · rintro ⟨event, stored, mine, rfl⟩
    exact ⟨event, ⟨stored, mine⟩, rfl⟩

/-- Every column of an event is among the properties it is loaded with. -/
theorem eq_of_entity {other : Event} {columns columns' : EventColumns}
    (equal : EventEntity.of event columns = .of other columns') : event = other := by
  cases event
  cases other
  simp only [EventEntity.of, EventEntity.mk.injEq, Option.some.injEq] at equal
  obtain ⟨rfl, rfl, rfl, -, -, -, -, -, rfl, -, rfl⟩ := equal
  rfl

/-- An event one of two organizers has is in the list of their events. -/
theorem told_by_listOwned {other : Site → β} {first second : Site} {row : Event}
    (organizer : organizes user = true) (mine : row.organizerId = user.sub)
    (stored : row ∈ first.db.catalog.events.rows) (absent : row ∉ second.db.catalog.events.rows) :
    ¬Alike (Site.step cfg) (Site.view other) first second := by
  refine told_by_page (.listOwned user) fun same => ?_
  simp only [Site.read, if_pos organizer, Answer.events.injEq] at same
  have listed : EventEntity.of row (first.columns row.id) ∈ listOwned first.listing user :=
    mem_listOwned.mpr ⟨row, stored, .inr mine, rfl⟩
  rw [same, mem_listOwned] at listed
  obtain ⟨other, known, -, equal⟩ := listed
  exact absent (eq_of_entity equal ▸ known)

theorem createEvent_iff {other : Site → β} {body : CreateEventDto} (ids : Spellings id id')
    (organizer : organizes user = true)
    (served : (CatalogProc.createEvent (.findVenue user { body with venueId := id })).alone choices
      s.listing = some left)
    (served' : (CatalogProc.createEvent (.findVenue user { body with venueId := id' })).alone choices
      s.listing = some right) :
    Same cfg other (s.answered left) (s.answered right) ↔ s.Indifferent choices
      (.write (.createEvent user { body with venueId := id }))
      (.write (.createEvent user { body with venueId := id' })) := by
  rcases createEvent_cases ids served served' with ⟨rfl, stuck⟩ |
    ⟨c, d, more, venue, rfl, healthy, fine, found, valid, goes, goes'⟩
  · exact iff_of_true same_refl (.inr (stuck.imp_right fun invalid venue c found here valid =>
      absurd valid (invalid venue c found here)))
  obtain ⟨new, drawn, events, refused⟩ := alone_saveEvent fine goes
  obtain ⟨new', drawn', events', refused'⟩ := alone_saveEvent fine goes'
  obtain rfl : new = new' := Option.some.inj (drawn.symm.trans drawn')
  have taken {venueId : Text} : s.listing.catalog.events.Clashes
      ⟨new, user.sub, venueId, storedDate body.startsAt, false⟩ ↔
        ∃ event ∈ s.db.catalog.events.rows, event.id = new := by
    simp only [Table.Clashes, clash, decide_eq_true_eq]
    rfl
  refine (same_iff_of_attempts (·.catalog.events) (fun a => by simp [clash]) events events' ?_
    (fun stored absent => told_by_listOwned organizer rfl stored absent)
    (fun stored absent => told_by_listOwned organizer rfl stored absent)).trans ?_
  · rintro (equal | ⟨first, second⟩)
    · obtain rfl : id = id' := congrArg Event.venueId equal
      exact Option.some.inj (served.symm.trans served')
    · rw [refused first, refused' second]
  constructor
  · rintro (equal | ⟨clashes, -⟩)
    · exact .inl (congrArg Event.venueId equal)
    · exact .inr (.inr fun _ _ _ _ _ => ⟨new, drawn, taken.mp clashes⟩)
  · rintro (equal | failed | clashes)
    · obtain rfl : id = id' := equal
      exact .inl rfl
    · exact absurd failed healthy
    · obtain ⟨other, drawnTwice, clashes⟩ := clashes venue c found rfl valid
      obtain rfl : new = other := Option.some.inj (drawn.symm.trans drawnTwice)
      exact .inr ⟨taken.mpr clashes, taken.mpr clashes⟩

/-! ## `POST /events/:id/publish` -/

theorem unpriced_iff : s.Unpriced id ↔
    ¬(s.listing.catalog.prices.rows.any (·.eventId = id)) = true := by
  rw [List.any_eq_true]
  constructor
  · rintro unpriced ⟨price, stored, typed⟩
    exact unpriced price stored (of_decide_eq_true typed)
  · intro none price stored typed
    exact none ⟨price, stored, decide_eq_true typed⟩

theorem alone_exist {entity : EventEntity} (healthy : ¬c.fault = true) :
    (CatalogProc.publish (.exist id entity)).alone (c :: rest) listing =
      if listing.catalog.prices.rows.any (·.eventId = id) then
        (CatalogProc.publish (.save { entity with published := true })).alone rest listing
      else some (listing, .error (.forbidden "At least one price is required")) := by
  rw [alone_cons fun _ => CatalogProc.noConfusion]
  simp only [CatalogProc.turn, if_neg healthy, Events.Publish.turn]
  split
  · rfl
  · simp [afterOf, Listing.refuse, After.proc]

/-- A request that got as far as the save is not refused for want of a price. -/
theorem alone_publish {entity : EventEntity}
    (served : (CatalogProc.publish (.save entity)).alone choices listing = some left) :
    left.2 = .error .fault ∨ left.2 = .event entity := by
  match choices with
  | [] => cases served
  | c :: rest =>
    by_cases failed : c.fault = true
    · rw [alone_fault (fun _ => CatalogProc.noConfusion) failed] at served
      cases served
      exact .inl rfl
    · rw [alone_cons fun _ => CatalogProc.noConfusion] at served
      simp only [CatalogProc.turn, if_neg failed, Events.Publish.turn, afterOf, Option.map_some,
        After.proc, Option.bind_some, alone_done, Option.some.injEq] at served
      exact .inr (served ▸ rfl)

theorem publish_cases (ids : Spellings id id')
    (served : (CatalogProc.publish (.findOwned user id)).alone choices listing = some left)
    (served' : (CatalogProc.publish (.findOwned user id')).alone choices listing = some right) :
    (left = right ∧ (Fails 2 choices ∨
      ∀ event, ownedEvent listing.catalog.events id user ≠ .ok event)) ∨
      ∃ c d more event, choices = c :: d :: more ∧ ¬Fails 2 choices ∧ ¬d.fault = true ∧
        ownedEvent listing.catalog.events id user = .ok event ∧
        (CatalogProc.publish (.exist id (.of event (listing.columns event.id)))).alone (d :: more)
          listing = some left ∧
        (CatalogProc.publish (.exist id' (.of event (listing.columns event.id)))).alone (d :: more)
          listing = some right := by
  cases owned : ownedEvent listing.catalog.events id user with
  | error failure =>
    have owned' := (ownedEvent_congr ids).symm.trans owned
    have looked := look (fun _ => True) (fun _ => False) (.done (.error failure))
      (.done (.error failure)) (fun _ => CatalogProc.noConfusion)
      (fun _ => CatalogProc.noConfusion) served served' fun c healthy => by
        simp only [CatalogProc.turn, if_neg healthy, Events.Publish.turn, owned, owned']
        exact .inl ⟨trivial, .error failure, rfl, rfl⟩
    obtain ⟨c, rest, rfl, ⟨same, -⟩ | ⟨-, never, -⟩⟩ := looked
    · exact .inl ⟨same, .inr (by simp)⟩
    · exact never.elim
  | ok event =>
    have owned' := (ownedEvent_congr ids).symm.trans owned
    have looked := look (fun _ => False) (fun _ => True)
      (.publish (.exist id (.of event (listing.columns event.id))))
      (.publish (.exist id' (.of event (listing.columns event.id))))
      (fun _ => CatalogProc.noConfusion) (fun _ => CatalogProc.noConfusion) served served'
      fun c healthy => by
        simp only [CatalogProc.turn, if_neg healthy, Events.Publish.turn, owned, owned']
        exact .inr ⟨trivial, rfl, rfl⟩
    obtain ⟨c, rest, rfl, ⟨same, failed | never⟩ | ⟨healthy, -, goes, goes'⟩⟩ := looked
    · exact .inl ⟨same, .inl ⟨c, by simp, failed⟩⟩
    · exact never.elim
    obtain ⟨d, more, rfl, ⟨same, failed⟩ | fine⟩ := makes_call (fun _ => CatalogProc.noConfusion)
      (fun _ => CatalogProc.noConfusion) goes goes'
    · exact .inl ⟨same, .inl ⟨d, by simp, failed⟩⟩
    · exact .inr ⟨c, d, more, event, rfl, by simp [Fails, healthy, fine], fine, rfl, goes, goes'⟩

theorem publish_iff {other : Site → β} (ids : Spellings id id')
    (served : (CatalogProc.publish (.findOwned user id)).alone choices s.listing = some left)
    (served' : (CatalogProc.publish (.findOwned user id')).alone choices s.listing = some right) :
    Same cfg other (s.answered left) (s.answered right) ↔
      s.Indifferent choices (.write (.publish user id)) (.write (.publish user id')) := by
  rcases publish_cases ids served served' with ⟨rfl, stuck⟩ |
    ⟨c, d, more, event, rfl, healthy, fine, owned, goes, goes'⟩
  · exact iff_of_true same_refl (stuck.imp_right fun refused event owned =>
      absurd owned (refused event))
  rw [alone_exist fine] at goes goes'
  have matters : s.Indifferent (c :: d :: more) (.write (.publish user id))
      (.write (.publish user id')) ↔ (s.Unpriced id ↔ s.Unpriced id') :=
    ⟨fun indifferent => (indifferent.resolve_left healthy) event owned, fun same => .inr fun _ _ => same⟩
  rw [matters, unpriced_iff, unpriced_iff]
  -- only one of the two is refused if only one of the spellings has a price
  have refused {served : Listing × Reply} {entity : EventEntity}
      (goes : (CatalogProc.publish (.save entity)).alone more s.listing = some served) :
      served.2.folded ≠ .error (.forbidden "At least one price is required") := by
    rcases alone_publish goes with reply | reply <;> rw [reply] <;> simp [Reply.folded]
  by_cases priced : (s.listing.catalog.prices.rows.any (·.eventId = id)) = true <;>
    by_cases priced' : (s.listing.catalog.prices.rows.any (·.eventId = id')) = true
  · rw [if_pos priced] at goes
    rw [if_pos priced'] at goes'
    rw [Option.some.inj (goes.symm.trans goes')]
    exact iff_of_true same_refl (by simp [priced, priced'])
  · rw [if_pos priced] at goes
    rw [if_neg priced', Option.some.injEq] at goes'
    refine iff_of_false (fun same => ?_) (by simp [priced, priced'])
    subst goes'
    exact refused goes (Answer.reply.inj same.1)
  · rw [if_neg priced, Option.some.injEq] at goes
    rw [if_pos priced'] at goes'
    refine iff_of_false (fun same => ?_) (by simp [priced, priced'])
    subst goes
    exact refused goes' (Answer.reply.inj same.1).symm
  · rw [if_neg priced, Option.some.injEq] at goes
    rw [if_neg priced', Option.some.injEq] at goes'
    rw [← goes, ← goes']
    exact iff_of_true same_refl (by simp [priced, priced'])

end Writes

/-! ## What publishing brings to light -/

/-- Such a request adds no price. -/
def CatalogProc.Publishes : CatalogProc → Prop
  | .publish _ | .done _ => True
  | _ => False

theorem CatalogProc.Publishes.turn {listing' : Listing} {p' : CatalogProc} (publishes : p.Publishes)
    (turn : p.turn c listing = some (listing', p')) :
    listing'.catalog.prices = listing.catalog.prices ∧ p'.Publishes := by
  cases p <;> try exact publishes.elim
  case done => cases turn
  case publish state =>
    simp only [CatalogProc.turn, afterOf_eq_some] at turn
    obtain ⟨after, turn, rfl⟩ := turn
    split at turn
    · cases turn
      exact ⟨rfl, trivial⟩
    cases state <;> simp only [Events.Publish.turn] at turn
    case findOwned => split at turn <;> cases turn <;> exact ⟨rfl, trivial⟩
    case exist => split at turn <;> cases turn <;> exact ⟨rfl, trivial⟩
    case save =>
      cases turn
      exact ⟨rfl, trivial⟩

/-- Publishing an event leaves the prices as they are, however it ends. -/
theorem prices_of_publishing (turns : List Choice) :
    (settle (Site.step cfg) s (.request (.publish user id) ::
      turns.map (.turn s.procs.length))).db.catalog.prices = s.db.catalog.prices := by
  have kept : (settle (Site.step cfg) s (.request (.publish user id) ::
      turns.map (.turn s.procs.length))).db.catalog.prices = s.db.catalog.prices ∧
      ∀ p, (settle (Site.step cfg) s (.request (.publish user id) ::
        turns.map (.turn s.procs.length))).procs[s.procs.length]? = some p → p.Publishes := by
    refine settle_invariant (P := fun t : Site => t.db.catalog.prices = s.db.catalog.prices ∧
      ∀ p, t.procs[s.procs.length]? = some p → p.Publishes) ⟨rfl, by simp⟩ ?_
    rintro t t' a member ⟨same, publishes⟩ taken
    rcases List.mem_cons.mp member with rfl | member
    · cases Site.step_cases taken
      refine ⟨same, fun p serving => ?_⟩
      rw [List.getElem?_append] at serving
      split at serving
      · exact publishes p serving
      · rw [List.getElem?_singleton] at serving
        split at serving <;> cases serving
        trivial
    · obtain ⟨c, -, rfl⟩ := List.mem_map.mp member
      cases Site.step_cases taken
      case turn p p' listing serving turn =>
        obtain ⟨prices, still⟩ := (publishes p serving).turn turn
        refine ⟨prices.trans same, fun q at_q => ?_⟩
        rcases Pool.getElem?_set_cases at_q with ⟨-, rfl, -⟩ | ⟨other, -⟩
        · exact still
        · exact absurd rfl other
  exact kept.1

theorem pricing_of_detail {venues : Table Venue} {now : Nat} {page : EventDetail}
    (shown : detail venues db now id = .ok page) :
    page.pricing = db.catalog.prices.rows.filter (·.eventId = id) := by
  unfold detail at shown
  split at shown
  · cases shown
  split at shown
  · cases shown
  split at shown <;> cases shown
  rfl

/-- The catalog after an event was published. -/
def Listing.announce (listing : Listing) (event : Event) : Listing :=
  saveEvent listing { EventEntity.of event (listing.columns event.id) with published := true }

theorem mem_announce (stored : event ∈ listing.catalog.events.rows) :
    { event with published := true } ∈ (listing.announce event).catalog.events.rows := by
  rw [Listing.announce, rows_saveEvent]
  exact List.mem_map.mpr ⟨event, stored, if_pos rfl⟩

theorem alone_announce (owned : ownedEvent listing.catalog.events id user = .ok event)
    (priced : ∃ price ∈ listing.catalog.prices.rows, price.eventId = id) :
    ∃ reply, (CatalogProc.publish (.findOwned user id)).alone [{}, {}, {}] listing =
      some (listing.announce event, reply) := by
  have any : (listing.catalog.prices.rows.any (·.eventId = id)) = true := by
    obtain ⟨price, stored, typed⟩ := priced
    exact List.any_eq_true.mpr ⟨price, stored, decide_eq_true typed⟩
  have first : (CatalogProc.publish (.findOwned user id)).turn {} listing =
      some (listing, .publish (.exist id (.of event (listing.columns event.id)))) := by
    simp only [CatalogProc.turn, Events.Publish.turn, owned]
    rfl
  obtain ⟨reply, second⟩ : ∃ reply,
      (CatalogProc.publish (.exist id (.of event (listing.columns event.id)))).alone [{}, {}] listing =
        some (listing.announce event, reply) := by
    rw [alone_exist Bool.false_ne_true, if_pos any]
    exact ⟨_, rfl⟩
  rw [alone_cons fun _ => CatalogProc.noConfusion, first]
  exact ⟨reply, second⟩

/-- A price one of two sites has is on the event's page once its organizer publishes it. -/
theorem told_by_publishing {other : Site → β} {first second : Site} {row : PricingCategory}
    {venue : Venue} (organizer : organizes user = true)
    (owned : ownedEvent first.db.catalog.events row.eventId user = .ok event)
    (hosted : venueOrFail first.venues event.venueId = .ok venue)
    (procs : first.procs.length = second.procs.length)
    (stored : row ∈ first.db.catalog.prices.rows) (absent : row ∉ second.db.catalog.prices.rows) :
    ¬Alike (Site.step cfg) (Site.view other) first second := by
  intro alike
  obtain ⟨reply, alone⟩ := @alone_announce first.listing row.eventId event user owned
    ⟨row, stored, rfl⟩
  have served : first.serve [{}, {}, {}] (.write (.publish user row.eventId)) =
      some (first.answered (first.listing.announce event, reply)) := by
    simp only [Site.serve, CatalogRequest.accepted, organizer, if_true, CatalogRequest.proc]
    rw [alone]
    rfl
  obtain ⟨turns, goes⟩ := @exec_of_serve cfg _ _ _ _ served
  have views := alike (.request (.publish user row.eventId) ::
    (List.take turns [{}, {}, {}]).map (.turn first.procs.length))
  rw [settle_of_exec goes, procs] at views
  have pages := Answer.page.inj (congrFun (congrArg View.pages views) (.detail 0 row.eventId))
  have announced : (first.answered (first.listing.announce event, reply)).1.Announced row.eventId
      { event with published := true } := by
    obtain ⟨known, named, -⟩ := ownedEvent_eq_ok.mp owned
    refine ⟨event.id, named, Table.find?_eq_some_of_mem (mem_announce known) (by simp) ?_⟩
    intro a b left right
    simp only [decide_eq_true_eq] at left right
    simp [clash, left.1, right.1]
  rw [detail_announced announced hosted] at pages
  have prices := pricing_of_detail pages.symm
  rw [prices_of_publishing] at prices
  have shown : row ∈ first.db.catalog.prices.rows.filter (·.eventId = row.eventId) :=
    List.mem_filter.mpr ⟨stored, decide_eq_true rfl⟩
  have leaked : row ∈ second.db.catalog.prices.rows.filter (·.eventId = row.eventId) :=
    prices ▸ shown
  exact absent (List.mem_filter.mp leaked).1

/-! ## `POST /events/:id/pricing` -/

section Pricing
variable {left right : Listing × Reply} {body : CreatePricingDto} {sectorId sectorId' : Option Text}

/-- Both requests are about to store a price, at turn `saves`. -/
def BothSave (listing : Listing) (choices : List Choice) (saves : Nat) (id id' : Text)
    (body : CreatePricingDto) (sectorId sectorId' : Option Text) (left right : Listing × Reply) : Prop :=
  ∃ d more, choices.drop saves = d :: more ∧ ¬Fails (saves + 1) choices ∧ ¬d.fault = true ∧
    (CatalogProc.addPricing (.save id { body with sectorId })).alone (d :: more) listing = some left ∧
    (CatalogProc.addPricing (.save id' { body with sectorId := sectorId' })).alone (d :: more) listing =
      some right

theorem sectorFits_some {typed : Text} {sectorId : Uuid} (named : uuid? typed = some sectorId) :
    s.SectorFits event (some typed) ↔ (s.listing.catalog.sectors.rows.any fun sector =>
      sector.id = sectorId ∧ sector.venueId = event.venueId) = true := by
  simp only [Site.SectorFits, Option.mem_def, Option.some.injEq, forall_eq', named, List.any_eq_true,
    decide_eq_true_eq, eq_comm (a := sectorId)]
  rfl

theorem addPricing_cases (ids : Spellings id id') (sectorIds : Option.Rel Spellings sectorId sectorId')
    (served : (CatalogProc.addPricing (.findOwned user id { body with sectorId })).alone choices
      s.listing = some left)
    (served' : (CatalogProc.addPricing (.findOwned user id' { body with sectorId := sectorId' })).alone
      choices s.listing = some right) :
    (left = right ∧ (Fails ((if sectorId = none then 1 else 2) + 1) choices ∨ ∀ event,
      ownedEvent s.db.catalog.events id user = .ok event → ¬s.SectorFits event sectorId)) ∨
      ∃ event, ownedEvent s.db.catalog.events id user = .ok event ∧ s.SectorFits event sectorId ∧
        BothSave s.listing choices (if sectorId = none then 1 else 2) id id' body sectorId sectorId'
          left right := by
  have working {state : AddPricing} : ∀ reply, CatalogProc.addPricing state ≠ .done reply :=
    fun _ => CatalogProc.noConfusion
  cases owned : ownedEvent s.listing.catalog.events id user with
  | error failure =>
    have owned' := (ownedEvent_congr ids).symm.trans owned
    have looked := look (fun _ => True) (fun _ => False) (.done (.error failure))
      (.done (.error failure)) working working served served' fun c healthy => by
        simp only [CatalogProc.turn, if_neg healthy, Events.AddPricing.turn, owned, owned']
        exact .inl ⟨trivial, .error failure, rfl, rfl⟩
    obtain ⟨c, rest, rfl, ⟨same, -⟩ | ⟨-, never, -⟩⟩ := looked
    · refine .inl ⟨same, .inr fun event found => ?_⟩
      rw [show ownedEvent s.db.catalog.events id user = _ from owned] at found
      cases found
    · exact never.elim
  | ok event =>
    have owned' := (ownedEvent_congr ids).symm.trans owned
    cases sectorIds with
    | none =>
      have looked := look (fun _ => False) (fun _ => True)
        (.addPricing (.save id { body with sectorId := none }))
        (.addPricing (.save id' { body with sectorId := none })) working working served served'
        fun c healthy => by
          simp only [CatalogProc.turn, if_neg healthy, Events.AddPricing.turn, owned, owned']
          exact .inr ⟨trivial, rfl, rfl⟩
      obtain ⟨c, rest, rfl, ⟨same, failed | never⟩ | ⟨healthy, -, goes, goes'⟩⟩ := looked
      · exact .inl ⟨same, .inl ⟨c, by simp, failed⟩⟩
      · exact never.elim
      obtain ⟨d, more, rfl, ⟨same, failed⟩ | fine⟩ := makes_call working working goes goes'
      · exact .inl ⟨same, .inl ⟨d, by simp, failed⟩⟩
      · exact .inr ⟨event, owned, by simp [Site.SectorFits], d, more, rfl,
          by simp [Fails, healthy, fine], fine, goes, goes'⟩
    | @some typed typed' spelled =>
      have first := look (fun _ => False) (fun _ => True)
        (.addPricing (.findSector event id { body with sectorId := some typed } typed))
        (.addPricing (.findSector event id' { body with sectorId := some typed' } typed'))
        working working served served' fun c healthy => by
          simp only [CatalogProc.turn, if_neg healthy, Events.AddPricing.turn, owned, owned']
          exact .inr ⟨trivial, rfl, rfl⟩
      obtain ⟨c, rest, rfl, ⟨same, failed | never⟩ | ⟨healthy, -, goes, goes'⟩⟩ := first
      · exact .inl ⟨same, .inl ⟨c, by simp, failed⟩⟩
      · exact never.elim
      have second := look (fun _ => ¬s.SectorFits event (some typed))
        (fun _ => s.SectorFits event (some typed))
        (.addPricing (.save id { body with sectorId := some typed }))
        (.addPricing (.save id' { body with sectorId := some typed' })) working working goes goes'
        fun c healthy => by
          simp only [CatalogProc.turn, if_neg healthy, Events.AddPricing.turn, ← spelled.uuid?]
          obtain ⟨sectorId, named⟩ := Option.isSome_iff_exists.mp spelled.1
          simp only [named, sectorFits_some named]
          split
          · exact .inr ⟨by assumption, rfl, rfl⟩
          · exact .inl ⟨by assumption, _, rfl, rfl⟩
      obtain ⟨d, more, rfl, ⟨same, failed | foreign⟩ | ⟨healthy', fits, goes, goes'⟩⟩ := second
      · exact .inl ⟨same, .inl ⟨d, by simp, failed⟩⟩
      · refine .inl ⟨same, .inr fun other found => ?_⟩
        rw [← Except.ok.inj (owned.symm.trans found)]
        exact foreign
      obtain ⟨e, last, rfl, ⟨same, failed⟩ | fine⟩ := makes_call working working goes goes'
      · exact .inl ⟨same, .inl ⟨e, by simp, failed⟩⟩
      · exact .inr ⟨event, owned, fits, e, last, rfl, by simp [Fails, healthy, healthy', fine], fine,
          goes, goes'⟩

theorem alone_savePricing (healthy : ¬c.fault = true)
    (served : (CatalogProc.addPricing (.save id body)).alone (c :: rest) listing = some left) :
    (Amount.round? body.price = none ∧ left = (listing, .error .numericOverflow)) ∨
      ∃ new price, c.ids.head? = some new ∧ Amount.round? body.price = some price ∧
        left.1.venues = listing.venues ∧ left.1.catalog.events = listing.catalog.events ∧
        left.1.catalog.prices = listing.catalog.prices.attempt (newPricing new id body price) ∧
        (listing.catalog.prices.Clashes (newPricing new id body price) →
          left = (listing, .error .duplicateKey)) := by
  rw [alone_cons fun _ => CatalogProc.noConfusion] at served
  simp only [CatalogProc.turn, if_neg healthy, Events.AddPricing.turn] at served
  split at served
  swap
  · cases served
  rename_i new drawn
  split at served
  · rename_i overflow
    have ended : (listing, Reply.error .numericOverflow) = left := by
      simpa [afterOf, Listing.refuse, After.proc] using served
    exact .inl ⟨overflow, ended.symm⟩
  rename_i price rounded
  refine .inr ⟨new, price, by simp [drawn], rounded, ?_⟩
  split at served
  · rename_i prices inserted
    simp only [afterOf, Option.map_some, After.proc, Option.bind_some, alone_done,
      Option.some.injEq] at served
    subst served
    have stored := Table.attempt_of_insert? inserted
    have fits := Table.not_clashes_of_insert? inserted
    exact ⟨rfl, rfl, stored, fun clashes => absurd clashes fits⟩
  · rename_i refused
    have ended : (listing, Reply.error .duplicateKey) = left := by
      simpa [afterOf, Listing.refuse, After.proc] using served
    subst ended
    exact ⟨rfl, rfl, (Table.attempt_of_clashes (Table.insert?_singleton_eq_none.mp refused)).symm,
      fun _ => rfl⟩

theorem addPricing_iff {other : Site → β} (housed : s.Housed) (ids : Spellings id id')
    (sectorIds : Option.Rel Spellings sectorId sectorId') (organizer : organizes user = true)
    (served : (CatalogProc.addPricing (.findOwned user id { body with sectorId })).alone choices
      s.listing = some left)
    (served' : (CatalogProc.addPricing (.findOwned user id' { body with sectorId := sectorId' })).alone
      choices s.listing = some right) :
    Same cfg other (s.answered left) (s.answered right) ↔ s.Indifferent choices
      (.write (.addPricing user id { body with sectorId }))
      (.write (.addPricing user id' { body with sectorId := sectorId' })) := by
  rcases addPricing_cases ids sectorIds served served' with ⟨rfl, stuck⟩ |
    ⟨event, owned, fits, d, more, ahead, healthy, fine, goes, goes'⟩
  · exact iff_of_true same_refl (.inr (stuck.imp_right fun foreign event _ owned fits =>
      absurd fits (foreign event owned)))
  rcases alone_savePricing fine goes with ⟨overflow, rfl⟩ |
    ⟨new, price, drawn, rounded, venues, events, prices, refused⟩
  · rcases alone_savePricing fine goes' with ⟨-, rfl⟩ | ⟨-, price, -, rounded, -⟩
    · refine iff_of_true same_refl (.inr (.inr fun _ _ _ _ rounded => ?_))
      rw [overflow] at rounded
      cases rounded
    · rw [overflow] at rounded
      cases rounded
  rcases alone_savePricing fine goes' with ⟨overflow, -⟩ |
    ⟨new', price', drawn', rounded', venues', events', prices', refused'⟩
  · rw [overflow] at rounded
    cases rounded
  obtain rfl : new = new' := Option.some.inj (drawn.symm.trans drawn')
  obtain rfl : price = price' := Option.some.inj (rounded.symm.trans rounded')
  obtain ⟨venue, hosted⟩ : ∃ venue, venueOrFail s.listing.venues event.venueId = .ok venue :=
    housed.events event (ownedEvent_eq_ok.mp owned).1
  have at_saves : drawnAt (if sectorId = none then 1 else 2) choices = some new := by
    have here : choices[if sectorId = none then 1 else 2]? = some d := by
      rw [← Nat.add_zero (if sectorId = none then 1 else 2), ← List.getElem?_drop, ahead]
      rfl
    rw [drawnAt, here]
    exact drawn
  have owned' := (ownedEvent_congr ids).symm.trans owned
  have mine : ownedEvent (s.answered left).1.db.catalog.events id user = .ok event := events ▸ owned
  have mine' : ownedEvent (s.answered right).1.db.catalog.events id' user = .ok event :=
    events' ▸ owned'
  have known : venueOrFail (s.answered left).1.venues event.venueId = .ok venue :=
    (congrArg (venueOrFail · event.venueId) venues).trans hosted
  have known' : venueOrFail (s.answered right).1.venues event.venueId = .ok venue :=
    (congrArg (venueOrFail · event.venueId) venues').trans hosted
  have lengths {first second : Listing × Reply} : (s.answered first).1.procs.length =
      (s.answered second).1.procs.length := by simp [Site.answered]
  refine (same_iff_of_attempts (·.catalog.prices) (fun a => by simp [clash]) prices prices' ?_
    (fun stored absent => told_by_publishing organizer mine known lengths stored absent)
    (fun stored absent => told_by_publishing organizer mine' known' lengths stored absent)).trans ?_
  · rintro (equal | ⟨first, second⟩)
    · obtain rfl : id = id' := congrArg PricingCategory.eventId equal
      obtain rfl : sectorId = sectorId' := congrArg PricingCategory.sectorId equal
      exact Option.some.inj (served.symm.trans served')
    · rw [refused first, refused' second]
  constructor
  · rintro (equal | both)
    · exact .inl ⟨congrArg PricingCategory.eventId equal, congrArg PricingCategory.sectorId equal⟩
    · refine .inr (.inr fun _ other _ _ rounds => ⟨new, at_saves, ?_⟩)
      rw [← Option.some.inj (rounded.symm.trans rounds)]
      exact both
  · rintro (⟨rfl, equal⟩ | failed | clashes)
    · obtain rfl : sectorId = sectorId' := equal
      exact .inl rfl
    · exact absurd failed healthy
    · obtain ⟨other, drawnTwice, both⟩ := clashes event price owned fits rounded
      obtain rfl : new = other := Option.some.inj (at_saves.symm.trans drawnTwice)
      exact .inr both

end Pricing

/-! ## All seven calls -/

/-- A call under two spellings of its ids, served alone from any site that a run reaches:
the answers agree and the two sites stay alike exactly where the page finds nothing by
either spelling, or neither write goes through. -/
theorem respelled_iff {first second : CatalogCall} {left right : Site × Answer} (other : Site → β)
    (housed : listing.Housed) (run : Run (Site.step cfg) (.unbooked listing) ts s)
    (respelled : Respelled first second) (served : s.serve choices first = some left)
    (served' : s.serve choices second = some right) :
    Same cfg other left right ↔ s.Indifferent choices first second := by
  obtain ⟨sound, housed⟩ := housed_of_run housed run
  have answered {r : CatalogRequest} {outcome : Site × Answer}
      (served : s.serve choices (.write r) = some outcome) : r.accepted = true ∧
        ∃ answer, r.proc.alone choices s.listing = some answer ∧ outcome = s.answered answer := by
    simp only [Site.serve] at served
    split at served
    · obtain ⟨answer, alone, rfl⟩ := Option.map_eq_some_iff.mp served
      exact ⟨by assumption, answer, alone, rfl⟩
    · cases served
  have unchanged {answer answer' : Answer} :
      Same cfg other (s, answer) (s, answer') ↔ answer.folded = answer'.folded :=
    ⟨And.left, fun same => ⟨same, Alike.refl⟩⟩
  cases respelled
  case detail ids =>
    cases served
    cases served'
    exact unchanged.trans (detail_iff sound housed ids)
  case analytics ids =>
    cases served
    cases served'
    exact unchanged.trans (analytics_iff sound ids)
  case createSector ids =>
    obtain ⟨-, answer, alone, rfl⟩ := answered served
    obtain ⟨-, answer', alone', rfl⟩ := answered served'
    exact createSector_iff ids alone alone'
  case createEvent ids =>
    obtain ⟨accepted, answer, alone, rfl⟩ := answered served
    obtain ⟨-, answer', alone', rfl⟩ := answered served'
    exact createEvent_iff ids (Bool.and_eq_true_iff.mp accepted).1 alone alone'
  case addPricing ids sectorIds =>
    obtain ⟨accepted, answer, alone, rfl⟩ := answered served
    obtain ⟨-, answer', alone', rfl⟩ := answered served'
    exact addPricing_iff housed ids sectorIds (Bool.and_eq_true_iff.mp accepted).1 alone alone'
  case publish ids =>
    obtain ⟨-, answer, alone, rfl⟩ := answered served
    obtain ⟨-, answer', alone', rfl⟩ := answered served'
    exact publish_iff ids alone alone'

/-! ## Two spellings of `e…` -/

private theorem spelled_flat : Spellings (flatText 'e') (flatText 'E') := by
  constructor <;> decide +kernel

/-- A default price of 50 for the event of `setUp`. -/
def pricing (digit : Char) : CatalogCall :=
  .write (.addPricing organizer (flatText digit) ⟨none, ['p'], 50, none⟩)

def draws : List Choice := [{}, { ids := [flat 0xc] }]

private theorem house_enabled : (exec (Site.step sampleConfig) .empty setUp).isSome = true := by
  decide +kernel

private theorem priced_enabled (digit : Char) (typed : digit = 'e' ∨ digit = 'E') :
    ((launched setUp house_enabled).serve draws (pricing digit)).isSome = true := by
  rcases typed with rfl | rfl <;> decide +kernel

theorem respelled_iff_pricing :
    Same sampleConfig (fun _ => ())
        (((launched setUp house_enabled).serve draws (pricing 'e')).get
          (priced_enabled 'e' (.inl rfl)))
        (((launched setUp house_enabled).serve draws (pricing 'E')).get
          (priced_enabled 'E' (.inr rfl))) ↔
      (launched setUp house_enabled).Indifferent draws (pricing 'e') (pricing 'E') := by
  have run : Run (Site.step sampleConfig)
      (.unbooked ⟨⟨.empty, .empty, .empty, .empty⟩, .empty, fun _ => .blank⟩) _
      (launched setUp house_enabled) := run_replay house_enabled
  have housed : Listing.Housed ⟨⟨.empty, .empty, .empty, .empty⟩, .empty, fun _ => .blank⟩ :=
    fun _ member => absurd member List.not_mem_nil
  have calls : Respelled (pricing 'e') (pricing 'E') :=
    @Respelled.addPricing organizer _ _ ⟨none, ['p'], 50, none⟩ none none spelled_flat .none
  exact respelled_iff _ housed run calls (Option.some_get _).symm (Option.some_get _).symm

/-- The seats a page shows. -/
def Answer.seats : Answer → List (SeatState × Amount)
  | .page (.ok shown) => shown.inventory.map fun seat => (seat.state, seat.price)
  | _ => []

/-- One of the two seats is sold. Asked for in capitals, the page shows both as free, and
free of charge. -/
theorem respelled_differ : ¬∀ (ts : List (Transition Site Site.Action)) (s : Site)
    (choices : List Choice) (first second : CatalogCall) (left right : Site × Answer),
    Run (Site.step sampleConfig) .empty ts s → Respelled first second →
      s.serve choices first = some left → s.serve choices second = some right →
        Same sampleConfig (fun _ => ()) left right := by
  intro all
  have same := (all _ _ [] _ _ _ _ (run_replay soldOut_enabled) (@Respelled.detail 0 _ _ spelled_flat)
    rfl rfl).1
  have seats := congrArg Answer.seats same
  revert seats
  decide +kernel

end KiTicket
