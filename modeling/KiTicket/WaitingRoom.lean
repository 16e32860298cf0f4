import Mathlib.Data.List.MinMax
import Mathlib.Data.List.Sort
import KiTicket.Server

/-! `waiting-room.controller.ts`. A join draws a position from the event's Redis
counter and is admitted on the spot while the position is within the initial
capacity; an administrator admits queued entries in batches. The event id of a
join is the path string, in the lookup of the event, in the counter's key and in
the stored entry alike. -/
namespace KiTicket.WaitingRoom

/-- `WaitingRoomService.assertAdmission` -/
def assertAdmission (cfg : Config) (entries : List WaitingRoomEntry) (now : Nat)
    (eventId userId : Text) (token : Option Text) : Except Failure Unit :=
  if cfg.waitingRoomRequired = false then .ok ()
  else
    match token with
    | none | some [] => .error (.forbidden "Waiting-room admission token is required")
    | some token =>
      let entry := entries.find? fun entry => entry.eventId = eventId ∧ entry.userId = userId ∧
        entry.admissionToken = some token ∧ entry.state = .admitted
      match entry.bind WaitingRoomEntry.tokenExpiresAt with
      | none => .error (.forbidden "Admission token is invalid or expired")
      | some expiresAt =>
        if expiresAt ≤ now then .error (.forbidden "Admission token is invalid or expired")
        else .ok ()

/-- `waiting:event:${eventId}:sequence` -/
def sequenceKey (eventId : Text) : Text :=
  ['w', 'a', 'i', 't', 'i', 'n', 'g', ':', 'e', 'v', 'e', 'n', 't', ':'] ++ eventId ++
    [':', 's', 'e', 'q', 'u', 'e', 'n', 'c', 'e']

/-- The published event an id names. -/
def findPublished (db : Db) (id : Uuid) : Option Event :=
  db.catalog.events.rows.find? fun event => event.id = id ∧ event.published

/-- The user's newest queued or admitted entry for the event. -/
def newestActive (entries : List WaitingRoomEntry) (eventId userId : Text) :
    Option WaitingRoomEntry :=
  (entries.filter fun entry => entry.eventId = eventId ∧ entry.userId = userId ∧
    (entry.state = .queued ∨ entry.state = .admitted)).argmax WaitingRoomEntry.createdAt

/-- `POST /waiting-room/:eventId/join`, by the call it is about to await. -/
inductive Join where
  | findEvent (user : AuthenticatedUser) (eventId : Text)
  | findActive (user : AuthenticatedUser) (eventId : Text)
  | incr (user : AuthenticatedUser) (eventId : Text)
  | save (user : AuthenticatedUser) (eventId : Text) (position : Nat)
deriving DecidableEq

/-- The entry `join` saves. `position <= immediateCapacity` alone decides
whether it starts out admitted. -/
def newEntry (cfg : Config) (now : Nat) (id : Uuid) (eventId userId : Text) (position : Nat)
    (token : Text) : WaitingRoomEntry :=
  if position ≤ cfg.initialAdmissions then
    ⟨id, eventId, userId, position, .admitted, some token,
      some (now + cfg.admissionTtlSeconds * 1000), now⟩
  else ⟨id, eventId, userId, position, .queued, none, none, now⟩

def Join.turn (cfg : Config) (c : Choice) (server : Server) :
    Join → Option (Server × Next Join)
  | .findEvent user eventId =>
    match uuid? eventId with
    | none => server.refuse .invalidUuid
    | some id =>
      match findPublished server.db id with
      | none => server.refuse (.conflict "Event is unavailable")
      | some event =>
        if event.startsAt ≤ c.now then server.refuse (.conflict "Event is unavailable")
        else server.stay (.findActive user eventId)
  | .findActive user eventId =>
    match newestActive server.db.entries.rows eventId user.sub with
    | none => server.stay (.incr user eventId)
    | some active =>
      if active.tokenExpiresAt.all fun expiresAt => decide (c.now < expiresAt) then
        some (server, .done (.entry active))
      else server.stay (.incr user eventId)
  | .incr user eventId =>
    let position := server.counters (sequenceKey eventId) + 1
    some ({ server with
        counters := Function.update server.counters (sequenceKey eventId) position },
      .go (.save user eventId position))
  | .save user eventId position =>
    match c.ids, c.tokens with
    | [id], [token] =>
      let entry := newEntry cfg c.now id eventId user.sub position token
      match server.db.entries.insert? [entry] with
      | none => server.refuse .duplicateKey
      | some entries =>
        some ({ server with db := { server.db with entries } }, .done (.entry entry))
    | _, _ => none

/-- `GET /waiting-room/:id`. One query, so a function of the database it reads. -/
def status (db : Db) (user : AuthenticatedUser) (id : Text) : Except Failure WaitingRoomEntry :=
  match uuid? id with
  | none => .error .invalidUuid
  | some id =>
    match db.entries.rows.find? (·.id = id) with
    | none => .error (.notFound "Waiting-room entry not found")
    | some entry =>
      if entry.userId ≠ user.sub ∧ user.role ≠ .admin then .error (.forbidden "Forbidden")
      else .ok entry

/-- `POST /waiting-room/:eventId/admit` -/
inductive Admit where
  | findQueued (eventId : Text) (body : AdmitUsersDto)
  | save (queued : List WaitingRoomEntry)
deriving DecidableEq

/-- The row `save` writes for a loaded entry: it is looked up again by id, and
the columns `Object.assign` set are written over what it holds by then. -/
def admitRow (queued : List WaitingRoomEntry) (row : WaitingRoomEntry) : WaitingRoomEntry :=
  match queued.find? (·.id = row.id) with
  | none => row
  | some entry =>
    { row with
      state := entry.state
      admissionToken := entry.admissionToken
      tokenExpiresAt := entry.tokenExpiresAt }

/-- `Object.assign(entry, { state: ADMITTED, ...this.tokenFields() })` -/
def grant (cfg : Config) (now : Nat) (entry : WaitingRoomEntry) (token : Text) :
    WaitingRoomEntry :=
  { entry with
    state := .admitted
    admissionToken := some token
    tokenExpiresAt := some (now + cfg.admissionTtlSeconds * 1000) }

def Admit.turn (cfg : Config) (c : Choice) (server : Server) :
    Admit → Option (Server × Next Admit)
  | .findQueued eventId body =>
    let queued := ((server.db.entries.rows.filter fun entry =>
      entry.eventId = eventId ∧ entry.state = .queued).insertionSort
        (·.position ≤ ·.position)).take body.count
    if c.tokens.length = queued.length then
      server.stay (.save (List.zipWith (grant cfg c.now) queued c.tokens))
    else none
  | .save queued =>
    let rows := server.db.entries.rows.map (admitRow queued)
    if unique : rows.Pairwise fun a b => clash a b = false then
      some ({ server with db := { server.db with entries := ⟨rows, unique⟩ } },
        .done (.admitted queued))
    else server.refuse .duplicateKey

end KiTicket.WaitingRoom
