import KiTicket.Lib.KeyStore
import KiTicket.Dto

/-! What all requests share: the database, Redis, the ids `randomUUID` has
handed out, and the events sent to the broker and to the sockets so far. A
request advances by turns, one per awaited call; between two turns any other
request may take any number of its own. -/
namespace KiTicket

/-- The environment variables the handlers read, with their defaults, and the
digest function tickets are looked up by. -/
structure Config where
  waitingRoomRequired : Bool := true
  lockTtlSeconds : Nat := 600
  initialAdmissions : Nat := 100
  admissionTtlSeconds : Nat := 900
  sha256Hex : Text → Text

inductive Failure where
  | conflict (message : String)
  | forbidden (message : String)
  | unauthorized (message : String)
  | notFound (message : String)
  /-- `findOneByOrFail` found nothing. -/
  | entityNotFound
  /-- Postgres 22P02: a string that is no uuid. -/
  | invalidUuid
  /-- Postgres 23505. -/
  | duplicateKey
  /-- Postgres 23502: null in a column that takes none. -/
  | notNull
  /-- Postgres 22003: a number too large for its column. -/
  | numericOverflow
  /-- A database or Redis call that failed for reasons of its own. -/
  | fault
  /-- The process died. -/
  | crash
deriving DecidableEq

inductive Topic where
  | seatStatusChanged | reservationCreated | reservationCancelled | reservationExpired
  | paymentStarted | paymentSucceeded | paymentFailed | ticketIssued
deriving DecidableEq

inductive Payload where
  | seats (eventId : Uuid) (seatIds : List Text) (state : SeatState)
  | reservation (reservation : Reservation)
  | payment (payment : Payment)
  | tickets (tickets : List Ticket)
  | ticketIds (ids : List Uuid)
deriving DecidableEq

inductive Emission where
  | emitUser (userId : Text) (topic : Topic) (payload : Payload)
  | emitEvent (eventId : Uuid) (topic : Topic) (payload : Payload)
  /-- `BrokerService.publish`; every payload carries the user id. -/
  | publish (topic : Topic) (payload : Payload) (userId : Text)
deriving DecidableEq

inductive Response where
  | reservation (reservation : Reservation)
  | payment (payment : Payment)
  | completed (payment : Payment) (reservation : Reservation) (tickets : List Ticket)
  /-- What `expire` returns to the timer. -/
  | swept (expired : Nat)
  | ticket (ticket : Ticket)
  | entry (entry : WaitingRoomEntry)
  | admitted (entries : List WaitingRoomEntry)
  | error (failure : Failure)
deriving DecidableEq

structure Server where
  db : Db
  /-- The keys `lock:event:…:seat:…`. -/
  locks : KeyStore Text Text
  /-- The keys `waiting:event:…:sequence`. -/
  counters : Text → Nat
  /-- Every id `randomUUID` has returned. -/
  drawn : List Uuid
  /-- Everything emitted and published, in order. -/
  log : List Emission

/-- What a turn does not decide itself: the clock its process reads, the ids and
random strings it draws, the order in which a query without `ORDER BY` returns
its rows, and whether its call fails. Nothing is assumed about the clocks of
different processes. -/
structure Choice where
  now : Nat := 0
  ids : List Uuid := []
  tokens : List Text := []
  order : List Uuid := []
  fault : Bool := false
deriving DecidableEq

/-- Where a request stands after a turn. -/
inductive Next (σ : Type) where
  | go (state : σ)
  | done (response : Response)

/-- A `pessimistic_write` lock on one row, held until the transaction ends. -/
inductive RowLock where
  | payment (id : Uuid)
  | reservation (id : Uuid)
deriving DecidableEq

/-- Answer with an error and change nothing. -/
def Server.refuse (server : Server) (failure : Failure) : Option (Server × Next σ) :=
  some (server, .done (.error failure))

/-- Go on without having changed anything. -/
def Server.stay (server : Server) (state : σ) : Option (Server × Next σ) :=
  some (server, .go state)

def Server.emit (server : Server) (emissions : List Emission) : Server :=
  { server with log := server.log ++ emissions }

end KiTicket
