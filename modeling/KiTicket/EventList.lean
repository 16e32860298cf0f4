import KiTicket.Lib.Paging
import KiTicket.Lib.Sql
import KiTicket.Site

/-! `GET /events`, the public list. It is read page by page, each page by queries of its own,
and sorted by a time that events may share. -/
namespace KiTicket
open Paging

/-! ## The columns the availability filter compares -/

namespace Schema

inductive TableName where
  | event | sector | seat | reservationSeat
deriving DecidableEq

inductive ColumnName where
  | id | venueId | sectorId | eventId | seatId
deriving DecidableEq

inductive ColumnType where
  | uuid | varchar
deriving DecidableEq

inductive Value where
  | uuid (id : Uuid)
  | varchar (text : Text)
deriving DecidableEq

/-- The names a query gives to tables. -/
inductive RangeName where
  | event | s | sec | rs
deriving DecidableEq

/-- A primary key is a `uuid`; a reference is a plain `@Column()` of a string. -/
def columnType : TableName → ColumnName → Option ColumnType
  | _, .id => some .uuid
  | .event, .venueId | .sector, .venueId | .seat, .sectorId => some .varchar
  | .reservationSeat, .eventId | .reservationSeat, .seatId => some .varchar
  | _, _ => none

abbrev schema : Sql.Schema where
  Table := TableName
  Column := ColumnName
  Name := RangeName
  Ty := ColumnType
  Value := Value
  columnType := columnType
  equates a b := a = b

instance : DecidableEq schema.Name := inferInstanceAs (DecidableEq RangeName)

instance : DecidableEq schema.Value := inferInstanceAs (DecidableEq Value)

def eventRow (event : Event) : Sql.Row schema
  | .id => Value.uuid event.id
  | .venueId => Value.varchar event.venueId
  | _ => Value.varchar []

def sectorRow (sector : Sector) : Sql.Row schema
  | .id => Value.uuid sector.id
  | .venueId => Value.varchar sector.venueId
  | _ => Value.varchar []

def seatRow (seat : Seat) : Sql.Row schema
  | .id => Value.uuid seat.id
  | .sectorId => Value.varchar seat.sectorId.text
  | _ => Value.varchar []

def reservationSeatRow (row : ReservationSeat) : Sql.Row schema
  | .id => Value.uuid row.id
  | .eventId => Value.varchar row.eventId.text
  | .seatId => Value.varchar row.seatId
  | _ => Value.varchar []

def rows (db : Db) : TableName → List (Sql.Row schema)
  | .event => db.catalog.events.rows.map eventRow
  | .sector => db.catalog.sectors.rows.map sectorRow
  | .seat => db.catalog.seats.rows.map seatRow
  | .reservationSeat => db.reservationSeats.rows.map reservationSeatRow

end Schema

/-- An event as a query loads it. -/
def Site.loaded (s : Site) (event : Event) : EventEntity := .of event (s.columns event.id)

theorem Site.loaded_injective (s : Site) : Function.Injective s.loaded := by
  intro event other same
  simp only [Site.loaded, EventEntity.of, EventEntity.mk.injEq, Option.some.injEq] at same
  cases event
  cases other
  simp_all

namespace Events
open Schema

/-- The condition `list` adds for `available`. -/
def hasFreeSeat : Sql.Condition schema :=
  .exists [(RangeName.s, TableName.seat), (RangeName.sec, TableName.sector)]
    (.and (.eq ⟨RangeName.sec, ColumnName.id⟩ ⟨RangeName.s, ColumnName.sectorId⟩)
      (.and (.eq ⟨RangeName.sec, ColumnName.venueId⟩ ⟨RangeName.event, ColumnName.venueId⟩)
        (.not (.exists [(RangeName.rs, TableName.reservationSeat)]
          (.and (.eq ⟨RangeName.rs, ColumnName.eventId⟩ ⟨RangeName.event, ColumnName.id⟩)
            (.eq ⟨RangeName.rs, ColumnName.seatId⟩ ⟨RangeName.s, ColumnName.id⟩))))))

/-! ## The handler -/

/-- The query string after its conversion. A time is what the database reads in the string,
in microseconds; `some none` is one it cannot read. -/
structure EventQueryDto where
  q : Option Text
  genre : Option Text
  city : Option Text
  «from» : Option Date
  «to» : Option Date
  available : Option Bool
  page : Nat
  limit : Nat
deriving DecidableEq

def EventQueryDto.accepted (query : EventQueryDto) : Bool :=
  query.q.all (fun q => decide (q.length ≤ 120)) && decide (1 ≤ query.page) &&
    decide (1 ≤ query.limit ∧ query.limit ≤ 100)

/-- `@Type(() => Boolean)`, of what the URL says. -/
def toBoolean (sent : Text) : Bool := !sent.isEmpty

structure EventPage where
  items : List EventEntity
  page : Nat
  limit : Nat
  total : Nat
  pages : Nat
deriving DecidableEq

/-- An order in which the database may return the rows a query selects. -/
abbrev RowOrder := (rows : List Event) → Arrangement Event.startsAt rows

namespace EventQueryDto
variable (ilike : Text → Text → Bool) (s : Site) (now : Nat) (query : EventQueryDto)

/-- The conditions that compare a column with a parameter; `ilike` is the operator of the
database. An empty string adds no condition. -/
def satisfies (event : Event) : Bool :=
  let columns := s.columns event.id
  let term (q : Text) : Text := '%' :: q ++ ['%']
  event.published && decide (now < event.startsAt) &&
    query.q.all (fun q => q.isEmpty || ilike columns.title (term q) ||
      ilike columns.description (term q) || ilike columns.tags (term q)) &&
    query.genre.all (fun genre => genre.isEmpty || columns.genre == genre) &&
    query.city.all (fun city => city.isEmpty || columns.city == city) &&
    (query.«from».bind id).all (fun time => decide (time ≤ 1000 * (event.startsAt : Int))) &&
    (query.«to».bind id).all fun time => decide (1000 * (event.startsAt : Int) ≤ time)

/-- The events of the unfiltered list. -/
def matching : List Event := s.db.catalog.events.rows.filter (query.satisfies ilike s now)

/-- The rows the query selects, or the error the database answers it with. -/
def select : Except Sql.Error (List Event) := do
  let selected ←
    if query.available = some true then
      Sql.select (Schema.rows s.db) TableName.event RangeName.event eventRow hasFreeSeat
        (query.matching ilike s now)
    else .ok (query.matching ilike s now)
  -- parameters are read when the analysis is done
  if query.«from» = some none ∨ query.«to» = some none then .error .invalidDatetime else .ok selected

/-- What `list` makes of the rows. -/
def respond (order : RowOrder) (rows : List Event) : EventPage where
  items := (Paging.page query.limit query.page (order rows).rows).map s.loaded
  page := query.page
  limit := query.limit
  total := rows.length
  pages := rows.length ⌈/⌉ query.limit

/-- `list`, its two queries made with nothing written in between. -/
def list (order : RowOrder) : Except Sql.Error EventPage :=
  (query.select ilike s now).map (query.respond s order)

/-! ## What is answered -/

/-- The query the database does not refuse. -/
def Answered : Prop := query.available ≠ some true ∧ query.«from» ≠ some none ∧ query.«to» ≠ some none

instance : Decidable query.Answered := by
  unfold Answered
  infer_instance

variable {ilike s now query}

/-- No `=` compares the id of a sector with what a seat refers to. -/
theorem check_hasFreeSeat : hasFreeSeat.check [(RangeName.event, TableName.event)] =
    .error .undefinedFunction := rfl

theorem select_of_available (filtered : query.available = some true) :
    query.select ilike s now = .error .undefinedFunction := by
  rw [select, if_pos filtered, Sql.select_of_check _ check_hasFreeSeat]
  rfl

theorem select_eq_ok {rows : List Event} :
    query.select ilike s now = .ok rows ↔ query.Answered ∧ query.matching ilike s now = rows := by
  by_cases filtered : query.available = some true
  · simp [select_of_available filtered, Answered, filtered]
  have unfiltered : query.select ilike s now =
      if query.«from» = some none ∨ query.«to» = some none then .error .invalidDatetime
      else .ok (query.matching ilike s now) := by
    rw [select, if_neg filtered]
    rfl
  rw [unfiltered]
  by_cases refused : query.«from» = some none ∨ query.«to» = some none
  · rw [if_pos refused]
    refine ⟨fun failed => (by cases failed), ?_⟩
    rintro ⟨⟨-, fromRead, toRead⟩, -⟩
    rcases refused with refused | refused
    · exact absurd refused fromRead
    · exact absurd refused toRead
  · rw [if_neg refused, Except.ok.injEq]
    obtain ⟨fromRead, toRead⟩ := not_or.mp refused
    exact ⟨fun same => ⟨⟨filtered, fromRead, toRead⟩, same⟩, And.right⟩

theorem list_eq_ok {order : RowOrder} {answer : EventPage} :
    query.list ilike s now order = .ok answer ↔
      query.Answered ∧ query.respond s order (query.matching ilike s now) = answer := by
  cases selected : query.select ilike s now with
  | error failure =>
    have refused : ¬ query.Answered := fun answered => by
      rw [select_eq_ok.mpr ⟨answered, rfl⟩] at selected
      cases selected
    simp [list, selected, refused, Except.map]
  | ok rows =>
    obtain ⟨answered, rfl⟩ := select_eq_ok.mp selected
    simp [list, selected, answered, Except.map]

/-! ## Reading all pages -/

/-- No event starts between two times. -/
def NoneStarts (s : Site) (now now' : Nat) : Prop :=
  ∀ event ∈ s.db.catalog.events.rows, now < event.startsAt ↔ now' < event.startsAt

theorem matching_of_noneStarts {now' : Nat} (quiet : NoneStarts s now now') :
    query.matching ilike s now' = query.matching ilike s now := by
  apply List.filter_congr
  intro event stored
  simp only [satisfies, quiet event stored]

theorem matching_nodup : (query.matching ilike s now).Nodup :=
  (s.db.catalog.events.unique.sublist List.filter_sublist).imp fun apart same => by
    simp [clash, same] at apart

/-- Reading the pages one after the other, each when and in the order it comes, returns
every matching event once, and the pages that are not empty are as many as every answer
says. -/
def PagesPartition (ilike : Text → Text → Bool) (s : Site) (now : Nat) (query : EventQueryDto) :
    Prop :=
  ∀ (times : Nat → Nat) (orders : Nat → RowOrder), (∀ number, NoneStarts s now (times number)) →
    ∃ (answers : Nat → EventPage) (pages : Nat),
      (∀ number, 1 ≤ number →
        list ilike s (times number) { query with page := number } (orders number) =
          .ok (answers number) ∧
        (answers number).pages = pages ∧ ((answers number).items ≠ [] ↔ number ≤ pages)) ∧
      ((List.range' 1 pages).flatMap fun number => (answers number).items).Perm
        ((query.matching ilike s now).map s.loaded)

theorem flatMap_items {rows : List Event} {orders : Nat → Arrangement Event.startsAt rows}
    {answers : Nat → EventPage} {n : Nat}
    (items : ∀ number, 1 ≤ number →
      (answers number).items = (Paging.page query.limit number (orders number).rows).map s.loaded) :
    (List.range' 1 n).flatMap (fun number => (answers number).items) =
      (upTo query.limit n orders).map s.loaded := by
  rw [upTo, List.map_flatMap]
  refine List.flatMap_congr fun number member => items number ?_
  exact (List.mem_range'_1.mp member).1

/-- A partition is an answer to every choice of orders. -/
theorem answered_of_partition (partition : PagesPartition ilike s now query) : query.Answered ∧
    ∀ orders : Nat → Arrangement Event.startsAt (query.matching ilike s now),
      (upTo query.limit ((query.matching ilike s now).length ⌈/⌉ query.limit) orders).Perm
        (query.matching ilike s now) := by
  obtain ⟨_, _, each, -⟩ := partition (fun _ => now) (fun _ rows => arrange Event.startsAt rows)
    fun _ _ _ => Iff.rfl
  have answered : query.Answered := (list_eq_ok.mp (each 1 le_rfl).1).1
  refine ⟨answered, fun orders => ?_⟩
  let rowOrders : Nat → RowOrder := fun number rows =>
    if same : query.matching ilike s now = rows then same ▸ orders number
    else arrange Event.startsAt rows
  have chosen (number : Nat) : rowOrders number (query.matching ilike s now) = orders number :=
    dif_pos rfl
  obtain ⟨answers, pages, each, complete⟩ := partition (fun _ => now) rowOrders fun _ _ _ => Iff.rfl
  have given (number : Nat) (numbered : 1 ≤ number) : answers number =
      { query with page := number }.respond s (rowOrders number) (query.matching ilike s now) :=
    (list_eq_ok.mp (each number numbered).1).2.symm
  have counted : pages = (query.matching ilike s now).length ⌈/⌉ query.limit := by
    rw [← (each 1 le_rfl).2.1, given 1 le_rfl]
    rfl
  have items (number : Nat) (numbered : 1 ≤ number) : (answers number).items =
      (Paging.page query.limit number (orders number).rows).map s.loaded := by
    rw [given number numbered, ← chosen number]
    rfl
  rw [flatMap_items items, counted] at complete
  exact (List.map_perm_map_iff s.loaded_injective).mp complete

theorem limit_pos (accepted : query.accepted = true) : 0 < query.limit := by
  simp only [EventQueryDto.accepted, Bool.and_eq_true, decide_eq_true_eq] at accepted
  omega

/-- The pages fit together exactly when the database answers the query and no events with
the same time are on both sides of the end of a page. -/
theorem pages_partition_iff (accepted : query.accepted = true) :
    PagesPartition ilike s now query ↔ query.Answered ∧
      ∀ k, ¬ Straddles Event.startsAt (query.matching ilike s now) (k * query.limit) := by
  have pos : 0 < query.limit := limit_pos accepted
  constructor
  · intro partition
    obtain ⟨answered, complete⟩ := answered_of_partition partition
    exact ⟨answered, (upTo_perm_iff matching_nodup pos).mp complete⟩
  · rintro ⟨answered, uncut⟩ times orders quiet
    have complete := (upTo_perm_iff matching_nodup pos).mpr uncut
    refine ⟨fun number => { query with page := number }.respond s (orders number)
      (query.matching ilike s now), (query.matching ilike s now).length ⌈/⌉ query.limit,
      fun number numbered => ⟨list_eq_ok.mpr ⟨answered, ?_⟩, rfl, ?_⟩, ?_⟩
    · exact congrArg (respond s _ (orders number)) (matching_of_noneStarts (quiet number))
    · simp only [respond, ne_eq, List.map_eq_nil_iff]
      rw [← ne_eq, page_ne_nil_iff pos numbered, Arrangement.length_rows]
    · rw [flatMap_items fun _ _ => rfl]
      exact (complete _).map s.loaded

end EventQueryDto

/-- Two published events. -/
def twoEvents (startsAt startsAt' : Nat) : Site where
  world := initial { sampleCatalog with
    events := ⟨[⟨flat 1, ['o'], ['v'], startsAt, true⟩, ⟨flat 2, ['o'], ['v'], startsAt', true⟩], by
      have apart : flat 1 ≠ flat 2 := by decide +kernel
      simp [clash, apart]⟩ }
  venues := .empty
  columns _ := .blank
  procs := []

/-- No filter, and one event to a page. -/
def oneByOne : EventQueryDto := ⟨none, none, none, none, none, none, 1, 1⟩

theorem pages_partition_iff_apart :
    EventQueryDto.PagesPartition (fun text term => text == term) (twoEvents 10 20) 0 oneByOne := by
  refine (EventQueryDto.pages_partition_iff (by decide)).mpr ⟨by decide, fun k cut => ?_⟩
  have bound : k * 1 < 2 := cut.lt_length
  obtain rfl | rfl : k = 0 ∨ k = 1 := by omega
  · exact absurd cut (by decide +kernel)
  · exact absurd cut (by decide +kernel)

/-- Of two events at the same time the same one can come on both pages. -/
theorem event_listed_twice :
    ¬ EventQueryDto.PagesPartition (fun text term => text == term) (twoEvents 10 10) 0 oneByOne := by
  intro partition
  have complete := (EventQueryDto.answered_of_partition partition).2
  exact (upTo_perm_iff EventQueryDto.matching_nodup Nat.one_pos).mp complete 1 (by decide +kernel)

end Events
end KiTicket
