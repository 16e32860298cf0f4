import KiTicket.EventList

/-! The `available` filter of the public list against the availability of the event page.
Whatever the URL says for `available` becomes true, unless it says nothing, and the
condition that is then added compares columns of different types. -/
namespace KiTicket.Events
open Paging

variable {ilike : Text → Text → Bool} {s : Site} {now : Nat} {query : EventQueryDto}
  {order : RowOrder}

/-- Whether the page of an event shows a free seat. -/
def showsFreeSeat (s : Site) (now : Nat) (event : Event) : Bool :=
  match detail s.venues s.db now event.id.text with
  | .error _ => false
  | .ok shown => decide (0 < shown.availability)

namespace EventQueryDto

/-- The same request with `available=...` in its URL. -/
def asking (query : EventQueryDto) (sent : Text) : EventQueryDto :=
  { query with available := some (toBoolean sent) }

def unfiltered (query : EventQueryDto) : EventQueryDto := { query with available := none }

/-- With `available=true` the list is what the unfiltered one has of events that show a
free seat. -/
def TrueSelectsFree (ilike : Text → Text → Bool) (s : Site) (now : Nat) (query : EventQueryDto) : Prop :=
  ∀ order, ∃ rows order', query.unfiltered.select ilike s now = .ok rows ∧
    (query.asking ['t', 'r', 'u', 'e']).list ilike s now order =
      .ok (query.respond s order' (rows.filter (showsFreeSeat s now)))

/-- With `available=false` the list is the unfiltered one. -/
def FalseSelectsAll (ilike : Text → Text → Bool) (s : Site) (now : Nat) (query : EventQueryDto) : Prop :=
  ∀ order, ∃ rows order', query.unfiltered.select ilike s now = .ok rows ∧
    (query.asking ['f', 'a', 'l', 's', 'e']).list ilike s now order =
      .ok (query.respond s order' rows)

/-- What is said is taken for true, and then the database refuses the query. -/
theorem list_asking {sent : Text} (said : sent ≠ []) :
    (query.asking sent).list ilike s now order = .error .undefinedFunction := by
  have filtered : (query.asking sent).available = some true := by
    cases sent with
    | nil => exact absurd rfl said
    | cons => rfl
  rw [list, select_of_available filtered]
  rfl

theorem list_asking_ne_ok {sent : Text} (said : sent ≠ []) {answer : EventPage} :
    (query.asking sent).list ilike s now order ≠ .ok answer := by
  rw [list_asking said]
  intro same
  cases same

/-- Saying nothing is the same as not asking. -/
theorem list_asking_nil :
    (query.asking []).list ilike s now order = query.unfiltered.list ilike s now order := rfl

/-- The filter agrees with the event page in no state. -/
theorem filter_never_agrees :
    ¬ TrueSelectsFree ilike s now query ∧ ¬ FalseSelectsAll ilike s now query := by
  constructor <;> intro agrees
  · obtain ⟨rows, order, -, answer⟩ := agrees fun rows => arrange Event.startsAt rows
    exact list_asking_ne_ok (List.cons_ne_nil _ _) answer
  · obtain ⟨rows, order, -, answer⟩ := agrees fun rows => arrange Event.startsAt rows
    exact list_asking_ne_ok (List.cons_ne_nil _ _) answer

end EventQueryDto

/-- One event in a venue with one seat. -/
def oneFreeSeat : Site where
  world := initial { sampleCatalog with
    events := ⟨[⟨flat 1, ['o'], (flat 2).text, 10, true⟩], by simp⟩
    sectors := ⟨[⟨flat 3, (flat 2).text, ['s']⟩], by simp⟩
    seats := ⟨[⟨flat 4, flat 3, ['A'], 1, false⟩], by simp⟩ }
  venues := ⟨[⟨flat 2, ['v'], ['c'], []⟩], by simp⟩
  columns _ := .blank
  procs := []

/-- The list without the filter shows the event, its page has a free seat, and with the
filter it is not listed. -/
theorem free_seat_not_listed :
    (oneByOne.matching (fun text term => text == term) oneFreeSeat 0).map
        (showsFreeSeat oneFreeSeat 0) = [true] ∧
      ¬ oneByOne.TrueSelectsFree (fun text term => text == term) oneFreeSeat 0 := by
  refine ⟨by decide +kernel, fun agrees => ?_⟩
  obtain ⟨rows, order, -, answer⟩ := agrees fun rows => arrange Event.startsAt rows
  exact EventQueryDto.list_asking_ne_ok (List.cons_ne_nil _ _) answer

end KiTicket.Events
