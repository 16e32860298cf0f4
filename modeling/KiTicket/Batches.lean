import Mathlib.Data.List.TakeWhile
import KiTicket.Sweeps

/-! One expiry sweep by itself, its calls failing as they please. A release that fails
is logged and the sweep goes on; a transaction that fails ends it, and the rest of
the batch stays as it was. -/
namespace KiTicket
open Reservations KiTicket.Lists

variable {cfg : Config} {server server' : Server} {rest batch : List Reservation} {db : Db}
  {now expired fuel : Nat} {order : List Uuid} {c : Choice}

/-- The reservations whose transaction fails, and those whose locks cannot be released. -/
structure Failing where
  transaction : Uuid → Bool
  release : Uuid → Bool

def Failing.never : Failing := ⟨fun _ => false, fun _ => false⟩

variable {failing : Failing}

/-- Whether the call a sweep is about to make fails. -/
def Failing.hits (failing : Failing) : Expire → Bool
  | .getMany | .findSeats _ _ _ => false
  | .commit reservation _ _ _ => failing.transaction reservation.id
  | .release reservation _ _ _ => failing.release reservation.id

/-- Turn after turn until the call returns, nobody else at work. -/
def Expire.settle (failing : Failing) (c : Choice) :
    Nat → Option (Server × Next Expire) → Option (Server × Response)
  | _, none => none
  | _, some (server, .done response) => some (server, response)
  | 0, some (_, .go _) => none
  | fuel + 1, some (server, .go state) =>
    settle failing c fuel (if failing.hits state then state.fault server else state.turn c [] server)

/-- One call of `expire`; three turns for each reservation of its batch. -/
def sweep (failing : Failing) (server : Server) (now : Nat) (order : List Uuid) :
    Option (Server × Response) :=
  Expire.settle failing { now, order } (3 * order.length)
    (Expire.turn { now, order } [] server .getMany)

/-- The booking after its reservation has expired. -/
def Booking.lapsed (b : Booking) : Booking :=
  { b with reservation := b.reservation.map fun r => { r with state := .expired }, seats := [] }

/-- The part of a batch a sweep gets done: up to the first transaction that fails. -/
def Failing.done (failing : Failing) (batch : List Reservation) : List Reservation :=
  batch.takeWhile fun r => !failing.transaction r.id

/-! ## The loop -/

/-- The three turns of a reservation whose transaction goes through. -/
theorem settle_reservation {r : Reservation} (rest : List Reservation) (expired fuel : Nat)
    (goes : failing.transaction r.id = false)
    (stored : (server.db.booking r.id).reservation = some r) (pending : r.state = .pending) :
    ∃ server₁, (∀ id, server₁.db.booking id =
        if id = r.id then (server.db.booking id).lapsed else server.db.booking id) ∧
      Expire.settle failing c (fuel + 3) (Expire.loop server expired (r :: rest)) =
        Expire.settle failing c fuel (Expire.loop server₁ (expired + 1) rest) := by
  have found : (findReservation server.db r.id).any (·.state = .pending) = true := by
    rw [findReservation_eq, stored, Option.any_some, pending]
    rfl
  have ended (id : Uuid) : (removeSeats (setState server.db r.id .expired)
      (server.db.booking r.id).seats).booking id =
        if id = r.id then (server.db.booking id).lapsed else server.db.booking id := booking_end
  have committed : Expire.settle failing c (fuel + 3) (Expire.loop server expired (r :: rest)) =
      Expire.settle failing c (fuel + 1) (some ({ server with
        db := removeSeats (setState server.db r.id .expired) (server.db.booking r.id).seats },
        .go (.release r (server.db.booking r.id).seats rest (expired + 1)))) := by
    simp only [Expire.loop, Server.stay, Expire.settle, Failing.hits, goes, Bool.false_eq_true,
      if_false, Expire.turn, found, if_true, List.not_mem_nil]
    rfl
  rw [committed, Expire.settle]
  split
  · exact ⟨_, ended, rfl⟩
  · exact ⟨_, ended, rfl⟩

/-- A transaction that fails ends the call. -/
theorem settle_failure {r : Reservation} (fails : failing.transaction r.id = true) :
    Expire.settle failing c (fuel + 2) (Expire.loop server expired (r :: rest)) =
      some (server, .error .fault) := by
  simp only [Expire.loop, Server.stay, Expire.settle, Failing.hits, fails, Bool.false_eq_true,
    if_false, Expire.turn, if_true, Expire.fault, Server.refuse]

/-- What a sweep makes of its batch: the front is done and counted, the rest is left. -/
theorem settle_loop (distinct : (rest.map Reservation.id).Nodup)
    (stored : ∀ r ∈ rest, (server.db.booking r.id).reservation = some r)
    (pending : ∀ r ∈ rest, r.state = .pending) :
    ∃ server' response,
      Expire.settle failing c (3 * rest.length) (Expire.loop server expired rest) =
        some (server', response) ∧
      (∀ id, server'.db.booking id =
        if id ∈ (failing.done rest).map Reservation.id then (server.db.booking id).lapsed
        else server.db.booking id) ∧
      ((∀ r ∈ rest, failing.transaction r.id = false) →
        response = .swept (expired + rest.length)) := by
  induction rest generalizing server expired with
  | nil => exact ⟨server, .swept expired, rfl, fun _ => rfl, fun _ => rfl⟩
  | cons r rest ih =>
    obtain ⟨new, distinct⟩ := List.nodup_cons.mp distinct
    cases goes : failing.transaction r.id with
    | true =>
      refine ⟨server, _, settle_failure goes, fun id => ?_, fun never => ?_⟩
      · simp [Failing.done, goes]
      · rw [never r List.mem_cons_self] at goes
        cases goes
    | false =>
      obtain ⟨server₁, bookings, continues⟩ := settle_reservation (c := c) rest expired
        (3 * rest.length) goes (stored r List.mem_cons_self) (pending r List.mem_cons_self)
      have apart : ∀ other ∈ rest, other.id ≠ r.id := fun other member same =>
        new (same ▸ List.mem_map_of_mem member)
      obtain ⟨server', response, settles, after, counts⟩ := @ih server₁ (expired + 1) distinct
        (fun other member => by
          rw [bookings, if_neg (apart other member)]
          exact stored other (List.mem_cons_of_mem r member))
        fun other member => pending other (List.mem_cons_of_mem r member)
      have front : failing.done (r :: rest) = r :: failing.done rest := by
        simp [Failing.done, goes]
      refine ⟨server', response, continues.trans settles, fun id => ?_, fun never => ?_⟩
      · rw [after, bookings, front]
        simp only [List.map_cons, List.mem_cons]
        by_cases same : id = r.id
        · have later : id ∉ (failing.done rest).map Reservation.id := fun member => by
            obtain ⟨other, done, rfl⟩ := List.mem_map.mp member
            exact apart other ((List.takeWhile_sublist _).subset done) same
          rw [if_neg later, if_pos same, if_pos (.inl same)]
        · simp only [same, if_false, false_or]
      · rw [counts fun other member => never other (List.mem_cons_of_mem r member),
          List.length_cons, Nat.add_assoc, Nat.add_comm 1]

/-! ## The batch -/

/-- A batch is a part of what is stale, without repetition and as large as may be. -/
theorem getStale_spec (found : getStale db now order = some batch) :
    (batch.map Reservation.id).Nodup ∧ (∀ r ∈ batch, r ∈ stale db now) ∧
      batch.length = min 100 (stale db now).length ∧ order.length = batch.length := by
  unfold getStale at found
  split at found
  case isFalse => cases found
  case isTrue valid =>
    have ids : batch.map Reservation.id = order :=
      map_of_mapM (fun id r hit => by simpa using List.find?_some hit) found
    have size : order.length = batch.length := by rw [← ids, List.length_map]
    refine ⟨ids ▸ valid.1, fun r member => ?_, size ▸ valid.2, size⟩
    obtain ⟨id, -, hit⟩ := exists_of_mem_right (forall₂_of_mapM found) member
    exact List.mem_of_find?_eq_some hit

theorem stale_ids_nodup (db : Db) (now : Nat) : ((stale db now).map Reservation.id).Nodup := by
  refine List.pairwise_map.mpr ((db.reservations.unique.sublist List.filter_sublist).imp ?_)
  intro a b apart same
  simp [clash, same] at apart

/-- There is a batch, whatever is stored. -/
theorem exists_getStale (db : Db) (now : Nat) :
    ∃ order batch, getStale db now order = some batch := by
  refine ⟨((stale db now).take 100).map Reservation.id, (stale db now).take 100, ?_⟩
  rw [getStale, if_pos]
  · apply mapM_map
    exact fun r member => find?_key (stale_ids_nodup db now) (List.mem_of_mem_take member)
  · rw [List.length_map, List.length_take]
    exact ⟨(stale_ids_nodup db now).sublist ((List.take_sublist _ _).map _), rfl⟩

/-! ## One call and several -/

/-- The reservation has expired and nothing of it is left on the seats. -/
def Db.Expired (db : Db) (id : Uuid) : Prop :=
  (∃ r ∈ db.reservations.rows, r.id = id ∧ r.state = .expired) ∧
    ∀ row ∈ db.reservationSeats.rows, row.reservationId ≠ id

theorem expired_of_lapsed {r : Reservation} {b : Booking} (stored : b.reservation = some r)
    (lapsed : db.booking r.id = b.lapsed) : db.Expired r.id := by
  constructor
  · have found : (db.booking r.id).reservation = some { r with state := .expired } := by
      rw [lapsed, Booking.lapsed, stored]
      rfl
    obtain ⟨member, named⟩ := booking_reservation_eq_some.mp found
    exact ⟨_, member, named, rfl⟩
  · intro row member mine
    have held : row ∈ (db.booking r.id).seats := mem_booking_seats.mpr ⟨member, mine⟩
    rw [lapsed] at held
    cases held

theorem not_expired_of_pending {r : Reservation} (stored : (db.booking r.id).reservation = some r)
    (pending : r.state = .pending) : ¬ db.Expired r.id := by
  rintro ⟨⟨other, member, named, ended⟩, -⟩
  have found := booking_reservation_eq_some.mpr ⟨member, named⟩
  rw [stored, Option.some.injEq] at found
  subst found
  rw [pending] at ended
  cases ended

/-- What one call leaves, whatever fails. -/
theorem sweep_spec (failing : Failing) (found : getStale server.db now order = some batch) :
    ∃ server' response, sweep failing server now order = some (server', response) ∧
      (∀ id, server'.db.booking id =
        if id ∈ (failing.done batch).map Reservation.id then (server.db.booking id).lapsed
        else server.db.booking id) ∧
      ((∀ r ∈ batch, failing.transaction r.id = false) → response = .swept batch.length) := by
  obtain ⟨distinct, selected, -, size⟩ := getStale_spec found
  have chosen : ∀ r ∈ batch, r ∈ server.db.reservations.rows ∧ r.state = .pending := by
    intro r member
    obtain ⟨stored, open'⟩ := List.mem_filter.mp (selected r member)
    exact ⟨stored, (of_decide_eq_true open').1⟩
  obtain ⟨server', response, settles, after, counts⟩ := @settle_loop server batch 0
    { now, order } failing distinct
    (fun r member => booking_reservation_eq_some.mpr ⟨(chosen r member).1, rfl⟩)
    fun r member => (chosen r member).2
  refine ⟨server', response, ?_, after, fun never => ?_⟩
  · rw [sweep, size]
    simp only [Expire.turn, found, Option.bind_some]
    exact settles
  · rw [counts never, Nat.zero_add]

/-- Several calls in which nothing fails, one after the other. -/
def sweeps (server : Server) : List (Nat × List Uuid) → Option (Server × List Response)
  | [] => some (server, [])
  | (now, order) :: calls => do
    let (server', response) ← sweep .never server now order
    let (last, responses) ← sweeps server' calls
    some (last, response :: responses)

/-- No reservation falls due between the two readings of the clock. -/
def SameDue (db : Db) (now now' : Nat) : Prop :=
  ∀ r ∈ db.reservations.rows, r.state = .pending → (r.expiresAt ≤ now' ↔ r.expiresAt ≤ now)

theorem mem_stale {r : Reservation} : r ∈ stale db now ↔
    (db.booking r.id).reservation = some r ∧ r.state = .pending ∧ r.expiresAt ≤ now := by
  rw [stale, List.mem_filter, decide_eq_true_eq, booking_reservation_eq_some]
  simp

theorem stale_eq_of_sameDue {now' : Nat} (same : SameDue db now now') :
    stale db now' = stale db now := by
  apply List.filter_congr
  intro r member
  by_cases pending : r.state = .pending
  · simp [pending, same r member pending]
  · simp [pending]

/-- Every booking is as it was or has lapsed. -/
def Lapses (db db' : Db) : Prop :=
  ∀ id, db'.booking id = db.booking id ∨ db'.booking id = (db.booking id).lapsed

theorem Booking.lapsed_lapsed (b : Booking) : b.lapsed.lapsed = b.lapsed := by
  simp [Booking.lapsed, Function.comp_def]

theorem Lapses.trans {db' db'' : Db} (first : Lapses db db') (second : Lapses db' db'') :
    Lapses db db'' := by
  intro id
  rcases second id with same | lapsed
  · exact same ▸ first id
  · rcases first id with same | lapsed'
    · exact .inr (same ▸ lapsed)
    · exact .inr (lapsed.trans (by rw [lapsed', Booking.lapsed_lapsed]))

/-- A row that is PENDING afterwards was there before. -/
theorem Lapses.pending {db' : Db} (lapses : Lapses db db') {r : Reservation}
    (stored : (db'.booking r.id).reservation = some r) (pending : r.state = .pending) :
    (db.booking r.id).reservation = some r := by
  rcases lapses r.id with same | lapsed
  · rwa [same] at stored
  · rw [lapsed] at stored
    obtain ⟨old, -, rfl⟩ := Option.map_eq_some_iff.mp stored
    cases pending

theorem SameDue.lapses {db' : Db} {now' : Nat} (same : SameDue db now now')
    (lapses : Lapses db db') : SameDue db' now now' := by
  intro r member pending
  have stored := lapses.pending (booking_reservation_eq_some.mpr ⟨member, rfl⟩) pending
  exact same r (booking_reservation_eq_some.mp stored).1 pending

/-- A call in which nothing fails takes its batch off what is stale. -/
theorem sweep_never (found : getStale server.db now order = some batch) :
    ∃ server', sweep .never server now order =
        some (server', .swept (min 100 (stale server.db now).length)) ∧
      Lapses server.db server'.db ∧
      (stale server'.db now).length = (stale server.db now).length - 100 := by
  obtain ⟨distinct, selected, size, -⟩ := getStale_spec found
  obtain ⟨server', response, swept, after, counts⟩ := sweep_spec .never found
  have all : Failing.never.done batch = batch := by
    rw [Failing.done, List.takeWhile_eq_self_iff]
    exact fun _ _ => rfl
  rw [all] at after
  rw [counts fun _ _ => rfl, size] at swept
  have lapses : Lapses server.db server'.db := by
    intro id
    rw [after]
    split
    · exact .inr rfl
    · exact .inl rfl
  refine ⟨server', swept, lapses, ?_⟩
  have left : (stale server'.db now).Perm
      ((stale server.db now).filter (·.id ∉ batch.map Reservation.id)) := by
    refine (List.perm_ext_iff_of_nodup ?_ ?_).mpr fun r => ?_
    · exact (stale_ids_nodup _ _).of_map
    · exact (stale_ids_nodup _ _).of_map.sublist List.filter_sublist
    · rw [List.mem_filter, decide_eq_true_eq, mem_stale, mem_stale, after]
      constructor
      · rintro ⟨stored, pending, due⟩
        split at stored
        · obtain ⟨old, -, rfl⟩ := Option.map_eq_some_iff.mp stored
          cases pending
        · exact ⟨⟨stored, pending, due⟩, by assumption⟩
      · rintro ⟨⟨stored, pending, due⟩, outside⟩
        exact ⟨by rwa [if_neg outside], pending, due⟩
  have taken := length_filter_key (stale_ids_nodup server.db now) distinct fun id member => by
    obtain ⟨r, chosen, rfl⟩ := List.mem_map.mp member
    exact List.mem_map_of_mem (selected r chosen)
  have split' := List.length_eq_length_filter_add (l := stale server.db now)
    fun r => decide (r.id ∈ batch.map Reservation.id)
  rw [left.length_eq]
  rw [List.length_map] at taken
  simp only [decide_not]
  omega

theorem batch_of_sweep {response : Response}
    (swept : sweep failing server now order = some (server', response)) :
    ∃ batch, getStale server.db now order = some batch := by
  cases found : getStale server.db now order with
  | some batch => exact ⟨batch, rfl⟩
  | none =>
    simp only [sweep, Expire.turn, found, Option.bind_none, Expire.settle] at swept
    cases swept

/-- Call by call the backlog goes down by a hundred. -/
theorem sweeps_spec {calls : List (Nat × List Uuid)} {responses : List Response}
    (same : ∀ call ∈ calls, SameDue server.db now call.1)
    (served : sweeps server calls = some (server', responses)) :
    responses = (List.range calls.length).map (fun i =>
        .swept (min 100 ((stale server.db now).length - 100 * i))) ∧
      Lapses server.db server'.db ∧
      (stale server'.db now).length = (stale server.db now).length - 100 * calls.length := by
  induction calls generalizing server responses with
  | nil =>
    cases served
    exact ⟨rfl, fun _ => .inl rfl, rfl⟩
  | cons call calls ih =>
    obtain ⟨now', order⟩ := call
    simp only [sweeps] at served
    obtain ⟨⟨server₁, response⟩, swept, served⟩ := Option.bind_eq_some_iff.mp served
    obtain ⟨⟨last, responses'⟩, rest, ends⟩ := Option.bind_eq_some_iff.mp served
    cases ends
    have due := same _ List.mem_cons_self
    obtain ⟨batch, found⟩ := batch_of_sweep swept
    obtain ⟨_, swept', lapses, fewer⟩ := sweep_never found
    cases swept.symm.trans swept'
    rw [stale_eq_of_sameDue due] at fewer
    rw [stale_eq_of_sameDue (due.lapses lapses)] at fewer
    obtain ⟨rfl, lapses', left⟩ := ih (fun call member =>
      (same call (List.mem_cons_of_mem _ member)).lapses lapses) rest
    rw [fewer] at left
    refine ⟨?_, lapses.trans lapses', by rw [left, List.length_cons]; omega⟩
    rw [List.length_cons, List.range_succ_eq_map, List.map_cons, List.map_map,
      stale_eq_of_sameDue due, fewer, Nat.mul_zero, Nat.sub_zero]
    congr 1
    apply List.map_congr_left
    intro i _
    simp only [Function.comp_apply, Response.swept.injEq]
    omega

/-- A sweep isolates the transactions that fail exactly when no reservation whose own
goes through comes after one whose transaction fails. Where nothing fails the calls
work off whatever is stale, a hundred at a time. -/
theorem sweep_isolates_iff (failing : Failing) (server : Server) (now : Nat) :
    (∀ order batch, getStale server.db now order = some batch →
      batch.length ≤ 100 ∧
      ∃ server' response, sweep failing server now order = some (server', response) ∧
        ((∀ r ∈ batch, failing.transaction r.id = false → server'.db.Expired r.id) ↔
          batch.Pairwise fun a b =>
            failing.transaction b.id = false → failing.transaction a.id = false)) ∧
    (∃ order batch, getStale server.db now order = some batch) ∧
    ∀ calls server' responses, (∀ call ∈ calls, SameDue server.db now call.1) →
      sweeps server calls = some (server', responses) →
      responses = (List.range calls.length).map (fun i =>
        .swept (min 100 ((stale server.db now).length - 100 * i))) ∧
      ((stale server.db now).length ≤ 100 * calls.length →
        ∀ r ∈ stale server.db now, server'.db.Expired r.id) := by
  refine ⟨?_, exists_getStale _ _, ?_⟩
  · intro order batch found
    obtain ⟨distinct, selected, size, -⟩ := getStale_spec found
    obtain ⟨server', response, swept, after, -⟩ := sweep_spec failing found
    refine ⟨size ▸ Nat.min_le_left _ _, server', response, swept, ?_⟩
    have front := forall_mem_takeWhile_iff (p := fun r => !failing.transaction r.id)
      distinct.of_map
    simp only [Bool.not_eq_true'] at front
    rw [← front]
    refine forall₂_congr fun r member => imp_congr_right fun _ => ?_
    have chosen := mem_stale.mp (selected r member)
    constructor
    · intro expired
      by_contra missed
      have kept : server'.db.booking r.id = server.db.booking r.id := by
        rw [after, if_neg]
        intro done
        obtain ⟨other, done, same⟩ := List.mem_map.mp done
        rw [List.inj_on_of_nodup_map distinct ((List.takeWhile_sublist _).subset done) member
          same] at done
        exact missed done
      exact not_expired_of_pending (kept ▸ chosen.1) chosen.2.1 expired
    · intro done
      have done : r ∈ failing.done batch := done
      refine expired_of_lapsed chosen.1 ?_
      rw [after, if_pos (List.mem_map_of_mem done)]
  · intro calls server' responses same served
    obtain ⟨counts, lapses, left⟩ := sweeps_spec same served
    refine ⟨counts, fun enough r member => ?_⟩
    obtain ⟨stored, pending, due⟩ := mem_stale.mp member
    rcases lapses r.id with kept | lapsed
    · have still : r ∈ stale server'.db now := mem_stale.mpr ⟨kept ▸ stored, pending, due⟩
      have := List.length_pos_of_mem still
      omega
    · exact expired_of_lapsed stored lapsed

/-- The locks of the first cannot be released, and the transaction of the second fails. -/
def lastFails : Failing := ⟨(· = flat 6), (· = flat 1)⟩

/-- The transaction of the first fails. -/
def firstFails : Failing := ⟨(· = flat 1), fun _ => false⟩

abbrev bothReserved : Server := (replayed reserveBoth reserveBoth_enabled).shared

/-- Two reservations are stale. -/
def bothStale : List Reservation :=
  [⟨flat 1, ['u'], flat 0xe, .pending, 600000, samplePrice, ['I', 'R', 'R']⟩,
    ⟨flat 6, ['u'], flat 0xe, .pending, 600000, samplePrice, ['I', 'R', 'R']⟩]

theorem bothStale_found :
    getStale bothReserved.db 700000 [flat 1, flat 6] = some bothStale := by
  decide +kernel

theorem sweep_isolates_iff_both : ∃ server' response,
    sweep lastFails bothReserved 700000 [flat 1, flat 6] = some (server', response) ∧
      ∀ r ∈ bothStale, lastFails.transaction r.id = false → server'.db.Expired r.id := by
  obtain ⟨server', response, swept, isolates⟩ :=
    ((sweep_isolates_iff lastFails _ _).1 _ _ bothStale_found).2
  exact ⟨server', response, swept, isolates.mpr (by decide +kernel)⟩

/-- The second reservation is not reached. -/
theorem failure_ends_sweep : ¬ ∀ failing server now order batch,
    getStale server.db now order = some batch →
    ∃ server' response, sweep failing server now order = some (server', response) ∧
      ∀ r ∈ batch, failing.transaction r.id = false → server'.db.Expired r.id := by
  intro always
  obtain ⟨server', response, swept, isolates⟩ := always firstFails _ _ _ _ bothStale_found
  obtain ⟨_, _, swept', after, -⟩ := sweep_spec firstFails bothStale_found
  cases swept.symm.trans swept'
  refine not_expired_of_pending (r := bothStale[1]) ?_ rfl (isolates _ (by decide) (by decide))
  rw [after]
  decide +kernel

end KiTicket
