import KiTicket.Frames

/-! The waiting room. A join draws a position from a counter and is admitted at
once while the position is within the initial capacity. The counter, the entry
and the token check all go by the id of the event as the caller typed it, so an
event has one counter as long as everybody spells its id the same way. -/
namespace KiTicket
open Runs Reservations WaitingRoom

variable {cfg : Config} {catalog : Catalog} {w w' : World} {a : Action} {c : Choice}
  {held : List RowLock} {server server' : Server} {p p' : Proc} {pid : Nat}
  {ts : List (Transition World Action)}

/-! ## What happens in a step -/

/-- The position a join draws in a turn, and the spelling it draws it under. -/
def Proc.draws : Proc → Proc → List (Text × Nat)
  | .join (.incr _ _), .join (.save _ eventId position) => [(eventId, position)]
  | _, _ => []

/-- The entry a join stores in a turn, when it starts out admitted. -/
def Proc.joins : Proc → Proc → List WaitingRoomEntry
  | .join (.save _ _ _), .done (.entry entry) => if entry.state = .admitted then [entry] else []
  | _, _ => []

/-- The entries an admit writes in a turn. -/
def Proc.grants : Proc → Proc → List WaitingRoomEntry
  | .admitUsers (.save _), .done (.admitted entries) => entries
  | _, _ => []

/-- What the process whose turn it is does in a step. -/
def turned (f : Proc → Proc → List β) (t : Transition World Action) : List β :=
  match t.action with
  | .turn pid _ =>
    match t.source.procs[pid]?, t.target.procs[pid]? with
    | some p, some p' => f p p'
    | _, _ => []
  | _ => []

/-- The positions drawn in a run, each with the spelling it was drawn under. -/
def positions (ts : List (Transition World Action)) : List (Text × Nat) :=
  ts.flatMap (turned Proc.draws)

/-- The entries that join itself admitted in a run. -/
def joined (ts : List (Transition World Action)) : List WaitingRoomEntry :=
  ts.flatMap (turned Proc.joins)

/-- The entries that were admitted by an admit. -/
def granted (ts : List (Transition World Action)) : List WaitingRoomEntry :=
  ts.flatMap (turned Proc.grants)

theorem turned_of_turn {f : Proc → Proc → List β} (serving : w.procs[pid]? = some p)
    (procs : w'.procs = w.procs.set pid p') : turned f ⟨w, .turn pid c, w'⟩ = f p p' := by
  have size := (List.getElem?_eq_some_iff.mp serving).1
  simp [turned, serving, procs, List.getElem?_set_self size]

/-! ## One turn in the waiting room -/

/-- A turn of a join reads, or draws a position, or stores its entry. -/
theorem join_cases {state : Join} (turn : (Proc.join state).turn cfg c held server = some (server', p')) :
    (server' = server ∧ (∀ user eventId position, p' ≠ .join (.save user eventId position)) ∧
      Proc.joins (.join state) p' = []) ∨
    (∃ user eventId position, state = .incr user eventId ∧
      position = server.counters (sequenceKey eventId) + 1 ∧
      p' = .join (.save user eventId position) ∧ server' = { server with
        counters := Function.update server.counters (sequenceKey eventId) position }) ∨
    ∃ user eventId position id token entries, state = .save user eventId position ∧
      p' = .done (.entry (newEntry cfg c.now id eventId user.sub position token)) ∧
      server' = { server with db := { server.db with entries } } ∧
      entries.rows = server.db.entries.rows ++
        [newEntry cfg c.now id eventId user.sub position token] := by
  simp only [Proc.turn, turnOf_eq_some] at turn
  obtain ⟨next, turn, rfl⟩ := turn
  split at turn
  · cases turn
    cases state <;> exact .inl ⟨rfl, (fun _ _ _ same => by cases same), rfl⟩
  cases state <;> simp only [Join.turn] at turn
  case findEvent =>
    split at turn
    · cases turn
      exact .inl ⟨rfl, (fun _ _ _ same => by cases same), rfl⟩
    split at turn
    · cases turn
      exact .inl ⟨rfl, (fun _ _ _ same => by cases same), rfl⟩
    split at turn <;> cases turn <;> exact .inl ⟨rfl, (fun _ _ _ same => by cases same), rfl⟩
  case findActive =>
    split at turn
    · cases turn
      exact .inl ⟨rfl, (fun _ _ _ same => by cases same), rfl⟩
    split at turn <;> cases turn <;> exact .inl ⟨rfl, (fun _ _ _ same => by cases same), rfl⟩
  case incr user eventId =>
    cases turn
    exact .inr (.inl ⟨user, eventId, _, rfl, rfl, rfl, rfl⟩)
  case save user eventId position =>
    split at turn
    · rename_i id token _ _
      split at turn
      · cases turn
        exact .inl ⟨rfl, (fun _ _ _ same => by cases same), rfl⟩
      · rename_i entries stored
        cases turn
        exact .inr (.inr ⟨user, eventId, position, id, token, entries, rfl, rfl, rfl,
          Table.insert?_eq_some.mp stored⟩)
    · cases turn

/-- A turn of an admit refuses, or loads queued entries, or writes them. -/
theorem admit_cases {state : Admit}
    (turn : (Proc.admitUsers state).turn cfg c held server = some (server', p')) :
    (server' = server ∧ ((∃ failure, p' = .done (.error failure)) ∨
      ∃ queued, p' = .admitUsers (.save queued) ∧ ∀ entry ∈ queued,
        ∃ row ∈ server.db.entries.rows, row.id = entry.id ∧ row.userId = entry.userId ∧
          row.eventId = entry.eventId)) ∨
    ∃ queued entries, state = .save queued ∧ p' = .done (.admitted queued) ∧
      server' = { server with db := { server.db with entries } } ∧
      entries.rows = server.db.entries.rows.map (admitRow queued) := by
  simp only [Proc.turn, turnOf_eq_some] at turn
  obtain ⟨next, turn, rfl⟩ := turn
  split at turn
  · cases turn
    exact .inl ⟨rfl, .inl ⟨_, rfl⟩⟩
  cases state <;> simp only [Admit.turn] at turn
  case findQueued eventId body =>
    split at turn <;> cases turn
    refine .inl ⟨rfl, .inr ⟨_, rfl, ?_⟩⟩
    intro entry member
    obtain ⟨row, loaded, token, -, rfl⟩ := Lists.exists_of_mem_zipWith member
    have stored := List.mem_of_mem_take loaded
    rw [List.mem_insertionSort] at stored
    exact ⟨row, (List.mem_filter.mp stored).1, rfl, rfl, rfl⟩
  case save queued =>
    split at turn <;> cases turn
    · exact .inr ⟨queued, _, rfl, rfl, rfl, rfl⟩
    · exact .inl ⟨rfl, .inl ⟨_, rfl⟩⟩

/-- No other handler draws positions, stores entries or admits anybody. -/
theorem aside_of_booking (turn : p.turn cfg c held server = some (server', p'))
    (booking : p.waits = false) :
    Proc.draws p p' = [] ∧ Proc.joins p p' = [] ∧ Proc.grants p p' = [] ∧ p'.waits = false := by
  cases p <;> simp only [Proc.turn, turnOf_eq_some] at turn
  case join => cases booking
  case admitUsers => cases booking
  case done => cases turn
  all_goals
    obtain ⟨next, -, rfl⟩ := turn
    cases next <;> exact ⟨rfl, rfl, rfl, rfl⟩

/-! ## Counting positions -/

variable {named : Text → Bool}

/-- Within the capacity, under one of some spellings. -/
def admissible (cfg : Config) (named : Text → Bool) (drawn : Text × Nat) : Bool :=
  named drawn.1 && decide (drawn.2 ≤ cfg.initialAdmissions)

/-- A join that has drawn such a position and not stored its entry yet. -/
def Proc.pends (cfg : Config) (named : Text → Bool) : Proc → Nat
  | .join (.save _ eventId position) => if admissible cfg named (eventId, position) then 1 else 0
  | _ => 0

/-- An entry is admitted for a position that was drawn before, and each position
is used once. -/
theorem pends_turn (named : Text → Bool) (turn : p.turn cfg c held server = some (server', p')) :
    (Proc.joins p p').countP (named ·.eventId) + p'.pends cfg named ≤
      (Proc.draws p p').countP (admissible cfg named) + p.pends cfg named := by
  cases waits : p.waits
  case false =>
    obtain ⟨-, none, -, away⟩ := aside_of_booking turn waits
    have idle : p'.pends cfg named = 0 := by
      cases p' <;> first | rfl | cases away
    simp [none, idle]
  case true =>
    cases p <;> cases waits
    case join state =>
      rcases join_cases turn with ⟨-, idle, none⟩ | ⟨user, eventId, position, rfl, -, rfl, -⟩ |
        ⟨user, eventId, position, id, token, _, rfl, rfl, -, -⟩
      · have free : p'.pends cfg named = 0 := by
          cases p' <;> try rfl
          rename_i state'
          cases state' <;> first | rfl | exact absurd rfl (idle _ _ _)
        simp [none, free]
      · simp [Proc.joins, Proc.draws, Proc.pends, List.countP_singleton]
      · simp only [Proc.joins, Proc.draws, Proc.pends, newEntry, admissible]
        split <;> split <;> simp_all
    case admitUsers state =>
      have idle : p'.pends cfg named = 0 := by
        rcases admit_cases turn with ⟨-, ⟨_, rfl⟩ | ⟨_, rfl, -⟩⟩ | ⟨_, _, -, rfl, -, -⟩ <;> rfl
      simp [Proc.joins, idle]

/-- What one step adds to a list that only turns add to. -/
theorem flatMap_turned {f : Proc → Proc → List β} {t : Transition World Action} :
    (ts ++ [t]).flatMap (turned f) = ts.flatMap (turned f) ++ turned f t := by
  simp

theorem joined_le_positions (named : Text → Bool) (run : Run (step cfg) (initial catalog) ts w) :
    (joined ts).countP (named ·.eventId) + (w.procs.map (Proc.pends cfg named)).sum ≤
      (positions ts).countP (admissible cfg named) := by
  refine run.history (P := fun ts w => (joined ts).countP (named ·.eventId) +
    (w.procs.map (Proc.pends cfg named)).sum ≤ (positions ts).countP (admissible cfg named))
    within_any (Nat.le_refl 0) ?_
  rintro ts w a w' - - counted - taken
  simp only [joined, positions, flatMap_turned, List.countP_append] at counted ⊢
  cases step_cases taken
  case request r accepted =>
    have idle : r.proc.pends cfg named = 0 := by
      cases r <;> rfl
    simpa [turned, idle] using counted
  case turn pid c p p' serving procs turn =>
    have paid := pends_turn named turn
    have share : ((w.procs.set pid p').map (Proc.pends cfg named)).sum + p.pends cfg named =
        (w.procs.map (Proc.pends cfg named)).sum + p'.pends cfg named :=
      Pool.sum_map_set _ serving
    rw [turned_of_turn serving procs, turned_of_turn serving procs, procs]
    omega
  case crash pid p serving =>
    have share : ((w.procs.set pid (.done (.error .crash))).map (Proc.pends cfg named)).sum +
        p.pends cfg named = (w.procs.map (Proc.pends cfg named)).sum + 0 :=
      Pool.sum_map_set _ serving
    simp only [turned, List.countP_nil]
    omega
  case pass => simpa [turned] using counted
  case drop => simpa [turned] using counted

theorem sequenceKey_injective : Function.Injective sequenceKey := by
  intro x y same
  exact List.append_cancel_left (List.append_cancel_right same)

/-- The positions one counter has given out are the numbers up to where it
stands, so no more than the capacity are within it. -/
theorem positions_le_capacity (path : Text) (run : Run (step cfg) (initial catalog) ts w) :
    (positions ts).countP (admissible cfg (· = path)) ≤
      min cfg.initialAdmissions (w.shared.counters (sequenceKey path)) := by
  refine run.history (P := fun ts w => (positions ts).countP (admissible cfg (· = path)) ≤
    min cfg.initialAdmissions (w.shared.counters (sequenceKey path))) within_any (Nat.zero_le _) ?_
  rintro ts w a w' - - counted - taken
  simp only [positions, flatMap_turned, List.countP_append] at counted ⊢
  cases step_cases taken
  case request r accepted =>
    simpa [turned] using counted
  case turn pid c p p' serving procs turn =>
    rw [turned_of_turn serving procs]
    have still (none : Proc.draws p p' = [])
        (same : w'.shared.counters = w.shared.counters) :
        (ts.flatMap (turned Proc.draws)).countP (admissible cfg (· = path)) +
          (Proc.draws p p').countP (admissible cfg (· = path)) ≤
            min cfg.initialAdmissions (w'.shared.counters (sequenceKey path)) := by
      rw [none, same]
      exact counted
    cases waits : p.waits
    case false =>
      exact still (aside_of_booking turn waits).1 ((p.frame turn).2.1 waits).counters
    case true =>
      cases p <;> cases waits
      case join state =>
        rcases join_cases turn with ⟨same, idle, -⟩ | ⟨user, eventId, position, rfl, drawn, rfl, after⟩ |
          ⟨_, _, _, _, _, _, rfl, rfl, after, -⟩
        · refine still ?_ (congrArg Server.counters same)
          cases state <;> cases p' <;> try rfl
          rename_i state'
          cases state' <;> first | rfl | exact absurd rfl (idle _ _ _)
        · rw [after]
          by_cases mine : eventId = path
          · subst mine
            simp only [Proc.draws, List.countP_singleton, admissible, Function.update_self,
              decide_true, Bool.true_and, decide_eq_true_eq]
            split <;> omega
          · have other : sequenceKey path ≠ sequenceKey eventId :=
              fun same => mine (sequenceKey_injective same).symm
            simpa [Proc.draws, admissible, mine, Function.update_of_ne other] using counted
        · exact still rfl (by rw [after])
      case admitUsers state =>
        rcases admit_cases turn with ⟨same, -⟩ | ⟨_, _, -, -, after, -⟩
        · exact still rfl (congrArg Server.counters same)
        · exact still rfl (by rw [after])
  case crash pid p serving =>
    simpa [turned] using counted
  case pass => simpa [turned] using counted
  case drop => simpa [turned] using counted

/-! ## Where tokens come from -/

/-- A request that arrived as number `pid`. -/
def Requested (ts : List (Transition World Action)) (pid : Nat) (r : Request) : Prop :=
  ∃ t ∈ ts, t.action = .request r ∧ t.source.procs.length = pid

/-- An entry of a user for an event with a token, that join admitted or an admit granted. -/
def Given (ts : List (Transition World Action)) (userId eventId : Text) (token : Option Text) :
    Prop :=
  ∃ entry ∈ joined ts ++ granted ts,
    entry.userId = userId ∧ entry.eventId = eventId ∧ entry.admissionToken = token

theorem Given.mono {userId eventId : Text} {token : Option Text} {t : Transition World Action}
    (given : Given ts userId eventId token) : Given (ts ++ [t]) userId eventId token := by
  obtain ⟨entry, member, same⟩ := given
  refine ⟨entry, ?_, same⟩
  simp only [joined, granted, flatMap_turned, List.mem_append] at member ⊢
  tauto

/-- Loaded entries are still rows, of the same user and event. -/
def Proc.Loaded (rows : List WaitingRoomEntry) : Proc → Prop
  | .admitUsers (.save queued) => ∀ entry ∈ queued, ∃ row ∈ rows,
      row.id = entry.id ∧ row.userId = entry.userId ∧ row.eventId = entry.eventId
  | _ => True

/-- Every admitted entry has its token from a join or from an admit. -/
structure Admitted (ts : List (Transition World Action)) (w : World) : Prop where
  rows : ∀ row ∈ w.db.entries.rows, row.state = .admitted →
    Given ts row.userId row.eventId row.admissionToken
  loaded : ∀ p ∈ w.procs, p.Loaded w.db.entries.rows

theorem Proc.Loaded.grow {rows rows' : List WaitingRoomEntry} (loaded : p.Loaded rows)
    (kept : ∀ row ∈ rows, ∃ row' ∈ rows', row'.id = row.id ∧ row'.userId = row.userId ∧
      row'.eventId = row.eventId) : p.Loaded rows' := by
  cases p <;> try trivial
  rename_i state
  cases state
  case findQueued => trivial
  case save queued =>
    intro entry member
    obtain ⟨row, stored, id, user, event⟩ := loaded entry member
    obtain ⟨row', stored', id', user', event'⟩ := kept row stored
    exact ⟨row', stored', id'.trans id, user'.trans user, event'.trans event⟩

/-- Writing loaded entries gives a row the token of its own entry. -/
theorem admitRow_cases (queued : List WaitingRoomEntry) (row : WaitingRoomEntry) :
    admitRow queued row = row ∨ ∃ entry ∈ queued, entry.id = row.id ∧
      admitRow queued row = { row with
        state := entry.state
        admissionToken := entry.admissionToken
        tokenExpiresAt := entry.tokenExpiresAt } := by
  unfold admitRow
  split
  · exact .inl rfl
  · rename_i entry found
    exact .inr ⟨entry, List.mem_of_find?_eq_some found, by simpa using List.find?_some found, rfl⟩

theorem admitRow_named (queued : List WaitingRoomEntry) (row : WaitingRoomEntry) :
    (admitRow queued row).id = row.id ∧ (admitRow queued row).userId = row.userId ∧
      (admitRow queued row).eventId = row.eventId := by
  rcases admitRow_cases queued row with same | ⟨_, -, -, same⟩ <;> rw [same] <;> exact ⟨rfl, rfl, rfl⟩

theorem eq_of_id {db : Db} {x y : WaitingRoomEntry} (left : x ∈ db.entries.rows)
    (right : y ∈ db.entries.rows) (same : x.id = y.id) : x = y :=
  Table.eq_of_clash left right (by simp [clash, same])

theorem Admitted.turn (admitted : Admitted ts w) (taken : step cfg w (.turn pid c) = some w') :
    Admitted (ts ++ [⟨w, .turn pid c, w'⟩]) w' := by
  obtain ⟨p, p', serving, turn, procs⟩ := step_turn taken
  have mine := admitted.loaded p (List.mem_of_getElem? serving)
  -- nobody loads or admits anything in a turn that leaves the entries alone
  have still (same : w'.db.entries = w.db.entries) (own : p'.Loaded w.db.entries.rows) :
      Admitted (ts ++ [⟨w, .turn pid c, w'⟩]) w' := by
    refine ⟨?_, ?_⟩
    · rw [same]
      exact fun row stored state => (admitted.rows row stored state).mono
    · rw [same, procs]
      exact Pool.forall_set admitted.loaded own fun _ _ _ _ kept => kept
  cases waits : p.waits
  case false =>
    have away := (aside_of_booking turn waits).2.2.2
    refine still ((p.frame turn).2.1 waits).entries ?_
    cases p' <;> trivial
  case true =>
    cases p <;> cases waits
    case join state =>
      have own : p'.Loaded w.db.entries.rows := by
        simp only [Proc.turn, turnOf_eq_some] at turn
        obtain ⟨next, -, rfl⟩ := turn
        cases next <;> trivial
      rcases join_cases turn with ⟨same, -, -⟩ | ⟨user, eventId, position, rfl, -, rfl, after⟩ |
        ⟨user, eventId, position, id, token, entries, rfl, rfl, after, grown⟩
      · exact still (by rw [Pool.db, same]) own
      · exact still (by rw [Pool.db, after]) own
      · have stored : w'.db.entries.rows = w.db.entries.rows ++
            [newEntry cfg c.now id eventId user.sub position token] := by
          rw [Pool.db, after, grown]
        refine ⟨?_, ?_⟩
        · intro row member state
          rw [stored, List.mem_append, List.mem_singleton] at member
          rcases member with old | rfl
          · exact (admitted.rows row old state).mono
          · refine ⟨_, List.mem_append_left _ ?_, rfl, rfl, rfl⟩
            rw [joined, flatMap_turned, turned_of_turn serving procs]
            simp [Proc.joins, state]
        · rw [procs, stored]
          refine Pool.forall_set admitted.loaded trivial fun _ _ _ _ kept => ?_
          exact kept.grow fun row old => ⟨row, List.mem_append_left _ old, rfl, rfl, rfl⟩
    case admitUsers state =>
      rcases admit_cases turn with ⟨same, ⟨_, rfl⟩ | ⟨queued, rfl, loaded⟩⟩ |
        ⟨queued, entries, rfl, rfl, after, written⟩
      · exact still (by rw [Pool.db, same]) trivial
      · exact still (by rw [Pool.db, same]) loaded
      · have stored : w'.db.entries.rows = w.db.entries.rows.map (admitRow queued) := by
          rw [Pool.db, after, written]
        refine ⟨?_, ?_⟩
        · intro row' member state
          rw [stored] at member
          obtain ⟨row, old, rfl⟩ := List.mem_map.mp member
          rcases admitRow_cases queued row with same | ⟨entry, chosen, id, same⟩
          · rw [same] at state ⊢
            exact (admitted.rows row old state).mono
          · obtain ⟨loaded, kept, id', user, event⟩ := mine entry chosen
            obtain rfl : loaded = row := eq_of_id kept old (id'.trans id)
            refine ⟨entry, List.mem_append_right _ ?_, ?_⟩
            · rw [granted, flatMap_turned, turned_of_turn serving procs]
              exact List.mem_append_right _ chosen
            · rw [same]
              exact ⟨user.symm, event.symm, rfl⟩
        · rw [procs, stored]
          refine Pool.forall_set admitted.loaded trivial fun _ _ _ _ kept => ?_
          exact kept.grow fun row old =>
            ⟨_, List.mem_map_of_mem old, admitRow_named queued row⟩

/-! ## Who may create a reservation -/

/-- The token check lets a user pass who was given the token of the request, for
the event as the request spells it. -/
theorem given_of_assertAdmission {now : Nat} {eventId userId : Text} {token : Option Text}
    (admitted : Admitted ts w) (required : cfg.waitingRoomRequired = true)
    (passes : assertAdmission cfg w.db.entries.rows now eventId userId token = .ok ()) :
    token.isSome = true ∧ Given ts userId eventId token := by
  unfold assertAdmission at passes
  rw [if_neg (by simp [required])] at passes
  split at passes
  · cases passes
  · cases passes
  · rename_i token _
    dsimp only at passes
    split at passes
    · cases passes
    · rename_i expiresAt found
      obtain ⟨row, hit, -⟩ := Option.bind_eq_some_iff.mp found
      have chosen := List.find?_some hit
      simp only [decide_eq_true_eq] at chosen
      obtain ⟨event, user, same, state⟩ := chosen
      refine ⟨rfl, ?_⟩
      rw [← event, ← user, ← same]
      exact admitted.rows row (List.mem_of_find?_eq_some hit) state

/-- A create that has passed the check, when the waiting room is required. -/
def Passed (cfg : Config) (ts : List (Transition World Action)) (user : AuthenticatedUser)
    (body : CreateReservationDto) : Prop :=
  cfg.waitingRoomRequired = true →
    body.admissionToken.isSome = true ∧ Given ts user.sub body.eventId body.admissionToken

/-- What a create has learnt of its own request. -/
def Reservations.Create.Follows (cfg : Config) (ts : List (Transition World Action))
    (user : AuthenticatedUser) (body : CreateReservationDto) : Create → Prop
  | .assertAdmission user' body' => user' = user ∧ body' = body
  | .findEvent user' body' => user' = user ∧ body' = body ∧ Passed cfg ts user body
  | .findSectors user' body' event | .findSeats user' body' event _
  | .findPricing user' body' event _ =>
    user' = user ∧ body' = body ∧ Passed cfg ts user body ∧ uuid? body.eventId = some event.id
  | .acquire draft | .findOccupied draft | .save draft =>
    draft.userId = user.sub ∧ Passed cfg ts user body ∧ uuid? body.eventId = some draft.event.id
  | .announce _ _ | .release _ _ => True

/-- Which request a create or an admit is serving. -/
def Proc.Serves (cfg : Config) (ts : List (Transition World Action)) (pid : Nat) : Proc → Prop
  | .create state => ∃ user body, Requested ts pid (.create user body) ∧ state.Follows cfg ts user body
  | .admitUsers _ => ∃ user eventId body, Requested ts pid (.admitUsers user eventId body) ∧
      user.role = .admin
  | _ => True

theorem Requested.mono {t : Transition World Action} {r : Request} (requested : Requested ts pid r) :
    Requested (ts ++ [t]) pid r := by
  obtain ⟨u, member, same⟩ := requested
  exact ⟨u, List.mem_append_left _ member, same⟩

theorem Passed.mono {user : AuthenticatedUser} {body : CreateReservationDto}
    {t : Transition World Action} (passed : Passed cfg ts user body) :
    Passed cfg (ts ++ [t]) user body :=
  fun required => ⟨(passed required).1, (passed required).2.mono⟩

theorem Proc.Serves.mono {t : Transition World Action} (serves : p.Serves cfg ts pid) :
    p.Serves cfg (ts ++ [t]) pid := by
  cases p <;> try trivial
  case create state =>
    obtain ⟨user, body, requested, follows⟩ := serves
    refine ⟨user, body, requested.mono, ?_⟩
    cases state
    case assertAdmission => exact follows
    case findEvent => exact ⟨follows.1, follows.2.1, follows.2.2.mono⟩
    case findSectors => exact ⟨follows.1, follows.2.1, follows.2.2.1.mono, follows.2.2.2⟩
    case findSeats => exact ⟨follows.1, follows.2.1, follows.2.2.1.mono, follows.2.2.2⟩
    case findPricing => exact ⟨follows.1, follows.2.1, follows.2.2.1.mono, follows.2.2.2⟩
    case acquire => exact ⟨follows.1, follows.2.1.mono, follows.2.2⟩
    case findOccupied => exact ⟨follows.1, follows.2.1.mono, follows.2.2⟩
    case save => exact ⟨follows.1, follows.2.1.mono, follows.2.2⟩
    case announce => trivial
    case release => trivial
  case admitUsers =>
    obtain ⟨user, eventId, body, requested, admin⟩ := serves
    exact ⟨user, eventId, body, requested.mono, admin⟩

theorem Reservations.Create.follows {state : Create} {next : Next Create} {user : AuthenticatedUser}
    {body : CreateReservationDto} (admitted : Admitted ts w)
    (turn : state.turn cfg c w.shared = some (server', next))
    (follows : state.Follows cfg ts user body) (requested : Requested ts pid (.create user body)) :
    (next.proc .create).Serves cfg ts pid := by
  cases state <;> simp only [Create.turn] at turn
  case assertAdmission =>
    obtain ⟨rfl, rfl⟩ := follows
    split at turn <;> cases turn
    · trivial
    · rename_i passes
      exact ⟨_, _, requested, rfl, rfl, fun required => given_of_assertAdmission admitted required passes⟩
  case findEvent =>
    obtain ⟨rfl, rfl, passed⟩ := follows
    split at turn
    · cases turn
      trivial
    rename_i id named
    split at turn
    · cases turn
      trivial
    rename_i event found
    split at turn <;> cases turn
    · trivial
    · have same : event.id = id := by
        have chosen := List.find?_some found
        simp only [decide_eq_true_eq] at chosen
        exact chosen.1
      exact ⟨_, _, requested, rfl, rfl, passed, by rw [named, same]⟩
  case findSectors =>
    cases turn
    exact ⟨_, _, requested, follows⟩
  case findSeats =>
    split at turn <;> cases turn
    · trivial
    · exact ⟨_, _, requested, follows⟩
  case findPricing =>
    obtain ⟨rfl, rfl, passed, named⟩ := follows
    split at turn
    · cases turn
      trivial
    split at turn
    · split at turn <;> cases turn
      exact ⟨_, _, requested, rfl, passed, named⟩
    · cases turn
  case acquire =>
    split at turn <;> cases turn
    · trivial
    · exact ⟨_, _, requested, follows⟩
  case findOccupied =>
    split at turn <;> cases turn
    · exact ⟨_, _, requested, trivial⟩
    · exact ⟨_, _, requested, follows⟩
  case save =>
    split at turn
    · cases turn
    split at turn <;> cases turn <;> exact ⟨_, _, requested, trivial⟩
  case announce =>
    cases turn
    trivial
  case release =>
    cases turn
    trivial

theorem Proc.serves (admitted : Admitted ts w) (turn : p.turn cfg c held w.shared = some (server', p'))
    (serves : p.Serves cfg ts pid) : p'.Serves cfg ts pid := by
  cases p <;> simp only [Proc.turn, turnOf_eq_some] at turn
  case create state =>
    obtain ⟨next, turn, rfl⟩ := turn
    obtain ⟨user, body, requested, follows⟩ := serves
    split at turn
    · cases state <;> simp only [Create.fault] at turn <;> cases turn <;>
        first | trivial | exact ⟨user, body, requested, trivial⟩
    · exact Create.follows admitted turn follows requested
  case admitUsers state =>
    obtain ⟨next, -, rfl⟩ := turn
    cases next
    case go => exact serves
    case done => trivial
  case done => cases turn
  all_goals
    obtain ⟨next, -, rfl⟩ := turn
    cases next <;> trivial

theorem serves_of_run (run : Run (step cfg) (initial catalog) ts w) :
    Admitted ts w ∧ ∀ (pid : Nat) (p : Proc), w.procs[pid]? = some p → p.Serves cfg ts pid := by
  refine run.history (P := fun ts w => Admitted ts w ∧
    ∀ (pid : Nat) (p : Proc), w.procs[pid]? = some p → p.Serves cfg ts pid) within_any ?_ ?_
  · refine ⟨⟨fun row stored => absurd stored List.not_mem_nil,
      fun p member => absurd member List.not_mem_nil⟩, fun pid p serving => ?_⟩
    simp [initial] at serving
  rintro ts w a w' - - ⟨admitted, serves⟩ - taken
  cases step_cases taken
  case request r accepted =>
    refine ⟨⟨fun row stored state => (admitted.rows row stored state).mono, ?_⟩, ?_⟩
    · intro p member
      rcases List.mem_append.mp member with old | new
      · exact admitted.loaded p old
      · rw [List.mem_singleton.mp new]
        cases r <;> trivial
    · intro pid p serving
      rw [List.getElem?_append] at serving
      split at serving
      · exact (serves pid p serving).mono
      · rw [List.getElem?_singleton] at serving
        split at serving <;> cases serving
        have arrived : Requested (ts ++ [⟨w, .request r, ⟨w.shared, w.procs ++ [r.proc]⟩⟩]) pid r :=
          ⟨_, List.mem_concat_self, rfl, by dsimp only; omega⟩
        cases r <;> try trivial
        case create user body => exact ⟨user, body, arrived, rfl, rfl⟩
        case admitUsers user eventId body =>
          simp only [Request.accepted, Bool.and_eq_true, decide_eq_true_eq] at accepted
          exact ⟨user, eventId, body, arrived, accepted.1⟩
  case turn pid c =>
    refine ⟨admitted.turn taken, ?_⟩
    obtain ⟨p, p', serving, turn, procs⟩ := step_turn taken
    intro other q at_other
    rw [procs] at at_other
    rcases Pool.getElem?_set_cases at_other with ⟨rfl, rfl, -⟩ | ⟨-, before⟩
    · exact (Proc.serves admitted turn (serves other p serving)).mono
    · exact (serves other q before).mono
  case crash pid p serving =>
    refine ⟨⟨fun row stored state => (admitted.rows row stored state).mono,
      Pool.forall_set admitted.loaded trivial fun _ _ _ _ kept => kept⟩, ?_⟩
    intro other q at_other
    rcases Pool.getElem?_set_cases at_other with ⟨-, rfl, -⟩ | ⟨-, before⟩
    · trivial
    · exact (serves other q before).mono
  case pass =>
    exact ⟨⟨fun row stored state => (admitted.rows row stored state).mono, admitted.loaded⟩,
      fun pid p serving => (serves pid p serving).mono⟩
  case drop =>
    exact ⟨⟨fun row stored state => (admitted.rows row stored state).mono, admitted.loaded⟩,
      fun pid p serving => (serves pid p serving).mono⟩

/-- An entry that an administrator's admit wrote. -/
def GrantedByAdmin (ts : List (Transition World Action)) (entry : WaitingRoomEntry) : Prop :=
  ∃ t ∈ ts, entry ∈ turned Proc.grants t ∧ ∃ pid c user eventId body, t.action = .turn pid c ∧
    Requested ts pid (.admitUsers user eventId body) ∧ user.role = .admin

theorem grantedByAdmin_of_run (run : Run (step cfg) (initial catalog) ts w)
    {entry : WaitingRoomEntry} (member : entry ∈ granted ts) : GrantedByAdmin ts entry := by
  obtain ⟨t, taken, chosen⟩ := List.mem_flatMap.mp member
  refine ⟨t, taken, chosen, ?_⟩
  obtain ⟨before, after, rfl, reaches, -, -⟩ := run.split taken
  unfold turned at chosen
  split at chosen
  · rename_i pid c action
    split at chosen
    · rename_i p p' serving _
      cases p <;> try cases chosen
      obtain ⟨user, eventId, body, ⟨u, early, same⟩, admin⟩ := (serves_of_run reaches).2 pid _ serving
      exact ⟨pid, c, user, eventId, body, action, ⟨u, List.mem_append_left _ early, same⟩, admin⟩
    · cases chosen
  · cases chosen

/-- As long as all positions of an event are drawn under one spelling of its id,
or no more are drawn than the capacity, no more entries than the capacity are
admitted by join; and where the waiting room is required, whoever is about to
store a reservation for the event has the token of such an entry of his own, or
one that an administrator granted him. -/
theorem admission_bounded (event : Uuid) (run : Run (step cfg) (initial catalog) ts w)
    (counted : (∃ path, ∀ drawn ∈ positions ts, uuid? drawn.1 = some event → drawn.1 = path) ∨
      (positions ts).countP (fun drawn => uuid? drawn.1 = some event) ≤ cfg.initialAdmissions) :
    (joined ts).countP (fun entry => uuid? entry.eventId = some event) ≤ cfg.initialAdmissions ∧
    (cfg.waitingRoomRequired = true → ∀ (pid : Nat) (draft : Draft),
      w.procs[pid]? = some (.create (.save draft)) → draft.event.id = event →
      ∃ user body token entry, Requested ts pid (.create user body) ∧ user.sub = draft.userId ∧
        body.admissionToken = some token ∧ entry.userId = user.sub ∧
        uuid? entry.eventId = some event ∧ entry.admissionToken = some token ∧
        (entry ∈ joined ts ∨ GrantedByAdmin ts entry)) := by
  refine ⟨?_, ?_⟩
  · have used := joined_le_positions (fun text => decide (uuid? text = some event)) run
    refine (Nat.le_trans (Nat.le_add_right _ _) used).trans ?_
    rcases counted with ⟨path, one⟩ | few
    · refine Nat.le_trans (List.countP_mono_left ?_) ((positions_le_capacity path run).trans (Nat.min_le_left _ _))
      intro drawn member within
      simp only [admissible, Bool.and_eq_true, decide_eq_true_eq] at within ⊢
      exact ⟨one drawn member within.1, within.2⟩
    · refine Nat.le_trans (List.countP_mono_left ?_) few
      intro drawn _ within
      exact (Bool.and_eq_true_iff.mp within).1
  · rintro required pid draft serving rfl
    obtain ⟨user, body, requested, same, passed, named⟩ := (serves_of_run run).2 pid _ serving
    obtain ⟨some, entry, member, user', event, token⟩ := passed required
    obtain ⟨text, shown⟩ := Option.isSome_iff_exists.mp some
    refine ⟨user, body, text, entry, requested, same.symm, shown, user', by rw [event, named],
      token.trans shown, ?_⟩
    rcases List.mem_append.mp member with mine | given
    · exact .inl mine
    · exact .inr (grantedByAdmin_of_run run given)

/-- Room for one. -/
def queueConfig : Config := { sampleConfig with waitingRoomRequired := true, initialAdmissions := 1 }

def joinTurns (pid : Nat) (id : Uuid) (token : Text) : List Action :=
  [.turn pid {}, .turn pid {}, .turn pid {}, .turn pid { ids := [id], tokens := [token] }]

def queueToken : Text := List.replicate 20 't'

/-- Two customers join under one spelling, and the first one goes on to reserve. -/
def joinedOnce : List Action :=
  .request (.join customer (flatText 'e')) :: joinTurns 0 (flat 5) queueToken ++
    .request (.join ⟨['v'], .customer⟩ (flatText 'e')) :: joinTurns 1 (flat 6) ['x'] ++
    .request (.create customer ⟨flatText 'e', [flatText 'a'], some queueToken⟩) ::
      (createTurns 2 0 (flat 1) []).take 7

private theorem joinedOnce_enabled :
    (exec (step queueConfig) (initial sampleCatalog) joinedOnce).isSome = true := by
  decide +kernel

private theorem joinedOnce_ready : (replay _ _ _ joinedOnce_enabled).procs[2]? =
    some (.create (.save ⟨flat 1, ['u'], ⟨flat 0xe, ['o'], ['v'], 1000000, true⟩, [flatText 'a'],
      [(flatText 'a', samplePrice)], ['I', 'R', 'R']⟩)) := by
  decide +kernel

theorem admission_bounded_once :
    (joined (transitions (step queueConfig) (initial sampleCatalog) joinedOnce)).countP
      (fun entry => uuid? entry.eventId = some (flat 0xe)) ≤ 1 ∧
    ∃ user body token entry,
      Requested (transitions (step queueConfig) (initial sampleCatalog) joinedOnce) 2 (.create user body) ∧
      user.sub = ['u'] ∧ body.admissionToken = some token ∧ entry.userId = user.sub ∧
      uuid? entry.eventId = some (flat 0xe) ∧ entry.admissionToken = some token ∧
      (entry ∈ joined (transitions (step queueConfig) (initial sampleCatalog) joinedOnce) ∨
        GrantedByAdmin (transitions (step queueConfig) (initial sampleCatalog) joinedOnce) entry) :=
  have bounded := admission_bounded (flat 0xe) (run_replay joinedOnce_enabled)
    (.inl ⟨flatText 'e', by decide +kernel⟩)
  ⟨bounded.1, bounded.2 rfl 2 _ joinedOnce_ready rfl⟩

/-- Two customers join, the second one in capital letters. -/
def joinedTwice : List Action :=
  .request (.join customer (flatText 'e')) :: joinTurns 0 (flat 5) queueToken ++
    .request (.join ⟨['v'], .customer⟩ (flatText 'E')) :: joinTurns 1 (flat 6) ['x']

private theorem joinedTwice_enabled :
    (exec (step queueConfig) (initial sampleCatalog) joinedTwice).isSome = true := by
  decide +kernel

/-- Both are admitted where there is room for one. -/
theorem admitted_beyond_capacity :
    ¬ ∀ (cfg : Config) (catalog : Catalog) (ts : List (Transition World Action)) (w : World)
      (event : Uuid), Run (step cfg) (initial catalog) ts w →
      (joined ts).countP (fun entry => uuid? entry.eventId = some event) ≤ cfg.initialAdmissions := by
  intro bounded
  have one := bounded _ _ _ _ (flat 0xe) (run_replay joinedTwice_enabled)
  revert one
  decide +kernel

end KiTicket
