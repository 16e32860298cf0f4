import KiTicket.Admission

/-! The queue of an event. A join draws its position first and shows its entry later, an
admit reads its batch first and writes it later, and neither looks again. So an entry
can appear behind the back of an admit that has passed its position by. -/
namespace KiTicket
open Runs Reservations WaitingRoom

variable {cfg : Config} {catalog : Catalog} {w w' : World} {a : Action} {c : Choice}
  {held : List RowLock} {server server' : Server} {p p' : Proc} {pid : Nat}
  {ts : List (Transition World Action)} {t : Transition World Action} {drawn : Text → Prop}
  {entry row : WaitingRoomEntry} {queued rows : List WaitingRoomEntry}

/-! ## What a step does to the entries -/

/-- The entry a join stores in a turn. -/
def Proc.stores : Proc → Proc → List WaitingRoomEntry
  | .join (.save _ _ _), .done (.entry entry) => [entry]
  | _, _ => []

/-- A step leaves the entries alone, or it is the last turn of a join or of an admit. -/
inductive Enters (cfg : Config) (w w' : World) : Action → Prop where
  | same {a : Action} (entries : w'.db.entries = w.db.entries)
      (stores : turned Proc.stores ⟨w, a, w'⟩ = []) (grants : turned Proc.grants ⟨w, a, w'⟩ = []) :
      Enters cfg w w' a
  | join {pid : Nat} {c : Choice} {user : AuthenticatedUser} {eventId : Text} {position : Nat}
      {id : Uuid} {token : Text} (serving : w.procs[pid]? = some (.join (.save user eventId position)))
      (drawn : c.tokens = [token])
      (rows : w'.db.entries.rows = w.db.entries.rows ++
        [newEntry cfg c.now id eventId user.sub position token])
      (stores : turned Proc.stores ⟨w, .turn pid c, w'⟩ =
        [newEntry cfg c.now id eventId user.sub position token])
      (grants : turned Proc.grants ⟨w, .turn pid c, w'⟩ = []) : Enters cfg w w' (.turn pid c)
  | admits {pid : Nat} {c : Choice} {queued : List WaitingRoomEntry}
      (serving : w.procs[pid]? = some (.admitUsers (.save queued)))
      (rows : w'.db.entries.rows = w.db.entries.rows.map (admitRow queued))
      (stores : turned Proc.stores ⟨w, .turn pid c, w'⟩ = [])
      (grants : turned Proc.grants ⟨w, .turn pid c, w'⟩ = queued) : Enters cfg w w' (.turn pid c)

/-- The turn in which a join stores its entry. -/
theorem joinSave_cases {user : AuthenticatedUser} {eventId : Text} {position : Nat}
    (turn : (Proc.join (.save user eventId position)).turn cfg c held server = some (server', p')) :
    (server' = server ∧ ∃ failure, p' = .done (.error failure)) ∨
    ∃ id token entries, c.fault = false ∧ c.ids = [id] ∧ c.tokens = [token] ∧
      p' = .done (.entry (newEntry cfg c.now id eventId user.sub position token)) ∧
      server' = { server with db := { server.db with entries } } ∧
      entries.rows = server.db.entries.rows ++
        [newEntry cfg c.now id eventId user.sub position token] := by
  simp only [Proc.turn, turnOf_eq_some] at turn
  obtain ⟨next, turn, rfl⟩ := turn
  split at turn
  · cases turn
    exact .inl ⟨rfl, _, rfl⟩
  rename_i calls
  simp only [Join.turn] at turn
  split at turn
  · rename_i id token ids tokens
    split at turn
    · cases turn
      exact .inl ⟨rfl, _, rfl⟩
    · rename_i entries stored
      cases turn
      exact .inr ⟨id, token, entries, by simpa using calls, ids, tokens, rfl, rfl,
        Table.insert?_eq_some.mp stored⟩
  · cases turn

theorem stores_of_waits_false (turn : p.turn cfg c held server = some (server', p'))
    (booking : p.waits = false) : Proc.stores p p' = [] := by
  cases p <;> first | rfl | cases booking

theorem entries_cases (taken : step cfg w a = some w') : Enters cfg w w' a := by
  cases step_cases taken
  case request => exact .same rfl rfl rfl
  case crash => exact .same rfl rfl rfl
  case pass => exact .same rfl rfl rfl
  case drop => exact .same rfl rfl rfl
  case turn pid c p p' serving procs turn =>
    have told {β : Type} (f : Proc → Proc → List β) : turned f ⟨w, .turn pid c, w'⟩ = f p p' :=
      turned_of_turn serving procs
    cases waits : p.waits
    case false =>
      have aside := aside_of_booking turn waits
      exact .same ((p.frame turn).2.1 waits).entries
        ((told _).trans (stores_of_waits_false turn waits)) ((told _).trans aside.2.2.1)
    case true =>
      cases p <;> cases waits
      case join state =>
        have grants : Proc.grants (.join state) p' = [] := rfl
        cases state
        case save user eventId position =>
          rcases joinSave_cases turn with ⟨same, _, rfl⟩ |
            ⟨id, token, entries, -, -, drawn, rfl, after, stored⟩
          · exact .same (by rw [Pool.db, same]) ((told _).trans rfl) ((told _).trans grants)
          · exact .join serving drawn (by rw [Pool.db, after, stored]) ((told _).trans rfl)
              ((told _).trans grants)
        all_goals
          rcases join_cases turn with ⟨same, -, -⟩ | ⟨_, _, _, -, -, -, after⟩ |
            ⟨_, _, _, _, _, _, other, -⟩
          · exact .same (by rw [Pool.db, same]) ((told _).trans rfl) ((told _).trans grants)
          · exact .same (by rw [Pool.db, after]) ((told _).trans rfl) ((told _).trans grants)
          · cases other
      case admitUsers state =>
        rcases admit_cases turn with ⟨same, outcome⟩ | ⟨queued, entries, rfl, rfl, after, written⟩
        · refine .same (by rw [Pool.db, same]) ((told _).trans rfl) ((told _).trans ?_)
          rcases outcome with ⟨_, rfl⟩ | ⟨_, rfl, -⟩ <;> cases state <;> rfl
        · exact .admits serving (by rw [Pool.db, after, written]) ((told _).trans rfl)
            ((told _).trans rfl)

/-! ## Entries and the batches of admits -/

/-- An entry waits beyond the capacity and has no token, or it is admitted and has one. -/
def WaitingRoomEntry.Formed (cfg : Config) (drawn : Text → Prop) (row : WaitingRoomEntry) : Prop :=
  (row.state = .queued ∧ cfg.initialAdmissions < row.position ∧ row.admissionToken = none ∧
    row.tokenExpiresAt = none) ∨
  (row.state = .admitted ∧ ∃ token expiresAt, drawn token ∧ row.admissionToken = some token ∧
    row.tokenExpiresAt = some expiresAt)

/-- The entry is the row with a fresh token. -/
def WaitingRoomEntry.Grants (drawn : Text → Prop) (entry row : WaitingRoomEntry) : Prop :=
  ∃ token expiresAt, drawn token ∧ entry = { row with
    state := .admitted, admissionToken := some token, tokenExpiresAt := some expiresAt }

/-- The batch an admit is about to write: different rows, from beyond the capacity. -/
def Proc.Batch (cfg : Config) (drawn : Text → Prop) (rows : List WaitingRoomEntry) : Proc → Prop
  | .admitUsers (.save queued) => (queued.map WaitingRoomEntry.id).Nodup ∧
      ∀ entry ∈ queued, cfg.initialAdmissions < entry.position ∧ ∃ row ∈ rows, entry.Grants drawn row
  | _ => True

/-- The random strings a turn draws are of some kind. -/
def Action.Draws (drawn : Text → Prop) : Action → Prop
  | .turn _ c => ∀ token ∈ c.tokens, drawn token
  | _ => True

instance [DecidablePred drawn] : Decidable (a.Draws drawn) := by
  cases a <;> unfold Action.Draws <;> infer_instance

structure Waiting (cfg : Config) (drawn : Text → Prop) (w : World) : Prop where
  rows : ∀ row ∈ w.db.entries.rows, row.Formed cfg drawn
  batches : ∀ p ∈ w.procs, p.Batch cfg drawn w.db.entries.rows

theorem waiting_initial : Waiting cfg drawn (initial catalog) :=
  ⟨fun _ stored => absurd stored List.not_mem_nil, fun _ member => absurd member List.not_mem_nil⟩

theorem formed_newEntry {now position : Nat} {id : Uuid} {eventId userId token : Text}
    (kind : drawn token) : (newEntry cfg now id eventId userId position token).Formed cfg drawn := by
  unfold newEntry
  split
  · exact .inr ⟨rfl, token, _, kind, rfl, rfl⟩
  · exact .inl ⟨rfl, by dsimp only; omega, rfl, rfl⟩

theorem WaitingRoomEntry.Grants.formed (grants : entry.Grants drawn row) :
    entry.Formed cfg drawn := by
  obtain ⟨token, expiresAt, kind, rfl⟩ := grants
  exact .inr ⟨rfl, token, expiresAt, kind, rfl, rfl⟩

/-- Writing other batches first does not matter to a batch. -/
theorem WaitingRoomEntry.Grants.admitRow (grants : entry.Grants drawn row)
    (queued : List WaitingRoomEntry) : entry.Grants drawn (admitRow queued row) := by
  obtain ⟨token, expiresAt, kind, rfl⟩ := grants
  refine ⟨token, expiresAt, kind, ?_⟩
  rcases admitRow_cases queued row with same | ⟨_, -, -, same⟩ <;> rw [same]

/-- A row named in a batch is written as the batch has it. -/
theorem admitRow_of_batch {db : Db} (batch : (Proc.admitUsers (.save queued)).Batch cfg drawn db.entries.rows)
    (stored : row ∈ db.entries.rows) :
    (row.id ∉ queued.map WaitingRoomEntry.id ∧ admitRow queued row = row) ∨
      (admitRow queued row ∈ queued ∧ (admitRow queued row).Grants drawn row) := by
  unfold admitRow
  split
  · rename_i missing
    refine .inl ⟨fun named => ?_, rfl⟩
    obtain ⟨entry, member, same⟩ := List.mem_map.mp named
    simpa [same] using List.find?_eq_none.mp missing entry member
  · rename_i entry found
    have member := List.mem_of_find?_eq_some found
    have same : entry.id = row.id := by simpa using List.find?_some found
    obtain ⟨-, loaded, old, grants⟩ := batch.2 entry member
    obtain ⟨token, expiresAt, kind, rfl⟩ := grants
    obtain rfl : loaded = row := eq_of_id old stored same
    exact .inr ⟨member, token, expiresAt, kind, rfl⟩

/-- And every entry of the batch is written. -/
theorem exists_admitRow {db : Db} (batch : (Proc.admitUsers (.save queued)).Batch cfg drawn db.entries.rows)
    (member : entry ∈ queued) :
    ∃ row ∈ db.entries.rows, admitRow queued row = entry ∧ entry.Grants drawn row := by
  obtain ⟨-, row, stored, grants⟩ := batch.2 entry member
  have same : entry.id = row.id := by
    obtain ⟨_, _, -, rfl⟩ := grants
    rfl
  refine ⟨row, stored, ?_, grants⟩
  rcases admitRow_of_batch batch stored with ⟨missing, -⟩ | ⟨written, -⟩
  · exact absurd (same ▸ List.mem_map_of_mem member) missing
  · exact List.inj_on_of_nodup_map batch.1 written member ((admitRow_named queued row).1.trans same.symm)

theorem entry_ids_nodup (db : Db) : (db.entries.rows.map WaitingRoomEntry.id).Nodup := by
  refine List.pairwise_map.mpr (db.entries.unique.imp ?_)
  intro x y apart same
  simp [clash, same] at apart

/-- The turn in which an admit reads its batch. -/
theorem findQueued_cases {eventId : Text} {body : AdmitUsersDto}
    (turn : (Proc.admitUsers (.findQueued eventId body)).turn cfg c held server = some (server', p')) :
    server' = server ∧ ((∃ failure, p' = .done (.error failure)) ∨ ∃ loaded,
      (loaded.map WaitingRoomEntry.id).Nodup ∧ loaded.length = c.tokens.length ∧
      (∀ row ∈ loaded, row ∈ server.db.entries.rows ∧ row.state = .queued) ∧
      p' = .admitUsers (.save (List.zipWith (grant cfg c.now) loaded c.tokens))) := by
  simp only [Proc.turn, turnOf_eq_some] at turn
  obtain ⟨next, turn, rfl⟩ := turn
  split at turn
  · cases turn
    exact ⟨rfl, .inl ⟨_, rfl⟩⟩
  simp only [Admit.turn] at turn
  split at turn <;> cases turn
  rename_i lengths
  refine ⟨rfl, .inr ⟨_, ?_, lengths.symm, fun row member => ?_, rfl⟩⟩
  · refine List.Nodup.sublist ((List.take_sublist _ _).map _) ?_
    exact ((List.perm_insertionSort _ _).map _).nodup_iff.mpr
      ((entry_ids_nodup server.db).sublist (List.filter_sublist.map _))
  · have stored := List.mem_of_mem_take member
    rw [List.mem_insertionSort, List.mem_filter, decide_eq_true_eq] at stored
    exact ⟨stored.1, stored.2.2⟩

/-- The turn in which an admit writes its batch. -/
theorem admitSave_cases
    (turn : (Proc.admitUsers (.save queued)).turn cfg c held server = some (server', p')) :
    (server' = server ∧ ∃ failure, p' = .done (.error failure)) ∨
    ∃ entries, p' = .done (.admitted queued) ∧
      server' = { server with db := { server.db with entries } } ∧
      entries.rows = server.db.entries.rows.map (admitRow queued) := by
  simp only [Proc.turn, turnOf_eq_some] at turn
  obtain ⟨next, turn, rfl⟩ := turn
  split at turn
  · cases turn
    exact .inl ⟨rfl, _, rfl⟩
  simp only [Admit.turn] at turn
  split at turn <;> cases turn
  · exact .inr ⟨_, rfl, rfl, rfl⟩
  · exact .inl ⟨rfl, _, rfl⟩

theorem Proc.Batch.kept (batch : p.Batch cfg drawn rows) {rows' : List WaitingRoomEntry}
    (kept : ∀ row ∈ rows, ∃ row' ∈ rows', ∀ entry : WaitingRoomEntry,
      entry.Grants drawn row → entry.Grants drawn row') : p.Batch cfg drawn rows' := by
  cases p <;> try trivial
  rename_i state
  cases state <;> try trivial
  refine ⟨batch.1, fun entry member => ?_⟩
  obtain ⟨beyond, row, stored, grants⟩ := batch.2 entry member
  obtain ⟨row', stored', same⟩ := kept row stored
  exact ⟨beyond, row', stored', same entry grants⟩

/-- What an admit has read it read from the rows. -/
theorem Proc.batch (waiting : Waiting cfg drawn w) (allowed : (Action.turn pid c).Draws drawn)
    (turn : p.turn cfg c held w.shared = some (server', p')) :
    p'.Batch cfg drawn w.db.entries.rows := by
  cases p
  case admitUsers state =>
    cases state
    case findQueued eventId body =>
      rcases findQueued_cases turn with ⟨-, ⟨_, rfl⟩ | ⟨loaded, ids, lengths, stored, rfl⟩⟩
      · trivial
      refine ⟨?_, fun entry member => ?_⟩
      · have same := Lists.map_zipWith_left (f := grant cfg c.now) (g := WaitingRoomEntry.id)
          (h := WaitingRoomEntry.id) (fun _ _ => rfl) lengths.le
        rwa [same]
      · obtain ⟨row, chosen, token, random, rfl⟩ := Lists.exists_of_mem_zipWith member
        obtain ⟨member, queued⟩ := stored row chosen
        rcases waiting.rows row member with ⟨-, beyond, -⟩ | ⟨admitted, -⟩
        · exact ⟨beyond, row, member, token, _, allowed token random, rfl⟩
        · cases queued.symm.trans admitted
    case save queued =>
      rcases admitSave_cases turn with ⟨-, _, rfl⟩ | ⟨_, rfl, -⟩ <;> trivial
  case done => cases turn
  all_goals
    simp only [Proc.turn, turnOf_eq_some] at turn
    obtain ⟨next, -, rfl⟩ := turn
    cases next <;> trivial

theorem Waiting.next (waiting : Waiting cfg drawn w) (allowed : a.Draws drawn)
    (taken : step cfg w a = some w') : Waiting cfg drawn w' := by
  have rows : (∀ row ∈ w'.db.entries.rows, row.Formed cfg drawn) ∧
      ∀ row ∈ w.db.entries.rows, ∃ row' ∈ w'.db.entries.rows, ∀ entry : WaitingRoomEntry,
        entry.Grants drawn row → entry.Grants drawn row' := by
    cases entries_cases taken
    case same entries _ _ =>
      rw [entries]
      exact ⟨waiting.rows, fun row stored => ⟨row, stored, fun _ => id⟩⟩
    case join serving token rows _ _ =>
      rw [rows]
      refine ⟨fun row stored => ?_, fun row stored =>
        ⟨row, List.mem_append_left _ stored, fun _ => id⟩⟩
      rcases List.mem_append.mp stored with old | new
      · exact waiting.rows row old
      · rw [List.mem_singleton.mp new]
        exact formed_newEntry (allowed _ (by simp [token]))
    case admits serving rows _ _ =>
      have batch := waiting.batches _ (List.mem_of_getElem? serving)
      rw [rows]
      refine ⟨fun row' stored => ?_, fun row stored =>
        ⟨_, List.mem_map_of_mem stored, fun _ grants => grants.admitRow _⟩⟩
      obtain ⟨row, old, rfl⟩ := List.mem_map.mp stored
      rcases admitRow_of_batch batch old with ⟨-, same⟩ | ⟨-, grants⟩
      · rw [same]
        exact waiting.rows row old
      · exact grants.formed
  refine ⟨rows.1, forall_procs taken waiting.batches (fun p batch => batch.kept rows.2) ?_ ?_ ?_⟩
  · intro r
    cases r <;> trivial
  · exact fun _ => trivial
  · rintro pid c p p' rfl - turn
    exact (Proc.batch waiting allowed turn).kept rows.2

theorem waiting_of_run (run : Run (step cfg) (initial catalog) ts w)
    (random : Within (Action.Draws drawn) ts) : Waiting cfg drawn w :=
  run.invariant random waiting_initial fun _ _ _ waiting allowed taken => waiting.next allowed taken

/-! ## Who was admitted by an admit -/

/-- One place in the queue, whatever has become of it. -/
def WaitingRoomEntry.Place (row entry : WaitingRoomEntry) : Prop :=
  row.id = entry.id ∧ row.eventId = entry.eventId ∧ row.userId = entry.userId ∧
    row.position = entry.position

theorem place_admitRow (queued : List WaitingRoomEntry) (row : WaitingRoomEntry) :
    row.Place (admitRow queued row) := by
  rcases admitRow_cases queued row with same | ⟨_, -, -, same⟩ <;> rw [same] <;>
    exact ⟨rfl, rfl, rfl, rfl⟩

theorem granted_concat : granted (ts ++ [t]) = granted ts ++ turned Proc.grants t :=
  flatMap_turned

theorem waiting_any (run : Run (step cfg) (initial catalog) ts w) :
    Waiting cfg (fun _ => True) w :=
  waiting_of_run run fun t _ => by
    cases t.action <;> first | trivial | exact fun _ _ => trivial

/-- Beyond the capacity exactly the entries written by an admit are admitted. -/
structure Listed (cfg : Config) (ts : List (Transition World Action)) (w : World) : Prop where
  granted : ∀ entry ∈ granted ts, cfg.initialAdmissions < entry.position ∧
    ∃ row ∈ w.db.entries.rows, row.Place entry ∧ row.state = .admitted
  admitted : ∀ row ∈ w.db.entries.rows, row.state = .admitted →
    cfg.initialAdmissions < row.position → ∃ entry ∈ KiTicket.granted ts, row.Place entry

theorem listed_of_run (run : Run (step cfg) (initial catalog) ts w) : Listed cfg ts w := by
  refine run.history (P := Listed cfg) within_any ⟨fun _ member => absurd member List.not_mem_nil,
    fun _ stored => absurd stored List.not_mem_nil⟩ ?_
  rintro ts w a w' run - listed - taken
  cases entries_cases taken
  case same entries _ grants =>
    have none : KiTicket.granted (ts ++ [⟨w, a, w'⟩]) = KiTicket.granted ts := by
      rw [granted_concat, grants, List.append_nil]
    exact ⟨by rw [none, entries]; exact listed.granted, by rw [none, entries]; exact listed.admitted⟩
  case join pid c user eventId position id token serving _ rows _ grants =>
    have none : KiTicket.granted (ts ++ [⟨w, .turn pid c, w'⟩]) = KiTicket.granted ts := by
      rw [granted_concat, grants, List.append_nil]
    refine ⟨?_, ?_⟩ <;> rw [none, rows]
    · intro entry member
      obtain ⟨beyond, row, stored, place⟩ := listed.granted entry member
      exact ⟨beyond, row, List.mem_append_left _ stored, place⟩
    · intro row stored state beyond
      rcases List.mem_append.mp stored with old | new
      · exact listed.admitted row old state beyond
      · rw [List.mem_singleton.mp new, newEntry] at state beyond
        split at state
        · rw [if_pos (by assumption)] at beyond
          dsimp only at beyond
          omega
        · cases state
  case admits pid c queued serving rows _ grants =>
    have batch := (waiting_any run).batches _ (List.mem_of_getElem? serving)
    refine ⟨?_, ?_⟩ <;> rw [granted_concat, grants, rows]
    · intro entry member
      rcases List.mem_append.mp member with old | new
      · obtain ⟨beyond, row, stored, place, state⟩ := listed.granted entry old
        obtain ⟨id, event, user, position⟩ := place_admitRow queued row
        refine ⟨beyond, _, List.mem_map_of_mem stored, ⟨id ▸ place.1, event ▸ place.2.1,
          user ▸ place.2.2.1, position ▸ place.2.2.2⟩, ?_⟩
        rcases admitRow_of_batch batch stored with ⟨-, same⟩ | ⟨-, _, _, -, same⟩
        · rw [same, state]
        · rw [same]
      · obtain ⟨row, stored, same, _, _, -, grants⟩ := exists_admitRow batch new
        exact ⟨(batch.2 entry new).1, entry, same ▸ List.mem_map_of_mem stored,
          ⟨rfl, rfl, rfl, rfl⟩, by rw [grants]⟩
    · intro row' stored state beyond
      obtain ⟨row, old, rfl⟩ := List.mem_map.mp stored
      rcases admitRow_of_batch batch old with ⟨-, same⟩ | ⟨written, -⟩
      · rw [same] at state beyond ⊢
        obtain ⟨entry, member, place⟩ := listed.admitted row old state beyond
        exact ⟨entry, List.mem_append_left _ member, place⟩
      · exact ⟨_, List.mem_append_right _ written, rfl, rfl, rfl, rfl⟩

/-! ## Nobody is overtaken -/

/-- Of the event, by any spelling. -/
def WaitingRoomEntry.For (event : Uuid) (entry : WaitingRoomEntry) : Prop :=
  uuid? entry.eventId = some event

/-- Both are of the event, and the second has the larger position. -/
def WaitingRoomEntry.Precedes (event : Uuid) (entry other : WaitingRoomEntry) : Prop :=
  entry.For event ∧ other.For event ∧ entry.position < other.position

instance {event : Uuid} : DecidableRel (WaitingRoomEntry.Precedes event) := fun entry other =>
  inferInstanceAs (Decidable (uuid? entry.eventId = some event ∧ uuid? other.eventId = some event ∧
    entry.position < other.position))

/-- No entry of the event waits that precedes one whom an admit has admitted. -/
def Orderly (event : Uuid) (ts : List (Transition World Action)) (w : World) : Prop :=
  ∀ row ∈ w.db.entries.rows, row.state = .queued → ∀ entry ∈ granted ts, ¬ row.Precedes event entry

instance {event : Uuid} : Decidable (Orderly event ts w) := by
  unfold Orderly
  infer_instance

/-- A step in turn. What a join stores as QUEUED precedes nobody whom an admit has
admitted, that is who is admitted beyond the capacity; and nobody who stays QUEUED
precedes what an admit writes. -/
def InTurn (cfg : Config) (event : Uuid) (t : Transition World Action) : Prop :=
  (∀ entry ∈ turned Proc.stores t, entry.state = .queued → ∀ row ∈ t.source.db.entries.rows,
    row.state = .admitted → cfg.initialAdmissions < row.position → ¬ entry.Precedes event row) ∧
  ∀ entry ∈ turned Proc.grants t, ∀ row ∈ t.source.db.entries.rows, row.state = .queued →
    row.id ∉ (turned Proc.grants t).map WaitingRoomEntry.id → ¬ row.Precedes event entry

instance {event : Uuid} : Decidable (InTurn cfg event t) := by
  unfold InTurn
  infer_instance

theorem WaitingRoomEntry.Place.precedes {event : Uuid} {other : WaitingRoomEntry}
    (place : row.Place entry) : other.Precedes event row ↔ other.Precedes event entry := by
  unfold WaitingRoomEntry.Precedes WaitingRoomEntry.For
  rw [place.2.1, place.2.2.2]

/-- After a step nobody is overtaken exactly when nobody was and the step is in turn. -/
theorem orderly_next {event : Uuid} (run : Run (step cfg) (initial catalog) ts w)
    (taken : step cfg w a = some w') (orderly : Orderly event ts w) :
    Orderly event (ts ++ [⟨w, a, w'⟩]) w' ↔ InTurn cfg event ⟨w, a, w'⟩ := by
  have listed := listed_of_run run
  unfold Orderly InTurn
  rw [granted_concat]
  cases entries_cases taken
  case same entries stores grants =>
    rw [entries, stores, grants, List.append_nil]
    exact iff_of_true orderly ⟨fun _ member => absurd member List.not_mem_nil,
      fun _ member => absurd member List.not_mem_nil⟩
  case join pid c user eventId position id token serving _ rows stores grants =>
    rw [rows, stores, grants, List.append_nil]
    constructor
    · intro after
      refine ⟨?_, fun _ member => absurd member List.not_mem_nil⟩
      intro new member state row stored admitted beyond
      obtain ⟨entry, chosen, place⟩ := listed.admitted row stored admitted beyond
      rw [place.precedes]
      exact after new (List.mem_append_right _ member) state entry chosen
    · rintro ⟨inTurn, -⟩ row member state entry chosen
      rcases List.mem_append.mp member with old | new
      · exact orderly row old state entry chosen
      · obtain ⟨beyond, row', stored, place, admitted⟩ := listed.granted entry chosen
        rw [← place.precedes]
        exact inTurn row new state row' stored admitted (place.2.2.2 ▸ beyond)
  case admits pid c queued serving rows stores grants =>
    have batch := (waiting_any run).batches _ (List.mem_of_getElem? serving)
    rw [rows, stores, grants]
    constructor
    · intro after
      refine ⟨fun _ member => absurd member List.not_mem_nil, ?_⟩
      intro entry chosen row stored state outside
      rcases admitRow_of_batch batch stored with ⟨-, same⟩ | ⟨written, -⟩
      · have left : row ∈ w.db.entries.rows.map (admitRow queued) :=
          same ▸ List.mem_map_of_mem stored
        exact after row left state entry (List.mem_append_right _ chosen)
      · have named := List.mem_map_of_mem (f := WaitingRoomEntry.id) written
        rw [(admitRow_named queued row).1] at named
        exact absurd named outside
    · rintro ⟨-, inTurn⟩ row' member state entry chosen
      obtain ⟨row, stored, rfl⟩ := List.mem_map.mp member
      rcases admitRow_of_batch batch stored with ⟨outside, same⟩ | ⟨-, _, _, -, same⟩
      · rw [same] at state ⊢
        rcases List.mem_append.mp chosen with old | new
        · exact orderly row stored state entry old
        · exact inTurn entry new row stored state outside
      · rw [same] at state
        cases state

/-- Nobody is overtaken in a run exactly when every step of it is in turn. -/
theorem orderly_iff (event : Uuid) (run : Run (step cfg) (initial catalog) ts w) :
    (∀ before s, before <+: ts → Run (step cfg) (initial catalog) before s →
      Orderly event before s) ↔ ∀ t ∈ ts, InTurn cfg event t := by
  refine run.prefixes_iff ?_ fun ts w a w' run taken orderly => orderly_next run taken orderly
  exact fun _ _ _ _ member => absurd member List.not_mem_nil

/-- Room for nobody. -/
def closedConfig : Config := { queueConfig with initialAdmissions := 0 }

def admin : AuthenticatedUser := ⟨['a'], .admin⟩

/-- An administrator admits the first of the queue. -/
def admitFirst (pid : Nat) (token : Text) : List Action :=
  [.request (.admitUsers admin (flatText 'e') ⟨1⟩), .turn pid { tokens := [token] }, .turn pid {}]

/-- Two customers join, one after the other, and the first one is admitted. -/
def joinedInOrder : List Action :=
  .request (.join customer (flatText 'e')) :: joinTurns 0 (flat 5) ['x'] ++
    .request (.join ⟨['v'], .customer⟩ (flatText 'e')) :: joinTurns 1 (flat 6) ['y'] ++
    admitFirst 2 queueToken

theorem joinedInOrder_enabled :
    (exec (step closedConfig) (initial sampleCatalog) joinedInOrder).isSome = true := by
  decide +kernel

theorem orderly_iff_joined : Orderly (flat 0xe)
    (transitions (step closedConfig) (initial sampleCatalog) joinedInOrder)
    (replay _ _ _ joinedInOrder_enabled) :=
  (orderly_iff (flat 0xe) (run_replay joinedInOrder_enabled)).mpr (by decide +kernel) _ _
    List.prefix_rfl (run_replay joinedInOrder_enabled)

/-- The first customer has drawn position 1 when the second, with position 2, is stored
and admitted; then the first one is stored. -/
def overtaking : List Action :=
  .request (.join customer (flatText 'e')) :: (joinTurns 0 (flat 5) ['x']).take 3 ++
    .request (.join ⟨['v'], .customer⟩ (flatText 'e')) :: joinTurns 1 (flat 6) ['y'] ++
    admitFirst 2 queueToken ++ (joinTurns 0 (flat 5) ['x']).drop 3

private theorem overtaking_enabled :
    (exec (step closedConfig) (initial sampleCatalog) overtaking).isSome = true := by
  decide +kernel

/-- And waits behind the second. -/
theorem first_overtaken :
    ¬ ∀ (cfg : Config) (catalog : Catalog) (ts : List (Transition World Action)) (w : World)
      (event : Uuid), Run (step cfg) (initial catalog) ts w → Orderly event ts w := by
  intro orderly
  have first := orderly _ _ _ _ (flat 0xe) (run_replay overtaking_enabled)
  revert first
  decide +kernel

end KiTicket
