import KiTicket.Tokens

/-! One place for each user and event. A join asks for the user's active entry, draws a
position and stores an entry, and nothing ties the three together: what keeps a user at
one place is that nobody else stores an entry of his in between. -/
namespace KiTicket
open Runs WaitingRoom

variable {cfg : Config} {catalog : Catalog} {w w' : World} {a : Action} {c : Choice} {pid : Nat}
  {ts : List (Transition World Action)} {t : Transition World Action} {drawn : Text → Prop}
  {row other entry : WaitingRoomEntry} {now now' : Nat} {user : AuthenticatedUser} {eventId : Text}

/-- QUEUED, or ADMITTED with an unexpired token. -/
def WaitingRoomEntry.ActiveAt (now : Nat) (row : WaitingRoomEntry) : Prop :=
  row.state = .queued ∨ (row.state = .admitted ∧ ∃ expiresAt ∈ row.tokenExpiresAt, now < expiresAt)

/-- Of one user and one event, by any spelling. -/
def WaitingRoomEntry.Beside (row other : WaitingRoomEntry) : Prop :=
  uuid? row.eventId = uuid? other.eventId ∧ row.userId = other.userId

/-- The clock reading of a step. -/
def reading (t : Transition World Action) : Nat :=
  match t.action with
  | .turn _ c => c.now
  | _ => 0

/-- The latest time anybody has read in a run. -/
def latest (ts : List (Transition World Action)) : Nat := (ts.map reading).foldl max 0

@[simp] theorem latest_concat : latest (ts ++ [t]) = max (latest ts) (reading t) := by
  simp [latest]

theorem WaitingRoomEntry.ActiveAt.earlier (active : row.ActiveAt now') (before : now ≤ now') :
    row.ActiveAt now := by
  rcases active with queued | ⟨admitted, expiresAt, mine, later⟩
  · exact .inl queued
  · exact .inr ⟨admitted, expiresAt, mine, before.trans_lt later⟩

instance : Decidable (row.ActiveAt now) := by
  unfold WaitingRoomEntry.ActiveAt
  infer_instance

instance : Decidable (row.Beside other) := by
  unfold WaitingRoomEntry.Beside
  infer_instance

/-- Whose active entry a join looks up in a turn, and the spelling it goes by. -/
def Proc.asks : Proc → Proc → List (AuthenticatedUser × Text)
  | .join (.findActive user eventId), _ => [(user, eventId)]
  | _, _ => []

/-- A step that keeps every user at one place: a join stores its entry when no other of
the same user and event is active, and the clock of the database has moved on since
they were stored; an admit writes what is QUEUED; and a join asks for the event as the
user's active entry spells it. -/
structure Single (before : List (Transition World Action)) (t : Transition World Action) : Prop where
  stores : ∀ entry ∈ turned Proc.stores t, ∀ row ∈ t.source.db.entries.rows, row.Beside entry →
    ¬ row.ActiveAt (latest (before ++ [t])) ∧ row.createdAt < entry.createdAt
  grants : FirstGrant t
  asks : ∀ ask ∈ turned Proc.asks t, ∀ row ∈ t.source.db.entries.rows, row.userId = ask.1.sub →
    uuid? row.eventId = uuid? ask.2 → row.ActiveAt (latest (before ++ [t])) → row.eventId = ask.2

theorem single_iff {before : List (Transition World Action)} : Single before t ↔
    (∀ entry ∈ turned Proc.stores t, ∀ row ∈ t.source.db.entries.rows, row.Beside entry →
      ¬ row.ActiveAt (latest (before ++ [t])) ∧ row.createdAt < entry.createdAt) ∧ FirstGrant t ∧
    ∀ ask ∈ turned Proc.asks t, ∀ row ∈ t.source.db.entries.rows, row.userId = ask.1.sub →
      uuid? row.eventId = uuid? ask.2 → row.ActiveAt (latest (before ++ [t])) → row.eventId = ask.2 :=
  ⟨fun ⟨stores, grants, asks⟩ => ⟨stores, grants, asks⟩,
    fun ⟨stores, grants, asks⟩ => ⟨stores, grants, asks⟩⟩

instance {before : List (Transition World Action)} : Decidable (Single before t) :=
  decidable_of_iff _ single_iff.symm

/-- Of two entries the first is over, and it is the older one. -/
def WaitingRoomEntry.Past (now : Nat) (row other : WaitingRoomEntry) : Prop :=
  row.Beside other → ¬ row.ActiveAt now ∧ row.createdAt < other.createdAt

theorem WaitingRoomEntry.Past.later (past : row.Past now other) (before : now ≤ now') :
    row.Past now' other :=
  fun beside => ⟨fun active => (past beside).1 (active.earlier before), (past beside).2⟩

/-- What is over is not written again. -/
theorem past_admitRow {queued : List WaitingRoomEntry}
    (first : ∀ entry ∈ queued, entry.id = row.id → row.state = .queued)
    (past : row.Past now other) : (admitRow queued row).Past now (admitRow queued other) := by
  intro beside
  have same : row.Beside other := by
    obtain ⟨-, user, event⟩ := admitRow_named queued row
    obtain ⟨-, user', event'⟩ := admitRow_named queued other
    unfold WaitingRoomEntry.Beside at beside
    rwa [user, event, user', event'] at beside
  obtain ⟨ended, older⟩ := past same
  have created (row : WaitingRoomEntry) : (admitRow queued row).createdAt = row.createdAt := by
    rcases admitRow_cases queued row with same | ⟨_, -, -, same⟩ <;> rw [same]
  rw [created, created]
  refine ⟨?_, older⟩
  rcases admitRow_cases queued row with same | ⟨entry, member, id, -⟩
  · rwa [same]
  · exact absurd (.inl (first entry member id)) ended

/-- The entries of a user for an event, in the order they were stored: all but the last
are over. -/
theorem past_of_run (run : Run (step cfg) (initial catalog) ts w)
    (single : ∀ before t, before ++ [t] <+: ts → Single before t) :
    w.db.entries.rows.Pairwise (WaitingRoomEntry.Past (latest ts)) := by
  refine run.history (P := fun ts w => (∀ before t, before ++ [t] <+: ts → Single before t) →
    w.db.entries.rows.Pairwise (WaitingRoomEntry.Past (latest ts))) within_any
    (fun _ => .nil) ?_ single
  rintro ts w a w' run - ih - taken single
  have last := single ts _ List.prefix_rfl
  have later : latest ts ≤ latest (ts ++ [⟨w, a, w'⟩]) := by simp
  have past := (ih fun before t front => single before t (front.trans (List.prefix_append _ _))).imp
    fun past => past.later later
  cases entries_cases taken
  case same entries _ _ =>
    rwa [entries]
  case join pid c user eventId position id token serving _ rows stores _ =>
    rw [rows, List.pairwise_append]
    refine ⟨past, List.pairwise_singleton _ _, fun row stored new member beside => ?_⟩
    exact last.stores new (stores ▸ member) row stored beside
  case admits pid c queued serving rows _ grants =>
    rw [rows, List.pairwise_map]
    refine past.imp_of_mem fun {row other} stored _ past => ?_
    exact past_admitRow (fun entry member same => last.grants entry (grants ▸ member) row stored
      same.symm) past

/-- Of two different entries of one user and event one is past. -/
theorem past_or_past (past : w.db.entries.rows.Pairwise (WaitingRoomEntry.Past now))
    (left : row ∈ w.db.entries.rows) (right : other ∈ w.db.entries.rows) (apart : row ≠ other) :
    row.Past now other ∨ other.Past now row := by
  have symm : Std.Symm fun row other : WaitingRoomEntry => row.Past now other ∨ other.Past now row :=
    ⟨fun _ _ either => either.symm⟩
  have either : w.db.entries.rows.Pairwise fun row other => row.Past now other ∨ other.Past now row :=
    past.imp Or.inl
  exact either.forall left right apart

/-! ## Asking again -/

/-- The active entry is the newest one, if it has the spelling that is asked for. -/
theorem newestActive_eq (past : w.db.entries.rows.Pairwise (WaitingRoomEntry.Past now))
    (stored : row ∈ w.db.entries.rows) (active : row.ActiveAt now)
    (mine : row.userId = user.sub) (spelled : row.eventId = eventId) :
    newestActive w.db.entries.rows eventId user.sub = some row := by
  have found : row ∈ w.db.entries.rows.filter fun entry => entry.eventId = eventId ∧
      entry.userId = user.sub ∧ (entry.state = .queued ∨ entry.state = .admitted) :=
    List.mem_filter.mpr ⟨stored, decide_eq_true ⟨spelled, mine, active.imp_right And.left⟩⟩
  -- everybody else who is found is older
  have newest : ∀ other ∈ w.db.entries.rows.filter (fun entry => entry.eventId = eventId ∧
      entry.userId = user.sub ∧ (entry.state = .queued ∨ entry.state = .admitted)),
      other ≠ row → other.createdAt < row.createdAt := by
    intro other member apart
    obtain ⟨stored', chosen⟩ := List.mem_filter.mp member
    obtain ⟨spelled', mine', -⟩ := of_decide_eq_true chosen
    have beside : other.Beside row := ⟨by rw [spelled', spelled], mine'.trans mine.symm⟩
    rcases past_or_past past stored' stored apart with ended | ended
    · exact (ended beside).2
    · exact absurd active (ended ⟨beside.1.symm, beside.2.symm⟩).1
  refine List.argmax_eq_some_iff.mpr ⟨found, fun other member => ?_, fun other member equal => ?_⟩
  · by_cases same : other = row
    · rw [same]
    · exact Nat.le_of_lt (newest other member same)
  · by_cases same : other = row
    · rw [same]
    · exact absurd (newest other member same) (Nat.not_lt.mpr equal)

/-- Who asks while his entry is active gets it, and nothing else happens. -/
theorem answered_of_active (taken : step cfg w (.turn pid c) = some w') (calls : c.fault = false)
    (waiting : Waiting cfg drawn w) (past : w.db.entries.rows.Pairwise (WaitingRoomEntry.Past now))
    (current : c.now ≤ now) (serving : w.procs[pid]? = some (.join (.findActive user eventId)))
    (stored : row ∈ w.db.entries.rows) (active : row.ActiveAt now) (mine : row.userId = user.sub)
    (spelled : row.eventId = eventId) :
    w' = ⟨w.shared, w.procs.set pid (.done (.entry row))⟩ := by
  obtain ⟨p, p', at_pid, turn, procs⟩ := step_turn taken
  rw [serving, Option.some.injEq] at at_pid
  subst at_pid
  have unexpired : (row.tokenExpiresAt.all fun expiresAt => decide (c.now < expiresAt)) = true := by
    rcases active with queued | ⟨-, expiresAt, expires, later⟩
    · rcases waiting.rows row stored with ⟨-, -, -, none⟩ | ⟨admitted, -⟩
      · rw [none]
        rfl
      · cases queued.symm.trans admitted
    · rw [Option.mem_def.mp expires, Option.all_some, decide_eq_true_eq]
      omega
  simp only [Proc.turn, turnOf_eq_some, calls, Bool.false_eq_true, if_false, Join.turn,
    newestActive_eq past stored active mine spelled, unexpired, if_true] at turn
  obtain ⟨next, turn, rfl⟩ := turn
  obtain ⟨shared, rfl⟩ := Prod.mk.inj (Option.some.inj turn)
  cases w'
  cases shared
  cases procs
  rfl

/-- No two entries of a user and event are active at a time. -/
def OnePlace (now : Nat) (w : World) : Prop :=
  ∀ row ∈ w.db.entries.rows, ∀ other ∈ w.db.entries.rows,
    row.Beside other → row.ActiveAt now → other.ActiveAt now → row = other

/-- In a run whose steps keep everybody at one place no two entries of a user and event
are active at any time from its last moment on, and every join that asks while such an
entry is active is answered with it and changes nothing. -/
theorem one_place (run : Run (step cfg) (initial catalog) ts w)
    (single : ∀ before t, before ++ [t] <+: ts → Single before t) :
    (∀ now, latest ts ≤ now → OnePlace now w) ∧
    ∀ before t, before ++ [t] <+: ts → ∀ pid c user eventId, t.action = .turn pid c →
      c.fault = false → t.source.procs[pid]? = some (.join (.findActive user eventId)) →
      ∀ row ∈ t.source.db.entries.rows, row.userId = user.sub → uuid? row.eventId = uuid? eventId →
        row.ActiveAt (latest (before ++ [t])) →
          t.target = ⟨t.source.shared, t.source.procs.set pid (.done (.entry row))⟩ := by
  constructor
  · intro now current row left other right beside active active'
    by_contra apart
    have past := (past_of_run run single).imp fun past => past.later current
    rcases past_or_past past left right apart with ended | ended
    · exact (ended beside).1 active
    · exact (ended ⟨beside.1.symm, beside.2.symm⟩).1 active'
  · rintro before ⟨w, a, w'⟩ front pid c user eventId rfl calls serving row stored mine event active
    obtain ⟨after, rfl⟩ := front
    rw [List.append_assoc, List.singleton_append] at run
    obtain ⟨reaches, taken, -⟩ := run.cut
    obtain ⟨_, p', -, -, procs⟩ := step_turn taken
    have asks : (user, eventId) ∈ turned Proc.asks ⟨w, .turn pid c, w'⟩ := by
      rw [turned_of_turn serving procs]
      exact List.mem_singleton_self _
    have here := single before _ (List.prefix_append _ _)
    have past := past_of_run reaches fun front t early => single front t
      (early.trans ((List.prefix_append before _).trans (List.prefix_append _ _)))
    refine answered_of_active taken calls (waiting_any reaches)
      (past.imp fun past => past.later (by simp)) ?_ serving stored active mine
      (here.asks _ asks row stored mine event active)
    rw [latest_concat]
    exact Nat.le_max_right _ _

/-- A customer joins, and joins again while he is waiting. -/
def joinedAgain : List Action :=
  .request (.join customer (flatText 'e')) :: joinTurns 0 (flat 5) ['x'] ++
    .request (.join customer (flatText 'e')) :: (joinTurns 1 (flat 6) ['y']).take 2

theorem joinedAgain_enabled :
    (exec (step closedConfig) (initial sampleCatalog) joinedAgain).isSome = true := by
  decide +kernel

theorem one_place_again :
    OnePlace (latest (transitions (step closedConfig) (initial sampleCatalog) joinedAgain))
      (replay _ _ _ joinedAgain_enabled) :=
  (one_place (run_replay joinedAgain_enabled)
    (Lists.forall_prefix_iff.mpr (by decide +kernel))).1 _ (Nat.le_refl _)

/-- A customer joins in two tabs at once: both look up his entry before either has
stored one. -/
def joinedTogether : List Action :=
  [.request (.join customer (flatText 'e')), .request (.join customer (flatText 'e'))] ++
    (joinTurns 0 (flat 5) ['x']).take 2 ++ joinTurns 1 (flat 6) ['y'] ++
    (joinTurns 0 (flat 5) ['x']).drop 2

private theorem joinedTogether_enabled :
    (exec (step closedConfig) (initial sampleCatalog) joinedTogether).isSome = true := by
  decide +kernel

/-- And waits twice. -/
theorem two_places :
    ¬ ∀ (cfg : Config) (catalog : Catalog) (ts : List (Transition World Action)) (w : World),
      Run (step cfg) (initial catalog) ts w → ∀ now, latest ts ≤ now → OnePlace now w := by
  intro single
  have once := single _ _ _ _ (run_replay joinedTogether_enabled) 0 (by decide +kernel)
  revert once
  unfold OnePlace
  decide +kernel

end KiTicket
