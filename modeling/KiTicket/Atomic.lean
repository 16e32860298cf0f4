import KiTicket.Progress

/-! All or nothing. A request reads, writes the database in one of its turns, and only then
announces what it wrote; whatever goes wrong before that turn leaves the database and the
subscribers as they were, and nothing that goes wrong after it turns into an error. The
exceptions are the sweep, which writes once for each reservation, and `createSector`, which
stores the sector before its seats. -/
namespace KiTicket
open Reservations Payments WaitingRoom Tickets Runs

variable {cfg : Config} {c : Choice} {held : List RowLock} {server server' : Server} {p p' : Proc}
  {s s' : Site} {pid : Nat} {ts : List (Transition Site Site.Action)}

/-- A handler that has not written yet, or has been answered. -/
def Proc.reading : Proc → Bool
  | .expire _ | .create (.announce _ _) | .cancel (.release _ _) | .start (.announce _ _)
  | .complete (.release _) => false
  | _ => true

/-- A handler that has written. What can still become of it is a success, or a crash. -/
def Proc.settled : Proc → Bool
  | .create (.announce _ _) | .cancel (.release _ _) | .start (.announce _ _)
  | .complete (.release _) => true
  | .done (.error failure) => failure = .crash
  | .done _ => true
  | _ => false

/-- Neither the database nor the events sent have changed. -/
def Server.Untouched (server server' : Server) : Prop :=
  server'.db = server.db ∧ server'.log = server.log

/-- What a turn of a handler that has not written does. -/
def Server.Writes (server server' : Server) (p' : Proc) : Prop :=
  p'.reading = true ∧ server.Untouched server' ∨ p'.settled = true ∧ server'.log = server.log

theorem Server.writes_of_refused {σ : Type} {wrap : σ → Proc} {next : Next σ} {failure : Failure}
    (refused : server.refuse failure = some (server', next)) : server.Writes server' (next.proc wrap) := by
  cases refused
  exact .inl ⟨rfl, rfl, rfl⟩

theorem Reservations.Create.writes {state : Create} {next : Next Create}
    (turn : state.turn cfg c server = some (server', next))
    (reading : (Proc.create state).reading = true) :
    server.Writes server' (next.proc .create) := by
  cases state <;> try cases reading
  all_goals
    simp only [Create.turn] at turn
    grind [Server.Writes, Server.Untouched, Server.refuse, Server.stay, Next.proc, Proc.reading,
      Proc.settled, releaseLocks, Server.emit]

theorem Reservations.Cancel.writes {state : Cancel} {next : Next Cancel}
    (turn : state.turn held server = some (server', next))
    (reading : (Proc.cancel state).reading = true) :
    server.Writes server' (next.proc .cancel) := by
  cases state <;> try cases reading
  all_goals
    simp only [Cancel.turn] at turn
    grind [Server.Writes, Server.Untouched, Server.refuse, Server.stay, Next.proc, Proc.reading,
      Proc.settled, Cancel.finish, releaseLocks, Server.emit]

theorem Payments.Start.writes {state : Start} {next : Next Start}
    (turn : state.turn c server = some (server', next)) (reading : (Proc.start state).reading = true) :
    server.Writes server' (next.proc .start) := by
  cases state <;> try cases reading
  all_goals
    simp only [Start.turn] at turn
    grind [Server.Writes, Server.Untouched, Server.refuse, Server.stay, Next.proc, Proc.reading,
      Proc.settled, Server.emit]

theorem Payments.Complete.writes {state : Complete} {next : Next Complete}
    (turn : state.turn cfg c held server = some (server', next))
    (reading : (Proc.complete state).reading = true) :
    server.Writes server' (next.proc .complete) := by
  cases state <;> try cases reading
  all_goals
    simp only [Complete.turn] at turn
    grind [Server.Writes, Server.Untouched, Server.refuse, Server.stay, Next.proc, Proc.reading,
      Proc.settled, Complete.finish, releaseLocks, Server.emit]

theorem Tickets.CheckIn.writes {state : CheckIn} {next : Next CheckIn}
    (turn : state.turn c server = some (server', next)) (reading : (Proc.checkIn state).reading = true) :
    server.Writes server' (next.proc .checkIn) := by
  cases state <;> try cases reading
  all_goals
    simp only [CheckIn.turn] at turn
    grind [Server.Writes, Server.Untouched, Server.refuse, Server.stay, Next.proc, Proc.reading,
      Proc.settled]

theorem WaitingRoom.Join.writes {state : Join} {next : Next Join}
    (turn : state.turn cfg c server = some (server', next)) (reading : (Proc.join state).reading = true) :
    server.Writes server' (next.proc .join) := by
  cases state <;> try cases reading
  all_goals
    simp only [Join.turn] at turn
    grind [Server.Writes, Server.Untouched, Server.refuse, Server.stay, Next.proc, Proc.reading,
      Proc.settled]

theorem WaitingRoom.Admit.writes {state : Admit} {next : Next Admit}
    (turn : state.turn cfg c server = some (server', next))
    (reading : (Proc.admitUsers state).reading = true) :
    server.Writes server' (next.proc .admitUsers) := by
  cases state <;> try cases reading
  all_goals
    simp only [Admit.turn] at turn
    grind [Server.Writes, Server.Untouched, Server.refuse, Server.stay, Next.proc, Proc.reading,
      Proc.settled]

theorem Reservations.Create.writes_fault {state : Create} {next : Next Create}
    (turn : state.fault server = some (server', next)) : server.Writes server' (next.proc .create) := by
  cases state <;> simp only [Create.fault] at turn
  case announce => cases turn
  case findOccupied | save =>
    cases turn
    exact .inl ⟨rfl, rfl, rfl⟩
  all_goals exact Server.writes_of_refused turn

theorem Proc.writes (turn : p.turn cfg c held server = some (server', p')) (reading : p.reading = true) :
    server.Writes server' p' := by
  cases p <;> simp only [Proc.turn, turnOf_eq_some] at turn
  case done => cases turn
  case expire => cases reading
  all_goals
    obtain ⟨next, turn, rfl⟩ := turn
    split at turn
  · exact Create.writes_fault turn
  · exact Create.writes turn reading
  · rename_i state _
    cases state <;> try exact Server.writes_of_refused turn
    cases reading
  · exact Cancel.writes turn reading
  · rename_i state _
    cases state <;> try exact Server.writes_of_refused turn
    cases reading
  · exact Start.writes turn reading
  · rename_i state _
    cases state <;> try exact Server.writes_of_refused turn
    cases reading
  · exact Complete.writes turn reading
  · exact Server.writes_of_refused turn
  · exact CheckIn.writes turn reading
  · exact Server.writes_of_refused turn
  · exact Join.writes turn reading
  · exact Server.writes_of_refused turn
  · exact Admit.writes turn reading

/-- What follows the write changes the database no more, and does not fail. -/
theorem Proc.settles (turn : p.turn cfg c held server = some (server', p')) (settled : p.settled = true) :
    server'.db = server.db ∧ p'.settled = true := by
  cases p <;> simp only [Proc.turn, turnOf_eq_some] at turn
  case done => cases turn
  case create state =>
    obtain ⟨next, turn, rfl⟩ := turn
    cases state <;> try cases settled
    split at turn <;> cases turn
    exact ⟨rfl, rfl⟩
  case cancel state =>
    obtain ⟨next, turn, rfl⟩ := turn
    cases state <;> try cases settled
    split at turn <;> cases turn <;> exact ⟨rfl, rfl⟩
  case start state =>
    obtain ⟨next, turn, rfl⟩ := turn
    cases state <;> try cases settled
    split at turn <;> cases turn
    exact ⟨rfl, rfl⟩
  case complete state =>
    obtain ⟨next, turn, rfl⟩ := turn
    cases state <;> try cases settled
    split at turn <;> cases turn <;> exact ⟨rfl, rfl⟩
  all_goals cases settled

/-! ## Over a run -/

theorem Site.booking_cases {a : Site.Action} (serving : s.world.procs[pid]? = some p)
    (taken : Site.step cfg s a = some s') :
    ∃ p', s'.world.procs[pid]? = some p' ∧ (p' = p ∧ (∀ c, a ≠ .booking (.turn pid c)) ∨
      p' = .done (.error .crash) ∧ a = .booking (.crash pid) ∨
      ∃ c held, a = .booking (.turn pid c) ∧
        p.turn cfg c held s.world.shared = some (s'.world.shared, p')) := by
  cases Site.step_cases taken
  case booking a world moves =>
    rcases proc_cases moves serving with ⟨same, other⟩ | ⟨rfl, crashed⟩ | ⟨c, p', rfl, served, turn⟩
    · exact ⟨p, same, .inl ⟨rfl, fun c mine => other c (Site.Action.booking.inj mine)⟩⟩
    · exact ⟨_, crashed, .inr (.inl ⟨rfl, rfl⟩)⟩
    · exact ⟨p', served, .inr (.inr ⟨c, _, rfl, turn⟩)⟩
  all_goals exact ⟨p, serving, .inl ⟨rfl, fun _ mine => by cases mine⟩⟩

theorem catalogTurn_iff {t : Transition Site Site.Action} :
    catalogTurn pid t = true ↔ ∃ c, t.action = .turn pid c := by
  unfold catalogTurn
  split
  · rename_i i c named
    simp only [decide_eq_true_eq, named, Site.Action.turn.injEq]
    constructor
    · exact fun same => ⟨c, same, rfl⟩
    · rintro ⟨_, same, -⟩
      exact same
  · rename_i other
    refine iff_of_false Bool.false_ne_true ?_
    rintro ⟨c, named⟩
    exact other pid c named

variable {listing listing' : Listing} {q q' : CatalogProc}

def Reply.refuses : Reply → Bool
  | .error _ | .badRequest _ => true
  | _ => false

/-- A catalog request other than `createSector`, which may have been answered. -/
def CatalogProc.single : CatalogProc → Bool
  | .createSector _ => false
  | _ => true

/-- It has been answered, and not with an error. -/
def CatalogProc.granted : CatalogProc → Bool
  | .done reply => !reply.refuses
  | _ => false

/-- What a turn of such a request does: nothing, or everything. -/
def Listing.Writes (listing listing' : Listing) (q' : CatalogProc) : Prop :=
  q'.single = true ∧ listing' = listing ∨ q'.granted = true

theorem Venues.Create.writes {state : Venues.Create} {after : After Venues.Create}
    (turn : state.turn c listing = some (listing', after)) :
    listing.Writes listing' (after.proc .createVenue) := by
  cases state
  simp only [Venues.Create.turn] at turn
  repeat' split at turn
  all_goals cases turn
  all_goals first | exact .inl ⟨rfl, rfl⟩ | exact .inr rfl

theorem Events.Create.writes {state : Events.Create} {after : After Events.Create}
    (turn : state.turn c listing = some (listing', after)) :
    listing.Writes listing' (after.proc .createEvent) := by
  cases state <;> simp only [Events.Create.turn] at turn
  all_goals
    repeat' split at turn
    all_goals cases turn
    all_goals first | exact .inl ⟨rfl, rfl⟩ | exact .inr rfl

theorem Events.Update.writes {state : Events.Update} {after : After Events.Update}
    (turn : state.turn c listing = some (listing', after)) :
    listing.Writes listing' (after.proc .updateEvent) := by
  cases state <;> simp only [Events.Update.turn] at turn
  all_goals
    repeat' split at turn
    all_goals cases turn
    all_goals first | exact .inl ⟨rfl, rfl⟩ | exact .inr rfl

theorem Events.AddPricing.writes {state : Events.AddPricing} {after : After Events.AddPricing}
    (turn : state.turn c listing = some (listing', after)) :
    listing.Writes listing' (after.proc .addPricing) := by
  cases state <;> simp only [Events.AddPricing.turn] at turn
  all_goals
    repeat' split at turn
    all_goals cases turn
    all_goals first | exact .inl ⟨rfl, rfl⟩ | exact .inr rfl

theorem Events.Publish.writes {state : Events.Publish} {after : After Events.Publish}
    (turn : state.turn listing = some (listing', after)) :
    listing.Writes listing' (after.proc .publish) := by
  cases state <;> simp only [Events.Publish.turn] at turn
  all_goals
    repeat' split at turn
    all_goals cases turn
    all_goals first | exact .inl ⟨rfl, rfl⟩ | exact .inr rfl

theorem CatalogProc.writes (turn : q.turn c listing = some (listing', q')) (single : q.single = true) :
    listing.Writes listing' q' := by
  cases q <;> simp only [CatalogProc.turn, afterOf_eq_some] at turn
  case done => cases turn
  case createSector => cases single
  all_goals
    obtain ⟨after, turn, rfl⟩ := turn
    split at turn
    · cases turn
      exact .inl ⟨rfl, rfl⟩
  · exact Venues.Create.writes turn
  · exact Events.Create.writes turn
  · exact Events.Update.writes turn
  · exact Events.AddPricing.writes turn
  · exact Events.Publish.writes turn

def Site.InCatalogPhase (pid : Nat) (phase : CatalogProc → Bool) (s : Site) : Prop :=
  ∃ q, s.procs[pid]? = some q ∧ phase q = true

theorem Site.catalog_cases {a : Site.Action} (serving : s.procs[pid]? = some q)
    (taken : Site.step cfg s a = some s') :
    ∃ q', s'.procs[pid]? = some q' ∧ (q' = q ∧ (∀ c, a ≠ .turn pid c) ∨
      q' = .done (.error .crash) ∧ a = .crash pid ∧ (∀ reply, q ≠ .done reply) ∨
      ∃ c, a = .turn pid c ∧ q.turn c s.listing = some (s'.listing, q')) := by
  have size : pid < s.procs.length := (List.getElem?_eq_some_iff.mp serving).1
  cases Site.step_cases taken
  case booking => exact ⟨q, serving, .inl ⟨rfl, fun _ mine => by cases mine⟩⟩
  case request =>
    exact ⟨q, (List.getElem?_append_left size).trans serving, .inl ⟨rfl, fun _ mine => by cases mine⟩⟩
  case turn other c p p' listing at_other turn =>
    by_cases same : other = pid
    · subst same
      cases serving.symm.trans at_other
      exact ⟨p', List.getElem?_set_self size, .inr (.inr ⟨c, rfl, turn⟩)⟩
    · refine ⟨q, (List.getElem?_set_ne same).trans serving, .inl ⟨rfl, fun _ mine => ?_⟩⟩
      exact same (Site.Action.turn.inj mine).1
  case crash other p at_other =>
    by_cases same : other = pid
    · subst same
      refine ⟨_, List.getElem?_set_self size, .inr (.inl ⟨rfl, rfl, ?_⟩)⟩
      rintro reply rfl
      simp [Site.step, serving] at taken
    · exact ⟨q, (List.getElem?_set_ne same).trans serving, .inl ⟨rfl, fun _ mine => by cases mine⟩⟩

theorem single_step {a : Site.Action} (handles : s.InCatalogPhase pid CatalogProc.single)
    (taken : Site.step cfg s a = some s') :
    s'.InCatalogPhase pid CatalogProc.single ∧
        (catalogTurn pid ⟨s, a, s'⟩ = true → s'.listing = s.listing) ∨
      s'.InCatalogPhase pid CatalogProc.granted ∧ catalogTurn pid ⟨s, a, s'⟩ = true ∧ True := by
  obtain ⟨q, serving, single⟩ := handles
  obtain ⟨q', served, ⟨rfl, other⟩ | ⟨rfl, rfl, -⟩ | ⟨c, rfl, turn⟩⟩ := Site.catalog_cases serving taken
  · refine .inl ⟨⟨q', served, single⟩, fun own => ?_⟩
    obtain ⟨c, mine⟩ := catalogTurn_iff.mp own
    exact absurd mine (other c)
  · exact .inl ⟨⟨_, served, rfl⟩, nofun⟩
  · have own : catalogTurn pid ⟨s, .turn pid c, s'⟩ = true := catalogTurn_iff.mpr ⟨c, rfl⟩
    rcases CatalogProc.writes turn single with ⟨single', same⟩ | granted
    · exact .inl ⟨⟨q', served, single'⟩, fun _ => same⟩
    · exact .inr ⟨⟨q', served, granted⟩, own, trivial⟩

theorem granted_step {a : Site.Action} (handles : s.InCatalogPhase pid CatalogProc.granted)
    (taken : Site.step cfg s a = some s') :
    s'.InCatalogPhase pid CatalogProc.granted ∧ (catalogTurn pid ⟨s, a, s'⟩ = true → False) := by
  obtain ⟨q, serving, granted⟩ := handles
  cases q with
  | done reply =>
    obtain ⟨q', served, ⟨rfl, other⟩ | ⟨-, -, open'⟩ | ⟨c, -, turn⟩⟩ := Site.catalog_cases serving taken
    · refine ⟨⟨_, served, granted⟩, fun own => ?_⟩
      obtain ⟨c, mine⟩ := catalogTurn_iff.mp own
      exact other c mine
    · exact absurd rfl (open' reply)
    · cases turn
  | _ => cases granted

/-- The request either changes nothing, or it changes the catalog in its last turn, and is
answered with what it stored. -/
def CatalogWritesOnce (pid : Nat) (ts : List (Transition Site Site.Action)) (s : Site) : Prop :=
  (∀ t ∈ ts, catalogTurn pid t = true → t.target.listing = t.source.listing) ∨
  ∃ before t after, ts = before ++ t :: after ∧ catalogTurn pid t = true ∧
    (∀ u ∈ before, catalogTurn pid u = true → u.target.listing = u.source.listing) ∧
    (∀ u ∈ after, catalogTurn pid u = false) ∧
    ∃ reply, s.procs[pid]? = some (.done reply) ∧ reply.refuses = false

theorem catalog_writes_once {r : CatalogRequest} (run : Run (Site.step cfg) s ts s')
    (serving : s.procs[pid]? = some r.proc) (single : r.proc.single = true) :
    CatalogWritesOnce pid ts s' := by
  have phases : s'.InCatalogPhase pid CatalogProc.single ∧
        (∀ t ∈ ts, catalogTurn pid t = true → t.target.listing = t.source.listing) ∨
      s'.InCatalogPhase pid CatalogProc.granted ∧ ∃ before t after, ts = before ++ t :: after ∧
        catalogTurn pid t = true ∧ True ∧
        (∀ u ∈ before, catalogTurn pid u = true → u.target.listing = u.source.listing) ∧
        ∀ u ∈ after, catalogTurn pid u = true → False :=
    run.before_or_after ⟨_, serving, single⟩ (fun _ _ _ => single_step) fun _ _ _ => granted_step
  rcases phases with
    ⟨-, same⟩ | ⟨⟨q, served, granted⟩, before, t, after, split, own, -, same, finished⟩
  · exact .inl same
  · cases q with
    | done reply =>
      refine .inr ⟨before, t, after, split, own, same, fun u member => ?_, reply, served, ?_⟩
      · exact Bool.eq_false_iff.mpr (finished u member)
      · simpa [CatalogProc.granted] using granted
    | _ => cases granted

def samplePublish : CatalogRequest := .publish organizer (flatText 'e')

theorem publishing_enabled :
    (exec (Site.step sampleConfig) .empty (setUp ++ price 3 (flat 0xc) ++ [.request samplePublish])).isSome =
      true := by
  decide +kernel

theorem published_enabled : (exec (Site.step sampleConfig) (launched _ publishing_enabled)
    [.turn 4 {}, .turn 4 {}, .turn 4 {}]).isSome = true := by
  decide +kernel

theorem catalog_writes_once_published :
    CatalogWritesOnce 4 (transitions (Site.step sampleConfig) (launched _ publishing_enabled)
      [.turn 4 {}, .turn 4 {}, .turn 4 {}]) (replay (Site.step sampleConfig) _ _ published_enabled) :=
  catalog_writes_once (r := samplePublish) (run_replay published_enabled) (by decide +kernel) rfl

end KiTicket
