import KiTicket.Site

/-! A call of the catalog served alone: the answer to it and the site it leaves, where
nobody else takes a turn in between. What is proved of a call alone is about a run of the
site, and of two calls side by side. -/
namespace KiTicket
open Runs Events

variable {cfg : Config} {s : Site} {listing : Listing} {choices rest : List Choice} {c : Choice}
  {reply : Reply} {r : CatalogRequest} {p : CatalogProc}

inductive PageRead where
  | detail (now : Nat) (id : Text)
  | analytics (user : AuthenticatedUser) (id : Text)
  | layout (id : Text)
  | listOwned (user : AuthenticatedUser)

inductive CatalogCall where
  | read (read : PageRead)
  | write (request : CatalogRequest)

inductive Answer where
  /-- Turned away by the role guard. -/
  | forbidden
  | page (outcome : Except Failure EventDetail)
  | figures (outcome : Except Failure Analytics)
  | layout (outcome : Except Failure Venues.Layout)
  | events (events : List EventEntity)
  | reply (reply : Reply)

def Site.read (s : Site) : PageRead → Answer
  | .detail now id => .page (detail s.venues s.db now id)
  | .analytics user id =>
    if organizes user then .figures (analytics s.db user id) else .forbidden
  | .layout id => .layout (Venues.layout s.listing id)
  | .listOwned user => if organizes user then .events (listOwned s.listing user) else .forbidden

/-- A catalog request to its end, with nobody in between. -/
def CatalogProc.alone : List Choice → Listing → CatalogProc → Option (Listing × Reply)
  | _, listing, .done reply => some (listing, reply)
  | [], _, _ => none
  | c :: choices, listing, p =>
    (p.turn c listing).bind fun (listing', p') => alone choices listing' p'

/-- The site once a request was answered. -/
def Site.answered (s : Site) (served : Listing × Reply) : Site × Answer :=
  ({ s.relist served.1 with procs := s.procs ++ [.done served.2] }, .reply served.2)

/-- The site a call leaves and the answer to it, with nobody in between. -/
def Site.serve (s : Site) (choices : List Choice) : CatalogCall → Option (Site × Answer)
  | .read read => some (s, s.read read)
  | .write r => if r.accepted then (r.proc.alone choices s.listing).map s.answered else none

/-! ## One call -/

theorem alone_cons (working : ∀ reply, p ≠ .done reply) : p.alone (c :: rest) listing =
    (p.turn c listing).bind fun (listing', p') => p'.alone rest listing' := by
  cases p
  case done reply => exact absurd rfl (working reply)
  all_goals rfl

@[simp] theorem alone_done : (CatalogProc.done reply).alone choices listing = some (listing, reply) := by
  cases choices <;> rfl

theorem alone_ends {left : Listing × Reply}
    (served : (CatalogProc.done reply).alone choices listing = some left) : left = (listing, reply) :=
  (Option.some.inj (alone_done.symm.trans served)).symm

/-- A call that fails ends the request. -/
theorem alone_fault (working : ∀ reply, p ≠ .done reply) (failed : c.fault = true) :
    p.alone (c :: rest) listing = some (listing, .error .fault) := by
  rw [alone_cons working]
  cases p
  case done reply => exact absurd rfl (working reply)
  all_goals simp [CatalogProc.turn, failed, afterOf, Listing.refuse, After.proc]

/-- A request that is answered has failed at once, or taken a turn and was answered from
there. -/
theorem alone_turn {left : Listing × Reply} (working : ∀ reply, p ≠ .done reply)
    (served : p.alone choices listing = some left) :
    left = (listing, .error .fault) ∨ ∃ c rest listing' p', ¬c.fault = true ∧
      p.turn c listing = some (listing', p') ∧ p'.alone rest listing' = some left := by
  cases choices with
  | nil =>
    cases p
    case done reply => exact absurd rfl (working reply)
    all_goals cases served
  | cons c rest =>
    by_cases failed : c.fault = true
    · rw [alone_fault working failed] at served
      exact .inl (Option.some.inj served).symm
    · rw [alone_cons working] at served
      obtain ⟨⟨listing', p'⟩, turn, goes⟩ := Option.bind_eq_some_iff.mp served
      exact .inr ⟨c, rest, listing', p', failed, turn, goes⟩

/-! ## Two calls side by side -/

/-- Two requests take a turn side by side that writes nothing: they are answered alike,
or both go on. -/
theorem look {p' : CatalogProc} {left right : Listing × Reply} (stuck good : Choice → Prop)
    (q q' : CatalogProc)
    (working : ∀ reply, p ≠ .done reply) (working' : ∀ reply, p' ≠ .done reply)
    (served : p.alone choices listing = some left) (served' : p'.alone choices listing = some right)
    (turns : ∀ c, ¬c.fault = true →
      (stuck c ∧ ∃ reply, p.turn c listing = some (listing, .done reply) ∧
        p'.turn c listing = some (listing, .done reply)) ∨
      (good c ∧ p.turn c listing = some (listing, q) ∧ p'.turn c listing = some (listing, q'))) :
    ∃ c rest, choices = c :: rest ∧ ((left = right ∧ (c.fault = true ∨ stuck c)) ∨
      (¬c.fault = true ∧ good c ∧
        q.alone rest listing = some left ∧ q'.alone rest listing = some right)) := by
  match choices with
  | [] =>
    cases p
    case done reply => exact absurd rfl (working reply)
    all_goals cases served
  | c :: rest =>
    refine ⟨c, rest, rfl, ?_⟩
    by_cases failed : c.fault = true
    · rw [alone_fault working failed] at served
      rw [alone_fault working' failed] at served'
      exact .inl ⟨Option.some.inj (served.symm.trans served'), .inl failed⟩
    rw [alone_cons working] at served
    rw [alone_cons working'] at served'
    rcases turns c failed with ⟨stuck, reply, turn, turn'⟩ | ⟨good, turn, turn'⟩
    · rw [turn, Option.bind_some] at served
      rw [turn', Option.bind_some] at served'
      exact .inl ⟨Option.some.inj (served.symm.trans served'), .inr stuck⟩
    · rw [turn, Option.bind_some] at served
      rw [turn', Option.bind_some] at served'
      exact .inr ⟨failed, good, served, served'⟩

/-- Requests about to write make their call, or fail alike. -/
theorem makes_call {p' : CatalogProc} {left right : Listing × Reply}
    (working : ∀ reply, p ≠ .done reply) (working' : ∀ reply, p' ≠ .done reply)
    (served : p.alone choices listing = some left) (served' : p'.alone choices listing = some right) :
    ∃ c rest, choices = c :: rest ∧ ((left = right ∧ c.fault = true) ∨ ¬c.fault = true) := by
  match choices with
  | [] =>
    cases p
    case done reply => exact absurd rfl (working reply)
    all_goals cases served
  | c :: rest =>
    refine ⟨c, rest, rfl, ?_⟩
    by_cases failed : c.fault = true
    · rw [alone_fault working failed] at served
      rw [alone_fault working' failed] at served'
      exact .inl ⟨Option.some.inj (served.symm.trans served'), failed⟩
    · exact .inr failed

/-! ## A call alone is a run of the site -/

theorem exec_of_alone {served : Listing × Reply} (ends : p.alone choices s.listing = some served) :
    ∃ turns, exec (Site.step cfg) { s with procs := s.procs ++ [p] }
      ((choices.take turns).map (.turn s.procs.length)) = some (s.answered served).1 := by
  induction choices generalizing s p with
  | nil =>
    cases p
    case done reply =>
      cases ends
      exact ⟨0, rfl⟩
    all_goals cases ends
  | cons c rest ih =>
    by_cases working : ∀ reply, p ≠ .done reply
    · rw [alone_cons working] at ends
      obtain ⟨⟨listing', p'⟩, turn, ends⟩ := Option.bind_eq_some_iff.mp ends
      obtain ⟨turns, goes⟩ := @ih (s.relist listing') p' ends
      refine ⟨turns + 1, ?_⟩
      have taken : Site.step cfg { s with procs := s.procs ++ [p] } (.turn s.procs.length c) =
          some { s.relist listing' with procs := s.procs ++ [p'] } := by
        have serving : (s.procs ++ [p])[s.procs.length]? = some p := List.getElem?_concat_length
        have turn : p.turn c { s with procs := s.procs ++ [p] }.listing = some (listing', p') := turn
        simp only [Site.step, serving, Option.bind_eq_bind, Option.bind_some, turn]
        simp [Site.relist]
      rw [List.take_succ_cons, List.map_cons, exec, taken, Option.bind_some]
      exact goes
    · obtain ⟨reply, rfl⟩ : ∃ reply, p = .done reply := by
        by_contra none
        exact working fun reply done => none ⟨reply, done⟩
      cases ends
      exact ⟨0, rfl⟩

theorem exec_of_serve {served : Site × Answer} (ends : s.serve choices (.write r) = some served) :
    ∃ turns, exec (Site.step cfg) s (.request r :: (choices.take turns).map (.turn s.procs.length)) =
      some served.1 := by
  simp only [Site.serve] at ends
  split at ends
  swap
  · cases ends
  rename_i accepted
  obtain ⟨outcome, answered, rfl⟩ := Option.map_eq_some_iff.mp ends
  obtain ⟨turns, goes⟩ := @exec_of_alone cfg s choices r.proc outcome answered
  refine ⟨turns, ?_⟩
  rw [exec, Site.step, if_pos accepted, Option.bind_some]
  exact goes

end KiTicket
