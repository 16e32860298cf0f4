import KiTicket.Refinement

/-! Runs of the whole API. What every move keeps holds of every booking of every
world a run can reach, whoever sent the requests and however their turns were
interleaved; and every transition of a run is a step of the refinement. -/
namespace KiTicket
open Runs

variable {cfg : Config} {catalog : Catalog} {spelled : Text → Prop} {w w' : World}
  {ts : List (Transition World Action)} {id : Uuid}

theorem sound_initial : World.Sound spelled (initial catalog) where
  sound p member := absurd member List.not_mem_nil
  exclusive i j p q _ at_i := by simp [initial] at at_i

theorem spelled_any {a : Action} : a.Spelled fun _ => True := by
  cases a <;> try trivial
  rename_i r
  cases r <;> simp [Action.Spelled, Request.Spelled]

theorem within_any : Within (Action.Spelled fun _ => True) ts := fun _ _ => spelled_any

theorem spelled_of_asReturned {a : Action} (canonical : a.AsReturned) :
    a.Spelled (asReturned · = true) := by
  cases a <;> try trivial
  rename_i r
  cases r <;> try trivial
  case create user body =>
    simp only [Action.AsReturned, Request.asReturned, Bool.and_eq_true] at canonical
    exact List.all_eq_true.mp canonical.2

theorem within_spelled (inside : Within Action.AsReturned ts) :
    Within (Action.Spelled (asReturned · = true)) ts :=
  fun t member => spelled_of_asReturned (inside t member)

theorem World.Sound.run (sound : World.Sound spelled w) (run : Run (step cfg) w ts w')
    (inside : Within (Action.Spelled spelled) ts) : World.Sound spelled w' :=
  run.invariant inside sound fun _ _ _ sound allowed taken => (sound.next allowed taken).1

/-- What every move keeps, a run keeps of every booking. -/
theorem World.Sound.booking {P : Booking → Prop} (sound : World.Sound spelled w)
    (run : Run (step cfg) w ts w') (inside : Within (Action.Spelled spelled) ts)
    (holds : P (w.db.booking id))
    (keeps : ∀ m b b', (∀ text ∈ m.spellings, spelled text) → P b → Booking.Step m b b' → P b') :
    P (w'.db.booking id) := by
  refine (run.invariant (P := fun w => World.Sound spelled w ∧ P (w.db.booking id)) inside
    ⟨sound, holds⟩ ?_).2
  rintro w a w' ⟨sound, holds⟩ allowed taken
  obtain ⟨sound', stepped⟩ := sound.next allowed taken
  refine ⟨sound', ?_⟩
  rcases stepped.booking id with same | ⟨m, spelling, step⟩
  · rwa [same]
  · exact keeps m _ _ spelling holds step

theorem World.Sound.coherent_next {a : Action} (sound : World.Sound (fun _ => True) w)
    (coherent : ∀ id, (w.db.booking id).Coherent) (taken : step cfg w a = some w') :
    World.Sound (fun _ => True) w' ∧ ∀ id, (w'.db.booking id).Coherent := by
  obtain ⟨sound', stepped⟩ := sound.next spelled_any taken
  refine ⟨sound', fun id => ?_⟩
  rcases stepped.booking id with same | ⟨m, -, step⟩
  · rw [same]
    exact coherent id
  · exact (coherent id).step step

section Initial
variable (run : Run (step cfg) (initial catalog) ts w)
include run

theorem coherent_of_run : (w.db.booking id).Coherent :=
  sound_initial.booking run within_any Booking.coherent_nothing
    fun _ _ _ _ coherent step => coherent.step step

theorem released_of_run (inside : Within Action.AsReturned ts) : (w.db.booking id).Released :=
  sound_initial.booking run (within_spelled inside) Booking.released_nothing
    fun _ _ _ spelling released step => released.step step spelling

theorem seatsSpelled_of_run (inside : Within Action.AsReturned ts) :
    (w.db.booking id).SeatsSpelled (asReturned · = true) :=
  sound_initial.booking run (within_spelled inside) Booking.seatsSpelled_nothing
    fun _ _ _ spelling seats step => seats.step step spelling

theorem sound_of_run (inside : Within (Action.Spelled spelled) ts) : World.Sound spelled w :=
  sound_initial.run run inside

end Initial

/-! ## What later states keep -/

section Later
variable (run : Run (step cfg) w ts w')
include run

theorem reservation_of_run {r : Reservation} (sound : World.Sound (fun _ => True) w)
    (before : (w.db.booking id).reservation = some r) :
    ∃ state, (w'.db.booking id).reservation = some { r with state } := by
  refine sound.booking (P := fun b => ∃ state, b.reservation = some { r with state }) run within_any
    ⟨r.state, before⟩ ?_
  rintro m b b' - ⟨state, before⟩ step
  obtain ⟨state, after⟩ := step.reservation_of_some before
  exact ⟨state, after⟩

theorem tickets_of_run (sound : World.Sound (fun _ => True) w) :
    (w.db.booking id).tickets <+: (w'.db.booking id).tickets :=
  sound.booking (P := fun b => (w.db.booking id).tickets <+: b.tickets) run within_any
    List.prefix_rfl fun _ _ _ _ kept step => kept.trans step.tickets_prefix

end Later

/-! ## A small catalog to replay requests on -/

/-- An id whose free digits are all the same. -/
def flatText (digit : Char) : Text :=
  List.replicate 8 digit ++ '-' :: List.replicate 4 digit ++ '-' :: '4' ::
    List.replicate 3 digit ++ '-' :: 'a' :: List.replicate 3 digit ++ '-' :: List.replicate 12 digit

private theorem flat_valid : ∀ digit : Fin 16,
    uuidLayout (flatText (Nat.digitChar digit)) = true ∧
      lower (flatText (Nat.digitChar digit)) = flatText (Nat.digitChar digit) := by
  decide +kernel

def flat (digit : Nat) : Uuid :=
  let digit := Fin.ofNat 16 digit
  ⟨flatText (Nat.digitChar digit), (flat_valid digit).1, (flat_valid digit).2⟩

/-- The SHA-256 digest of the token `t`. -/
def sampleDigest : Text := "e3b98a4da31a127d4bde6e43033f66ba274cab0eb7eb1c70ec41402bf6273dd8".toList

/-- That of the token `u`. -/
def otherDigest : Text := "0bfe935e70c321c7ca3afc75ce0d0ca2f98b5422e008bb31c00c6d7f1f1c0ad6".toList

/-- No waiting room, and the digests of the two tokens. -/
def sampleConfig : Config where
  waitingRoomRequired := false
  sha256Hex := fun token =>
    if token = ['t'] then sampleDigest else if token = ['u'] then otherDigest else token

def samplePrice : Amount := ⟨50, by decide⟩

/-- Event `e…` in a venue with the seats `a…` and `b…` at one price of 50. -/
def sampleCatalog : Catalog where
  events := ⟨[⟨flat 0xe, ['o'], ['v'], 1000000, true⟩], by simp⟩
  sectors := ⟨[⟨flat 0xd, ['v'], ['s']⟩], by simp⟩
  seats := ⟨[⟨flat 0xa, flat 0xd, ['A'], 1, false⟩, ⟨flat 0xb, flat 0xd, ['A'], 2, false⟩],
    by decide +kernel⟩
  prices := ⟨[⟨flat 0xc, flatText 'e', none, ['p'], samplePrice, ['I', 'R', 'R']⟩], by simp⟩

def customer : AuthenticatedUser := ⟨['u'], .customer⟩

def organizer : AuthenticatedUser := ⟨['o'], .organizer⟩

/-- The turns of a `create` that goes through; the other handlers alike. -/
def createTurns (pid now : Nat) (id : Uuid) (rows : List Uuid) : List Action :=
  [.turn pid {}, .turn pid { now }, .turn pid {}, .turn pid {}, .turn pid { ids := [id] },
    .turn pid {}, .turn pid {}, .turn pid { now, ids := rows }, .turn pid {}]

def cancelTurns (pid : Nat) : List Action :=
  [.turn pid {}, .turn pid {}, .turn pid {}, .turn pid {}]

def startTurns (pid now : Nat) (id : Uuid) : List Action :=
  [.turn pid {}, .turn pid { now }, .turn pid { ids := [id] }, .turn pid {}]

def completeTurns (pid now : Nat) (ids : List Uuid) (tokens : List Text) : List Action :=
  [.turn pid {}, .turn pid {}, .turn pid {}, .turn pid { now, ids, tokens }, .turn pid {}]

/-- A customer reserves seat `a…`, as reservation `1…`. -/
def reserve : List Action :=
  .request (.create customer ⟨flatText 'e', [flatText 'a'], none⟩) ::
    createTurns 0 0 (flat 1) [flat 2]

/-- Starts a payment, `3…`, for reservation `1…`. -/
def pay : List Action :=
  .request (.start customer ⟨flatText '1', List.replicate 8 'k'⟩) :: startTurns 1 1 (flat 3)

/-- And reports its success. -/
def succeed : List Action :=
  .request (.complete customer (flatText '3') ⟨.success, none⟩) ::
    completeTurns 2 2 [flat 4] [['r'], ['t']]

def purchase : List Action := reserve ++ pay ++ succeed

/-- The world after some actions, none of which had to wait. -/
abbrev replayed (actions : List Action)
    (enabled : (exec (step sampleConfig) (initial sampleCatalog) actions).isSome = true) : World :=
  replay (step sampleConfig) (initial sampleCatalog) actions enabled

theorem opened_enabled :
    (exec (step sampleConfig) (initial sampleCatalog) (reserve ++ pay)).isSome = true := by
  decide +kernel

theorem succeed_enabled : (exec (step sampleConfig) (replayed (reserve ++ pay) opened_enabled)
    succeed).isSome = true := by
  decide +kernel

theorem purchase_enabled :
    (exec (step sampleConfig) (initial sampleCatalog) purchase).isSome = true := by
  decide +kernel

/-- Seat `a…` reserved as `1…` and seat `b…` as `6…`, by the same user. -/
def reserveBoth : List Action :=
  reserve ++ .request (.create customer ⟨flatText 'e', [flatText 'b'], none⟩) ::
    createTurns 1 0 (flat 6) [flat 7]

theorem reserveBoth_enabled :
    (exec (step sampleConfig) (initial sampleCatalog) reserveBoth).isSome = true := by
  decide +kernel

end KiTicket
