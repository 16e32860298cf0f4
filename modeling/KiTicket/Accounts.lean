import KiTicket.Lib.Lists
import KiTicket.Lib.Pool
import KiTicket.Lib.Runs
import KiTicket.Auth
import KiTicket.Reachable

/-! Whose account an email names. Registered emails are stored folded and the seeded ones
as they are written, so the unique constraint keeps the registered ones apart from one
another, and lets a stranger register a seeded one in lower case. -/
namespace KiTicket.Auth
open Runs

abbrev World := Pool (Table User) Proc

inductive Action where
  | request (request : Request)
  | turn (pid : Nat) (choice : Choice)
  | crash (pid : Nat)
deriving DecidableEq

def step (platform : Platform) (w : World) : Action → Option World
  | .request r => if r.accepted platform then some { w with procs := w.procs ++ [r.proc] } else none
  | .turn pid c => do
    let proc ← w.procs[pid]?
    let (users, proc') ← proc.turn platform c w.shared
    pure ⟨users, w.procs.set pid proc'⟩
  | .crash pid =>
    match w.procs[pid]? with
    | none | some (.done _) => none
    | some _ => some { w with procs := w.procs.set pid (.done (.error .crash)) }

variable {platform : Platform} {w w' : World} {a : Action} {c : Choice} {p p' : Proc} {pid : Nat}
  {users users' seeded : Table User} {ts : List (Transition World Action)} {body : RegisterDto}
  {user : User} {ids : List Uuid} {passwordHash email : Text}

/-- What a register stores in a turn, and for which body. -/
def Proc.stores : Proc → Proc → List (RegisterDto × User)
  | .register (.save body _), .done (.user user) => [(body, user)]
  | _, _ => []

/-- The registrations that go through in a step. -/
def registered (t : Transition World Action) : List (RegisterDto × User) :=
  match t.action with
  | .turn pid _ =>
    match t.source.procs[pid]?, t.target.procs[pid]? with
    | some p, some p' => p.stores p'
    | _, _ => []
  | _ => []

/-- What no request ever writes again. -/
def User.account (user : User) : Uuid × Text := (user.id, user.email)

def accounts (users : Table User) : List (Uuid × Text) := users.rows.map User.account

/-- The same with what login compares. -/
def User.secret (user : User) : (Uuid × Text) × Text := (user.account, user.passwordHash)

def secrets (users : Table User) : List ((Uuid × Text) × Text) := users.rows.map User.secret

/-! ## One turn -/

theorem turnOf_eq_some {wrap : σ → Proc} {outcome : Option (Table User × After σ)} :
    turnOf wrap outcome = some (users', p') ↔
      ∃ after, outcome = some (users', after) ∧ after.proc wrap = p' := by
  simp only [turnOf, Option.map_eq_some_iff, Prod.mk.injEq, Prod.exists]
  constructor
  · rintro ⟨_, after, same, rfl, rfl⟩
    exact ⟨after, same, rfl⟩
  · rintro ⟨after, same, rfl⟩
    exact ⟨_, after, same, rfl, rfl⟩

theorem secrets_setRole {id : Uuid} {role : Role} : secrets (setRole users id role) = secrets users := by
  simp only [secrets, setRole, Table.rows_update, List.map_map]
  apply List.map_congr_left
  intro user _
  simp only [Function.comp_apply]
  split <;> rfl

theorem accounts_eq_map : accounts users = (secrets users).map Prod.fst := by
  rw [secrets, List.map_map]
  rfl

/-- A turn leaves the accounts as they are, or stores one under the folded email with the
hash it has made. -/
theorem turn_cases (turn : p.turn platform c users = some (users', p')) :
    (secrets users' = secrets users ∧ p.stores p' = []) ∨
    ∃ body user, p = .register (.save body user.passwordHash) ∧ p.stores p' = [(body, user)] ∧
      user.email = platform.registered body.email ∧ users'.rows = users.rows ++ [user] := by
  cases p <;> simp only [Proc.turn, turnOf_eq_some] at turn
  case register state =>
    obtain ⟨after, turn, rfl⟩ := turn
    split at turn
    · cases turn
      cases state <;> exact .inl ⟨rfl, rfl⟩
    cases state <;> simp only [Register.turn] at turn
    case exist =>
      split at turn <;> cases turn <;> exact .inl ⟨rfl, rfl⟩
    case hash =>
      split at turn <;> cases turn
      exact .inl ⟨rfl, rfl⟩
    case save body passwordHash =>
      split at turn
      · split at turn
        · rename_i id _ stored inserted
          cases turn
          exact .inr ⟨body, _, rfl, rfl, rfl, Table.insert?_eq_some.mp inserted⟩
        · cases turn
          exact .inl ⟨rfl, rfl⟩
      · cases turn
  case changeRole state =>
    obtain ⟨after, turn, rfl⟩ := turn
    split at turn
    · cases turn
      exact .inl ⟨rfl, rfl⟩
    cases state <;> simp only [ChangeRole.turn] at turn
    case update =>
      split at turn <;> cases turn
      · exact .inl ⟨rfl, rfl⟩
      · exact .inl ⟨secrets_setRole, rfl⟩
    case findOne =>
      split at turn <;> cases turn <;> exact .inl ⟨rfl, rfl⟩
  case done => cases turn

theorem step_cases (taken : step platform w a = some w') :
    (secrets w'.shared = secrets w.shared ∧ registered ⟨w, a, w'⟩ = []) ∨
    ∃ body user, Proc.register (.save body user.passwordHash) ∈ w.procs ∧
      registered ⟨w, a, w'⟩ = [(body, user)] ∧ user.email = platform.registered body.email ∧
      w'.shared.rows = w.shared.rows ++ [user] := by
  cases a <;> simp only [step] at taken
  case request r =>
    split at taken <;> cases taken
    exact .inl ⟨rfl, rfl⟩
  case turn pid c =>
    obtain ⟨p, serving, taken⟩ := Option.bind_eq_some_iff.mp taken
    obtain ⟨⟨users, p'⟩, turn, last⟩ := Option.bind_eq_some_iff.mp taken
    cases last
    have size := (List.getElem?_eq_some_iff.mp serving).1
    have told : registered ⟨w, .turn pid c, ⟨users, w.procs.set pid p'⟩⟩ = p.stores p' := by
      simp [registered, serving, List.getElem?_set_self size]
    rw [told]
    rcases turn_cases turn with same | ⟨body, user, rfl, rest⟩
    · exact .inl same
    · exact .inr ⟨body, user, List.mem_of_getElem? serving, rest⟩
  case crash pid =>
    split at taken <;> cases taken
    exact .inl ⟨rfl, rfl⟩

/-- The accounts of a run: those at its start, then those registered, in order. -/
theorem accounts_of_run (run : Run (step platform) ⟨seeded, []⟩ ts w) :
    accounts w.shared = accounts seeded ++ (ts.flatMap registered).map (·.2.account) ∧
      ∀ r ∈ ts.flatMap registered, r.2.email = platform.registered r.1.email := by
  refine run.history (P := fun ts w =>
    accounts w.shared = accounts seeded ++ (ts.flatMap registered).map (·.2.account) ∧
      ∀ r ∈ ts.flatMap registered, r.2.email = platform.registered r.1.email)
    (fun _ _ => (trivial : True))
    ⟨by simp, fun _ member => absurd member List.not_mem_nil⟩ ?_
  rintro ts w a w' - - ⟨same, emails⟩ - taken
  rw [List.flatMap_append, List.flatMap_singleton, List.map_append, ← List.append_assoc, ← same]
  rcases step_cases taken with ⟨kept, none⟩ | ⟨body, user, -, one, email, stored⟩
  · rw [none, List.map_nil, List.append_nil, List.append_nil, accounts_eq_map, accounts_eq_map, kept]
    exact ⟨rfl, emails⟩
  · rw [one, List.map_singleton]
    refine ⟨by rw [accounts, stored, List.map_append]; rfl, fun r member => ?_⟩
    rcases List.mem_append.mp member with old | new
    · exact emails r old
    · rw [List.mem_singleton.mp new]
      exact email

/-! ## The seeded accounts -/

theorem seed_emails {rest : List (Text × Role)} (distinct : (rest.map Prod.fst).Nodup)
    (fresh : ∀ identity ∈ rest, ∀ user ∈ users.rows, user.email ≠ identity.1)
    (seeds : seed passwordHash rest ids users = some seeded) :
    seeded.rows.map User.email = users.rows.map User.email ++ rest.map Prod.fst := by
  induction rest generalizing ids users with
  | nil =>
    cases seeds
    simp
  | cons identity rest ih =>
    obtain ⟨email, role⟩ := identity
    obtain ⟨new, distinct⟩ := List.nodup_cons.mp distinct
    have absent : users.rows.any (·.email = email) = false := by
      rw [List.any_eq_false]
      intro user stored
      simpa using fresh _ List.mem_cons_self user stored
    simp only [seed, absent, Bool.false_eq_true, if_false] at seeds
    split at seeds
    · cases seeds
    · obtain ⟨users', inserted, seeds⟩ := Option.bind_eq_some_iff.mp seeds
      have rows := Table.insert?_eq_some.mp inserted
      rw [ih distinct ?_ seeds, rows]
      · simp
      · intro identity member user stored
        rw [rows] at stored
        rcases List.mem_append.mp stored with old | added
        · exact fresh identity (List.mem_cons_of_mem _ member) user old
        · rw [List.mem_singleton.mp added]
          rintro rfl
          exact new (List.mem_map.mpr ⟨identity, member, rfl⟩)

theorem identities_ascii : ∀ identity ∈ identities, ∀ c ∈ identity.1, c.toNat < 128 := by
  simp [identities]

theorem identities_apart : (identities.map fun identity => lower identity.1).Nodup := by
  decide +kernel

theorem identities_mixed : ∀ identity ∈ identities, lower identity.1 ≠ identity.1 := by
  decide +kernel

theorem identities_trim : ∀ identity ∈ identities, trim identity.1 = identity.1 := by
  decide +kernel

theorem seeded_emails (seeds : seed passwordHash identities ids .empty = some seeded) :
    seeded.rows.map User.email = identities.map Prod.fst :=
  seed_emails (by decide +kernel) (fun _ _ _ stored => absurd stored List.not_mem_nil) seeds

/-- On the seeded emails every folding is the usual one. -/
theorem fold_identity {identity : Text × Role} (member : identity ∈ identities) :
    platform.LOWER identity.1 = lower identity.1 :=
  (platform.ascii _ (identities_ascii identity member)).2

theorem LOWER_registered (platform : Platform) (email : Text) :
    platform.LOWER (platform.registered email) = platform.registered email :=
  platform.LOWER_toLowerCase _

/-! ## One account for an email -/

/-- No two users have emails that are equal up to letter case. -/
def OneAccount (platform : Platform) (users : Table User) : Prop :=
  ∀ a ∈ users.rows, ∀ b ∈ users.rows, platform.LOWER a.email = platform.LOWER b.email → a = b

/-- Login by the email finds this account and no other. -/
def LeadsTo (platform : Platform) (users : Table User) (email : Text) (account : Uuid × Text) : Prop :=
  (lookup platform users email).map User.account = [account]

/-- Registrations of emails that both foldings fold alike and that are no seeded email. -/
def Apart (platform : Platform) (body : RegisterDto) : Prop :=
  platform.LOWER (trim body.email) = platform.registered body.email ∧
    platform.registered body.email ∉ identities.map fun identity => lower identity.1

instance : Decidable (Apart platform body) :=
  decidable_of_iff (platform.LOWER (trim body.email) = platform.registered body.email ∧
    ∀ identity ∈ identities, lower identity.1 ≠ platform.registered body.email) (by
      rw [Apart, List.mem_map, not_exists]
      simp only [not_and])

theorem OneAccount.leadsTo (one : OneAccount platform users) (stored : user ∈ users.rows)
    (same : platform.LOWER user.email = platform.LOWER (trim email)) :
    LeadsTo platform users email user.account := by
  have found : user ∈ lookup platform users email :=
    List.mem_filter.mpr ⟨stored, decide_eq_true same⟩
  have all : ∀ other ∈ lookup platform users email, other = user := by
    intro other member
    obtain ⟨stored', same'⟩ := List.mem_filter.mp member
    exact one other stored' user stored ((of_decide_eq_true same').trans same.symm)
  have distinct : (lookup platform users email).Nodup := by
    refine List.Nodup.sublist List.filter_sublist (users.unique.imp ?_)
    rintro a _ apart rfl
    simp [clash] at apart
  rw [List.eq_replicate_of_mem all, List.nodup_replicate] at distinct
  rw [LeadsTo, List.eq_replicate_of_mem all,
    Nat.le_antisymm distinct (List.length_pos_of_mem found)]
  rfl

/-- A login that goes through is one to the account its email leads to. -/
theorem login_of_leadsTo {account : Uuid × Text} {claims : AuthenticatedUser} {password : Text}
    (leads : LeadsTo platform users email account)
    (through : login platform users ⟨email, password⟩ = .ok (claims, user)) :
    user.account = account ∧ claims.sub = account.1.text := by
  obtain ⟨found, one, same⟩ := List.map_eq_singleton_iff.mp leads
  simp only [login, one, List.head?_cons] at through
  split at through <;> cases through
  exact ⟨same, congrArg (·.1.text) same⟩

section Run
variable (seeds : seed passwordHash identities ids .empty = some seeded)
  (run : Run (step platform) ⟨seeded, []⟩ ts w)
include run

/-- What was seeded or registered is still there. -/
theorem stored_of_account {account : Uuid × Text}
    (member : account ∈ accounts seeded ++ (ts.flatMap registered).map (·.2.account)) :
    ∃ user ∈ w.shared.rows, user.account = account := by
  rw [← (accounts_of_run run).1] at member
  exact List.mem_map.mp member

include seeds

/-- And everybody was seeded, or registered under a folded email. -/
theorem row_cases (stored : user ∈ w.shared.rows) :
    (∃ identity ∈ identities, user.email = identity.1) ∨
      ∃ r ∈ ts.flatMap registered, user.email = platform.registered r.1.email := by
  obtain ⟨same, emails⟩ := accounts_of_run run
  have member : user.account ∈ accounts w.shared := List.mem_map_of_mem stored
  rw [same, List.mem_append] at member
  rcases member with old | new
  · obtain ⟨first, stored, account⟩ := List.mem_map.mp old
    have email : first.email ∈ seeded.rows.map User.email := List.mem_map_of_mem stored
    rw [seeded_emails seeds] at email
    obtain ⟨identity, member, named⟩ := List.mem_map.mp email
    exact .inl ⟨identity, member, (congrArg Prod.snd account).symm.trans named.symm⟩
  · obtain ⟨r, member, account⟩ := List.mem_map.mp new
    exact .inr ⟨r, member, (congrArg Prod.snd account).symm.trans (emails r member)⟩

theorem oneAccount_of_apart (apart : ∀ r ∈ ts.flatMap registered, Apart platform r.1) :
    OneAccount platform w.shared := by
  intro a left b right same
  suffices emails : a.email = b.email from Table.eq_of_clash left right (by simp [clash, emails])
  rcases row_cases seeds run left with ⟨x, inX, first⟩ | ⟨x, inX, first⟩ <;>
    rcases row_cases seeds run right with ⟨y, inY, second⟩ | ⟨y, inY, second⟩ <;>
    rw [first, second] at same ⊢
  · rw [fold_identity inX, fold_identity inY] at same
    rw [List.inj_on_of_nodup_map identities_apart inX inY same]
  · rw [fold_identity inX, LOWER_registered] at same
    exact absurd (same ▸ List.mem_map_of_mem inX) (apart y inY).2
  · rw [fold_identity inY, LOWER_registered] at same
    exact absurd (same ▸ List.mem_map_of_mem inY) (apart x inX).2
  · rwa [LOWER_registered, LOWER_registered] at same

/-- In a run from the seeded database no two users have emails equal up to letter case,
and login by the email somebody registered or was seeded with finds his account and no
other, exactly when all who registered were `Apart`. -/
theorem one_account_iff :
    (OneAccount platform w.shared ∧
      (∀ r ∈ ts.flatMap registered, LeadsTo platform w.shared r.1.email r.2.account) ∧
      ∀ user ∈ seeded.rows, LeadsTo platform w.shared user.email user.account) ↔
    ∀ r ∈ ts.flatMap registered, Apart platform r.1 := by
  have emails := (accounts_of_run run).2
  constructor
  · rintro ⟨one, leads, -⟩ r member
    obtain ⟨user, stored, account⟩ := stored_of_account run
      (List.mem_append_right _ (List.mem_map_of_mem (f := (·.2.account)) member))
    have email : user.email = platform.registered r.1.email :=
      (congrArg Prod.snd account).trans (emails r member)
    refine ⟨?_, fun seeded' => ?_⟩
    · obtain ⟨found, single, same⟩ := List.map_eq_singleton_iff.mp (leads r member)
      have chosen : found ∈ lookup platform w.shared r.1.email :=
        single ▸ List.mem_singleton_self found
      have folded := of_decide_eq_true (List.mem_filter.mp chosen).2
      have named : found.email = platform.registered r.1.email :=
        (congrArg Prod.snd same).trans (emails r member)
      rw [named, LOWER_registered] at folded
      exact folded.symm
    · obtain ⟨identity, inside, same⟩ := List.mem_map.mp seeded'
      have first : identity.1 ∈ seeded.rows.map User.email :=
        seeded_emails seeds ▸ List.mem_map_of_mem inside
      obtain ⟨old, stored', named⟩ := List.mem_map.mp first
      obtain ⟨other, stored'', account'⟩ := stored_of_account run
        (List.mem_append_left _ (List.mem_map_of_mem (f := User.account) stored'))
      have email' : other.email = identity.1 := (congrArg Prod.snd account').trans named
      have equal := one other stored'' user stored (by
        rw [email', email, fold_identity inside, LOWER_registered, same])
      rw [equal, email, ← same] at email'
      exact identities_mixed identity inside email'
  · intro apart
    have one := oneAccount_of_apart seeds run apart
    refine ⟨one, fun r member => ?_, fun first stored => ?_⟩
    · obtain ⟨user, stored, account⟩ := stored_of_account run
        (List.mem_append_right _ (List.mem_map_of_mem (f := (·.2.account)) member))
      have email : user.email = platform.registered r.1.email :=
        (congrArg Prod.snd account).trans (emails r member)
      exact account ▸ one.leadsTo stored (by rw [email, LOWER_registered, (apart r member).1])
    · obtain ⟨user, stored', account⟩ := stored_of_account run
        (List.mem_append_left _ (List.mem_map_of_mem (f := User.account) stored))
      have named : first.email ∈ seeded.rows.map User.email := List.mem_map_of_mem stored
      rw [seeded_emails seeds] at named
      obtain ⟨identity, inside, same⟩ := List.mem_map.mp named
      have email : user.email = first.email := congrArg Prod.snd account
      exact account ▸ one.leadsTo stored' (by rw [email, ← same, identities_trim identity inside])

end Run

/-- A name, and a domain of labels the last of which has two letters or more. -/
def addressed (email : Text) : Bool :=
  match email.splitOn '@' with
  | [name, domain] =>
    let labels := domain.splitOn '.'
    name ≠ [] && decide (2 ≤ labels.length) && labels.all (· ≠ []) &&
      labels.getLast?.any fun label => decide (2 ≤ label.length) && label.all Char.isAlpha
  | _ => false

/-- ASCII folding everywhere. -/
def asciiPlatform : Platform where
  isEmail := addressed
  toLowerCase := lower
  LOWER := lower
  hash password salt := salt ++ password
  compare _ _ := true
  LOWER_toLowerCase := lower_lower
  ascii _ _ := ⟨rfl, rfl⟩

def sampleSeeded : Table User :=
  ⟨List.zipWith (fun id identity => ⟨id, identity.1, [], ['#'], identity.2⟩)
    [flat 1, flat 2, flat 3, flat 4] identities, by decide +kernel⟩

private theorem sampleSeeded_seeds :
    seed ['#'] identities [flat 1, flat 2, flat 3, flat 4] .empty = some sampleSeeded := by
  decide +kernel

def registration (email : Text) : RegisterDto := ⟨email, "Nobody".toList, "Password123".toList⟩

/-- A stranger registers. -/
def stranger (email : Text) : List Action :=
  [.request (.register (registration email)), .turn 0 {}, .turn 0 { tokens := [['s']] },
    .turn 0 { ids := [flat 5] }]

private theorem stranger_enabled : (exec (step asciiPlatform) ⟨sampleSeeded, []⟩
    (stranger "Stranger@kiticket.local".toList)).isSome = true := by
  decide +kernel

theorem one_account_iff_stranger :
    OneAccount asciiPlatform (replay _ _ _ stranger_enabled).shared :=
  ((one_account_iff sampleSeeded_seeds (run_replay stranger_enabled)).mpr (by decide +kernel)).1

private theorem shadow_enabled : (exec (step asciiPlatform) ⟨sampleSeeded, []⟩
    (stranger "admin@kiticket.local".toList)).isSome = true := by
  decide +kernel

/-- A stranger registers the administrator's email in lower case. -/
theorem admin_shadowed :
    ¬ ∀ (platform : Platform) (passwordHash : Text) (ids : List Uuid) (seeded : Table User)
      (ts : List (Transition World Action)) (w : World),
      seed passwordHash identities ids .empty = some seeded →
      Run (step platform) ⟨seeded, []⟩ ts w → OneAccount platform w.shared := by
  intro one
  have both := one _ _ _ _ _ _ sampleSeeded_seeds (run_replay shadow_enabled)
  revert both
  unfold OneAccount
  decide +kernel

end KiTicket.Auth
