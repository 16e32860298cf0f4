import KiTicket.Accounts
import KiTicket.Site

/-! `security.ts` and the token `POST /auth/login` signs. A token carries the role its
account had when the login read it, and nobody looks at the account again before the token
expires, an hour after it was signed. So a role ends at most an hour after it was taken
away, unless a login had read it and was not yet through with the password. -/
namespace KiTicket
open Runs Auth

/-- What is signed. -/
structure Claims where
  sub : Text
  email : Text
  role : Text
deriving DecidableEq

def Role.value : Role → Text
  | .customer => "CUSTOMER".toList
  | .organizer => "ORGANIZER".toList
  | .admin => "ADMIN".toList

/-- `Object.values(Role)`, searched. -/
def role? (value : Text) : Option Role :=
  [Role.customer, .organizer, .admin].find? (·.value = value)

/-- `JwtService` with the secret, issuer and audience of `app.module.ts`; the clock counts
seconds. -/
structure Jwt where
  sign (now : Nat) (claims : Claims) : Text
  verify (now : Nat) (token : Text) : Option Claims
  /-- `expiresIn: '1h'` -/
  verify_sign : ∀ issued now claims,
    verify now (sign issued claims) = if now < issued + 3600 then some claims else none

namespace AuthGuard

/-- `canActivate`; a guard that returns `false` is answered with 403. -/
def canActivate (jwt : Jwt) (now : Nat) (authorization : Option Text) (roles : Option (List Role)) :
    Except Failure AuthenticatedUser :=
  match authorization with
  | none => .error (.unauthorized "Bearer token is required")
  | some header =>
    if ¬"Bearer ".toList.isPrefixOf header then .error (.unauthorized "Bearer token is required")
    else
      match jwt.verify now (header.drop 7) with
      | none => .error (.unauthorized "Token is invalid or expired")
      | some claims =>
        match role? claims.role with
        | none => .error (.unauthorized "Token is invalid or expired")
        | some role =>
          if claims.sub = [] ∨ claims.email = [] then .error (.unauthorized "Token is invalid or expired")
          else if roles.all (·.contains role) then .ok ⟨claims.sub, role⟩
          else .error (.forbidden "Forbidden resource")

end AuthGuard

/-- Who a request says it is from, with the `@Roles` of its handler. The sweep comes from
the timer. -/
def Request.guarded : Request → Option (AuthenticatedUser × Option (List Role))
  | .create user _ | .cancel user _ | .start user _ | .complete user _ _ | .join user _ =>
    some (user, none)
  | .checkIn user _ => some (user, some [.organizer, .admin])
  | .admitUsers user _ _ => some (user, some [.admin])
  | .expire => none

def CatalogRequest.guarded : CatalogRequest → AuthenticatedUser × Option (List Role)
  | .createVenue user _ | .createSector user _ _ | .createEvent user _ | .updateEvent user _ _
  | .addPricing user _ _ | .publish user _ => (user, some [.organizer, .admin])

namespace Auth

def Request.guarded : Auth.Request → Option (AuthenticatedUser × Option (List Role))
  | .register _ => none
  | .changeRole user _ _ => some (user, some [.admin])

/-- `POST /auth/login`, with the password compared after the row was read. -/
inductive Login where
  | find (body : LoginDto)
  | compare (body : LoginDto) (user : User)
  | done (answer : Except Failure Text)
deriving DecidableEq

end Auth

/-- A token that was handed out. -/
structure Grant where
  token : Text
  claims : Claims
  issued : Nat
deriving DecidableEq

def Auth.User.claims (user : User) : Claims := ⟨user.id.text, user.email, user.role.value⟩

/-- The site behind its guards, with the accounts and the tokens. -/
structure Portal where
  site : Site
  accounts : Auth.World
  logins : List Login
  now : Nat
  granted : List Grant

namespace Portal

inductive Action where
  | site (authorization : Option Text) (a : Site.Action)
  | account (authorization : Option Text) (a : Auth.Action)
  | login (body : LoginDto)
  /-- The next turn of a login; one that fails takes none. -/
  | turn (pid : Nat)
  | pass (elapsed : Nat)
deriving DecidableEq

def Action.authorization : Action → Option Text
  | .site authorization _ | .account authorization _ => authorization
  | _ => none

/-- What the guard is asked about. -/
def Action.guarded : Action → Option (AuthenticatedUser × Option (List Role))
  | .site _ (.booking (.request r)) => r.guarded
  | .site _ (.request r) => some r.guarded
  | .account _ (.request r) => r.guarded
  | _ => none

/-- The guard lets the request in as who it says it is from. -/
def admits (jwt : Jwt) (now : Nat) (a : Action) : Bool :=
  match a.guarded with
  | none => true
  | some (user, roles) => AuthGuard.canActivate jwt now a.authorization roles = .ok user

def loginTurn (platform : Platform) (jwt : Jwt) (p : Portal) : Login → Option (List Grant × Login)
  | .find body =>
    match (lookup platform p.accounts.shared body.email).head? with
    | none => some ([], .done (.error (.unauthorized "ایمیل یا رمز عبور نادرست است")))
    | some user => some ([], .compare body user)
  | .compare body user =>
    if platform.compare body.password user.passwordHash then
      let token := jwt.sign p.now user.claims
      some ([⟨token, user.claims, p.now⟩], .done (.ok token))
    else some ([], .done (.error (.unauthorized "ایمیل یا رمز عبور نادرست است")))
  | .done _ => none

def step (cfg : Config) (platform : Platform) (jwt : Jwt) (p : Portal) (a : Action) : Option Portal :=
  if ¬admits jwt p.now a then none
  else
    match a with
    | .site _ a => (Site.step cfg p.site a).map fun site => { p with site }
    | .account _ a => (Auth.step platform p.accounts a).map fun accounts => { p with accounts }
    | .login body => some { p with logins := p.logins ++ [.find body] }
    | .turn pid => do
      let login ← p.logins[pid]?
      let (granted, login') ← loginTurn platform jwt p login
      some { p with logins := p.logins.set pid login', granted := p.granted ++ granted }
    | .pass elapsed => some { p with now := p.now + elapsed }

/-- What a step can do, action by action. -/
inductive Taken (cfg : Config) (platform : Platform) (jwt : Jwt) (p : Portal) : Action → Portal → Prop where
  | site {authorization : Option Text} {a : Site.Action} {site : Site}
      (taken : Site.step cfg p.site a = some site) :
      Taken cfg platform jwt p (.site authorization a) { p with site }
  | account {authorization : Option Text} {a : Auth.Action} {accounts : Auth.World}
      (taken : Auth.step platform p.accounts a = some accounts) :
      Taken cfg platform jwt p (.account authorization a) { p with accounts }
  | login {body : LoginDto} :
      Taken cfg platform jwt p (.login body) { p with logins := p.logins ++ [.find body] }
  | turn {pid : Nat} {login login' : Login} {granted : List Grant}
      (serving : p.logins[pid]? = some login)
      (turn : loginTurn platform jwt p login = some (granted, login')) :
      Taken cfg platform jwt p (.turn pid)
        { p with logins := p.logins.set pid login', granted := p.granted ++ granted }
  | pass {elapsed : Nat} : Taken cfg platform jwt p (.pass elapsed) { p with now := p.now + elapsed }

variable {cfg : Config} {platform : Platform} {jwt : Jwt} {p p' p'' : Portal} {a : Action}
  {ts us : List (Transition Portal Action)} {body : LoginDto} {user : Auth.User} {g : Grant}
  {claimed : AuthenticatedUser} {roles : Option (List Role)}

theorem step_cases (taken : step cfg platform jwt p a = some p') :
    admits jwt p.now a = true ∧ Taken cfg platform jwt p a p' := by
  unfold step at taken
  split at taken
  · cases taken
  rename_i admitted
  refine ⟨by simpa using admitted, ?_⟩
  cases a
  case site =>
    obtain ⟨site, moves, rfl⟩ := Option.map_eq_some_iff.mp taken
    exact .site moves
  case account =>
    obtain ⟨accounts, moves, rfl⟩ := Option.map_eq_some_iff.mp taken
    exact .account moves
  case turn pid =>
    obtain ⟨login, serving, taken⟩ := Option.bind_eq_some_iff.mp taken
    obtain ⟨⟨granted, login'⟩, turn, last⟩ := Option.bind_eq_some_iff.mp taken
    cases last
    exact .turn serving turn
  case login =>
    cases taken
    exact .login
  case pass =>
    cases taken
    exact .pass

/-- A login reads the account. -/
def Reads (platform : Platform) (t : Transition Portal Action) (body : LoginDto) (user : Auth.User) :
    Prop :=
  ∃ pid, t.action = .turn pid ∧ t.source.logins[pid]? = some (.find body) ∧
    (lookup platform t.source.accounts.shared body.email).head? = some user

/-- The login that read the account was in progress at the start, or read it in the run. -/
def ReadIn (platform : Platform) (p : Portal) (ts : List (Transition Portal Action)) (limit : Nat)
    (body : LoginDto) (user : Auth.User) : Prop :=
  .compare body user ∈ p.logins ∨ ∃ t ∈ ts, Reads platform t body user ∧ t.source.now ≤ limit

/-- The token was signed for the account and for who knew its password. -/
structure Signed (platform : Platform) (jwt : Jwt) (body : LoginDto) (user : Auth.User) (g : Grant) :
    Prop where
  password : platform.compare body.password user.passwordHash = true
  claims : g.claims = user.claims
  token : g.token = jwt.sign g.issued g.claims

/-- Where the logins and the tokens of a run come from. -/
structure Issues (platform : Platform) (jwt : Jwt) (p : Portal) (ts : List (Transition Portal Action))
    (p' : Portal) : Prop where
  clock : p.now ≤ p'.now
  logins : ∀ body user, .compare body user ∈ p'.logins → ReadIn platform p ts p'.now body user
  granted : ∀ g ∈ p'.granted, g ∈ p.granted ∨ ∃ body user, ReadIn platform p ts g.issued body user ∧
    Signed platform jwt body user g ∧ p.now ≤ g.issued ∧ g.issued ≤ p'.now

theorem ReadIn.mono {limit limit' : Nat} (read : ReadIn platform p ts limit body user)
    (more : ts ⊆ us) (later : limit ≤ limit') : ReadIn platform p us limit' body user :=
  read.imp_right fun ⟨t, member, reads, early⟩ => ⟨t, more member, reads, early.trans later⟩

theorem issues_refl : Issues platform jwt p [] p where
  clock := Nat.le_refl _
  logins _ _ pending := .inl pending
  granted _ member := .inl member

/-- A step adds a login that has just read its account, or a token for one that had. -/
theorem Issues.extend (issues : Issues platform jwt p ts p') {t : Transition Portal Action}
    (clock : p'.now ≤ p''.now)
    (logins : ∀ body user, .compare body user ∈ p''.logins → .compare body user ∈ p'.logins ∨
      Reads platform t body user ∧ t.source.now ≤ p'.now)
    (granted : ∀ g ∈ p''.granted, g ∈ p'.granted ∨ ∃ body user, .compare body user ∈ p'.logins ∧
      Signed platform jwt body user g ∧ g.issued = p'.now) :
    Issues platform jwt p (ts ++ [t]) p'' where
  clock := issues.clock.trans clock
  logins body user pending := by
    rcases logins body user pending with before | ⟨reads, early⟩
    · exact (issues.logins body user before).mono (List.subset_append_left _ _) clock
    · exact .inr ⟨t, List.mem_concat_self, reads, early.trans clock⟩
  granted g member := by
    rcases granted g member with before | ⟨body, user, pending, signed, now⟩
    · rcases issues.granted g before with old | ⟨body, user, read, signed, early, late⟩
      · exact .inl old
      · exact .inr ⟨body, user, read.mono (List.subset_append_left _ _) (Nat.le_refl _), signed, early,
          late.trans clock⟩
    · have read := issues.logins body user pending
      exact .inr ⟨body, user, read.mono (List.subset_append_left _ _) (Nat.le_of_eq now.symm), signed,
        issues.clock.trans (Nat.le_of_eq now.symm), (Nat.le_of_eq now).trans clock⟩

/-- A login that is answered leaves the others waiting. -/
theorem pending_of_done {logins : List Login} {pid : Nat} {answer : Except Failure Text}
    (pending : .compare body user ∈ logins.set pid (.done answer)) : .compare body user ∈ logins := by
  rcases List.mem_or_eq_of_mem_set pending with old | new
  · exact old
  · cases new

theorem Issues.next (issues : Issues platform jwt p ts p')
    (taken : step cfg platform jwt p' a = some p'') :
    Issues platform jwt p (ts ++ [⟨p', a, p''⟩]) p'' := by
  cases (step_cases taken).2
  case pass => exact issues.extend (Nat.le_add_right _ _) (fun _ _ => .inl) (fun _ => .inl)
  case login =>
    refine issues.extend (Nat.le_refl _) (fun body user pending => ?_) (fun _ => .inl)
    rcases List.mem_append.mp pending with old | new
    · exact .inl old
    · cases List.mem_singleton.mp new
  case turn pid login login' granted serving turn =>
    cases login <;> simp only [loginTurn] at turn
    case done => cases turn
    case find body =>
      split at turn <;> cases turn
      · exact issues.extend (Nat.le_refl _) (fun _ _ pending => .inl (pending_of_done pending))
          fun g member => .inl (List.append_nil p'.granted ▸ member)
      · rename_i user found
        refine issues.extend (Nat.le_refl _) (fun other account pending => ?_)
          fun g member => .inl (List.append_nil p'.granted ▸ member)
        rcases List.mem_or_eq_of_mem_set pending with old | new
        · exact .inl old
        · cases new
          exact .inr ⟨⟨pid, rfl, serving, found⟩, Nat.le_refl _⟩
    case compare body user =>
      split at turn <;> cases turn
      · rename_i known
        refine issues.extend (Nat.le_refl _) (fun _ _ pending => .inl (pending_of_done pending))
          fun g member => ?_
        rcases List.mem_append.mp member with old | new
        · exact .inl old
        · cases List.mem_singleton.mp new
          exact .inr ⟨body, user, List.mem_of_getElem? serving, ⟨known, rfl, rfl⟩, rfl⟩
      · exact issues.extend (Nat.le_refl _) (fun _ _ pending => .inl (pending_of_done pending))
          fun g member => .inl (List.append_nil p'.granted ▸ member)
  all_goals exact issues.extend (Nat.le_refl _) (fun _ _ => .inl) (fun _ => .inl)

theorem issues_of_run (run : Run (step cfg platform jwt) p ts p') : Issues platform jwt p ts p' :=
  run.history (P := fun ts p' => Issues platform jwt p ts p') (fun _ _ => (trivial : True)) issues_refl
    fun _ _ _ _ _ _ issues _ taken => issues.next taken

/-! ## What a request that was let in rests on -/

/-- Nobody makes a token up: one that passes at any time was handed out before. -/
def Unforged (jwt : Jwt) (t : Transition Portal Action) : Prop :=
  ∀ header, t.action.authorization = some header → ∀ now claims,
    jwt.verify now (header.drop 7) = some claims → ∃ g ∈ t.source.granted, g.token = header.drop 7

theorem role?_value (role : Role) : role? role.value = some role := by
  cases role <;> decide +kernel

theorem claims_of_canActivate {now : Nat} {authorization : Option Text}
    (passes : AuthGuard.canActivate jwt now authorization roles = .ok claimed) :
    roles.all (·.contains claimed.role) = true ∧ ∃ header claims, authorization = some header ∧
      jwt.verify now (header.drop 7) = some claims ∧ claims.sub = claimed.sub ∧
      role? claims.role = some claimed.role := by
  unfold AuthGuard.canActivate at passes
  split at passes
  · cases passes
  rename_i header
  split at passes
  · cases passes
  split at passes
  · cases passes
  rename_i claims verified
  split at passes
  · cases passes
  rename_i role valued
  split at passes
  · cases passes
  split at passes <;> cases passes
  rename_i allowed
  exact ⟨allowed, header, claims, rfl, verified, rfl, valued⟩

/-- A signed token speaks for its account, for an hour. -/
theorem Signed.speaks (signed : Signed platform jwt body user g) {now : Nat} {claims : Claims}
    (verified : jwt.verify now g.token = some claims) :
    now < g.issued + 3600 ∧ claims = user.claims := by
  rw [signed.token, signed.claims, jwt.verify_sign] at verified
  split at verified <;> cases verified
  exact ⟨by assumption, rfl⟩

/-- The token of a request that was let in. -/
theorem grant_of_taken (taken : step cfg platform jwt p a = some p') (unforged : Unforged jwt ⟨p, a, p'⟩)
    (guarded : a.guarded = some (claimed, roles)) :
    roles.all (·.contains claimed.role) = true ∧ ∃ g ∈ p.granted, ∃ claims,
      jwt.verify p.now g.token = some claims ∧ claims.sub = claimed.sub ∧
        role? claims.role = some claimed.role := by
  have admitted := (step_cases taken).1
  simp only [admits, guarded, decide_eq_true_eq] at admitted
  obtain ⟨allowed, header, claims, given, verified, sub, role⟩ := claims_of_canActivate admitted
  obtain ⟨g, member, token⟩ := unforged header given _ _ verified
  exact ⟨allowed, g, member, claims, token ▸ verified, sub, role⟩

/-- No tokens yet, and nobody logging in. -/
def opened (site : Site) (accounts : Auth.World) (now : Nat) : Portal := ⟨site, accounts, [], now, []⟩

section Traced
variable {site : Site} {accounts : Auth.World} {start : Nat}

/-- Where the token of a request that was let in is from: an account somebody knew the
password of, with the role it had when the login read it, at most an hour ago. -/
theorem origin_of_taken (run : Run (step cfg platform jwt) (opened site accounts start) ts p)
    (taken : step cfg platform jwt p a = some p') (unforged : Unforged jwt ⟨p, a, p'⟩)
    (guarded : a.guarded = some (claimed, roles)) :
    roles.all (·.contains claimed.role) = true ∧ ∃ g ∈ p.granted, ∃ r ∈ ts, ∃ body user,
      Reads platform r body user ∧ platform.compare body.password user.passwordHash = true ∧
      claimed = ⟨user.id.text, user.role⟩ ∧ r.source.now ≤ g.issued ∧ g.issued ≤ p.now ∧
      p.now < g.issued + 3600 := by
  obtain ⟨allowed, g, member, claims, verified, sub, role⟩ := grant_of_taken taken unforged guarded
  refine ⟨allowed, g, member, ?_⟩
  rcases (issues_of_run run).granted g member with old | ⟨body, user, read, signed, -, late⟩
  · cases old
  obtain ⟨valid, rfl⟩ := signed.speaks verified
  rcases read with pending | ⟨r, inside, reads, early⟩
  · cases pending
  refine ⟨r, inside, body, user, reads, signed.password, ?_, early, late, valid⟩
  rw [User.claims, role?_value, Option.some.injEq] at role
  cases claimed
  cases sub
  cases role
  rfl

/-- A role that was taken away lets nobody in an hour later, if no login had read it and
was still comparing the password. -/
theorem role_lapses {id : Uuid} {role : Role}
    (run : Run (step cfg platform jwt) (opened site accounts start) ts p)
    (idle : ∀ body user, .compare body user ∈ p.logins → user.id = id → user.role ≠ role)
    (after : Run (step cfg platform jwt) p us p')
    (lost : ∀ t ∈ us, ∀ user ∈ t.source.accounts.shared.rows, user.id = id → user.role ≠ role)
    (taken : step cfg platform jwt p' a = some p'') (unforged : Unforged jwt ⟨p', a, p''⟩)
    (guarded : a.guarded = some (⟨id.text, role⟩, roles)) : p'.now < p.now + 3600 := by
  obtain ⟨-, g, member, claims, verified, sub, valued⟩ := grant_of_taken taken unforged guarded
  have before := issues_of_run run
  rcases (issues_of_run after).granted g member with old | ⟨body, user, read, signed, -⟩
  · rcases before.granted g old with none | ⟨body, user, -, signed, -, late⟩
    · cases none
    · have valid := (signed.speaks verified).1
      omega
  · obtain ⟨-, rfl⟩ := signed.speaks verified
    have named : user.id = id := Uuid.text_inj.mp sub
    have same : user.role = role := by
      rw [User.claims, role?_value, Option.some.injEq] at valued
      exact valued
    rcases read with pending | ⟨t, inside, ⟨pid, -, -, found⟩, -⟩
    · exact absurd same (idle body user pending named)
    · have stored := (List.mem_filter.mp (List.mem_of_mem_head? found)).1
      exact absurd same (lost t inside user stored named)

end Traced

end Portal

/-! ## Roles -/

namespace Auth

/-- The accounts at the start with the roles they had, and any number of customers. -/
def Customers (seeded users : Table User) : Prop :=
  ∃ new, users.rows = seeded.rows ++ new ∧ ∀ user ∈ new, user.role = .customer

/-- The request does not change a role. -/
def Proc.registers : Proc → Bool
  | .changeRole _ => false
  | _ => true

section Registers
variable {platform : Platform} {seeded users users' : Table User} {p p' : Proc} {c : Choice}
  {w w' : World} {a : Action}

/-- Whoever registers becomes a customer. -/
theorem customers_of_turn (turn : p.turn platform c users = some (users', p'))
    (registers : p.registers = true) (customers : Customers seeded users) :
    p'.registers = true ∧ Customers seeded users' := by
  cases p <;> simp only [Proc.turn, turnOf_eq_some] at turn
  case changeRole => cases registers
  case done => cases turn
  case register state =>
    obtain ⟨after, turn, rfl⟩ := turn
    have registers' : (after.proc .register).registers = true := by cases after <;> rfl
    refine ⟨registers', ?_⟩
    split at turn
    · cases turn
      exact customers
    cases state <;> simp only [Register.turn] at turn
    case exist => split at turn <;> cases turn <;> exact customers
    case hash =>
      split at turn <;> cases turn
      exact customers
    case save body passwordHash =>
      split at turn
      · split at turn <;> cases turn
        · rename_i id given stored inserted
          obtain ⟨new, rows, low⟩ := customers
          have added := Table.insert?_eq_some.mp inserted
          rw [rows, List.append_assoc] at added
          refine ⟨_, added, fun user member => ?_⟩
          rcases List.mem_append.mp member with old | last
          · exact low user old
          · cases List.mem_singleton.mp last
            rfl
        · exact customers
      · cases turn

theorem customers_of_step (taken : step platform w a = some w')
    (asked : ∀ user id role, a ≠ .request (.changeRole user id role))
    (registers : ∀ p ∈ w.procs, p.registers = true) (customers : Customers seeded w.shared) :
    (∀ p ∈ w'.procs, p.registers = true) ∧ Customers seeded w'.shared := by
  cases a <;> simp only [step] at taken
  case request r =>
    split at taken <;> cases taken
    rename_i accepted
    refine ⟨fun p member => ?_, customers⟩
    rcases List.mem_append.mp member with old | new
    · exact registers p old
    · cases List.mem_singleton.mp new
      cases r
      case register => rfl
      case changeRole user id role => exact absurd rfl (asked user id role)
  case turn pid c =>
    obtain ⟨p, serving, taken⟩ := Option.bind_eq_some_iff.mp taken
    obtain ⟨⟨users, p'⟩, turn, last⟩ := Option.bind_eq_some_iff.mp taken
    cases last
    obtain ⟨registers', customers'⟩ :=
      customers_of_turn turn (registers p (List.mem_of_getElem? serving)) customers
    exact ⟨Pool.forall_set registers registers' fun _ _ _ _ => id, customers'⟩
  case crash pid =>
    split at taken <;> cases taken
    exact ⟨Pool.forall_set registers rfl fun _ _ _ _ => id, customers⟩

end Registers

end Auth

namespace Portal

variable {cfg : Config} {platform : Platform} {jwt : Jwt} {p : Portal} {seeded : Table Auth.User}
  {site : Site} {start : Nat} {ts : List (Transition Portal Action)}

/-- The login of an administrator does not get past the password in the run. -/
def Locked (platform : Platform) (t : Transition Portal Action) : Prop :=
  ∀ body user, Reads platform t body user →
    platform.compare body.password user.passwordHash = true → user.role ≠ .admin

/-- While no administrator logs in nobody acts as one, accounts keep their roles, and new
ones are customers. -/
theorem no_escalation (run : Run (step cfg platform jwt) (opened site ⟨seeded, []⟩ start) ts p)
    (unforged : ∀ t ∈ ts, Unforged jwt t) (locked : ∀ t ∈ ts, Locked platform t) :
    Customers seeded p.accounts.shared ∧ ∀ t ∈ ts, ∀ claimed roles,
      t.action.guarded = some (claimed, roles) → claimed.role ≠ .admin := by
  have powerless (ts : List (Transition Portal Action)) (p p' : Portal) (a : Action)
      (run : Run (step cfg platform jwt) (opened site ⟨seeded, []⟩ start) ts p)
      (locked : ∀ t ∈ ts, Locked platform t) (taken : step cfg platform jwt p a = some p')
      (unforged : Unforged jwt ⟨p, a, p'⟩) (claimed : AuthenticatedUser)
      (roles : Option (List Role)) (guarded : a.guarded = some (claimed, roles)) :
      claimed.role ≠ .admin := by
    obtain ⟨-, -, -, r, inside, body, user, reads, known, rfl, -⟩ :=
      origin_of_taken run taken unforged guarded
    exact locked r inside body user reads known
  constructor
  · have both : ∀ t ∈ ts, Unforged jwt t ∧ Locked platform t :=
      fun t member => ⟨unforged t member, locked t member⟩
    have kept : (∀ q ∈ p.accounts.procs, q.registers = true) ∧ Customers seeded p.accounts.shared := by
      refine run.history (P := fun _ p => (∀ q ∈ p.accounts.procs, q.registers = true) ∧
          Customers seeded p.accounts.shared) both
        ⟨fun q member => absurd member List.not_mem_nil, [], (List.append_nil _).symm, by simp⟩ ?_
      rintro ts p a p' before quiet ⟨registers, customers⟩ ⟨unforged, -⟩ taken
      have nobody := powerless ts p p' a before (fun t member => (quiet t member).2) taken unforged
      cases (step_cases taken).2
      case account authorization a accounts moves =>
        refine customers_of_step moves ?_ registers customers
        rintro user id role rfl
        have admin : user.role = .admin := by
          by_contra other
          simp [Auth.step, Auth.Request.accepted, other] at moves
        exact nobody user _ rfl admin
      all_goals exact ⟨registers, customers⟩
    exact kept.2
  · intro t member claimed roles guarded
    obtain ⟨before, after, rfl, first, taken, -⟩ := run.split member
    exact powerless before t.source t.target t.action first
      (fun r inside => locked r (List.mem_append_left _ inside)) taken (unforged t member) claimed roles
      guarded

/-! ## A portal to try things on -/

/-- Passwords are their own hashes. -/
def plainPlatform : Platform := { asciiPlatform with
  hash := fun password _ => password
  compare := fun password passwordHash => password = passwordHash }

/-- A character at a time, each after a comma, up to a full stop. -/
def spell (text : Text) : Text := text.flatMap ([',', ·]) ++ ['.']

/-- The text spelled at the front, and the rest. -/
def unspell : Text → Text × Text
  | ',' :: c :: rest => (c :: (unspell rest).1, (unspell rest).2)
  | _ :: rest => ([], rest)
  | [] => ([], [])

theorem unspell_spell (text rest : Text) : unspell (spell text ++ rest) = (text, rest) := by
  induction text with
  | nil => rfl
  | cons c text ih =>
    have front : spell (c :: text) ++ rest = ',' :: c :: (spell text ++ rest) := rfl
    rw [front, unspell, ih]

/-- Tokens anybody could read and write. -/
def plainJwt : Jwt where
  sign now claims :=
    spell (List.replicate now 'i') ++ (spell claims.sub ++ (spell claims.email ++ (spell claims.role ++ [])))
  verify now token :=
    let (issued, token) := unspell token
    let (sub, token) := unspell token
    let (email, token) := unspell token
    if now < issued.length + 3600 then some ⟨sub, email, (unspell token).1⟩ else none
  verify_sign issued now claims := by
    simp only [unspell_spell, List.length_replicate]

/-- The header a client sends with its token. -/
def bearer (token : Text) : Option Text := some ("Bearer ".toList ++ token)

/-- The token in the header, if any, was handed out. -/
def presents (t : Transition Portal Action) : Bool :=
  t.action.authorization.all fun header => t.source.granted.any (·.token = header.drop 7)

theorem unforged_of_presents {t : Transition Portal Action} (presented : presents t = true) :
    Unforged jwt t := by
  intro header given now claims verified
  rw [presents, given, Option.all_some, List.any_eq_true] at presented
  obtain ⟨g, member, same⟩ := presented
  exact ⟨g, member, of_decide_eq_true same⟩

theorem unforged_of_all {ts : List (Transition Portal Action)} (presented : ts.all presents = true) :
    ∀ t ∈ ts, Unforged jwt t :=
  fun t member => unforged_of_presents (List.all_eq_true.mp presented t member)

def signIn (pid : Nat) (email : String) : List Action :=
  [.login ⟨email.toList, ['#']⟩, .turn pid, .turn pid]

abbrev plainStep := step sampleConfig plainPlatform plainJwt

abbrev plainPortal : Portal := opened .empty ⟨sampleSeeded, []⟩ 0

/-- What login answers for a seeded account at the start. -/
def seededToken (id : Nat) (email : String) (role : Role) : Text :=
  plainJwt.sign 0 ⟨(flat id).text, email.toList, role.value⟩

def adminToken : Text := seededToken 1 "admin@KiTicket.local" .admin

def organizerToken : Text := seededToken 2 "organizer@KiTicket.local" .organizer

/-- The organizer logs in, then the administrator, who makes the organizer a customer. -/
def demotion : List Action :=
  signIn 0 "organizer@KiTicket.local" ++ signIn 1 "admin@KiTicket.local" ++
    [.account (bearer adminToken)
        (.request (.changeRole ⟨(flat 1).text, .admin⟩ (flatText '2') .customer)),
      .account none (.turn 0 {}), .account none (.turn 0 {})]

theorem demotion_enabled : (exec plainStep plainPortal demotion).isSome = true := by
  decide +kernel

abbrev demoted : Portal := replay plainStep plainPortal demotion demotion_enabled

theorem waiting_enabled : (exec plainStep demoted [.pass 3599]).isSome = true := by
  decide +kernel

/-- The former organizer adds a venue. -/
def venueRequest : Action :=
  .site (bearer organizerToken)
    (.request (.createVenue ⟨(flat 2).text, .organizer⟩ ⟨['v', 'v'], ['c', 'c'], []⟩))

theorem venueRequest_enabled :
    (plainStep (replay plainStep demoted _ waiting_enabled) venueRequest).isSome = true := by
  decide +kernel

/-- That still goes through at the end of the hour. -/
theorem role_lapses_demoted :
    (replay plainStep demoted _ waiting_enabled).now = demoted.now + 3599 ∧
    (replay plainStep demoted _ waiting_enabled).now < demoted.now + 3600 := by
  have guarded : venueRequest.guarded =
      some (⟨(flat 2).text, .organizer⟩, some [.organizer, .admin]) := rfl
  have answered : demoted.logins = [.done (.ok organizerToken), .done (.ok adminToken)] := by
    decide +kernel
  refine ⟨by decide +kernel, role_lapses (run_replay demotion_enabled) ?_ (run_replay waiting_enabled)
    (by decide +kernel) (Option.some_get venueRequest_enabled).symm
    (unforged_of_presents (by decide +kernel)) guarded⟩
  intro body user pending
  rw [answered] at pending
  simp at pending

/-- The organizer logs in and a stranger registers. -/
def quietDay : List Action :=
  signIn 0 "organizer@KiTicket.local" ++ (stranger "stranger@kiticket.local".toList).map (.account none)

theorem quietDay_enabled : (exec plainStep plainPortal quietDay).isSome = true := by
  decide +kernel

/-- What the login of the step reads, if it is at that. -/
def readIn (platform : Platform) (t : Transition Portal Action) : Option (LoginDto × Auth.User) :=
  match t.action with
  | .turn pid =>
    match t.source.logins[pid]? with
    | some (.find body) => (lookup platform t.source.accounts.shared body.email).head?.map (body, ·)
    | _ => none
  | _ => none

theorem reads_iff {t : Transition Portal Action} {body : LoginDto} {user : Auth.User} :
    Reads platform t body user ↔ readIn platform t = some (body, user) := by
  unfold Reads readIn
  constructor
  · rintro ⟨pid, turns, serving, found⟩
    simp only [turns, serving, found, Option.map_some]
  · intro read
    split at read
    · split at read
      · rename_i pid turns _ body serving
        obtain ⟨user, found, same⟩ := Option.map_eq_some_iff.mp read
        cases same
        exact ⟨pid, turns, serving, found⟩
      · cases read
    · cases read

instance : DecidablePred (Locked platform) := fun t =>
  decidable_of_iff (∀ read ∈ readIn platform t,
      platform.compare read.1.password read.2.passwordHash = true → read.2.role ≠ .admin) (by
    simp only [Locked, reads_iff]
    exact ⟨fun all body user read => all (body, user) read, fun all read found => all _ _ found⟩)

theorem no_escalation_quietDay :
    Customers sampleSeeded (replay plainStep plainPortal quietDay quietDay_enabled).accounts.shared ∧
      ∀ t ∈ transitions plainStep plainPortal quietDay, ∀ claimed roles,
        t.action.guarded = some (claimed, roles) → claimed.role ≠ .admin :=
  no_escalation (run_replay quietDay_enabled) (unforged_of_all (by decide +kernel)) (by decide +kernel)

end Portal

end KiTicket
