import KiTicket.Server

/-! `auth.controller.ts` and the accounts of `seed.ts`. Three places fold letter case:
register in JavaScript before it stores an email, login in Postgres on both sides of its
comparison, and the seed not at all. The unique constraint compares characters. -/
namespace KiTicket.Auth

structure User where
  id : Uuid
  email : Text
  name : Text
  passwordHash : Text
  role : Role
deriving DecidableEq

/-- `@Unique(['email'])` -/
instance : UniqueKeys User where
  clash a b := a.id = b.id ∨ a.email = b.email
  clash_comm a b := by simp only [eq_comm]

/-- What the accounts rest on outside the repository. Nothing is left to fold in what
JavaScript has folded, and on ASCII both foldings are the usual one; elsewhere Postgres
follows its locale. -/
structure Platform where
  isEmail : Text → Bool
  toLowerCase : Text → Text
  LOWER : Text → Text
  hash (password salt : Text) : Text
  compare (password passwordHash : Text) : Bool
  LOWER_toLowerCase : ∀ text, LOWER (toLowerCase text) = toLowerCase text
  ascii : ∀ text, (∀ c ∈ text, c.toNat < 128) → toLowerCase text = lower text ∧ LOWER text = lower text

/-- White space and line terminators of ECMAScript. -/
def isSpace (c : Char) : Bool :=
  (0x9 ≤ c.toNat && c.toNat ≤ 0xD) || (0x2000 ≤ c.toNat && c.toNat ≤ 0x200A) ||
    [0x20, 0xA0, 0x1680, 0x2028, 0x2029, 0x202F, 0x205F, 0x3000, 0xFEFF].contains c.toNat

/-- `String.prototype.trim` -/
def trim (text : Text) : Text :=
  ((text.dropWhile isSpace).reverse.dropWhile isSpace).reverse

structure RegisterDto where
  email : Text
  name : Text
  password : Text
deriving DecidableEq

/-- `.` of a pattern matches no line terminator. -/
def isLineTerminator (c : Char) : Bool := [0xA, 0xD, 0x2028, 0x2029].contains c.toNat

def RegisterDto.accepted (platform : Platform) (body : RegisterDto) : Bool :=
  platform.isEmail body.email && decide (2 ≤ body.name.length ∧ body.name.length ≤ 80) &&
    decide (10 ≤ body.password.length ∧ body.password.length ≤ 72) &&
    body.password.any (fun c => 'a' ≤ c && c ≤ 'z') && body.password.any (fun c => 'A' ≤ c && c ≤ 'Z') &&
    body.password.any Char.isDigit && body.password.all (!isLineTerminator ·)

structure LoginDto where
  email : Text
  password : Text
deriving DecidableEq

inductive Reply where
  | user (user : User)
  | error (failure : Failure)
deriving DecidableEq

/-- Where a request stands after a turn. -/
inductive After (σ : Type) where
  | go (state : σ)
  | done (reply : Reply)

def refuse (users : Table User) (failure : Failure) : Option (Table User × After σ) :=
  some (users, .done (.error failure))

/-- `POST /auth/register` -/
inductive Register where
  | exist (body : RegisterDto)
  | hash (body : RegisterDto)
  | save (body : RegisterDto) (passwordHash : Text)
deriving DecidableEq

/-- The email an account is registered under. -/
def Platform.registered (platform : Platform) (email : Text) : Text :=
  platform.toLowerCase (trim email)

def Register.turn (platform : Platform) (c : Choice) (users : Table User) :
    Register → Option (Table User × After Register)
  | .exist body =>
    if users.rows.any (·.email = platform.registered body.email) then
      refuse users (.conflict "Email is already registered")
    else some (users, .go (.hash body))
  | .hash body =>
    match c.tokens with
    | [salt] => some (users, .go (.save body (platform.hash body.password salt)))
    | _ => none
  | .save body passwordHash =>
    match c.ids with
    | [id] =>
      let user : User := ⟨id, platform.registered body.email, trim body.name, passwordHash, .customer⟩
      match users.insert? [user] with
      | some users => some (users, .done (.user user))
      -- 23505
      | none => refuse users (.conflict "Email is already registered")
    | _ => none

/-- `PATCH /users/:id/role` -/
inductive ChangeRole where
  | update (id : Text) (role : Role)
  | findOne (id : Text)
deriving DecidableEq

def setRole (users : Table User) (id : Uuid) (role : Role) : Table User :=
  users.update (fun user => if user.id = id then { user with role } else user) fun a b => by
    dsimp only [clash]
    split <;> split <;> rfl

def ChangeRole.turn (users : Table User) : ChangeRole → Option (Table User × After ChangeRole)
  | .update id role =>
    match uuid? id with
    | none => refuse users .invalidUuid
    | some uuid => some (setRole users uuid role, .go (.findOne id))
  | .findOne id =>
    match (uuid? id).bind fun uuid => users.rows.find? (·.id = uuid) with
    | none => refuse users .entityNotFound
    | some user => some (users, .done (.user user))

/-- The rows the query of login finds. -/
def lookup (platform : Platform) (users : Table User) (email : Text) : List User :=
  users.rows.filter fun user => platform.LOWER user.email = platform.LOWER (trim email)

/-- `POST /auth/login`, up to the signature: the claims and the user. `getOne` takes the
first row. -/
def login (platform : Platform) (users : Table User) (body : LoginDto) :
    Except Failure (AuthenticatedUser × User) :=
  match (lookup platform users body.email).head? with
  | none => .error (.unauthorized "ایمیل یا رمز عبور نادرست است")
  | some user =>
    if platform.compare body.password user.passwordHash then .ok (⟨user.id.text, user.role⟩, user)
    else .error (.unauthorized "ایمیل یا رمز عبور نادرست است")

/-! ## The seed -/

def identities : List (Text × Role) :=
  [("admin@KiTicket.local".toList, .admin), ("organizer@KiTicket.local".toList, .organizer),
    ("customer@KiTicket.local".toList, .customer), ("buyer@KiTicket.local".toList, .customer)]

/-- The loop of the seed over its identities. -/
def seed (passwordHash : Text) : List (Text × Role) → List Uuid → Table User → Option (Table User)
  | [], _, users => some users
  | (email, role) :: rest, ids, users =>
    if users.rows.any (·.email = email) then seed passwordHash rest ids users
    else
      match ids with
      | [] => none
      | id :: ids => (users.insert? [⟨id, email, [], passwordHash, role⟩]).bind
          (seed passwordHash rest ids)

/-! ## Requests side by side -/

inductive Request where
  | register (body : RegisterDto)
  | changeRole (user : AuthenticatedUser) (id : Text) (role : Role)
deriving DecidableEq

def Request.accepted (platform : Platform) : Request → Bool
  | .register body => body.accepted platform
  | .changeRole user _ _ => user.role = .admin

inductive Proc where
  | register (state : Register)
  | changeRole (state : ChangeRole)
  | done (reply : Reply)
deriving DecidableEq

def Request.proc : Request → Proc
  | .register body => .register (.exist body)
  | .changeRole _ id role => .changeRole (.update id role)

def After.proc (wrap : σ → Proc) : After σ → Proc
  | .go state => wrap state
  | .done reply => .done reply

def turnOf (wrap : σ → Proc) (outcome : Option (Table User × After σ)) : Option (Table User × Proc) :=
  outcome.map fun (users, after) => (users, after.proc wrap)

def Proc.turn (platform : Platform) (c : Choice) (users : Table User) :
    Proc → Option (Table User × Proc)
  | .register state =>
    turnOf .register (if c.fault then refuse users .fault else state.turn platform c users)
  | .changeRole state =>
    turnOf .changeRole (if c.fault then refuse users .fault else state.turn users)
  | .done _ => none

end KiTicket.Auth
