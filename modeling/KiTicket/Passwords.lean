import KiTicket.Accounts

/-! Which passwords open an account. The length of a password is checked in characters
and only at its registration; of what is hashed and compared, bcrypt reads the first 72
bytes. -/
namespace KiTicket.Auth
open Runs

def utf8 (text : Text) : List UInt8 := text.flatMap String.utf8EncodeChar

/-- What bcrypt reads of a password. -/
def significant (password : Text) : List UInt8 := (utf8 password).take 72

/-- What is known of bcrypt, without its collisions. -/
def Bcrypt (platform : Platform) : Prop :=
  ∀ password other salt, platform.compare other (platform.hash password salt) = true ↔
    significant other = significant password

def LoginDto.accepted (platform : Platform) (body : LoginDto) : Bool :=
  platform.isEmail body.email && decide (1 ≤ body.password.length)

/-- The request passes the pipe and is answered with a token. -/
def SignsIn (platform : Platform) (users : Table User) (body : LoginDto) : Prop :=
  body.accepted platform = true ∧ ∃ session, login platform users body = .ok session

/-- In whatever order the database has the rows, the email takes this password and no
other. -/
def OnlyPassword (platform : Platform) (users : Table User) (email password : Text) : Prop :=
  ∀ rows : Table User, rows.rows.Perm users.rows →
    SignsIn platform rows ⟨email, password⟩ ∧
    ∀ other, other ≠ password → ¬SignsIn platform rows ⟨email, other⟩

/-- The password of `seed.ts`. -/
def seedPassword : Text := "Password123!".toList

/-- The accounts of a run, each with the password it was made with. -/
def credentials (seeded : Table User) (ts : List (Transition World Action)) :
    List ((Uuid × Text) × Text) :=
  (accounts seeded).map (·, seedPassword) ++
    (ts.flatMap registered).map fun r => (r.2.account, r.1.password)

/-- Those login by the email may find. -/
def called (platform : Platform) (email : Text) (all : List ((Uuid × Text) × Text)) :
    List ((Uuid × Text) × Text) :=
  all.filter fun credential => platform.LOWER credential.1.2 = platform.LOWER (trim email)

variable {platform : Platform} {w w' : World} {a : Action} {c : Choice} {p p' : Proc}
  {users users' seeded : Table User} {ts : List (Transition World Action)} {user : User}
  {ids : List Uuid} {email password other salt passwordHash : Text} {r : RegisterDto × User}

/-! ## What bcrypt reads -/

theorem utf8_injective (same : utf8 other = utf8 password) : other = password := by
  have bytes : other.utf8Encode = password.utf8Encode := congrArg List.toByteArray same
  have decoded := congrArg ByteArray.utf8Decode? bytes
  rw [List.utf8Decode?_utf8Encode, List.utf8Decode?_utf8Encode, Option.some.injEq] at decoded
  exact congrArg Array.toList decoded

theorem significant_ne_nil (some : password ≠ []) : significant password ≠ [] := by
  intro none
  rcases List.take_eq_nil_iff.mp none with zero | empty
  · cases zero
  · exact some (utf8_injective empty)

/-- A password that is read to its end is told from every other. -/
theorem significant_inj (short : (utf8 password).length < 72)
    (same : significant other = significant password) : other = password := by
  have whole : significant password = utf8 password := List.take_of_length_le (Nat.le_of_lt short)
  have size : min 72 (utf8 other).length = (utf8 password).length := by
    rw [← whole, ← same, significant, List.length_take]
  have short' : (utf8 other).length ≤ 72 := by omega
  apply utf8_injective
  rw [← whole, ← same, significant, List.take_of_length_le short']

/-- One that is not can be continued. -/
theorem significant_append (long : 72 ≤ (utf8 password).length) :
    significant (password ++ ['x']) = significant password := by
  rw [significant, utf8, List.flatMap_append]
  exact List.take_append_of_le_length long

theorem only_significant_iff :
    (∀ other, other ≠ password → significant other ≠ significant password) ↔
      (utf8 password).length < 72 := by
  constructor
  · intro apart
    by_contra long
    refine apart (password ++ ['x']) ?_ (significant_append (Nat.le_of_not_lt long))
    simp
  · intro short other different same
    exact different (significant_inj short same)

/-! ## What a run stores -/

/-- A registration under way has an accepted body, and saves a hash of its password. -/
def Proc.Hashes (platform : Platform) : Proc → Prop
  | .register (.exist body) | .register (.hash body) => body.accepted platform = true
  | .register (.save body passwordHash) =>
    body.accepted platform = true ∧ ∃ salt, passwordHash = platform.hash body.password salt
  | _ => True

theorem Proc.Hashes.turn (hashes : p.Hashes platform)
    (turn : p.turn platform c users = some (users', p')) : p'.Hashes platform := by
  cases p <;> simp only [Proc.turn, turnOf_eq_some] at turn
  case register state =>
    obtain ⟨after, turn, rfl⟩ := turn
    split at turn
    · cases turn
      trivial
    cases state <;> simp only [Register.turn] at turn
    case exist =>
      split at turn <;> cases turn
      · trivial
      · exact hashes
    case hash =>
      split at turn <;> cases turn
      exact ⟨hashes, _, rfl⟩
    case save =>
      split at turn
      · split at turn <;> cases turn <;> trivial
      · cases turn
  case changeRole state =>
    obtain ⟨after, turn, rfl⟩ := turn
    split at turn
    · cases turn
      trivial
    cases state <;> simp only [ChangeRole.turn] at turn
    case update => split at turn <;> cases turn <;> trivial
    case findOne => split at turn <;> cases turn <;> trivial
  case done => cases turn

theorem hashes_next (hashes : ∀ p ∈ w.procs, p.Hashes platform)
    (taken : step platform w a = some w') : ∀ p ∈ w'.procs, p.Hashes platform := by
  cases a <;> simp only [step] at taken
  case request request =>
    split at taken <;> cases taken
    rename_i accepted
    intro p member
    rcases List.mem_append.mp member with old | new
    · exact hashes p old
    · rw [List.mem_singleton.mp new]
      cases request with
      | register body => exact accepted
      | changeRole _ _ _ => trivial
  case turn pid c =>
    obtain ⟨p, serving, taken⟩ := Option.bind_eq_some_iff.mp taken
    obtain ⟨⟨users, p'⟩, turn, last⟩ := Option.bind_eq_some_iff.mp taken
    cases last
    have mine := (hashes p (List.mem_of_getElem? serving)).turn turn
    exact Pool.forall_set hashes mine fun _ _ _ _ => id
  case crash pid =>
    split at taken <;> cases taken
    exact Pool.forall_set hashes trivial fun _ _ _ _ => id

/-- A row holds a hash of the password its account was made with. -/
def Keeps (platform : Platform) (secret credential : (Uuid × Text) × Text) : Prop :=
  secret.1 = credential.1 ∧ ∃ salt, secret.2 = platform.hash credential.2 salt

theorem seed_keeps {rest : List (Text × Role)}
    (seeds : seed passwordHash rest ids users = some seeded)
    (all : ∀ user ∈ users.rows, user.passwordHash = passwordHash) :
    ∀ user ∈ seeded.rows, user.passwordHash = passwordHash := by
  induction rest generalizing ids users with
  | nil =>
    cases seeds
    exact all
  | cons identity rest ih =>
    obtain ⟨email, role⟩ := identity
    simp only [seed] at seeds
    split at seeds
    · exact ih seeds all
    split at seeds
    · cases seeds
    · obtain ⟨users', inserted, seeds⟩ := Option.bind_eq_some_iff.mp seeds
      refine ih seeds fun user stored => ?_
      rw [Table.insert?_eq_some.mp inserted] at stored
      rcases List.mem_append.mp stored with old | added
      · exact all user old
      · rw [List.mem_singleton.mp added]

theorem keeps_of_run
    (seeds : seed (platform.hash seedPassword salt) identities ids .empty = some seeded)
    (run : Run (step platform) ⟨seeded, []⟩ ts w) :
    (∀ p ∈ w.procs, p.Hashes platform) ∧ (∀ r ∈ ts.flatMap registered, r.1.accepted platform = true) ∧
      List.Forall₂ (Keeps platform) (secrets w.shared) (credentials seeded ts) := by
  refine run.history (P := fun ts w => (∀ p ∈ w.procs, p.Hashes platform) ∧
    (∀ r ∈ ts.flatMap registered, r.1.accepted platform = true) ∧
    List.Forall₂ (Keeps platform) (secrets w.shared) (credentials seeded ts))
    (fun _ _ => (trivial : True)) ⟨?_, ?_, ?_⟩ ?_
  · exact fun _ member => absurd member List.not_mem_nil
  · exact fun _ member => absurd member List.not_mem_nil
  · rw [credentials, List.flatMap_nil, List.map_nil, List.append_nil, accounts, secrets,
      List.map_map, List.forall₂_map_left_iff, List.forall₂_map_right_iff, List.forall₂_same]
    intro user stored
    exact ⟨rfl, salt, seed_keeps seeds (fun _ none => absurd none List.not_mem_nil) user stored⟩
  · rintro ts w a w' - - ⟨hashes, accepted, kept⟩ - taken
    refine ⟨hashes_next hashes taken, ?_⟩
    rw [List.flatMap_append, List.flatMap_singleton, credentials, List.flatMap_append,
      List.flatMap_singleton, List.map_append, ← List.append_assoc]
    rcases step_cases taken with ⟨same, none⟩ | ⟨body, user, saving, one, -, stored⟩
    · rw [none, List.map_nil, List.append_nil, List.append_nil, same]
      exact ⟨accepted, kept⟩
    · obtain ⟨valid, made⟩ := hashes _ saving
      rw [one]
      constructor
      · intro r member
        rcases List.mem_append.mp member with old | new
        · exact accepted r old
        · rw [List.mem_singleton.mp new]
          exact valid
      · rw [secrets, stored, List.map_append]
        exact List.rel_append kept (.cons ⟨rfl, made⟩ .nil)

/-! ## What login takes -/

/-- With the rows in some order login takes exactly what one of them takes. -/
theorem exists_first (found : user ∈ lookup platform users email) :
    ∃ rows : Table User, rows.rows.Perm users.rows ∧
      (lookup platform rows email).head? = some user := by
  obtain ⟨stored, named⟩ := List.mem_filter.mp found
  obtain ⟨rest, front⟩ := Lists.exists_perm_cons stored
  have apart : (user :: rest).Pairwise fun a b => clash a b = false :=
    front.symm.pairwise users.unique fun {a b} apart => (clash_comm b a).trans apart
  refine ⟨⟨user :: rest, apart⟩, front, ?_⟩
  rw [lookup, List.filter_cons, if_pos named, List.head?_cons]

theorem signsIn_iff {rows : Table User} (first : (lookup platform rows email).head? = some user) :
    SignsIn platform rows ⟨email, password⟩ ↔
      (platform.isEmail email = true ∧ password ≠ []) ∧
        platform.compare password user.passwordHash = true := by
  simp only [SignsIn, LoginDto.accepted, login, first, Bool.and_eq_true, decide_eq_true_eq,
    Nat.one_le_iff_ne_zero, ne_eq, List.length_eq_zero_iff]
  by_cases taken : platform.compare password user.passwordHash = true
  · simp [taken]
  · simp [taken]

theorem lookup_of_perm {rows : Table User} (same : rows.rows.Perm users.rows) :
    (lookup platform rows email).Perm (lookup platform users email) := by
  unfold lookup
  exact same.filter _

section Run
variable (bcrypt : Bcrypt platform)
  (seeds : seed (platform.hash seedPassword salt) identities ids .empty = some seeded)
  (run : Run (step platform) ⟨seeded, []⟩ ts w)
include bcrypt seeds run

/-- What login finds takes the passwords that read like its own. -/
theorem credential_of_lookup (found : user ∈ lookup platform w.shared email) :
    ∃ credential ∈ called platform email (credentials seeded ts),
      ∀ other, platform.compare other user.passwordHash = true ↔
        significant other = significant credential.2 := by
  obtain ⟨stored, named⟩ := List.mem_filter.mp found
  obtain ⟨credential, member, account, salt', made⟩ :=
    Lists.exists_of_mem_left (keeps_of_run seeds run).2.2 (List.mem_map_of_mem stored)
  refine ⟨credential, List.mem_filter.mpr ⟨member, ?_⟩, fun other => ?_⟩
  · rw [← account]
    exact named
  · rw [show user.passwordHash = platform.hash credential.2 salt' from made]
    exact bcrypt credential.2 other salt'

theorem lookup_of_credential {credential : (Uuid × Text) × Text}
    (member : credential ∈ called platform email (credentials seeded ts)) :
    ∃ user ∈ lookup platform w.shared email,
      ∀ other, platform.compare other user.passwordHash = true ↔
        significant other = significant credential.2 := by
  obtain ⟨known, named⟩ := List.mem_filter.mp member
  obtain ⟨secret, stored, account, salt', made⟩ :=
    Lists.exists_of_mem_right (keeps_of_run seeds run).2.2 known
  obtain ⟨user, row, rfl⟩ := List.mem_map.mp stored
  refine ⟨user, List.mem_filter.mpr ⟨row, ?_⟩, fun other => ?_⟩
  · rw [← account] at named
    exact named
  · rw [show user.passwordHash = platform.hash credential.2 salt' from made]
    exact bcrypt credential.2 other salt'

/-- After a registration in a run from the seeded database, login with its email takes
its password and no other, exactly when the password has fewer than 72 bytes, and the
email finds accounts, all of them made with this password. -/
theorem only_password_iff (member : r ∈ ts.flatMap registered) :
    OnlyPassword platform w.shared r.1.email r.1.password ↔
      (utf8 r.1.password).length < 72 ∧
      called platform r.1.email (credentials seeded ts) ≠ [] ∧
      ∀ credential ∈ called platform r.1.email (credentials seeded ts),
        credential.2 = r.1.password := by
  have accepted := (keeps_of_run seeds run).2.1 r member
  simp only [RegisterDto.accepted, Bool.and_eq_true, decide_eq_true_eq] at accepted
  have isEmail : platform.isEmail r.1.email = true := accepted.1.1.1.1.1.1
  have long : 10 ≤ r.1.password.length := accepted.1.1.1.1.2.1
  have full : r.1.password ≠ [] := List.ne_nil_of_length_pos (Nat.lt_of_lt_of_le (by decide) long)
  constructor
  · intro only
    have each : ∀ credential ∈ called platform r.1.email (credentials seeded ts), ∀ other,
        significant other = significant credential.2 ↔ other = r.1.password := by
      intro credential known other
      obtain ⟨user, found, takes⟩ := lookup_of_credential bcrypt seeds run known
      obtain ⟨rows, same, first⟩ := exists_first found
      obtain ⟨own, others⟩ := only rows same
      have reads := (takes r.1.password).mp ((signsIn_iff first).mp own).2
      constructor
      · intro equal
        by_contra different
        have written : other ≠ [] := by
          rintro rfl
          exact significant_ne_nil full (reads.trans equal.symm)
        exact others other different
          ((signsIn_iff first).mpr ⟨⟨isEmail, written⟩, (takes other).mpr equal⟩)
      · rintro rfl
        exact reads
    have found : called platform r.1.email (credentials seeded ts) ≠ [] := by
      obtain ⟨-, session, through⟩ := (only w.shared .rfl).1
      cases first : (lookup platform w.shared r.1.email).head? with
      | none => simp [login, first] at through
      | some user =>
        obtain ⟨credential, known, -⟩ :=
          credential_of_lookup bcrypt seeds run (List.mem_of_head? first)
        exact List.ne_nil_of_mem known
    have same : ∀ credential ∈ called platform r.1.email (credentials seeded ts),
        credential.2 = r.1.password := fun credential known =>
      (each credential known credential.2).mp rfl
    refine ⟨only_significant_iff.mp fun other different equal => ?_, found, same⟩
    obtain ⟨credential, known⟩ := List.exists_mem_of_ne_nil _ found
    exact different ((each credential known other).mp (same credential known ▸ equal))
  · rintro ⟨short, found, same⟩ rows perm
    obtain ⟨credential, known⟩ := List.exists_mem_of_ne_nil _ found
    obtain ⟨user, stored, -⟩ := lookup_of_credential bcrypt seeds run known
    have listed : user ∈ lookup platform rows r.1.email := (lookup_of_perm perm).mem_iff.mpr stored
    obtain ⟨first, rest, front⟩ := List.exists_cons_of_ne_nil (List.ne_nil_of_mem listed)
    have head : (lookup platform rows r.1.email).head? = some first := by rw [front, List.head?_cons]
    obtain ⟨credential, known, takes⟩ := credential_of_lookup bcrypt seeds run
      ((lookup_of_perm perm).mem_iff.mp (List.mem_of_head? head))
    rw [same credential known] at takes
    refine ⟨(signsIn_iff head).mpr ⟨⟨isEmail, full⟩, (takes _).mpr rfl⟩, fun other different => ?_⟩
    rw [signsIn_iff head]
    rintro ⟨-, taken⟩
    exact only_significant_iff.mpr short other different ((takes other).mp taken)

end Run

theorem lower_agrees (text : Text) (_ : ∀ c ∈ text, c.toNat < 128) :
    lower text = lower text ∧ lower text = lower text :=
  ⟨rfl, rfl⟩

/-- A hash spells out the bytes it is made of, and then the salt. -/
def bcryptPlatform : Platform where
  isEmail := addressed
  toLowerCase := lower
  LOWER := lower
  hash password salt := (significant password).map (Char.ofNat ·.toNat) ++ '✓' :: salt
  compare password passwordHash :=
    decide ((significant password).map (Char.ofNat ·.toNat) = passwordHash.takeWhile (· ≠ '✓'))
  LOWER_toLowerCase := lower_lower
  ascii := lower_agrees

theorem toNat_byte (byte : UInt8) : (Char.ofNat byte.toNat).toNat = byte.toNat := by
  have small : byte.toNat < 256 := byte.toNat_lt
  have valid : byte.toNat.isValidChar := .inl (Nat.lt_trans small (by decide))
  rw [Char.ofNat, dif_pos valid]
  rfl

theorem bcryptPlatform_bcrypt : Bcrypt bcryptPlatform := by
  intro password other salt
  have bytes : ∀ c ∈ (significant password).map (Char.ofNat ·.toNat), decide (c ≠ '✓') = true := by
    intro c member
    obtain ⟨byte, -, rfl⟩ := List.mem_map.mp member
    refine decide_eq_true fun same => ?_
    have size := congrArg Char.toNat same
    rw [toNat_byte] at size
    have small : byte.toNat < 256 := byte.toNat_lt
    have mark : '✓'.toNat = 10003 := rfl
    omega
  have spelled : ((significant password).map (Char.ofNat ·.toNat) ++ '✓' :: salt).takeWhile (· ≠ '✓') =
      (significant password).map (Char.ofNat ·.toNat) := by
    rw [List.takeWhile_append_of_pos bytes, List.takeWhile_cons_of_neg (by decide), List.append_nil]
  have injective : Function.Injective fun byte : UInt8 => Char.ofNat byte.toNat := by
    intro x y same
    have size := congrArg Char.toNat same
    rw [toNat_byte, toNat_byte] at size
    exact UInt8.toNat_inj.mp size
  simp only [bcryptPlatform, decide_eq_true_eq, spelled]
  exact (List.map_injective_iff.mpr injective).eq_iff

private theorem bcryptSeeded_isSome : (seed (bcryptPlatform.hash seedPassword ['s']) identities
    [flat 1, flat 2, flat 3, flat 4] .empty).isSome = true := by
  decide +kernel

def bcryptSeeded : Table User :=
  (seed (bcryptPlatform.hash seedPassword ['s']) identities [flat 1, flat 2, flat 3, flat 4]
    .empty).get bcryptSeeded_isSome

private theorem bcryptSeeded_seeds : seed (bcryptPlatform.hash seedPassword ['s']) identities
    [flat 1, flat 2, flat 3, flat 4] .empty = some bcryptSeeded :=
  (Option.some_get bcryptSeeded_isSome).symm

/-- A stranger registers with this password. -/
def newcomer (password : Text) : List Action :=
  [.request (.register ⟨"s@example.com".toList, "Nobody".toList, password⟩), .turn 0 {},
    .turn 0 { tokens := [['s']] }, .turn 0 { ids := [flat 5] }]

private theorem newcomer_enabled : (exec (step bcryptPlatform) ⟨bcryptSeeded, []⟩
    (newcomer "Password123".toList)).isSome = true := by
  decide +kernel

theorem only_password_iff_short : OnlyPassword bcryptPlatform
    (replay _ _ _ newcomer_enabled).shared "s@example.com".toList "Password123".toList := by
  have member : ((⟨"s@example.com".toList, "Nobody".toList, "Password123".toList⟩,
      ⟨flat 5, "s@example.com".toList, "Nobody".toList,
        bcryptPlatform.hash "Password123".toList ['s'], .customer⟩) : RegisterDto × User) ∈
      (transitions (step bcryptPlatform) ⟨bcryptSeeded, []⟩
        (newcomer "Password123".toList)).flatMap registered := by
    decide +kernel
  exact (only_password_iff bcryptPlatform_bcrypt bcryptSeeded_seeds (run_replay newcomer_enabled)
    member).mpr (by decide +kernel)

/-- A password of 72 bytes, with everything it has to have. -/
def longPassword : Text := "Password123".toList ++ List.replicate 61 'x'

private theorem longPassword_enabled : (exec (step bcryptPlatform) ⟨bcryptSeeded, []⟩
    (newcomer longPassword)).isSome = true := by
  decide +kernel

/-- Login takes a password of 72 bytes with one more character. -/
theorem longer_password_taken :
    ¬ ∀ (platform : Platform) (salt : Text) (ids : List Uuid) (seeded : Table User)
      (ts : List (Transition World Action)) (w : World) (r : RegisterDto × User), Bcrypt platform →
      seed (platform.hash seedPassword salt) identities ids .empty = some seeded →
      Run (step platform) ⟨seeded, []⟩ ts w → r ∈ ts.flatMap registered →
      OnlyPassword platform w.shared r.1.email r.1.password := by
  intro only
  have member : ((⟨"s@example.com".toList, "Nobody".toList, longPassword⟩,
      ⟨flat 5, "s@example.com".toList, "Nobody".toList, bcryptPlatform.hash longPassword ['s'],
        .customer⟩) : RegisterDto × User) ∈
      (transitions (step bcryptPlatform) ⟨bcryptSeeded, []⟩ (newcomer longPassword)).flatMap
        registered := by
    decide +kernel
  have both := only _ _ _ _ _ _ _ bcryptPlatform_bcrypt bcryptSeeded_seeds
    (run_replay longPassword_enabled) member
  refine (both _ .rfl).2 (longPassword ++ ['x']) (by decide) ⟨by decide +kernel, ?_⟩
  exact ⟨_, rfl⟩

end KiTicket.Auth
