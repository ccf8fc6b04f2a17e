import BackendBoilerplate.Lib.Pagination
import BackendBoilerplate.Lib.Pool
import BackendBoilerplate.Prisma.Database
import BackendBoilerplate.Shared.Crypto

/-!
The machine under the user and auth services: their repositories' operations,
each one atomic statement, and the third-party calls they await. The state is
the database and the domain events emitted so far. What a step meets outside is
a choice: the clock, a string or IV that a third party makes up, and whether the
step is made to fail. A failed step has no effect.
-/
namespace BackendBoilerplate
open JavaScript Relational Async

structure JwtPayload where
  sub : String
  email : String
  role : Role
  deriving DecidableEq, Repr

/-- `JwtSignOptions['expiresIn']`. -/
inductive ExpiresIn where
  | text (s : String)
  | seconds (n : Nat)
  deriving DecidableEq, Repr

structure JwtKey where
  secret : String
  expiresIn : ExpiresIn
  deriving DecidableEq, Repr

structure AuthJwtConfig where
  access : JwtKey
  refresh : JwtKey
  deriving DecidableEq, Repr

inductive DomainEvent where
  | userCreated (userId email : String) (role : Role)
  | userUpdated (userId email : String) (changes : List (String × JsVal))
  | userDeleted (userId email : String)
  | userLogin (userId email : String)
  | userLogout (userId email : String)

inductive SortOrder where
  | asc
  | desc
  deriving DecidableEq, Repr

/-- `Prisma.UserWhereInput` as `findAll` builds it. -/
structure UserWhere where
  search : Option String
  role : Option Role
  deriving DecidableEq, Repr

/-- What the services are configured with and what third parties compute. The
zone gives local time and back, for the `Date` setters. Of Prisma: `orderBy` puts rows
in order, or answers nothing for a column that the database cannot sort by; `served` is
the positions that it takes for a `skip` and a `take` among so many rows, unless it
refuses them; `tokenFilter` is what it makes of a JSON value in the place of a token;
`storesDate` are the dates that it takes. -/
structure Externals where
  jwtConfig : Option AuthJwtConfig
  crypto : CryptoService
  argon2Verify : (hash password : String) → Bool
  jwtVerify : (token secret : String) → (now : Int) → Option JwtPayload
  localTime : Int → Int
  utc : Int → Int
  containsInsensitive : (text search : String) → Bool
  orderBy : (column : String) → SortOrder → List User → Option (List User)
  orderBy_perm : ∀ column order rows sorted, orderBy column order rows = some sorted →
    sorted.Perm rows
  served : (skip take total : Nat) → Option (List (Fin total))
  tokenFilter : Json → Except JsError (String → Bool)
  storesDate : Int → Bool

def AuthJwtConfig.plain : AuthJwtConfig :=
  ⟨⟨"access-secret", .text "15m"⟩, ⟨"refresh-secret", .text "7d"⟩⟩

/-- A configuration to evaluate on: UTC, plain passwords, every token verifies. Prisma
takes the years 1 to 9999, and of filters the empty one. -/
def Externals.plain : Externals where
  jwtConfig := some .plain
  crypto := ⟨⟨fun _ _ _ => none, fun _ _ _ _ => none, fun _ => ""⟩, []⟩
  argon2Verify hash password := hash == password
  jwtVerify _ _ _ := some ⟨"ann", "ann@example.com", .user⟩
  localTime := id
  utc := id
  containsInsensitive _ _ := true
  orderBy _ _ rows := some rows
  orderBy_perm _ _ _ _ h := by rw [Option.some.inj h]
  served skip take total := some (Paging.window skip take total)
  tokenFilter
    | .obj [] => .ok fun _ => true
    | _ => .error (.prismaValidation "Argument token: Invalid value provided.")
  storesDate ms := -62135596800000 ≤ ms && ms ≤ 253402300799999

inductive AccountsOp where
  | findByEmail (email : String)
  | findById (id : String)
  | countUsers (where_ : UserWhere)
  | findManyUsers (where_ : UserWhere) (skip take : Nat) (sortBy : String) (sortOrder : SortOrder)
  | createUser (data : UserCreateInput)
  | updateUser (id : String) (data : UserUpdateInput)
  | deleteUser (id : String)
  | findRefreshTokenWithUser (token : String)
  | deleteRefreshToken (token : String)
  | createRefreshToken (userId token : String) (expiresAt : Option Int)
  | deleteRefreshTokens (userId : String) (refreshToken : Option String)
  | deleteRefreshTokensMatching (userId : String) (refreshToken : Json)
  | findUserById (userId : String)
  | argon2Hash (password : String)
  | argon2Verify (hash password : String)
  | signAsync (payload : JwtPayload) (key : JwtKey)
  | jwtVerify (token secret : String)
  | encrypt (plaintext : String)
  | decrypt (ciphertext : String)
  | newDate
  | emit (event : DomainEvent)

abbrev AccountsOp.Res : AccountsOp → Type
  | .findByEmail _ => Option User
  | .findById _ => Option User
  | .countUsers _ => Nat
  | .findManyUsers .. => List User
  | .createUser _ => User
  | .updateUser .. => User
  | .deleteUser _ => User
  | .findRefreshTokenWithUser _ => Option (RefreshToken × User)
  | .deleteRefreshToken _ => RefreshToken
  | .createRefreshToken .. => RefreshToken
  | .deleteRefreshTokens .. => Unit
  | .deleteRefreshTokensMatching .. => Unit
  | .findUserById _ => Option User
  | .argon2Hash _ => String
  | .argon2Verify .. => Bool
  | .signAsync .. => String
  | .jwtVerify .. => JwtPayload
  | .encrypt _ => String
  | .decrypt _ => String
  | .newDate => Int
  | .emit _ => Unit

abbrev AccountsSig : Signature := ⟨AccountsOp, AccountsOp.Res⟩

abbrev AccountsProg (α : Type) := Prog AccountsSig JsError α

structure AccountsState where
  db : Database
  events : List DomainEvent

/-- `now` is the clock in milliseconds; `draw` is the cuid, the argon2 hash or
the signed token that is made at this step, `iv` the IV. -/
structure Choice where
  now : Int := 0
  draw : String := ""
  iv : List UInt8 := []
  fault : Option JsError := none

def UserWhere.matches (env : Externals) (w : UserWhere) (u : User) : Bool :=
  (match w.search with
    | none => true
    | some s =>
        env.containsInsensitive u.email s ||
          u.firstName.any (env.containsInsensitive · s) ||
          u.lastName.any (env.containsInsensitive · s)) &&
  (match w.role with
    | none => true
    | some r => u.role == r)

/-- `where: refreshToken ? { userId, token: refreshToken } : { userId }`. -/
def logoutWhere (userId : String) (refreshToken : Option String) (t : RefreshToken) : Bool :=
  t.userId == userId &&
    match refreshToken with
    | none => true
    | some token => token == "" || t.token == token

namespace AccountsState

/-- These users, none of whom holds a refresh token. -/
def ofUsers (users : Table User) : AccountsState :=
  ⟨⟨users, .empty, fun _ ht => by cases ht⟩, []⟩

/-- The answer and state after a database statement that may be refused. -/
def write {α β : Type} (s : AccountsState) (f : α → β) :
    Except JsError (α × Database) → Except JsError β × AccountsState
  | .ok (a, db) => (.ok (f a), { s with db })
  | .error e => (.error e, s)

def read {α : Type} (s : AccountsState) (a : Except JsError α) :
    Except JsError α × AccountsState := (a, s)

/-- A statement that is answered was accepted, and leaves the database that it made. -/
theorem write_ok {α β : Type} {s : AccountsState} {f : α → β}
    {r : Except JsError (α × Database)} {b : β} (h : (s.write f r).1 = .ok b) :
    ∃ a db', r = .ok (a, db') ∧ (s.write f r).2 = { s with db := db' } := by
  cases r with
  | error e => cases h
  | ok res => exact ⟨res.1, res.2, rfl, rfl⟩

end AccountsState

/-- The rows of a page, in the order in which Prisma answers them. -/
def Externals.page (env : Externals) (skip take : Nat) (rows : List User) :
    Except JsError (List User) :=
  match env.served skip take rows.length with
  | some positions => .ok (positions.map rows.get)
  | none => .error (.prismaValidation "Invalid value for argument skip or take")

theorem Externals.mem_of_page {env : Externals} {skip take : Nat} {rows users : List User}
    (h : env.page skip take rows = .ok users) {user : User} (huser : user ∈ users) :
    user ∈ rows := by
  unfold page at h
  split at h
  · next positions _ =>
      obtain rfl := Except.ok.inj h
      obtain ⟨i, -, rfl⟩ := List.mem_map.mp huser
      exact rows.get_mem i
  · cases h

/-- One atomic step that is not made to fail. -/
def AccountsOp.exec (env : Externals) (ch : Choice) (s : AccountsState) :
    (op : AccountsOp) → Except JsError op.Res × AccountsState
  | .findByEmail email => s.read (.ok (s.db.users.find? (byEmail email)))
  | .findById id => s.read (.ok (s.db.users.find? (byId id)))
  | .countUsers w => s.read (.ok (s.db.users.rows.countP (w.matches env)))
  | .findManyUsers w skip take sortBy sortOrder =>
      s.read (match env.orderBy sortBy sortOrder (s.db.users.rows.filter (w.matches env)) with
        | some rows => env.page skip take rows
        | none => .error (.prismaValidation "Unknown argument in orderBy"))
  | .createUser data => s.write id (s.db.createUser data ch.draw ch.now)
  | .updateUser userId data => s.write id (s.db.updateUser userId data ch.now)
  | .deleteUser userId => s.write id (s.db.deleteUser userId)
  | .findRefreshTokenWithUser token => s.read (.ok (s.db.findRefreshTokenWithUser token))
  | .deleteRefreshToken token => s.write id (s.db.deleteRefreshToken token)
  | .createRefreshToken userId token expiresAt =>
      s.write id (s.db.createRefreshToken userId token (expiresAt.filter env.storesDate) ch.draw
        ch.now)
  | .deleteRefreshTokens userId refreshToken =>
      (.ok (), { s with db := s.db.deleteRefreshTokensWhere (logoutWhere userId refreshToken) })
  | .deleteRefreshTokensMatching userId refreshToken =>
      match env.tokenFilter refreshToken with
      | .ok filter => (.ok (), { s with
          db := s.db.deleteRefreshTokensWhere fun t => t.userId == userId && filter t.token })
      | .error e => (.error e, s)
  | .findUserById userId => s.read (.ok (s.db.users.find? (byId userId)))
  | .argon2Hash _ => s.read (.ok ch.draw)
  | .argon2Verify hash password => s.read (.ok (env.argon2Verify hash password))
  | .signAsync _ _ => s.read (.ok ch.draw)
  | .jwtVerify token secret =>
      s.read (match env.jwtVerify token secret ch.now with
        | some payload => .ok payload
        | none => .error (.error "invalid token"))
  | .encrypt plaintext => s.read (env.crypto.encrypt ch.iv plaintext)
  | .decrypt ciphertext => s.read (env.crypto.decrypt ciphertext)
  | .newDate => s.read (.ok ch.now)
  | .emit event => (.ok (), { s with events := s.events ++ [event] })

/-- Reading the clock and emitting an event cannot be made to fail. -/
def AccountsOp.canFail : AccountsOp → Bool
  | .newDate => false
  | .emit _ => false
  | _ => true

/-- The backend's accounts machine. -/
@[reducible] def accounts (env : Externals) : Machine AccountsSig JsError where
  State := AccountsState
  Choice := Choice
  exec _ op ch s :=
    match ch.fault, op.canFail with
    | some e, true => (.error e, s)
    | _, _ => op.exec env ch s

/-- Operations that write to the refresh_tokens or users table. -/
def AccountsOp.writes : AccountsOp → Bool
  | .createUser _ | .updateUser .. | .deleteUser _ | .deleteRefreshToken _
  | .createRefreshToken .. | .deleteRefreshTokens .. | .deleteRefreshTokensMatching .. => true
  | _ => false

def AccountsOp.createsUser : AccountsOp → Bool
  | .createUser _ => true
  | _ => false

theorem exec_db_of_not_writes (env : Externals) (caller : Nat) (op : AccountsOp) (ch : Choice)
    (s : AccountsState) (h : op.writes = false) :
    ((accounts env).exec caller op ch s).2.db = s.db := by
  simp only [accounts]
  split
  · rfl
  · cases op <;> first | rfl | cases h

theorem exec_of_fault (env : Externals) (caller : Nat) (op : AccountsOp) (ch : Choice)
    (s : AccountsState) {e : JsError} (hf : ch.fault = some e) (hc : op.canFail = true) :
    (accounts env).exec caller op ch s = (.error e, s) := by
  simp only [accounts, hf, hc]

theorem exec_of_no_fault (env : Externals) (caller : Nat) (op : AccountsOp) (ch : Choice)
    (s : AccountsState) (hf : ch.fault = none) :
    (accounts env).exec caller op ch s = op.exec env ch s := by
  simp only [accounts, hf]

theorem exec_or_fault (env : Externals) (caller : Nat) (op : AccountsOp) (ch : Choice)
    (s : AccountsState) :
    (accounts env).exec caller op ch s = op.exec env ch s ∨
      ((accounts env).exec caller op ch s).2 = s := by
  simp only [accounts]
  split
  · exact .inr rfl
  · exact .inl rfl

/-- An operation that is answered was not made to fail. -/
theorem exec_of_ok {env : Externals} {caller : Nat} {op : AccountsOp} {ch : Choice}
    {s : AccountsState} {a : op.Res} (h : ((accounts env).exec caller op ch s).1 = .ok a) :
    (accounts env).exec caller op ch s = op.exec env ch s := by
  simp only [accounts] at h ⊢
  split at h
  · cases h
  · rfl

/-- A step that answers an error leaves the state as it was. -/
theorem exec_error {env : Externals} {tid : Nat} {op : AccountsOp} {ch : Choice}
    {s : AccountsState} {e : JsError} (h : ((accounts env).exec tid op ch s).1 = .error e) :
    ((accounts env).exec tid op ch s).2 = s := by
  have write_error {α β : Type} (f : α → β) (r : Except JsError (α × Database))
      (hr : (s.write f r).1 = .error e) : (s.write f r).2 = s := by
    cases r with
    | error e => rfl
    | ok a => cases hr
  simp only [accounts] at h ⊢
  split
  · rfl
  · next hn =>
      simp only at h
      cases op with
      | deleteRefreshTokensMatching userId refreshToken =>
          simp only [AccountsOp.exec] at h ⊢
          split at h
          · cases h
          · rfl
      | _ => first | rfl | cases h | exact write_error _ _ h

/-- A program that returns had its first operation answered. -/
theorem run_await_inv {env : Externals} {caller : Nat} {op : AccountsOp} {β : Type}
    {f : op.Res → AccountsProg β} {ω : Nat → Choice} {s : AccountsState} {b : β}
    (h : (((Prog.await (S := AccountsSig) op).bind f).run (accounts env) caller ω s).outcome =
      .ok b) :
    ∃ a s', op.exec env (ω 0) s = (.ok a, s') ∧
      ((f a).run (accounts env) caller (fun n => ω (n + 1)) s').outcome = .ok b := by
  cases hexec : (accounts env).exec caller op (ω 0) s with
  | mk answer s' =>
      cases answer with
      | error e => rw [Prog.run_await_error (accounts env) caller hexec] at h; cases h
      | ok a =>
          rw [Prog.run_await_ok (accounts env) caller hexec] at h
          exact ⟨a, s', (exec_of_ok (congrArg Prod.fst hexec)).symm.trans hexec, h⟩

/-- Two states that an operation does not tell apart where it is not made to fail. -/
theorem exec_alike {env : Externals} {caller : Nat} {op : AccountsOp} {ch : Choice}
    {J : AccountsState → AccountsState → Prop} {s t : AccountsState} (h : J s t)
    (alike : (op.exec env ch s).1 = (op.exec env ch t).1 ∧
      J (op.exec env ch s).2 (op.exec env ch t).2) :
    ((accounts env).exec caller op ch s).1 = ((accounts env).exec caller op ch t).1 ∧
      J ((accounts env).exec caller op ch s).2 ((accounts env).exec caller op ch t).2 := by
  simp only [accounts]
  cases ch.fault with
  | none => exact alike
  | some e =>
      cases op.canFail with
      | true => exact ⟨rfl, h⟩
      | false => exact alike

@[simp] theorem exec_newDate (env : Externals) (caller : Nat) (ch : Choice) (s : AccountsState) :
    (accounts env).exec caller .newDate ch s = (.ok ch.now, s) := by
  simp only [accounts]
  cases ch.fault with
  | none => rfl
  | some e => rfl

@[simp] theorem exec_emit (env : Externals) (caller : Nat) (event : DomainEvent) (ch : Choice)
    (s : AccountsState) : (accounts env).exec caller (.emit event) ch s =
      (.ok (), { s with events := s.events ++ [event] }) := by
  simp only [accounts]
  cases ch.fault with
  | none => rfl
  | some e => rfl

end BackendBoilerplate
