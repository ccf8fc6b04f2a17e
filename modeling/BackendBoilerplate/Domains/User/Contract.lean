import BackendBoilerplate.Domains.User.Service
import BackendBoilerplate.Lib.Linearizable

/-!
The contract of `UserService`: what one call at a time answers and does to the
users table, and how far a call of the service has come towards its answer.
-/
namespace BackendBoilerplate
open JavaScript Relational Async

/-- The data of `userRepository.create`. -/
def CreateUserDto.input (dto : CreateUserDto) (hash : String) (phone : Option String) :
    UserCreateInput :=
  { email := dto.email, password := hash, firstName := dto.firstName, lastName := dto.lastName
    phone, role := dto.role }

/-- The data of `userRepository.update`. -/
def UpdateUserDto.input (dto : UpdateUserDto) (phone : Option String) : UserUpdateInput :=
  { firstName := dto.firstName, lastName := dto.lastName, phone, role := dto.role
    isActive := dto.isActive }

/-- A stored phone as it is shown, where it decrypts. -/
def phoneOf (env : Externals) : Option String → Except JsError (Option String)
  | none => .ok none
  | some c => if c = "" then .ok none else (env.crypto.decrypt c).map some

/-- The row as it is shown. -/
def responseOf (env : Externals) (user : User) : Except JsError UserResponseDto :=
  (phoneOf env user.phone).map (.assign user)

def emailTaken : JsError := .conflict "User with this email already exists"

def userNotFound : JsError := .notFound "User not found"

/-- The user that a call is about, once it is there. -/
def UserCall.id? : UserCall → Option String
  | .create _ => none
  | .findOne id | .update id _ | .remove id => some id

/-- The sequential specification: creating is refused exactly where the email is
taken, the other calls exactly where the id is absent, and otherwise they succeed. -/
inductive UserSpec (env : Externals) :
    SequentialSpec (Table User) UserCall JsError (Option UserResponseDto)
  | emailTaken {dto : CreateUserDto} {users : Table User} {u : User} (hu : u ∈ users.rows)
      (taken : u.email = dto.email) :
      UserSpec env (.create dto) users (.error emailTaken) users
  | created {dto : CreateUserDto} {users users' : Table User} {hash : String}
      {phone : Option String} {role : Role} {id : String} {now : Int}
      {response : UserResponseDto} (free : ∀ u ∈ users.rows, u.email ≠ dto.email)
      (inserted : users.insert? ((dto.input hash phone).row role id now) = some users')
      (shown : responseOf env ((dto.input hash phone).row role id now) = .ok response) :
      UserSpec env (.create dto) users (.ok (some response)) users'
  | absent {call : UserCall} {id : String} {users : Table User} (about : call.id? = some id)
      (absent : users.find? (byId id) = none) :
      UserSpec env call users (.error userNotFound) users
  | found {id : String} {users : Table User} {u : User} {response : UserResponseDto}
      (present : users.find? (byId id) = some u) (shown : responseOf env u = .ok response) :
      UserSpec env (.findOne id) users (.ok (some response)) users
  | updated {id : String} {dto : UpdateUserDto} {users : Table User} {u : User}
      {phone : Option String} {now : Int} {response : UserResponseDto}
      (present : users.find? (byId id) = some u)
      (shown : responseOf env ((dto.input phone).apply now u) = .ok response) :
      UserSpec env (.update id dto) users (.ok (some response))
        (users.updateWhere (byId id) ((dto.input phone).apply now) fun _ _ h => h)
  | removed {id : String} {users : Table User} {u : User}
      (present : users.find? (byId id) = some u) :
      UserSpec env (.remove id) users (.ok none) (users.deleteWhere (byId id))

/-- How far a call has come: nothing asked yet, its check passed, the row that it
answers with read or written, its outcome settled. -/
inductive UserPhase where
  | start (call : UserCall)
  | checked
  | row (user : User)
  | decided (r : Except JsError (Option UserResponseDto))

variable (env : Externals)

/-- The outcome that a call has come to. -/
def UserPhase.outcome : UserPhase → Option (Except JsError (Option UserResponseDto))
  | .row user => some ((responseOf env user).map some)
  | .decided r => some r
  | _ => none

def UserPhase.next (l : UserPhase) : Done (accounts env) → UserPhase
  | ⟨_, _, .error e⟩ => .decided (.error e)
  | ⟨.findByEmail _, _, .ok found⟩ =>
      match found with
      | some _ => .decided (.error emailTaken)
      | none => .checked
  | ⟨.findById _, _, .ok found⟩ =>
      match found with
      | none => .decided (.error userNotFound)
      | some user => match l with
          | .start (.findOne _) => .row user
          | _ => .checked
  | ⟨.createUser _, _, .ok user⟩ => .row user
  | ⟨.updateUser .., _, .ok user⟩ => .row user
  | ⟨.deleteUser _, _, .ok _⟩ => .decided (.ok none)
  | ⟨.decrypt _, _, .ok plaintext⟩ =>
      match l with
      | .row user => .decided (.ok (some (.assign user (some plaintext))))
      | l => l
  | _ => l

/-- The operations that a call may perform in a phase. -/
def UserCall.may (call : UserCall) (l : UserPhase) : AccountsOp → Prop
  | .findByEmail email => l = .start call ∧ ∃ dto, call = .create dto ∧ dto.email = email
  | .findById id => l = .start call ∧ call.id? = some id
  | .argon2Hash _ | .encrypt _ => l = .checked
  | .createUser data =>
      l = .checked ∧ ∃ dto hash phone, call = .create dto ∧ data = dto.input hash phone
  | .updateUser id data => l = .checked ∧ ∃ dto phone, call = .update id dto ∧ data = dto.input phone
  | .deleteUser id => l = .checked ∧ call = .remove id
  | .emit _ => (l.outcome env).isSome
  | .decrypt c => c ≠ "" ∧ ∃ user, l = .row user ∧ user.phone = some c
  | _ => False

@[reducible] def userProtocol : Protocol (accounts env) UserCall where
  Phase := UserPhase
  init := .start
  next := UserPhase.next env
  may := UserCall.may env

/-- A call ends with the outcome that it had come to. -/
def UserCall.post (_ : UserCall) (l : UserPhase) (r : Except JsError (Option UserResponseDto)) :
    Prop := l.outcome env = some r

variable {env} {call : UserCall}

theorem follows_userResponse (user : User) :
    ((toResponseDto user).bind fun r => .ret (some r)).Follows (userProtocol env) call
      (call.post env) (.row user) := by
  unfold toResponseDto decryptPhone
  cases hphone : user.phone with
  | none =>
      change some ((responseOf env user).map some) = _
      rw [responseOf, hphone]
      rfl
  | some c =>
      dsimp only
      by_cases hc : c = ""
      · rw [if_pos hc]
        change some ((responseOf env user).map some) = _
        rw [responseOf, hphone, phoneOf, if_pos hc]
        rfl
      · rw [if_neg hc]
        refine ⟨⟨hc, user, rfl, hphone⟩, fun ch r => ?_⟩
        cases r <;> rfl

theorem follows_encryptPhone (phone : JsField String) :
    (UserService.encryptPhone phone).Follows (userProtocol env) call
      (fun l r => match r with
        | .ok _ => l = .checked
        | .error e => l = .decided (.error e)) .checked := by
  unfold UserService.encryptPhone
  split
  · rfl
  · refine ⟨rfl, fun ch r => ?_⟩
    cases r <;> rfl

theorem follows_create (dto : CreateUserDto) :
    (UserCall.program (.create dto)).Follows (userProtocol env) (.create dto)
      (UserCall.post env (.create dto)) (.start (.create dto)) := by
  refine ⟨⟨rfl, dto, rfl, rfl⟩, fun ch r => ?_⟩
  rcases r with e | _ | existing
  · rfl
  · refine ⟨rfl, fun ch r => ?_⟩
    cases r with
    | error e => rfl
    | ok hash =>
        change Prog.Follows (userProtocol env) _ _ (((UserService.encryptPhone _).bind _).bind _) _
        rw [Prog.bind_assoc]
        refine Prog.follows_bind (follows_encryptPhone dto.phone) ?_ ?_
        · rintro l phone rfl
          refine ⟨⟨rfl, dto, hash, phone, rfl, rfl⟩, fun ch r => ?_⟩
          cases r with
          | error e => rfl
          | ok user =>
              refine ⟨rfl, fun ch r => ?_⟩
              cases r with
              | error e => rfl
              | ok _ => exact follows_userResponse user
        · rintro l e rfl
          rfl
  · rfl

theorem follows_findOne (id : String) :
    (UserCall.program (.findOne id)).Follows (userProtocol env) (.findOne id)
      (UserCall.post env (.findOne id)) (.start (.findOne id)) := by
  refine ⟨⟨rfl, rfl⟩, fun ch r => ?_⟩
  rcases r with e | _ | user
  · rfl
  · rfl
  · exact follows_userResponse user

theorem follows_update (id : String) (dto : UpdateUserDto) :
    (UserCall.program (.update id dto)).Follows (userProtocol env) (.update id dto)
      (UserCall.post env (.update id dto)) (.start (.update id dto)) := by
  refine ⟨⟨rfl, rfl⟩, fun ch r => ?_⟩
  rcases r with e | _ | existing
  · rfl
  · rfl
  · change Prog.Follows (userProtocol env) _ _ (((UserService.encryptPhone _).bind _).bind _) _
    rw [Prog.bind_assoc]
    refine Prog.follows_bind (follows_encryptPhone dto.phone) ?_ ?_
    · rintro l phone rfl
      refine ⟨⟨rfl, dto, phone, rfl, rfl⟩, fun ch r => ?_⟩
      cases r with
      | error e => rfl
      | ok user =>
          refine ⟨rfl, fun ch r => ?_⟩
          cases r with
          | error e => rfl
          | ok _ => exact follows_userResponse user
    · rintro l e rfl
      rfl

theorem follows_remove (id : String) :
    (UserCall.program (.remove id)).Follows (userProtocol env) (.remove id)
      (UserCall.post env (.remove id)) (.start (.remove id)) := by
  refine ⟨⟨rfl, rfl⟩, fun ch r => ?_⟩
  rcases r with e | _ | user
  · rfl
  · rfl
  · refine ⟨⟨rfl, rfl⟩, fun ch r => ?_⟩
    cases r with
    | error e => rfl
    | ok _ =>
        refine ⟨rfl, fun ch r => ?_⟩
        cases r <;> rfl

/-- All four programs keep to the protocol. -/
theorem UserCall.conforms (env : Externals) (call : UserCall) :
    call.program.Follows (userProtocol env) call (call.post env)
      ((userProtocol env).init call) := by
  cases call with
  | create dto => exact follows_create dto
  | findOne id => exact follows_findOne id
  | update id dto => exact follows_update id dto
  | remove id => exact follows_remove id

end BackendBoilerplate
