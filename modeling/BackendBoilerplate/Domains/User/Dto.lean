import BackendBoilerplate.Prisma.Accounts

/-!
The data transfer objects of the user API after validation, and the response
object. `UserResponseDto` is assigned from a whole spread row, so every column of
the row is an own property of it, whatever its decorators say.
-/
namespace BackendBoilerplate
open JavaScript Relational Async

structure CreateUserDto where
  email : String
  password : String
  firstName : JsField String
  lastName : JsField String
  phone : JsField String
  role : JsField Role
  deriving DecidableEq, Repr

structure UpdateUserDto where
  firstName : JsField String
  lastName : JsField String
  phone : JsField String
  role : JsField Role
  isActive : JsField Bool
  deriving DecidableEq, Repr

/-- A query that passed `@Min(1)` on both numbers and `@Max(100)` on the limit. -/
structure QueryUserDto where
  page : Nat := 1
  limit : Nat := 10
  search : Option String := none
  role : Option Role := none
  sortBy : String := "createdAt"
  sortOrder : SortOrder := .desc
  page_pos : 1 ≤ page := by decide
  limit_pos : 1 ≤ limit := by decide
  limit_le : limit ≤ 100 := by decide

structure UserResponseDto where
  id : String
  email : String
  firstName : Option String
  lastName : Option String
  phone : Option String
  role : Role
  isActive : Bool
  createdAt : Int
  updatedAt : Int
  password : String
  deriving DecidableEq, Repr

/-- The string in an optional property where it is truthy. -/
def truthy : JsField String → Option String
  | .value s => if s = "" then none else some s
  | _ => none

/-- `new UserResponseDto({ ...user, phone })`. -/
def UserResponseDto.assign (user : User) (phone : Option String) : UserResponseDto :=
  { id := user.id, email := user.email, firstName := user.firstName, lastName := user.lastName
    phone, role := user.role, isActive := user.isActive, createdAt := user.createdAt
    updatedAt := user.updatedAt, password := user.password }

def Role.text : Role → String
  | .admin => "ADMIN"
  | .user => "USER"
  | .moderator => "MODERATOR"

/-- The own enumerable properties, in the order of the class's fields. -/
def UserResponseDto.toJs (dto : UserResponseDto) : JsVal :=
  .obj [("id", .str dto.id), ("email", .str dto.email), ("firstName", nullable dto.firstName),
    ("lastName", nullable dto.lastName), ("phone", optional dto.phone),
    ("role", .str dto.role.text), ("isActive", .bool dto.isActive),
    ("createdAt", .date dto.createdAt), ("updatedAt", .date dto.updatedAt),
    ("password", .str dto.password)]

/-- `user.phone ? this.crypto.decrypt(user.phone) : undefined`. -/
def decryptPhone (phone : Option String) : AccountsProg (Option String) :=
  match phone with
  | none => pure none
  | some c => if c = "" then pure none else do
      let plaintext ← Prog.await (S := AccountsSig) (.decrypt c)
      pure (some plaintext)

def toResponseDto (user : User) : AccountsProg UserResponseDto := do
  let phone ← decryptPhone user.phone
  pure (.assign user phone)

end BackendBoilerplate
