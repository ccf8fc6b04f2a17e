import BackendBoilerplate.Domains.User.Dto

/-!
`UserService`, statement by statement, over the same machine as `AuthService`.
-/
namespace BackendBoilerplate
open JavaScript Relational Async

structure PaginationMeta where
  page : Nat
  limit : Nat
  total : Nat
  totalPages : Nat
  hasNext : Bool
  hasPrev : Bool
  deriving DecidableEq, Repr

namespace UserService

abbrev await (op : AccountsOp) : AccountsProg op.Res := Prog.await (S := AccountsSig) op

/-- `dto.phone ? this.crypto.encrypt(dto.phone) : undefined`. -/
def encryptPhone (phone : JsField String) : AccountsProg (Option String) :=
  match truthy phone with
  | none => pure none
  | some phone => do
      let ciphertext ← await (.encrypt phone)
      pure (some ciphertext)

def create (createUserDto : CreateUserDto) : AccountsProg UserResponseDto := do
  let existingUser ← await (.findByEmail createUserDto.email)
  match existingUser with
  | some _ => throw (.conflict "User with this email already exists")
  | none => do
      let hashedPassword ← await (.argon2Hash createUserDto.password)
      let encryptedPhone ← encryptPhone createUserDto.phone
      let user ← await (.createUser
        { email := createUserDto.email, password := hashedPassword
          firstName := createUserDto.firstName, lastName := createUserDto.lastName
          phone := encryptedPhone, role := createUserDto.role })
      await (.emit (.userCreated user.id user.email user.role))
      toResponseDto user

def toResponseDtos : List User → AccountsProg (List UserResponseDto)
  | [] => pure []
  | user :: users => do
      let dto ← toResponseDto user
      let dtos ← toResponseDtos users
      pure (dto :: dtos)

/-- `where` as `findAll` builds it: an empty search is left out. -/
def whereOf (query : QueryUserDto) : UserWhere :=
  ⟨query.search.filter (· ≠ ""), query.role⟩

def skipOf (query : QueryUserDto) : Nat := (query.page - 1) * query.limit

/-- The pagination of `findAll`; `Math.ceil` of a quotient of naturals. -/
def metaOf (query : QueryUserDto) (total : Nat) : PaginationMeta :=
  let totalPages := (total + query.limit - 1) / query.limit
  { page := query.page, limit := query.limit, total, totalPages
    hasNext := query.page < totalPages, hasPrev := 1 < query.page }

def findAll (query : QueryUserDto) : AccountsProg (List UserResponseDto × PaginationMeta) := do
  let total ← await (.countUsers (whereOf query))
  let users ← await (.findManyUsers (whereOf query) (skipOf query) query.limit query.sortBy
    query.sortOrder)
  let data ← toResponseDtos users
  pure (data, metaOf query total)

def findOne (id : String) : AccountsProg UserResponseDto := do
  let user ← await (.findById id)
  match user with
  | none => throw (.notFound "User not found")
  | some user => toResponseDto user

/-- A property of the DTO as an entry of `changes`, unless it is undefined. -/
def change {α : Type} (key : String) (toJs : α → JsVal) : JsField α → List (String × JsVal)
  | .undefined => []
  | .null => [(key, .null)]
  | .value a => [(key, toJs a)]

def changes (dto : UpdateUserDto) : List (String × JsVal) :=
  change "firstName" .str dto.firstName ++ change "lastName" .str dto.lastName ++
    change "phone" .str dto.phone ++ change "role" (fun role => .str role.text) dto.role ++
    change "isActive" .bool dto.isActive

def update (id : String) (updateUserDto : UpdateUserDto) : AccountsProg UserResponseDto := do
  let existingUser ← await (.findById id)
  match existingUser with
  | none => throw (.notFound "User not found")
  | some _ => do
      let encryptedPhone ← encryptPhone updateUserDto.phone
      let user ← await (.updateUser id
        { firstName := updateUserDto.firstName, lastName := updateUserDto.lastName
          phone := encryptedPhone, role := updateUserDto.role
          isActive := updateUserDto.isActive })
      await (.emit (.userUpdated user.id user.email (changes updateUserDto)))
      toResponseDto user

def remove (id : String) : AccountsProg Unit := do
  let user ← await (.findById id)
  match user with
  | none => throw (.notFound "User not found")
  | some user => do
      let _ ← await (.deleteUser id)
      await (.emit (.userDeleted user.id user.email))

end UserService

/-- The calls of `UserService` that work on one user. -/
inductive UserCall where
  | create (dto : CreateUserDto)
  | findOne (id : String)
  | update (id : String) (dto : UpdateUserDto)
  | remove (id : String)
  deriving DecidableEq, Repr

/-- What a call resolves to; `remove` resolves to nothing. -/
def UserCall.program : UserCall → AccountsProg (Option UserResponseDto)
  | .create dto => (UserService.create dto).bind fun r => .ret (some r)
  | .findOne id => (UserService.findOne id).bind fun r => .ret (some r)
  | .update id dto => (UserService.update id dto).bind fun r => .ret (some r)
  | .remove id => (UserService.remove id).bind fun _ => .ret none

end BackendBoilerplate
