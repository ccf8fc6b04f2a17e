import BackendBoilerplate.Core.ValidationPipe
import BackendBoilerplate.Domains.User.Service

/-!
`UserController` behind the global validation pipe and the two global guards: who may
call which route, and the service call behind it.
-/
namespace BackendBoilerplate
open JavaScript Relational Async

/-- The routes of `UserController`, with what a request brings. -/
inductive UserRoute where
  | create (body : Json)
  | getProfile
  | findAll (query : QueryUserDto)
  | findOne (id : String)
  | update (id : String) (body : Json)
  | remove (id : String)

/-- `bearer` is the owner of the access token that the request carries. -/
structure UserRequest where
  bearer : Option String
  route : UserRoute

inductive UserReply where
  | user (dto : UserResponseDto)
  | users (data : List UserResponseDto) (pagination : PaginationMeta)
  | noContent
  deriving DecidableEq, Repr

namespace UserController

/-- The routes under `@Public()`. -/
def isPublic : UserRoute → Bool
  | .create _ => true
  | _ => false

/-- The roles under `@Roles(..)`. -/
def requiredRoles : UserRoute → Option (List Role)
  | .findAll _ => some [.admin]
  | .remove _ => some [.admin]
  | _ => none

/-- `JwtStrategy` puts the row of the token's owner into `request.user`. -/
def authenticate (bearer : Option String) : AccountsProg User :=
  match bearer with
  | none => throw (.unauthorized "Unauthorized")
  | some sub => do
      let user ← AuthService.validateUser sub
      match user with
      | none => throw (.unauthorized "Unauthorized")
      | some user => pure user

/-- `JwtAuthGuard`: a public route is not authenticated at all. -/
def jwtAuthGuard (request : UserRequest) : AccountsProg (Option User) :=
  if isPublic request.route then pure none
  else do
    let user ← authenticate request.bearer
    pure (some user)

/-- `RolesGuard`: a route without `@Roles(..)` is open to every role. -/
def rolesGuard (route : UserRoute) (user : Option User) : Bool :=
  match requiredRoles route with
  | none => true
  | some roles =>
      match user with
      | none => false
      | some user => roles.any fun role => user.role == role

/-- The handler of a route, behind the validation pipe. -/
def handler (pipe : ValidationPipe) (route : UserRoute) (user : Option User) :
    AccountsProg UserReply :=
  match route with
  | .create body =>
      match pipe.createUserDto body with
      | .error e => throw e
      | .ok dto => (UserService.create dto).bind fun r => pure (.user r)
  | .getProfile =>
      match user with
      | none => throw (.error "Cannot read properties of undefined (reading 'id')")
      | some user => (UserService.findOne user.id).bind fun r => pure (.user r)
  | .findAll query => (UserService.findAll query).bind fun r => pure (.users r.1 r.2)
  | .findOne id => (UserService.findOne id).bind fun r => pure (.user r)
  | .update id body =>
      match pipe.updateUserDto body with
      | .error e => throw e
      | .ok dto => (UserService.update id dto).bind fun r => pure (.user r)
  | .remove id => (UserService.remove id).bind fun _ => pure .noContent

/-- A request through the guards to its handler. -/
def handle (pipe : ValidationPipe) (request : UserRequest) : AccountsProg UserReply := do
  let user ← jwtAuthGuard request
  if rolesGuard request.route user then handler pipe request.route user
  else throw (.forbidden "Forbidden resource")

end UserController
end BackendBoilerplate
