import BackendBoilerplate.Domains.User.Controller

/-!
`AuthController` behind the same validation pipe and guards as `UserController`, and the
requests that go to either of the two.
-/
namespace BackendBoilerplate
open JavaScript Relational Async

/-- The routes of `AuthController`, with what a request brings. The body of a logout, if there
is one, is of no class, so the pipe lets it through as it is. -/
inductive AuthRoute where
  | login (body : Json)
  | refresh (body : Json)
  | logout (body : Option Json)

inductive AuthReply where
  | session (dto : AuthResponseDto)
  | noContent
  deriving DecidableEq, Repr

namespace AuthController

/-- The routes under `@Public()`. -/
def isPublic : AuthRoute → Bool
  | .login _ | .refresh _ => true
  | .logout _ => false

def jwtAuthGuard (bearer : Option String) (route : AuthRoute) : AccountsProg (Option User) :=
  if isPublic route then pure none
  else do
    let user ← UserController.authenticate bearer
    pure (some user)

/-- `body?.refreshToken`. -/
def tokenOf (body : Option Json) : JsField Json :=
  match body with
  | none => .undefined
  | some body => body.get "refreshToken"

/-- The handler of a route, behind the validation pipe. -/
def handler (env : Externals) (pipe : ValidationPipe) (route : AuthRoute) (user : Option User) :
    AccountsProg AuthReply :=
  match route with
  | .login body =>
      match pipe.loginDto body with
      | .error e => throw e
      | .ok dto => (AuthService.login env dto).bind fun r => pure (.session r)
  | .refresh body =>
      match pipe.refreshTokenDto body with
      | .error e => throw e
      | .ok token => (AuthService.refresh env token).bind fun r => pure (.session r)
  | .logout body =>
      match user with
      | none => throw (.error "Cannot read properties of undefined (reading 'id')")
      | some user =>
          (AuthService.logoutUnchecked user.id (tokenOf body)).bind fun _ => pure .noContent

/-- A request through the guards to its handler; no route is under `@Roles(..)`. -/
def handle (env : Externals) (pipe : ValidationPipe) (bearer : Option String)
    (route : AuthRoute) : AccountsProg AuthReply := do
  let user ← jwtAuthGuard bearer route
  handler env pipe route user

end AuthController

/-- The routes of both controllers. -/
inductive AccountRoute where
  | users (route : UserRoute)
  | auth (route : AuthRoute)

/-- `bearer` is the owner of the access token that the request carries. -/
structure AccountRequest where
  bearer : Option String
  route : AccountRoute

inductive AccountResult where
  | users (reply : UserReply)
  | auth (reply : AuthReply)
  deriving DecidableEq, Repr

def AccountRequest.handle (env : Externals) (pipe : ValidationPipe)
    (request : AccountRequest) : AccountsProg AccountResult :=
  match request.route with
  | .users route =>
      (UserController.handle pipe ⟨request.bearer, route⟩).bind fun r => pure (.users r)
  | .auth route =>
      (AuthController.handle env pipe request.bearer route).bind fun r => pure (.auth r)

end BackendBoilerplate
