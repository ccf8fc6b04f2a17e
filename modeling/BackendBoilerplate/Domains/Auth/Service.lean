import BackendBoilerplate.Domains.User.Dto

/-!
`AuthService`, statement by statement. Every awaited repository call, signature,
verification and clock reading is one step, so the same programs run alone and
interleaved.
-/
namespace BackendBoilerplate
open JavaScript Relational Async

structure LoginDto where
  email : String
  password : String
  deriving DecidableEq, Repr

structure AuthResponseDto where
  user : UserResponseDto
  accessToken : String
  refreshToken : String
  deriving DecidableEq, Repr

namespace AuthService
variable (env : Externals)

abbrev await (op : AccountsOp) : AccountsProg op.Res := Prog.await (S := AccountsSig) op

def invalidRefreshToken : JsError := .unauthorized "Invalid or expired refresh token"

def getJwtConfig : AccountsProg AuthJwtConfig :=
  match env.jwtConfig with
  | none => throw (.error "JWT configuration is missing")
  | some config => pure config

def payloadOf (user : User) : JwtPayload :=
  { sub := user.id, email := user.email, role := user.role }

/-- The two signatures of `Promise.all`, in the order of its array. -/
def generateTokens (user : User) : AccountsProg (String × String) := do
  let jwtConfig ← getJwtConfig env
  let accessToken ← await (.signAsync (payloadOf user) jwtConfig.access)
  let refreshToken ← await (.signAsync (payloadOf user) jwtConfig.refresh)
  pure (accessToken, refreshToken)

def isDigit (c : Char) : Bool := '0' ≤ c && c ≤ '9'

/-- `Number.parseInt` of a run of decimal digits. -/
def parseDigits (digits : List Char) : Nat :=
  digits.foldl (fun n c => n * 10 + (c.toNat - '0'.toNat)) 0

/-- The length of a `d`, `h`, `m` or `s` in milliseconds. -/
def unitMs : Char → Option Nat
  | 'd' => some 86400000
  | 'h' => some 3600000
  | 'm' => some 60000
  | 's' => some 1000
  | _ => none

/-- `/^(\d+)([dhms])$/.exec(expiresIn)`: the number and its unit. -/
def parseExpiresIn (expiresIn : String) : Option (Nat × Nat) :=
  match expiresIn.toList.reverse with
  | [] => none
  | unit :: digits =>
      if digits ≠ [] ∧ digits.all isDigit then
        (unitMs unit).map fun ms => (parseDigits digits.reverse, ms)
      else none

/-- `TimeClip`: a time value beyond a hundred million days is an invalid date. -/
def timeClip (ms : Int) : Option Int :=
  if ms.natAbs ≤ 8640000000000000 then some ms else none

/-- `expiresAt.setDate(expiresAt.getDate() + value)` and its siblings work on the
local calendar: they add to the local time and convert back. -/
def addLocal (now : Int) (value unit : Nat) : Option Int :=
  timeClip (env.utc (env.localTime now + value * unit))

def saveRefreshToken (userId token : String) : AccountsProg Unit := do
  let jwtConfig ← getJwtConfig env
  match jwtConfig.refresh.expiresIn with
  | .seconds _ => throw (.error "Refresh token expiration must be a string like 7d")
  | .text expiresIn =>
      match parseExpiresIn expiresIn with
      | none => throw (.error "Invalid refresh token expiration format")
      | some (value, unit) => do
          let now ← await .newDate
          let _ ← await (.createRefreshToken userId token (addLocal env now value unit))
          pure ()

def login (loginDto : LoginDto) : AccountsProg AuthResponseDto := do
  let found ← await (.findByEmail loginDto.email)
  match found with
  | none => throw (.unauthorized "Invalid credentials")
  | some user =>
      if ¬ user.isActive then throw (.unauthorized "User account is inactive")
      else do
        let isPasswordValid ← await (.argon2Verify user.password loginDto.password)
        if ¬ isPasswordValid then throw (.unauthorized "Invalid credentials")
        else do
          let (accessToken, refreshToken) ← generateTokens env user
          saveRefreshToken env user.id refreshToken
          await (.emit (.userLogin user.id user.email))
          let userResponse ← toResponseDto user
          pure { user := userResponse, accessToken, refreshToken }

/-- The body of the `try` in `refresh`. -/
def refreshBody (refreshToken : String) : AccountsProg AuthResponseDto := do
  let jwtConfig ← getJwtConfig env
  let _ ← await (.jwtVerify refreshToken jwtConfig.refresh.secret)
  let storedToken ← await (.findRefreshTokenWithUser refreshToken)
  match storedToken with
  | none => throw invalidRefreshToken
  | some (stored, user) => do
      let now ← await .newDate
      if stored.expiresAt < now then throw invalidRefreshToken
      else if ¬ user.isActive then throw (.unauthorized "User account is inactive")
      else do
        let tokens ← generateTokens env user
        let _ ← await (.deleteRefreshToken refreshToken)
        saveRefreshToken env user.id tokens.2
        let userResponse ← toResponseDto user
        pure { user := userResponse, accessToken := tokens.1, refreshToken := tokens.2 }

def refresh (refreshToken : String) : AccountsProg AuthResponseDto :=
  (refreshBody env refreshToken).tryCatch fun _ => throw invalidRefreshToken

/-- What `logout` does once the tokens are deleted. -/
def loggedOut (userId : String) : AccountsProg Unit := do
  let user ← await (.findUserById userId)
  match user with
  | none => pure ()
  | some user => await (.emit (.userLogout user.id user.email))

def logout (userId : String) (refreshToken : Option String) : AccountsProg Unit := do
  await (.deleteRefreshTokens userId refreshToken)
  loggedOut userId

/-- `logout` with a token that nobody has checked to be a string: one that is falsy is none,
and Prisma takes any other value for a filter. -/
def logoutUnchecked (userId : String) : JsField Json → AccountsProg Unit
  | .undefined | .null => logout userId none
  | .value (.str token) => logout userId (some token)
  | .value token =>
      if token.truthy then do
        await (.deleteRefreshTokensMatching userId token)
        loggedOut userId
      else logout userId none

def validateUser (userId : String) : AccountsProg (Option User) := do
  let user ← await (.findUserById userId)
  match user with
  | none => pure none
  | some user => if user.isActive then pure (some user) else pure none

end AuthService

/-- The calls of `AuthService` that work on refresh tokens. -/
inductive AuthCall where
  | login (dto : LoginDto)
  | refresh (token : String)
  | logout (userId : String) (refreshToken : Option String)
  deriving DecidableEq, Repr

/-- What a call resolves to; `logout` resolves to nothing. -/
def AuthCall.program (env : Externals) : AuthCall → AccountsProg (Option AuthResponseDto)
  | .login dto => (AuthService.login env dto).bind fun r => .ret (some r)
  | .refresh token => (AuthService.refresh env token).bind fun r => .ret (some r)
  | .logout userId refreshToken =>
      (AuthService.logout userId refreshToken).bind fun _ => .ret none

end BackendBoilerplate
