import BackendBoilerplate.Domains.Auth.Service
import BackendBoilerplate.Lib.JsString

/-!
`JwtStrategy`: how a request is authenticated over HTTP. passport-jwt takes the
token from the authorization header and verifies it; `validate` reads the row of
its subject.
-/
namespace BackendBoilerplate
open JavaScript Relational Async

structure AuthHeader where
  scheme : List Char
  value : List Char

/-- The first match of `/(\S+)\s+(\S+)/` in a header. -/
def parseAuthHeader (header : List Char) : Option AuthHeader :=
  let rest := header.dropWhile isSpace
  let scheme := rest.takeWhile fun c => !isSpace c
  let value := ((rest.dropWhile fun c => !isSpace c).dropWhile isSpace).takeWhile
    fun c => !isSpace c
  if value = [] then none else some { scheme, value }

/-- `ExtractJwt.fromAuthHeaderAsBearerToken()`. -/
def fromAuthHeaderAsBearerToken (authorization : Option String) : Option String :=
  (authorization.bind fun header => parseAuthHeader header.toList).bind fun params =>
    if params.scheme.map Char.toLower = "bearer".toList then some (.ofList params.value) else none

theorem bearerToken_ne_empty {authorization : Option String} {token : String}
    (h : fromAuthHeaderAsBearerToken authorization = some token) : token ≠ "" := by
  obtain ⟨params, hparams, h⟩ := Option.bind_eq_some_iff.mp h
  obtain ⟨header, -, hparse⟩ := Option.bind_eq_some_iff.mp hparams
  have hvalue : params.value ≠ [] := by
    simp only [parseAuthHeader] at hparse
    split at hparse
    · cases hparse
    · next hne =>
        obtain rfl := Option.some.inj hparse
        exact hne
  split at h
  · obtain rfl := Option.some.inj h
    simpa using hvalue
  · cases h

namespace JwtStrategy
variable (env : Externals)

def validate (payload : JwtPayload) : AccountsProg User := do
  let user ← AuthService.validateUser payload.sub
  match user with
  | none => throw (.unauthorized "Unauthorized")
  | some user => pure user

/-- The strategy cannot be made without a configuration; passport answers 401 for a
request without a token, or with one that does not verify. -/
def authenticate (authorization : Option String) : AccountsProg User := do
  let jwtConfig ← AuthService.getJwtConfig env
  match fromAuthHeaderAsBearerToken authorization with
  | none => throw (.unauthorized "Unauthorized")
  | some token => do
      let payload ← (AuthService.await (.jwtVerify token jwtConfig.access.secret)).tryCatch
        fun _ => throw (.unauthorized "Unauthorized")
      validate payload

end JwtStrategy
end BackendBoilerplate
