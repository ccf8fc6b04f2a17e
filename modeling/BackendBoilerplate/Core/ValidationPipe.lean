import BackendBoilerplate.Domains.Auth.Service
import BackendBoilerplate.Domains.FeatureFlag.Service

/-!
The global validation pipe. What it makes of a request body is the business of
class-validator and class-transformer, so a pipe is any functions from bodies to data
transfer objects or errors; one that follows the decorators is there to evaluate on.
-/
namespace BackendBoilerplate
open JavaScript Relational

structure CreateFeatureFlagDto where
  key : String
  name : String
  description : JsField String
  enabled : JsField Bool
  deriving DecidableEq, Repr

/-- What the pipe makes of the body of a request, for each class that a controller asks for. -/
structure ValidationPipe where
  createUserDto : Json → Except JsError CreateUserDto
  updateUserDto : Json → Except JsError UpdateUserDto
  loginDto : Json → Except JsError LoginDto
  refreshTokenDto : Json → Except JsError String
  createFeatureFlagDto : Json → Except JsError CreateFeatureFlagDto

/-- The checks of class-validator that are its own. -/
structure ClassValidator where
  isEmail : String → Bool
  minLength : String → Nat → Bool

namespace ClassValidator

/-- The implicit conversion of a property declared as a string. An array stays an
array, and an object with a `toString` of its own cannot be converted. -/
def toText : Json → Option String
  | .str s => some s
  | .num text => some text
  | .bool b => some (if b then "true" else "false")
  | .obj props => if props.any fun p => p.1 == "toString" then none else some "[object Object]"
  | _ => none

/-- The implicit conversion of a property declared as a boolean: `Boolean(value)`. -/
def toBool : Json → Option Bool
  | .bool b => some b
  | .num text => some (text ≠ "0")
  | .str s => some (s ≠ "")
  | .obj _ => some true
  | _ => none

/-- A property under `@IsOptional()`, which accepts undefined and null. -/
def optionalProp {α : Type} (convert : Json → Option α) (key : String) (body : Json) :
    Option (JsField α) :=
  match body.get key with
  | .undefined => some .undefined
  | .null => some .null
  | .value value => (convert value).map .value

def requiredText (key : String) (body : Json) : Option String :=
  match body.get key with
  | .value value => toText value
  | _ => none

def toRole (value : Json) : Option Role :=
  match toText value with
  | some "ADMIN" => some .admin
  | some "USER" => some .user
  | some "MODERATOR" => some .moderator
  | _ => none

/-- The keys that are dropped before a body is looked at. -/
def protoKeys : List String := ["__proto__", "constructor", "prototype"]

/-- `whitelist` with `forbidNonWhitelisted`: every property has a decorator. -/
def whitelisted (keys : List String) : Json → Bool
  | .obj props => props.all fun p => protoKeys.contains p.1 || keys.contains p.1
  | .arr items => items.isEmpty
  | _ => false

def createUserDto (validator : ClassValidator) (body : Json) : Option CreateUserDto := do
  guard (whitelisted ["email", "password", "firstName", "lastName", "phone", "role"] body)
  let email ← requiredText "email" body
  guard (validator.isEmail email)
  let password ← requiredText "password" body
  guard (validator.minLength password 8)
  let firstName ← optionalProp toText "firstName" body
  let lastName ← optionalProp toText "lastName" body
  let phone ← optionalProp toText "phone" body
  let role ← optionalProp toRole "role" body
  pure { email, password, firstName, lastName, phone, role }

def updateUserDto (body : Json) : Option UpdateUserDto := do
  guard (whitelisted ["firstName", "lastName", "phone", "role", "isActive"] body)
  let firstName ← optionalProp toText "firstName" body
  let lastName ← optionalProp toText "lastName" body
  let phone ← optionalProp toText "phone" body
  let role ← optionalProp toRole "role" body
  let isActive ← optionalProp toBool "isActive" body
  pure { firstName, lastName, phone, role, isActive }

def loginDto (validator : ClassValidator) (body : Json) : Option LoginDto := do
  guard (whitelisted ["email", "password"] body)
  let email ← requiredText "email" body
  guard (validator.isEmail email)
  let password ← requiredText "password" body
  guard (validator.minLength password 8)
  pure { email, password }

def refreshTokenDto (body : Json) : Option String := do
  guard (whitelisted ["refreshToken"] body)
  requiredText "refreshToken" body

def createFeatureFlagDto (body : Json) : Option CreateFeatureFlagDto := do
  guard (whitelisted ["key", "name", "description", "enabled"] body)
  let key ← requiredText "key" body
  let name ← requiredText "name" body
  let description ← optionalProp toText "description" body
  let enabled ← optionalProp toBool "enabled" body
  pure { key, name, description, enabled }

/-- What is refused is a bad request. -/
def orRefuse {α : Type} : Option α → Except JsError α
  | some dto => .ok dto
  | none => .error (.badRequest "Bad Request Exception")

/-- The pipe that follows the decorators of the classes. -/
def pipe (validator : ClassValidator) : ValidationPipe where
  createUserDto body := orRefuse (validator.createUserDto body)
  updateUserDto body := orRefuse (updateUserDto body)
  loginDto body := orRefuse (validator.loginDto body)
  refreshTokenDto body := orRefuse (refreshTokenDto body)
  createFeatureFlagDto body := orRefuse (createFeatureFlagDto body)

end ClassValidator

/-- The pipe with plain checks, to evaluate on. -/
def ValidationPipe.plain : ValidationPipe :=
  ClassValidator.pipe
    { isEmail := fun text => text.toList.contains '@'
      minLength := fun text n => n ≤ text.toList.length }

end BackendBoilerplate
