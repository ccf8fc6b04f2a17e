import Mathlib.Data.List.Basic

/-!
The errors that the services throw: exceptions that Nest turns into a response
with their status and message, errors of the database client, and plain errors.
-/
namespace BackendBoilerplate

inductive JsError where
  | http (status : Nat) (message : String)
  | prisma (code : String) (target : String)
  | prismaValidation (message : String)
  | error (message : String)
  deriving DecidableEq, Repr

namespace JsError

def badRequest (message : String) : JsError := .http 400 message

def unauthorized (message : String) : JsError := .http 401 message

def forbidden (message : String) : JsError := .http 403 message

def notFound (message : String) : JsError := .http 404 message

def conflict (message : String) : JsError := .http 409 message

/-- P2002: the write breaks the unique constraint on this column. -/
def uniqueViolation (column : String) : JsError := .prisma "P2002" column

/-- P2003: the write refers to a row that does not exist. -/
def foreignKeyViolation (column : String) : JsError := .prisma "P2003" column

/-- P2025: the row to update or delete does not exist. -/
def recordNotFound (model : String) : JsError := .prisma "P2025" model

end JsError
end BackendBoilerplate
