import BackendBoilerplate.Core.Interceptors.Audit
import BackendBoilerplate.Domains.User.Service
import BackendBoilerplate.Lib.Pagination

/-!
`AuditService.findAll`: the audit rows that match a query, the newest first, each with what
it includes of its user. How the database orders rows that were made at the same time is
open, for each query anew.
-/
namespace BackendBoilerplate
open JavaScript Relational Async Paging

/-- The columns that `include` selects of a user. -/
structure AuditLogUser where
  id : String
  email : String
  firstName : Option String
  lastName : Option String
  deriving DecidableEq

structure AuditLogWithUser extends AuditLog where
  user : Option AuditLogUser
  deriving DecidableEq

/-- `Prisma.AuditLogWhereInput` as `findAll` builds it. -/
structure AuditLogWhere where
  userId : Option String
  action : Option String
  entity : Option String
  deriving DecidableEq

def AuditLogWhere.matches (w : AuditLogWhere) (log : AuditLog) : Bool :=
  (w.userId.all fun id => log.userId == some id) && (w.action.all fun a => log.action == a) &&
    w.entity.all fun e => log.entity == e

structure AuditLogsState where
  auditLogs : Table AuditLog
  users : Table User

/-- A row with what is there of its user. -/
def AuditLogsState.withUser (s : AuditLogsState) (log : AuditLog) : AuditLogWithUser :=
  { log with
    user := (log.userId.bind fun id => s.users.find? (byId id)).map fun u =>
      ⟨u.id, u.email, u.firstName, u.lastName⟩ }

/-- `orderBy: { createdAt: 'desc' }`. -/
def createdAtDesc : Comparison AuditLog where
  le a b := b.createdAt ≤ a.createdAt
  total a b := by simpa using Int.le_total b.createdAt a.createdAt
  trans a b c hab hbc := by
    rw [decide_eq_true_eq] at hab hbc ⊢
    exact Int.le_trans hbc hab

inductive AuditLogOp where
  | count (where_ : AuditLogWhere)
  | findMany (where_ : AuditLogWhere) (skip take : Nat)

abbrev AuditLogOp.Res : AuditLogOp → Type
  | .count _ => Nat
  | .findMany .. => List AuditLogWithUser

abbrev AuditLogSig : Signature := ⟨AuditLogOp, AuditLogOp.Res⟩

/-- `order` is how the database orders the rows of this query, and `fault` makes it fail. -/
structure AuditLogChoice where
  order : QueryOrder createdAtDesc
  fault : Option JsError := none

@[reducible] def auditLogRepository : Machine AuditLogSig JsError where
  State := AuditLogsState
  Choice := AuditLogChoice
  exec _ op ch s :=
    match ch.fault with
    | some e => (.error e, s)
    | none =>
        match op with
        | .count w => (.ok (s.auditLogs.rows.countP w.matches), s)
        | .findMany w skip take =>
            (.ok ((((ch.order.sort (s.auditLogs.rows.filter w.matches)).drop skip).take take).map
              s.withUser), s)

/-- A query for a page from 1 on, with one row or more on a page. The controller checks
neither number. -/
structure QueryAuditDto where
  page : Nat := 1
  limit : Nat := 50
  userId : Option String := none
  action : Option String := none
  entity : Option String := none
  page_pos : 1 ≤ page := by decide
  limit_pos : 1 ≤ limit := by decide

namespace AuditService

abbrev await (op : AuditLogOp) : Prog AuditLogSig JsError op.Res := Prog.await (S := AuditLogSig) op

/-- `where` as `findAll` builds it: an empty text is left out. -/
def whereOf (query : QueryAuditDto) : AuditLogWhere :=
  ⟨query.userId.filter (· ≠ ""), query.action.filter (· ≠ ""), query.entity.filter (· ≠ "")⟩

def skipOf (query : QueryAuditDto) : Nat := (query.page - 1) * query.limit

def metaOf (query : QueryAuditDto) (total : Nat) : PaginationMeta :=
  let totalPages := (total + query.limit - 1) / query.limit
  { page := query.page, limit := query.limit, total, totalPages
    hasNext := query.page < totalPages, hasPrev := 1 < query.page }

def findAll (query : QueryAuditDto) :
    Prog AuditLogSig JsError (List AuditLogWithUser × PaginationMeta) := do
  let total ← await (.count (whereOf query))
  let logs ← await (.findMany (whereOf query) (skipOf query) query.limit)
  pure (logs, metaOf query total)

end AuditService
end BackendBoilerplate
