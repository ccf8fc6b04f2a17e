import BackendBoilerplate.Lib.Pool
import BackendBoilerplate.Prisma.Database

/-!
`AuditInterceptor` around any handler, and the audit_logs table of schema.prisma
beside the users that its foreign key refers to. The handlers and the state they
work on are open: of the state, only the users table is known here. The insert of
an audit row is a step of its own, after the handler has settled, so whatever else
goes on may come between the two. The answer of the request does not wait for it;
here a request is over when its insert is.
-/
namespace BackendBoilerplate
open JavaScript Relational Async

structure AuditLog where
  id : String
  userId : Option String
  action : String
  entity : String
  entityId : Option String
  metadata : Json
  status : String
  createdAt : Int
  deriving DecidableEq

instance : Record AuditLog where
  Apart a b := a.id ≠ b.id
  symm := Ne.symm
  decidable _ _ := inferInstance

/-- What the handlers run on, with the users table in its state, and how thrown errors
and dates read. -/
structure Backend where
  sig : Signature
  machine : Machine sig JsError
  users : machine.State → Table User
  message : JsError → String
  iso : Int → String

/-- There is a user with this id. -/
def Backend.HasUser (B : Backend) (s : B.machine.State) (id : String) : Prop :=
  ∃ u ∈ (B.users s).rows, u.id = id

instance (B : Backend) (s : B.machine.State) (id : String) : Decidable (B.HasUser s id) :=
  inferInstanceAs (Decidable (∃ u ∈ (B.users s).rows, u.id = id))

/-- `Prisma.AuditLogCreateInput`, with values that the compiler has not checked. -/
structure AuditLogCreateInput where
  userId : String
  action : String
  entity : String
  entityId : JsVal
  metadata : JsVal
  status : String

/-- Postgres keeps no NUL character, neither in a text nor in a jsonb column. -/
def storable (s : String) : Bool := s.toList.all fun c => c.toNat != 0

/-- A nullable text column takes strings and null; undefined leaves it null. -/
def columnText : JsVal → Option (Option String)
  | .undefined | .null => some none
  | .str s => some (some s)
  | _ => none

/-- The columns `entityId` and `metadata`, unless a value is refused. -/
def AuditLogCreateInput.columns (iso : Int → String) (data : AuditLogCreateInput) :
    Except JsError (Option String × Json) :=
  match columnText data.entityId, data.metadata.stringify iso with
  | some entityId, some metadata =>
      if ([data.userId, data.action, data.entity, data.status] ++ entityId.toList).all storable ∧
          metadata.allTexts storable then
        .ok (entityId, metadata)
      else .error (.error "invalid byte sequence for encoding UTF8: 0x00")
  | _, _ => .error (.prismaValidation "Invalid value provided")

/-- The values of a row can be stored, whatever the row refers to. -/
def AuditLogCreateInput.Fits (iso : Int → String) (data : AuditLogCreateInput) : Prop :=
  (data.columns iso).isOk

variable {B : Backend}

/-- The state under the handlers and the audit_logs table, whose rows refer to users
that are there. -/
structure AuditState (B : Backend) where
  backend : B.machine.State
  auditLogs : Table AuditLog
  referenced : ∀ log ∈ auditLogs.rows, ∀ id, log.userId = some id → B.HasUser backend id

namespace AuditState

/-- The state under the handlers changes: a row whose user is gone loses its reference. -/
def onDeleteSetNull (s : AuditState B) (backend : B.machine.State) : AuditState B where
  backend
  auditLogs := s.auditLogs.updateWhere
    (fun log => log.userId.any fun id => ¬ B.HasUser backend id)
    (fun log => { log with userId := none }) fun _ _ h => h
  referenced := by
    intro log hlog id hid
    rcases Table.mem_updateWhere.mp hlog with ⟨old, -, -, rfl⟩ | ⟨-, hkept⟩
    · cases hid
    · simpa [hid] using hkept

def createAuditLog (s : AuditState B) (data : AuditLogCreateInput) (id : String) (now : Int) :
    Except JsError (AuditLog × AuditState B) :=
  match data.columns B.iso with
  | .error e => .error e
  | .ok (entityId, metadata) =>
      let log : AuditLog :=
        { id, userId := some data.userId, action := data.action, entity := data.entity
          entityId, metadata, status := data.status, createdAt := now }
      match h : s.auditLogs.insert? log with
      | none => .error (.uniqueViolation "id")
      | some auditLogs =>
          if hu : B.HasUser s.backend data.userId then
            .ok (log,
              { s with
                auditLogs
                referenced := fun old hold uid huid => by
                  rcases (Table.mem_insert? h).mp hold with hmem | rfl
                  · exact s.referenced old hmem uid huid
                  · obtain rfl := Option.some.inj huid
                    exact hu })
          else .error (.foreignKeyViolation "userId")

theorem length_onDeleteSetNull (s : AuditState B) (backend : B.machine.State) :
    (s.onDeleteSetNull backend).auditLogs.rows.length = s.auditLogs.rows.length :=
  List.length_map _

variable {s : AuditState B} {data : AuditLogCreateInput} {id : String}

/-- A row that fits is added for a user who is there. -/
theorem createAuditLog_of_fits (now : Int) (new : ∀ log ∈ s.auditLogs.rows, log.id ≠ id)
    (hfits : data.Fits B.iso) (huser : B.HasUser s.backend data.userId) :
    ∃ log s', s.createAuditLog data id now = .ok (log, s') ∧
      s'.auditLogs.rows = s.auditLogs.rows ++ [log] ∧ log.userId = some data.userId ∧
      log.action = data.action ∧ log.status = data.status := by
  unfold AuditLogCreateInput.Fits at hfits
  unfold createAuditLog
  split
  · next e hcolumns =>
      rw [hcolumns] at hfits
      cases hfits
  · next entityId metadata _ =>
      dsimp only
      split
      · next hnone =>
          obtain ⟨log, hlog, hapart⟩ := Table.insert?_eq_none.mp hnone
          exact absurd (new log hlog) hapart
      · next auditLogs hins =>
          rw [dif_pos huser]
          exact ⟨_, _, rfl, Table.rows_insert? hins, rfl, rfl, rfl⟩

/-- Any other row is refused. -/
theorem createAuditLog_refused (id : String) (now : Int)
    (h : ¬ (data.Fits B.iso ∧ B.HasUser s.backend data.userId)) :
    ∃ e, s.createAuditLog data id now = .error e := by
  unfold createAuditLog
  split
  · exact ⟨_, rfl⟩
  · next entityId metadata hcolumns =>
      have hfits : data.Fits B.iso := by rw [AuditLogCreateInput.Fits, hcolumns]; rfl
      dsimp only
      split
      · exact ⟨_, rfl⟩
      · rw [dif_neg fun huser => h ⟨hfits, huser⟩]
        exact ⟨_, rfl⟩

end AuditState

/-- What is awaited under the interceptor: the operations of the handlers, and its insert. -/
inductive AuditOp (B : Backend) where
  | handler (op : B.sig.Op)
  | createAuditLog (data : AuditLogCreateInput)

abbrev AuditOp.Res : AuditOp B → Type
  | .handler op => B.sig.Res op
  | .createAuditLog _ => AuditLog

abbrev AuditSig (B : Backend) : Signature := ⟨AuditOp B, AuditOp.Res⟩

abbrev AuditProg (B : Backend) (α : Type) := Prog (AuditSig B) JsError α

/-- `draw` is the cuid of an audit row, and `fault` makes its insert fail. -/
structure AuditChoice (B : Backend) where
  handler : B.machine.Choice
  now : Int
  draw : String
  fault : Option JsError

@[reducible] def auditMachine (B : Backend) : Machine (AuditSig B) JsError where
  State := AuditState B
  Choice := AuditChoice B
  exec caller op ch s :=
    match op with
    | .handler op =>
        ((B.machine.exec caller op ch.handler s.backend).1,
          s.onDeleteSetNull (B.machine.exec caller op ch.handler s.backend).2)
    | .createAuditLog data =>
        match ch.fault with
        | some e => (.error e, s)
        | none =>
            match s.createAuditLog data ch.draw ch.now with
            | .ok (log, s') => (.ok log, s')
            | .error e => (.error e, s)

/-- A handler under the interceptor. -/
def onBackend {α : Type} : Prog B.sig JsError α → AuditProg B α
  | .ret a => .ret a
  | .fail e => .fail e
  | .step op next => .step (AuditOp.handler op) fun r => onBackend (next r)

/-- What the interceptor reads of a request; `skipAudit` is what `@SkipAudit()` has set
on the handler or its class, and `user` is the id in `request.user`. -/
structure AuditRequest where
  skipAudit : Bool
  method : String
  url : String
  user : Option String
  body : JsVal
  userAgent : JsVal
  ip : JsVal
  remoteAddress : JsVal

namespace AuditInterceptor

def shouldAudit (method : String) : Bool := ["POST", "PUT", "PATCH", "DELETE"].contains method

def getActionFromMethod : String → String
  | "POST" => "CREATE"
  | "PUT" => "UPDATE"
  | "PATCH" => "UPDATE"
  | "DELETE" => "DELETE"
  | _ => "UNKNOWN"

/-- The first part of the path that is neither empty nor the version. -/
def extractEntityFromUrl (url : String) : String :=
  match (url.toList.splitOn '/').filter fun p => p ≠ [] && p ≠ "v1".toList with
  | [] => "unknown"
  | part :: _ => .ofList part

def extractEntityId (response : JsVal) : JsVal :=
  if ¬ response.truthy then .null
  else if response.isObject then
    ((response.prop "id").or ((response.prop "data").prop "id")).or .null
  else .null

def sensitiveFields : List String :=
  ["password", "token", "secret", "apiKey", "accessToken", "refreshToken"]

def redacted : JsVal := .str "***REDACTED***"

/-- `if (sanitized[field]) { sanitized[field] = '***REDACTED***' }`. -/
def redact (sanitized : JsVal) (field : String) : JsVal :=
  if (sanitized.prop field).truthy then sanitized.setProp field redacted else sanitized

def sanitizeRequestBody (body : JsVal) : JsVal :=
  if ¬ body.truthy then .null else sensitiveFields.foldl redact body.spread

/-- The row for a request whose handler has settled. -/
def auditLog (B : Backend) (request : AuditRequest) (userId : String) :
    Except JsError JsVal → AuditLogCreateInput
  | .ok response =>
      { userId
        action := getActionFromMethod request.method
        entity := extractEntityFromUrl request.url
        entityId := extractEntityId response
        metadata := .obj
          [("method", .str request.method), ("url", .str request.url),
            ("body", sanitizeRequestBody request.body),
            ("userAgent", request.userAgent), ("ip", request.ip.or request.remoteAddress)]
        status := "success" }
  | .error error =>
      { userId
        action := getActionFromMethod request.method
        entity := extractEntityFromUrl request.url
        entityId := .null
        metadata := .obj
          [("method", .str request.method), ("url", .str request.url),
            ("body", sanitizeRequestBody request.body), ("error", .str (B.message error)),
            ("userAgent", request.userAgent), ("ip", request.ip.or request.remoteAddress)]
        status := "failure" }

def createAuditLog (data : AuditLogCreateInput) : AuditProg B Unit := do
  let _ ← Prog.await (S := AuditSig B) (.createAuditLog data)
  pure ()

/-- Both branches of the tap: what goes wrong in them is logged and goes no further. -/
def tap (request : AuditRequest) (userId : String) (outcome : Except JsError JsVal) :
    AuditProg B JsVal := do
  tryCatch (createAuditLog (auditLog B request userId outcome)) fun _ => pure ()
  Prog.ofExcept outcome

def intercept (request : AuditRequest) (handle : Prog B.sig JsError JsVal) : AuditProg B JsVal :=
  if request.skipAudit then onBackend handle
  else if ¬ shouldAudit request.method then onBackend handle
  else
    match request.user with
    | none => onBackend handle
    | some userId => (onBackend handle).attempt.bind (tap request userId)

/-- The requests that the interceptor writes a row for, under the id of their user. -/
def Audits (request : AuditRequest) (userId : String) : Prop :=
  request.skipAudit = false ∧ request.method ∈ ["POST", "PUT", "PATCH", "DELETE"] ∧
    request.user = some userId

variable {request : AuditRequest} {userId : String}

theorem intercept_of_audits (h : Audits request userId) (handle : Prog B.sig JsError JsVal) :
    intercept request handle = (onBackend handle).attempt.bind (tap request userId) := by
  obtain ⟨hskip, hmethod, huser⟩ := h
  have haudit : shouldAudit request.method = true := List.contains_iff_mem.mpr hmethod
  rw [intercept, hskip, if_neg Bool.false_ne_true, if_neg (not_not.mpr haudit), huser]

/-- The tap performs its insert and passes the outcome on, whatever came of the insert. -/
theorem tap_eq (outcome : Except JsError JsVal) :
    (tap request userId outcome : AuditProg B JsVal) =
      .step (AuditOp.createAuditLog (auditLog B request userId outcome))
        fun _ => Prog.ofExcept outcome := by
  refine congrArg (Prog.step _) (funext fun r => ?_)
  cases r <;> rfl

@[simp] theorem auditLog_userId (outcome : Except JsError JsVal) :
    (auditLog B request userId outcome).userId = userId := by
  cases outcome <;> rfl

@[simp] theorem auditLog_action (outcome : Except JsError JsVal) :
    (auditLog B request userId outcome).action = getActionFromMethod request.method := by
  cases outcome <;> rfl

theorem auditLog_status (outcome : Except JsError JsVal) :
    (auditLog B request userId outcome).status = "success" ↔ outcome.isOk := by
  cases outcome with
  | ok response => exact iff_of_true rfl rfl
  | error error => exact iff_of_false (by simp [auditLog]) nofun

end AuditInterceptor
end BackendBoilerplate
