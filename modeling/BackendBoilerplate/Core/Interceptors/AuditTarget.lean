import BackendBoilerplate.Core.Interceptors.AuditTrail
import BackendBoilerplate.Core.Interceptors.Transform

/-!
What an audit row says of the target of a request. The routes are under the prefix `api`,
which is the first part of every path, and the id is looked for in the answer, which
`TransformInterceptor` has put into its envelope by then.
-/
namespace BackendBoilerplate
open JavaScript Relational Async

/-- A part of a path: not empty, and free of `/` and `?`. -/
def IsSegment (segment : String) : Prop :=
  segment ≠ "" ∧ ∀ c ∈ segment.toList, c ≠ '/' ∧ c ≠ '?'

/-- What the controller returns has this id, under its own name or, where it is an envelope
itself, in its data. -/
def NamesEntity (data : JsVal) (id : String) : Prop :=
  data.prop "id" = .str id ∨
    data.hasOwn "success" = true ∧ (data.prop "id").truthy = false ∧
      (data.prop "data").prop "id" = .str id

/-- A change of one entity, at its own route. -/
structure TargetsEntity (request : AuditRequest) (head : RequestHead) (resource id : String) :
    Prop where
  segments : IsSegment resource ∧ IsSegment id
  url : request.url = "/api/v1/" ++ resource ++ ("/" ++ id)
  method : request.method ∈ ["PATCH", "DELETE"]
  sameMethod : head.method = request.method

variable {B : Backend}

namespace AuditInterceptor

/-- The prefix is never skipped. -/
theorem extractEntityFromUrl_prefixed (resource rest : String) :
    extractEntityFromUrl ("/api/v1/" ++ resource ++ rest) = "api" := by
  have hurl : ("/api/v1/" ++ resource ++ rest).toList =
      [] ++ '/' :: ("api".toList ++ '/' :: ("v1/" ++ resource ++ rest).toList) := by
    simp
  rw [extractEntityFromUrl, hurl, List.splitOn_append_cons_self_of_not_mem (by decide),
    List.splitOn_append_cons_self_of_not_mem (by decide)]
  rfl

theorem or_eq_str {v w : JsVal} {text : String} (hne : text ≠ "") :
    v.or w = .str text ↔ v = .str text ∨ v.truthy = false ∧ w = .str text := by
  rw [JsVal.or]
  cases htruthy : v.truthy with
  | true => simp
  | false =>
      refine ⟨fun h => .inr ⟨rfl, h⟩, fun h => ?_⟩
      rcases h with rfl | ⟨-, h⟩
      · exact absurd htruthy (by simpa [JsVal.truthy] using hne)
      · exact h

theorem extractEntityId_obj (props : List (String × JsVal)) :
    extractEntityId (.obj props) = (((JsVal.obj props).prop "id").or
      (((JsVal.obj props).prop "data").prop "id")).or .null := rfl

/-- The id that is found is the one that the controller's answer names. -/
theorem extractEntityId_intercept (iso : Int → String) {head : RequestHead} (now : Int)
    (data : JsVal) {id : String} (hne : id ≠ "") (hscrape : head.scrape = false) :
    extractEntityId (TransformInterceptor.intercept iso head now data) = .str id ↔
      NamesEntity data id := by
  rw [TransformInterceptor.intercept, hscrape, if_neg Bool.false_ne_true, NamesEntity]
  cases hsuccess : data.hasOwn "success" with
  | true =>
      cases data with
      | obj props =>
          rw [if_pos rfl, extractEntityId_obj, or_eq_str hne, or_eq_str hne]
          simp only [reduceCtorEq, and_false, or_false, true_and]
      | _ => cases hsuccess
  | false =>
      have henvelope : extractEntityId (.obj [("success", .bool true), ("data", data),
          ("timestamp", .str (iso now)), ("requestId", optional head.requestId)]) =
            (data.prop "id").or .null := rfl
      rw [if_neg Bool.false_ne_true, henvelope, or_eq_str hne]
      simp only [reduceCtorEq, and_false, or_false, Bool.false_eq_true, false_and]

end AuditInterceptor

theorem columnText_eq_some_some {v : JsVal} {text : String} {column : Option String}
    (h : columnText v = some column) : column = some text ↔ v = .str text := by
  cases v <;> simp_all [columnText, eq_comm]

/-- The row that is stored has the id that it was given. -/
theorem AuditState.createAuditLog_ok {s s' : AuditState B} {data : AuditLogCreateInput}
    {id : String} {now : Int} {log : AuditLog} (h : s.createAuditLog data id now = .ok (log, s')) :
    columnText data.entityId = some log.entityId ∧ log.entity = data.entity ∧
      s'.auditLogs.rows = s.auditLogs.rows ++ [log] := by
  unfold AuditState.createAuditLog at h
  split at h
  · cases h
  · next entityId metadata hcolumns =>
      dsimp only at h
      split at h
      · cases h
      · next auditLogs hins =>
          split at h
          · obtain ⟨rfl, rfl⟩ := Prod.mk.inj (Except.ok.inj h)
            refine ⟨?_, rfl, Table.rows_insert? hins⟩
            unfold AuditLogCreateInput.columns at hcolumns
            split at hcolumns
            · next hid _ =>
                split at hcolumns
                · rw [hid, (Prod.mk.inj (Except.ok.inj hcolumns)).1]
                · cases hcolumns
            · cases hcolumns
          · cases h

/-- A controller under `TransformInterceptor`. -/
def transformed (B : Backend) (head : RequestHead) (now : Int)
    (controller : Prog B.sig JsError JsVal) : Prog B.sig JsError JsVal :=
  controller.bind fun data => .ret (TransformInterceptor.intercept B.iso head now data)

theorem onBackend_bind {α β : Type} (p : Prog B.sig JsError α) (f : α → Prog B.sig JsError β) :
    onBackend (p.bind f) = (onBackend p).bind fun a => onBackend (f a) := by
  induction p with
  | ret a => rfl
  | fail e => rfl
  | step op next ih => exact congrArg (Prog.step _) (funext ih)

section
variable {request : AuditRequest} {userId : String} {ω : Nat → AuditChoice B} {s : AuditState B}

/-- An audited request ends with the insert, in the state that its handler leaves. -/
theorem intercept_run (audits : AuditInterceptor.Audits request userId)
    (handle : Prog B.sig JsError JsVal) :
    ((AuditInterceptor.intercept request handle).run (auditMachine B) 0 ω s).state =
      ((auditMachine B).exec 0 (.createAuditLog (AuditInterceptor.auditLog B request userId
          ((onBackend handle).run (auditMachine B) 0 ω s).outcome))
        (((onBackend handle).run (auditMachine B) 0 ω s).left 0)
        ((onBackend handle).run (auditMachine B) 0 ω s).state).2 := by
  rw [AuditInterceptor.intercept_of_audits audits, Prog.run_bind, Prog.run_attempt]
  dsimp only
  rw [AuditInterceptor.tap_eq, Prog.run_step]
  cases ((onBackend handle).run (auditMachine B) 0 ω s).outcome <;> rfl

/-- The row that an insert adds is the one that was asked for. -/
theorem exec_createAuditLog_added {data : AuditLogCreateInput} {ch : AuditChoice B} {log : AuditLog}
    (h : ((auditMachine B).exec 0 (.createAuditLog data) ch s).2.auditLogs.rows =
      s.auditLogs.rows ++ [log]) :
    columnText data.entityId = some log.entityId ∧ log.entity = data.entity := by
  have unchanged (heq : s.auditLogs.rows = s.auditLogs.rows ++ [log]) : False := by
    simp at heq
  dsimp only [auditMachine] at h
  split at h
  · exact (unchanged h).elim
  · split at h
    · next log' s' hcreate =>
        obtain ⟨hid, hentity, hrows⟩ := AuditState.createAuditLog_ok hcreate
        obtain rfl := List.singleton_inj.mp (List.append_cancel_left (hrows.symm.trans h))
        exact ⟨hid, hentity⟩
    · exact (unchanged h).elim

end

/-- A row names its resource exactly if that is called `api`, and the entity of a change that
went well exactly if the controller's answer has its id. -/
theorem audit_names_target_iff (B : Backend) :
    (∀ resource rest,
      AuditInterceptor.extractEntityFromUrl ("/api/v1/" ++ resource ++ rest) = resource ↔
        resource = "api") ∧
    ∀ request head resource id userId now (controller : Prog B.sig JsError JsVal)
      (ω : Nat → AuditChoice B) s data log,
      TargetsEntity request head resource id → AuditInterceptor.Audits request userId →
      ((onBackend controller).run (auditMachine B) 0 ω s).outcome = .ok data →
      ((AuditInterceptor.intercept request (transformed B head now controller)).run
          (auditMachine B) 0 ω s).state.auditLogs.rows =
        ((onBackend controller).run (auditMachine B) 0 ω s).state.auditLogs.rows ++ [log] →
      log.entity = "api" ∧ (log.entityId = some id ↔ NamesEntity data id) := by
  refine ⟨fun resource rest => ?_, ?_⟩
  · rw [AuditInterceptor.extractEntityFromUrl_prefixed, eq_comm]
  · intro request head resource id userId now controller ω s data log targets audits hdata hadded
    have hscrape : head.scrape = false := by
      have hget : head.method ≠ "GET" := by
        intro hget
        have hmethod := targets.method
        rw [← targets.sameMethod, hget] at hmethod
        exact absurd hmethod (by decide)
      rw [RequestHead.scrape, beq_false_of_ne hget, Bool.false_and]
    have hhandle : onBackend (transformed B head now controller) =
        (onBackend controller).bind fun data =>
          .ret (TransformInterceptor.intercept B.iso head now data) :=
      onBackend_bind controller _
    obtain ⟨houtcome, hstate⟩ := Prog.run_bind_ret (auditMachine B) 0 (onBackend controller)
      (TransformInterceptor.intercept B.iso head now) ω s
    rw [intercept_run audits, hhandle, houtcome, hstate, hdata] at hadded
    obtain ⟨hid, hentity⟩ := exec_createAuditLog_added hadded
    refine ⟨?_, ?_⟩
    · rw [hentity]
      change AuditInterceptor.extractEntityFromUrl request.url = "api"
      rw [targets.url, AuditInterceptor.extractEntityFromUrl_prefixed]
    · rw [columnText_eq_some_some hid]
      exact AuditInterceptor.extractEntityId_intercept B.iso now data targets.segments.2.1 hscrape

/-! Ann, an administrator, renames herself and removes Bob. -/

def annWithBob : AuditState .plain :=
  ⟨.ofUsers ⟨[{ User.ann with role := .admin },
    { User.ann with id := "bob", email := "bob@example.com" }],
      by simp [Record.Apart, User.ann]⟩, .empty, fun _ h => by cases h⟩

def targetRequest (method id : String) : AuditRequest :=
  { skipAudit := false, method, url := "/api/v1/users/" ++ id, user := some "ann"
    body := .undefined, userAgent := .undefined, ip := .str "127.0.0.1"
    remoteAddress := .undefined }

def targetHead (method id : String) : RequestHead := ⟨method, "/api/v1/users/" ++ id, none⟩

def renamesHerself : Prog Backend.plain.sig JsError JsVal :=
  (UserService.update "ann" { firstName := .value "Ann", lastName := .undefined
                              phone := .undefined, role := .undefined
                              isActive := .undefined }).bind fun dto => .ret dto.toJs

def removesBob : Prog Backend.plain.sig JsError JsVal :=
  (UserService.remove "bob").bind fun _ => .ret .undefined

def auditDraws (_ : Nat) : AuditChoice .plain := ⟨{}, 1000, "log-1", none⟩

theorem audit_names_target_renamesHerself :
    ∃ data, ∃ log : AuditLog,
      ((onBackend renamesHerself).run (auditMachine .plain) 0 auditDraws annWithBob).outcome =
        .ok data ∧
      log.entity = "api" ∧ (log.entityId = some "ann" ↔ NamesEntity data "ann") := by
  refine ⟨_, ⟨"log-1", some "ann", "UPDATE", "api", some "ann", .obj [("method", .str "PATCH"),
    ("url", .str "/api/v1/users/ann"), ("body", .null), ("ip", .str "127.0.0.1")], "success",
    1000⟩, rfl, ?_⟩
  exact (audit_names_target_iff .plain).2 (targetRequest "PATCH" "ann") (targetHead "PATCH" "ann")
    "users" "ann" "ann" 0 renamesHerself auditDraws annWithBob _ _
    ⟨⟨⟨by decide, by simp⟩, ⟨by decide, by simp⟩⟩, rfl, by decide, rfl⟩
    ⟨rfl, by decide, rfl⟩ rfl (by decide +kernel)

/-- The row about Bob says `api`, and of whom it does not say. -/
theorem audit_names_no_target_removesBob :
    AuditInterceptor.extractEntityFromUrl "/api/v1/users/bob" = "api" ∧
      ((onBackend removesBob).run (auditMachine .plain) 0 auditDraws annWithBob).outcome =
        .ok .undefined ∧
      ((AuditInterceptor.intercept (targetRequest "DELETE" "bob")
          (transformed .plain (targetHead "DELETE" "bob") 0 removesBob)).run (auditMachine .plain) 0
            auditDraws annWithBob).state.auditLogs.rows.map
          (fun log => (log.action, log.entity, log.entityId)) = [("DELETE", "api", none)] := by
  refine ⟨by decide +kernel, rfl, by decide +kernel⟩

end BackendBoilerplate
