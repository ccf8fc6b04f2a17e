import BackendBoilerplate.Core.Interceptors.Audit
import BackendBoilerplate.Domains.User.Service

/-!
The audit trail of a backend: any number of requests with any handlers, interleaved,
over any tables. An audited request that is over has left one row exactly when its
user was still there at its insert and the values of the row fit their columns.
-/
namespace BackendBoilerplate
open JavaScript Relational Async

/-- A request, with the handler that the router has found for it. -/
structure AuditCall (B : Backend) where
  request : AuditRequest
  handle : Prog B.sig JsError JsVal

def AuditCall.program {B : Backend} (call : AuditCall B) : AuditProg B JsVal :=
  AuditInterceptor.intercept call.request call.handle

abbrev AuditPool (B : Backend) := Pool (auditMachine B) (AuditCall B) JsVal

abbrev AuditEvent (B : Backend) := Event (auditMachine B) (AuditCall B)

/-- The pool, with what the steps of each request have added to the audit_logs table,
and the state that each insert has met. -/
structure AuditRun (B : Backend) where
  pool : AuditPool B
  written : Nat → List AuditLog
  metBy : Nat → Option B.machine.State

variable {B : Backend}

namespace AuditRun

def initial (s : AuditState B) : AuditRun B := ⟨⟨s, []⟩, fun _ => [], fun _ => none⟩

/-- The rows that come after those that were there. -/
def added (before after : AuditState B) : List AuditLog :=
  after.auditLogs.rows.drop before.auditLogs.rows.length

/-- An insert is met by the state that it comes to. -/
def metAfter (met : Option B.machine.State) (s : AuditState B) :
    AuditOp B → Option B.machine.State
  | .handler _ => met
  | .createAuditLog _ => some s.backend

def step (r : AuditRun B) (e : AuditEvent B) : AuditRun B where
  pool := r.pool.step AuditCall.program e
  written := match e with
    | .start _ => r.written
    | .advance tid _ => Function.update r.written tid
        (r.written tid ++ added r.pool.state (r.pool.step AuditCall.program e).state)
  metBy := match e with
    | .start _ => r.metBy
    | .advance tid _ => match r.pool.nextOp tid with
        | none => r.metBy
        | some op => Function.update r.metBy tid (metAfter (r.metBy tid) r.pool.state op)

end AuditRun

/-- An insert that is due meets no failure, and the cuid that is drawn for it is new. -/
def InsertAnswered (r : AuditRun B) : AuditEvent B → Prop
  | .start _ => True
  | .advance tid ch => match r.pool.nextOp tid with
      | some (.createAuditLog _) =>
          ch.fault = none ∧ ∀ log ∈ r.pool.state.auditLogs.rows, log.id ≠ ch.draw
      | _ => True

/-- One row, which says who asked for what and whether that went well. -/
def RecordedOnce (request : AuditRequest) (userId : String) (outcome : Except JsError JsVal)
    (written : List AuditLog) : Prop :=
  ∃ log, written = [log] ∧ log.userId = some userId ∧
    log.action = AuditInterceptor.getActionFromMethod request.method ∧
    (log.status = "success" ↔ outcome.isOk)

/-- The user was there when the insert came, and the row fits. -/
def Recordable (B : Backend) (request : AuditRequest) (userId : String)
    (outcome : Except JsError JsVal) (met : B.machine.State) : Prop :=
  (AuditInterceptor.auditLog B request userId outcome).Fits B.iso ∧ B.HasUser met userId

/-- How far an audited request has come: its handler runs or has settled and nothing is
written yet, or its insert is over. -/
inductive AuditStage (request : AuditRequest) (userId : String) (prog : AuditProg B JsVal)
    (written : List AuditLog) (met : Option B.machine.State) : Prop
  | running (handle : Prog B.sig JsError JsVal)
      (due : prog = (onBackend handle).attempt.bind (AuditInterceptor.tap request userId))
      (nothing : written = [])
  | settled (outcome : Except JsError JsVal) (state : B.machine.State)
      (ends : prog = Prog.ofExcept outcome) (metBy : met = some state)
      (recorded : RecordedOnce request userId outcome written ↔
        Recordable B request userId outcome state)

/-- Every audited request is at one of its stages; a number that is not given to a
request has written nothing. -/
structure AuditKept (r : AuditRun B) : Prop where
  unborn : ∀ i, r.pool.threads.length ≤ i → r.written i = []
  stage : ∀ i th userId, r.pool.threads[i]? = some th →
    AuditInterceptor.Audits th.call.request userId →
    AuditStage th.call.request userId th.prog (r.written i) (r.metBy i)

theorem auditKept_initial (s : AuditState B) : AuditKept (AuditRun.initial s) where
  unborn _ _ := rfl
  stage i th userId hth _ := by cases hth

section
variable {request : AuditRequest} {userId : String} {s : AuditState B} {tid : Nat}
  {ch : AuditChoice B} {written : List AuditLog} {met : Option B.machine.State}

/-- A handler's step writes no audit row. -/
theorem added_handler (op : B.sig.Op) :
    AuditRun.added s ((auditMachine B).exec tid (.handler op) ch s).2 = [] :=
  List.drop_eq_nil_of_le (AuditState.length_onDeleteSetNull s _).le

/-- The insert leaves one row exactly where the row can be recorded. -/
theorem recordedOnce_insert (outcome : Except JsError JsVal) (hfault : ch.fault = none)
    (new : ∀ log ∈ s.auditLogs.rows, log.id ≠ ch.draw) :
    RecordedOnce request userId outcome (AuditRun.added s ((auditMachine B).exec tid
        (.createAuditLog (AuditInterceptor.auditLog B request userId outcome)) ch s).2) ↔
      Recordable B request userId outcome s.backend := by
  by_cases hrec : Recordable B request userId outcome s.backend
  · refine iff_of_true ?_ hrec
    obtain ⟨log, s', hcreate, hrows, huser, haction, hstatus⟩ :=
      AuditState.createAuditLog_of_fits ch.now new hrec.1
        (by rw [AuditInterceptor.auditLog_userId]; exact hrec.2)
    refine ⟨log, ?_, ?_, ?_, ?_⟩
    · simp only [auditMachine, hfault, hcreate, AuditRun.added, hrows, List.drop_left]
    · rw [huser, AuditInterceptor.auditLog_userId]
    · rw [haction, AuditInterceptor.auditLog_action]
    · rw [hstatus, AuditInterceptor.auditLog_status]
  · refine iff_of_false ?_ hrec
    have refused : ¬ ((AuditInterceptor.auditLog B request userId outcome).Fits B.iso ∧
        B.HasUser s.backend (AuditInterceptor.auditLog B request userId outcome).userId) := by
      rw [AuditInterceptor.auditLog_userId]
      exact hrec
    obtain ⟨e, hcreate⟩ := AuditState.createAuditLog_refused ch.draw ch.now refused
    rintro ⟨log, hlog, -⟩
    simp only [auditMachine, hfault, hcreate, AuditRun.added, List.drop_length] at hlog
    cases hlog

/-- A step of an audited request leads from one stage to the next. -/
theorem AuditStage.fired {op : AuditOp B} {next : Except JsError op.Res → AuditProg B JsVal}
    (h : AuditStage request userId (.step op next) written met)
    (answered : ∀ data, op = .createAuditLog data →
      ch.fault = none ∧ ∀ log ∈ s.auditLogs.rows, log.id ≠ ch.draw) :
    AuditStage request userId (next ((auditMachine B).exec tid op ch s).1)
      (written ++ AuditRun.added s ((auditMachine B).exec tid op ch s).2)
      (AuditRun.metAfter met s op) := by
  cases h with
  | settled outcome state ends metBy recorded => cases outcome <;> cases ends
  | running handle due nothing =>
      subst nothing
      -- a handler that has settled is at the insert, with its outcome
      have inserted (outcome : Except JsError JsVal)
          (due : Prog.step op next = AuditInterceptor.tap request userId outcome) :
          AuditStage request userId (next ((auditMachine B).exec tid op ch s).1)
            ([] ++ AuditRun.added s ((auditMachine B).exec tid op ch s).2)
            (AuditRun.metAfter met s op) := by
        rw [AuditInterceptor.tap_eq] at due
        cases due
        obtain ⟨hfault, new⟩ := answered _ rfl
        exact .settled outcome s.backend rfl rfl (recordedOnce_insert outcome hfault new)
      cases handle with
      | ret response => exact inserted (.ok response) due
      | fail error => exact inserted (.error error) due
      | step hop hnext =>
          cases due
          exact .running (hnext _) rfl (added_handler hop)

end

section
variable {r : AuditRun B} {tid : Nat} {ch : AuditChoice B}

/-- A request that begins has its whole handler before it. -/
theorem AuditKept.began (h : AuditKept r) (call : AuditCall B) :
    AuditKept (r.step (.start call)) := by
  refine ⟨fun i hi => h.unborn i ?_, fun i th userId hth haudits => ?_⟩
  · simp only [AuditRun.step, Pool.step, List.length_append] at hi
    omega
  · rcases Pool.thread_began hth with hold | ⟨hle, rfl⟩
    · exact h.stage i th userId hold haudits
    · exact .running call.handle (AuditInterceptor.intercept_of_audits haudits call.handle)
        (h.unborn i hle)

theorem AuditKept.fired (h : AuditKept r) {th : Thread (auditMachine B) (AuditCall B) JsVal}
    {op : AuditOp B} {next : Except JsError op.Res → AuditProg B JsVal}
    (hth : r.pool.threads[tid]? = some th) (hprog : th.prog = .step op next)
    (answered : ∀ data, op = .createAuditLog data →
      ch.fault = none ∧ ∀ log ∈ r.pool.state.auditLogs.rows, log.id ≠ ch.draw) :
    AuditKept ⟨r.pool.fired tid ch th op next,
      Function.update r.written tid (r.written tid ++
        AuditRun.added r.pool.state ((auditMachine B).exec tid op ch r.pool.state).2),
      Function.update r.metBy tid (AuditRun.metAfter (r.metBy tid) r.pool.state op)⟩ := by
  have hlt : tid < r.pool.threads.length := (List.getElem?_eq_some_iff.mp hth).1
  refine ⟨fun i hi => ?_, fun i th' userId hth' haudits => ?_⟩
  · dsimp only at hi ⊢
    rw [List.length_set] at hi
    rw [Function.update_of_ne (by omega)]
    exact h.unborn i hi
  · dsimp only at hth' ⊢
    rcases Pool.thread_fired hth hth' with ⟨rfl, rfl⟩ | ⟨hi, hold⟩
    · rw [Function.update_self, Function.update_self]
      have hstage := h.stage i th userId hth haudits
      rw [hprog] at hstage
      exact hstage.fired answered
    · rw [Function.update_of_ne hi, Function.update_of_ne hi]
      exact h.stage i th' userId hold haudits

theorem AuditKept.step (h : AuditKept r) {e : AuditEvent B} (answered : InsertAnswered r e) :
    AuditKept (r.step e) := by
  rcases Pool.step_cases AuditCall.program r.pool e with ⟨call, rfl, heq⟩ |
    ⟨tid, ch, rfl, hnone, heq⟩ | ⟨tid, ch, th, op, next, rfl, hth, hprog, heq⟩
  · exact h.began call
  · have idle : r.step (.advance tid ch) = r := by
      simp only [AuditRun.step, heq, hnone, AuditRun.added, List.drop_length, List.append_nil,
        Function.update_eq_self]
    rw [idle]
    exact h
  · have hop : r.pool.nextOp tid = some op := Pool.nextOp_of_thread hth hprog
    simp only [AuditRun.step, heq, hop]
    refine h.fired hth hprog fun data hdata => ?_
    subst hdata
    simpa only [InsertAnswered, hop] using answered

end

/-- In every run of any number of requests with any handlers, over any tables and from
any state, where the inserts meet no failure: an audited request that is over has left
exactly one row, about itself, if and only if its user was there when its insert came
and the values of the row fit. -/
theorem audit_recorded_iff (B : Backend) (s : AuditState B) (es : List (AuditEvent B))
    (answered : Runs.Along AuditRun.step InsertAnswered (AuditRun.initial s) es) :
    ∀ i call userId outcome,
      (Runs.run AuditRun.step (AuditRun.initial s) es).pool.call i = some call →
      AuditInterceptor.Audits call.request userId →
      (Runs.run AuditRun.step (AuditRun.initial s) es).pool.outcome i = some outcome →
      (RecordedOnce call.request userId outcome
          ((Runs.run AuditRun.step (AuditRun.initial s) es).written i) ↔
        ∃ met, (Runs.run AuditRun.step (AuditRun.initial s) es).metBy i = some met ∧
          Recordable B call.request userId outcome met) := by
  have kept : AuditKept (Runs.run AuditRun.step (AuditRun.initial s) es) :=
    Runs.invariant (auditKept_initial s) (fun _ _ h ok => h.step ok) answered
  generalize Runs.run AuditRun.step (AuditRun.initial s) es = r at kept
  intro i call userId outcome hcall haudits hout
  obtain ⟨th, hth, rfl⟩ := Option.map_eq_some_iff.mp hcall
  rw [Pool.outcome_of_thread hth] at hout
  cases kept.stage i th userId hth haudits with
  | running handle due nothing =>
      -- the insert of a request that is running is still to come
      rw [due] at hout
      cases handle <;> cases hout
  | settled outcome' met ends metBy recorded =>
      obtain rfl : outcome' = outcome := by
        rw [ends] at hout
        cases outcome' <;> exact Option.some.inj hout
      rw [recorded, metBy]
      simp

/-! A user who updates their own account, and an administrator who deletes theirs. -/

/-- The users of `Externals.plain` under the interceptor. -/
def Backend.plain : Backend where
  sig := AccountsSig
  machine := accounts .plain
  users s := s.db.users
  message
    | .http _ message | .prismaValidation message | .error message => message
    | .prisma code _ => code
  iso _ := ""

/-- Ann as an administrator, and no audit row. -/
def annAudited : AuditState .plain :=
  ⟨.ofUsers (.single { User.ann with role := .admin }), .empty, fun _ h => by cases h⟩

def annRequest (method : String) (body : JsVal) : AuditRequest :=
  { skipAudit := false, method, url := "/v1/users/ann", user := some "ann", body
    userAgent := .undefined, ip := .str "127.0.0.1", remoteAddress := .undefined }

def annUpdates : AuditCall .plain :=
  ⟨annRequest "PATCH" (.obj [("firstName", .str "Ann")]), (UserService.update "ann"
    { firstName := .value "Ann", lastName := .undefined, phone := .undefined
      role := .undefined, isActive := .undefined }).bind fun dto => .ret dto.toJs⟩

def annRemovesHerself : AuditCall .plain :=
  ⟨annRequest "DELETE" .undefined, (UserService.remove "ann").bind fun _ => .ret .undefined⟩

/-- The whole request: three operations of its handler and the insert. -/
def audited (call : AuditCall .plain) : List (AuditEvent .plain) :=
  .start call :: List.replicate 4 (.advance 0 ⟨{}, 1000, "log-1", none⟩)

theorem audit_recorded_iff_annUpdates :
    ∃ outcome, (Runs.run AuditRun.step (.initial annAudited) (audited annUpdates)).pool.outcome 0 =
        some (.ok outcome) ∧
      RecordedOnce annUpdates.request "ann" (.ok outcome)
        ((Runs.run AuditRun.step (.initial annAudited) (audited annUpdates)).written 0) := by
  refine ⟨_, rfl, ?_⟩
  refine (audit_recorded_iff .plain annAudited (audited annUpdates) ?_ 0 annUpdates "ann" _ rfl
    ⟨rfl, by decide, rfl⟩ rfl).mpr ⟨_, rfl, ?_, ?_⟩
  · exact ⟨trivial, trivial, trivial, trivial, ⟨rfl, nofun⟩, trivial⟩
  · exact rfl
  · exact ⟨_, List.mem_cons_self, rfl⟩

/-- Her row is gone when the insert comes, which the foreign key refuses. -/
theorem audit_not_recorded_annRemovesHerself :
    Backend.plain.HasUser annAudited.backend "ann" ∧
      AuditInterceptor.Audits annRemovesHerself.request "ann" ∧
      Runs.Along AuditRun.step InsertAnswered (.initial annAudited) (audited annRemovesHerself) ∧
      (Runs.run AuditRun.step (.initial annAudited) (audited annRemovesHerself)).pool.outcome 0 =
        some (.ok .undefined) ∧
      ¬ RecordedOnce annRemovesHerself.request "ann" (.ok .undefined)
        ((Runs.run AuditRun.step (.initial annAudited) (audited annRemovesHerself)).written 0) := by
  have nothing : (Runs.run AuditRun.step (.initial annAudited)
      (audited annRemovesHerself)).written 0 = [] := by
    decide +kernel
  refine ⟨⟨_, List.mem_cons_self, rfl⟩, ⟨rfl, by decide, rfl⟩,
    ⟨trivial, trivial, trivial, trivial, ⟨rfl, nofun⟩, trivial⟩, rfl, fun h => ?_⟩
  obtain ⟨log, hlog, -⟩ := h
  rw [nothing] at hlog
  cases hlog

end BackendBoilerplate
