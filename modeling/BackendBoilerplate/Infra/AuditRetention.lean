import BackendBoilerplate.Core.Interceptors.AuditTrail
import BackendBoilerplate.Infra.Cleanup
import BackendBoilerplate.Lib.History
import BackendBoilerplate.Lib.Zone
import Mathlib.Data.List.Forall2

/-!
The audit trail over time. Requests add rows to the audit_logs table, the deletion of a user
takes the reference out of the rows that are about them, and `cleanupOldAuditLogs` deletes the
rows from before ninety days ago. Nothing else happens to a row.
-/
namespace BackendBoilerplate
open JavaScript Relational Async

variable {B : Backend}

namespace CleanupTask

/-- `setDate(getDate() - 90)` on the current time, in local time. -/
def ninetyDaysAgo (zone : Zone) (now : Int) : Int := zone.utc (zone.localTime now + -90 * dayMs)

def cleanupOldAuditLogs (zone : Zone) (now : Int) (s : AuditState B) : AuditState B :=
  { s with
    auditLogs := s.auditLogs.deleteWhere fun log => log.createdAt < ninetyDaysAgo zone now
    referenced := fun log hlog => s.referenced log (Table.mem_deleteWhere.mp hlog).1 }

end CleanupTask

/-- `now` is the time that the task reads, before its statement, which `fault` makes fail. -/
inductive TrailEvent (B : Backend) where
  | request (e : AuditEvent B)
  | cleanupOldAuditLogs (now : Int) (fault : Option JsError)

/-- Rows that requests have added, in order and under the numbers of the requests. -/
abbrev Trail := List (Nat × AuditLog)

def Trail.ofRequest (trail : Trail) (i : Nat) : List AuditLog :=
  (trail.filter fun entry => entry.1 == i).map Prod.snd

/-- What a step of a request adds to the trail. -/
def AuditRun.entries (r : AuditRun B) : AuditEvent B → Trail
  | .start _ => []
  | .advance tid ch =>
      (added r.pool.state (r.pool.step AuditCall.program (.advance tid ch)).state).map
        fun log => (tid, log)

/-- `cleaned` are the times that the cleanups have read whose statement went through. -/
structure TrailRun (B : Backend) where
  requests : AuditRun B
  trail : Trail
  cleaned : List Int

namespace TrailRun

def initial (s : AuditState B) : TrailRun B := ⟨.initial s, [], []⟩

def auditLogs (r : TrailRun B) : List AuditLog := r.requests.pool.state.auditLogs.rows

def step (zone : Zone) (r : TrailRun B) : TrailEvent B → TrailRun B
  | .request e =>
      { r with requests := r.requests.step e, trail := r.trail ++ r.requests.entries e }
  | .cleanupOldAuditLogs now fault =>
      { r with
        requests := { r.requests with
          pool := { r.requests.pool with
            state := CleanupTask.caught fault (CleanupTask.cleanupOldAuditLogs zone now)
              r.requests.pool.state } }
        cleaned := CleanupTask.caught fault (· ++ [now]) r.cleaned }

/-- No row gets a time that is 88 days before one that a cleanup has read already. -/
def ClocksNear (r : TrailRun B) : TrailEvent B → Prop
  | .request (.advance _ ch) => ∀ now ∈ r.cleaned, now - 88 * dayMs ≤ ch.now
  | _ => True

instance (r : TrailRun B) : DecidablePred r.ClocksNear
  | .request (.advance _ ch) =>
      inferInstanceAs (Decidable (∀ now ∈ r.cleaned, now - 88 * dayMs ≤ ch.now))
  | .request (.start _) | .cleanupOldAuditLogs .. => .isTrue trivial

def Answered (r : TrailRun B) : TrailEvent B → Prop
  | .request e => InsertAnswered r.requests e
  | .cleanupOldAuditLogs .. => True

end TrailRun

/-- The row is not from before the cut-off of any of the cleanups. -/
def Retained (zone : Zone) (cleaned : List Int) (log : AuditLog) : Bool :=
  cleaned.all fun now => CleanupTask.ninetyDaysAgo zone now ≤ log.createdAt

/-- After the event the row has been added, and the user is not there. -/
def MissesUser (zone : Zone) (start : List AuditLog) (log : AuditLog) (userId : String)
    (r : TrailRun B) (e : TrailEvent B) : Prop :=
  log ∈ start ++ (r.step zone e).trail.map Prod.snd ∧
    ¬ B.HasUser (r.step zone e).requests.pool.state.backend userId

/-- What a row that was added can have become: the same, or the same without its user, who was
gone since. -/
def StillTells (gone : AuditLog → String → Prop) (log row : AuditLog) : Prop :=
  row = log ∨ row = { log with userId := none } ∧ ∀ userId ∈ log.userId, gone log userId

section
variable {gone gone' : AuditLog → String → Prop} {log row : AuditLog}

theorem StillTells.createdAt (h : StillTells gone log row) : row.createdAt = log.createdAt := by
  rcases h with rfl | ⟨rfl, -⟩ <;> rfl

theorem StillTells.mono (h : StillTells gone log row)
    (later : ∀ log userId, gone log userId → gone' log userId) : StillTells gone' log row :=
  h.imp_right fun h => ⟨h.1, fun userId huser => later log userId (h.2 userId huser)⟩

theorem StillTells.forget (h : StillTells gone log row)
    (lost : ∀ userId ∈ row.userId, gone log userId) :
    StillTells gone log { row with userId := none } := by
  rcases h with rfl | ⟨rfl, hgone⟩
  · exact .inr ⟨rfl, lost⟩
  · exact .inr ⟨rfl, hgone⟩

theorem forall₂_stillTells (logs : List AuditLog) : List.Forall₂ (StillTells gone) logs logs :=
  List.forall₂_same.mpr fun _ _ => .inl rfl

end

/-! The cut-off. -/

section
variable {zone : Zone} {cleaned : List Int} {log : AuditLog}

/-- The cut-off is ninety days ago, up to what the offset of the zone varies by. -/
theorem ninetyDaysAgo_within (lo hi : Int)
    (range : ∀ t, lo ≤ zone.offset t ∧ zone.offset t ≤ hi) (now : Int) :
    now - 90 * dayMs - (hi - lo) ≤ CleanupTask.ninetyDaysAgo zone now ∧
      CleanupTask.ninetyDaysAgo zone now ≤ now - 90 * dayMs + (hi - lo) := by
  obtain ⟨t, ht⟩ := Zone.exists_offset_eq zone (zone.localTime now + -90 * dayMs)
  have hnow := range now
  have hread := range t
  rw [CleanupTask.ninetyDaysAgo, Zone.utc, ← ht, Zone.localTime]
  omega

theorem ninetyDaysAgo_le (now : Int) :
    CleanupTask.ninetyDaysAgo zone now ≤ now - 88 * dayMs := by
  have hcut := (ninetyDaysAgo_within (-dayMs) dayMs
    (fun t => ⟨Int.le_of_lt (zone.bounded t).1, Int.le_of_lt (zone.bounded t).2⟩) now).2
  omega

theorem retained_snoc (now : Int) :
    Retained zone (cleaned ++ [now]) log = (Retained zone cleaned log &&
      decide (CleanupTask.ninetyDaysAgo zone now ≤ log.createdAt)) := by
  simp [Retained]

/-- A new row is behind every cut-off so far. -/
theorem retained_of_near (near : ∀ now ∈ cleaned, now - 88 * dayMs ≤ log.createdAt) :
    Retained zone cleaned log = true := by
  refine List.all_eq_true.mpr fun now hnow => decide_eq_true ?_
  exact (ninetyDaysAgo_le now).trans (near now hnow)

end

/-! What an operation does to the table. -/

section
variable {s : AuditState B} {tid : Nat} {ch : AuditChoice B} {gone : AuditLog → String → Prop}

namespace AuditState

theorem createAuditLog_rows {data : AuditLogCreateInput} {id : String} {now : Int}
    {log : AuditLog} {s' : AuditState B} (h : s.createAuditLog data id now = .ok (log, s')) :
    s'.auditLogs.rows = s.auditLogs.rows ++ [log] ∧ log.createdAt = now ∧
      log.userId = some data.userId ∧ log.action = data.action ∧ log.status = data.status := by
  unfold createAuditLog at h
  split at h
  · cases h
  · dsimp only at h
    split at h
    · cases h
    · next auditLogs hins =>
        split at h
        · cases h
          exact ⟨Table.rows_insert? hins, rfl, rfl, rfl, rfl⟩
        · cases h

theorem stillTells_onDeleteSetNull {logs : List AuditLog} (backend : B.machine.State)
    (lost : ∀ log ∈ logs, ∀ userId, ¬ B.HasUser backend userId → gone log userId)
    (h : List.Forall₂ (StillTells gone) logs s.auditLogs.rows) :
    List.Forall₂ (StillTells gone) logs (s.onDeleteSetNull backend).auditLogs.rows := by
  have h := (List.forall₂_and_left _ _).mpr ⟨lost, h⟩
  refine List.forall₂_map_right_iff.mpr (h.imp fun log row hrow => ?_)
  split
  · next hnull =>
      refine hrow.2.forget fun userId huser => hrow.1 userId ?_
      have habsent : (row.userId.any fun id => decide ¬ B.HasUser backend id) = true := hnull
      rw [Option.mem_def.mp huser] at habsent
      simpa using habsent
  · exact hrow.2

end AuditState

/-- An insert leaves the table as it was, or adds one row to it. -/
theorem insert_cases (tid : Nat) (ch : AuditChoice B) (s : AuditState B)
    (data : AuditLogCreateInput) :
    ((auditMachine B).exec tid (.createAuditLog data) ch s).2 = s ∨
      ∃ log, ((auditMachine B).exec tid (.createAuditLog data) ch s).2.auditLogs.rows =
          s.auditLogs.rows ++ [log] ∧ log.createdAt = ch.now ∧ log.userId = some data.userId ∧
        log.action = data.action ∧ log.status = data.status := by
  cases hfault : ch.fault with
  | some e => exact .inl (by simp only [hfault])
  | none =>
      cases hcreate : s.createAuditLog data ch.draw ch.now with
      | error e => exact .inl (by simp only [hfault, hcreate])
      | ok made =>
          obtain ⟨hrows, hmade⟩ := AuditState.createAuditLog_rows hcreate
          exact .inr ⟨made.1, by simp only [hfault, hcreate, hrows], hmade⟩

theorem added_self (s : AuditState B) : AuditRun.added s s = [] := List.drop_length

theorem added_of_rows {s s' : AuditState B} {log : AuditLog}
    (h : s'.auditLogs.rows = s.auditLogs.rows ++ [log]) : AuditRun.added s s' = [log] := by
  rw [AuditRun.added, h, List.drop_left]

/-- The rows that were there go on to tell what they told, and what is added is from now. -/
theorem exec_table (tid : Nat) (op : AuditOp B) (ch : AuditChoice B) {logs : List AuditLog}
    (lost : ∀ log ∈ logs, ∀ userId,
      ¬ B.HasUser ((auditMachine B).exec tid op ch s).2.backend userId → gone log userId)
    (h : List.Forall₂ (StillTells gone) logs s.auditLogs.rows) :
    List.Forall₂ (StillTells gone) (logs ++ AuditRun.added s ((auditMachine B).exec tid op ch s).2)
        ((auditMachine B).exec tid op ch s).2.auditLogs.rows ∧
      ∀ log ∈ AuditRun.added s ((auditMachine B).exec tid op ch s).2, log.createdAt = ch.now := by
  cases op with
  | handler op =>
      rw [added_handler, List.append_nil]
      exact ⟨AuditState.stillTells_onDeleteSetNull _ lost h, nofun⟩
  | createAuditLog data =>
      rcases insert_cases tid ch s data with hsame | ⟨log, hrows, hnow, -⟩
      · rw [hsame, added_self, List.append_nil]
        exact ⟨h, nofun⟩
      · rw [added_of_rows hrows, hrows]
        refine ⟨List.rel_append h (.cons (.inl rfl) .nil), fun log' hlog' => ?_⟩
        rw [List.mem_singleton.mp hlog', hnow]

end

/-! Who a row is about. -/

/-- How far a request has come that may have added a row: one that is not audited never does,
and the others at their end. -/
inductive TrailStage (request : AuditRequest) (prog : AuditProg B JsVal)
    (written : List AuditLog) : Prop
  | silent (handle : Prog B.sig JsError JsVal) (due : prog = onBackend handle)
      (nothing : written = [])
  | running (userId : String) (audits : AuditInterceptor.Audits request userId)
      (handle : Prog B.sig JsError JsVal)
      (due : prog = (onBackend handle).attempt.bind (AuditInterceptor.tap request userId))
      (nothing : written = [])
  | settled (userId : String) (audits : AuditInterceptor.Audits request userId)
      (outcome : Except JsError JsVal) (ends : prog = Prog.ofExcept outcome)
      (told : written = [] ∨ RecordedOnce request userId outcome written)

section
variable {request : AuditRequest} {s : AuditState B} {tid : Nat} {ch : AuditChoice B}
  {written : List AuditLog}

theorem intercept_of_not_audits (h : ∀ userId, ¬ AuditInterceptor.Audits request userId)
    (handle : Prog B.sig JsError JsVal) :
    AuditInterceptor.intercept request handle = onBackend handle := by
  unfold AuditInterceptor.intercept
  split
  · rfl
  · next hskip =>
      split
      · rfl
      · next hmethod =>
          split
          · rfl
          · next userId huser =>
              refine absurd ⟨by simpa using hskip, ?_, huser⟩ (h userId)
              exact List.contains_iff_mem.mp (not_not.mp hmethod)

theorem trailStage_intercept (request : AuditRequest) (handle : Prog B.sig JsError JsVal) :
    TrailStage request (AuditInterceptor.intercept request handle) [] := by
  by_cases haudits : ∃ userId, AuditInterceptor.Audits request userId
  · obtain ⟨userId, haudits⟩ := haudits
    exact .running userId haudits handle (AuditInterceptor.intercept_of_audits haudits handle) rfl
  · exact .silent handle (intercept_of_not_audits (not_exists.mp haudits) handle) rfl

/-- What an insert has added is the row of its request. -/
theorem told_insert (userId : String) (outcome : Except JsError JsVal) :
    AuditRun.added s ((auditMachine B).exec tid
        (.createAuditLog (AuditInterceptor.auditLog B request userId outcome)) ch s).2 = [] ∨
      RecordedOnce request userId outcome (AuditRun.added s ((auditMachine B).exec tid
        (.createAuditLog (AuditInterceptor.auditLog B request userId outcome)) ch s).2) := by
  rcases insert_cases tid ch s (AuditInterceptor.auditLog B request userId outcome) with hsame |
    ⟨log, hrows, -, huser, haction, hstatus⟩
  · rw [hsame]
    exact .inl (added_self s)
  · refine .inr ⟨log, added_of_rows hrows, ?_, ?_, ?_⟩
    · rw [huser, AuditInterceptor.auditLog_userId]
    · rw [haction, AuditInterceptor.auditLog_action]
    · rw [hstatus, AuditInterceptor.auditLog_status]

theorem TrailStage.fired {op : AuditOp B} {next : Except JsError op.Res → AuditProg B JsVal}
    (h : TrailStage request (.step op next) written) :
    TrailStage request (next ((auditMachine B).exec tid op ch s).1)
      (written ++ AuditRun.added s ((auditMachine B).exec tid op ch s).2) := by
  cases h with
  | silent handle due nothing =>
      subst nothing
      cases handle with
      | ret response => cases due
      | fail error => cases due
      | step hop hnext =>
          cases due
          exact .silent (hnext _) rfl (added_handler hop)
  | settled userId audits outcome ends told => cases outcome <;> cases ends
  | running userId audits handle due nothing =>
      subst nothing
      have inserted (outcome : Except JsError JsVal)
          (due : Prog.step op next = AuditInterceptor.tap request userId outcome) :
          TrailStage request (next ((auditMachine B).exec tid op ch s).1)
            ([] ++ AuditRun.added s ((auditMachine B).exec tid op ch s).2) := by
        rw [AuditInterceptor.tap_eq] at due
        cases due
        exact .settled userId audits outcome rfl (told_insert userId outcome)
      cases handle with
      | ret response => exact inserted (.ok response) due
      | fail error => exact inserted (.error error) due
      | step hop hnext =>
          cases due
          exact .running userId audits (hnext _) rfl (added_handler hop)

end

/-! One step of a run. -/

/-- The table holds what is left of the rows from the start and of those in the trail, and each
request has added what its stage says. -/
structure TrailKept (zone : Zone) (start : List AuditLog) (gone : AuditLog → String → Prop)
    (r : TrailRun B) : Prop where
  rows : List.Forall₂ (StillTells gone)
    ((start ++ r.trail.map Prod.snd).filter (Retained zone r.cleaned)) r.auditLogs
  unborn : ∀ i, r.requests.pool.threads.length ≤ i → r.trail.ofRequest i = []
  stage : ∀ i th, r.requests.pool.threads[i]? = some th →
    TrailStage th.call.request th.prog (r.trail.ofRequest i)

section
variable {zone : Zone} {start : List AuditLog} {gone : AuditLog → String → Prop}
  {r : TrailRun B} {tid : Nat} {ch : AuditChoice B}

theorem trailKept_initial (zone : Zone) (s : AuditState B) :
    TrailKept zone s.auditLogs.rows gone (.initial s) where
  rows := by
    have every : s.auditLogs.rows.filter (Retained zone []) = s.auditLogs.rows :=
      List.filter_eq_self.mpr fun _ _ => rfl
    change List.Forall₂ (StillTells gone)
      ((s.auditLogs.rows ++ []).filter (Retained zone [])) s.auditLogs.rows
    rw [List.append_nil, every]
    exact forall₂_stillTells s.auditLogs.rows
  unborn _ _ := rfl
  stage i th hth := by cases hth

theorem TrailKept.mono {gone' : AuditLog → String → Prop} (h : TrailKept zone start gone r)
    (later : ∀ log userId, gone log userId → gone' log userId) : TrailKept zone start gone' r :=
  ⟨h.rows.imp fun _ _ hrow => hrow.mono later, h.unborn, h.stage⟩

theorem Trail.map_snd (tid : Nat) (added : List AuditLog) :
    (added.map fun log => (tid, log)).map Prod.snd = added := by
  rw [List.map_map]
  exact List.map_id added

theorem Trail.ofRequest_append_self (trail : Trail) (tid : Nat) (added : List AuditLog) :
    Trail.ofRequest (trail ++ added.map fun log => (tid, log)) tid =
      trail.ofRequest tid ++ added := by
  simp [Trail.ofRequest, List.filter_map, Function.comp_def]

theorem Trail.ofRequest_append_of_ne (trail : Trail) {tid i : Nat} (hne : i ≠ tid)
    (added : List AuditLog) :
    Trail.ofRequest (trail ++ added.map fun log => (tid, log)) i = trail.ofRequest i := by
  simp [Trail.ofRequest, List.filter_map, Function.comp_def, hne.symm]

theorem TrailKept.began (h : TrailKept zone start gone r) (call : AuditCall B) :
    TrailKept zone start gone (r.step zone (.request (.start call))) := by
  have same : r.trail ++ r.requests.entries (.start call) = r.trail := List.append_nil _
  refine ⟨?_, fun i hi => ?_, fun i th hth => ?_⟩
  · simp only [TrailRun.step, same]
    exact h.rows
  · simp only [TrailRun.step, AuditRun.step, Pool.step, List.length_append] at hi
    simp only [TrailRun.step, same]
    exact h.unborn i (by omega)
  · simp only [TrailRun.step, same]
    rcases Pool.thread_began hth with hold | ⟨hle, rfl⟩
    · exact h.stage i th hold
    · have nothing : r.trail.ofRequest i = [] := h.unborn i hle
      exact nothing ▸ trailStage_intercept call.request call.handle

theorem TrailKept.fired (h : TrailKept zone start gone r)
    {th : Thread (auditMachine B) (AuditCall B) JsVal} {op : AuditOp B}
    {next : Except JsError op.Res → AuditProg B JsVal}
    (near : ∀ now ∈ r.cleaned, now - 88 * dayMs ≤ ch.now)
    (hth : r.requests.pool.threads[tid]? = some th) (hprog : th.prog = .step op next)
    (hstep : r.requests.pool.step AuditCall.program (.advance tid ch) =
      r.requests.pool.fired tid ch th op next)
    (lost : ∀ log userId, MissesUser zone start log userId r (.request (.advance tid ch)) →
      gone log userId) :
    TrailKept zone start gone (r.step zone (.request (.advance tid ch))) := by
  have hlt : tid < r.requests.pool.threads.length := (List.getElem?_eq_some_iff.mp hth).1
  have pool : (r.step zone (.request (.advance tid ch))).requests.pool =
      r.requests.pool.fired tid ch th op next := hstep
  have trail : (r.step zone (.request (.advance tid ch))).trail =
      r.trail ++ (AuditRun.added r.requests.pool.state
        ((auditMachine B).exec tid op ch r.requests.pool.state).2).map fun log => (tid, log) := by
    rw [TrailRun.step, AuditRun.entries, hstep]
  obtain ⟨hrows, hnow⟩ := exec_table tid op ch (fun log hlog userId habsent => by
    refine lost log userId ⟨?_, ?_⟩
    · rw [trail, List.map_append, ← List.append_assoc]
      exact List.mem_append_left _ (List.mem_filter.mp hlog).1
    · rw [pool]
      exact habsent) h.rows
  have retained : ∀ log ∈ AuditRun.added r.requests.pool.state
      ((auditMachine B).exec tid op ch r.requests.pool.state).2,
      Retained zone r.cleaned log = true := fun log hlog =>
    retained_of_near fun now hmem => by rw [hnow log hlog]; exact near now hmem
  refine ⟨?_, fun i hi => ?_, fun i th' hth' => ?_⟩
  · rw [TrailRun.auditLogs, trail, pool, List.map_append, Trail.map_snd, ← List.append_assoc,
      List.filter_append]
    have all := List.filter_eq_self.mpr retained
    exact all.symm ▸ hrows
  · rw [pool, List.length_set] at hi
    rw [trail, Trail.ofRequest_append_of_ne _ (by omega)]
    exact h.unborn i hi
  · rw [pool] at hth'
    rw [trail]
    rcases Pool.thread_fired hth hth' with ⟨rfl, rfl⟩ | ⟨hi, hold⟩
    · rw [Trail.ofRequest_append_self]
      have hstage := h.stage i th hth
      rw [hprog] at hstage
      exact hstage.fired
    · rw [Trail.ofRequest_append_of_ne _ hi]
      exact h.stage i th' hold

theorem TrailKept.cleanup (h : TrailKept zone start gone r) (now : Int) (fault : Option JsError) :
    TrailKept zone start gone (r.step zone (.cleanupOldAuditLogs now fault)) := by
  cases fault with
  | some e => exact ⟨h.rows, h.unborn, h.stage⟩
  | none =>
      refine ⟨?_, h.unborn, h.stage⟩
      have cut : (start ++ r.trail.map Prod.snd).filter (Retained zone (r.cleaned ++ [now])) =
          ((start ++ r.trail.map Prod.snd).filter (Retained zone r.cleaned)).filter fun log =>
            !decide (log.createdAt < CleanupTask.ninetyDaysAgo zone now) := by
        rw [List.filter_filter]
        refine List.filter_congr fun log _ => ?_
        rw [retained_snoc, Bool.and_comm, ← decide_not]
        exact congrArg (· && _) (decide_eq_decide.mpr Int.not_lt.symm)
      change List.Forall₂ (StillTells gone)
        ((start ++ r.trail.map Prod.snd).filter (Retained zone (r.cleaned ++ [now])))
        (r.auditLogs.filter fun log =>
          !decide (log.createdAt < CleanupTask.ninetyDaysAgo zone now))
      rw [cut]
      exact List.rel_filter (fun log row hrow => by simp only [hrow.createdAt]) h.rows

theorem TrailKept.step (h : TrailKept zone start gone r) {e : TrailEvent B}
    (near : r.ClocksNear e)
    (lost : ∀ log userId, MissesUser zone start log userId r e → gone log userId) :
    TrailKept zone start gone (r.step zone e) := by
  cases e with
  | cleanupOldAuditLogs now fault => exact h.cleanup now fault
  | request e =>
      rcases Pool.step_cases AuditCall.program r.requests.pool e with ⟨call, rfl, -⟩ |
        ⟨tid, ch, rfl, hnone, heq⟩ | ⟨tid, ch, th, op, next, rfl, hth, hprog, heq⟩
      · exact h.began call
      · have idle : r.step zone (.request (.advance tid ch)) = r := by
          simp only [TrailRun.step, AuditRun.entries, AuditRun.step, heq, hnone, added_self,
            List.append_nil, List.map_nil, Function.update_eq_self]
        exact idle.symm ▸ h
      · exact h.fired near hth hprog heq lost

/-- The rows that a request has added are those of its own steps. -/
theorem written_step (same : r.requests.written = r.trail.ofRequest) (e : TrailEvent B) :
    (r.step zone e).requests.written = (r.step zone e).trail.ofRequest := by
  cases e with
  | cleanupOldAuditLogs now fault => exact same
  | request e =>
      cases e with
      | start call =>
          have unchanged : r.trail ++ r.requests.entries (.start call) = r.trail :=
            List.append_nil _
          rw [TrailRun.step, unchanged]
          exact same
      | advance tid ch =>
          funext i
          rw [TrailRun.step, AuditRun.entries, AuditRun.step, same]
          by_cases hi : i = tid
          · rw [hi, Trail.ofRequest_append_self]
            exact Function.update_self ..
          · rw [Trail.ofRequest_append_of_ne _ hi]
            exact Function.update_of_ne hi ..

theorem auditKept_step (h : AuditKept r.requests) {e : TrailEvent B} (answered : r.Answered e) :
    AuditKept (r.step zone e).requests := by
  cases e with
  | cleanupOldAuditLogs now fault => exact ⟨h.unborn, h.stage⟩
  | request e => exact h.step answered

end

/-- An audited request that is over, in a run where no insert has failed. -/
theorem AuditKept.recordedOnce_iff {r : AuditRun B} (kept : AuditKept r) {i : Nat}
    {call : AuditCall B} {userId : String} {outcome : Except JsError JsVal}
    (hcall : r.pool.call i = some call) (haudits : AuditInterceptor.Audits call.request userId)
    (hout : r.pool.outcome i = some outcome) :
    RecordedOnce call.request userId outcome (r.written i) ↔
      ∃ met, r.metBy i = some met ∧ Recordable B call.request userId outcome met := by
  obtain ⟨th, hth, rfl⟩ := Option.map_eq_some_iff.mp hcall
  rw [Pool.outcome_of_thread hth] at hout
  cases kept.stage i th userId hth haudits with
  | running handle due nothing =>
      rw [due] at hout
      cases handle <;> cases hout
  | settled outcome' met ends metBy recorded =>
      obtain rfl : outcome' = outcome := by
        rw [ends] at hout
        cases outcome' <;> exact Option.some.inj hout
      rw [recorded, metBy]
      simp

/-- Only an audited request that is over has added a row. -/
theorem TrailKept.told {zone : Zone} {start : List AuditLog}
    {gone : AuditLog → String → Prop} {r : TrailRun B}
    (kept : TrailKept zone start gone r) (i : Nat) :
    r.trail.ofRequest i = [] ∨ ∃ call userId outcome, r.requests.pool.call i = some call ∧
      AuditInterceptor.Audits call.request userId ∧
      r.requests.pool.outcome i = some outcome ∧
      RecordedOnce call.request userId outcome (r.trail.ofRequest i) := by
  cases hth : r.requests.pool.threads[i]? with
  | none => exact .inl (kept.unborn i (List.getElem?_eq_none_iff.mp hth))
  | some th =>
      cases kept.stage i th hth with
      | silent handle due nothing => exact .inl nothing
      | running userId audits handle due nothing => exact .inl nothing
      | settled userId audits outcome ends told =>
          rcases told with nothing | recorded
          · exact .inl nothing
          · refine .inr ⟨th.call, userId, outcome, Pool.call_of_thread hth, audits, ?_, recorded⟩
            rw [Pool.outcome_of_thread hth, ends]
            cases outcome <;> rfl

/-- In every run of any number of requests with any handlers and any number of cleanups: the
table holds exactly the rows, in order, that were there at first or that a request has added
since and that are not from before the cut-off of a cleanup; each is as it was written, except
for the reference to a user who was gone at some moment since. A request has added nothing, or
it is an audited one that is over and has added the one row about it; and where no insert
fails, it has added that row if and only if its user was there and the values fit. -/
theorem audit_trail_retained (zone : Zone) (s : AuditState B) (es : List (TrailEvent B))
    (near : Runs.Along (TrailRun.step zone) TrailRun.ClocksNear (.initial s) es) :
    let r := Runs.run (TrailRun.step zone) (.initial s) es
    List.Forall₂ (StillTells fun log userId => Runs.Once (TrailRun.step zone)
        (MissesUser zone s.auditLogs.rows log userId) (.initial s) es)
        ((s.auditLogs.rows ++ r.trail.map Prod.snd).filter (Retained zone r.cleaned))
        r.auditLogs ∧
      (∀ i, r.trail.ofRequest i = [] ∨ ∃ call userId outcome, r.requests.pool.call i = some call ∧
        AuditInterceptor.Audits call.request userId ∧
        r.requests.pool.outcome i = some outcome ∧
        RecordedOnce call.request userId outcome (r.trail.ofRequest i)) ∧
      (Runs.Along (TrailRun.step zone) TrailRun.Answered (.initial s) es →
        ∀ i call userId outcome, r.requests.pool.call i = some call →
          AuditInterceptor.Audits call.request userId →
          r.requests.pool.outcome i = some outcome →
          (RecordedOnce call.request userId outcome (r.trail.ofRequest i) ↔
            ∃ met, r.requests.metBy i = some met ∧
              Recordable B call.request userId outcome met)) := by
  intro r
  have kept : TrailKept zone s.auditLogs.rows (fun log userId => Runs.Once
      (TrailRun.step zone) (MissesUser zone s.auditLogs.rows log userId) (.initial s) es) r :=
    Runs.history
      (I := fun es => TrailKept zone s.auditLogs.rows (fun log userId => Runs.Once
        (TrailRun.step zone) (MissesUser zone s.auditLogs.rows log userId) (.initial s) es)
          (Runs.run (TrailRun.step zone) (.initial s) es))
      (trailKept_initial zone s)
      (fun fs e h ok => by
        rw [Runs.run_append]
        exact (h.mono fun log userId hgone => hgone.append [e]).step ok
          fun log userId hmisses => Runs.once_last fs hmisses) near
  refine ⟨kept.rows, kept.told, fun answered i call userId outcome hcall haudits hout => ?_⟩
  have written : AuditKept r.requests ∧ r.requests.written = r.trail.ofRequest :=
    Runs.invariant
      (I := fun t : TrailRun B => AuditKept t.requests ∧ t.requests.written = t.trail.ofRequest)
      ⟨auditKept_initial s, rfl⟩
      (fun _ e h ok => ⟨auditKept_step h.1 ok, written_step h.2 e⟩) answered
  rw [← written.2]
  exact written.1.recordedOnce_iff hcall haudits hout

/-! Ann updates her account, and the clocks go forward an hour before the cleanups. -/

def annsZone : Zone := .springForward dayMs 0 3600000 (by decide) (by decide) (by decide)

/-- Ninety days less an hour after her update, and a millisecond later. -/
def annsTrail : List (TrailEvent .plain) :=
  (audited annUpdates).map .request ++
    [.cleanupOldAuditLogs (1000 + 90 * dayMs - 3600000) none,
      .cleanupOldAuditLogs (1001 + 90 * dayMs - 3600000) none]

example : (Runs.run (TrailRun.step annsZone) (.initial annAudited)
    annsTrail.dropLast).auditLogs.length = 1 := by
  decide +kernel

example : (Runs.run (TrailRun.step annsZone) (.initial annAudited) annsTrail).auditLogs = [] := by
  decide +kernel

/-- The row stays when she removes herself, without its user. -/
example :
    let removal : List (AuditEvent .plain) :=
      .start annRemovesHerself :: List.replicate 4 (.advance 1 ⟨{}, 2000, "log-2", none⟩)
    let r := Runs.run (TrailRun.step annsZone) (.initial annAudited)
      ((audited annUpdates ++ removal).map .request)
    r.auditLogs.map (fun log => (log.action, log.userId)) = [("UPDATE", none)] := by
  decide +kernel

theorem audit_trail_retained_annsTrail :
    List.Forall₂ (StillTells fun log userId => Runs.Once (TrailRun.step annsZone)
        (MissesUser annsZone annAudited.auditLogs.rows log userId) (.initial annAudited) annsTrail)
        ((annAudited.auditLogs.rows ++ (Runs.run (TrailRun.step annsZone) (.initial annAudited)
          annsTrail).trail.map Prod.snd).filter
          (Retained annsZone [1000 + 90 * dayMs - 3600000, 1001 + 90 * dayMs - 3600000])) [] ∧
      ∃ outcome, RecordedOnce annUpdates.request "ann" (.ok outcome) ((Runs.run
        (TrailRun.step annsZone) (.initial annAudited) annsTrail).trail.ofRequest 0) := by
  obtain ⟨rows, -, recorded⟩ := audit_trail_retained annsZone annAudited annsTrail
    (by decide +kernel)
  refine ⟨rows, _, (recorded ?_ 0 annUpdates "ann" _ rfl ⟨rfl, by decide, rfl⟩ rfl).mpr
    ⟨_, rfl, rfl, _, List.mem_cons_self, rfl⟩⟩
  exact ⟨trivial, trivial, trivial, trivial, ⟨rfl, nofun⟩, trivial, trivial, trivial⟩

end BackendBoilerplate
