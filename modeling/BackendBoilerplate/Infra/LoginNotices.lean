import BackendBoilerplate.Domains.Auth.LoginEvents
import BackendBoilerplate.Infra.Pipeline

/-!
From a login to the notice about it. A session that a login has stored is owed a notice until
the handler of its event has queued one. Nobody takes notices out of their queue, so there
they stay.
-/
namespace BackendBoilerplate
open Relational Async

/-- The notice that a call's handler puts into the queue, if the call is a handler of one. -/
def QueueCall.notice : QueueCall → Option NotificationJobData
  | .handler h event => h.notification event
  | .worker _ => none

def DomainEvent.notices (event : DomainEvent) : List NotificationJobData :=
  event.starts.filterMap QueueCall.notice

/-- The notice that a handler has put into the queue. -/
def QueuePhase.notice : QueuePhase → Option NotificationJobData
  | .notified data => some data
  | _ => none

theorem QueuePool.shows_notice : Shows QueueCall.notice QueuePhase.notice where
  start := rfl
  gaveUp := rfl
  ends h event := by cases h <;> rfl
  worker _ := rfl
  next call l op ch r data may before hdata := by
    cases op with
    | addNotification notice options =>
        obtain ⟨-, -, handler, event, rfl, hnotice⟩ := may
        cases r with
        | error e => cases hdata
        | ok id =>
            obtain rfl : notice = data := Option.some.inj hdata
            exact hnotice
    | addEmail _ _ => cases r <;> cases hdata
    | deliver _ => cases r <;> cases hdata
    | incCompleted =>
        obtain ⟨job, rfl, rfl⟩ := may
        cases r <;> cases hdata
    | incFailed => cases hdata

/-- The jobs of these notices wait, and no others are there. -/
structure Waiting (q : JobQueue NotificationJobData) (notices : List NotificationJobData) :
    Prop where
  wait : (q.wait.map Job.data).Perm notices
  elsewhere : q.delayed = [] ∧ q.active = [] ∧ q.completed = [] ∧ q.failed = []

/-- A step of a call, from the notices that the others have queued. -/
theorem Waiting.exec {s : QueueState} {call : QueueCall} {l : QueuePhase} {op : QueueOp}
    {others : List NotificationJobData} (may : call.may l op)
    (h : Waiting s.notification (l.notice.toList ++ others)) (tid : Nat) (ch : QueueChoice)
    {l' : QueuePhase} (hl : l' = QueuePhase.next l ⟨op, ch, (queues.exec tid op ch s).1⟩) :
    Waiting (queues.exec tid op ch s).2.notification (l'.notice.toList ++ others) := by
  subst hl
  cases op with
  | addNotification data options =>
      obtain ⟨rfl, rfl, -⟩ := may
      cases hfault : ch.fault with
      | some e =>
          simp only [hfault]
          exact h
      | none =>
          simp only [hfault]
          refine ⟨?_, h.elsewhere⟩
          have hadded : (QueueOp.exec ch s (.addNotification data {})).2.notification.wait =
              s.notification.wait ++ [⟨ch.id, data⟩] := rfl
          rw [hadded, List.map_append]
          exact (List.perm_append_singleton data _).trans (h.wait.cons data)
  | addEmail data options =>
      obtain ⟨rfl, -⟩ := may
      cases hfault : ch.fault <;> · simp only [hfault]; exact h
  | deliver data =>
      obtain ⟨rfl, -⟩ := may
      cases hfault : ch.fault <;> · simp only [hfault]; exact h
  | incCompleted =>
      obtain ⟨job, -, rfl⟩ := may
      rw [Books.exec_of_not_canFail rfl]
      exact h
  | incFailed =>
      obtain ⟨rfl, -⟩ := may
      rw [Books.exec_of_not_canFail rfl]
      exact h

theorem notices_waiting (es : List QueueMove) :
    Waiting (QueuePool.initial.run QueueCall.program es).state.notification
      (QueuePool.shown (QueuePool.initial.run QueueCall.program es) QueuePhase.notice) := by
  refine (Pool.run_pools (P := queueProtocol)
    (I := fun p => Waiting p.state.notification (QueuePool.shown p QueuePhase.notice))
    QueueCall.conforms (fun p call h (_ : True) => ?_) (fun p tid ch th op next h _ hth _ may => ?_)
    (p := QueuePool.initial) (List.forall_mem_nil _) ⟨.nil, rfl, rfl, rfl, rfl⟩
    (Runs.along_true (fun _ _ => trivial) es)).2
  · have same : QueuePool.shown (p.began QueueCall.program call) QueuePhase.notice =
        QueuePool.shown p QueuePhase.notice := Pool.collect_began rfl
    rw [same]
    exact h
  · obtain ⟨others, hbefore, hafter⟩ :=
      Pool.collect_fired (fun th => (th.phase queueProtocol).notice) hth ch op next
    have hexec := Waiting.exec may ⟨h.wait.trans hbefore, h.elsewhere⟩ tid ch
      (Thread.phase_fired queueProtocol th tid op next ch p.state)
    exact ⟨hexec.wait.trans hafter.symm, hexec.elsewhere⟩

/-! The logins in a run. -/

/-- The notice that a session's user has logged in. -/
def loginNotice (userId : String) : NotificationJobData := Handler.newLogin userId none

/-- The notice about a session whose event has not been emitted. -/
def untoldNotice : List LoginStep → List NotificationJobData
  | [.stored userId] => [loginNotice userId]
  | _ => []

/-- What a login has stored is told, or is about to be. -/
theorem LoginTold.notices {steps : List LoginStep} {next : Option AccountsOp}
    (h : LoginTold steps next) :
    (steps.filterMap LoginStep.session).map loginNotice =
      (steps.filterMap LoginStep.event).flatMap DomainEvent.notices ++ untoldNotice steps := by
  cases h <;> rfl

namespace AuthPool
variable {env : Externals} {p : AuthPool env}

def notices (p : AuthPool env) : List NotificationJobData := p.sessionsStored.map loginNotice

def untold (p : AuthPool env) : List NotificationJobData :=
  p.threads.flatMap fun th => untoldNotice (loginTrace th)

theorem notices_perm (h : ∀ th ∈ p.threads, LoginTold (loginTrace th) th.prog.nextOp) :
    p.notices.Perm (p.told.flatMap DomainEvent.notices ++ p.untold) := by
  rw [notices, sessionsStored, told, untold, List.map_flatMap, List.flatMap_assoc]
  refine List.Perm.trans (.of_eq ?_) (List.flatMap_append_perm _ _ _).symm
  exact List.flatMap_congr fun th hth => (h th hth).notices

/-- No login ends with its session untold. -/
theorem untold_of_ended (h : ∀ th ∈ p.threads, LoginTold (loginTrace th) th.prog.nextOp)
    (ended : ∀ th ∈ p.threads, th.prog.nextOp = none) : p.untold = [] := by
  refine List.flatMap_eq_nil_iff.mpr fun th hth => ?_
  have told := h th hth
  rw [ended th hth] at told
  generalize loginTrace th = steps at told
  cases told <;> rfl

end AuthPool

abbrev AuthPipeline (env : Externals) := Pipeline env AuthCall (Option AuthResponseDto)

/-- The notice about each session that a login stored is the data of one job, and every job is
about one such session; all of them wait. Until then the notice is owed by its handler, or
the login is about to tell. At rest only a handler that could not reach the queue has left
a notice out. -/
structure NoticesAccounted {env : Externals} (p : AuthPipeline env) : Prop where
  noticed : (AuthPool.notices p.services).Perm
    (p.queues.state.notification.wait.map Job.data ++
      (p.queues.owed QueueCall.notice QueuePhase.notice ++ AuthPool.untold p.services))
  elsewhere : p.queues.state.notification.delayed = [] ∧ p.queues.state.notification.active = [] ∧
    p.queues.state.notification.completed = [] ∧ p.queues.state.notification.failed = []
  rest : p.AtRest → (AuthPool.notices p.services).Perm
    (p.queues.state.notification.wait.map Job.data ++ p.queues.abandoned QueueCall.notice)

/-- In every run of logins, refreshes and logouts with the handlers of their events and with
calls of the processor, with steps failing anywhere. -/
theorem notices_accounted (env : Externals) (s : AccountsState)
    (es : List (PipelineMove env AuthCall)) :
    NoticesAccounted (Runs.run (Pipeline.step (AuthCall.program env)) (Pipeline.initial s) es) := by
  obtain ⟨told, events⟩ := logins_told s (es.filterMap PipelineMove.service?)
  have inv : Pipeline.Inv s.events _ := Pipeline.inv_run (AuthCall.program env) s es
  have hservices := Pipeline.services_run (AuthCall.program env) (.initial s) es
  generalize Runs.run (Pipeline.step (AuthCall.program env)) (Pipeline.initial s) es = p
    at inv hservices
  change p.services = (AuthPool.initial s).run _ _ at hservices
  rw [← hservices] at told events
  obtain ⟨moves, hmoves⟩ := inv.ran
  have waiting := notices_waiting moves
  rw [← hmoves] at waiting
  have hnoticed : (AuthPool.notices p.services).Perm
      (p.queues.state.notification.wait.map Job.data ++
        (p.queues.owed QueueCall.notice QueuePhase.notice ++ AuthPool.untold p.services)) := by
    have hasked := inv.asked_perm QueuePool.shows_notice events
    have hqueued := waiting.wait.symm.append_right
      (p.queues.owed QueueCall.notice QueuePhase.notice)
    rw [← List.append_assoc]
    exact (AuthPool.notices_perm told).trans ((hasked.trans hqueued).append_right _)
  refine ⟨hnoticed, waiting.elsewhere, fun rest => ?_⟩
  rw [AuthPool.untold_of_ended told rest.1,
    QueuePool.shows_notice.owed_eq inv.kept.follows rest.2, List.append_nil] at hnoticed
  exact hnoticed

/-- One notice about a login and two refreshes of its token. -/
example : (Runs.run (Pipeline.step (AuthCall.program .plain))
    (Pipeline.initial (.ofUsers (.single .ann)))
      (twoRefreshes.map .service ++ [.queue 0 {}])).queues.state.notification.wait.map
        (fun job => job.data.userId) = ["ann"] := by
  decide +kernel

end BackendBoilerplate
