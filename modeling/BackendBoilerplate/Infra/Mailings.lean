import BackendBoilerplate.Infra.Pipeline

/-!
From a committed change of an account to the job of the mail about it. A change is owed a mail
from its commit until the handler of its event has queued one, and nobody else queues any; so
whatever is mailed is about such a change.
-/
namespace BackendBoilerplate
open Relational Async

/-- The mail that a call's handler puts into the queue, if the call is a handler of one. -/
def QueueCall.mail : QueueCall → Option EmailJobData
  | .handler h event => h.mail event
  | .worker _ => none

def DomainEvent.mails (event : DomainEvent) : List EmailJobData :=
  event.starts.filterMap QueueCall.mail

/-- The mail about a change, which goes to the address that the row has. -/
def UserChange.mail : UserChange → Option EmailJobData
  | .created user => some (Handler.welcome user.id user.email)
  | .updated _ => none
  | .deleted user => some (Handler.accountDeleted user.email)

def UserStep.change : UserStep → Option UserChange
  | .committed change => some change
  | .emitted _ => none

/-- The mail about a change whose event has not been emitted. -/
def unannouncedMail : List UserStep → List EmailJobData
  | [.committed change] => change.mail.toList
  | _ => []

namespace UserPool
variable {env : Externals}

/-- The changes that calls have committed. -/
def changes (p : UserPool env) : List UserChange :=
  p.threads.flatMap fun th => (trace th).filterMap UserStep.change

def mails (p : UserPool env) : List EmailJobData := p.changes.filterMap UserChange.mail

def unannounced (p : UserPool env) : List EmailJobData :=
  p.threads.flatMap fun th => unannouncedMail (trace th)

/-- The events that calls have emitted. -/
def told (p : UserPool env) : List DomainEvent :=
  p.threads.flatMap fun th => (trace th).filterMap UserStep.event

end UserPool

theorem QueuePool.shows_mail : Shows QueueCall.mail QueuePhase.queuedMail where
  start := rfl
  gaveUp := rfl
  ends h event := by cases h <;> rfl
  worker _ := rfl
  next call l op ch r data may before hdata := by
    cases op with
    | addEmail mail options =>
        obtain ⟨-, -, handler, event, rfl, hmail⟩ := may
        cases r with
        | error e => cases hdata
        | ok id =>
            obtain rfl : mail = data := Option.some.inj hdata
            exact hmail
    | addNotification _ _ => cases r <;> cases hdata
    | deliver _ => cases r <;> cases hdata
    | incCompleted =>
        obtain ⟨job, rfl, rfl⟩ := may
        cases r <;> cases hdata
    | incFailed => cases hdata

/-! The services in a run. -/

/-- The handlers of an event queue the mail about the change that it tells of. -/
theorem UserChange.announcedBy_mails {change : UserChange} {event : DomainEvent}
    (of : change.announcedBy event) : event.mails = change.mail.toList := by
  cases change with
  | created user =>
      obtain rfl := of
      rfl
  | updated user =>
      obtain ⟨changes, rfl⟩ := of
      rfl
  | deleted user =>
      obtain rfl := of
      rfl

/-- What a call has committed is told, or is about to be. -/
theorem Announces.mails {steps : List UserStep} {next : Option AccountsOp}
    (h : Announces steps next) :
    (steps.filterMap UserStep.change).filterMap UserChange.mail =
      (steps.filterMap UserStep.event).flatMap DomainEvent.mails ++ unannouncedMail steps := by
  cases h with
  | nothing => rfl
  | @due change event of =>
      change [change].filterMap UserChange.mail = change.mail.toList
      rw [List.filterMap_cons]
      cases change.mail <;> rfl
  | @done change event next of =>
      change [change].filterMap UserChange.mail = event.mails ++ [] ++ []
      rw [List.append_nil, List.append_nil, UserChange.announcedBy_mails of, List.filterMap_cons]
      cases change.mail <;> rfl

namespace UserPool
variable {env : Externals} {p : UserPool env}

/-- The mails about the changes are those of the events, and those about changes that are
still to be announced. -/
theorem mails_perm (h : ∀ th ∈ p.threads, Announces (trace th) th.prog.nextOp) :
    p.mails.Perm (p.told.flatMap DomainEvent.mails ++ p.unannounced) := by
  rw [mails, changes, told, unannounced, List.filterMap_flatMap, List.flatMap_assoc]
  refine List.Perm.trans (.of_eq ?_) (List.flatMap_append_perm _ _ _).symm
  exact List.flatMap_congr fun th hth => (h th hth).mails

/-- No call ends with its change unannounced. -/
theorem unannounced_of_ended (h : ∀ th ∈ p.threads, Announces (trace th) th.prog.nextOp)
    (ended : ∀ th ∈ p.threads, th.prog.nextOp = none) : p.unannounced = [] := by
  refine List.flatMap_eq_nil_iff.mpr fun th hth => ?_
  have announces := h th hth
  rw [ended th hth] at announces
  generalize trace th = steps at announces
  cases announces <;> rfl

end UserPool

/-! Services, handlers and the processor together. -/

abbrev UserPipeline (env : Externals) := Pipeline env UserCall (Option UserResponseDto)

/-- The mail about a created or deleted account is the data of one job, and every job is about
one such change. Until then the mail is owed by its handler, or its change is about to be
announced. At rest only a handler that could not reach the queue has left a mail out. -/
structure MailsAccounted {env : Externals} (p : UserPipeline env) : Prop where
  mailed : (UserPool.mails p.services).Perm
    (p.queues.state.email.map Job.data ++
      (p.queues.owed QueueCall.mail QueuePhase.queuedMail ++ UserPool.unannounced p.services))
  rest : p.AtRest → (UserPool.mails p.services).Perm
    (p.queues.state.email.map Job.data ++ p.queues.abandoned QueueCall.mail)

/-- In every run of any calls of `UserService` with the handlers of their events and with
Bull's calls of the processor, with steps failing anywhere. A cuid is never drawn twice.
Where Bull calls the processor on jobs of the queue only, what went out is about changes. -/
theorem mails_accounted (env : Externals) (s : AccountsState)
    (es : List (PipelineMove env UserCall))
    (cuids : Runs.Along (Pool.step UserCall.program) (FreshCuid s.db.users)
      (UserPool.initial env s) (es.filterMap PipelineMove.service?)) :
    MailsAccounted (Runs.run (Pipeline.step UserCall.program) (Pipeline.initial s) es) ∧
      (Runs.Along (Pipeline.step UserCall.program) Pipeline.HandsOutAdded (Pipeline.initial s) es →
        ∀ mail ∈
            (Runs.run (Pipeline.step UserCall.program) (Pipeline.initial s) es).queues.state.sent,
          mail ∈ UserPool.mails
            (Runs.run (Pipeline.step UserCall.program) (Pipeline.initial s) es).services) := by
  obtain ⟨follows, changes⟩ := changeInv_run cuids
  have inv : Pipeline.Inv s.events _ := Pipeline.inv_run UserCall.program s es
  have hservices := Pipeline.services_run UserCall.program (.initial s) es
  have only := Pipeline.onlyAdded_run UserCall.program s es
  generalize Runs.run (Pipeline.step UserCall.program) (Pipeline.initial s) es = p
    at inv hservices only ⊢
  change p.services = (UserPool.initial env s).run _ _ at hservices
  rw [← hservices] at follows changes
  have announces (th) (hth : th ∈ p.services.threads) :
      Announces (UserPool.trace th) th.prog.nextOp :=
    announces_of_left (changes.left th hth) (follows th hth)
  have hmailed : (UserPool.mails p.services).Perm
      (p.queues.state.email.map Job.data ++
        (p.queues.owed QueueCall.mail QueuePhase.queuedMail ++
          UserPool.unannounced p.services)) := by
    have hasked := inv.asked_perm QueuePool.shows_mail changes.events
    have hqueued := inv.kept.booked.added.symm.append_right
      (p.queues.owed QueueCall.mail QueuePhase.queuedMail)
    rw [← List.append_assoc]
    exact (UserPool.mails_perm announces).trans ((hasked.trans hqueued).append_right _)
  refine ⟨⟨hmailed, fun rest => ?_⟩, fun added mail hmail => ?_⟩
  · rw [UserPool.unannounced_of_ended announces rest.1,
      QueuePool.shows_mail.owed_eq inv.kept.follows rest.2, List.append_nil] at hmailed
    exact hmailed
  · exact hmailed.mem_iff.mpr (List.mem_append_left _ ((only added).sent mail hmail))

/-! Ann is removed twice at once, while Bob signs up; the mail server refuses the first mail,
and Bull calls the processor on that job again, and once more after it went out. -/

def serviceMoves (es : List (UserMove .plain)) : List (PipelineMove .plain UserCall) :=
  es.map .service

/-- Call number `tid` of the processor works on the job. -/
def processorCall (tid : Nat) (job : Job EmailJobData) (fault : Option JsError) :
    List (PipelineMove .plain UserCall) :=
  [.worker job, .queue tid { fault }, .queue tid {}]

def goodbyeAndWelcome : List (PipelineMove .plain UserCall) :=
  let goodbye := Handler.accountDeleted "ann@example.com"
  let welcome := Handler.welcome "user-2" "bob@example.com"
  serviceMoves (removedTwice ++ userSteps 2 1 "") ++
    [.queue 0 { id := 1 }, .queue 1 { id := 2 }] ++
    processorCall 2 ⟨1, goodbye⟩ (some (.error "ECONNREFUSED")) ++
    processorCall 3 ⟨2, welcome⟩ none ++ processorCall 4 ⟨1, goodbye⟩ none ++
    processorCall 5 ⟨1, goodbye⟩ none

/-- Ann's goodbye went out twice, and every mail is about a change. -/
theorem mails_accounted_goodbyeAndWelcome :
    (Runs.run (Pipeline.step UserCall.program)
        (Pipeline.initial (.ofUsers (.single .ann))) goodbyeAndWelcome).queues.state.sent.map
          EmailJobData.to_ = ["bob@example.com", "ann@example.com", "ann@example.com"] ∧
      ∀ mail ∈ (Runs.run (Pipeline.step UserCall.program)
          (Pipeline.initial (.ofUsers (.single .ann))) goodbyeAndWelcome).queues.state.sent,
        mail ∈ UserPool.mails (Runs.run (Pipeline.step UserCall.program)
          (Pipeline.initial (.ofUsers (.single .ann))) goodbyeAndWelcome).services :=
  ⟨by decide +kernel,
    (mails_accounted .plain (.ofUsers (.single .ann)) goodbyeAndWelcome (by decide +kernel)).2
      (by decide +kernel)⟩

end BackendBoilerplate
