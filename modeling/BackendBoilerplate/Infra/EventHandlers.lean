import BackendBoilerplate.Infra.Queue
import BackendBoilerplate.Prisma.Accounts

/-!
`UserEmailHandler` and `UserNotificationHandler`: who listens to which domain event, and
what each puts into the queues. Handlers run beside the service that emitted the event,
which does not wait for them.
-/
namespace BackendBoilerplate
open Async

namespace DomainEvent

/-- The name under which the services emit it. -/
def name : DomainEvent → String
  | .userCreated .. => "user.created"
  | .userUpdated .. => "user.updated"
  | .userDeleted .. => "user.deleted"
  | .userLogin .. => "user.login"
  | .userLogout .. => "user.logout"

def userId : DomainEvent → String
  | .userCreated userId _ _ | .userUpdated userId _ _ | .userDeleted userId _
  | .userLogin userId _ | .userLogout userId _ => userId

def email : DomainEvent → String
  | .userCreated _ email _ | .userUpdated _ email _ | .userDeleted _ email
  | .userLogin _ email | .userLogout _ email => email

end DomainEvent

inductive Handler where
  | handleUserCreated
  | handlePasswordChanged
  | handleUserDeleted
  | handleUserLogin
  | handleUserLogout
  deriving DecidableEq, Repr

namespace Handler

def all : List Handler :=
  [.handleUserCreated, .handlePasswordChanged, .handleUserDeleted, .handleUserLogin,
    .handleUserLogout]

/-- `@OnEvent`. -/
def onEvent : Handler → String
  | .handleUserCreated => "user.created"
  | .handlePasswordChanged => "user.password-changed"
  | .handleUserDeleted => "user.deleted"
  | .handleUserLogin => "user.login"
  | .handleUserLogout => "user.logout"

def welcome (userId email : String) : EmailJobData :=
  { to_ := email, subject := "Welcome to Our Platform!"
    body := "Hello! Your account has been created successfully. Your user ID is: " ++ userId
    template := some "welcome" }

def passwordChanged (email : String) : EmailJobData :=
  { to_ := email, subject := "Password Changed"
    body := "Your password has been changed successfully. If you did not make this change, " ++
      "please contact support immediately."
    template := some "password-changed" }

def accountDeleted (email : String) : EmailJobData :=
  { to_ := email, subject := "Account Deleted"
    body := "Your account has been deleted. We are sorry to see you go."
    template := some "account-deleted" }

/-- The services give no `ipAddress` with the event. -/
def newLogin (userId : String) (ipAddress : Option String) : NotificationJobData :=
  { userId, type := "security", title := "New Login"
    message := "New login detected from " ++ (ipAddress.filter (· ≠ "")).getD "unknown IP" }

/-- `try { await .. } catch (error) { this.logger.error(..) }`. -/
def logging {α : Type} (p : QueueProg α) : QueueProg Unit :=
  (p.bind fun _ => pure ()).tryCatch fun _ => pure ()

def program (event : DomainEvent) : Handler → QueueProg Unit
  | .handleUserCreated => logging (QueueService.sendEmail (welcome event.userId event.email))
  | .handlePasswordChanged => logging (QueueService.sendEmail (passwordChanged event.email))
  | .handleUserDeleted => logging (QueueService.sendEmail (accountDeleted event.email))
  | .handleUserLogin => logging (QueueService.sendNotification (newLogin event.userId none))
  | .handleUserLogout => pure ()

end Handler

/-- The handlers of an event, in the order of their registration. -/
def DomainEvent.listeners (event : DomainEvent) : List Handler :=
  Handler.all.filter fun h => h.onEvent = event.name

/-- What runs on the queues: a handler of an event, or the processor, which Bull calls on a
job; again, where it retries the job or takes its worker for dead. -/
inductive QueueCall where
  | handler (h : Handler) (event : DomainEvent)
  | worker (job : Job EmailJobData)

def QueueCall.program : QueueCall → QueueProg Unit
  | .handler h event => h.program event
  | .worker job => EmailProcessor.handleSendEmail job

/-- The calls that the emission of an event begins. -/
def DomainEvent.starts (event : DomainEvent) : List QueueCall :=
  event.listeners.map fun h => .handler h event

/-! How far a call has come. -/

/-- A handler has queued something or given up; a processor has delivered a mail and counted
it, or could not and has noted that. -/
inductive QueuePhase where
  | start
  | queued (data : EmailJobData)
  | notified (data : NotificationJobData)
  | gaveUp
  | delivered (data : EmailJobData)
  | counted (data : EmailJobData)
  | refused
  | noted

def QueuePhase.next (l : QueuePhase) : Done queues → QueuePhase
  | ⟨.addEmail data _, _, .ok _⟩ => .queued data
  | ⟨.addNotification data _, _, .ok _⟩ => .notified data
  | ⟨.addEmail .., _, .error _⟩ => .gaveUp
  | ⟨.addNotification .., _, .error _⟩ => .gaveUp
  | ⟨.deliver data, _, .ok _⟩ => .delivered data
  | ⟨.deliver _, _, .error _⟩ => .refused
  | ⟨.incCompleted, _, .ok _⟩ => match l with
      | .delivered data => .counted data
      | l => l
  | ⟨.incCompleted, _, .error _⟩ => .refused
  | ⟨.incFailed, _, _⟩ => .noted

/-- The mail that a handler of the event puts into the queue. -/
def Handler.mail (event : DomainEvent) : Handler → Option EmailJobData
  | .handleUserCreated => some (welcome event.userId event.email)
  | .handlePasswordChanged => some (passwordChanged event.email)
  | .handleUserDeleted => some (accountDeleted event.email)
  | .handleUserLogin | .handleUserLogout => none

def Handler.notification (event : DomainEvent) : Handler → Option NotificationJobData
  | .handleUserLogin => some (newLogin event.userId none)
  | _ => none

def QueueCall.may (call : QueueCall) (l : QueuePhase) : QueueOp → Prop
  | .addEmail data options => l = .start ∧ options = {} ∧
      ∃ h event, call = .handler h event ∧ h.mail event = some data
  | .addNotification data options => l = .start ∧ options = {} ∧
      ∃ h event, call = .handler h event ∧ h.notification event = some data
  | .deliver data => l = .start ∧ ∃ job, call = .worker job ∧ job.data = data
  | .incCompleted => ∃ job, call = .worker job ∧ l = .delivered job.data
  | .incFailed => l = .refused ∧ ∃ job, call = .worker job

@[reducible] def queueProtocol : Protocol queues QueueCall where
  Phase := QueuePhase
  init _ := .start
  next := QueuePhase.next
  may := QueueCall.may

/-- Where a handler ends that could put everything into the queues. -/
def Handler.ends (event : DomainEvent) (h : Handler) : QueuePhase :=
  match h.mail event, h.notification event with
  | some data, _ => .queued data
  | none, some data => .notified data
  | none, none => .start

/-- A handler never rejects: what it could not put into a queue is only logged. The processor
resolves once it has counted its mail, and rejects once it has noted that there is none. -/
def QueueCall.post : QueueCall → QueuePhase → Except JsError Unit → Prop
  | .handler h event, l, r => r = .ok () ∧ (l = .gaveUp ∨ l = h.ends event)
  | .worker job, l, .ok _ => l = .counted job.data
  | .worker _, l, .error _ => l = .noted

theorem follows_mail {h : Handler} {event : DomainEvent} {data : EmailJobData}
    (mail : h.mail event = some data) :
    (Handler.logging (QueueService.sendEmail data)).Follows queueProtocol (.handler h event)
      (QueueCall.handler h event).post .start := by
  refine ⟨⟨rfl, rfl, h, event, rfl, mail⟩, fun ch r => ?_⟩
  cases r with
  | error e => exact ⟨rfl, .inl rfl⟩
  | ok id => exact ⟨rfl, .inr (by rw [Handler.ends, mail]; rfl)⟩

theorem follows_handleSendEmail (job : Job EmailJobData) :
    (EmailProcessor.handleSendEmail job).Follows queueProtocol (.worker job)
      (QueueCall.worker job).post .start := by
  have failing (e : JsError) :
      ((queueAwait .incFailed).bind fun _ => (.fail e : QueueProg Unit)).Follows queueProtocol
        (.worker job) (QueueCall.worker job).post .refused :=
    ⟨⟨rfl, job, rfl⟩, fun ch r => by cases r <;> rfl⟩
  refine ⟨⟨rfl, job, rfl, rfl⟩, fun ch r => ?_⟩
  cases r with
  | error e => exact failing e
  | ok _ =>
      refine ⟨⟨job, rfl, rfl⟩, fun ch r => ?_⟩
      cases r with
      | error e => exact failing e
      | ok _ => rfl

theorem QueueCall.conforms (call : QueueCall) :
    call.program.Follows queueProtocol call call.post (queueProtocol.init call) := by
  cases call with
  | worker job => exact follows_handleSendEmail job
  | handler h event =>
      cases h with
      | handleUserCreated => exact follows_mail rfl
      | handlePasswordChanged => exact follows_mail rfl
      | handleUserDeleted => exact follows_mail rfl
      | handleUserLogin =>
          refine ⟨⟨rfl, rfl, .handleUserLogin, event, rfl, rfl⟩, fun ch r => ?_⟩
          cases r with
          | error e => exact ⟨rfl, .inl rfl⟩
          | ok id => exact ⟨rfl, .inr rfl⟩
      | handleUserLogout => exact ⟨rfl, .inr rfl⟩

end BackendBoilerplate
