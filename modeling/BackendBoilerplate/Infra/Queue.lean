import BackendBoilerplate.Lib.History
import BackendBoilerplate.Shared.Errors

/-!
The Bull queues: `QueueService`, which adds jobs, and `EmailProcessor`, which Bull calls on
them: when, how often, and in which of its lists it keeps a job meanwhile are its own
affair. Nothing processes the notifications.
-/
namespace BackendBoilerplate
open Async

structure EmailJobData where
  to_ : String
  subject : String
  body : String
  template : Option String
  deriving DecidableEq, Repr

structure NotificationJobData where
  userId : String
  type : String
  title : String
  message : String
  deriving DecidableEq, Repr

structure JobOptions where
  delay : Option Nat := none
  priority : Option Nat := none
  deriving DecidableEq, Repr

structure Job (α : Type) where
  id : Nat
  data : α
  deriving DecidableEq, Repr

/-- The lists in which Bull keeps the jobs of a queue that nothing processes. -/
structure JobQueue (α : Type) where
  wait : List (Job α)
  delayed : List (Job α)
  active : List (Job α)
  completed : List (Job α)
  failed : List (Job α)

namespace JobQueue
variable {α : Type}

def empty : JobQueue α := ⟨[], [], [], [], []⟩

/-- `queue.add(data, { delay })`. -/
def add (q : JobQueue α) (id : Nat) (data : α) (options : JobOptions) : JobQueue α :=
  match options.delay.getD 0 with
  | 0 => { q with wait := q.wait ++ [⟨id, data⟩] }
  | _ + 1 => { q with delayed := q.delayed ++ [⟨id, data⟩] }

end JobQueue

/-- `incCompleted` and `incFailed` are the counters of the processor, `deliver` is its
`sendEmail`. -/
inductive QueueOp where
  | addEmail (data : EmailJobData) (options : JobOptions)
  | addNotification (data : NotificationJobData) (options : JobOptions)
  | deliver (data : EmailJobData)
  | incCompleted
  | incFailed

abbrev QueueOp.Res : QueueOp → Type
  | .addEmail .. => Nat
  | .addNotification .. => Nat
  | _ => Unit

abbrev QueueSig : Signature := ⟨QueueOp, QueueOp.Res⟩

abbrev QueueProg (α : Type) := Prog QueueSig JsError α

abbrev queueAwait (op : QueueOp) : QueueProg op.Res := Prog.await (S := QueueSig) op

/-- `email` are the jobs that were added to the mail queue, `sent` the mails that went out. -/
structure QueueState where
  email : List (Job EmailJobData)
  notification : JobQueue NotificationJobData
  completedTotal : Nat
  failedTotal : Nat
  sent : List EmailJobData

def QueueState.empty : QueueState := ⟨[], .empty, 0, 0, []⟩

/-- `id` is the one that Bull gives a job; `fault` makes Redis or the mail server fail. -/
structure QueueChoice where
  id : Nat := 0
  fault : Option JsError := none

def QueueOp.exec (ch : QueueChoice) (s : QueueState) :
    (op : QueueOp) → Except JsError op.Res × QueueState
  | .addEmail data _ => (.ok ch.id, { s with email := s.email ++ [⟨ch.id, data⟩] })
  | .addNotification data options =>
      (.ok ch.id, { s with notification := s.notification.add ch.id data options })
  | .deliver data => (.ok (), { s with sent := s.sent ++ [data] })
  | .incCompleted => (.ok (), { s with completedTotal := s.completedTotal + 1 })
  | .incFailed => (.ok (), { s with failedTotal := s.failedTotal + 1 })

/-- What a handler awaits can fail, and then nothing was added; and so can the sending. -/
def QueueOp.canFail : QueueOp → Bool
  | .addEmail .. | .addNotification .. | .deliver _ => true
  | _ => false

@[reducible] def queues : Machine QueueSig JsError where
  State := QueueState
  Choice := QueueChoice
  exec _ op ch s :=
    match ch.fault, op.canFail with
    | some e, true => (.error e, s)
    | _, _ => op.exec ch s

namespace QueueService

/-- What goes wrong is logged and thrown again. -/
def sendEmail (data : EmailJobData) (options : JobOptions := {}) : QueueProg Nat :=
  (queueAwait (.addEmail data options)).tryCatch fun e => throw e

def sendNotification (data : NotificationJobData) (options : JobOptions := {}) : QueueProg Nat :=
  (queueAwait (.addNotification data options)).tryCatch fun e => throw e

end QueueService

namespace EmailProcessor

def handleSendEmail (job : Job EmailJobData) : QueueProg Unit :=
  (do
    queueAwait (.deliver job.data)
    queueAwait .incCompleted).tryCatch fun e => do
      queueAwait .incFailed
      throw e

end EmailProcessor

end BackendBoilerplate
