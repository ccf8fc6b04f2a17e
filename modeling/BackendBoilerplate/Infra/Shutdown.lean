import BackendBoilerplate.Lib.Pool
import BackendBoilerplate.Shared.Errors

/-!
`ShutdownService` and the destroy hook of `QueueService`, which Nest runs on the
same signal. Both await steps of one server process, beside its Bull workers and
the timer that forces an exit. Once the process has exited no step has an effect.
-/
namespace BackendBoilerplate
open Async

inductive QueueName where
  | email
  | notification
  deriving DecidableEq, Repr

/-- `testShuttingDown` reads the flag and sets it. `close` begins to close a
queue and `closed` is its promise. A worker takes a job, and ends it later. -/
inductive ServerOp where
  | testShuttingDown
  | setTimeout (ms : Nat)
  | clearTimeout
  | closeWebSockets (timeoutMs : Nat)
  | stopScheduledTasks
  | disconnectCache
  | exit (code : Nat)
  | getActiveCount (queue : QueueName)
  | close (queue : QueueName)
  | closed (queue : QueueName)
  | takeJob (queue : QueueName)
  | finishJob (queue : QueueName)
  | fireTimeout
  deriving DecidableEq, Repr

abbrev ServerOp.Res : ServerOp → Type
  | .testShuttingDown => Bool
  | .getActiveCount _ => Nat
  | .takeJob _ => Bool
  | _ => Unit

abbrev ServerSig : Signature := ⟨ServerOp, ServerOp.Res⟩

abbrev ServerProg (α : Type) := Prog ServerSig JsError α

abbrev serverAwait (op : ServerOp) : ServerProg op.Res := Prog.await (S := ServerSig) op

structure ServerState where
  isShuttingDown : Bool
  timeout : Bool
  active : QueueName → Nat
  closing : QueueName → Bool
  exitCode : Option Nat

def ServerState.running : ServerState := ⟨false, false, fun _ => 0, fun _ => false, none⟩

def ServerState.exit (s : ServerState) (code : Nat) : ServerState := { s with exitCode := some code }

/-- `fault` makes a call into Redis, Bull or the gateway fail. -/
structure ServerChoice where
  fault : Option JsError := none

/-- A step of a process that has not exited. -/
def ServerOp.exec (s : ServerState) : (op : ServerOp) → Except JsError op.Res × ServerState
  | .testShuttingDown => (.ok s.isShuttingDown, { s with isShuttingDown := true })
  | .setTimeout _ => (.ok (), { s with timeout := true })
  | .clearTimeout => (.ok (), { s with timeout := false })
  | .closeWebSockets _ => (.ok (), s)
  | .stopScheduledTasks => (.ok (), s)
  | .disconnectCache => (.ok (), s)
  | .exit code => (.ok (), s.exit code)
  | .getActiveCount queue => (.ok (s.active queue), s)
  | .close queue => (.ok (), { s with closing := Function.update s.closing queue true })
  | .closed _ => (.ok (), s)
  | .takeJob queue =>
      if s.closing queue then (.ok false, s)
      else (.ok true, { s with active := Function.update s.active queue (s.active queue + 1) })
  | .finishJob queue =>
      (.ok (), { s with active := Function.update s.active queue (s.active queue - 1) })
  | .fireTimeout => (.ok (), if s.timeout then s.exit 1 else s)

/-- The steps that call out of the process. -/
def ServerOp.canFail : ServerOp → Bool
  | .closeWebSockets _ | .stopScheduledTasks | .disconnectCache | .getActiveCount _ | .close _
  | .closed _ => true
  | _ => false

def exited : JsError := .error "process exited"

@[reducible] def server : Machine ServerSig JsError where
  State := ServerState
  Choice := ServerChoice
  exec _ op ch s :=
    if s.exitCode.isSome then (.error exited, s)
    else
      match ch.fault, op.canFail with
      | some e, true => (.error e, s)
      | _, _ => op.exec s

/-- How the service is configured, and which collaborators were injected. -/
structure ShutdownConfig where
  shutdownTimeout : Nat := 30000
  websocketCloseTimeout : Nat := 5000
  websocketGateway : Bool := true
  schedulerRegistry : Bool := true
  cacheManager : Bool := true
  deriving DecidableEq, Repr

/-- `try { await .. } catch (error) { this.logger.warn(..) }`. -/
def warning (p : ServerProg Unit) : ServerProg Unit := p.tryCatch fun _ => pure ()

namespace ShutdownService
variable (config : ShutdownConfig)

/-- The gateway races against its own timeout. -/
def closeWebSockets : ServerProg Unit :=
  if config.websocketGateway then
    warning (serverAwait (.closeWebSockets config.websocketCloseTimeout))
  else pure ()

def stopScheduledTasks : ServerProg Unit :=
  if config.schedulerRegistry then warning (serverAwait .stopScheduledTasks) else pure ()

/-- It only logs that the hook of `QueueService` will drain the queues. -/
def drainQueues : ServerProg Unit := pure ()

def closeCacheConnections : ServerProg Unit :=
  if config.cacheManager then warning (serverAwait .disconnectCache) else pure ()

def executeShutdownSequence : ServerProg Unit := do
  closeWebSockets config
  stopScheduledTasks config
  drainQueues
  closeCacheConnections config

def shutdown : ServerProg Unit := do
  let isShuttingDown ← serverAwait .testShuttingDown
  if isShuttingDown then pure ()
  else
    (do
      serverAwait (.setTimeout config.shutdownTimeout)
      executeShutdownSequence config
      serverAwait .clearTimeout
      serverAwait (.exit 0)).tryCatch fun _ => serverAwait (.exit 1)

end ShutdownService

def QueueService.closeQueue (queue : QueueName) : ServerProg Unit :=
  (do
    let _ ← serverAwait (.getActiveCount queue)
    serverAwait (.close queue)
    serverAwait (.closed queue)).tryCatch fun _ => pure ()

/-- A Bull worker that picks up a job and works on it. -/
def queueWorker (queue : QueueName) : ServerProg Unit := do
  let taken ← serverAwait (.takeJob queue)
  if taken then serverAwait (.finishJob queue) else pure ()

/-- What runs in the process: a signal handler, a queue that the hook closes, a
worker, the callback of `setTimeout`. -/
inductive ServerCall where
  | shutdown (signal : String)
  | closeQueue (queue : QueueName)
  | worker (queue : QueueName)
  | timer
  deriving DecidableEq, Repr

/-- The calls that `onModuleDestroy` begins together and awaits. -/
def QueueService.onModuleDestroy : List ServerCall :=
  [.closeQueue .email, .closeQueue .notification]

def ServerCall.program (config : ShutdownConfig) : ServerCall → ServerProg Unit
  | .shutdown _ => ShutdownService.shutdown config
  | .closeQueue queue => QueueService.closeQueue queue
  | .worker queue => queueWorker queue
  | .timer => serverAwait .fireTimeout

end BackendBoilerplate
