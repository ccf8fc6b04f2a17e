import BackendBoilerplate.Infra.Shutdown

/-!
When the server exits with its queues drained. `ShutdownService` never waits for
the hook that closes the queues: it exits as soon as its own last wait is over.
Where that wait outlasts the hook, no job is cut off by a clean exit.
-/
namespace BackendBoilerplate
open Async

abbrev ServerPool := Pool server ServerCall Unit

abbrev ServerEvent := Event server ServerCall

/-- How far a call has come: a shutdown, before and after the last step that it
waits for, or a queue that is being closed. -/
inductive ServerPhase where
  | start
  | ignored
  | shutting (waited : Bool)
  | counted
  | closing
  | closed
  | failed
  deriving DecidableEq

/-- The last step outside the process that a shutdown waits for before it exits. -/
def ShutdownConfig.lastWait (config : ShutdownConfig) : ServerOp :=
  if config.cacheManager then .disconnectCache
  else if config.websocketGateway then .closeWebSockets config.websocketCloseTimeout
  else .setTimeout config.shutdownTimeout

def ServerPhase.next (config : ShutdownConfig) (l : ServerPhase) : Done server → ServerPhase
  | ⟨.testShuttingDown, _, .ok already⟩ => if already then .ignored else .shutting false
  | ⟨.getActiveCount _, _, .ok _⟩ => .counted
  | ⟨.close _, _, .ok _⟩ => .closing
  | ⟨.closed _, _, .ok _⟩ => .closed
  | ⟨.getActiveCount _, _, .error _⟩ => .failed
  | ⟨.close _, _, .error _⟩ => .failed
  | ⟨.closed _, _, .error _⟩ => .failed
  | ⟨op, _, _⟩ => match l with
      | .shutting waited => .shutting (waited || op = config.lastWait)
      | l => l

def ServerCall.may (call : ServerCall) (l : ServerPhase) : ServerOp → Prop
  | .testShuttingDown => l = .start ∧ ∃ signal, call = .shutdown signal
  | .exit code => (∃ signal, call = .shutdown signal) ∧ (code = 0 → l = .shutting true)
  | .setTimeout _ | .clearTimeout | .closeWebSockets _ | .stopScheduledTasks
  | .disconnectCache => (∃ waited, l = .shutting waited) ∧ ∃ signal, call = .shutdown signal
  | .getActiveCount queue => l = .start ∧ call = .closeQueue queue
  | .close queue => l = .counted ∧ call = .closeQueue queue
  | .closed queue => l = .closing ∧ call = .closeQueue queue
  | .takeJob queue => l = .start ∧ call = .worker queue
  | .finishJob queue => l = .start ∧ call = .worker queue
  | .fireTimeout => l = .start ∧ call = .timer

@[reducible] def serverProtocol (config : ShutdownConfig) : Protocol server ServerCall where
  Phase := ServerPhase
  init _ := .start
  next := ServerPhase.next config
  may := ServerCall.may

/-- A queue that has been dealt with was closed, unless a step of that failed. -/
def ServerCall.post (call : ServerCall) (l : ServerPhase) (_ : Except JsError Unit) : Prop :=
  ∀ queue, call = .closeQueue queue → l = .closed ∨ l = .failed

section
variable {config : ShutdownConfig}

theorem follows_closeQueue (queue : QueueName) :
    (QueueService.closeQueue queue).Follows (serverProtocol config) (.closeQueue queue)
      (ServerCall.closeQueue queue).post .start := by
  refine ⟨⟨rfl, rfl⟩, fun ch r => ?_⟩
  cases r with
  | error e => exact fun _ _ => .inr rfl
  | ok count =>
      refine ⟨⟨rfl, rfl⟩, fun ch r => ?_⟩
      cases r with
      | error e => exact fun _ _ => .inr rfl
      | ok _ =>
          refine ⟨⟨rfl, rfl⟩, fun ch r => ?_⟩
          cases r with
          | error e => exact fun _ _ => .inr rfl
          | ok _ => exact fun _ _ => .inl rfl

/-- The steps of the sequence: each is done once its call has been answered. -/
def ServerOp.inSequence : ServerOp → Bool
  | .setTimeout _ | .clearTimeout | .closeWebSockets _ | .stopScheduledTasks
  | .disconnectCache => true
  | _ => false

variable {signal : String} {op : ServerOp} {waited : Bool}
  {post : ServerPhase → Except JsError Unit → Prop}

theorem follows_inSequence (hop : op.inSequence)
    {next : Except JsError op.Res → ServerProg Unit}
    (h : ∀ r, (next r).Follows (serverProtocol config) (.shutdown signal) post
      (.shutting (waited || op = config.lastWait))) :
    (Prog.step (S := ServerSig) op next).Follows (serverProtocol config) (.shutdown signal) post
      (.shutting waited) := by
  cases op with
  | setTimeout _ | clearTimeout | closeWebSockets _ | stopScheduledTasks | disconnectCache =>
      exact ⟨⟨⟨waited, rfl⟩, signal, rfl⟩, fun _ r => h r⟩
  | _ => cases hop

/-- A step that is left out, or whose failure is only logged. -/
theorem follows_optional (op : ServerOp) (enabled : Bool) (hop : op.inSequence)
    {next : Except JsError op.Res → ServerProg Unit}
    (ends : ∀ r, next r = .ret () ∨ ∃ e, next r = .fail e) {f : Unit → ServerProg Unit}
    (h : (f ()).Follows (serverProtocol config) (.shutdown signal) post
      (.shutting (waited || (enabled && op = config.lastWait)))) :
    ((if enabled then warning (.step (S := ServerSig) op next) else pure ()).bind f).Follows
      (serverProtocol config) (.shutdown signal) post (.shutting waited) := by
  cases enabled with
  | false => simpa using h
  | true =>
      have h' : (f ()).Follows (serverProtocol config) (.shutdown signal) post
          (.shutting (waited || op = config.lastWait)) := by simpa using h
      refine follows_inSequence hop fun r => ?_
      dsimp only
      rcases ends r with hret | ⟨e, hfail⟩
      · rw [hret]
        exact h'
      · rw [hfail]
        exact h'

theorem ofExcept_ends (r : Except JsError Unit) :
    (Prog.ofExcept r : ServerProg Unit) = .ret () ∨
      ∃ e, (Prog.ofExcept r : ServerProg Unit) = .fail e := by
  cases r with
  | ok _ => exact .inl rfl
  | error e => exact .inr ⟨e, rfl⟩

theorem post_shutdown (l : ServerPhase) (r : Except JsError Unit) :
    (ServerCall.shutdown signal).post l r := by
  intro queue h
  cases h

/-- The sequence of a shutdown exits with 0 only after the last step that it waits for. -/
theorem follows_sequence :
    Prog.Follows (serverProtocol config) (.shutdown signal)
      (fun l (_ : Except JsError Unit) => ∃ waited, l = .shutting waited) (do
        serverAwait (.setTimeout config.shutdownTimeout)
        ShutdownService.executeShutdownSequence config
        serverAwait .clearTimeout
        serverAwait (.exit 0)) (.shutting false) := by
  refine follows_inSequence rfl fun r => ?_
  cases r with
  | error e => exact ⟨_, rfl⟩
  | ok _ =>
      simp only [ShutdownService.executeShutdownSequence, ShutdownService.closeWebSockets,
        ShutdownService.stopScheduledTasks, ShutdownService.drainQueues,
        ShutdownService.closeCacheConnections, Prog.bind_def, Prog.bind_assoc,
        Prog.ofExcept, Prog.ret_bind, Prog.pure_def, serverAwait, Prog.await]
      refine follows_optional (.closeWebSockets config.websocketCloseTimeout)
        config.websocketGateway rfl ofExcept_ends ?_
      refine follows_optional .stopScheduledTasks config.schedulerRegistry rfl ofExcept_ends ?_
      refine follows_optional .disconnectCache config.cacheManager rfl ofExcept_ends ?_
      refine follows_inSequence rfl fun r => ?_
      cases r with
      | error e => exact ⟨_, rfl⟩
      | ok _ =>
          refine ⟨⟨⟨signal, rfl⟩, fun _ => congrArg _ ?_⟩, fun ch r => ?_⟩
          · obtain ⟨timeout, closeTimeout, gateway, registry, cache⟩ := config
            cases cache <;> cases gateway <;> simp [ShutdownConfig.lastWait]
          · cases r <;> exact ⟨_, rfl⟩

/-- A shutdown that another one has come before returns; one that fails exits with 1. -/
theorem follows_shutdown :
    (ShutdownService.shutdown config).Follows (serverProtocol config) (.shutdown signal)
      (ServerCall.shutdown signal).post .start := by
  refine ⟨⟨rfl, signal, rfl⟩, fun ch r => ?_⟩
  cases r with
  | error e => exact post_shutdown _ _
  | ok already =>
      change Prog.Follows (serverProtocol config) _ _ (if already then _ else _)
        (if already then _ else _)
      split
      · exact post_shutdown _ _
      · refine Prog.follows_tryCatch follows_sequence (fun _ _ _ => post_shutdown _ _) ?_
        rintro l e ⟨waited, rfl⟩
        refine ⟨⟨⟨signal, rfl⟩, fun h => absurd h Nat.one_ne_zero⟩, fun ch r => ?_⟩
        cases r <;> exact post_shutdown _ _

theorem ServerCall.conforms (config : ShutdownConfig) (call : ServerCall) :
    (call.program config).Follows (serverProtocol config) call call.post
      ((serverProtocol config).init call) := by
  cases call with
  | shutdown signal => exact follows_shutdown
  | closeQueue queue => exact follows_closeQueue queue
  | worker queue =>
      refine ⟨⟨rfl, rfl⟩, fun ch r => ?_⟩
      cases r with
      | error e => exact nofun
      | ok taken =>
          cases taken with
          | false => exact nofun
          | true => exact ⟨⟨rfl, rfl⟩, fun ch r => by cases r <;> exact nofun⟩
  | timer => exact ⟨⟨rfl, rfl⟩, fun ch r => by cases r <;> exact nofun⟩

end

namespace ServerPool

/-- The destroy hook of `QueueService` has settled both of its calls. -/
def HookDone (p : ServerPool) : Prop :=
  ∀ call ∈ QueueService.onModuleDestroy,
    ∃ th ∈ p.threads, th.call = call ∧ th.prog.outcome.isSome

instance (p : ServerPool) : Decidable p.HookDone :=
  inferInstanceAs (Decidable (∀ call ∈ QueueService.onModuleDestroy, _))

/-- The queue that call number `tid` waits for to be closed. -/
def nextClosed (p : ServerPool) (tid : Nat) : Option QueueName :=
  match p.nextOp tid with
  | some (.closed queue) => some queue
  | _ => none

end ServerPool

def ServerOp.ofQueue : ServerOp → Bool
  | .getActiveCount _ | .close _ | .closed _ => true
  | _ => false

/-- `queue.close()` resolves only once the active jobs of the queue have finished. -/
def CloseWaits (p : ServerPool) : ServerEvent → Prop
  | .start _ => True
  | .advance tid _ => ∀ queue ∈ p.nextClosed tid, p.state.active queue = 0

/-- No call to a queue fails. -/
def QueuesAnswer (p : ServerPool) : ServerEvent → Prop
  | .start _ => True
  | .advance tid ch => (p.nextOp tid).any ServerOp.ofQueue → ch.fault = none

/-- The last step that a shutdown waits for is over only after the destroy hook. -/
def OutlastsHook (config : ShutdownConfig) (p : ServerPool) : ServerEvent → Prop
  | .start _ => True
  | .advance tid _ =>
      p.state.exitCode = none → p.nextOp tid = some config.lastWait → p.HookDone

/-- A clean exit comes after the destroy hook, and cuts off no job. -/
def ExitsDrained (p : ServerPool) : ServerEvent → Prop
  | .start _ => True
  | .advance tid _ =>
      p.state.exitCode = none → p.nextOp tid = some (.exit 0) →
        p.HookDone ∧ p.state.active .email = 0 ∧ p.state.active .notification = 0

section
variable (config : ShutdownConfig) (p : ServerPool)

instance : DecidablePred (CloseWaits p)
  | .start _ => .isTrue trivial
  | .advance tid _ =>
      inferInstanceAs (Decidable (∀ queue ∈ p.nextClosed tid, p.state.active queue = 0))

instance : DecidablePred (QueuesAnswer p)
  | .start _ => .isTrue trivial
  | .advance tid ch =>
      inferInstanceAs (Decidable ((p.nextOp tid).any ServerOp.ofQueue → ch.fault = none))

instance : DecidablePred (OutlastsHook config p)
  | .start _ => .isTrue trivial
  | .advance tid _ => inferInstanceAs (Decidable
      (p.state.exitCode = none → p.nextOp tid = some config.lastWait → p.HookDone))

instance : DecidablePred (ExitsDrained p)
  | .start _ => .isTrue trivial
  | .advance tid _ => inferInstanceAs (Decidable
      (p.state.exitCode = none → p.nextOp tid = some (ServerOp.exit 0) →
        p.HookDone ∧ p.state.active .email = 0 ∧ p.state.active .notification = 0))

end

/-- A queue that is being closed, and one that has been. -/
def ClosingQueue (queue : QueueName) (call : ServerCall) (l : ServerPhase) : Prop :=
  call = .closeQueue queue ∧ l = .closing

def ClosedQueue (queue : QueueName) (call : ServerCall) (l : ServerPhase) : Prop :=
  call = .closeQueue queue ∧ l = .closed

/-- While the process runs: a queue takes no jobs from the moment it is closed, has
none left once it is closed, and a shutdown that has waited has outlasted the hook. -/
structure ServerInv (config : ShutdownConfig) (p : ServerPool) : Prop where
  closing : ∀ queue i, At (p.view (serverProtocol config)) (ClosingQueue queue) i →
    p.state.closing queue
  drained : ∀ queue i, At (p.view (serverProtocol config)) (ClosedQueue queue) i →
    p.state.closing queue ∧ p.state.active queue = 0
  unfailed : ∀ i, ¬ At (p.view (serverProtocol config)) (fun _ l => l = .failed) i
  waited : ∀ i, At (p.view (serverProtocol config)) (fun _ l => l = .shutting true) i → p.HookDone

theorem hookDone_step (config : ShutdownConfig) {p : ServerPool} (h : p.HookDone)
    (e : ServerEvent) : ServerPool.HookDone (p.step (ServerCall.program config) e) := by
  intro call hcall
  obtain ⟨th, hmem, hth, hout⟩ := h call hcall
  refine ⟨th, Pool.mem_step_of_ended _ hmem ?_ e, hth, hout⟩
  cases hprog : th.prog with
  | step op next => rw [hprog] at hout; cases hout
  | _ => rfl

section
variable {config : ShutdownConfig} {p : ServerPool} {tid : Nat} {ch : ServerChoice}
  {th : Thread server ServerCall Unit} {op : ServerOp}
  {next : Except JsError op.Res → ServerProg Unit}

theorem hookDone_fired (h : p.HookDone) (hth : p.threads[tid]? = some th)
    (hprog : th.prog = .step op next) : ServerPool.HookDone (p.fired tid ch th op next) := by
  have hstep : p.step (ServerCall.program {}) (.advance tid ch) = p.fired tid ch th op next := by
    simp only [Pool.step, hth, hprog]
  rw [← hstep]
  exact hookDone_step {} h _

/-- A queue that takes no more jobs goes on so, and stays drained once it is. -/
theorem ServerOp.exec_keeps (s : ServerState) (op : ServerOp) {queue : QueueName}
    (hclosing : s.closing queue) :
    (op.exec s).2.closing queue ∧ (s.active queue = 0 → (op.exec s).2.active queue = 0) := by
  cases op with
  | close q =>
      refine ⟨?_, id⟩
      change Function.update s.closing q true queue = true
      rw [Function.update_apply]
      split
      · rfl
      · exact hclosing
  | takeJob q =>
      rw [ServerOp.exec]
      split
      · exact ⟨hclosing, id⟩
      · next hopen =>
          -- a queue that takes a job is not being closed
          have hne : queue ≠ q := by
            rintro rfl
            exact hopen hclosing
          exact ⟨hclosing, fun hactive => (Function.update_of_ne hne _ _).trans hactive⟩
  | finishJob q =>
      refine ⟨hclosing, fun hactive => ?_⟩
      change Function.update s.active q (s.active q - 1) queue = 0
      rw [Function.update_apply]
      split
      · next hq => rw [← hq, hactive]
      · exact hactive
  | fireTimeout =>
      rw [ServerOp.exec]
      cases s.timeout <;> exact ⟨hclosing, id⟩
  | _ => exact ⟨hclosing, id⟩

theorem server_keeps (tid : Nat) (op : ServerOp) (ch : ServerChoice) (s : ServerState)
    {queue : QueueName} (hclosing : s.closing queue) :
    (server.exec tid op ch s).2.closing queue ∧
      (s.active queue = 0 → (server.exec tid op ch s).2.active queue = 0) := by
  simp only [server]
  split
  · exact ⟨hclosing, id⟩
  · split
    · exact ⟨hclosing, id⟩
    · exact op.exec_keeps s hclosing

/-- What a step has to show for the call that takes it. -/
theorem ServerInv.fired (h : ServerInv config p) (hth : p.threads[tid]? = some th)
    (hprog : th.prog = .step op next) (l' : ServerPhase)
    (phase : (serverProtocol config).next (th.phase (serverProtocol config))
      ⟨op, ch, (server.exec tid op ch p.state).1⟩ = l')
    (closing : ∀ queue, ClosingQueue queue th.call l' →
      (server.exec tid op ch p.state).2.closing queue)
    (closed : ∀ queue, ClosedQueue queue th.call l' →
      (server.exec tid op ch p.state).2.closing queue ∧
        (server.exec tid op ch p.state).2.active queue = 0)
    (unfailed : l' ≠ .failed) (waited : l' = .shutting true → p.HookDone) :
    ServerInv config (p.fired tid ch th op next) := by
  have hview : (p.fired tid ch th op next).view (serverProtocol config) =
      Function.update (p.view (serverProtocol config)) tid (some (th.call, l')) := by
    rw [Pool.view_fired p hth, phase]
  constructor
  · intro queue i hi
    rw [hview, at_update] at hi
    split at hi
    · exact closing queue hi
    · exact (server_keeps tid op ch p.state (h.closing queue i hi)).1
  · intro queue i hi
    rw [hview, at_update] at hi
    split at hi
    · exact closed queue hi
    · obtain ⟨hclosing, hactive⟩ := h.drained queue i hi
      have kept := server_keeps tid op ch p.state hclosing
      exact ⟨kept.1, kept.2 hactive⟩
  · intro i hi
    rw [hview, at_update] at hi
    split at hi
    · exact unfailed hi
    · exact h.unfailed i hi
  · intro i hi
    rw [hview, at_update] at hi
    refine hookDone_fired ?_ hth hprog
    split at hi
    · exact waited hi
    · exact h.waited i hi

/-- What a step of the running process does unless its call fails. -/
theorem server_exec {s : ServerState} (running : s.exitCode = none)
    (answered : ch.fault = none ∨ op.canFail = false) : server.exec tid op ch s = op.exec s := by
  simp only [server, running, Option.isSome_none, Bool.false_eq_true, if_false]
  split
  · next hfault hcan =>
      rcases answered with hnone | hfalse
      · rw [hnone] at hfault; cases hfault
      · rw [hfalse] at hcan; cases hcan
  · rfl

/-- A step of the sequence, answered or not: it is the last one only after the hook. -/
theorem serverInv_inSequence (h : ServerInv config p) (running : p.state.exitCode = none)
    (outlasts : OutlastsHook config p (.advance tid ch)) (hth : p.threads[tid]? = some th)
    (hprog : th.prog = .step op next)
    (may : th.call.may (th.phase (serverProtocol config)) op) (hseq : op.inSequence) :
    ServerInv config (p.fired tid ch th op next) := by
  obtain ⟨waited, hl⟩ : ∃ waited, th.phase (serverProtocol config) = .shutting waited := by
    cases op <;> first | exact may.1 | cases hseq
  have phase : (serverProtocol config).next (th.phase (serverProtocol config))
      ⟨op, ch, (server.exec tid op ch p.state).1⟩ =
        .shutting (waited || op = config.lastWait) := by
    rw [hl]
    cases op <;> first | rfl | cases hseq
  refine h.fired hth hprog _ phase nofun nofun nofun fun hwaited => ?_
  rcases Bool.or_eq_true _ _ ▸ ServerPhase.shutting.inj hwaited with rfl | hlast
  · exact h.waited tid ⟨_, _, Pool.view_of_thread hth, hl⟩
  · exact outlasts running
      ((Pool.nextOp_of_thread hth hprog).trans (congrArg some (of_decide_eq_true hlast)))

theorem serverInv_advance (h : ServerInv config p) (running : p.state.exitCode = none)
    (waits : CloseWaits p (.advance tid ch)) (answers : QueuesAnswer p (.advance tid ch))
    (outlasts : OutlastsHook config p (.advance tid ch)) (hth : p.threads[tid]? = some th)
    (hprog : th.prog = .step op next)
    (may : th.call.may (th.phase (serverProtocol config)) op) :
    (server.exec tid op ch p.state).2.exitCode.isSome ∨
      ServerInv config (p.fired tid ch th op next) := by
  have hop := Pool.nextOp_of_thread hth hprog
  have answered (hqueue : op.ofQueue) : ch.fault = none :=
    answers (by rw [hop]; exact hqueue)
  cases op with
  | testShuttingDown =>
      right
      have phase : (serverProtocol config).next (th.phase (serverProtocol config))
          ⟨.testShuttingDown, ch, (server.exec tid .testShuttingDown ch p.state).1⟩ =
            if p.state.isShuttingDown then .ignored else .shutting false := by
        rw [server_exec running (.inr rfl)]
        rfl
      refine h.fired hth hprog _ phase ?_ ?_ ?_ ?_
      all_goals cases p.state.isShuttingDown <;> exact nofun
  | exit code =>
      left
      rw [server_exec running (.inr rfl)]
      rfl
  | getActiveCount queue =>
      right
      refine h.fired hth hprog .counted ?_ nofun nofun nofun nofun
      rw [server_exec running (.inl (answered rfl))]
      rfl
  | close queue =>
      right
      have hexec : server.exec tid (.close queue) ch p.state = _ :=
        server_exec running (.inl (answered rfl))
      refine h.fired hth hprog .closing (by rw [hexec]; rfl) ?_ nofun nofun nofun
      rintro q ⟨hq, -⟩
      obtain rfl := ServerCall.closeQueue.inj (may.2.symm.trans hq)
      rw [hexec]
      exact Function.update_self queue true p.state.closing
  | closed queue =>
      obtain ⟨hl, hcall⟩ := may
      right
      have hexec : server.exec tid (.closed queue) ch p.state = _ :=
        server_exec running (.inl (answered rfl))
      refine h.fired hth hprog .closed (by rw [hexec]; rfl) nofun ?_ nofun nofun
      rintro q ⟨hq, -⟩
      obtain rfl := ServerCall.closeQueue.inj (hcall.symm.trans hq)
      rw [hexec]
      exact ⟨h.closing queue tid ⟨_, _, Pool.view_of_thread hth, hcall, hl⟩,
        waits queue (by simp [ServerPool.nextClosed, hop])⟩
  | takeJob queue | finishJob queue =>
      right
      refine h.fired hth hprog .start ?_ nofun nofun nofun nofun
      rw [may.1]
      rfl
  | fireTimeout =>
      cases htimeout : p.state.timeout with
      | true =>
          left
          rw [server_exec running (.inr rfl), ServerOp.exec, htimeout]
          rfl
      | false =>
          right
          refine h.fired hth hprog .start ?_ nofun nofun nofun nofun
          rw [may.1]
          rfl
  | _ => exact .inr (serverInv_inSequence h running outlasts hth hprog may rfl)

/-- The invariant of the running process, and that it stays exited once it has. -/
def ServerSafe (config : ShutdownConfig) (p : ServerPool) : Prop :=
  p.Follows (P := serverProtocol config) ServerCall.post ∧
    (p.state.exitCode.isSome ∨ ServerInv config p)

def DrainsFirst (config : ShutdownConfig) (p : ServerPool) (e : ServerEvent) : Prop :=
  CloseWaits p e ∧ QueuesAnswer p e ∧ OutlastsHook config p e

theorem ServerInv.start (h : ServerInv config p) (call : ServerCall) :
    ServerInv config (p.began (ServerCall.program config) call) := by
  have begun {Q : ServerCall → ServerPhase → Prop} {i : Nat} (hq : ¬ Q call .start)
      (hi : At ((p.began (ServerCall.program config) call).view (serverProtocol config)) Q i) :
      At (p.view (serverProtocol config)) Q i := by
    rw [Pool.view_start, at_update] at hi
    split at hi
    · exact absurd hi hq
    · exact hi
  constructor
  · exact fun queue i hi => h.closing queue i (begun (fun hq => nomatch hq.2) hi)
  · exact fun queue i hi => h.drained queue i (begun (fun hq => nomatch hq.2) hi)
  · exact fun i hi => h.unfailed i (begun nofun hi)
  · intro i hi
    exact hookDone_step config (h.waited i (begun nofun hi)) (.start call)

theorem serverSafe_step {e : ServerEvent} (h : ServerSafe config p) (ok : DrainsFirst config p e) :
    ServerSafe config (p.step (ServerCall.program config) e) := by
  obtain ⟨follows, safe⟩ := h
  refine ⟨Pool.follows_step (ServerCall.conforms config) follows e, ?_⟩
  rcases Pool.step_cases (ServerCall.program config) p e with ⟨call, rfl, heq⟩ |
    ⟨tid, ch, rfl, -, heq⟩ | ⟨tid, ch, th, op, next, rfl, hth, hprog, heq⟩
  · rw [heq]
    exact safe.imp id fun h => h.start call
  · rw [heq]
    exact safe
  · rw [heq]
    cases hexit : p.state.exitCode with
    | some code =>
        left
        change (server.exec tid op ch p.state).2.exitCode.isSome
        simp only [server, hexit, Option.isSome_some, if_true]
    | none =>
        have h : ServerInv config p := safe.resolve_left (by simp [hexit])
        exact serverInv_advance h hexit ok.1 ok.2.1 ok.2.2 hth hprog (follows.may hth hprog)

/-- A hook that is done has closed each of its queues, and left no job in it. -/
theorem drained_of_hookDone (follows : p.Follows (P := serverProtocol config) ServerCall.post)
    (h : ServerInv config p) (done : p.HookDone) {queue : QueueName}
    (hqueue : .closeQueue queue ∈ QueueService.onModuleDestroy) : p.state.active queue = 0 := by
  obtain ⟨th, hmem, hcall, hout⟩ := done _ hqueue
  obtain ⟨i, hth⟩ := List.mem_iff_getElem?.mp hmem
  obtain ⟨r, hr⟩ := Option.isSome_iff_exists.mp hout
  have hview := Pool.view_of_thread (P := serverProtocol config) hth
  have hpost := Pool.post_of_outcome follows hview
    ((Pool.outcome_of_thread hth).trans hr)
  rcases hpost queue hcall with hclosed | hfailed
  · exact (h.drained queue i ⟨_, _, hview, hcall, hclosed⟩).2
  · exact absurd ⟨_, _, hview, hfailed⟩ (h.unfailed i)

theorem exitsDrained_of_safe {e : ServerEvent} (h : ServerSafe config p) : ExitsDrained p e := by
  cases e with
  | start call => trivial
  | advance tid ch =>
      intro running hop
      obtain ⟨follows, safe⟩ := h
      have inv : ServerInv config p := safe.resolve_left (by simp [running])
      obtain ⟨call, l, -, hview, -, hl⟩ := Pool.may_of_nextOp follows hop
      have done : p.HookDone := inv.waited tid ⟨call, l, hview, hl rfl⟩
      exact ⟨done, drained_of_hookDone follows inv done (by decide),
        drained_of_hookDone follows inv done (by decide)⟩

end

def ServerPool.initial : ServerPool := ⟨.running, []⟩

/-- In every run in which no call to a queue fails and the last step that a shutdown
waits for is over only after the destroy hook, a clean exit comes after the hook has
closed both queues, when no job is active. -/
theorem clean_exit_drained (config : ShutdownConfig) (es : List ServerEvent)
    (waits : Runs.Along (Pool.step (ServerCall.program config)) CloseWaits ServerPool.initial es)
    (answers : Runs.Along (Pool.step (ServerCall.program config)) QueuesAnswer ServerPool.initial es)
    (outlasts : Runs.Along (Pool.step (ServerCall.program config)) (OutlastsHook config)
      ServerPool.initial es) :
    Runs.Along (Pool.step (ServerCall.program config)) ExitsDrained ServerPool.initial es := by
  have initial : ServerSafe config ServerPool.initial := by
    refine ⟨List.forall_mem_nil _, .inr ⟨?_, ?_, ?_, ?_⟩⟩
    · rintro queue i ⟨call, l, hview, -⟩; cases hview
    · rintro queue i ⟨call, l, hview, -⟩; cases hview
    · rintro i ⟨call, l, hview, -⟩; cases hview
    · rintro i ⟨call, l, hview, -⟩; cases hview
  exact (waits.and (answers.and outlasts)).mono initial
    (fun p e h ok => serverSafe_step h ok) fun p e h _ => exitsDrained_of_safe h

/-! A signal that arrives while an email is being sent. -/

def serverSteps (tid n : Nat) : List ServerEvent := List.replicate n (.advance tid {})

def emailThenSignal : List ServerEvent :=
  [.start (.worker .email)] ++ serverSteps 0 1 ++
    [.start (.shutdown "SIGTERM"), .start (.closeQueue .email),
      .start (.closeQueue .notification)]

/-- The cache disconnects only after the hook: the email is sent first. -/
def hookFirst : List ServerEvent :=
  emailThenSignal ++ serverSteps 1 4 ++ serverSteps 2 2 ++ serverSteps 3 3 ++ serverSteps 0 1 ++
    serverSteps 2 1 ++ serverSteps 1 3

/-- The shutdown goes through its sequence while the hook waits for the email. -/
def exitFirst : List ServerEvent := emailThenSignal ++ serverSteps 2 2 ++ serverSteps 1 7

theorem clean_exit_drained_hookFirst :
    Runs.Along (Pool.step (ServerCall.program {})) ExitsDrained ServerPool.initial hookFirst :=
  clean_exit_drained {} hookFirst (by decide +kernel) (by decide +kernel) (by decide +kernel)

theorem clean_exit_not_drained_exitFirst :
    Runs.Along (Pool.step (ServerCall.program {})) CloseWaits ServerPool.initial exitFirst ∧
      Runs.Along (Pool.step (ServerCall.program {})) QueuesAnswer ServerPool.initial exitFirst ∧
      (ServerPool.initial.run (ServerCall.program {}) exitFirst).state.exitCode = some 0 ∧
      (ServerPool.initial.run (ServerCall.program {}) exitFirst).state.active .email = 1 ∧
      ¬ Runs.Along (Pool.step (ServerCall.program {})) ExitsDrained ServerPool.initial exitFirst :=
  ⟨by decide +kernel, by decide +kernel, by decide +kernel, by decide +kernel, by decide +kernel⟩

end BackendBoilerplate
